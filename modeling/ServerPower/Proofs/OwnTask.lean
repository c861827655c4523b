import ServerPower.Proofs.ChangeRequests
import ServerPower.Proofs.Merging
import ServerPower.Proofs.OwnSubmission

/-!
# The task of an attempt

The address that is recorded of a task comes from the manager's answer to the request for the
change, and no report of the task moves it. So the checks of an attempt ask for no task but the one
that its own submission was given, and only once that was recorded.
-/

namespace ServerPower.Proofs
open Run

/-- Others do not replace the task. -/
def KeepsTask : Action → Prop
  | .setTask _ => False
  | _ => True

/-- A request that is sent for the recorded task, which the manager gave for the current attempt
before. -/
structure AsksOwn (strict : Bool) (e : Entry) (request : Request) (earlier : List Entry) :
    Prop where
  followed : e.order.task.uri ≠ ""
  made : e.order.hardware.client.request "GET" (.text e.order.task.uri) .null = .ok request
  accepted : AcceptedAt strict e.order.attempt e.order.task.uri earlier

/-- The manager gave the recorded task for the current attempt, and the checks asked for tasks that
were given and recorded so. -/
structure Traced (strict : Bool) (order : PowerOrder) (entries : List Entry) : Prop where
  task : order.task.uri ≠ "" → AcceptedAt strict order.attempt order.task.uri entries
  checks : ∀ later e earlier, entries = later ++ e :: earlier → ∀ k request,
    e.event = .sent (.polling k) request → AsksOwn strict e request earlier

/-- Entries in which attempt `a` was given a task at `address` and no other one, and its checks
asked for no other task and only once that one was recorded. -/
structure Follows (strict : Bool) (a : Int) (address : String) (entries : List Entry) :
    Prop where
  only : ∀ other, AcceptedAt strict a other entries → other = address
  checks : ∀ later e earlier, entries = later ++ e :: earlier → ∀ request,
    e.event = .sent (.polling a) request →
      address ≠ "" ∧ e.order.task.uri = address ∧ AcceptedAt strict a address earlier ∧
      e.order.hardware.client.request "GET" (.text address) .null = .ok request

/-- No submission for attempt `a` but this one was run. -/
def OnlySubmission (a : Int) (number : Nat) (entries : List Entry) : Prop :=
  ∀ e ∈ entries, ∀ n, originOf? e.event = some (.submission n a) → n = number

def tracing (strict : Bool) (old : List Entry) : Law where
  holds s := Confined KeepsTask s.supply ∧ Since old (Traced strict s.order) s
  leads _ _ := True
  refl _ := trivial
  trans _ _ := trivial

section Entries

variable {strict : Bool} {a : Int} {address : String} {p q : PowerOrder} {e : Entry}
  {entries old : List Entry} {s : Scene}

lemma traced_nil (h : p.task.uri = "") : Traced strict p [] where
  task hu := absurd h hu
  checks later e earlier hsplit := by
    have hlength := congrArg List.length hsplit
    simp at hlength

lemma Traced.cons (h : Traced strict p entries)
    (he : ∀ k request, e.event = .sent (.polling k) request → AsksOwn strict e request entries) :
    Traced strict p (e :: entries) where
  task hu := (h.task hu).mono (List.subset_cons_self e entries)
  checks later e' earlier hsplit := by
    cases later with
    | nil =>
      obtain ⟨rfl, rfl⟩ := List.cons.inj hsplit
      exact he
    | cons first later => exact h.checks later e' earlier (List.cons.inj hsplit).2

lemma Traced.of_order (h : Traced strict p entries) (ha : q.attempt = p.attempt)
    (hu : q.task.uri = p.task.uri) : Traced strict q entries where
  task := by
    rw [ha, hu]
    exact h.task
  checks := h.checks

lemma Traced.of_none (h : Traced strict p entries) (hu : q.task.uri = "") :
    Traced strict q entries where
  task hne := absurd hu hne
  checks := h.checks

/-- A check of attempt `a`, in which alone the entries were noted, asks for a task given for it. -/
lemma Traced.asked {later earlier : List Entry} {request : Request} (h : Traced strict p entries)
    (hsame : ∀ e ∈ entries, e.order.attempt = a) (hsplit : entries = later ++ e :: earlier)
    (hsent : e.event = .sent (.polling a) request) :
    AsksOwn strict e request earlier ∧ AcceptedAt strict a e.order.task.uri earlier ∧
      AcceptedAt strict a e.order.task.uri entries := by
  have hown := h.checks later e earlier hsplit a request hsent
  have haccepted := hown.accepted
  rw [hsame e (by simp [hsplit])] at haccepted
  refine ⟨hown, haccepted, haccepted.mono fun told htold => ?_⟩
  rw [hsplit]
  exact List.mem_append_right _ (List.mem_cons_of_mem e htold)

/-- An attempt that was given one task at most follows that one. -/
lemma Traced.follows (h : Traced strict p entries) (hsame : ∀ e ∈ entries, e.order.attempt = a)
    (hunique : ∀ address other, AcceptedAt strict a address entries →
      AcceptedAt strict a other entries → other = address) :
    ∃ address, Follows strict a address entries := by
  by_cases hgiven : ∃ address, AcceptedAt strict a address entries
  · obtain ⟨address, haddress⟩ := hgiven
    refine ⟨address, fun other => hunique address other haddress, ?_⟩
    intro later e earlier hsplit request hsent
    obtain ⟨hown, haccepted, hknown⟩ := h.asked hsame hsplit hsent
    have huri := hunique address _ haddress hknown
    rw [huri] at haccepted
    exact ⟨huri ▸ hown.followed, huri, haccepted, huri ▸ hown.made⟩
  · refine ⟨"", fun other hother => absurd ⟨other, hother⟩ hgiven, ?_⟩
    intro later e earlier hsplit request hsent
    obtain ⟨-, -, hknown⟩ := h.asked hsame hsplit hsent
    exact absurd ⟨_, hknown⟩ hgiven

lemma Follows.unpolled (h : Follows strict a address entries)
    (hnone : AcceptedAt strict a "" entries) : Unpolled a entries := by
  have haddress : "" = address := h.only "" hnone
  intro e he request hsent
  obtain ⟨later, earlier, hsplit⟩ := List.append_of_mem he
  exact (h.checks later e earlier hsplit request hsent).1 haddress.symm

lemma Traced.noteTask {task : RemoteTask} (h : Traced strict p entries)
    (hgiven : AcceptedAt strict a task.uri entries) :
    Traced strict (p.noteTask a task) entries := by
  by_cases hcurrent : p.attempt = a
  · rw [PowerOrder.noteTask_of_current hcurrent]
    refine ⟨fun _ => ?_, h.checks⟩
    rw [hcurrent]
    exact hgiven
  · rw [PowerOrder.noteTask_of_not_current (PowerOrder.isCurrent_eq_false hcurrent)]
    exact h

lemma since_logged {P : List Entry → Prop} (h : Since old P s)
    (hp : ∀ e new, P new → P (e :: new)) (records : List Record) :
    Since old P (logged records s) := by
  induction records generalizing s with
  | nil => exact h
  | cons r records ih =>
    apply ih
    obtain ⟨new, hj, hnew⟩ := h
    exact ⟨⟨.logged r, s.order, s.phase⟩ :: new, by rw [Scene.journal_note, hj]; rfl,
      hp _ new hnew⟩

end Entries

section Steps

variable {strict : Bool} {old : List Entry} {setup : Setup} {hook : Hook} {depth : Nat}
  {s t : Scene} {attempt : Int}

lemma tracing_step (ht : ∀ new, Traced strict s.order new → Traced strict t.order new)
    (hj : t.journal = s.journal) (ha : t.supply.answers ⊆ s.supply.answers) :
    (tracing strict old).Step s t := by
  intro hs
  obtain ⟨new, hnew, htraced⟩ := hs.2
  exact ⟨⟨fun answer hm => hs.1 answer (ha hm), new, hj.trans hnew, ht new htraced⟩, trivial⟩

lemma tracing_onOrder {f : PowerOrder → PowerOrder}
    (ha : (f s.order).attempt = s.order.attempt)
    (hu : (f s.order).task.uri = s.order.task.uri) : (tracing strict old).Step s (s.onOrder f) :=
  tracing_step (fun _ h => h.of_order ha hu) rfl (List.Subset.refl _)

lemma tracing_still (ho : t.order = s.order) (hj : t.journal = s.journal)
    (hs : t.supply = s.supply) : (tracing strict old).Step s t := by
  refine tracing_step (fun new h => ?_) hj ?_
  · rw [ho]
    exact h
  · rw [hs]
    exact List.Subset.refl _

lemma tracing_note {event : Event} (h : ∀ new, Traced strict s.order new → ∀ k request,
    event = .sent (.polling k) request →
    AsksOwn strict ⟨event, s.order, s.phase⟩ request new) :
    (tracing strict old).Step s (s.note event) := by
  intro hs
  obtain ⟨new, hj, htraced⟩ := hs.2
  exact ⟨⟨hs.1, _ :: new, by rw [Scene.journal_note, hj]; rfl, htraced.cons (h new htraced)⟩,
    trivial⟩

lemma tracing_note_other {event : Event} (h : ∀ k request, event ≠ .sent (.polling k) request) :
    (tracing strict old).Step s (s.note event) :=
  tracing_note fun _ _ k request he => absurd he (h k request)

lemma tracing_remarks (strict : Bool) (old : List Entry) : (tracing strict old).Remarks := by
  intro s event he _
  refine tracing_note_other fun k request h => ?_
  rw [h] at he
  cases he

lemma tracing_markDone (s : Scene) (failure? : Option Failure) (attempt? : Option Int) :
    (tracing strict old).Step s (s.onOrder (·.markDone failure? attempt?)) :=
  tracing_onOrder (by simp) (by simp)

lemma tracing_reset (s : Scene) : (tracing strict old).Step s (s.onOrder PowerOrder.reset) :=
  tracing_step (fun _ h => h.of_none rfl) rfl (List.Subset.refl _)

lemma tracing_carries (hh : (tracing strict old).Hosts KeepsTask setup hook) (origin : Origin) :
    (tracing strict old).Carries hook origin where
  total := hh.total
  remarks := tracing_remarks strict old
  flown s request := hh.step_inFlight
    (tracing_step (fun _ h => h) rfl (answers_next_subset request s.supply))
    (fun hs => hs.1.during request)
  answered _ _ _ := tracing_note_other fun _ _ h => nomatch h
  forgot _ := tracing_onOrder rfl rfl
  hardware s attempt? latest _ := tracing_onOrder (by simp) (by simp)
  progress s attempt? task := tracing_onOrder (by simp) (Level.noteProgress _ _ _).uri

/-- The task that a submission records is the one that the manager just gave for its attempt. -/
lemma tracing_readChange (hh : (tracing setup.strict old).Hosts KeepsTask setup hook) (number : Nat)
    (client : Client) (uri : String) (target : PowerState) (s : Scene) :
    let r := (call setup hook (.submission number attempt) client "PUT" (.text uri)
      (changeBody target)).run s
    (tracing setup.strict old).Step s (readChange setup.strict uri attempt r.1 r.2).2 := by
  have hcarries := tracing_carries hh (.submission number attempt)
  have hremarks := tracing_remarks setup.strict old
  have hended : ∀ u failure?, (tracing setup.strict old).Step u
      (u.onOrder (·.markDone failure? (some attempt))) :=
    fun u failure? => tracing_markDone u failure? (some attempt)
  have hsent : ∀ request, client.request "PUT" (.text uri) (changeBody target) = .ok request →
      (tracing setup.strict old).Step s (s.note (.sent (.submission number attempt) request)) :=
    fun _ _ => tracing_note_other fun _ _ h => nomatch h
  have hcall := hcarries.step_call hsent setup
  dsimp only
  rcases hc : (call setup hook (.submission number attempt) client "PUT" (.text uri)
    (changeBody target)).run s with ⟨failure | body, t⟩
  · rw [hc] at hcall
    dsimp only [readChange]
    split
    · exact hcall.trans (Law.step_gaveUp hremarks hended _ _ _)
    · exact hcall
  · rw [hc] at hcall
    let read := Client.readTask setup.strict (.text uri) body {}
    have hlogged := hcall.trans (hremarks.step_logged read.records t)
    dsimp only [readChange]
    cases hread : (Client.readTask setup.strict (.text uri) body {}).outcome with
    | error failure =>
      dsimp only
      split
      · exact hlogged.trans (Law.step_gaveUp hremarks hended _ failure _)
      · exact hlogged
    | ok task =>
      dsimp only
      obtain ⟨request, u, hrequest, hu, rfl⟩ := hcarries.told_of_call hsent hc
      let told := Event.answered (.submission number attempt) request (.ok body)
      have hput : request.method = "PUT" := (Client.of_request_eq_ok hrequest).1
      intro hs
      obtain ⟨hconfined, hkept⟩ := (hlogged hs).1
      have hnoted : Since old (AcceptedAt setup.strict attempt task.uri) (u.note told) := by
        obtain ⟨new, hj, -⟩ := (hu hs).1.2
        refine ⟨⟨told, u.order, u.phase⟩ :: new, by rw [Scene.journal_note, hj]; rfl, ?_⟩
        exact ⟨_, List.mem_cons_self .., number, request, body, .text uri, task, rfl, hput, hread,
          rfl⟩
      have hgiven := since_logged hnoted (fun e new h => h.mono (List.subset_cons_self e new))
        read.records
      obtain ⟨new, hj, htraced, haccepted⟩ := hkept.and hgiven
      exact ⟨⟨hconfined, new, hj, htraced.noteTask haccepted⟩, trivial⟩

lemma tracing_submit (hh : (tracing setup.strict old).Hosts KeepsTask setup hook)
    (target : PowerState) (attempt? : Option Int) (s : Scene) :
    (tracing setup.strict old).Step s ((submit setup hook target attempt?).run s).2 := by
  have hremarks := tracing_remarks setup.strict old
  apply Law.step_submit hremarks (fun _ => tracing_still rfl rfl rfl)
    (fun u failure? => tracing_markDone u failure? _)
  · apply (tracing_carries hh _).step_observe
    exact fun _ _ _ => tracing_note_other fun _ _ h => nomatch h
  · intro state t attempt _ _
    apply hremarks.step_requestChange
    intro uri _
    exact tracing_readChange hh _ _ uri target _

lemma tracing_stage
    (hh : (tracing setup.strict old).Hosts KeepsTask setup (hookAt setup depth)) :
    (tracing setup.strict old).Stage (fun _ => True) KeepsTask setup depth := by
  have hquery : ∀ s request, (tracing setup.strict old).Step s (s.note (.sent .query request)) :=
    fun s request => tracing_note_other fun _ _ h => nomatch h
  have hparts : (tracing setup.strict old).Parts (fun _ => True) setup (hookAt setup depth) :=
    { total := hh.total
      remarks := tracing_remarks setup.strict old
      waited := fun _ _ => tracing_note_other fun _ _ h => nomatch h
      paused := fun _ _ _ _ => tracing_note_other fun _ _ h => nomatch h
      observes := fun attempt? s => (tracing_carries hh .query).step_observe
        (fun _ request _ => hquery s request) setup attempt?
      refreshes := fun attempt? s => (tracing_carries hh .query).step_refresh
        (fun _ request _ => hquery s request) setup attempt?
      checks := fun s attempt _ _ => by
        -- A check asks for the recorded task, which is one that was given.
        refine (tracing_carries hh (.polling attempt)).step_refresh (fun hexists request hr => ?_)
          setup (some attempt)
        apply tracing_note
        intro new htraced k request' he
        cases he
        have hne : s.order.task.uri ≠ "" := by simpa [RemoteTask.exists?] using hexists
        exact ⟨hne, hr, htraced.task hne⟩
      submits := fun s target attempt? _ => tracing_submit hh target attempt? s
      ended := fun s failure? attempt _ => tracing_markDone s failure? (some attempt) }
  exact ⟨hh, hparts, hparts.step_afterDue (fun _ _ _ _ => trivial)
    (fun _ _ _ _ => tracing_still rfl rfl rfl)⟩

lemma tracing_launches (strict : Bool) (old : List Entry) : (tracing strict old).Launches where
  begun := tracing_reset
  entered _ _ := tracing_still rfl rfl rfl
  queued _ _ _ := tracing_still rfl rfl rfl

theorem tracing_reigns (setup : Setup) (old : List Entry) :
    (tracing setup.strict old).Reigns (fun _ => True) KeepsTask setup where
  stage _ hh := tracing_stage hh
  bears s action ha := by
    cases action with
    | setTask _ => exact ha.elim
    | reset => exact tracing_reset s
    | markDone _ attempt? => exact fun failure? => tracing_markDone s failure? attempt?
    | submit _ _ => exact fun _ => trivial
    | cancel | setHardware _ | setTiming _ _ => exact tracing_onOrder rfl rfl
    | setMoment _ | close _ | executeOnce _ => exact tracing_still rfl rfl rfl
    | wait _ | observe _ | refresh _ | execute _ | look => trivial
  handed s _ := (tracing_reset s).trans (tracing_note_other fun _ _ h => nomatch h)
  executes _ target hh _ :=
    (tracing_stage hh).keeps_execute (tracing_launches setup.strict old) target

end Steps

/-- An attempt with one submission is given one task at most. -/
lemma acceptedAt_unique {setup : Setup} {strict : Bool} {a : Int} {number : Nat} {s t : Scene}
    {new : List Entry} {address other : String} (hs : Counted s)
    (hcounts : (counting setup).Step s t) (hj : t.journal = new ++ s.journal)
    (hone : OnlySubmission a number new) (h : AcceptedAt strict a address new)
    (h' : AcceptedAt strict a other new) : other = address := by
  obtain ⟨e, he, n, request, body, uri, task, hevent, hput, hread, rfl⟩ := h
  obtain ⟨e', he', n', request', body', uri', task', hevent', hput', hread', rfl⟩ := h'
  have hn : n = number := hone e he n (by rw [hevent]; rfl)
  have hn' : n' = number := hone e' he' n' (by rw [hevent']; rfl)
  have hown : submissionOf? e.event = some number := by simp [submissionOf?, originOf?, hevent, hn]
  have hown' : submissionOf? e'.event = some number := by
    simp [submissionOf?, originOf?, hevent', hn']
  obtain ⟨target, origin, hconducted⟩ := conducted_of_mem hs hcounts hj he hown
  have hmem : ∀ e ∈ new, submissionOf? e.event = some number →
      e.event ∈ traces number t.journal := by
    intro e he hown
    exact mem_traces (by rw [hj]; exact List.mem_append_left _ he) hown
  have htold := hmem e he hown
  have htold' := hmem e' he' hown'
  rw [hevent] at htold
  rw [hevent'] at htold'
  have hsame := hconducted.answer_unique htold hput htold' hput'
  cases hsame
  rw [readTask_unique hread hread']

/-- While an execution runs and no other attempt is begun, nobody replaces the task and its attempt
has no second submission, every check asks for the task that the attempt's own submission was given,
after that was recorded; if it was given a task without an address, nothing is asked for. -/
theorem checks_follow_own_task {setup : Setup} {depth : Nat} {target : PowerState} {s t : Scene}
    {result : Except Failure PowerResult} (ht : target ∈ PowerState.targets) (hs : Counted s)
    (hwaits : ∀ number, ∀ action ∈ setup.duringWait number, KeepsTask action)
    (hanswers : ∀ answer ∈ s.supply.answers, ∀ action ∈ answer.during, KeepsTask action)
    (hr : (execute setup (hookAt setup depth) target).run s = (result, t))
    (hattempt : t.order.attempt = s.order.attempt + 1) :
    let a := s.order.attempt + 1
    ∃ new, t.journal = new ++ s.journal ∧ ∀ number, OnlySubmission a number new →
      (∃ address, Follows setup.strict a address new) ∧
      (AcceptedAt setup.strict a "" new → Unpolled a new) := by
  intro a
  have htraced : (tracing setup.strict s.journal).Step (attemptBegun s) t := by
    have hh := (tracing_reigns setup s.journal).hosts_hookAt hwaits depth
    have h := (tracing_stage hh).step_begun (tracing_launches _ _) ht s
    rwa [hr] at h
  have hcounts : (counting setup).Step (attemptBegun s) t := by
    have hh := (counting_reigns setup).hosts_hookAt (fun _ _ _ => trivial) depth
    have h := (counting_stage hh).step_begun (counting_launches setup) ht s
    rwa [hr] at h
  have hadvances : Advances (attemptBegun s) t := by
    have h := advances_of_execute setup depth ht s
    rwa [hr] at h
  have hbegun : (tracing setup.strict s.journal).holds (attemptBegun s) :=
    ⟨hanswers, [], rfl, traced_nil rfl⟩
  have hcounted : Counted (attemptBegun s) := ⟨hs.fresh, hs.owned⟩
  obtain ⟨new, hj, hchecks⟩ := (htraced hbegun).1.2
  have hsame : ∀ e ∈ new, e.order.attempt = a := hadvances.attempt_of_mem hattempt hj
  refine ⟨new, hj, fun number hone => ?_⟩
  have hunique : ∀ address other, AcceptedAt setup.strict a address new →
      AcceptedAt setup.strict a other new → other = address :=
    fun address other => acceptedAt_unique hcounted hcounts hj hone
  obtain ⟨address, hfollows⟩ := hchecks.follows hsame hunique
  exact ⟨⟨address, hfollows⟩, hfollows.unpolled⟩

/-- The blade is off. The manager gives the task `/t` for the change, and names another one when it
is asked for the first time. -/
def misnamingBlade : Scene :=
  bladeScene
    [{ content := .reply 200 "OK" "\x7b\"uri\": \"/b\", \"powerState\": \"Off\"\x7d" },
      { content := .reply 202 "Accepted" "\x7b\"uri\": \"/t\"\x7d" },
      { content := .reply 200 "OK" "\x7b\"uri\": \"/other\"\x7d" },
      { content := .reply 200 "OK" "\x7b\"taskState\": \"Completed\"\x7d" }]

/-- The other task is not asked for. -/
theorem checks_follow_own_task_misnamingBlade :
    let r := (execute calm (hookAt calm 0) .on).run misnamingBlade
    (sentRequests r.2).map (·.url) = ["https://ov.example/rest/server-hardware/1",
      "https://ov.example/b/powerState", "https://ov.example/t", "https://ov.example/t"] ∧
    ∃ address, Follows calm.strict 1 address r.2.journal := by
  refine ⟨by decide +kernel, ?_⟩
  have ht : PowerState.on ∈ PowerState.targets := by decide
  have hcounted : Counted misnamingBlade := ⟨fun _ _ => rfl, fun e he => nomatch he⟩
  have hanswers : ∀ answer ∈ misnamingBlade.supply.answers, ∀ action ∈ answer.during,
      KeepsTask action := by
    simp [misnamingBlade, bladeScene, Supply.answers]
  have hattempt : ((execute calm (hookAt calm 0) .on).run misnamingBlade).2.order.attempt =
      misnamingBlade.order.attempt + 1 := by decide +kernel
  have hnumbers : ∀ e ∈ ((execute calm (hookAt calm 0) .on).run misnamingBlade).2.journal,
      (submissionOf? e.event).getD 0 = 0 := by decide +kernel
  have hwaits : ∀ number, ∀ action ∈ calm.duringWait number, KeepsTask action :=
    calm_duringWait KeepsTask
  obtain ⟨new, hj, hfollows⟩ := checks_follow_own_task ht hcounted hwaits hanswers
    (Prod.eta _).symm hattempt
  have hnew : new = ((execute calm (hookAt calm 0) .on).run misnamingBlade).2.journal := by
    rw [hj]
    exact (List.append_nil new).symm
  have hone : OnlySubmission 1 0 new := by
    intro e he n ho
    have hzero := hnumbers e (hnew ▸ he)
    simpa [submissionOf?, ho] using hzero
  rw [← hnew]
  exact (hfollows 0 hone).1

end ServerPower.Proofs
