import ServerPower.Proofs.Steps

/-!
# Laws of runs

A law is an invariant of scenes together with a relation between a scene and the later ones. Whether
a run obeys a law depends on its elementary steps only, so what is shown of the elementary steps
holds of every query, submission, wait and action, however deeply the actions of others are nested.
-/

namespace ServerPower.Proofs
open Run

/-- The origins of calls on behalf of attempts that satisfy `may`, and of calls for no attempt. -/
def Within (may : Int → Prop) : Origin → Prop
  | .submission _ attempt | .polling attempt => may attempt
  | .query => True

/-- The origins of calls on behalf of no submission. -/
def Watches : Origin → Prop
  | .submission _ _ => False
  | _ => True

def originOf? : Event → Option Origin
  | .sent origin _ | .answered origin _ _ | .waited origin _ => some origin
  | _ => none

/-- The number of the attempt that an action handed out. -/
def handedOut? : Event → Option Int
  | .acted (.ok (.attempt number)) => some number
  | _ => none

/-- What a request is sent for, as the order stands then: its hardware, its task, or a change that a
submission asks for. -/
inductive Asks (order : PowerOrder) : Origin → Request → Prop
  | hardware {origin : Origin} {request : Request} (given : order.hardware.hardware.uri.isGiven)
      (made : order.hardware.client.request "GET" order.hardware.hardware.uri .null = .ok request) :
      Asks order origin request
  | task {origin : Origin} {request : Request} (followed : order.task.exists?)
      (made : order.hardware.client.request "GET" (.text order.task.uri) .null = .ok request) :
      Asks order origin request
  | change {number : Nat} {attempt : Int} {target : PowerState} {uri : String} {request : Request}
      (address : order.hardware.hardware.powerUri = .ok uri)
      (made : order.hardware.client.request "PUT" (.text uri) (changeBody target) = .ok request) :
      Asks order (.submission number attempt) request

/-- An event that may be noted where an order stands so: it has an origin within `may`, or none, and
a request is sent for something that the order holds. -/
structure Fits (may : Int → Prop) (order : PowerOrder) (event : Event) : Prop where
  within : ∀ origin, originOf? event = some origin → Within may origin
  asks : ∀ origin request, event = .sent origin request → Asks order origin request

lemma fits_of_no_origin {may : Int → Prop} {order : PowerOrder} {event : Event}
    (h : originOf? event = none) : Fits may order event := by
  refine ⟨fun origin ho => ?_, fun origin request he => ?_⟩
  · rw [h] at ho
    cases ho
  · rw [he] at h
    cases h

lemma fits_of_within {may : Int → Prop} {order : PowerOrder} {event : Event} {origin : Origin}
    (hw : Within may origin) (he : originOf? event = some origin)
    (ha : ∀ request, event = .sent origin request → Asks order origin request) :
    Fits may order event := by
  refine ⟨fun origin' ho => ?_, fun origin' request hs => ?_⟩
  · rw [he, Option.some.injEq] at ho
    exact ho ▸ hw
  · rw [hs, originOf?, Option.some.injEq] at he
    subst he
    exact ha request hs

/-- An invariant of scenes, and how a scene may lead to another. -/
structure Law where
  holds : Scene → Prop
  leads : Scene → Scene → Prop
  refl : ∀ s, leads s s
  trans : ∀ {s t u}, leads s t → leads t u → leads s u

namespace Law

variable {α β : Type} {L : Law} {s t u : Scene}

/-- Where the law holds of a scene, it still holds of the other one, to which the scene leads. -/
def Step (L : Law) (s t : Scene) : Prop :=
  L.holds s → L.holds t ∧ L.leads s t

def Keeps (L : Law) (run : Run α) : Prop :=
  ∀ s, L.Step s (run.run s).2

lemma Step.refl (L : Law) (s : Scene) : L.Step s s :=
  fun h => ⟨h, L.refl s⟩

lemma Step.trans (h1 : L.Step s t) (h2 : L.Step t u) : L.Step s u := by
  intro h
  obtain ⟨ht, hst⟩ := h1 h
  obtain ⟨hu, htu⟩ := h2 ht
  exact ⟨hu, L.trans hst htu⟩

lemma keeps_pure (a : α) : L.Keeps (pure a) :=
  fun s => Step.refl L s

lemma keeps_ofExcept (outcome : Except Failure α) : L.Keeps (Run.ofExcept outcome) := by
  intro s
  rw [run_ofExcept]
  exact Step.refl L s

lemma step_bind {run : Run α} {next : α → Run β} (h : L.Step s (run.run s).2)
    (hn : ∀ a t, run.run s = (.ok a, t) → L.Step t ((next a).run t).2) :
    L.Step s ((run >>= next).run s).2 := by
  rw [run_bind]
  rcases hr : run.run s with ⟨failure | a, t⟩
  · rwa [hr] at h
  · rw [hr] at h
    exact h.trans (hn a t hr)

lemma keeps_bind {run : Run α} {next : α → Run β} (h : L.Keeps run)
    (hn : ∀ a, L.Keeps (next a)) : L.Keeps (run >>= next) :=
  fun s => step_bind (h s) (fun a t _ => hn a t)

lemma keeps_outcome {run : Run α} (h : L.Keeps run) : L.Keeps (outcome run) := by
  intro s
  rw [run_outcome]
  exact h s

lemma keeps_forM {l : List α} {f : α → Run PUnit} (h : ∀ a ∈ l, L.Keeps (f a)) :
    L.Keeps (l.forM f) := by
  induction l with
  | nil => exact keeps_pure _
  | cons a l ih =>
    apply keeps_bind (h a (by simp))
    intro _
    exact ih (fun b hb => h b (by simp [hb]))

/-- Hardware as the manager described it, in answer to a query that was sent in a lawful scene for
the hardware which the order held there. -/
def Found (L : Law) (t : Scene) (latest : ManagedHardware) : Prop :=
  ∃ s origin request body, L.holds s ∧ L.leads (s.note (.sent origin request)) t ∧
    s.order.hardware.hardware.uri.isGiven ∧
    s.order.hardware.client.request "GET" s.order.hardware.hardware.uri .null = .ok request ∧
    (∃ e ∈ t.journal, e.event = .answered origin request (.ok body)) ∧
    Describes body latest.hardware ∧ latest.client = s.order.hardware.client

/-- What is noted for nobody and hands out nothing obeys the law. -/
def Remarks (L : Law) : Prop :=
  ∀ s event, originOf? event = none → handedOut? event = none → L.Step s (s.note event)

/-- Answers are taken, submissions counted and orders updated according to the law. -/
structure Updates (L : Law) (may : Int → Prop) : Prop where
  supplied : ∀ s request, L.Step s { s with supply := (s.supply.next request).2 }
  counted : ∀ s, L.Step s { s with submissions := s.submissions + 1 }
  forgot : ∀ s, L.Step s (s.onOrder ({ · with observed := .unknown }))
  progress : ∀ s attempt? task, L.Step s (s.onOrder (·.noteProgress attempt? task))
  ended : ∀ s failure? attempt, may attempt →
    L.Step s (s.onOrder (·.markDone failure? (some attempt)))
  task : ∀ s attempt task, may attempt → L.Step s (s.onOrder (·.noteTask attempt task))

/-- The elementary steps of queries, and of submissions for attempts that satisfy `may`, obey the
law. -/
structure Admits (L : Law) (may : Int → Prop) : Prop extends Updates L may where
  noted : ∀ s event, Fits may s.order event → L.Step s (s.note event)
  hardware : ∀ s attempt? latest, L.Found s latest →
    L.Step s (s.onOrder (·.noteHardware attempt? latest (classified latest.hardware)))

/-- The elementary steps obey the law whatever requests ask for and answers say. -/
structure AdmitsAny (L : Law) (may : Int → Prop) : Prop extends Updates L may where
  noted : ∀ s event, (∀ origin, originOf? event = some origin → Within may origin) →
    L.Step s (s.note event)
  hardware : ∀ s attempt? hardware state,
    L.Step s (s.onOrder (·.noteHardware attempt? hardware state))

/-- What others do during a run obeys the law. -/
structure Hosts (L : Law) (allows : Action → Prop) (setup : Setup) (hook : Hook) : Prop where
  total : Total hook
  keeps : ∀ actions, (∀ action ∈ actions, allows action) → L.Keeps (hook actions)
  waits : ∀ number, ∀ action ∈ setup.duringWait number, allows action

/-- Queries, and submissions for attempts that satisfy `may`, obey the law where the others do what
`allows` says. -/
structure Serves (L : Law) (may : Int → Prop) (allows : Action → Prop) : Prop
    extends Admits L may where
  during : ∀ s request, L.holds s →
    ∀ action ∈ (s.supply.next request).1.during, allows action

section Calls

variable {may : Int → Prop} {allows : Action → Prop} {setup : Setup} {hook : Hook}
  {origin : Origin}

lemma AdmitsAny.of_step {M : Law} (h : M.AdmitsAny may) (hs : ∀ s t, M.Step s t → L.Step s t) :
    L.AdmitsAny may where
  noted s event he := hs _ _ (h.noted s event he)
  supplied s request := hs _ _ (h.supplied s request)
  counted s := hs _ _ (h.counted s)
  forgot s := hs _ _ (h.forgot s)
  hardware s attempt? hardware state := hs _ _ (h.hardware s attempt? hardware state)
  progress s attempt? task := hs _ _ (h.progress s attempt? task)
  ended s failure? attempt ha := hs _ _ (h.ended s failure? attempt ha)
  task s attempt task ha := hs _ _ (h.task s attempt task ha)

lemma AdmitsAny.admits (h : L.AdmitsAny may) : L.Admits may where
  toUpdates := h.toUpdates
  noted s event he := h.noted s event he.within
  hardware s attempt? latest _ := h.hardware s attempt? latest (classified latest.hardware)

lemma Remarks.step_log (h : L.Remarks) (s : Scene) (r : Record) : L.Step s (s.note (.logged r)) :=
  h s _ rfl rfl

lemma Remarks.step_logged (h : L.Remarks) (records : List Record) (s : Scene) :
    L.Step s (logged records s) := by
  induction records generalizing s with
  | nil => exact Step.refl L s
  | cons r records ih => exact (h.step_log s r).trans (ih _)

lemma Remarks.keeps_ofReport (h : L.Remarks) (report : Report α) : L.Keeps (ofReport report) := by
  intro s
  rw [run_ofReport]
  exact h.step_logged report.records s

lemma Admits.remarks (h : L.Admits may) : L.Remarks :=
  fun s _ he _ => h.noted s _ (fits_of_no_origin he)

lemma Admits.step_log (h : L.Admits may) (s : Scene) (r : Record) : L.Step s (s.note (.logged r)) :=
  h.remarks.step_log s r

lemma Admits.step_logged (h : L.Admits may) (records : List Record) (s : Scene) :
    L.Step s (logged records s) :=
  h.remarks.step_logged records s

lemma Hosts.step_inFlight (hh : L.Hosts allows setup hook) {request : Request} {s : Scene}
    (ht : L.Step s { s with supply := (s.supply.next request).2 })
    (hd : L.holds s → ∀ action ∈ (s.supply.next request).1.during, allows action) :
    L.Step s (inFlight hook request s) := by
  intro hs
  exact (ht.trans (hh.keeps _ (hd hs) _)) hs

lemma Serves.step_inFlight (h : L.Serves may allows) (hh : L.Hosts allows setup hook)
    (request : Request) (s : Scene) : L.Step s (inFlight hook request s) :=
  hh.step_inFlight (h.supplied s request) (h.during s request)

/-- What follows in a call on behalf of `origin` once its request was sent obeys the law, and so
does what queries make of the answer. -/
structure Carries (L : Law) (hook : Hook) (origin : Origin) : Prop where
  total : Total hook
  remarks : L.Remarks
  flown : ∀ s request, L.Step s (inFlight hook request s)
  answered : ∀ s request outcome, L.Step s (s.note (.answered origin request outcome))
  forgot : ∀ s, L.Step s (s.onOrder ({ · with observed := .unknown }))
  hardware : ∀ s attempt? latest, L.Found s latest →
    L.Step s (s.onOrder (·.noteHardware attempt? latest (classified latest.hardware)))
  progress : ∀ s attempt? task, L.Step s (s.onOrder (·.noteProgress attempt? task))

lemma Serves.carries (h : L.Serves may allows) (hh : L.Hosts allows setup hook)
    (hw : Within may origin) : L.Carries hook origin where
  total := hh.total
  remarks := h.remarks
  flown s request := h.step_inFlight hh request s
  answered s _ _ := h.noted s _ (fits_of_within hw rfl (fun _ he => nomatch he))
  forgot := h.forgot
  hardware := h.hardware
  progress := h.progress

lemma Serves.step_asked (h : L.Serves may allows) (hw : Within may origin) {s : Scene}
    {request : Request} (ha : Asks s.order origin request) :
    L.Step s (s.note (.sent origin request)) :=
  h.noted s _ (fits_of_within hw rfl (fun _ he => by cases he; exact ha))

/-- What follows in a call after its request was sent obeys the law. -/
lemma Carries.step_sent (h : L.Carries hook origin) {client : Client} {method : String}
    {uri body : Json} {request : Request} (hr : client.request method uri body = .ok request)
    (setup : Setup) (s : Scene) :
    L.Step (s.note (.sent origin request))
      ((call setup hook origin client method uri body).run s).2 := by
  rw [run_call h.total, hr]
  have hleft := h.flown (s.note (.sent origin request)) request
  have hread := hleft.trans (h.remarks.step_logged
    (readAnswer setup.strict method uri request (s.supply.next request).1).records _)
  exact hread.trans (h.answered _ _ _)

lemma Carries.step_call (h : L.Carries hook origin) {client : Client} {method : String}
    {uri body : Json} {s : Scene}
    (hs : ∀ request, client.request method uri body = .ok request →
      L.Step s (s.note (.sent origin request))) (setup : Setup) :
    L.Step s ((call setup hook origin client method uri body).run s).2 := by
  cases hr : client.request method uri body with
  | error failure =>
    rw [run_call h.total, hr]
    exact Step.refl L s
  | ok request => exact (hs request hr).trans (h.step_sent hr setup s)

/-- Up to the moment when the answer of a call is noted the call obeys the law. -/
lemma Carries.told_of_call (h : L.Carries hook origin) {client : Client} {method : String}
    {uri body : Json} {answer : String} {s t : Scene}
    (hs : ∀ request, client.request method uri body = .ok request →
      L.Step s (s.note (.sent origin request)))
    (hc : (call setup hook origin client method uri body).run s = (.ok answer, t)) :
    ∃ request u, client.request method uri body = .ok request ∧ L.Step s u ∧
      t = u.note (.answered origin request (.ok answer)) := by
  rw [run_call h.total] at hc
  cases hr : client.request method uri body with
  | error failure =>
    rw [hr] at hc
    cases hc
  | ok request =>
    rw [hr] at hc
    dsimp only at hc
    obtain ⟨ho, rfl⟩ := Prod.mk.inj hc
    have hread := (h.flown (s.note (.sent origin request)) request).trans (h.remarks.step_logged
      (readAnswer setup.strict method uri request (s.supply.next request).1).records _)
    exact ⟨request, _, rfl, (hs request hr).trans hread, by rw [ho]⟩

lemma Carries.step_observe (h : L.Carries hook origin) {s : Scene}
    (hs : s.order.hardware.hardware.uri.isGiven → ∀ request,
      s.order.hardware.client.request "GET" s.order.hardware.hardware.uri .null = .ok request →
      L.Step s (s.note (.sent origin request))) (setup : Setup) (attempt? : Option Int) :
    L.Step s ((observe setup hook origin attempt?).run s).2 := by
  rw [run_observe]
  dsimp only
  split
  · rename_i hu
    have hc := h.step_call (hs hu) setup
    rcases hr : (call setup hook origin _ "GET" _ Json.null).run s with ⟨failure | body, t⟩
    · rwa [hr] at hc
    · let found := Client.readHardware setup.strict s.order.hardware.hardware.uri body
      have hread := h.remarks.step_logged found.records t
      obtain ⟨request, rest, hq, hj⟩ := journal_of_call_eq_ok h.total hr
      have hsent := h.step_sent hq setup s
      rw [hr] at hc hsent
      dsimp only
      cases hf : (Client.readHardware setup.strict s.order.hardware.hardware.uri body).outcome with
      | error failure => exact hc.trans hread
      | ok latest =>
        have hlogs := hread.trans (h.remarks.step_logged latest.classify.records _)
        intro hlaw
        have hpath := (hsent.trans hlogs) (hs hu request hq hlaw).1
        have hlatest : L.Found (logged latest.classify.records (logged found.records t))
            ⟨latest, s.order.hardware.client⟩ :=
          ⟨s, origin, request, body, hlaw, hpath.2, hu, hq,
            ⟨_, mem_journal_logged _ (mem_journal_logged _ (hj ▸ List.mem_cons_self ..)), rfl⟩,
            describes_of_readHardware hf, rfl⟩
        exact ((hc.trans hlogs).trans (h.hardware _ attempt? _ hlatest)) hlaw
  · exact (h.forgot s).trans (h.remarks.step_logged _ _)

lemma Serves.keeps_observe (h : L.Serves may allows) (hh : L.Hosts allows setup hook)
    (hw : Within may origin) (attempt? : Option Int) :
    L.Keeps (observe setup hook origin attempt?) :=
  fun _ => (h.carries hh hw).step_observe
    (fun hu _ hq => h.step_asked hw (.hardware hu hq)) setup attempt?

/-- What a refresh does once its call has ended obeys the law. -/
lemma step_refreshed (h : L.Remarks)
    (hp : ∀ s attempt? task, L.Step s (s.onOrder (·.noteProgress attempt? task))) {s : Scene}
    (ht : s.order.task.exists?) (setup : Setup) (hook : Hook) (origin : Origin)
    (attempt? : Option Int) :
    L.Step ((call setup hook origin s.order.hardware.client "GET" (.text s.order.task.uri)
        .null).run s).2
      ((refresh setup hook origin attempt?).run s).2 := by
  rw [run_refresh]
  dsimp only
  rw [if_pos ht]
  rcases (call setup hook origin _ "GET" _ Json.null).run s with ⟨failure | body, t⟩
  · exact Step.refl L t
  · have hread := h.step_logged
      (Client.readTask setup.strict (.text s.order.task.uri) body s.order.task).records t
    dsimp only
    cases (Client.readTask setup.strict (.text s.order.task.uri) body s.order.task).outcome with
    | error failure => exact hread
    | ok latest => exact hread.trans (hp _ attempt? latest)

/-- Where there is no task to ask for, a refresh does nothing. -/
lemma step_refresh_of_no_task {s : Scene} (ht : ¬ s.order.task.exists?) (setup : Setup)
    (hook : Hook) (origin : Origin) (attempt? : Option Int) :
    L.Step s ((refresh setup hook origin attempt?).run s).2 := by
  rw [refresh_of_no_task setup hook origin attempt? (by simpa using ht)]
  exact Step.refl L s

lemma Carries.step_refresh (h : L.Carries hook origin) {s : Scene}
    (hs : s.order.task.exists? → ∀ request,
      s.order.hardware.client.request "GET" (.text s.order.task.uri) .null = .ok request →
      L.Step s (s.note (.sent origin request))) (setup : Setup) (attempt? : Option Int) :
    L.Step s ((refresh setup hook origin attempt?).run s).2 := by
  by_cases ht : s.order.task.exists?
  · exact (h.step_call (hs ht) setup).trans
      (step_refreshed h.remarks h.progress ht setup hook origin attempt?)
  · exact step_refresh_of_no_task ht setup hook origin attempt?

lemma Serves.keeps_refresh (h : L.Serves may allows) (hh : L.Hosts allows setup hook)
    (hw : Within may origin) (attempt? : Option Int) :
    L.Keeps (refresh setup hook origin attempt?) :=
  fun _ => (h.carries hh hw).step_refresh (fun ht _ hq => h.step_asked hw (.task ht hq)) setup
    attempt?

end Calls

section Submissions

variable {may : Int → Prop} {allows : Action → Prop} {setup : Setup} {hook : Hook}
  {attempt : Int}

/-- What comes of a submission for an attempt obeys the law. -/
structure Decides (L : Law) (attempt : Int) : Prop where
  ended : ∀ s failure?, L.Step s (s.onOrder (·.markDone failure? (some attempt)))
  task : ∀ s task, L.Step s (s.onOrder (·.noteTask attempt task))

lemma Admits.decides (h : L.Admits may) (ha : may attempt) : L.Decides attempt where
  ended s failure? := h.ended s failure? attempt ha
  task s task := h.task s attempt task ha

lemma step_gaveUp (h : L.Remarks)
    (he : ∀ s failure?, L.Step s (s.onOrder (·.markDone failure? (some attempt))))
    (message : String) (failure : Failure) (s : Scene) :
    L.Step s (gaveUp attempt message failure s) :=
  (h.step_log s _).trans (he _ _)

lemma step_readChange (h : L.Remarks) (hd : L.Decides attempt) (strict : Bool) (uri : String)
    (outcome : Except Failure String) (s : Scene) :
    L.Step s (readChange strict uri attempt outcome s).2 := by
  cases outcome with
  | error failure =>
    dsimp only [readChange]
    split
    · exact step_gaveUp h hd.ended _ _ _
    · exact Step.refl L s
  | ok body =>
    have hread := h.step_logged (Client.readTask strict (.text uri) body {}).records s
    dsimp only [readChange]
    cases (Client.readTask strict (.text uri) body {}).outcome with
    | error failure =>
      dsimp only
      split
      · exact hread.trans (step_gaveUp h hd.ended _ failure _)
      · exact hread
    | ok task => exact hread.trans (hd.task _ task)

/-- A request for a change obeys the law if its call does, with what is made of the answer. -/
lemma Remarks.step_requestChange (h : L.Remarks) {origin : Origin} {s : Scene}
    {target : PowerState}
    (hr : ∀ uri, s.order.hardware.hardware.powerUri = .ok uri →
      let begun := s.note (.logged (announcement target s.order.hardware.hardware))
      let r := (call setup hook origin s.order.hardware.client "PUT" (.text uri)
        (changeBody target)).run begun
      L.Step begun (readChange setup.strict uri attempt r.1 r.2).2) :
    L.Step s ((requestChange setup hook origin target attempt).run s).2 := by
  have hbegun := h.step_log s (announcement target s.order.hardware.hardware)
  rw [run_requestChange_eq_readChange]
  dsimp only
  cases hu : s.order.hardware.hardware.powerUri with
  | error failure => exact hbegun
  | ok uri => exact hbegun.trans (hr uri hu)

lemma Carries.step_requestChange {number : Nat} (h : L.Carries hook (.submission number attempt))
    (hd : L.Decides attempt) {s : Scene} {target : PowerState}
    (hs : let begun := s.note (.logged (announcement target s.order.hardware.hardware))
      ∀ uri request, s.order.hardware.hardware.powerUri = .ok uri →
        s.order.hardware.client.request "PUT" (.text uri) (changeBody target) = .ok request →
        L.Step begun (begun.note (.sent (.submission number attempt) request))) (setup : Setup) :
    L.Step s ((requestChange setup hook (.submission number attempt) target attempt).run s).2 :=
  h.remarks.step_requestChange fun uri hu =>
    (h.step_call (fun request hq => hs uri request hu hq) setup).trans
      (step_readChange h.remarks hd _ _ _ _)

/-- A submission obeys the law if its query and its request for a change do. -/
lemma step_submit (hr : L.Remarks) (hc : ∀ s, L.Step s { s with submissions := s.submissions + 1 })
    {target : PowerState} {attempt? : Option Int} {s : Scene}
    (he : ∀ u failure?,
      L.Step u (u.onOrder (·.markDone failure? (some (attempt?.getD s.order.attempt)))))
    (ho : let counted := { s with submissions := s.submissions + 1 }
      let attempt := attempt?.getD s.order.attempt
      L.Step counted
        ((observe setup hook (.submission s.submissions attempt) (some attempt)).run counted).2)
    (hq : ∀ state t, let attempt := attempt?.getD s.order.attempt
      (observe setup hook (.submission s.submissions attempt) (some attempt)).run
          { s with submissions := s.submissions + 1 } = (.ok state, t) →
        state ≠ target → L.Step t ((requestChange setup hook (.submission s.submissions attempt)
          target attempt).run t).2) :
    L.Step s ((submit setup hook target attempt?).run s).2 := by
  rw [run_submit]
  dsimp only
  have ho := (hc s).trans ho
  rcases hrun : (observe setup hook _ _).run { s with submissions := s.submissions + 1 } with
    ⟨failure | state, t⟩
  · rw [hrun] at ho
    dsimp only
    split
    · exact ho.trans (step_gaveUp hr he _ _ _)
    · exact ho
  · rw [hrun] at ho
    dsimp only
    split
    · exact (ho.trans (hr.step_log _ _)).trans (he _ _)
    · rename_i hne
      exact ho.trans (hq state t hrun hne)

lemma Serves.step_submit (h : L.Serves may allows) (hh : L.Hosts allows setup hook)
    (target : PowerState) (attempt? : Option Int) (s : Scene)
    (ha : may (attempt?.getD s.order.attempt)) :
    L.Step s ((submit setup hook target attempt?).run s).2 := by
  have hw : Within may (.submission s.submissions (attempt?.getD s.order.attempt)) := ha
  refine Law.step_submit h.remarks h.counted (h.decides ha).ended (h.keeps_observe hh hw _ _)
    (fun state t _ _ => ?_)
  exact (h.carries hh hw).step_requestChange (h.decides ha)
    (fun uri request hu hq => h.step_asked hw (.change hu hq)) setup

/-- The parts that runs are made of obey the law: remarks and waits, queries, checks of attempts
that are not over, and whole submissions for attempts that satisfy `may`. -/
structure Parts (L : Law) (may : Int → Prop) (setup : Setup) (hook : Hook) : Prop where
  total : Total hook
  remarks : L.Remarks
  waited : ∀ s delay, L.Step s (s.note (.waited .query delay))
  paused : ∀ s attempt delay, may attempt → L.Step s (s.note (.waited (.polling attempt) delay))
  observes : ∀ attempt?, L.Keeps (observe setup hook .query attempt?)
  refreshes : ∀ attempt?, L.Keeps (refresh setup hook .query attempt?)
  checks : ∀ s attempt, may attempt → s.order.isOver = false →
    L.Step s ((refresh setup hook (.polling attempt) (some attempt)).run s).2
  submits : ∀ s target attempt?, may (attempt?.getD s.order.attempt) →
    L.Step s ((submit setup hook target attempt?).run s).2
  ended : ∀ s failure? attempt, may attempt →
    L.Step s (s.onOrder (·.markDone failure? (some attempt)))

lemma Serves.parts (h : L.Serves may allows) (hh : L.Hosts allows setup hook) :
    L.Parts may setup hook where
  total := hh.total
  remarks := h.remarks
  waited s _ := h.noted s _ (fits_of_within (show Within may .query from trivial) rfl
    (fun _ he => nomatch he))
  paused s attempt _ ha := h.noted s _ (fits_of_within
    (show Within may (.polling attempt) from ha) rfl (fun _ he => nomatch he))
  observes attempt? := h.keeps_observe hh (show Within may .query from trivial) attempt?
  refreshes attempt? := h.keeps_refresh hh (show Within may .query from trivial) attempt?
  checks s attempt ha _ :=
    h.keeps_refresh hh (show Within may (.polling attempt) from ha) (some attempt) s
  submits s target attempt? ha := h.step_submit hh target attempt? s ha
  ended := h.ended

/-- What runs are made of, for a law of all attempts: queries and checks, whatever is sent for them,
and submissions. -/
lemma parts_of_carries (hc : ∀ origin, Watches origin → L.Carries hook origin)
    (hw : ∀ s origin delay, Watches origin → L.Step s (s.note (.waited origin delay)))
    (hq : ∀ s origin client uri request, Watches origin →
      (origin ≠ .query → s.order.isOver = false) →
      Client.request client "GET" uri .null = .ok request →
      L.Step s (s.note (.sent origin request)))
    (hs : ∀ s target attempt?, L.Step s ((submit setup hook target attempt?).run s).2)
    (he : ∀ s failure? attempt?, L.Step s (s.onOrder (·.markDone failure? attempt?))) :
    L.Parts (fun _ => True) setup hook where
  total := (hc .query trivial).total
  remarks := (hc .query trivial).remarks
  waited s delay := hw s .query delay trivial
  paused s attempt delay _ := hw s (.polling attempt) delay trivial
  observes _ s := (hc .query trivial).step_observe
    (fun _ request hr => hq s .query _ _ request trivial (fun hne => absurd rfl hne) hr) setup _
  refreshes _ s := (hc .query trivial).step_refresh
    (fun _ request hr => hq s .query _ _ request trivial (fun hne => absurd rfl hne) hr) setup _
  checks s attempt _ hover := (hc (.polling attempt) trivial).step_refresh
    (fun _ request hr => hq s (.polling attempt) _ _ request trivial (fun _ => hover) hr) setup _
  submits s target attempt? _ := hs s target attempt?
  ended s failure? attempt _ := he s failure? (some attempt)

/-- A submission that the pool runs obeys the law if it does so by itself. -/
lemma step_work (hr : L.Remarks)
    (he : ∀ s failure?, L.Step s (s.onOrder (·.markDone failure? (some attempt))))
    {target : PowerState} {s : Scene}
    (hs : L.Step s ((submit setup hook target (some attempt)).run s).2) :
    L.Step s ((work setup hook target attempt).run s).2 := by
  rw [run_work]
  rcases h : (submit setup hook target (some attempt)).run s with ⟨failure | _, t⟩
  · rw [h] at hs
    exact (hs.trans (hr.step_log _ _)).trans (he _ _)
  · rwa [h] at hs

lemma Parts.keeps_work (h : L.Parts may setup hook) (ha : may attempt) (target : PowerState) :
    L.Keeps (work setup hook target attempt) :=
  fun s => step_work h.remarks (fun s failure? => h.ended s failure? attempt ha)
    (h.submits s target (some attempt) ha)

end Submissions

end Law

end ServerPower.Proofs
