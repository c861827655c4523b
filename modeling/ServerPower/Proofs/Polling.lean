import ServerPower.Proofs.Unattended
import ServerPower.Proofs.Loops

/-!
# The polling of an attempt

Once an attempt has begun, nobody but the execution that began it checks or waits on its behalf:
what others do, executions of theirs included, leaves nothing in the journal for the polling of this
attempt. So what stands there for it was left by the rounds of the one loop, and each of these is a
check, which asks at most once, and one wait.
-/

namespace ServerPower.Proofs
open Run

/-- What was noted for the polling of an attempt, the first entry first. -/
def pollingOf (a : Int) (entries : List Entry) : List Entry :=
  (entries.filter (originOf? ·.event = some (.polling a))).reverse

/-- The journal grew from one scene to the other, and this is what was noted for the polling of the
attempt. -/
def Leaves (a : Int) (trace : List Entry) (s t : Scene) : Prop :=
  ∃ new, t.journal = new ++ s.journal ∧ pollingOf a new = trace

/-- Once the attempt has begun, one scene leads to the other, and this is noted for its polling. -/
def Polls (a : Int) (trace : List Entry) (s t : Scene) : Prop :=
  a ≤ s.order.attempt → a ≤ t.order.attempt ∧ Leaves a trace s t

/-- The entry of a request that was sent for the polling of an attempt which was not over. -/
structure AsksInTime (a : Int) (e : Entry) : Prop where
  sent : ∃ request, e.event = .sent (.polling a) request ∧ request.method = "GET"
  going : e.order.isOver = false

/-- What a check leaves: nothing, if there is no task to ask for, or a request and its answer. -/
inductive CheckTrace (a : Int) : List Entry → Prop
  | unasked : CheckTrace a []
  | asked {before after : Entry} {request : Request} {outcome : Except Failure String}
      (asks : AsksInTime a before)
      (answered : after.event = .answered (.polling a) request outcome) :
      CheckTrace a [before, after]

/-- What rounds leave that wait so long, one after the other. -/
inductive RoundsTrace (a : Int) : List Json → List Entry → Prop
  | here : RoundsTrace a [] []
  | round {delay : Json} {delays : List Json} {check rest : List Entry} {wait : Entry}
      (checked : CheckTrace a check) (waited : wait.event = .waited (.polling a) delay)
      (more : RoundsTrace a delays rest) : RoundsTrace a (delay :: delays) (check ++ wait :: rest)

section Traces

variable {a : Int} {s t u : Scene} {trace more : List Entry}

@[simp] lemma pollingOf_nil (a : Int) : pollingOf a [] = [] := rfl

lemma pollingOf_append (a : Int) (new old : List Entry) :
    pollingOf a (new ++ old) = pollingOf a old ++ pollingOf a new := by
  unfold pollingOf
  rw [List.filter_append, List.reverse_append]

lemma pollingOf_own {e : Entry} (h : originOf? e.event = some (.polling a)) :
    pollingOf a [e] = [e] := by
  simp [pollingOf, h]

lemma pollingOf_other {e : Entry} (h : originOf? e.event ≠ some (.polling a)) :
    pollingOf a [e] = [] := by
  simp [pollingOf, h]

lemma Leaves.of_journal_eq (a : Int) (hj : t.journal = s.journal) : Leaves a [] s t :=
  ⟨[], hj, rfl⟩

lemma Leaves.trans (h1 : Leaves a trace s t) (h2 : Leaves a more t u) :
    Leaves a (trace ++ more) s u := by
  obtain ⟨first, hj1, rfl⟩ := h1
  obtain ⟨second, hj2, rfl⟩ := h2
  refine ⟨second ++ first, ?_, pollingOf_append a second first⟩
  rw [hj2, hj1, List.append_assoc]

lemma Polls.trans (h1 : Polls a trace s t) (h2 : Polls a more t u) :
    Polls a (trace ++ more) s u := by
  intro hs
  obtain ⟨ht, hst⟩ := h1 hs
  obtain ⟨hu, htu⟩ := h2 ht
  exact ⟨hu, hst.trans htu⟩

lemma polls_own {event : Event} (h : originOf? event = some (.polling a)) (s : Scene) :
    Polls a [⟨event, s.order, s.phase⟩] s (s.note event) :=
  fun hs => ⟨hs, [⟨event, s.order, s.phase⟩], rfl, pollingOf_own h⟩

end Traces

/-- Once an attempt has begun, nothing is noted for its polling. -/
def elsewhere (a : Int) : Law where
  holds s := a ≤ s.order.attempt
  leads s t := Leaves a [] s t
  refl _ := Leaves.of_journal_eq a rfl
  trans h1 h2 := h1.trans h2

section Others

variable {setup : Setup} {hook : Hook} {depth : Nat} {a : Int} {s t : Scene}

lemma elsewhere_still (ha : t.order.attempt = s.order.attempt) (hj : t.journal = s.journal) :
    (elsewhere a).Step s t :=
  fun hs => ⟨Int.le_trans hs (Int.le_of_eq ha.symm), Leaves.of_journal_eq a hj⟩

lemma elsewhere_onOrder {f : PowerOrder → PowerOrder}
    (ha : (f s.order).attempt = s.order.attempt) : (elsewhere a).Step s (s.onOrder f) :=
  elsewhere_still ha rfl

lemma elsewhere_note {event : Event} (h : originOf? event ≠ some (.polling a)) (s : Scene) :
    (elsewhere a).Step s (s.note event) :=
  fun hs => ⟨hs, [⟨event, s.order, s.phase⟩], rfl, pollingOf_other h⟩

lemma elsewhere_noteFor {event : Event} {origin : Origin} (he : originOf? event = some origin)
    (ho : origin ≠ .polling a) (s : Scene) : (elsewhere a).Step s (s.note event) := by
  apply elsewhere_note
  rw [he]
  exact fun h => ho (Option.some.inj h)

lemma elsewhere_remarks (a : Int) : (elsewhere a).Remarks := by
  intro s event ho _
  apply elsewhere_note
  rw [ho]
  exact fun h => nomatch h

lemma elsewhere_progress (s : Scene) (attempt? : Option Int) (task : RemoteTask) :
    (elsewhere a).Step s (s.onOrder (·.noteProgress attempt? task)) :=
  elsewhere_onOrder (PowerOrder.attempt_noteProgress _ _ _)

lemma elsewhere_carries (hh : (elsewhere a).Hosts (fun _ => True) setup hook) {origin : Origin}
    (ho : origin ≠ .polling a) : (elsewhere a).Carries hook origin where
  total := hh.total
  remarks := elsewhere_remarks a
  flown _ _ := hh.step_inFlight (elsewhere_still rfl rfl) (fun _ _ _ => trivial)
  answered s _ _ := elsewhere_noteFor rfl ho s
  forgot _ := elsewhere_onOrder rfl
  hardware _ _ _ _ := elsewhere_onOrder (by simp)
  progress := elsewhere_progress

lemma elsewhere_decides (a attempt : Int) : (elsewhere a).Decides attempt where
  ended _ _ := elsewhere_onOrder (by simp)
  task _ _ := elsewhere_onOrder (by simp)

/-- A submission polls nothing, whatever attempt it is for. -/
lemma elsewhere_submit (hh : (elsewhere a).Hosts (fun _ => True) setup hook) (target : PowerState)
    (attempt? : Option Int) (s : Scene) :
    (elsewhere a).Step s ((submit setup hook target attempt?).run s).2 := by
  let origin := Origin.submission s.submissions (attempt?.getD s.order.attempt)
  have ho : origin ≠ .polling a := fun h => nomatch h
  have hsent : ∀ (request : Request) (t : Scene),
      (elsewhere a).Step t (t.note (.sent origin request)) :=
    fun request t => elsewhere_noteFor rfl ho t
  have hcarries := elsewhere_carries hh ho
  have hdecides := elsewhere_decides a (attempt?.getD s.order.attempt)
  refine Law.step_submit (elsewhere_remarks a) (fun _ => elsewhere_still rfl rfl) hdecides.ended
    (hcarries.step_observe (fun _ request _ => hsent request _) setup _) (fun state t _ _ => ?_)
  exact hcarries.step_requestChange hdecides (fun _ request _ _ => hsent request _) setup

lemma elsewhere_work (hh : (elsewhere a).Hosts (fun _ => True) setup hook) (target : PowerState)
    (attempt : Int) (s : Scene) :
    (elsewhere a).Step s ((work setup hook target attempt).run s).2 :=
  Law.step_work (elsewhere_remarks a) (elsewhere_decides a attempt).ended
    (elsewhere_submit hh target (some attempt) s)

lemma elsewhere_parts (hh : (elsewhere a).Hosts (fun _ => True) setup hook) :
    (elsewhere a).Parts (· ≠ a) setup hook where
  total := hh.total
  remarks := elsewhere_remarks a
  waited s _ := elsewhere_noteFor rfl (fun h => Origin.noConfusion h) s
  paused s k _ hk := elsewhere_noteFor rfl (fun h => hk (Origin.polling.inj h)) s
  observes _ _ := (elsewhere_carries hh (fun h => Origin.noConfusion h)).step_observe
    (fun _ _ _ => elsewhere_noteFor rfl (fun h => Origin.noConfusion h) _) setup _
  refreshes _ _ := (elsewhere_carries hh (fun h => Origin.noConfusion h)).step_refresh
    (fun _ _ _ => elsewhere_noteFor rfl (fun h => Origin.noConfusion h) _) setup _
  checks _ _ hk _ := (elsewhere_carries hh (fun h => hk (Origin.polling.inj h))).step_refresh
    (fun _ _ _ => elsewhere_noteFor rfl (fun h => hk (Origin.polling.inj h)) _) setup _
  submits s target attempt? _ := elsewhere_submit hh target attempt? s
  ended _ _ _ _ := elsewhere_onOrder (by simp)

lemma elsewhere_stage (hh : (elsewhere a).Hosts (fun _ => True) setup (hookAt setup depth)) :
    (elsewhere a).Stage (· ≠ a) (fun _ => True) setup depth where
  hosts := hh
  parts := elsewhere_parts hh
  due s := by
    have hqueue : (elsewhere a).Step s
        { s with waits := s.waits + 1, pending := s.pending.filter (!dueBy (s.waits + 1) ·) } :=
      elsewhere_still rfl rfl
    apply hqueue.trans
    exact Law.keeps_forM (fun job _ s => elsewhere_work hh job.target job.attempt s) _

lemma elsewhere_launches (a : Int) : (elsewhere a).Launches where
  begun s hs := by
    have hnext : (s.onOrder PowerOrder.reset).order.attempt = s.order.attempt + 1 := rfl
    have hs : a ≤ s.order.attempt := hs
    exact ⟨show a ≤ (s.onOrder PowerOrder.reset).order.attempt by omega,
      Leaves.of_journal_eq a rfl⟩
  entered _ _ := elsewhere_still rfl rfl
  queued _ _ _ := elsewhere_still rfl rfl

/-- Whoever else executes a change polls for an attempt that begins later. -/
theorem elsewhere_suffers (a : Int) (setup : Setup) :
    (elsewhere a).Suffers (fun _ => True) setup where
  deeds depth hh := by
    have hstage := elsewhere_stage (a := a) hh
    exact
      { remarks := elsewhere_remarks a
        pauses := fun s delay => hstage.step_pause (hstage.parts.waited s delay)
        observes := hstage.parts.observes
        refreshes := hstage.parts.refreshes
        submits := fun s target attempt? _ => elsewhere_submit hh target attempt? s
        executes := fun target _ s => hstage.step_execute (elsewhere_launches a) target
          (fun hs => by
            have hs : a ≤ s.order.attempt := hs
            omega) }
  bears s action _ := by
    cases action with
    | reset => exact (elsewhere_launches a).begun s
    | markDone _ _ => exact fun _ => elsewhere_onOrder (by simp)
    | submit _ _ => exact fun _ => trivial
    | wait _ | observe _ | refresh _ | execute _ | look => trivial
    | _ => exact elsewhere_still rfl rfl
  handed s _ := ((elsewhere_launches a).begun s).trans (elsewhere_note (by simp [originOf?]) _)

lemma elsewhere_hookAt (a : Int) (setup : Setup) (depth : Nat) :
    (elsewhere a).Hosts (fun _ => True) setup (hookAt setup depth) :=
  (elsewhere_suffers a setup).hosts_hookAt (fun _ _ _ => trivial) depth

end Others

section Own

variable {s : Scene}

/-- Up to the beginning of its loop an execution polls nothing. -/
lemma elsewhere_loopBegun (setup : Setup) (depth : Nat) (target : PowerState) (s : Scene) :
    (elsewhere (s.order.attempt + 1)).Step (attemptBegun s)
      (loopBegun setup (hookAt setup depth) target s) := by
  have hlaunches := elsewhere_launches (s.order.attempt + 1)
  have hh := elsewhere_hookAt (s.order.attempt + 1) setup depth
  have hhanded : (elsewhere (s.order.attempt + 1)).Step (attemptBegun s)
      (handedOver setup (hookAt setup depth) target (s.order.attempt + 1) (attemptBegun s)) :=
    hlaunches.step_handedOver_of (elsewhere_work hh target _ _)
  exact hhanded.trans ((hlaunches.entered _ .submitting).trans (hlaunches.entered _ .polling))

/-- A call for the polling of the attempt sends its request first, and ends with the answer. -/
lemma polls_of_call (setup : Setup) (depth : Nat) (a : Int) (client : Client) (uri : Json)
    (s : Scene) :
    let t := ((call setup (hookAt setup depth) (.polling a) client "GET" uri .null).run s).2
    t = s ∨ ∃ request answered outcome, request.method = "GET" ∧
      answered.event = .answered (.polling a) request outcome ∧
      Polls a [answered] (s.note (.sent (.polling a) request)) t := by
  have hh := elsewhere_hookAt a setup depth
  dsimp only
  rw [run_call hh.total]
  cases hr : client.request "GET" uri .null with
  | error failure => exact .inl rfl
  | ok request =>
    let report := readAnswer setup.strict "GET" uri request (s.supply.next request).1
    let sent := s.note (.sent (.polling a) request)
    let read := logged report.records (inFlight (hookAt setup depth) request sent)
    have hflown : (elsewhere a).Step sent (inFlight (hookAt setup depth) request sent) :=
      hh.step_inFlight (elsewhere_still rfl rfl) (fun _ _ _ => trivial)
    have hread : Polls a [] sent read :=
      hflown.trans ((elsewhere_remarks a).step_logged report.records _)
    have hanswered : Polls a _ read (read.note (.answered (.polling a) request report.outcome)) :=
      polls_own rfl read
    exact .inr ⟨request, _, report.outcome, (Client.of_request_eq_ok hr).1, rfl,
      hread.trans hanswered⟩

/-- A check asks for the task at most once, and first of all. -/
lemma polls_of_check (setup : Setup) (depth : Nat) (target : PowerState) (a : Int) (s : Scene) :
    let t := ((check setup (hookAt setup depth) target a).run s).2
    Polls a [] s t ∨ ∃ request answered outcome, request.method = "GET" ∧
      answered.event = .answered (.polling a) request outcome ∧
      Polls a [answered] (s.note (.sent (.polling a) request)) t := by
  have hchecked := Law.step_checked (elsewhere_remarks a) (elsewhere_decides a a).ended setup
    (hookAt setup depth) target s
  by_cases ht : s.order.task.exists?
  · -- Whatever the answer says, what follows it is noted for nobody.
    have hrest := (Law.step_refreshed (elsewhere_remarks a) elsewhere_progress ht setup
      (hookAt setup depth) (.polling a) (some a)).trans hchecked
    rcases polls_of_call setup depth a s.order.hardware.client (.text s.order.task.uri) s with
      hunmade | ⟨request, answered, outcome, hget, hanswered, hpolls⟩
    · left
      rwa [hunmade] at hrest
    · right
      exact ⟨request, answered, outcome, hget, hanswered, hpolls.trans hrest⟩
  · left
    exact (Law.step_refresh_of_no_task ht setup (hookAt setup depth) (.polling a) (some a)).trans
      hchecked

/-- The trace of a check that was made in time. -/
lemma checkTrace_of_check (setup : Setup) (depth : Nat) (target : PowerState) (a : Int)
    (hover : s.order.isOver = false) :
    ∃ trace, CheckTrace a trace ∧
      Polls a trace s ((check setup (hookAt setup depth) target a).run s).2 := by
  rcases polls_of_check setup depth target a s with
    hunasked | ⟨request, answered, outcome, hget, hanswered, hpolls⟩
  · exact ⟨[], .unasked, hunasked⟩
  · have hsent : Polls a _ s (s.note (.sent (.polling a) request)) := polls_own rfl s
    exact ⟨_, .asked ⟨⟨request, rfl, hget⟩, hover⟩ hanswered, hsent.trans hpolls⟩

/-- A wait of the loop is noted once, whatever happens during it. -/
lemma polls_of_pause (setup : Setup) (depth : Nat) (a : Int) (delay : Json) (s : Scene) :
    Polls a [⟨.waited (.polling a) delay, s.order, s.phase⟩] s
      (afterPause setup (hookAt setup depth) (.polling a) delay s) := by
  have hh := elsewhere_hookAt a setup depth
  have hmeanwhile : (elsewhere a).Step (s.note (.waited (.polling a) delay))
      (afterPause setup (hookAt setup depth) (.polling a) delay s) :=
    ((elsewhere_stage hh).due _).trans (hh.keeps _ (fun _ _ => trivial) _)
  exact (polls_own rfl s).trans hmeanwhile

end Own

end ServerPower.Proofs
