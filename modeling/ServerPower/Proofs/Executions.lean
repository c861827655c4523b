import ServerPower.Proofs.Actions
import ServerPower.Proofs.Rendering

/-!
# Executions

The loop that follows the manager's task as a function of the scene, and the laws that whole
executions obey.
-/

namespace ServerPower.Proofs
open Run

def progressRecord (task : RemoteTask) : Record :=
  ⟨.info, Template.render "Working on power state, %(percent)d%%, %(status)s."
    [("percent", .number task.computed), ("status", .text task.status)]⟩

def changeFailed (target : PowerState) (reason : String) : Failure :=
  ⟨.powerChange, "Failed to set server hardware power state to " ++ target.wire ++ ". Error: " ++
    reason⟩

def changeTimedOut (target : PowerState) (name : Json) (checks : Nat) : Failure :=
  ⟨.powerTimeout, "Timed out after " ++ (Json.int checks).display ++
    " attempts waiting for server hardware " ++ name.display ++ " to reach power state " ++
    target.wire ++ "."⟩

def submissionFailed (target : PowerState) (failure : Failure) : Failure :=
  if failure.isA .powerChange then failure else changeFailed target failure.text

lemma changeFailure_eq (setup : Setup) (target : PowerState) (reason : String) :
    changeFailure setup target reason = pure (changeFailed target reason) :=
  build_powerChange _ _ _

theorem run_check (setup : Setup) (hook : Hook) (target : PowerState) (attempt : Int) (s : Scene) :
    (check setup hook target attempt).run s =
      match (refresh setup hook (.polling attempt) (some attempt)).run s with
      | (.error failure, t) => (.error failure, t)
      | (.ok none, t) => (.ok (), t.note (.logged ⟨.info, .ok "Working on power state."⟩))
      | (.ok (some task), t) =>
        if task.isCompleted then
          (.ok (), (t.onOrder (·.markDone none (some attempt))).note
            (.logged (progressRecord task)))
        else if task.isFailed then
          match task.errorSummary with
          | .error failure => (.error failure, t)
          | .ok reason =>
            (.ok (),
              (t.onOrder (·.markDone (some (changeFailed target reason)) (some attempt))).note
              (.logged (progressRecord task)))
        else (.ok (), t.note (.logged (progressRecord task))) := by
  unfold check
  rw [run_bind]
  rcases (refresh setup hook _ _).run s with ⟨failure | _ | task, t⟩
  · rfl
  · rfl
  · dsimp only
    split
    · rfl
    · split
      · simp only [run_bind, run_ofExcept, run_ofReport, run_updateOrder]
        cases task.errorSummary with
        | error failure => rfl
        | ok reason =>
          simp only [changeFailure_eq]
          rfl
      · rfl

def glanceAt (order : PowerOrder) : Glance :=
  ⟨order.done, order.failure?, order.cancelled⟩

/-- Following looks at the order, and unless the attempt is over or has used up its checks it checks
the task, waits and follows on. -/
theorem run_follow_succ {hook : Hook} (h : Total hook) (setup : Setup) (target : PowerState)
    (attempt : Int) (fuel checks : Nat) (s : Scene) :
    (follow setup hook target attempt (fuel + 1) checks).run s =
      if s.order.isOver then (.ok (checks, glanceAt s.order), s)
      else match s.order.allowsCheck checks with
        | .error failure => (.error failure, s)
        | .ok false => (.ok (checks, glanceAt s.order), s)
        | .ok true =>
          match (check setup hook target attempt).run s with
          | (.error failure, t) => (.error failure, t)
          | (.ok (), t) =>
            (follow setup hook target attempt fuel (checks + 1)).run
              (afterPause setup hook (.polling attempt) t.order.interval t) := by
  have hg : glance.run s = (.ok (glanceAt s.order), s) := rfl
  rw [follow, run_bind, hg]
  unfold PowerOrder.isOver glanceAt
  dsimp only
  split
  · rfl
  · simp only [run_bind, run_order, run_ofExcept]
    cases s.order.allowsCheck checks with
    | error failure => rfl
    | ok more =>
      cases more with
      | false => rfl
      | true =>
        simp only [Bool.not_true, Bool.false_eq_true, if_false, run_bind, run_order]
        rcases (check setup hook target attempt).run s with ⟨failure | _, t⟩
        · rfl
        · simp only [run_pause h]

/-- Following ends with a look at the order. -/
lemma seen_of_follow {hook : Hook} (h : Total hook) {setup : Setup} {target : PowerState}
    {attempt : Int} {fuel checks : Nat} {result : Nat × Glance} {s t : Scene}
    (hr : (follow setup hook target attempt fuel checks).run s = (.ok result, t)) :
    result.2 = glanceAt t.order := by
  induction fuel generalizing checks s with
  | zero =>
    cases hr
    rfl
  | succ fuel ih =>
    rw [run_follow_succ h] at hr
    split at hr
    · cases hr
      rfl
    · split at hr
      · cases hr
      · cases hr
        rfl
      · split at hr
        · cases hr
        · exact ih hr

def completionRecord : Record := ⟨.info, .ok "Power task execution completed"⟩

theorem run_conclude (setup : Setup) (target : PowerState) (name : Json) (checks : Nat)
    (seen : Glance) (s : Scene) :
    (conclude setup target name checks seen).run s =
      match seen.failure? with
      | some failure =>
        (.error (if failure.isA .powerChange then failure else changeFailed target failure.text),
          s.enter .failed)
      | none =>
        if seen.done then (.ok .completed, (s.enter .done).note (.logged completionRecord))
        else if seen.cancelled then
          (.ok .cancelled, ((s.enter .cancelled).note (.logged ⟨.warning, .ok ("Power " ++
            target.wire ++ " cancelled for " ++ name.display ++ ".")⟩)).note
              (.logged completionRecord))
        else
          let t := (s.enter .timedOut).note (.logged ⟨.warning, .ok ("Power " ++
            target.wire ++ " state timed out for " ++ name.display ++ ".")⟩)
          if setup.failOnTimeout then (.error (changeTimedOut target name checks), t)
          else (.ok .timedOut, t.note (.logged completionRecord)) := by
  unfold conclude
  cases seen.failure? with
  | some failure =>
    dsimp only
    simp only [run_bind, run_setPhase]
    split
    · rfl
    · simp only [run_bind, run_ofReport, changeFailure_eq]
      rfl
  | none =>
    dsimp only
    split
    · rfl
    · split
      · rfl
      · split
        · simp only [run_bind, run_setPhase, run_log, run_ofReport, Failure.raise,
            build_powerTimeout]
          rfl
        · rfl

/-- A conclusion adds to the journal, and leaves the order and the submissions that wait alone. -/
lemma left_of_conclude {setup : Setup} {target : PowerState} {name : Json} {checks : Nat}
    {seen : Glance} {s t : Scene} {result : Except Failure PowerResult}
    (h : (conclude setup target name checks seen).run s = (result, t)) :
    t.order = s.order ∧ t.pending = s.pending ∧ s.journal <:+ t.journal := by
  have htwice : ∀ e e' : Entry, s.journal <:+ e' :: e :: s.journal :=
    fun e e' => (List.suffix_cons e _).trans (List.suffix_cons e' _)
  rw [run_conclude] at h
  split at h
  · cases h
    exact ⟨rfl, rfl, List.suffix_rfl⟩
  · split at h
    · cases h
      exact ⟨rfl, rfl, List.suffix_cons _ _⟩
    · split at h
      · cases h
        exact ⟨rfl, rfl, htwice _ _⟩
      · split at h
        · cases h
          exact ⟨rfl, rfl, List.suffix_cons _ _⟩
        · cases h
          exact ⟨rfl, rfl, htwice _ _⟩

lemma conclude_of_failure {seen : Glance} {cause : Failure} (h : seen.failure? = some cause)
    (setup : Setup) (target : PowerState) (name : Json) (checks : Nat) (s : Scene) :
    (conclude setup target name checks seen).run s =
      (.error (submissionFailed target cause), s.enter .failed) := by
  rw [run_conclude]
  simp only [h]
  rfl

/-- What an execution makes of its last look at the order, after so many checks: its result, and the
phase that it enters. -/
inductive Finishes (setup : Setup) (target : PowerState) (name : Json) (checks : Nat)
    (seen : Glance) : Except Failure PowerResult → Phase → Prop
  | failed {cause : Failure} (failed : seen.failure? = some cause) :
      Finishes setup target name checks seen (.error (submissionFailed target cause)) .failed
  | completed (unfailed : seen.failure? = none) (done : seen.done = true) :
      Finishes setup target name checks seen (.ok .completed) .done
  | cancelled (unfailed : seen.failure? = none) (undone : seen.done = false)
      (cancelled : seen.cancelled = true) :
      Finishes setup target name checks seen (.ok .cancelled) .cancelled
  | timedOut (unfailed : seen.failure? = none) (undone : seen.done = false)
      (uncancelled : seen.cancelled = false) (lenient : setup.failOnTimeout = false) :
      Finishes setup target name checks seen (.ok .timedOut) .timedOut
  | overdue (unfailed : seen.failure? = none) (undone : seen.done = false)
      (uncancelled : seen.cancelled = false) (strict : setup.failOnTimeout = true) :
      Finishes setup target name checks seen (.error (changeTimedOut target name checks)) .timedOut

lemma finishes_of_conclude {setup : Setup} {target : PowerState} {name : Json} {checks : Nat}
    {seen : Glance} {s t : Scene} {result : Except Failure PowerResult}
    (h : (conclude setup target name checks seen).run s = (result, t)) :
    Finishes setup target name checks seen result t.phase := by
  rw [run_conclude] at h
  cases hf : seen.failure? with
  | some cause =>
    simp only [hf] at h
    cases h
    exact .failed hf
  | none =>
    simp only [hf] at h
    cases hd : seen.done with
    | true =>
      simp only [hd, if_true] at h
      cases h
      exact .completed hf hd
    | false =>
      simp only [hd, Bool.false_eq_true, if_false] at h
      cases hc : seen.cancelled with
      | true =>
        simp only [hc, if_true] at h
        cases h
        exact .cancelled hf hd hc
      | false =>
        simp only [hc, Bool.false_eq_true, if_false] at h
        cases hs : setup.failOnTimeout with
        | true =>
          simp only [hs, if_true] at h
          cases h
          exact .overdue hf hd hc hs
        | false =>
          simp only [hs, Bool.false_eq_true, if_false] at h
          cases h
          exact .timedOut hf hd hc hs

/-- Whatever an execution makes of its last look, it does not go on polling. -/
lemma Finishes.phase_ne_polling {setup : Setup} {target : PowerState} {name : Json} {checks : Nat}
    {seen : Glance} {result : Except Failure PowerResult} {phase : Phase}
    (h : Finishes setup target name checks seen result phase) : phase ≠ .polling := by
  cases h <;> exact fun h => nomatch h

/-- The time is out only where the last look shows an attempt that is not over. -/
lemma Finishes.isOver_eq_false {setup : Setup} {target : PowerState} {name : Json} {checks : Nat}
    {order : PowerOrder} {result : Except Failure PowerResult}
    (h : Finishes setup target name checks (glanceAt order) result .timedOut) :
    order.isOver = false := by
  cases h with
  | timedOut _ undone uncancelled _ => exact Bool.or_eq_false_iff.mpr ⟨undone, uncancelled⟩
  | overdue _ undone uncancelled _ => exact Bool.or_eq_false_iff.mpr ⟨undone, uncancelled⟩

theorem run_poll (setup : Setup) (hook : Hook) (target : PowerState) (attempt : Int) (s : Scene) :
    (poll setup hook target attempt).run s =
      match (follow setup hook target attempt (setup.checkBound + 1) 0).run (s.enter .polling) with
      | (.error failure, t) => (.error failure, t)
      | (.ok (checks, seen), t) =>
        (conclude setup target s.order.hardware.hardware.name checks seen).run t := by
  unfold poll
  simp only [run_bind, run_order, run_setPhase]
  rcases (follow setup hook target attempt _ 0).run _ with ⟨failure | ⟨checks, seen⟩, t⟩ <;> rfl

/-- The scene after a submission was handed to the pool. -/
def handedOver (setup : Setup) (hook : Hook) (target : PowerState) (attempt : Int) (s : Scene) :
    Scene :=
  match s.moment with
  | .inline => ((work setup hook target attempt).run s).2
  | .atWait count => { s with pending := s.pending ++ [⟨s.waits + count, target, attempt⟩] }
  | .never | .cancelled => s

theorem run_enqueue (setup : Setup) (hook : Hook) (target : PowerState) (attempt : Int)
    (s : Scene) :
    (enqueue setup hook target attempt).run s =
      if s.poolOpen then (.ok (), handedOver setup hook target attempt s)
      else (.error ⟨.runtime, "executor is shut down"⟩, s) := by
  unfold enqueue handedOver
  simp only [run_bind, run_get]
  cases s.poolOpen with
  | false => rfl
  | true =>
    cases s.moment with
    | inline => exact Prod.ext (work_ok _ _ _ _ _) rfl
    | _ => rfl

def attemptBegun (s : Scene) : Scene :=
  (s.onOrder PowerOrder.reset).enter .idle

/-- An attempt begins whether or not the pool is open for its submission. -/
theorem run_launch (setup : Setup) (hook : Hook) (target : PowerState) (s : Scene) :
    (launch setup hook target).run s =
      let attempt := s.order.attempt + 1
      let begun := attemptBegun s
      if s.poolOpen then
        (.ok attempt, (handedOver setup hook target attempt begun).enter .submitting)
      else (.error ⟨.runtime, "executor is shut down"⟩, begun) := by
  unfold launch
  simp only [run_bind, run_updateOrder, run_order, run_setPhase, run_enqueue]
  have ha : (s.onOrder PowerOrder.reset).order.attempt = s.order.attempt + 1 := rfl
  have hb : (s.onOrder PowerOrder.reset).enter .idle = attemptBegun s := rfl
  have hpool : (attemptBegun s).poolOpen = s.poolOpen := rfl
  rw [ha, hb, hpool]
  by_cases hopen : s.poolOpen
  · simp only [hopen, if_true]
    rfl
  · simp only [hopen, Bool.false_eq_true, if_false]

theorem run_execute {target : PowerState} (ht : target ∈ PowerState.targets) (setup : Setup)
    (hook : Hook) (s : Scene) :
    (execute setup hook target).run s =
      let attempt := s.order.attempt + 1
      let begun := attemptBegun s
      if s.poolOpen then
        match (poll setup hook target attempt).run
            ((handedOver setup hook target attempt begun).enter .submitting) with
        | (.ok result, t) => (.ok result, t)
        | (.error failure, t) =>
          (.error failure, if t.phase = .polling then t.enter .failed else t)
      else (.error ⟨.runtime, "executor is shut down"⟩, begun) := by
  unfold execute
  have hn : ¬ target ∉ PowerState.targets := not_not.mpr ht
  rw [if_neg hn]
  simp only [run_bind, run_launch]
  by_cases hopen : s.poolOpen
  · simp only [hopen, if_true]
    rw [run_tryCatch]
    rcases (poll setup hook target _).run _ with ⟨failure | result, t⟩
    · simp only [run_bind, run_get]
      split <;> rfl
    · rfl
  · simp only [hopen, Bool.false_eq_true, if_false]

/-- Where the pool is open, an execution hands its submission over and polls. A failure that escapes
from the polling still ends its phase. -/
lemma polled_of_execute {setup : Setup} {hook : Hook} {target : PowerState}
    (ht : target ∈ PowerState.targets) {s t : Scene} (hopen : s.poolOpen)
    {result : Except Failure PowerResult} (hr : (execute setup hook target).run s = (result, t)) :
    ∃ u, (poll setup hook target (s.order.attempt + 1)).run
        ((handedOver setup hook target (s.order.attempt + 1) (attemptBegun s)).enter
          .submitting) = (result, u) ∧
      (t = u ∨ u.phase = .polling ∧ t = u.enter .failed) := by
  rw [run_execute ht] at hr
  simp only [hopen, if_true] at hr
  rcases hp : (poll setup hook target _).run _ with ⟨failure | value, u⟩
  · simp only [hp] at hr
    obtain ⟨rfl, rfl⟩ := Prod.mk.inj hr
    refine ⟨u, rfl, ?_⟩
    by_cases hu : u.phase = .polling
    · exact Or.inr ⟨hu, if_pos hu⟩
    · exact Or.inl (if_neg hu)
  · simp only [hp] at hr
    obtain ⟨rfl, rfl⟩ := Prod.mk.inj hr
    exact ⟨u, rfl, Or.inl rfl⟩

theorem run_execute_refused {target : PowerState} (ht : target ∉ PowerState.targets)
    (setup : Setup) (hook : Hook) (s : Scene) :
    (execute setup hook target).run s =
      let values : Template.Values :=
        [("err", .text ("Unsupported power state " ++ target.wire ++ " requested."))]
      let refusal : Report Unit := Failure.raise setup.strict .invalidParameter values
      (.error (raised setup.strict .invalidParameter values), logged refusal.records s) := by
  unfold execute
  rw [if_pos ht, run_bind, run_ofReport, raise_outcome]

/-- An execution with an unsupported target fails and changes nothing. -/
lemma run_execute_unsupported {target : PowerState} (ht : target ∉ PowerState.targets)
    (setup : Setup) (hook : Hook) (s : Scene) :
    (execute setup hook target).run s = (.error ⟨.invalidParameter,
      "Unsupported power state " ++ target.wire ++ " requested."⟩, s) := by
  rw [run_execute_refused ht]
  simp only [raised, Failure.raise, build_invalidParameter]
  rfl

lemma run_executeOnce (setup : Setup) (hook : Hook) (target : PowerState) (s : Scene) :
    (executeOnce setup hook target).run s =
      let r := (execute setup hook target).run s
      (r.1, ((close setup (.bool true)).run r.2).2) := by
  have hclose : ∀ t, ((close setup (.bool true)).run t).1 = .ok () := by
    intro t
    unfold close
    split <;> rfl
  unfold executeOnce
  simp only [run_bind, run_outcome, run_ofExcept]
  rw [← Prod.eta ((close setup (.bool true)).run _), hclose]

lemma completed_of_conclude {setup : Setup} {target : PowerState} {name : Json} {checks : Nat}
    {seen : Glance} {s t : Scene}
    (h : (conclude setup target name checks seen).run s = (.ok .completed, t)) :
    seen.failure? = none ∧ seen.done = true ∧
      t = (s.enter .done).note (.logged completionRecord) := by
  rw [run_conclude] at h
  cases hf : seen.failure? with
  | some failure =>
    simp only [hf] at h
    cases h
  | none =>
    simp only [hf] at h
    split at h
    · rename_i hd
      cases h
      exact ⟨rfl, hd, rfl⟩
    · split at h
      · cases h
      · split at h <;> cases h

namespace Law

variable {L : Law} {may : Int → Prop} {allows : Action → Prop} {setup : Setup} {hook : Hook}
  {depth : Nat}

/-- What a check does once its task was refreshed obeys the law. -/
lemma step_checked (h : L.Remarks) {attempt : Int}
    (he : ∀ s failure?, L.Step s (s.onOrder (·.markDone failure? (some attempt))))
    (setup : Setup) (hook : Hook) (target : PowerState) (s : Scene) :
    L.Step ((refresh setup hook (.polling attempt) (some attempt)).run s).2
      ((check setup hook target attempt).run s).2 := by
  rw [run_check]
  rcases (refresh setup hook _ _).run s with ⟨failure | _ | task, t⟩
  · exact Step.refl L t
  · exact h.step_log t _
  · dsimp only
    split
    · exact (he t _).trans (h.step_log _ _)
    · split
      · cases task.errorSummary with
        | error failure => exact Step.refl L t
        | ok reason => exact (he t _).trans (h.step_log _ _)
      · exact h.step_log t _

/-- A check of an attempt that is not over obeys the law. -/
lemma Parts.step_check (h : L.Parts may setup hook) (attempt : Int) (ha : may attempt) {s : Scene}
    (hover : s.order.isOver = false) (target : PowerState) :
    L.Step s ((check setup hook target attempt).run s).2 :=
  (h.checks s attempt ha hover).trans
    (step_checked h.remarks (fun s failure? => h.ended s failure? attempt ha) setup hook target s)

/-- A round of the loop obeys the law: a check of an attempt that is not over, and the pause. -/
lemma Stage.step_round (h : L.Stage may allows setup depth) {attempt : Int} (ha : may attempt)
    {target : PowerState} {s t : Scene} (going : s.order.isOver = false)
    (checked : (check setup (hookAt setup depth) target attempt).run s = (.ok (), t)) :
    L.Step s (afterPause setup (hookAt setup depth) (.polling attempt) t.order.interval t) := by
  have hchecked := h.parts.step_check attempt ha going target
  rw [checked] at hchecked
  exact hchecked.trans (h.step_pause (h.parts.paused t attempt _ ha))

/-- Following obeys the law: it checks only while the attempt is not over. -/
lemma Stage.keeps_follow (h : L.Stage may allows setup depth) (attempt : Int) (ha : may attempt)
    (target : PowerState) (fuel checks : Nat) :
    L.Keeps (follow setup (hookAt setup depth) target attempt fuel checks) := by
  induction fuel generalizing checks with
  | zero => exact fun s => Step.refl L s
  | succ fuel ih =>
    intro s
    rw [run_follow_succ h.parts.total]
    split
    · exact Step.refl L s
    · rename_i hover
      split
      · exact Step.refl L s
      · exact Step.refl L s
      · have hgoing : s.order.isOver = false := Bool.eq_false_iff.mpr hover
        rcases hs : (check setup (hookAt setup depth) target attempt).run s with ⟨failure | _, t⟩
        · have hc := h.parts.step_check attempt ha hgoing target
          rwa [hs] at hc
        · exact (h.step_round ha hgoing hs).trans (ih _ _)

lemma Awaits.keeps_follow (h : L.Awaits may allows setup)
    (hh : L.Hosts allows setup (hookAt setup depth)) (attempt : Int) (ha : may attempt)
    (target : PowerState) (fuel checks : Nat) :
    L.Keeps (follow setup (hookAt setup depth) target attempt fuel checks) :=
  (h.stage hh).keeps_follow attempt ha target fuel checks

/-- The elementary steps of executions obey the law. -/
structure Launches (L : Law) : Prop where
  begun : ∀ s, L.Step s (s.onOrder PowerOrder.reset)
  entered : ∀ s phase, L.Step s (s.enter phase)
  queued : ∀ s job, job.attempt = s.order.attempt →
    L.Step s { s with pending := s.pending ++ [job] }

lemma Launches.step_attemptBegun (hl : L.Launches) (s : Scene) : L.Step s (attemptBegun s) :=
  (hl.begun s).trans (hl.entered _ .idle)

lemma Launches.keeps_conclude (hl : L.Launches) (h : L.Remarks) (setup : Setup)
    (target : PowerState) (name : Json) (checks : Nat) (seen : Glance) :
    L.Keeps (conclude setup target name checks seen) := by
  intro s
  rw [run_conclude]
  cases seen.failure? with
  | some failure => exact hl.entered s _
  | none =>
    -- A phase is entered, and one or two records are written in it.
    have hlog : ∀ phase r, L.Step s ((s.enter phase).note (.logged r)) :=
      fun phase r => (hl.entered s phase).trans (h.step_log _ r)
    have hlogs : ∀ phase r r', L.Step s (((s.enter phase).note (.logged r)).note (.logged r')) :=
      fun phase r r' => (hlog phase r).trans (h.step_log _ r')
    dsimp only
    split
    · exact hlog _ _
    · split
      · exact hlogs _ _ _
      · split
        · exact hlog _ _
        · exact hlogs _ _ _

lemma Launches.step_concluded (hl : L.Launches) (h : L.Remarks) {target : PowerState} {name : Json}
    {checks : Nat} {seen : Glance} {s t : Scene} {result : Except Failure PowerResult}
    (hr : (conclude setup target name checks seen).run s = (result, t)) : L.Step s t := by
  have hstep := hl.keeps_conclude h setup target name checks seen s
  rwa [hr] at hstep

/-- When an execution fails while it polls, its phase shows that. -/
lemma Launches.step_fallen (hl : L.Launches) (s : Scene) :
    L.Step s (if s.phase = .polling then s.enter .failed else s) := by
  by_cases hs : s.phase = .polling
  · rw [if_pos hs]
    exact hl.entered s .failed
  · rw [if_neg hs]
    exact Step.refl L s

/-- Handing a submission over obeys the law if running it does. -/
lemma Launches.step_handedOver_of (hl : L.Launches) {target : PowerState} {s : Scene}
    (hw : L.Step s ((work setup hook target s.order.attempt).run s).2) :
    L.Step s (handedOver setup hook target s.order.attempt s) := by
  unfold handedOver
  split
  · exact hw
  · exact hl.queued _ _ rfl
  · exact Step.refl L _
  · exact Step.refl L _

lemma Stage.step_handedOver (h : L.Stage (fun _ => True) allows setup depth) (hl : L.Launches)
    (target : PowerState) (s : Scene) :
    L.Step s (handedOver setup (hookAt setup depth) target s.order.attempt s) :=
  hl.step_handedOver_of (h.parts.keeps_work trivial target s)

lemma Launches.step_handedOver (hl : L.Launches) (h : L.Awaits (fun _ => True) allows setup)
    (hh : L.Hosts allows setup (hookAt setup depth)) (target : PowerState) (s : Scene) :
    L.Step s (handedOver setup (hookAt setup depth) target s.order.attempt s) :=
  (h.stage hh).step_handedOver hl target s

/-- What an execution does once its attempt has begun obeys the law if it may be done for that
attempt. -/
lemma Stage.step_attempt (h : L.Stage may allows setup depth) (hl : L.Launches)
    {target : PowerState} (ht : target ∈ PowerState.targets) {s : Scene}
    (ha : may (s.order.attempt + 1)) :
    L.Step (attemptBegun s) ((execute setup (hookAt setup depth) target).run s).2 := by
  let a := s.order.attempt + 1
  let handed := handedOver setup (hookAt setup depth) target a (attemptBegun s)
  have hhanded : L.Step (attemptBegun s) handed :=
    hl.step_handedOver_of (h.parts.keeps_work ha target _)
  have hfollow := (hhanded.trans (hl.entered _ .submitting)).trans ((hl.entered _ .polling).trans
    (h.keeps_follow a ha target (setup.checkBound + 1) 0 _))
  have hpoll : L.Step (attemptBegun s)
      ((poll setup (hookAt setup depth) target a).run (handed.enter .submitting)).2 := by
    rw [run_poll]
    rcases hs : (follow setup (hookAt setup depth) target a _ 0).run _ with
      ⟨failure | ⟨checks, seen⟩, t⟩
    · rwa [hs] at hfollow
    · rw [hs] at hfollow
      exact hfollow.trans (hl.keeps_conclude h.parts.remarks _ _ _ _ _ _)
  rw [run_execute ht]
  dsimp only
  split
  · rcases hs : (poll setup (hookAt setup depth) target _).run _ with ⟨failure | result, t⟩
    · rw [hs] at hpoll
      dsimp only
      split
      · exact hpoll.trans (hl.entered _ _)
      · exact hpoll
    · rwa [hs] at hpoll
  · exact Step.refl L _

/-- What an execution does once its attempt has begun obeys the law. -/
lemma Stage.step_begun (h : L.Stage (fun _ => True) allows setup depth) (hl : L.Launches)
    {target : PowerState} (ht : target ∈ PowerState.targets) (s : Scene) :
    L.Step (attemptBegun s) ((execute setup (hookAt setup depth) target).run s).2 :=
  h.step_attempt hl ht trivial

lemma Launches.step_begun (hl : L.Launches) (h : L.Awaits (fun _ => True) allows setup)
    (hh : L.Hosts allows setup (hookAt setup depth)) {target : PowerState}
    (ht : target ∈ PowerState.targets) (s : Scene) :
    L.Step (attemptBegun s) ((execute setup (hookAt setup depth) target).run s).2 :=
  (h.stage hh).step_begun hl ht s

/-- Where the parts of runs and the elementary steps of executions obey the law, whole executions
do, if they may be for the next attempt. -/
theorem Stage.step_execute (h : L.Stage may allows setup depth) (hl : L.Launches)
    (target : PowerState) {s : Scene} (ha : L.holds s → may (s.order.attempt + 1)) :
    L.Step s ((execute setup (hookAt setup depth) target).run s).2 := by
  intro hs
  by_cases ht : target ∈ PowerState.targets
  · exact ((hl.step_attemptBegun s).trans (h.step_attempt hl ht (ha hs))) hs
  · rw [run_execute_refused ht]
    exact h.parts.remarks.step_logged _ s hs

theorem Stage.keeps_execute (h : L.Stage (fun _ => True) allows setup depth) (hl : L.Launches)
    (target : PowerState) : L.Keeps (execute setup (hookAt setup depth) target) :=
  fun _ => h.step_execute hl target fun _ => trivial

lemma Launches.keeps_execute (hl : L.Launches) (h : L.Awaits (fun _ => True) allows setup)
    (hh : L.Hosts allows setup (hookAt setup depth)) (target : PowerState) :
    L.Keeps (execute setup (hookAt setup depth) target) :=
  (h.stage hh).keeps_execute hl target

end Law

end ServerPower.Proofs
