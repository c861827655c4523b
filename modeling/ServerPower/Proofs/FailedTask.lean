import ServerPower.Proofs.LastLook
import ServerPower.Proofs.Phases
import ServerPower.Proofs.Standing

/-!
# Failed tasks

When a check finds that the task failed, what the manager says of it is put into words and becomes
the failure of the attempt, which ends the execution. The manager may say anything as the message of
an error; if it is not a text there are no words, and the failure to find some ends the execution
while the attempt stays as it was.
-/

namespace ServerPower.Proofs
open Run

/-- The errors that a task reports have texts as their messages, if any. -/
def Worded (task : RemoteTask) : Prop :=
  ∀ message ∈ task.errors.filterMap RemoteTask.errorMessage?, ∃ text, message = .text text

/-- What an execution makes of a task that was found failed, when the order stood as `found`: its
result and how it leaves the order. -/
structure Surfaces (target : PowerState) (latest : RemoteTask) (found left : PowerOrder)
    (result : Except Failure PowerResult) : Prop where
  worded : Worded latest → ∃ reason cause, latest.errorSummary = .ok reason ∧
    (found.failure? <|> some (changeFailed target reason)) = some cause ∧
    left.done = true ∧ left.failure? = some cause ∧
    result = .error (submissionFailed target cause)
  unworded : ¬ Worded latest → left = found ∧
    ∃ failure, failure.kind = .wrongType ∧ result = .error failure
  changeFailed_iff : (∃ failure, result = .error failure ∧ failure.isA .powerChange) ↔ Worded latest

section Words

variable {task : RemoteTask} {index : Nat} {messages : List Json} {failure : Failure}

lemma joinMessages_of_texts (h : ∀ message ∈ messages, ∃ text, message = .text text)
    (index : Nat) : ∃ reason, RemoteTask.joinMessages index messages = .ok reason := by
  induction messages generalizing index with
  | nil => exact ⟨"", rfl⟩
  | cons message messages ih =>
    obtain ⟨text, rfl⟩ := h message (List.mem_cons_self ..)
    obtain ⟨others, hothers⟩ := ih (fun m hm => h m (List.mem_cons_of_mem _ hm)) (index + 1)
    simp only [RemoteTask.joinMessages, hothers]
    exact ⟨_, rfl⟩

lemma joinMessages_of_not_texts (h : ¬ ∀ message ∈ messages, ∃ text, message = .text text)
    (index : Nat) :
    ∃ failure, RemoteTask.joinMessages index messages = .error failure ∧
      failure.kind = .wrongType := by
  induction messages generalizing index with
  | nil => exact absurd (fun _ hm => nomatch hm) h
  | cons message messages ih =>
    by_cases hm : ∃ text, message = .text text
    · obtain ⟨text, rfl⟩ := hm
      have hrest : ¬ ∀ message ∈ messages, ∃ text, message = .text text := by
        intro hall
        refine h (fun m hmem => ?_)
        rcases List.mem_cons.mp hmem with rfl | hmem
        · exact ⟨text, rfl⟩
        · exact hall m hmem
      obtain ⟨failure, hfailure, hkind⟩ := ih hrest (index + 1)
      simp only [RemoteTask.joinMessages, hfailure]
      exact ⟨failure, rfl, hkind⟩
    · cases message with
      | text s => exact absurd ⟨s, rfl⟩ hm
      | _ => exact ⟨_, rfl, rfl⟩

/-- What a task says went wrong is known if its errors have texts as messages, and only then. -/
theorem errorSummary_of_worded (h : Worded task) : ∃ reason, task.errorSummary = .ok reason := by
  unfold RemoteTask.errorSummary
  split
  · exact ⟨_, rfl⟩
  · exact joinMessages_of_texts h 0

theorem errorSummary_of_not_worded (h : ¬ Worded task) :
    ∃ failure, task.errorSummary = .error failure ∧ failure.kind = .wrongType := by
  unfold RemoteTask.errorSummary
  split
  · rename_i hnone
    refine absurd (fun message hm => ?_) h
    rw [hnone] at hm
    cases hm
  · exact joinMessages_of_not_texts h 0

lemma not_isCompleted_of_isFailed (h : task.isFailed) : task.isCompleted = false := by
  have hother : failedTaskStates.contains (Text.upper "Completed") = false := by decide +kernel
  by_contra hc
  rw [Bool.not_eq_false, isCompleted_iff] at hc
  simp only [RemoteTask.isFailed, isFailedTaskState, Json.upper?, hc.2, Option.any_some,
    Bool.and_eq_true] at h
  exact Bool.false_ne_true (hother.symm.trans h.2)

end Words

section FailedTasks

variable {setup : Setup} {hook : Hook} {depth checks : Nat} {target : PowerState} {a : Int}
  {latest : RemoteTask} {s t u v : Scene} {result : Except Failure PowerResult}

lemma run_check_of_failed (target : PowerState)
    (hlatest : (refresh setup hook (.polling a) (some a)).run u = (.ok (some latest), v))
    (hfailed : latest.isFailed) :
    (check setup hook target a).run u =
      match latest.errorSummary with
      | .error failure => (.error failure, v)
      | .ok reason =>
        (.ok (), (v.onOrder (·.markDone (some (changeFailed target reason)) (some a))).note
          (.logged (progressRecord latest))) := by
  have hgoing := not_isCompleted_of_isFailed hfailed
  rw [run_check, hlatest]
  cases hsummary : latest.errorSummary with
  | error failure => simp only [hgoing, hfailed, hsummary, Bool.false_eq_true, if_false, if_true]
  | ok reason => simp only [hgoing, hfailed, hsummary, Bool.false_eq_true, if_false, if_true]

/-- Where a check of the loop ends with a failure, so does the execution. -/
lemma execute_of_check_eq_error (hh : Total hook) (ht : target ∈ PowerState.targets)
    (hopen : s.poolOpen) (hcomes : ComesTo setup hook target s checks u) {failure : Failure}
    (hc : (check setup hook target (s.order.attempt + 1)).run u = (.error failure, v))
    (hphase : (loop setup hook target s).2.phase = .polling)
    (hr : (execute setup hook target).run s = (result, t)) :
    result = .error failure ∧ t = v.enter .failed := by
  obtain ⟨fuel, hloop⟩ := hcomes.loop_eq hh
  rw [hc] at hloop
  rw [run_execute_of_loop ht hopen, hloop] at hr
  rw [hloop] at hphase
  dsimp only at hphase hr
  rw [if_pos hphase] at hr
  cases hr
  exact ⟨rfl, rfl⟩

/-- Where the last look of the loop sees a failure, the execution ends with it. -/
lemma execute_of_failure (ht : target ∈ PowerState.targets) (hopen : s.poolOpen) {cause : Failure}
    (hloop : loop setup hook target s = (.ok (checks, glanceAt v.order), v))
    (hcause : v.order.failure? = some cause)
    (hr : (execute setup hook target).run s = (result, t)) :
    result = .error (submissionFailed target cause) ∧ t = v.enter .failed := by
  rw [run_execute_of_loop ht hopen, hloop] at hr
  dsimp only at hr
  have hseen : (glanceAt v.order).failure? = some cause := hcause
  rw [conclude_of_failure hseen] at hr
  cases hr
  exact ⟨rfl, rfl⟩

/-- The attempt is neither done nor failed where the loop comes to another check. -/
lemma stands_of_comesTo (hcomes : ComesTo setup (hookAt setup depth) target s checks u) :
    DoneIfFailed u.order ∧ s.order.attempt + 1 ≤ u.order.attempt := by
  have hstage := (standing_awaits setup).stage (standing_hookAt setup depth)
  have hbegun := hstage.step_loopBegun standing_launches target s
  have hrounds := hstage.step_rounds trivial hcomes.rounds
  have hsettled : DoneIfFailed (attemptBegun s).order := fun hf => absurd rfl hf
  obtain ⟨hu, hstands⟩ := (hbegun.trans hrounds) hsettled
  exact ⟨hu, hstands.attempt⟩

/-- Where the loop goes on from `w` and the attempt is the current one in the end, it was so in `w`
and is after the pause, when what it had come to still stands. -/
lemma stands_of_pause {fuel : Nat} {w x : Scene} (hw : DoneIfFailed w.order)
    (hfrom : a ≤ w.order.attempt) (hend : t.order.attempt = a)
    (hx : x = afterPause setup (hookAt setup depth) (.polling a) w.order.interval w)
    (ht : t = ((follow setup (hookAt setup depth) target a fuel checks).run x).2) :
    w.order.attempt = a ∧ x.order.attempt = a ∧ Stands w.order x.order := by
  have hstage := (standing_awaits setup).stage (standing_hookAt setup depth)
  have hpaused : standing.Step w x := by
    rw [hx]
    exact hstage.step_pause (hstage.parts.paused w a _ trivial)
  obtain ⟨hsettled, hwx⟩ := hpaused hw
  have hxt : Stands x.order t.order := by
    rw [ht]
    exact (hstage.keeps_follow a trivial target fuel checks x hsettled).2
  have hmiddle := hwx.attempt
  have hlast := hxt.attempt
  exact ⟨by omega, by omega, hwx⟩

/-- If the last look of the loop sees the attempt done, the execution completes unless it failed. -/
lemma execute_of_done (ht : target ∈ PowerState.targets) (hopen : s.poolOpen)
    (hloop : loop setup hook target s = (.ok (checks, glanceAt v.order), v))
    (hdone : v.order.done = true) (hr : (execute setup hook target).run s = (result, t)) :
    t.order = v.order ∧
      ((∃ cause, v.order.failure? = some cause ∧ t.phase = .failed ∧
        result = .error (submissionFailed target cause)) ∨
      v.order.failure? = none ∧ t.phase = .done ∧ result = .ok .completed) := by
  cases hf : v.order.failure? with
  | some cause =>
    obtain ⟨rfl, rfl⟩ := execute_of_failure ht hopen hloop hf hr
    exact ⟨rfl, Or.inl ⟨cause, rfl, rfl, rfl⟩⟩
  | none =>
    rw [run_execute_of_loop ht hopen, hloop] at hr
    dsimp only at hr
    rw [run_conclude] at hr
    simp only [glanceAt, hf, hdone, if_true] at hr
    cases hr
    exact ⟨rfl, Or.inr ⟨rfl, rfl, rfl⟩⟩

/-- Where a check marks its attempt done and no other attempt is current at the end, the mark is the
last thing that the loop waits for, and what it says still stands then. -/
lemma execute_of_marked (ht : target ∈ PowerState.targets) (hopen : s.poolOpen)
    (hr : (execute setup (hookAt setup depth) target).run s = (result, t))
    (hattempt : t.order.attempt = s.order.attempt + 1)
    (hcomes : ComesTo setup (hookAt setup depth) target s checks u)
    (hlatest : (refresh setup (hookAt setup depth) (.polling (s.order.attempt + 1))
      (some (s.order.attempt + 1))).run u = (.ok (some latest), v)) {failure? : Option Failure}
    (hcheck : (check setup (hookAt setup depth) target (s.order.attempt + 1)).run u =
      (.ok (), (v.onOrder (·.markDone failure? (some (s.order.attempt + 1)))).note
        (.logged (progressRecord latest)))) :
    t.order.done = true ∧
      (∀ cause, (v.order.failure? <|> failure?) = some cause → t.order.failure? = some cause) ∧
      ((∃ cause, t.order.failure? = some cause ∧ t.phase = .failed ∧
        result = .error (submissionFailed target cause)) ∨
      t.order.failure? = none ∧ t.phase = .done ∧ result = .ok .completed) := by
  let a := s.order.attempt + 1
  have htotal := total_hookAt setup depth
  obtain ⟨hsettled, hfrom⟩ := stands_of_comesTo hcomes
  have hrefreshed : standing.Step u v := by
    have h := standing_serves.keeps_refresh (standing_hookAt setup depth)
      (show Within _ (.polling a) from trivial) (some a) u
    rwa [hlatest] at h
  obtain ⟨hv, huv⟩ := hrefreshed hsettled
  obtain ⟨fuel, hloop⟩ := hcomes.loop_eq htotal
  rw [hcheck] at hloop
  dsimp only at hloop
  let marked := v.onOrder (·.markDone failure? (some a))
  let w := marked.note (.logged (progressRecord latest))
  let x := afterPause setup (hookAt setup depth) (.polling a) w.order.interval w
  have hw : DoneIfFailed w.order := hv.markDone _ _
  have hnumber : w.order.attempt = v.order.attempt := PowerOrder.attempt_markDone _ _ _
  have hsofar : a ≤ w.order.attempt := by
    have hbetween := huv.attempt
    omega
  -- No other attempt is current at the end, so none was in between.
  have hend : (loop setup (hookAt setup depth) target s).2.order.attempt = a := by
    rw [← (left_of_loop ht hopen hr).1]
    exact hattempt
  obtain ⟨hcurrent, hstill, hstands⟩ :=
    stands_of_pause (x := x) hw hsofar hend rfl (congrArg Prod.snd hloop)
  have horder : w.order =
      { v.order with done := true, failure? := v.order.failure? <|> failure? } :=
    PowerOrder.markDone_of_current (hnumber.symm.trans hcurrent) _
  have hsame : w.order.attempt = x.order.attempt := hcurrent.trans hstill.symm
  have hdone : x.order.done = true := hstands.done hsame (by rw [horder])
  have hover : x.order.isOver := by simp [PowerOrder.isOver, hdone]
  rw [run_follow_of_over htotal hover] at hloop
  obtain ⟨hleft, houtcome⟩ := execute_of_done ht hopen hloop hdone hr
  rw [hleft]
  refine ⟨hdone, fun cause hcause => ?_, houtcome⟩
  exact hstands.failed hsame cause (by rw [horder]; exact hcause)

/-- What was found of a failed task becomes the failure of the attempt and of the execution, unless
the attempt failed otherwise while the task was asked for. -/
lemma execute_of_words (ht : target ∈ PowerState.targets) (hopen : s.poolOpen)
    (hr : (execute setup (hookAt setup depth) target).run s = (result, t))
    (hattempt : t.order.attempt = s.order.attempt + 1)
    (hcomes : ComesTo setup (hookAt setup depth) target s checks u)
    (hlatest : (refresh setup (hookAt setup depth) (.polling (s.order.attempt + 1))
      (some (s.order.attempt + 1))).run u = (.ok (some latest), v))
    (hfailed : latest.isFailed) {reason : String} (hreason : latest.errorSummary = .ok reason) :
    ∃ cause, (v.order.failure? <|> some (changeFailed target reason)) = some cause ∧
      t.order.done = true ∧ t.order.failure? = some cause ∧
      result = .error (submissionFailed target cause) ∧ t.phase = .failed := by
  have hcheck := run_check_of_failed target hlatest hfailed
  rw [hreason] at hcheck
  obtain ⟨hdone, hfails, houtcome⟩ :=
    execute_of_marked ht hopen hr hattempt hcomes hlatest hcheck
  obtain ⟨cause, hcause⟩ : ∃ cause,
      (v.order.failure? <|> some (changeFailed target reason)) = some cause := by
    cases v.order.failure? <;> exact ⟨_, rfl⟩
  have hfail := hfails cause hcause
  refine ⟨cause, hcause, hdone, hfail, ?_⟩
  rcases houtcome with ⟨other, hother, hphase, hresult⟩ | ⟨hnone, -⟩
  · obtain rfl : cause = other := Option.some.inj (hfail.symm.trans hother)
    exact ⟨hresult, hphase⟩
  · exact absurd (hfail.symm.trans hnone) (by simp)

end FailedTasks

/-- When a check of an execution finds its task failed, the attempt is neither done nor failed so
far, and the execution ends in the failed phase. If what the manager says of the errors can be put
into words, these become the failure that is recorded and raised, unless the attempt failed
otherwise while the task was asked for. If not, a failure of another kind is raised and the attempt
stays as it was found. -/
theorem failed_task_surfaces {setup : Setup} {depth checks : Nat} {target : PowerState}
    {latest : RemoteTask} {s t u v : Scene} {result : Except Failure PowerResult}
    (ht : target ∈ PowerState.targets) (hopen : s.poolOpen)
    (hr : (execute setup (hookAt setup depth) target).run s = (result, t))
    (hattempt : t.order.attempt = s.order.attempt + 1)
    (hcomes : ComesTo setup (hookAt setup depth) target s checks u)
    (hlatest : (refresh setup (hookAt setup depth) (.polling (s.order.attempt + 1))
      (some (s.order.attempt + 1))).run u = (.ok (some latest), v))
    (hfailed : latest.isFailed) :
    u.order.done = false ∧ u.order.failure? = none ∧ t.phase = .failed ∧
      Surfaces target latest v.order t.order result := by
  have hsettled := (stands_of_comesTo hcomes).1
  have hundone : u.order.done = false := by
    have hgoing := hcomes.going
    simp only [PowerOrder.isOver, Bool.or_eq_false_iff] at hgoing
    exact hgoing.1
  refine ⟨hundone, hsettled.failure?_eq_none hcomes.going, ?_⟩
  by_cases hw : Worded latest
  · obtain ⟨reason, hreason⟩ := errorSummary_of_worded hw
    obtain ⟨cause, hcause, hdone, hfail, hresult, hphase⟩ :=
      execute_of_words ht hopen hr hattempt hcomes hlatest hfailed hreason
    refine ⟨hphase, fun _ => ⟨reason, cause, hreason, hcause, hdone, hfail, hresult⟩,
      fun hn => absurd hw hn, fun _ => hw, fun _ => ?_⟩
    exact ⟨_, hresult, submissionFailed_isA target cause⟩
  · obtain ⟨failure, hfailure, hkind⟩ := errorSummary_of_not_worded hw
    have hcheck := run_check_of_failed target hlatest hfailed
    rw [hfailure] at hcheck
    obtain ⟨rfl, rfl⟩ := execute_of_check_eq_error (total_hookAt setup depth) ht hopen hcomes hcheck
      (abiding_loop ht hopen hr hattempt) hr
    refine ⟨rfl, fun hall => absurd hall hw, fun _ => ⟨rfl, failure, hkind, rfl⟩, ?_, fun hall =>
      absurd hall hw⟩
    rintro ⟨other, hother, hchange⟩
    cases hother
    rw [Failure.isA, hkind] at hchange
    exact absurd hchange (by decide)

/-- The blade is off. The manager accepts the change, and at the first check reports its task failed
with this message. -/
def failingBlade (message : String) : Scene :=
  bladeScene
    [{ content := .reply 200 "OK" "\x7b\"uri\": \"/b\", \"powerState\": \"Off\"\x7d" },
      { content := .reply 202 "Accepted" "\x7b\"uri\": \"/t\"\x7d" },
      { content := .reply 200 "OK" ("\x7b\"taskState\": \"Error\", \"taskErrors\": " ++
        "[\x7b\"message\": " ++ message ++ "\x7d]\x7d") }]

theorem failed_task_surfaces_failingBlade :
    let s := failingBlade "\"no power\""
    let r := (execute calm (hookAt calm 0) .on).run s
    r.2.phase = .failed ∧
      ∃ latest found, Worded latest ∧ Surfaces .on latest found r.2.order r.1 := by
  intro s r
  let a := s.order.attempt + 1
  let u := loopBegun calm (hookAt calm 0) .on s
  let latest : RemoteTask :=
    { uri := "/t", state := "Error", errors := [.object [("message", .text "no power")]] }
  have hfound : ((refresh calm (hookAt calm 0) (.polling a) (some a)).run u).1 =
      .ok (some latest) := by decide +kernel
  have hlatest := Prod.eta ((refresh calm (hookAt calm 0) (.polling a) (some a)).run u)
  rw [hfound] at hlatest
  have hcomes : ComesTo calm (hookAt calm 0) .on s 0 u :=
    ⟨.here 0 u, Nat.zero_le _, by decide +kernel, by decide +kernel⟩
  have hattempt : r.2.order.attempt = a := by decide +kernel
  have ht : PowerState.on ∈ PowerState.targets := by decide
  have hopen : s.poolOpen := rfl
  have hfailed : latest.isFailed := by decide +kernel
  have hworded : Worded latest := by
    intro message hm
    have hone : latest.errors.filterMap RemoteTask.errorMessage? = [.text "no power"] := by
      decide +kernel
    rw [hone, List.mem_singleton] at hm
    exact ⟨"no power", hm⟩
  obtain ⟨-, -, hphase, hsurfaces⟩ := failed_task_surfaces ht hopen
    (Prod.eta r).symm hattempt hcomes hlatest.symm hfailed
  exact ⟨hphase, latest, _, hworded, hsurfaces⟩

/-- There is no text for a message that is a number: the failure of the task is neither recorded nor
raised. -/
theorem failed_task_without_words :
    let r := (execute calm (hookAt calm 0) .on).run (failingBlade "5")
    r.1 = .error ⟨.wrongType, "sequence item 0: expected str instance, int found"⟩ ∧
      r.2.order.task.isFailed ∧ r.2.order.done = false ∧ r.2.order.failure? = none := by
  decide +kernel

end ServerPower.Proofs
