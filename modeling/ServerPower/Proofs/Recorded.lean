import ServerPower.Proofs.FailedTask
import ServerPower.Proofs.Overlapping

/-!
# What is recorded of a task

A refresh yields the task with the manager's answer merged in, and records it only if the address
that is recorded by then is the one of the merged task. So an answer that gives the task another
address is yielded but not recorded, and a check can end an execution with a task whose record goes
on as it was.
-/

namespace ServerPower.Proofs
open Run

/-- While a refresh waits for its answer, nobody else touches the task or begins an attempt. -/
def TaskAlone (hook : Hook) (origin : Origin) (s : Scene) : Prop :=
  ∀ request,
    s.order.hardware.client.request "GET" (.text s.order.task.uri) .null = .ok request →
    SameTask s.order (inFlight hook request (s.note (.sent origin request))).order

/-- What is recorded after a refresh that yields `latest` where `known` was recorded. -/
def recordedAfter (known latest : RemoteTask) : RemoteTask :=
  if latest.uri = known.uri then latest else known

/-- A check, made in `u`, of an execution from `s` finds that the task of the attempt ended, and
until the execution ends, in `t`, nobody else touches the task or begins an attempt. -/
structure FindsEnd (setup : Setup) (depth : Nat) (target : PowerState) (latest : RemoteTask)
    (s u v t : Scene) : Prop where
  comes : ∃ checks, ComesTo setup (hookAt setup depth) target s checks u
  current : u.order.attempt = s.order.attempt + 1
  alone : TaskAlone (hookAt setup depth) (.polling (s.order.attempt + 1)) u
  found : (refresh setup (hookAt setup depth) (.polling (s.order.attempt + 1))
    (some (s.order.attempt + 1))).run u = (.ok (some latest), v)
  ended : latest.isCompleted ∨ latest.isFailed ∧ Worded latest
  kept : SameTask v.order t.order

/-- An execution ends with what a check found, `latest`, where `known` was recorded of the task. The
task that it leaves on record has ended in the same way just if the address was not changed, or the
record was in such a state before. -/
structure EndsWith (target : PowerState) (known latest : RemoteTask) (left : PowerOrder)
    (result : Except Failure PowerResult) : Prop where
  done : left.done = true
  recorded : left.task = recordedAfter known latest
  outcome : (∃ cause, left.failure? = some cause ∧
      result = .error (submissionFailed target cause)) ∨
    left.failure? = none ∧ latest.isCompleted ∧ result = .ok .completed
  completed : latest.isCompleted →
    (left.task.isCompleted ↔ latest.uri = known.uri ∨ known.isCompleted)
  failed : latest.isFailed → left.failure? ≠ none ∧
    (left.task.isFailed ↔ latest.uri = known.uri ∨ known.isFailed)

section Records

variable {setup : Setup} {hook : Hook} {depth : Nat} {origin : Origin} {attempt? : Option Int}
  {target : PowerState} {known latest : RemoteTask} {s t u v : Scene}
  {result : Except Failure PowerResult}

lemma taskAlone_zero (setup : Setup) (origin : Origin) (s : Scene) :
    TaskAlone (hookAt setup 0) origin s :=
  fun _ _ => ⟨rfl, rfl⟩

lemma recordedAfter_eq_latest_iff :
    recordedAfter known latest = latest ↔ latest.uri = known.uri := by
  unfold recordedAfter
  split
  · rename_i h
    exact iff_of_true rfl h
  · rename_i h
    exact iff_of_false (fun hk => h (congrArg RemoteTask.uri hk).symm) h

/-- The record is in a state that `latest` is in just if it is `latest` or was in that state
before. -/
lemma recordedAfter_iff {P : RemoteTask → Prop} (h : P latest) :
    P (recordedAfter known latest) ↔ latest.uri = known.uri ∨ P known := by
  unfold recordedAfter
  split
  · rename_i hu
    exact iff_of_true h (Or.inl hu)
  · rename_i hu
    exact ⟨Or.inr, fun hor => hor.resolve_left hu⟩

lemma task_noteProgress {p : PowerOrder} (hc : p.isCurrent attempt?) :
    (p.noteProgress attempt? latest).task = recordedAfter p.task latest := by
  unfold recordedAfter
  split
  · rename_i hu
    rw [noteProgress_of_current hc hu]
  · rename_i hu
    have hother : (p.task.uri == latest.uri) = false := by simpa using Ne.symm hu
    simp [PowerOrder.noteProgress, hother]

/-- A refresh that yields a task was answered, with an object. -/
lemma refreshed_of_run (h : Total hook)
    (hr : (refresh setup hook origin attempt?).run s = (.ok (some latest), t)) :
    ∃ request members, Refreshed setup hook origin attempt? request members latest s t := by
  have hrun := hr
  rw [run_refresh] at hrun
  dsimp only at hrun
  split at hrun
  · rw [run_call h] at hrun
    cases hq : s.order.hardware.client.request "GET" (.text s.order.task.uri) .null with
    | error failure =>
      rw [hq] at hrun
      cases hrun
    | ok request =>
      rw [hq] at hrun
      dsimp only at hrun
      cases hbody : (readAnswer setup.strict "GET" (.text s.order.task.uri) request
        (s.supply.next request).1).outcome with
      | error failure =>
        rw [hbody] at hrun
        cases hrun
      | ok body =>
        simp only [hbody] at hrun
        cases hread : (Client.readTask setup.strict (.text s.order.task.uri) body
          s.order.task).outcome with
        | error failure =>
          rw [hread] at hrun
          cases hrun
        | ok known =>
          obtain ⟨members, hparse, -⟩ := readTask_eq_ok_iff.mp hread
          exact ⟨request, members, hr, hq, body, hbody, hparse⟩
  · cases hrun

/-- The address after a report is the one of before unless the report gives another one. -/
lemma uri_update_iff {members : List (String × Json)}
    (h : known.update (.object members) = .ok latest) :
    latest.uri = known.uri ↔ Json.member members "uri" = .null ∨
      Json.member members "uri" = .text known.uri := by
  have hvalue : .text latest.uri = merged members .uri (.text known.uri) := value_update h .uri
  by_cases htells : Tells members .uri
  · rw [merged_of_tells htells] at hvalue
    have hgiven : Json.member members "uri" ≠ .null := htells
    have htext : Json.member members "uri" = .text latest.uri := hvalue.symm
    simp [htext]
  · rw [merged_of_not_tells htells, Json.text.injEq] at hvalue
    exact iff_of_true hvalue (Or.inl (not_not.mp htells))

/-- A refresh for the current attempt leaves on record what it yields, if the address did not
change, and else what was recorded before. -/
lemma recorded_of_refresh (h : Total hook) (hcurrent : s.order.isCurrent attempt?)
    (halone : TaskAlone hook origin s)
    (hr : (refresh setup hook origin attempt?).run s = (.ok (some latest), t)) :
    t.order.task = recordedAfter s.order.task latest := by
  obtain ⟨request, members, hrefreshed⟩ := refreshed_of_run h hr
  have hsame := halone request hrefreshed.asked
  have hstill := (hsame.isCurrent attempt?).trans hcurrent
  rw [(hrefreshed.outcome h).2, task_noteProgress hstill, hsame.task]

lemma FindsEnd.recorded (h : FindsEnd setup depth target latest s u v t) :
    t.order.task = recordedAfter u.order.task latest := by
  rw [h.kept.task]
  exact recorded_of_refresh (total_hookAt setup depth) (PowerOrder.isCurrent_eq_true h.current)
    h.alone h.found

lemma FindsEnd.attempt (h : FindsEnd setup depth target latest s u v t) :
    t.order.attempt = s.order.attempt + 1 := by
  have htotal := total_hookAt setup depth
  obtain ⟨request, members, hrefreshed⟩ := refreshed_of_run htotal h.found
  have hsame := h.alone request hrefreshed.asked
  rw [h.kept.attempt, (hrefreshed.outcome htotal).2, PowerOrder.attempt_noteProgress,
    hsame.attempt, h.current]

/-- Where a check finds the task ended, the execution ends with it. -/
lemma endsWith_of_findsEnd (ht : target ∈ PowerState.targets) (hopen : s.poolOpen)
    (hr : (execute setup (hookAt setup depth) target).run s = (result, t))
    (hfinds : FindsEnd setup depth target latest s u v t) :
    EndsWith target u.order.task latest t.order result := by
  obtain ⟨checks, hcomes⟩ := hfinds.comes
  have hrecorded := hfinds.recorded
  have hattempt := hfinds.attempt
  have hcompletes : latest.isCompleted →
      (t.order.task.isCompleted ↔ latest.uri = u.order.task.uri ∨ u.order.task.isCompleted) := by
    intro hcompleted
    rw [hrecorded]
    exact recordedAfter_iff (P := fun task => task.isCompleted) hcompleted
  have hfails : latest.isFailed →
      (t.order.task.isFailed ↔ latest.uri = u.order.task.uri ∨ u.order.task.isFailed) := by
    intro hfailed
    rw [hrecorded]
    exact recordedAfter_iff (P := fun task => task.isFailed) hfailed
  rcases hfinds.ended with hcompleted | ⟨hfailed, hworded⟩
  · have hcheck : (check setup (hookAt setup depth) target (s.order.attempt + 1)).run u =
        (.ok (), (v.onOrder (·.markDone none (some (s.order.attempt + 1)))).note
          (.logged (progressRecord latest))) := by
      rw [run_check, hfinds.found]
      simp only [hcompleted, if_true]
    obtain ⟨hdone, -, houtcome⟩ :=
      execute_of_marked ht hopen hr hattempt hcomes hfinds.found hcheck
    refine ⟨hdone, hrecorded, ?_, hcompletes, fun hfailed => ?_⟩
    · rcases houtcome with ⟨cause, hcause, -, hresult⟩ | ⟨hnone, -, hresult⟩
      · exact Or.inl ⟨cause, hcause, hresult⟩
      · exact Or.inr ⟨hnone, hcompleted, hresult⟩
    · exact absurd (hcompleted.symm.trans (not_isCompleted_of_isFailed hfailed)) (by decide)
  · obtain ⟨reason, hreason⟩ := errorSummary_of_worded hworded
    obtain ⟨cause, -, hdone, hcause, hresult, -⟩ :=
      execute_of_words ht hopen hr hattempt hcomes hfinds.found hfailed hreason
    have hfailure : t.order.failure? ≠ none := by
      rw [hcause]
      exact Option.some_ne_none cause
    exact ⟨hdone, hrecorded, Or.inl ⟨cause, hcause, hresult⟩, hcompletes,
      fun hf => ⟨hfailure, hfails hf⟩⟩

end Records

/-- What a refresh for the current attempt yields is recorded just if the manager's answer does not
give the task another address; else the record stays as it was. So an execution that ends with what
a check found of the task leaves the task on record in that state only if the answer to the check
left the address alone, or the record was in that state already. -/
theorem record_of_refresh (setup : Setup) (depth : Nat) :
    (∀ origin attempt? s t latest, s.order.isCurrent attempt? →
      TaskAlone (hookAt setup depth) origin s →
      (refresh setup (hookAt setup depth) origin attempt?).run s = (.ok (some latest), t) →
      t.order.task = recordedAfter s.order.task latest ∧
      ∃ request members, Refreshed setup (hookAt setup depth) origin attempt? request members
        latest s t ∧
        (t.order.task = latest ↔ Json.member members "uri" = .null ∨
          Json.member members "uri" = .text s.order.task.uri)) ∧
    ∀ target s t u v latest result, target ∈ PowerState.targets → s.poolOpen →
      (execute setup (hookAt setup depth) target).run s = (result, t) →
      FindsEnd setup depth target latest s u v t →
      EndsWith target u.order.task latest t.order result := by
  have htotal := total_hookAt setup depth
  refine ⟨fun origin attempt? s t latest hcurrent halone hr => ?_,
    fun target s t u v latest result ht hopen hr hfinds => endsWith_of_findsEnd ht hopen hr hfinds⟩
  have hrecorded := recorded_of_refresh htotal hcurrent halone hr
  obtain ⟨request, members, hrefreshed⟩ := refreshed_of_run htotal hr
  refine ⟨hrecorded, request, members, hrefreshed, ?_⟩
  rw [hrecorded, recordedAfter_eq_latest_iff]
  exact uri_update_iff (hrefreshed.outcome htotal).1

/-- The blade is off. The manager accepts the change as a running task, and answers the first check
with this report. -/
def reportingBlade (report : String) : Scene :=
  bladeScene
    [{ content := .reply 200 "OK" "\x7b\"uri\": \"/b\", \"powerState\": \"Off\"\x7d" },
      { content := .reply 202 "Accepted"
          "\x7b\"uri\": \"/rest/tasks/1\", \"taskState\": \"Running\"\x7d" },
      { content := .reply 200 "OK" report }]

theorem record_of_refresh_reportingBlade :
    let s := reportingBlade "\x7b\"taskState\": \"Completed\"\x7d"
    let r := (execute calm (hookAt calm 0) .on).run s
    let known : RemoteTask := { uri := "/rest/tasks/1", state := "Running" }
    EndsWith .on known { known with state := "Completed" } r.2.order r.1 := by
  intro s r known
  let a := s.order.attempt + 1
  let u := loopBegun calm (hookAt calm 0) .on s
  let latest : RemoteTask := { known with state := "Completed" }
  have hfound : ((refresh calm (hookAt calm 0) (.polling a) (some a)).run u).1 =
      .ok (some latest) := by decide +kernel
  have hlatest := Prod.eta ((refresh calm (hookAt calm 0) (.polling a) (some a)).run u)
  rw [hfound] at hlatest
  let v := ((refresh calm (hookAt calm 0) (.polling a) (some a)).run u).2
  have hknown : u.order.task = known := by decide +kernel
  have htask : r.2.order.task = v.order.task := by decide +kernel
  have hattempt : r.2.order.attempt = v.order.attempt := by decide +kernel
  have hcomes : ComesTo calm (hookAt calm 0) .on s 0 u :=
    ⟨.here 0 u, Nat.zero_le _, by decide +kernel, by decide +kernel⟩
  have hcurrent : u.order.attempt = a := by decide +kernel
  have hended : latest.isCompleted := by decide +kernel
  have hfinds : FindsEnd calm 0 .on latest s u v r.2 :=
    ⟨⟨0, hcomes⟩, hcurrent, taskAlone_zero calm _ u, hlatest.symm, Or.inl hended, htask, hattempt⟩
  have hends := (record_of_refresh calm 0).2 .on s r.2 u v latest r.1 (by decide) rfl
    (Prod.eta r).symm hfinds
  rwa [hknown] at hends

/-- The report of the finished task spells its address with a slash at the end. The execution
completes with it, and on record the task runs for ever. -/
theorem completion_not_recorded :
    let s := reportingBlade
      "\x7b\"uri\": \"/rest/tasks/1/\", \"taskState\": \"Completed\"\x7d"
    let a := s.order.attempt + 1
    let check := (refresh calm (hookAt calm 0) (.polling a) (some a)).run
      (loopBegun calm (hookAt calm 0) .on s)
    let r := (execute calm (hookAt calm 0) .on).run s
    check.1 = .ok (some { uri := "/rest/tasks/1/", state := "Completed" }) ∧
      check.2.order.task = { uri := "/rest/tasks/1", state := "Running" } ∧
      r.1 = .ok .completed ∧ r.2.order.attempt = a ∧ r.2.order.task = check.2.order.task := by
  decide +kernel

end ServerPower.Proofs
