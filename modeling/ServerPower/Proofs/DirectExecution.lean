import ServerPower.Proofs.DirectChange

/-!
# Direct executions

Where the pool runs the submission while it is handed over and nobody else acts, an execution is the
direct change. While its task is followed the order holds that task and is otherwise as the
submission left it, so that each check goes as the next answer says.
-/

namespace ServerPower.Proofs
open Run

section Submission

variable {a : Int} {base : PowerOrder} {s t : Scene} {contents : List AnswerContent}

def Fate.applyTo (order : PowerOrder) : Fate → PowerOrder
  | .failed failure => { order with done := true, failure? := some failure }
  | .needless => { order with done := true }
  | .accepted task => { order with task }

@[simp] lemma Fate.hardware_applyTo (order : PowerOrder) (fate : Fate) :
    (fate.applyTo order).hardware = order.hardware := by
  cases fate <;> rfl

/-- A run from a scene goes as the submission says, where `base` is the order before anything comes
of it. A failure is noted in the order or escapes. -/
structure Submission.Describes (submission : Submission) (base : PowerOrder) (s : Scene)
    (r : Except Failure Unit × Scene) : Prop where
  passes : Passes submission.requests 0 submission.left s r.2
  ends : (r.1 = .ok () ∧ r.2.order = submission.fate.applyTo base) ∨
    ∃ failure, r.1 = .error failure ∧ submission.fate = .failed failure ∧ r.2.order = base

lemma gaveUp_order_eq (ha : t.order.attempt = a) (hf : t.order.failure? = none) (message : String)
    (failure : Failure) :
    (gaveUp a message failure t).order = (Fate.failed failure).applyTo t.order := by
  simp [gaveUp, PowerOrder.markDone_of_current ha, Fate.applyTo, hf]

lemma describes_failed {failure : Failure} {hardware : Hardware} {requests : List Request}
    {left : List AnswerContent} (hp : Passes requests 0 left s t) (ho : t.order = base)
    (ha : base.attempt = a) (hf : base.failure? = none) (handled : Bool) (message : String) :
    Submission.Describes ⟨.failed failure, hardware, requests, left⟩ base s
      (if handled then (.ok (), gaveUp a message failure t) else (.error failure, t)) := by
  cases handled with
  | true =>
    refine ⟨(hp.log _).onOrder _, Or.inl ⟨rfl, ?_⟩⟩
    rw [← ho]
    exact gaveUp_order_eq (by rw [ho, ha]) (by rw [ho, hf]) _ _
  | false => exact ⟨hp, Or.inr ⟨failure, rfl, rfl, ho⟩⟩

lemma direct_requestChange (setup : Setup) (depth : Nat) (target : PowerState)
    (h : Alone contents s) {latest : Hardware} {client : Client}
    (hh : s.order.hardware = ⟨latest, client⟩) (ha : s.order.attempt = a)
    (hf : s.order.failure? = none) (origin : Origin) :
    (directRequest setup.strict target client latest contents).Describes s.order s
      ((requestChange setup (hookAt setup depth) origin target a).run s) := by
  let begun := s.note (.logged (announcement target latest))
  have hbegun : Passes [] 0 contents s begun := (Passes.refl h).log _
  rw [run_requestChange]
  simp only [hh]
  unfold directRequest
  cases latest.powerUri with
  | error failure => exact ⟨hbegun, Or.inr ⟨failure, rfl, rfl, rfl⟩⟩
  | ok uri =>
    dsimp only
    cases hr : client.request "PUT" (.text uri) (changeBody target) with
    | error failure =>
      rw [run_call (total_hookAt setup depth), hr]
      dsimp only
      exact describes_failed hbegun rfl ha hf _ _
    | ok request =>
      obtain ⟨t, hc, ho, hp⟩ := alone_call hbegun.alone hr setup depth origin
      replace hp := hbegun.trans hp
      rw [hc]
      dsimp only
      unfold taskFrom
      cases (readAnswer setup.strict "PUT" (.text uri) request (nextAnswer contents)).outcome with
      | error failure => exact describes_failed hp ho ha hf _ _
      | ok body =>
        simp only [bind, Except.bind]
        let read := Client.readTask setup.strict (.text uri) body {}
        have hread := hp.logged read.records
        have horder : (logged read.records t).order = s.order := by
          rw [logged_order, ho]
          rfl
        cases (Client.readTask setup.strict (.text uri) body {}).outcome with
        | error failure => exact describes_failed hread horder ha hf _ _
        | ok task =>
          refine ⟨hread.onOrder _, Or.inl ⟨rfl, ?_⟩⟩
          rw [Scene.order_onOrder, horder, PowerOrder.noteTask_of_current ha]
          rfl

/-- The submission goes as described, from the order with the hardware as it is known by then. -/
lemma direct_submit (setup : Setup) (depth : Nat) (target : PowerState) (h : Alone contents s)
    (hu : s.order.hardware.hardware.uri.isGiven) (ha : s.order.attempt = a)
    (hf : s.order.failure? = none) :
    let submission := directSubmission setup.strict target s.order.hardware contents
    ∃ observed, submission.Describes
      { s.order with observed, hardware := ⟨submission.hardware, s.order.hardware.client⟩ } s
      ((submit setup (hookAt setup depth) target (some a)).run s) := by
  let counted : Scene := { s with submissions := s.submissions + 1 }
  have hcounted : Passes [] 0 contents s counted := (Passes.refl h).still rfl rfl rfl
  rcases hm : s.order.hardware with ⟨hardware, client⟩
  have hsame : s.order =
      { s.order with observed := s.order.observed, hardware := ⟨hardware, client⟩ } := by
    rw [← hm]
  rw [hm] at hu
  unfold directSubmission
  rw [run_submit]
  dsimp only [Option.getD_some]
  rw [run_observe]
  simp only [hm, hu, if_true]
  cases hr : client.request "GET" hardware.uri .null with
  | error failure =>
    rw [run_call (total_hookAt setup depth), hr]
    exact ⟨s.order.observed, describes_failed hcounted hsame ha hf _ _⟩
  | ok request =>
    obtain ⟨t, hc, ho, hp⟩ := alone_call hcounted.alone hr setup depth
      (.submission s.submissions a)
    replace hp := hcounted.trans hp
    rw [hc]
    dsimp only
    unfold hardwareFrom
    cases (readAnswer setup.strict "GET" hardware.uri request (nextAnswer contents)).outcome with
    | error failure =>
      exact ⟨s.order.observed, describes_failed hp (ho.trans hsame) ha hf _ _⟩
    | ok body =>
      simp only [bind, Except.bind]
      let found := Client.readHardware setup.strict hardware.uri body
      have hfound := hp.logged found.records
      cases (Client.readHardware setup.strict hardware.uri body).outcome with
      | error failure =>
        dsimp only
        have horder : (logged found.records t).order =
            { s.order with observed := s.order.observed, hardware := ⟨hardware, client⟩ } := by
          rw [logged_order, ho]
          exact hsame
        exact ⟨s.order.observed, describes_failed hfound horder ha hf _ _⟩
      | ok latest =>
        dsimp only
        let noted : Scene := (logged latest.classify.records (logged found.records t)).onOrder
          (·.noteHardware (some a) ⟨latest, client⟩ (classified latest))
        have hnoted : Passes [request] 0 contents.tail s noted :=
          (hfound.logged latest.classify.records).onOrder _
        have horder : noted.order =
            { s.order with observed := classified latest, hardware := ⟨latest, client⟩ } := by
          simp only [noted, Scene.order_onOrder, logged_order, ho]
          exact PowerOrder.noteHardware_of_current ha _ _
        refine ⟨classified latest, ?_⟩
        by_cases hs : classified latest = target
        · rw [if_pos hs, if_pos hs]
          refine ⟨(hnoted.log _).onOrder _, Or.inl ⟨rfl, ?_⟩⟩
          show noted.order.markDone none (some a) = _
          have hnow : noted.order.attempt = a := by rw [horder, ha]
          rw [PowerOrder.markDone_of_current hnow, horder]
          simp [Fate.applyTo, hf]
        · rw [if_neg hs, if_neg hs]
          have hrest := direct_requestChange setup depth target hnoted.alone (by rw [horder])
            (by rw [horder, ha]) (by rw [horder, hf]) (.submission s.submissions a)
          rw [horder] at hrest
          rw [directRequest_hardware]
          exact ⟨hnoted.trans hrest.passes, hrest.ends⟩

lemma direct_work (setup : Setup) (depth : Nat) (target : PowerState) (h : Alone contents s)
    (hu : s.order.hardware.hardware.uri.isGiven) (ha : s.order.attempt = a)
    (hf : s.order.failure? = none) :
    let submission := directSubmission setup.strict target s.order.hardware contents
    let t := ((work setup (hookAt setup depth) target a).run s).2
    Passes submission.requests 0 submission.left s t ∧
      ∃ observed, t.order = submission.fate.applyTo
        { s.order with observed, hardware := ⟨submission.hardware, s.order.hardware.client⟩ } := by
  obtain ⟨observed, hsubmit⟩ := direct_submit setup depth target h hu ha hf
  dsimp only
  rw [run_work]
  rcases hr : (submit setup (hookAt setup depth) target (some a)).run s with ⟨failure | _, t⟩
  · rw [hr] at hsubmit
    rcases hsubmit.ends with ⟨he, -⟩ | ⟨failure', he, hfate, ho⟩
    · cases he
    · cases he
      refine ⟨(hsubmit.passes.log _).onOrder _, observed, ?_⟩
      rw [hfate, ← ho]
      exact gaveUp_order_eq (by rw [ho, ha]) (by rw [ho, hf]) _ _
  · rw [hr] at hsubmit
    rcases hsubmit.ends with ⟨-, ho⟩ | ⟨failure', he, -⟩
    · exact ⟨hsubmit.passes, observed, ho⟩
    · cases he

end Submission

section Checks

variable {setup : Setup} {depth : Nat} {target : PowerState} {a : Int} {name : Json}
  {client : Client} {limit : Nat} {task : RemoteTask} {s t : Scene} {contents : List AnswerContent}

def pursue (setup : Setup) (hook : Hook) (target : PowerState) (attempt : Int) (name : Json)
    (fuel checks : Nat) : Run PowerResult := do
  let (checks, seen) ← follow setup hook target attempt fuel checks
  conclude setup target name checks seen

lemma run_poll_eq_pursue (setup : Setup) (hook : Hook) (target : PowerState) (attempt : Int)
    (s : Scene) :
    (poll setup hook target attempt).run s =
      (pursue setup hook target attempt s.order.hardware.hardware.name (setup.checkBound + 1) 0).run
        (s.enter .polling) := by
  rw [run_poll, pursue, run_bind]
  rcases (follow setup hook target attempt _ 0).run _ with ⟨failure | ⟨checks, seen⟩, t⟩ <;> rfl

lemma run_pursue_of_over (hs : s.order.isOver) (fuel checks : Nat) :
    (pursue setup (hookAt setup depth) target a name fuel checks).run s =
      (conclude setup target name checks (glanceAt s.order)).run s := by
  rw [pursue, run_bind]
  cases fuel with
  | zero => rfl
  | succ fuel =>
    rw [run_follow_succ (total_hookAt setup depth), if_pos hs]

lemma run_pursue_succ (hs : s.order.isOver = false) (hl : s.order.limit = .int limit)
    (fuel checks : Nat) :
    (pursue setup (hookAt setup depth) target a name (fuel + 1) checks).run s =
      if checks < limit then
        match (check setup (hookAt setup depth) target a).run s with
        | (.error failure, t) => (.error failure, t)
        | (.ok (), t) => (pursue setup (hookAt setup depth) target a name fuel (checks + 1)).run
            (afterPause setup (hookAt setup depth) (.polling a) t.order.interval t)
      else (conclude setup target name checks (glanceAt s.order)).run s := by
  rw [pursue, run_bind, run_follow_succ (total_hookAt setup depth), hs,
    PowerOrder.allowsCheck_int hl]
  by_cases hc : checks < limit
  · simp only [Bool.false_eq_true, if_false, Int.ofNat_lt, hc, decide_true, if_true]
    rcases (check setup (hookAt setup depth) target a).run s with ⟨failure | _, t⟩
    · rfl
    · dsimp only
      rw [pursue, run_bind]
  · simp only [Bool.false_eq_true, if_false, Int.ofNat_lt, hc, decide_false]

lemma conclude_result (setup : Setup) (target : PowerState) (name : Json) (checks : Nat)
    (seen : Glance) (s : Scene) :
    ((conclude setup target name checks seen).run s).1 =
      match seen.failure? with
      | some failure => .error (submissionFailed target failure)
      | none =>
        if seen.done then .ok .completed
        else if seen.cancelled then .ok .cancelled
        else timeout setup.failOnTimeout target name checks := by
  rw [run_conclude]
  cases seen.failure? with
  | some failure => rfl
  | none =>
    unfold timeout
    dsimp only
    split
    · rfl
    · split
      · rfl
      · split <;> rfl

lemma Passes.conclude {requests : List Request} {waits : Nat} {left : List AnswerContent}
    (h : Passes requests waits left s t) (setup : Setup) (target : PowerState) (name : Json)
    (checks : Nat) (seen : Glance) :
    Passes requests waits left s ((Run.conclude setup target name checks seen).run t).2 := by
  rw [run_conclude]
  cases seen.failure? with
  | some failure => exact h.enter _
  | none =>
    dsimp only
    split
    · exact (h.enter _).log _
    · split
      · exact ((h.enter _).log _).log _
      · split
        · exact (h.enter _).log _
        · exact ((h.enter _).log _).log _

structure Underway (a : Int) (client : Client) (limit : Nat) (task : RemoteTask)
    (order : PowerOrder) : Prop where
  attempt : order.attempt = a
  done : order.done = false
  failure? : order.failure? = none
  cancelled : order.cancelled = false
  limit : order.limit = .int limit
  client : order.hardware.client = client
  task : order.task = task

lemma Underway.not_over (h : Underway a client limit task s.order) : s.order.isOver = false := by
  simp [PowerOrder.isOver, h.done, h.cancelled]

lemma Underway.noteProgress {order : PowerOrder} (h : Underway a client limit task order)
    (latest : RemoteTask) :
    Underway a client limit (if latest.uri = task.uri then latest else task)
      (order.noteProgress (some a) latest) := by
  have hc := PowerOrder.isCurrent_eq_true h.attempt
  unfold PowerOrder.noteProgress
  by_cases hu : latest.uri = task.uri
  · rw [if_pos hu, if_pos (by simp [hc, h.task, hu])]
    exact { h with task := rfl }
  · rw [if_neg hu, if_neg (by simpa [hc, h.task] using Ne.symm hu)]
    exact h

lemma direct_refresh (setup : Setup) (depth : Nat) (h : Alone contents s)
    (hs : Underway a client limit task s.order) (hu : task.uri ≠ "") {request : Request}
    (hr : client.request "GET" (.text task.uri) .null = .ok request) :
    ∃ t, Passes [request] 0 contents.tail s t ∧
      ((∃ failure, taskFrom setup.strict "GET" task.uri request contents task = .error failure ∧
          (refresh setup (hookAt setup depth) (.polling a) (some a)).run s = (.error failure, t)) ∨
        ∃ latest, taskFrom setup.strict "GET" task.uri request contents task = .ok latest ∧
          (refresh setup (hookAt setup depth) (.polling a) (some a)).run s =
            (.ok (some latest), t) ∧
          t.order = s.order.noteProgress (some a) latest) := by
  have ht : s.order.task.exists? = true := by simpa [RemoteTask.exists?, hs.task] using hu
  rw [run_refresh]
  simp only [ht, if_true]
  rw [hs.task, hs.client]
  obtain ⟨t, hc, ho, hp⟩ := alone_call h hr setup depth (.polling a)
  rw [hc]
  unfold taskFrom
  cases (readAnswer setup.strict "GET" (.text task.uri) request (nextAnswer contents)).outcome with
  | error failure => exact ⟨t, hp, Or.inl ⟨failure, rfl, rfl⟩⟩
  | ok body =>
    let read := Client.readTask setup.strict (.text task.uri) body task
    have hread := hp.logged read.records
    simp only [bind, Except.bind]
    cases (Client.readTask setup.strict (.text task.uri) body task).outcome with
    | error failure => exact ⟨_, hread, Or.inl ⟨failure, rfl, rfl⟩⟩
    | ok latest =>
      refine ⟨_, hread.onOrder (·.noteProgress (some a) latest), Or.inr ⟨latest, rfl, rfl, ?_⟩⟩
      rw [Scene.order_onOrder, logged_order, ho]

/-- A check of a task with an address: its call fails, the task ended, or more is to follow. -/
lemma direct_check (setup : Setup) (depth : Nat) (target : PowerState) (h : Alone contents s)
    (hs : Underway a client limit task s.order) (hu : task.uri ≠ "") {request : Request}
    (hr : client.request "GET" (.text task.uri) .null = .ok request) :
    ∃ t, Passes [request] 0 contents.tail s t ∧
      let r := (check setup (hookAt setup depth) target a).run s
      match taskFrom setup.strict "GET" task.uri request contents task with
      | .error failure => r = (.error failure, t)
      | .ok latest =>
        if latest.isCompleted then
          r = (.ok (), t) ∧ t.order.done = true ∧ t.order.failure? = none
        else if latest.isFailed then
          match latest.errorSummary with
          | .error failure => r = (.error failure, t)
          | .ok reason =>
            r = (.ok (), t) ∧ t.order.done = true ∧
              t.order.failure? = some (changeFailed target reason)
        else
          r = (.ok (), t) ∧
            Underway a client limit (if latest.uri = task.uri then latest else task) t.order := by
  obtain ⟨t, hp, ⟨failure, htask, hrefresh⟩ | ⟨latest, htask, hrefresh, ho⟩⟩ :=
    direct_refresh setup depth h hs hu hr
  · rw [htask, run_check, hrefresh]
    exact ⟨t, hp, rfl⟩
  · have hkept := hs.noteProgress latest
    rw [← ho] at hkept
    have hended : ∀ failure?, t.order.markDone failure? (some a) =
        { t.order with done := true, failure? := failure? } := by
      intro failure?
      rw [PowerOrder.markDone_of_current hkept.attempt, hkept.failure?]
      cases failure? <;> rfl
    rw [htask, run_check, hrefresh]
    dsimp only
    by_cases hcompleted : latest.isCompleted
    · simp only [hcompleted, if_true]
      refine ⟨_, (hp.onOrder _).log _, rfl, ?_, ?_⟩
      · rw [Scene.order_note, Scene.order_onOrder, hended]
      · rw [Scene.order_note, Scene.order_onOrder, hended]
    · simp only [hcompleted, Bool.false_eq_true, if_false]
      by_cases hfailed : latest.isFailed
      · simp only [hfailed, if_true]
        cases latest.errorSummary with
        | error failure => exact ⟨t, hp, rfl⟩
        | ok reason =>
          refine ⟨_, (hp.onOrder _).log _, rfl, ?_, ?_⟩
          · rw [Scene.order_note, Scene.order_onOrder, hended]
          · rw [Scene.order_note, Scene.order_onOrder, hended]
      · simp only [hfailed, Bool.false_eq_true, if_false]
        exact ⟨_, hp.log _, rfl, hkept⟩

lemma pursue_ended (hw : ∀ number, setup.duringWait number = []) (h : Alone contents s)
    (hd : s.order.done = true) (depth : Nat) (target : PowerState) (a : Int) (name : Json)
    (fuel checks : Nat) :
    let r := (pursue setup (hookAt setup depth) target a name fuel checks).run
      (afterPause setup (hookAt setup depth) (.polling a) s.order.interval s)
    (r.1 = match s.order.failure? with
      | some failure => .error (submissionFailed target failure)
      | none => .ok .completed) ∧ Passes [] 1 contents s r.2 := by
  obtain ⟨ho, hp⟩ := alone_pause hw h depth (.polling a) s.order.interval
  have hover : (afterPause setup (hookAt setup depth) (.polling a) s.order.interval
      s).order.isOver := by
    simp [ho, PowerOrder.isOver, hd]
  dsimp only
  rw [run_pursue_of_over hover]
  refine ⟨?_, hp.conclude _ _ _ _ _⟩
  rw [conclude_result, ho]
  simp only [glanceAt, hd, if_true]

theorem direct_follow (hw : ∀ number, setup.duringWait number = []) (depth : Nat)
    (target : PowerState) (name : Json) {left fuel checks : Nat} (hfuel : left < fuel)
    (hchecks : checks + left = limit) (h : Alone contents s)
    (hs : Underway a client limit task s.order) :
    let course := directChecks setup.strict target client
      (timeout setup.failOnTimeout target name limit) left contents task
    let r := (pursue setup (hookAt setup depth) target a name fuel checks).run s
    r.1 = course.result ∧ ∃ rest, Passes course.requests course.waits rest s r.2 := by
  induction left generalizing fuel checks contents task s with
  | zero =>
    obtain ⟨n, rfl⟩ : ∃ n, fuel = n + 1 := ⟨fuel - 1, by omega⟩
    obtain rfl : checks = limit := hchecks
    rw [run_pursue_succ hs.not_over hs.limit, if_neg (Nat.lt_irrefl _)]
    refine ⟨?_, contents, (Passes.refl h).conclude _ _ _ _ _⟩
    rw [conclude_result]
    simp only [glanceAt, hs.failure?, hs.done, hs.cancelled, Bool.false_eq_true, if_false]
    rfl
  | succ left ih =>
    obtain ⟨n, rfl⟩ : ∃ n, fuel = n + 1 := ⟨fuel - 1, by omega⟩
    rw [run_pursue_succ hs.not_over hs.limit, if_pos (by omega)]
    -- What follows a check with more to follow is the induction hypothesis, after one more wait.
    have hmore : ∀ {requests contents' task' t}, Passes requests 0 contents' s t →
        Underway a client limit task' t.order →
        let course := directChecks setup.strict target client
          (timeout setup.failOnTimeout target name limit) left contents' task'
        let r := (pursue setup (hookAt setup depth) target a name n (checks + 1)).run
          (afterPause setup (hookAt setup depth) (.polling a) t.order.interval t)
        r.1 = course.result ∧
          ∃ rest, Passes (requests ++ course.requests) (course.waits + 1) rest s r.2 := by
      intro requests contents' task' t hp hkept
      obtain ⟨ho, hpause⟩ := alone_pause hw hp.alone depth (.polling a) t.order.interval
      have hstep : checks + 1 + left = limit := by omega
      obtain ⟨hresult, rest, hrest⟩ := ih (by omega : left < n) hstep hpause.alone
        (by rw [ho]; exact hkept)
      refine ⟨hresult, rest, ?_⟩
      simpa [Nat.add_comm] using (hp.trans hpause).trans hrest
    unfold directChecks
    by_cases hu : task.uri = ""
    · have ht : s.order.task.exists? = false := by simp [RemoteTask.exists?, hs.task, hu]
      rw [if_pos hu, run_check, refresh_of_no_task setup _ _ _ ht]
      exact hmore ((Passes.refl h).log _) hs
    · rw [if_neg hu]
      cases hr : client.request "GET" (.text task.uri) .null with
      | error failure =>
        have ht : s.order.task.exists? = true := by simpa [RemoteTask.exists?, hs.task] using hu
        rw [run_check, run_refresh]
        simp only [ht, if_true]
        rw [hs.task, hs.client, run_call (total_hookAt setup depth), hr]
        exact ⟨rfl, contents, Passes.refl h⟩
      | ok request =>
        obtain ⟨t, hp, hcheck⟩ := direct_check setup depth target h hs hu hr
        have hended := fun hd => pursue_ended hw hp.alone hd depth target a name n (checks + 1)
        dsimp only at hcheck hended ⊢
        cases htask : taskFrom setup.strict "GET" task.uri request contents task with
        | error failure =>
          rw [htask] at hcheck
          rw [hcheck]
          exact ⟨rfl, contents.tail, hp⟩
        | ok latest =>
          simp only [htask] at hcheck
          dsimp only
          by_cases hcompleted : latest.isCompleted
          · simp only [hcompleted, if_true] at hcheck ⊢
            obtain ⟨hrun, hdone, hfailure⟩ := hcheck
            obtain ⟨hresult, hpasses⟩ := hended hdone
            rw [hrun]
            rw [hfailure] at hresult
            exact ⟨hresult, contents.tail, hp.trans hpasses⟩
          · simp only [hcompleted, Bool.false_eq_true, if_false] at hcheck ⊢
            by_cases hfailed : latest.isFailed
            · simp only [hfailed, if_true] at hcheck ⊢
              cases hsummary : latest.errorSummary with
              | error failure =>
                rw [hsummary] at hcheck
                rw [hcheck]
                exact ⟨rfl, contents.tail, hp⟩
              | ok reason =>
                simp only [hsummary] at hcheck
                obtain ⟨hrun, hdone, hfailure⟩ := hcheck
                obtain ⟨hresult, hpasses⟩ := hended hdone
                rw [hrun]
                rw [hfailure] at hresult
                exact ⟨hresult, contents.tail, hp.trans hpasses⟩
            · simp only [hfailed, Bool.false_eq_true, if_false] at hcheck ⊢
              obtain ⟨hrun, hkept⟩ := hcheck
              rw [hrun]
              exact hmore hp hkept

lemma direct_pursue (hw : ∀ number, setup.duringWait number = []) (depth : Nat)
    (target : PowerState) {submission : Submission} {base : PowerOrder}
    (hlimit : limit ≤ setup.checkBound) (h : Alone submission.left s)
    (ho : s.order = submission.fate.applyTo base)
    (hbase : Underway a client limit base.task base) :
    let course := directPursuit setup.strict setup.failOnTimeout target client limit submission
    let r := (pursue setup (hookAt setup depth) target a submission.hardware.name
      (setup.checkBound + 1) 0).run s
    r.1 = course.result ∧ ∃ rest, Passes course.requests course.waits rest s r.2 := by
  unfold directPursuit
  cases hfate : submission.fate with
  | failed failure =>
    rw [hfate] at ho
    have hover : s.order.isOver := by simp [ho, Fate.applyTo, PowerOrder.isOver]
    dsimp only
    rw [run_pursue_of_over hover]
    refine ⟨?_, _, (Passes.refl h).conclude _ _ _ _ _⟩
    rw [conclude_result, ho]
    rfl
  | needless =>
    rw [hfate] at ho
    have hover : s.order.isOver := by simp [ho, Fate.applyTo, PowerOrder.isOver]
    dsimp only
    rw [run_pursue_of_over hover]
    refine ⟨?_, _, (Passes.refl h).conclude _ _ _ _ _⟩
    rw [conclude_result, ho]
    simp only [glanceAt, Fate.applyTo, hbase.failure?, if_true]
  | accepted task =>
    rw [hfate] at ho
    have hs : Underway a client limit task s.order := by
      rw [ho]
      exact { hbase with task := rfl }
    exact direct_follow hw depth target _ (by omega) (Nat.zero_add _) h hs

end Checks

/-- Among nobody, with a pool that runs the submission at once, an execution yields what the direct
change yields, sends its requests and waits as often. -/
theorem direct_execute {setup : Setup} {target : PowerState} {limit : Nat} {s : Scene}
    {contents : List AnswerContent} (hw : ∀ number, setup.duringWait number = [])
    (hlimit : limit ≤ setup.checkBound) (ht : target ∈ PowerState.targets)
    (h : Alone contents s) (hopen : s.poolOpen = true) (hm : s.moment = .inline)
    (hu : s.order.hardware.hardware.uri.isGiven) (hl : s.order.limit = .int limit) (depth : Nat) :
    let course :=
      directChange setup.strict setup.failOnTimeout target s.order.hardware limit contents
    let r := (execute setup (hookAt setup depth) target).run s
    r.1 = course.result ∧ ∃ rest, Passes course.requests course.waits rest s r.2 := by
  let a := s.order.attempt + 1
  let submission := directSubmission setup.strict target s.order.hardware contents
  have hbegun : Passes [] 0 contents s (attemptBegun s) := (Passes.refl h).still rfl rfl rfl
  obtain ⟨hwork, observed, ho⟩ := direct_work setup depth target (a := a) hbegun.alone hu rfl rfl
  have hover : handedOver setup (hookAt setup depth) target a (attemptBegun s) =
      ((work setup (hookAt setup depth) target a).run (attemptBegun s)).2 := by
    unfold handedOver
    rw [show (attemptBegun s).moment = .inline from hm]
  let t := (((work setup (hookAt setup depth) target a).run (attemptBegun s)).2.enter
    .submitting).enter .polling
  have ht' : Passes submission.requests 0 submission.left s t :=
    ((hbegun.trans hwork).enter _).enter _
  have hbase : Underway a s.order.hardware.client limit
      { (attemptBegun s).order with
        observed, hardware := ⟨submission.hardware, s.order.hardware.client⟩ }.task
      { (attemptBegun s).order with
        observed, hardware := ⟨submission.hardware, s.order.hardware.client⟩ } :=
    ⟨rfl, rfl, rfl, rfl, hl, rfl, rfl⟩
  obtain ⟨hresult, rest, hpasses⟩ := direct_pursue hw depth target hlimit ht'.alone ho hbase
  have hall := ht'.trans hpasses
  rw [Nat.zero_add] at hall
  rw [run_execute ht]
  dsimp only
  rw [if_pos hopen, hover, run_poll_eq_pursue, Scene.order_enter, ho, Fate.hardware_applyTo]
  rcases hr : (pursue setup (hookAt setup depth) target _ _ (setup.checkBound + 1) 0).run _ with
    ⟨failure | result, u⟩
  · replace hr : (pursue setup (hookAt setup depth) target a submission.hardware.name
      (setup.checkBound + 1) 0).run t = (.error failure, u) := hr
    rw [hr] at hresult hall
    refine ⟨hresult, rest, ?_⟩
    dsimp only
    split
    · exact hall.enter _
    · exact hall
  · replace hr : (pursue setup (hookAt setup depth) target a submission.hardware.name
      (setup.checkBound + 1) 0).run t = (.ok result, u) := hr
    rw [hr] at hresult hall
    exact ⟨hresult, rest, hall⟩

lemma le_checkBound (script : Script) (steps : List Action) (limit : Nat) :
    limit ≤ script.checkBound steps (.int limit) :=
  Script.le_checkBound (Or.inl rfl) rfl

/-- Where nobody else acts and the pool runs the submission while it is handed over, an execution is
the direct change: it yields the same, sends the same requests and waits as often, whatever the
manager answers. -/
theorem execute_eq_directChange (settings : Settings) (failOnTimeout ownPool : Bool)
    (order : PowerOrder) (steps : List Action) {target : PowerState} {limit : Nat}
    (contents : List AnswerContent) (depth : Nat) (ht : target ∈ PowerState.targets)
    (hu : order.hardware.hardware.uri.isGiven) (hl : order.limit = .int limit) :
    let script : Script := { supply := .queue (contents.map fun content => { content }) }
    let setup := script.setup settings failOnTimeout ownPool order steps
    let r := (execute setup (hookAt setup depth) target).run (script.scene order)
    let course := directChange settings.strict failOnTimeout target order.hardware limit contents
    r.1 = course.result ∧ sentRequests r.2 = course.requests ∧ waitCount r.2 = course.waits := by
  let script : Script := { supply := .queue (contents.map fun content => { content }) }
  let setup := script.setup settings failOnTimeout ownPool order steps
  have hbound : limit ≤ setup.checkBound := by
    show limit ≤ script.checkBound steps order.limit
    rw [hl]
    exact le_checkBound script steps limit
  obtain ⟨hresult, rest, hpasses⟩ := direct_execute (s := script.scene order) (fun _ => rfl) hbound
    ht ⟨rfl, rfl⟩ rfl rfl hu hl depth
  refine ⟨hresult, hpasses.sent, ?_⟩
  exact hpasses.waited.trans (Nat.zero_add _)

/-- What the manager answers while it switches the blade on: the change is accepted, and done at the
second check. -/
def switchingOn : List AnswerContent :=
  [.reply 200 "OK" "\x7b\"uri\": \"/b\", \"powerState\": \"Off\"\x7d",
    .reply 202 "Accepted" "\x7b\"uri\": \"/t\"\x7d",
    .reply 200 "OK" "\x7b\"taskState\": \"Running\"\x7d",
    .reply 200 "OK" "\x7b\"taskState\": \"Completed\"\x7d"]

/-- With these answers the execution completes after four requests and two waits. -/
theorem execute_switchingOn :
    let script : Script := { supply := .queue (switchingOn.map fun content => { content }) }
    let setup := script.setup .defaults false true blade []
    let r := (execute setup (hookAt setup 0) .on).run (script.scene blade)
    r.1 = .ok .completed ∧ (sentRequests r.2).map (·.method) = ["GET", "PUT", "GET", "GET"] ∧
      waitCount r.2 = 2 := by
  have htarget : PowerState.on ∈ PowerState.targets := by decide
  have haddress : blade.hardware.hardware.uri.isGiven := by decide
  have hlimit : blade.limit = .int (3 : Nat) := rfl
  obtain ⟨hresult, hrequests, hwaits⟩ := execute_eq_directChange .defaults false true blade []
    switchingOn 0 htarget haddress hlimit
  dsimp only
  rw [hresult, hrequests, hwaits]
  decide +kernel

end ServerPower.Proofs
