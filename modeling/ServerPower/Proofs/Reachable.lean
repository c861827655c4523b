import ServerPower.Proofs.Standing

/-!
# Reachable orders

What holds of an order whenever a script and the actions of others have taken it from a fresh one:
an attempt that failed is done, and the power state known is the one of the hardware held. From one
order to a later one, what an attempt had come to stands while it is the current one, and every
number that a reset hands out is above those handed out before, whether the reset is asked for or
begins the execution of a change.
-/

namespace ServerPower.Proofs
open Run

/-- An attempt that failed is done, and a power state that is known is the one of the hardware. -/
structure Consistent (p : PowerOrder) : Prop where
  ended : DoneIfFailed p
  observed : p.observed ≠ .unknown → p.hardware.hardware.classify.outcome = .ok p.observed

/-- A number that is handed out is the one of the current attempt, and above those of all entries
before. -/
def Numbered (e : Entry) (earlier : List Entry) : Prop :=
  ∀ number, handedOut? e.event = some number →
    e.order.attempt = number ∧ ∀ e' ∈ earlier, e'.order.attempt < number

/-- The order is consistent now and was at every entry, what its attempts had come to always stood,
and numbers were handed out in their order. -/
structure Sound (s : Scene) : Prop where
  now : Consistent s.order
  always : ∀ e ∈ s.journal, Consistent e.order
  stands : ∀ e ∈ s.journal, Stands e.order s.order
  inOrder : s.journal.Pairwise fun e e' => Stands e'.order e.order
  numbered : ∀ later e earlier, s.journal = later ++ e :: earlier → Numbered e earlier

/-- The result of the change that a step executed. -/
def executed? : Except Failure Yield → Option PowerResult
  | .ok (.result result) | .ok (.resultOnce result) => some result
  | _ => none

/-- What comes of a step after an order: what the attempt had come to stands, and an attempt whose
number is handed out, or that was executed to its result, is a later one. -/
structure Later (p : PowerOrder) (r : Except Failure Yield × Scene) : Prop where
  stands : Stands p r.2.order
  handed : ∀ number, r.1 = .ok (.attempt number) →
    r.2.order.attempt = number ∧ p.attempt < number
  executed : ∀ result, executed? r.1 = some result → p.attempt < r.2.order.attempt

/-- A step after an order that begins an attempt raises the number, whatever comes of the step. -/
def Rises (p : PowerOrder) (step : Action × Except Failure Yield × Scene) : Prop :=
  BeginsAttempt step.1 → p.attempt < step.2.2.order.attempt

/-- Nobody turns the order over to other hardware. -/
def LeavesHardware : Action → Prop
  | .setHardware _ => False
  | _ => True

section Orders

variable {p q : PowerOrder}

lemma Consistent.of_same (hp : Consistent p) (hm : Unmarked p q) (hh : q.hardware = p.hardware)
    (ho : q.observed = p.observed) : Consistent q := by
  refine ⟨hm.doneIfFailed hp.ended, ?_⟩
  rw [hh, ho]
  exact hp.observed

lemma Consistent.of_unknown (hd : DoneIfFailed p) (ho : p.observed = .unknown) : Consistent p :=
  ⟨hd, fun hne => absurd ho hne⟩

lemma Consistent.markDone (hp : Consistent p) (failure? : Option Failure) (attempt? : Option Int) :
    Consistent (p.markDone failure? attempt?) := by
  refine ⟨hp.ended.markDone failure? attempt?, ?_⟩
  unfold PowerOrder.markDone
  split <;> exact hp.observed

lemma Consistent.noteHardware (hp : Consistent p) (attempt? : Option Int)
    (latest : ManagedHardware) :
    Consistent (p.noteHardware attempt? latest (classified latest.hardware)) := by
  refine ⟨(Unmarked.noteHardware _ _ _ _).doneIfFailed hp.ended, ?_⟩
  unfold PowerOrder.noteHardware
  split
  · intro _
    exact classify_outcome latest.hardware
  · exact hp.observed

lemma Consistent.noteTask (hp : Consistent p) (attempt : Int) (task : RemoteTask) :
    Consistent (p.noteTask attempt task) := by
  refine hp.of_same (.noteTask _ _ _) (by simp) ?_
  unfold PowerOrder.noteTask
  split <;> rfl

lemma Consistent.noteProgress (hp : Consistent p) (attempt? : Option Int) (task : RemoteTask) :
    Consistent (p.noteProgress attempt? task) := by
  refine hp.of_same (.noteProgress _ _ _) (by simp) ?_
  unfold PowerOrder.noteProgress
  split <;> rfl

end Orders

def recording : Law :=
  { standing with holds := fun s => Confined LeavesHardware s.supply ∧ Sound s }

section Steps

variable {s t : Scene}

lemma recording_step (hc : Consistent s.order → Consistent t.order)
    (hs : Stands s.order t.order) (hj : t.journal = s.journal)
    (ha : t.supply.answers ⊆ s.supply.answers) : recording.Step s t := by
  rintro ⟨hconfined, hsound⟩
  refine ⟨⟨fun answer hm => hconfined answer (ha hm), hc hsound.now, ?_, ?_, ?_, ?_⟩, hs⟩
  · rw [hj]
    exact hsound.always
  · rw [hj]
    intro e he
    exact (hsound.stands e he).trans hs
  · rw [hj]
    exact hsound.inOrder
  · rw [hj]
    exact hsound.numbered

lemma recording_onOrder {f : PowerOrder → PowerOrder}
    (hc : Consistent s.order → Consistent (f s.order)) (hs : Stands s.order (f s.order)) :
    recording.Step s (s.onOrder f) :=
  recording_step hc hs rfl (List.Subset.refl _)

lemma recording_still (ho : t.order = s.order) (hj : t.journal = s.journal)
    (ha : t.supply.answers ⊆ s.supply.answers) : recording.Step s t := by
  apply recording_step _ _ hj ha
  · rw [ho]
    exact id
  · rw [ho]
    exact .refl s.order

lemma recording_markDone (s : Scene) (failure? : Option Failure) (attempt? : Option Int) :
    recording.Step s (s.onOrder (·.markDone failure? attempt?)) :=
  recording_onOrder (fun hp => hp.markDone failure? attempt?) (.markDone s.order failure? attempt?)

lemma recording_noteTask (s : Scene) (attempt : Int) (task : RemoteTask) :
    recording.Step s (s.onOrder (·.noteTask attempt task)) :=
  recording_onOrder (fun hp => hp.noteTask attempt task) (Unmarked.noteTask _ _ _).stands

lemma recording_reset (s : Scene) : recording.Step s (s.onOrder PowerOrder.reset) :=
  recording_onOrder (fun _ => .of_unknown (fun hf => absurd rfl hf) rfl) (.reset s.order)

lemma Sound.note {event : Event} (hs : Sound s)
    (hn : Numbered ⟨event, s.order, s.phase⟩ s.journal) : Sound (s.note event) := by
  refine ⟨hs.now, ?_, ?_, List.pairwise_cons.mpr ⟨hs.stands, hs.inOrder⟩, ?_⟩
  · intro e he
    rcases List.mem_cons.mp he with rfl | he
    · exact hs.now
    · exact hs.always e he
  · intro e he
    rcases List.mem_cons.mp he with rfl | he
    · exact .refl s.order
    · exact hs.stands e he
  · intro later e earlier hsplit
    rw [Scene.journal_note] at hsplit
    cases later with
    | nil =>
      obtain ⟨rfl, rfl⟩ := List.cons.inj hsplit
      exact hn
    | cons first later => exact hs.numbered later e earlier (List.cons.inj hsplit).2

lemma recording_note {event : Event} (he : handedOut? event = none) :
    recording.Step s (s.note event) := by
  rintro ⟨hconfined, hsound⟩
  refine ⟨⟨hconfined, hsound.note ?_⟩, .refl s.order⟩
  intro number hn
  rw [he] at hn
  cases hn

/-- Whoever resets the order is handed a number above those of all entries. -/
lemma recording_handed (s : Scene) : recording.Step s
    ((s.onOrder PowerOrder.reset).note (.acted (.ok (.attempt (s.order.attempt + 1))))) := by
  intro hs
  obtain ⟨⟨hconfined, hsound⟩, hstands⟩ := recording_reset s hs
  refine ⟨⟨hconfined, hsound.note ?_⟩, hstands⟩
  intro number hn
  cases hn
  refine ⟨rfl, fun e he => ?_⟩
  have hbefore := (hs.2.stands e he).attempt
  omega

end Steps

section Runs

variable {setup : Setup} {hook : Hook} {depth : Nat}

lemma recording_carries (hh : recording.Hosts LeavesHardware setup hook) (origin : Origin) :
    recording.Carries hook origin where
  total := hh.total
  remarks _ _ _ he := recording_note he
  flown s request := hh.step_inFlight
    (recording_still rfl rfl (answers_next_subset request s.supply))
    (fun hs => Confined.during hs.1 request)
  answered _ _ _ := recording_note rfl
  forgot _ := recording_onOrder (fun hp => .of_unknown hp.ended rfl)
    (Unmarked.stands ⟨rfl, rfl, rfl, rfl⟩)
  hardware _ attempt? latest _ := recording_onOrder (fun hp => hp.noteHardware attempt? latest)
    (Unmarked.noteHardware _ _ _ _).stands
  progress _ attempt? task := recording_onOrder (fun hp => hp.noteProgress attempt? task)
    (Unmarked.noteProgress _ _ _).stands

lemma recording_submit (hh : recording.Hosts LeavesHardware setup hook) (target : PowerState)
    (attempt? : Option Int) (s : Scene) :
    recording.Step s ((submit setup hook target attempt?).run s).2 := by
  have hcarries := recording_carries hh (.submission s.submissions (attempt?.getD s.order.attempt))
  apply Law.step_submit hcarries.remarks
  · intro t
    exact recording_still rfl rfl (List.Subset.refl _)
  · intro t failure?
    exact recording_markDone t failure? _
  · exact hcarries.step_observe (fun _ _ _ => recording_note rfl) setup _
  · intro state t _ _ _
    refine hcarries.step_requestChange ⟨?_, ?_⟩ (fun _ _ _ _ => recording_note rfl) setup
    · intro u failure?
      exact recording_markDone u failure? _
    · intro u task
      exact recording_noteTask u _ task

lemma recording_stage (hh : recording.Hosts LeavesHardware setup (hookAt setup depth)) :
    recording.Stage (fun _ => True) LeavesHardware setup depth := by
  have hparts : recording.Parts (fun _ => True) setup (hookAt setup depth) := by
    apply Law.parts_of_carries (fun origin _ => recording_carries hh origin)
    · exact fun _ _ _ _ => recording_note rfl
    · exact fun _ _ _ _ _ _ _ _ => recording_note rfl
    · exact fun s target attempt? => recording_submit hh target attempt? s
    · exact recording_markDone
  refine ⟨hh, hparts, hparts.step_afterDue (fun _ _ _ _ => trivial) ?_⟩
  intro s waits pending _
  exact recording_still rfl rfl (List.Subset.refl _)

lemma recording_launches : recording.Launches where
  begun := recording_reset
  entered _ _ := recording_still rfl rfl (List.Subset.refl _)
  queued _ _ _ := recording_still rfl rfl (List.Subset.refl _)

theorem recording_reigns (setup : Setup) :
    recording.Reigns (fun _ => True) LeavesHardware setup where
  stage _ hh := recording_stage hh
  bears s action ha := by
    cases action with
    | setHardware _ => exact ha.elim
    | reset => exact recording_reset s
    | markDone _ attempt? => exact fun failure? => recording_markDone s failure? attempt?
    | cancel =>
      exact recording_onOrder (fun hp => ⟨hp.ended, hp.observed⟩)
        ⟨.of_eq rfl rfl, fun _ _ hf => hf, fun _ _ => rfl⟩
    | submit _ _ => exact fun _ => trivial
    | setTask _ | setTiming _ _ =>
      exact recording_onOrder (fun hp => ⟨hp.ended, hp.observed⟩)
        (Unmarked.stands ⟨rfl, rfl, rfl, rfl⟩)
    | setMoment _ | close _ | executeOnce _ =>
      exact recording_still rfl rfl (List.Subset.refl _)
    | wait _ | observe _ | refresh _ | execute _ | look => trivial
  handed s _ := recording_handed s
  executes _ target hh _ := (recording_stage hh).keeps_execute recording_launches target

end Runs

section Plays

variable {setup : Setup} {depth : Nat} {action : Action} {s t : Scene}

lemma handed_of_perform {number : Int}
    (hr : (perform setup (hookAt setup depth) action).run s = (.ok (.attempt number), t)) :
    t.order.attempt = number ∧ s.order.attempt < number := by
  by_cases hreset : action = .reset
  · subst hreset
    cases hr
    exact ⟨rfl, Int.lt_succ _⟩
  · have hnone := handedOut?_perform hreset setup (hookAt setup depth) s
    rw [hr] at hnone
    cases hnone

/-- An execution with a result is one of a change that there is. -/
lemma mem_targets_of_result {target : PowerState} {result : PowerResult}
    (hr : (execute setup (hookAt setup depth) target).run s = (.ok result, t)) :
    target ∈ PowerState.targets := by
  by_contra ht
  rw [run_execute_unsupported ht] at hr
  cases hr

/-- Only executions end in a result. -/
lemma executed?_perform (setup : Setup) (hook : Hook) (s : Scene)
    (he : ∀ target, action ≠ .execute target) (ho : ∀ target, action ≠ .executeOnce target) :
    executed? ((perform setup hook action).run s).1 = none := by
  cases action with
  | execute target => exact absurd rfl (he target)
  | executeOnce target => exact absurd rfl (ho target)
  | reset | look => rfl
  | _ =>
    apply yield_of_bind (P := fun r => executed? r = none) (fun _ => rfl)
    exact fun _ _ => rfl

/-- What ends in a result began an attempt of its own. -/
lemma begins_of_executed {r : Except Failure Yield} {result : PowerResult}
    (hr : (perform setup (hookAt setup depth) action).run s = (r, t))
    (hresult : executed? r = some result) : BeginsAttempt action := by
  by_cases he : ∃ target, action = .execute target
  · obtain ⟨target, rfl⟩ := he
    unfold perform at hr
    rw [run_bind] at hr
    rcases hx : (execute setup (hookAt setup depth) target).run s with ⟨failure | value, u⟩
    · rw [hx] at hr
      cases hr
      cases hresult
    · exact mem_targets_of_result hx
  · by_cases ho : ∃ target, action = .executeOnce target
    · obtain ⟨target, rfl⟩ := ho
      unfold perform at hr
      rw [run_bind, run_executeOnce] at hr
      rcases hx : (execute setup (hookAt setup depth) target).run s with ⟨failure | value, u⟩
      · rw [hx] at hr
        cases hr
        cases hresult
      · exact mem_targets_of_result hx
    · have hnone := executed?_perform setup (hookAt setup depth) s
        (fun target h => he ⟨target, h⟩) (fun target h => ho ⟨target, h⟩)
      rw [hr, hresult] at hnone
      cases hnone

lemma later_step {p : PowerOrder} (script : Script) (hp : Stands p s.order)
    (hs : Stands s.order ((script.step setup action).run s).2.order) :
    Later p ((script.step setup action).run s) := by
  have hbefore := hp.attempt
  rcases hr : (script.step setup action).run s with ⟨r, t⟩
  rw [hr] at hs
  refine ⟨hp.trans hs, ?_, ?_⟩
  · rintro number rfl
    obtain ⟨hnumber, habove⟩ := handed_of_perform hr
    exact ⟨hnumber, by omega⟩
  · intro result hresult
    have habove := (begun_of_perform setup script.depth (begins_of_executed hr hresult) s).rises
    have hafter : ((perform setup (hookAt setup script.depth) action).run s).2 = t :=
      congrArg Prod.snd hr
    rw [hafter] at habove
    dsimp only
    omega

/-- A step that follows others is later than the orders before any of them. -/
lemma sound_of_play (script : Script)
    (hwaits : ∀ number, ∀ action ∈ setup.duringWait number, LeavesHardware action)
    {steps : List Action} (hsteps : ∀ action ∈ steps, LeavesHardware action)
    (hs : recording.holds s) :
    (∀ r ∈ script.play setup s steps, Sound r.2 ∧ ∀ p, Stands p s.order → Later p r) ∧
      (script.play setup s steps).Pairwise fun r r' => Later r.2.order r' := by
  induction steps generalizing s with
  | nil => exact ⟨fun r hr => (nomatch hr), .nil⟩
  | cons action steps ih =>
    have hhosts := (recording_reigns setup).hosts_hookAt hwaits script.depth
    have hallowed := hsteps action (List.mem_cons_self ..)
    obtain ⟨ht, hstands⟩ := (recording_reigns setup).keeps_perform hhosts hallowed s hs
    obtain ⟨hrest, hpairs⟩ := ih (fun action hm => hsteps action (List.mem_cons_of_mem _ hm)) ht
    refine ⟨?_, List.pairwise_cons.mpr ⟨?_, hpairs⟩⟩
    · intro r hr
      rcases List.mem_cons.mp hr with rfl | hr
      · exact ⟨ht.2, fun p hp => later_step script hp hstands⟩
      · exact ⟨(hrest r hr).1, fun p hp => (hrest r hr).2 p (hp.trans hstands)⟩
    · intro r hr
      exact (hrest r hr).2 _ (.refl _)

/-- Steps that begin an attempt raise the number above that of every order before. -/
lemma rises_of_play (script : Script) (setup : Setup) (steps : List Action) (s : Scene) :
    (∀ p ∈ steps.zip (script.play setup s steps), Rises s.order p) ∧
      (steps.zip (script.play setup s steps)).Pairwise fun p p' => Rises p.2.2.order p' := by
  induction steps generalizing s with
  | nil => exact ⟨fun p hp => (nomatch hp), .nil⟩
  | cons action steps ih =>
    let t := ((script.step setup action).run s).2
    have hstep : s.order.attempt ≤ t.order.attempt :=
      ((advancing_governs setup).reigns.keeps_perform (advancing_hookAt setup script.depth) trivial
        s trivial).2.attempt
    obtain ⟨hrest, hpairs⟩ := ih t
    refine ⟨?_, List.pairwise_cons.mpr ⟨hrest, hpairs⟩⟩
    intro p hp
    rcases List.mem_cons.mp hp with rfl | hp
    · exact fun hb => (begun_of_perform setup script.depth hb s).rises
    · exact fun hb => Int.lt_of_le_of_lt hstep (hrest p hp hb)

end Plays

/-- From an order that was just made, whatever steps a script takes and others take meanwhile, as
long as nobody turns the order over to other hardware: the order is consistent and always was, what
its attempts had come to stood, and every number that was handed out is above the attempts of all
orders before. Whatever comes of a step or an action of others that begins an attempt, it raises the
number above that of every order before. -/
theorem sound_of_mem_play (script : Script) (setup : Setup) (hardware : ManagedHardware)
    (limit interval : Json) {steps : List Action}
    (hsteps : ∀ action ∈ steps, LeavesHardware action)
    (hwaits : ∀ number, ∀ action ∈ setup.duringWait number, LeavesHardware action)
    (hanswers : ∀ answer ∈ script.supply.answers, ∀ action ∈ answer.during,
      LeavesHardware action) :
    let order : PowerOrder := { hardware, limit, interval }
    let results := script.play setup (script.scene order) steps
    (∀ r ∈ results, Sound r.2 ∧ Later order r) ∧
      (results.Pairwise fun r r' => Later r.2.order r') ∧
      (∀ p ∈ steps.zip results, Rises order p) ∧
      ((steps.zip results).Pairwise fun p p' => Rises p.2.2.order p') ∧
      ∀ depth s action, BeginsAttempt action →
        Begun s ((perform setup (hookAt setup depth) action).run s).2 := by
  intro order results
  have hfresh : Consistent order := .of_unknown (fun hf => absurd rfl hf) rfl
  have hbegun : recording.holds (script.scene order) := by
    refine ⟨hanswers, hfresh, ?_, ?_, .nil, ?_⟩
    · exact fun e he => nomatch he
    · exact fun e he => nomatch he
    · intro later e earlier hsplit
      cases later <;> cases hsplit
  obtain ⟨hall, hpairs⟩ := sound_of_play script hwaits hsteps hbegun
  obtain ⟨hrises, hupwards⟩ := rises_of_play script setup steps (script.scene order)
  exact ⟨fun r hr => ⟨(hall r hr).1, (hall r hr).2 order (.refl order)⟩, hpairs, hrises, hupwards,
    fun depth s action hb => begun_of_perform setup depth hb s⟩

/-- A manager that finds the blade switched on while someone resets the order, and then off. -/
def resetMeanwhile : Script where
  supply := .queue
    [{ during := [.reset],
       content := .reply 200 "OK" "\x7b\"uri\": \"/b\", \"powerState\": \"On\"\x7d" },
      { content := .reply 200 "OK" "\x7b\"uri\": \"/b\", \"powerState\": \"Off\"\x7d" }]

/-- The order is reset before its query, during it and after it, by a change that fails. -/
theorem sound_resetMeanwhile :
    let steps := [Action.reset, .observe none, .execute .on]
    let results := resetMeanwhile.play calm (resetMeanwhile.scene blade) steps
    results.map (fun r => (r.1.toBool, r.2.order.attempt)) = [(true, 1), (true, 2), (false, 3)] ∧
      (results.any fun r => r.2.journal.any fun e => handedOut? e.event = some 2) ∧
      (∀ r ∈ results, Sound r.2) ∧ (results.Pairwise fun r r' => Later r.2.order r') ∧
      (steps.zip results).Pairwise fun p p' => Rises p.2.2.order p' := by
  intro steps results
  have hsteps : ∀ action ∈ steps, LeavesHardware action := by
    simp [steps, LeavesHardware]
  have hanswers : ∀ answer ∈ resetMeanwhile.supply.answers, ∀ action ∈ answer.during,
      LeavesHardware action := by
    simp [resetMeanwhile, Supply.answers, LeavesHardware]
  obtain ⟨hall, hpairs, -, hupwards, -⟩ := sound_of_mem_play resetMeanwhile calm blade.hardware
    (.int 3) (.int 10) hsteps (calm_duringWait _) hanswers
  exact ⟨by decide +kernel, by decide +kernel, fun r hr => (hall r hr).1, hpairs, hupwards⟩

end ServerPower.Proofs
