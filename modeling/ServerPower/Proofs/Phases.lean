import ServerPower.Proofs.Loops
import ServerPower.Proofs.Unattended

/-!
# Phases

While an execution goes through its loop it is polling: what others do does not touch the phase,
unless they execute a change themselves, which begins another attempt. Afterwards the phase tells
how the execution ended.
-/

namespace ServerPower.Proofs
open Run

/-- Others execute nothing. -/
def Unexecuting : Action → Prop
  | .execute _ | .executeOnce _ => False
  | _ => True

/-- The phase stays, and what is noted meanwhile is noted in it. -/
structure Unmoved (s t : Scene) : Prop where
  phase : t.phase = s.phase
  journal : ∃ new, t.journal = new ++ s.journal ∧ ∀ e ∈ new, e.phase = s.phase

/-- The last look of a loop shows an attempt that is not over and did not fail, with its checks used
up. -/
structure TimesOut (order : PowerOrder) (last : Nat × Glance) : Prop where
  checks : order.allowsCheck last.1 = .ok false
  failure? : last.2.failure? = none
  done : last.2.done = false
  cancelled : last.2.cancelled = false

/-- How the loop of an execution ended, which left the order `left`, the result of the execution and
the phase after it. -/
inductive Concludes (setup : Setup) (left : PowerOrder) :
    Except Failure (Nat × Glance) → Except Failure PowerResult → Phase → Prop
  | escaped {failure : Failure} : Concludes setup left (.error failure) (.error failure) .failed
  | failed {last : Nat × Glance} {cause failure : Failure} (seen : last.2.failure? = some cause) :
      Concludes setup left (.ok last) (.error failure) .failed
  | done {last : Nat × Glance} (seen : last.2.done = true) :
      Concludes setup left (.ok last) (.ok .completed) .done
  | cancelled {last : Nat × Glance} (seen : last.2.cancelled = true) :
      Concludes setup left (.ok last) (.ok .cancelled) .cancelled
  | raised {last : Nat × Glance} {failure : Failure} (ended : TimesOut left last)
      (strict : setup.failOnTimeout = true) (kind : failure.kind = .powerTimeout) :
      Concludes setup left (.ok last) (.error failure) .timedOut
  | returned {last : Nat × Glance} (ended : TimesOut left last)
      (lenient : setup.failOnTimeout = false) :
      Concludes setup left (.ok last) (.ok .timedOut) .timedOut

lemma Unmoved.refl (s : Scene) : Unmoved s s :=
  ⟨rfl, [], rfl, fun _ he => nomatch he⟩

def unmoved : Law where
  holds s := Confined Unexecuting s.supply
  leads := Unmoved
  refl := Unmoved.refl
  trans h1 h2 := by
    obtain ⟨new1, hj1, hp1⟩ := h1.journal
    obtain ⟨new2, hj2, hp2⟩ := h2.journal
    refine ⟨h2.phase.trans h1.phase, new2 ++ new1, ?_, fun e he => ?_⟩
    · rw [hj2, hj1, List.append_assoc]
    · rcases List.mem_append.mp he with he | he
      · exact (hp2 e he).trans h1.phase
      · exact hp1 e he

/-- The number of the current attempt does not fall, and while it stays, so does the phase. -/
structure Abides (s t : Scene) : Prop where
  attempt : s.order.attempt ≤ t.order.attempt
  phase : s.order.attempt = t.order.attempt → t.phase = s.phase

def abiding : Law where
  holds _ := True
  leads := Abides
  refl s := ⟨Int.le_refl _, fun _ => rfl⟩
  trans h1 h2 := by
    have hfirst := h1.attempt
    have hsecond := h2.attempt
    refine ⟨by omega, fun hsame => ?_⟩
    exact (h2.phase (by omega)).trans (h1.phase (by omega))

section Steps

variable {setup : Setup} {target : PowerState} {name : Json} {depth : Nat} {s t u : Scene}
  {result : Except Failure PowerResult}

lemma unmoved_step (hp : t.phase = s.phase) (hj : t.journal = s.journal)
    (ha : t.supply.answers ⊆ s.supply.answers) : unmoved.Step s t :=
  fun hs => ⟨fun answer hm => hs answer (ha hm), hp, [], hj, fun _ he => nomatch he⟩

lemma unmoved_still (hp : t.phase = s.phase) (hj : t.journal = s.journal)
    (hs : t.supply = s.supply) : unmoved.Step s t :=
  unmoved_step hp hj (by rw [hs]; exact List.Subset.refl _)

lemma unmoved_note (s : Scene) (event : Event) : unmoved.Step s (s.note event) := by
  refine fun hs => ⟨hs, rfl, [_], rfl, fun e he => ?_⟩
  rw [List.mem_singleton.mp he]

lemma unmoved_serves : unmoved.Serves (fun _ => True) Unexecuting where
  noted s event _ := unmoved_note s event
  supplied s request := unmoved_step rfl rfl (answers_next_subset request s.supply)
  counted _ := unmoved_still rfl rfl rfl
  forgot _ := unmoved_still rfl rfl rfl
  hardware _ _ _ _ := unmoved_still rfl rfl rfl
  progress _ _ _ := unmoved_still rfl rfl rfl
  ended _ _ _ _ := unmoved_still rfl rfl rfl
  task _ _ _ _ := unmoved_still rfl rfl rfl
  during _ request hs := hs.during request

theorem unmoved_governs (setup : Setup) :
    unmoved.Governs (fun _ => True) Unexecuting setup where
  toAwaits := unmoved_serves.awaits (fun _ _ _ _ => trivial)
    (fun _ _ _ _ => unmoved_still rfl rfl rfl) setup
  bears s action ha := by
    cases action with
    | execute _ | executeOnce _ => exact ha.elim
    | markDone _ _ => exact fun _ => unmoved_still rfl rfl rfl
    | submit _ _ => exact fun _ => trivial
    | wait _ | observe _ | refresh _ | look => trivial
    | _ => exact unmoved_still rfl rfl rfl
  executes _ _ _ ha := ha.elim False.elim False.elim

/-- During the loop of an execution the phase is polling. -/
lemma unmoved_loop (hwaits : ∀ number, ∀ action ∈ setup.duringWait number, Unexecuting action)
    (hanswers : Confined Unexecuting s.supply) :
    Unmoved (loopBegun setup (hookAt setup depth) target s)
      (loop setup (hookAt setup depth) target s).2 := by
  have hh := (unmoved_governs setup).hosts_hookAt hwaits depth
  have hstage := (unmoved_governs setup).toAwaits.stage hh
  let a := s.order.attempt + 1
  have hhanded : unmoved.Step (attemptBegun s)
      (handedOver setup (hookAt setup depth) target a (attemptBegun s)) := by
    unfold handedOver
    split
    · exact hstage.parts.keeps_work trivial target _
    · exact unmoved_still rfl rfl rfl
    · exact Law.Step.refl _ _
    · exact Law.Step.refl _ _
  have hbegun : unmoved.holds (loopBegun setup (hookAt setup depth) target s) :=
    (hhanded hanswers).1
  exact (hstage.keeps_follow a trivial target (setup.checkBound + 1) 0 _ hbegun).2

lemma abiding_step (ha : t.order.attempt = s.order.attempt) (hp : t.phase = s.phase) :
    abiding.Step s t :=
  fun _ => ⟨trivial, Int.le_of_eq ha.symm, fun _ => hp⟩

lemma abiding_serves : abiding.Serves (fun _ => True) (fun _ => True) where
  noted _ _ _ := abiding_step rfl rfl
  supplied _ _ := abiding_step rfl rfl
  counted _ := abiding_step rfl rfl
  forgot _ := abiding_step rfl rfl
  hardware _ _ _ _ := abiding_step (by simp) rfl
  progress _ _ _ := abiding_step (by simp) rfl
  ended _ _ _ _ := abiding_step (by simp) rfl
  task _ _ _ _ := abiding_step (by simp) rfl
  during _ _ _ _ _ := trivial

/-- Others may execute a change, since that begins another attempt, or else is refused. -/
theorem abiding_governs (setup : Setup) :
    abiding.Governs (fun _ => True) (fun _ => True) setup where
  toAwaits := abiding_serves.awaits (fun _ _ _ _ => trivial)
    (fun _ _ _ _ => abiding_step rfl rfl) setup
  bears s action _ := by
    cases action with
    | reset =>
      have hnext : s.order.reset.attempt = s.order.attempt + 1 := rfl
      refine fun _ => ⟨trivial, ?_, fun hsame => ?_⟩
      · simp only [Scene.order_onOrder]
        omega
      · simp only [Scene.order_onOrder] at hsame
        omega
    | markDone _ _ => exact fun _ => abiding_step (by simp) rfl
    | submit _ _ => exact fun _ => trivial
    | wait _ | observe _ | refresh _ | execute _ | look => trivial
    | _ => exact abiding_step rfl rfl
  executes depth target _ _ := by
    intro s
    by_cases ht : target ∈ PowerState.targets
    · have hlater : s.order.attempt + 1 ≤
          ((execute setup (hookAt setup depth) target).run s).2.order.attempt :=
        (advances_of_execute setup depth ht s).attempt
      exact fun _ => ⟨trivial, by omega, fun hsame => by omega⟩
    · rw [run_execute_refused ht]
      exact abiding_serves.remarks.step_logged _ s

/-- If the attempt of an execution is still the current one in the end, its loop left the phase
polling. -/
lemma abiding_loop (ht : target ∈ PowerState.targets) (hopen : s.poolOpen)
    (hr : (execute setup (hookAt setup depth) target).run s = (result, t))
    (hattempt : t.order.attempt = s.order.attempt + 1) :
    (loop setup (hookAt setup depth) target s).2.phase = .polling := by
  have hbegun : s.order.attempt + 1 ≤
      (loopBegun setup (hookAt setup depth) target s).order.attempt :=
    (((advancing_awaits setup).stage (advancing_hookAt setup depth)).step_loopBegun
      advancing_launches target s trivial).2.attempt
  have hstage : abiding.Stage (fun _ => True) (fun _ => True) setup depth :=
    (abiding_governs setup).toAwaits.stage
      ((abiding_governs setup).hosts_hookAt (fun _ _ _ => trivial) depth)
  have habides : Abides (loopBegun setup (hookAt setup depth) target s)
      (loop setup (hookAt setup depth) target s).2 :=
    (hstage.keeps_follow _ trivial target _ 0 _ trivial).2
  have hlater := habides.attempt
  have hend : t.order = (loop setup (hookAt setup depth) target s).2.order :=
    (left_of_loop ht hopen hr).1
  rw [hend] at hattempt
  exact habides.phase (by omega)

/-- What an execution makes of the last look of its loop. -/
lemma concludes_of_conclude {last : Nat × Glance} (hlast : last.2 = glanceAt u.order)
    (hend : u.order.isOver ∨ u.order.allowsCheck last.1 = .ok false)
    (hr : (conclude setup target name last.1 last.2).run u = (result, t)) :
    Concludes setup u.order (.ok last) result t.phase := by
  have htimes : last.2.failure? = none → last.2.done = false → last.2.cancelled = false →
      TimesOut u.order last := by
    intro unfailed undone uncancelled
    have hover : u.order.isOver = false := by
      rw [hlast] at undone uncancelled
      exact Bool.or_eq_false_iff.mpr ⟨undone, uncancelled⟩
    refine ⟨hend.resolve_left ?_, unfailed, undone, uncancelled⟩
    rw [hover]
    exact Bool.false_ne_true
  have hfinishes := finishes_of_conclude hr
  generalize t.phase = phase at hfinishes ⊢
  cases hfinishes with
  | failed failed => exact .failed failed
  | completed _ done => exact .done done
  | cancelled _ _ cancelled => exact .cancelled cancelled
  | timedOut unfailed undone uncancelled lenient =>
    exact .returned (htimes unfailed undone uncancelled) lenient
  | overdue unfailed undone uncancelled strict =>
    exact .raised (htimes unfailed undone uncancelled) strict rfl

/-- An execution whose submission the pool accepts ends in one of these ways. -/
lemma concludes_of_execute
    (hwaits : ∀ number, ∀ action ∈ setup.duringWait number, Unexecuting action)
    (hanswers : Confined Unexecuting s.supply)
    (ht : target ∈ PowerState.targets) (hopen : s.poolOpen)
    (hfuel : ∀ last, (loop setup (hookAt setup depth) target s).1 = .ok last →
      last.1 ≤ setup.checkBound)
    (hr : (execute setup (hookAt setup depth) target).run s = (result, t)) :
    Concludes setup (loop setup (hookAt setup depth) target s).2.order
      (loop setup (hookAt setup depth) target s).1 result t.phase := by
  have hpolling : (loop setup (hookAt setup depth) target s).2.phase = .polling :=
    (unmoved_loop hwaits hanswers).phase
  rw [run_execute_of_loop ht hopen] at hr
  rcases hl : loop setup (hookAt setup depth) target s with ⟨failure | last, u⟩
  · rw [hl] at hr hpolling
    cases hr
    have hended : u.phase = .polling := hpolling
    rw [if_pos hended]
    exact .escaped
  · rw [hl] at hr hfuel
    dsimp only at hr hfuel ⊢
    have htotal := total_hookAt setup depth
    have hend : u.order.isOver ∨ u.order.allowsCheck last.1 = .ok false := by
      have hbound := hfuel last rfl
      rcases usedUp_of_follow htotal hl with hover | hused | hcut
      · exact Or.inl hover
      · exact Or.inr hused
      · omega
    rcases hc : (conclude setup target _ last.1 last.2).run u with ⟨outcome, v⟩
    rw [hc] at hr
    have hconcludes := concludes_of_conclude (seen_of_follow htotal hl) hend hc
    have hphase : v.phase ≠ .polling := (finishes_of_conclude hc).phase_ne_polling
    cases outcome with
    | ok value =>
      cases hr
      exact hconcludes
    | error failure =>
      simp only [if_neg hphase] at hr
      cases hr
      exact hconcludes

end Steps

/-- The phase after an execution agrees with its result and with how its loop ended. -/
structure Agrees (setup : Setup) (ended : Except Failure (Nat × Glance) × Scene)
    (result : Except Failure PowerResult) (phase : Phase) : Prop where
  done : phase = .done ↔ result = .ok .completed
  cancelled : phase = .cancelled ↔ result = .ok .cancelled
  timedOut : phase = .timedOut ↔ ∃ last, ended.1 = .ok last ∧ TimesOut ended.2.order last
  returned : result = .ok .timedOut ↔ phase = .timedOut ∧ setup.failOnTimeout = false
  raised : phase = .timedOut → setup.failOnTimeout = true →
    ∃ failure, result = .error failure ∧ failure.kind = .powerTimeout
  failed : phase = .failed ↔ (∃ failure, result = .error failure) ∧ phase ≠ .timedOut
  settled : phase ≠ .idle ∧ phase ≠ .submitting ∧ phase ≠ .polling

lemma Concludes.agrees {setup : Setup} {ended : Except Failure (Nat × Glance) × Scene}
    {result : Except Failure PowerResult} {phase : Phase}
    (h : Concludes setup ended.2.order ended.1 result phase) : Agrees setup ended result phase := by
  obtain ⟨outcome, u⟩ := ended
  dsimp only at h
  cases h with
  | escaped => constructor <;> simp
  | @failed last cause failure seen =>
    have hnot : ¬ TimesOut u.order last := by
      intro htimes
      rw [htimes.failure?] at seen
      cases seen
    constructor <;> simp [hnot]
  | @done last seen =>
    have hnot : ¬ TimesOut u.order last := by
      intro htimes
      rw [htimes.done] at seen
      cases seen
    constructor <;> simp [hnot]
  | @cancelled last seen =>
    have hnot : ¬ TimesOut u.order last := by
      intro htimes
      rw [htimes.cancelled] at seen
      cases seen
    constructor <;> simp [hnot]
  | raised ended strict kind => constructor <;> simp [ended, strict, kind]
  | returned ended lenient => constructor <;> simp [ended, lenient]

/-- An execution with an unsupported target fails and changes nothing. If the pool accepts the
submission for a supported target, whatever is noted during the loop is noted in the polling phase,
and afterwards the phase agrees with the result and with how the loop ended: the attempt completed,
was cancelled, used up its checks, or failed. The loop must not have been cut off, which only an
infinite limit can bring about (`checks_le_of_mem_play`). -/
theorem phase_of_execute {setup : Setup} {depth : Nat} {target : PowerState} {s t : Scene}
    {result : Except Failure PowerResult}
    (hwaits : ∀ number, ∀ action ∈ setup.duringWait number, Unexecuting action)
    (hanswers : ∀ answer ∈ s.supply.answers, ∀ action ∈ answer.during, Unexecuting action)
    (hfuel : ∀ last, (loop setup (hookAt setup depth) target s).1 = .ok last →
      last.1 ≤ setup.checkBound)
    (hr : (execute setup (hookAt setup depth) target).run s = (result, t)) :
    (target ∉ PowerState.targets → t = s ∧ result = .error ⟨.invalidParameter,
      "Unsupported power state " ++ target.wire ++ " requested."⟩) ∧
    (target ∈ PowerState.targets → s.poolOpen →
      let begun := loopBegun setup (hookAt setup depth) target s
      let ended := loop setup (hookAt setup depth) target s
      (∃ during, ended.2.journal = during ++ begun.journal ∧ ∀ e ∈ during, e.phase = .polling) ∧
      ended.2.journal <:+ t.journal ∧ Agrees setup ended result t.phase) := by
  constructor
  · intro ht
    rw [run_execute_unsupported ht] at hr
    cases hr
    exact ⟨rfl, rfl⟩
  · intro ht hopen
    exact ⟨(unmoved_loop hwaits hanswers).journal, (left_of_loop ht hopen hr).2,
      (concludes_of_execute hwaits hanswers ht hopen hfuel hr).agrees⟩

/-- Nobody runs the submission, so the checks are used up. -/
theorem phase_of_execute_never :
    let s := { bladeScene [] with moment := .never }
    let r := (execute calm (hookAt calm 0) .on).run s
    r.1 = .ok .timedOut ∧ r.2.phase = .timedOut ∧
      Agrees calm (loop calm (hookAt calm 0) .on s) r.1 r.2.phase := by
  refine ⟨by decide +kernel, by decide +kernel, ?_⟩
  let s := { bladeScene [] with moment := .never }
  have hnobody : ∀ allows, Confined allows s.supply := by
    intro allows answer ha
    cases ha
  have hfuel : ∀ last, (loop calm (hookAt calm 0) .on s).1 = .ok last → last.1 ≤ 3 :=
    fun last => checks_le_of_loop (calm_duringWait _) (hnobody _)
      (caps_of_checksOf? rfl (Nat.le_refl 3))
  have ht : PowerState.on ∈ PowerState.targets := by decide
  exact ((phase_of_execute (calm_duringWait _) (hnobody _) hfuel (Prod.eta _).symm).2 ht rfl).2.2

end ServerPower.Proofs
