import ServerPower.Proofs.Attempts

/-!
# The loop of an execution

An execution begins an attempt, hands its submission over and then checks and waits in a loop. The
loop ends with a look at the order, which shows the attempt over or the checks used up, unless the
limit allows more checks than the loop was given.
-/

namespace ServerPower.Proofs
open Run

/-- The scene in which the loop of an execution begins. -/
def loopBegun (setup : Setup) (hook : Hook) (target : PowerState) (s : Scene) : Scene :=
  ((handedOver setup hook target (s.order.attempt + 1) (attemptBegun s)).enter .submitting).enter
    .polling

/-- What the loop of an execution yields, and the scene that it leaves. -/
def loop (setup : Setup) (hook : Hook) (target : PowerState) (s : Scene) :
    Except Failure (Nat × Glance) × Scene :=
  (follow setup hook target (s.order.attempt + 1) (setup.checkBound + 1) 0).run
    (loopBegun setup hook target s)

/-- The loop goes round, from where it made `checks` checks to where it made `n` of them. -/
inductive Rounds (setup : Setup) (hook : Hook) (target : PowerState) (a : Int) :
    Nat → Scene → Nat → Scene → Prop
  | here (checks : Nat) (s : Scene) : Rounds setup hook target a checks s checks s
  | round {checks n : Nat} {s t u : Scene} (going : s.order.isOver = false)
      (allowed : s.order.allowsCheck checks = .ok true)
      (checked : (check setup hook target a).run s = (.ok (), t))
      (rest : Rounds setup hook target a (checks + 1)
        (afterPause setup hook (.polling a) t.order.interval t) n u) :
      Rounds setup hook target a checks s n u

/-- The loop of an execution from `s` comes to another check in the scene `u`. -/
structure ComesTo (setup : Setup) (hook : Hook) (target : PowerState) (s : Scene) (checks : Nat)
    (u : Scene) : Prop where
  rounds : Rounds setup hook target (s.order.attempt + 1) 0 (loopBegun setup hook target s) checks u
  bound : checks ≤ setup.checkBound
  going : u.order.isOver = false
  allowed : u.order.allowsCheck checks = .ok true

/-- How a loop ends that made `n` checks and then came to the scene `u`. -/
inductive LoopEnds (setup : Setup) (hook : Hook) (target : PowerState) (a : Int) (n : Nat)
    (u : Scene) : Except Failure (Nat × Glance) × Scene → Prop
  | looked (ended : u.order.isOver ∨ u.order.allowsCheck n = .ok false) :
      LoopEnds setup hook target a n u (.ok (n, glanceAt u.order), u)
  | limitless {failure : Failure} (going : u.order.isOver = false)
      (refused : u.order.allowsCheck n = .error failure) :
      LoopEnds setup hook target a n u (.error failure, u)
  | broken {failure : Failure} {t : Scene} (going : u.order.isOver = false)
      (allowed : u.order.allowsCheck n = .ok true)
      (checked : (check setup hook target a).run u = (.error failure, t)) :
      LoopEnds setup hook target a n u (.error failure, t)

/-- What comes of an execution from `s` whose loop made `n` checks and then came to the scene `u`. A
loop that was cut off looks as well. -/
inductive ComesOut (setup : Setup) (hook : Hook) (target : PowerState) (s : Scene) (n : Nat)
    (u : Scene) : Except Failure PowerResult → Scene → Prop
  | looked {result : Except Failure PowerResult} {t : Scene}
      (ended : u.order.isOver ∨ u.order.allowsCheck n = .ok false ∨ n = setup.checkBound + 1)
      (concluded : (conclude setup target
        (loopBegun setup hook target s).order.hardware.hardware.name n (glanceAt u.order)).run u =
          (result, t)) :
      ComesOut setup hook target s n u result t
  | limitless {failure : Failure} (going : u.order.isOver = false)
      (refused : u.order.allowsCheck n = .error failure) :
      ComesOut setup hook target s n u (.error failure)
        (if u.phase = .polling then u.enter .failed else u)
  | broken {failure : Failure} {t : Scene} (comes : ComesTo setup hook target s n u)
      (checked : (check setup hook target (s.order.attempt + 1)).run u = (.error failure, t)) :
      ComesOut setup hook target s n u (.error failure)
        (if t.phase = .polling then t.enter .failed else t)

/-- No order with this limit allows more than `n` checks. -/
def Caps (n : Nat) (limit : Json) : Prop :=
  ∀ order : PowerOrder, order.limit = limit → ∀ checks, n ≤ checks →
    order.allowsCheck checks ≠ .ok true

/-- Others do not raise the limit above `n` checks. -/
def KeepsCap (n : Nat) : Action → Prop
  | .setTiming (some limit) _ => Caps n limit
  | _ => True

/-- Neither the limit at the beginning is infinite nor one that the steps of a script, or others
during them, set. -/
structure FiniteLimits (script : Script) (steps : List Action) (limit : Json) : Prop where
  begun : (PowerOrder.checksOf? limit).isSome
  set : ∀ limit interval?, .setTiming (some limit) interval? ∈ steps ++ script.actions →
    (PowerOrder.checksOf? limit).isSome

def capping (n : Nat) : Law where
  holds s := Caps n s.order.limit ∧ Confined (KeepsCap n) s.supply
  leads _ _ := True
  refl _ := trivial
  trans _ _ := trivial

section Loops

variable {setup : Setup} {hook : Hook} {target : PowerState} {a : Int} {n fuel checks depth : Nat}
  {last : Nat × Glance} {s t u : Scene}

/-- An execution whose submission the pool accepts goes through its loop. -/
lemma run_execute_of_loop (ht : target ∈ PowerState.targets) (hopen : s.poolOpen) :
    (execute setup hook target).run s =
      let name := (handedOver setup hook target (s.order.attempt + 1)
        (attemptBegun s)).order.hardware.hardware.name
      let polled : Except Failure PowerResult × Scene := match loop setup hook target s with
        | (.error failure, u) => (.error failure, u)
        | (.ok (checks, seen), u) => (conclude setup target name checks seen).run u
      match polled with
      | (.ok result, t) => (.ok result, t)
      | (.error failure, t) =>
        (.error failure, if t.phase = .polling then t.enter .failed else t) := by
  rw [run_execute ht]
  simp only [hopen, if_true]
  rw [run_poll]
  rfl

/-- After its loop an execution leaves the order alone, and only adds to the journal. -/
lemma left_of_loop (ht : target ∈ PowerState.targets) (hopen : s.poolOpen)
    {result : Except Failure PowerResult} (hr : (execute setup hook target).run s = (result, t)) :
    t.order = (loop setup hook target s).2.order ∧
      (loop setup hook target s).2.journal <:+ t.journal := by
  rw [run_execute_of_loop ht hopen] at hr
  rcases hl : loop setup hook target s with ⟨failure | ⟨checks, seen⟩, u⟩
  · rw [hl] at hr
    cases hr
    split <;> exact ⟨rfl, List.suffix_rfl⟩
  · rw [hl] at hr
    dsimp only at hr
    generalize (handedOver setup hook target _ _).order.hardware.hardware.name = name at hr
    rcases hc : (conclude setup target name checks seen).run u with ⟨failure | value, v⟩
    · obtain ⟨horder, -, hjournal⟩ := left_of_conclude hc
      rw [hc] at hr
      cases hr
      dsimp only
      split <;> exact ⟨horder, hjournal⟩
    · obtain ⟨horder, -, hjournal⟩ := left_of_conclude hc
      rw [hc] at hr
      cases hr
      exact ⟨horder, hjournal⟩

lemma run_follow_of_over (h : Total hook) (hover : s.order.isOver) (fuel checks : Nat) :
    (follow setup hook target a fuel checks).run s = (.ok (checks, glanceAt s.order), s) := by
  cases fuel with
  | zero => rfl
  | succ fuel => rw [run_follow_succ h, if_pos hover]

lemma run_follow_of_allowed (h : Total hook) (going : s.order.isOver = false)
    (allowed : s.order.allowsCheck checks = .ok true) (fuel : Nat) :
    (follow setup hook target a (fuel + 1) checks).run s =
      match (check setup hook target a).run s with
      | (.error failure, t) => (.error failure, t)
      | (.ok (), t) => (follow setup hook target a fuel (checks + 1)).run
          (afterPause setup hook (.polling a) t.order.interval t) := by
  rw [run_follow_succ h, going, allowed]
  rfl

/-- Following from a scene is following from where the rounds lead, with what fuel is left. -/
lemma Rounds.follow_eq (h : Total hook) (hr : Rounds setup hook target a checks s n u) :
    ∃ k, n = checks + k ∧ ∀ fuel, (follow setup hook target a (fuel + k) checks).run s =
      (follow setup hook target a fuel n).run u := by
  induction hr with
  | here checks s => exact ⟨0, rfl, fun fuel => rfl⟩
  | @round checks n s t u going allowed checked rest ih =>
    obtain ⟨k, hk, hfollow⟩ := ih
    refine ⟨k + 1, by omega, fun fuel => ?_⟩
    rw [← Nat.add_assoc, run_follow_of_allowed h going allowed, checked]
    exact hfollow fuel

/-- Where the loop comes to another check, it goes on from there. -/
lemma ComesTo.loop_eq (h : Total hook) (hc : ComesTo setup hook target s checks u) :
    ∃ fuel, loop setup hook target s =
      match (check setup hook target (s.order.attempt + 1)).run u with
      | (.error failure, t) => (.error failure, t)
      | (.ok (), t) =>
        (follow setup hook target (s.order.attempt + 1) fuel (checks + 1)).run
          (afterPause setup hook (.polling (s.order.attempt + 1)) t.order.interval t) := by
  obtain ⟨k, hk, hfollow⟩ := hc.rounds.follow_eq h
  have hbound := hc.bound
  obtain ⟨fuel, hfuel⟩ : ∃ fuel, setup.checkBound + 1 = fuel + 1 + k :=
    ⟨setup.checkBound - k, by omega⟩
  refine ⟨fuel, ?_⟩
  rw [loop, hfuel, hfollow]
  exact run_follow_of_allowed h hc.going hc.allowed fuel

namespace Law

variable {L : Law} {may : Int → Prop} {allows : Action → Prop}

/-- Whole rounds obey the law. -/
lemma Stage.step_rounds (h : L.Stage may allows setup depth) (ha : may a)
    (hr : Rounds setup (hookAt setup depth) target a checks s n u) : L.Step s u := by
  induction hr with
  | here checks s => exact Step.refl L s
  | round going allowed checked rest ih => exact (h.step_round ha going checked).trans ih

lemma Stage.step_loopBegun (h : L.Stage (fun _ => True) allows setup depth) (hl : L.Launches)
    (target : PowerState) (s : Scene) :
    L.Step (attemptBegun s) (loopBegun setup (hookAt setup depth) target s) :=
  (h.step_handedOver hl target (attemptBegun s)).trans
    ((hl.entered _ .submitting).trans (hl.entered _ .polling))

lemma Stage.step_toLoop (h : L.Stage (fun _ => True) allows setup depth) (hl : L.Launches)
    (target : PowerState) (s : Scene) :
    L.Step s (loopBegun setup (hookAt setup depth) target s) :=
  (hl.step_attemptBegun s).trans (h.step_loopBegun hl target s)

end Law

/-- Where the attempt is over the loop does not go round any more. -/
lemma Rounds.eq_of_over (h : Rounds setup hook target a checks s n u) (hover : s.order.isOver) :
    n = checks ∧ u = s := by
  cases h with
  | here => exact ⟨rfl, rfl⟩
  | round going _ _ _ =>
    rw [hover] at going
    cases going

/-- The loop goes round until it ends, or is cut off. -/
lemma ends_of_follow (h : Total hook) (setup : Setup) (target : PowerState) (a : Int)
    (fuel checks : Nat) (s : Scene) :
    let r := (follow setup hook target a fuel checks).run s
    ∃ n u, Rounds setup hook target a checks s n u ∧
      ((n < checks + fuel ∧ LoopEnds setup hook target a n u r) ∨
        (n = checks + fuel ∧ r = (.ok (n, glanceAt u.order), u))) := by
  dsimp only
  induction fuel generalizing checks s with
  | zero => exact ⟨checks, s, .here checks s, .inr ⟨rfl, rfl⟩⟩
  | succ fuel ih =>
    have hmore : checks < checks + (fuel + 1) := by omega
    cases hover : s.order.isOver with
    | true =>
      rw [run_follow_of_over h hover]
      exact ⟨checks, s, .here checks s, .inl ⟨hmore, .looked (.inl hover)⟩⟩
    | false =>
      rw [run_follow_succ h, hover]
      simp only [Bool.false_eq_true, if_false]
      cases hallowed : s.order.allowsCheck checks with
      | error failure =>
        exact ⟨checks, s, .here checks s, .inl ⟨hmore, .limitless hover hallowed⟩⟩
      | ok more =>
        cases more with
        | false => exact ⟨checks, s, .here checks s, .inl ⟨hmore, .looked (.inr hallowed)⟩⟩
        | true =>
          dsimp only
          rcases hchecked : (check setup hook target a).run s with ⟨failure | _, t⟩
          · exact ⟨checks, s, .here checks s, .inl ⟨hmore, .broken hover hallowed hchecked⟩⟩
          · obtain ⟨n, u, hrounds, hends⟩ := ih (checks + 1)
              (afterPause setup hook (.polling a) t.order.interval t)
            refine ⟨n, u, .round hover hallowed hchecked hrounds, ?_⟩
            rwa [Nat.add_right_comm, Nat.add_assoc] at hends

/-- The loop ends because the attempt is over or the checks are used up, or it is cut off. -/
lemma usedUp_of_follow (h : Total hook)
    (hr : (follow setup hook target a fuel checks).run s = (.ok last, t)) :
    t.order.isOver ∨ t.order.allowsCheck last.1 = .ok false ∨ last.1 = checks + fuel := by
  obtain ⟨n, u, -, hends | ⟨hcut, hend⟩⟩ := ends_of_follow h setup target a fuel checks s
  · rw [hr] at hends
    cases hends.2 with
    | looked ended => exact ended.imp_right .inl
  · cases hr.symm.trans hend
    exact .inr (.inr hcut)

/-- An execution that does not come to its loop leaves nothing in the journal. -/
lemma refused_of_execute (h : ¬ (target ∈ PowerState.targets ∧ s.poolOpen))
    {result : Except Failure PowerResult}
    (hr : (execute setup hook target).run s = (result, t)) :
    t.journal = s.journal ∧ ∃ failure, result = .error failure ∧
      (failure.kind = .invalidParameter ∨ failure.kind = .runtime) := by
  by_cases ht : target ∈ PowerState.targets
  · have hclosed : ¬ s.poolOpen := fun hopen => h ⟨ht, hopen⟩
    rw [run_execute ht] at hr
    simp only [hclosed, Bool.false_eq_true, if_false] at hr
    cases hr
    exact ⟨rfl, _, rfl, .inr rfl⟩
  · rw [run_execute_unsupported ht] at hr
    cases hr
    exact ⟨rfl, _, rfl, .inl rfl⟩

/-- An execution whose submission the pool accepts comes out of its loop in one of these ways. -/
lemma comesOut_of_execute (h : Total hook) (ht : target ∈ PowerState.targets) (hopen : s.poolOpen)
    {result : Except Failure PowerResult}
    (hr : (execute setup hook target).run s = (result, t)) :
    ∃ n u, Rounds setup hook target (s.order.attempt + 1) 0 (loopBegun setup hook target s) n u ∧
      ComesOut setup hook target s n u result t := by
  let a := s.order.attempt + 1
  let name := (handedOver setup hook target a (attemptBegun s)).order.hardware.hardware.name
  obtain ⟨n, u, hrounds, hends⟩ :=
    ends_of_follow h setup target a (setup.checkBound + 1) 0 (loopBegun setup hook target s)
  have hlooked : ∀ (ended : u.order.isOver ∨ u.order.allowsCheck n = .ok false ∨
      n = setup.checkBound + 1), loop setup hook target s = (.ok (n, glanceAt u.order), u) →
      ComesOut setup hook target s n u result t := by
    intro ended hl
    rw [run_execute_of_loop ht hopen, hl] at hr
    dsimp only at hr
    rcases hc : (conclude setup target name n (glanceAt u.order)).run u with ⟨failure | value, v⟩
    · have hphase : v.phase ≠ .polling := (finishes_of_conclude hc).phase_ne_polling
      rw [hc] at hr
      simp only [if_neg hphase] at hr
      exact .looked ended (hc.trans hr)
    · rw [hc] at hr
      exact .looked ended (hc.trans hr)
  refine ⟨n, u, hrounds, ?_⟩
  rcases hends with ⟨hbound, hends⟩ | ⟨hcut, hl⟩
  · rcases hl : loop setup hook target s with ⟨outcome, v⟩
    have hends : LoopEnds setup hook target a n u (outcome, v) := by
      rw [← hl]
      exact hends
    cases hends with
    | looked ended => exact hlooked (ended.imp_right .inl) hl
    | limitless going refused =>
      rw [run_execute_of_loop ht hopen, hl] at hr
      cases hr
      exact .limitless going refused
    | broken going allowed checked =>
      rw [run_execute_of_loop ht hopen, hl] at hr
      cases hr
      exact .broken ⟨hrounds, by omega, going, allowed⟩ checked
  · exact hlooked (.inr (.inr (by omega))) hl

lemma caps_of_checksOf? {limit : Json} {m : Nat} (h : PowerOrder.checksOf? limit = some m)
    (hm : m ≤ n) : Caps n limit := by
  intro order hl checks hc
  rw [← hl] at h
  exact PowerOrder.allowsCheck_of_checksOf? h (Nat.le_trans hm hc)

lemma capping_step (hl : t.order.limit = s.order.limit)
    (ha : t.supply.answers ⊆ s.supply.answers) : (capping n).Step s t := by
  intro hs
  refine ⟨⟨?_, fun answer hm => hs.2 answer (ha hm)⟩, trivial⟩
  rw [hl]
  exact hs.1

lemma capping_onOrder {f : PowerOrder → PowerOrder} (hl : (f s.order).limit = s.order.limit) :
    (capping n).Step s (s.onOrder f) :=
  capping_step hl (List.Subset.refl _)

lemma capping_still (ho : t.order = s.order) (hs : t.supply = s.supply) : (capping n).Step s t :=
  capping_step (by rw [ho]) (by rw [hs]; exact List.Subset.refl _)

lemma capping_markDone (s : Scene) (failure? : Option Failure) (attempt? : Option Int) :
    (capping n).Step s (s.onOrder (·.markDone failure? attempt?)) :=
  capping_onOrder (by simp)

lemma capping_serves (n : Nat) : (capping n).Serves (fun _ => True) (KeepsCap n) where
  noted s event _ := capping_still rfl rfl
  supplied s request := capping_step rfl (answers_next_subset request s.supply)
  counted s := capping_still rfl rfl
  forgot s := capping_onOrder rfl
  hardware s attempt? latest _ := capping_onOrder (by simp)
  progress s attempt? task := capping_onOrder (by simp)
  ended s failure? attempt _ := capping_markDone s failure? (some attempt)
  task s attempt task _ := capping_onOrder (by simp)
  during _ request hs := hs.2.during request

lemma capping_awaits (n : Nat) (setup : Setup) :
    (capping n).Awaits (fun _ => True) (KeepsCap n) setup :=
  (capping_serves n).awaits (fun _ _ _ _ => trivial) (fun _ _ _ _ => capping_still rfl rfl) setup

lemma capping_launches (n : Nat) : (capping n).Launches where
  begun _ := capping_onOrder rfl
  entered _ _ := capping_still rfl rfl
  queued _ _ _ := capping_still rfl rfl

theorem capping_governs (n : Nat) (setup : Setup) :
    (capping n).Governs (fun _ => True) (KeepsCap n) setup where
  toAwaits := capping_awaits n setup
  bears s action ha := by
    cases action with
    | setTiming limit? interval? =>
      cases limit? with
      | none => exact capping_onOrder rfl
      | some limit => exact fun hs => ⟨⟨ha, hs.2⟩, trivial⟩
    | markDone _ attempt? => exact fun failure? => capping_markDone s failure? attempt?
    | submit _ _ => exact fun _ => trivial
    | reset | cancel | setTask _ | setHardware _ => exact capping_onOrder rfl
    | setMoment _ | close _ | executeOnce _ => exact capping_still rfl rfl
    | wait _ | observe _ | refresh _ | execute _ | look => trivial
  executes _ target hh _ := (capping_launches n).keeps_execute (capping_awaits n setup) hh target

/-- Under such a limit the loop goes round no more often than that. -/
lemma Rounds.le_of_caps {most : Nat}
    (hh : (capping most).Hosts (KeepsCap most) setup (hookAt setup depth))
    (hr : Rounds setup (hookAt setup depth) target a checks s n u) (hs : (capping most).holds s) :
    n ≤ max checks most := by
  have hstage := (capping_awaits most setup).stage hh
  induction hr with
  | here => exact Nat.le_max_left _ _
  | @round checks n s t u going allowed checked rest ih =>
    have hlt : checks < most := by
      by_contra hn
      exact hs.1 s.order rfl checks (Nat.le_of_not_lt hn) allowed
    have hrest := ih ((hstage.step_round trivial going checked) hs).1
    omega

lemma checks_le_of_follow (hh : (capping n).Hosts (KeepsCap n) setup (hookAt setup depth))
    (hs : (capping n).holds s)
    (hr : (follow setup (hookAt setup depth) target a fuel checks).run s = (.ok last, t)) :
    last.1 ≤ max checks n := by
  obtain ⟨m, u, hrounds, hends⟩ := ends_of_follow hh.total setup target a fuel checks s
  have hbound : m ≤ max checks n := hrounds.le_of_caps hh hs
  rw [hr] at hends
  rcases hends with ⟨-, hends⟩ | ⟨-, hcut⟩
  · cases hends with
    | looked ended => exact hbound
  · cases hcut
    exact hbound

/-- Where neither the order nor others allow more than `n` checks, the loop of an execution makes no
more than that, so it is not cut off. -/
theorem checks_le_of_loop (hwaits : ∀ number, ∀ action ∈ setup.duringWait number, KeepsCap n action)
    (hanswers : Confined (KeepsCap n) s.supply) (hlimit : Caps n s.order.limit)
    (hr : (loop setup (hookAt setup depth) target s).1 = .ok last) : last.1 ≤ n := by
  have hh := (capping_governs n setup).hosts_hookAt hwaits depth
  have hbegun := ((capping_awaits n setup).stage hh).step_toLoop (capping_launches n) target s
  have hchecks := checks_le_of_follow hh (hbegun ⟨hlimit, hanswers⟩).1 (Prod.ext hr rfl)
  rwa [Nat.zero_max] at hchecks

end Loops

/-- No action of a script with such limits raises the limit above the bound of the script. -/
lemma FiniteLimits.keepsCap {script : Script} {steps : List Action} {limit : Json}
    (h : FiniteLimits script steps limit) :
    ∀ action ∈ steps ++ script.actions, KeepsCap (script.checkBound steps limit) action := by
  intro action ha
  cases action with
  | setTiming limit? interval? =>
    cases limit? with
    | none => trivial
    | some set =>
      obtain ⟨m, hm⟩ := Option.isSome_iff_exists.mp (h.set set interval? ha)
      exact caps_of_checksOf? hm (Script.le_checkBound (Or.inr ⟨interval?, ha⟩) hm)
  | _ => trivial

/-- Where no limit is infinite, no execution that a script comes to is cut off: its loop makes no
more checks than the bound that was found for the script beforehand. -/
theorem checks_le_of_mem_play (script : Script) (settings : Settings) (failOnTimeout ownPool : Bool)
    {order : PowerOrder} {steps : List Action} (h : FiniteLimits script steps order.limit) :
    let setup := script.setup settings failOnTimeout ownPool order steps
    ∀ s, s = script.scene order ∨ (∃ r ∈ script.play setup (script.scene order) steps, r.2 = s) →
      ∀ depth target last, (loop setup (hookAt setup depth) target s).1 = .ok last →
        last.1 ≤ setup.checkBound := by
  intro setup s hreached depth target last hl
  have hkeeps := h.keepsCap
  have hwaits : ∀ number, ∀ action ∈ setup.duringWait number, KeepsCap setup.checkBound action :=
    fun number action ha =>
      hkeeps action (List.mem_append_right _ (script.duringWait_subset number ha))
  have hbegun : (capping setup.checkBound).holds (script.scene order) := by
    obtain ⟨m, hm⟩ := Option.isSome_iff_exists.mp h.begun
    refine ⟨caps_of_checksOf? hm (Script.le_checkBound (Or.inl rfl) hm), ?_⟩
    intro answer hanswer action ha
    apply hkeeps
    exact List.mem_append_right _
      (List.mem_append_left _ (List.mem_flatMap.mpr ⟨answer, hanswer, ha⟩))
  have hs : (capping setup.checkBound).holds s := by
    rcases hreached with rfl | ⟨r, hr, rfl⟩
    · exact hbegun
    · have hsteps : ∀ action ∈ steps, KeepsCap setup.checkBound action :=
        fun action ha => hkeeps action (List.mem_append_left _ ha)
      exact ((capping_governs setup.checkBound setup).step_of_mem_play hwaits script hsteps _ r hr
        hbegun).1
  exact checks_le_of_loop hwaits hs.2 hs.1 hl

end ServerPower.Proofs
