import ServerPower.CommandLine.Clock
import ServerPower.Proofs.Bounded

/-!
# Waits on a clock

On a clock the loop of an execution goes round as it does where waits take no time, up to the first
wait that does not come to its end. As long as others leave the timing alone every wait is for the
interval that the execution began with, so that it is this interval that the clock cannot count.
-/

namespace ServerPower.Proofs
open Run

/-- The loop makes `n` checks and comes to a wait that does not come to its end for this reason; all
the waits before it do. -/
inductive Overruns (setup : Setup) (hook : Hook) (target : PowerState) (a : Int) (halt : Halt) :
    Nat → Scene → Nat → Prop
  | here {checks : Nat} {s t : Scene} (going : s.order.isOver = false)
      (allowed : s.order.allowsCheck checks = .ok true)
      (checked : (check setup hook target a).run s = (.ok (), t))
      (halts : t.order.halt?
        (afterPause setup hook (.polling a) t.order.interval t).order.isOver = some halt) :
      Overruns setup hook target a halt checks s checks
  | later {checks n : Nat} {s t : Scene} (going : s.order.isOver = false)
      (allowed : s.order.allowsCheck checks = .ok true)
      (checked : (check setup hook target a).run s = (.ok (), t))
      (ends : t.order.halt?
        (afterPause setup hook (.polling a) t.order.interval t).order.isOver = none)
      (rest : Overruns setup hook target a halt (checks + 1)
        (afterPause setup hook (.polling a) t.order.interval t) n) :
      Overruns setup hook target a halt checks s n

section Loops

variable {setup : Setup} {hook : Hook} {target : PowerState} {a : Int} {halt : Halt}
  {checks depth n : Nat} {s t : Scene}

/-- On a clock the loop goes on after a wait just if the wait comes to its end. -/
lemma run_followOnClock_succ (h : Total hook) (setup : Setup) (target : PowerState) (a : Int)
    (fuel checks : Nat) (s : Scene) :
    (followOnClock setup hook target a (fuel + 1) checks).run s =
      if s.order.isOver then (.ok none, s)
      else match s.order.allowsCheck checks with
        | .error failure => (.error failure, s)
        | .ok false => (.ok none, s)
        | .ok true =>
          match (check setup hook target a).run s with
          | (.error failure, t) => (.error failure, t)
          | (.ok (), t) =>
            let u := afterPause setup hook (.polling a) t.order.interval t
            match t.order.halt? u.order.isOver with
            | some halt => (.ok (some halt), u)
            | none => (followOnClock setup hook target a fuel (checks + 1)).run u := by
  rw [followOnClock, run_bind, run_order]
  dsimp only
  split
  · rfl
  · simp only [run_bind, run_order, run_ofExcept]
    cases s.order.allowsCheck checks with
    | error failure => rfl
    | ok more =>
      cases more with
      | false => rfl
      | true =>
        simp only [Bool.not_true, Bool.false_eq_true, if_false, run_bind, run_order]
        rcases (check setup hook target a).run s with ⟨failure | _, t⟩
        · rfl
        · simp only [run_pause h]
          cases t.order.halt? _ <;> rfl

lemma run_followOnClock_of_checked (h : Total hook) (going : s.order.isOver = false)
    (allowed : s.order.allowsCheck checks = .ok true)
    (checked : (check setup hook target a).run s = (.ok (), t)) (fuel : Nat) :
    (followOnClock setup hook target a (fuel + 1) checks).run s =
      let u := afterPause setup hook (.polling a) t.order.interval t
      match t.order.halt? u.order.isOver with
      | some halt => (.ok (some halt), u)
      | none => (followOnClock setup hook target a fuel (checks + 1)).run u := by
  rw [run_followOnClock_succ h, going, allowed, checked]
  rfl

lemma Overruns.le (h : Overruns setup hook target a halt checks s n) : checks ≤ n := by
  induction h with
  | here => exact Nat.le_refl _
  | later _ _ _ _ _ ih => exact Nat.le_of_succ_le ih

/-- The loop on a clock gets no further than the wait that does not come to its end. -/
lemma Overruns.followOnClock_eq (h : Total hook)
    (ho : Overruns setup hook target a halt checks s n) {fuel : Nat} (hfuel : n < checks + fuel) :
    ((followOnClock setup hook target a fuel checks).run s).1 = .ok (some halt) := by
  induction ho generalizing fuel with
  | @here checks s t going allowed checked halts =>
    obtain ⟨fuel, rfl⟩ : ∃ left, fuel = left + 1 := ⟨fuel - 1, by omega⟩
    rw [run_followOnClock_of_checked h going allowed checked]
    simp only [halts]
  | @later checks n s t going allowed checked ends rest ih =>
    have hless := rest.le
    obtain ⟨fuel, rfl⟩ : ∃ left, fuel = left + 1 := ⟨fuel - 1, by omega⟩
    rw [run_followOnClock_of_checked h going allowed checked]
    simp only [ends]
    exact ih (by omega)

/-- The loop on a clock stops only at a wait that does not come to its end. -/
lemma overruns_of_followOnClock (h : Total hook) {fuel : Nat}
    (hr : ((followOnClock setup hook target a fuel checks).run s).1 = .ok (some halt)) :
    ∃ n, n < checks + fuel ∧ Overruns setup hook target a halt checks s n := by
  induction fuel generalizing checks s with
  | zero => cases hr
  | succ fuel ih =>
    rw [run_followOnClock_succ h] at hr
    cases hgoing : s.order.isOver with
    | true =>
      rw [hgoing] at hr
      cases hr
    | false =>
      rw [hgoing] at hr
      cases hallowed : s.order.allowsCheck checks with
      | error failure =>
        rw [hallowed] at hr
        cases hr
      | ok more =>
        cases more with
        | false =>
          rw [hallowed] at hr
          cases hr
        | true =>
          rcases hchecked : (check setup hook target a).run s with ⟨failure | _, t⟩
          · rw [hallowed, hchecked] at hr
            cases hr
          · simp only [hallowed, hchecked, Bool.false_eq_true, if_false] at hr
            split at hr
            · rename_i other halts
              cases hr
              exact ⟨checks, by omega, .here hgoing hallowed hchecked halts⟩
            · rename_i ends
              obtain ⟨n, hn, hrest⟩ := ih hr
              exact ⟨n, by omega, .later hgoing hallowed hchecked ends hrest⟩

/-- An execution on a clock stops just where its loop overruns. -/
theorem executeOnClock_eq_iff (h : Total hook) (hopen : s.poolOpen) :
    ((executeOnClock setup hook target).run s).1 = .ok (some halt) ↔
      ∃ n ≤ setup.checkBound, Overruns setup hook target (s.order.attempt + 1) halt 0
        (loopBegun setup hook target s) n := by
  have hrun : (executeOnClock setup hook target).run s =
      (followOnClock setup hook target (s.order.attempt + 1) (setup.checkBound + 1) 0).run
        (loopBegun setup hook target s) := by
    unfold executeOnClock
    simp only [run_bind, run_launch, hopen, if_true, run_setPhase]
    rfl
  rw [hrun]
  constructor
  · intro hr
    obtain ⟨n, hn, hoverruns⟩ := overruns_of_followOnClock h hr
    exact ⟨n, by omega, hoverruns⟩
  · rintro ⟨n, hn, hoverruns⟩
    exact hoverruns.followOnClock_eq h (by omega)

/-- Such a wait is reached in rounds that are gone as where waits take no time. -/
lemma Overruns.reached (h : Overruns setup hook target a halt checks s n) :
    ∃ u t, Rounds setup hook target a checks s n u ∧ u.order.isOver = false ∧
      (check setup hook target a).run u = (.ok (), t) ∧
      t.order.halt? (afterPause setup hook (.polling a) t.order.interval t).order.isOver =
        some halt := by
  induction h with
  | here going allowed checked halts => exact ⟨_, _, .here _ _, going, checked, halts⟩
  | later going allowed checked ends rest ih =>
    obtain ⟨u, t, hrounds, hlast⟩ := ih
    exact ⟨u, t, .round going allowed checked hrounds, hlast⟩

end Loops

section Intervals

variable {setup : Setup} {target : PowerState} {halt : Halt} {depth n : Nat} {s : Scene}

lemma of?_of_halt? {order : PowerOrder} {isOver : Bool} (h : order.halt? isOver = some halt) :
    Halt.of? order.interval = some halt := by
  unfold PowerOrder.halt? at h
  split at h
  · cases h
  · split at h
    · rename_i hendless
      split at h
      · cases h
      · rw [hendless, h]
    · exact h

/-- As long as others leave the timing alone, an execution that does not come to the end of a wait
began with an interval that the clock does not get over. -/
theorem Overruns.of?_interval
    (hwaits : ∀ number, ∀ action ∈ setup.duringWait number, Untimed action)
    (hanswers : Confined Untimed s.supply)
    (h : Overruns setup (hookAt setup depth) target (s.order.attempt + 1) halt 0
      (loopBegun setup (hookAt setup depth) target s) n) :
    Halt.of? s.order.interval = some halt := by
  let L := pacing s.order.limit s.order.interval
  have hpacing := pacing_governs s.order.limit s.order.interval setup
  have hstage := hpacing.toAwaits.stage (hpacing.hosts_hookAt hwaits depth)
  obtain ⟨u, t, hrounds, hgoing, hchecked, hhalts⟩ := h.reached
  have hbegun : L.Step s (loopBegun setup (hookAt setup depth) target s) :=
    hstage.step_toLoop (pacing_launches s.order.limit s.order.interval) target s
  have hround : L.Step u t := by
    have hstep := hstage.parts.step_check (s.order.attempt + 1) trivial hgoing target
    rwa [hchecked] at hstep
  have hpaced : Paced s.order.limit s.order.interval t :=
    ((hbegun.trans ((hstage.step_rounds trivial hrounds).trans hround)) ⟨rfl, rfl, hanswers⟩).1
  rw [← hpaced.delay]
  exact of?_of_halt? hhalts

end Intervals

end ServerPower.Proofs
