import ServerPower.Proofs.DirectChange
import ServerPower.Proofs.Escapes

/-!
# The last look

What comes of an execution is decided by its last look at the order, and that look tells whatever is
recorded of the current attempt then. It is about the attempt of the execution as long as this one
is current; if another attempt was begun meanwhile, it is about the later one.
-/

namespace ServerPower.Proofs
open Run

/-- What comes of an execution for attempt `a` that leaves an order so, with these entries noted
meanwhile. -/
inductive Reports (target : PowerState) (a : Int) (order : PowerOrder) (entries : List Entry) :
    Except Failure PowerResult → Prop
  | completed (done : order.done = true) (unfailed : order.failure? = none) :
      Reports target a order entries (.ok .completed)
  | cancelled (undone : order.done = false) (unfailed : order.failure? = none)
      (cancelled : order.cancelled = true) : Reports target a order entries (.ok .cancelled)
  | timedOut (unfailed : order.failure? = none) (unfinished : order.isOver = false) :
      Reports target a order entries (.ok .timedOut)
  | overdue {name : Json} {checks : Nat} (unfailed : order.failure? = none)
      (unfinished : order.isOver = false) :
      Reports target a order entries (.error (changeTimedOut target name checks))
  | failed {cause : Failure} (failed : order.failure? = some cause) :
      Reports target a order entries (.error (submissionFailed target cause))
  /-- The execution ended before it could conclude from what it saw. -/
  | escaped {failure : Failure}
      (told : failure.isA .powerChange → Told (.polling a) failure entries) :
      Reports target a order entries (.error failure)

section LastLook

variable {setup : Setup} {depth : Nat} {target : PowerState} {a : Int} {s t : Scene}
  {result : Except Failure PowerResult}

lemma reports_of_conclude {name : Json} {checks : Nat} (entries : List Entry)
    (h : (conclude setup target name checks (glanceAt s.order)).run s = (result, t)) :
    Reports target a t.order entries result := by
  have hfinishes := finishes_of_conclude h
  rw [← (left_of_conclude h).1] at hfinishes
  generalize t.phase = phase at hfinishes
  cases hfinishes with
  | failed failed => exact .failed failed
  | completed unfailed done => exact .completed done unfailed
  | cancelled unfailed undone cancelled => exact .cancelled undone unfailed cancelled
  | timedOut unfailed undone uncancelled _ =>
    exact .timedOut unfailed (Bool.or_eq_false_iff.mpr ⟨undone, uncancelled⟩)
  | overdue unfailed undone uncancelled _ =>
    exact .overdue unfailed (Bool.or_eq_false_iff.mpr ⟨undone, uncancelled⟩)

lemma reports_of_poll {new : List Entry} {u : Scene} (hu : Advances s (u.enter .polling))
    (hj : t.journal = new ++ s.journal)
    (h : (poll setup (hookAt setup depth) target a).run u = (result, t)) :
    Reports target a t.order new result := by
  rw [run_poll] at h
  split at h
  · rename_i failure v hf
    cases h
    refine .escaped fun hp => ?_
    obtain ⟨new', hj', htold⟩ := Told.after hu (told_of_follow_eq_error hf hp)
    rwa [List.append_cancel_right (hj.symm.trans hj')]
  · rename_i checks seen v hf
    obtain rfl : seen = glanceAt v.order := seen_of_follow (total_hookAt setup depth) hf
    exact reports_of_conclude new h

/-- What comes of an execution is what its last look told of the current attempt: of its own one, if
no other attempt was begun since, and else of a later one. A failure of the change escapes before
that only if it was the answer to one of its own checks. -/
theorem result_of_last_look (ht : target ∈ PowerState.targets)
    (hr : (execute setup (hookAt setup depth) target).run s = (result, t)) :
    let a := s.order.attempt + 1
    ∃ new, t.journal = new ++ s.journal ∧ Reports target a t.order new result ∧
      ((t.order.attempt = a ∧ ∀ e ∈ new, e.order.attempt = a) ∨ a < t.order.attempt) := by
  have hh := advancing_hookAt setup depth
  have hadvances : Advances (attemptBegun s) t := by
    have h := (advancing_launches.step_begun (advancing_awaits setup) hh ht s trivial).2
    rwa [hr] at h
  have hnumber : s.order.attempt + 1 ≤ t.order.attempt := hadvances.attempt
  obtain ⟨new, hj, hbounds⟩ := hadvances.journal
  refine ⟨new, hj, ?_, ?_⟩
  · -- Nothing but the phase changes between the last look and the end.
    by_cases hopen : s.poolOpen
    · obtain ⟨u, hp, ht⟩ := polled_of_execute ht hopen hr
      have hhanded := ((advancing_launches.step_handedOver (advancing_awaits setup) hh target
        (attemptBegun s)).trans (advancing_launches.entered _ .submitting)).trans
        (advancing_launches.entered _ .polling)
      have hsame : t.order = u.order ∧ t.journal = u.journal := by
        rcases ht with rfl | ⟨-, rfl⟩ <;> exact ⟨rfl, rfl⟩
      rw [hsame.1]
      exact reports_of_poll (hhanded trivial).2 (hsame.2.symm.trans hj) hp
    · rw [run_execute ht] at hr
      simp only [hopen] at hr
      cases hr
      exact .escaped fun hp => absurd hp (by decide)
  · -- The numbers of attempts only grow, so an attempt that is current at the end always was.
    rcases Int.lt_or_eq_of_le hnumber with hlt | heq
    · exact Or.inr hlt
    · refine Or.inl ⟨heq.symm, fun e he => ?_⟩
      have hfrom : s.order.attempt + 1 ≤ e.order.attempt := (hbounds e he).1
      have hto := (hbounds e he).2
      omega

end LastLook

/-- A blade that is switched off and stays so: the manager answers one query. -/
def restingBlade : Scene :=
  bladeScene [{ content := .reply 200 "OK" "\x7b\"uri\": \"/b\", \"powerState\": \"Off\"\x7d" }]

theorem result_of_last_look_blade :
    .off ∈ PowerState.targets ∧ ∃ t new,
      (execute calm (hookAt calm 0) .off).run restingBlade = (.ok .completed, t) ∧
      t.journal = new ++ restingBlade.journal ∧
      Reports .off (restingBlade.order.attempt + 1) t.order new (.ok .completed) := by
  have hresult : ((execute calm (hookAt calm 0) .off).run restingBlade).1 = .ok .completed := by
    decide +kernel
  rcases hr : (execute calm (hookAt calm 0) .off).run restingBlade with ⟨result, t⟩
  rw [hr] at hresult
  subst hresult
  have ht : PowerState.off ∈ PowerState.targets := by decide
  obtain ⟨new, hj, hreports, -⟩ := result_of_last_look ht hr
  exact ⟨ht, t, new, rfl, hj, hreports⟩

/-- Someone else begins an attempt to switch off during the first wait. -/
def takenOver : Setup :=
  { calm with duringWait := fun number => if number = 1 then [.reset, .submit .off none] else [] }

/-- Executing the change to on, attempt 1, reports the completion of attempt 2, which was to switch
off. Attempt 1 was never done. -/
theorem completion_of_later_attempt :
    let r := (execute takenOver (hookAt takenOver 1) .on).run { restingBlade with moment := .never }
    r.1 = .ok .completed ∧ r.2.order.attempt = 2 ∧ r.2.order.observed = .off ∧
      ∀ e ∈ r.2.journal, e.order.attempt = 1 → e.order.done = false := by
  decide +kernel

end ServerPower.Proofs
