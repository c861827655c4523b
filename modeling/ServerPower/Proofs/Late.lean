import ServerPower.Proofs.Superseded
import ServerPower.Proofs.Unattended

/-!
# Late submissions

A submission for an earlier attempt, run from its beginning by the pool while nobody else acts, is a
tree of own steps for that attempt, so it leaves the order alone. The exception is hardware without
an address: there the power state is forgotten before any request is sent, and on behalf of whatever
attempt.
-/

namespace ServerPower.Proofs
open Run

lemma CallTree.Yields.order_eq {α : Type} {k : Int} {s : Scene} {tree : CallTree α}
    (h : tree.Yields k s) (hidle : Idle s.supply) (hk : s.order.attempt ≠ k) (setup : Setup)
    (depth : Nat) : (tree.play (hookAt setup depth)).2.order = s.order := by
  induction tree generalizing s with
  | ended outcome t => exact h.aside hk
  | flight u origin request next ih =>
    have hu : Idle u.supply := h.1.supply ▸ hidle
    have hflown : flown (hookAt setup depth) origin request u =
        { u.note (.sent origin request) with supply := (u.supply.next request).2 } :=
      inFlight_of_idle (s := u.note (.sent origin request)) hu setup depth request
    have horder : (flown (hookAt setup depth) origin request u).order = s.order := by
      rw [hflown]
      exact h.1.aside hk
    have hsupply : Idle (flown (hookAt setup depth) origin request u).supply := by
      rw [hflown]
      exact hu.next request
    rw [CallTree.play, ih _ (h.2 _) hsupply (by rwa [horder]), horder]

lemma gaveUp_order {k : Int} {s : Scene} (hk : s.order.attempt ≠ k) (message : String)
    (failure : Failure) : (gaveUp k message failure s).order = s.order :=
  PowerOrder.markDone_of_not_current (PowerOrder.isCurrent_eq_false hk) _

/-- A late submission for hardware without an address ends before any call, once the power state is
forgotten. -/
lemma work_order_of_no_address (setup : Setup) (hook : Hook) (target : PowerState) {s : Scene}
    {k : Int} (hk : s.order.attempt ≠ k) (hu : ¬ s.order.hardware.hardware.uri.isGiven) :
    ((work setup hook target k).run s).2.order = { s.order with observed := .unknown } := by
  rw [run_work, run_submit]
  dsimp only
  rw [run_observe]
  simp only [hu, if_false, Bool.false_eq_true, Option.getD_some]
  by_cases hf : (raised setup.strict .missingHardware
      [("name", s.order.hardware.hardware.name)]).isA .general
  · simp only [hf, if_true]
    rw [gaveUp_order (by simpa using hk), logged_order, Scene.order_onOrder]
  · simp only [hf, Bool.false_eq_true, if_false]
    rw [gaveUp_order (by simpa using hk), logged_order, Scene.order_onOrder]

/-- A submission for an earlier attempt that the pool runs late leaves the order as it was if the
hardware has an address; else it forgets the power state. So it leaves every order alone but those
of hardware without an address whose power state is known. -/
theorem late_submission_order (setup : Setup) (depth : Nat) (target : PowerState) {s : Scene}
    {k : Int} (hk : k < s.order.attempt) (hidle : Idle s.supply) :
    let t := ((work setup (hookAt setup depth) target k).run s).2
    (t.order = if s.order.hardware.hardware.uri.isGiven then s.order
      else { s.order with observed := .unknown }) ∧
    (t.order = s.order ↔
      s.order.hardware.hardware.uri.isGiven ∨ s.order.observed = .unknown) := by
  have hne : s.order.attempt ≠ k := by omega
  dsimp only
  by_cases hu : s.order.hardware.hardware.uri.isGiven
  · obtain ⟨tree, hplay, hyields⟩ := Unfolds.work setup target (k := k) (s := s) (Or.inl hu)
    have horder := hyields.order_eq hidle hne setup depth
    rw [hplay _ (total_hookAt setup depth), horder]
    simp [hu]
  · rw [work_order_of_no_address setup _ target hne hu, if_neg hu]
    refine ⟨rfl, fun h => Or.inr ?_, fun h => ?_⟩
    · rw [← h]
    · rw [← h.resolve_left hu]

/-- In the second attempt the query and the change of the first one's submission are answered. -/
theorem late_submission_order_addressed :
    let s := (answeringBlade [] []).onOrder (·.reset.reset)
    1 < s.order.attempt ∧ Idle s.supply ∧
      (sentRequests ((work calm (hookAt calm 0) .on 1).run s).2).map (·.method) = ["GET", "PUT"] ∧
      ((work calm (hookAt calm 0) .on 1).run s).2.order = s.order := by
  intro s
  have hidle : Idle s.supply := by
    simp [s, Idle, answeringBlade, bladeScene, Supply.answers]
  have hlate : 1 < s.order.attempt := by decide
  have horder := (late_submission_order calm 0 .on hlate hidle).1
  rw [if_pos (by decide)] at horder
  exact ⟨hlate, hidle, by decide +kernel, horder⟩

/-- The blade in its second attempt. It was found switched on, but the manager did not give its
address again. -/
def addressLost : Scene :=
  let answer : Answer := { content := .reply 200 "OK" "\x7b\"powerState\": \"On\"\x7d" }
  ((hookAt calm 1 [.reset, .reset, .observe none]).run (bladeScene [answer])).2

/-- There the first attempt's submission, run late, takes the power state from the second one. -/
theorem late_submission_forgets_state :
    addressLost.order.attempt = 2 ∧ addressLost.order.observed = .on ∧
    ((work calm (hookAt calm 0) .off 1).run addressLost).2.order.observed = .unknown := by
  decide +kernel

end ServerPower.Proofs
