import ServerPower.Proofs.LastLook
import ServerPower.Proofs.Mirrored

/-!
# Renewed orders

Nothing of earlier attempts shows in a later one: among nobody, an execution on an order that has
been through any attempts goes as on a new order for the same hardware.
-/

namespace ServerPower.Proofs
open Run

/-- A new order for the same hardware, with the same timing, before the same answers. -/
def renewed (s : Scene) : Scene where
  order :=
    { hardware := s.order.hardware, limit := s.order.limit, interval := s.order.interval }
  supply := s.supply
  moment := s.moment

section Renewed

variable {f f' : Frame} {s s' : Scene} {setup setup' : Setup}

/-- A begun attempt has nothing of the earlier ones: it begins as the first one of a new order. -/
lemma mirrors_attemptBegun (hidle : Idle s.supply) (hpending : s.pending = []) :
    Mirrors ⟨s.order.attempt + 1, s.order.limit, .idle, s.journal⟩
      ⟨(renewed s).order.attempt + 1, s.order.limit, .idle, []⟩
      (attemptBegun s) (attemptBegun (renewed s)) where
  attempt := rfl
  limit := rfl
  order := rfl
  cancelled := rfl
  phase := rfl
  phase' := rfl
  supply := rfl
  idle := hidle
  pending := by
    show List.Forall₂ _ s.pending []
    rw [hpending]
    exact .nil
  journal := ⟨[], [], rfl, rfl, rfl⟩

lemma Mirrors.handedOver (h : Mirrors f f' s s') (hsetup : Twinned setup setup')
    (depth depth' : Nat) (target : PowerState) (hmoment : s'.moment = s.moment) :
    Mirrors f f' (handedOver setup (hookAt setup depth) target f.attempt s)
      (Proofs.handedOver setup' (hookAt setup' depth') target f'.attempt s') := by
  unfold Proofs.handedOver
  rw [hmoment]
  cases s.moment with
  | inline => exact (Alike.work hsetup depth depth' h target).2
  | atWait count =>
    have hjob : Twins f.attempt f'.attempt s.waits s'.waits ⟨s.waits + count, target, f.attempt⟩
        ⟨s'.waits + count, target, f'.attempt⟩ :=
      ⟨rfl, rfl, rfl, by dsimp only; omega⟩
    exact { h with pending := List.rel_append h.pending (.cons hjob .nil) }
  | never => exact h
  | cancelled => exact h

lemma Mirrors.poll (h : Mirrors f f' s s') (hsetup : Twinned setup setup') (depth depth' : Nat)
    (target : PowerState) (hlimit : f'.limit = f.limit)
    (hfuel : Fueled s.order 0 (setup.checkBound + 1) (setup'.checkBound + 1)) :
    let r := (Run.poll setup (hookAt setup depth) target f.attempt).run s
    let r' := (Run.poll setup' (hookAt setup' depth') target f'.attempt).run s'
    Coincide f f' r r' := by
  have hpolling := h.enter .polling
  have hallowed : ∀ checks, (s'.enter .polling).order.allowsCheck (checks + 0) =
      (s.enter .polling).order.allowsCheck checks :=
    allowsCheck_congr ((h.limit'.trans hlimit).trans h.limit.symm)
  obtain ⟨hresult, hscenes⟩ := Alike.follow hsetup depth depth' hpolling target hallowed hfuel
  dsimp only
  rw [run_poll, run_poll, h.hardware]
  rcases hf : (Run.follow setup (hookAt setup depth) target f.attempt _ 0).run _ with ⟨outcome, t⟩
  rcases hf' : (Run.follow setup' (hookAt setup' depth') target f'.attempt _ 0).run _ with
    ⟨outcome', t'⟩
  rw [hf, hf'] at hresult hscenes
  rcases outcome with failure | ⟨checks, seen⟩
  · obtain rfl : outcome' = .error failure := hresult
    exact ⟨rfl, .polling, hscenes⟩
  · obtain rfl : outcome' = .ok (checks, seen) := hresult
    obtain rfl : seen = glanceAt t.order := seen_of_follow (total_hookAt _ _) hf
    dsimp only
    rcases hscenes.conclude hsetup target s.order.hardware.hardware.name
      s.order.hardware.hardware.name checks checks with hsame | ⟨hr, hr'⟩
    · exact hsame
    · rw [hr, hr']
      exact hscenes.expired _ _ _ _

/-- Executions that begin their attempts in scenes that mirror each other end alike. -/
lemma Mirrors.execute (h : Mirrors f f' (attemptBegun s) (attemptBegun s'))
    (hsetup : Twinned setup setup') (depth depth' : Nat) {target : PowerState}
    (ht : target ∈ PowerState.targets) (ha : s.order.attempt + 1 = f.attempt)
    (ha' : s'.order.attempt + 1 = f'.attempt) (hlimit : f'.limit = f.limit)
    (hopen : s.poolOpen) (hopen' : s'.poolOpen) (hmoment : s'.moment = s.moment)
    (hfuel : Fueled s.order 0 (setup.checkBound + 1) (setup'.checkBound + 1)) :
    let r := (Run.execute setup (hookAt setup depth) target).run s
    let r' := (Run.execute setup' (hookAt setup' depth') target).run s'
    Coincide f f' r r' := by
  have hhanded := (h.handedOver hsetup depth depth' target hmoment).enter .submitting
  have hpoll := hhanded.poll hsetup depth depth' target hlimit
    (hfuel.congr (hhanded.limit.trans h.limit.symm))
  dsimp only
  rw [run_execute_eq_settled ht hopen, run_execute_eq_settled ht hopen', ha, ha']
  exact Coincide.settled hpoll

/-- Among nobody, with no earlier submission waiting, an execution goes as on a new order: it yields
the same, does the same and leaves the same, but for the number of the attempt. -/
theorem execute_renewed {target : PowerState} (ht : target ∈ PowerState.targets)
    (hidle : Idle s.supply) (hpending : s.pending = []) (hopen : s.poolOpen)
    (hsetup : Twinned setup setup')
    (hfuel : Fueled s.order 0 (setup.checkBound + 1) (setup'.checkBound + 1))
    (depth depth' : Nat) :
    let r := (execute setup (hookAt setup depth) target).run s
    let r' := (execute setup' (hookAt setup' depth') target).run (renewed s)
    r.1 = r'.1 ∧ r.2.phase = r'.2.phase ∧
      r.2.order = { r'.2.order with attempt := s.order.attempt + 1 } ∧
      ∃ new, r.2.journal = new ++ s.journal ∧ story new = story r'.2.journal := by
  obtain ⟨hresult, phase, h⟩ := (mirrors_attemptBegun hidle hpending).execute hsetup depth depth' ht
    rfl rfl rfl hopen rfl rfl hfuel
  obtain ⟨new, new', hj, hj', hstory⟩ := h.journal
  refine ⟨hresult.symm, h.phase.trans h.phase'.symm, ?_, new, hj, ?_⟩
  · have hlimit := h.limit'
    dsimp only at hlimit
    rw [h.order']
    simp only [hlimit]
  · rw [hj', List.append_nil, hstory]

end Renewed

/-- The blade of an order that timed out twice, failed and was cancelled since. It is off, and the
manager accepts its change and reports once that the task is running before it is completed. -/
def wornBlade : Scene :=
  let answers := ["\x7b\"uri\": \"/b\", \"powerState\": \"Off\"\x7d", "\x7b\"uri\": \"/t\"\x7d",
    "\x7b\"taskState\": \"Running\"\x7d", "\x7b\"taskState\": \"Completed\"\x7d"]
  { bladeScene (answers.map fun body => { content := .reply 200 "OK" body }) with
    order := { blade with
      observed := .on, done := true, failure? := some (changeFailed .on "Fan failure"),
      cancelled := true, task := { uri := "/old", state := "Error" }, attempt := 3 }
    phase := .cancelled, waits := 7, submissions := 3,
    journal := [⟨.waited (.polling 3) (.int 10), blade, .polling⟩] }

/-- Its fourth attempt sends and waits for the same as the first one of a new order. -/
theorem execute_renewed_wornBlade :
    .on ∈ PowerState.targets ∧ Idle wornBlade.supply ∧
      ((execute calm (hookAt calm 0) .on).run wornBlade).1 = .ok .completed ∧
      (sentRequests ((execute calm (hookAt calm 0) .on).run wornBlade).2).map (·.method) =
        ["GET", "PUT", "GET", "GET"] ∧
      ((execute calm (hookAt calm 0) .on).run wornBlade).1 =
        ((execute calm (hookAt calm 0) .on).run (renewed wornBlade)).1 ∧
      ((execute calm (hookAt calm 0) .on).run wornBlade).2.order =
        { ((execute calm (hookAt calm 0) .on).run (renewed wornBlade)).2.order with attempt := 4 } ∧
      ∃ new,
        ((execute calm (hookAt calm 0) .on).run wornBlade).2.journal = new ++ wornBlade.journal ∧
        story new =
          story ((execute calm (hookAt calm 0) .on).run (renewed wornBlade)).2.journal := by
  have ht : PowerState.on ∈ PowerState.targets := by decide
  have hidle : Idle wornBlade.supply := by
    simp [Idle, wornBlade, bladeScene, Supply.answers]
  have hcalm : Twinned calm calm := ⟨rfl, rfl, fun _ => rfl, fun _ => rfl⟩
  obtain ⟨hresult, -, horder, hstory⟩ :=
    execute_renewed ht hidle rfl rfl hcalm (Or.inl rfl) 0 0
  exact ⟨ht, hidle, by decide +kernel, by decide +kernel, hresult, horder, hstory⟩

end ServerPower.Proofs
