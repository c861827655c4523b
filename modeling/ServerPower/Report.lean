import ServerPower.Failure

/-!
# Reports

The log records of the program, and computations that write some on the way to a result or a
failure. A failure keeps the records written before it.
-/

namespace ServerPower

inductive Level where
  | info
  | warning
  | error
  deriving DecidableEq, Repr

/-- A log record. Its text may turn out not to exist, which does not stop the program. -/
structure Record where
  level : Level
  text : Except Failure String

structure Report (α : Type) where
  outcome : Except Failure α
  records : List Record

namespace Report

variable {α β : Type}

/-- Continues with a result, after the records written so far. -/
def andThen (r : Report α) (next : α → Report β) : Report β :=
  match r.outcome with
  | .ok a => ⟨(next a).outcome, r.records ++ (next a).records⟩
  | .error failure => ⟨.error failure, r.records⟩

instance : Monad Report where
  pure a := ⟨.ok a, []⟩
  bind := andThen

def fail (failure : Failure) : Report α := ⟨.error failure, []⟩

def ofExcept (outcome : Except Failure α) : Report α := ⟨outcome, []⟩

def log (level : Level) (text : String) : Report Unit := ⟨.ok (), [⟨level, .ok text⟩]⟩

@[simp] theorem outcome_pure (a : α) : (pure a : Report α).outcome = .ok a := rfl

@[simp] theorem records_pure (a : α) : (pure a : Report α).records = [] := rfl

@[simp] theorem outcome_fail (failure : Failure) :
    (fail failure : Report α).outcome = .error failure := rfl

@[simp] theorem records_fail (failure : Failure) : (fail failure : Report α).records = [] := rfl

theorem bind_of_ok {r : Report α} {a : α} (h : r.outcome = .ok a) (next : α → Report β) :
    r >>= next = ⟨(next a).outcome, r.records ++ (next a).records⟩ := by
  simp [bind, andThen, h]

theorem bind_of_error {r : Report α} {failure : Failure} (h : r.outcome = .error failure)
    (next : α → Report β) : r >>= next = ⟨.error failure, r.records⟩ := by
  simp [bind, andThen, h]

theorem exists_of_bind_eq_ok {r : Report α} {next : α → Report β} {b : β}
    (h : (r >>= next).outcome = .ok b) : ∃ a, r.outcome = .ok a ∧ (next a).outcome = .ok b := by
  cases hr : r.outcome with
  | error failure =>
    rw [bind_of_error hr] at h
    cases h
  | ok a =>
    rw [bind_of_ok hr] at h
    exact ⟨a, rfl, h⟩

end Report

end ServerPower
