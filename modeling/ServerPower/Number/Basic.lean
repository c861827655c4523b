import ServerPower.Number.Shortest

/-!
# Numbers

A number is whole, of any size, or floating-point. The two are told apart by how they are written,
never by their value.
-/

namespace ServerPower

inductive Number where
  | int (value : Int)
  | float (value : Binary64)
  deriving DecidableEq, Repr

namespace Number

instance : Inhabited Number := ⟨.int 0⟩

/-- Decimal digits of a whole number, after a minus sign if it is negative. -/
def intDigits (n : Int) : List Char :=
  if n < 0 then '-' :: Nat.toDigits 10 n.natAbs else Nat.toDigits 10 n.natAbs

def text : Number → String
  | .int n => String.ofList (intDigits n)
  | .float x => x.text

def isZero : Number → Bool
  | .int n => n == 0
  | .float x => x.isZero

def isAbove (n : Nat) : Number → Bool
  | .int limit => (n : Int) < limit
  | .float limit => limit.isAbove n

/-- The least natural number that does not lie strictly below, where there is one. -/
def countBelow? : Number → Option Nat
  | .int limit => some limit.toNat
  | .float x =>
    match x with
    | .nan => some 0
    | .infinity negative => if negative then some 0 else none
    | .finite true _ _ => some 0
    | .finite false mantissa exponent =>
      let (num, den) := Binary64.scaleDown 2 mantissa 1 (-exponent)
      some ((num + den - 1) / den)

@[simp] theorem isAbove_int (n : Nat) (limit : Int) :
    isAbove n (.int limit) = decide ((n : Int) < limit) := rfl

/-- Counting up to a whole limit ends at the limit, or at once if it is negative. -/
theorem isAbove_int_eq_false_iff (n : Nat) (limit : Int) :
    isAbove n (.int limit) = false ↔ limit.toNat ≤ n := by
  simp only [isAbove_int, decide_eq_false_iff_not]
  omega

/-- Counting up to any limit that is not infinite ends. -/
theorem isAbove_eq_false_iff {x : Number} {m : Nat} (h : x.countBelow? = some m) (n : Nat) :
    x.isAbove n = false ↔ m ≤ n := by
  match x with
  | .int limit =>
    cases h
    exact isAbove_int_eq_false_iff n limit
  | .float (.infinity false) => cases h
  | .float .nan | .float (.infinity true) | .float (.finite true _ _) =>
    cases h
    exact iff_of_true rfl (Nat.zero_le n)
  | .float (.finite false mantissa exponent) =>
    let fraction := Binary64.scaleDown 2 mantissa 1 (-exponent)
    have hden : 0 < fraction.2 := Binary64.scaleDown_pos Nat.two_pos Nat.one_pos _ _
    have hm : (fraction.1 + fraction.2 - 1) / fraction.2 = m := Option.some.inj h
    have habove : isAbove n (.float (.finite false mantissa exponent)) =
        decide (n * fraction.2 < fraction.1) := rfl
    rw [habove, decide_eq_false_iff_not, Nat.not_lt, ← hm,
      Nat.div_le_iff_le_mul_add_pred hden, Nat.mul_comm]
    omega

end Number

end ServerPower
