/-!
# Binary floating-point numbers

Numbers of 64 bits, held by their value: a finite one is a signed mantissa times a power of two.
Rounding is to the nearest representable number, ties to the even mantissa, and is exact natural
number arithmetic throughout.
-/

namespace ServerPower

/-- A binary floating-point number. Finite mantissas are below `2 ^ 53`, and at least `2 ^ 52`
unless the exponent is the least one, `-1074`. -/
inductive Binary64 where
  | nan
  | infinity (negative : Bool)
  | finite (negative : Bool) (mantissa : Nat) (exponent : Int)
  deriving DecidableEq, Repr, Inhabited

namespace Binary64

/-- The quotient rounded to the nearest natural number, ties to the even one. -/
def roundDiv (num den : Nat) : Nat :=
  let quotient := num / den
  let rest := num % den
  if 2 * rest > den || (2 * rest == den && quotient % 2 == 1) then quotient + 1 else quotient

/-- The fraction `num / den` divided by `base ^ exponent`, as a fraction of natural numbers. -/
def scaleDown (base : Nat) (num den : Nat) (exponent : Int) : Nat × Nat :=
  let scale := Nat.pow base exponent.natAbs
  if exponent < 0 then (num * scale, den) else (num, den * scale)

/-- Zero, with a sign. -/
def zero (negative : Bool) : Binary64 := .finite negative 0 (-1074)

def ofRatio (negative : Bool) (num den : Nat) : Binary64 :=
  if num = 0 then zero negative
  else
    let guess : Int := (Nat.log2 num : Int) - Nat.log2 den - 52
    let (n, d) := scaleDown 2 num den guess
    let exponent : Int := max (if n / d < Nat.pow 2 52 then guess - 1 else guess) (-1074)
    let (n, d) := scaleDown 2 num den exponent
    let mantissa := roundDiv n d
    let (mantissa, exponent) :=
      if mantissa = Nat.pow 2 53 then (Nat.pow 2 52, exponent + 1) else (mantissa, exponent)
    if exponent > 971 then .infinity negative else .finite negative mantissa exponent

/-- The number nearest to `digits · 10 ^ exponent`. Sizes far outside the range are settled
without computing the power. -/
def ofDecimal (negative : Bool) (digits : Nat) (exponent : Int) : Binary64 :=
  if digits = 0 then zero negative
  else
    let size : Int := (Nat.toDigits 10 digits).length + exponent
    if size > 310 then .infinity negative
    else if size < -330 then zero negative
    else
      let (num, den) := scaleDown 10 digits 1 (-exponent)
      ofRatio negative num den

def isZero : Binary64 → Bool
  | .finite _ mantissa _ => mantissa == 0
  | _ => false

/-- Whether a natural number lies strictly below. Nothing lies below `nan`. -/
def isAbove (n : Nat) : Binary64 → Bool
  | .nan => false
  | .infinity negative => !negative
  | .finite true _ _ => false
  | .finite false mantissa exponent =>
    let (num, den) := scaleDown 2 mantissa 1 (-exponent)
    n * den < num

def truncate? : Binary64 → Option Int
  | .finite negative mantissa exponent =>
    let (num, den) := scaleDown 2 mantissa 1 (-exponent)
    let whole : Int := (num / den : Nat)
    some (if negative then -whole else whole)
  | _ => none

theorem scaleDown_pos {base den : Nat} (hbase : 0 < base) (hden : 0 < den) (num : Nat)
    (exponent : Int) : 0 < (scaleDown base num den exponent).2 := by
  have hscaled : 0 < den * Nat.pow base exponent.natAbs := Nat.mul_pos hden (Nat.pow_pos hbase)
  unfold scaleDown
  dsimp only
  split
  · exact hden
  · exact hscaled

example : ofDecimal false 1 (-1) = .finite false 7205759403792794 (-56) := by decide +kernel
example : ofDecimal true 25 (-1) = .finite true 5629499534213120 (-51) := by decide +kernel
example : ofDecimal false 1 400 = .infinity false := by decide +kernel

end Binary64

end ServerPower
