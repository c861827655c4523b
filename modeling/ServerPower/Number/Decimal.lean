import ServerPower.Number.Shortest

/-!
# Decimals of a given precision

The absolute value of a finite floating-point number, rounded to a number of decimal places or of
digits. The number is a fraction `num / den` of natural numbers, and rounding is exact, ties to the
even digit. Since the denominator is a power of two, all digits from some place on are zeros.
-/

namespace ServerPower.Binary64

/-- The fraction `num / den` in units of `10 ^ -places`, rounded. -/
def units (num den : Nat) (places : Int) : Nat :=
  let (num, den) := scaleDown 10 num den (-places)
  roundDiv num den

/-- The power of ten that a positive fraction reaches: `10 ^ k ≤ num / den < 10 ^ (k + 1)`. -/
def decimalPower (num den : Nat) : Int :=
  if den ≤ num then (Nat.toDigits 10 (num / den)).length - 1
  else -((Nat.toDigits 10 ((den + num - 1) / num - 1)).length : Int)

/-- The digits of `n` with the last `places` of them behind a point, which is left out if nothing
is behind it, unless it is `kept`. -/
def withPoint (kept : Bool) (places n : Nat) : List Char :=
  let digits := Nat.toDigits 10 n
  let digits := List.replicate (places + 1 - digits.length) '0' ++ digits
  let size := digits.length - places
  digits.take size ++ (if kept || places != 0 then '.' :: digits.drop size else [])

/-- No floating-point number has a digit other than zero after so many decimal places, neither in
positional nor in scientific notation. -/
def lastPlace : Nat := 1100

def zerosAfter (places : Nat) : List Char := List.replicate (places - lastPlace) '0'

/-- Positional notation with the given number of decimal places. -/
def fixed (kept : Bool) (places num den : Nat) : List Char :=
  let near := min places lastPlace
  withPoint kept near (units num den near) ++ zerosAfter places

/-- The power of ten of the first of `places + 1` digits, and the digits as a natural number. -/
def leadingDigits (places num den : Nat) : Int × Nat :=
  if num = 0 then (0, 0)
  else
    let power := decimalPower num den
    let n := units num den (places - power)
    if n = Nat.pow 10 (places + 1) then (power + 1, Nat.pow 10 places) else (power, n)

/-- Scientific notation with the given number of decimal places. -/
def scientific (kept : Bool) (places num den : Nat) : List Char :=
  let near := min places lastPlace
  let (power, n) := leadingDigits near num den
  withPoint kept near n ++ zerosAfter places ++ exponentText power

/-- Drops the zeros at the end of a decimal with a point, and then a point at the end. -/
def dropZeros (s : List Char) : List Char :=
  if s.contains '.' then ((s.reverse.dropWhile (· == '0')).dropWhile (· == '.')).reverse else s

/-- The given number of digits, in scientific notation if the first of them stands for less than
`10 ^ -4` or the last for more than one, and otherwise in positional notation. Zeros at the end are
dropped unless they are `kept`. -/
def general (kept : Bool) (digits num den : Nat) : List Char :=
  let places := digits - 1
  let near := min places lastPlace
  let (power, n) := leadingDigits near num den
  let finish := fun s => if kept then s ++ zerosAfter places else dropZeros s
  if power < -4 || (places : Int) < power then
    finish (withPoint kept near n) ++ exponentText power
  else finish (withPoint kept ((near : Int) - power).toNat n)

example : fixed false 1 42 1 = ['4', '2', '.', '0'] := by decide +kernel
example : fixed false 0 5 2 = ['2'] := by decide +kernel
example : String.ofList (scientific false 6 11 4) = "2.750000e+00" := by decide +kernel
example : String.ofList (general false 6 11 4) = "2.75" := by decide +kernel
example : String.ofList (general false 6 1 100000) = "1e-05" := by decide +kernel

end ServerPower.Binary64
