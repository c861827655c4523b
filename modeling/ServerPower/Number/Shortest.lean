import ServerPower.Number.Binary64

/-!
# Shortest decimals

The decimal that stands for a floating-point number: of all decimals that round back to it, one
with the fewest digits, and of those the nearest. It lies on the coarsest grid of powers of ten
that has a point among the reals rounding to the number.
-/

namespace ServerPower.Binary64

/-- The multiple of `step` nearest to `value` among those from `low` to `high`, as the factor of
`step`; `closed` says whether the two ends count. Of two equally near the even one is taken. -/
def nearestMultiple? (low value high step : Nat) (closed : Bool) : Option Nat :=
  let below := value / step
  let fits (c : Nat) : Bool :=
    if closed then low ≤ c * step && c * step ≤ high else low < c * step && c * step < high
  match fits below, fits (below + 1) with
  | true, true =>
    let down := value - below * step
    let up := (below + 1) * step - value
    some (if down < up || (down == up && below % 2 == 0) then below else below + 1)
  | true, false => some below
  | false, true => some (below + 1)
  | false, false => none

/-- Searches ever finer grids, from `10 ^ power` on, for a decimal `(c, k)` standing for
`c · 10 ^ k`. The four arguments after the fuel are counted in units of `2 ^ unit`. -/
def searchGrids : (fuel : Nat) → (low value high : Nat) → (unit power : Int) → (closed : Bool) →
    Nat × Int
  | 0, _, value, _, unit, power, _ =>
    let (num, den) := scaleDown 2 value 1 (-unit)
    (num / den, power)
  | fuel + 1, low, value, high, unit, power, closed =>
    let (num, den) := scaleDown 2 1 1 (-unit)
    let (num, den) := scaleDown 10 num den power
    match nearestMultiple? (low * num) (value * num) (high * num) den closed with
    | some c => (c, power)
    | none => searchGrids fuel low value high unit (power - 1) closed

/-- The shortest decimal `c · 10 ^ k` of `mantissa · 2 ^ exponent`, as `(c, k)`, for a mantissa
that is not zero. The reals below a power of two are spaced half as wide as those above it. -/
def shortest (mantissa : Nat) (exponent : Int) : Nat × Int :=
  let low :=
    if mantissa = Nat.pow 2 52 && exponent > -1074 then 4 * mantissa - 1 else 4 * mantissa - 2
  let bits : Int := Nat.log2 mantissa + 1 + exponent
  let power := (bits * 30103).fdiv 100000 + 1
  searchGrids 30 low (4 * mantissa) (4 * mantissa + 2) (exponent - 2) power (mantissa % 2 == 0)

/-- A power of ten behind the digits of a number: its sign and at least two digits. -/
def exponentText (power : Int) : List Char :=
  let digits := Nat.toDigits 10 power.natAbs
  'e' :: (if power < 0 then '-' else '+') ::
    (if digits.length < 2 then '0' :: digits else digits)

/-- The text of a number: positional from `0.0001` to below `10 ^ 16` and always with a point,
otherwise with an exponent of at least two digits and its sign. -/
def text : Binary64 → String
  | .nan => "nan"
  | .infinity negative => if negative then "-inf" else "inf"
  | .finite negative mantissa exponent =>
    let sign := if negative then ['-'] else []
    String.ofList <| sign ++
      if mantissa = 0 then ['0', '.', '0']
      else
        let (c, k) := shortest mantissa exponent
        let digits := Nat.toDigits 10 c
        let point : Int := digits.length + k
        if -4 < point && point ≤ 16 then
          if point ≤ 0 then '0' :: '.' :: List.replicate point.natAbs '0' ++ digits
          else if digits.length ≤ point.toNat then
            digits ++ List.replicate (point.toNat - digits.length) '0' ++ ['.', '0']
          else digits.take point.toNat ++ '.' :: digits.drop point.toNat
        else
          digits.take 1 ++ (if digits.length > 1 then '.' :: digits.drop 1 else []) ++
            exponentText (point - 1)

example : text (ofDecimal false 1 (-1)) = "0.1" := by decide +kernel
example : text (ofDecimal true 0 0) = "-0.0" := by decide +kernel
example : text (ofDecimal false 1 16) = "1e+16" := by decide +kernel
example : text (ofDecimal false 5 (-324)) = "5e-324" := by decide +kernel
example : text (ofDecimal false 123456 (-10)) = "1.23456e-05" := by decide +kernel

end ServerPower.Binary64
