import ServerPower.Failure
import ServerPower.Json.Basic
import ServerPower.Number.Decimal
import ServerPower.Template.Fit

/-!
# Conversions

What the letter of a place makes of a value: its text, its literal notation, its whole part, the
digits of a whole number in another base, one character, or a decimal of a given precision.
-/

namespace ServerPower

inductive DecimalNotation where
  | fixed
  | scientific
  | general
  deriving DecidableEq, Repr

inductive Conversion where
  | text
  | literal
  | asciiLiteral
  | whole
  | octal
  | hexadecimal (upper : Bool)
  | character
  | decimal (form : DecimalNotation) (upper : Bool)
  deriving DecidableEq, Repr

namespace Conversion

def all : List (Char × Conversion) :=
  [('s', .text), ('r', .literal), ('a', .asciiLiteral), ('d', .whole), ('i', .whole), ('u', .whole),
    ('o', .octal), ('x', .hexadecimal false), ('X', .hexadecimal true), ('c', .character),
    ('e', .decimal .scientific false), ('E', .decimal .scientific true),
    ('f', .decimal .fixed false), ('F', .decimal .fixed true),
    ('g', .decimal .general false), ('G', .decimal .general true)]

/-- What is reported for a value that the letter of a place cannot take. -/
def refused (letter : Char) (wanted : String) (v : Json) : Failure :=
  ⟨.wrongType, String.ofList ['%', letter] ++ " format: " ++ wanted ++ " is required, not " ++
    v.typeName⟩

/-- The whole part of a number. -/
def wholePart (letter : Char) : Json → Except Failure Int
  | .number (.int n) => .ok n
  | .number (.float x) =>
    match x, x.truncate? with
    | _, some n => .ok n
    | .nan, none => .error ⟨.wrongValue, "cannot convert float NaN to integer"⟩
    | _, none => .error ⟨.overflow, "cannot convert float infinity to integer"⟩
  | .bool b => .ok b.toInt
  | v => .error (refused letter "a real number" v)

def wholeNumber (letter : Char) : Json → Except Failure Int
  | .number (.int n) => .ok n
  | .bool b => .ok b.toInt
  | v => .error (refused letter "an integer" v)

def floatingPoint : Json → Except Failure Binary64
  | .number (.float x) => .ok x
  | .number (.int n) =>
    match Binary64.ofRatio (n < 0) n.natAbs 1 with
    | .infinity _ => .error ⟨.overflow, "int too large to convert to float"⟩
    | x => .ok x
  | .bool b => .ok (Binary64.ofRatio false b.toNat 1)
  | v => .error ⟨.wrongType, "must be real number, not " ++ v.typeName⟩

def oneCharacter : Json → Except Failure Char
  | .text s =>
    match s.toList with
    | [c] => .ok c
    | _ => .error ⟨.wrongType, "%c requires int or char"⟩
  | .number (.int n) =>
    if 0 ≤ n ∧ n < 0x110000 then .ok (Char.ofNat n.toNat)
    else .error ⟨.overflow, "%c arg not in range(0x110000)"⟩
  | .bool b => .ok (Char.ofNat b.toNat)
  | _ => .error ⟨.wrongType, "%c requires int or char"⟩

/-- Literal notation in which characters outside ASCII are escaped as well. -/
def escapedLiteral (v : Json) : List Char :=
  v.literal.toList.flatMap fun c =>
    if c.toNat < 0x80 then [c]
    else if c.toNat < 0x100 then '\\' :: 'x' :: Text.hex 2 c.toNat
    else if c.toNat < 0x10000 then '\\' :: 'u' :: Text.hex 4 c.toNat
    else '\\' :: 'U' :: Text.hex 8 c.toNat

/-- Fits a whole number in a base other than ten, whose mark is shown if the fit says so. -/
def inBase (fit : Fit) (base : Nat) (mark : Char) (upper : Bool) (n : Int) : List Char :=
  let shift := if upper then List.map Char.toUpper else id
  fit.whole (n < 0) (if fit.alternate then shift ['0', mark] else [])
    (shift (Nat.toDigits base n.natAbs))

/-- Checks that a whole number can be written with the precision and the width of the fit. -/
def checkWhole (fit : Fit) : Except Failure Unit := do
  let digits := fit.precision.getD 0
  if Fit.largestPrecision - 3 < digits then throw ⟨.overflow, "precision too large"⟩
  Fit.checkSize (max digits fit.width)

/-- The precision of a decimal, six unless the fit says otherwise. In scientific notation one more
digit stands before the point, and of the largest precision only that one is left. -/
def decimalPrecision (fit : Fit) (form : DecimalNotation) : Nat :=
  let places := fit.precision.getD 6
  if form = .scientific ∧ places = Fit.largestPrecision then 0 else places

/-- Checks that a decimal can be written with the precision and the width of the fit. In general
notation zeros at its end do not count. -/
def checkDecimal (fit : Fit) (form : DecimalNotation) : Binary64 → Except Failure Unit
  | .finite _ _ _ =>
    if form = .general ∧ !fit.alternate then Fit.checkSize fit.width
    else Fit.checkSize (max (decimalPrecision fit form) fit.width)
  | _ => Fit.checkSize fit.width

/-- Whether the sign of a number is negative, and its digits. -/
def decimalDigits (fit : Fit) (form : DecimalNotation) : Binary64 → Bool × List Char
  | .nan => (false, ['n', 'a', 'n'])
  | .infinity negative => (negative, ['i', 'n', 'f'])
  | .finite negative mantissa exponent =>
    let (num, den) := Binary64.scaleDown 2 mantissa 1 (-exponent)
    let places := decimalPrecision fit form
    (negative, match form with
      | .fixed => Binary64.fixed fit.alternate places num den
      | .scientific => Binary64.scientific fit.alternate places num den
      | .general => Binary64.general fit.alternate places num den)

/-- Converts a value and fits it into its place. `letter` is the one that asked for it. -/
def apply (fit : Fit) (letter : Char) (v : Json) : Conversion → Except Failure (List Char)
  | .text => do
    Fit.checkSize fit.width
    return fit.text v.display.toList
  | .literal => do
    Fit.checkSize fit.width
    return fit.text v.literal.toList
  | .asciiLiteral => do
    Fit.checkSize fit.width
    return fit.text (escapedLiteral v)
  | .whole => do
    let n ← wholePart letter v
    checkWhole fit
    return fit.whole (n < 0) [] (Nat.toDigits 10 n.natAbs)
  | .octal => do
    let n ← wholeNumber letter v
    checkWhole fit
    return inBase fit 8 'o' false n
  | .hexadecimal upper => do
    let n ← wholeNumber letter v
    checkWhole fit
    return inBase fit 16 'x' upper n
  | .character => do
    let c ← oneCharacter v
    Fit.checkSize fit.width
    return fit.pad [c]
  | .decimal form upper => do
    let x ← floatingPoint v
    checkDecimal fit form x
    let (negative, digits) := decimalDigits fit form x
    return fit.number negative [] (if upper then digits.map Char.toUpper else digits)

end Conversion

end ServerPower
