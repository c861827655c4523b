/-!
# Blanks, marks and digits

The characters trimmed from the two ends of an address and of the text of an option, texts cut at a
mark, and the whole numbers written with the digits of any script of Unicode 14.0.
-/

namespace ServerPower.Text

/-- The Unicode spaces, the line and paragraph separators, and the control characters that
separate lines, files, groups, records and units. -/
def isBlank (c : Char) : Bool :=
  let n := c.toNat
  (9 ≤ n && n ≤ 13) || (28 ≤ n && n ≤ 32) || n == 0x85 || n == 0xA0 || n == 0x1680 ||
    (0x2000 ≤ n && n ≤ 0x200A) || n == 0x2028 || n == 0x2029 || n == 0x202F || n == 0x205F ||
    n == 0x3000

def trimBy (p : Char → Bool) (s : List Char) : List Char :=
  ((s.dropWhile p).reverse.dropWhile p).reverse

def trim (s : String) : String :=
  String.ofList (trimBy isBlank s.toList)

/-- Splits before the first `mark`, which is dropped; without one nothing follows. -/
def cut (mark : Char) (s : List Char) : List Char × List Char :=
  (s.takeWhile (· != mark), (s.dropWhile (· != mark)).drop 1)

/-! ## Whole numbers -/

/-- The zeros of the scripts outside ASCII; the nine digits after a zero follow it. -/
def digitZeros : List Nat :=
  [0x660, 0x6F0, 0x7C0, 0x966, 0x9E6, 0xA66, 0xAE6, 0xB66, 0xBE6, 0xC66, 0xCE6, 0xD66, 0xDE6,
    0xE50, 0xED0, 0xF20, 0x1040, 0x1090, 0x17E0, 0x1810, 0x1946, 0x19D0, 0x1A80, 0x1A90, 0x1B50,
    0x1BB0, 0x1C40, 0x1C50, 0xA620, 0xA8D0, 0xA900, 0xA9D0, 0xA9F0, 0xAA50, 0xABF0, 0xFF10,
    0x104A0, 0x10D30, 0x11066, 0x110F0, 0x11136, 0x111D0, 0x112F0, 0x11450, 0x114D0, 0x11650,
    0x116C0, 0x11730, 0x118E0, 0x11950, 0x11C50, 0x11D50, 0x11DA0, 0x16A60, 0x16AC0, 0x16B50,
    0x1D7CE, 0x1D7D8, 0x1D7E2, 0x1D7EC, 0x1D7F6, 0x1E140, 0x1E2F0, 0x1E950, 0x1FBF0]

def digitValue? (c : Char) : Option Nat :=
  let n := c.toNat
  if n < 0x80 then if c.isDigit then some (n - 0x30) else none
  else (digitZeros.find? fun start => start ≤ n && n < start + 10).map (n - ·)

/-- Digits in groups joined by single underscores; `seen` holds what was read so far, and a group
may end only after a digit. -/
def readDigits : List Char → Nat → Option Nat
  | [], seen => some seen
  | '_' :: c :: rest, seen =>
    match digitValue? c with
    | some d => readDigits rest (10 * seen + d)
    | none => none
  | c :: rest, seen =>
    match digitValue? c with
    | some d => readDigits rest (10 * seen + d)
    | none => none

/-- The blanks that may stand around a number: those of any text but the four separators of files,
groups, records and units. -/
def isNumberBlank (c : Char) : Bool :=
  isBlank c && !(28 ≤ c.toNat && c.toNat ≤ 31)

/-- A whole number: blanks around it, one sign, then a digit and further digits. -/
def readInt? (s : String) : Option Int :=
  let (negative, digits) :=
    match trimBy isNumberBlank s.toList with
    | '-' :: rest => (true, rest)
    | '+' :: rest => (false, rest)
    | rest => (false, rest)
  match digits with
  | [] | '_' :: _ => none
  | _ => (readDigits digits 0).map fun n => if negative then -(n : Int) else n

example : readInt? " -1_000 " = some (-1000) := by decide +kernel
example : readInt? "1__0" = none := by decide +kernel
example : readInt? "\x1c1" = none := by decide +kernel

end ServerPower.Text
