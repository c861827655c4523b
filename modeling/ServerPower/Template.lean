import ServerPower.Template.Conversion

/-!
# Message templates

A template is a text with places for named values, such as `%(name)s`; the last letter says what is
made of the value, and `%%` is a percent sign. Flags, a least width and a precision may stand before
the letter. The first place without a name stands for all the values at once.
-/

namespace ServerPower

namespace Template

abbrev Values := List (String × Json)

/-- What is reported for a letter that asks for nothing. `position` is where it stands. -/
def unknownLetter (letter : Char) (position : Nat) : Failure :=
  let shown := if 31 ≤ letter.toNat && letter.toNat < 127 then letter else '?'
  ⟨.wrongValue, "unsupported format character '" ++ String.ofList [shown] ++ "' (0x" ++
    String.ofList (Nat.toDigits 16 letter.toNat) ++ ") at index " ++ toString position⟩

def convert (fit : Fit) (letter : Char) (position : Nat) (v : Json) : Except Failure (List Char) :=
  match Conversion.all.lookup letter with
  | some conversion => conversion.apply fit letter v
  | none => .error (unknownLetter letter position)

/-- Splits a name off at the parenthesis that closes it; `depth` counts those still open. -/
def splitName? : (depth : Nat) → List Char → Option (List Char × List Char)
  | _, [] => none
  | depth, c :: rest =>
    if c == ')' && depth ≤ 1 then some ([], rest)
    else
      let depth := if c == ')' then depth - 1 else if c == '(' then depth + 1 else depth
      (splitName? depth rest).map fun (name, rest) => (c :: name, rest)

def readFlags (fit : Fit) : List Char → Fit × List Char
  | '-' :: rest => readFlags { fit with left := true } rest
  | '+' :: rest => readFlags { fit with plus := true } rest
  | ' ' :: rest => readFlags { fit with blank := true } rest
  | '#' :: rest => readFlags { fit with alternate := true } rest
  | '0' :: rest => readFlags { fit with zero := true } rest
  | s => (fit, s)

def noValueLeft : Failure := ⟨.wrongType, "not enough arguments for format string"⟩

inductive Size where
  | width
  | precision
  deriving DecidableEq, Repr

namespace Size

def name : Size → String
  | .width => "width"
  | .precision => "precision"

def type : Size → String
  | .width => "C ssize_t"
  | .precision => "C int"

def bound : Size → Nat
  | .width => Nat.pow 2 63
  | .precision => Fit.largestPrecision + 1

end Size

/-- Reads a width or a precision. A star takes the value at hand for it, which leaves none. -/
def readSize (size : Size) (current : Option Json) :
    List Char → Except Failure (Nat × Option Json × List Char)
  | '*' :: rest =>
    match current with
    | none => .error noValueLeft
    | some (.number (.int n)) =>
      if -(size.bound : Int) ≤ n && n < size.bound then .ok (n.toNat, none, rest)
      else .error ⟨.overflow, "Python int too large to convert to " ++ size.type⟩
    | some (.bool b) => .ok (b.toNat, none, rest)
    | some _ => .error ⟨.wrongType, "* wants int"⟩
  | s =>
    let (digits, rest) := s.span Char.isDigit
    let n := Nat.ofDigitChars 10 digits 0
    if n < size.bound then .ok (n, current, rest)
    else .error ⟨.wrongValue, size.name ++ " too big"⟩

/-- Reads the name of a place, if it has one: the value at hand is then the one of that name. -/
def readName (values : Values) (current : Option Json) :
    List Char → Except Failure (Option Json × List Char)
  | '(' :: rest =>
    match splitName? 1 rest with
    | none => .error ⟨.wrongValue, "incomplete format key"⟩
    | some (name, rest) =>
      let name := String.ofList name
      match values.lookup name with
      | some v => .ok (some v, rest)
      | none => .error ⟨.missingKey, Text.quote name⟩
  | s => .ok (current, s)

/-- A place read up to its letter: the fit, the value at hand and the rest. -/
def readPlace (values : Values) (current : Option Json) (s : List Char) :
    Except Failure (Fit × Option Json × List Char) := do
  let (current, s) ← readName values current s
  let (fit, s) := readFlags {} s
  let (width, current, s) ← readSize .width current s
  let (precision, current, s) ←
    match s with
    | '.' :: s => do
      let (size, current, s) ← readSize .precision current s
      pure (some size, current, s)
    | s => pure (none, current, s)
  let s := match s with
    | 'h' :: s | 'l' :: s | 'L' :: s => s
    | s => s
  .ok ({ fit with width, precision }, current, s)

/-- Fills in the places of a template of `size` characters from the rest of it on. The fuel is at
least the number of characters left. -/
def fill (values : Values) (size : Nat) :
    (fuel : Nat) → (current : Option Json) → List Char → Except Failure (List Char)
  | 0, _, s => .ok s
  | _, _, [] => .ok []
  | fuel + 1, current, '%' :: '%' :: s => return '%' :: (← fill values size fuel current s)
  | fuel + 1, current, c :: s =>
    if c == '%' then do
      let (fit, current, s) ← readPlace values current s
      match s with
      | [] => .error ⟨.wrongValue, "incomplete format"⟩
      | letter :: rest =>
        match current with
        | none => .error noValueLeft
        | some v =>
          let piece ← convert fit letter (size - s.length) v
          return piece ++ (← fill values size fuel none rest)
    else return c :: (← fill values size fuel current s)

def render (template : String) (values : Values) : Except Failure String :=
  let s := template.toList
  (fill values s.length s.length (some (.object values)) s).map String.ofList

example : (render "%(a)05d|%(b)-3s|%%" [("a", .int (-42)), ("b", .text "x")]).toOption =
    some "-0042|x  |%" := by decide +kernel
example : (render "%s %s" [("a", .int 1)]).toOption = none := by decide +kernel

end Template

end ServerPower
