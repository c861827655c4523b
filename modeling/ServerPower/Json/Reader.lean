import ServerPower.Json.Basic

/-!
# Reading JSON

A reader that says what is wrong and where. A fault carries what was left to read at the place it
points to, so that positions are computed once, from the whole text.
-/

namespace ServerPower.Json

inductive Defect where
  | value
  | key
  | colon
  | comma
  | unterminated
  | control
  | escape
  | unitEscape
  | extra
  | byteOrderMark
  deriving DecidableEq, Repr

def Defect.message : Defect → String
  | .value => "Expecting value"
  | .key => "Expecting property name enclosed in double quotes"
  | .colon => "Expecting ':' delimiter"
  | .comma => "Expecting ',' delimiter"
  | .unterminated => "Unterminated string starting at"
  | .control => "Invalid control character at"
  | .escape => "Invalid \\escape"
  | .unitEscape => "Invalid \\uXXXX escape"
  | .extra => "Extra data"
  | .byteOrderMark => "Unexpected UTF-8 BOM (decode using utf-8-sig)"

/-- A defect, and the part of the text that begins where it lies. -/
structure Fault where
  defect : Defect
  rest : List Char
  deriving DecidableEq, Repr

/-- The report of a fault in the text `whole`: its line and column, counted from one, and its
position, counted from zero. -/
def Fault.message (fault : Fault) (whole : List Char) : String :=
  let position := whole.length - fault.rest.length
  let before := whole.take position
  let line := before.count '\n' + 1
  let column := (before.reverse.takeWhile (· != '\n')).length + 1
  fault.defect.message ++ ": line " ++ toString line ++ " column " ++ toString column ++
    " (char " ++ toString position ++ ")"

def isSpace (c : Char) : Bool := c == ' ' || c == '\t' || c == '\n' || c == '\r'

def skipSpace (s : List Char) : List Char := s.dropWhile isSpace

def words : List (List Char × Json) :=
  [(['n', 'u', 'l', 'l'], .null), (['t', 'r', 'u', 'e'], .bool true),
    (['f', 'a', 'l', 's', 'e'], .bool false), (['N', 'a', 'N'], .number (.float .nan)),
    ("Infinity".toList, .number (.float (.infinity false))),
    ("-Infinity".toList, .number (.float (.infinity true)))]

def readWord? (s : List Char) : Option (Json × List Char) :=
  words.findSome? fun (word, v) => (word.isPrefixOf? s).map (v, ·)

/-- Reads the digits before the point: a zero alone, or digits that begin with another one. -/
def readWhole? : List Char → Option (List Char × List Char)
  | '0' :: rest => some (['0'], rest)
  | c :: rest => if c.isDigit then some ((c :: rest).span Char.isDigit) else none
  | [] => none

/-- Reads a point and the digits after it. A point without a digit is left alone. -/
def readFraction : List Char → List Char × List Char
  | '.' :: rest =>
    match rest.span Char.isDigit with
    | ([], _) => ([], '.' :: rest)
    | (digits, rest) => (digits, rest)
  | s => ([], s)

def readExponent? (s : List Char) : Option (Int × List Char) :=
  match s with
  | c :: rest =>
    if c == 'e' || c == 'E' then
      let (negative, rest) :=
        match rest with
        | '-' :: rest => (true, rest)
        | '+' :: rest => (false, rest)
        | rest => (false, rest)
      match rest.span Char.isDigit with
      | ([], _) => none
      | (digits, rest) =>
        let size : Int := Nat.ofDigitChars 10 digits 0
        some (if negative then -size else size, rest)
    else none
  | [] => none

/-- Reads a number: whole if it has neither a fraction nor an exponent. -/
def readNumber? (s : List Char) : Option (Number × List Char) :=
  let (negative, s) :=
    match s with
    | '-' :: rest => (true, rest)
    | s => (false, s)
  match readWhole? s with
  | none => none
  | some (whole, s) =>
    let (fraction, s) := readFraction s
    let digits := Nat.ofDigitChars 10 (whole ++ fraction) 0
    match readExponent? s with
    | some (exponent, s) =>
      some (.float (.ofDecimal negative digits (exponent - fraction.length)), s)
    | none =>
      if fraction.isEmpty then some (.int (if negative then -(digits : Int) else digits), s)
      else some (.float (.ofDecimal negative digits (-fraction.length)), s)

def hexValue? (c : Char) : Option Nat :=
  let n := c.toNat
  if c.isDigit then some (n - 0x30)
  else if 'a' ≤ c && c ≤ 'f' then some (n - 0x57)
  else if 'A' ≤ c && c ≤ 'F' then some (n - 0x37)
  else none

/-- Reads the four digits of an escaped UTF-16 unit. Something has to follow them. -/
def readUnit? : List Char → Option (Nat × List Char)
  | a :: b :: c :: d :: next :: rest => do
    let a ← hexValue? a
    let b ← hexValue? b
    let c ← hexValue? c
    let d ← hexValue? d
    some (((a * 16 + b) * 16 + c) * 16 + d, next :: rest)
  | _ => none

/-- Reads an escape after its backslash. Two units that form a pair become one character. -/
def readEscape (backslash : List Char) : List Char → Except Fault (Char × List Char)
  | 'u' :: s =>
    match readUnit? s with
    | none => .error ⟨.unitEscape, 'u' :: s⟩
    | some (unit, rest) =>
      let alone := .ok (Char.ofNat (if 0xD800 ≤ unit && unit ≤ 0xDFFF then 0xFFFD else unit), rest)
      if 0xD800 ≤ unit && unit ≤ 0xDBFF then
        match rest with
        | '\\' :: 'u' :: low =>
          if low.length ≤ 4 then alone
          else match readUnit? low with
            | none => .error ⟨.unitEscape, 'u' :: low⟩
            | some (second, rest) =>
              if 0xDC00 ≤ second && second ≤ 0xDFFF then
                .ok (Char.ofNat (0x10000 + (unit - 0xD800) * 0x400 + (second - 0xDC00)), rest)
              else alone
        | _ => alone
      else alone
  | '"' :: rest => .ok ('"', rest)
  | '\\' :: rest => .ok ('\\', rest)
  | '/' :: rest => .ok ('/', rest)
  | 'b' :: rest => .ok ('\x08', rest)
  | 'f' :: rest => .ok ('\x0C', rest)
  | 'n' :: rest => .ok ('\n', rest)
  | 'r' :: rest => .ok ('\r', rest)
  | 't' :: rest => .ok ('\t', rest)
  | _ => .error ⟨.escape, backslash⟩

/-- Reads the characters of a text up to its closing mark. `opening` is where the text begins. The
fuel is at least the number of characters left. -/
def readChars (opening : List Char) :
    (fuel : Nat) → List Char → Except Fault (List Char × List Char)
  | _, [] => .error ⟨.unterminated, opening⟩
  | _, '"' :: rest => .ok ([], rest)
  | 0, _ => .error ⟨.unterminated, opening⟩
  | fuel + 1, '\\' :: s =>
    if s.isEmpty then .error ⟨.unterminated, opening⟩
    else do
      let (c, rest) ← readEscape ('\\' :: s) s
      let (cs, rest) ← readChars opening fuel rest
      .ok (c :: cs, rest)
  | fuel + 1, c :: s =>
    if c.toNat < 0x20 then .error ⟨.control, c :: s⟩
    else do
      let (cs, rest) ← readChars opening fuel s
      .ok (c :: cs, rest)

def readText (opening s : List Char) : Except Fault (String × List Char) := do
  let (cs, rest) ← readChars opening s.length s
  .ok (String.ofList cs, rest)

/-- Members as read: of those with one key, the place of the first and the value of the last. -/
def collect (members : List (String × Json)) : List (String × Json) :=
  members.foldl (fun seen (key, v) => setMember key v seen) []

mutual

/-- Reads a value. The fuel is more than twice the number of characters left. -/
def readValue : (fuel : Nat) → List Char → Except Fault (Json × List Char)
  | 0, s => .error ⟨.value, s⟩
  | fuel + 1, s =>
    match s with
    | '"' :: rest => do
      let (content, rest) ← readText s rest
      .ok (.text content, rest)
    | '[' :: rest =>
      match skipSpace rest with
      | ']' :: rest => .ok (.list [], rest)
      | rest => do
        let (items, rest) ← readItems fuel rest
        .ok (.list items, rest)
    | '{' :: rest =>
      match skipSpace rest with
      | '}' :: rest => .ok (.object [], rest)
      | rest => do
        let (members, rest) ← readMembers fuel rest
        .ok (.object (collect members), rest)
    | _ =>
      match readWord? s with
      | some found => .ok found
      | none =>
        match readNumber? s with
        | some (n, rest) => .ok (.number n, rest)
        | none => .error ⟨.value, s⟩

def readItems : (fuel : Nat) → List Char → Except Fault (List Json × List Char)
  | 0, s => .error ⟨.value, s⟩
  | fuel + 1, s => do
    let (v, rest) ← readValue fuel s
    match skipSpace rest with
    | ']' :: rest => .ok ([v], rest)
    | ',' :: rest => do
      let (vs, rest) ← readItems fuel (skipSpace rest)
      .ok (v :: vs, rest)
    | rest => .error ⟨.comma, rest⟩

def readMembers : (fuel : Nat) → List Char → Except Fault (List (String × Json) × List Char)
  | 0, s => .error ⟨.key, s⟩
  | fuel + 1, s =>
    match s with
    | '"' :: rest => do
      let (key, rest) ← readText s rest
      match skipSpace rest with
      | ':' :: rest => do
        let (v, rest) ← readValue fuel (skipSpace rest)
        match skipSpace rest with
        | '}' :: rest => .ok ([(key, v)], rest)
        | ',' :: rest => do
          let (members, rest) ← readMembers fuel (skipSpace rest)
          .ok ((key, v) :: members, rest)
        | rest => .error ⟨.comma, rest⟩
      | rest => .error ⟨.colon, rest⟩
    | _ => .error ⟨.key, s⟩

end

def read (s : List Char) : Except Fault Json :=
  match s with
  | '\uFEFF' :: _ => .error ⟨.byteOrderMark, s⟩
  | _ => do
    let (v, rest) ← readValue (2 * s.length + 1) (skipSpace s)
    match skipSpace rest with
    | [] => .ok v
    | rest => .error ⟨.extra, rest⟩

/-- Reads a text as one value; a fault is reported in words. -/
def parse (s : String) : Except String Json :=
  match read s.toList with
  | .ok v => .ok v
  | .error fault => .error (fault.message s.toList)

end ServerPower.Json
