/-!
# Placeholders

The text of an option may refer to other options. `$name` and `${name}` stand for the value of an
option; `$$` and `\$` stand for a dollar sign, and so does one with no name behind it.
-/

namespace ServerPower.Settings

inductive Piece where
  | plain (s : List Char)
  /-- The value of the option with a name, which may stand in braces. -/
  | value (name : List Char) (braced : Bool)
  deriving DecidableEq, Repr

def Piece.written : Piece → List Char
  | .plain s => s
  | .value name false => '$' :: name
  | .value name true => '$' :: '{' :: name ++ ['}']

/-- The letters outside ASCII that differ only in case from a letter of ASCII. -/
def foldedLetters : List Nat := [0x130, 0x131, 0x17F, 0x212A]

def isNameStart (c : Char) : Bool :=
  c.isAlpha || c == '_' || foldedLetters.contains c.toNat

def isNameChar (c : Char) : Bool :=
  isNameStart c || c.isDigit || c == '.'

/-- The name at the beginning of a text, and what is behind it. -/
def splitPlainName? (s : List Char) : Option (List Char × List Char) :=
  let (name, rest) := s.span isNameChar
  if name.head?.any isNameStart then some (name, rest) else none

/-- The piece that a dollar sign begins, and what is behind it. -/
def splitValue? : List Char → Option (Piece × List Char)
  | '{' :: inside =>
    match splitPlainName? inside with
    | some (name, '}' :: rest) => some (.value name true, rest)
    | _ => none
  | s => (splitPlainName? s).map fun (name, rest) => (.value name false, rest)

def piecesOfParts : List (List Char) → List Piece
  | [] => []
  | [] :: next :: parts => .plain ('$' :: next) :: piecesOfParts parts
  | part :: parts =>
    match splitValue? part with
    | some (piece, rest) => piece :: .plain rest :: piecesOfParts parts
    | none => .plain ('$' :: part) :: piecesOfParts parts

/-- Doubles the dollar signs that stand behind a backslash, which is dropped. -/
def doubleEscaped : List Char → List Char
  | '\\' :: '$' :: rest => '$' :: '$' :: doubleEscaped rest
  | c :: rest => c :: doubleEscaped rest
  | [] => []

def pieces (s : List Char) : List Piece :=
  match (doubleEscaped s).splitOn '$' with
  | [] => []
  | part :: parts => .plain part :: piecesOfParts parts

theorem doubleEscaped_of_notMem {s : List Char} (h : '$' ∉ s) : doubleEscaped s = s := by
  fun_induction doubleEscaped s with
  | case1 rest => simp at h
  | case2 c rest _ ih => rw [ih fun hm => h (List.mem_cons_of_mem c hm)]
  | case3 => rfl

theorem pieces_of_notMem {s : List Char} (h : '$' ∉ s) : pieces s = [.plain s] := by
  simp [pieces, doubleEscaped_of_notMem h, List.splitOn_eq_singleton h, piecesOfParts]

example : pieces "a$$b\\$".toList = [.plain ['a'], .plain ['$', 'b'], .plain ['$']] := by
  decide +kernel
example : pieces "$a.b-$5".toList =
    [.plain [], .value ['a', '.', 'b'] false, .plain ['-'], .plain ['$', '5']] := by decide +kernel

end ServerPower.Settings
