import ServerPower.Json.Basic

/-!
# Writing JSON

The text of a value in ASCII: one space after a comma and after a colon, nothing else between
tokens, and every character that ASCII cannot show as an escape of UTF-16 units.
-/

namespace ServerPower.Json

def unitEscape (unit : Nat) : List Char := '\\' :: 'u' :: Text.hex 4 unit

def escapeChar (c : Char) : List Char :=
  let n := c.toNat
  if c == '"' || c == '\\' then ['\\', c]
  else if 0x20 ≤ n && n ≤ 0x7E then [c]
  else if c == '\n' then ['\\', 'n']
  else if c == '\r' then ['\\', 'r']
  else if c == '\t' then ['\\', 't']
  else if n == 0x0C then ['\\', 'f']
  else if n == 0x08 then ['\\', 'b']
  else if n < 0x10000 then unitEscape n
  else unitEscape (0xD800 + (n - 0x10000) / 0x400) ++ unitEscape (0xDC00 + (n - 0x10000) % 0x400)

def writeText (s : String) : List Char :=
  '"' :: s.toList.flatMap escapeChar ++ ['"']

/-- A number. The floating-point numbers that are not finite have names. -/
def writeNumber : Number → List Char
  | .int n => Number.intDigits n
  | .float .nan => ['N', 'a', 'N']
  | .float (.infinity negative) => (if negative then ['-'] else []) ++ "Infinity".toList
  | .float x => x.text.toList

mutual

def write : Json → List Char
  | .null => ['n', 'u', 'l', 'l']
  | .bool b => if b then ['t', 'r', 'u', 'e'] else ['f', 'a', 'l', 's', 'e']
  | .number n => writeNumber n
  | .text s => writeText s
  | .list items => '[' :: writeItems items ++ [']']
  | .object members => '{' :: writeMembers members ++ ['}']

def writeItems : List Json → List Char
  | [] => []
  | [v] => write v
  | v :: rest => write v ++ ',' :: ' ' :: writeItems rest

def writeMembers : List (String × Json) → List Char
  | [] => []
  | [(key, v)] => writeText key ++ ':' :: ' ' :: write v
  | (key, v) :: rest => writeText key ++ ':' :: ' ' :: write v ++ ',' :: ' ' :: writeMembers rest

end

def encode (v : Json) : String := String.ofList (write v)

example : encode (.object [("k", .list [.int (-1), .text "é\n", .null])]) =
    "\x7b\"k\": [-1, \"\\u00e9\\n\", null]\x7d" := by decide +kernel

end ServerPower.Json
