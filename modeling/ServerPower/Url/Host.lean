/-!
# Hosts in brackets

A host in square brackets is an address of the sixth version of the internet protocol, or of a
future one.
-/

namespace ServerPower.Url

def isHexDigit (c : Char) : Bool :=
  c.isDigit || ('a' ≤ c && c ≤ 'f') || ('A' ≤ c && c ≤ 'F')

/-- One of the four numbers of an address of the fourth version. -/
def isOctet (s : List Char) : Bool :=
  !s.isEmpty && s.all Char.isDigit && s.length ≤ 3 && (s == ['0'] || s.head? != some '0') &&
    Nat.ofDigitChars 10 s 0 ≤ 255

/-- An address of the fourth version: four numbers with points between them. -/
def isVersion4 (s : List Char) : Bool :=
  let parts := s.splitOn '.'
  parts.length == 4 && parts.all isOctet

/-- One of the eight groups of an address of the sixth version. -/
def isGroup (s : List Char) : Bool :=
  !s.isEmpty && s.length ≤ 4 && s.all isHexDigit

/-- The groups of an address of the sixth version, where an address of the fourth version at the
end counts for two. -/
def groups? (s : List Char) : Option (List (List Char)) :=
  let parts := s.splitOn ':'
  if parts.length < 3 then none
  else
    let tail := parts.getLast?.getD []
    if tail.contains '.' then
      if isVersion4 tail then some (parts.dropLast ++ [['0'], ['0']]) else none
    else some parts

/-- Whether the groups fit: eight of them, or fewer with one gap, written as an empty group. -/
def groupsFit (parts : List (List Char)) : Bool :=
  let inner := parts.dropLast.drop 1
  if parts.length > 9 then false
  else match inner.findIdx? List.isEmpty with
    | none => parts.length == 8 && parts.all isGroup
    | some i =>
      let before := parts.take (i + 1)
      let after := parts.drop (i + 2)
      let opens := before.head?.any List.isEmpty
      let closes := after.getLast?.any List.isEmpty
      let before := if opens then before.drop 1 else before
      let after := if closes then after.dropLast else after
      (inner.filter List.isEmpty).length == 1 && !(opens && !before.isEmpty) &&
        !(closes && !after.isEmpty) && before.length + after.length < 8 &&
        before.all isGroup && after.all isGroup

/-- An address of the sixth version, with or without a zone after a percent sign. -/
def isVersion6 (s : List Char) : Bool :=
  let address := s.takeWhile (· != '%')
  let zone := (s.dropWhile (· != '%')).drop 1
  let zoneFits := !s.contains '%' || (!zone.isEmpty && !zone.contains '%')
  zoneFits && match groups? address with
    | some parts => groupsFit parts
    | none => false

/-- An address of a future version: `v`, its number, a point and something more. -/
def isFuture (s : List Char) : Bool :=
  match s with
  | 'v' :: rest =>
    let version := rest.takeWhile isHexDigit
    match rest.dropWhile isHexDigit with
    | '.' :: _ :: _ => !version.isEmpty
    | _ => false
  | _ => false

end ServerPower.Url
