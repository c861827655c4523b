/-!
# UTF-8

Strict decoding of UTF-8. What cannot be decoded is reported with the bytes at fault: the bytes of
the sequence begun so far, up to the first one that does not fit.
-/

namespace ServerPower.Text.Utf8

inductive Reason where
  | start
  | continuation
  | truncated
  deriving DecidableEq, Repr

def Reason.message : Reason → String
  | .start => "invalid start byte"
  | .continuation => "invalid continuation byte"
  | .truncated => "unexpected end of data"

/-- Bytes that cannot be decoded: where they begin, the first of them, and how many they are. -/
structure Fault where
  position : Nat
  first : UInt8
  count : Nat
  reason : Reason
  deriving DecidableEq, Repr

def Fault.message (fault : Fault) : String :=
  let place :=
    if fault.count ≤ 1 then
      let digit (n : Nat) := (Nat.digitChar n).toString
      let n := fault.first.toNat
      "byte 0x" ++ digit (n / 16) ++ digit (n % 16) ++ " in position " ++ toString fault.position
    else
      "bytes in position " ++ toString fault.position ++ "-" ++
        toString (fault.position + fault.count - 1)
  "'utf-8' codec can't decode " ++ place ++ ": " ++ fault.reason.message

/-- The ranges of the bytes that follow a first byte, with the bits it contributes. -/
def sequence? (first : UInt8) : Option (Nat × List (Nat × Nat)) :=
  let n := first.toNat
  let any := (0x80, 0xBF)
  if n < 0x80 then some (n, [])
  else if 0xC2 ≤ n && n ≤ 0xDF then some (n % 0x20, [any])
  else if n == 0xE0 then some (0, [(0xA0, 0xBF), any])
  else if n == 0xED then some (0xD, [(0x80, 0x9F), any])
  else if 0xE1 ≤ n && n ≤ 0xEF then some (n % 0x10, [any, any])
  else if n == 0xF0 then some (0, [(0x90, 0xBF), any, any])
  else if 0xF1 ≤ n && n ≤ 0xF3 then some (n % 8, [any, any, any])
  else if n == 0xF4 then some (4, [(0x80, 0x8F), any, any])
  else none

/-- Decodes the bytes from `position` on. `first` and `count` are the first byte and the length of
the sequence under way, `code` its bits so far, and `expected` the ranges of the bytes to come. -/
def decodeFrom (position : Nat) (first : UInt8) (count code : Nat) :
    (expected : List (Nat × Nat)) → List UInt8 → Except Fault (List Char)
  | [], [] => .ok []
  | _ :: _, [] => .error ⟨position, first, count, .truncated⟩
  | [], byte :: rest =>
    match sequence? byte with
    | none => .error ⟨position, byte, 1, .start⟩
    | some (n, []) => (decodeFrom (position + 1) byte 0 0 [] rest).map (Char.ofNat n :: ·)
    | some (bits, expected) => decodeFrom position byte 1 bits expected rest
  | (low, high) :: expected, byte :: rest =>
    let n := byte.toNat
    if low ≤ n && n ≤ high then
      let code := code * 0x40 + n % 0x40
      match expected with
      | [] => (decodeFrom (position + count + 1) first 0 0 [] rest).map (Char.ofNat code :: ·)
      | expected => decodeFrom position first (count + 1) code expected rest
    else .error ⟨position, first, count, .continuation⟩

def decode (bytes : List UInt8) : Except Fault String :=
  (decodeFrom 0 0 0 0 [] bytes).map String.ofList

example : (decode [0xC3, 0xA9, 0x41]).toOption = some "éA" := by decide +kernel

end ServerPower.Text.Utf8
