import ServerPower.Failure

/-!
# Fitting into a place

A place of a template has a least width and a precision, and flags that say how they are met.
-/

namespace ServerPower

/-- How a value is fitted into its place. -/
structure Fit where
  left : Bool := false
  plus : Bool := false
  blank : Bool := false
  /-- The base of a whole number is shown, and a point always. -/
  alternate : Bool := false
  zero : Bool := false
  width : Nat := 0
  precision : Option Nat := none
  deriving DecidableEq, Repr

namespace Fit

def largestPrecision : Nat := Nat.pow 2 31 - 1

def memoryBound : Nat := Nat.pow 2 28

def checkSize (size : Nat) : Except Failure Unit :=
  if size < memoryBound then .ok () else .error ⟨.memory, ""⟩

/-- Fills up with blanks on the left, or on the right if the fit says so. -/
def pad (fit : Fit) (s : List Char) : List Char :=
  let blanks := List.replicate (fit.width - s.length) ' '
  if fit.left then s ++ blanks else blanks ++ s

def text (fit : Fit) (s : List Char) : List Char :=
  fit.pad <| match fit.precision with
    | some size => s.take size
    | none => s

/-- Fits the digits of a number behind its sign and the mark of its base. Zeros fill it up between
mark and digits if the fit says so. -/
def number (fit : Fit) (negative : Bool) (base digits : List Char) : List Char :=
  let sign :=
    if negative then ['-'] else if fit.plus then ['+'] else if fit.blank then [' '] else []
  let start := sign ++ base
  if fit.zero && !fit.left then
    start ++ List.replicate (fit.width - start.length - digits.length) '0' ++ digits
  else fit.pad (start ++ digits)

/-- Fits the digits of a whole number, at least `precision` of them. -/
def whole (fit : Fit) (negative : Bool) (base digits : List Char) : List Char :=
  fit.number negative base
    (List.replicate (fit.precision.getD 0 - digits.length) '0' ++ digits)

end Fit

end ServerPower
