import ServerPower.CommandLine.Execution

/-!
# The tool on a clock

Waits take no time in a run: they are when others act. On a clock a wait goes on until the attempt
is over or its interval has passed, and the interval has to be a number of seconds that the clock
can count. Without one only the end of the attempt ends the wait. The tool does not get beyond a
wait that fails or does not end.
-/

namespace ServerPower

/-- Why a wait does not come to its end. The text of a failure is the clock's own. -/
inductive Halt where
  | failed (kind : FailureKind)
  | endless
  deriving DecidableEq

namespace Halt

/-- The longest interval, in seconds. The clock counts nanoseconds, in 64 bits. -/
def longest : Nat := 9223372036

/-- The time of day is a floating-point number, to which a number of seconds has to be added. -/
def isAddable : Number → Bool
  | .int n => Binary64.ofRatio (n < 0) n.natAbs 1 ≠ .infinity (n < 0)
  | .float _ => true

/-- Why a wait for an interval does not come to its end if nothing else ends it. -/
def of? : Json → Option Halt
  | .null | .number (.float .nan) => some .endless
  | .bool _ => none
  | .number n => if n.isAbove longest || !isAddable n then some (.failed .overflow) else none
  | _ => some (.failed .wrongType)

example : of? (.number (.int 9223372036)) = none := by decide +kernel
example : of? (.number (.int (-10 ^ 309))) = some (.failed .overflow) := by decide +kernel

end Halt

/-- Why a wait that begins with an order like this does not come to its end, where the attempt turns
out to be over or not. An attempt that is over before is not waited for. -/
def PowerOrder.halt? (order : PowerOrder) (isOver : Bool) : Option Halt :=
  if order.isOver then none
  else match Halt.of? order.interval with
    | some .endless => if isOver then none else some .endless
    | halt? => halt?

namespace Run

/-- Follows an attempt as far as the clock lets it. Yields why it does not let it go on. -/
def followOnClock (setup : Setup) (hook : Hook) (target : PowerState) (attempt : Int) :
    (fuel checks : Nat) → Run (Option Halt)
  | 0, _ => return none
  | fuel + 1, checks => do
    if (← order).isOver then return none
    if !(← ofExcept ((← order).allowsCheck checks)) then return none
    check setup hook target attempt
    let begun ← order
    let isOver ← pause setup hook (.polling attempt) begun.interval
    match begun.halt? isOver with
    | some halt => return some halt
    | none => followOnClock setup hook target attempt fuel (checks + 1)

/-- Executes a change as far as the clock lets it. -/
def executeOnClock (setup : Setup) (hook : Hook) (target : PowerState) : Run (Option Halt) := do
  let attempt ← launch setup hook target
  setPhase .polling
  followOnClock setup hook target attempt (setup.checkBound + 1) 0

end Run

def ManagedHardware.halt? (settings : Settings) (script : Script) (hardware : ManagedHardware)
    (target : PowerState) (limit interval : Json) : Option Halt :=
  match hardware.ordered settings script limit interval with
  | .error _ => none
  | .ok (setup, s) =>
    match ((Run.executeOnClock setup (Run.hookAt setup script.depth) target).run s).1 with
    | .ok halt? => halt?
    | .error _ => none

namespace CommandLine

/-- Why an invocation does not come to its end. Only a change is waited for. -/
def Invocation.halt? (invocation : Invocation) (settings : Settings) (script : Script) :
    Option Halt :=
  let (found, script) := invocation.find settings script
  match found.outcome, invocation.command with
  | .ok hardware, .set target =>
    hardware.halt? settings script target invocation.limit invocation.interval
  | _, _ => none

/-- How the tool ends on a clock, if it does. -/
inductive TimedEnding where
  | ended (ending : Ending)
  | halted (halt : Halt)
  deriving DecidableEq

def runOnClock (places : Places) (argv : List String) (settings : Settings) (script : Script) :
    TimedEnding :=
  match prepare places argv settings with
  | .error usage => .ended usage.ending
  | .ok (invocation, settings) =>
    match invocation.halt? settings script with
    | some halt => .halted halt
    | none => .ended (invocation.run settings script).1

end CommandLine

end ServerPower
