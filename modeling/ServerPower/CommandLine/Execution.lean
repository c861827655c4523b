import ServerPower.Client.Configured
import ServerPower.CommandLine.Invocation
import ServerPower.Exchange

/-!
# The command line tool

Looks up the server hardware, does what the command says, prints one line, and ends with a status.
-/

namespace ServerPower.CommandLine

/-- How the tool ends. -/
inductive Ending where
  | usage (status : Nat)
  | exited (status : Nat) (output : String)
  | failed (failure : Failure)
  deriving DecidableEq

/-- How the tool ends after a command line that names nothing to do. -/
def Usage.ending : Usage → Ending
  | .help => .usage 0
  | .mistake => .usage 2
  | .notChosen => .usage 1
  | .failed failure => .failed failure

structure Answered where
  line : String
  status : Nat

/-- Does what a command says with hardware that was looked up. -/
def Invocation.actOn (invocation : Invocation) (settings : Settings) (script : Script)
    (hardware : ManagedHardware) : Trace Answered :=
  match invocation.command with
  | .status =>
    let trace := hardware.powerState settings script
    ⟨trace.outcome.map (⟨·.wire, 0⟩), trace.events⟩
  | .set target =>
    let trace := hardware.setPowerState settings script target invocation.limit invocation.interval
    ⟨trace.outcome.map fun result => ⟨result.wire, if result = .completed then 0 else 1⟩,
      trace.events⟩

/-- Looks the hardware of an invocation up, through the client of the settings. The script is left
with the answers that come after. -/
def Invocation.find (invocation : Invocation) (settings : Settings) (script : Script) :
    Trace ManagedHardware × Script :=
  let report := Client.ofSettings settings
  let before := report.records.map Event.logged
  match report.outcome with
  | .error failure => (⟨.error failure, before⟩, script)
  | .ok client =>
    let (found, supply) := client.lookUp settings.strict invocation.uri script.supply
    (⟨found.outcome, before ++ found.events⟩, { script with supply })

def Invocation.act (invocation : Invocation) (settings : Settings) (script : Script) :
    Trace Answered :=
  let (found, script) := invocation.find settings script
  match found.outcome with
  | .error failure => ⟨.error failure, found.events⟩
  | .ok hardware =>
    let trace := invocation.actOn settings script hardware
    ⟨trace.outcome, found.events ++ trace.events⟩

/-- Runs an invocation to its end. Failures of this library are logged and lead to the status 1. -/
def Invocation.run (invocation : Invocation) (settings : Settings) (script : Script) :
    Ending × List Event :=
  let trace := invocation.act settings script
  match trace.outcome with
  | .ok answered => (.exited answered.status (answered.line ++ "\n"), trace.events)
  | .error failure =>
    if failure.isA .general then
      let record : Record :=
        ⟨.error, .ok (invocation.command.name ++ " failed: " ++ failure.text)⟩
      (.exited 1 "", trace.events ++ [.logged record])
    else (.failed failure, trace.events)

/-- What the command line asks for, and the settings that it is done with. -/
def prepare (places : Places) (argv : List String) (settings : Settings) :
    Except Usage (Invocation × Settings) := do
  let invocation ← Invocation.ofArguments places argv
  return (invocation, ← configure places settings invocation.given)

/-- Runs the tool: how it ends, and what could be seen of it. -/
def run (places : Places) (argv : List String) (settings : Settings) (script : Script) :
    Ending × List Event :=
  match prepare places argv settings with
  | .error usage => (usage.ending, [])
  | .ok (invocation, settings) => invocation.run settings script

end ServerPower.CommandLine
