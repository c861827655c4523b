import ServerPower.CommandLine.Options
import ServerPower.PowerState

/-!
# Invocations

What the command line asks for: a command, the server hardware, and how long to wait. Flags for the
settings and the log stand before the command.
-/

namespace ServerPower.CommandLine

inductive Command where
  | status
  | set (target : PowerState)
  deriving DecidableEq, Repr

namespace Command

def all : List (String × Command) :=
  [("status", .status), ("on", .set .on), ("off", .set .off)]

def name : Command → String
  | .status => "status"
  | .set .on => "on"
  | .set _ => "off"

end Command

def hardwareFlag : Flag := { name := "--server-hardware-uri", option := "uri", use := .text }

def limitFlag : Flag := { name := "--timeout", option := "limit", use := .whole }

def intervalFlag : Flag := { name := "--wait-time", option := "interval", use := .whole }

/-- The flags after a command. Only a change can be waited for. -/
def Command.flags : Command → List Flag
  | .status => [helpFlag, hardwareFlag]
  | .set _ => [helpFlag, hardwareFlag, limitFlag, intervalFlag]

structure Invocation where
  command : Command
  uri : Json
  limit : Json
  interval : Json
  given : Values
  deriving DecidableEq

/-- What the words of a command line ask for. The words after the command are looked at twice, since
the flags before the command may not become ambiguous either. -/
def Invocation.ofArguments (places : Places) (argv : List String) : Except Usage Invocation := do
  let outer ← parse (helpFlag :: optionFlags places) true argv
  match outer.rest with
  | [] => .error .mistake
  | word :: rest =>
    match Command.all.lookup word with
    | none => .error .mistake
    | some command =>
      let inner ← parse command.flags false rest
      match inner.values.lookup hardwareFlag.option with
      | none => .error .mistake
      | some uri =>
        if !inner.extras.isEmpty || !outer.extras.isEmpty then .error .mistake
        else
          return { command, uri, limit := Json.member inner.values limitFlag.option,
                   interval := Json.member inner.values intervalFlag.option,
                   given := outer.values }

end ServerPower.CommandLine
