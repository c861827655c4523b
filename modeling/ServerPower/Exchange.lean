import ServerPower.Run.Play

/-!
# Exchanges

Calls to the manager that belong to no order, and whole changes seen from outside: what came of
them, and what could be seen meanwhile.
-/

namespace ServerPower

/-- An outcome, and what could be seen on the way to it. -/
structure Trace (α : Type) where
  outcome : Except Failure α
  events : List Event

def Run.trace {α : Type} (run : Run α) (s : Scene) : Trace α :=
  let after := ExceptT.run run s
  ⟨after.1, after.2.events⟩

namespace Client

/-- A call that belongs to no order: its body, and the answers left after it. -/
def exchange (strict : Bool) (client : Client) (method : String) (uri body : Json)
    (supply : Supply) : Trace String × Supply :=
  match client.request method uri body with
  | .error failure => (⟨.error failure, []⟩, supply)
  | .ok request =>
    let (answer, supply) := supply.next request
    let report : Report String := do
      receive strict method uri request.url (← answer.reply strict)
    let records := report.records.map Event.logged
    let ended := Event.answered .query request report.outcome
    (⟨report.outcome, .sent .query request :: records ++ [ended]⟩, supply)

/-- The server hardware under an address, reached through the client. -/
def lookUp (strict : Bool) (client : Client) (uri : Json) (supply : Supply) :
    Trace ManagedHardware × Supply :=
  let (trace, supply) := client.exchange strict "GET" uri .null supply
  match trace.outcome with
  | .error failure => (⟨.error failure, trace.events⟩, supply)
  | .ok body =>
    let report := readHardware strict uri body
    let events := trace.events ++ report.records.map Event.logged
    (⟨report.outcome.map (⟨·, client⟩), events⟩, supply)

end Client

namespace ManagedHardware

def powerState (settings : Settings) (script : Script) (hardware : ManagedHardware) :
    Trace PowerState :=
  match PowerOrder.create settings hardware .null .null with
  | .error failure => ⟨.error failure, []⟩
  | .ok order =>
    let setup := script.setup settings false false order []
    (Run.observe setup (Run.hookAt setup script.depth) .query none).trace (script.scene order)

/-- What stays fixed during a change with a pool made for it only, and how things stand before. -/
def ordered (settings : Settings) (script : Script) (hardware : ManagedHardware)
    (limit interval : Json) : Except Failure (Setup × Scene) := do
  let order ← PowerOrder.create settings hardware limit interval
  let failOnTimeout ← settings.read .failOnTimeout
  return (script.setup settings failOnTimeout.isGiven true order [], script.scene order)

/-- Sets the power state and waits for it. -/
def setPowerState (settings : Settings) (script : Script) (hardware : ManagedHardware)
    (target : PowerState) (limit interval : Json) : Trace PowerResult :=
  match hardware.ordered settings script limit interval with
  | .error failure => ⟨.error failure, []⟩
  | .ok (setup, s) => (Run.executeOnce setup (Run.hookAt setup script.depth) target).trace s

end ManagedHardware

end ServerPower
