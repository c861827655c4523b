import ServerPower.Run.Basic

/-!
# Queries

Calls to the manager, and what they say about the hardware and the task of an order. During a call
others may do anything with the order; what comes back is noted only if it still concerns the
current attempt.
-/

namespace ServerPower.Run

def call (setup : Setup) (hook : Hook) (origin : Origin) (client : Client) (method : String)
    (uri body : Json) : Run String := do
  let request ← ofExcept (client.request method uri body)
  record (.sent origin request)
  let (answer, supply) := (← get).supply.next request
  modify fun s => { s with supply }
  hook answer.during
  let outcome ← settle do
    Client.receive setup.strict method uri request.url (← answer.reply setup.strict)
  record (.answered origin request outcome)
  ofExcept outcome

/-- Asks for the power state of the hardware. Hardware without an address cannot be asked for. -/
def observe (setup : Setup) (hook : Hook) (origin : Origin) (attempt? : Option Int) :
    Run PowerState := do
  let ⟨hardware, client⟩ := (← order).hardware
  if !hardware.uri.isGiven then
    updateOrder fun order => { order with observed := .unknown }
    ofReport (Failure.raise setup.strict .missingHardware [("name", hardware.name)])
  let body ← call setup hook origin client "GET" hardware.uri .null
  let latest ← ofReport (Client.readHardware setup.strict hardware.uri body)
  let state ← ofReport latest.classify
  updateOrder (·.noteHardware attempt? ⟨latest, client⟩ state)
  return state

def refresh (setup : Setup) (hook : Hook) (origin : Origin) (attempt? : Option Int) :
    Run (Option RemoteTask) := do
  let before ← order
  let task := before.task
  if !task.exists? then return none
  let uri := Json.text task.uri
  let body ← call setup hook origin before.hardware.client "GET" uri .null
  let latest ← ofReport (Client.readTask setup.strict uri body task)
  updateOrder (·.noteProgress attempt? latest)
  return some latest

theorem refresh_of_no_task (setup : Setup) (hook : Hook) (origin : Origin) (attempt? : Option Int)
    {s : Scene} (h : s.order.task.exists? = false) :
    (refresh setup hook origin attempt?).run s = (.ok none, s) := by
  simp [refresh, run_bind, h]

end ServerPower.Run
