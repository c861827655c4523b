import ServerPower.Run.Query

/-!
# Submissions

A submission looks at the hardware and, unless it is in the desired state already, asks the manager
for the change. Its failures become the failure of its attempt. The pool of workers runs it while it
is handed over, at a later wait, or never.
-/

namespace ServerPower.Run

def changeBody (target : PowerState) : Json :=
  .object [("powerState", .text target.wire),
    ("powerControl", .text PowerControl.momentaryPress.wire)]

def giveUp (attempt : Int) (message : String) (failure : Failure) : Run Unit := do
  log .error (message ++ failure.text)
  updateOrder (·.markDone (some failure) (some attempt))

/-- Asks the manager for the change, for the hardware that the order stands for now. -/
def requestChange (setup : Setup) (hook : Hook) (origin : Origin) (target : PowerState)
    (attempt : Int) : Run Unit := do
  let ⟨hardware, client⟩ := (← order).hardware
  log .info ("Powering " ++ target.wire ++ " server hardware " ++ hardware.name.display ++
    " for " ++ hardware.serial.display ++ ".")
  let uri := Json.text (← ofExcept hardware.powerUri)
  match ← outcome (call setup hook origin client "PUT" uri (changeBody target)) with
  | .error failure =>
    if failure.isA .manager then giveUp attempt "Error with power state request: " failure
    else throw failure
  | .ok body =>
    match ← outcome (ofReport (Client.readTask setup.strict uri body {})) with
    | .error failure =>
      if failure.isA .decoding then giveUp attempt "Error decoding power state response: " failure
      else throw failure
    | .ok task => updateOrder (·.noteTask attempt task)

/-- Submits a change for an attempt, or for the current one if none is given. -/
def submit (setup : Setup) (hook : Hook) (target : PowerState) (attempt? : Option Int) :
    Run Unit := do
  let attempt := attempt?.getD (← order).attempt
  let number := (← get).submissions
  modify fun s => { s with submissions := number + 1 }
  let origin := Origin.submission number attempt
  match ← outcome (observe setup hook origin (some attempt)) with
  | .error failure =>
    if failure.isA .general then giveUp attempt "Error getting current power state: " failure
    else throw failure
  | .ok state =>
    if state = target then
      log .info ("Desired power state already set -> " ++ state.wire)
      updateOrder (·.markDone none (some attempt))
    else requestChange setup hook origin target attempt

/-- Runs a submission as a worker does: what escapes it ends the attempt. -/
def work (setup : Setup) (hook : Hook) (target : PowerState) (attempt : Int) : Run Unit := do
  match ← outcome (submit setup hook target (some attempt)) with
  | .ok () => return
  | .error failure => giveUp attempt "Unexpected error submitting power state: " failure

def enqueue (setup : Setup) (hook : Hook) (target : PowerState) (attempt : Int) : Run Unit := do
  let s ← get
  if !s.poolOpen then throw ⟨.runtime, "executor is shut down"⟩
  match s.moment with
  | .inline => work setup hook target attempt
  | .atWait count =>
    let job := ⟨s.waits + count, target, attempt⟩
    set { s with pending := s.pending ++ [job] }
  | .never | .cancelled => return

/-- Waits. The submissions that are due run first and may wait in turn; then others do what they do
during the wait that is the last one by now. Yields whether the attempt is over. No time passes and
the interval is only noted: what a clock makes of it is another matter (`Halt.of?`). -/
def pause (setup : Setup) (hook : Hook) (origin : Origin) (delay : Json) : Run Bool := do
  record (.waited origin delay)
  let s ← get
  let now := s.waits + 1
  let (due, later) := s.pending.partition (·.due ≤ now)
  set { s with waits := now, pending := later }
  due.forM fun job => work setup hook job.target job.attempt
  hook (setup.duringWait (← get).waits)
  return (← order).isOver

end ServerPower.Run
