import ServerPower.Run.Submission

/-!
# Executions

An execution begins an attempt, hands the submission to the pool and follows the manager's task
until the attempt is over or no more checks are allowed.
-/

namespace ServerPower.Run

/-- How an attempt shows to the one who follows it. -/
structure Glance where
  done : Bool
  failure? : Option Failure
  cancelled : Bool

def glance : Run Glance := do
  let order ← order
  return ⟨order.done, order.failure?, order.cancelled⟩

/-- The failure of a change to `target` for the reason given. -/
def changeFailure (setup : Setup) (target : PowerState) (reason : String) : Report Failure :=
  Failure.build setup.strict .powerChange [("pstate", .text target.wire), ("error", .text reason)]

/-- Checks the task once, ends the attempt if the task ended, and logs the progress. -/
def check (setup : Setup) (hook : Hook) (target : PowerState) (attempt : Int) : Run Unit := do
  let task? ← refresh setup hook (.polling attempt) (some attempt)
  match task? with
  | none => log .info "Working on power state."
  | some task =>
    if task.isCompleted then updateOrder (·.markDone none (some attempt))
    else if task.isFailed then
      let reason ← ofExcept task.errorSummary
      let failure ← ofReport (changeFailure setup target reason)
      updateOrder (·.markDone (some failure) (some attempt))
    logRecord ⟨.info, Template.render "Working on power state, %(percent)d%%, %(status)s."
      [("percent", .number task.computed), ("status", .text task.status)]⟩

/-- Checks and waits until the attempt is over or no more checks are allowed. Yields the number of
checks and the last look at the order. The fuel is more than the number of checks to come. -/
def follow (setup : Setup) (hook : Hook) (target : PowerState) (attempt : Int) :
    (fuel checks : Nat) → Run (Nat × Glance)
  | 0, checks => return (checks, ← glance)
  | fuel + 1, checks => do
    let seen ← glance
    if seen.done || seen.cancelled then return (checks, seen)
    if !(← ofExcept ((← order).allowsCheck checks)) then return (checks, seen)
    check setup hook target attempt
    let _ ← pause setup hook (.polling attempt) (← order).interval
    follow setup hook target attempt fuel (checks + 1)

def conclude (setup : Setup) (target : PowerState) (name : Json) (checks : Nat) (seen : Glance) :
    Run PowerResult := do
  if let some failure := seen.failure? then
    setPhase .failed
    if failure.isA .powerChange then throw failure
    throw (← ofReport (changeFailure setup target failure.text))
  let result ←
    if seen.done then
      setPhase .done
      pure .completed
    else if seen.cancelled then
      setPhase .cancelled
      log .warning ("Power " ++ target.wire ++ " cancelled for " ++ name.display ++ ".")
      pure .cancelled
    else
      setPhase .timedOut
      log .warning ("Power " ++ target.wire ++ " state timed out for " ++ name.display ++ ".")
      if setup.failOnTimeout then
        ofReport (Failure.raise setup.strict .powerTimeout
          [("attempts", .int checks), ("name", name), ("pstate", .text target.wire)])
      pure .timedOut
  log .info "Power task execution completed"
  return result

def poll (setup : Setup) (hook : Hook) (target : PowerState) (attempt : Int) : Run PowerResult := do
  let name := (← order).hardware.hardware.name
  setPhase .polling
  let (checks, seen) ← follow setup hook target attempt (setup.checkBound + 1) 0
  conclude setup target name checks seen

/-- Begins an attempt and hands its submission over. Yields the number of the attempt. -/
def launch (setup : Setup) (hook : Hook) (target : PowerState) : Run Int := do
  updateOrder PowerOrder.reset
  let attempt := (← order).attempt
  setPhase .idle
  enqueue setup hook target attempt
  setPhase .submitting
  return attempt

def execute (setup : Setup) (hook : Hook) (target : PowerState) : Run PowerResult := do
  if target ∉ PowerState.targets then
    ofReport (Failure.raise setup.strict .invalidParameter
      [("err", .text ("Unsupported power state " ++ target.wire ++ " requested."))])
  let attempt ← launch setup hook target
  tryCatch (poll setup hook target attempt) fun failure => do
    if (← get).phase = .polling then setPhase .failed
    throw failure

def close (setup : Setup) (wait : Json) : Run Unit := do
  if setup.ownPool then
    record (.shutdown wait)
    modify fun s => { s with poolOpen := false }

/-- Sets the power state, waits for it and closes the pool, whatever came of it. -/
def executeOnce (setup : Setup) (hook : Hook) (target : PowerState) : Run PowerResult := do
  let result ← outcome (execute setup hook target)
  close setup (.bool true)
  ofExcept result

end ServerPower.Run
