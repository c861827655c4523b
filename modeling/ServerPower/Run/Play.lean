import ServerPower.Run.Execution

/-!
# Playing a script

Actions on an order, one after the other. During the calls and waits of an action come the actions
of others, which may call and wait in turn; since each answer is given once and each wait comes
once, this nesting ends.
-/

namespace ServerPower.Run

def perform (setup : Setup) (hook : Hook) : Action → Run Yield
  | .reset => do
    updateOrder PowerOrder.reset
    return .attempt (← order).attempt
  | .markDone spec? attempt? => do
    let failure? ← spec?.mapM fun spec => ofReport (spec.build setup.strict)
    updateOrder (·.markDone failure? attempt?)
    return .nothing
  | .cancel => do
    updateOrder PowerOrder.cancel
    return .nothing
  | .wait delay => return .flag (← pause setup hook .query delay)
  | .observe attempt? => return .state (← observe setup hook .query attempt?)
  | .submit target attempt? => do
    submit setup hook target attempt?
    return .nothing
  | .refresh attempt? => return .task (← refresh setup hook .query attempt?)
  | .setTask task => do
    updateOrder fun order => { order with task }
    return .nothing
  | .setHardware hardware => do
    updateOrder fun order => { order with hardware }
    return .nothing
  | .setTiming limit? interval? => do
    updateOrder fun order =>
      { order with limit := limit?.getD order.limit, interval := interval?.getD order.interval }
    return .nothing
  | .setMoment moment => do
    modify fun s => { s with moment }
    return .nothing
  | .execute target => return .result (← execute setup hook target)
  | .executeOnce target => return .resultOnce (← executeOnce setup hook target)
  | .close wait => do
    close setup wait
    return .nothing
  | .look => return .nothing

/-- Does actions one after the other and notes what comes of each. The actions of others during
them are at most `depth` deep. -/
def hookAt (setup : Setup) : (depth : Nat) → Hook
  | 0, _ => pure ()
  | depth + 1, actions =>
    actions.forM fun action => do
      record (.acted (← outcome (perform setup (hookAt setup depth) action)))

end ServerPower.Run

namespace ServerPower

def Script.scene (script : Script) (order : PowerOrder) : Scene :=
  { order, supply := script.supply, moment := script.moment }

/-- What stays fixed while the steps of a script are done for an order. -/
def Script.setup (script : Script) (settings : Settings) (failOnTimeout ownPool : Bool)
    (order : PowerOrder) (steps : List Action) : Setup :=
  { strict := settings.strict, failOnTimeout, ownPool, duringWait := script.duringWait,
    checkBound := script.checkBound steps order.limit }

def Script.step (script : Script) (setup : Setup) (action : Action) : Run Yield :=
  Run.perform setup (Run.hookAt setup script.depth) action

def Script.play (script : Script) (setup : Setup) :
    Scene → List Action → List (Except Failure Yield × Scene)
  | _, [] => []
  | s, action :: rest =>
    let after := (script.step setup action).run.run s
    after :: script.play setup after.2 rest

end ServerPower
