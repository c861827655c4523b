import ServerPower.Scene

/-!
# Runs

Computations on the scene of one power order, and their elementary steps.
-/

namespace ServerPower

/-- What stays fixed during a run. -/
structure Setup where
  strict : Bool
  failOnTimeout : Bool
  /-- Whether the pool belongs to the executor, which then closes it. -/
  ownPool : Bool
  duringWait : Nat → List Action
  checkBound : Nat

/-- A computation on the scene of one order. A failure keeps what was done before it. -/
abbrev Run := ExceptT Failure (StateM Scene)

/-- What others do during a call or a wait. -/
abbrev Hook := List Action → Run Unit

namespace Run

variable {α : Type}

def record (event : Event) : Run Unit :=
  modify (·.note event)

def logRecord (r : Record) : Run Unit := record (.logged r)

def log (level : Level) (text : String) : Run Unit := logRecord ⟨level, .ok text⟩

def order : Run PowerOrder := return (← get).order

def updateOrder (f : PowerOrder → PowerOrder) : Run Unit :=
  modify (·.onOrder f)

def setPhase (phase : Phase) : Run Unit :=
  modify (·.enter phase)

def ofExcept : Except Failure α → Run α
  | .ok a => pure a
  | .error failure => throw failure

def settle (report : Report α) : Run (Except Failure α) := do
  report.records.forM logRecord
  return report.outcome

def ofReport (report : Report α) : Run α := do
  ofExcept (← settle report)

def outcome (run : Run α) : Run (Except Failure α) :=
  tryCatch (.ok <$> run) (fun failure => pure (.error failure))

@[simp] theorem run_pure (a : α) (s : Scene) : (pure a : Run α).run s = (.ok a, s) := rfl

@[simp] theorem run_throw (failure : Failure) (s : Scene) :
    (throw failure : Run α).run s = (.error failure, s) := rfl

@[simp] theorem run_get (s : Scene) : (get : Run Scene).run s = (.ok s, s) := rfl

@[simp] theorem run_set (t s : Scene) : (set t : Run PUnit).run s = (.ok (), t) := rfl

@[simp] theorem run_modify (f : Scene → Scene) (s : Scene) :
    (modify f : Run PUnit).run s = (.ok (), f s) := rfl

@[simp] theorem run_ofExcept (outcome : Except Failure α) (s : Scene) :
    (ofExcept outcome).run s = (outcome, s) := by
  cases outcome <;> rfl

@[simp] theorem run_order (s : Scene) : order.run s = (.ok s.order, s) := rfl

@[simp] theorem run_updateOrder (f : PowerOrder → PowerOrder) (s : Scene) :
    (updateOrder f).run s = (.ok (), s.onOrder f) := rfl

@[simp] theorem run_setPhase (phase : Phase) (s : Scene) :
    (setPhase phase).run s = (.ok (), s.enter phase) := rfl

@[simp] theorem run_record (event : Event) (s : Scene) :
    (record event).run s = (.ok (), s.note event) := rfl

/-- The outcome of a run is not itself a failure, and the run leaves the same scene. -/
@[simp] theorem run_outcome (run : Run α) (s : Scene) :
    (outcome run).run s = (.ok (run.run s).1, (run.run s).2) := by
  simp only [outcome, tryCatch, tryCatchThe, MonadExceptOf.tryCatch, ExceptT.tryCatch, Functor.map,
    ExceptT.map, ExceptT.run, ExceptT.mk, bind, StateT.bind]
  cases run s with
  | mk result after => cases result <;> rfl

/-- A run goes on with the result of the one before it, on the scene that one left. -/
theorem run_bind {β : Type} (run : Run α) (next : α → Run β) (s : Scene) :
    (run >>= next).run s =
      match run.run s with
      | (.ok a, after) => (next a).run after
      | (.error failure, after) => (.error failure, after) := by
  simp only [ExceptT.run, bind, ExceptT.bind, ExceptT.mk, StateT.bind]
  cases run s with
  | mk result after => cases result <;> rfl

/-- A failure is handled on the scene that the failed run left. -/
theorem run_tryCatch (run : Run α) (handler : Failure → Run α) (s : Scene) :
    (tryCatch run handler).run s =
      match run.run s with
      | (.ok a, after) => (.ok a, after)
      | (.error failure, after) => (handler failure).run after := by
  simp only [tryCatch, tryCatchThe, MonadExceptOf.tryCatch, ExceptT.tryCatch, ExceptT.run,
    ExceptT.mk, bind, StateT.bind]
  cases run s with
  | mk result after => cases result <;> rfl

end Run

end ServerPower
