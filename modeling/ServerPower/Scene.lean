import ServerPower.Script

/-!
# Scenes

How things stand with one power order: the order itself, the pool of workers, and how far the script
has been played. Everything that can be seen from outside is kept in a journal.
-/

namespace ServerPower

/-- On whose behalf a call is made. -/
inductive Origin where
  | submission (number : Nat) (attempt : Int)
  | polling (attempt : Int)
  | query
  deriving DecidableEq, Repr

inductive Yield where
  | nothing
  | flag (value : Bool)
  | attempt (number : Int)
  | state (value : PowerState)
  | task (value : Option RemoteTask)
  | result (value : PowerResult)
  /-- The result of an execution after which the pool was closed. -/
  | resultOnce (value : PowerResult)
  deriving DecidableEq

/-- What can be seen from outside. -/
inductive Event where
  | sent (origin : Origin) (request : Request)
  /-- A call ended, after the actions during it. -/
  | answered (origin : Origin) (request : Request) (outcome : Except Failure String)
  | waited (origin : Origin) (delay : Json)
  | logged (record : Record)
  | acted (outcome : Except Failure Yield)
  | shutdown (wait : Json)

/-- An event, and how things stood right after it. -/
structure Entry where
  event : Event
  order : PowerOrder
  phase : Phase

/-- A submission that the pool has not run yet, and the number of the wait at which it will. -/
structure Job where
  due : Nat
  target : PowerState
  attempt : Int
  deriving DecidableEq

/-- How things stand with one power order. -/
structure Scene where
  order : PowerOrder
  supply : Supply
  moment : Moment
  phase : Phase := .idle
  poolOpen : Bool := true
  pending : List Job := []
  waits : Nat := 0
  submissions : Nat := 0
  /-- What happened, the last event first. -/
  journal : List Entry := []

namespace Scene

def events (s : Scene) : List Event :=
  (s.journal.map (·.event)).reverse

def note (event : Event) (s : Scene) : Scene :=
  { s with journal := ⟨event, s.order, s.phase⟩ :: s.journal }

def onOrder (f : PowerOrder → PowerOrder) (s : Scene) : Scene :=
  { s with order := f s.order }

def enter (phase : Phase) (s : Scene) : Scene :=
  { s with phase }

@[simp] theorem order_note (event : Event) (s : Scene) : (s.note event).order = s.order := rfl

@[simp] theorem supply_note (event : Event) (s : Scene) : (s.note event).supply = s.supply := rfl

@[simp] theorem pending_note (event : Event) (s : Scene) : (s.note event).pending = s.pending := rfl

@[simp] theorem journal_note (event : Event) (s : Scene) :
    (s.note event).journal = ⟨event, s.order, s.phase⟩ :: s.journal := rfl

@[simp] theorem order_onOrder (f : PowerOrder → PowerOrder) (s : Scene) :
    (s.onOrder f).order = f s.order := rfl

@[simp] theorem supply_onOrder (f : PowerOrder → PowerOrder) (s : Scene) :
    (s.onOrder f).supply = s.supply := rfl

@[simp] theorem pending_onOrder (f : PowerOrder → PowerOrder) (s : Scene) :
    (s.onOrder f).pending = s.pending := rfl

@[simp] theorem journal_onOrder (f : PowerOrder → PowerOrder) (s : Scene) :
    (s.onOrder f).journal = s.journal := rfl

@[simp] theorem order_enter (phase : Phase) (s : Scene) : (s.enter phase).order = s.order := rfl

@[simp] theorem supply_enter (phase : Phase) (s : Scene) : (s.enter phase).supply = s.supply := rfl

@[simp] theorem pending_enter (phase : Phase) (s : Scene) :
    (s.enter phase).pending = s.pending := rfl

@[simp] theorem journal_enter (phase : Phase) (s : Scene) :
    (s.enter phase).journal = s.journal := rfl

end Scene

end ServerPower
