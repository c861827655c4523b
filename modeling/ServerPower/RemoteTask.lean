import ServerPower.PowerState

/-!
# Tasks of the manager

The manager answers a power change with a task and reports its progress under the task's address.
Each report is merged into what is known: a field that the report carries replaces the old one, a
field of the wrong type refuses the whole report.
-/

namespace ServerPower

/-- What is known of a task. Without an address there is no task to follow. -/
structure RemoteTask where
  uri : String := ""
  name : String := ""
  owner : String := ""
  state : String := ""
  status : String := ""
  percent : Number := .int 0
  computed : Number := .int 0
  errors : List Json := []
  deriving DecidableEq

namespace RemoteTask

instance : Inhabited RemoteTask := ⟨{}⟩

def unexpected (key : String) (v : Json) : Failure :=
  ⟨.wrongValue, "unexpected " ++ v.typeName ++ " value for " ++ key⟩

def notAnObject (v : Json) : Failure :=
  ⟨.wrongValue, "expected a JSON object, got " ++ v.typeName⟩

def textField (members : List (String × Json)) (key old : String) : Except Failure String :=
  match Json.member members key with
  | .null => .ok old
  | .text s => .ok s
  | v => .error (unexpected key v)

def numberField (members : List (String × Json)) (key : String) (old : Number) :
    Except Failure Number :=
  match Json.member members key with
  | .null => .ok old
  | .number n => .ok n
  | v => .error (unexpected key v)

def listField (members : List (String × Json)) (key : String) (old : List Json) :
    Except Failure (List Json) :=
  match Json.member members key with
  | .null => .ok old
  | .list items => .ok items
  | v => .error (unexpected key v)

/-- The task after a report. The first field of the wrong type is the one named. -/
def update (task : RemoteTask) : Json → Except Failure RemoteTask
  | .object members => do
    let uri ← textField members "uri" task.uri
    let name ← textField members "name" task.name
    let owner ← textField members "owner" task.owner
    let state ← textField members "taskState" task.state
    let status ← textField members "taskStatus" task.status
    let percent ← numberField members "percentComplete" task.percent
    let computed ← numberField members "computedPercentComplete" task.computed
    let errors ← listField members "taskErrors" task.errors
    return { uri, name, owner, state, status, percent, computed, errors }
  | v => .error (notAnObject v)

def exists? (task : RemoteTask) : Bool := task.uri != ""

def isCompleted (task : RemoteTask) : Bool :=
  task.exists? && isCompletedTaskState (.text task.state)

def isFailed (task : RemoteTask) : Bool :=
  task.exists? && isFailedTaskState (.text task.state)

def errorMessage? : Json → Option Json
  | .object members =>
    let message := Json.member members "message"
    if message.isGiven then some message else none
  | _ => none

/-- Texts in a row with `"; "` between them. An item that is not a text has no place in the row;
`index` counts the items before. -/
def joinMessages (index : Nat) : List Json → Except Failure String
  | [] => .ok ""
  | .text s :: rest => do
    let others ← joinMessages (index + 1) rest
    return if rest.isEmpty then s else s ++ "; " ++ others
  | v :: _ =>
    .error ⟨.wrongType, "sequence item " ++ toString index ++ ": expected str instance, " ++
      v.typeName ++ " found"⟩

/-- What the task says went wrong: the messages of its errors, else its status, else its state. -/
def errorSummary (task : RemoteTask) : Except Failure String :=
  match task.errors.filterMap errorMessage? with
  | [] => .ok (if task.status != "" then task.status else task.state)
  | messages => joinMessages 0 messages

def describe (task : RemoteTask) : String :=
  "<Task uri=" ++ Text.quote task.uri ++ " name=" ++ Text.quote task.name ++ " state=" ++
    Text.quote task.state ++ " " ++ task.computed.text ++ "%>"

theorem update_of_not_object (task : RemoteTask) {v : Json}
    (h : ∀ members, v ≠ .object members) : task.update v = .error (notAnObject v) := by
  cases v with
  | object members => exact absurd rfl (h members)
  | _ => rfl

end RemoteTask

end ServerPower
