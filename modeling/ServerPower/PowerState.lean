import ServerPower.Report
import ServerPower.Json.Basic
import ServerPower.Text.Upper

/-!
# Power states

The power states of server hardware and the states of the manager's tasks. The manager reports both
as free text, which is compared in upper case; what is not text equals nothing.
-/

namespace ServerPower

def Json.upper? : Json → Option String
  | .text s => some (Text.upper s)
  | _ => none

inductive PowerState where
  | on
  | off
  | unknown
  deriving DecidableEq, Repr

namespace PowerState

/-- The states in the order of their declaration, with their names. -/
def all : List (String × PowerState) := [("ON", .on), ("OFF", .off), ("UNKNOWN", .unknown)]

def wire : PowerState → String
  | .on => "On"
  | .off => "Off"
  | .unknown => "UNKNOWN"

def ofWire? (s : String) : Option PowerState :=
  (all.find? fun (_, state) => state.wire == s).map Prod.snd

/-- Whether a reported value says that the state is the given one. -/
def equals (state : PowerState) (reported : Json) : Bool :=
  reported.upper? == some (Text.upper state.wire)

def targets : List PowerState := [.on, .off]

def lookup? (reported : Json) : Option PowerState :=
  targets.find? (·.equals reported)

/-- The state of hardware called `name` that reports `reported`: unknown, with a warning, unless
the report names a target. -/
def classify (reported name : Json) : Report PowerState :=
  match lookup? reported with
  | some state => pure state
  | none => do
    Report.log .warning
      ("Unknown power state " ++ reported.display ++ " detected for " ++ name.display ++ ".")
    return .unknown

/-- Classification always has a result: the target named, else the unknown state. -/
theorem outcome_classify (reported name : Json) :
    (classify reported name).outcome = .ok ((lookup? reported).getD .unknown) := by
  unfold classify
  cases lookup? reported with
  | some state => rfl
  | none => rfl

end PowerState

inductive PowerControl where
  | coldBoot
  | momentaryPress
  | reset
  deriving DecidableEq, Repr

namespace PowerControl

/-- The controls in the order of their declaration, with their names. -/
def all : List (String × PowerControl) :=
  [("COLD_BOOT", .coldBoot), ("MOMENTARY_PRESS", .momentaryPress), ("RESET", .reset)]

def wire : PowerControl → String
  | .coldBoot => "ColdBoot"
  | .momentaryPress => "MomentaryPress"
  | .reset => "Reset"

end PowerControl

def completedTaskState : String := "Completed"

/-- The states of a task that will never finish, in upper case. -/
def failedTaskStates : List String := ["ERROR", "KILLED", "TERMINATED"]

/-- Whether a reported task state says that the task finished. -/
def isCompletedTaskState (reported : Json) : Bool :=
  reported.upper? == some (Text.upper completedTaskState)

/-- Whether a reported task state says that the task will never finish. -/
def isFailedTaskState (reported : Json) : Bool :=
  reported.upper?.any failedTaskStates.contains

inductive Phase where
  | idle
  | submitting
  | polling
  | done
  | timedOut
  | cancelled
  | failed
  deriving DecidableEq, Repr

namespace Phase

/-- The phases in the order of their declaration, with their names. -/
def all : List (String × Phase) :=
  [("IDLE", .idle), ("SUBMITTING", .submitting), ("POLLING", .polling), ("DONE", .done),
    ("TIMED_OUT", .timedOut), ("CANCELLED", .cancelled), ("FAILED", .failed)]

def wire : Phase → String
  | .idle => "idle"
  | .submitting => "submitting"
  | .polling => "polling"
  | .done => "done"
  | .timedOut => "timed out"
  | .cancelled => "cancelled"
  | .failed => "failed"

end Phase

inductive PowerResult where
  | completed
  | timedOut
  | cancelled
  deriving DecidableEq, Repr

namespace PowerResult

/-- The results in the order of their declaration, with their names. -/
def all : List (String × PowerResult) :=
  [("COMPLETED", .completed), ("TIMED_OUT", .timedOut), ("CANCELLED", .cancelled)]

def wire : PowerResult → String
  | .completed => "completed"
  | .timedOut => "timed out"
  | .cancelled => "cancelled"

end PowerResult

end ServerPower
