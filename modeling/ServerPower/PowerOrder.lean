import ServerPower.Client.Basic
import ServerPower.Hardware
import ServerPower.Settings

/-!
# Power orders

The state of a power change, shared by the side that asks for the change and the side that follows
the manager's task. Attempts are numbered; what is done on behalf of an earlier attempt does not
count any more.
-/

namespace ServerPower

/-- Server hardware and the client that it is reached through. -/
structure ManagedHardware where
  hardware : Hardware
  client : Client
  deriving DecidableEq

/-- The state of a power change. -/
structure PowerOrder where
  hardware : ManagedHardware
  limit : Json
  interval : Json
  observed : PowerState := .unknown
  done : Bool := false
  failure? : Option Failure := none
  cancelled : Bool := false
  task : RemoteTask := {}
  attempt : Int := 0
  deriving DecidableEq

namespace PowerOrder

/-- A value, or the one of the settings in its place if it is `null`. -/
def orSetting (settings : Settings) (key : OptionKey) : Json → Except Failure Json
  | .null => settings.read key
  | v => .ok v

def create (settings : Settings) (hardware : ManagedHardware) (limit interval : Json) :
    Except Failure PowerOrder := do
  let limit ← orSetting settings .pollLimit limit
  let interval ← orSetting settings .pollInterval interval
  return { hardware, limit, interval }

/-- Whether something done on behalf of an attempt counts; no attempt means the current one. -/
def isCurrent (order : PowerOrder) : Option Int → Bool
  | none => true
  | some attempt => attempt == order.attempt

/-- Begins the next attempt, with nothing of the one before it. -/
def reset (order : PowerOrder) : PowerOrder :=
  { order with
    observed := .unknown, done := false, failure? := none, cancelled := false, task := {},
    attempt := order.attempt + 1 }

/-- Ends the current attempt. The first failure is the one that stays. -/
def markDone (order : PowerOrder) (failure? : Option Failure) (attempt? : Option Int) :
    PowerOrder :=
  if order.isCurrent attempt? then
    { order with done := true, failure? := order.failure? <|> failure? }
  else order

def cancel (order : PowerOrder) : PowerOrder :=
  { order with cancelled := true }

/-- Whether the current attempt is not waited for any longer. -/
def isOver (order : PowerOrder) : Bool :=
  order.done || order.cancelled

/-- Notes the server hardware as the manager reported it, and its power state. -/
def noteHardware (order : PowerOrder) (attempt? : Option Int) (hardware : ManagedHardware)
    (state : PowerState) : PowerOrder :=
  if order.isCurrent attempt? then { order with observed := state, hardware } else order

def noteTask (order : PowerOrder) (attempt : Int) (task : RemoteTask) : PowerOrder :=
  if order.isCurrent (some attempt) then { order with task } else order

/-- Notes the progress of a task, if that is still the task of the order. -/
def noteProgress (order : PowerOrder) (attempt? : Option Int) (task : RemoteTask) : PowerOrder :=
  if order.isCurrent attempt? && order.task.uri == task.uri then { order with task } else order

/-- Whether more checks of the task are allowed after `checks` of them. -/
def allowsCheck (order : PowerOrder) (checks : Nat) : Except Failure Bool :=
  match order.limit with
  | .number limit => .ok (limit.isAbove checks)
  | .bool b => .ok (checks < b.toNat)
  | v =>
    .error ⟨.wrongType,
      "'<' not supported between instances of 'int' and '" ++ v.typeName ++ "'"⟩

/-- The number of checks that a limit allows. Only an infinite limit allows any number. -/
def checksOf? : Json → Option Nat
  | .number limit => limit.countBelow?
  | .bool b => some b.toNat
  | _ => some 0

theorem isCurrent_eq_true {order : PowerOrder} {attempt : Int} (h : order.attempt = attempt) :
    order.isCurrent (some attempt) = true := by
  simp [isCurrent, h]

theorem isCurrent_eq_false {order : PowerOrder} {attempt : Int} (h : order.attempt ≠ attempt) :
    order.isCurrent (some attempt) = false := by
  simpa [isCurrent] using Ne.symm h

theorem markDone_of_current {order : PowerOrder} {attempt : Int} (h : order.attempt = attempt)
    (failure? : Option Failure) : order.markDone failure? (some attempt) =
      { order with done := true, failure? := order.failure? <|> failure? } :=
  if_pos (isCurrent_eq_true h)

theorem noteHardware_of_current {order : PowerOrder} {attempt : Int} (h : order.attempt = attempt)
    (hardware : ManagedHardware) (state : PowerState) :
    order.noteHardware (some attempt) hardware state = { order with observed := state, hardware } :=
  if_pos (isCurrent_eq_true h)

theorem noteTask_of_current {order : PowerOrder} {attempt : Int} (h : order.attempt = attempt)
    (task : RemoteTask) : order.noteTask attempt task = { order with task } :=
  if_pos (isCurrent_eq_true h)

/-- What is done on behalf of another attempt changes nothing. -/
theorem markDone_of_not_current {order : PowerOrder} {attempt? : Option Int}
    (h : order.isCurrent attempt? = false) (failure? : Option Failure) :
    order.markDone failure? attempt? = order := by
  simp [markDone, h]

theorem noteHardware_of_not_current {order : PowerOrder} {attempt? : Option Int}
    (h : order.isCurrent attempt? = false) (hardware : ManagedHardware) (state : PowerState) :
    order.noteHardware attempt? hardware state = order := by
  simp [noteHardware, h]

theorem noteTask_of_not_current {order : PowerOrder} {attempt : Int}
    (h : order.isCurrent (some attempt) = false) (task : RemoteTask) :
    order.noteTask attempt task = order := by
  simp [noteTask, h]

theorem noteProgress_of_not_current {order : PowerOrder} {attempt? : Option Int}
    (h : order.isCurrent attempt? = false) (task : RemoteTask) :
    order.noteProgress attempt? task = order := by
  simp [noteProgress, h]

@[simp] theorem attempt_reset (order : PowerOrder) : order.reset.attempt = order.attempt + 1 := rfl

@[simp] theorem attempt_cancel (order : PowerOrder) : order.cancel.attempt = order.attempt := rfl

@[simp] theorem attempt_markDone (order : PowerOrder) (failure? : Option Failure)
    (attempt? : Option Int) : (order.markDone failure? attempt?).attempt = order.attempt := by
  unfold markDone
  split <;> rfl

@[simp] theorem attempt_noteHardware (order : PowerOrder) (attempt? : Option Int)
    (hardware : ManagedHardware) (state : PowerState) :
    (order.noteHardware attempt? hardware state).attempt = order.attempt := by
  unfold noteHardware
  split <;> rfl

@[simp] theorem attempt_noteTask (order : PowerOrder) (attempt : Int) (task : RemoteTask) :
    (order.noteTask attempt task).attempt = order.attempt := by
  unfold noteTask
  split <;> rfl

@[simp] theorem attempt_noteProgress (order : PowerOrder) (attempt? : Option Int)
    (task : RemoteTask) : (order.noteProgress attempt? task).attempt = order.attempt := by
  unfold noteProgress
  split <;> rfl

@[simp] theorem hardware_markDone (order : PowerOrder) (failure? : Option Failure)
    (attempt? : Option Int) : (order.markDone failure? attempt?).hardware = order.hardware := by
  unfold markDone
  split <;> rfl

@[simp] theorem limit_markDone (order : PowerOrder) (failure? : Option Failure)
    (attempt? : Option Int) : (order.markDone failure? attempt?).limit = order.limit := by
  unfold markDone
  split <;> rfl

@[simp] theorem interval_markDone (order : PowerOrder) (failure? : Option Failure)
    (attempt? : Option Int) : (order.markDone failure? attempt?).interval = order.interval := by
  unfold markDone
  split <;> rfl

@[simp] theorem task_markDone (order : PowerOrder) (failure? : Option Failure)
    (attempt? : Option Int) : (order.markDone failure? attempt?).task = order.task := by
  unfold markDone
  split <;> rfl

@[simp] theorem limit_noteHardware (order : PowerOrder) (attempt? : Option Int)
    (hardware : ManagedHardware) (state : PowerState) :
    (order.noteHardware attempt? hardware state).limit = order.limit := by
  unfold noteHardware
  split <;> rfl

@[simp] theorem interval_noteHardware (order : PowerOrder) (attempt? : Option Int)
    (hardware : ManagedHardware) (state : PowerState) :
    (order.noteHardware attempt? hardware state).interval = order.interval := by
  unfold noteHardware
  split <;> rfl

@[simp] theorem task_noteHardware (order : PowerOrder) (attempt? : Option Int)
    (hardware : ManagedHardware) (state : PowerState) :
    (order.noteHardware attempt? hardware state).task = order.task := by
  unfold noteHardware
  split <;> rfl

@[simp] theorem hardware_noteTask (order : PowerOrder) (attempt : Int) (task : RemoteTask) :
    (order.noteTask attempt task).hardware = order.hardware := by
  unfold noteTask
  split <;> rfl

@[simp] theorem limit_noteTask (order : PowerOrder) (attempt : Int) (task : RemoteTask) :
    (order.noteTask attempt task).limit = order.limit := by
  unfold noteTask
  split <;> rfl

@[simp] theorem interval_noteTask (order : PowerOrder) (attempt : Int) (task : RemoteTask) :
    (order.noteTask attempt task).interval = order.interval := by
  unfold noteTask
  split <;> rfl

@[simp] theorem hardware_noteProgress (order : PowerOrder) (attempt? : Option Int)
    (task : RemoteTask) : (order.noteProgress attempt? task).hardware = order.hardware := by
  unfold noteProgress
  split <;> rfl

@[simp] theorem limit_noteProgress (order : PowerOrder) (attempt? : Option Int)
    (task : RemoteTask) : (order.noteProgress attempt? task).limit = order.limit := by
  unfold noteProgress
  split <;> rfl

@[simp] theorem interval_noteProgress (order : PowerOrder) (attempt? : Option Int)
    (task : RemoteTask) : (order.noteProgress attempt? task).interval = order.interval := by
  unfold noteProgress
  split <;> rfl

theorem allowsCheck_int {order : PowerOrder} {limit : Int} (h : order.limit = .int limit)
    (checks : Nat) : order.allowsCheck checks = .ok (decide ((checks : Int) < limit)) := by
  simp [allowsCheck, h]

/-- As many checks as a limit allows use it up. -/
theorem allowsCheck_of_checksOf? {order : PowerOrder} {m n : Nat}
    (h : checksOf? order.limit = some m) (hm : m ≤ n) : order.allowsCheck n ≠ .ok true := by
  unfold allowsCheck
  split
  · rename_i limit hlimit
    rw [hlimit] at h
    rw [(Number.isAbove_eq_false_iff h n).mpr hm]
    exact fun hc => nomatch hc
  · rename_i b hlimit
    rw [hlimit] at h
    cases h
    rw [decide_eq_false (Nat.not_lt.mpr hm)]
    exact fun hc => nomatch hc
  · exact fun hc => nomatch hc

end PowerOrder

end ServerPower
