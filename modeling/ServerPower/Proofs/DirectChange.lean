import ServerPower.Proofs.Unattended

/-!
# Direct changes

A change of power as a recursion over the answers of the manager, without orders, attempts or a
pool. First the submission asks for the hardware and, unless that is in the desired state, for the
change; then the task is checked, once before each wait, until it ended or no more checks are
allowed.
-/

namespace ServerPower.Proofs
open Run

/-- How an execution goes: what it yields, the requests that it sends and how often it waits. -/
structure Course where
  result : Except Failure PowerResult
  requests : List Request := []
  waits : Nat := 0

namespace Course

def sending (request : Request) (course : Course) : Course :=
  { course with requests := request :: course.requests }

def waiting (course : Course) : Course :=
  { course with waits := course.waits + 1 }

end Course

inductive Fate where
  | failed (failure : Failure)
  /-- The hardware is in the desired state already. -/
  | needless
  /-- The manager made a task for the change. -/
  | accepted (task : RemoteTask)

/-- How a submission goes: what comes of it, the hardware as it is known then, the requests that it
sends and the answers that it leaves. -/
structure Submission where
  fate : Fate
  hardware : Hardware
  requests : List Request
  left : List AnswerContent

def hardwareFrom (strict : Bool) (uri : Json) (request : Request) (contents : List AnswerContent) :
    Except Failure Hardware := do
  let body ← (readAnswer strict "GET" uri request (nextAnswer contents)).outcome
  (Client.readHardware strict uri body).outcome

def taskFrom (strict : Bool) (method uri : String) (request : Request)
    (contents : List AnswerContent) (task : RemoteTask) : Except Failure RemoteTask := do
  let body ← (readAnswer strict method (.text uri) request (nextAnswer contents)).outcome
  (Client.readTask strict (.text uri) body task).outcome

def directRequest (strict : Bool) (target : PowerState) (client : Client) (latest : Hardware)
    (contents : List AnswerContent) : Submission :=
  match latest.powerUri with
  | .error failure => ⟨.failed failure, latest, [], contents⟩
  | .ok uri =>
    match client.request "PUT" (.text uri) (changeBody target) with
    | .error failure => ⟨.failed failure, latest, [], contents⟩
    | .ok request =>
      match taskFrom strict "PUT" uri request contents {} with
      | .error failure => ⟨.failed failure, latest, [request], contents.tail⟩
      | .ok task => ⟨.accepted task, latest, [request], contents.tail⟩

lemma directRequest_hardware (strict : Bool) (target : PowerState) (client : Client)
    (latest : Hardware) (contents : List AnswerContent) :
    (directRequest strict target client latest contents).hardware = latest := by
  unfold directRequest
  cases latest.powerUri with
  | error failure => rfl
  | ok uri =>
    dsimp only
    cases client.request "PUT" (.text uri) (changeBody target) with
    | error failure => rfl
    | ok request =>
      dsimp only
      cases taskFrom strict "PUT" uri request contents {} <;> rfl

def directSubmission (strict : Bool) (target : PowerState) (managed : ManagedHardware)
    (contents : List AnswerContent) : Submission :=
  let ⟨hardware, client⟩ := managed
  match client.request "GET" hardware.uri .null with
  | .error failure => ⟨.failed failure, hardware, [], contents⟩
  | .ok request =>
    match hardwareFrom strict hardware.uri request contents with
    | .error failure => ⟨.failed failure, hardware, [request], contents.tail⟩
    | .ok latest =>
      if classified latest = target then ⟨.needless, latest, [request], contents.tail⟩
      else
        let rest := directRequest strict target client latest contents.tail
        { rest with requests := request :: rest.requests }

/-- How an execution ends whose checks are used up. -/
def timeout (failOnTimeout : Bool) (target : PowerState) (name : Json) (checks : Nat) :
    Except Failure PowerResult :=
  if failOnTimeout then .error (changeTimedOut target name checks) else .ok .timedOut

/-- Checks a task at most `left` times. A task without an address is never asked for. A report that
names another address is looked at, but not kept. -/
def directChecks (strict : Bool) (target : PowerState) (client : Client)
    (expired : Except Failure PowerResult) :
    (left : Nat) → (contents : List AnswerContent) → (task : RemoteTask) → Course
  | 0, _, _ => { result := expired }
  | left + 1, contents, task =>
    if task.uri = "" then (directChecks strict target client expired left contents task).waiting
    else match client.request "GET" (.text task.uri) .null with
      | .error failure => { result := .error failure }
      | .ok request => Course.sending request <|
        match taskFrom strict "GET" task.uri request contents task with
        | .error failure => { result := .error failure }
        | .ok latest =>
          if latest.isCompleted then Course.waiting { result := .ok .completed }
          else if latest.isFailed then
            match latest.errorSummary with
            | .error failure => { result := .error failure }
            | .ok reason => Course.waiting { result := .error (changeFailed target reason) }
          else
            let kept := if latest.uri = task.uri then latest else task
            (directChecks strict target client expired left contents.tail kept).waiting

/-- A task without an address is waited for until the checks are used up, and nothing is sent. -/
lemma directChecks_of_no_address (strict : Bool) (target : PowerState) (client : Client)
    (expired : Except Failure PowerResult) {task : RemoteTask} (h : task.uri = "") (left : Nat)
    (contents : List AnswerContent) :
    directChecks strict target client expired left contents task =
      { result := expired, waits := left } := by
  induction left with
  | zero => rfl
  | succ left ih =>
    rw [directChecks, if_pos h, ih]
    rfl

lemma submissionFailed_isA (target : PowerState) (failure : Failure) :
    (submissionFailed target failure).isA .powerChange := by
  unfold submissionFailed
  split
  · assumption
  · rfl

def directPursuit (strict failOnTimeout : Bool) (target : PowerState) (client : Client)
    (limit : Nat) (submission : Submission) : Course :=
  match submission.fate with
  | .failed failure => { result := .error (submissionFailed target failure) }
  | .needless => { result := .ok .completed }
  | .accepted task =>
    directChecks strict target client (timeout failOnTimeout target submission.hardware.name limit)
      limit submission.left task

/-- The change of power, with at most `limit` checks. -/
def directChange (strict failOnTimeout : Bool) (target : PowerState) (managed : ManagedHardware)
    (limit : Nat) (contents : List AnswerContent) : Course :=
  let submission := directSubmission strict target managed contents
  let rest := directPursuit strict failOnTimeout target managed.client limit submission
  { rest with requests := submission.requests ++ rest.requests }

end ServerPower.Proofs
