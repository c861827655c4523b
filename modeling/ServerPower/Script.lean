import ServerPower.Client.Reply
import ServerPower.Explain
import ServerPower.PowerOrder

/-!
# Scripts

What happens around a power change, written down in advance: what the manager answers to the
calls, when the pool of workers gets to a submission, and what others do meanwhile, either during a
call or during a wait.
-/

namespace ServerPower

/-- A failure written down. One of this library's kinds is explained by its template. -/
structure FailureSpec where
  kind : FailureKind
  message : Json := .text ""
  values : Template.Values := []
  deriving DecidableEq

def FailureSpec.build (strict : Bool) (spec : FailureSpec) : Report Failure := do
  if spec.kind.isA .general then
    return ⟨spec.kind, ← Failure.describe strict spec.kind.template spec.message spec.values⟩
  return ⟨spec.kind, spec.message.display⟩

/-- When the pool runs a submission. -/
inductive Moment where
  /-- While it is being handed over. -/
  | inline
  /-- At a wait, counted from the submission. -/
  | atWait (count : Nat)
  | never
  /-- It is cancelled before it runs. -/
  | cancelled
  deriving DecidableEq, Repr

/-- What someone does to an order. -/
inductive Action where
  | reset
  | markDone (failure? : Option FailureSpec) (attempt? : Option Int)
  | cancel
  | wait (delay : Json)
  | observe (attempt? : Option Int)
  | submit (target : PowerState) (attempt? : Option Int)
  | refresh (attempt? : Option Int)
  | setTask (task : RemoteTask)
  | setHardware (hardware : ManagedHardware)
  | setTiming (limit? interval? : Option Json)
  | setMoment (moment : Moment)
  | execute (target : PowerState)
  /-- Executes a change and closes the pool after it, whatever comes of it. -/
  | executeOnce (target : PowerState)
  | close (wait : Json)
  | look
  deriving DecidableEq

/-- What the manager sends back, once the actions during the call have ended. -/
inductive AnswerContent where
  | reply (status : Int) (reason body : String)
  | fault (spec : FailureSpec)
  deriving DecidableEq

/-- The answer to a call, and what others do while the call is in flight. -/
structure Answer where
  during : List Action := []
  content : AnswerContent
  deriving DecidableEq

namespace Answer

def exhausted : Answer :=
  { content := .fault { kind := .network .connection, message := .text "no response scripted" } }

def reply (strict : Bool) (answer : Answer) : Report Reply := do
  match answer.content with
  | .reply status reason body => return .answer status reason body
  | .fault spec => return .fault (← spec.build strict)

end Answer

/-- The answers of a script: one after the other, or by method and address, where the last one is
given over and over. -/
inductive Supply where
  | queue (answers : List Answer)
  | routes (table : List (String × List Answer))

namespace Supply

/-- The table without the answer just given for `route`, unless it was the last one. -/
def advance (route : String) (table : List (String × List Answer)) :
    List (String × List Answer) :=
  table.map fun (key, answers) =>
    match answers with
    | _ :: next :: rest => if key = route then (key, next :: rest) else (key, answers)
    | _ => (key, answers)

def next (request : Request) : Supply → Answer × Supply
  | .queue [] => (.exhausted, .queue [])
  | .queue (answer :: rest) => (answer, .queue rest)
  | .routes table =>
    let route := request.method ++ " " ++ request.url
    (((table.lookup route).bind List.head?).getD .exhausted, .routes (advance route table))

/-- How many answers there are with actions of others during the call. -/
def busyCount : Supply → Nat
  | .queue answers => answers.countP (!·.during.isEmpty)
  | .routes table => (table.flatMap Prod.snd).countP (!·.during.isEmpty)

def answers : Supply → List Answer
  | .queue answers => answers
  | .routes table => table.flatMap Prod.snd

end Supply

structure Script where
  supply : Supply
  moment : Moment := .inline
  atWait : List (Nat × List Action) := []

namespace Script

def duringWait (script : Script) (number : Nat) : List Action :=
  (script.atWait.lookup number).getD []

def actions (script : Script) : List Action :=
  script.supply.answers.flatMap (·.during) ++ script.atWait.flatMap Prod.snd

/-- How deeply actions during calls and waits can be nested: each of them is given once. -/
def depth (script : Script) : Nat :=
  script.supply.busyCount + script.atWait.length

/-- The number of the last wait at which something can still change, submissions made by `steps`
included: every answer given, every action done, every submission run. -/
def horizon (script : Script) (steps : List Action) : Nat :=
  let delay : Action → Nat
    | .setMoment (.atWait count) => count
    | _ => 0
  let first := match script.moment with
    | .atWait count => count
    | _ => 0
  let last := (script.atWait.map Prod.fst).foldl max 0
  let all := steps ++ script.actions
  last + script.supply.answers.length + ((all.map delay).foldl max first + 1) * (all.length + 1)

/-- A number of checks that no polling for `steps` exceeds: the largest one that a limit set on the
way allows. Under an infinite limit, polling that ends at all ends within the horizon. -/
def checkBound (script : Script) (steps : List Action) (limit : Json) : Nat :=
  let set : Action → List Json
    | .setTiming (some limit) _ => [limit]
    | _ => []
  let limits := limit :: (steps ++ script.actions).flatMap set
  (limits.map fun limit => (PowerOrder.checksOf? limit).getD (script.horizon steps)).foldl max 0

theorem duringWait_subset (script : Script) (number : Nat) :
    script.duringWait number ⊆ script.actions := by
  intro action ha
  unfold duringWait at ha
  cases hl : script.atWait.lookup number with
  | none =>
    rw [hl] at ha
    cases ha
  | some actions =>
    rw [hl] at ha
    obtain ⟨before, after, hsplit, -⟩ := List.lookup_eq_some_iff.mp hl
    refine List.mem_append_right _ (List.mem_flatMap.mpr ⟨(number, actions), ?_, ha⟩)
    simp [hsplit]

/-- The bound covers the limit at the beginning and each one that is set on the way. -/
theorem le_checkBound {script : Script} {steps : List Action} {limit set : Json} {n : Nat}
    (hset : set = limit ∨ ∃ interval?, .setTiming (some set) interval? ∈ steps ++ script.actions)
    (h : PowerOrder.checksOf? set = some n) : n ≤ script.checkBound steps limit := by
  unfold checkBound
  dsimp only
  rw [List.foldl_max]
  refine Nat.le_trans (List.le_max?_getD_of_mem ?_) (Nat.le_max_right _ _)
  refine List.mem_map.mpr ⟨set, ?_, by rw [h]; rfl⟩
  rcases hset with rfl | ⟨interval?, hm⟩
  · exact List.mem_cons_self ..
  · exact List.mem_cons_of_mem _ (List.mem_flatMap.mpr ⟨_, hm, List.mem_singleton_self set⟩)

end Script

end ServerPower
