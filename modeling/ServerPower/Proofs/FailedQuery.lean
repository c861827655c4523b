import ServerPower.Exchange
import ServerPower.Proofs.Escapes
import ServerPower.Proofs.Unattended

/-!
# Failed queries

A query that fails leaves no trace of its own in the order. Whether the request cannot be made, is
not answered, or is answered with something that cannot be read, the order is as others left it
meanwhile, and the failure is the one that the client met with.
-/

namespace ServerPower.Proofs
open Run

/-- The order that others leave while a query waits for its answer. Where no request can be made,
nobody acts. -/
def leftMeanwhile (hook : Hook) (origin : Origin) (client : Client) (uri : Json) (s : Scene) :
    PowerOrder :=
  match client.request "GET" uri .null with
  | .error _ => s.order
  | .ok request => (inFlight hook request (s.note (.sent origin request))).order

/-- What the client makes of the manager's answer to a query for the task. -/
def askedForTask (strict : Bool) (order : PowerOrder) (supply : Supply) :
    Except Failure RemoteTask :=
  let uri := Json.text order.task.uri
  match (order.hardware.client.exchange strict "GET" uri .null supply).1.outcome with
  | .error failure => .error failure
  | .ok body => (Client.readTask strict uri body order.task).outcome

/-- What the client makes of the manager's answer to a query for the hardware. -/
def askedForHardware (strict : Bool) (order : PowerOrder) (supply : Supply) :
    Except Failure ManagedHardware :=
  (order.hardware.client.lookUp strict order.hardware.hardware.uri supply).1.outcome

/-- A query fails just where what it asks for fails, with the same failure, and then leaves the
order that others left. -/
structure FailsWith {α β : Type} (asked : Except Failure β) (left : PowerOrder)
    (result : Except Failure α) (after : PowerOrder) : Prop where
  failure : ∀ failure, result = .error failure ↔ asked = .error failure
  order : ∀ failure, result = .error failure → after = left

section Queries

variable {setup : Setup} {hook : Hook} {origin : Origin} {attempt? : Option Int} {s : Scene}

lemma FailsWith.of_error {α β : Type} {failure : Failure} {left : PowerOrder} :
    FailsWith (.error failure : Except Failure β) left (.error failure : Except Failure α) left :=
  ⟨fun _ => by simp, fun _ _ => rfl⟩

lemma FailsWith.of_ok {α β : Type} (asked : β) (result : α) (left after : PowerOrder) :
    FailsWith (.ok asked) left (.ok result) after :=
  ⟨fun _ => iff_of_false nofun nofun, fun _ h => nomatch h⟩

/-- A call yields what the client's exchange with the manager yields, on the order that others left
meanwhile. -/
lemma run_call_get (h : Total hook) (setup : Setup) (origin : Origin) (client : Client)
    (uri : Json) (s : Scene) :
    ∃ t, (call setup hook origin client "GET" uri .null).run s =
        ((client.exchange setup.strict "GET" uri .null s.supply).1.outcome, t) ∧
      t.order = leftMeanwhile hook origin client uri s := by
  rw [run_call h]
  unfold Client.exchange leftMeanwhile
  cases client.request "GET" uri .null with
  | error failure => exact ⟨s, rfl, rfl⟩
  | ok request => exact ⟨_, rfl, logged_order _ _⟩

lemma refresh_failsWith (h : Total hook) (hexists : s.order.task.exists?) :
    FailsWith (askedForTask setup.strict s.order s.supply)
      (leftMeanwhile hook origin s.order.hardware.client (.text s.order.task.uri) s)
      ((refresh setup hook origin attempt?).run s).1
      ((refresh setup hook origin attempt?).run s).2.order := by
  obtain ⟨t, hcall, hleft⟩ :=
    run_call_get h setup origin s.order.hardware.client (.text s.order.task.uri) s
  rw [run_refresh]
  simp only [hexists, if_true, hcall, askedForTask]
  cases (s.order.hardware.client.exchange setup.strict "GET" (.text s.order.task.uri) .null
      s.supply).1.outcome with
  | error failure =>
    dsimp only
    rw [hleft]
    exact FailsWith.of_error
  | ok body =>
    dsimp only
    cases (Client.readTask setup.strict (.text s.order.task.uri) body s.order.task).outcome with
    | error failure =>
      dsimp only
      rw [logged_order, hleft]
      exact FailsWith.of_error
    | ok latest => exact FailsWith.of_ok ..

lemma observe_failsWith (h : Total hook) (hgiven : s.order.hardware.hardware.uri.isGiven) :
    FailsWith (askedForHardware setup.strict s.order s.supply)
      (leftMeanwhile hook origin s.order.hardware.client s.order.hardware.hardware.uri s)
      ((observe setup hook origin attempt?).run s).1
      ((observe setup hook origin attempt?).run s).2.order := by
  obtain ⟨t, hcall, hleft⟩ :=
    run_call_get h setup origin s.order.hardware.client s.order.hardware.hardware.uri s
  rw [run_observe]
  simp only [hgiven, if_true, hcall, askedForHardware, Client.lookUp]
  cases (s.order.hardware.client.exchange setup.strict "GET" s.order.hardware.hardware.uri .null
      s.supply).1.outcome with
  | error failure =>
    dsimp only
    rw [hleft]
    exact FailsWith.of_error
  | ok body =>
    dsimp only
    cases (Client.readHardware setup.strict s.order.hardware.hardware.uri body).outcome with
    | error failure =>
      dsimp only [Except.map]
      rw [logged_order, hleft]
      exact FailsWith.of_error
    | ok latest => exact FailsWith.of_ok ..

/-- Hardware without an address is not asked for: its power state is forgotten, and nothing else
happens. -/
lemma run_observe_of_missing (setup : Setup) (hook : Hook) (origin : Origin)
    (attempt? : Option Int) (hmissing : ¬ s.order.hardware.hardware.uri.isGiven) :
    (observe setup hook origin attempt?).run s =
      (.error ⟨.missingHardware, "Can not manage power of server hardware " ++
          s.order.hardware.hardware.name.display ++ ": no server hardware URI is set."⟩,
        s.onOrder ({ · with observed := .unknown })) := by
  have hrefusal := build_missingHardware setup.strict s.order.hardware.hardware.name
  have hrecords : (Failure.raise setup.strict .missingHardware
      [("name", s.order.hardware.hardware.name)] : Report Unit).records = [] := by
    rw [Failure.raise, hrefusal]
    rfl
  rw [run_observe]
  simp only [hmissing, raised_of_build hrefusal, hrecords]
  rfl

end Queries

/-- A query of an order fails with what the client met with, and leaves the order as others left it
meanwhile. But for hardware without an address, which is refused without a request and with its
power state forgotten. -/
theorem order_of_failed_query (setup : Setup) (depth : Nat) (origin : Origin)
    (attempt? : Option Int) (s : Scene) :
    let hook := hookAt setup depth
    let refreshed := (refresh setup hook origin attempt?).run s
    let observed := (observe setup hook origin attempt?).run s
    let managed := s.order.hardware
    (¬ s.order.task.exists? → refreshed = (.ok none, s)) ∧
    (s.order.task.exists? → FailsWith (askedForTask setup.strict s.order s.supply)
      (leftMeanwhile hook origin managed.client (.text s.order.task.uri) s)
      refreshed.1 refreshed.2.order) ∧
    (managed.hardware.uri.isGiven → FailsWith (askedForHardware setup.strict s.order s.supply)
      (leftMeanwhile hook origin managed.client managed.hardware.uri s)
      observed.1 observed.2.order) ∧
    (¬ managed.hardware.uri.isGiven →
      observed.1 = .error ⟨.missingHardware, "Can not manage power of server hardware " ++
        managed.hardware.name.display ++ ": no server hardware URI is set."⟩ ∧
      observed.2 = s.onOrder ({ · with observed := .unknown }) ∧
      sentRequests observed.2 = sentRequests s) := by
  intro hook refreshed observed managed
  have htotal := total_hookAt setup depth
  refine ⟨fun hnone => ?_, refresh_failsWith htotal, observe_failsWith htotal, fun hmissing => ?_⟩
  · exact refresh_of_no_task setup hook origin attempt? (Bool.eq_false_iff.mpr hnone)
  · have hrun : observed = _ := run_observe_of_missing setup hook origin attempt? hmissing
    rw [hrun]
    exact ⟨rfl, rfl, rfl⟩

/-- The blade's task runs. Its owner cancels the order while the manager is asked for the task, and
the manager answers with a task whose status is not a text. -/
def misreportedBlade : Scene where
  order := { blade with task := { uri := "/rest/tasks/1", state := "Running" } }
  supply := .queue [{
    content := .reply 200 "OK" "\x7b\"taskState\": \"Completed\", \"taskStatus\": 7\x7d"
    during := [.cancel] }]
  moment := .inline

/-- The blade is on, and its address was lost. -/
def strayBlade : Scene :=
  (bladeScene []).onOrder fun order =>
    { order with
      hardware := ⟨⟨.text "", .text "blade 1", .text "", .text "On"⟩, order.hardware.client⟩,
      observed := .on }

theorem order_of_failed_query_misreportedBlade :
    let s := misreportedBlade
    let r := (refresh calm (hookAt calm 1) .query none).run s
    let unread : Failure := ⟨.decoding, "Unable to decode response from /rest/tasks/1. " ++
      "Error: unexpected int value for taskStatus"⟩
    let stray := strayBlade
    let lost := (observe calm (hookAt calm 1) .query (some 0)).run stray
    (s.order.task.exists? ∧ r.1 = .error unread ∧ r.2.order = s.order.cancel) ∧
      ¬ stray.order.hardware.hardware.uri.isGiven ∧
        lost.2.order = { stray.order with observed := .unknown } := by
  intro s r unread stray lost
  have hexists : s.order.task.exists? := by decide +kernel
  have hmissing : ¬ stray.order.hardware.hardware.uri.isGiven := by decide +kernel
  have hfails := (order_of_failed_query calm 1 .query none s).2.1 hexists
  have hlost := (order_of_failed_query calm 1 .query (some 0) stray).2.2.2 hmissing
  have hasked : askedForTask calm.strict s.order s.supply = .error unread := by decide +kernel
  have hfailed := (hfails.failure unread).mpr hasked
  refine ⟨⟨hexists, hfailed, (hfails.order unread hfailed).trans ?_⟩, hmissing, ?_⟩
  · decide +kernel
  · rw [hlost.2.1, Scene.order_onOrder]

end ServerPower.Proofs
