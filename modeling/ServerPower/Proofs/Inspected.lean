import ServerPower.Proofs.Superseded
import ServerPower.Proofs.Unattended

/-!
# Inspected hardware

A submission looks at the hardware in one flight and asks for the change in another. Where the
request for the change goes is decided in between: to the hardware that the order holds then. That
is the hardware just described by the manager if the attempt was still the current one, and else the
one that the others left.
-/

namespace ServerPower.Proofs
open Run

/-- A request in flight: the scene in which it was sent, and the one that the others left. -/
structure Flight where
  sent : Scene
  request : Request
  left : Scene

namespace CallTree

variable {α β : Type}

/-- The requests that a call sends, the first one first. -/
def flights (hook : Hook) : CallTree α → List Flight
  | ended _ _ => []
  | flight u origin request next =>
    ⟨u, request, flown hook origin request u⟩ :: (next (flown hook origin request u)).flights hook

lemma flights_andThen (hook : Hook) (next : Except Failure α → Scene → CallTree β)
    (tree : CallTree α) : (tree.andThen next).flights hook =
      tree.flights hook ++ (next (tree.play hook).1 (tree.play hook).2).flights hook := by
  induction tree with
  | ended outcome t => rfl
  | flight u origin request more ih => exact congrArg (_ :: ·) (ih _)

end CallTree

/-- A query for attempt `k` that was sent for the hardware held then, the hardware that it found,
and the hardware that the order holds afterwards. -/
structure Inspection (k : Int) (origin : Origin) (s : Scene) (look : Flight) (latest : Hardware)
    (t : Scene) : Prop where
  sent : look.sent = s
  request : s.order.hardware.client.request "GET" s.order.hardware.hardware.uri .null =
    .ok look.request
  answered : ∃ body, Describes body latest ∧
    ∃ e ∈ t.journal, e.event = .answered origin look.request (.ok body)
  held : t.order.hardware =
    if look.left.order.attempt = k then ⟨latest, s.order.hardware.client⟩
    else look.left.order.hardware

/-- What a query for hardware makes of the answer to its call. -/
def readState (strict : Bool) (attempt? : Option Int) (held : ManagedHardware) :
    Except Failure String → Scene → Except Failure PowerState × Scene
  | .error failure, t => (.error failure, t)
  | .ok body, t =>
    let found := Client.readHardware strict held.hardware.uri body
    match found.outcome with
    | .error failure => (.error failure, logged found.records t)
    | .ok latest =>
      (.ok (classified latest), (logged latest.classify.records (logged found.records t)).onOrder
        (·.noteHardware attempt? ⟨latest, held.client⟩ (classified latest)))

/-- A query that finds a state was told of hardware in that state, and notes it. -/
lemma readState_ok {strict : Bool} {attempt? : Option Int} {held : ManagedHardware}
    {outcome : Except Failure String} {state : PowerState} {u t : Scene}
    (h : readState strict attempt? held outcome u = (.ok state, t)) :
    ∃ body latest, outcome = .ok body ∧ Describes body latest ∧ classified latest = state ∧
      t.order = u.order.noteHardware attempt? ⟨latest, held.client⟩ state ∧
      ∀ e ∈ u.journal, e ∈ t.journal := by
  cases outcome with
  | error failure => cases h
  | ok body =>
    simp only [readState] at h
    cases hf : (Client.readHardware strict held.hardware.uri body).outcome with
    | error failure =>
      rw [hf] at h
      cases h
    | ok latest =>
      rw [hf] at h
      cases h
      refine ⟨body, latest, rfl, describes_of_readHardware hf, rfl, ?_, fun e he => ?_⟩
      · rw [Scene.order_onOrder, logged_order, logged_order]
      · exact mem_journal_logged _ (mem_journal_logged _ he)

lemma hardware_noteHardware (order : PowerOrder) (k : Int) (hardware : ManagedHardware)
    (state : PowerState) : (order.noteHardware (some k) hardware state).hardware =
      if order.attempt = k then hardware else order.hardware := by
  by_cases hk : order.attempt = k
  · rw [if_pos hk, PowerOrder.noteHardware_of_current hk]
  · rw [if_neg hk, PowerOrder.noteHardware_of_not_current (PowerOrder.isCurrent_eq_false hk)]

lemma Inspection.later {k : Int} {origin : Origin} {s t u : Scene} {look : Flight}
    {latest : Hardware} (h : Inspection k origin s look latest t) (ho : u.order = t.order)
    (hj : t.journal ⊆ u.journal) : Inspection k origin s look latest u := by
  obtain ⟨body, hbody, e, he, htold⟩ := h.answered
  exact ⟨h.sent, h.request, ⟨body, hbody, e, hj he, htold⟩, by rw [ho]; exact h.held⟩

/-- What a submission makes of its query, up to its request for a change. -/
def submitAfter (target : PowerState) (k : Int) (change : Scene → CallTree Unit) :
    Except Failure PowerState → Scene → CallTree Unit
  | .error failure, t =>
    if failure.isA .general then
      .ended (.ok ()) (gaveUp k "Error getting current power state: " failure t)
    else .ended (.error failure) t
  | .ok state, t =>
    if state = target then
      .ended (.ok ()) ((t.note (.logged ⟨.info, .ok ("Desired power state already set -> " ++
        state.wire)⟩)).onOrder (·.markDone none (some k)))
    else change t

section Trees

variable (setup : Setup) (origin : Origin) (target : PowerState) (k : Int) (s : Scene)

/-- A call sends one request, unless that cannot be made. -/
lemma call_tree (client : Client) (method : String) (uri body : Json) :
    ∃ tree : CallTree String,
      (∀ hook, Total hook →
        (call setup hook origin client method uri body).run s = tree.play hook) ∧
      ∀ hook, (tree.flights hook = [] ∧ ∃ failure, tree.play hook = (.error failure, s)) ∨
        ∃ request, client.request method uri body = .ok request ∧
          tree.flights hook = [⟨s, request, flown hook origin request s⟩] ∧
          (tree.play hook).2.order = (flown hook origin request s).order ∧
          ∃ e ∈ (tree.play hook).2.journal,
            e.event = .answered origin request (tree.play hook).1 := by
  cases hr : client.request method uri body with
  | error failure =>
    refine ⟨.ended (.error failure) s, fun hook hh => ?_, fun hook => .inl ⟨rfl, failure, rfl⟩⟩
    rw [run_call hh, hr]
    rfl
  | ok request =>
    let report := readAnswer setup.strict method uri request (s.supply.next request).1
    refine ⟨.flight s origin request fun v => .ended report.outcome
      ((logged report.records v).note (.answered origin request report.outcome)),
      fun hook hh => ?_, fun hook => .inr ⟨request, rfl, rfl, logged_order _ _, ?_⟩⟩
    · rw [run_call hh, hr]
      rfl
    · exact ⟨_, List.mem_cons_self .., rfl⟩

lemma observe_tree :
    ∃ tree : CallTree PowerState,
      (∀ hook, Total hook → (observe setup hook origin (some k)).run s = tree.play hook) ∧
      ∀ hook, (∀ flight ∈ tree.flights hook, flight.request.method = "GET") ∧
        ∀ state t, tree.play hook = (.ok state, t) → ∃ look latest, tree.flights hook = [look] ∧
          classified latest = state ∧ Inspection k origin s look latest t := by
  by_cases hu : s.order.hardware.hardware.uri.isGiven
  · obtain ⟨tree, hplay, hflights⟩ := call_tree setup origin s s.order.hardware.client "GET"
      s.order.hardware.hardware.uri .null
    let read := readState setup.strict (some k) s.order.hardware
    refine ⟨tree.andThen fun outcome t => .ended (read outcome t).1 (read outcome t).2,
      fun hook hh => ?_, fun hook => ?_⟩
    · rw [CallTree.play_andThen, run_observe]
      simp only [hu, if_true]
      rw [hplay hook hh]
      rcases tree.play hook with ⟨failure | body, t⟩ <;> rfl
    · rw [CallTree.play_andThen, CallTree.flights_andThen]
      simp only [CallTree.flights, CallTree.play, List.append_nil]
      rcases hflights hook with ⟨hnone, failure, hp⟩ | ⟨request, hr, hone, horder, e, he, htold⟩
      · rw [hnone, hp]
        exact ⟨fun _ hm => (by cases hm), fun state t ht => (by cases ht)⟩
      · rw [hone]
        have hmethod : request.method = "GET" := (Client.of_request_eq_ok hr).1
        refine ⟨fun flight hm => ?_, fun state t ht => ?_⟩
        · rw [List.mem_singleton.mp hm]
          exact hmethod
        · obtain ⟨body, latest, hbody, hdescribes, hstate, ht, hjournal⟩ := readState_ok ht
          rw [hbody] at htold
          refine ⟨_, latest, rfl, hstate, rfl, hr, ⟨body, hdescribes, e, hjournal e he, htold⟩, ?_⟩
          rw [ht, hardware_noteHardware, horder]
  · let refusal : Report Unit := Failure.raise setup.strict .missingHardware
      [("name", s.order.hardware.hardware.name)]
    refine ⟨.ended (.error (raised setup.strict .missingHardware
        [("name", s.order.hardware.hardware.name)]))
      (logged refusal.records (s.onOrder ({ · with observed := .unknown }))), fun hook hh => ?_,
      fun hook => ⟨fun _ hm => (by cases hm), fun state t ht => (by cases ht)⟩⟩
    rw [run_observe]
    simp only [hu, if_false, Bool.false_eq_true]
    rfl

/-- A request for a change goes to the power address of the hardware that the order holds. -/
lemma requestChange_tree :
    ∃ tree : CallTree Unit,
      (∀ hook, Total hook →
        (requestChange setup hook origin target k).run s = tree.play hook) ∧
      ∀ hook, tree.flights hook = [] ∨ ∃ put uri, tree.flights hook = [put] ∧
        put.sent.order = s.order ∧ s.journal ⊆ put.sent.journal ∧
        s.order.hardware.hardware.powerUri = .ok uri ∧
        s.order.hardware.client.request "PUT" (.text uri) (changeBody target) =
          .ok put.request := by
  let begun := s.note (.logged (announcement target s.order.hardware.hardware))
  cases hu : s.order.hardware.hardware.powerUri with
  | error failure =>
    refine ⟨.ended (.error failure) begun, fun hook hh => ?_, fun hook => .inl rfl⟩
    rw [run_requestChange]
    simp only [hu]
    rfl
  | ok uri =>
    obtain ⟨tree, hplay, hflights⟩ := call_tree setup origin begun s.order.hardware.client "PUT"
      (.text uri) (changeBody target)
    let read := readChange setup.strict uri k
    refine ⟨tree.andThen fun outcome t => .ended (read outcome t).1 (read outcome t).2,
      fun hook hh => ?_, fun hook => ?_⟩
    · rw [CallTree.play_andThen, run_requestChange]
      simp only [hu]
      rw [hplay hook hh]
      rcases tree.play hook with ⟨failure | body, t⟩ <;> rfl
    · rw [CallTree.flights_andThen]
      simp only [CallTree.flights, List.append_nil]
      rcases hflights hook with ⟨hnone, -⟩ | ⟨request, hr, hone, -⟩
      · exact .inl hnone
      · exact .inr ⟨_, uri, hone, rfl, List.subset_cons_self _ _, rfl, hr⟩

end Trees

/-- A submission sends at most its query and then its request for the change. Where it asks for the
change, the query had found other hardware than wanted: the request goes to that very hardware if
the attempt was still the current one when the answer came, and else to whatever hardware the order
held by then. -/
theorem change_goes_to_held_hardware (setup : Setup) (target : PowerState) (s : Scene)
    (attempt? : Option Int) :
    let k := attempt?.getD s.order.attempt
    ∃ tree : CallTree Unit,
      (∀ hook, Total hook → (submit setup hook target attempt?).run s = tree.play hook) ∧
      ∀ hook, ∀ put ∈ tree.flights hook, put.request.method = "PUT" →
        ∃ look latest uri, tree.flights hook = [look, put] ∧
          Inspection k (.submission s.submissions k) { s with submissions := s.submissions + 1 }
            look latest put.sent ∧
          classified latest ≠ target ∧
          put.sent.order.hardware.hardware.powerUri = .ok uri ∧
          put.sent.order.hardware.client.request "PUT" (.text uri) (changeBody target) =
            .ok put.request := by
  let k := attempt?.getD s.order.attempt
  let origin := Origin.submission s.submissions k
  obtain ⟨query, hquery, hlooks⟩ :=
    observe_tree setup origin k { s with submissions := s.submissions + 1 }
  choose change hchange hputs using requestChange_tree setup origin target k
  refine ⟨query.andThen (submitAfter target k change), fun hook hh => ?_,
    fun hook put hm hput => ?_⟩
  · rw [CallTree.play_andThen, run_submit]
    dsimp only
    rw [hquery hook hh]
    rcases query.play hook with ⟨failure | state, t⟩
    · simp only [submitAfter]
      split <;> rfl
    · simp only [submitAfter]
      split
      · rfl
      · exact hchange t hook hh
  · obtain ⟨hgets, hfound⟩ := hlooks hook
    rw [CallTree.flights_andThen] at hm ⊢
    rcases List.mem_append.mp hm with hm | hm
    · rw [hgets put hm] at hput
      exact absurd hput (by decide)
    · rcases hq : query.play hook with ⟨failure | state, t⟩
      · rw [hq] at hm
        simp only [submitAfter] at hm
        split at hm <;> cases hm
      · obtain ⟨look, latest, hlook, rfl, hinspection⟩ := hfound state t hq
        rw [hq] at hm
        by_cases hstate : classified latest = target
        · simp only [submitAfter, hstate, if_true] at hm
          cases hm
        · simp only [submitAfter, hstate, if_false] at hm ⊢
          rcases hputs t hook with hnone | ⟨put', uri, hone, horder, hjournal, haddress, hmade⟩
          · rw [hnone] at hm
            cases hm
          · rw [hone, List.mem_singleton] at hm
            subst hm
            have hflights : query.flights hook ++ (change t).flights hook = [look, put] := by
              rw [hlook, hone]
              rfl
            exact ⟨look, latest, uri, hflights, hinspection.later horder hjournal, hstate,
              by rwa [horder], by rwa [horder]⟩

/-- Another blade that the same manager looks after. -/
def otherBlade : ManagedHardware :=
  { blade.hardware with hardware := { blade.hardware.hardware with uri := .text "/blade/2" } }

/-- While the first blade is looked at, and found switched on, another attempt begins and the order
is turned over to the other blade. -/
def turnedOver : Scene :=
  bladeScene
    [{ during := [.reset, .setHardware otherBlade],
       content := .reply 200 "OK" "\x7b\"uri\": \"/blade/1\", \"powerState\": \"On\"\x7d" },
      { content := .reply 202 "Accepted" "\x7b\"uri\": \"/t\"\x7d" }]

/-- The submission switches the other blade off, which it never looked at. -/
theorem change_of_other_hardware :
    (sentRequests ((submit calm (hookAt calm 1) .off none).run turnedOver).2).map
      (fun request => (request.method, request.url)) =
    [("GET", "https://ov.example/rest/server-hardware/1"),
      ("PUT", "https://ov.example/blade/2/powerState")] := by
  decide +kernel

end ServerPower.Proofs
