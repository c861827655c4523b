import ServerPower.Proofs.Breakdowns

/-!
# What a submission accounts for

Where the manager's answers fail only as the network does, a submission fails only at a request that
cannot be made: the address of the hardware is no text, or one that does not go with the address of
the manager. Otherwise, unless its attempt was superseded, it accounts for the attempt in exactly
one way: the hardware was found in the target state, or the attempt was given up with a failure, or
the manager accepted the change with a task.
-/

namespace ServerPower.Proofs
open Run

/-- The query that a submission begins with, and the scene that it leaves. -/
def looking (setup : Setup) (hook : Hook) (attempt? : Option Int) (s : Scene) :
    Except Failure PowerState × Scene :=
  let attempt := attempt?.getD s.order.attempt
  (observe setup hook (.submission s.submissions attempt) (some attempt)).run
    { s with submissions := s.submissions + 1 }

/-- The request for a change cannot be made for the hardware that an order holds. -/
inductive Unaskable (target : PowerState) (order : PowerOrder) (failure : Failure) : Prop
  | address (unfit : order.hardware.hardware.powerUri = .error failure)
  | request {uri : String} (address : order.hardware.hardware.powerUri = .ok uri)
      (refused : order.hardware.client.request "PUT" (.text uri) (changeBody target) =
        .error failure)

/-- A submission comes to a request that cannot be made: its query, or in `u` the request for the
change. -/
inductive Obstructed (setup : Setup) (hook : Hook) (target : PowerState) (attempt? : Option Int)
    (s : Scene) : Scene → Failure → Prop
  | query {failure : Failure} (given : s.order.hardware.hardware.uri.isGiven)
      (refused : s.order.hardware.client.request "GET" s.order.hardware.hardware.uri .null =
        .error failure) : Obstructed setup hook target attempt? s s failure
  | change {u : Scene} {state : PowerState} {failure : Failure}
      (looked : looking setup hook attempt? s = (.ok state, u)) (changes : state ≠ target)
      (unaskable : Unaskable target u.order failure) :
      Obstructed setup hook target attempt? s u failure

/-- The words with which a submission gives its attempt up. -/
def surrenders : List String :=
  ["Error getting current power state: ", "Error with power state request: ",
    "Error decoding power state response: "]

def foundRecord (target : PowerState) : Record :=
  ⟨.info, .ok ("Desired power state already set -> " ++ target.wire)⟩

/-- The last step of a submission for attempt `a`, made in `u`, and what it leaves. -/
inductive LastStep (strict : Bool) (target : PowerState) (a : Int) (origin : Origin) (u : Scene) :
    Scene → Prop
  | found (observed : u.order.attempt = a → u.order.observed = target) :
      LastStep strict target a origin u
        ((u.note (.logged (foundRecord target))).onOrder (·.markDone none (some a)))
  | gaveUp (message : String) (cause : Failure) (words : message ∈ surrenders)
      (library : cause.isA .general) :
      LastStep strict target a origin u (gaveUp a message cause u)
  | accepted {rest : List Entry} {request : Request} {uri : Json} {body : String}
      {task : RemoteTask}
      (journal : u.journal = ⟨.answered origin request (.ok body), u.order, u.phase⟩ :: rest)
      (method : request.method = "PUT")
      (decoded : (Client.readTask strict uri body {}).outcome = .ok task) :
      LastStep strict target a origin u (u.onOrder (·.noteTask a task))

inductive Account where
  | found
  | gaveUp
  | accepted
  deriving DecidableEq, Repr

/-- How a submission accounts for its attempt in the scene that it leaves: what it noted last, and
what it changed of the order after that. -/
inductive Accounted (strict : Bool) (target : PowerState) (origin : Origin) (t : Scene) :
    Account → Prop
  | found {e : Entry} {rest : List Entry} (journal : t.journal = e :: rest)
      (told : e.event = .logged (foundRecord target)) (observed : t.order.observed = target)
      (order : t.order = { e.order with done := true }) : Accounted strict target origin t .found
  | gaveUp {e : Entry} {rest : List Entry} {message : String} {cause : Failure}
      (journal : t.journal = e :: rest) (words : message ∈ surrenders)
      (told : e.event = .logged ⟨.error, .ok (message ++ cause.text)⟩)
      (library : cause.isA .general)
      (order : t.order = { e.order with
        done := true, failure? := e.order.failure? <|> some cause }) :
      Accounted strict target origin t .gaveUp
  | accepted {e : Entry} {rest : List Entry} {request : Request} {uri : Json} {body : String}
      {task : RemoteTask} (journal : t.journal = e :: rest)
      (told : e.event = .answered origin request (.ok body)) (method : request.method = "PUT")
      (decoded : (Client.readTask strict uri body {}).outcome = .ok task)
      (order : t.order = { e.order with task }) : Accounted strict target origin t .accepted

section Requests

variable {setup : Setup} {hook : Hook} {depth : Nat} {target : PowerState} {a : Int}
  {origin : Origin} {failure : Failure} {s t : Scene}

lemma Unfit.not_manager (h : Unfit failure) : failure.isA .manager = false := by
  unfold Failure.isA
  rcases h with h | h
  · rw [h]
    rfl
  · rw [h]
    rfl

lemma Unaskable.unfit {order : PowerOrder} (h : Unaskable target order failure) :
    Unfit failure := by
  cases h with
  | address unfit => exact powerUri_error unfit
  | request _ refused => exact request_error refused

lemma manager_of_transport (h : failure.kind = .transport) : failure.isA .manager := by
  unfold Failure.isA
  rw [h]
  rfl

lemma decoding_of_kind (h : failure.kind = .decoding) : failure.isA .decoding := by
  unfold Failure.isA
  rw [h]
  rfl

lemma records_readTask {strict : Bool} {uri : Json} {body : String} {task latest : RemoteTask}
    (h : (Client.readTask strict uri body task).outcome = .ok latest) :
    (Client.readTask strict uri body task).records = [] := by
  unfold Client.readTask Client.decode at h ⊢
  cases hp : (Payload.value (.text body)).read with
  | error failure =>
    simp only [hp, Client.unreadable] at h
    rw [Report.bind_of_error (raise_outcome _ _ _)] at h
    cases h
  | ok v =>
    simp only [hp] at h ⊢
    rw [Report.bind_of_ok rfl] at h ⊢
    cases hu : task.update v with
    | error failure =>
      simp only [hu, Client.unreadable, raise_outcome] at h
      cases h
    | ok known => rfl

/-- Among nobody a call leaves the order alone. -/
lemma order_of_idle_call (h : Idle s.supply) (setup : Setup) (depth : Nat) (origin : Origin)
    (client : Client) (method : String) (uri body : Json) :
    let t := ((call setup (hookAt setup depth) origin client method uri body).run s).2
    t.order = s.order ∧ Idle t.supply := by
  dsimp only
  rw [run_call (total_hookAt setup depth)]
  cases client.request method uri body with
  | error failure => exact ⟨rfl, h⟩
  | ok request =>
    have hsent : Idle (s.note (.sent origin request)).supply := h
    dsimp only
    rw [inFlight_of_idle hsent]
    simp only [Scene.order_note, logged_order, Scene.supply_note, logged_supply]
    exact ⟨trivial, h.next request⟩

/-- Among nobody a query marks nothing. -/
lemma unmarked_of_idle_observe (h : Idle s.supply) (setup : Setup) (depth : Nat) (origin : Origin)
    (attempt? : Option Int) :
    let t := ((observe setup (hookAt setup depth) origin attempt?).run s).2
    Unmarked s.order t.order ∧ Idle t.supply := by
  dsimp only
  rw [run_observe]
  dsimp only
  split
  · have hcall := order_of_idle_call h setup depth origin s.order.hardware.client "GET"
      s.order.hardware.hardware.uri .null
    split
    · rename_i hc
      rw [hc] at hcall
      exact ⟨.of_eq hcall.1, hcall.2⟩
    · rename_i body t hc
      rw [hc] at hcall
      split
      · simp only [logged_order, logged_supply]
        exact ⟨.of_eq hcall.1, hcall.2⟩
      · simp only [Scene.order_onOrder, logged_order, Scene.supply_onOrder, logged_supply]
        refine ⟨?_, hcall.2⟩
        rw [hcall.1]
        exact .noteHardware _ _ _ _
  · simp only [logged_order, logged_supply]
    exact ⟨⟨rfl, rfl, rfl, rfl⟩, h⟩

/-- A query that found a state for the current attempt has it observed. -/
lemma observed_of_observe {state : PowerState}
    (h : (observe setup hook origin (some a)).run s = (.ok state, t)) (ha : t.order.attempt = a) :
    t.order.observed = state := by
  rw [run_observe] at h
  dsimp only at h
  split at h
  · split at h
    · cases h
    · split at h
      · cases h
      · cases h
        simp only [Scene.order_onOrder, logged_order, PowerOrder.attempt_noteHardware] at ha ⊢
        rw [PowerOrder.noteHardware_of_current ha]
  · cases h

/-- A request for a change cannot be made, or ends in its last step. -/
lemma requestChange_ends (hn : OnlyNetwork s.supply) (setup : Setup) (depth : Nat)
    (origin : Origin) (target : PowerState) (a : Int) :
    let r := (requestChange setup (hookAt setup depth) origin target a).run s
    (∃ failure, Unaskable target s.order failure) ∨
    ∃ u t, LastStep setup.strict target a origin u t ∧ (Idle s.supply → u.order = s.order) ∧
      r = (.ok (), t) := by
  have hh := total_hookAt setup depth
  dsimp only
  rw [run_requestChange]
  dsimp only
  generalize hbegun : s.note (.logged (announcement target s.order.hardware.hardware)) = begun
  have horder : begun.order = s.order := by rw [← hbegun, Scene.order_note]
  have hsupply : begun.supply = s.supply := by rw [← hbegun, Scene.supply_note]
  cases hu : s.order.hardware.hardware.powerUri with
  | error failure => exact Or.inl ⟨failure, .address hu⟩
  | ok uri =>
    dsimp only
    rcases hc : (call setup (hookAt setup depth) origin s.order.hardware.client "PUT" (.text uri)
      (changeBody target)).run begun with ⟨outcome, left⟩
    have hidle : Idle s.supply → left.order = s.order := by
      intro h
      have hleft := (order_of_idle_call (hsupply ▸ h) setup depth origin s.order.hardware.client
        "PUT" (.text uri) (changeBody target)).1
      rwa [hc, horder] at hleft
    cases outcome with
    | error failure =>
      dsimp only
      rcases transport_of_call_error hh (hsupply ▸ hn) hc with hq | hkind
      · exact Or.inl ⟨failure, .request hu hq⟩
      · refine Or.inr ⟨left, _, .gaveUp "Error with power state request: " failure (by decide)
          (general_of_kind hkind rfl), hidle, ?_⟩
        rw [if_pos (manager_of_transport hkind)]
    | ok body =>
      obtain ⟨request, rest, hq, hjournal⟩ := journal_of_call_eq_ok hh hc
      right
      dsimp only
      cases hread : (Client.readTask setup.strict (.text uri) body {}).outcome with
      | error failure =>
        have hkind : failure.kind = .decoding := readTask_error hread
        let read := logged (Client.readTask setup.strict (.text uri) body {}).records left
        refine ⟨read, _, .gaveUp "Error decoding power state response: " failure (by decide)
          (general_of_kind hkind rfl), ?_, ?_⟩
        · rw [logged_order]
          exact hidle
        · dsimp only
          rw [if_pos (decoding_of_kind hkind)]
      | ok task =>
        have hmethod : request.method = "PUT" := (Client.of_request_eq_ok hq).1
        refine ⟨left, _, .accepted hjournal hmethod hread, hidle, ?_⟩
        rw [records_readTask hread]
        rfl

/-- An obstructed submission fails, and leaves the order as it was where the request was to be
made. -/
lemma submit_of_obstructed (hh : Total hook) {attempt? : Option Int}
    (h : Obstructed setup hook target attempt? s t failure) :
    let r := (submit setup hook target attempt?).run s
    r.1 = .error failure ∧ r.2.order = t.order := by
  dsimp only
  rw [run_submit]
  dsimp only
  cases h with
  | query given refused =>
    let counted := { s with submissions := s.submissions + 1 }
    rw [observe_of_refused hh (s := counted) given refused]
    simp only [(request_error refused).not_general, Bool.false_eq_true, if_false]
    exact ⟨trivial, rfl⟩
  | @change _ state _ looked changes unaskable =>
    rw [show (observe setup hook _ _).run { s with submissions := s.submissions + 1 } =
      (.ok state, t) from looked]
    dsimp only
    rw [if_neg changes, run_requestChange]
    dsimp only
    cases unaskable with
    | address unfit =>
      rw [unfit]
      exact ⟨rfl, rfl⟩
    | @request uri address refused =>
      rw [address]
      dsimp only
      rw [run_call hh, refused]
      simp only [(request_error refused).not_manager, Bool.false_eq_true, if_false]
      exact ⟨trivial, rfl⟩

/-- A submission is obstructed, or ends in its last step. -/
lemma submit_ends (hn : OnlyNetwork s.supply) (setup : Setup) (depth : Nat) (target : PowerState)
    (attempt? : Option Int) :
    let a := attempt?.getD s.order.attempt
    (∃ u failure, Obstructed setup (hookAt setup depth) target attempt? s u failure) ∨
    ∃ u t, LastStep setup.strict target a (.submission s.submissions a) u t ∧
      (Idle s.supply → Unmarked s.order u.order) ∧
      (submit setup (hookAt setup depth) target attempt?).run s = (.ok (), t) := by
  have hh := total_hookAt setup depth
  let a := attempt?.getD s.order.attempt
  let counted := { s with submissions := s.submissions + 1 }
  have hidle : Idle s.supply → Unmarked s.order
        (looking setup (hookAt setup depth) attempt? s).2.order ∧
      Idle (looking setup (hookAt setup depth) attempt? s).2.supply :=
    fun h => unmarked_of_idle_observe (s := counted) h setup depth _ (some a)
  have hnetwork : OnlyNetwork (looking setup (hookAt setup depth) attempt? s).2.supply :=
    (networked_serves.keeps_observe (networked_stage setup depth).hosts
      (show Within _ (.submission s.submissions a) from trivial) (some a) counted hn).1
  dsimp only
  rw [run_submit]
  dsimp only
  rcases hlook : looking setup (hookAt setup depth) attempt? s with ⟨failure | state, u⟩
  · rw [hlook] at hidle
    have hobserve : (observe setup (hookAt setup depth) (.submission s.submissions a)
        (some a)).run counted = (.error failure, u) := hlook
    rcases observe_error hh (s := counted) hn hobserve with ⟨hgiven, hrefused⟩ | hgeneral
    · exact Or.inl ⟨s, failure, .query hgiven hrefused⟩
    · rw [hobserve]
      dsimp only
      refine Or.inr ⟨u, _, .gaveUp "Error getting current power state: " failure (by decide)
        hgeneral, fun h => (hidle h).1, ?_⟩
      rw [if_pos hgeneral]
  · rw [hlook] at hidle hnetwork
    have hobserve : (observe setup (hookAt setup depth) (.submission s.submissions a)
        (some a)).run counted = (.ok state, u) := hlook
    rw [hobserve]
    dsimp only
    by_cases hstate : state = target
    · subst hstate
      rw [if_pos rfl]
      exact Or.inr ⟨u, _, .found (observed_of_observe hobserve), fun h => (hidle h).1, rfl⟩
    · rw [if_neg hstate]
      rcases requestChange_ends hnetwork setup depth (.submission s.submissions a) target a with
        ⟨failure, hunaskable⟩ | ⟨v, t, hlast, hsame, hr⟩
      · exact Or.inl ⟨u, failure, .change hlook hstate hunaskable⟩
      · rw [hr]
        refine Or.inr ⟨v, t, hlast, fun h => ?_, rfl⟩
        rw [hsame (hidle h).2]
        exact (hidle h).1

lemma Obstructed.unfit {attempt? : Option Int}
    (h : Obstructed setup hook target attempt? s t failure) : Unfit failure := by
  cases h with
  | query _ refused => exact request_error refused
  | change _ _ unaskable => exact unaskable.unfit

/-- The last entry of a submission tells how the order stood when its last step was made. -/
lemma LastStep.last_order {strict : Bool} {u : Scene} {e : Entry} {rest : List Entry}
    (h : LastStep strict target a origin u t) (hj : t.journal = e :: rest) :
    e.order = u.order := by
  cases h with
  | found _ =>
    cases hj
    rfl
  | gaveUp _ _ _ _ =>
    cases hj
    rfl
  | accepted journal _ _ =>
    rw [Scene.journal_onOrder, journal] at hj
    cases hj
    rfl

/-- The last step of a submission accounts for its attempt if that was not superseded. -/
lemma LastStep.accounted {strict : Bool} {u : Scene} (h : LastStep strict target a origin u t)
    (ha : t.order.attempt = a) : ∃ account, Accounted strict target origin t account := by
  cases h with
  | found observed =>
    have hcurrent : u.order.attempt = a := by simpa using ha
    have hfailure : (u.order.failure? <|> none) = u.order.failure? := by
      cases u.order.failure? <;> rfl
    have horder : u.order.markDone none (some a) = { u.order with done := true } := by
      rw [PowerOrder.markDone_of_current hcurrent, hfailure]
    refine ⟨.found, .found rfl rfl ?_ horder⟩
    show (u.order.markDone none (some a)).observed = target
    rw [horder]
    exact observed hcurrent
  | gaveUp message cause words library =>
    have hcurrent : u.order.attempt = a := by simpa [Proofs.gaveUp] using ha
    exact ⟨.gaveUp, .gaveUp rfl words rfl library (PowerOrder.markDone_of_current hcurrent _)⟩
  | accepted journal method decoded =>
    have hcurrent : u.order.attempt = a := by simpa using ha
    exact ⟨.accepted, .accepted journal rfl method decoded
      (PowerOrder.noteTask_of_current hcurrent _)⟩

/-- No scene is accounted for in two ways, since the last entry tells which it was. -/
lemma Accounted.unique {strict : Bool} {account other : Account}
    (h : Accounted strict target origin t account)
    (h' : Accounted strict target origin t other) : other = account := by
  cases h with
  | found journal told =>
    cases h' with
    | found _ _ => rfl
    | gaveUp journal' _ told' =>
      cases journal.symm.trans journal'
      cases told.symm.trans told'
    | accepted journal' told' =>
      cases journal.symm.trans journal'
      cases told.symm.trans told'
  | gaveUp journal _ told =>
    cases h' with
    | found journal' told' =>
      cases journal.symm.trans journal'
      cases told.symm.trans told'
    | gaveUp _ _ _ => rfl
    | accepted journal' told' =>
      cases journal.symm.trans journal'
      cases told.symm.trans told'
  | accepted journal told =>
    cases h' with
    | found journal' told' =>
      cases journal.symm.trans journal'
      cases told.symm.trans told'
    | gaveUp journal' _ told' =>
      cases journal.symm.trans journal'
      cases told.symm.trans told'
    | accepted _ _ => rfl

end Requests

/-- Where the manager's answers fail only as the network does, a submission for the current attempt
fails just if it comes to a request that cannot be made, with a failure that is none of this
library; the order stays as it was there. Otherwise, unless the attempt was superseded, exactly one
of three holds: the hardware was found in the target state and the attempt is done with no new
failure, or the attempt is done with a failure, or the manager accepted the change with the task
that is recorded now, and the attempt is done only if it was before. What others do meanwhile does
not matter; if they do nothing, the attempt stood at the last entry as it did at the beginning. -/
theorem submission_accounts {setup : Setup} {depth : Nat} {target : PowerState}
    {attempt? : Option Int} {s t : Scene} {result : Except Failure Unit}
    (hnetwork : OnlyNetwork s.supply) (hcurrent : s.order.isCurrent attempt?)
    (hr : (submit setup (hookAt setup depth) target attempt?).run s = (result, t)) :
    let obstructed := Obstructed setup (hookAt setup depth) target attempt? s
    let origin := Origin.submission s.submissions s.order.attempt
    (∀ failure, result = .error failure ↔ ∃ u, obstructed u failure) ∧
    (∀ u failure, obstructed u failure → Unfit failure ∧ t.order = u.order) ∧
    (result = .ok () → t.order.attempt = s.order.attempt →
      ∃! account, Accounted setup.strict target origin t account) ∧
    (result = .ok () → Idle s.supply → ∀ e rest, t.journal = e :: rest →
      Unmarked s.order e.order) := by
  have hh := total_hookAt setup depth
  have hattempt : attempt?.getD s.order.attempt = s.order.attempt := by
    cases attempt? with
    | none => rfl
    | some k => simpa [PowerOrder.isCurrent] using hcurrent
  have hfails : ∀ u failure, Obstructed setup (hookAt setup depth) target attempt? s u failure →
      result = .error failure ∧ t.order = u.order := by
    intro u failure hobstructed
    have h := submit_of_obstructed hh hobstructed
    rwa [hr] at h
  have hends := submit_ends hnetwork setup depth target attempt?
  rw [hr, hattempt] at hends
  have hobstructs : ∀ failure, (∃ u, Obstructed setup (hookAt setup depth) target attempt? s u
      failure) → result = .error failure := by
    rintro failure ⟨u, hu⟩
    exact (hfails u failure hu).1
  refine ⟨fun failure => ⟨fun hfailed => ?_, hobstructs failure⟩,
    fun u failure hu => ⟨hu.unfit, (hfails u failure hu).2⟩, fun hok ha => ?_,
    fun hok hidle e rest hj => ?_⟩
  · rcases hends with ⟨u, other, hu⟩ | ⟨u, v, -, -, hok⟩
    · cases hfailed.symm.trans (hfails u other hu).1
      exact ⟨u, hu⟩
    · cases hfailed.symm.trans (Prod.mk.inj hok).1
  · rcases hends with ⟨u, other, hu⟩ | ⟨u, v, hlast, -, hrun⟩
    · cases hok.symm.trans (hfails u other hu).1
    · cases hrun
      obtain ⟨account, haccount⟩ := hlast.accounted ha
      exact ⟨account, haccount, fun other hother => haccount.unique hother⟩
  · rcases hends with ⟨u, other, hu⟩ | ⟨u, v, hlast, hunmarked, hrun⟩
    · cases hok.symm.trans (hfails u other hu).1
    · cases hrun
      rw [hlast.last_order hj]
      exact hunmarked hidle

/-- The blade is switched on, and the manager gives this text as its description. -/
def describedBlade (description : String) : Scene :=
  bladeScene [{ content := .reply 200 "OK" description },
    { content := .reply 202 "Accepted" "\x7b\"uri\": \"/rest/tasks/1\"\x7d" }]

def switchedOn : Scene :=
  describedBlade "\x7b\"uri\": \"/b\", \"powerState\": \"On\"\x7d"

lemma submitted_switchedOn :
    let r := (submit calm (hookAt calm 0) .off none).run switchedOn
    r.1 = .ok () ∧ r.2.order.attempt = switchedOn.order.attempt := by
  decide +kernel

theorem submission_accounts_switchedOn :
    let r := (submit calm (hookAt calm 0) .off none).run switchedOn
    r.1 = .ok () ∧ ∃! account, Accounted calm.strict .off
      (.submission switchedOn.submissions switchedOn.order.attempt) r.2 account := by
  obtain ⟨hok, hattempt⟩ := submitted_switchedOn
  have hnetwork : OnlyNetwork switchedOn.supply := by
    intro answer ha spec hs
    rcases List.mem_cons.mp ha with rfl | ha
    · cases hs
    · rcases List.mem_cons.mp ha with rfl | ha
      · cases hs
      · cases ha
  exact ⟨hok, (submission_accounts hnetwork rfl (Prod.eta _).symm).2.2.1 hok hattempt⟩

/-- The manager describes the blade with a number as its address. The submission for the current
attempt fails, and the attempt is neither done nor failed. -/
theorem submission_escapes :
    let s := describedBlade "\x7b\"uri\": 5, \"powerState\": \"On\"\x7d"
    let r := (submit calm (hookAt calm 0) .off none).run s
    r.1 = .error ⟨.wrongType, "unsupported operand type(s) for +: 'int' and 'str'"⟩ ∧
      r.2.order.attempt = s.order.attempt ∧ r.2.order.done = false ∧
      r.2.order.failure? = none ∧ r.2.order.task = {} := by
  decide +kernel

end ServerPower.Proofs
