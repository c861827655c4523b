import ServerPower.Proofs.Flights

/-!
# What the steps of a change come to

The queries and the submission of a power change as functions of the scene: what each yields and
the scene it leaves, in terms of the calls that it makes.
-/

namespace ServerPower.Proofs
open Run

/-- The failure that raising one of a kind ends in. -/
def raised (strict : Bool) (kind : FailureKind) (values : Template.Values) : Failure :=
  match (Failure.build strict kind values).outcome with
  | .ok failure | .error failure => failure

lemma raise_outcome {α : Type} (strict : Bool) (kind : FailureKind) (values : Template.Values) :
    (Failure.raise strict kind values : Report α).outcome = .error (raised strict kind values) := by
  unfold Failure.raise raised
  cases h : (Failure.build strict kind values).outcome with
  | ok failure => rw [Report.bind_of_ok h]; rfl
  | error failure => rw [Report.bind_of_error h]

/-- Hardware is always classified: as the target it reports, else as unknown. -/
def classified (hardware : Hardware) : PowerState :=
  (PowerState.lookup? hardware.power).getD .unknown

lemma classify_outcome (hardware : Hardware) :
    hardware.classify.outcome = .ok (classified hardware) :=
  PowerState.outcome_classify _ _

/-- The body of an answer describes hardware. -/
def Describes (body : String) (hardware : Hardware) : Prop :=
  ∃ v, Json.parse body = .ok v ∧ Hardware.ofJson v = .ok hardware

lemma describes_of_readHardware {strict : Bool} {uri : Json} {body : String} {hardware : Hardware}
    (h : (Client.readHardware strict uri body).outcome = .ok hardware) :
    Describes body hardware := by
  unfold Client.readHardware Client.decode Payload.read at h
  cases hp : Json.parse body with
  | error failure =>
    simp only [hp, Except.mapError, Client.unreadable] at h
    rw [Report.bind_of_error (raise_outcome _ _ _)] at h
    cases h
  | ok v =>
    simp only [hp, Except.mapError] at h
    rw [Report.bind_of_ok rfl] at h
    refine ⟨v, hp, ?_⟩
    cases ho : Hardware.ofJson v with
    | error failure =>
      simp only [ho, Client.unreadable, raise_outcome] at h
      cases h
    | ok latest =>
      simp only [ho] at h
      cases h
      rfl

theorem run_observe (setup : Setup) (hook : Hook) (origin : Origin) (attempt? : Option Int)
    (s : Scene) :
    (observe setup hook origin attempt?).run s =
      let hardware := s.order.hardware.hardware
      let client := s.order.hardware.client
      if hardware.uri.isGiven then
        match (call setup hook origin client "GET" hardware.uri .null).run s with
        | (.error failure, t) => (.error failure, t)
        | (.ok body, t) =>
          let found := Client.readHardware setup.strict hardware.uri body
          match found.outcome with
          | .error failure => (.error failure, logged found.records t)
          | .ok latest =>
            let state := classified latest
            (.ok state, (logged latest.classify.records (logged found.records t)).onOrder
              (·.noteHardware attempt? ⟨latest, client⟩ state))
      else
        let refusal : Report Unit :=
          Failure.raise setup.strict .missingHardware [("name", hardware.name)]
        (.error (raised setup.strict .missingHardware [("name", hardware.name)]),
          logged refusal.records (s.onOrder ({ · with observed := .unknown }))) := by
  unfold observe
  by_cases hu : s.order.hardware.hardware.uri.isGiven
  · simp only [run_bind, run_order, hu, if_true, Bool.not_true, Bool.false_eq_true, if_false,
      run_ofReport, run_updateOrder, run_pure, classify_outcome]
    rcases (call setup hook origin _ "GET" _ Json.null).run s with ⟨failure | body, t⟩
    · rfl
    · dsimp only
      cases (Client.readHardware setup.strict s.order.hardware.hardware.uri body).outcome <;> rfl
  · simp only [run_bind, run_order, hu, if_true, Bool.not_false, Bool.false_eq_true, if_false,
      run_ofReport, run_updateOrder, raise_outcome]

theorem run_refresh (setup : Setup) (hook : Hook) (origin : Origin) (attempt? : Option Int)
    (s : Scene) :
    (refresh setup hook origin attempt?).run s =
      let task := s.order.task
      if task.exists? then
        match (call setup hook origin s.order.hardware.client "GET" (.text task.uri)
            .null).run s with
        | (.error failure, t) => (.error failure, t)
        | (.ok body, t) =>
          let read := Client.readTask setup.strict (.text task.uri) body task
          match read.outcome with
          | .error failure => (.error failure, logged read.records t)
          | .ok latest =>
            (.ok (some latest), (logged read.records t).onOrder (·.noteProgress attempt? latest))
      else (.ok none, s) := by
  unfold refresh
  by_cases ht : s.order.task.exists?
  · simp only [run_bind, run_order, ht, if_true, Bool.not_true, Bool.false_eq_true, if_false,
      run_ofReport, run_updateOrder, run_pure]
    rcases (call setup hook origin _ "GET" _ Json.null).run s with ⟨failure | body, t⟩
    · rfl
    · dsimp only
      cases (Client.readTask setup.strict (.text s.order.task.uri) body
        s.order.task).outcome <;> rfl
  · simp only [run_bind, run_order, ht, if_true, Bool.not_false, Bool.false_eq_true, if_false,
      run_pure]

def gaveUp (attempt : Int) (message : String) (failure : Failure) (s : Scene) : Scene :=
  (s.note (.logged ⟨.error, .ok (message ++ failure.text)⟩)).onOrder
    (·.markDone (some failure) (some attempt))

def announcement (target : PowerState) (hardware : Hardware) : Record :=
  ⟨.info, .ok ("Powering " ++ target.wire ++ " server hardware " ++ hardware.name.display ++
    " for " ++ hardware.serial.display ++ ".")⟩

theorem run_requestChange (setup : Setup) (hook : Hook) (origin : Origin) (target : PowerState)
    (attempt : Int) (s : Scene) :
    (requestChange setup hook origin target attempt).run s =
      let hardware := s.order.hardware.hardware
      let begun := s.note (.logged (announcement target hardware))
      match hardware.powerUri with
      | .error failure => (.error failure, begun)
      | .ok uri =>
        match (call setup hook origin s.order.hardware.client "PUT" (.text uri)
            (changeBody target)).run begun with
        | (.error failure, t) =>
          if failure.isA .manager then
            (.ok (), gaveUp attempt "Error with power state request: " failure t)
          else (.error failure, t)
        | (.ok body, t) =>
          let read := Client.readTask setup.strict (.text uri) body {}
          match read.outcome with
          | .error failure =>
            if failure.isA .decoding then
              (.ok (), gaveUp attempt "Error decoding power state response: " failure
                (logged read.records t))
            else (.error failure, logged read.records t)
          | .ok task => (.ok (), (logged read.records t).onOrder (·.noteTask attempt task)) := by
  unfold requestChange announcement
  simp only [run_bind, run_order, run_log, run_ofExcept, run_outcome]
  cases s.order.hardware.hardware.powerUri with
  | error failure => rfl
  | ok uri =>
    dsimp only
    rcases (call setup hook origin _ "PUT" _ (changeBody target)).run _ with ⟨failure | body, t⟩
    · dsimp only
      split <;> rfl
    · simp only [run_bind, run_outcome, run_ofReport]
      cases (Client.readTask setup.strict (.text uri) body {}).outcome with
      | error failure =>
        dsimp only
        split <;> rfl
      | ok task => rfl

/-- What a submission makes of the answer to its request for a change. -/
def readChange (strict : Bool) (uri : String) (attempt : Int) :
    Except Failure String → Scene → Except Failure Unit × Scene
  | .error failure, t =>
    if failure.isA .manager then
      (.ok (), gaveUp attempt "Error with power state request: " failure t)
    else (.error failure, t)
  | .ok body, t =>
    let read := Client.readTask strict (.text uri) body {}
    match read.outcome with
    | .error failure =>
      if failure.isA .decoding then
        (.ok (), gaveUp attempt "Error decoding power state response: " failure
          (logged read.records t))
      else (.error failure, logged read.records t)
    | .ok task => (.ok (), (logged read.records t).onOrder (·.noteTask attempt task))

lemma run_requestChange_eq_readChange (setup : Setup) (hook : Hook) (origin : Origin)
    (target : PowerState) (attempt : Int) (s : Scene) :
    (requestChange setup hook origin target attempt).run s =
      let hardware := s.order.hardware.hardware
      let begun := s.note (.logged (announcement target hardware))
      match hardware.powerUri with
      | .error failure => (.error failure, begun)
      | .ok uri =>
        let r := (call setup hook origin s.order.hardware.client "PUT" (.text uri)
          (changeBody target)).run begun
        readChange setup.strict uri attempt r.1 r.2 := by
  rw [run_requestChange]
  dsimp only
  cases s.order.hardware.hardware.powerUri with
  | error failure => rfl
  | ok uri =>
    dsimp only
    rcases (call setup hook origin _ "PUT" _ (changeBody target)).run _ with ⟨failure | body, t⟩ <;>
      rfl

theorem run_submit (setup : Setup) (hook : Hook) (target : PowerState) (attempt? : Option Int)
    (s : Scene) :
    (submit setup hook target attempt?).run s =
      let attempt := attempt?.getD s.order.attempt
      let origin := Origin.submission s.submissions attempt
      match (observe setup hook origin (some attempt)).run
          { s with submissions := s.submissions + 1 } with
      | (.error failure, t) =>
        if failure.isA .general then
          (.ok (), gaveUp attempt "Error getting current power state: " failure t)
        else (.error failure, t)
      | (.ok state, t) =>
        if state = target then
          (.ok (), (t.note (.logged ⟨.info, .ok ("Desired power state already set -> " ++
            state.wire)⟩)).onOrder (·.markDone none (some attempt)))
        else (requestChange setup hook origin target attempt).run t := by
  unfold submit
  simp only [run_bind, run_order, run_get, run_modify, run_outcome]
  rcases (observe setup hook _ _).run _ with ⟨failure | state, t⟩
  · dsimp only
    split <;> rfl
  · dsimp only
    split <;> rfl

theorem run_work (setup : Setup) (hook : Hook) (target : PowerState) (attempt : Int) (s : Scene) :
    (work setup hook target attempt).run s =
      match (submit setup hook target (some attempt)).run s with
      | (.ok (), t) => (.ok (), t)
      | (.error failure, t) =>
        (.ok (), gaveUp attempt "Unexpected error submitting power state: " failure t) := by
  unfold work
  simp only [run_bind, run_outcome]
  rcases (submit setup hook _ _).run s with ⟨failure | _, t⟩ <;> rfl

lemma work_ok (setup : Setup) (hook : Hook) (target : PowerState) (attempt : Int) (s : Scene) :
    ((work setup hook target attempt).run s).1 = .ok () := by
  rw [run_work]
  rcases (submit setup hook _ _).run s with ⟨failure | _, t⟩ <;> rfl

end ServerPower.Proofs
