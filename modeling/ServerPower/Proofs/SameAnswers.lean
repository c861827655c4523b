import Mathlib.Data.List.Forall2
import ServerPower.Proofs.Escapes
import ServerPower.Proofs.Merging

/-!
# Answers that say the same

Answers of the manager carry much that is only shown: names, progress, fields of no meaning, the
letter case of states. Answers that differ in nothing else are read into tasks and orders that
differ in nothing else, or fail alike.
-/

namespace ServerPower.Proofs
open Run

/-- Equal values, or texts that are equal in upper case. -/
def SameSpelling (v v' : Json) : Prop :=
  v' = v ∨ ∃ s s', v = .text s ∧ v' = .text s' ∧ Text.upper s' = Text.upper s

/-- Objects that differ in what is only shown. -/
structure Concurs (members members' : List (String × Json)) : Prop where
  uri : Json.member members' "uri" = Json.member members "uri"
  status : Json.member members' "taskStatus" = Json.member members "taskStatus"
  errors : Json.member members' "taskErrors" = Json.member members "taskErrors"
  power : SameSpelling (Json.member members "powerState") (Json.member members' "powerState")
  state : SameSpelling (Json.member members "taskState") (Json.member members' "taskState")

/-- An object that is accepted as the report of a task. -/
def Reported (members : List (String × Json)) : Prop :=
  ∃ latest, RemoteTask.update {} (.object members) = .ok latest

/-- Bodies that are equal, or objects that concur and are as they `must` be. -/
def SaysSame (must : List (String × Json) → Prop) (body body' : String) : Prop :=
  body' = body ∨ ∃ members members', Json.parse body = .ok (.object members) ∧
    Json.parse body' = .ok (.object members') ∧ must members ∧ must members' ∧
    Concurs members members'

/-- A status of a reply whose body counts. -/
def LetsThrough (status : Int) : Prop :=
  status < 400 ∨ 600 ≤ status

/-- Answers that are equal, let through bodies that say the same, or refuse in the same words. -/
inductive AnswersSame (must : List (String × Json) → Prop) : AnswerContent → AnswerContent → Prop
  | same {content : AnswerContent} : AnswersSame must content content
  | replies {status status' : Int} {reason reason' body body' : String}
      (passes : LetsThrough status) (passes' : LetsThrough status')
      (bodies : SaysSame must body body') :
      AnswersSame must (.reply status reason body) (.reply status' reason' body')
  | refused {status : Int} {reason body body' : String} (fails : ¬ LetsThrough status) :
      AnswersSame must (.reply status reason body) (.reply status reason body')

/-- Answers that say the same one by one; those after the first one as reports of a task. -/
inductive AllSame (must : List (String × Json) → Prop) :
    List AnswerContent → List AnswerContent → Prop
  | nil : AllSame must [] []
  | cons {content content' : AnswerContent} {contents contents' : List AnswerContent}
      (first : AnswersSame must content content')
      (rest : List.Forall₂ (AnswersSame Reported) contents contents') :
      AllSame must (content :: contents) (content' :: contents')

/-- Tasks that differ in what is only shown. -/
structure SameProgress (task task' : RemoteTask) : Prop where
  uri : task'.uri = task.uri
  state : Text.upper task'.state = Text.upper task.state
  status : task'.status = task.status
  errors : task'.errors = task.errors

/-- Orders that differ in what is only shown. -/
structure SameOrder (p q : PowerOrder) : Prop where
  client : q.hardware.client = p.hardware.client
  address : q.hardware.hardware.uri = p.hardware.hardware.uri
  limit : q.limit = p.limit
  interval : q.interval = p.interval
  observed : q.observed = p.observed
  done : q.done = p.done
  failure? : q.failure?.map (·.kind) = p.failure?.map (·.kind)
  cancelled : q.cancelled = p.cancelled
  task : SameProgress p.task q.task
  attempt : q.attempt = p.attempt

/-- Looks at orders that differ in what is only shown. -/
structure SameGlance (seen seen' : Glance) : Prop where
  done : seen'.done = seen.done
  failure? : seen'.failure?.map (·.kind) = seen.failure?.map (·.kind)
  cancelled : seen'.cancelled = seen.cancelled

section Answers

variable {must : List (String × Json) → Prop} {members members' : List (String × Json)}
  {body body' : String} {strict : Bool} {uri : Json}

lemma reported_of_update {members : List (String × Json)}
    (h : (RemoteTask.update {} (.object members)).toBool = true) : Reported members := by
  cases hu : RemoteTask.update {} (.object members) with
  | ok latest => exact ⟨latest, hu⟩
  | error failure =>
    rw [hu] at h
    exact nomatch h

lemma Concurs.refl (members : List (String × Json)) : Concurs members members :=
  ⟨rfl, rfl, rfl, .inl rfl, .inl rfl⟩

lemma SaysSame.mono {may : List (String × Json) → Prop} (h : SaysSame must body body')
    (hm : ∀ members, must members → may members) : SaysSame may body body' := by
  rcases h with h | ⟨members, members', hp, hp', h, h', hc⟩
  · exact .inl h
  · exact .inr ⟨members, members', hp, hp', hm _ h, hm _ h', hc⟩

lemma AnswersSame.mono {may : List (String × Json) → Prop} {content content' : AnswerContent}
    (h : AnswersSame must content content') (hm : ∀ members, must members → may members) :
    AnswersSame may content content' := by
  cases h with
  | same => exact .same
  | replies passes passes' bodies => exact .replies passes passes' (bodies.mono hm)
  | refused fails => exact .refused fails

/-- Values that are spelled alike name the same power state. -/
lemma SameSpelling.upper? {v v' : Json} (h : SameSpelling v v') : v'.upper? = v.upper? := by
  rcases h with rfl | ⟨s, s', rfl, rfl, hs⟩
  · rfl
  · exact congrArg some hs

lemma LetsThrough.receive {status : Int} (h : LetsThrough status) (method : String) (url : String)
    (reason body : String) :
    Client.receive strict method uri url (.answer status reason body) = pure body := by
  have hclient : (decide (400 ≤ status) && decide (status < 500)) = false := by
    rcases h with h | h <;> simp <;> omega
  have hserver : (decide (500 ≤ status) && decide (status < 600)) = false := by
    rcases h with h | h <;> simp <;> omega
  simp [Client.receive, Reply.body, hclient, hserver]

/-- What a reply that refuses comes to does not depend on its body. -/
lemma receive_of_refused {status : Int} (h : ¬ LetsThrough status) (method : String) (url : String)
    (reason body body' : String) :
    Client.receive strict method uri url (.answer status reason body') =
      Client.receive strict method uri url (.answer status reason body) := by
  have hbody : Reply.body url (.answer status reason body') =
      Reply.body url (.answer status reason body) := by
    unfold LetsThrough at h
    unfold Reply.body
    dsimp only
    split
    · rfl
    · split
      · rfl
      · rename_i hclient hserver
        simp only [Bool.and_eq_true, decide_eq_true_eq, not_and, Int.not_lt] at hclient hserver
        omega
  unfold Client.receive
  rw [hbody]

/-- Answers that say the same end a call alike. -/
lemma readAnswer_of_same {answer answer' : Answer}
    (h : AnswersSame must answer.content answer'.content) (strict : Bool) (method : String)
    (uri : Json) (request : Request) :
    (∃ failure, (readAnswer strict method uri request answer).outcome = .error failure ∧
        (readAnswer strict method uri request answer').outcome = .error failure) ∨
      ∃ body body', SaysSame must body body' ∧
        (readAnswer strict method uri request answer).outcome = .ok body ∧
        (readAnswer strict method uri request answer').outcome = .ok body' := by
  have hequal : ∀ answer answer' : Answer,
      readAnswer strict method uri request answer' = readAnswer strict method uri request answer →
      (∃ failure, (readAnswer strict method uri request answer).outcome = .error failure ∧
          (readAnswer strict method uri request answer').outcome = .error failure) ∨
        ∃ body body', SaysSame must body body' ∧
          (readAnswer strict method uri request answer).outcome = .ok body ∧
          (readAnswer strict method uri request answer').outcome = .ok body' := by
    intro answer answer' he
    rw [he]
    cases (readAnswer strict method uri request answer).outcome with
    | error failure => exact .inl ⟨failure, rfl, rfl⟩
    | ok body => exact .inr ⟨body, body, .inl rfl, rfl, rfl⟩
  obtain ⟨during, content⟩ := answer
  obtain ⟨during', content'⟩ := answer'
  cases h with
  | same => exact hequal _ _ rfl
  | @replies status status' reason reason' body body' passes passes' bodies =>
    have hreads : ∀ during status reason body, LetsThrough status →
        (readAnswer strict method uri request ⟨during, .reply status reason body⟩).outcome =
          .ok body := by
      intro during status reason body hpasses
      unfold readAnswer Answer.reply
      rw [Report.bind_of_ok rfl, hpasses.receive]
      rfl
    exact .inr ⟨body, body', bodies, hreads _ _ _ _ passes, hreads _ _ _ _ passes'⟩
  | @refused status reason body body' fails =>
    apply hequal
    unfold readAnswer Answer.reply
    rw [Report.bind_of_ok rfl, Report.bind_of_ok rfl]
    dsimp only
    rw [receive_of_refused fails method request.url reason body body']
    rfl

lemma orEmpty_text (s : String) : Hardware.orEmpty (.text s) = .text s := by
  unfold Hardware.orEmpty
  split
  · rfl
  · rename_i h
    simp only [Json.isGiven, bne_iff_ne, ne_eq, not_not] at h
    rw [h]

lemma SameSpelling.orEmpty {v v' : Json} (h : SameSpelling v v') :
    SameSpelling (Hardware.orEmpty v) (Hardware.orEmpty v') := by
  rcases h with rfl | ⟨s, s', rfl, rfl, hs⟩
  · exact .inl rfl
  · rw [orEmpty_text, orEmpty_text]
    exact .inr ⟨s, s', rfl, rfl, hs⟩

lemma readHardware_of_parse (hp : Json.parse body = .ok (.object members)) (strict : Bool)
    (uri : Json) : ∃ latest, (Client.readHardware strict uri body).outcome = .ok latest ∧
      latest.uri = Hardware.orEmpty (Json.member members "uri") ∧
      latest.power = Hardware.orEmpty (Json.member members "powerState") := by
  let field key := Hardware.orEmpty (Json.member members key)
  refine ⟨⟨field "uri", field "name", field "serialNumber", field "powerState"⟩, ?_, rfl, rfl⟩
  unfold Client.readHardware Client.decode Payload.read
  simp only [hp, Except.mapError]
  rw [Report.bind_of_ok rfl]
  rfl

/-- Hardware is read from bodies that say the same with one address and in one power state, or not
at all. -/
lemma SaysSame.readHardware (h : SaysSame must body body') (strict : Bool) (uri : Json) :
    (∃ latest latest', (Client.readHardware strict uri body).outcome = .ok latest ∧
        (Client.readHardware strict uri body').outcome = .ok latest' ∧
        latest'.uri = latest.uri ∧ classified latest' = classified latest) ∨
      ∃ failure failure', (Client.readHardware strict uri body).outcome = .error failure ∧
        (Client.readHardware strict uri body').outcome = .error failure' ∧
        failure'.kind = failure.kind := by
  rcases h with rfl | ⟨members, members', hp, hp', -, -, hc⟩
  · cases ho : (Client.readHardware strict uri body').outcome with
    | error failure => exact .inr ⟨failure, failure, rfl, rfl, rfl⟩
    | ok latest => exact .inl ⟨latest, latest, rfl, rfl, rfl, rfl⟩
  · obtain ⟨latest, ho, huri, hpower⟩ := readHardware_of_parse hp strict uri
    obtain ⟨latest', ho', huri', hpower'⟩ := readHardware_of_parse hp' strict uri
    refine .inl ⟨latest, latest', ho, ho', ?_, ?_⟩
    · rw [huri, huri', hc.uri]
    · have hlookup : PowerState.lookup? latest'.power = PowerState.lookup? latest.power := by
        unfold PowerState.lookup? PowerState.equals
        rw [hpower, hpower', hc.power.orEmpty.upper?]
      unfold classified
      rw [hlookup]

lemma SameSpelling.upper {v v' : Json} (h : SameSpelling v v') {s s' : String} (hv : v = .text s)
    (hv' : v' = .text s') : Text.upper s' = Text.upper s := by
  have hupper := h.upper?
  rw [hv, hv'] at hupper
  exact Option.some.inj hupper

lemma Concurs.merged_state (hc : Concurs members members') {old old' : Json}
    (h : SameSpelling old old') :
    SameSpelling (merged members .state old) (merged members' .state old') := by
  have hstate : SameSpelling (Json.member members TaskField.state.key)
      (Json.member members' TaskField.state.key) := hc.state
  unfold merged
  rcases hstate with hm | ⟨s, s', hm, hm', hs⟩
  · rw [hm]
    split
    · exact h
    · exact .inl rfl
  · rw [hm, hm', if_neg (fun hn => nomatch hn), if_neg (fun hn => nomatch hn)]
    exact .inr ⟨s, s', rfl, rfl, hs⟩

/-- Reports that concur leave tasks that differ in what is only shown. -/
lemma SameProgress.update {task task' latest latest' : RemoteTask} (h : SameProgress task task')
    (hc : Concurs members members') (hu : task.update (.object members) = .ok latest)
    (hu' : task'.update (.object members') = .ok latest') : SameProgress latest latest' := by
  have hvalue := value_update hu
  have hvalue' := value_update hu'
  -- A field that both reports carry alike, and that was known alike, is known alike.
  have hsame : ∀ field : TaskField, Json.member members' field.key = Json.member members field.key →
      field.value task' = field.value task → field.value latest' = field.value latest := by
    intro field hm hknown
    rw [hvalue', hvalue, merged, merged, hm, hknown]
  refine ⟨?_, ?_, ?_, ?_⟩
  · exact Json.text.inj (hsame .uri hc.uri (congrArg Json.text h.uri))
  · have hknown : SameSpelling (.text task.state) (.text task'.state) :=
      .inr ⟨task.state, task'.state, rfl, rfl, h.state⟩
    exact (hc.merged_state hknown).upper (hvalue .state).symm (hvalue' .state).symm
  · exact Json.text.inj (hsame .status hc.status (congrArg Json.text h.status))
  · exact Json.list.inj (hsame .errors hc.errors (congrArg Json.list h.errors))

/-- A report is read from both bodies that say the same, or from neither. -/
lemma SaysSame.readTask (h : SaysSame Reported body body') (strict : Bool) (uri : Json)
    {task task' : RemoteTask} (ht : SameProgress task task') :
    (∃ latest latest', (Client.readTask strict uri body task).outcome = .ok latest ∧
        (Client.readTask strict uri body' task').outcome = .ok latest' ∧
        SameProgress latest latest') ∨
      ∃ failure failure', (Client.readTask strict uri body task).outcome = .error failure ∧
        (Client.readTask strict uri body' task').outcome = .error failure' ∧
        failure'.kind = failure.kind := by
  -- Equal bodies that are read at all are accepted reports, like the others.
  have hboth : (∃ latest, (Client.readTask strict uri body task).outcome = .ok latest) ∨
      (∃ latest', (Client.readTask strict uri body' task').outcome = .ok latest') →
      ∃ members members', Json.parse body = .ok (.object members) ∧
        Json.parse body' = .ok (.object members') ∧ Reported members ∧ Reported members' ∧
        Concurs members members' := by
    intro hread
    rcases h with rfl | hother
    · obtain ⟨members, hp, hm⟩ : ∃ members, Json.parse body' = .ok (.object members) ∧
          Reported members := by
        rcases hread with ⟨latest, hread⟩ | ⟨latest, hread⟩
        · obtain ⟨members, hp, hu⟩ := readTask_eq_ok_iff.mp hread
          exact ⟨members, hp, update_accepts hu {}⟩
        · obtain ⟨members, hp, hu⟩ := readTask_eq_ok_iff.mp hread
          exact ⟨members, hp, update_accepts hu {}⟩
      exact ⟨members, members, hp, hp, hm, hm, .refl members⟩
    · exact hother
  by_cases hread : (∃ latest, (Client.readTask strict uri body task).outcome = .ok latest) ∨
      (∃ latest', (Client.readTask strict uri body' task').outcome = .ok latest')
  · obtain ⟨members, members', hp, hp', ⟨known, hm⟩, ⟨known', hm'⟩, hc⟩ := hboth hread
    obtain ⟨latest, hu⟩ := update_accepts hm task
    obtain ⟨latest', hu'⟩ := update_accepts hm' task'
    refine .inl ⟨latest, latest', readTask_eq_ok_iff.mpr ⟨members, hp, hu⟩,
      readTask_eq_ok_iff.mpr ⟨members', hp', hu'⟩, ht.update hc hu hu'⟩
  · refine .inr ?_
    cases ho : (Client.readTask strict uri body task).outcome with
    | ok latest => exact absurd (.inl ⟨latest, ho⟩) hread
    | error failure =>
      cases ho' : (Client.readTask strict uri body' task').outcome with
      | ok latest => exact absurd (.inr ⟨latest, ho'⟩) hread
      | error failure' =>
        exact ⟨failure, failure', rfl, rfl, (readTask_error ho').trans (readTask_error ho).symm⟩

lemma SameProgress.refl (task : RemoteTask) : SameProgress task task :=
  ⟨rfl, rfl, rfl, rfl⟩

lemma SameProgress.exists? {task task' : RemoteTask} (h : SameProgress task task') :
    task'.exists? = task.exists? := by
  unfold RemoteTask.exists?
  rw [h.uri]

lemma SameProgress.upper? {task task' : RemoteTask} (h : SameProgress task task') :
    (Json.text task'.state).upper? = (Json.text task.state).upper? :=
  congrArg some h.state

lemma SameProgress.isCompleted {task task' : RemoteTask} (h : SameProgress task task') :
    task'.isCompleted = task.isCompleted := by
  unfold RemoteTask.isCompleted isCompletedTaskState
  rw [h.exists?, h.upper?]

lemma SameProgress.isFailed {task task' : RemoteTask} (h : SameProgress task task') :
    task'.isFailed = task.isFailed := by
  unfold RemoteTask.isFailed isFailedTaskState
  rw [h.exists?, h.upper?]

/-- Tasks at the same stage can say what went wrong, or cannot for the same reason. -/
lemma SameProgress.errorSummary {task task' : RemoteTask} (h : SameProgress task task') :
    (∃ reason reason', task.errorSummary = .ok reason ∧ task'.errorSummary = .ok reason') ∨
      ∃ failure, task.errorSummary = .error failure ∧ task'.errorSummary = .error failure := by
  unfold RemoteTask.errorSummary
  rw [h.errors]
  cases task.errors.filterMap RemoteTask.errorMessage? with
  | nil => exact .inl ⟨_, _, rfl, rfl⟩
  | cons message messages =>
    dsimp only
    cases hj : RemoteTask.joinMessages 0 (message :: messages) with
    | error failure => exact .inr ⟨failure, rfl, rfl⟩
    | ok reason => exact .inl ⟨reason, reason, rfl, rfl⟩

end Answers

section Orders

variable {p q : PowerOrder}

lemma SameOrder.refl (p : PowerOrder) : SameOrder p p :=
  ⟨rfl, rfl, rfl, rfl, rfl, rfl, rfl, rfl, .refl p.task, rfl⟩

lemma SameOrder.isOver (h : SameOrder p q) : q.isOver = p.isOver := by
  unfold PowerOrder.isOver
  rw [h.done, h.cancelled]

lemma SameOrder.isCurrent (h : SameOrder p q) (attempt? : Option Int) :
    q.isCurrent attempt? = p.isCurrent attempt? := by
  cases attempt? with
  | none => rfl
  | some attempt => simp only [PowerOrder.isCurrent, h.attempt]

lemma SameOrder.allowsCheck (h : SameOrder p q) (checks : Nat) :
    q.allowsCheck checks = p.allowsCheck checks := by
  unfold PowerOrder.allowsCheck
  rw [h.limit]

lemma SameOrder.reset (h : SameOrder p q) : SameOrder p.reset q.reset := by
  have hattempt : q.reset.attempt = p.reset.attempt := congrArg (· + 1) h.attempt
  exact ⟨h.client, h.address, h.limit, h.interval, rfl, rfl, rfl, rfl, .refl {}, hattempt⟩

lemma SameOrder.forget (h : SameOrder p q) :
    SameOrder { p with observed := .unknown } { q with observed := .unknown } :=
  { h with observed := rfl }

lemma SameOrder.markDone (h : SameOrder p q) {failure? failure?' : Option Failure}
    (hf : failure?'.map (·.kind) = failure?.map (·.kind)) (attempt? : Option Int) :
    SameOrder (p.markDone failure? attempt?) (q.markDone failure?' attempt?) := by
  unfold PowerOrder.markDone
  rw [h.isCurrent]
  split
  · refine { h with done := rfl, failure? := ?_ }
    have hknown := h.failure?
    dsimp only
    cases hp : p.failure? with
    | none =>
      rw [hp, Option.map_none, Option.map_eq_none_iff] at hknown
      rw [hknown]
      exact hf
    | some failure =>
      rw [hp, Option.map_some, Option.map_eq_some_iff] at hknown
      obtain ⟨failure', hq, hkind⟩ := hknown
      rw [hq]
      exact congrArg some hkind
  · exact h

lemma SameOrder.noteHardware (h : SameOrder p q) {latest latest' : ManagedHardware}
    (hc : latest'.client = latest.client) (hu : latest'.hardware.uri = latest.hardware.uri)
    (attempt? : Option Int) (state : PowerState) :
    SameOrder (p.noteHardware attempt? latest state) (q.noteHardware attempt? latest' state) := by
  unfold PowerOrder.noteHardware
  rw [h.isCurrent]
  split
  · exact { h with observed := rfl, client := hc, address := hu }
  · exact h

lemma SameOrder.noteTask (h : SameOrder p q) {task task' : RemoteTask}
    (ht : SameProgress task task') (attempt : Int) :
    SameOrder (p.noteTask attempt task) (q.noteTask attempt task') := by
  unfold PowerOrder.noteTask
  rw [h.isCurrent]
  split
  · exact { h with task := ht }
  · exact h

lemma SameOrder.noteProgress (h : SameOrder p q) {task task' : RemoteTask}
    (ht : SameProgress task task') (attempt? : Option Int) :
    SameOrder (p.noteProgress attempt? task) (q.noteProgress attempt? task') := by
  unfold PowerOrder.noteProgress
  rw [h.isCurrent, h.task.uri, ht.uri]
  split
  · exact { h with task := ht }
  · exact h

lemma SameOrder.glanceAt (h : SameOrder p q) :
    SameGlance (glanceAt p) (Proofs.glanceAt q) :=
  ⟨h.done, h.failure?, h.cancelled⟩

end Orders

end ServerPower.Proofs
