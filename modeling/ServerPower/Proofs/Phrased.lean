import ServerPower.Proofs.Breakdowns

/-!
# Failures find their words

Wherever the program raises a failure of its own its template can be filled in: strict settings
never matter, and no record tells of a template that could not be filled in. Where a failure
explains another one, the text of the other stands in its own text as it is.
-/

namespace ServerPower.Proofs
open Run

/-- How the record of a template that could not be filled in begins. -/
def misfitStart : String := "Exception in string format operation"

def TellsOfMisfit (r : Record) : Prop :=
  ∃ text, r.text = .ok text ∧ misfitStart.toList <+: text.toList

def transportFailed (method : String) (uri : Json) (cause : Failure) : Failure :=
  ⟨.transport, method ++ " request to " ++ uri.display ++ " failed. Error: " ++ cause.text⟩

def decodingFailed (uri : Json) (cause : Failure) : Failure :=
  ⟨.decoding, "Unable to decode response from " ++ uri.display ++ ". Error: " ++ cause.text⟩

/-- What comes back with an answer that fails at most as the network does. -/
def sentBack (answer : Answer) : Reply :=
  match answer.content with
  | .reply status reason body => .answer status reason body
  | .fault spec => .fault ⟨spec.kind, spec.message.display⟩

/-- A failure that an action hands over is one of those, strict settings or not. -/
def Hands (foreign : Failure → Prop) : Action → Prop
  | .markDone (some spec) _ =>
    ∃ failure, foreign failure ∧ ∀ strict, spec.build strict = pure failure
  | _ => True

/-- Where failures come from: the answers of the manager, which fail only as the network does, and
what comes from elsewhere, such as the failures that others hand over. -/
structure Sources where
  answers : List Answer
  foreign : Failure → Prop
  network : ∀ answer ∈ answers, ∀ spec, answer.content = .fault spec → spec.kind.isNetwork
  during : ∀ answer ∈ answers, ∀ action ∈ answer.during, Hands foreign action

namespace Sources

/-- One of the answers, or what comes when none is left. -/
def Gives (W : Sources) (answer : Answer) : Prop :=
  answer = .exhausted ∨ answer ∈ W.answers

def Sends (W : Sources) (body : String) : Prop :=
  ∃ answer url, W.Gives answer ∧ (sentBack answer).body url = .ok body

/-- The request for the URL is met with a fault of the network or with an error status. -/
def Refuses (W : Sources) (url : String) (cause : Failure) : Prop :=
  ∃ answer, W.Gives answer ∧ (sentBack answer).body url = .error cause

/-- The task is what a report of the manager makes of one. -/
def Reports (W : Sources) (task : RemoteTask) : Prop :=
  ∃ body v before, W.Sends body ∧ (Payload.value (.text body)).read = .ok v ∧
    RemoteTask.update before v = .ok task

/-- What can be wrong with a text that the manager sent. -/
inductive Garbles (W : Sources) (cause : Failure) : Prop
  | noValue {body : String} (sent : W.Sends body)
      (unread : (Payload.value (.text body)).read = .error cause)
  | noHardware {body : String} {v : Json} (sent : W.Sends body)
      (read : (Payload.value (.text body)).read = .ok v) (unfit : Hardware.ofJson v = .error cause)
  | noTask {body : String} {v : Json} {task : RemoteTask} (sent : W.Sends body)
      (read : (Payload.value (.text body)).read = .ok v) (unfit : task.update v = .error cause)

end Sources

/-- The failures that the program can come to, with their texts. What explains another failure ends
with its text: down to the fault of the network, to what is wrong with the text that the manager
sent, or to the words of the task that failed. -/
inductive Explained (W : Sources) : Failure → Prop
  | transport (method : String) (uri : Json) {url : String} {cause : Failure}
      (refused : W.Refuses url cause) : Explained W (transportFailed method uri cause)
  | decoding (uri : Json) {cause : Failure} (garbled : W.Garbles cause) :
      Explained W (decodingFailed uri cause)
  | change (target : PowerState) {cause : Failure} (other : cause.isA .powerChange = false)
      (explained : Explained W cause) : Explained W (changeFailed target cause.text)
  | failedTask (target : PowerState) {task : RemoteTask} {reason : String}
      (reported : W.Reports task) (failed : task.isFailed)
      (words : task.errorSummary = .ok reason) : Explained W (changeFailed target reason)
  | timedOut (target : PowerState) (name : Json) (checks : Nat) :
      Explained W (changeTimedOut target name checks)
  | noAddress (name : Json) :
      Explained W ⟨.missingHardware, "Can not manage power of server hardware " ++ name.display ++
        ": no server hardware URI is set."⟩
  | noTarget (target : PowerState) :
      Explained W ⟨.invalidParameter, "Unsupported power state " ++ target.wire ++ " requested."⟩
  | noManager :
      Explained W
        ⟨.invalidParameter, "OneView manager URL is missing, set [oneview]manager_url."⟩
  | noCertificate :
      Explained W ⟨.manager, "OneView exception occurred. Error: " ++
        "TLS CA certificate to connect with OneView is missing."⟩
  | noText (v : Json) :
      Explained W ⟨.missingOperation, "'" ++ v.typeName ++ "' object has no attribute 'strip'"⟩
  | closed : Explained W ⟨.runtime, "executor is shut down"⟩
  | unfit {failure : Failure} (h : Unfit failure) : Explained W failure
  | foreign {failure : Failure} (h : W.foreign failure) : Explained W failure

/-- A report whose failures find words: strict settings do not matter to it, its records tell of no
misfit, and its failures are those that `allows` says. -/
structure Phrased {α : Type} (allows : Failure → Prop) (make : Bool → Report α) : Prop where
  same : ∀ strict, make strict = make false
  records : ∀ r ∈ (make false).records, ¬ TellsOfMisfit r
  failures : ∀ failure, (make false).outcome = .error failure → allows failure

lemma Hands.mono {foreign foreign' : Failure → Prop} {action : Action}
    (h : Hands foreign action) (hf : ∀ failure, foreign failure → foreign' failure) :
    Hands foreign' action := by
  unfold Hands at h ⊢
  split at h
  · obtain ⟨failure, hfailure, hbuilt⟩ := h
    exact ⟨failure, hf failure hfailure, hbuilt⟩
  · trivial

section Records

/-- The record of a template that could not be filled in tells of that. -/
theorem tellsOfMisfit_formatRecord (values : Template.Values) :
    TellsOfMisfit (Failure.formatRecord values) := by
  refine ⟨_, rfl, ?_⟩
  have hstart : "Exception in string format operation (arguments ".toList =
      misfitStart.toList ++ " (arguments ".toList := by decide +kernel
  rw [String.append_assoc, String.toList_append, hstart, List.append_assoc]
  exact List.prefix_append ..

/-- What begins otherwise tells of no misfit. -/
lemma not_tellsOfMisfit {level : ServerPower.Level} (start rest : String)
    (h : start.toList.take 2 ≠ ['E', 'x']) (hlength : 2 ≤ start.toList.length) :
    ¬ TellsOfMisfit ⟨level, .ok (start ++ rest)⟩ := by
  rintro ⟨text, htext, hp⟩
  cases htext
  obtain ⟨more, hmore⟩ := hp
  have htake := congrArg (List.take 2) hmore
  rw [String.toList_append, List.take_append_of_le_length hlength] at htake
  exact h htake.symm

/-- A character that marks no place stays at the head of what a template is rendered as. -/
lemma head_of_render {template text : String} {values : Template.Values} {c : Char} {s : List Char}
    (ht : template.toList = c :: s) (hc : c ≠ '%')
    (h : Template.render template values = .ok text) : text.toList.head? = some c := by
  unfold Template.render at h
  rw [ht] at h
  dsimp only [List.length_cons] at h
  rw [fill_plain hc] at h
  cases hf : Template.fill values (s.length + 1) s.length (some (.object values)) s with
  | error failure =>
    rw [hf] at h
    cases h
  | ok rest =>
    rw [hf] at h
    cases h
    rw [String.toList_ofList]
    rfl

/-- The record of the progress begins with words of its own, if it can be written at all. -/
lemma not_tellsOfMisfit_progressRecord (task : RemoteTask) :
    ¬ TellsOfMisfit (progressRecord task) := by
  have htemplate : "Working on power state, %(percent)d%%, %(status)s.".toList =
      'W' :: "orking on power state, %(percent)d%%, %(status)s.".toList := by decide +kernel
  rintro ⟨text, htext, more, hmore⟩
  have hhead := head_of_render htemplate (by decide) htext
  rw [← hmore] at hhead
  exact absurd hhead (by simp [misfitStart])

end Records

section Reports

variable {α β : Type} {allows : Failure → Prop} {make : Bool → Report α}

lemma phrased_ofExcept {outcome : Except Failure α}
    (h : ∀ failure, outcome = .error failure → allows failure) :
    Phrased allows (fun _ => Report.ofExcept outcome) :=
  ⟨fun _ => rfl, (fun _ hr => nomatch hr), h⟩

lemma phrased_pure (a : α) : Phrased allows (fun _ => pure a) :=
  ⟨fun _ => rfl, (fun _ hr => nomatch hr), (fun _ h => nomatch h)⟩

lemma phrased_fail {failure : Failure} (h : allows failure) :
    Phrased allows (fun _ => (Report.fail failure : Report α)) := by
  refine ⟨fun _ => rfl, (fun _ hr => nomatch hr), ?_⟩
  rintro other ⟨⟩
  exact h

lemma Phrased.mono {other : Failure → Prop} (h : Phrased allows make)
    (ha : ∀ failure, allows failure → other failure) : Phrased other make :=
  ⟨h.same, h.records, fun failure ho => ha failure (h.failures failure ho)⟩

lemma Phrased.bind {next : Bool → α → Report β} (h : Phrased allows make)
    (hn : ∀ a, (make false).outcome = .ok a → Phrased allows (next · a)) :
    Phrased allows (fun strict => make strict >>= next strict) := by
  cases ho : (make false).outcome with
  | error failure =>
    refine ⟨fun strict => ?_, ?_, ?_⟩
    · rw [h.same strict, Report.bind_of_error ho, Report.bind_of_error ho]
    · rw [Report.bind_of_error ho]
      exact h.records
    · rw [Report.bind_of_error ho]
      rintro other ⟨⟩
      exact h.failures _ ho
  | ok a =>
    have hnext := hn a ho
    refine ⟨fun strict => ?_, ?_, ?_⟩
    · rw [h.same strict, Report.bind_of_ok ho, Report.bind_of_ok ho, hnext.same strict]
    · rw [Report.bind_of_ok ho]
      intro r hr
      rcases List.mem_append.mp hr with hr | hr
      · exact h.records r hr
      · exact hnext.records r hr
    · rw [Report.bind_of_ok ho]
      exact hnext.failures

lemma phrased_log {level : ServerPower.Level} {text : String}
    (h : ¬ TellsOfMisfit ⟨level, .ok text⟩) :
    Phrased allows (fun _ => Report.log level text) := by
  refine ⟨fun _ => rfl, fun r hr => ?_, (fun _ he => nomatch he)⟩
  rwa [List.mem_singleton.mp hr]

lemma phrased_raise {kind : FailureKind} {values : Template.Values} {failure : Failure}
    (hb : ∀ strict, Failure.build strict kind values = pure failure) (ha : allows failure) :
    Phrased allows (fun strict => (Failure.raise strict kind values : Report α)) := by
  have hraise : ∀ strict, (Failure.raise strict kind values : Report α) = Report.fail failure := by
    intro strict
    rw [Failure.raise, hb strict]
    rfl
  simp only [hraise]
  exact phrased_fail ha

end Reports

section Answers

variable {W : Sources} {answer : Answer} {body : String} {cause : Failure}

lemma Sources.Gives.network (h : W.Gives answer) :
    ∀ spec, answer.content = .fault spec → spec.kind.isNetwork := by
  rcases h with rfl | h
  · rintro spec ⟨⟩
    rfl
  · exact W.network answer h

/-- A fault of the network is sent back as it is, strict settings or not. -/
lemma reply_eq (h : ∀ spec, answer.content = .fault spec → spec.kind.isNetwork) (strict : Bool) :
    answer.reply strict = pure (sentBack answer) := by
  unfold Answer.reply sentBack
  cases hc : answer.content with
  | reply status reason body => rfl
  | fault spec =>
    have hforeign := not_general_of_network (h spec hc)
    simp only [FailureSpec.build, hforeign, Bool.false_eq_true, if_false]
    rfl

lemma network_of_body_error (h : ∀ spec, answer.content = .fault spec → spec.kind.isNetwork)
    {url : String} (hb : (sentBack answer).body url = .error cause) : cause.kind.isNetwork := by
  unfold sentBack at hb
  cases hc : answer.content with
  | fault spec =>
    rw [hc] at hb
    cases hb
    exact h spec hc
  | reply status reason body =>
    rw [hc] at hb
    unfold Reply.body at hb
    dsimp only at hb
    split at hb
    · cases hb
      rfl
    · split at hb
      · cases hb
        rfl
      · cases hb

/-- What comes of an answer: its body, or the failure of the transport that explains its fault. -/
lemma readAnswer_eq (h : ∀ spec, answer.content = .fault spec → spec.kind.isNetwork)
    (strict : Bool) (method : String) (uri : Json) (request : Request) :
    readAnswer strict method uri request answer =
      match (sentBack answer).body request.url with
      | .ok body => pure body
      | .error cause => Report.fail (transportFailed method uri cause) := by
  have hreply : (answer.reply strict).outcome = .ok (sentBack answer) := by
    rw [reply_eq h]
    rfl
  have hread : readAnswer strict method uri request answer =
      Client.receive strict method uri request.url (sentBack answer) := by
    rw [readAnswer, reply_eq h]
    rfl
  rw [hread, Client.receive]
  cases hb : (sentBack answer).body request.url with
  | ok body => rfl
  | error cause =>
    simp only [network_of_body_error h hb, if_true, Failure.raise, build_transport]
    rfl

lemma phrased_readAnswer (h : W.Gives answer) (method : String) (uri : Json) (request : Request) :
    Phrased (Explained W) (fun strict => readAnswer strict method uri request answer) := by
  simp only [readAnswer_eq h.network]
  cases hb : (sentBack answer).body request.url with
  | ok body => exact phrased_pure body
  | error cause => exact phrased_fail (.transport method uri ⟨answer, h, hb⟩)

lemma unreadable_eq {α : Type} (strict : Bool) (uri : Json) (cause : Failure) :
    (Client.unreadable strict uri cause : Report α) = Report.fail (decodingFailed uri cause) := by
  rw [Client.unreadable, Failure.raise, build_decoding]
  rfl

/-- What is decoded: a value, or the failure of decoding that explains what is wrong. -/
lemma decode_eq (strict : Bool) (uri : Json) (payload : Payload) :
    Client.decode strict uri payload =
      match payload.read with
      | .ok v => pure v
      | .error cause => Report.fail (decodingFailed uri cause) := by
  unfold Client.decode
  cases payload.read with
  | ok v => rfl
  | error cause => exact unreadable_eq strict uri cause

lemma phrased_unreadable {α : Type} {uri : Json} (h : Explained W (decodingFailed uri cause)) :
    Phrased (Explained W) (fun strict => (Client.unreadable strict uri cause : Report α)) := by
  simp only [unreadable_eq]
  exact phrased_fail h

lemma phrased_decode (uri : Json) (payload : Payload) :
    Phrased (fun failure => ∃ cause, payload.read = .error cause ∧
      failure = decodingFailed uri cause) (fun strict => Client.decode strict uri payload) := by
  simp only [decode_eq]
  cases payload.read with
  | ok v => exact phrased_pure v
  | error cause => exact phrased_fail ⟨cause, rfl, rfl⟩

lemma phrased_decode_sent (h : W.Sends body) (uri : Json) :
    Phrased (Explained W) (fun strict => Client.decode strict uri (.value (.text body))) := by
  refine (phrased_decode uri _).mono ?_
  rintro failure ⟨cause, hr, rfl⟩
  exact .decoding uri (.noValue h hr)

lemma read_of_decode {uri : Json} {strict : Bool} {payload : Payload} {v : Json}
    (h : (Client.decode strict uri payload).outcome = .ok v) : payload.read = .ok v := by
  rw [decode_eq] at h
  cases hr : payload.read with
  | ok w =>
    rw [hr] at h
    exact h
  | error cause =>
    rw [hr] at h
    cases h

lemma phrased_readHardware (h : W.Sends body) (uri : Json) :
    Phrased (Explained W) (fun strict => Client.readHardware strict uri body) := by
  refine (phrased_decode_sent h uri).bind (fun v hv => ?_)
  cases hh : Hardware.ofJson v with
  | ok hardware => exact phrased_pure hardware
  | error cause => exact phrased_unreadable (.decoding uri (.noHardware h (read_of_decode hv) hh))

lemma phrased_readTask (h : W.Sends body) (uri : Json) (task : RemoteTask) :
    Phrased (Explained W) (fun strict => Client.readTask strict uri body task) := by
  refine (phrased_decode_sent h uri).bind (fun v hv => ?_)
  cases ht : task.update v with
  | ok latest => exact phrased_pure latest
  | error cause => exact phrased_unreadable (.decoding uri (.noTask h (read_of_decode hv) ht))

lemma reports_of_readTask (h : W.Sends body) {uri : Json} {task latest : RemoteTask} {strict : Bool}
    (hr : (Client.readTask strict uri body task).outcome = .ok latest) : W.Reports latest := by
  obtain ⟨v, hv, hu⟩ := Report.exists_of_bind_eq_ok hr
  refine ⟨body, v, task, h, read_of_decode hv, ?_⟩
  cases ht : task.update v with
  | ok other =>
    simp only [ht] at hu
    exact hu
  | error cause =>
    simp only [ht, unreadable_eq] at hu
    cases hu

lemma phrased_classify {allows : Failure → Prop} (hardware : Hardware) :
    Phrased allows (fun _ => hardware.classify) := by
  unfold Hardware.classify PowerState.classify
  cases PowerState.lookup? hardware.power with
  | some state => exact phrased_pure state
  | none =>
    refine (phrased_log ?_).bind fun _ _ => phrased_pure _
    simp only [String.append_assoc]
    exact not_tellsOfMisfit "Unknown power state " _ (by decide) (by decide)

end Answers

end ServerPower.Proofs
