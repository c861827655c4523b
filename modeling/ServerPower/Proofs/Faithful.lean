import ServerPower.Proofs.Phrased

/-!
# Runs that are faithful to their words

A run is faithful if strict settings do not matter to it: it comes to the same outcome on the same
scene, with the same journal. What it writes down tells of no misfit, and the failures that it
notes, records or ends with are explained. Every part of a run is faithful if what others do
meanwhile is, and by induction on the depth of their actions everything is.
-/

namespace ServerPower.Proofs
open Run

/-- The same setup with strict settings or without. -/
def judged (setup : Setup) (strict : Bool) : Setup :=
  { setup with strict }

/-- An event tells of no misfit, and a failure in it is explained: one of a call, by what its own
request was met with. -/
def Clean (W : Sources) : Event → Prop
  | .logged r => ¬ TellsOfMisfit r
  | .answered _ request (.error failure) =>
    ∃ uri cause, W.Refuses request.url cause ∧ failure = transportFailed request.method uri cause
  | .acted (.error failure) => Explained W failure
  | _ => True

/-- The answers to come are those of the manager, and every failure on record is explained. -/
structure Clear (W : Sources) (s : Scene) : Prop where
  answers : s.supply.answers ⊆ W.answers
  failure? : ∀ failure, s.order.failure? = some failure → Explained W failure
  journal : ∀ e ∈ s.journal, Clean W e.event

/-- What a run ends with: a result as `post` says, or an explained failure. -/
def Comes {α : Type} (W : Sources) (post : α → Prop) : Except Failure α → Prop
  | .ok a => post a
  | .error failure => Explained W failure

/-- From a clear scene the run goes the same way whether settings are strict or not, and it comes to
a clear scene. -/
structure Faithful {α : Type} (W : Sources) (post : α → Prop) (run : Bool → Run α) : Prop where
  same : ∀ {s}, Clear W s → ∀ strict, (run strict).run s = (run false).run s
  clear : ∀ {s}, Clear W s → Clear W ((run false).run s).2
  comes : ∀ {s}, Clear W s → Comes W post ((run false).run s).1

section Combinators

variable {W : Sources} {α β : Type} {post : α → Prop} {run : Bool → Run α}

/-- A run is faithful if it is on each clear scene. -/
lemma faithful_of_scene
    (h : ∀ s, Clear W s → (∀ strict, (run strict).run s = (run false).run s) ∧
      Clear W ((run false).run s).2 ∧ Comes W post ((run false).run s).1) :
    Faithful W post run :=
  ⟨fun hs => (h _ hs).1, fun hs => (h _ hs).2.1, fun hs => (h _ hs).2.2⟩

lemma faithful_pure {a : α} (h : post a) : Faithful W post (fun _ => pure a) :=
  ⟨fun _ _ => rfl, id, fun _ => h⟩

lemma faithful_return (a : α) : Faithful W (fun _ => True) (fun _ => pure a) :=
  faithful_pure trivial

lemma faithful_throw {failure : Failure} (h : Explained W failure) :
    Faithful W post (fun _ => throw failure) :=
  ⟨fun _ _ => rfl, id, fun _ => h⟩

lemma Faithful.mono {other : α → Prop} (h : Faithful W post run) (hp : ∀ a, post a → other a) :
    Faithful W other run := by
  refine ⟨h.same, h.clear, fun {s} hs => ?_⟩
  have hcomes := h.comes hs
  cases ho : ((run false).run s).1 with
  | ok a =>
    rw [ho] at hcomes
    exact hp a hcomes
  | error failure =>
    rw [ho] at hcomes
    exact hcomes

lemma Faithful.bind {goal : β → Prop} {next : Bool → α → Run β} (h : Faithful W post run)
    (hn : ∀ a, post a → Faithful W goal (next · a)) :
    Faithful W goal (fun strict => run strict >>= next strict) := by
  refine faithful_of_scene fun s hs => ?_
  have hclear := h.clear hs
  have hcomes := h.comes hs
  simp only [run_bind, h.same hs]
  rcases hr : (run false).run s with ⟨failure | a, t⟩ <;> rw [hr] at hclear hcomes
  · exact ⟨fun _ => rfl, hclear, hcomes⟩
  · have hnext := hn a hcomes
    exact ⟨hnext.same hclear, hnext.clear hclear, hnext.comes hclear⟩

/-- What follows a run that always fails is never reached. -/
lemma Faithful.stops {goal : β → Prop} {next : Bool → α → Run β}
    (h : Faithful W (fun _ => False) run) :
    Faithful W goal (fun strict => run strict >>= next strict) :=
  h.bind fun _ hf => hf.elim

lemma faithful_ofExcept {outcome : Except Failure α} (h : Comes W post outcome) :
    Faithful W post (fun _ => Run.ofExcept outcome) := by
  cases outcome with
  | ok a => exact faithful_pure h
  | error failure => exact faithful_throw h

/-- An outcome whose failure is explained comes to what it is. -/
lemma faithful_outcomeOf {outcome : Except Failure α}
    (h : ∀ failure, outcome = .error failure → Explained W failure) :
    Faithful W (fun a => outcome = .ok a) (fun _ => Run.ofExcept outcome) := by
  refine faithful_ofExcept ?_
  cases outcome with
  | ok a => rfl
  | error failure => exact h failure rfl

lemma faithful_get : Faithful W (Clear W) (fun _ => (get : Run Scene)) :=
  ⟨fun _ _ => rfl, id, id⟩

lemma faithful_modify {f : Scene → Scene} (h : ∀ s, Clear W s → Clear W (f s)) :
    Faithful W (fun _ => True) (fun _ => (modify f : Run PUnit)) :=
  ⟨fun _ _ => rfl, fun hs => h _ hs, fun _ => trivial⟩

lemma faithful_set {s : Scene} (h : Clear W s) :
    Faithful W (fun _ => True) (fun _ => (set s : Run PUnit)) :=
  ⟨fun _ _ => rfl, fun _ => h, fun _ => trivial⟩

lemma faithful_record {event : Event} (h : Clean W event) :
    Faithful W (fun _ => True) (fun _ => record event) := by
  refine faithful_modify fun s hs => ⟨hs.answers, hs.failure?, ?_⟩
  exact List.forall_mem_cons.mpr ⟨h, hs.journal⟩

lemma faithful_setPhase (phase : Phase) : Faithful W (fun _ => True) (fun _ => setPhase phase) :=
  faithful_modify fun _ hs => ⟨hs.answers, hs.failure?, hs.journal⟩

/-- What an order keeps of its failure, or takes up in place of it, has to be explained. -/
lemma faithful_updateOrder {f : PowerOrder → PowerOrder}
    (h : ∀ order failure, (f order).failure? = some failure →
      order.failure? = some failure ∨ Explained W failure) :
    Faithful W (fun _ => True) (fun _ => updateOrder f) := by
  refine faithful_modify fun s hs => ⟨hs.answers, fun failure hf => ?_, hs.journal⟩
  exact (h s.order failure hf).elim (hs.failure? failure) id

lemma faithful_order :
    Faithful W (fun order => ∀ failure, order.failure? = some failure → Explained W failure)
      (fun _ => order) :=
  ⟨fun _ _ => rfl, id, fun hs => hs.failure?⟩

lemma faithful_outcome (h : Faithful W post run) :
    Faithful W (Comes W post) (fun strict => outcome (run strict)) := by
  refine faithful_of_scene fun s hs => ?_
  simp only [run_outcome, h.same hs]
  exact ⟨fun _ => trivial, h.clear hs, h.comes hs⟩

lemma faithful_forM {jobs : List β} {each : Bool → β → Run Unit}
    (h : ∀ job ∈ jobs, Faithful W (fun _ => True) (each · job)) :
    Faithful W (fun _ => True) (fun strict => jobs.forM (each strict)) := by
  induction jobs with
  | nil => exact faithful_return _
  | cons job jobs ih =>
    exact (h job (List.mem_cons_self ..)).bind
      fun _ _ => ih fun other hm => h other (List.mem_cons_of_mem _ hm)

lemma faithful_settle {make : Bool → Report α} (h : Phrased (Explained W) make) :
    Faithful W (fun outcome => outcome = (make false).outcome ∧ Comes W (fun _ => True) outcome)
      (fun strict => settle (make strict)) := by
  have hsame : (fun strict => settle (make strict)) = fun _ => settle (make false) :=
    funext fun strict => by rw [h.same strict]
  rw [hsame]
  refine Faithful.bind (faithful_forM fun r hr => faithful_record (h.records r hr))
    fun _ _ => faithful_pure ⟨rfl, ?_⟩
  cases ho : (make false).outcome with
  | ok a => trivial
  | error failure => exact h.failures failure ho

lemma faithful_ofReport {make : Bool → Report α} (h : Phrased (Explained W) make) :
    Faithful W (fun a => (make false).outcome = .ok a) (fun strict => ofReport (make strict)) := by
  refine (faithful_settle h).bind fun outcome ho => faithful_ofExcept ?_
  cases outcome with
  | ok a => exact ho.1.symm
  | error failure => exact ho.2

/-- Raising a failure of the program ends a run with that failure. -/
lemma faithful_raise {kind : FailureKind} {values : Template.Values} {failure : Failure}
    (hb : ∀ strict, Failure.build strict kind values = pure failure) (he : Explained W failure) :
    Faithful W (fun _ => False)
      (fun strict => ofReport (Failure.raise strict kind values : Report α)) := by
  refine (faithful_ofReport (phrased_raise hb he)).mono fun a ha => ?_
  rw [raise_outcome] at ha
  cases ha

lemma faithful_log {level : ServerPower.Level} {text : String}
    (h : ¬ TellsOfMisfit ⟨level, .ok text⟩) :
    Faithful W (fun _ => True) (fun _ => log level text) :=
  faithful_record h

lemma faithful_tryCatch {handler : Bool → Failure → Run α} (h : Faithful W post run)
    (hn : ∀ failure, Explained W failure → Faithful W post (handler · failure)) :
    Faithful W post (fun strict => tryCatch (run strict) (handler strict)) := by
  refine faithful_of_scene fun s hs => ?_
  have hclear := h.clear hs
  have hcomes := h.comes hs
  simp only [run_tryCatch, h.same hs]
  rcases hr : (run false).run s with ⟨failure | a, t⟩ <;> rw [hr] at hclear hcomes
  · have hnext := hn failure hcomes
    exact ⟨hnext.same hclear, hnext.clear hclear, hnext.comes hclear⟩
  · exact ⟨fun _ => rfl, hclear, hcomes⟩

end Combinators

/-- What is handed over during a wait is one of the failures from elsewhere. -/
def HandsInWaits (W : Sources) (duringWait : Nat → List Action) : Prop :=
  ∀ number, ∀ action ∈ duringWait number, Hands W.foreign action

/-- What others do during calls and waits is faithful. -/
def FaithfulHook (W : Sources) (hook : Bool → Hook) : Prop :=
  ∀ actions, (∀ action ∈ actions, Hands W.foreign action) →
    Faithful W (fun _ => True) (fun strict => hook strict actions)

section Queries

variable {W : Sources} {setup : Setup} {hook : Bool → Hook}

lemma gives_next {supply : Supply} (h : supply.answers ⊆ W.answers) (request : Request) :
    W.Gives (supply.next request).1 :=
  (next_eq_or_mem request supply).imp id fun hm => h hm

lemma Sources.Gives.during {answer : Answer} (h : W.Gives answer) :
    ∀ action ∈ answer.during, Hands W.foreign action := by
  rcases h with rfl | h
  · exact fun _ ha => nomatch ha
  · exact W.during answer h

/-- What comes of an answer is a text that the manager sent, or what explains its fault. -/
lemma readAnswer_cases {answer : Answer} (h : W.Gives answer) (strict : Bool) (method : String)
    (uri : Json) (request : Request) :
    (∃ body, (readAnswer strict method uri request answer).outcome = .ok body ∧ W.Sends body) ∨
      ∃ cause, (sentBack answer).body request.url = .error cause ∧
        (readAnswer strict method uri request answer).outcome =
          .error (transportFailed method uri cause) := by
  rw [readAnswer_eq h.network]
  cases hb : (sentBack answer).body request.url with
  | ok body => exact .inl ⟨body, rfl, answer, request.url, h, hb⟩
  | error cause => exact .inr ⟨cause, rfl, rfl⟩

/-- The end of a call is clean, and it yields a text that the manager sent unless it fails. -/
lemma clean_answered {answer : Answer} (h : W.Gives answer) {client : Client} {method : String}
    {uri body : Json} {request : Request} (hr : client.request method uri body = .ok request)
    (origin : Origin) :
    let outcome := (readAnswer false method uri request answer).outcome
    Clean W (.answered origin request outcome) ∧ Comes W W.Sends outcome := by
  have hmethod := (Client.of_request_eq_ok hr).1
  rcases readAnswer_cases h false method uri request with ⟨text, ho, hsent⟩ | ⟨cause, hb, ho⟩
  · rw [ho]
    exact ⟨trivial, hsent⟩
  · rw [ho]
    refine ⟨⟨uri, cause, ⟨answer, h, hb⟩, by rw [hmethod]⟩, ?_⟩
    exact .transport method uri ⟨answer, h, hb⟩

/-- A call yields a text that the manager sent, or fails with what explains its fault. -/
lemma faithful_call (hh : FaithfulHook W hook) (origin : Origin) (client : Client) (method : String)
    (uri body : Json) :
    Faithful W W.Sends (fun strict =>
      call (judged setup strict) (hook strict) origin client method uri body) := by
  refine Faithful.bind (faithful_outcomeOf fun _ h => .unfit (request_error h))
    fun request hr => ?_
  refine Faithful.bind (faithful_record trivial) fun _ _ => ?_
  refine Faithful.bind faithful_get fun s hs => ?_
  have hanswer := gives_next hs.answers request
  have hleft : (s.supply.next request).2.answers ⊆ W.answers :=
    fun answer ha => hs.answers (answers_next_subset request s.supply ha)
  refine Faithful.bind (faithful_modify fun t ht => ⟨hleft, ht.failure?, ht.journal⟩) fun _ _ => ?_
  refine Faithful.bind (hh _ hanswer.during) fun _ _ => ?_
  refine Faithful.bind (faithful_settle (phrased_readAnswer hanswer method uri request))
    fun outcome ho => ?_
  obtain ⟨hclean, hcomes⟩ := clean_answered hanswer hr origin
  rw [ho.1]
  exact Faithful.bind (faithful_record hclean) fun _ _ => faithful_ofExcept hcomes

lemma faithful_observe (hh : FaithfulHook W hook) (origin : Origin) (attempt? : Option Int) :
    Faithful W (fun _ => True) (fun strict =>
      observe (judged setup strict) (hook strict) origin attempt?) := by
  refine Faithful.bind faithful_order fun order _ => ?_
  dsimp only
  split
  · refine Faithful.bind (faithful_updateOrder fun _ _ h => .inl h) fun _ _ => ?_
    exact (faithful_raise (fun strict => build_missingHardware strict _) (.noAddress _)).stops
  · refine Faithful.bind (faithful_call hh origin _ _ _ _) fun body hbody => ?_
    refine Faithful.bind (faithful_ofReport (phrased_readHardware hbody _)) fun latest _ => ?_
    refine Faithful.bind (faithful_ofReport (phrased_classify latest)) fun state _ => ?_
    refine Faithful.bind (faithful_updateOrder fun order failure h => .inl ?_)
      fun _ _ => faithful_return _
    exact (Unmarked.noteHardware order _ _ _).failure?.symm.trans h

lemma faithful_refresh (hh : FaithfulHook W hook) (origin : Origin) (attempt? : Option Int) :
    Faithful W (fun task? => ∀ task ∈ task?, W.Reports task) (fun strict =>
      refresh (judged setup strict) (hook strict) origin attempt?) := by
  refine Faithful.bind faithful_order fun order _ => ?_
  dsimp only
  split
  · exact faithful_pure fun _ h => nomatch h
  · refine Faithful.bind (faithful_call hh origin _ _ _ _) fun body hbody => ?_
    refine Faithful.bind (faithful_ofReport (phrased_readTask hbody _ _)) fun latest hl => ?_
    refine Faithful.bind (faithful_updateOrder fun order failure h => .inl ?_)
      fun _ _ => faithful_pure ?_
    · exact (Unmarked.noteProgress order _ _).failure?.symm.trans h
    · rintro task ⟨⟩
      exact reports_of_readTask hbody hl

end Queries

section Submissions

variable {W : Sources} {setup : Setup} {hook : Bool → Hook}

/-- A failure that ends an attempt has to be explained. -/
lemma faithful_markDone {failure? : Option Failure}
    (h : ∀ failure, failure? = some failure → Explained W failure) (attempt? : Option Int) :
    Faithful W (fun _ => True) (fun _ => updateOrder (·.markDone failure? attempt?)) := by
  refine faithful_updateOrder fun order failure hf => ?_
  unfold PowerOrder.markDone at hf
  split at hf
  · cases ho : order.failure? with
    | none =>
      rw [ho] at hf
      exact .inr (h failure hf)
    | some first =>
      rw [ho] at hf
      exact .inl hf
  · exact .inl hf

lemma faithful_giveUp {failure : Failure} (he : Explained W failure) {message : String}
    (hm : message.toList.take 2 ≠ ['E', 'x']) (hlength : 2 ≤ message.toList.length)
    (attempt : Int) : Faithful W (fun _ => True) (fun _ => giveUp attempt message failure) := by
  refine Faithful.bind (faithful_log (not_tellsOfMisfit message _ hm hlength)) fun _ _ => ?_
  refine faithful_markDone ?_ _
  rintro other ⟨⟩
  exact he

lemma faithful_requestChange (hh : FaithfulHook W hook) (origin : Origin) (target : PowerState)
    (attempt : Int) :
    Faithful W (fun _ => True) (fun strict =>
      requestChange (judged setup strict) (hook strict) origin target attempt) := by
  refine Faithful.bind faithful_order fun order _ => ?_
  dsimp only
  have hannounced : ¬ TellsOfMisfit (announcement target order.hardware.hardware) := by
    simp only [announcement, String.append_assoc]
    exact not_tellsOfMisfit "Powering " _ (by decide) (by decide)
  refine Faithful.bind (faithful_log hannounced) fun _ _ => ?_
  refine Faithful.bind (faithful_outcomeOf fun _ h => .unfit (powerUri_error h)) fun uri _ => ?_
  refine Faithful.bind (faithful_outcome (faithful_call hh origin _ _ _ _)) fun result hr => ?_
  cases result with
  | error failure =>
    dsimp only
    split
    · exact faithful_giveUp hr (by decide) (by decide) attempt
    · exact faithful_throw hr
  | ok body =>
    dsimp only
    refine Faithful.bind (faithful_outcome (faithful_ofReport (phrased_readTask hr _ _)))
      fun result ht => ?_
    cases result with
    | error failure =>
      dsimp only
      split
      · exact faithful_giveUp ht (by decide) (by decide) attempt
      · exact faithful_throw ht
    | ok task =>
      refine faithful_updateOrder fun order failure h => .inl ?_
      exact (Unmarked.noteTask order _ _).failure?.symm.trans h

lemma faithful_submit (hh : FaithfulHook W hook) (target : PowerState) (attempt? : Option Int) :
    Faithful W (fun _ => True) (fun strict =>
      submit (judged setup strict) (hook strict) target attempt?) := by
  refine Faithful.bind faithful_order fun order _ => ?_
  refine Faithful.bind faithful_get fun s _ => ?_
  refine Faithful.bind
    (faithful_modify fun t ht => ⟨ht.answers, ht.failure?, ht.journal⟩) fun _ _ => ?_
  refine Faithful.bind (faithful_outcome (faithful_observe hh _ _)) fun result hr => ?_
  cases result with
  | error failure =>
    dsimp only
    split
    · exact faithful_giveUp hr (by decide) (by decide) _
    · exact faithful_throw hr
  | ok state =>
    dsimp only
    split
    · refine Faithful.bind (faithful_log ?_) fun _ _ => faithful_markDone (by simp) _
      exact not_tellsOfMisfit "Desired power state already set -> " _ (by decide) (by decide)
    · exact faithful_requestChange hh _ target _

lemma faithful_work (hh : FaithfulHook W hook) (target : PowerState) (attempt : Int) :
    Faithful W (fun _ => True) (fun strict =>
      work (judged setup strict) (hook strict) target attempt) := by
  refine Faithful.bind (faithful_outcome (faithful_submit hh target _)) fun result hr => ?_
  cases result with
  | ok done => cases done; exact faithful_return _
  | error failure => exact faithful_giveUp hr (by decide) (by decide) attempt

lemma faithful_enqueue (hh : FaithfulHook W hook) (target : PowerState) (attempt : Int) :
    Faithful W (fun _ => True) (fun strict =>
      enqueue (judged setup strict) (hook strict) target attempt) := by
  refine Faithful.bind faithful_get fun s hs => ?_
  dsimp only
  split
  · exact (faithful_throw .closed).stops
  · split
    · exact faithful_work hh target attempt
    · exact faithful_set ⟨hs.answers, hs.failure?, hs.journal⟩
    · exact faithful_return _
    · exact faithful_return _

end Submissions

section Executions

variable {W : Sources} {setup : Setup} {hook : Bool → Hook}

lemma faithful_pause (hh : FaithfulHook W hook) (hw : HandsInWaits W setup.duringWait)
    (origin : Origin) (delay : Json) :
    Faithful W (fun _ => True) (fun strict =>
      pause (judged setup strict) (hook strict) origin delay) := by
  refine Faithful.bind (faithful_record trivial) fun _ _ => ?_
  refine Faithful.bind faithful_get fun s hs => ?_
  dsimp only
  refine Faithful.bind (faithful_set ⟨hs.answers, hs.failure?, hs.journal⟩) fun _ _ => ?_
  refine Faithful.bind (faithful_forM fun job _ => faithful_work hh job.target job.attempt)
    fun _ _ => ?_
  refine Faithful.bind faithful_get fun t _ => ?_
  refine Faithful.bind (hh _ (hw t.waits)) fun _ _ => ?_
  exact Faithful.bind faithful_order fun _ _ => faithful_return _

lemma faithful_check (hh : FaithfulHook W hook) (target : PowerState) (attempt : Int) :
    Faithful W (fun _ => True) (fun strict =>
      check (judged setup strict) (hook strict) target attempt) := by
  refine Faithful.bind (faithful_refresh hh _ _) fun task? htask => ?_
  cases task? with
  | none =>
    exact faithful_log (not_tellsOfMisfit "Working on power state." "" (by decide) (by decide))
  | some task =>
    have hprogress : Faithful W (fun _ => True) (fun _ => logRecord (progressRecord task)) :=
      faithful_record (not_tellsOfMisfit_progressRecord task)
    dsimp only
    split
    · exact Faithful.bind (faithful_markDone (by simp) _) fun _ _ => hprogress
    · split
      · rename_i hfailed
        refine Faithful.bind (faithful_outcomeOf fun _ h => .unfit (errorSummary_error h))
          fun reason hr => ?_
        have hexplained : Explained W (changeFailed target reason) :=
          .failedTask target (htask task rfl) hfailed hr
        have hfailure : Phrased (Explained W) (fun strict =>
            changeFailure (judged setup strict) target reason) := by
          simp only [changeFailure_eq]
          exact phrased_pure _
        refine Faithful.bind (faithful_ofReport hfailure) fun failure hf => ?_
        rw [changeFailure_eq] at hf
        cases hf
        refine Faithful.bind (faithful_markDone ?_ _) fun _ _ => hprogress
        rintro other ⟨⟩
        exact hexplained
      · exact hprogress

/-- What a look at the order shows is explained. -/
def Seen (W : Sources) (seen : Glance) : Prop :=
  ∀ failure, seen.failure? = some failure → Explained W failure

lemma faithful_glance : Faithful W (Seen W) (fun _ => glance) :=
  Faithful.bind faithful_order fun _ h => faithful_pure h

lemma faithful_follow (hh : FaithfulHook W hook) (hw : HandsInWaits W setup.duringWait)
    (target : PowerState) (attempt : Int) (fuel checks : Nat) :
    Faithful W (fun last => Seen W last.2) (fun strict =>
      follow (judged setup strict) (hook strict) target attempt fuel checks) := by
  induction fuel generalizing checks with
  | zero => exact Faithful.bind faithful_glance fun _ h => faithful_pure h
  | succ fuel ih =>
    refine Faithful.bind faithful_glance fun seen hseen => ?_
    split
    · exact faithful_pure hseen
    · refine Faithful.bind faithful_order fun order _ => ?_
      refine Faithful.bind (faithful_outcomeOf fun _ h => .unfit (allowsCheck_error h))
        fun more _ => ?_
      split
      · exact faithful_pure hseen
      · refine Faithful.bind (faithful_check hh target attempt) fun _ _ => ?_
        refine Faithful.bind faithful_order fun order _ => ?_
        exact Faithful.bind (faithful_pause hh hw _ _) fun _ _ => ih (checks + 1)

/-- Where an execution fails with what failed its attempt, that is explained once more unless it is
a failure of the change already. -/
lemma faithful_conclude (target : PowerState) (name : Json) (checks : Nat) {seen : Glance}
    (h : Seen W seen) :
    Faithful W (fun _ => True) (fun strict =>
      conclude (judged setup strict) target name checks seen) := by
  have hfinish : ∀ result : PowerResult, Faithful W (fun _ => True) (fun _ => (do
      let result ← pure result
      log .info "Power task execution completed"
      return result : Run PowerResult)) := by
    intro result
    refine Faithful.bind (faithful_return result) fun _ _ => ?_
    refine Faithful.bind (faithful_log ?_) fun _ _ => faithful_return _
    exact not_tellsOfMisfit "Power task execution completed" "" (by decide) (by decide)
  unfold conclude
  cases hf : seen.failure? with
  | some failure =>
    dsimp only
    refine Faithful.bind (faithful_setPhase _) fun _ _ => ?_
    split
    · exact (faithful_throw (h failure hf)).stops
    · rename_i hother
      have hexplained : Explained W (changeFailed target failure.text) :=
        .change target (by simpa using hother) (h failure hf)
      have hfailure : Phrased (Explained W) (fun strict =>
          changeFailure (judged setup strict) target failure.text) := by
        simp only [changeFailure_eq]
        exact phrased_pure _
      refine Faithful.bind (faithful_ofReport hfailure) fun wrapped hw => ?_
      rw [changeFailure_eq] at hw
      cases hw
      exact (faithful_throw hexplained).stops
  | none =>
    dsimp only
    split
    · exact Faithful.bind (faithful_setPhase _) fun _ _ => hfinish .completed
    · split
      · refine Faithful.bind (faithful_setPhase _) fun _ _ => ?_
        refine Faithful.bind (faithful_log ?_) fun _ _ => hfinish .cancelled
        simp only [String.append_assoc]
        exact not_tellsOfMisfit "Power " _ (by decide) (by decide)
      · refine Faithful.bind (faithful_setPhase _) fun _ _ => ?_
        refine Faithful.bind (faithful_log ?_) fun _ _ => ?_
        · simp only [String.append_assoc]
          exact not_tellsOfMisfit "Power " _ (by decide) (by decide)
        · cases hs : setup.failOnTimeout with
          | false =>
            simp only [judged, hs, Bool.false_eq_true, if_false]
            exact hfinish .timedOut
          | true =>
            simp only [judged, hs, if_true]
            exact (faithful_raise (fun strict => build_powerTimeout strict checks name target.wire)
              (.timedOut target name checks)).stops

lemma faithful_poll (hh : FaithfulHook W hook) (hw : HandsInWaits W setup.duringWait)
    (target : PowerState) (attempt : Int) :
    Faithful W (fun _ => True) (fun strict =>
      poll (judged setup strict) (hook strict) target attempt) := by
  refine Faithful.bind faithful_order fun order _ => ?_
  refine Faithful.bind (faithful_setPhase _) fun _ _ => ?_
  refine Faithful.bind (faithful_follow hh hw target attempt (setup.checkBound + 1) 0)
    fun last hseen => ?_
  exact faithful_conclude target _ _ hseen

lemma faithful_launch (hh : FaithfulHook W hook) (target : PowerState) :
    Faithful W (fun _ => True) (fun strict =>
      launch (judged setup strict) (hook strict) target) := by
  refine Faithful.bind (faithful_updateOrder ?_) fun _ _ => ?_
  · rintro order failure ⟨⟩
  refine Faithful.bind faithful_order fun order _ => ?_
  refine Faithful.bind (faithful_setPhase _) fun _ _ => ?_
  refine Faithful.bind (faithful_enqueue hh target _) fun _ _ => ?_
  exact Faithful.bind (faithful_setPhase _) fun _ _ => faithful_return _

lemma faithful_execute (hh : FaithfulHook W hook) (hw : HandsInWaits W setup.duringWait)
    (target : PowerState) :
    Faithful W (fun _ => True) (fun strict =>
      execute (judged setup strict) (hook strict) target) := by
  unfold execute
  dsimp only
  split
  · exact (faithful_raise (fun strict => build_invalidParameter strict _) (.noTarget target)).stops
  · refine Faithful.bind (faithful_launch hh target) fun attempt _ => ?_
    refine faithful_tryCatch (faithful_poll hh hw target _) fun failure hf => ?_
    refine Faithful.bind faithful_get fun s _ => ?_
    split
    · exact Faithful.bind (faithful_setPhase _) fun _ _ => faithful_throw hf
    · exact faithful_throw hf

lemma faithful_close (wait : Json) :
    Faithful W (fun _ => True) (fun strict => close (judged setup strict) wait) := by
  unfold close
  cases ho : setup.ownPool with
  | false =>
    simp only [judged, ho, Bool.false_eq_true, if_false]
    exact faithful_return _
  | true =>
    simp only [judged, ho, if_true]
    refine Faithful.bind (faithful_record trivial) fun _ _ => ?_
    exact faithful_modify fun s hs => ⟨hs.answers, hs.failure?, hs.journal⟩

lemma faithful_executeOnce (hh : FaithfulHook W hook) (hw : HandsInWaits W setup.duringWait)
    (target : PowerState) :
    Faithful W (fun _ => True) (fun strict =>
      executeOnce (judged setup strict) (hook strict) target) := by
  refine Faithful.bind (faithful_outcome (faithful_execute hh hw target)) fun result hr => ?_
  exact Faithful.bind (faithful_close _) fun _ _ => faithful_ofExcept hr

end Executions

section Actions

variable {W : Sources} {setup : Setup}

/-- What is handed over to end an attempt is a failure that is explained. -/
lemma faithful_handed {spec? : Option FailureSpec} {attempt? : Option Int}
    (h : Hands W.foreign (.markDone spec? attempt?)) :
    Faithful W (fun failure? => ∀ failure, failure? = some failure → Explained W failure)
      (fun strict => spec?.mapM fun spec => ofReport (spec.build strict)) := by
  cases spec? with
  | none => exact faithful_pure (by simp)
  | some spec =>
    obtain ⟨failure, hfailure, hbuilt⟩ := h
    have hspec : Phrased (Explained W) (fun strict => spec.build strict) := by
      simp only [hbuilt]
      exact phrased_pure failure
    simp only [Option.mapM_some, map_eq_pure_bind]
    refine Faithful.bind (faithful_ofReport hspec) fun built hb => faithful_pure ?_
    rw [hbuilt] at hb
    cases hb
    rintro other ⟨⟩
    exact .foreign hfailure

/-- An action of others is faithful if what others do during it is, and what it hands over is
explained. -/
theorem faithful_perform {hook : Bool → Hook} (hh : FaithfulHook W hook)
    (hw : HandsInWaits W setup.duringWait) {action : Action} (ha : Hands W.foreign action) :
    Faithful W (fun _ => True) (fun strict =>
      perform (judged setup strict) (hook strict) action) := by
  cases action with
  | reset =>
    refine Faithful.bind (faithful_updateOrder ?_) fun _ _ => ?_
    · rintro order failure ⟨⟩
    exact Faithful.bind faithful_order fun _ _ => faithful_return _
  | markDone spec? attempt? =>
    refine Faithful.bind (faithful_handed ha) fun failure? hf => ?_
    exact Faithful.bind (faithful_markDone hf attempt?) fun _ _ => faithful_return _
  | cancel =>
    exact Faithful.bind (faithful_updateOrder fun _ _ h => .inl h) fun _ _ => faithful_return _
  | wait delay =>
    exact Faithful.bind (faithful_pause hh hw _ _) fun _ _ => faithful_return _
  | observe attempt? =>
    exact Faithful.bind (faithful_observe hh _ _) fun _ _ => faithful_return _
  | submit target attempt? =>
    exact Faithful.bind (faithful_submit hh _ _) fun _ _ => faithful_return _
  | refresh attempt? =>
    exact Faithful.bind (faithful_refresh hh _ _) fun _ _ => faithful_return _
  | setTask task =>
    exact Faithful.bind (faithful_updateOrder fun _ _ h => .inl h) fun _ _ => faithful_return _
  | setHardware hardware =>
    exact Faithful.bind (faithful_updateOrder fun _ _ h => .inl h) fun _ _ => faithful_return _
  | setTiming limit? interval? =>
    exact Faithful.bind (faithful_updateOrder fun _ _ h => .inl h) fun _ _ => faithful_return _
  | setMoment moment =>
    refine Faithful.bind (faithful_modify fun s hs => ?_) fun _ _ => faithful_return _
    exact ⟨hs.answers, hs.failure?, hs.journal⟩
  | execute target =>
    exact Faithful.bind (faithful_execute hh hw _) fun _ _ => faithful_return _
  | executeOnce target =>
    exact Faithful.bind (faithful_executeOnce hh hw _) fun _ _ => faithful_return _
  | close wait =>
    exact Faithful.bind (faithful_close _) fun _ _ => faithful_return _
  | look => exact faithful_return _

/-- Whatever others do is faithful, at every depth: the actions during a call are those of an
answer, and the actions during a wait are given. -/
theorem faithful_hookAt (hw : HandsInWaits W setup.duringWait) (depth : Nat) :
    FaithfulHook W (fun strict => hookAt (judged setup strict) depth) := by
  induction depth with
  | zero => exact fun _ _ => faithful_return _
  | succ depth ih =>
    intro actions hactions
    refine faithful_forM fun action ha => ?_
    refine Faithful.bind (faithful_outcome (faithful_perform ih hw (hactions action ha)))
      fun result hr => faithful_record ?_
    cases result with
    | ok _ => trivial
    | error failure => exact hr

/-- The steps of a script go the same way whether settings are strict or not, and after each of them
the scene is clear and what it came to is explained. -/
theorem faithful_play (hw : HandsInWaits W setup.duringWait) (script : Script)
    {steps : List Action} (hsteps : ∀ action ∈ steps, Hands W.foreign action) {s : Scene}
    (hs : Clear W s) :
    (∀ strict,
        script.play (judged setup strict) s steps = script.play (judged setup false) s steps) ∧
      ∀ r ∈ script.play (judged setup false) s steps,
        Clear W r.2 ∧ Comes W (fun _ => True) r.1 := by
  induction steps generalizing s with
  | nil => exact ⟨fun _ => rfl, fun _ hr => nomatch hr⟩
  | cons action steps ih =>
    have hstep : Faithful W (fun _ => True) (fun strict =>
        script.step (judged setup strict) action) :=
      faithful_perform (faithful_hookAt hw script.depth) hw (hsteps action (List.mem_cons_self ..))
    obtain ⟨hsame, hrest⟩ :=
      ih (fun other hm => hsteps other (List.mem_cons_of_mem _ hm)) (hstep.clear hs)
    refine ⟨fun strict => ?_, List.forall_mem_cons.mpr ⟨⟨hstep.clear hs, hstep.comes hs⟩, hrest⟩⟩
    have hfirst : (script.step (judged setup strict) action).run.run s =
        (script.step (judged setup false) action).run.run s := hstep.same hs strict
    simp only [Script.play, hfirst]
    exact congrArg _ (hsame strict)

end Actions

end ServerPower.Proofs
