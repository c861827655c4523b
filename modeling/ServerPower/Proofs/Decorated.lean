import ServerPower.Proofs.SameAnswers
import ServerPower.Proofs.Unattended

/-!
# Decorated answers

Two executions whose answers differ only in what is shown go the same way: they send the same
requests, wait as often, and end alike.
-/

namespace ServerPower.Proofs
open Run

/-- Scenes of two runs that went the same way, with answers left that say the same. -/
structure Resembles (must : List (String × Json) → Prop) (s s' : Scene) : Prop where
  order : SameOrder s.order s'.order
  supply : ∃ contents contents', AllSame must contents contents' ∧
    s.supply = .queue (contents.map fun content => { content }) ∧
    s'.supply = .queue (contents'.map fun content => { content })
  moment : s'.moment = s.moment
  phase : s'.phase = s.phase
  poolOpen : s'.poolOpen = s.poolOpen
  pending : s'.pending = s.pending
  waits : s'.waits = s.waits
  submissions : s'.submissions = s.submissions
  sent : sentRequests s' = sentRequests s
  waited : waitCount s' = waitCount s

/-- Scenes that resemble each other. As long as there is no task, the next answer is about the
hardware and need not be a report. -/
structure Tallies (s s' : Scene) : Prop where
  resembles : Resembles (fun _ => True) s s'
  followed : s.order.task.exists? → Resembles Reported s s'

/-- Results of two runs: related values and scenes, or failures of one kind. -/
inductive Parallel {α : Type} (R : α → α → Prop) (I J : Scene → Scene → Prop) :
    Except Failure α × Scene → Except Failure α × Scene → Prop
  | ok {a a' : α} {s s' : Scene} (value : R a a') (scenes : I s s') :
      Parallel R I J (.ok a, s) (.ok a', s')
  | error {failure failure' : Failure} {s s' : Scene} (kind : failure'.kind = failure.kind)
      (scenes : J s s') : Parallel R I J (.error failure, s) (.error failure', s')

/-- What the answers say next, and what is left of them. -/
lemma AllSame.next {must : List (String × Json) → Prop} {contents contents' : List AnswerContent}
    (h : AllSame must contents contents') :
    AnswersSame must (nextAnswer contents).content (nextAnswer contents').content ∧
      AllSame Reported contents.tail contents'.tail := by
  cases h with
  | nil => exact ⟨.same, .nil⟩
  | cons first rest =>
    refine ⟨first, ?_⟩
    cases rest with
    | nil => exact .nil
    | cons second rest => exact .cons second rest

section Scenes

variable {must : List (String × Json) → Prop} {s s' t t' : Scene}

lemma logged_eq (records : List Record) (s : Scene) :
    ∃ journal, logged records s = { s with journal } := by
  induction records generalizing s with
  | nil => exact ⟨s.journal, rfl⟩
  | cons r records ih =>
    obtain ⟨journal, hj⟩ := ih (s.note (.logged r))
    exact ⟨journal, hj⟩

lemma sentRequests_logged (records : List Record) (s : Scene) :
    sentRequests (logged records s) = sentRequests s := by
  induction records generalizing s with
  | nil => rfl
  | cons r records ih =>
    rw [logged_cons, ih, sentRequests_note]
    exact List.append_nil _

lemma waitCount_logged (records : List Record) (s : Scene) :
    waitCount (logged records s) = waitCount s := by
  induction records generalizing s with
  | nil => rfl
  | cons r records ih =>
    rw [logged_cons, ih, waitCount_note]
    rfl

lemma Resembles.mono {may : List (String × Json) → Prop} (h : Resembles must s s')
    (hm : ∀ members, must members → may members) : Resembles may s s' := by
  obtain ⟨contents, contents', hall, hs, hs'⟩ := h.supply
  refine { h with supply := ⟨contents, contents', ?_, hs, hs'⟩ }
  cases hall with
  | nil => exact .nil
  | cons first rest => exact .cons (first.mono hm) rest

lemma Resembles.tallies (h : Resembles Reported s s') : Tallies s s' :=
  ⟨h.mono (fun _ _ => trivial), fun _ => h⟩

lemma Resembles.note (h : Resembles must s s') {event event' : Event}
    (hs : sentRequest? event' = sentRequest? event) (hw : isWait event' = isWait event) :
    Resembles must (s.note event) (s'.note event') := by
  refine { h with sent := ?_, waited := ?_ }
  · rw [sentRequests_note, sentRequests_note, h.sent, hs]
  · rw [waitCount_note, waitCount_note, h.waited, hw]

lemma Resembles.log (h : Resembles must s s') (r r' : Record) :
    Resembles must (s.note (.logged r)) (s'.note (.logged r')) :=
  h.note rfl rfl

lemma Resembles.logged (h : Resembles must s s') (records records' : List Record) :
    Resembles must (logged records s) (Proofs.logged records' s') := by
  have hsent := sentRequests_logged records s
  have hsent' := sentRequests_logged records' s'
  have hwaited := waitCount_logged records s
  have hwaited' := waitCount_logged records' s'
  obtain ⟨journal, hj⟩ := logged_eq records s
  obtain ⟨journal', hj'⟩ := logged_eq records' s'
  rw [hj] at hsent hwaited ⊢
  rw [hj'] at hsent' hwaited' ⊢
  refine { h with sent := ?_, waited := ?_ }
  · rw [hsent', h.sent, hsent]
  · rw [hwaited', h.waited, hwaited]

lemma Resembles.onOrder (h : Resembles must s s') {f f' : PowerOrder → PowerOrder}
    (hf : SameOrder (f s.order) (f' s'.order)) : Resembles must (s.onOrder f) (s'.onOrder f') :=
  { h with order := hf }

lemma Resembles.enter (h : Resembles must s s') (phase : Phase) :
    Resembles must (s.enter phase) (s'.enter phase) :=
  { h with phase := rfl }

/-- An update of the order that brings no task leaves scenes that tally. -/
lemma Tallies.onOrder (h : Tallies s s') {f f' : PowerOrder → PowerOrder}
    (hf : SameOrder (f s.order) (f' s'.order))
    (ht : (f s.order).task.exists? → s.order.task.exists?) :
    Tallies (s.onOrder f) (s'.onOrder f') :=
  ⟨h.resembles.onOrder hf, fun hx => (h.followed (ht hx)).onOrder hf⟩

lemma Tallies.still (h : Tallies s s')
    (hr : ∀ must, Resembles must s s' → Resembles must t t')
    (ht : t.order.task.exists? → s.order.task.exists?) : Tallies t t' :=
  ⟨hr _ h.resembles, fun hx => hr _ (h.followed (ht hx))⟩

lemma Tallies.log (h : Tallies s s') (r r' : Record) :
    Tallies (s.note (.logged r)) (s'.note (.logged r')) :=
  h.still (fun _ hr => hr.log r r') id

lemma Tallies.enter (h : Tallies s s') (phase : Phase) :
    Tallies (s.enter phase) (s'.enter phase) :=
  h.still (fun _ hr => hr.enter phase) id

lemma Tallies.markDone (h : Tallies s s') {failure? failure?' : Option Failure}
    (hf : failure?'.map (·.kind) = failure?.map (·.kind)) (attempt? : Option Int) :
    Tallies (s.onOrder (·.markDone failure? attempt?))
      (s'.onOrder (·.markDone failure?' attempt?)) := by
  refine h.onOrder (h.resembles.order.markDone hf attempt?) ?_
  rw [PowerOrder.task_markDone]
  exact id

end Scenes

section Runs

variable {must : List (String × Json) → Prop} {s s' : Scene} {target : PowerState} {attempt : Int}

/-- While a request is in flight, both runs take the next answer. -/
lemma Resembles.flown (h : Resembles must s s') (setup : Setup) (depth : Nat) (origin : Origin)
    (request : Request) :
    AnswersSame must (s.supply.next request).1.content (s'.supply.next request).1.content ∧
      Resembles Reported (inFlight (hookAt setup depth) request (s.note (.sent origin request)))
        (inFlight (hookAt setup depth) request (s'.note (.sent origin request))) := by
  obtain ⟨contents, contents', hall, hs, hs'⟩ := h.supply
  obtain ⟨hnext, htail⟩ := hall.next
  have hidle : ∀ contents : List AnswerContent,
      Idle (.queue (contents.map fun content => { content })) := by
    intro contents
    simp [Idle, Supply.answers]
  have hnoted : Resembles must (s.note (.sent origin request)) (s'.note (.sent origin request)) :=
    h.note rfl rfl
  rw [inFlight_of_idle (by rw [Scene.supply_note, hs]; exact hidle _),
    inFlight_of_idle (by rw [Scene.supply_note, hs']; exact hidle _)]
  rw [Scene.supply_note, Scene.supply_note, hs, hs', next_queue, next_queue]
  exact ⟨hnext, { hnoted with supply := ⟨_, _, htail, rfl, rfl⟩ }⟩

/-- Calls of both runs cannot be made, or bring answers that say the same. -/
lemma Resembles.call (h : Resembles must s s') (setup : Setup) (depth : Nat) (origin : Origin)
    (client : Client) (method : String) (uri body : Json) :
    let run := call setup (hookAt setup depth) origin client method uri body
    (∃ failure, run.run s = (.error failure, s) ∧ run.run s' = (.error failure, s')) ∨
      Parallel (SaysSame must) (Resembles Reported) (Resembles Reported) (run.run s)
        (run.run s') := by
  dsimp only
  rw [run_call (total_hookAt setup depth), run_call (total_hookAt setup depth)]
  cases client.request method uri body with
  | error failure => exact .inl ⟨failure, rfl, rfl⟩
  | ok request =>
    refine .inr ?_
    obtain ⟨hanswers, hflown⟩ := h.flown setup depth origin request
    dsimp only
    rcases readAnswer_of_same hanswers setup.strict method uri request with
      ⟨failure, ho, ho'⟩ | ⟨answer, answer', hb, ho, ho'⟩
    · rw [ho, ho']
      exact .error rfl ((hflown.logged _ _).note rfl rfl)
    · rw [ho, ho']
      exact .ok hb ((hflown.logged _ _).note rfl rfl)

/-- Queries of both runs find the same power state, or fail alike. Once one is answered, only
reports are left. -/
lemma Tallies.observe (h : Tallies s s') (setup : Setup) (depth : Nat) (origin : Origin)
    (attempt? : Option Int) :
    let run := observe setup (hookAt setup depth) origin attempt?
    Parallel (fun state state' => state' = state) (Resembles Reported) Tallies (run.run s)
      (run.run s') := by
  dsimp only
  rw [run_observe, run_observe]
  dsimp only
  rw [h.resembles.order.client, h.resembles.order.address]
  split
  · have hcall := h.resembles.call setup depth origin s.order.hardware.client "GET"
      s.order.hardware.hardware.uri .null
    rcases hcall with ⟨failure, hr, hr'⟩ | hcall
    · rw [hr, hr']
      exact .error rfl h
    · generalize (call setup (hookAt setup depth) origin s.order.hardware.client "GET"
        s.order.hardware.hardware.uri .null).run s = r at hcall ⊢
      generalize (call setup (hookAt setup depth) origin s.order.hardware.client "GET"
        s.order.hardware.hardware.uri .null).run s' = r' at hcall ⊢
      cases hcall with
      | error kind scenes => exact .error kind scenes.tallies
      | @ok body body' t t' bodies scenes =>
        dsimp only
        have hlogged := scenes.logged
          (Client.readHardware setup.strict s.order.hardware.hardware.uri body).records
          (Client.readHardware setup.strict s.order.hardware.hardware.uri body').records
        rcases bodies.readHardware setup.strict s.order.hardware.hardware.uri with
          ⟨latest, latest', ho, ho', huri, hstate⟩ | ⟨failure, failure', ho, ho', hkind⟩
        · simp only [ho, ho', hstate]
          have hclassified := hlogged.logged latest.classify.records latest'.classify.records
          refine .ok rfl (hclassified.onOrder ?_)
          apply SameOrder.noteHardware hclassified.order
          · rfl
          · exact huri
        · simp only [ho, ho']
          exact .error hkind hlogged.tallies
  · refine .error ?_ ?_
    · rw [raised_of_build (build_missingHardware _ _), raised_of_build (build_missingHardware _ _)]
    · have hforgot : Tallies (s.onOrder ({ · with observed := .unknown }))
          (s'.onOrder ({ · with observed := .unknown })) := h.onOrder h.resembles.order.forget id
      exact hforgot.still (fun _ hr => hr.logged _ _) (by rw [logged_order]; exact id)

lemma isA_of_kind {failure failure' : Failure} (h : failure'.kind = failure.kind)
    (kind : FailureKind) : failure'.isA kind = failure.isA kind := by
  unfold Failure.isA
  rw [h]

/-- An attempt that is given up for failures of one kind leaves scenes that tally. -/
lemma Tallies.gaveUp {failure failure' : Failure} (h : Tallies s s')
    (hk : failure'.kind = failure.kind) (attempt : Int) (message : String) :
    Tallies (gaveUp attempt message failure s) (Proofs.gaveUp attempt message failure' s') := by
  apply Tallies.markDone (h.log _ _)
  exact congrArg some hk

/-- Requests for a change are answered alike. Their answers are reports. -/
lemma Resembles.requestChange (h : Resembles Reported s s') (setup : Setup) (depth : Nat)
    (origin : Origin) (target : PowerState) (attempt : Int) :
    let run := requestChange setup (hookAt setup depth) origin target attempt
    Parallel (fun _ _ => True) Tallies Tallies (run.run s) (run.run s') := by
  dsimp only
  have huri : s'.order.hardware.hardware.powerUri = s.order.hardware.hardware.powerUri := by
    unfold Hardware.powerUri
    rw [h.order.address]
  rw [run_requestChange, run_requestChange]
  dsimp only
  rw [huri, h.order.client]
  have hbegun := h.log (announcement target s.order.hardware.hardware)
    (announcement target s'.order.hardware.hardware)
  generalize s.note (.logged (announcement target s.order.hardware.hardware)) = t at hbegun ⊢
  generalize s'.note (.logged (announcement target s'.order.hardware.hardware)) = t' at hbegun ⊢
  cases s.order.hardware.hardware.powerUri with
  | error failure => exact .error rfl hbegun.tallies
  | ok uri =>
    dsimp only
    have hgiven : ∀ {u u' : Scene} {failure failure' : Failure} (kind : FailureKind)
        (message : String), failure'.kind = failure.kind → Resembles Reported u u' →
        Parallel (fun _ _ => True) Tallies Tallies
          (if failure.isA kind then (.ok (), gaveUp attempt message failure u)
            else (.error failure, u) : Except Failure Unit × Scene)
          (if failure'.isA kind then (.ok (), gaveUp attempt message failure' u')
            else (.error failure', u')) := by
      intro u u' failure failure' kind message hk hu
      rw [isA_of_kind hk]
      split
      · exact .ok trivial (hu.tallies.gaveUp hk attempt message)
      · exact .error hk hu.tallies
    have hcall := hbegun.call setup depth origin s.order.hardware.client "PUT" (.text uri)
      (changeBody target)
    rcases hcall with ⟨failure, hr, hr'⟩ | hcall
    · rw [hr, hr']
      exact hgiven .manager _ rfl hbegun
    · generalize (Run.call setup (hookAt setup depth) origin s.order.hardware.client "PUT"
        (.text uri) (changeBody target)).run t = r at hcall ⊢
      generalize (Run.call setup (hookAt setup depth) origin s.order.hardware.client "PUT"
        (.text uri) (changeBody target)).run t' = r' at hcall ⊢
      cases hcall with
      | error kind scenes => exact hgiven .manager _ kind scenes
      | @ok body body' u u' bodies scenes =>
        dsimp only
        have hlogged := scenes.logged
          (Client.readTask setup.strict (.text uri) body {}).records
          (Client.readTask setup.strict (.text uri) body' {}).records
        rcases bodies.readTask setup.strict (.text uri) (.refl {}) with
          ⟨latest, latest', ho, ho', hsame⟩ | ⟨failure, failure', ho, ho', hkind⟩
        · simp only [ho, ho']
          exact .ok trivial (hlogged.onOrder (hlogged.order.noteTask hsame attempt)).tallies
        · simp only [ho, ho']
          exact hgiven .decoding _ hkind hlogged

lemma Tallies.submit (h : Tallies s s') (setup : Setup) (depth : Nat) (target : PowerState)
    (attempt? : Option Int) :
    let run := submit setup (hookAt setup depth) target attempt?
    Parallel (fun _ _ => True) Tallies Tallies (run.run s) (run.run s') := by
  dsimp only
  rw [run_submit, run_submit]
  dsimp only
  rw [h.resembles.submissions, h.resembles.order.attempt]
  have hcounted : Tallies { s with submissions := s.submissions + 1 }
      { s' with submissions := s.submissions + 1 } :=
    h.still (fun _ hr => { hr with submissions := rfl }) id
  have hfound := hcounted.observe setup depth
    (.submission s.submissions (attempt?.getD s.order.attempt))
    (some (attempt?.getD s.order.attempt))
  dsimp only at hfound
  generalize (Run.observe setup (hookAt setup depth) _ _).run
    { s with submissions := s.submissions + 1 } = r at hfound ⊢
  generalize (Run.observe setup (hookAt setup depth) _ _).run
    { s' with submissions := s.submissions + 1 } = r' at hfound ⊢
  cases hfound with
  | error kind scenes =>
    dsimp only
    rw [isA_of_kind kind]
    split
    · exact .ok trivial (scenes.gaveUp kind _ _)
    · exact .error kind scenes
  | @ok state state' t t' value scenes =>
    dsimp only
    rw [value]
    split
    · have hlogged := scenes.log
        ⟨.info, .ok ("Desired power state already set -> " ++ state.wire)⟩
        ⟨.info, .ok ("Desired power state already set -> " ++ state.wire)⟩
      exact .ok trivial (hlogged.onOrder (hlogged.order.markDone rfl _)).tallies
    · exact scenes.requestChange setup depth _ target _

lemma Tallies.work (h : Tallies s s') (setup : Setup) (depth : Nat) (target : PowerState)
    (attempt : Int) :
    let run := work setup (hookAt setup depth) target attempt
    Tallies (run.run s).2 (run.run s').2 := by
  dsimp only
  rw [run_work, run_work]
  have hsubmitted := h.submit setup depth target (some attempt)
  dsimp only at hsubmitted
  generalize (Run.submit setup (hookAt setup depth) target (some attempt)).run s = r
    at hsubmitted ⊢
  generalize (Run.submit setup (hookAt setup depth) target (some attempt)).run s' = r'
    at hsubmitted ⊢
  cases hsubmitted with
  | error kind scenes => exact scenes.gaveUp kind _ _
  | ok _ scenes => exact scenes

lemma Tallies.workedOff (h : Tallies s s') (setup : Setup) (depth : Nat) (jobs : List Job) :
    Tallies (workedOff setup (hookAt setup depth) jobs s)
      (Proofs.workedOff setup (hookAt setup depth) jobs s') := by
  induction jobs generalizing s s' with
  | nil => exact h
  | cons job jobs ih =>
    rw [workedOff_cons, workedOff_cons]
    exact ih (h.work setup depth job.target job.attempt)

/-- Waits among nobody leave scenes that tally. -/
lemma Tallies.afterPause (h : Tallies s s') {setup : Setup}
    (hw : ∀ number, setup.duringWait number = []) (depth : Nat) (origin : Origin) (delay : Json) :
    Tallies (afterPause setup (hookAt setup depth) origin delay s)
      (Proofs.afterPause setup (hookAt setup depth) origin delay s') := by
  have hnoted : Tallies (s.note (.waited origin delay)) (s'.note (.waited origin delay)) :=
    h.still (fun _ hr => hr.note rfl rfl) id
  unfold Proofs.afterPause afterDue
  dsimp only
  rw [hw, hw, run_hookAt_nil, run_hookAt_nil, hnoted.resembles.pending, hnoted.resembles.waits]
  apply Tallies.workedOff
  exact hnoted.still (fun _ hr => { hr with pending := rfl, waits := rfl }) id

/-- Both runs refresh the task alike, or neither has one. -/
lemma Tallies.refresh (h : Tallies s s') (setup : Setup) (depth : Nat) (origin : Origin)
    (attempt? : Option Int) :
    let run := refresh setup (hookAt setup depth) origin attempt?
    Parallel (Option.Rel SameProgress) Tallies Tallies (run.run s) (run.run s') := by
  dsimp only
  rw [run_refresh, run_refresh]
  dsimp only
  rw [h.resembles.order.client, h.resembles.order.task.exists?, h.resembles.order.task.uri]
  split
  · rename_i hx
    have hcall := (h.followed hx).call setup depth origin s.order.hardware.client "GET"
      (.text s.order.task.uri) .null
    rcases hcall with ⟨failure, hr, hr'⟩ | hcall
    · rw [hr, hr']
      exact .error rfl h
    · generalize (call setup (hookAt setup depth) origin s.order.hardware.client "GET"
        (.text s.order.task.uri) .null).run s = r at hcall ⊢
      generalize (call setup (hookAt setup depth) origin s.order.hardware.client "GET"
        (.text s.order.task.uri) .null).run s' = r' at hcall ⊢
      cases hcall with
      | error kind scenes => exact .error kind scenes.tallies
      | @ok body body' t t' bodies scenes =>
        dsimp only
        have hlogged := scenes.logged
          (Client.readTask setup.strict (.text s.order.task.uri) body s.order.task).records
          (Client.readTask setup.strict (.text s.order.task.uri) body' s'.order.task).records
        rcases bodies.readTask setup.strict (.text s.order.task.uri) h.resembles.order.task with
          ⟨latest, latest', ho, ho', hsame⟩ | ⟨failure, failure', ho, ho', hkind⟩
        · simp only [ho, ho']
          exact .ok (.some hsame)
            (hlogged.onOrder (hlogged.order.noteProgress hsame attempt?)).tallies
        · simp only [ho, ho']
          exact .error hkind hlogged.tallies
  · exact .ok .none h

/-- A check ends the attempts of both runs alike, or neither. -/
lemma Tallies.check (h : Tallies s s') (setup : Setup) (depth : Nat) (target : PowerState)
    (attempt : Int) :
    let run := check setup (hookAt setup depth) target attempt
    Parallel (fun _ _ => True) Tallies Tallies (run.run s) (run.run s') := by
  dsimp only
  rw [run_check, run_check]
  have hrefreshed := h.refresh setup depth (.polling attempt) (some attempt)
  dsimp only at hrefreshed
  generalize (Run.refresh setup (hookAt setup depth) (.polling attempt) (some attempt)).run s = r
    at hrefreshed ⊢
  generalize (Run.refresh setup (hookAt setup depth) (.polling attempt) (some attempt)).run s' = r'
    at hrefreshed ⊢
  cases hrefreshed with
  | error kind scenes => exact .error kind scenes
  | @ok task? task?' t t' tasks scenes =>
    cases tasks with
    | none => exact .ok trivial (scenes.log _ _)
    | @some task task' hsame =>
      dsimp only
      rw [hsame.isCompleted, hsame.isFailed]
      split
      · exact .ok trivial ((scenes.markDone rfl _).log _ _)
      · split
        · rcases hsame.errorSummary with ⟨reason, reason', hr, hr'⟩ | ⟨failure, hr, hr'⟩
          · rw [hr, hr']
            refine .ok trivial (Tallies.log (scenes.markDone ?_ _) _ _)
            rfl
          · rw [hr, hr']
            exact .error rfl scenes
        · exact .ok trivial (scenes.log _ _)

/-- Both runs go round the loop as often. -/
lemma Tallies.follow (h : Tallies s s') {setup : Setup}
    (hw : ∀ number, setup.duringWait number = []) (depth : Nat) (target : PowerState)
    (attempt : Int) (fuel checks : Nat) :
    let run := follow setup (hookAt setup depth) target attempt fuel checks
    Parallel (fun last last' => SameGlance last.2 last'.2) Tallies Tallies (run.run s)
      (run.run s') := by
  induction fuel generalizing checks s s' with
  | zero => exact .ok h.resembles.order.glanceAt h
  | succ fuel ih =>
    dsimp only
    rw [run_follow_succ (total_hookAt setup depth), run_follow_succ (total_hookAt setup depth),
      h.resembles.order.isOver, h.resembles.order.allowsCheck]
    split
    · exact .ok h.resembles.order.glanceAt h
    · split
      · exact .error rfl h
      · exact .ok h.resembles.order.glanceAt h
      · have hchecked := h.check setup depth target attempt
        dsimp only at hchecked
        generalize (Run.check setup (hookAt setup depth) target attempt).run s = r at hchecked ⊢
        generalize (Run.check setup (hookAt setup depth) target attempt).run s' = r'
          at hchecked ⊢
        cases hchecked with
        | error kind scenes => exact .error kind scenes
        | ok _ scenes =>
          dsimp only
          rw [scenes.resembles.order.interval]
          exact ih (scenes.afterPause hw depth _ _) (checks + 1)

/-- Looks that differ in what is only shown are concluded alike, whatever the hardware is called. -/
lemma Tallies.conclude (h : Tallies s s') {seen seen' : Glance} (hs : SameGlance seen seen')
    (setup : Setup) (target : PowerState) (name name' : Json) (checks checks' : Nat) :
    Parallel (fun result result' => result' = result) Tallies Tallies
      ((conclude setup target name checks seen).run s)
      ((Run.conclude setup target name' checks' seen').run s') := by
  rw [run_conclude, run_conclude, hs.done, hs.cancelled]
  have hfailure := hs.failure?
  cases hf : seen.failure? with
  | some failure =>
    rw [hf, Option.map_some, Option.map_eq_some_iff] at hfailure
    obtain ⟨failure', hf', hkind⟩ := hfailure
    rw [hf']
    dsimp only
    rw [isA_of_kind hkind]
    split
    · exact .error hkind (h.enter _)
    · exact .error rfl (h.enter _)
  | none =>
    rw [hf, Option.map_none, Option.map_eq_none_iff] at hfailure
    rw [hfailure]
    dsimp only
    split
    · exact .ok rfl ((h.enter _).log _ _)
    · split
      · exact .ok rfl (((h.enter _).log _ _).log _ _)
      · split
        · exact .error rfl ((h.enter _).log _ _)
        · exact .ok rfl (((h.enter _).log _ _).log _ _)

lemma Tallies.poll (h : Tallies s s') {setup : Setup}
    (hw : ∀ number, setup.duringWait number = []) (depth : Nat) (target : PowerState)
    (attempt : Int) :
    let run := poll setup (hookAt setup depth) target attempt
    Parallel (fun result result' => result' = result) Tallies Tallies (run.run s) (run.run s') := by
  dsimp only
  rw [run_poll, run_poll]
  have hfollowed := (h.enter .polling).follow hw depth target attempt (setup.checkBound + 1) 0
  dsimp only at hfollowed
  generalize (Run.follow setup (hookAt setup depth) target attempt _ 0).run (s.enter .polling) = r
    at hfollowed ⊢
  generalize (Run.follow setup (hookAt setup depth) target attempt _ 0).run (s'.enter .polling) = r'
    at hfollowed ⊢
  cases hfollowed with
  | error kind scenes => exact .error kind scenes
  | ok value scenes => exact scenes.conclude value setup target _ _ _ _

lemma Tallies.handedOver (h : Tallies s s') (setup : Setup) (depth : Nat) (target : PowerState)
    (attempt : Int) :
    Tallies (handedOver setup (hookAt setup depth) target attempt s)
      (Proofs.handedOver setup (hookAt setup depth) target attempt s') := by
  unfold Proofs.handedOver
  rw [h.resembles.moment]
  split
  · exact h.work setup depth target attempt
  · exact h.still (fun _ hr => { hr with
      moment := rfl, pending := by rw [hr.pending, hr.waits] }) id
  · exact h
  · exact h

/-- Executions with answers that say the same go the same way. -/
lemma Resembles.execute (h : Resembles (fun _ => True) s s') {setup : Setup}
    (hw : ∀ number, setup.duringWait number = []) (depth : Nat) (target : PowerState) :
    let run := execute setup (hookAt setup depth) target
    Parallel (fun result result' => result' = result) (Resembles (fun _ => True))
      (Resembles (fun _ => True)) (run.run s) (run.run s') := by
  dsimp only
  by_cases ht : target ∈ PowerState.targets
  · have hbegun : Tallies (attemptBegun s) (attemptBegun s') :=
      ⟨(h.onOrder h.order.reset).enter .idle, fun hx => nomatch hx⟩
    rw [run_execute ht, run_execute ht]
    dsimp only
    rw [h.poolOpen, h.order.attempt]
    split
    · have hpolled := ((hbegun.handedOver setup depth target (s.order.attempt + 1)).enter
        .submitting).poll hw depth target (s.order.attempt + 1)
      dsimp only at hpolled
      generalize (Run.poll setup (hookAt setup depth) target _).run
        ((Proofs.handedOver setup (hookAt setup depth) target _ (attemptBegun s)).enter
          .submitting) = r at hpolled ⊢
      generalize (Run.poll setup (hookAt setup depth) target _).run
        ((Proofs.handedOver setup (hookAt setup depth) target _ (attemptBegun s')).enter
          .submitting) = r' at hpolled ⊢
      cases hpolled with
      | error kind scenes =>
        refine .error kind ?_
        rw [scenes.resembles.phase]
        split
        · exact scenes.resembles.enter .failed
        · exact scenes.resembles
      | ok value scenes => exact .ok value scenes.resembles
    · exact .error rfl hbegun.resembles
  · rw [run_execute_unsupported ht, run_execute_unsupported ht]
    exact .error rfl h

end Runs

/-- Both runs end with the same result or with failures of one kind, after the same requests and as
many waits, in the same phase, and with attempts that ended alike. -/
structure SameCourse (r r' : Except Failure PowerResult × Scene) : Prop where
  result : r'.1.mapError (·.kind) = r.1.mapError (·.kind)
  requests : sentRequests r'.2 = sentRequests r.2
  waits : waitCount r'.2 = waitCount r.2
  phase : r'.2.phase = r.2.phase
  done : r'.2.order.done = r.2.order.done
  cancelled : r'.2.order.cancelled = r.2.order.cancelled

/-- What is only shown of the answers does not influence an execution among nobody. -/
theorem execute_of_decorated (setup : Setup) (hw : ∀ number, setup.duringWait number = [])
    (depth : Nat) (target : PowerState) (s : Scene) {contents contents' : List AnswerContent}
    (hc : AllSame (fun _ => True) contents contents') :
    let run contents := (execute setup (hookAt setup depth) target).run
      { s with supply := .queue (contents.map fun content => { content }) }
    SameCourse (run contents) (run contents') := by
  intro run
  have hbegun : Resembles (fun _ => True)
      { s with supply := .queue (contents.map fun content => { content }) }
      { s with supply := .queue (contents'.map fun content => { content }) } :=
    ⟨.refl _, ⟨contents, contents', hc, rfl, rfl⟩, rfl, rfl, rfl, rfl, rfl, rfl, rfl, rfl⟩
  have hruns : Parallel (fun result result' => result' = result) (Resembles (fun _ => True))
      (Resembles (fun _ => True)) (run contents) (run contents') :=
    hbegun.execute hw depth target
  generalize run contents = r at hruns ⊢
  generalize run contents' = r' at hruns ⊢
  cases hruns with
  | error kind scenes =>
    exact ⟨congrArg Except.error kind, scenes.sent, scenes.waited, scenes.phase,
      scenes.order.done, scenes.order.cancelled⟩
  | ok value scenes =>
    exact ⟨congrArg Except.ok value, scenes.sent, scenes.waited, scenes.phase,
      scenes.order.done, scenes.order.cancelled⟩

/-- Answers for a blade that is switched on. -/
def plainAnswers : List AnswerContent :=
  [.reply 200 "OK" "\x7b\"uri\": \"/b\", \"powerState\": \"Off\"\x7d",
    .reply 202 "Accepted" "\x7b\"uri\": \"/t\"\x7d",
    .reply 200 "OK" "\x7b\"taskState\": \"completed\"\x7d"]

/-- The same with names, a percentage that is no number, and other letter cases. -/
def decoratedAnswers : List AnswerContent :=
  [.reply 200 "OK" "\x7b\"name\": \"b\", \"powerState\": \"OFF\", \"uri\": \"/b\"\x7d",
    .reply 202 "Accepted" "\x7b\"percentComplete\": NaN, \"uri\": \"/t\"\x7d",
    .reply 200 "OK" "\x7b\"taskState\": \"Completed\", \"owner\": \"o\"\x7d"]

lemma allSame_decoratedAnswers : AllSame (fun _ => True) plainAnswers decoratedAnswers := by
  have hpasses : LetsThrough 200 ∧ LetsThrough 202 := ⟨.inl (by decide), .inl (by decide)⟩
  refine .cons (.replies hpasses.1 hpasses.1 (.inr ?_))
    (.cons (.replies hpasses.2 hpasses.2 (.inr ?_))
      (.cons (.replies hpasses.1 hpasses.1 (.inr ?_)) .nil))
  · refine ⟨[("uri", .text "/b"), ("powerState", .text "Off")],
      [("name", .text "b"), ("powerState", .text "OFF"), ("uri", .text "/b")], by decide +kernel,
      by decide +kernel, trivial, trivial, ?_⟩
    exact ⟨by decide +kernel, by decide +kernel, by decide +kernel,
      .inr ⟨"Off", "OFF", by decide +kernel, by decide +kernel, by decide +kernel⟩,
      .inl (by decide +kernel)⟩
  · refine ⟨[("uri", .text "/t")],
      [("percentComplete", .number (.float .nan)), ("uri", .text "/t")], by decide +kernel,
      by decide +kernel, reported_of_update (by decide +kernel),
      reported_of_update (by decide +kernel), ?_⟩
    exact ⟨by decide +kernel, by decide +kernel, by decide +kernel, .inl (by decide +kernel),
      .inl (by decide +kernel)⟩
  · refine ⟨[("taskState", .text "completed")],
      [("taskState", .text "Completed"), ("owner", .text "o")], by decide +kernel,
      by decide +kernel, reported_of_update (by decide +kernel),
      reported_of_update (by decide +kernel), ?_⟩
    exact ⟨by decide +kernel, by decide +kernel, by decide +kernel, .inl (by decide +kernel),
      .inr ⟨"completed", "Completed", by decide +kernel, by decide +kernel, by decide +kernel⟩⟩

theorem execute_of_decorated_blade :
    let run contents := (execute calm (hookAt calm 0) .on).run
      { bladeScene [] with supply := .queue (contents.map fun content => { content }) }
    (run plainAnswers).1 = .ok .completed ∧
      SameCourse (run plainAnswers) (run decoratedAnswers) :=
  ⟨by decide +kernel, execute_of_decorated calm (fun _ => rfl) 0 .on (bladeScene [])
    allSame_decoratedAnswers⟩

end ServerPower.Proofs
