import ServerPower.Proofs.Unattended
import ServerPower.Proofs.Undisturbed

/-!
# Ended attempts

An attempt that is done stays done, and its task is not asked for any more. A submission does not
look whether its attempt is done: it asks for the change of an attempt that was ended before the
query of the submission was answered, and only then.
-/

namespace ServerPower.Proofs
open Run

/-- A later order: its attempt is a later one, or the same one, which is still done if it was. -/
structure Matures (p q : PowerOrder) : Prop where
  attempt : p.attempt ≤ q.attempt
  done : p.attempt = q.attempt → p.done = true → q.done = true

/-- The attempt that is current at an entry is not done there, nor was it done before. -/
def Undone (e : Entry) (earlier : List Entry) : Prop :=
  ∀ e' ∈ e :: earlier, e'.order.attempt = e.order.attempt → e'.order.done = false

/-- The query of a submission was answered, where the current attempt was the one of the entry, and
done just as it is there. -/
def Looked (origin : Origin) (e : Entry) (earlier : List Entry) : Prop :=
  ∃ told ∈ earlier, ∃ look body, told.event = .answered origin look (.ok body) ∧
    look.method = "GET" ∧ told.order.attempt = e.order.attempt ∧ told.order.done = e.order.done

/-- A check asks for its task only while the attempt is not done. A submission asks for its change
after it looked. -/
structure Timely (e : Entry) (earlier : List Entry) : Prop where
  checks : ∀ a request, e.event = .sent (.polling a) request → Undone e earlier
  changes : ∀ number a request, e.event = .sent (.submission number a) request →
    request.method = "PUT" → Looked (.submission number a) e earlier

namespace Matures

variable {p q r : PowerOrder}

lemma of_eq (ha : q.attempt = p.attempt) (hd : q.done = p.done) : Matures p q :=
  ⟨Int.le_of_eq ha.symm, fun _ h => hd.trans h⟩

lemma trans (h1 : Matures p q) (h2 : Matures q r) : Matures p r := by
  have h1a := h1.attempt
  have h2a := h2.attempt
  refine ⟨Int.le_trans h1a h2a, fun ha hd => ?_⟩
  exact h2.done (by omega) (h1.done (by omega) hd)

lemma markDone (p : PowerOrder) (failure? : Option Failure) (attempt? : Option Int) :
    Matures p (p.markDone failure? attempt?) := by
  unfold PowerOrder.markDone
  split
  · exact ⟨Int.le_refl _, fun _ _ => rfl⟩
  · exact of_eq rfl rfl

lemma noteHardware (p : PowerOrder) (attempt? : Option Int) (hardware : ManagedHardware)
    (state : PowerState) : Matures p (p.noteHardware attempt? hardware state) := by
  unfold PowerOrder.noteHardware
  split <;> exact of_eq rfl rfl

lemma noteTask (p : PowerOrder) (attempt : Int) (task : RemoteTask) :
    Matures p (p.noteTask attempt task) := by
  unfold PowerOrder.noteTask
  split <;> exact of_eq rfl rfl

lemma noteProgress (p : PowerOrder) (attempt? : Option Int) (task : RemoteTask) :
    Matures p (p.noteProgress attempt? task) := by
  unfold PowerOrder.noteProgress
  split <;> exact of_eq rfl rfl

lemma reset (p : PowerOrder) : Matures p p.reset := by
  have ha : p.reset.attempt = p.attempt + 1 := rfl
  exact ⟨by omega, fun h => by omega⟩

end Matures

/-- The orders of the entries mature one after the other up to the order now, and every entry is
timely. -/
structure Ripened (s : Scene) : Prop where
  now : ∀ e ∈ s.journal, Matures e.order s.order
  always : s.journal.Pairwise fun e e' => Matures e'.order e.order
  timely : ∀ later e earlier, s.journal = later ++ e :: earlier → Timely e earlier

def ending : Law where
  holds := Ripened
  leads _ _ := True
  refl _ := trivial
  trans _ _ := trivial

section Steps

variable {s t : Scene}

lemma ending_step (ho : Matures s.order t.order) (hj : t.journal = s.journal) :
    ending.Step s t := by
  intro h
  refine ⟨⟨fun e he => ?_, by rw [hj]; exact h.always, by rw [hj]; exact h.timely⟩, trivial⟩
  rw [hj] at he
  exact (h.now e he).trans ho

lemma ending_still (ho : t.order = s.order) (hj : t.journal = s.journal) : ending.Step s t :=
  ending_step (by rw [ho]; exact .of_eq rfl rfl) hj

lemma ending_onOrder {f : PowerOrder → PowerOrder} (h : Matures s.order (f s.order)) :
    ending.Step s (s.onOrder f) :=
  ending_step h rfl

lemma ending_note {event : Event} (h : Ripened s → Timely ⟨event, s.order, s.phase⟩ s.journal) :
    ending.Step s (s.note event) := by
  intro hs
  refine ⟨⟨fun e he => ?_, List.pairwise_cons.mpr ⟨hs.now, hs.always⟩,
    fun later e earlier hsplit => ?_⟩, trivial⟩
  · rcases List.mem_cons.mp he with rfl | he
    · exact .of_eq rfl rfl
    · exact hs.now e he
  · rw [Scene.journal_note] at hsplit
    cases later with
    | nil =>
      obtain ⟨rfl, rfl⟩ := List.cons.inj hsplit
      exact h hs
    | cons first later => exact hs.timely later e earlier (List.cons.inj hsplit).2

/-- Only requests of checks and requests for changes can be late. -/
lemma ending_note_other {event : Event} (hc : ∀ a request, event ≠ .sent (.polling a) request)
    (hp : ∀ number a request, event = .sent (.submission number a) request →
      request.method ≠ "PUT") : ending.Step s (s.note event) :=
  ending_note fun _ => ⟨fun a request he => absurd he (hc a request),
    fun number a request he hm => absurd hm (hp number a request he)⟩

lemma ending_remarks : ending.Remarks := by
  intro s event he _
  refine ending_note_other (fun a request h => ?_) (fun number a request h => ?_)
  · rw [h] at he
    cases he
  · rw [h] at he
    cases he

lemma undone_of_not_over {event : Event} (hs : Ripened s) (hover : s.order.isOver = false) :
    Undone ⟨event, s.order, s.phase⟩ s.journal := by
  have hdone : s.order.done = false := by
    unfold PowerOrder.isOver at hover
    exact (Bool.or_eq_false_iff.mp hover).1
  intro e he ha
  rcases List.mem_cons.mp he with rfl | he
  · exact hdone
  · by_contra hd
    have hnow := (hs.now e he).done ha (by simpa using hd)
    exact absurd (hdone.symm.trans hnow) (by decide)

lemma looked_of_observe_eq_ok {hook : Hook} (hh : Total hook) {setup : Setup} {origin : Origin}
    {attempt? : Option Int} {state : PowerState}
    (h : (observe setup hook origin attempt?).run s = (.ok state, t)) {e : Entry}
    (he : e.order = t.order) : Looked origin e t.journal := by
  rw [run_observe] at h
  dsimp only at h
  split at h
  · rcases hc : (call setup hook origin _ "GET" _ Json.null).run s with ⟨failure | body, u⟩
    · rw [hc] at h
      cases h
    · rw [hc] at h
      dsimp only at h
      obtain ⟨look, rest, hlook, hj⟩ := journal_of_call_eq_ok hh hc
      cases hf : (Client.readHardware setup.strict s.order.hardware.hardware.uri body).outcome with
      | error failure =>
        rw [hf] at h
        cases h
      | ok latest =>
        rw [hf] at h
        cases h
        rw [Scene.order_onOrder, logged_order, logged_order] at he
        have htold := mem_journal_logged latest.classify.records (mem_journal_logged
          (Client.readHardware setup.strict s.order.hardware.hardware.uri body).records
          (hj ▸ List.mem_cons_self ..))
        refine ⟨_, htold, look, body, rfl, (Client.of_request_eq_ok hlook).1, ?_, ?_⟩
        · rw [he, PowerOrder.attempt_noteHardware]
        · rw [he, (Level.noteHardware _ _ _ _).done]
  · cases h

end Steps

section Runs

variable {setup : Setup} {hook : Hook} {depth : Nat}

lemma ending_carries (hh : ending.Hosts (fun _ => True) setup hook) (origin : Origin) :
    ending.Carries hook origin where
  total := hh.total
  remarks := ending_remarks
  flown _ _ := hh.step_inFlight (ending_still rfl rfl) (fun _ _ _ => trivial)
  answered _ _ _ := ending_note_other (fun _ _ h => nomatch h) (fun _ _ _ h => nomatch h)
  forgot _ := ending_onOrder (.of_eq rfl rfl)
  hardware _ _ _ _ := ending_onOrder (.noteHardware _ _ _ _)
  progress _ _ _ := ending_onOrder (.noteProgress _ _ _)

lemma ending_decides (attempt : Int) : ending.Decides attempt where
  ended _ _ := ending_onOrder (.markDone _ _ _)
  task _ _ := ending_onOrder (.noteTask _ _ _)

lemma ending_submit (hh : ending.Hosts (fun _ => True) setup hook) (target : PowerState)
    (attempt? : Option Int) (s : Scene) :
    ending.Step s ((submit setup hook target attempt?).run s).2 := by
  have hcarries := ending_carries hh (.submission s.submissions (attempt?.getD s.order.attempt))
  refine Law.step_submit ending_remarks (fun _ => ending_still rfl rfl) (ending_decides _).ended
    (hcarries.step_observe (fun _ request hq => ?_) setup _) (fun state t hlook _ => ?_)
  · refine ending_note_other (fun _ _ h => nomatch h) (fun number a r h => ?_)
    cases h
    rw [(Client.of_request_eq_ok hq).1]
    decide
  · -- Nothing comes between the answer to the query and the request for the change.
    refine hcarries.step_requestChange (ending_decides _) (fun uri request _ _ => ?_) setup
    refine ending_note fun _ => ⟨fun _ _ h => (nomatch h), fun number a r h _ => ?_⟩
    cases h
    obtain ⟨told, htold, hlooked⟩ := looked_of_observe_eq_ok hh.total hlook
      (e := ⟨.sent (.submission s.submissions (attempt?.getD s.order.attempt)) request, t.order,
        t.phase⟩) rfl
    exact ⟨told, List.mem_cons_of_mem _ htold, hlooked⟩

lemma ending_stage (hh : ending.Hosts (fun _ => True) setup (hookAt setup depth)) :
    ending.Stage (fun _ => True) (fun _ => True) setup depth := by
  have hparts : ending.Parts (fun _ => True) setup (hookAt setup depth) := by
    refine Law.parts_of_carries (fun origin _ => ending_carries hh origin)
      (fun s origin delay _ =>
        ending_note_other (fun _ _ h => nomatch h) (fun _ _ _ h => nomatch h))
      (fun s origin client uri request ho hover _ => ?_)
      (fun s target attempt? => ending_submit hh target attempt? s)
      (fun s failure? attempt? => ending_onOrder (.markDone _ _ _))
    cases origin with
    | submission number attempt => exact ho.elim
    | polling attempt =>
      have hundone := hover (fun h => nomatch h)
      exact ending_note fun hs =>
        ⟨fun _ _ _ => undone_of_not_over hs hundone, fun _ _ _ h => nomatch h⟩
    | query => exact ending_note_other (fun _ _ h => nomatch h) (fun _ _ _ h => nomatch h)
  exact ⟨hh, hparts, hparts.step_afterDue (fun _ _ _ _ => trivial)
    (fun _ _ _ _ => ending_still rfl rfl)⟩

lemma ending_launches : ending.Launches where
  begun _ := ending_onOrder (.reset _)
  entered _ _ := ending_still rfl rfl
  queued _ _ _ := ending_still rfl rfl

theorem ending_reigns (setup : Setup) : ending.Reigns (fun _ => True) (fun _ => True) setup where
  stage _ hh := ending_stage hh
  bears s action _ := by
    cases action with
    | reset => exact ending_launches.begun s
    | markDone _ attempt? => exact fun failure? => ending_onOrder (.markDone _ _ _)
    | submit _ _ => exact fun _ => trivial
    | wait _ | observe _ | refresh _ | execute _ | look => trivial
    | setMoment _ | close _ | executeOnce _ => exact ending_still rfl rfl
    | _ => exact ending_onOrder (.of_eq rfl rfl)
  handed s _ := (ending_launches.begun s).trans
    (ending_note_other (fun _ _ h => nomatch h) (fun _ _ _ h => nomatch h))
  executes _ target hh _ := (ending_stage hh).keeps_execute ending_launches target

end Runs

/-- Whatever the others do and whenever submissions run: a check asks for its task only while the
current attempt is not done and never was. A submission asks for its change after its query was
answered, and the current attempt is not done when the change is asked for, nor ever was, just in
case it was not done when the answer came. -/
theorem timely_of_mem_play (script : Script) (setup : Setup) (order : PowerOrder)
    (steps : List Action) :
    ∀ r ∈ script.play setup (script.scene order) steps, ∀ later e earlier,
      r.2.journal = later ++ e :: earlier →
      (∀ a request, e.event = .sent (.polling a) request → Undone e earlier) ∧
      ∀ number a request, e.event = .sent (.submission number a) request →
        request.method = "PUT" → ∃ told ∈ earlier, ∃ look body,
          told.event = .answered (.submission number a) look (.ok body) ∧ look.method = "GET" ∧
          told.order.attempt = e.order.attempt ∧
          (told.order.done = false ↔ Undone e earlier) := by
  intro r hr later e earlier hsplit
  have hbegun : Ripened (script.scene order) :=
    ⟨fun e he => (nomatch he), .nil, fun later e earlier h => by cases later <;> cases h⟩
  have hripe := ((ending_reigns setup).step_of_mem_play (fun _ _ _ => trivial) script
    (fun _ _ => trivial) _ r hr hbegun).1
  have htimely := hripe.timely later e earlier hsplit
  refine ⟨htimely.checks, fun number a request hsent hput => ?_⟩
  obtain ⟨told, htold, look, body, hanswered, hget, hattempt, hdone⟩ :=
    htimely.changes number a request hsent hput
  refine ⟨told, htold, look, body, hanswered, hget, hattempt, fun hundone => ?_,
    fun h => h told (List.mem_cons_of_mem _ htold) hattempt⟩
  have hpair := hripe.always
  rw [hsplit, List.pairwise_append, List.pairwise_cons] at hpair
  intro e' he' ha
  rcases List.mem_cons.mp he' with rfl | he'
  · exact hdone ▸ hundone
  · by_contra hd
    have hnow := (hpair.2.1.1 e' he').done ha (by simpa using hd)
    exact absurd ((hdone ▸ hundone).symm.trans hnow) (by decide)

/-- The manager switches the blade on while someone looks at it and cancels at the second check. -/
def cancelledLate : Script where
  supply := .queue
    [{ content := .reply 200 "OK" "\x7b\"uri\": \"/b\", \"powerState\": \"Off\"\x7d" },
      { during := [.observe none], content := .reply 202 "Accepted" "\x7b\"uri\": \"/t\"\x7d" },
      { content := .reply 200 "OK" "\x7b\"uri\": \"/b\", \"powerState\": \"Off\"\x7d" },
      { content := .reply 200 "OK" "\x7b\"taskState\": \"running\"\x7d" },
      { during := [.cancel], content := .reply 200 "OK" "\x7b\"taskState\": \"running\"\x7d" }]

def isCheck : Event → Bool
  | .sent (.polling _) _ => true
  | _ => false

theorem timely_cancelledLate :
    ∃ r ∈ cancelledLate.play calm (cancelledLate.scene blade) [.execute .on],
      ∃ later e earlier a request, r.2.journal = later ++ e :: earlier ∧
        e.event = .sent (.polling a) request ∧ Undone e earlier := by
  let r := (cancelledLate.step calm (.execute .on)).run (cancelledLate.scene blade)
  have hr : r ∈ cancelledLate.play calm (cancelledLate.scene blade) [.execute .on] :=
    List.mem_singleton.mpr rfl
  have hchecked : (r.2.journal.any fun e => isCheck e.event) = true := by decide +kernel
  obtain ⟨e, he, hcheck⟩ := List.any_eq_true.mp hchecked
  obtain ⟨later, earlier, hsplit⟩ := List.append_of_mem he
  unfold isCheck at hcheck
  split at hcheck
  · rename_i a request hsent
    exact ⟨r, hr, later, e, earlier, a, request, hsplit, hsent,
      (timely_of_mem_play cancelledLate calm blade [.execute .on] r hr later e earlier hsplit).1 a
        request hsent⟩
  · cases hcheck

/-- Someone marks the attempt done while the query of its submission is in flight. The manager
answers that the blade is on, and the submission still asks it to switch the blade off. -/
theorem change_after_end :
    let r := (execute calm (hookAt calm 1) .off).run (bladeScene
      [{ during := [.markDone none none],
         content := .reply 200 "OK" "\x7b\"uri\": \"/b\", \"powerState\": \"On\"\x7d" },
        { content := .reply 202 "Accepted" "\x7b\"uri\": \"/t\"\x7d" }])
    r.1 = .ok .completed ∧
      (r.2.journal.reverse.filterMap fun e => (sentRequest? e.event).map fun request =>
        (request.method, e.order.attempt, e.order.done)) =
          [("GET", 1, false), ("PUT", 1, true)] := by
  decide +kernel

end ServerPower.Proofs
