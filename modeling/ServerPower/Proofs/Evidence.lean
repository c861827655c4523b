import ServerPower.Proofs.Undisturbed

/-!
# Evidence of completion

What a journal shows of an attempt that reached its target: either its submission found the hardware
there and asked for nothing, or the manager accepted its request with a task and a later check saw
that very task completed. What the entries of a journal show lasts while further ones are added that
are not requests for a change.
-/

namespace ServerPower.Proofs
open Run

/-- No submission for attempt `a` asked for a change. -/
def Unasked (a : Int) (entries : List Entry) : Prop :=
  ∀ e ∈ entries, ∀ number request, e.event = .sent (.submission number a) request →
    request.method ≠ "PUT"

/-- The query of a submission for attempt `a` found the hardware in a state. -/
def FoundAs (strict : Bool) (a : Int) (state : PowerState) (entries : List Entry) : Prop :=
  ∃ e ∈ entries, ∃ number request body uri latest,
    e.event = .answered (.submission number a) request (.ok body) ∧ request.method = "GET" ∧
    (Client.readHardware strict uri body).outcome = .ok latest ∧ classified latest = state

/-- The manager answered the request of a submission for attempt `a` with a task at an address. -/
def AcceptedAt (strict : Bool) (a : Int) (address : String) (entries : List Entry) : Prop :=
  ∃ e ∈ entries, ∃ number request body uri task,
    e.event = .answered (.submission number a) request (.ok body) ∧ request.method = "PUT" ∧
    (Client.readTask strict uri body {}).outcome = .ok task ∧ task.uri = address

/-- A check of attempt `a` on its accepted task, between whose request and answer nothing else was
done for the attempt, and the task as recorded then with what the answer says merged in. -/
structure Checked (strict : Bool) (a : Int) (latest : RemoteTask) (entries : List Entry) :
    Prop where
  traces : ∃ address request body told asked later meanwhile before,
    entries = later ++ told :: (meanwhile ++ asked :: before) ∧
    asked.event = .sent (.polling a) request ∧
    told.event = .answered (.polling a) request (.ok body) ∧
    Foreign a meanwhile ∧ AcceptedAt strict a address before ∧ address ≠ "" ∧
    asked.order.hardware.client.request "GET" (.text address) .null = .ok request ∧
    asked.order.task.uri = address ∧
    (Client.readTask strict (.text address) body asked.order.task).outcome = .ok latest

def Evidence (strict : Bool) (a : Int) (target : PowerState) (entries : List Entry) : Prop :=
  (FoundAs strict a target entries ∧ Unasked a entries) ∨
    ∃ latest, Checked strict a latest entries ∧ latest.uri ≠ "" ∧
      Text.upper latest.state = Text.upper "Completed"

/-- What the entries since an old journal show. -/
def Since (old : List Entry) (P : List Entry → Prop) (s : Scene) : Prop :=
  ∃ new, s.journal = new ++ old ∧ P new

/-- What entries show is still shown after more of them, if none is a request for a change. -/
def Lasting (a : Int) (P : List Entry → Prop) : Prop :=
  ∀ more new, Unasked a more → P new → P (more ++ new)

section Traces

variable {strict : Bool} {a : Int} {target : PowerState} {old more new : List Entry} {s t : Scene}
  {P Q : List Entry → Prop}

lemma Foreign.unasked (h : Foreign a more) : Unasked a more := by
  intro e he number request hs
  have hw : Within (· ≠ a) (.submission number a) := h e he _ (by rw [hs]; rfl)
  exact absurd rfl hw

lemma Unasked.append (hm : Unasked a more) (hn : Unasked a new) : Unasked a (more ++ new) := by
  intro e he
  rcases List.mem_append.mp he with h | h
  · exact hm e h
  · exact hn e h

lemma unasked_singleton {e : Entry} (h : ∀ number request,
    e.event = .sent (.submission number a) request → request.method ≠ "PUT") : Unasked a [e] := by
  intro e' he
  rw [List.mem_singleton.mp he]
  exact h

lemma lasting_unasked : Lasting a (Unasked a) := fun _ _ => Unasked.append

lemma FoundAs.mono {state : PowerState} (h : FoundAs strict a state new) (hs : new ⊆ more) :
    FoundAs strict a state more := by
  obtain ⟨told, hm, hrest⟩ := h
  exact ⟨told, hs hm, hrest⟩

lemma AcceptedAt.mono {address : String} (h : AcceptedAt strict a address new) (hs : new ⊆ more) :
    AcceptedAt strict a address more := by
  obtain ⟨told, hm, hrest⟩ := h
  exact ⟨told, hs hm, hrest⟩

lemma lasting_foundAs (state : PowerState) : Lasting a (FoundAs strict a state) :=
  fun more _ _ h => h.mono (List.subset_append_right more _)

lemma lasting_acceptedAt (address : String) : Lasting a (AcceptedAt strict a address) :=
  fun more _ _ h => h.mono (List.subset_append_right more _)

lemma Checked.append {latest : RemoteTask} (h : Checked strict a latest new) (more : List Entry) :
    Checked strict a latest (more ++ new) := by
  obtain ⟨address, request, body, told, asked, later, meanwhile, before, hsplit, hrest⟩ := h.traces
  refine ⟨address, request, body, told, asked, more ++ later, meanwhile, before, ?_, hrest⟩
  rw [hsplit, List.append_assoc]

lemma lasting_evidence : Lasting a (Evidence strict a target) := by
  rintro more new hm (⟨hfound, hunasked⟩ | ⟨latest, hchecked, hrest⟩)
  · exact Or.inl ⟨lasting_foundAs _ _ _ hm hfound, hm.append hunasked⟩
  · exact Or.inr ⟨latest, hchecked.append more, hrest⟩

lemma Since.mono (h : Since old P s) (hpq : ∀ new, P new → Q new) : Since old Q s := by
  obtain ⟨new, hj, hp⟩ := h
  exact ⟨new, hj, hpq new hp⟩

lemma Since.and (hp : Since old P s) (hq : Since old Q s) :
    Since old (fun new => P new ∧ Q new) s := by
  obtain ⟨new, hj, hnew⟩ := hp
  obtain ⟨other, hj', hother⟩ := hq
  have hsame : other = new := List.append_cancel_right (hj'.symm.trans hj)
  exact ⟨new, hj, hnew, hsame ▸ hother⟩

lemma Since.append (h : Since old P s) (hj : t.journal = more ++ s.journal)
    (hp : ∀ new, P new → Q (more ++ new)) : Since old Q t := by
  obtain ⟨new, hs, hn⟩ := h
  exact ⟨more ++ new, by rw [hj, hs, List.append_assoc], hp new hn⟩

lemma Since.grow (h : Since old P s) (hp : Lasting a P) (hm : Unasked a more)
    (hj : t.journal = more ++ s.journal) : Since old P t :=
  h.append hj (fun new hn => hp more new hm hn)

lemma Since.aside (h : Since old P s) (hp : Lasting a P) (haside : Aside a s t) :
    Since old P t := by
  obtain ⟨more, hj, hf⟩ := haside.journal
  exact h.grow hp hf.unasked hj

lemma Called.keeps {origin : Origin} {request : Request} {outcome : Except Failure String}
    (hc : Called a origin request outcome s t) (hm : request.method ≠ "PUT") (h : Since old P s)
    (hp : Lasting a P) : Since old P t := by
  obtain ⟨told, meanwhile, he, hf, hj⟩ := hc.journal
  have htold : Unasked a [told] :=
    unasked_singleton (fun number r hs => by rw [he] at hs; cases hs)
  have hasked : Unasked a [⟨.sent origin request, s.order, s.phase⟩] :=
    unasked_singleton (fun number r hs => by cases hs; exact hm)
  exact h.grow hp ((htold.append hf.unasked).append hasked) (by rw [hj]; simp)

lemma Called.checked {request : Request} {body : String} {latest : RemoteTask}
    (hc : Called a (.polling a) request (.ok body) s t)
    (h : Since old (AcceptedAt strict a s.order.task.uri) s) (hu : s.order.task.uri ≠ "")
    (hr : s.order.hardware.client.request "GET" (.text s.order.task.uri) .null = .ok request)
    (hl : (Client.readTask strict (.text s.order.task.uri) body s.order.task).outcome =
      .ok latest) : Since old (Checked strict a latest) t := by
  obtain ⟨told, meanwhile, he, hf, hj⟩ := hc.journal
  obtain ⟨new, hs, haccepted⟩ := h
  refine ⟨told :: (meanwhile ++ ⟨.sent (.polling a) request, s.order, s.phase⟩ :: new), ?_, ?_⟩
  · rw [hj, hs, List.cons_append, List.append_assoc, List.cons_append]
  · exact ⟨_, request, body, told, _, [], meanwhile, new, rfl, rfl, he, hf, haccepted, hu, hr, rfl,
      hl⟩

end Traces

lemma isCompleted_iff (task : RemoteTask) :
    task.isCompleted ↔ task.uri ≠ "" ∧ Text.upper task.state = Text.upper "Completed" := by
  simp [RemoteTask.isCompleted, RemoteTask.exists?, isCompletedTaskState, Json.upper?,
    completedTaskState]

end ServerPower.Proofs
