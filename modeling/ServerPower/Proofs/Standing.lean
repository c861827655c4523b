import ServerPower.Proofs.Ended

/-!
# What stands of an attempt

Once an attempt is done, failed or cancelled it stays so until another attempt is begun, and the
failure recorded first stays the one recorded. An attempt that failed is done.
-/

namespace ServerPower.Proofs
open Run

/-- A later order, in which what the attempt had come to still stands unless it is another one. -/
structure Stands (p q : PowerOrder) : Prop extends Matures p q where
  failed : p.attempt = q.attempt → ∀ failure, p.failure? = some failure →
    q.failure? = some failure
  cancelled : p.attempt = q.attempt → p.cancelled = true → q.cancelled = true

/-- An attempt that failed is done. -/
def DoneIfFailed (p : PowerOrder) : Prop :=
  p.failure? ≠ none → p.done = true

/-- Nothing was marked from one order to the other: the attempt came to the same. -/
structure Unmarked (p q : PowerOrder) : Prop where
  attempt : q.attempt = p.attempt
  done : q.done = p.done
  failure? : q.failure? = p.failure?
  cancelled : q.cancelled = p.cancelled

section Orders

variable {p q r : PowerOrder}

lemma Unmarked.of_eq (h : q = p) : Unmarked p q := by
  rw [h]
  exact ⟨rfl, rfl, rfl, rfl⟩

lemma Unmarked.stands (h : Unmarked p q) : Stands p q where
  toMatures := .of_eq h.attempt h.done
  failed _ _ hf := h.failure?.trans hf
  cancelled _ hc := h.cancelled.trans hc

lemma Unmarked.doneIfFailed (h : Unmarked p q) (hp : DoneIfFailed p) : DoneIfFailed q := by
  intro hf
  rw [h.done]
  exact hp (h.failure? ▸ hf)

lemma Unmarked.noteHardware (p : PowerOrder) (attempt? : Option Int) (hardware : ManagedHardware)
    (state : PowerState) : Unmarked p (p.noteHardware attempt? hardware state) := by
  unfold PowerOrder.noteHardware
  split <;> exact ⟨rfl, rfl, rfl, rfl⟩

lemma Unmarked.noteTask (p : PowerOrder) (attempt : Int) (task : RemoteTask) :
    Unmarked p (p.noteTask attempt task) := by
  unfold PowerOrder.noteTask
  split <;> exact ⟨rfl, rfl, rfl, rfl⟩

lemma Unmarked.noteProgress (p : PowerOrder) (attempt? : Option Int) (task : RemoteTask) :
    Unmarked p (p.noteProgress attempt? task) := by
  unfold PowerOrder.noteProgress
  split <;> exact ⟨rfl, rfl, rfl, rfl⟩

lemma Stands.refl (p : PowerOrder) : Stands p p :=
  Unmarked.stands ⟨rfl, rfl, rfl, rfl⟩

lemma Stands.trans (h1 : Stands p q) (h2 : Stands q r) : Stands p r := by
  have hpq := h1.attempt
  have hqr := h2.attempt
  refine ⟨h1.toMatures.trans h2.toMatures, fun ha failure hf => ?_, fun ha hc => ?_⟩
  · exact h2.failed (by omega) failure (h1.failed (by omega) failure hf)
  · exact h2.cancelled (by omega) (h1.cancelled (by omega) hc)

lemma Stands.reset (p : PowerOrder) : Stands p p.reset := by
  have hnext : p.reset.attempt = p.attempt + 1 := rfl
  exact ⟨.reset p, fun h => by omega, fun h => by omega⟩

lemma Stands.markDone (p : PowerOrder) (failure? : Option Failure) (attempt? : Option Int) :
    Stands p (p.markDone failure? attempt?) := by
  refine ⟨.markDone p failure? attempt?, fun _ failure hf => ?_, fun _ hc => ?_⟩
  · unfold PowerOrder.markDone
    split
    · simp [hf]
    · exact hf
  · unfold PowerOrder.markDone
    split <;> exact hc

lemma DoneIfFailed.markDone (hp : DoneIfFailed p) (failure? : Option Failure)
    (attempt? : Option Int) : DoneIfFailed (p.markDone failure? attempt?) := by
  unfold PowerOrder.markDone
  split
  · exact fun _ => rfl
  · exact hp

lemma DoneIfFailed.failure?_eq_none (hp : DoneIfFailed p) (h : p.isOver = false) :
    p.failure? = none := by
  by_contra hf
  have hover : p.isOver = true := by simp [PowerOrder.isOver, hp hf]
  rw [hover] at h
  cases h

end Orders

def standing : Law where
  holds s := DoneIfFailed s.order
  leads s t := Stands s.order t.order
  refl s := Stands.refl s.order
  trans := Stands.trans

section Steps

variable {s t : Scene}

lemma standing_unmarked (h : Unmarked s.order t.order) : standing.Step s t :=
  fun hs => ⟨h.doneIfFailed hs, h.stands⟩

lemma standing_still (h : t.order = s.order) : standing.Step s t :=
  standing_unmarked (by rw [h]; exact ⟨rfl, rfl, rfl, rfl⟩)

lemma standing_markDone (s : Scene) (failure? : Option Failure) (attempt? : Option Int) :
    standing.Step s (s.onOrder (·.markDone failure? attempt?)) :=
  fun hs => ⟨hs.markDone failure? attempt?, .markDone s.order failure? attempt?⟩

lemma standing_reset (s : Scene) : standing.Step s (s.onOrder PowerOrder.reset) :=
  fun _ => ⟨fun hf => absurd rfl hf, .reset s.order⟩

lemma standing_serves : standing.Serves (fun _ => True) (fun _ => True) where
  noted _ _ _ := standing_still rfl
  supplied _ _ := standing_still rfl
  counted _ := standing_still rfl
  forgot _ := standing_unmarked ⟨rfl, rfl, rfl, rfl⟩
  hardware _ _ _ _ := standing_unmarked (.noteHardware _ _ _ _)
  progress _ _ _ := standing_unmarked (.noteProgress _ _ _)
  ended s failure? attempt _ := standing_markDone s failure? (some attempt)
  task _ _ _ _ := standing_unmarked (.noteTask _ _ _)
  during _ _ _ _ _ := trivial

lemma standing_awaits (setup : Setup) :
    standing.Awaits (fun _ => True) (fun _ => True) setup :=
  standing_serves.awaits (fun _ _ _ _ => trivial) (fun _ _ _ _ => standing_still rfl) setup

lemma standing_launches : standing.Launches where
  begun := standing_reset
  entered _ _ := standing_still rfl
  queued _ _ _ := standing_still rfl

theorem standing_governs (setup : Setup) :
    standing.Governs (fun _ => True) (fun _ => True) setup where
  toAwaits := standing_awaits setup
  bears s action _ := by
    cases action with
    | reset => exact standing_reset s
    | markDone _ attempt? => exact fun failure? => standing_markDone s failure? attempt?
    | cancel => exact fun hs => ⟨hs, .of_eq rfl rfl, fun _ _ hf => hf, fun _ _ => rfl⟩
    | submit _ _ => exact fun _ => trivial
    | setTask _ | setHardware _ | setTiming _ _ => exact standing_unmarked ⟨rfl, rfl, rfl, rfl⟩
    | setMoment _ | close _ | executeOnce _ => exact standing_still rfl
    | wait _ | observe _ | refresh _ | execute _ | look => trivial
  executes _ target hh _ := standing_launches.keeps_execute (standing_awaits setup) hh target

lemma standing_hookAt (setup : Setup) (depth : Nat) :
    standing.Hosts (fun _ => True) setup (hookAt setup depth) :=
  (standing_governs setup).hosts_hookAt (fun _ _ _ => trivial) depth

end Steps

/-- Whatever steps a script takes and others take meanwhile, what the attempt had come to stands as
long as it is the current one. -/
theorem stands_of_mem_play (script : Script) (setup : Setup) {s : Scene} (hs : DoneIfFailed s.order)
    (steps : List Action) :
    ∀ r ∈ script.play setup s steps, DoneIfFailed r.2.order ∧ Stands s.order r.2.order :=
  fun r hr => (standing_governs setup).step_of_mem_play (fun _ _ _ => trivial) script
    (fun _ _ => trivial) s r hr hs

end ServerPower.Proofs
