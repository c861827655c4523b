import ServerPower.Proofs.Executions

/-!
# The numbers of attempts

Attempts are numbered upwards: whatever happens, the number of the current attempt never falls, no
submission waits for an attempt that has not begun yet, and the journal only grows. Whoever begins
an attempt, by a reset or by executing a change, raises the number, whatever comes of the change.
-/

namespace ServerPower.Proofs
open Run

/-- Every submission that waits for the pool is for an attempt that has begun. -/
def Orderly (s : Scene) : Prop :=
  ∀ job ∈ s.pending, job.attempt ≤ s.order.attempt

/-- From one scene to another the number of the current attempt does not fall, orderly scenes stay
orderly, and the journal grows by entries for the attempts in between. -/
structure Advances (s t : Scene) : Prop where
  attempt : s.order.attempt ≤ t.order.attempt
  orderly : Orderly s → Orderly t
  journal : ∃ new, t.journal = new ++ s.journal ∧
    ∀ e ∈ new, s.order.attempt ≤ e.order.attempt ∧ e.order.attempt ≤ t.order.attempt

/-- An action that begins an attempt: a reset, or the execution of a change that there is. -/
def BeginsAttempt : Action → Prop
  | .reset => True
  | .execute target | .executeOnce target => target ∈ PowerState.targets
  | _ => False

/-- From one scene to another an attempt was begun before anything was noted. -/
structure Begun (s t : Scene) : Prop where
  rises : s.order.attempt < t.order.attempt
  above : ∃ new, t.journal = new ++ s.journal ∧ ∀ e ∈ new, s.order.attempt < e.order.attempt

namespace Advances

variable {s t u : Scene}

lemma refl (s : Scene) : Advances s s :=
  ⟨Int.le_refl _, id, [], rfl, fun _ he => nomatch he⟩

lemma trans (h1 : Advances s t) (h2 : Advances t u) : Advances s u := by
  obtain ⟨first, hj1, hb1⟩ := h1.journal
  obtain ⟨second, hj2, hb2⟩ := h2.journal
  have hst := h1.attempt
  have htu := h2.attempt
  refine ⟨Int.le_trans hst htu, h2.orderly ∘ h1.orderly, second ++ first, ?_, fun e he => ?_⟩
  · rw [hj2, hj1, List.append_assoc]
  · rcases List.mem_append.mp he with he | he
    · have hb := hb2 e he
      omega
    · have hb := hb1 e he
      omega

/-- If no attempt is begun from one scene to the other, all that is noted between is noted in the
one attempt. -/
lemma attempt_of_mem (h : Advances s t) (ha : t.order.attempt = s.order.attempt) {new : List Entry}
    (hj : t.journal = new ++ s.journal) : ∀ e ∈ new, e.order.attempt = s.order.attempt := by
  obtain ⟨entries, hentries, hbounds⟩ := h.journal
  have heq : entries = new := List.append_cancel_right (hentries.symm.trans hj)
  intro e he
  have hbound := hbounds e (heq ▸ he)
  omega

lemma begun (h : Advances (attemptBegun s) t) : Begun s t := by
  have hnext : (attemptBegun s).order.attempt = s.order.attempt + 1 := rfl
  have hlater := h.attempt
  obtain ⟨new, hj, hbounds⟩ := h.journal
  refine ⟨by omega, new, hj, fun e he => ?_⟩
  have hbound := hbounds e he
  omega

end Advances

def advancing : Law where
  holds _ := True
  leads := Advances
  refl := Advances.refl
  trans := Advances.trans

lemma advancing_step {s t : Scene} (ha : t.order.attempt = s.order.attempt)
    (hp : t.pending ⊆ s.pending) (hj : t.journal = s.journal) : advancing.Step s t := by
  refine fun _ =>
    ⟨trivial, Int.le_of_eq ha.symm, fun hs job hm => ?_, [], hj, fun _ he => nomatch he⟩
  rw [ha]
  exact hs job (hp hm)

lemma advancing_onOrder {s : Scene} {f : PowerOrder → PowerOrder}
    (ha : (f s.order).attempt = s.order.attempt) : advancing.Step s (s.onOrder f) :=
  advancing_step ha (List.Subset.refl _) rfl

lemma advancing_note (s : Scene) (event : Event) : advancing.Step s (s.note event) := by
  refine fun _ => ⟨trivial, Int.le_refl _, id, [_], rfl, fun e he => ?_⟩
  rw [List.mem_singleton.mp he]
  exact ⟨Int.le_refl _, Int.le_refl _⟩

lemma advancing_serves : advancing.Serves (fun _ => True) (fun _ => True) where
  noted s event _ := advancing_note s event
  supplied s request := advancing_step rfl (List.Subset.refl _) rfl
  counted s := advancing_step rfl (List.Subset.refl _) rfl
  forgot s := advancing_onOrder rfl
  hardware s attempt? latest _ := advancing_onOrder (by simp)
  progress s attempt? task := advancing_onOrder (by simp)
  ended s failure? attempt _ := advancing_onOrder (by simp)
  task s attempt task _ := advancing_onOrder (by simp)
  during _ _ _ _ _ := trivial

lemma advancing_awaits (setup : Setup) :
    advancing.Awaits (fun _ => True) (fun _ => True) setup :=
  advancing_serves.awaits (fun _ _ _ _ => trivial)
    (fun _ _ _ hp => advancing_step rfl hp.subset rfl) setup

lemma advancing_launches : advancing.Launches where
  begun s := by
    have hnext : (s.onOrder PowerOrder.reset).order.attempt = s.order.attempt + 1 := rfl
    refine fun _ => ⟨trivial, by omega, fun hs job hm => ?_, [], rfl, fun _ he => nomatch he⟩
    have hjob := hs job hm
    omega
  entered s phase := advancing_step rfl (List.Subset.refl _) rfl
  queued s job hj := by
    refine fun _ => ⟨trivial, Int.le_refl _, fun hs job' hm => ?_, [], rfl, fun _ he => nomatch he⟩
    rcases List.mem_append.mp hm with hm | hm
    · exact hs job' hm
    · rw [List.mem_singleton.mp hm]
      exact Int.le_of_eq hj

theorem advancing_governs (setup : Setup) :
    advancing.Governs (fun _ => True) (fun _ => True) setup where
  toAwaits := advancing_awaits setup
  bears s action _ := by
    cases action with
    | reset => exact advancing_launches.begun s
    | markDone _ attempt? => exact fun failure? => advancing_onOrder (by simp)
    | submit _ _ => exact fun _ => trivial
    | wait _ | observe _ | refresh _ | execute _ | look => trivial
    | _ => exact advancing_step rfl (List.Subset.refl _) rfl
  executes _ target hh _ := advancing_launches.keeps_execute (advancing_awaits setup) hh target

lemma advancing_hookAt (setup : Setup) (depth : Nat) :
    advancing.Hosts (fun _ => True) setup (hookAt setup depth) :=
  (advancing_governs setup).hosts_hookAt (fun _ _ _ => trivial) depth

lemma advances_of_execute (setup : Setup) (depth : Nat) {target : PowerState}
    (ht : target ∈ PowerState.targets) (s : Scene) :
    Advances (attemptBegun s) ((execute setup (hookAt setup depth) target).run s).2 :=
  (advancing_launches.step_begun (advancing_awaits setup) (advancing_hookAt setup depth) ht s
    trivial).2

lemma advances_close (setup : Setup) (wait : Json) (s : Scene) :
    Advances s ((close setup wait).run s).2 := by
  have hnoted : Advances s (s.note (.shutdown wait)) := (advancing_note s _ trivial).2
  unfold close
  split
  · exact hnoted.trans ⟨Int.le_refl _, id, [], rfl, fun _ he => nomatch he⟩
  · exact Advances.refl s

/-- In every scene that a script reaches, only submissions for attempts that have begun wait. -/
theorem orderly_of_mem_play (script : Script) (setup : Setup) {s : Scene} (hs : Orderly s)
    (actions : List Action) : ∀ r ∈ script.play setup s actions, Orderly r.2 := by
  intro r hr
  have hstep := (advancing_governs setup).step_of_mem_play (fun _ _ _ => trivial) script
    (fun _ _ => trivial) s r hr
  exact (hstep trivial).2.orderly hs

/-- Whatever others do, the number of the current attempt does not fall. -/
theorem attempt_le_hookAt (setup : Setup) (depth : Nat) (actions : List Action) (s : Scene) :
    s.order.attempt ≤ ((hookAt setup depth actions).run s).2.order.attempt :=
  ((advancing_hookAt setup depth).keeps actions (fun _ _ => trivial) s trivial).2.attempt

/-- An action that begins an attempt raises the number first, even if it fails after that. -/
theorem begun_of_perform (setup : Setup) (depth : Nat) {action : Action} (h : BeginsAttempt action)
    (s : Scene) : Begun s ((perform setup (hookAt setup depth) action).run s).2 := by
  cases action with
  | reset => exact ⟨Int.lt_succ _, [], rfl, fun e he => nomatch he⟩
  | execute target =>
    have hadvances := advances_of_execute setup depth h s
    unfold perform
    rw [run_bind]
    rcases hr : (execute setup (hookAt setup depth) target).run s with ⟨failure | result, t⟩ <;>
      · rw [hr] at hadvances
        exact hadvances.begun
  | executeOnce target =>
    have hadvances := advances_of_execute setup depth h s
    unfold perform
    rw [run_bind, run_executeOnce]
    rcases hr : (execute setup (hookAt setup depth) target).run s with ⟨failure | result, t⟩ <;>
      · rw [hr] at hadvances
        exact (hadvances.trans (advances_close setup (.bool true) t)).begun
  | _ => exact h.elim

/-- Where one of the actions of others begins an attempt, an earlier one is not the current one any
more. -/
theorem lt_hookAt_of_begins (setup : Setup) (depth : Nat) {actions : List Action} {action : Action}
    (hb : BeginsAttempt action) (h : action ∈ actions) (s : Scene) :
    s.order.attempt < ((hookAt setup (depth + 1) actions).run s).2.order.attempt := by
  induction actions generalizing s with
  | nil => cases h
  | cons first actions ih =>
    let done := (perform setup (hookAt setup depth) first).run s
    rw [run_hookAt_cons]
    rcases List.mem_cons.mp h with rfl | h
    · have hbegun := (begun_of_perform setup depth hb s).rises
      have hrest := attempt_le_hookAt setup (depth + 1) actions (done.2.note (.acted done.1))
      exact Int.lt_of_lt_of_le hbegun hrest
    · have hfirst := attempt_le_hookAt setup (depth + 1) [first] s
      rw [run_hookAt_cons, run_hookAt_nil] at hfirst
      exact Int.lt_of_le_of_lt hfirst (ih h (done.2.note (.acted done.1)))

end ServerPower.Proofs
