import ServerPower.Proofs.Loops
import ServerPower.Proofs.OwnSubmission
import ServerPower.Proofs.Unattended

/-!
# Completion

Where others spare an attempt, an execution that reports completion has evidence for it. The
invariant ties the end of the attempt and the address of its task to the traces of its own calls. It
holds while the submission waits for the pool, and from its end on; while it runs nothing has come
of the attempt yet.
-/

namespace ServerPower.Proofs
open Run

/-- Nothing has come of attempt `a` yet, and its submission does not wait for the pool. -/
structure Open (a : Int) (old : List Entry) (P : List Entry → Prop) (s : Scene) : Prop where
  spared : Spared a s
  unqueued : Unqueued a s
  done : s.order.done = false
  uri : s.order.task.uri = ""
  shows : Since old P s

structure Waiting (a : Int) (target : PowerState) (old : List Entry) (s : Scene) : Prop where
  spared : Spared a s
  queued : Queued a target s
  done : s.order.done = false
  uri : s.order.task.uri = ""
  shows : Since old (Unasked a) s

/-- The submission for attempt `a` was run or never will be. There is evidence if the attempt ended
without a failure, and the manager made the task if there is one. -/
structure Settled (strict : Bool) (a : Int) (target : PowerState) (old : List Entry) (s : Scene) :
    Prop where
  spared : Spared a s
  unqueued : Unqueued a s
  ended : s.order.done = true → s.order.failure? = none → Since old (Evidence strict a target) s
  followed : s.order.task.uri ≠ "" → Since old (AcceptedAt strict a s.order.task.uri) s

section Own

variable {a : Int} {target : PowerState} {old : List Entry} {s t : Scene}
  {P : List Entry → Prop} {setup : Setup} {hook : Hook} {strict : Bool}

/-- An attempt stays settled while it is level and what its traces show is still shown. -/
lemma Settled.keep (h : Settled strict a target old s) (hspared : Spared a t)
    (hunqueued : Unqueued a t) (hlevel : Level s.order t.order)
    (hshown : ∀ P, Lasting a P → Since old P s → Since old P t) :
    Settled strict a target old t := by
  refine ⟨hspared, hunqueued, fun hd hf => ?_, fun hu => ?_⟩
  · rw [hlevel.done] at hd
    rw [hlevel.failure?] at hf
    exact hshown _ lasting_evidence (h.ended hd hf)
  · rw [hlevel.uri] at hu ⊢
    exact hshown _ (lasting_acceptedAt _) (h.followed hu)

lemma Settled.aside (h : Settled strict a target old s) (hs : (quiet a).Step s t) :
    Settled strict a target old t := by
  obtain ⟨⟨hspared, hunqueued⟩, haside⟩ := hs ⟨h.spared, h.unqueued⟩
  exact h.keep hspared hunqueued haside.level (fun _ hp hs => hs.aside hp haside)

lemma Open.gaveUp (h : Open a old P s) (message : String) (failure : Failure) :
    Settled strict a target old (gaveUp a message failure s) := by
  refine ⟨⟨?_, h.spared.answers⟩, h.unqueued, fun _ hf => ?_, fun hu => ?_⟩
  · simpa [Proofs.gaveUp] using h.spared.attempt
  · simp [Proofs.gaveUp, PowerOrder.markDone_of_current h.spared.attempt] at hf
  · simp [Proofs.gaveUp, PowerOrder.markDone_of_current h.spared.attempt, h.uri] at hu

lemma Open.noteTask (h : Open a old P s) {task : RemoteTask}
    (ht : Since old (AcceptedAt strict a task.uri) s) :
    Settled strict a target old (s.onOrder (·.noteTask a task)) := by
  have horder := PowerOrder.noteTask_of_current h.spared.attempt task
  refine ⟨⟨?_, h.spared.answers⟩, h.unqueued, fun hd => ?_, fun _ => ?_⟩
  · rw [Scene.order_onOrder, horder]
    exact h.spared.attempt
  · rw [Scene.order_onOrder, horder] at hd
    exact absurd (h.done.symm.trans hd) (by decide)
  · rw [Scene.order_onOrder, horder]
    exact ht

lemma Open.markDone (h : Open a old P s) (he : Since old (Evidence strict a target) s) :
    Settled strict a target old (s.onOrder (·.markDone none (some a))) := by
  refine ⟨⟨?_, h.spared.answers⟩, h.unqueued, fun _ _ => he, fun hu => ?_⟩
  · simpa using h.spared.attempt
  · simp [PowerOrder.markDone_of_current h.spared.attempt, h.uri] at hu

lemma Open.settled (h : Open a old P s) : Settled strict a target old s :=
  ⟨h.spared, h.unqueued, fun hd => absurd (h.done.symm.trans hd) (by decide),
    fun hu => absurd h.uri hu⟩

/-- The attempt's own submission settles it, however it ends. -/
theorem Open.work (hh : (quiet a).Hosts (Spares a) setup hook) (h : Open a old (Unasked a) s) :
    Settled setup.strict a target old ((Run.work setup hook target a).run s).2 := by
  obtain ⟨before, hj, hunasked⟩ := h.shows
  obtain ⟨t, new, htrail, hends⟩ := own_work hh ⟨h.spared, h.unqueued⟩ target
  have hjournal : t.journal = (new ++ before) ++ old := by
    rw [htrail.journal, hj, List.append_assoc]
  have hopen : Open a old (fun _ => True) t :=
    ⟨htrail.held.1, htrail.held.2, htrail.level.done.trans h.done, htrail.level.uri.trans h.uri,
      _, hjournal, trivial⟩
  generalize ((Run.work setup hook target a).run s).2 = u at hends ⊢
  cases hends with
  | hindered hindrance => exact hopen.gaveUp _ _
  | found hfound hnew =>
    exact hopen.markDone ⟨_, hjournal, Or.inl ⟨hfound.append_left, hnew.append hunasked⟩⟩
  | accepted haccepted => exact hopen.noteTask ⟨_, hjournal, haccepted.append_left⟩

end Own

def accounted (strict : Bool) (a : Int) (target : PowerState) (old : List Entry) : Law where
  holds s := Waiting a target old s ∨ Settled strict a target old s
  leads _ _ := True
  refl _ := trivial
  trans _ _ := trivial

section Accounted

variable {a : Int} {target : PowerState} {old : List Entry} {s t : Scene} {setup : Setup}
  {depth : Nat} {strict : Bool}

lemma accounted_step (hs : Spared a s → Spared a t) (hp : t.pending = s.pending)
    (hl : Level s.order t.order)
    (hj : ∃ more, t.journal = more ++ s.journal ∧ Unasked a more) :
    (accounted strict a target old).Step s t := by
  obtain ⟨more, hj, hm⟩ := hj
  rintro (h | h)
  · refine ⟨Or.inl ⟨hs h.spared, ?_, ?_, ?_, h.shows.grow lasting_unasked hm hj⟩, trivial⟩
    · rw [Queued, hp]
      exact h.queued
    · exact hl.done.trans h.done
    · exact hl.uri.trans h.uri
  · have hunqueued : Unqueued a t := by
      rw [Unqueued, hp]
      exact h.unqueued
    exact ⟨Or.inr (h.keep (hs h.spared) hunqueued hl fun _ hp hs => hs.grow hp hm hj), trivial⟩

lemma accounted_step_of_steady (h : (steady a).Step s t) :
    (accounted strict a target old).Step s t := by
  intro hs
  have hspared : Spared a s := hs.elim (·.spared) (·.spared)
  obtain ⟨ht, haside, hp⟩ := h hspared
  obtain ⟨more, hj, hf⟩ := haside.journal
  exact accounted_step (fun _ => ht) hp haside.level ⟨more, hj, hf.unasked⟩ hs

lemma accounted_step_of_quiet (h : Settled strict a target old s) (hs : (quiet a).Step s t) :
    (accounted strict a target old).Step s t :=
  fun _ => ⟨Or.inr (h.aside hs), trivial⟩

lemma accounted_serves : (accounted strict a target old).Serves (· ≠ a) (Spares a) where
  toAdmits := ((steady_admits a).of_step (fun _ _ => accounted_step_of_steady)).admits
  during s request hs := (hs.elim (·.spared) (·.spared) : Spared a s).during request

lemma Waiting.afterDue (h : Waiting a target old s)
    (hh : (accounted setup.strict a target old).Hosts (Spares a) setup (hookAt setup depth)) :
    (accounted setup.strict a target old).holds
      (Proofs.afterDue setup (hookAt setup depth) s) := by
  have hq : (quiet a).Hosts (Spares a) setup (hookAt setup depth) :=
    (quiet_governs a setup).hosts_hookAt hh.waits depth
  rcases h.queued.afterDue hq h.spared with
    ⟨pending, jobs, hqueued, hjobs, he⟩ | ⟨u, ⟨hspared, hunqueued⟩, haside, hrest⟩
  · rw [he]
    refine (accounted_serves.step_workedOff hh hjobs _ (Or.inl ?_)).1
    exact ⟨⟨h.spared.attempt, h.spared.answers⟩, hqueued, h.done, h.uri, h.shows⟩
  · -- The submission finds the attempt open once those before it were run, and settles it.
    have hopen : Open a old (Unasked a) u :=
      ⟨hspared, hunqueued, haside.level.done.trans h.done, haside.level.uri.trans h.uri,
        h.shows.aside lasting_unasked haside⟩
    exact Or.inr ((hopen.work hq).aside hrest)

theorem accounted_governs (setup : Setup) (a : Int) (target : PowerState) (old : List Entry) :
    (accounted setup.strict a target old).Governs (· ≠ a) (Spares a) setup where
  toServes := accounted_serves
  due depth hh s := by
    rintro (h | h)
    · exact ⟨h.afterDue hh, trivial⟩
    · have hq : (quiet a).Hosts (Spares a) setup (hookAt setup depth) :=
        (quiet_governs a setup).hosts_hookAt hh.waits depth
      exact accounted_step_of_quiet h ((quiet_governs a setup).due depth hq s) (Or.inr h)
  bears s action h := (steady_bears s h).of_step (fun _ => accounted_step_of_steady)
    (·.elim (·.spared) (·.spared))
  executes depth target _ ht := accounted_serves.toAdmits.keeps_execute_refused ht _ _

lemma Settled.called (h : Settled strict a target old s) {origin : Origin} {request : Request}
    {outcome : Except Failure String} (hc : Called a origin request outcome s t)
    (hm : request.method ≠ "PUT") : Settled strict a target old t :=
  h.keep hc.spared hc.unqueued hc.level (fun _ hp hs => hc.keeps hm hs hp)

lemma Settled.markDone (h : Settled strict a target old s) {failure? : Option Failure}
    (he : failure? = none → Since old (Evidence strict a target) s) :
    Settled strict a target old (s.onOrder (·.markDone failure? (some a))) := by
  have horder := PowerOrder.markDone_of_current h.spared.attempt failure?
  refine ⟨⟨?_, h.spared.answers⟩, h.unqueued, fun _ hf => he ?_, ?_⟩
  · simpa using h.spared.attempt
  · -- The first failure stays, so an end without one is an end with `none`.
    rw [Scene.order_onOrder, horder] at hf
    cases hs : s.order.failure? with
    | none => simpa [hs] using hf
    | some failure => simp [hs] at hf
  · rw [Scene.order_onOrder, horder]
    exact h.followed

/-- A refresh by the attempt itself keeps it settled; what it yields was checked. -/
lemma Settled.refresh {hook : Hook} (hh : (quiet a).Hosts (Spares a) setup hook)
    (h : Settled setup.strict a target old s) :
    let r := (Run.refresh setup hook (.polling a) (some a)).run s
    Settled setup.strict a target old r.2 ∧
      ∀ latest, r.1 = .ok (some latest) → Since old (Checked setup.strict a latest) r.2 := by
  have hq := (quiet_serves a).toAdmits
  dsimp only
  rw [run_refresh]
  dsimp only
  by_cases ht : s.order.task.exists?
  · simp only [ht, if_true]
    have hu : s.order.task.uri ≠ "" := by simpa [RemoteTask.exists?] using ht
    rcases quiet_call hh ⟨h.spared, h.unqueued⟩ (.polling a) s.order.hardware.client "GET"
      (.text s.order.task.uri) .null with ⟨failure, -, hc⟩ | ⟨request, outcome, t, hr, hc, hcalled⟩
    · rw [hc]
      exact ⟨h, fun _ he => by cases he⟩
    · rw [hc]
      have hmethod : request.method = "GET" := (Client.of_request_eq_ok hr).1
      have hsettled : Settled setup.strict a target old t :=
        h.called hcalled (by rw [hmethod]; decide)
      cases outcome with
      | error failure => exact ⟨hsettled, fun _ he => by cases he⟩
      | ok body =>
        let read := Client.readTask setup.strict (.text s.order.task.uri) body s.order.task
        have hlogged := hq.step_logged read.records t
        dsimp only
        cases hl : (Client.readTask setup.strict (.text s.order.task.uri) body
          s.order.task).outcome with
        | error failure => exact ⟨hsettled.aside hlogged, fun _ he => by cases he⟩
        | ok latest =>
          have hstep := hlogged.trans (hq.progress _ (some a) latest)
          refine ⟨hsettled.aside hstep, fun latest' he => ?_⟩
          cases he
          have hchecked := hcalled.checked (h.followed hu) hu hr hl
          exact hchecked.aside (fun more new _ hn => hn.append more)
            (hstep ⟨hsettled.spared, hsettled.unqueued⟩).2
  · simp only [ht, Bool.false_eq_true, if_false]
    exact ⟨h, fun _ he => by cases he⟩

/-- A check keeps an attempt settled: it ends it without a failure only where it saw the task
completed. -/
lemma Settled.check {hook : Hook} (hh : (quiet a).Hosts (Spares a) setup hook)
    (h : Settled setup.strict a target old s) :
    Settled setup.strict a target old ((Run.check setup hook target a).run s).2 := by
  have hq := (quiet_serves a).toAdmits
  obtain ⟨hsettled, hchecked⟩ := h.refresh hh
  rw [run_check]
  rcases hr : (Run.refresh setup hook (.polling a) (some a)).run s with ⟨failure | _ | task, t⟩
  · rwa [hr] at hsettled
  · rw [hr] at hsettled
    exact hsettled.aside (hq.step_log t _)
  · rw [hr] at hsettled hchecked
    dsimp only
    split
    · rename_i hcompleted
      refine (hsettled.markDone fun _ => ?_).aside (hq.step_log _ _)
      exact (hchecked task rfl).mono fun new hn =>
        Or.inr ⟨task, hn, (isCompleted_iff task).mp hcompleted⟩
    · split
      · cases task.errorSummary with
        | error failure => exact hsettled
        | ok reason =>
          have hended : Settled setup.strict a target old
              (t.onOrder (·.markDone (some (changeFailed target reason)) (some a))) :=
            hsettled.markDone (fun hn => nomatch hn)
          exact hended.aside (hq.step_log _ _)
      · exact hsettled.aside (hq.step_log t _)

lemma Waiting.check {hook : Hook} (h : Waiting a target old s) :
    (accounted strict a target old).holds ((Run.check setup hook target a).run s).2 := by
  have ht : s.order.task.exists? = false := by simp [RemoteTask.exists?, h.uri]
  rw [run_check, refresh_of_no_task setup hook _ _ ht]
  exact (accounted_step_of_steady ((steady_admits a).admits.step_log s _) (Or.inl h)).1

lemma accounted_check (hh : (accounted setup.strict a target old).Hosts (Spares a) setup
    (hookAt setup depth)) :
    (accounted setup.strict a target old).Keeps (check setup (hookAt setup depth) target a) := by
  rintro s (h | h)
  · exact ⟨h.check, trivial⟩
  · have hq : (quiet a).Hosts (Spares a) setup (hookAt setup depth) :=
      (quiet_governs a setup).hosts_hookAt hh.waits depth
    exact ⟨Or.inr (h.check hq), trivial⟩

lemma accounted_rounds (hh : (accounted setup.strict a target old).Hosts (Spares a) setup
    (hookAt setup depth)) {checks n : Nat} {u : Scene}
    (hr : Rounds setup (hookAt setup depth) target a checks s n u)
    (hs : (accounted setup.strict a target old).holds s) :
    (accounted setup.strict a target old).holds u := by
  induction hr with
  | here => exact hs
  | @round checks n s t u going allowed checked rest ih =>
    have hchecked := (accounted_check hh s hs).1
    rw [checked] at hchecked
    have hwaited : (accounted setup.strict a target old).Step t
        (t.note (.waited (.polling a) t.order.interval)) := by
      refine accounted_step (fun hs => ⟨hs.attempt, hs.answers⟩) rfl (Level.refl _) ⟨[_], rfl, ?_⟩
      exact unasked_singleton (fun number request he => nomatch he)
    exact ih ((accounted_governs setup a target old).step_pause hh hwaited hchecked).1

lemma accounted_follow (hh : (accounted setup.strict a target old).Hosts (Spares a) setup
    (hookAt setup depth)) (fuel checks : Nat) {result : Nat × Glance}
    (hs : (accounted setup.strict a target old).holds s)
    (hr : (follow setup (hookAt setup depth) target a fuel checks).run s = (.ok result, t)) :
    (accounted setup.strict a target old).holds t ∧ result.2 = glanceAt t.order := by
  refine ⟨?_, seen_of_follow hh.total hr⟩
  obtain ⟨n, u, hrounds, hends⟩ := ends_of_follow hh.total setup target a fuel checks s
  have hu := accounted_rounds hh hrounds hs
  rw [hr] at hends
  rcases hends with ⟨-, hends⟩ | ⟨-, hcut⟩
  · cases hends with
    | looked ended => exact hu
  · cases hcut
    exact hu

lemma accounted_enter (phase : Phase) : (accounted strict a target old).Step s (s.enter phase) :=
  accounted_step (fun hs => ⟨hs.attempt, hs.answers⟩) rfl (Level.refl _)
    ⟨[], rfl, fun _ he => nomatch he⟩

lemma accounted_handedOver (target : PowerState)
    (hh : (quiet a).Hosts (Spares a) setup (hookAt setup depth)) (h : Open a old (Unasked a) s) :
    (accounted setup.strict a target old).holds
      (handedOver setup (hookAt setup depth) target a s) := by
  unfold handedOver
  split
  · exact Or.inr (h.work hh)
  · rename_i count _
    refine Or.inl ⟨⟨h.spared.attempt, h.spared.answers⟩,
      ⟨s.waits + count, s.pending, [], rfl, fun job hm => ?_⟩, h.done, h.uri, h.shows⟩
    rw [List.append_nil] at hm
    exact h.unqueued job hm
  · exact Or.inr h.settled
  · exact Or.inr h.settled

end Accounted

/-- Where others spare the attempt that an execution begins, the execution reports completion only
with evidence for it in its own traces, and without a failure of the attempt. -/
theorem evidence_of_completed {setup : Setup} {depth : Nat} {target : PowerState} {s t : Scene}
    (hs : Orderly s)
    (hwaits : ∀ number, ∀ action ∈ setup.duringWait number, Spares (s.order.attempt + 1) action)
    (hanswers : ∀ answer ∈ s.supply.answers, ∀ action ∈ answer.during,
      Spares (s.order.attempt + 1) action)
    (hr : (execute setup (hookAt setup depth) target).run s = (.ok .completed, t)) :
    ∃ new, t.journal = new ++ s.journal ∧
      Evidence setup.strict (s.order.attempt + 1) target new ∧
      t.order.attempt = s.order.attempt + 1 ∧ t.order.failure? = none := by
  let a := s.order.attempt + 1
  by_cases ht : target ∈ PowerState.targets
  · rw [run_execute ht] at hr
    dsimp only at hr
    split at hr
    · have hquiet : (quiet a).Hosts (Spares a) setup (hookAt setup depth) :=
        (quiet_governs a setup).hosts_hookAt hwaits depth
      have hhosts : (accounted setup.strict a target s.journal).Hosts (Spares a) setup
          (hookAt setup depth) :=
        (accounted_governs setup a target s.journal).hosts_hookAt hwaits depth
      have hopen : Open a s.journal (Unasked a) (attemptBegun s) :=
        ⟨⟨rfl, hanswers⟩, fun job hm => Int.ne_of_lt (Int.lt_add_one_of_le (hs job hm)), rfl,
          rfl, [], rfl, fun _ he => nomatch he⟩
      have hbegun := ((accounted_enter .submitting).trans (accounted_enter .polling)
        (accounted_handedOver target hquiet hopen)).1
      rw [run_poll] at hr
      rcases hf : (follow setup (hookAt setup depth) target a (setup.checkBound + 1) 0).run _ with
        ⟨failure | ⟨checks, seen⟩, u⟩
      · rw [hf] at hr
        cases hr
      · rw [hf] at hr
        obtain ⟨hu, hseen⟩ := accounted_follow hhosts _ _ hbegun hf
        split at hr
        · rename_i result v hc
          cases hr
          obtain ⟨hfailure, hdone, rfl⟩ := completed_of_conclude hc
          obtain rfl : seen = glanceAt u.order := hseen
          have hsettled : Settled setup.strict a target s.journal u :=
            hu.resolve_left fun h => absurd (h.done.symm.trans hdone) (by decide)
          have hlog : Unasked a [⟨.logged completionRecord, u.order, .done⟩] :=
            unasked_singleton (fun number request he => nomatch he)
          obtain ⟨new, hj, he⟩ := (hsettled.ended hdone hfailure).grow lasting_evidence hlog
            (t := (u.enter .done).note (.logged completionRecord)) rfl
          exact ⟨new, hj, he, hsettled.spared.attempt, hfailure⟩
        · cases hr
    · cases hr
  · rw [run_execute_refused ht] at hr
    cases hr

/-- A blade that is switched off, with a manager that accepts the change and completes it at the
first check, while someone else asks for the power state. -/
def acceptedBlade : Scene :=
  bladeScene
    [{ content := .reply 200 "OK" "\x7b\"uri\": \"/b\", \"powerState\": \"Off\"\x7d" },
      { during := [.observe none], content := .reply 202 "Accepted" "\x7b\"uri\": \"/t\"\x7d" },
      { content := .reply 200 "OK" "\x7b\"uri\": \"/b\", \"powerState\": \"Off\"\x7d" },
      { content := .reply 200 "OK" "\x7b\"taskState\": \"completed\"\x7d" }]

lemma completed_acceptedBlade :
    ((execute calm (hookAt calm 1) .on).run acceptedBlade).1 = .ok .completed := by
  decide +kernel

theorem evidence_of_completed_blade :
    ∃ t new, (execute calm (hookAt calm 1) .on).run acceptedBlade = (.ok .completed, t) ∧
      t.journal = new ++ acceptedBlade.journal ∧
      Evidence calm.strict (acceptedBlade.order.attempt + 1) .on new := by
  have hresult := completed_acceptedBlade
  rcases hr : (execute calm (hookAt calm 1) .on).run acceptedBlade with ⟨result, t⟩
  rw [hr] at hresult
  subst hresult
  have hs : Orderly acceptedBlade := fun job hm => nomatch hm
  have hwaits : ∀ number, ∀ action ∈ calm.duringWait number,
      Spares (acceptedBlade.order.attempt + 1) action :=
    calm_duringWait (Spares (acceptedBlade.order.attempt + 1))
  have hanswers : ∀ answer ∈ acceptedBlade.supply.answers, ∀ action ∈ answer.during,
      Spares (acceptedBlade.order.attempt + 1) action := by
    simp [acceptedBlade, bladeScene, Supply.answers, Spares]
  obtain ⟨new, hj, he, -⟩ := evidence_of_completed hs hwaits hanswers hr
  exact ⟨t, new, rfl, hj, he⟩

end ServerPower.Proofs
