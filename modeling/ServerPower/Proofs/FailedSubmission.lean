import ServerPower.Proofs.LastLook
import ServerPower.Proofs.OwnSubmission

/-!
# Failed submissions

Where others spare an attempt, the failure of its submission is what the execution ends with. The
attempt stays untouched while its submission waits for the pool; once that was run, either it
succeeded or the attempt is done with the failure, and then nothing is checked any more.
-/

namespace ServerPower.Proofs
open Run

/-- The submission for attempt `a` found the hardware in its target state, or the manager accepted
the change. -/
def Succeeded (strict : Bool) (a : Int) (target : PowerState) (entries : List Entry) : Prop :=
  FoundAs strict a target entries ∨ ∃ address, AcceptedAt strict a address entries

/-- The submission for attempt `a` was given up for a cause that hindered it, and the cause was
recorded. -/
def Hindered (strict : Bool) (a : Int) (target : PowerState) (cause : Failure)
    (entries : List Entry) : Prop :=
  ∃ later recorded before message, entries = later ++ recorded :: before ∧
    recorded.event = .logged ⟨.error, .ok (message ++ cause.text)⟩ ∧
    recorded.order.attempt = a ∧ Hindrance strict a target recorded.order before cause

/-- Nothing was done for the attempt but to query for its submission. -/
structure Untouched (a : Int) (old : List Entry) (s : Scene) : Prop where
  failure? : s.order.failure? = none
  uri : s.order.task.uri = ""
  unpolled : Since old (Unpolled a) s

/-- The attempt is over for a cause that hindered its submission. -/
structure Failed (strict : Bool) (a : Int) (target : PowerState) (old : List Entry)
    (cause : Failure) (s : Scene) : Prop where
  done : s.order.done = true
  failure? : s.order.failure? = some cause
  shows : Since old (fun new => Hindered strict a target cause new ∧ Unpolled a new) s

/-- The submission of attempt `a` was run: it succeeded, or the attempt failed. -/
def Decided (strict : Bool) (a : Int) (target : PowerState) (old : List Entry) (s : Scene) : Prop :=
  Since old (Succeeded strict a target) s ∨ ∃ cause, Failed strict a target old cause s

/-- The attempt is level from one scene to the other, and no check of it asked for its task. -/
structure Beside (a : Int) (s t : Scene) : Prop where
  level : Level s.order t.order
  journal : ∃ more, t.journal = more ++ s.journal ∧ Unpolled a more

def attended (strict : Bool) (a : Int) (target : PowerState) (old : List Entry) : Law where
  holds s := Spared a s ∧ (Queued a target s ∧ Untouched a old s ∨
    Unqueued a s ∧ Decided strict a target old s)
  leads _ _ := True
  refl _ := trivial
  trans _ _ := trivial

section Traces

variable {strict : Bool} {a : Int} {target : PowerState} {old more new : List Entry} {s t : Scene}
  {cause : Failure} {setup : Setup} {hook : Hook}

lemma Succeeded.append (h : Succeeded strict a target new) (more : List Entry) :
    Succeeded strict a target (more ++ new) := by
  rcases h with ⟨e, he, hfound⟩ | ⟨address, e, he, haccepted⟩
  · exact Or.inl ⟨e, List.mem_append_right _ he, hfound⟩
  · exact Or.inr ⟨address, e, List.mem_append_right _ he, haccepted⟩

lemma Hindered.append (h : Hindered strict a target cause new) (more : List Entry) :
    Hindered strict a target cause (more ++ new) := by
  obtain ⟨later, recorded, before, message, rfl, hrest⟩ := h
  exact ⟨more ++ later, recorded, before, message, by rw [List.append_assoc], hrest⟩

lemma Aside.beside (h : Aside a s t) : Beside a s t := by
  obtain ⟨more, hj, hf⟩ := h.journal
  exact ⟨h.level, more, hj, hf.unpolled⟩

lemma Untouched.beside (h : Untouched a old s) (hst : Beside a s t) : Untouched a old t := by
  obtain ⟨more, hj, hm⟩ := hst.journal
  exact ⟨hst.level.failure?.trans h.failure?, hst.level.uri.trans h.uri,
    h.unpolled.append hj fun new hn => hm.append hn⟩

lemma Decided.beside (h : Decided strict a target old s) (hst : Beside a s t) :
    Decided strict a target old t := by
  obtain ⟨more, hj, hm⟩ := hst.journal
  rcases h with hsucceeded | ⟨cause, hfailed⟩
  · exact Or.inl (hsucceeded.append hj fun new hn => hn.append more)
  · exact Or.inr ⟨cause, hst.level.done.trans hfailed.done,
      hst.level.failure?.trans hfailed.failure?,
      hfailed.shows.append hj fun new hn => ⟨hn.1.append more, hm.append hn.2⟩⟩

lemma succeeded_of_advances (h : Since old (Succeeded strict a target) s) (hst : Advances s t) :
    Since old (Succeeded strict a target) t := by
  obtain ⟨more, hj, -⟩ := hst.journal
  exact h.append hj fun new hn => hn.append more

/-- A submission that is given up for its first failure leaves the attempt failed. -/
lemma failed_gaveUp (ha : s.order.attempt = a) (hf : s.order.failure? = none)
    (hj : s.journal = new ++ old) (hn : Unpolled a new)
    (h : Hindrance strict a target s.order new cause) (message : String) :
    Failed strict a target old cause (gaveUp a message cause s) := by
  let recorded : Entry := ⟨.logged ⟨.error, .ok (message ++ cause.text)⟩, s.order, s.phase⟩
  have horder : (gaveUp a message cause s).order =
      { s.order with done := true, failure? := some cause } := by
    show s.order.markDone (some cause) (some a) = _
    rw [PowerOrder.markDone_of_current ha, hf]
    rfl
  have hjournal : (gaveUp a message cause s).journal = (recorded :: new) ++ old := by
    show recorded :: s.journal = _
    rw [hj, List.cons_append]
  have hrecorded : Unpolled a [recorded] := unpolled_singleton (by simp [recorded])
  exact ⟨by rw [horder], by rw [horder], _, hjournal,
    ⟨[], recorded, new, message, rfl, rfl, ha, h⟩, hrecorded.append hn⟩

/-- What the attempt's own submission comes to. -/
lemma Untouched.work (h : Untouched a old s) (hh : (quiet a).Hosts (Spares a) setup hook)
    (hs : (quiet a).holds s) (target : PowerState) :
    (quiet a).holds ((Run.work setup hook target a).run s).2 ∧
      Decided setup.strict a target old ((Run.work setup hook target a).run s).2 := by
  obtain ⟨before, hj, hbefore⟩ := h.unpolled
  obtain ⟨t, new, htrail, hends⟩ := own_work hh hs target
  obtain ⟨⟨hattempt, hanswers⟩, hunqueued⟩ := htrail.held
  have hjournal : t.journal = (new ++ before) ++ old := by
    rw [htrail.journal, hj, List.append_assoc]
  generalize ((Run.work setup hook target a).run s).2 = u at hends ⊢
  cases hends with
  | hindered hindrance =>
    have hfailed := failed_gaveUp hattempt (htrail.level.failure?.trans h.failure?) hjournal
      (htrail.unpolled.append hbefore) hindrance.append_left
    exact ⟨⟨⟨by simpa [gaveUp] using hattempt, hanswers⟩, hunqueued⟩, Or.inr ⟨_, hfailed _⟩⟩
  | found hfound hunasked =>
    refine ⟨⟨⟨by simpa using hattempt, hanswers⟩, hunqueued⟩, Or.inl ⟨_, hjournal, ?_⟩⟩
    exact Or.inl hfound.append_left
  | accepted haccepted =>
    refine ⟨⟨⟨by simpa using hattempt, hanswers⟩, hunqueued⟩, Or.inl ⟨_, hjournal, ?_⟩⟩
    exact Or.inr ⟨_, haccepted.append_left⟩

end Traces

section Attended

variable {a : Int} {target : PowerState} {old : List Entry} {s t : Scene} {setup : Setup}
  {depth : Nat} {strict : Bool}

lemma attended_of_quiet (hr : Decided strict a target old s) (hs : (quiet a).holds s)
    (h : (quiet a).Step s t) : (attended strict a target old).holds t := by
  obtain ⟨⟨hspared, hunqueued⟩, haside⟩ := h hs
  exact ⟨hspared, Or.inr ⟨hunqueued, hr.beside haside.beside⟩⟩

lemma attended_step (hs : Spared a s → Spared a t ∧ Beside a s t) (hp : t.pending = s.pending) :
    (attended strict a target old).Step s t := by
  rintro ⟨hspared, h⟩
  obtain ⟨ht, hbeside⟩ := hs hspared
  refine ⟨⟨ht, ?_⟩, trivial⟩
  rw [Queued, Unqueued, hp]
  exact h.imp (And.imp_right (·.beside hbeside)) (And.imp_right (·.beside hbeside))

lemma attended_step_of_steady (h : (steady a).Step s t) :
    (attended strict a target old).Step s t := by
  intro hs
  obtain ⟨ht, haside, hp⟩ := h hs.1
  exact attended_step (fun _ => ⟨ht, haside.beside⟩) hp hs

lemma attended_serves : (attended strict a target old).Serves (· ≠ a) (Spares a) where
  toAdmits := ((steady_admits a).of_step (fun _ _ => attended_step_of_steady)).admits
  during _ request hs := hs.1.during request

theorem attended_governs (setup : Setup) (a : Int) (target : PowerState) (old : List Entry) :
    (attended setup.strict a target old).Governs (· ≠ a) (Spares a) setup where
  toServes := attended_serves
  due depth hh s := by
    have hq : (quiet a).Hosts (Spares a) setup (hookAt setup depth) :=
      (quiet_governs a setup).hosts_hookAt hh.waits depth
    rintro ⟨hspared, ⟨hqueued, huntouched⟩ | ⟨hunqueued, hrun⟩⟩
    · rcases hqueued.afterDue hq hspared with
        ⟨pending, jobs, hstill, hjobs, he⟩ | ⟨u, hu, haside, hrest⟩
      · rw [he]
        refine attended_serves.step_workedOff hh hjobs _ ⟨⟨hspared.attempt, hspared.answers⟩, ?_⟩
        exact Or.inl ⟨hstill, huntouched.failure?, huntouched.uri, huntouched.unpolled⟩
      · obtain ⟨hheld, hrun⟩ := (huntouched.beside haside.beside).work hq hu target
        exact ⟨attended_of_quiet hrun hheld hrest, trivial⟩
    · exact ⟨attended_of_quiet hrun ⟨hspared, hunqueued⟩ ((quiet_governs a setup).due depth hq s),
        trivial⟩
  bears s action h := (steady_bears s h).of_step (fun _ => attended_step_of_steady) (·.1)
  executes depth target _ ht := attended_serves.toAdmits.keeps_execute_refused ht _ _

lemma attended_handedOver (hh : (quiet a).Hosts (Spares a) setup (hookAt setup depth))
    (hs : (quiet a).holds s) (h : Untouched a old s)
    (hmoment : s.moment ≠ .never ∧ s.moment ≠ .cancelled) (target : PowerState) :
    (attended setup.strict a target old).holds
      (handedOver setup (hookAt setup depth) target a s) := by
  unfold handedOver
  split
  · obtain ⟨⟨hspared, hunqueued⟩, hdecided⟩ := h.work hh hs target
    exact ⟨hspared, Or.inr ⟨hunqueued, hdecided⟩⟩
  · rename_i count _
    refine ⟨⟨hs.1.attempt, hs.1.answers⟩, Or.inl ⟨⟨s.waits + count, s.pending, [], rfl, ?_⟩,
      h.failure?, h.uri, h.unpolled⟩⟩
    rw [List.append_nil]
    exact hs.2
  · rename_i hnever
    exact absurd hnever hmoment.1
  · rename_i hcancelled
    exact absurd hcancelled hmoment.2

lemma attended_enter (phase : Phase) : (attended strict a target old).Step s (s.enter phase) :=
  attended_step
    (fun hs => ⟨⟨hs.attempt, hs.answers⟩, Level.refl _, [], rfl, unpolled_nil a⟩) rfl

lemma attended_note {event : Event} (he : ∀ request, event ≠ .sent (.polling a) request) :
    (attended strict a target old).Step s (s.note event) :=
  attended_step (fun hs => ⟨⟨hs.attempt, hs.answers⟩, Level.refl _, [_], rfl,
    unpolled_singleton he⟩) rfl

/-- How following an attended attempt ends: the submission still waits, it succeeded, or the last
look saw its failure. -/
lemma attended_follow (hh : (attended setup.strict a target old).Hosts (Spares a) setup
    (hookAt setup depth)) (fuel checks : Nat) {outcome : Except Failure (Nat × Glance)}
    (hs : (attended setup.strict a target old).holds s)
    (hr : (follow setup (hookAt setup depth) target a fuel checks).run s = (outcome, t)) :
    Queued a target t ∨ Since old (Succeeded setup.strict a target) t ∨
      Spared a t ∧ ∃ cause checks', Failed setup.strict a target old cause t ∧
        outcome = .ok (checks', glanceAt t.order) := by
  induction fuel generalizing checks s with
  | zero =>
    cases hr
    obtain ⟨hspared, ⟨hqueued, -⟩ | ⟨-, hsucceeded | ⟨cause, hfailed⟩⟩⟩ := hs
    · exact Or.inl hqueued
    · exact Or.inr (Or.inl hsucceeded)
    · exact Or.inr (Or.inr ⟨hspared, cause, checks, hfailed, rfl⟩)
  | succ fuel ih =>
    obtain ⟨hspared, ⟨hqueued, huntouched⟩ | ⟨-, hsucceeded | ⟨cause, hfailed⟩⟩⟩ := hs
    · rw [run_follow_succ hh.total] at hr
      split at hr
      · cases hr
        exact Or.inl hqueued
      · split at hr
        · cases hr
          exact Or.inl hqueued
        · cases hr
          exact Or.inl hqueued
        · -- Without a task, a check only writes a record.
          have ht : s.order.task.exists? = false := by simp [RemoteTask.exists?, huntouched.uri]
          rw [run_check, refresh_of_no_task setup _ _ _ ht] at hr
          let checked := s.note (.logged ⟨.info, .ok "Working on power state."⟩)
          have hchecked : (attended setup.strict a target old).Step s checked :=
            attended_note (by simp)
          have hwaited : (attended setup.strict a target old).Step checked
              (checked.note (.waited (.polling a) checked.order.interval)) :=
            attended_note (by simp)
          have hpaused := hchecked.trans
            ((attended_governs setup a target old).step_pause hh hwaited)
          exact ih (checks + 1) (hpaused ⟨hspared, Or.inl ⟨hqueued, huntouched⟩⟩).1 hr
    · -- A success stays on record: whatever follows only adds to the journal.
      have hrest := (advancing_awaits setup).keeps_follow (advancing_hookAt setup depth) a trivial
        target (fuel + 1) checks s trivial
      rw [hr] at hrest
      exact Or.inr (Or.inl (succeeded_of_advances hsucceeded hrest.2))
    · -- A failed attempt is done, so this look is the last one.
      rw [run_follow_succ hh.total] at hr
      have hover : s.order.isOver := by simp [PowerOrder.isOver, hfailed.done]
      simp only [hover, if_true] at hr
      cases hr
      exact Or.inr (Or.inr ⟨hspared, cause, checks, hfailed, rfl⟩)

/-- Concluding leaves the submissions that wait, and the journal grows. -/
lemma advances_of_conclude {name : Json} {checks : Nat} {seen : Glance}
    {result : Except Failure PowerResult}
    (h : (conclude setup target name checks seen).run s = (result, t)) :
    t.pending = s.pending ∧ Advances s t := by
  exact ⟨(left_of_conclude h).2.1,
    (advancing_launches.step_concluded advancing_serves.remarks h trivial).2⟩

lemma advances_of_poll {hook : Hook} {u v : Scene} {result : Except Failure PowerResult}
    {outcome : Except Failure (Nat × Glance)}
    (hp : (poll setup hook target a).run s = (result, u))
    (hf : (follow setup hook target a (setup.checkBound + 1) 0).run (s.enter .polling) =
      (outcome, v)) : u.pending = v.pending ∧ Advances v u := by
  rw [run_poll, hf] at hp
  cases outcome with
  | error failure =>
    cases hp
    exact ⟨rfl, Advances.refl _⟩
  | ok last => exact advances_of_conclude hp

/-- Polling whose last look sees a failure ends with it. -/
lemma poll_of_failure {hook : Hook} {u v : Scene} {result : Except Failure PowerResult}
    {checks : Nat} {cause : Failure}
    (hp : (poll setup hook target a).run s = (result, u))
    (hf : (follow setup hook target a (setup.checkBound + 1) 0).run (s.enter .polling) =
      (.ok (checks, glanceAt v.order), v))
    (hc : v.order.failure? = some cause) :
    result = .error (submissionFailed target cause) ∧ u = v.enter .failed := by
  rw [run_poll, hf] at hp
  dsimp only at hp
  have hseen : (glanceAt v.order).failure? = some cause := hc
  rw [conclude_of_failure hseen] at hp
  cases hp
  exact ⟨rfl, rfl⟩

end Attended

/-- Where others spare the attempt that an execution begins, the execution ends with the failure of
its submission if that was run and did not succeed: the cause that hindered the submission is the
failure of the attempt and what is raised, or else what is raised is explained by it. The task of
the attempt is never asked for. -/
theorem failure_of_submission {setup : Setup} {depth : Nat} {target : PowerState} {s t : Scene}
    {result : Except Failure PowerResult} (ht : target ∈ PowerState.targets) (hopen : s.poolOpen)
    (hs : Orderly s)
    (hwaits : ∀ number, ∀ action ∈ setup.duringWait number, Spares (s.order.attempt + 1) action)
    (hanswers : ∀ answer ∈ s.supply.answers, ∀ action ∈ answer.during,
      Spares (s.order.attempt + 1) action)
    (hmoment : s.moment ≠ .never ∧ s.moment ≠ .cancelled)
    (hr : (execute setup (hookAt setup depth) target).run s = (result, t))
    (hrun : Unqueued (s.order.attempt + 1) t)
    (hfailed : ¬ Since s.journal (Succeeded setup.strict (s.order.attempt + 1) target) t) :
    let a := s.order.attempt + 1
    ∃ new cause, t.journal = new ++ s.journal ∧ Hindered setup.strict a target cause new ∧
      result = .error (submissionFailed target cause) ∧ t.phase = .failed ∧
      t.order.attempt = a ∧ t.order.done = true ∧ t.order.failure? = some cause ∧
      Unpolled a new := by
  let a := s.order.attempt + 1
  obtain ⟨u, hp, hu⟩ := polled_of_execute ht hopen hr
  have hquiet : (quiet a).Hosts (Spares a) setup (hookAt setup depth) :=
    (quiet_governs a setup).hosts_hookAt hwaits depth
  have hhosts : (attended setup.strict a target s.journal).Hosts (Spares a) setup
      (hookAt setup depth) :=
    (attended_governs setup a target s.journal).hosts_hookAt hwaits depth
  have hheld : (quiet a).holds (attemptBegun s) :=
    ⟨⟨rfl, hanswers⟩, fun job hm => Int.ne_of_lt (Int.lt_add_one_of_le (hs job hm))⟩
  have hbegun := ((attended_enter .submitting).trans (attended_enter .polling)
    (attended_handedOver hquiet hheld ⟨rfl, rfl, [], rfl, unpolled_nil a⟩ hmoment target)).1
  rcases hf : (follow setup (hookAt setup depth) target a (setup.checkBound + 1) 0).run
    (((handedOver setup (hookAt setup depth) target a (attemptBegun s)).enter .submitting).enter
      .polling) with ⟨outcome, v⟩
  have hconcluded := advances_of_poll hp hf
  have hended : t.pending = u.pending ∧ Advances u t := by
    rcases hu with rfl | ⟨-, rfl⟩
    · exact ⟨rfl, Advances.refl _⟩
    · exact ⟨rfl, (advancing_launches.entered u .failed trivial).2⟩
  rcases attended_follow hhosts _ _ hbegun hf with
    ⟨due, before, after, hpending, -⟩ | hsucceeded | ⟨hspared, cause, checks, hcause, rfl⟩
  · have hjob : ⟨due, target, a⟩ ∈ t.pending := by
      rw [hended.1, hconcluded.1, hpending]
      exact List.mem_append_right _ (List.mem_cons_self ..)
    exact absurd rfl (hrun _ hjob)
  · exact absurd (succeeded_of_advances hsucceeded (hconcluded.2.trans hended.2)) hfailed
  · obtain ⟨rfl, rfl⟩ := poll_of_failure hp hf hcause.failure?
    obtain rfl : t = v.enter .failed := hu.resolve_right fun h => by cases h.1
    obtain ⟨new, hj, hhindered, hunpolled⟩ := hcause.shows
    exact ⟨new, cause, hj, hhindered, rfl, rfl, hspared.attempt, hcause.done, hcause.failure?,
      hunpolled⟩

/-- Someone cancels during the first wait. -/
def cancelling : Setup :=
  { calm with duringWait := fun number => if number = 1 then [.cancel] else [] }

/-- A blade whose manager cannot be reached, with a pool that runs the submission at the first
wait. -/
def unreachableBlade : Scene :=
  { bladeScene [] with moment := .atWait 1 }

def isAnswer : Event → Bool
  | .answered _ _ (.ok _) => true
  | _ => false

lemma not_succeeded_of_no_answer {strict : Bool} {a : Int} {target : PowerState}
    {entries : List Entry} (h : ∀ e ∈ entries, isAnswer e.event = false) :
    ¬ Succeeded strict a target entries := by
  rintro (⟨e, he, number, request, body, uri, latest, hev, -⟩ |
    ⟨address, e, he, number, request, body, uri, task, hev, -⟩)
  · have hanswer := h e he
    rw [hev] at hanswer
    cases hanswer
  · have hanswer := h e he
    rw [hev] at hanswer
    cases hanswer

/-- The failure of the submission is raised although the attempt was cancelled. -/
theorem failure_of_submission_unreachable :
    ∃ t cause, (execute cancelling (hookAt cancelling 1) .on).run unreachableBlade =
        (.error (submissionFailed .on cause), t) ∧
      t.order.cancelled = true ∧ t.order.failure? = some cause ∧ t.phase = .failed := by
  have hend : let t := ((execute cancelling (hookAt cancelling 1) .on).run unreachableBlade).2
      t.order.cancelled = true ∧ (∀ job ∈ t.pending, job.attempt ≠ 1) ∧
      ∀ e ∈ t.journal, isAnswer e.event = false := by
    decide +kernel
  rcases hr : (execute cancelling (hookAt cancelling 1) .on).run unreachableBlade with ⟨result, t⟩
  rw [hr] at hend
  obtain ⟨hcancelled, hrun, hanswers⟩ := hend
  have hwaits : ∀ number, ∀ action ∈ cancelling.duringWait number,
      Spares (unreachableBlade.order.attempt + 1) action := by
    intro number action ha
    by_cases hn : number = 1
    · simp [cancelling, hn] at ha
      subst ha
      trivial
    · simp [cancelling, hn] at ha
  have hfailed : ¬ Since unreachableBlade.journal
      (Succeeded cancelling.strict (unreachableBlade.order.attempt + 1) .on) t := by
    rintro ⟨new, hj, hsucceeded⟩
    refine not_succeeded_of_no_answer (fun e he => hanswers e ?_) hsucceeded
    rw [hj]
    exact List.mem_append_left _ he
  have hs : Orderly unreachableBlade := fun job hm => by cases hm
  have hmanager : ∀ answer ∈ unreachableBlade.supply.answers, ∀ action ∈ answer.during,
      Spares (unreachableBlade.order.attempt + 1) action :=
    fun answer ha => by cases ha
  obtain ⟨new, cause, -, -, rfl, hphase, -, -, hfailure, -⟩ :=
    failure_of_submission (by decide) rfl hs hwaits hmanager (by decide) hr hrun hfailed
  exact ⟨t, cause, rfl, hcancelled, hfailure, hphase⟩

end ServerPower.Proofs
