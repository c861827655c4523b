import ServerPower.Proofs.DirectChange
import ServerPower.Proofs.Phases
import ServerPower.Proofs.Polling
import ServerPower.Proofs.Standing

/-!
# Cancelled attempts

When an attempt has been cancelled, at whatever moment between its beginning and the last look of
its execution, the polling comes to an end: nothing is asked any more, and at most one wait follows.
What comes of the execution has one order of precedence: a failure that was recorded comes first,
then the end of the attempt, then the cancellation, and the limit of checks does not matter any
more.
-/

namespace ServerPower.Proofs
open Run

/-- The entry shows attempt `a` cancelled. -/
structure ShowsCancelled (a : Int) (e : Entry) : Prop where
  attempt : e.order.attempt = a
  cancelled : e.order.cancelled = true

/-- What every entry in between shows of an attempt stands from then on. -/
structure Attests (s t : Scene) : Prop where
  stands : Stands s.order t.order
  journal : ∃ new, t.journal = new ++ s.journal ∧ ∀ e ∈ new, Stands e.order t.order

/-- Polling that only comes to its end: nothing is asked, and at most one wait is left. -/
structure Subsides (trace : List Entry) : Prop where
  unasked : ∀ e ∈ trace, ∀ origin request, e.event ≠ .sent origin request
  waits : trace.countP (isWait ·.event) ≤ 1

/-- From whichever entry on that shows attempt `a` cancelled, between one scene and the other, its
polling subsides. -/
def Heeds (a : Int) (s t : Scene) : Prop :=
  ∀ after e before, t.journal = after ++ e :: before → s.journal <:+ before → ShowsCancelled a e →
    Subsides (pollingOf a (after ++ [e]))

/-- What an execution makes of an attempt that was cancelled and that it last saw so. -/
inductive Ranks (target : PowerState) (order : PowerOrder) :
    Except Failure PowerResult → Phase → Prop
  | failed {cause : Failure} (failed : order.failure? = some cause)
      (kind : (submissionFailed target cause).isA .powerChange) :
      Ranks target order (.error (submissionFailed target cause)) .failed
  | completed (unfailed : order.failure? = none) (done : order.done = true) :
      Ranks target order (.ok .completed) .done
  | cancelled (unfailed : order.failure? = none) (undone : order.done = false) :
      Ranks target order (.ok .cancelled) .cancelled

/-- An execution from `s` that ends in `t` fails with its last check, which was begun before any
entry shows the attempt cancelled. -/
structure FailsInCheck (setup : Setup) (depth : Nat) (target : PowerState) (s t : Scene)
    (result : Except Failure PowerResult) : Prop where
  check : ∃ n u failure, ComesTo setup (hookAt setup depth) target s n u ∧
    (∀ after e before, t.journal = after ++ e :: before → s.journal <:+ before →
      ShowsCancelled (s.order.attempt + 1) e → u.journal <:+ before) ∧
    ((check setup (hookAt setup depth) target (s.order.attempt + 1)).run u).1 = .error failure ∧
    result = .error failure
  phase : t.phase = .failed

def attesting : Law where
  holds s := DoneIfFailed s.order
  leads := Attests
  refl s := ⟨Stands.refl _, [], rfl, fun _ he => nomatch he⟩
  trans h1 h2 := by
    obtain ⟨new1, hj1, hstands1⟩ := h1.journal
    obtain ⟨new2, hj2, hstands2⟩ := h2.journal
    refine ⟨h1.stands.trans h2.stands, new2 ++ new1, ?_, fun e he => ?_⟩
    · rw [hj2, hj1, List.append_assoc]
    · rcases List.mem_append.mp he with he | he
      · exact hstands2 e he
      · exact (hstands1 e he).trans h2.stands

section Steps

variable {s t : Scene}

/-- What changes no journal attests what stands. -/
lemma attesting_of_standing (h : standing.Step s t) (hj : t.journal = s.journal) :
    attesting.Step s t := by
  intro hs
  obtain ⟨ht, hstands⟩ := h hs
  exact ⟨ht, hstands, [], hj, fun _ he => nomatch he⟩

lemma attesting_note (s : Scene) (event : Event) : attesting.Step s (s.note event) := by
  refine fun hs => ⟨hs, Stands.refl _, [_], rfl, fun e he => ?_⟩
  rw [List.mem_singleton.mp he]
  exact Stands.refl _

lemma attesting_serves : attesting.Serves (fun _ => True) (fun _ => True) where
  noted s event _ := attesting_note s event
  supplied s request := attesting_of_standing (standing_serves.supplied s request) rfl
  counted s := attesting_of_standing (standing_serves.counted s) rfl
  forgot s := attesting_of_standing (standing_serves.forgot s) rfl
  hardware s attempt? latest _ :=
    attesting_of_standing (standing_unmarked (.noteHardware s.order attempt? latest _)) rfl
  progress s attempt? task := attesting_of_standing (standing_serves.progress s attempt? task) rfl
  ended s failure? attempt _ :=
    attesting_of_standing (standing_markDone s failure? (some attempt)) rfl
  task s attempt task ha := attesting_of_standing (standing_serves.task s attempt task ha) rfl
  during _ _ _ _ _ := trivial

lemma attesting_awaits (setup : Setup) : attesting.Awaits (fun _ => True) (fun _ => True) setup :=
  attesting_serves.awaits (fun _ _ _ _ => trivial)
    (fun _ _ _ _ => attesting_of_standing (standing_still rfl) rfl) setup

lemma attesting_launches : attesting.Launches where
  begun s := attesting_of_standing (standing_launches.begun s) rfl
  entered s phase := attesting_of_standing (standing_launches.entered s phase) rfl
  queued s job hj := attesting_of_standing (standing_launches.queued s job hj) rfl

theorem attesting_governs (setup : Setup) :
    attesting.Governs (fun _ => True) (fun _ => True) setup where
  toAwaits := attesting_awaits setup
  bears s action _ := by
    have hstanding := (standing_governs setup).bears s action trivial
    cases action with
    | markDone _ _ => exact fun failure? => attesting_of_standing (hstanding failure?) rfl
    | submit _ _ => exact fun _ => trivial
    | wait _ | observe _ | refresh _ | execute _ | look => trivial
    | _ => exact attesting_of_standing hstanding rfl
  executes _ target hh _ := attesting_launches.keeps_execute (attesting_awaits setup) hh target

lemma attesting_stage (setup : Setup) (depth : Nat) :
    attesting.Stage (fun _ => True) (fun _ => True) setup depth :=
  (attesting_awaits setup).stage
    ((attesting_governs setup).hosts_hookAt (fun _ _ _ => trivial) depth)

/-- An attempt that was shown cancelled stays so as long as it is the current one. -/
lemma Attests.cancelled {a : Int} (h : Attests s t) (ha : t.order.attempt = a) {new : List Entry}
    (hj : t.journal = new ++ s.journal) {e : Entry} (he : e ∈ new) (hshows : ShowsCancelled a e) :
    t.order.cancelled = true := by
  obtain ⟨entries, hentries, hstands⟩ := h.journal
  have hsame : entries = new := List.append_cancel_right (hentries.symm.trans hj)
  subst hsame
  exact (hstands e he).cancelled (hshows.attempt.trans ha.symm) hshows.cancelled

lemma Attests.isOver {a : Int} (h : Attests s t) (ha : t.order.attempt = a) {new : List Entry}
    (hj : t.journal = new ++ s.journal) {e : Entry} (he : e ∈ new) (hshows : ShowsCancelled a e) :
    t.order.isOver = true := by
  unfold PowerOrder.isOver
  rw [h.cancelled ha hj he hshows, Bool.or_true]

end Steps

section Heeding

variable {a : Int} {s t u : Scene} {trace : List Entry}

lemma pollingOf_sublist (a : Int) {entries more : List Entry} (h : entries.Sublist more) :
    (pollingOf a entries).Sublist (pollingOf a more) :=
  (h.filter _).reverse

lemma Subsides.sublist {part : List Entry} (h : Subsides trace) (hs : part.Sublist trace) :
    Subsides part :=
  ⟨fun e he => h.unasked e (hs.subset he), Nat.le_trans (hs.countP_le) h.waits⟩

lemma subsides_nil : Subsides [] :=
  ⟨fun _ he => (nomatch he), Nat.zero_le 1⟩

/-- An entry of a longer journal stands after a part of it, or within it. -/
lemma after_or_within {α : Type} {last new old after before : List α} {e : α}
    (h : last ++ (new ++ old) = after ++ e :: before) (hold : old <:+ before) :
    (new ++ old) <:+ before ∨
      ∃ later earlier, new = later ++ e :: earlier ∧ after = last ++ later := by
  obtain ⟨earlier, rfl⟩ := hold
  rcases List.append_eq_append_iff.mp h with ⟨later, hafter, hnew⟩ | ⟨rest, hlast, hrest⟩
  · right
    have hsame : new ++ old = (later ++ e :: earlier) ++ old := by
      rw [hnew, List.append_assoc, List.cons_append]
    exact ⟨later, earlier, List.append_cancel_right hsame, hafter⟩
  · cases rest with
    | nil =>
      right
      have hsame : new ++ old = (e :: earlier) ++ old := by
        rw [← List.nil_append (new ++ old), ← hrest, List.cons_append]
      refine ⟨[], earlier, List.append_cancel_right hsame, ?_⟩
      rw [hlast, List.append_nil, List.append_nil]
    | cons first rest =>
      left
      obtain ⟨-, hrest⟩ := List.cons.inj hrest
      exact ⟨rest, hrest.symm⟩

/-- Nothing comes from a scene to itself. -/
lemma heeds_self (a : Int) (s : Scene) : Heeds a s s := by
  intro after e before hj hsince _
  have hlength := congrArg List.length hj
  have hle := hsince.length_le
  simp only [List.length_append, List.length_cons] at hlength
  omega

/-- If the polling subsides after whatever is noted next, and heeds what comes then, it heeds what
comes. -/
lemma Heeds.extend {new last : List Entry} (hs : u.journal = new ++ s.journal)
    (ht : t.journal = last ++ u.journal)
    (hnew : ∀ e ∈ new, ShowsCancelled a e → Subsides (pollingOf a (last ++ new)))
    (hu : Heeds a u t) : Heeds a s t := by
  intro after e before hj hsince hshows
  have hsplit : last ++ (new ++ s.journal) = after ++ e :: before := by
    rw [← hs, ← ht, hj]
  rcases after_or_within hsplit hsince with hlate | ⟨later, earlier, rfl, rfl⟩
  · rw [← hs] at hlate
    exact hu after e before hj hlate hshows
  · apply (hnew e (by simp) hshows).sublist
    apply pollingOf_sublist
    rw [List.append_assoc]
    apply List.Sublist.append_left
    rw [List.append_cons later e earlier]
    exact List.sublist_append_left _ _

lemma heeds_of_leaves (h : Leaves a trace s t) (hs : Subsides trace) : Heeds a s t := by
  obtain ⟨new, hj, rfl⟩ := h
  exact Heeds.extend hj (List.nil_append _).symm (fun _ _ _ => hs) (heeds_self a t)

lemma Subsides.answered {origin : Origin} {request : Request} {outcome : Except Failure String}
    {answered : Entry} (h : Subsides trace)
    (he : answered.event = .answered origin request outcome) :
    Subsides ([answered] ++ trace) := by
  refine ⟨fun e hm origin' request' hsent => ?_, ?_⟩
  · rcases List.mem_cons.mp hm with rfl | hm
    · cases he.symm.trans hsent
    · exact h.unasked e hm origin' request' hsent
  · have hwaits := h.waits
    simpa [he, isWait] using hwaits

lemma subsides_wait {origin : Origin} {delay : Json} {wait : Entry}
    (he : wait.event = .waited origin delay) : Subsides [wait] := by
  refine ⟨fun e hm origin' request' hsent => ?_, by simp [he, isWait]⟩
  rw [List.mem_singleton.mp hm] at hsent
  cases he.symm.trans hsent

end Heeding

section Loops

variable {setup : Setup} {depth n checks : Nat} {target : PowerState} {a : Int} {s t u x : Scene}
  {result : Except Failure PowerResult} {trace last : List Entry}

/-- A cancellation during a check, or during what follows the check, comes after its request. -/
lemma Heeds.check (ha : a ≤ s.order.attempt) (hgoing : s.order.isOver = false)
    {outcome : Except Failure Unit} {v : Scene}
    (hchecked : (check setup (hookAt setup depth) target a).run s = (outcome, v))
    (hpolls : Polls a trace v x)
    (htrace : Subsides trace) (ht : t.journal = last ++ x.journal)
    (hlast : ∀ new, x.journal = new ++ s.journal → ∀ e ∈ new, ShowsCancelled a e →
      pollingOf a last = [])
    (hx : Heeds a x t) : Heeds a s t := by
  have hpolled := polls_of_check setup depth target a s
  rw [hchecked] at hpolled
  rcases hpolled with hunasked | ⟨request, answered, outcome, -, hanswered, hpolled⟩
  · obtain ⟨-, new, hj, hnew⟩ := (Polls.trans hunasked hpolls) ha
    refine Heeds.extend hj ht (fun e he hshows => ?_) hx
    rw [pollingOf_append, hlast new hj e he hshows, List.append_nil, hnew]
    exact htrace
  · let sent := s.note (.sent (.polling a) request)
    let asked : Entry := ⟨.sent (.polling a) request, s.order, s.phase⟩
    obtain ⟨-, new, hj, hnew⟩ := (Polls.trans hpolled hpolls) ha
    have hall : x.journal = (new ++ [asked]) ++ s.journal := by
      rw [hj, List.append_assoc]
      rfl
    have hsent : Heeds a sent t := by
      refine Heeds.extend hj ht (fun e he hshows => ?_) hx
      rw [pollingOf_append, hlast _ hall e (List.mem_append_left _ he) hshows, List.append_nil,
        hnew]
      exact htrace.answered hanswered
    have hrest : t.journal = (last ++ new) ++ sent.journal := by
      rw [ht, hj, List.append_assoc]
    have hfirst : sent.journal = [asked] ++ s.journal := rfl
    -- The request is sent where the attempt is not over, so it was not cancelled by then.
    refine Heeds.extend hfirst hrest (fun e he hshows => ?_) hsent
    have hcancelled := hshows.cancelled
    rw [List.mem_singleton.mp he] at hcancelled
    simp [PowerOrder.isOver, show s.order.cancelled = true from hcancelled] at hgoing

/-- Where the attempt is over, what is left of the execution polls nothing. -/
lemma pollingOf_of_over (hr : Rounds setup (hookAt setup depth) target a checks s n u)
    (hs : s.order.isOver) (hover : u.order.isOver → Leaves a [] u t)
    (hlast : t.journal = last ++ s.journal) : pollingOf a last = [] := by
  obtain ⟨-, rfl⟩ := hr.eq_of_over hs
  obtain ⟨entries, hentries, hnone⟩ := hover hs
  have hsame : entries = last := List.append_cancel_right (hentries.symm.trans hlast)
  rw [← hsame]
  exact hnone

/-- The rounds of a loop heed what comes if the end of the execution does. -/
lemma heeds_of_rounds (hr : Rounds setup (hookAt setup depth) target a checks s n u)
    (hs : DoneIfFailed s.order) (ha : a ≤ s.order.attempt) (hut : Attests u t)
    (hend : t.order.attempt = a) (hover : u.order.isOver → Leaves a [] u t) (hu : Heeds a u t) :
    Attests s t ∧ Heeds a s t := by
  have hstage := attesting_stage setup depth
  induction hr with
  | here => exact ⟨hut, hu⟩
  | @round checks n s v u going allowed checked rest ih =>
    let w := afterPause setup (hookAt setup depth) (.polling a) v.order.interval v
    obtain ⟨hw, hsw⟩ := (hstage.step_round trivial going checked) hs
    have hnow : a ≤ w.order.attempt := Int.le_trans ha hsw.stands.attempt
    obtain ⟨hwt, hheeds⟩ := ih hw hnow hut hover hu
    refine ⟨attesting.trans hsw hwt, ?_⟩
    obtain ⟨last, hlast, -⟩ := hwt.journal
    have hpolls := polls_of_pause setup depth a v.order.interval v
    refine Heeds.check ha going checked hpolls (subsides_wait rfl) hlast
      (fun new hnew e he hshows => ?_) hheeds
    -- Cancelled by the end of the round, the attempt is over, so the loop has ended.
    have hcurrent : w.order.attempt = a :=
      Int.le_antisymm (Int.le_trans hwt.stands.attempt (Int.le_of_eq hend)) hnow
    exact pollingOf_of_over rest (hsw.isOver hcurrent hnew he hshows) hover hlast

/-- What comes after the loop, or in the check that ended it, heeds a cancellation. -/
lemma heeds_of_comesOut (h : ComesOut setup (hookAt setup depth) target s n u result t)
    (hu : DoneIfFailed u.order) (hnow : s.order.attempt + 1 ≤ u.order.attempt) :
    Attests u t ∧ Heeds (s.order.attempt + 1) u t ∧
      (u.order.isOver → Leaves (s.order.attempt + 1) [] u t) := by
  have hparts := (attesting_stage setup depth).parts
  have helsewhere := elsewhere_launches (s.order.attempt + 1)
  cases h with
  | looked ended concluded =>
    have hattests := (attesting_launches.step_concluded hparts.remarks concluded hu).2
    have hleaves := (helsewhere.step_concluded (elsewhere_remarks _) concluded hnow).2
    exact ⟨hattests, heeds_of_leaves hleaves subsides_nil, fun _ => hleaves⟩
  | limitless going refused =>
    have hattests := (attesting_launches.step_fallen u hu).2
    have hleaves := (helsewhere.step_fallen u hnow).2
    exact ⟨hattests, heeds_of_leaves hleaves subsides_nil, fun _ => hleaves⟩
  | @broken failure v comes checked =>
    have hchecked := hparts.step_check (s.order.attempt + 1) trivial comes.going target
    have hfallen := helsewhere.step_fallen v
    rw [checked] at hchecked
    have hattests := (hchecked.trans (attesting_launches.step_fallen v) hu).2
    refine ⟨hattests, ?_, fun hover => absurd (hover.symm.trans comes.going) (by decide)⟩
    exact Heeds.check hnow comes.going checked hfallen subsides_nil (List.nil_append _).symm
      (fun _ _ _ _ _ => rfl) (heeds_self _ _)

/-- What comes of an execution that was cancelled, and came out of its loop. -/
lemma ranks_of_comesOut (ht : target ∈ PowerState.targets) (hopen : s.poolOpen)
    (hr : (execute setup (hookAt setup depth) target).run s = (result, t))
    (hend : t.order.attempt = s.order.attempt + 1) (hcancelled : t.order.cancelled = true)
    (hlate : u.order.isOver = false → ∀ after e before, t.journal = after ++ e :: before →
      s.journal <:+ before → ShowsCancelled (s.order.attempt + 1) e → u.journal <:+ before)
    (h : ComesOut setup (hookAt setup depth) target s n u result t) :
    Ranks target t.order result t.phase ∨ FailsInCheck setup depth target s t result := by
  have hover : t.order.isOver = true := by
    unfold PowerOrder.isOver
    rw [hcancelled, Bool.or_true]
  cases h with
  | looked ended concluded =>
    left
    have hfinishes := finishes_of_conclude concluded
    rw [← (left_of_conclude concluded).1] at hfinishes
    generalize t.phase = phase at hfinishes
    cases hfinishes with
    | failed failed => exact .failed failed (submissionFailed_isA _ _)
    | completed unfailed done => exact .completed unfailed done
    | cancelled unfailed undone _ => exact .cancelled unfailed undone
    | timedOut _ _ uncancelled _ => exact absurd (hcancelled.symm.trans uncancelled) (by decide)
    | overdue _ _ uncancelled _ => exact absurd (hcancelled.symm.trans uncancelled) (by decide)
  | limitless going refused =>
    have hsame : (if u.phase = .polling then u.enter .failed else u).order = u.order := by
      split <;> rfl
    rw [hsame, going] at hover
    cases hover
  | @broken failure v comes checked =>
    right
    have hpolling := abiding_loop ht hopen hr hend
    obtain ⟨fuel, hloop⟩ := comes.loop_eq (total_hookAt setup depth)
    rw [checked] at hloop
    have hphase : v.phase = .polling := by
      rw [← hpolling, hloop]
    refine ⟨⟨n, u, failure, comes, hlate comes.going, by rw [checked], rfl⟩, ?_⟩
    rw [if_pos hphase]
    rfl

/-- An execution whose attempt was cancelled has begun it and was not refused. -/
lemma begun_of_cancelled (hr : (execute setup (hookAt setup depth) target).run s = (result, t))
    (hend : t.order.attempt = s.order.attempt + 1) (hcancelled : t.order.cancelled = true) :
    target ∈ PowerState.targets ∧ s.poolOpen := by
  by_cases ht : target ∈ PowerState.targets
  · refine ⟨ht, ?_⟩
    by_contra hclosed
    rw [run_execute ht] at hr
    simp only [hclosed] at hr
    cases hr
    cases hcancelled
  · rw [run_execute_unsupported ht] at hr
    cases hr
    omega

/-- What an execution that was not refused leaves heeds a cancellation, and a check at its end was
begun before that. -/
lemma heeds_of_loop (hend : t.order.attempt = s.order.attempt + 1)
    (hrounds : Rounds setup (hookAt setup depth) target (s.order.attempt + 1) 0
      (loopBegun setup (hookAt setup depth) target s) n u)
    (hcomes : ComesOut setup (hookAt setup depth) target s n u result t) :
    Attests (attemptBegun s) t ∧ Heeds (s.order.attempt + 1) s t ∧
      (u.order.isOver = false → ∀ after e before, t.journal = after ++ e :: before →
        s.journal <:+ before → ShowsCancelled (s.order.attempt + 1) e → u.journal <:+ before) := by
  let a := s.order.attempt + 1
  let begun := loopBegun setup (hookAt setup depth) target s
  have hstage := attesting_stage setup depth
  have hfine : DoneIfFailed (attemptBegun s).order := fun hf => absurd rfl hf
  obtain ⟨hloop, hopened⟩ := (hstage.step_loopBegun attesting_launches target s) hfine
  obtain ⟨hbegun, new, hnew, hnone⟩ := elsewhere_loopBegun setup depth target s (Int.le_refl _)
  obtain ⟨hu, hfollowed⟩ := (hstage.step_rounds trivial hrounds) hloop
  have hnow : a ≤ u.order.attempt := Int.le_trans hbegun hfollowed.stands.attempt
  obtain ⟨hut, hrest, hover⟩ := heeds_of_comesOut hcomes hu hnow
  obtain ⟨hattests, hlooped⟩ := heeds_of_rounds hrounds hloop hbegun hut hend hover hrest
  refine ⟨attesting.trans hopened hattests, ?_, fun hgoing after e before hj hsince hshows => ?_⟩
  · obtain ⟨last, hlast, -⟩ := hattests.journal
    refine Heeds.extend (s := s) hnew hlast (fun e he hshows => ?_) hlooped
    have hcurrent : begun.order.attempt = a :=
      Int.le_antisymm (Int.le_trans hattests.stands.attempt (Int.le_of_eq hend)) hbegun
    have hnever := pollingOf_of_over hrounds (hopened.isOver hcurrent hnew he hshows) hover hlast
    rw [pollingOf_append, hnone, hnever]
    exact subsides_nil
  · -- A check that is made after the cancellation is not begun, so the cancellation came later.
    have htoU : Attests (attemptBegun s) u := attesting.trans hopened hfollowed
    obtain ⟨during, hduring, -⟩ := htoU.journal
    obtain ⟨last, hlast, -⟩ := hut.journal
    have hparts : last ++ (during ++ s.journal) = after ++ e :: before := by
      rw [← hj, hlast, hduring]
      rfl
    rcases after_or_within hparts hsince with hlate | ⟨later, middle, rfl, -⟩
    · rw [hduring]
      exact hlate
    · have hcurrent : u.order.attempt = a :=
        Int.le_antisymm (Int.le_trans hut.stands.attempt (Int.le_of_eq hend)) hnow
      have huover := htoU.isOver hcurrent hduring
        (List.mem_append_right _ (List.mem_cons_self ..)) hshows
      rw [hgoing] at huover
      cases huover

end Loops

/-- Whatever others do, as long as no other attempt was begun by the end: if an attempt was
cancelled at any moment after its execution began it, then from whatever is noted next the execution
asks for nothing and waits once at most, and the attempt is cancelled in the end. An execution that
leaves its attempt cancelled fails if a failure was recorded, else it has completed if the attempt
is done, and else it is cancelled, no matter how many checks were made. The only exception is that
the check in progress at the cancellation fails; then the execution fails with that failure. -/
theorem cancellation_heeded {setup : Setup} {depth : Nat} {target : PowerState} {s t : Scene}
    {result : Except Failure PowerResult}
    (hr : (execute setup (hookAt setup depth) target).run s = (result, t))
    (hend : t.order.attempt = s.order.attempt + 1) :
    (∀ after e before, t.journal = after ++ e :: before → s.journal <:+ before →
      ShowsCancelled (s.order.attempt + 1) e →
      Subsides (pollingOf (s.order.attempt + 1) (after ++ [e])) ∧ t.order.cancelled = true) ∧
    (t.order.cancelled = true →
      Ranks target t.order result t.phase ∨ FailsInCheck setup depth target s t result) := by
  have htotal := total_hookAt setup depth
  refine ⟨fun after e before hj hsince hshows => ?_, fun hcancelled => ?_⟩
  · obtain ⟨earlier, hearlier⟩ := hsince
    have hsplit : t.journal = (after ++ e :: earlier) ++ s.journal := by
      rw [hj, ← hearlier, List.append_assoc, List.cons_append]
    have hstarted : target ∈ PowerState.targets ∧ s.poolOpen := by
      by_contra hrefused
      have hsame := (refused_of_execute hrefused hr).1
      rw [hsplit] at hsame
      have hlength := congrArg List.length hsame
      simp only [List.length_append, List.length_cons] at hlength
      omega
    obtain ⟨ht, hopen⟩ := hstarted
    obtain ⟨n, u, hrounds, hcomes⟩ := comesOut_of_execute htotal ht hopen hr
    obtain ⟨hattests, hheeds, -⟩ := heeds_of_loop hend hrounds hcomes
    exact ⟨hheeds after e before hj ⟨earlier, hearlier⟩ hshows, hattests.cancelled hend hsplit
      (List.mem_append_right _ (List.mem_cons_self ..)) hshows⟩
  · obtain ⟨ht, hopen⟩ := begun_of_cancelled hr hend hcancelled
    obtain ⟨n, u, hrounds, hcomes⟩ := comesOut_of_execute htotal ht hopen hr
    obtain ⟨-, -, hlate⟩ := heeds_of_loop hend hrounds hcomes
    exact ranks_of_comesOut ht hopen hr hend hcancelled hlate hcomes

/-- The manager accepts the change as a task that goes on and on, and someone cancels the attempt
while the third check, the last one allowed, is in flight. -/
def cancelledAtLast : Scene :=
  let running : AnswerContent := .reply 200 "OK" "\x7b\"taskState\": \"Running\"\x7d"
  bladeScene
    [{ content := .reply 200 "OK" "\x7b\"uri\": \"/b\", \"powerState\": \"Off\"\x7d" },
      { content := .reply 202 "Accepted" "\x7b\"uri\": \"/t\"\x7d" },
      { content := running }, { content := running }, { during := [.cancel], content := running }]

lemma executed_cancelledAtLast :
    let r := (execute calm (hookAt calm 1) .on).run cancelledAtLast
    r.1 = .ok .cancelled ∧ r.2.phase = .cancelled ∧ r.2.order.attempt = 1 ∧ waitCount r.2 = 3 ∧
      (r.2.journal.any fun e => e.order.attempt = 1 && e.order.cancelled) = true := by
  decide +kernel

theorem cancellation_heeded_cancelledAtLast :
    let r := (execute calm (hookAt calm 1) .on).run cancelledAtLast
    r.1 = .ok .cancelled ∧ waitCount r.2 = 3 ∧ ∃ after e before,
      r.2.journal = after ++ e :: before ∧ ShowsCancelled 1 e ∧
      Subsides (pollingOf 1 (after ++ [e])) ∧
      Ranks .on r.2.order (.ok .cancelled) .cancelled := by
  obtain ⟨hresult, hphase, hattempt, hwaits, hany⟩ := executed_cancelledAtLast
  refine ⟨hresult, hwaits, ?_⟩
  obtain ⟨e, he, hshows⟩ := List.any_eq_true.mp hany
  obtain ⟨after, before, hsplit⟩ := List.append_of_mem he
  simp only [Bool.and_eq_true, decide_eq_true_eq] at hshows
  have hcancelled : ShowsCancelled 1 e := ⟨hshows.1, hshows.2⟩
  obtain ⟨hheeds, hends⟩ := cancellation_heeded
    (Prod.eta ((execute calm (hookAt calm 1) .on).run cancelledAtLast)).symm hattempt
  obtain ⟨hsubsides, hleft⟩ := hheeds after e before hsplit List.nil_suffix hcancelled
  rcases hends hleft with hranks | hfails
  · rw [hresult, hphase] at hranks
    exact ⟨after, e, before, hsplit, hcancelled, hsubsides, hranks⟩
  · obtain ⟨_, _, _, _, _, _, herror⟩ := hfails.check
    cases hresult.symm.trans herror

end ServerPower.Proofs
