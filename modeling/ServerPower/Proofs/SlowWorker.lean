import ServerPower.Proofs.DirectExecution
import ServerPower.Proofs.Mirrored

/-!
# Slow workers

A pool that gets to a submission at a later wait costs checks and changes nothing else. While the
submission waits there is no task to check, so each check writes a record and waits once more; from
the submission on the execution goes as if the pool had run it at once, with the checks of the
rounds before it behind it.
-/

namespace ServerPower.Proofs
open Run

def idleRecord : Record := ⟨.info, .ok "Working on power state."⟩

/-- A check of attempt `a` that finds no task, and the wait after it. -/
def idled (a : Int) (s : Scene) : Scene :=
  let t := (s.note (.logged idleRecord)).note (.waited (.polling a) s.order.interval)
  { t with waits := s.waits + 1 }

def idledFor (a : Int) : (rounds : Nat) → Scene → Scene
  | 0, s => s
  | rounds + 1, s => idledFor a rounds (idled a s)

/-- What is told of rounds without a task. -/
def idleRounds (interval : Json) (rounds : Nat) : List Event :=
  (List.replicate rounds [Event.logged idleRecord, .waited .query interval]).flatten

def isIdleCheck : Event → Bool
  | .logged ⟨.info, .ok text⟩ => text == "Working on power state."
  | _ => false

def idleChecks (s : Scene) : Nat :=
  s.events.countP isIdleCheck

section Rounds

variable {setup : Setup} {depth : Nat} {target : PowerState} {a : Int} {s : Scene}

lemma idledFor_eq (a : Int) (rounds : Nat) (s : Scene) :
    ∃ new, idledFor a rounds s =
        { s with waits := s.waits + rounds, journal := new ++ s.journal } ∧
      story new = idleRounds s.order.interval rounds := by
  induction rounds generalizing s with
  | zero => exact ⟨[], rfl, rfl⟩
  | succ rounds ih =>
    obtain ⟨new, hnew, hstory⟩ := ih (idled a s)
    refine ⟨new ++ [⟨.waited (.polling a) s.order.interval, s.order, s.phase⟩,
      ⟨.logged idleRecord, s.order, s.phase⟩], ?_, ?_⟩
    · rw [idledFor, hnew]
      simp [idled, Scene.note, Nat.add_right_comm, Nat.add_assoc]
    · have hinterval : (idled a s).order.interval = s.order.interval := rfl
      rw [story_append, hstory, hinterval]
      simp [idleRounds, List.replicate_succ, anonymous]

/-- A round of following without a task to check: a record, a wait, and the submissions that are due
then. -/
lemma run_follow_idle (hw : ∀ number, setup.duringWait number = []) (hover : s.order.isOver = false)
    (htask : s.order.task.exists? = false) {checks : Nat}
    (hmore : s.order.allowsCheck checks = .ok true) (fuel : Nat) :
    (follow setup (hookAt setup depth) target a (fuel + 1) checks).run s =
      (follow setup (hookAt setup depth) target a fuel (checks + 1)).run
        (workedOff setup (hookAt setup depth) (s.pending.filter (dueBy (s.waits + 1)))
          { idled a s with pending := s.pending.filter (!dueBy (s.waits + 1) ·) }) := by
  rw [run_follow_succ (total_hookAt _ _), hover, hmore, run_check,
    refresh_of_no_task setup _ _ _ htask]
  simp only [Bool.false_eq_true, if_false, afterPause, hw, run_hookAt_nil]
  rfl

/-- Until the only submission that waits is run, following checks nothing and waits. -/
lemma run_follow_idledFor (hw : ∀ number, setup.duringWait number = [])
    (hover : s.order.isOver = false) (htask : s.order.task.exists? = false)
    {due rounds : Nat} (hpending : s.pending = [⟨due, target, a⟩])
    (hdue : due = s.waits + (rounds + 1)) (checks : Nat)
    (hmore : ∀ n ≤ checks + rounds, s.order.allowsCheck n = .ok true) (fuel : Nat) :
    (follow setup (hookAt setup depth) target a (fuel + (rounds + 1)) checks).run s =
      (follow setup (hookAt setup depth) target a fuel (checks + (rounds + 1))).run
        ((work setup (hookAt setup depth) target a).run
          { idledFor a (rounds + 1) s with pending := [] }).2 := by
  induction rounds generalizing s checks with
  | zero =>
    have hnow : dueBy (s.waits + 1) ⟨due, target, a⟩ = true := by simp [dueBy, hdue]
    rw [run_follow_idle hw hover htask (hmore checks (Nat.le_refl _)), hpending]
    simp only [hnow, List.filter_cons, if_true, List.filter_nil, Bool.not_true,
      Bool.false_eq_true, if_false]
    rw [workedOff_cons]
    rfl
  | succ rounds ih =>
    have hlater : dueBy (s.waits + 1) ⟨due, target, a⟩ = false := by
      simp only [dueBy, decide_eq_false_iff_not]
      omega
    have hround : (follow setup (hookAt setup depth) target a (fuel + (rounds + 1) + 1) checks).run
        s = (follow setup (hookAt setup depth) target a (fuel + (rounds + 1)) (checks + 1)).run
          (idled a s) := by
      rw [run_follow_idle hw hover htask (hmore checks (by omega)), hpending]
      simp only [List.filter_cons, hlater, Bool.false_eq_true, if_false, List.filter_nil,
        Bool.not_false, if_true]
      rw [← hpending]
      rfl
    have hnext : due = (idled a s).waits + (rounds + 1) := by
      simp only [idled]
      omega
    have hrest := ih (s := idled a s) hover htask hpending hnext (checks + 1)
      (fun n hn => hmore n (by omega))
    rw [Nat.add_right_comm checks 1] at hrest
    exact hround.trans hrest

end Rounds

/-- What is told of an execution whose checks are used up. -/
def expiry (failOnTimeout : Bool) (target : PowerState) (name : Json) : List Event :=
  .logged (expiryRecord target name) ::
    if failOnTimeout then [] else [.logged completionRecord]

/-- What two executions, one with `k` more checks than the other, yield and tell: the same, or that
they timed out, for hardware that they may call by other names. -/
inductive EndsAlike (failOnTimeout : Bool) (target : PowerState) (k : Nat) :
    Except Failure PowerResult → List Event → Except Failure PowerResult → List Event → Prop
  | same (result : Except Failure PowerResult) (events : List Event) :
      EndsAlike failOnTimeout target k result events result events
  | expired (events : List Event) (name name' : Json) (checks : Nat) :
      EndsAlike failOnTimeout target k
        (timeout failOnTimeout target name checks)
        (events ++ expiry failOnTimeout target name)
        (timeout failOnTimeout target name' (checks + k))
        (events ++ expiry failOnTimeout target name')

section Slow

variable {setup setup' : Setup} {target : PowerState} {s : Scene} {limit k : Nat}

/-- The scene with `k` more checks allowed and a pool that gets to a submission at the `k`-th wait
from then on. -/
def slowed (limit k : Nat) (s : Scene) : Scene :=
  { s with
    order := { s.order with limit := .int (limit + k : Nat) }
    moment := .atWait k }

/-- The slowed scene when polling begins. -/
def awaiting (limit k : Nat) (target : PowerState) (s : Scene) : Scene :=
  { attemptBegun (slowed limit k s) with
    phase := .polling
    pending := [⟨s.waits + k, target, s.order.attempt + 1⟩] }

lemma mirrors_idledFor (hl : s.order.limit = .int limit) (hpending : s.pending = [])
    (hidle : Idle s.supply) (k : Nat) (target : PowerState) :
    ∃ new, story new = idleRounds s.order.interval k ∧
      Mirrors ⟨s.order.attempt + 1, .int limit, .idle, s.journal⟩
        ⟨s.order.attempt + 1, .int (limit + k : Nat), .polling, new ++ s.journal⟩ (attemptBegun s)
        { idledFor (s.order.attempt + 1) k (awaiting limit k target s) with pending := [] } := by
  obtain ⟨new, hnew, hstory⟩ := idledFor_eq (s.order.attempt + 1) k (awaiting limit k target s)
  refine ⟨new, hstory, ?_⟩
  rw [hnew]
  exact
    { attempt := rfl
      limit := hl
      order := rfl
      cancelled := rfl
      phase := rfl
      phase' := rfl
      supply := rfl
      idle := hidle
      pending := by
        show List.Forall₂ _ s.pending []
        rw [hpending]
        exact .nil
      journal := ⟨[], [], rfl, rfl, rfl⟩ }

/-- Following the submission that is run at the `k`-th wait goes as following the one run at once,
after `k` rounds without a task. -/
lemma slow_follow (hl : s.order.limit = .int limit) (hpending : s.pending = [])
    (hidle : Idle s.supply) (hsetup : Twinned setup setup') (hk : 1 ≤ k)
    (hbound : limit ≤ setup.checkBound) (hbound' : limit + k ≤ setup'.checkBound)
    (depth depth' : Nat) (target : PowerState) :
    let a := s.order.attempt + 1
    let worked := ((work setup (hookAt setup depth) target a).run (attemptBegun s)).2
    let r := (follow setup (hookAt setup depth) target a (setup.checkBound + 1) 0).run
      ((worked.enter .submitting).enter .polling)
    let r' := (follow setup' (hookAt setup' depth') target a (setup'.checkBound + 1) 0).run
      (awaiting limit k target s)
    r'.1 = r.1.map (fun last => (last.1 + k, last.2)) ∧
      ∃ new, story new = idleRounds s.order.interval k ∧
        Mirrors ⟨a, .int limit, .polling, s.journal⟩
          ⟨a, .int (limit + k : Nat), .polling, new ++ s.journal⟩ r.2 r'.2 := by
  dsimp only
  obtain ⟨new, hstory, hbegun⟩ := mirrors_idledFor hl hpending hidle k target
  have hworked := (Alike.work hsetup depth depth' hbegun target).2
  let f : Frame := ⟨s.order.attempt + 1, .int limit, .polling, s.journal⟩
  let f' : Frame := ⟨s.order.attempt + 1, .int (limit + k : Nat), .polling, new ++ s.journal⟩
  let worked := ((work setup (hookAt setup depth) target f.attempt).run (attemptBegun s)).2
  let worked' := ((work setup' (hookAt setup' depth') target f'.attempt).run
    { idledFor (s.order.attempt + 1) k (awaiting limit k target s) with pending := [] }).2
  have hpolling : Mirrors f f' ((worked.enter .submitting).enter .polling) worked' :=
    { hworked with phase := rfl }
  have hallowed := PowerOrder.allowsCheck_int hpolling.limit
  have hallowed' := PowerOrder.allowsCheck_int hpolling.limit'
  have hshifted : ∀ checks, worked'.order.allowsCheck (checks + k) =
      ((worked.enter .submitting).enter .polling).order.allowsCheck checks := by
    intro checks
    rw [hallowed, hallowed', Except.ok.injEq, decide_eq_decide]
    omega
  obtain ⟨fuel, hfuel⟩ : ∃ fuel, setup'.checkBound + 1 = fuel + k :=
    ⟨setup'.checkBound + 1 - k, by omega⟩
  have hfueled : Fueled ((worked.enter .submitting).enter .polling).order 0
      (setup.checkBound + 1) fuel := by
    refine Or.inr ⟨limit, by omega, by omega, ?_⟩
    rw [Nat.zero_add, hallowed]
    simp
  obtain ⟨hresult, hscenes⟩ :=
    Alike.follow hsetup depth depth' hpolling target hshifted hfueled
  have hrounds : (follow setup' (hookAt setup' depth') target f'.attempt (fuel + k) 0).run
      (awaiting limit k target s) =
      (follow setup' (hookAt setup' depth') target f'.attempt fuel (0 + k)).run worked' := by
    obtain ⟨rounds, rfl⟩ : ∃ rounds, k = rounds + 1 := ⟨k - 1, by omega⟩
    have hbefore := PowerOrder.allowsCheck_int
      (show (awaiting limit (rounds + 1) target s).order.limit = .int (limit + (rounds + 1) : Nat)
        from rfl)
    refine run_follow_idledFor hsetup.duringWait' rfl rfl rfl rfl 0 (fun n hn => ?_) fuel
    rw [hbefore, Except.ok.injEq, decide_eq_true_iff]
    omega
  rw [hfuel, hrounds]
  exact ⟨hresult, new, hstory, hscenes⟩

/-- How the executions end: alike, or both with their checks used up. -/
lemma slow_execute (hl : s.order.limit = .int limit) (hm : s.moment = .inline)
    (hopen : s.poolOpen) (hpending : s.pending = []) (hidle : Idle s.supply)
    (hsetup : Twinned setup setup') (hk : 1 ≤ k) (hbound : limit ≤ setup.checkBound)
    (hbound' : limit + k ≤ setup'.checkBound) (depth depth' : Nat)
    (ht : target ∈ PowerState.targets) :
    let r := (execute setup (hookAt setup depth) target).run s
    let r' := (execute setup' (hookAt setup' depth') target).run (slowed limit k s)
    ∃ new, story new = idleRounds s.order.interval k ∧
      let f : Frame := ⟨s.order.attempt + 1, .int limit, .polling, s.journal⟩
      let f' : Frame := ⟨s.order.attempt + 1, .int (limit + k : Nat), .polling, new ++ s.journal⟩
      Coincide f f' r r' ∨
        ∃ t t' name name' checks, Mirrors f f' t t' ∧
          r = expired setup.failOnTimeout target name checks t ∧
          r' = expired setup.failOnTimeout target name' (checks + k) t' := by
  obtain ⟨hresult, new, hstory, hscenes⟩ :=
    slow_follow hl hpending hidle hsetup hk hbound hbound' depth depth' target
  dsimp only at hresult hscenes ⊢
  refine ⟨new, hstory, ?_⟩
  let a := s.order.attempt + 1
  let worked := ((work setup (hookAt setup depth) target a).run (attemptBegun s)).2
  have hhanded : handedOver setup (hookAt setup depth) target a (attemptBegun s) = worked := by
    unfold handedOver
    rw [show (attemptBegun s).moment = .inline from hm]
  have hhanded' : ((handedOver setup' (hookAt setup' depth') target a
      (attemptBegun (slowed limit k s))).enter .submitting).enter .polling =
      awaiting limit k target s := by
    have hslowed : handedOver setup' (hookAt setup' depth') target a
        (attemptBegun (slowed limit k s)) = { attemptBegun (slowed limit k s) with
          pending := s.pending ++ [⟨s.waits + k, target, a⟩] } := rfl
    rw [hslowed, hpending]
    rfl
  have hattempt : (slowed limit k s).order.attempt + 1 = a := rfl
  have hopen' : (slowed limit k s).poolOpen = true := hopen
  rw [run_execute_eq_settled ht hopen, run_execute_eq_settled ht hopen', hattempt, hhanded,
    run_poll, run_poll, hhanded']
  rcases hf : (follow setup (hookAt setup depth) target a _ 0).run _ with ⟨outcome, t⟩
  rcases hf' : (follow setup' (hookAt setup' depth') target a _ 0).run _ with ⟨outcome', t'⟩
  rw [hf, hf'] at hresult hscenes
  rcases outcome with failure | ⟨checks, seen⟩
  · obtain rfl : outcome' = .error failure := hresult
    exact Or.inl (Coincide.settled ⟨rfl, .polling, hscenes⟩)
  · obtain rfl : outcome' = .ok (checks + k, seen) := hresult
    obtain rfl : seen = glanceAt t.order := seen_of_follow (total_hookAt _ _) hf
    dsimp only
    generalize ((worked.enter .submitting).order.hardware.hardware.name) = name
    generalize ((handedOver setup' _ target a _).enter .submitting).order.hardware.hardware.name =
      name'
    rcases hscenes.conclude hsetup target name name' checks (checks + k) with hsame | ⟨hr, hr'⟩
    · exact Or.inl hsame.settled
    · rw [hr, hr', settled_expired, settled_expired]
      exact Or.inr ⟨t, t', name, name', checks, hscenes, rfl, rfl⟩

end Slow

section Told

variable {failOnTimeout : Bool} {target : PowerState} {k : Nat}
  {result result' : Except Failure PowerResult} {events events' : List Event}

lemma story_eq_map (s : Scene) : story s.journal = s.events.map anonymous := by
  simp [story, Scene.events, List.map_map, Function.comp_def]

lemma sentRequests_eq (s : Scene) : sentRequests s = (story s.journal).filterMap sentRequest? := by
  have h : sentRequest? ∘ anonymous = sentRequest? := by
    funext event
    cases event <;> rfl
  rw [story_eq_map, List.filterMap_map, h, sentRequests]

lemma waitCount_eq (s : Scene) : waitCount s = (story s.journal).countP isWait := by
  have h : isWait ∘ anonymous = isWait := by
    funext event
    cases event <;> rfl
  rw [story_eq_map, List.countP_map, h, waitCount]

lemma idleChecks_eq (s : Scene) : idleChecks s = (story s.journal).countP isIdleCheck := by
  have h : isIdleCheck ∘ anonymous = isIdleCheck := by
    funext event
    cases event <;> rfl
  rw [story_eq_map, List.countP_map, h, idleChecks]

lemma story_expired (name : Json) (checks : Nat) (s : Scene) :
    story (expired failOnTimeout target name checks s).2.journal =
      story s.journal ++ expiry failOnTimeout target name := by
  cases failOnTimeout <;> simp [expired, expiry, anonymous]

lemma idleRounds_succ (interval : Json) (rounds : Nat) :
    idleRounds interval (rounds + 1) =
      [.logged idleRecord, .waited .query interval] ++ idleRounds interval rounds := rfl

lemma filterMap_idleRounds (interval : Json) (rounds : Nat) :
    (idleRounds interval rounds).filterMap sentRequest? = [] := by
  induction rounds with
  | zero => rfl
  | succ rounds ih => simpa [idleRounds_succ, sentRequest?] using ih

lemma countP_idleRounds {p : Event → Bool} {interval : Json}
    (h : [Event.logged idleRecord, .waited .query interval].countP p = 1) (rounds : Nat) :
    (idleRounds interval rounds).countP p = rounds := by
  induction rounds with
  | zero => rfl
  | succ rounds ih =>
    rw [idleRounds_succ, List.countP_append, h, ih, Nat.add_comm]

lemma EndsAlike.requests (h : EndsAlike failOnTimeout target k result events result' events') :
    events'.filterMap sentRequest? = events.filterMap sentRequest? := by
  cases h with
  | same => rfl
  | expired events name name' checks =>
    have hnone : ∀ name, (expiry failOnTimeout target name).filterMap sentRequest? = [] := by
      intro name
      cases failOnTimeout <;> rfl
    rw [List.filterMap_append, List.filterMap_append, hnone, hnone]

lemma EndsAlike.countP (h : EndsAlike failOnTimeout target k result events result' events')
    {p : Event → Bool} (hp : ∀ name, (expiry failOnTimeout target name).countP p = 0) :
    events'.countP p = events.countP p := by
  cases h with
  | same => rfl
  | expired events name name' checks =>
    rw [List.countP_append, List.countP_append, hp, hp]

lemma kind_timeout (name : Json) (checks : Nat) :
    (timeout failOnTimeout target name checks).mapError (·.kind) =
      if failOnTimeout then .error .powerTimeout else .ok .timedOut := by
  unfold timeout changeTimedOut
  split
  · simp only [Except.mapError]
  · simp only [Except.mapError]

lemma EndsAlike.kind (h : EndsAlike failOnTimeout target k result events result' events') :
    result'.mapError (·.kind) = result.mapError (·.kind) := by
  cases h with
  | same => rfl
  | expired events name name' checks => rw [kind_timeout, kind_timeout]

end Told

lemma expired_phase_order (failOnTimeout : Bool) (target : PowerState) (name : Json) (checks : Nat)
    (s : Scene) :
    (expired failOnTimeout target name checks s).2.phase = .timedOut ∧
      (expired failOnTimeout target name checks s).2.order = s.order := by
  cases failOnTimeout <;> exact ⟨rfl, rfl⟩

/-- What the two executions leave and tell. -/
lemma slow_told {setup setup' : Setup} {target : PowerState} {s : Scene} {limit k : Nat}
    (hl : s.order.limit = .int limit) (hm : s.moment = .inline) (hopen : s.poolOpen)
    (hpending : s.pending = []) (hidle : Idle s.supply) (hsetup : Twinned setup setup')
    (hk : 1 ≤ k) (hbound : limit ≤ setup.checkBound) (hbound' : limit + k ≤ setup'.checkBound)
    (depth depth' : Nat) (ht : target ∈ PowerState.targets) :
    let r := (execute setup (hookAt setup depth) target).run s
    let r' := (execute setup' (hookAt setup' depth') target).run (slowed limit k s)
    r'.2.phase = r.2.phase ∧
      r'.2.order = { r.2.order with limit := .int (limit + k : Nat) } ∧
      ∃ events events', story r.2.journal = story s.journal ++ events ∧
        story r'.2.journal = story s.journal ++ idleRounds s.order.interval k ++ events' ∧
        EndsAlike setup.failOnTimeout target k r.1 events r'.1 events' := by
  obtain ⟨new, hstory, hends⟩ :=
    slow_execute hl hm hopen hpending hidle hsetup hk hbound hbound' depth depth' ht
  dsimp only at hends ⊢
  generalize (execute setup (hookAt setup depth) target).run s = r at hends ⊢
  generalize (execute setup' (hookAt setup' depth') target).run (slowed limit k s) = r' at hends ⊢
  rcases hends with ⟨hresult, phase, h⟩ | ⟨t, t', name, name', checks, h, rfl, rfl⟩
  · obtain ⟨events, hevents, hevents'⟩ := h.told
    refine ⟨h.phase'.trans h.phase.symm, h.order_of_attempt_eq rfl, events, events, hevents, ?_, ?_⟩
    · rw [hevents', story_append, hstory]
    · rw [hresult]
      exact .same _ _
  · obtain ⟨events, hevents, hevents'⟩ := h.told
    obtain ⟨hphase, horder⟩ := expired_phase_order setup.failOnTimeout target name checks t
    obtain ⟨hphase', horder'⟩ :=
      expired_phase_order setup.failOnTimeout target name' (checks + k) t'
    refine ⟨hphase'.trans hphase.symm, ?_, _, _, ?_, ?_, .expired events name name' checks⟩
    · rw [horder', horder, h.order_of_attempt_eq rfl]
    · rw [story_expired, hevents, List.append_assoc]
    · rw [story_expired, hevents', story_append, hstory, List.append_assoc]

/-- The execution of a script's only step, with a number of checks allowed. -/
def executed (script : Script) (settings : Settings) (failOnTimeout ownPool : Bool)
    (order : PowerOrder) (target : PowerState) (limit : Nat) :
    Except Failure PowerResult × Scene :=
  let order := { order with limit := .int limit }
  let setup := script.setup settings failOnTimeout ownPool order [.execute target]
  (execute setup (hookAt setup script.depth) target).run (script.scene order)

/-- Among nobody, an execution whose submission is run at the `k`-th wait, with `k` more checks
allowed, goes as the one whose submission is run at once: it sends the same requests and ends in the
same way, after `k` more checks without a task and `k` more waits. -/
theorem executed_slowly (settings : Settings) (failOnTimeout ownPool : Bool) (order : PowerOrder)
    {supply : Supply} {target : PowerState} {k : Nat} (hidle : Idle supply)
    (ht : target ∈ PowerState.targets) (hk : 1 ≤ k) (limit : Nat) :
    let r := executed { supply } settings failOnTimeout ownPool order target limit
    let r' := executed { supply, moment := .atWait k } settings failOnTimeout ownPool order target
      (limit + k)
    sentRequests r'.2 = sentRequests r.2 ∧
      waitCount r'.2 = waitCount r.2 + k ∧
      idleChecks r'.2 = idleChecks r.2 + k ∧
      r'.1.mapError (·.kind) = r.1.mapError (·.kind) ∧
      r'.2.phase = r.2.phase ∧
      r'.2.order = { r.2.order with limit := .int (limit + k : Nat) } ∧
      ∃ events, story r'.2.journal = idleRounds order.interval k ++ events ∧
        EndsAlike failOnTimeout target k r.1 (story r.2.journal) r'.1 events := by
  let quick : Script := { supply }
  let slow : Script := { supply, moment := .atWait k }
  let within (limit : Nat) : PowerOrder := { order with limit := .int limit }
  let setup := quick.setup settings failOnTimeout ownPool (within limit) [.execute target]
  let setup' := slow.setup settings failOnTimeout ownPool (within (limit + k)) [.execute target]
  have hsetup : Twinned setup setup' := ⟨rfl, rfl, fun _ => rfl, fun _ => rfl⟩
  obtain ⟨hphase, horder, events, events', hevents, hevents', hends⟩ :=
    slow_told (s := quick.scene (within limit)) rfl rfl rfl rfl hidle hsetup hk
      (le_checkBound quick _ limit) (le_checkBound slow _ (limit + k)) quick.depth slow.depth ht
  intro r r'
  replace hevents : story r.2.journal = events := hevents
  replace hevents' : story r'.2.journal = idleRounds order.interval k ++ events' := hevents'
  replace hends : EndsAlike failOnTimeout target k r.1 events r'.1 events' := hends
  refine ⟨?_, ?_, ?_, hends.kind, hphase, horder, events', hevents', by rwa [hevents]⟩
  · rw [sentRequests_eq, sentRequests_eq, hevents, hevents', List.filterMap_append,
      filterMap_idleRounds, List.nil_append, hends.requests]
  · have hnone : ∀ name, (expiry failOnTimeout target name).countP isWait = 0 := by
      intro name
      cases failOnTimeout <;> rfl
    rw [waitCount_eq, waitCount_eq, hevents, hevents', List.countP_append, hends.countP hnone,
      countP_idleRounds rfl, Nat.add_comm]
  · have hnone : ∀ name, (expiry failOnTimeout target name).countP isIdleCheck = 0 := by
      intro name
      cases failOnTimeout <;> rfl
    rw [idleChecks_eq, idleChecks_eq, hevents, hevents', List.countP_append, hends.countP hnone,
      countP_idleRounds rfl, Nat.add_comm]

/-- The pool runs the submission at the second wait, and the blade is switched on within five checks
as it is within three of a submission that is run at once. -/
theorem executed_slowly_switchingOn :
    let supply : Supply := .queue (switchingOn.map fun content => { content })
    let r' := executed { supply, moment := .atWait 2 } .defaults false true blade .on 5
    Idle supply ∧ .on ∈ PowerState.targets ∧ 1 ≤ 2 ∧
      (sentRequests r'.2).map (·.method) = ["GET", "PUT", "GET", "GET"] ∧
      waitCount r'.2 = 4 ∧ idleChecks r'.2 = 2 ∧ r'.2.phase = .done := by
  intro supply r'
  have hidle : Idle supply := by
    simp [Idle, supply, switchingOn, Supply.answers]
  have ht : PowerState.on ∈ PowerState.targets := by decide
  have hk : 1 ≤ 2 := by decide
  obtain ⟨hrequests, hwaits, hchecks, -, hphase, -⟩ :=
    executed_slowly .defaults false true blade hidle ht hk 3
  refine ⟨hidle, ht, hk, ?_, ?_, ?_, ?_⟩
  · rw [hrequests]
    decide +kernel
  · rw [hwaits]
    decide +kernel
  · rw [hchecks]
    decide +kernel
  · rw [hphase]
    decide +kernel

end ServerPower.Proofs
