import Mathlib.Data.List.Forall2
import ServerPower.Proofs.DirectChange

/-!
# Runs side by side

Two runs among nobody for attempts with other numbers and other limits of checks do the same: they
send the same requests, get the same answers and yield the same, and what differs between the scenes
that they leave is what differed from the start. It does not matter for either on whose behalf
something is noted.
-/

namespace ServerPower.Proofs
open Run

/-- What one of two runs has to itself: the number and the limit of its attempt, its phase, and what
happened before. -/
structure Frame where
  attempt : Int
  limit : Json
  phase : Phase
  past : List Entry

/-- An event without the one on whose behalf it came about. -/
def anonymous : Event → Event
  | .sent _ request => .sent .query request
  | .answered _ request outcome => .answered .query request outcome
  | .waited _ delay => .waited .query delay
  | event => event

/-- What entries of a journal tell, the first event first. -/
def story (entries : List Entry) : List Event :=
  (entries.map fun e => anonymous e.event).reverse

/-- Submissions that wait equally long, each for the attempt of its own run. -/
structure Twins (a a' : Int) (waits waits' : Nat) (job job' : Job) : Prop where
  target : job'.target = job.target
  attempt : job.attempt = a
  attempt' : job'.attempt = a'
  due : job.due + waits' = job'.due + waits

/-- Scenes among nobody that differ in the frames of their runs only. -/
structure Mirrors (f f' : Frame) (s s' : Scene) : Prop where
  attempt : s.order.attempt = f.attempt
  limit : s.order.limit = f.limit
  order : s'.order = { s.order with attempt := f'.attempt, limit := f'.limit }
  cancelled : s.order.cancelled = false
  phase : s.phase = f.phase
  phase' : s'.phase = f'.phase
  supply : s'.supply = s.supply
  idle : Idle s.supply
  pending : List.Forall₂ (Twins f.attempt f'.attempt s.waits s'.waits) s.pending s'.pending
  journal : ∃ new new', s.journal = new ++ f.past ∧ s'.journal = new' ++ f'.past ∧
    story new' = story new

/-- Two computations yield the same and end in scenes that mirror each other. -/
def Alike {α : Type} (f f' : Frame) (x x' : Run α) (s s' : Scene) : Prop :=
  (x'.run s').1 = (x.run s).1 ∧ Mirrors f f' (x.run s).2 (x'.run s').2

/-- Two executions ended alike, whatever the phase. -/
def Coincide (f f' : Frame) (r r' : Except Failure PowerResult × Scene) : Prop :=
  r'.1 = r.1 ∧ ∃ phase, Mirrors { f with phase } { f' with phase } r.2 r'.2

/-- Setups that explain failures alike and let nobody act during waits. -/
structure Twinned (setup setup' : Setup) : Prop where
  strict : setup'.strict = setup.strict
  failOnTimeout : setup'.failOnTimeout = setup.failOnTimeout
  duringWait : ∀ number, setup.duringWait number = []
  duringWait' : ∀ number, setup'.duringWait number = []

lemma allowsCheck_congr {p q : PowerOrder} (h : p.limit = q.limit) (checks : Nat) :
    p.allowsCheck checks = q.allowsCheck checks := by
  unfold PowerOrder.allowsCheck
  rw [h]

/-- Following an order after some checks, both amounts of fuel are the same, or more than the number
of checks that are still allowed. -/
def Fueled (order : PowerOrder) (checks fuel fuel' : Nat) : Prop :=
  fuel' = fuel ∨
    ∃ more, more < fuel ∧ more < fuel' ∧ order.allowsCheck (checks + more) ≠ .ok true

lemma Fueled.congr {p q : PowerOrder} {checks fuel fuel' : Nat} (h : Fueled p checks fuel fuel')
    (hl : q.limit = p.limit) : Fueled q checks fuel fuel' := by
  refine h.imp_right fun ⟨more, hm, hm', hend⟩ => ⟨more, hm, hm', ?_⟩
  rwa [allowsCheck_congr hl]

@[simp] lemma story_append (new old : List Entry) :
    story (new ++ old) = story old ++ story new := by
  simp [story]

@[simp] lemma story_nil : story [] = [] := rfl

@[simp] lemma story_cons (e : Entry) (old : List Entry) :
    story (e :: old) = story old ++ [anonymous e.event] := by
  simp [story]

section Mirrors

variable {f f' : Frame} {s s' : Scene}

lemma Mirrors.hardware (h : Mirrors f f' s s') : s'.order.hardware = s.order.hardware := by
  rw [h.order]

lemma Mirrors.glance (h : Mirrors f f' s s') : glanceAt s'.order = glanceAt s.order := by
  rw [h.order]
  rfl

/-- Both runs tell the same. -/
lemma Mirrors.told (h : Mirrors f f' s s') :
    ∃ events, story s.journal = story f.past ++ events ∧
      story s'.journal = story f'.past ++ events := by
  obtain ⟨new, new', hj, hj', hstory⟩ := h.journal
  refine ⟨story new, ?_, ?_⟩
  · rw [hj, story_append]
  · rw [hj', story_append, hstory]

/-- For attempts of one number only the limits differ. -/
lemma Mirrors.order_of_attempt_eq (h : Mirrors f f' s s') (ha : f.attempt = f'.attempt) :
    s'.order = { s.order with limit := f'.limit } := by
  rw [h.order, ← ha, ← h.attempt]

lemma Mirrors.note (h : Mirrors f f' s s') {event event' : Event}
    (he : anonymous event' = anonymous event) : Mirrors f f' (s.note event) (s'.note event') := by
  obtain ⟨new, new', hj, hj', hstory⟩ := h.journal
  refine { h with journal := ⟨⟨event, s.order, s.phase⟩ :: new,
    ⟨event', s'.order, s'.phase⟩ :: new', ?_, ?_, ?_⟩ }
  · rw [Scene.journal_note, hj, List.cons_append]
  · rw [Scene.journal_note, hj', List.cons_append]
  · rw [story_cons, story_cons, hstory, he]

lemma Mirrors.logged (h : Mirrors f f' s s') (records : List Record) :
    Mirrors f f' (logged records s) (logged records s') := by
  induction records generalizing s s' with
  | nil => exact h
  | cons r records ih => exact ih (h.note rfl)

lemma Mirrors.supplied (h : Mirrors f f' s s') (request : Request) :
    Mirrors f f' { s with supply := (s.supply.next request).2 }
      { s' with supply := (s'.supply.next request).2 } :=
  { h with supply := by rw [h.supply], idle := h.idle.next request }

lemma Mirrors.enter (h : Mirrors f f' s s') (phase : Phase) :
    Mirrors { f with phase } { f' with phase } (s.enter phase) (s'.enter phase) :=
  { h with phase := rfl, phase' := rfl }

/-- Updates that come to the same, apart from the number and the limit of the attempt. -/
lemma Mirrors.onOrder (h : Mirrors f f' s s') {g g' : PowerOrder → PowerOrder} {p : PowerOrder}
    (hg : g s.order = p) (hattempt : p.attempt = s.order.attempt) (hlimit : p.limit = s.order.limit)
    (hcancelled : p.cancelled = s.order.cancelled)
    (hg' : g' s'.order = { p with attempt := f'.attempt, limit := f'.limit }) :
    Mirrors f f' (s.onOrder g) (s'.onOrder g') := by
  subst hg
  exact { h with
    attempt := hattempt.trans h.attempt
    limit := hlimit.trans h.limit
    cancelled := hcancelled.trans h.cancelled
    order := hg' }

lemma Mirrors.order' (h : Mirrors f f' s s') :
    s.order = { s'.order with attempt := f.attempt, limit := f.limit } := by
  rw [h.order, ← h.attempt, ← h.limit]

lemma Mirrors.limit' (h : Mirrors f f' s s') : s'.order.limit = f'.limit := by
  rw [h.order]

lemma Mirrors.attempt' (h : Mirrors f f' s s') : s'.order.attempt = f'.attempt := by
  rw [h.order]

lemma Mirrors.markDone (h : Mirrors f f' s s') (failure? : Option Failure) :
    Mirrors f f' (s.onOrder (·.markDone failure? (some f.attempt)))
      (s'.onOrder (·.markDone failure? (some f'.attempt))) := by
  refine h.onOrder (PowerOrder.markDone_of_current h.attempt _) rfl rfl rfl ?_
  rw [PowerOrder.markDone_of_current h.attempt', h.order]

lemma Mirrors.noteHardware (h : Mirrors f f' s s') (hardware : ManagedHardware)
    (state : PowerState) :
    Mirrors f f' (s.onOrder (·.noteHardware (some f.attempt) hardware state))
      (s'.onOrder (·.noteHardware (some f'.attempt) hardware state)) := by
  refine h.onOrder (PowerOrder.noteHardware_of_current h.attempt _ _) rfl rfl rfl ?_
  rw [PowerOrder.noteHardware_of_current h.attempt', h.order]

lemma Mirrors.noteTask (h : Mirrors f f' s s') (task : RemoteTask) :
    Mirrors f f' (s.onOrder (·.noteTask f.attempt task))
      (s'.onOrder (·.noteTask f'.attempt task)) := by
  refine h.onOrder (PowerOrder.noteTask_of_current h.attempt _) rfl rfl rfl ?_
  rw [PowerOrder.noteTask_of_current h.attempt', h.order]

lemma Mirrors.noteProgress (h : Mirrors f f' s s') (task : RemoteTask) :
    Mirrors f f' (s.onOrder (·.noteProgress (some f.attempt) task))
      (s'.onOrder (·.noteProgress (some f'.attempt) task)) := by
  have hcurrent := PowerOrder.isCurrent_eq_true h.attempt
  have hcurrent' := PowerOrder.isCurrent_eq_true h.attempt'
  have htask : s'.order.task = s.order.task := by rw [h.order]
  by_cases hu : s.order.task.uri == task.uri
  · refine h.onOrder (p := { s.order with task }) ?_ rfl rfl rfl ?_
    · simp [PowerOrder.noteProgress, hcurrent, hu]
    · simp only [PowerOrder.noteProgress, hcurrent', htask, hu, Bool.and_self, if_true]
      rw [h.order]
  · refine h.onOrder (p := s.order) ?_ rfl rfl rfl ?_
    · simp [PowerOrder.noteProgress, hu]
    · simp only [PowerOrder.noteProgress, htask, hu, Bool.and_false, Bool.false_eq_true, if_false]
      exact h.order

end Mirrors

namespace Alike

variable {α β : Type} {f f' : Frame} {s s' t t' : Scene}

lemma bind {x x' : Run α} {g g' : α → Run β} (h : Alike f f' x x' s s')
    (hg : ∀ a t t', Mirrors f f' t t' → Alike f f' (g a) (g' a) t t') :
    Alike f f' (x >>= g) (x' >>= g') s s' := by
  obtain ⟨hresult, hscenes⟩ := h
  rcases hx : x.run s with ⟨outcome, t⟩
  rcases hx' : x'.run s' with ⟨outcome', t'⟩
  rw [hx, hx'] at hresult hscenes
  obtain rfl : outcome' = outcome := hresult
  rw [Alike, run_bind, run_bind, hx, hx']
  cases outcome' with
  | error failure => exact ⟨rfl, hscenes⟩
  | ok a => exact hg a t t' hscenes

lemma after {x x' : Run α} {g g' : α → Run β} {a a' : α} (hx : x.run s = (.ok a, t))
    (hx' : x'.run s' = (.ok a', t')) (h : Alike f f' (g a) (g' a') t t') :
    Alike f f' (x >>= g) (x' >>= g') s s' := by
  rw [Alike, run_bind, run_bind, hx, hx']
  exact h

lemma outcome {x x' : Run α} (h : Alike f f' x x' s s') :
    Alike f f' (Run.outcome x) (Run.outcome x') s s' := by
  rw [Alike, run_outcome, run_outcome]
  exact ⟨congrArg Except.ok h.1, h.2⟩

lemma ofExcept (h : Mirrors f f' s s') (ended : Except Failure α) :
    Alike f f' (Run.ofExcept ended) (Run.ofExcept ended) s s' := by
  rw [Alike, run_ofExcept, run_ofExcept]
  exact ⟨rfl, h⟩

lemma pure (h : Mirrors f f' s s') (a : α) : Alike f f' (Pure.pure a) (Pure.pure a) s s' :=
  ⟨rfl, h⟩

lemma throw (h : Mirrors f f' s s') (failure : Failure) :
    Alike f f' (MonadExcept.throw failure : Run α) (MonadExcept.throw failure) s s' :=
  ⟨rfl, h⟩

lemma logs (h : Mirrors f f' s s') (report : Report α) :
    Alike f f' (ofReport report) (ofReport report) s s' := by
  rw [Alike, run_ofReport, run_ofReport]
  exact ⟨rfl, h.logged _⟩

lemma log (h : Mirrors f f' s s') (level : Level) (text : String) :
    Alike f f' (Run.log level text) (Run.log level text) s s' :=
  ⟨rfl, h.note rfl⟩

lemma update {g g' : PowerOrder → PowerOrder} (h : Mirrors f f' (s.onOrder g) (s'.onOrder g')) :
    Alike f f' (updateOrder g) (updateOrder g') s s' :=
  ⟨rfl, h⟩

lemma giveUp (h : Mirrors f f' s s') (message : String) (failure : Failure) :
    Alike f f' (Run.giveUp f.attempt message failure) (Run.giveUp f'.attempt message failure)
      s s' :=
  bind (log h _ _) fun _ _ _ h => update (h.markDone _)

section Calls

variable {setup setup' : Setup} (hsetup : Twinned setup setup') (depth depth' : Nat)
  (origin origin' : Origin)

include hsetup

lemma call (h : Mirrors f f' s s') (client : Client) (method : String) (uri body : Json) :
    Alike f f' (Run.call setup (hookAt setup depth) origin client method uri body)
      (Run.call setup' (hookAt setup' depth') origin' client method uri body) s s' := by
  rw [Alike, run_call (total_hookAt _ _), run_call (total_hookAt _ _)]
  cases client.request method uri body with
  | error failure => exact ⟨rfl, h⟩
  | ok request =>
    have hsent : Mirrors f f' (s.note (.sent origin request)) (s'.note (.sent origin' request)) :=
      h.note rfl
    have hidle' : Idle (s'.note (.sent origin' request)).supply := hsent.supply ▸ hsent.idle
    simp only [hsetup.strict, h.supply, inFlight_of_idle hsent.idle, inFlight_of_idle hidle']
    exact ⟨trivial, ((hsent.supplied request).logged _).note rfl⟩

lemma observe (h : Mirrors f f' s s') :
    Alike f f' (Run.observe setup (hookAt setup depth) origin (some f.attempt))
      (Run.observe setup' (hookAt setup' depth') origin' (some f'.attempt)) s s' := by
  have hquery : ∀ t t', Mirrors f f' t t' → Alike f f'
      (do
        let body ← Run.call setup (hookAt setup depth) origin s.order.hardware.client "GET"
          s.order.hardware.hardware.uri .null
        let latest ← ofReport (Client.readHardware setup.strict s.order.hardware.hardware.uri body)
        let state ← ofReport latest.classify
        updateOrder (·.noteHardware (some f.attempt) ⟨latest, s.order.hardware.client⟩ state)
        return state)
      (do
        let body ← Run.call setup' (hookAt setup' depth') origin' s.order.hardware.client "GET"
          s.order.hardware.hardware.uri .null
        let latest ← ofReport (Client.readHardware setup.strict s.order.hardware.hardware.uri body)
        let state ← ofReport latest.classify
        updateOrder (·.noteHardware (some f'.attempt) ⟨latest, s.order.hardware.client⟩ state)
        return state) t t' := by
    intro t t' ht
    refine bind (call hsetup depth depth' origin origin' ht _ _ _ _) fun body t t' ht => ?_
    refine bind (logs ht _) fun latest t t' ht => ?_
    refine bind (logs ht _) fun state t t' ht => ?_
    exact bind (update (ht.noteHardware _ _)) fun _ t t' ht => pure ht _
  unfold Run.observe
  refine after (run_order s) (run_order s') ?_
  simp only [h.hardware, hsetup.strict]
  by_cases hu : s.order.hardware.hardware.uri.isGiven
  · simp only [hu, Bool.not_true, Bool.false_eq_true, if_false]
    exact hquery s s' h
  · simp only [hu, Bool.not_false, if_true]
    refine bind (update (h.onOrder rfl rfl rfl rfl ?_)) fun _ t t' ht => ?_
    · rw [h.order]
    · exact bind (logs ht _) fun _ t t' ht => hquery t t' ht

lemma refresh (h : Mirrors f f' s s') :
    Alike f f' (Run.refresh setup (hookAt setup depth) origin (some f.attempt))
      (Run.refresh setup' (hookAt setup' depth') origin' (some f'.attempt)) s s' := by
  have htask : s'.order.task = s.order.task := by rw [h.order]
  unfold Run.refresh
  refine after (run_order s) (run_order s') ?_
  simp only [h.hardware, htask, hsetup.strict]
  by_cases ht : s.order.task.exists?
  · simp only [ht, Bool.not_true, Bool.false_eq_true, if_false]
    refine bind (call hsetup depth depth' origin origin' h _ _ _ _) fun body t t' ht => ?_
    refine bind (logs ht _) fun latest t t' ht => ?_
    exact bind (update (ht.noteProgress _)) fun _ t t' ht => pure ht _
  · simp only [ht, Bool.not_false, if_true]
    exact pure h _

lemma requestChange (h : Mirrors f f' s s') (target : PowerState) :
    Alike f f' (Run.requestChange setup (hookAt setup depth) origin target f.attempt)
      (Run.requestChange setup' (hookAt setup' depth') origin' target f'.attempt) s s' := by
  unfold Run.requestChange
  refine after (run_order s) (run_order s') ?_
  simp only [h.hardware, hsetup.strict]
  refine bind (log h _ _) fun _ t t' ht => ?_
  refine bind (ofExcept ht _) fun uri t t' ht => ?_
  refine bind (call hsetup depth depth' origin origin' ht _ _ _ _).outcome fun reply t t' ht => ?_
  cases reply with
  | error failure =>
    dsimp only
    split
    · exact giveUp ht _ _
    · exact throw ht _
  | ok body =>
    refine bind (logs ht _).outcome fun read t t' ht => ?_
    cases read with
    | error failure =>
      dsimp only
      split
      · exact giveUp ht _ _
      · exact throw ht _
    | ok task => exact update (ht.noteTask _)

lemma submit (h : Mirrors f f' s s') (target : PowerState) :
    Alike f f' (Run.submit setup (hookAt setup depth) target (some f.attempt))
      (Run.submit setup' (hookAt setup' depth') target (some f'.attempt)) s s' := by
  unfold Run.submit
  refine after (run_order s) (run_order s') ?_
  refine after (run_get s) (run_get s') ?_
  refine after (run_modify _ s) (run_modify _ s') ?_
  have hcounted : Mirrors f f' { s with submissions := s.submissions + 1 }
      { s' with submissions := s'.submissions + 1 } := { h with }
  simp only [Option.getD_some]
  refine bind (observe hsetup depth depth' _ _ hcounted).outcome fun state t t' ht => ?_
  cases state with
  | error failure =>
    dsimp only
    split
    · exact giveUp ht _ _
    · exact throw ht _
  | ok state =>
    dsimp only
    split
    · exact bind (log ht _ _) fun _ t t' ht => update (ht.markDone _)
    · exact requestChange hsetup depth depth' _ _ ht target

lemma work (h : Mirrors f f' s s') (target : PowerState) :
    Alike f f' (Run.work setup (hookAt setup depth) target f.attempt)
      (Run.work setup' (hookAt setup' depth') target f'.attempt) s s' := by
  unfold Run.work
  refine bind (submit hsetup depth depth' h target).outcome fun ended t t' ht => ?_
  cases ended with
  | error failure => exact giveUp ht _ _
  | ok _ => exact pure ht _

lemma workedOff (h : Mirrors f f' s s') {jobs jobs' : List Job} {waits waits' : Nat}
    (hjobs : List.Forall₂ (Twins f.attempt f'.attempt waits waits') jobs jobs') :
    Mirrors f f' (workedOff setup (hookAt setup depth) jobs s)
      (Proofs.workedOff setup' (hookAt setup' depth') jobs' s') := by
  induction hjobs generalizing s s' with
  | nil => exact h
  | @cons job job' jobs jobs' hjob _ ih =>
    rw [workedOff_cons, workedOff_cons, hjob.target, hjob.attempt, hjob.attempt']
    exact ih (work hsetup depth depth' h job.target).2

lemma afterPause (h : Mirrors f f' s s') (delay : Json) :
    Mirrors f f' (afterPause setup (hookAt setup depth) origin delay s)
      (Proofs.afterPause setup' (hookAt setup' depth') origin' delay s') := by
  have hdue : ∀ job job', Twins f.attempt f'.attempt s.waits s'.waits job job' →
      dueBy (s.waits + 1) job = dueBy (s'.waits + 1) job' := by
    intro job job' hj
    have hd := hj.due
    simp only [dueBy, decide_eq_decide]
    omega
  have hwaited : Mirrors f f' (s.note (.waited origin delay)) (s'.note (.waited origin' delay)) :=
    h.note rfl
  have hfiltered : ∀ g : Bool → Bool, List.Forall₂ (Twins f.attempt f'.attempt s.waits s'.waits)
      (s.pending.filter fun job => g (dueBy (s.waits + 1) job))
      (s'.pending.filter fun job => g (dueBy (s'.waits + 1) job)) :=
    fun g => List.rel_filter (fun job job' hj => by dsimp only; rw [hdue job job' hj]) h.pending
  have hlater : List.Forall₂ (Twins f.attempt f'.attempt (s.waits + 1) (s'.waits + 1))
      (s.pending.filter (!dueBy (s.waits + 1) ·))
      (s'.pending.filter (!dueBy (s'.waits + 1) ·)) := by
    refine List.Forall₂.imp (fun job job' hj => ?_) (hfiltered not)
    have hd := hj.due
    exact ⟨hj.target, hj.attempt, hj.attempt', by omega⟩
  have hbegun : Mirrors f f'
      { s.note (.waited origin delay) with
        waits := s.waits + 1, pending := s.pending.filter (!dueBy (s.waits + 1) ·) }
      { s'.note (.waited origin' delay) with
        waits := s'.waits + 1, pending := s'.pending.filter (!dueBy (s'.waits + 1) ·) } :=
    { hwaited with pending := hlater }
  unfold Proofs.afterPause
  dsimp only
  rw [hsetup.duringWait, hsetup.duringWait', run_hookAt_nil, run_hookAt_nil]
  exact workedOff hsetup depth depth' hbegun (hfiltered id)

lemma check (h : Mirrors f f' s s') (target : PowerState) :
    Alike f f' (Run.check setup (hookAt setup depth) target f.attempt)
      (Run.check setup' (hookAt setup' depth') target f'.attempt) s s' := by
  obtain ⟨hresult, hscenes⟩ := refresh hsetup depth depth' (.polling f.attempt)
    (.polling f'.attempt) h
  rw [Alike, run_check, run_check]
  rcases hr : (Run.refresh setup (hookAt setup depth) _ _).run s with ⟨outcome, t⟩
  rcases hr' : (Run.refresh setup' (hookAt setup' depth') _ _).run s' with ⟨outcome', t'⟩
  rw [hr, hr'] at hresult hscenes
  obtain rfl : outcome' = outcome := hresult
  rcases outcome' with failure | _ | task
  · exact ⟨rfl, hscenes⟩
  · exact ⟨rfl, hscenes.note rfl⟩
  · dsimp only
    split
    · exact ⟨rfl, (hscenes.markDone _).note rfl⟩
    · split
      · cases task.errorSummary with
        | error failure => exact ⟨rfl, hscenes⟩
        | ok reason => exact ⟨rfl, (hscenes.markDone _).note rfl⟩
      · exact ⟨rfl, hscenes.note rfl⟩

/-- Following on, one of the runs with `ahead` more checks behind it and that many more allowed. -/
lemma follow (h : Mirrors f f' s s') (target : PowerState) {ahead : Nat}
    (hlimit : ∀ checks, s'.order.allowsCheck (checks + ahead) = s.order.allowsCheck checks)
    {checks fuel fuel' : Nat} (hfuel : Fueled s.order checks fuel fuel') :
    let r := (Run.follow setup (hookAt setup depth) target f.attempt fuel checks).run s
    let r' := (Run.follow setup' (hookAt setup' depth') target f'.attempt fuel'
      (checks + ahead)).run s'
    r'.1 = r.1.map (fun last => (last.1 + ahead, last.2)) ∧ Mirrors f f' r.2 r'.2 := by
  dsimp only
  induction fuel generalizing fuel' checks s s' with
  | zero =>
    obtain rfl : fuel' = 0 := hfuel.resolve_right fun ⟨_, hm, _⟩ => nomatch hm
    exact ⟨congrArg (fun seen => Except.ok (checks + ahead, seen)) h.glance, h⟩
  | succ fuel ih =>
    obtain ⟨fuel', rfl⟩ : ∃ n, fuel' = n + 1 := by
      rcases hfuel with rfl | ⟨more, -, hm, -⟩
      · exact ⟨fuel, rfl⟩
      · exact ⟨fuel' - 1, by omega⟩
    have hover : s'.order.isOver = s.order.isOver := by rw [h.order]; rfl
    rw [run_follow_succ (total_hookAt _ _), run_follow_succ (total_hookAt _ _), hover,
      hlimit checks]
    by_cases hdone : s.order.isOver
    · simp only [hdone, if_true]
      exact ⟨congrArg (fun seen => Except.ok (checks + ahead, seen)) h.glance, h⟩
    · simp only [hdone, Bool.false_eq_true, if_false]
      cases hmore : s.order.allowsCheck checks with
      | error failure => exact ⟨rfl, h⟩
      | ok more =>
        cases more with
        | false => exact ⟨congrArg (fun seen => Except.ok (checks + ahead, seen)) h.glance, h⟩
        | true =>
          dsimp only
          obtain ⟨hresult, hscenes⟩ := check hsetup depth depth' h target
          rcases hc : (Run.check setup (hookAt setup depth) target f.attempt).run s with
            ⟨outcome, t⟩
          rcases hc' : (Run.check setup' (hookAt setup' depth') target f'.attempt).run s' with
            ⟨outcome', t'⟩
          rw [hc, hc'] at hresult hscenes
          obtain rfl : outcome' = outcome := hresult
          cases outcome' with
          | error failure => exact ⟨rfl, hscenes⟩
          | ok _ =>
            have hinterval : t'.order.interval = t.order.interval := by rw [hscenes.order]
            have hpaused := afterPause hsetup depth depth' (.polling f.attempt)
              (.polling f'.attempt) hscenes t.order.interval
            dsimp only
            rw [hinterval, Nat.add_right_comm]
            -- What is allowed depends on the limits only, and these stay.
            have hstay := allowsCheck_congr (hpaused.limit.trans h.limit.symm)
            have hstay' := allowsCheck_congr (hpaused.limit'.trans h.limit'.symm)
            refine ih hpaused (fun checks => ?_) ?_
            · rw [hstay, hstay', hlimit]
            · rcases hfuel with hfuel | ⟨more, hm, hm', hend⟩
              · exact Or.inl (Nat.succ.inj hfuel)
              · obtain ⟨more, rfl⟩ : ∃ n, more = n + 1 := by
                  refine ⟨more - 1, ?_⟩
                  have hpos : more ≠ 0 := fun h0 => hend (by rw [h0]; exact hmore)
                  omega
                refine Or.inr ⟨more, by omega, by omega, ?_⟩
                rwa [hstay, Nat.add_right_comm, Nat.add_assoc]

end Calls

end Alike

def expiryRecord (target : PowerState) (name : Json) : Record :=
  ⟨.warning, .ok ("Power " ++ target.wire ++ " state timed out for " ++ name.display ++ ".")⟩

/-- How polling whose checks are used up ends in a scene. -/
def expired (failOnTimeout : Bool) (target : PowerState) (name : Json) (checks : Nat) (s : Scene) :
    Except Failure PowerResult × Scene :=
  let t := (s.enter .timedOut).note (.logged (expiryRecord target name))
  (timeout failOnTimeout target name checks,
    if failOnTimeout then t else t.note (.logged completionRecord))

section Ends

variable {f f' : Frame} {s s' t t' : Scene} {setup setup' : Setup}

/-- The last look of both runs is the same, so they end alike. Only where both time out do they tell
of the name and the number of checks. -/
lemma Mirrors.conclude (h : Mirrors f f' s s') (hsetup : Twinned setup setup') (target : PowerState)
    (name name' : Json) (checks checks' : Nat) :
    let r := (Run.conclude setup target name checks (glanceAt s.order)).run s
    let r' := (Run.conclude setup' target name' checks' (glanceAt s.order)).run s'
    Coincide f f' r r' ∨ r = expired setup.failOnTimeout target name checks s ∧
      r' = expired setup.failOnTimeout target name' checks' s' := by
  dsimp only
  rw [run_conclude, run_conclude, hsetup.failOnTimeout]
  cases hf : (glanceAt s.order).failure? with
  | some failure => exact Or.inl ⟨rfl, .failed, h.enter _⟩
  | none =>
    dsimp only
    by_cases hd : (glanceAt s.order).done
    · simp only [hd, if_true]
      exact Or.inl ⟨rfl, .done, (h.enter _).note rfl⟩
    · have hc : (glanceAt s.order).cancelled = false := h.cancelled
      simp only [hd, hc, Bool.false_eq_true, if_false]
      refine Or.inr ?_
      unfold expired timeout
      split <;> exact ⟨rfl, rfl⟩

lemma Mirrors.expired (h : Mirrors f f' s s') (failOnTimeout : Bool) (target : PowerState)
    (name : Json) (checks : Nat) :
    Coincide f f' (expired failOnTimeout target name checks s)
      (Proofs.expired failOnTimeout target name checks s') := by
  have hwarned : Mirrors { f with phase := .timedOut } { f' with phase := .timedOut }
      ((s.enter .timedOut).note (.logged (expiryRecord target name)))
      ((s'.enter .timedOut).note (.logged (expiryRecord target name))) :=
    (h.enter _).note rfl
  refine ⟨rfl, .timedOut, ?_⟩
  unfold Proofs.expired
  dsimp only
  split
  · exact hwarned
  · exact hwarned.note rfl

/-- What an execution makes of how its polling ended: a failure that escaped ends its phase. -/
def settled : Except Failure PowerResult × Scene → Except Failure PowerResult × Scene
  | (.ok result, t) => (.ok result, t)
  | (.error failure, t) => (.error failure, if t.phase = .polling then t.enter .failed else t)

lemma run_execute_eq_settled {target : PowerState} (ht : target ∈ PowerState.targets)
    (hopen : s.poolOpen) (setup : Setup) (hook : Hook) :
    (execute setup hook target).run s =
      settled ((Run.poll setup hook target (s.order.attempt + 1)).run
        ((handedOver setup hook target (s.order.attempt + 1) (attemptBegun s)).enter
          .submitting)) := by
  rw [run_execute ht]
  dsimp only
  rw [if_pos hopen]
  rfl

lemma Coincide.settled {r r' : Except Failure PowerResult × Scene} (h : Coincide f f' r r') :
    Coincide f f' (settled r) (Proofs.settled r') := by
  obtain ⟨outcome, t⟩ := r
  obtain ⟨outcome', t'⟩ := r'
  obtain ⟨hresult, phase, hscenes⟩ := h
  obtain rfl : outcome' = outcome := hresult
  cases outcome' with
  | ok result => exact ⟨rfl, phase, hscenes⟩
  | error failure =>
    have hphase : t.phase = phase := hscenes.phase
    have hphase' : t'.phase = phase := hscenes.phase'
    refine ⟨rfl, ?_⟩
    dsimp only [Proofs.settled]
    rw [hphase, hphase']
    split
    · exact ⟨.failed, hscenes.enter .failed⟩
    · exact ⟨phase, hscenes⟩

lemma settled_expired (failOnTimeout : Bool) (target : PowerState) (name : Json) (checks : Nat)
    (s : Scene) : settled (expired failOnTimeout target name checks s) =
      expired failOnTimeout target name checks s := by
  cases failOnTimeout <;> rfl

end Ends

end ServerPower.Proofs
