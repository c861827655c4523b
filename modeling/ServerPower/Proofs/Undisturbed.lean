import ServerPower.Proofs.Attempts

/-!
# Undisturbed attempts

Others spare an attempt if they begin no other one, do not end it, do not replace its task and do
not submit for it once more. What they do may change what is known of the hardware and of the
progress of the task; it does not change whether the attempt ended, its failure and the address of
its task, and it leaves no trace on behalf of the attempt.
-/

namespace ServerPower.Proofs
open Run

/-- What others may do while attempt `a` is executed. -/
def Spares (a : Int) : Action → Prop
  | .reset | .setTask _ => False
  | .markDone _ attempt? | .submit _ attempt? => attempt? ≠ none ∧ attempt? ≠ some a
  | .execute target | .executeOnce target => target ∉ PowerState.targets
  | _ => True

/-- Attempt `a` is the current one, and the others that act during calls spare it. -/
structure Spared (a : Int) (s : Scene) : Prop where
  attempt : s.order.attempt = a
  answers : ∀ answer ∈ s.supply.answers, ∀ action ∈ answer.during, Spares a action

def Unqueued (a : Int) (s : Scene) : Prop :=
  ∀ job ∈ s.pending, job.attempt ≠ a

/-- The submission for attempt `a` waits for the pool. -/
def Queued (a : Int) (target : PowerState) (s : Scene) : Prop :=
  ∃ due before after, s.pending = before ++ ⟨due, target, a⟩ :: after ∧
    ∀ job ∈ before ++ after, job.attempt ≠ a

def Foreign (a : Int) (entries : List Entry) : Prop :=
  ∀ e ∈ entries, ∀ origin, originOf? e.event = some origin → Within (· ≠ a) origin

/-- The attempt did not end from one order to the other, nor did its failure or the address of its
task change. -/
structure Level (p q : PowerOrder) : Prop where
  done : q.done = p.done
  failure? : q.failure? = p.failure?
  uri : q.task.uri = p.task.uri

structure Aside (a : Int) (s t : Scene) : Prop where
  level : Level s.order t.order
  journal : ∃ more, t.journal = more ++ s.journal ∧ Foreign a more

namespace Level

variable {p q r : PowerOrder}

lemma refl (p : PowerOrder) : Level p p := ⟨rfl, rfl, rfl⟩

lemma trans (h1 : Level p q) (h2 : Level q r) : Level p r :=
  ⟨h2.done.trans h1.done, h2.failure?.trans h1.failure?, h2.uri.trans h1.uri⟩

lemma noteHardware (p : PowerOrder) (attempt? : Option Int) (hardware : ManagedHardware)
    (state : PowerState) : Level p (p.noteHardware attempt? hardware state) := by
  unfold PowerOrder.noteHardware
  split
  · exact ⟨rfl, rfl, rfl⟩
  · exact refl p

lemma noteProgress (p : PowerOrder) (attempt? : Option Int) (task : RemoteTask) :
    Level p (p.noteProgress attempt? task) := by
  unfold PowerOrder.noteProgress
  split
  · rename_i h
    simp only [Bool.and_eq_true, beq_iff_eq] at h
    exact ⟨rfl, rfl, h.2.symm⟩
  · exact refl p

end Level

lemma Foreign.append {a : Int} {new old : List Entry} (hn : Foreign a new) (ho : Foreign a old) :
    Foreign a (new ++ old) := by
  intro e he
  rcases List.mem_append.mp he with h | h
  · exact hn e h
  · exact ho e h

namespace Aside

variable {a : Int} {s t u : Scene}

lemma refl (a : Int) (s : Scene) : Aside a s s :=
  ⟨Level.refl _, [], rfl, fun _ he => nomatch he⟩

lemma trans (h1 : Aside a s t) (h2 : Aside a t u) : Aside a s u := by
  obtain ⟨new1, hj1, hf1⟩ := h1.journal
  obtain ⟨new2, hj2, hf2⟩ := h2.journal
  refine ⟨h1.level.trans h2.level, new2 ++ new1, ?_, hf2.append hf1⟩
  rw [hj2, hj1, List.append_assoc]

lemma of_level (h : Level s.order t.order) (hj : t.journal = s.journal) : Aside a s t :=
  ⟨h, [], hj, fun _ he => nomatch he⟩

end Aside

/-- The elementary steps of others keep what they leave of an undisturbed attempt, and the
submissions that wait. -/
def steady (a : Int) : Law where
  holds := Spared a
  leads s t := Aside a s t ∧ t.pending = s.pending
  refl s := ⟨Aside.refl a s, rfl⟩
  trans h1 h2 := ⟨h1.1.trans h2.1, h2.2.trans h1.2⟩

/-- Whatever others do, they leave an undisturbed attempt aside once its submission was run or will
never be. -/
def quiet (a : Int) : Law where
  holds s := Spared a s ∧ Unqueued a s
  leads := Aside a
  refl := Aside.refl a
  trans := Aside.trans

section Steps

variable {a : Int} {s t : Scene}

lemma steady_onOrder {f : PowerOrder → PowerOrder} (ha : (f s.order).attempt = s.order.attempt)
    (h : Level s.order (f s.order)) : (steady a).Step s (s.onOrder f) :=
  fun hs => ⟨⟨ha.trans hs.attempt, hs.answers⟩, Aside.of_level h rfl, rfl⟩

lemma steady_onOrder_of_not_current {f : PowerOrder → PowerOrder} {k : Int} (hk : k ≠ a)
    (hf : s.order.isCurrent (some k) = false → f s.order = s.order) :
    (steady a).Step s (s.onOrder f) := by
  intro hs
  have he : f s.order = s.order :=
    hf (PowerOrder.isCurrent_eq_false fun h => hk (h.symm.trans hs.attempt))
  exact steady_onOrder (by rw [he]) (by rw [he]; exact Level.refl _) hs

lemma steady_markDone {k : Int} (hk : k ≠ a) (failure? : Option Failure) :
    (steady a).Step s (s.onOrder (·.markDone failure? (some k))) :=
  steady_onOrder_of_not_current hk (PowerOrder.markDone_of_not_current · _)

lemma steady_admits (a : Int) : (steady a).AdmitsAny (· ≠ a) where
  noted s event he hs := by
    refine ⟨⟨hs.attempt, hs.answers⟩, ⟨Level.refl _, [_], rfl, fun e hm => ?_⟩, rfl⟩
    rw [List.mem_singleton.mp hm]
    exact he
  supplied s request hs := by
    have hanswers : ∀ answer ∈ (s.supply.next request).2.answers, ∀ action ∈ answer.during,
        Spares a action :=
      fun answer hm => hs.answers answer (answers_next_subset request s.supply hm)
    exact ⟨⟨hs.attempt, hanswers⟩, Aside.of_level (Level.refl _) rfl, rfl⟩
  counted s hs := ⟨⟨hs.attempt, hs.answers⟩, Aside.of_level (Level.refl _) rfl, rfl⟩
  forgot s := steady_onOrder rfl ⟨rfl, rfl, rfl⟩
  hardware s attempt? hardware state := steady_onOrder (by simp) (Level.noteHardware _ _ _ _)
  progress s attempt? task := steady_onOrder (by simp) (Level.noteProgress _ _ _)
  ended s failure? attempt hk := steady_markDone hk failure?
  task s attempt task hk :=
    steady_onOrder_of_not_current hk (PowerOrder.noteTask_of_not_current · _)

lemma steady_bears (s : Scene) {action : Action} (h : Spares a action) :
    (steady a).Bears (· ≠ a) s action := by
  cases action with
  | reset | setTask _ => exact h.elim
  | markDone _ attempt? =>
    obtain ⟨hn, ha⟩ := h
    cases attempt? with
    | none => exact absurd rfl hn
    | some k => exact fun failure? => steady_markDone (fun hk => ha (by rw [hk])) failure?
  | submit _ attempt? =>
    obtain ⟨hn, ha⟩ := h
    cases attempt? with
    | none => exact absurd rfl hn
    | some k => exact fun _ hk => ha (congrArg some hk)
  | cancel | setHardware _ | setTiming _ _ => exact steady_onOrder rfl ⟨rfl, rfl, rfl⟩
  | setMoment _ | close _ | executeOnce _ =>
    exact fun hs => ⟨⟨hs.attempt, hs.answers⟩, Aside.of_level (Level.refl _) rfl, rfl⟩
  | wait _ | observe _ | refresh _ | execute _ | look => trivial

lemma Spared.during (h : Spared a s) (request : Request) :
    ∀ action ∈ (s.supply.next request).1.during, Spares a action :=
  Confined.during h.answers request

lemma quiet_step_of_steady (h : (steady a).Step s t) : (quiet a).Step s t := by
  intro hs
  obtain ⟨ht, haside, hp⟩ := h hs.1
  exact ⟨⟨ht, by rw [Unqueued, hp]; exact hs.2⟩, haside⟩

end Steps

lemma quiet_admits (a : Int) : (quiet a).AdmitsAny (· ≠ a) :=
  (steady_admits a).of_step (fun _ _ => quiet_step_of_steady)

lemma quiet_serves (a : Int) : (quiet a).Serves (· ≠ a) (Spares a) where
  toAdmits := (quiet_admits a).admits
  during _ request hs := hs.1.during request

lemma Law.Admits.keeps_execute_refused {L : Law} {may : Int → Prop} (h : L.Admits may)
    {a : Int} {target : PowerState}
    (ht : Spares a (.execute target) ∨ Spares a (.executeOnce target)) (setup : Setup)
    (hook : Hook) : L.Keeps (execute setup hook target) := by
  have hn : target ∉ PowerState.targets := ht.elim id id
  intro s
  rw [run_execute_refused hn]
  exact h.step_logged _ s

theorem quiet_governs (a : Int) (setup : Setup) :
    (quiet a).Governs (· ≠ a) (Spares a) setup where
  toAwaits := by
    refine (quiet_serves a).awaits (fun s hs => hs.2) (fun s waits pending hp hs => ?_) setup
    have hunqueued : ∀ job ∈ pending, job.attempt ≠ a := fun job hj => hs.2 job (hp.subset hj)
    exact ⟨⟨⟨hs.1.attempt, hs.1.answers⟩, hunqueued⟩, Aside.of_level (Level.refl _) rfl⟩
  bears s action h := (steady_bears s h).of_step (fun _ => quiet_step_of_steady) (·.1)
  executes depth target _ ht := (quiet_serves a).toAdmits.keeps_execute_refused ht _ _

/-- When the submissions that are due are run, the one for attempt `a` either still waits or runs.
Those before it and after it leave the attempt aside. -/
lemma Queued.afterDue {a : Int} {target : PowerState} {setup : Setup} {hook : Hook}
    (hh : (quiet a).Hosts (Spares a) setup hook) {s : Scene} (hs : Spared a s)
    (hq : Queued a target s) :
    (∃ pending jobs, Queued a target { s with waits := s.waits + 1, pending } ∧
      (∀ job ∈ jobs, job.attempt ≠ a) ∧
      Proofs.afterDue setup hook s =
        workedOff setup hook jobs { s with waits := s.waits + 1, pending }) ∨
    ∃ u, (quiet a).holds u ∧ Aside a s u ∧
      (quiet a).Step ((work setup hook target a).run u).2 (Proofs.afterDue setup hook s) := by
  obtain ⟨due, before, after, hpending, hothers⟩ := hq
  have hbefore : ∀ p : Job → Bool, ∀ job ∈ before.filter p, job.attempt ≠ a :=
    fun p job hm => hothers job (List.mem_append_left after (List.mem_filter.mp hm).1)
  have hafter : ∀ p : Job → Bool, ∀ job ∈ after.filter p, job.attempt ≠ a :=
    fun p job hm => hothers job (List.mem_append_right before (List.mem_filter.mp hm).1)
  have hboth : ∀ p : Job → Bool, ∀ job ∈ before.filter p ++ after.filter p, job.attempt ≠ a :=
    fun p job hm => (List.mem_append.mp hm).elim (hbefore p job) (hafter p job)
  let now := dueBy (s.waits + 1)
  let later := fun job => !now job
  unfold Proofs.afterDue
  by_cases hd : now ⟨due, target, a⟩
  · -- The attempt's own job is due: what is due before it runs first, the rest after it.
    right
    simp only [hpending, List.filter_append, List.filter_cons, now] at hd ⊢
    simp only [hd, if_true, Bool.not_true, Bool.false_eq_true, if_false]
    rw [workedOff_append, workedOff_cons]
    let left := { s with
      waits := s.waits + 1, pending := before.filter later ++ after.filter later }
    have hleft : (quiet a).holds left := ⟨⟨hs.attempt, hs.answers⟩, hboth later⟩
    have hfirst := (quiet_serves a).step_workedOff hh (hbefore now) left hleft
    exact ⟨_, hfirst.1, (Aside.of_level (Level.refl _) rfl : Aside a s left).trans hfirst.2,
      (quiet_serves a).step_workedOff hh (hafter now) _⟩
  · left
    simp only [hpending, List.filter_append, List.filter_cons, now] at hd ⊢
    simp only [hd, Bool.not_false, Bool.false_eq_true, if_true, if_false]
    exact ⟨_, _, ⟨due, _, _, rfl, hboth later⟩, hboth now, rfl⟩

/-- A call that was made for attempt `a` itself. The others left the attempt aside in its flight, so
between its request and what came back there is nothing else on behalf of the attempt. -/
structure Called (a : Int) (origin : Origin) (request : Request) (outcome : Except Failure String)
    (s t : Scene) : Prop where
  spared : Spared a t
  unqueued : Unqueued a t
  level : Level s.order t.order
  journal : ∃ told meanwhile, told.event = .answered origin request outcome ∧ Foreign a meanwhile ∧
    t.journal = told :: (meanwhile ++ ⟨.sent origin request, s.order, s.phase⟩ :: s.journal)

lemma quiet_call {a : Int} {setup : Setup} {hook : Hook}
    (hh : (quiet a).Hosts (Spares a) setup hook) {s : Scene} (hs : (quiet a).holds s)
    (origin : Origin) (client : Client) (method : String) (uri body : Json) :
    (∃ failure, client.request method uri body = .error failure ∧
      (call setup hook origin client method uri body).run s = (.error failure, s)) ∨
    ∃ request outcome t, client.request method uri body = .ok request ∧
      (call setup hook origin client method uri body).run s = (outcome, t) ∧
      Called a origin request outcome s t := by
  rw [run_call hh.total]
  cases hr : client.request method uri body with
  | error failure => exact Or.inl ⟨failure, rfl, rfl⟩
  | ok request =>
    right
    refine ⟨request, _, _, rfl, rfl, ?_⟩
    let report := readAnswer setup.strict method uri request (s.supply.next request).1
    let read := logged report.records (inFlight hook request (s.note (.sent origin request)))
    have hsent : (quiet a).holds (s.note (.sent origin request)) :=
      ⟨⟨hs.1.attempt, hs.1.answers⟩, hs.2⟩
    obtain ⟨⟨hspared, hunqueued⟩, haside⟩ :=
      ((quiet_serves a).step_inFlight hh request (s.note (.sent origin request))).trans
        ((quiet_serves a).step_logged report.records _) hsent
    obtain ⟨meanwhile, hj, hf⟩ := haside.journal
    refine ⟨⟨hspared.attempt, hspared.answers⟩, hunqueued, haside.level,
      ⟨.answered origin request report.outcome, read.order, read.phase⟩, meanwhile, rfl, hf, ?_⟩
    rw [Scene.journal_note, hj, Scene.journal_note]

end ServerPower.Proofs
