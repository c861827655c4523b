import ServerPower.Proofs.Laws

/-!
# Waits and the actions of others

During a wait the submissions that are due run, and then others act. An action of others may call
and wait in turn, with further actions during it; by induction on the depth of this nesting,
everything that others do obeys a law that governs the elementary steps.
-/

namespace ServerPower.Proofs
open Run

/-- The scene after the pool ran submissions one after the other. -/
def workedOff (setup : Setup) (hook : Hook) (jobs : List Job) (s : Scene) : Scene :=
  ((jobs.forM fun job => work setup hook job.target job.attempt).run s).2

lemma run_forM_work_cons (setup : Setup) (hook : Hook) (job : Job) (jobs : List Job) (s : Scene) :
    ((job :: jobs).forM fun job => work setup hook job.target job.attempt).run s =
      (jobs.forM fun job => work setup hook job.target job.attempt).run
        ((work setup hook job.target job.attempt).run s).2 := by
  show (work setup hook job.target job.attempt >>= fun _ =>
    jobs.forM fun job => work setup hook job.target job.attempt).run s = _
  rw [run_bind, ← Prod.eta ((work setup hook job.target job.attempt).run s), work_ok]

lemma workedOff_cons (setup : Setup) (hook : Hook) (job : Job) (jobs : List Job) (s : Scene) :
    workedOff setup hook (job :: jobs) s =
      workedOff setup hook jobs ((work setup hook job.target job.attempt).run s).2 := by
  rw [workedOff, run_forM_work_cons, workedOff]

lemma workedOff_append (setup : Setup) (hook : Hook) (first later : List Job) (s : Scene) :
    workedOff setup hook (first ++ later) s =
      workedOff setup hook later (workedOff setup hook first s) := by
  induction first generalizing s with
  | nil => rfl
  | cons job first ih => rw [List.cons_append, workedOff_cons, workedOff_cons, ih]

lemma forM_work_ok (setup : Setup) (hook : Hook) (jobs : List Job) (s : Scene) :
    ((jobs.forM fun job => work setup hook job.target job.attempt).run s).1 = .ok () := by
  induction jobs generalizing s with
  | nil => rfl
  | cons job jobs ih =>
    rw [run_forM_work_cons]
    exact ih _

def dueBy (wait : Nat) (job : Job) : Bool :=
  job.due ≤ wait

/-- The scene after the submissions that are due were run. -/
def afterDue (setup : Setup) (hook : Hook) (s : Scene) : Scene :=
  let wait := s.waits + 1
  workedOff setup hook (s.pending.filter (dueBy wait))
    { s with waits := wait, pending := s.pending.filter (!dueBy wait ·) }

def afterPause (setup : Setup) (hook : Hook) (origin : Origin) (delay : Json) (s : Scene) : Scene :=
  let t := afterDue setup hook (s.note (.waited origin delay))
  ((hook (setup.duringWait t.waits)).run t).2

theorem run_pause {hook : Hook} (h : Total hook) (setup : Setup) (origin : Origin) (delay : Json)
    (s : Scene) :
    (pause setup hook origin delay).run s =
      (.ok (afterPause setup hook origin delay s).order.isOver,
        afterPause setup hook origin delay s) := by
  let begun := s.note (.waited origin delay)
  have hd : ((begun.pending.filter (dueBy (begun.waits + 1))).forM fun job =>
      work setup hook job.target job.attempt).run
      { begun with
        waits := begun.waits + 1,
        pending := begun.pending.filter (not ∘ dueBy (begun.waits + 1)) } =
      (.ok (), afterDue setup hook begun) :=
    Prod.ext (forM_work_ok _ _ _ _) rfl
  have hh : (hook (setup.duringWait (afterDue setup hook begun).waits)).run
      (afterDue setup hook begun) = (.ok (), afterPause setup hook origin delay s) :=
    Prod.ext (h _ _) rfl
  have hf : dueBy (begun.waits + 1) = fun job => decide (job.due ≤ begun.waits + 1) := rfl
  unfold pause
  simp only [run_bind, run_record, run_get, run_set, run_order, run_pure,
    List.partition_eq_filter_filter, begun] at hd hh hf ⊢
  rw [← hf, hd]
  simp only [hh]

@[simp] lemma run_hookAt_nil (setup : Setup) (depth : Nat) (s : Scene) :
    (hookAt setup depth []).run s = (.ok (), s) := by
  cases depth <;> rfl

lemma run_hookAt_cons (setup : Setup) (depth : Nat) (action : Action) (actions : List Action)
    (s : Scene) :
    (hookAt setup (depth + 1) (action :: actions)).run s =
      let done := (perform setup (hookAt setup depth) action).run s
      (hookAt setup (depth + 1) actions).run (done.2.note (.acted done.1)) := by
  show (((do record (.acted (← outcome (perform setup (hookAt setup depth) action)))) >>=
    fun _ => hookAt setup (depth + 1) actions).run s) = _
  simp only [run_bind, run_outcome, run_record]

lemma total_hookAt (setup : Setup) (depth : Nat) : Total (hookAt setup depth) := by
  intro actions s
  cases depth with
  | zero => rfl
  | succ depth =>
    induction actions generalizing s with
    | nil => rfl
    | cons action actions ih =>
      rw [run_hookAt_cons]
      exact ih _

/-- What holds of every failure and of whatever the rest of a run yields holds of what the run
yields. -/
lemma yield_of_bind {α β : Type} {P : Except Failure β → Prop}
    (he : ∀ failure, P (.error failure)) {run : Run α} {next : α → Run β}
    (hn : ∀ a s, P ((next a).run s).1) (s : Scene) : P ((run >>= next).run s).1 := by
  rw [run_bind]
  rcases run.run s with ⟨failure | a, t⟩
  · exact he failure
  · exact hn a t

/-- Only a reset hands out the number of an attempt. -/
lemma handedOut?_perform {action : Action} (h : action ≠ .reset) (setup : Setup) (hook : Hook)
    (s : Scene) : handedOut? (.acted ((perform setup hook action).run s).1) = none := by
  cases action with
  | reset => exact absurd rfl h
  | look => rfl
  | _ =>
    apply yield_of_bind (P := fun r => handedOut? (.acted r) = none) (fun _ => rfl)
    exact fun _ _ => rfl

namespace Law

variable {L M : Law} {may : Int → Prop} {allows : Action → Prop} {setup : Setup} {depth : Nat}

/-- What an action does by itself obeys the law. -/
def Bears (L : Law) (may : Int → Prop) (s : Scene) : Action → Prop
  | .reset => L.Step s (s.onOrder PowerOrder.reset)
  | .markDone _ attempt? => ∀ failure?, L.Step s (s.onOrder (·.markDone failure? attempt?))
  | .cancel => L.Step s (s.onOrder PowerOrder.cancel)
  | .submit _ attempt? => L.holds s → may (attempt?.getD s.order.attempt)
  | .setTask task => L.Step s (s.onOrder ({ · with task }))
  | .setHardware hardware => L.Step s (s.onOrder ({ · with hardware }))
  | .setTiming limit? interval? =>
    L.Step s (s.onOrder fun order =>
      { order with limit := limit?.getD order.limit, interval := interval?.getD order.interval })
  | .setMoment moment => L.Step s { s with moment }
  | .close _ | .executeOnce _ => L.Step s { s with poolOpen := false }
  | _ => True

lemma Bears.of_step {s : Scene} {action : Action} (h : M.Bears may s action)
    (hs : ∀ t, M.Step s t → L.Step s t) (hh : L.holds s → M.holds s) : L.Bears may s action := by
  cases action with
  | markDone _ _ => exact fun failure? => hs _ (h failure?)
  | submit _ _ => exact fun hl => h (hh hl)
  | wait _ | observe _ | refresh _ | execute _ | look => trivial
  | _ => exact hs _ h

/-- Waits obey the law as well, with the submissions that are due. -/
structure Awaits (L : Law) (may : Int → Prop) (allows : Action → Prop) (setup : Setup) : Prop
    extends Serves L may allows where
  due : ∀ depth, L.Hosts allows setup (hookAt setup depth) →
    ∀ s, L.Step s (afterDue setup (hookAt setup depth) s)

/-- Everything that can happen obeys the law where others do what `allows` says and submit for
attempts that satisfy `may`. -/
structure Governs (L : Law) (may : Int → Prop) (allows : Action → Prop) (setup : Setup) : Prop
    extends Awaits L may allows setup where
  bears : ∀ s action, allows action → L.Bears may s action
  executes : ∀ depth target, L.Hosts allows setup (hookAt setup depth) →
    (allows (.execute target) ∨ allows (.executeOnce target)) →
    L.Keeps (execute setup (hookAt setup depth) target)

/-- At some depth the actions of others, the parts of runs and the submissions that are due obey the
law. -/
structure Stage (L : Law) (may : Int → Prop) (allows : Action → Prop) (setup : Setup)
    (depth : Nat) : Prop where
  hosts : L.Hosts allows setup (hookAt setup depth)
  parts : L.Parts may setup (hookAt setup depth)
  due : ∀ s, L.Step s (afterDue setup (hookAt setup depth) s)

/-- Everything that can happen obeys the law, at every depth, if what others do one level deeper
does. -/
structure Reigns (L : Law) (may : Int → Prop) (allows : Action → Prop) (setup : Setup) :
    Prop where
  stage : ∀ depth, L.Hosts allows setup (hookAt setup depth) → L.Stage may allows setup depth
  bears : ∀ s action, allows action → L.Bears may s action
  handed : ∀ s, allows .reset → L.Step s
    ((s.onOrder PowerOrder.reset).note (.acted (.ok (.attempt (s.order.attempt + 1)))))
  executes : ∀ depth target, L.Hosts allows setup (hookAt setup depth) →
    (allows (.execute target) ∨ allows (.executeOnce target)) →
    L.Keeps (execute setup (hookAt setup depth) target)

/-- What an action of others runs at some depth obeys the law. -/
structure Deeds (L : Law) (allows : Action → Prop) (setup : Setup) (depth : Nat) : Prop where
  remarks : L.Remarks
  pauses : ∀ s delay, L.Step s (afterPause setup (hookAt setup depth) .query delay s)
  observes : ∀ attempt?, L.Keeps (observe setup (hookAt setup depth) .query attempt?)
  refreshes : ∀ attempt?, L.Keeps (refresh setup (hookAt setup depth) .query attempt?)
  submits : ∀ s target attempt?, allows (.submit target attempt?) →
    L.Step s ((submit setup (hookAt setup depth) target attempt?).run s).2
  executes : ∀ target, (allows (.execute target) ∨ allows (.executeOnce target)) →
    L.Keeps (execute setup (hookAt setup depth) target)

/-- The actions of others obey the law at every depth, if those one level deeper do, whatever the
one who acts may do besides. -/
structure Suffers (L : Law) (allows : Action → Prop) (setup : Setup) : Prop where
  deeds : ∀ depth, L.Hosts allows setup (hookAt setup depth) → L.Deeds allows setup depth
  bears : ∀ s action, allows action → L.Bears (fun _ => True) s action
  handed : ∀ s, allows .reset → L.Step s
    ((s.onOrder PowerOrder.reset).note (.acted (.ok (.attempt (s.order.attempt + 1)))))

lemma Bears.any {s : Scene} {action : Action} (h : L.Bears may s action) :
    L.Bears (fun _ => True) s action := by
  cases action with
  | submit _ _ => exact fun _ => trivial
  | _ => exact h

lemma Awaits.stage (h : L.Awaits may allows setup)
    (hh : L.Hosts allows setup (hookAt setup depth)) : L.Stage may allows setup depth where
  hosts := hh
  parts := h.parts hh
  due := h.due depth hh

lemma Governs.reigns (h : L.Governs may allows setup) : L.Reigns may allows setup where
  stage _ hh := h.toAwaits.stage hh
  bears := h.bears
  handed s ha := (show L.Step s (s.onOrder PowerOrder.reset) from h.bears s .reset ha).trans
    (h.noted _ _ (fits_of_no_origin rfl))
  executes := h.executes

lemma Parts.step_workedOff {hook : Hook} (h : L.Parts may setup hook) {jobs : List Job}
    (hj : ∀ job ∈ jobs, may job.attempt) (s : Scene) : L.Step s (workedOff setup hook jobs s) :=
  keeps_forM (fun job hm => h.keeps_work (hj job hm) job.target) s

lemma Serves.step_workedOff (h : L.Serves may allows) {hook : Hook}
    (hh : L.Hosts allows setup hook) {jobs : List Job} (hj : ∀ job ∈ jobs, may job.attempt)
    (s : Scene) : L.Step s (workedOff setup hook jobs s) :=
  (h.parts hh).step_workedOff hj s

lemma Parts.step_afterDue {hook : Hook} (h : L.Parts may setup hook)
    (hj : ∀ s, L.holds s → ∀ job ∈ s.pending, may job.attempt)
    (hp : ∀ s waits pending, pending.Sublist s.pending → L.Step s { s with waits, pending })
    (s : Scene) : L.Step s (afterDue setup hook s) := by
  intro hs
  refine ((hp s (s.waits + 1) _ List.filter_sublist).trans
    (h.step_workedOff (fun job hm => ?_) _)) hs
  exact hj s hs job (List.mem_filter.mp hm).1

lemma Serves.awaits (h : L.Serves may allows)
    (hj : ∀ s, L.holds s → ∀ job ∈ s.pending, may job.attempt)
    (hp : ∀ s waits pending, pending.Sublist s.pending → L.Step s { s with waits, pending })
    (setup : Setup) : L.Awaits may allows setup where
  toServes := h
  due _ hh s := (h.parts hh).step_afterDue hj hp s

lemma Stage.step_pause (h : L.Stage may allows setup depth) {origin : Origin} {delay : Json}
    {s : Scene} (hn : L.Step s (s.note (.waited origin delay))) :
    L.Step s (afterPause setup (hookAt setup depth) origin delay s) :=
  (hn.trans (h.due _)).trans (h.hosts.keeps _ (h.hosts.waits _) _)

lemma Awaits.step_pause (h : L.Awaits may allows setup)
    (hh : L.Hosts allows setup (hookAt setup depth)) {origin : Origin} {delay : Json} {s : Scene}
    (hn : L.Step s (s.note (.waited origin delay))) :
    L.Step s (afterPause setup (hookAt setup depth) origin delay s) :=
  (h.stage hh).step_pause hn

lemma Remarks.step_close (h : L.Remarks) (hc : ∀ s, L.Step s { s with poolOpen := false })
    (setup : Setup) (wait : Json) (s : Scene) : L.Step s ((close setup wait).run s).2 := by
  unfold close
  split
  · exact (h s (.shutdown wait) rfl rfl).trans (hc _)
  · exact Step.refl L s

lemma Reigns.suffers (h : L.Reigns may allows setup) : L.Suffers allows setup where
  deeds depth hh := by
    have hstage := h.stage depth hh
    have hparts := hstage.parts
    exact
      { remarks := hparts.remarks
        pauses := fun s delay => hstage.step_pause (hparts.waited s delay)
        observes := hparts.observes
        refreshes := hparts.refreshes
        submits := fun s target attempt? ha hs =>
          hparts.submits s target attempt? (h.bears s _ ha hs) hs
        executes := fun target ha => h.executes depth target hh ha }
  bears s action ha := (h.bears s action ha).any
  handed := h.handed

lemma Suffers.keeps_executeOnce (h : L.Suffers allows setup)
    (hh : L.Hosts allows setup (hookAt setup depth)) {target : PowerState}
    (ha : allows (.executeOnce target)) :
    L.Keeps (executeOnce setup (hookAt setup depth) target) := by
  have hdeeds := h.deeds depth hh
  refine keeps_bind (keeps_outcome (hdeeds.executes target (.inr ha))) (fun outcome => ?_)
  refine keeps_bind (fun s => ?_) (fun _ => keeps_ofExcept _)
  exact hdeeds.remarks.step_close (fun t => h.bears t _ ha) setup _ s

lemma Reigns.keeps_executeOnce (h : L.Reigns may allows setup)
    (hh : L.Hosts allows setup (hookAt setup depth)) {target : PowerState}
    (ha : allows (.executeOnce target)) :
    L.Keeps (executeOnce setup (hookAt setup depth) target) :=
  h.suffers.keeps_executeOnce hh ha

/-- One action obeys the law if it is allowed and those of others during it obey the law. -/
theorem Suffers.keeps_perform (h : L.Suffers allows setup)
    (hh : L.Hosts allows setup (hookAt setup depth)) {action : Action} (ha : allows action) :
    L.Keeps (perform setup (hookAt setup depth) action) := by
  intro s
  have hdeeds := h.deeds depth hh
  have hb := fun s => h.bears s action ha
  cases action with
  | reset => exact hb s
  | markDone spec? attempt? =>
    refine step_bind ?_ (fun failure? t _ => hb t failure?)
    cases spec? with
    | none => exact Step.refl L s
    | some spec => exact keeps_bind (hdeeds.remarks.keeps_ofReport _) (fun _ => keeps_pure _) s
  | cancel => exact hb s
  | wait delay =>
    refine keeps_bind (fun s => ?_) (fun _ => keeps_pure _) s
    rw [run_pause hh.total]
    exact hdeeds.pauses s delay
  | observe attempt? => exact keeps_bind (hdeeds.observes attempt?) (fun _ => keeps_pure _) s
  | submit target attempt? =>
    exact step_bind (hdeeds.submits s target attempt? ha) (fun _ t _ => keeps_pure _ t)
  | refresh attempt? => exact keeps_bind (hdeeds.refreshes attempt?) (fun _ => keeps_pure _) s
  | setTask task => exact hb s
  | setHardware hardware => exact hb s
  | setTiming limit? interval? => exact hb s
  | setMoment moment => exact hb s
  | execute target =>
    exact keeps_bind (hdeeds.executes target (.inl ha)) (fun _ => keeps_pure _) s
  | executeOnce target => exact keeps_bind (h.keeps_executeOnce hh ha) (fun _ => keeps_pure _) s
  | close wait =>
    exact step_bind (hdeeds.remarks.step_close hb setup wait s) (fun _ t _ => keeps_pure _ t)
  | look => exact Step.refl L s

/-- The actions of others obey the law at any depth if only allowed ones occur. -/
theorem Suffers.hosts_hookAt (h : L.Suffers allows setup)
    (hw : ∀ number, ∀ action ∈ setup.duringWait number, allows action) (depth : Nat) :
    L.Hosts allows setup (hookAt setup depth) := by
  induction depth with
  | zero => exact ⟨fun _ _ => rfl, fun _ _ => keeps_pure _, hw⟩
  | succ depth ih =>
    refine ⟨total_hookAt setup (depth + 1), fun actions ha => ?_, hw⟩
    refine keeps_forM (fun action hm s => ?_)
    by_cases hreset : action = .reset
    · subst hreset
      exact h.handed s (ha .reset hm)
    · refine step_bind (keeps_outcome (h.keeps_perform ih (ha action hm)) s)
        (fun outcome t hrun => ?_)
      rw [run_outcome] at hrun
      cases hrun
      exact (h.deeds depth ih).remarks _ _ rfl (handedOut?_perform hreset _ _ _)

lemma Reigns.keeps_perform (h : L.Reigns may allows setup)
    (hh : L.Hosts allows setup (hookAt setup depth)) {action : Action} (ha : allows action) :
    L.Keeps (perform setup (hookAt setup depth) action) :=
  h.suffers.keeps_perform hh ha

lemma Reigns.hosts_hookAt (h : L.Reigns may allows setup)
    (hw : ∀ number, ∀ action ∈ setup.duringWait number, allows action) (depth : Nat) :
    L.Hosts allows setup (hookAt setup depth) :=
  h.suffers.hosts_hookAt hw depth

lemma Governs.hosts_hookAt (h : L.Governs may allows setup)
    (hw : ∀ number, ∀ action ∈ setup.duringWait number, allows action) (depth : Nat) :
    L.Hosts allows setup (hookAt setup depth) :=
  h.reigns.hosts_hookAt hw depth

/-- Every scene that a script reaches by allowed steps is lawful. -/
theorem Reigns.step_of_mem_play (h : L.Reigns may allows setup)
    (hw : ∀ number, ∀ action ∈ setup.duringWait number, allows action) (script : Script)
    {steps : List Action} (ha : ∀ action ∈ steps, allows action) (s : Scene) :
    ∀ r ∈ script.play setup s steps, L.Step s r.2 := by
  induction steps generalizing s with
  | nil => exact fun r hr => nomatch hr
  | cons action steps ih =>
    intro r hr
    have hfirst : L.Step s ((script.step setup action).run s).2 :=
      h.keeps_perform (h.hosts_hookAt hw script.depth) (ha action (List.mem_cons_self ..)) s
    rcases List.mem_cons.mp hr with rfl | hr
    · exact hfirst
    · exact hfirst.trans (ih (fun action hm => ha action (List.mem_cons_of_mem _ hm)) _ r hr)

lemma Governs.step_of_mem_play (h : L.Governs may allows setup)
    (hw : ∀ number, ∀ action ∈ setup.duringWait number, allows action) (script : Script)
    {steps : List Action} (ha : ∀ action ∈ steps, allows action) (s : Scene) :
    ∀ r ∈ script.play setup s steps, L.Step s r.2 :=
  h.reigns.step_of_mem_play hw script ha s

end Law

end ServerPower.Proofs
