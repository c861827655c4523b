import ServerPower.Proofs.Polling

/-!
# Bounded polling

With a whole number as its limit, the loop of an execution makes no more checks than that, whatever
others do at waits and in flight, as long as they leave the timing alone. Each check asks once at
most, and unless it fails one wait of the given length follows it; it is not begun where the attempt
is over. The time is out only after as many checks as the limit allows.
-/

namespace ServerPower.Proofs
open Run

/-- Others leave the limit and the interval of the order alone. -/
def Untimed : Action → Prop
  | .setTiming _ _ => False
  | _ => True

/-- The order has this limit and this interval, and others leave them alone. -/
structure Paced (limit delay : Json) (s : Scene) : Prop where
  limit : s.order.limit = limit
  delay : s.order.interval = delay
  answers : Confined Untimed s.supply

def pacing (limit delay : Json) : Law where
  holds := Paced limit delay
  leads _ _ := True
  refl _ := trivial
  trans _ _ := trivial

/-- An execution from `s` made at most `m` checks, each followed by a wait unless it failed. -/
inductive PolledAtMost (setup : Setup) (depth : Nat) (target : PowerState) (m : Nat) (s : Scene) :
    Except Failure PowerResult → Scene → Prop
  /-- It went round `n` times and then saw the attempt over or the checks used up. -/
  | finished {n : Nat} {u t : Scene} {trace : List Entry} {result : Except Failure PowerResult}
      (rounds : Rounds setup (hookAt setup depth) target (s.order.attempt + 1) 0
        (loopBegun setup (hookAt setup depth) target s) n u)
      (bound : n ≤ m) (ended : u.order.isOver ∨ n = m)
      (traced : RoundsTrace (s.order.attempt + 1) (List.replicate n s.order.interval) trace)
      (leaves : Leaves (s.order.attempt + 1) trace s t)
      (finishes : Finishes setup target
        (loopBegun setup (hookAt setup depth) target s).order.hardware.hardware.name n
        (glanceAt u.order) result t.phase)
      (expired : t.phase = .timedOut → n = m) :
      PolledAtMost setup depth target m s result t
  /-- It went round `n` times, and the check after that failed. -/
  | broken {n : Nat} {u t : Scene} {trace last : List Entry} {failure : Failure}
      (rounds : Rounds setup (hookAt setup depth) target (s.order.attempt + 1) 0
        (loopBegun setup (hookAt setup depth) target s) n u)
      (bound : n < m) (going : u.order.isOver = false)
      (traced : RoundsTrace (s.order.attempt + 1) (List.replicate n s.order.interval) trace)
      (checked : CheckTrace (s.order.attempt + 1) last)
      (leaves : Leaves (s.order.attempt + 1) (trace ++ last) s t)
      (failed : ((check setup (hookAt setup depth) target (s.order.attempt + 1)).run u).1 =
        .error failure) :
      PolledAtMost setup depth target m s (.error failure) t

section Steps

variable {setup : Setup} {depth : Nat} {limit delay : Json} {s t : Scene}

lemma pacing_step (hl : t.order.limit = s.order.limit) (hd : t.order.interval = s.order.interval)
    (ha : t.supply.answers ⊆ s.supply.answers) : (pacing limit delay).Step s t := by
  intro hs
  have ht : Paced limit delay t :=
    ⟨hl.trans hs.limit, hd.trans hs.delay, fun answer hm => hs.answers answer (ha hm)⟩
  exact ⟨ht, trivial⟩

lemma pacing_onOrder {f : PowerOrder → PowerOrder} (hl : (f s.order).limit = s.order.limit)
    (hd : (f s.order).interval = s.order.interval) : (pacing limit delay).Step s (s.onOrder f) :=
  pacing_step hl hd (List.Subset.refl _)

lemma pacing_still (ho : t.order = s.order) (hs : t.supply = s.supply) :
    (pacing limit delay).Step s t := by
  apply pacing_step
  · rw [ho]
  · rw [ho]
  · rw [hs]
    exact List.Subset.refl _

lemma pacing_markDone (s : Scene) (failure? : Option Failure) (attempt? : Option Int) :
    (pacing limit delay).Step s (s.onOrder (·.markDone failure? attempt?)) :=
  pacing_onOrder (PowerOrder.limit_markDone _ _ _) (PowerOrder.interval_markDone _ _ _)

lemma pacing_serves (limit delay : Json) :
    (pacing limit delay).Serves (fun _ => True) Untimed where
  noted _ _ _ := pacing_still rfl rfl
  supplied s request := pacing_step rfl rfl (answers_next_subset request s.supply)
  counted _ := pacing_still rfl rfl
  forgot _ := pacing_onOrder rfl rfl
  hardware _ _ _ _ := pacing_onOrder (by simp) (by simp)
  progress _ _ _ := pacing_onOrder (by simp) (by simp)
  ended s failure? attempt _ := pacing_markDone s failure? (some attempt)
  task _ _ _ _ := pacing_onOrder (by simp) (by simp)
  during _ request hs := hs.answers.during request

lemma pacing_awaits (limit delay : Json) (setup : Setup) :
    (pacing limit delay).Awaits (fun _ => True) Untimed setup :=
  (pacing_serves limit delay).awaits (fun _ _ _ _ => trivial)
    (fun _ _ _ _ => pacing_still rfl rfl) setup

lemma pacing_launches (limit delay : Json) : (pacing limit delay).Launches where
  begun _ := pacing_onOrder rfl rfl
  entered _ _ := pacing_still rfl rfl
  queued _ _ _ := pacing_still rfl rfl

theorem pacing_governs (limit delay : Json) (setup : Setup) :
    (pacing limit delay).Governs (fun _ => True) Untimed setup where
  toAwaits := pacing_awaits limit delay setup
  bears s action ha := by
    cases action with
    | setTiming _ _ => exact ha.elim
    | markDone _ attempt? => exact fun failure? => pacing_markDone s failure? attempt?
    | submit _ _ => exact fun _ => trivial
    | reset | cancel | setTask _ | setHardware _ => exact pacing_onOrder rfl rfl
    | setMoment _ | close _ | executeOnce _ => exact pacing_still rfl rfl
    | wait _ | observe _ | refresh _ | execute _ | look => trivial
  executes _ target hh _ :=
    (pacing_launches limit delay).keeps_execute (pacing_awaits limit delay setup) hh target

end Steps

section Loops

variable {setup : Setup} {depth : Nat} {target : PowerState} {a m : Int} {delay : Json}
  {n checks : Nat} {s t u : Scene} {result : Except Failure PowerResult} {trace : List Entry}

lemma allowsCheck_of_paced (h : Paced (.int m) delay s) (checks : Nat) :
    s.order.allowsCheck checks = .ok (decide (checks < m.toNat)) := by
  rw [PowerOrder.allowsCheck_int h.limit]
  have hiff : (checks : Int) < m ↔ checks < m.toNat := by omega
  simp only [hiff]

/-- Under a limit that stays the loop goes round only so often, and waits as long each time. -/
lemma polls_of_rounds
    (hstage : (pacing (.int m) delay).Stage (fun _ => True) Untimed setup depth)
    (hs : Paced (.int m) delay s)
    (hr : Rounds setup (hookAt setup depth) target a checks s n u) :
    Paced (.int m) delay u ∧ n ≤ max checks m.toNat ∧ ∃ k trace, n = checks + k ∧
      RoundsTrace a (List.replicate k delay) trace ∧ Polls a trace s u := by
  induction hr with
  | here checks s =>
    exact ⟨hs, Nat.le_max_left _ _, 0, [], rfl, .here,
      fun h => ⟨h, Leaves.of_journal_eq a rfl⟩⟩
  | @round checks n s t u going allowed checked rest ih =>
    have hless : checks < m.toNat := by
      rw [allowsCheck_of_paced hs] at allowed
      simpa using allowed
    have hchecked : (pacing (.int m) delay).Step s t := by
      have hstep := hstage.parts.step_check a trivial going target
      rwa [checked] at hstep
    have ht : Paced (.int m) delay t := (hchecked hs).1
    have hpaused := hstage.step_pause (hstage.parts.paused t a t.order.interval trivial)
    obtain ⟨hu, hbound, k, trace, hk, htraced, hpolls⟩ := ih (hpaused ht).1
    obtain ⟨check, hcheck, hpolled⟩ := checkTrace_of_check setup depth target a going
    rw [checked] at hpolled
    have hwait := polls_of_pause setup depth a t.order.interval t
    refine ⟨hu, by omega, k + 1, _, by omega, ?_, hpolled.trans (hwait.trans hpolls)⟩
    rw [ht.delay]
    exact .round hcheck rfl htraced

/-- Where the loop came out after `n` rounds, the time is out only if the limit allows no more. -/
lemma polledAtMost_of_comesOut (hu : Paced (.int m) delay u) (hbound : m.toNat ≤ setup.checkBound)
    (hrounds : Rounds setup (hookAt setup depth) target (s.order.attempt + 1) 0
      (loopBegun setup (hookAt setup depth) target s) n u) (hn : n ≤ m.toNat)
    (htraced : RoundsTrace (s.order.attempt + 1) (List.replicate n s.order.interval) trace)
    (hnow : s.order.attempt + 1 ≤ u.order.attempt)
    (hleaves : Leaves (s.order.attempt + 1) trace s u)
    (hcomes : ComesOut setup (hookAt setup depth) target s n u result t) :
    PolledAtMost setup depth target m.toNat s result t := by
  let a := s.order.attempt + 1
  have hallows := allowsCheck_of_paced hu n
  cases hcomes with
  | looked ended concluded =>
    have hended : u.order.isOver ∨ n = m.toNat := by
      rcases ended with hover | hused | hcut
      · exact .inl hover
      · rw [hallows] at hused
        have hnot : ¬ n < m.toNat := by simpa using hused
        exact .inr (by omega)
      · exact .inr (by omega)
    have hfinishes := finishes_of_conclude concluded
    have hrest : Leaves a [] u t :=
      ((elsewhere_launches a).step_concluded (elsewhere_remarks a) concluded hnow).2
    have htrace : Leaves a trace s t := List.append_nil trace ▸ hleaves.trans hrest
    refine .finished hrounds hn hended htraced htrace hfinishes (fun hphase => ?_)
    apply hended.resolve_left
    rw [hphase] at hfinishes
    rw [hfinishes.isOver_eq_false]
    exact Bool.false_ne_true
  | limitless _ refused =>
    rw [hallows] at refused
    cases refused
  | broken comes checked =>
    have hless : n < m.toNat := by
      have hallowed := comes.allowed
      rw [hallows] at hallowed
      simpa using hallowed
    obtain ⟨last, hlast, hpolled⟩ := checkTrace_of_check setup depth target a comes.going
    rw [checked] at hpolled
    obtain ⟨hstill, hbroken⟩ := hpolled hnow
    have hrest := ((elsewhere_launches a).step_fallen _ hstill).2
    have htrace := hleaves.trans (hbroken.trans hrest)
    rw [List.append_nil] at htrace
    exact .broken hrounds hless comes.going htraced hlast htrace (by rw [checked])

end Loops

/-- Whatever others do at waits and in flight, as long as they leave the timing alone, an execution
under the limit `m` makes no more than `m` checks, none if `m` is negative. Each check is begun
where the attempt is not over, sends one request at most and, unless it fails, is followed by one
wait of the interval. The execution ends with the failure of a check, or because it saw the attempt
over, or after `m` checks with their waits; only then the time is out, and the failure that says so
tells their number. An execution that is refused polls nothing. The limit must be one that the bound
of the script covers (`Script.le_checkBound`). -/
theorem polling_bounded {setup : Setup} {depth : Nat} {target : PowerState} {m : Int} {s t : Scene}
    {result : Except Failure PowerResult} (hlimit : s.order.limit = .int m)
    (hbound : m.toNat ≤ setup.checkBound)
    (hwaits : ∀ number, ∀ action ∈ setup.duringWait number, Untimed action)
    (hanswers : ∀ answer ∈ s.supply.answers, ∀ action ∈ answer.during, Untimed action)
    (hr : (execute setup (hookAt setup depth) target).run s = (result, t)) :
    (target ∈ PowerState.targets ∧ s.poolOpen →
      PolledAtMost setup depth target m.toNat s result t) ∧
    (¬ (target ∈ PowerState.targets ∧ s.poolOpen) → Leaves (s.order.attempt + 1) [] s t ∧
      ∃ failure, result = .error failure ∧
        (failure.kind = .invalidParameter ∨ failure.kind = .runtime)) := by
  refine ⟨fun ⟨ht, hopen⟩ => ?_, fun hrefused => ?_⟩
  swap
  · obtain ⟨hjournal, hfailed⟩ := refused_of_execute hrefused hr
    exact ⟨Leaves.of_journal_eq _ hjournal, hfailed⟩
  let a := s.order.attempt + 1
  let begun := loopBegun setup (hookAt setup depth) target s
  have hpacing := pacing_governs (.int m) s.order.interval setup
  have hstage := hpacing.toAwaits.stage (hpacing.hosts_hookAt hwaits depth)
  have htoLoop := hstage.step_toLoop (pacing_launches (.int m) s.order.interval) target s
  have hbegun : Paced (.int m) s.order.interval begun := (htoLoop ⟨hlimit, rfl, hanswers⟩).1
  obtain ⟨n, u, hrounds, hcomes⟩ := comesOut_of_execute (total_hookAt setup depth) ht hopen hr
  obtain ⟨hu, hn, k, trace, hk, htraced, hpolls⟩ := polls_of_rounds hstage hbegun hrounds
  have hk : k = n := by omega
  subst hk
  -- The attempt begins before anything is noted for it.
  have hfirst : Leaves a [] s (attemptBegun s) := Leaves.of_journal_eq a rfl
  have hcourse : Polls a trace (attemptBegun s) u :=
    Polls.trans (elsewhere_loopBegun setup depth target s) hpolls
  obtain ⟨hnow, hsecond⟩ := hcourse (Int.le_refl _)
  exact polledAtMost_of_comesOut hu hbound hrounds (by omega) htraced hnow
    (hfirst.trans hsecond) hcomes

/-- During the first wait of an execution someone cancels it and executes another change, and during
the fifth one someone marks that one done and begins yet another attempt. -/
def restless : Setup :=
  { calm with
    duringWait := fun number =>
      if number = 1 then [.cancel, .execute .off]
      else if number = 5 then [.markDone none none, .reset]
      else [] }

/-- Nobody runs a submission, and the manager answers nothing. -/
def idleBlade : Scene :=
  { bladeScene [] with moment := .never }

lemma timedOut_restless :
    let r := (execute restless (hookAt restless 1) .on).run idleBlade
    r.1 = .ok .timedOut ∧ r.2.phase = .timedOut ∧ waitCount r.2 = 6 := by
  decide +kernel

/-- Three of the six waits are its own. -/
theorem polling_bounded_restless :
    let r := (execute restless (hookAt restless 1) .on).run idleBlade
    idleBlade.order.limit = .int 3 ∧ r.1 = .ok .timedOut ∧ waitCount r.2 = 6 ∧
      ∃ trace, RoundsTrace 1 (List.replicate 3 (.int 10)) trace ∧ Leaves 1 trace idleBlade r.2 := by
  obtain ⟨hresult, hphase, hwaits⟩ := timedOut_restless
  refine ⟨rfl, hresult, hwaits, ?_⟩
  have hothers : ∀ number, ∀ action ∈ restless.duringWait number, Untimed action := by
    intro number action ha
    simp only [restless] at ha
    split at ha
    · simp only [List.mem_cons, List.not_mem_nil, or_false] at ha
      rcases ha with rfl | rfl <;> trivial
    · split at ha
      · simp only [List.mem_cons, List.not_mem_nil, or_false] at ha
        rcases ha with rfl | rfl <;> trivial
      · cases ha
  have hanswers : Confined Untimed idleBlade.supply := by
    intro answer ha
    cases ha
  rcases hr : (execute restless (hookAt restless 1) .on).run idleBlade with ⟨result, t⟩
  rw [hr] at hresult hphase
  have ht : PowerState.on ∈ PowerState.targets := by decide
  have hpolled := (polling_bounded (m := 3) rfl (by decide) hothers hanswers hr).1 ⟨ht, rfl⟩
  cases hpolled with
  | finished _ _ _ traced leaves _ expired =>
    have hn := expired hphase
    subst hn
    exact ⟨_, traced, leaves⟩
  | broken => cases hresult

end ServerPower.Proofs
