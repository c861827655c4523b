import ServerPower.Proofs.Evidence

/-!
# The own submission of an attempt

The submission that is run for an undisturbed attempt leaves it level up to its last step. That step
ends the attempt without a failure, since the hardware was found in the target state, or notes the
task that the manager made, or gives the attempt up for what hindered the submission.
-/

namespace ServerPower.Proofs
open Run

/-- No check of attempt `a` asked for its task. -/
def Unpolled (a : Int) (entries : List Entry) : Prop :=
  ∀ e ∈ entries, ∀ request, e.event ≠ .sent (.polling a) request

/-- What hindered a submission for attempt `a`, where an order stands so and these entries were
noted by then. -/
inductive Hindrance (strict : Bool) (a : Int) (target : PowerState) (order : PowerOrder)
    (entries : List Entry) : Failure → Prop
  | noAddress (missing : ¬ order.hardware.hardware.uri.isGiven) :
      Hindrance strict a target order entries
        (raised strict .missingHardware [("name", order.hardware.hardware.name)])
  | noQuery {cause : Failure}
      (unmade : order.hardware.client.request "GET" order.hardware.hardware.uri .null =
        .error cause) : Hindrance strict a target order entries cause
  /-- The query or the request for the change failed. -/
  | unanswered {told : Entry} {number : Nat} {request : Request} {cause : Failure}
      (noted : told ∈ entries)
      (failed : told.event = .answered (.submission number a) request (.error cause)) :
      Hindrance strict a target order entries cause
  | unread {told : Entry} {number : Nat} {request : Request} {uri : Json} {body : String}
      {cause : Failure} (noted : told ∈ entries) (method : request.method = "GET")
      (answered : told.event = .answered (.submission number a) request (.ok body))
      (unread : (Client.readHardware strict uri body).outcome = .error cause) :
      Hindrance strict a target order entries cause
  | noPowerAddress {cause : Failure} (unfit : order.hardware.hardware.powerUri = .error cause) :
      Hindrance strict a target order entries cause
  | noChange {uri : String} {cause : Failure} (address : order.hardware.hardware.powerUri = .ok uri)
      (unmade : order.hardware.client.request "PUT" (.text uri) (changeBody target) =
        .error cause) : Hindrance strict a target order entries cause
  | rejected {told : Entry} {number : Nat} {request : Request} {uri : Json} {body : String}
      {cause : Failure} (noted : told ∈ entries) (method : request.method = "PUT")
      (answered : told.event = .answered (.submission number a) request (.ok body))
      (unread : (Client.readTask strict uri body {}).outcome = .error cause) :
      Hindrance strict a target order entries cause

/-- Calls of the submission for attempt `a` lead from one scene to the other. They left the attempt
level, and these entries were noted meanwhile. -/
structure Trail (a : Int) (s t : Scene) (new : List Entry) : Prop where
  held : (quiet a).holds t
  level : Level s.order t.order
  journal : t.journal = new ++ s.journal
  unpolled : Unpolled a new

/-- The last step of a submission for attempt `a`. -/
inductive Ends (strict : Bool) (a : Int) (target : PowerState) (s : Scene) (entries : List Entry) :
    Scene → Prop
  | hindered {message : String} {cause : Failure}
      (hindrance : Hindrance strict a target s.order entries cause) :
      Ends strict a target s entries (gaveUp a message cause s)
  | found (found : FoundAs strict a target entries) (unasked : Unasked a entries) :
      Ends strict a target s entries (s.onOrder (·.markDone none (some a)))
  | accepted {task : RemoteTask} (accepted : AcceptedAt strict a task.uri entries) :
      Ends strict a target s entries (s.onOrder (·.noteTask a task))

section Trails

variable {strict : Bool} {a : Int} {target : PowerState} {more new : List Entry} {s t u : Scene}
  {order : PowerOrder} {cause : Failure}

lemma Foreign.unpolled (h : Foreign a new) : Unpolled a new := by
  intro e he request hs
  have hw : Within (· ≠ a) (.polling a) := h e he _ (by rw [hs]; rfl)
  exact absurd rfl hw

lemma unpolled_nil (a : Int) : Unpolled a [] := fun _ he => nomatch he

lemma Unpolled.append (hm : Unpolled a more) (hn : Unpolled a new) : Unpolled a (more ++ new) := by
  intro e he
  rcases List.mem_append.mp he with h | h
  · exact hm e h
  · exact hn e h

lemma unpolled_singleton {e : Entry} (h : ∀ request, e.event ≠ .sent (.polling a) request) :
    Unpolled a [e] := by
  intro e' he
  rw [List.mem_singleton.mp he]
  exact h

lemma Hindrance.append_left (h : Hindrance strict a target order more cause) :
    Hindrance strict a target order (more ++ new) cause := by
  cases h with
  | noAddress missing => exact .noAddress missing
  | noQuery unmade => exact .noQuery unmade
  | unanswered noted failed => exact .unanswered (List.mem_append_left _ noted) failed
  | unread noted method answered unread =>
    exact .unread (List.mem_append_left _ noted) method answered unread
  | noPowerAddress unfit => exact .noPowerAddress unfit
  | noChange address unmade => exact .noChange address unmade
  | rejected noted method answered unread =>
    exact .rejected (List.mem_append_left _ noted) method answered unread

lemma FoundAs.append_left {state : PowerState} (h : FoundAs strict a state more) :
    FoundAs strict a state (more ++ new) :=
  h.mono (List.subset_append_left more new)

lemma AcceptedAt.append_left {address : String} (h : AcceptedAt strict a address more) :
    AcceptedAt strict a address (more ++ new) :=
  h.mono (List.subset_append_left more new)

lemma Trail.refl (hs : (quiet a).holds s) : Trail a s s [] :=
  ⟨hs, Level.refl _, rfl, unpolled_nil a⟩

lemma Trail.trans (h1 : Trail a s t new) (h2 : Trail a t u more) : Trail a s u (more ++ new) := by
  refine ⟨h2.held, h1.level.trans h2.level, ?_, h2.unpolled.append h1.unpolled⟩
  rw [h2.journal, h1.journal, List.append_assoc]

/-- What others do, and records, leave a trail of foreign entries. -/
lemma trail_of_step (hs : (quiet a).holds s) (h : (quiet a).Step s t) :
    ∃ new, Trail a s t new ∧ Foreign a new := by
  obtain ⟨ht, haside⟩ := h hs
  obtain ⟨new, hj, hf⟩ := haside.journal
  exact ⟨new, ⟨ht, haside.level, hj, hf.unpolled⟩, hf⟩

lemma Called.trail {number : Nat} {request : Request} {outcome : Except Failure String}
    (hc : Called a (.submission number a) request outcome s t) :
    ∃ new, Trail a s t new ∧ (request.method ≠ "PUT" → Unasked a new) ∧
      ∃ told ∈ new, told.event = .answered (.submission number a) request outcome := by
  obtain ⟨told, meanwhile, he, hf, hj⟩ := hc.journal
  let asked : Entry := ⟨.sent (.submission number a) request, s.order, s.phase⟩
  refine ⟨[told] ++ (meanwhile ++ [asked]), ⟨⟨hc.spared, hc.unqueued⟩, hc.level, ?_, ?_⟩,
    fun hm => ?_, told, List.mem_cons_self .., he⟩
  · simp [hj, asked]
  · have htold : Unpolled a [told] :=
      unpolled_singleton (fun r hs => by rw [he] at hs; cases hs)
    exact htold.append (hf.unpolled.append (unpolled_singleton (by simp [asked])))
  · have htold : Unasked a [told] :=
      unasked_singleton (fun n r hs => by rw [he] at hs; cases hs)
    have hasked : Unasked a [asked] := unasked_singleton (fun n r hs => by cases hs; exact hm)
    exact htold.append (hf.unasked.append hasked)

end Trails

section Own

variable {a : Int} {setup : Setup} {hook : Hook} {s : Scene}

/-- The query of the submission finds the hardware in some state, or it hinders the submission. -/
lemma own_observe (hh : (quiet a).Hosts (Spares a) setup hook) (hs : (quiet a).holds s)
    (number : Nat) (target : PowerState) :
    let r := (observe setup hook (.submission number a) (some a)).run s
    ∃ new, Trail a s r.2 new ∧ Unasked a new ∧
      match r.1 with
      | .ok state => FoundAs setup.strict a state new
      | .error cause => Hindrance setup.strict a target r.2.order new cause := by
  have hq := (quiet_serves a).toAdmits
  dsimp only
  rw [run_observe]
  dsimp only
  split
  · rcases quiet_call hh hs (.submission number a) s.order.hardware.client "GET"
      s.order.hardware.hardware.uri .null with
      ⟨failure, hr, hc⟩ | ⟨request, outcome, t, hr, hc, hcalled⟩
    · rw [hc]
      exact ⟨[], Trail.refl hs, fun _ he => (by cases he), .noQuery hr⟩
    · rw [hc]
      have hmethod : request.method = "GET" := (Client.of_request_eq_ok hr).1
      obtain ⟨new, htrail, hasked, told, hnoted, htold⟩ := hcalled.trail
      have hunasked : Unasked a new := hasked (by rw [hmethod]; decide)
      cases outcome with
      | error failure => exact ⟨new, htrail, hunasked, .unanswered hnoted htold⟩
      | ok body =>
        let found := Client.readHardware setup.strict s.order.hardware.hardware.uri body
        dsimp only
        cases hf : (Client.readHardware setup.strict s.order.hardware.hardware.uri
          body).outcome with
        | error failure =>
          obtain ⟨more, hmore, hforeign⟩ :=
            trail_of_step htrail.held (hq.step_logged found.records t)
          exact ⟨more ++ new, htrail.trans hmore, hforeign.unasked.append hunasked,
            .unread (List.mem_append_right _ hnoted) hmethod htold hf⟩
        | ok latest =>
          have hstep := ((hq.step_logged found.records t).trans
            (hq.step_logged latest.classify.records _)).trans
            ((quiet_admits a).hardware _ (some a) ⟨latest, s.order.hardware.client⟩
              (classified latest))
          obtain ⟨more, hmore, hforeign⟩ := trail_of_step htrail.held hstep
          exact ⟨more ++ new, htrail.trans hmore, hforeign.unasked.append hunasked, told,
            List.mem_append_right _ hnoted, number, request, body, _, latest, htold, hmethod, hf,
            rfl⟩
  · rename_i hmissing
    let refusal : Report Unit := Failure.raise setup.strict .missingHardware
      [("name", s.order.hardware.hardware.name)]
    let t := logged refusal.records (s.onOrder ({ · with observed := .unknown }))
    have ht : t.order.hardware = s.order.hardware := by
      rw [logged_order, Scene.order_onOrder]
    obtain ⟨new, htrail, hforeign⟩ :=
      trail_of_step hs ((hq.forgot s).trans (hq.step_logged refusal.records _))
    have hhindrance : Hindrance setup.strict a target t.order new
        (raised setup.strict .missingHardware [("name", t.order.hardware.hardware.name)]) :=
      .noAddress (by rwa [ht])
    rw [ht] at hhindrance
    exact ⟨new, htrail, hforeign.unasked, hhindrance⟩

/-- The request for the change is accepted with a task, or it hinders the submission, which is then
given up at once or by the worker. -/
lemma own_requestChange (hh : (quiet a).Hosts (Spares a) setup hook) (hs : (quiet a).holds s)
    (number : Nat) (target : PowerState) :
    let r := (requestChange setup hook (.submission number a) target a).run s
    ∃ t new, Trail a s t new ∧
      ((∃ cause, Hindrance setup.strict a target t.order new cause ∧
        (r = (.error cause, t) ∨ ∃ message, r = (.ok (), gaveUp a message cause t))) ∨
      ∃ task, AcceptedAt setup.strict a task.uri new ∧
        r = (.ok (), t.onOrder (·.noteTask a task))) := by
  have hq := (quiet_serves a).toAdmits
  obtain ⟨first, hbegun, -⟩ :=
    trail_of_step hs (hq.step_log s (announcement target s.order.hardware.hardware))
  dsimp only
  rw [run_requestChange]
  dsimp only
  cases hu : s.order.hardware.hardware.powerUri with
  | error failure => exact ⟨_, first, hbegun, .inl ⟨failure, .noPowerAddress hu, .inl rfl⟩⟩
  | ok uri =>
    dsimp only
    rcases quiet_call hh hbegun.held (.submission number a) s.order.hardware.client "PUT"
      (.text uri) (changeBody target) with
      ⟨failure, hr, hc⟩ | ⟨request, outcome, t, hr, hc, hcalled⟩
    · rw [hc]
      refine ⟨_, first, hbegun, .inl ⟨failure, .noChange hu hr, ?_⟩⟩
      dsimp only
      split
      · exact .inr ⟨_, rfl⟩
      · exact .inl rfl
    · rw [hc]
      have hmethod : request.method = "PUT" := (Client.of_request_eq_ok hr).1
      obtain ⟨second, hcall, -, told, hnoted, htold⟩ := hcalled.trail
      have htrail := hbegun.trans hcall
      have hnoted : told ∈ second ++ first := List.mem_append_left _ hnoted
      cases outcome with
      | error failure =>
        refine ⟨t, _, htrail, .inl ⟨failure, .unanswered hnoted htold, ?_⟩⟩
        dsimp only
        split
        · exact .inr ⟨_, rfl⟩
        · exact .inl rfl
      | ok body =>
        let read := Client.readTask setup.strict (.text uri) body {}
        obtain ⟨third, hread, -⟩ := trail_of_step htrail.held (hq.step_logged read.records t)
        have htrail := htrail.trans hread
        have hnoted : told ∈ third ++ (second ++ first) := List.mem_append_right _ hnoted
        dsimp only
        cases hf : (Client.readTask setup.strict (.text uri) body {}).outcome with
        | error failure =>
          refine ⟨_, _, htrail, .inl ⟨failure, .rejected hnoted hmethod htold hf, ?_⟩⟩
          dsimp only
          split
          · exact .inr ⟨_, rfl⟩
          · exact .inl rfl
        | ok task =>
          refine ⟨_, _, htrail, .inr ⟨task, ?_, rfl⟩⟩
          exact ⟨told, hnoted, number, request, body, _, task, htold, hmethod, hf, rfl⟩

/-- The submission of an undisturbed attempt leaves it level until its last step. -/
theorem own_work (hh : (quiet a).Hosts (Spares a) setup hook) (hs : (quiet a).holds s)
    (target : PowerState) :
    ∃ t new, Trail a s t new ∧
      Ends setup.strict a target t new ((work setup hook target a).run s).2 := by
  have hq := (quiet_serves a).toAdmits
  obtain ⟨first, hcounted, hf⟩ := trail_of_step hs (hq.counted s)
  obtain ⟨second, hobserved, hunasked, hshown⟩ :=
    own_observe hh hcounted.held s.submissions target
  have htrail := hcounted.trans hobserved
  rw [run_work, run_submit]
  dsimp only [Option.getD_some]
  rcases ho : (observe setup hook (.submission s.submissions a) (some a)).run
    { s with submissions := s.submissions + 1 } with ⟨cause | state, t⟩
  · rw [ho] at htrail hshown
    have hhindrance : Hindrance setup.strict a target t.order second cause := hshown
    have hends : ∀ message, Ends setup.strict a target t (second ++ first)
        (gaveUp a message cause t) :=
      fun message => .hindered hhindrance.append_left
    refine ⟨t, _, htrail, ?_⟩
    by_cases hg : cause.isA .general
    · simp only [hg, if_true]
      exact hends _
    · simp only [hg, Bool.false_eq_true, if_false]
      exact hends _
  · rw [ho] at htrail hshown
    have hfound : FoundAs setup.strict a state second := hshown
    by_cases hstate : state = target
    · subst hstate
      simp only [if_true]
      obtain ⟨third, hlogged, hforeign⟩ := trail_of_step htrail.held
        (hq.step_log t ⟨.info, .ok ("Desired power state already set -> " ++ state.wire)⟩)
      refine ⟨_, _, htrail.trans hlogged, .found ?_ ?_⟩
      · obtain ⟨e, he, hfound⟩ := hfound
        exact ⟨e, List.mem_append_right _ (List.mem_append_left _ he), hfound⟩
      · exact hforeign.unasked.append (hunasked.append hf.unasked)
    · simp only [hstate, if_false]
      obtain ⟨u, third, hrequested, hends⟩ :=
        own_requestChange hh htrail.held s.submissions target
      refine ⟨u, _, htrail.trans hrequested, ?_⟩
      rcases hends with ⟨cause, hhindrance, hr | ⟨message, hr⟩⟩ | ⟨task, haccepted, hr⟩
      · rw [hr]
        exact .hindered hhindrance.append_left
      · rw [hr]
        exact .hindered hhindrance.append_left
      · rw [hr]
        exact .accepted haccepted.append_left

end Own

end ServerPower.Proofs
