import ServerPower.Proofs.Evidence
import ServerPower.Proofs.Loops

/-!
# Failures that escape the checks

Whatever ends the checks of a task with a failure is the answer to a request, an answer that cannot
be read, or a value that does not fit where it is used. So a failure of the change itself escapes
only if it was the answer to a request of the checks.
-/

namespace ServerPower.Proofs
open Run

/-- The failures of a value that does not fit where it is used. -/
def Unfit (failure : Failure) : Prop :=
  failure.kind = .wrongType ∨ failure.kind = .wrongValue

/-- Failures of a change are failures of this library. -/
lemma general_of_powerChange {failure : Failure} (h : failure.isA .powerChange) :
    failure.isA .general := by
  obtain ⟨kind, text⟩ := failure
  unfold Failure.isA at h ⊢
  cases kind with
  | powerChange | powerTimeout => rfl
  | network fault => cases fault <;> cases h
  | _ => cases h

lemma Unfit.not_general {failure : Failure} (h : Unfit failure) : failure.isA .general = false := by
  unfold Failure.isA
  rcases h with h | h
  · rw [h]
    rfl
  · rw [h]
    rfl

lemma Unfit.isA_eq_false {failure : Failure} (h : Unfit failure) :
    failure.isA .powerChange = false := by
  by_contra hp
  rw [Bool.not_eq_false] at hp
  exact Bool.false_ne_true (h.not_general.symm.trans (general_of_powerChange hp))

lemma checkHost_error {host : List Char} {failure : Failure}
    (h : Url.checkHost host = .error failure) : Unfit failure := by
  unfold Url.checkHost at h
  split at h
  · split at h
    · cases h
    · cases h
      exact Or.inr rfl
  · split at h
    · cases h
      exact Or.inr rfl
    · split at h
      · cases h
      · cases h
        exact Or.inr rfl

lemma bracketedHost_error {authority : List Char} {failure : Failure}
    (h : Url.bracketedHost authority = .error failure) : Unfit failure := by
  unfold Url.bracketedHost at h
  dsimp only at h
  split at h
  · cases h
  · cases h
    exact Or.inr rfl
  · split at h
    · cases h
    · cases h
      exact Or.inr rfl

lemma checkAuthority_error {authority : List Char} {failure : Failure}
    (h : Url.checkAuthority authority = .error failure) : Unfit failure := by
  unfold Url.checkAuthority at h
  simp only [bind, Except.bind, throw, throwThe, MonadExceptOf.throw, pure, Except.pure] at h
  split at h
  · cases h
    exact Or.inr rfl
  · split at h
    · cases hb : Url.bracketedHost authority with
      | error other =>
        simp only [hb] at h
        cases h
        exact bracketedHost_error hb
      | ok host =>
        simp only [hb] at h
        cases hc : Url.checkHost host with
        | error other =>
          simp only [hc] at h
          cases h
          exact checkHost_error hc
        | ok _ =>
          simp only [hc] at h
          split at h
          · cases h
            exact Or.inr rfl
          · cases h
    · split at h
      · cases h
        exact Or.inr rfl
      · cases h

lemma parse_error {base s : List Char} {failure : Failure}
    (h : Url.Reference.parse base s = .error failure) : Unfit failure := by
  unfold Url.Reference.parse at h
  simp only [bind, Except.bind, pure, Except.pure] at h
  split at h
  · rename_i hc
    cases h
    exact checkAuthority_error hc
  · cases h

lemma join_error {base uri : List Char} {failure : Failure}
    (h : Url.join base uri = .error failure) : Unfit failure := by
  unfold Url.join at h
  simp only [bind, Except.bind, pure, Except.pure] at h
  split at h
  · cases h
  · split at h
    · cases h
    · cases hb : Url.Reference.parse [] base with
      | error other =>
        simp only [hb] at h
        cases h
        exact parse_error hb
      | ok b =>
        simp only [hb] at h
        cases hr : Url.Reference.parse b.scheme uri with
        | error other =>
          simp only [hr] at h
          cases h
          exact parse_error hr
        | ok r =>
          simp only [hr] at h
          repeat' split at h
          all_goals cases h

lemma request_error {client : Client} {method : String} {uri body : Json} {failure : Failure}
    (h : client.request method uri body = .error failure) : Unfit failure := by
  unfold Client.request at h
  cases hu : client.url uri with
  | ok url =>
    simp only [hu, bind, Except.bind, pure, Except.pure] at h
    cases h
  | error other =>
    simp only [hu, bind, Except.bind] at h
    cases h
    unfold Client.url at hu
    simp only [bind, Except.bind, throw, throwThe, MonadExceptOf.throw, pure, Except.pure] at hu
    split at hu
    · split at hu
      · rename_i hj
        cases hu
        exact join_error hj
      · cases hu
    · split at hu
      · cases hu
        exact Or.inl rfl
      · cases hu

lemma powerUri_error {hardware : Hardware} {failure : Failure}
    (h : hardware.powerUri = .error failure) : Unfit failure := by
  unfold Hardware.powerUri at h
  split at h
  · cases h
  · cases h
    exact Or.inl rfl
  · cases h
    exact Or.inl rfl

lemma raised_of_build {strict : Bool} {kind : FailureKind} {values : Template.Values}
    {failure : Failure} (h : Failure.build strict kind values = pure failure) :
    raised strict kind values = failure := by
  rw [raised, h]
  rfl

lemma kind_raised_decoding (strict : Bool) (uri : Json) (reason : String) :
    (raised strict .decoding [("uri", uri), ("error", .text reason)]).kind = .decoding := by
  rw [raised_of_build (build_decoding strict uri reason)]

/-- A description of hardware that cannot be read is a failure of decoding. -/
lemma readHardware_error {strict : Bool} {uri : Json} {body : String} {failure : Failure}
    (h : (Client.readHardware strict uri body).outcome = .error failure) :
    failure.kind = .decoding := by
  unfold Client.readHardware Client.decode at h
  cases hp : (Payload.value (.text body)).read with
  | error other =>
    simp only [hp, Client.unreadable] at h
    rw [Report.bind_of_error (raise_outcome _ _ _)] at h
    cases h
    exact kind_raised_decoding _ _ _
  | ok v =>
    simp only [hp] at h
    rw [Report.bind_of_ok rfl] at h
    cases hu : Hardware.ofJson v with
    | error other =>
      simp only [hu, Client.unreadable, raise_outcome] at h
      cases h
      exact kind_raised_decoding _ _ _
    | ok latest =>
      simp only [hu] at h
      cases h

/-- A report of a task that cannot be read is a failure of decoding. -/
lemma readTask_error {strict : Bool} {uri : Json} {body : String} {task : RemoteTask}
    {failure : Failure} (h : (Client.readTask strict uri body task).outcome = .error failure) :
    failure.kind = .decoding := by
  unfold Client.readTask Client.decode at h
  cases hp : (Payload.value (.text body)).read with
  | error other =>
    simp only [hp, Client.unreadable] at h
    rw [Report.bind_of_error (raise_outcome _ _ _)] at h
    cases h
    exact kind_raised_decoding _ _ _
  | ok v =>
    simp only [hp] at h
    rw [Report.bind_of_ok rfl] at h
    cases hu : task.update v with
    | error other =>
      simp only [hu, Client.unreadable, raise_outcome] at h
      cases h
      exact kind_raised_decoding _ _ _
    | ok latest =>
      simp only [hu] at h
      cases h

lemma joinMessages_error {index : Nat} {messages : List Json} {failure : Failure}
    (h : RemoteTask.joinMessages index messages = .error failure) : Unfit failure := by
  induction messages generalizing index with
  | nil => cases h
  | cons message messages ih =>
    cases message with
    | text s =>
      simp only [RemoteTask.joinMessages, bind, Except.bind] at h
      split at h
      · rename_i hrest
        cases h
        exact ih hrest
      · cases h
    | _ =>
      cases h
      exact Or.inl rfl

lemma errorSummary_error {task : RemoteTask} {failure : Failure}
    (h : task.errorSummary = .error failure) : Unfit failure := by
  unfold RemoteTask.errorSummary at h
  split at h
  · cases h
  · exact joinMessages_error h

lemma allowsCheck_error {order : PowerOrder} {checks : Nat} {failure : Failure}
    (h : order.allowsCheck checks = .error failure) : Unfit failure := by
  unfold PowerOrder.allowsCheck at h
  split at h
  · cases h
  · cases h
  · cases h
    exact Or.inl rfl

/-- A failure was the answer to a request of a call. -/
def Told (origin : Origin) (failure : Failure) (entries : List Entry) : Prop :=
  ∃ e ∈ entries, ∃ request, e.event = .answered origin request (.error failure)

section Escapes

variable {setup : Setup} {hook : Hook} {origin : Origin} {target : PowerState} {a : Int}
  {s t u : Scene} {failure : Failure}

lemma Told.after (h : Advances s u) (ht : Since u.journal (Told origin failure) t) :
    Since s.journal (Told origin failure) t := by
  obtain ⟨first, hs, -⟩ := h.journal
  obtain ⟨new, hu, e, he, htold⟩ := ht
  exact ⟨new ++ first, by rw [hu, hs, List.append_assoc], e, List.mem_append_left _ he, htold⟩

lemma told_of_call_eq_error (hh : advancing.Hosts (fun _ => True) setup hook) {client : Client}
    {method : String} {uri body : Json}
    (h : (call setup hook origin client method uri body).run s = (.error failure, t)) :
    Unfit failure ∨ Since s.journal (Told origin failure) t := by
  rw [run_call hh.total] at h
  cases hr : client.request method uri body with
  | error other =>
    rw [hr] at h
    cases h
    exact Or.inl (request_error hr)
  | ok request =>
    rw [hr] at h
    dsimp only at h
    obtain ⟨ho, rfl⟩ := Prod.mk.inj h
    let report := readAnswer setup.strict method uri request (s.supply.next request).1
    let read := logged report.records (inFlight hook request (s.note (.sent origin request)))
    have hread : advancing.Step s read :=
      ((advancing_note s (.sent origin request)).trans
        (advancing_serves.step_inFlight hh request _)).trans (advancing_serves.step_logged _ _)
    obtain ⟨new, hj, -⟩ := (hread trivial).2.journal
    refine Or.inr ⟨⟨.answered origin request report.outcome, read.order, read.phase⟩ :: new, ?_,
      _, List.mem_cons_self .., request, by rw [ho]⟩
    rw [Scene.journal_note, hj, List.cons_append]

lemma told_of_refresh_eq_error (hh : advancing.Hosts (fun _ => True) setup hook)
    {attempt? : Option Int}
    (h : (refresh setup hook origin attempt?).run s = (.error failure, t))
    (hp : failure.isA .powerChange) : Since s.journal (Told origin failure) t := by
  rw [run_refresh] at h
  dsimp only at h
  split at h
  · split at h
    · rename_i hc
      cases h
      rcases told_of_call_eq_error hh hc with hu | ht
      · exact absurd (hu.isA_eq_false.symm.trans hp) (by decide)
      · exact ht
    · split at h
      · rename_i hread
        cases h
        rw [Failure.isA, readTask_error hread] at hp
        exact absurd hp (by decide)
      · cases h
  · cases h

lemma told_of_check_eq_error (hh : advancing.Hosts (fun _ => True) setup hook)
    (h : (check setup hook target a).run s = (.error failure, t))
    (hp : failure.isA .powerChange) : Since s.journal (Told (.polling a) failure) t := by
  rw [run_check] at h
  split at h
  · rename_i hr
    cases h
    exact told_of_refresh_eq_error hh hr hp
  · cases h
  · split at h
    · cases h
    · split at h
      · split at h
        · rename_i hsummary
          cases h
          exact absurd ((errorSummary_error hsummary).isA_eq_false.symm.trans hp) (by decide)
        · cases h
      · cases h

lemma told_of_follow_eq_error {depth fuel checks : Nat}
    (h : (follow setup (hookAt setup depth) target a fuel checks).run s = (.error failure, t))
    (hp : failure.isA .powerChange) : Since s.journal (Told (.polling a) failure) t := by
  have hh := advancing_hookAt setup depth
  obtain ⟨n, u, hrounds, hends⟩ := ends_of_follow hh.total setup target a fuel checks s
  rw [h] at hends
  rcases hends with ⟨-, hends⟩ | ⟨-, hcut⟩
  · cases hends with
    | limitless going refused =>
      exact absurd ((allowsCheck_error refused).isA_eq_false.symm.trans hp) (by decide)
    | broken going allowed checked =>
      have hstage := (advancing_awaits setup).stage hh
      exact Told.after ((hstage.step_rounds trivial hrounds) trivial).2
        (told_of_check_eq_error hh checked hp)
  · cases hcut

end Escapes

end ServerPower.Proofs
