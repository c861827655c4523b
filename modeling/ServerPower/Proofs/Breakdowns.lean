import ServerPower.Proofs.FailedTask

/-!
# Where executions break off

Where the manager's answers fail only as the network does, every failure of an execution is one of
this library, unless its loop breaks off: it stumbles over a limit that is no number, over the
address of a task that cannot be requested, or over the messages of a failed task. Whoever acts
meanwhile does not change that.
-/

namespace ServerPower.Proofs
open Run

/-- The answers fail only as the network does. -/
def OnlyNetwork (supply : Supply) : Prop :=
  ∀ answer ∈ supply.answers, ∀ spec, answer.content = .fault spec → spec.kind.isNetwork

/-- A loop that made `checks` checks stumbles over what it looks at next. -/
inductive Stumbles (setup : Setup) (hook : Hook) (a : Int) (checks : Nat) (s : Scene)
    (failure : Failure) : Prop
  | limit (limitless : s.order.allowsCheck checks = .error failure)
  | address (allowed : s.order.allowsCheck checks = .ok true) (followed : s.order.task.exists?)
      (refused : s.order.hardware.client.request "GET" (.text s.order.task.uri) .null =
        .error failure)
  | words {latest : RemoteTask} {t : Scene} (allowed : s.order.allowsCheck checks = .ok true)
      (refreshed : (refresh setup hook (.polling a) (some a)).run s = (.ok (some latest), t))
      (failed : latest.isFailed) (wordless : latest.errorSummary = .error failure)

/-- The loop of an execution from `s` comes to where it stumbles. -/
structure BreaksOff (setup : Setup) (hook : Hook) (target : PowerState) (s : Scene)
    (failure : Failure) (checks : Nat) (u : Scene) : Prop where
  rounds : Rounds setup hook target (s.order.attempt + 1) 0 (loopBegun setup hook target s) checks u
  bound : checks ≤ setup.checkBound
  going : u.order.isOver = false
  stumbles : Stumbles setup hook (s.order.attempt + 1) checks u failure

/-- The supply of answers fails only as the network does, and goes on to. -/
def networked : Law where
  holds s := OnlyNetwork s.supply
  leads _ _ := True
  refl _ := trivial
  trans _ _ := trivial

section Kinds

variable {failure : Failure} {kind : FailureKind}

lemma general_of_kind (h : failure.kind = kind) (hk : kind.isA .general) :
    failure.isA .general := by
  unfold Failure.isA
  rw [h]
  exact hk

lemma not_general_of_network (h : kind.isNetwork) : kind.isA .general = false := by
  cases kind with
  | network fault => exact FailureKind.isA_general_network fault
  | _ => cases h

end Kinds

section Calls

variable {strict : Bool} {method : String} {uri body : Json} {failure : Failure} {s t : Scene}
  {setup : Setup} {hook : Hook} {origin : Origin} {client : Client}

lemma OnlyNetwork.next {supply : Supply} (h : OnlyNetwork supply) (request : Request) :
    ∀ spec, (supply.next request).1.content = .fault spec → spec.kind.isNetwork := by
  rcases next_eq_or_mem request supply with he | hm
  · intro spec hs
    rw [he] at hs
    cases hs
    rfl
  · exact h _ hm

lemma receive_fault_of_network (h : failure.kind.isNetwork) (url : String) {other : Failure}
    (ho : (Client.receive strict method uri url (.fault failure)).outcome = .error other) :
    other.kind = .transport := by
  unfold Client.receive at ho
  simp only [Reply.body, h, if_true, raise_outcome] at ho
  cases ho
  rw [raised_of_build (build_transport _ _ _ _)]

lemma receive_answer_error {url : String} {status : Int} {reason text : String}
    (h : (Client.receive strict method uri url (.answer status reason text)).outcome =
      .error failure) : failure.kind = .transport := by
  unfold Client.receive at h
  cases hb : Reply.body url (.answer status reason text) with
  | ok _ =>
    simp only [hb] at h
    cases h
  | error refused =>
    have hkind : refused.kind.isNetwork := by
      unfold Reply.body at hb
      dsimp only at hb
      split at hb
      · cases hb
        rfl
      · split at hb
        · cases hb
          rfl
        · cases hb
    simp only [hb, hkind, if_true, raise_outcome] at h
    cases h
    rw [raised_of_build (build_transport _ _ _ _)]

/-- An answer that fails only as the network does is a failure of the transport. -/
lemma readAnswer_error {answer : Answer} {request : Request}
    (hn : ∀ spec, answer.content = .fault spec → spec.kind.isNetwork)
    (h : (readAnswer strict method uri request answer).outcome = .error failure) :
    failure.kind = .transport := by
  obtain ⟨during, content⟩ := answer
  unfold readAnswer Answer.reply at h
  cases content with
  | reply status reason text =>
    rw [Report.bind_of_ok rfl] at h
    exact receive_answer_error h
  | fault spec =>
    have hkind := hn spec rfl
    have hbuild : (spec.build strict).outcome = .ok ⟨spec.kind, spec.message.display⟩ := by
      unfold FailureSpec.build
      rw [not_general_of_network hkind]
      rfl
    have hfault : (do return Reply.fault (← spec.build strict) : Report Reply).outcome =
        .ok (.fault ⟨spec.kind, spec.message.display⟩) := by
      rw [Report.bind_of_ok hbuild]
      rfl
    dsimp only at h
    rw [Report.bind_of_ok hfault] at h
    exact receive_fault_of_network hkind request.url h

/-- A call fails because it cannot be made, or with a failure of the transport. -/
lemma transport_of_call_error (hh : Total hook) (hn : OnlyNetwork s.supply)
    (h : (call setup hook origin client method uri body).run s = (.error failure, t)) :
    client.request method uri body = .error failure ∨ failure.kind = .transport := by
  rw [run_call hh] at h
  cases hr : client.request method uri body with
  | error other =>
    rw [hr] at h
    cases h
    exact .inl rfl
  | ok request =>
    rw [hr] at h
    exact .inr (readAnswer_error (hn.next request) (Prod.mk.inj h).1)

/-- A call fails because it cannot be made, or with a failure of this library. -/
lemma call_error (hh : Total hook) (hn : OnlyNetwork s.supply)
    (h : (call setup hook origin client method uri body).run s = (.error failure, t)) :
    client.request method uri body = .error failure ∨ failure.isA .general :=
  (transport_of_call_error hh hn h).imp_right fun hkind => general_of_kind hkind rfl

/-- A query fails because it cannot be made, or with a failure of this library. -/
lemma observe_error (hh : Total hook) (hn : OnlyNetwork s.supply) {attempt? : Option Int}
    (h : (observe setup hook origin attempt?).run s = (.error failure, t)) :
    (s.order.hardware.hardware.uri.isGiven ∧
        s.order.hardware.client.request "GET" s.order.hardware.hardware.uri .null =
          .error failure) ∨ failure.isA .general := by
  rw [run_observe] at h
  dsimp only at h
  split at h
  · rename_i hgiven
    split at h
    · rename_i hc
      cases h
      exact (call_error hh hn hc).imp (fun hr => ⟨hgiven, hr⟩) id
    · split at h
      · rename_i hread
        cases h
        exact .inr (general_of_kind (readHardware_error hread) rfl)
      · cases h
  · cases h
    right
    rw [raised_of_build (build_missingHardware _ _)]
    rfl

lemma refresh_error (hh : Total hook) (hn : OnlyNetwork s.supply) {attempt? : Option Int}
    (h : (refresh setup hook origin attempt?).run s = (.error failure, t)) :
    (s.order.task.exists? ∧ s.order.hardware.client.request "GET" (.text s.order.task.uri) .null =
        .error failure) ∨ failure.isA .general := by
  rw [run_refresh] at h
  dsimp only at h
  split at h
  · rename_i hx
    split at h
    · rename_i hc
      cases h
      exact (call_error hh hn hc).imp (fun hr => ⟨hx, hr⟩) id
    · split at h
      · rename_i hread
        cases h
        exact .inr (general_of_kind (readTask_error hread) rfl)
      · cases h
  · cases h

/-- A query that cannot be made fails. -/
lemma observe_of_refused (hh : Total hook) (hg : s.order.hardware.hardware.uri.isGiven)
    (hr : s.order.hardware.client.request "GET" s.order.hardware.hardware.uri .null =
      .error failure) (attempt? : Option Int) :
    (observe setup hook origin attempt?).run s = (.error failure, s) := by
  rw [run_observe]
  dsimp only
  rw [if_pos hg, run_call hh, hr]

end Calls

section Loops

variable {setup : Setup} {hook : Hook} {target : PowerState} {a : Int} {checks fuel depth n : Nat}
  {s t u : Scene} {failure : Failure}

lemma networked_step (ha : t.supply.answers ⊆ s.supply.answers) : networked.Step s t :=
  fun hs => ⟨fun answer hm => hs answer (ha hm), trivial⟩

lemma networked_still (hs : t.supply = s.supply) : networked.Step s t :=
  networked_step (by rw [hs]; exact List.Subset.refl _)

lemma networked_serves : networked.Serves (fun _ => True) (fun _ => True) where
  noted _ _ _ := networked_still rfl
  supplied s request := networked_step (answers_next_subset request s.supply)
  counted _ := networked_still rfl
  forgot _ := networked_still rfl
  hardware _ _ _ _ := networked_still rfl
  progress _ _ _ := networked_still rfl
  ended _ _ _ _ := networked_still rfl
  task _ _ _ _ := networked_still rfl
  during _ _ _ _ _ := trivial

lemma networked_awaits (setup : Setup) :
    networked.Awaits (fun _ => True) (fun _ => True) setup :=
  networked_serves.awaits (fun _ _ _ _ => trivial) (fun _ _ _ _ => networked_still rfl) setup

lemma networked_launches : networked.Launches where
  begun _ := networked_still rfl
  entered _ _ := networked_still rfl
  queued _ _ _ := networked_still rfl

theorem networked_governs (setup : Setup) :
    networked.Governs (fun _ => True) (fun _ => True) setup where
  toAwaits := networked_awaits setup
  bears s action _ := by
    cases action with
    | markDone _ _ => exact fun _ => networked_still rfl
    | submit _ _ => exact fun _ => trivial
    | wait _ | observe _ | refresh _ | execute _ | look => trivial
    | _ => exact networked_still rfl
  executes _ target hh _ := networked_launches.keeps_execute (networked_awaits setup) hh target

lemma networked_stage (setup : Setup) (depth : Nat) :
    networked.Stage (fun _ => True) (fun _ => True) setup depth :=
  (networked_awaits setup).stage ((networked_governs setup).hosts_hookAt (fun _ _ _ => trivial) _)

lemma Stumbles.unfit (h : Stumbles setup hook a checks s failure) : Unfit failure := by
  cases h with
  | limit limitless => exact allowsCheck_error limitless
  | address _ _ refused => exact request_error refused
  | words _ _ _ wordless => exact errorSummary_error wordless

/-- A check fails with a failure of this library, or stumbles. -/
lemma check_error (hh : Total hook) (hn : OnlyNetwork s.supply)
    (allowed : s.order.allowsCheck checks = .ok true)
    (h : (check setup hook target a).run s = (.error failure, t)) :
    failure.isA .general ∨ Stumbles setup hook a checks s failure := by
  rw [run_check] at h
  split at h
  · rename_i hr
    cases h
    rcases refresh_error hh hn hr with ⟨hx, hq⟩ | hg
    · exact .inr (.address allowed hx hq)
    · exact .inl hg
  · cases h
  · rename_i hr
    split at h
    · cases h
    · split at h
      · rename_i hfailed
        split at h
        · rename_i hwords
          cases h
          exact .inr (.words allowed hr hfailed hwords)
        · cases h
      · cases h

/-- A loop that stumbles fails with what it stumbles over. -/
lemma Stumbles.follow (hh : Total hook) (going : s.order.isOver = false)
    (h : Stumbles setup hook a checks s failure) (target : PowerState) (fuel : Nat) :
    ((follow setup hook target a (fuel + 1) checks).run s).1 = .error failure := by
  cases h with
  | limit limitless =>
    rw [run_follow_succ hh, going, limitless]
    rfl
  | address allowed followed refused =>
    rw [run_follow_of_allowed hh going allowed, run_check, run_refresh]
    dsimp only
    rw [if_pos followed, run_call hh, refused]
  | words allowed refreshed failed wordless =>
    rw [run_follow_of_allowed hh going allowed, run_check_of_failed target refreshed failed,
      wordless]

/-- A loop that fails with no failure of this library goes round to where it stumbles. -/
lemma stumbles_of_follow (hn : OnlyNetwork s.supply)
    (hr : ((follow setup (hookAt setup depth) target a fuel checks).run s).1 = .error failure)
    (hg : failure.isA .general = false) :
    ∃ n u, Rounds setup (hookAt setup depth) target a checks s n u ∧ n < checks + fuel ∧
      u.order.isOver = false ∧ Stumbles setup (hookAt setup depth) a n u failure := by
  have htotal := total_hookAt setup depth
  obtain ⟨n, u, hrounds, hends⟩ := ends_of_follow htotal setup target a fuel checks s
  rcases hl : (follow setup (hookAt setup depth) target a fuel checks).run s with ⟨outcome, v⟩
  rw [hl] at hr hends
  cases hr
  rcases hends with ⟨hless, hends⟩ | ⟨-, hcut⟩
  · refine ⟨n, u, hrounds, hless, ?_⟩
    cases hends with
    | limitless going refused => exact ⟨going, .limit refused⟩
    | broken going allowed checked =>
      have hu := (((networked_stage setup depth).step_rounds trivial hrounds) hn).1
      refine ⟨going, (check_error htotal hu allowed checked).resolve_left ?_⟩
      rw [hg]
      exact Bool.false_ne_true
  · cases hcut

lemma BreaksOff.loop_eq (hh : Total hook) (h : BreaksOff setup hook target s failure checks u) :
    (loop setup hook target s).1 = .error failure := by
  obtain ⟨k, hk, hfollow⟩ := h.rounds.follow_eq hh
  have hbound := h.bound
  obtain ⟨fuel, hfuel⟩ : ∃ fuel, setup.checkBound + 1 = fuel + 1 + k :=
    ⟨setup.checkBound - k, by omega⟩
  rw [loop, hfuel, hfollow]
  exact h.stumbles.follow hh h.going target fuel

/-- What a loop concludes with is a result or a failure of this library. -/
lemma conclude_error {name : Json} {seen : Glance} {u v : Scene}
    (h : (conclude setup target name checks seen).run u = (.error failure, v)) :
    failure.isA .general := by
  have hfinishes := finishes_of_conclude h
  generalize v.phase = phase at hfinishes
  cases hfinishes with
  | failed failed => exact general_of_powerChange (submissionFailed_isA _ _)
  | overdue unfailed undone uncancelled strict => rfl

/-- An execution fails with no failure of this library just when its loop breaks off with that
failure. -/
theorem execute_error_iff (ht : target ∈ PowerState.targets) (hopen : s.poolOpen)
    (hn : OnlyNetwork s.supply) :
    ((execute setup (hookAt setup depth) target).run s).1 = .error failure ∧
        failure.isA .general = false ↔
      ∃ checks u, BreaksOff setup (hookAt setup depth) target s failure checks u := by
  have hstage := networked_stage setup depth
  have hbegun := hstage.step_toLoop networked_launches target s
  rw [run_execute_of_loop ht hopen]
  dsimp only
  constructor
  · rintro ⟨hr, hg⟩
    rcases hl : loop setup (hookAt setup depth) target s with ⟨other | ⟨checks, seen⟩, u⟩
    · rw [hl] at hr
      cases hr
      obtain ⟨n, u, hrounds, hbound, hgoing, hstumbles⟩ :=
        stumbles_of_follow (hbegun hn).1 (congrArg Prod.fst hl) hg
      exact ⟨n, u, hrounds, by omega, hgoing, hstumbles⟩
    · rw [hl] at hr
      dsimp only at hr
      split at hr
      · cases hr
      · rename_i hc
        cases hr
        rw [conclude_error hc] at hg
        cases hg
  · rintro ⟨checks, u, hbreaks⟩
    refine ⟨?_, hbreaks.stumbles.unfit.not_general⟩
    rw [← Prod.eta (loop setup (hookAt setup depth) target s),
      hbreaks.loop_eq (total_hookAt setup depth)]

end Loops

end ServerPower.Proofs
