import ServerPower.Main
import ServerPower.Proofs.EitherWay

/-!
# Texts that never degrade

As long as the manager's answers fail only as the network does, every failure of the program has its
own text: no record tells of a template that could not be filled in, strict settings change nothing
of what comes of the client, of the power of the hardware or of the tool, and a failure that
explains another one ends with its text as it is.
-/

namespace ServerPower.Proofs
open Run CommandLine

/-- The text of the failure ends with these words. -/
def Quotes (failure : Failure) (words : String) : Prop :=
  words.toList <:+ failure.text.toList

/-- A failure that explains another one quotes it. -/
structure Verbatim (W : Sources) (failure : Failure) : Prop where
  transport : failure.kind = .transport → ∃ url cause, W.Refuses url cause ∧
    Quotes failure cause.text
  decoding : failure.kind = .decoding → ∃ cause, W.Garbles cause ∧ Quotes failure cause.text
  powerChange : failure.kind = .powerChange →
    (∃ cause, Explained W cause ∧ Quotes failure cause.text) ∨
      ∃ task reason, W.Reports task ∧ task.isFailed ∧ task.errorSummary = .ok reason ∧
        Quotes failure reason

/-- What settings and a script can bring, and the failures that others hand over. -/
def sourcesOf (settings : Settings) (script : Script) (handed : Failure → Prop)
    (hnetwork : OnlyNetwork script.supply)
    (hhanded : ∀ action ∈ script.actions, Hands handed action) : Sources where
  answers := script.supply.answers
  foreign failure := handed failure ∨ Unreadable settings failure
  network := hnetwork
  during answer hm action ha :=
    (hhanded action (List.mem_append_left _ (List.mem_flatMap.mpr ⟨answer, hm, ha⟩))).mono
      fun _ h => .inl h

/-- Whatever is done with these sources is the same for all to see in either settings, tells of no
misfit, and fails with failures that quote what they explain. -/
structure Undegraded (W : Sources) (handed : Failure → Prop) (settings settings' : Settings)
    (script : Script) : Prop where
  /-- A template that cannot be filled in is never passed over. -/
  misfit : ∀ strict template values failure, Template.render template values = .error failure →
    ∃ r ∈ (Failure.explain strict template .null values).records, TellsOfMisfit r
  create : ∀ address token version verify timeout, Phrased (Explained W) fun strict =>
    Client.create strict address token version verify timeout
  client : Client.ofSettings settings' = Client.ofSettings settings ∧
    (∀ r ∈ (Client.ofSettings settings).records, ¬ TellsOfMisfit r) ∧
    ∀ failure, (Client.ofSettings settings).outcome = .error failure → Explained W failure
  decode : ∀ uri payload,
    Phrased (fun failure => ∃ cause, payload.read = .error cause ∧
      failure = decodingFailed uri cause) fun strict => Client.decode strict uri payload
  /-- A call that fails could not be made, or explains the fault that its request was met with. -/
  exchange : ∀ (client : Client) method uri body strict,
    let exchanged := client.exchange false method uri body script.supply
    client.exchange strict method uri body script.supply = exchanged ∧ Whole W exchanged.1 ∧
      ∀ failure, exchanged.1.outcome = .error failure →
        client.request method uri body = .error failure ∨
          ∃ request cause, client.request method uri body = .ok request ∧
            (sentBack (script.supply.next request).1).body request.url = .error cause ∧
            failure = transportFailed method uri cause
  lookUp : ∀ (client : Client) uri strict,
    client.lookUp strict uri script.supply = client.lookUp false uri script.supply ∧
      Whole W (client.lookUp false uri script.supply).1
  powerState : ∀ hardware : ManagedHardware,
    hardware.powerState settings' script = hardware.powerState settings script ∧
      Whole W (hardware.powerState settings script)
  setPowerState : ∀ (hardware : ManagedHardware) target limit interval,
    hardware.setPowerState settings' script target limit interval =
        hardware.setPowerState settings script target limit interval ∧
      Whole W (hardware.setPowerState settings script target limit interval)
  /-- After every step of a script whatever is on record is explained. -/
  play : ∀ order steps failOnTimeout ownPool, order.failure? = none →
    (∀ action ∈ steps, Hands W.foreign action) →
    let setup := script.setup settings failOnTimeout ownPool order steps
    let setup' := script.setup settings' failOnTimeout ownPool order steps
    script.play setup' (script.scene order) steps = script.play setup (script.scene order) steps ∧
      ∀ r ∈ script.play setup (script.scene order) steps,
        Clear W r.2 ∧ Comes W (fun _ => True) r.1
  /-- Neither the settings nor the command line may mention how strict the settings are. -/
  tool : ∀ places argv, SameBut .strictTemplates settings settings' →
    (∀ invocation, Invocation.ofArguments places argv = .ok invocation →
      Unmentioned .strictTemplates (withOptions settings invocation.given)) →
    let ended := CommandLine.run places argv settings script
    CommandLine.run places argv settings' script = ended ∧
      (∀ event ∈ ended.2, Clean W event) ∧
      ∀ failure, ended.1 = .failed failure →
        prepare places argv settings = .error (.failed failure) ∨ Explained W failure
  /-- Only failures that others hand over may have other texts. -/
  verbatim : ∀ failure, Explained W failure → handed failure ∨ Verbatim W failure
  /-- The failure of a change explains what is on record of the attempt. -/
  recorded : ∀ (setup : Setup) depth target s t failure, Clear W s →
    HandsInWaits W setup.duringWait →
    (execute setup (hookAt setup depth) target).run s = (.error failure, t) →
    failure.kind = .powerChange →
    ∃ cause, t.order.failure? = some cause ∧ Explained W cause ∧
      failure = submissionFailed target cause
  /-- A fault of the network, within the failure of the transport, within that of the change. -/
  refused : ∀ setup depth target s request cause, Clear W s → target ∈ PowerState.targets →
    s.poolOpen → s.moment = .inline → s.order.hardware.hardware.uri.isGiven →
    s.order.hardware.client.request "GET" s.order.hardware.hardware.uri .null = .ok request →
    (s.supply.next request).1.during = [] →
    (sentBack (s.supply.next request).1).body request.url = .error cause →
    ((execute setup (hookAt setup depth) target).run s).1 = .error (changeFailed target
      (transportFailed "GET" s.order.hardware.hardware.uri cause).text)

section Words

variable {W : Sources} {failure : Failure}

lemma quotes_append (kind : FailureKind) (start words : String) :
    Quotes ⟨kind, start ++ words⟩ words := by
  unfold Quotes
  rw [String.toList_append]
  exact List.suffix_append ..

/-- Only failures of this library explain others. -/
lemma verbatim_of_not_general (h : failure.isA .general = false) : Verbatim W failure := by
  have hkind : ∀ kind : FailureKind, kind.isA .general → failure.kind ≠ kind :=
    fun kind hk he => absurd (general_of_kind he hk) (by simp [h])
  exact ⟨fun he => absurd he (hkind _ rfl), fun he => absurd he (hkind _ rfl),
    fun he => absurd he (hkind _ rfl)⟩

/-- Whatever explains another failure quotes it, at every level, unless others hand it over. -/
lemma Explained.verbatim (h : Explained W failure) {handed : Failure → Prop}
    (hforeign : W.foreign failure → handed failure ∨ failure.isA .general = false) :
    handed failure ∨ Verbatim W failure := by
  cases h with
  | transport method uri refused =>
    exact .inr ⟨fun _ => ⟨_, _, refused, quotes_append ..⟩, (fun h => nomatch h),
      (fun h => nomatch h)⟩
  | decoding uri garbled =>
    exact .inr ⟨(fun h => nomatch h), fun _ => ⟨_, garbled, quotes_append ..⟩,
      (fun h => nomatch h)⟩
  | change target other explained =>
    exact .inr ⟨(fun h => nomatch h), (fun h => nomatch h),
      fun _ => .inl ⟨_, explained, quotes_append ..⟩⟩
  | failedTask target reported failed words =>
    exact .inr ⟨(fun h => nomatch h), (fun h => nomatch h),
      fun _ => .inr ⟨_, _, reported, failed, words, quotes_append ..⟩⟩
  | unfit h => exact .inr (verbatim_of_not_general h.not_general)
  | foreign h => exact (hforeign h).imp_right verbatim_of_not_general
  | _ => exact .inr ⟨(fun h => nomatch h), (fun h => nomatch h), (fun h => nomatch h)⟩

end Words

section Executions

variable {W : Sources} {setup : Setup} {depth : Nat} {target : PowerState} {s t : Scene}
  {failure : Failure}

/-- An execution that fails with the failure of a change explains what is on record then, if that
is not such a failure itself. -/
lemma recorded_of_change (hw : HandsInWaits W setup.duringWait) (hs : Clear W s)
    (hr : (execute setup (hookAt setup depth) target).run s = (.error failure, t))
    (hk : failure.kind = .powerChange) :
    ∃ cause, t.order.failure? = some cause ∧ Explained W cause ∧
      failure = submissionFailed target cause := by
  have hchange : failure.isA .powerChange := by
    rw [Failure.isA, hk]
    rfl
  have hclear : Clear W t := by
    have hrun := faithful_execute (faithful_hookAt hw depth) hw target
    have hsame : (execute setup (hookAt setup depth) target).run s = _ := hrun.same hs setup.strict
    have hleft := hrun.clear hs
    rwa [← hsame, hr] at hleft
  by_cases ht : target ∈ PowerState.targets
  swap
  · rw [run_execute_unsupported ht] at hr
    cases hr
    cases hk
  by_cases hopen : s.poolOpen
  swap
  · rw [run_execute ht] at hr
    simp only [hopen] at hr
    cases hr
    cases hk
  obtain ⟨u, hp, htu⟩ := polled_of_execute ht hopen hr
  have hleft : t.order = u.order ∧ t.journal = u.journal := by
    rcases htu with rfl | ⟨-, rfl⟩ <;> exact ⟨rfl, rfl⟩
  rw [run_poll] at hp
  split at hp
  · -- The loop fails with what a call told only if that explains a fault of the network.
    rename_i hf
    cases hp
    obtain ⟨new, hj, e, he, request, hanswered⟩ := told_of_follow_eq_error hf hchange
    have hclean := hclear.journal e (by rw [hleft.2, hj]; exact List.mem_append_left _ he)
    rw [hanswered] at hclean
    obtain ⟨uri, cause, -, rfl⟩ := hclean
    cases hk
  · rename_i checks seen v hf
    obtain rfl : seen = glanceAt v.order := seen_of_follow (total_hookAt setup depth) hf
    have horder : t.order = v.order := hleft.1.trans (left_of_conclude hp).1
    have hfinishes := finishes_of_conclude hp
    generalize u.phase = phase at hfinishes
    cases hfinishes with
    | failed failed =>
      have hrecorded : t.order.failure? = _ := horder ▸ failed
      exact ⟨_, hrecorded, hclear.failure? _ hrecorded, rfl⟩
    | overdue unfailed undone uncancelled strict => cases hk

/-- A call during which nobody acts fails with what explains the fault that its request is met
with, and leaves the order alone. -/
lemma call_of_refused {client : Client} {method : String} {uri body : Json} {request : Request}
    {cause : Failure} (hr : client.request method uri body = .ok request)
    (hd : (s.supply.next request).1.during = [])
    (hn : ∀ spec, (s.supply.next request).1.content = .fault spec → spec.kind.isNetwork)
    (hb : (sentBack (s.supply.next request).1).body request.url = .error cause)
    (origin : Origin) :
    ∃ u, (call setup (hookAt setup depth) origin client method uri body).run s =
      (.error (transportFailed method uri cause), u) ∧ u.order = s.order := by
  have hread : readAnswer setup.strict method uri request (s.supply.next request).1 =
      Report.fail (transportFailed method uri cause) := by
    rw [readAnswer_eq hn, hb]
  have hleft : (inFlight (hookAt setup depth) request (s.note (.sent origin request))).order =
      s.order := by
    simp only [inFlight, Scene.supply_note, hd, run_hookAt_nil, Scene.order_note]
  rw [run_call (total_hookAt setup depth), hr]
  dsimp only [Scene.supply_note]
  rw [hread]
  exact ⟨_, rfl, hleft⟩

/-- Where an attempt is given up while its submission is handed over, the execution fails with the
failure of the change that explains why. -/
lemma execute_of_given_up (ht : target ∈ PowerState.targets) (hopen : s.poolOpen)
    (hm : s.moment = .inline) {u : Scene} {cause : Failure}
    (hu : ((work setup (hookAt setup depth) target (s.order.attempt + 1)).run
      (attemptBegun s)).2 = u)
    (hover : u.order.isOver) (hf : u.order.failure? = some cause) :
    ((execute setup (hookAt setup depth) target).run s).1 =
      .error (submissionFailed target cause) := by
  have hhanded : handedOver setup (hookAt setup depth) target (s.order.attempt + 1)
      (attemptBegun s) = u := by
    have hinline : (attemptBegun s).moment = .inline := hm
    rw [handedOver, hinline]
    exact hu
  have hseen : loop setup (hookAt setup depth) target s =
      (.ok (0, glanceAt u.order), (u.enter .submitting).enter .polling) := by
    rw [loop, loopBegun, hhanded, run_follow_succ (total_hookAt setup depth)]
    exact if_pos hover
  rw [run_execute_of_loop ht hopen, hseen, hhanded]
  dsimp only
  rw [conclude_of_failure hf]

/-- Where a submission is run while it is handed over and its first request is refused, the
execution fails with the failure of the change, which explains the failure of the transport, which
explains the fault. -/
lemma execute_of_refused (ht : target ∈ PowerState.targets) (hopen : s.poolOpen)
    (hm : s.moment = .inline) (hg : s.order.hardware.hardware.uri.isGiven) {request : Request}
    (hr : s.order.hardware.client.request "GET" s.order.hardware.hardware.uri .null = .ok request)
    (hd : (s.supply.next request).1.during = [])
    (hn : ∀ spec, (s.supply.next request).1.content = .fault spec → spec.kind.isNetwork)
    {cause : Failure} (hb : (sentBack (s.supply.next request).1).body request.url = .error cause) :
    ((execute setup (hookAt setup depth) target).run s).1 = .error (changeFailed target
      (transportFailed "GET" s.order.hardware.hardware.uri cause).text) := by
  let a := s.order.attempt + 1
  let met := transportFailed "GET" s.order.hardware.hardware.uri cause
  let counted := { attemptBegun s with submissions := (attemptBegun s).submissions + 1 }
  let message := "Error getting current power state: "
  obtain ⟨u, hcall, horder⟩ : ∃ u, (call setup (hookAt setup depth)
      (.submission (attemptBegun s).submissions a) counted.order.hardware.client "GET"
      counted.order.hardware.hardware.uri .null).run counted = (.error met, u) ∧
        u.order = counted.order :=
    call_of_refused (s := counted) hr hd hn hb _
  have hobserved : (observe setup (hookAt setup depth)
      (.submission (attemptBegun s).submissions a) (some a)).run counted = (.error met, u) := by
    have hgiven : counted.order.hardware.hardware.uri.isGiven := hg
    rw [run_observe]
    dsimp only
    rw [if_pos hgiven, hcall]
  have hgivenUp : ((work setup (hookAt setup depth) target a).run (attemptBegun s)).2 =
      gaveUp a message met u := by
    rw [run_work, run_submit]
    dsimp only [Option.getD_some]
    rw [hobserved]
    rfl
  have hmarked : (gaveUp a message met u).order =
      { counted.order with done := true, failure? := some met } := by
    have hcurrent : u.order.attempt = a := by rw [horder]; rfl
    calc (gaveUp a message met u).order
        = u.order.markDone (some met) (some a) := rfl
      _ = { u.order with done := true, failure? := u.order.failure? <|> some met } :=
        PowerOrder.markDone_of_current hcurrent _
      _ = { counted.order with done := true, failure? := some met } := by rw [horder]; rfl
  have hover : (gaveUp a message met u).order.isOver := by rw [hmarked]; rfl
  have hfailure : (gaveUp a message met u).order.failure? = some met := by rw [hmarked]
  rw [execute_of_given_up ht hopen hm hgivenUp hover hfailure]
  rfl

end Executions

/-- Where the answers fail only as the network does, no failure of the program falls back on its
bare template: nothing tells of a misfit, and settings that are strict about misfits change nothing
of what comes of clients, of the power of the hardware and of the tool, if their other options have
the same values. Failures end with the text of what they explain, at every level. -/
theorem error_texts_never_degrade {settings settings' : Settings}
    (hread : AgreeBut .strictTemplates settings settings') {script : Script}
    {handed : Failure → Prop} (hnetwork : OnlyNetwork script.supply)
    (hhanded : ∀ action ∈ script.actions, Hands handed action) :
    Undegraded (sourcesOf settings script handed hnetwork hhanded) handed settings settings'
      script := by
  let W := sourcesOf settings script handed hnetwork hhanded
  have hbrings : Brings W settings script :=
    ⟨List.Subset.refl _,
      fun number action ha => (hhanded action (script.duringWait_subset number ha)).mono
        fun _ h => .inl h,
      fun _ h => .inr h⟩
  exact {
    misfit := fun strict template values failure h =>
      ⟨Failure.formatRecord values, by simp [Failure.explain, Json.isGiven, h],
        tellsOfMisfit_formatRecord values⟩
    create := fun address token version verify timeout =>
      (phrased_managerUrl address).bind fun baseUrl _ => phrased_pure _
    client := ⟨ofSettings_congr hbrings hread, phrased_ofSettings hbrings⟩
    decode := phrased_decode
    exchange := fun client method uri body strict =>
      have h := exchange_same hbrings.answers client method uri body strict
      ⟨h.1, h.2.1, fun _ he => exchange_error hbrings.answers he⟩
    lookUp := lookUp_same hbrings.answers
    powerState := powerState_same hbrings hread
    setPowerState := setPowerState_same hbrings hread
    play := fun order steps failOnTimeout ownPool ho hsteps =>
      play_same hbrings settings' ho hsteps failOnTimeout ownPool
    tool := fun places argv hset hu => tool_same hbrings hset hu
    verbatim := fun _ h => h.verbatim (Or.imp_right Unreadable.not_general)
    recorded := fun setup depth target s t failure hs hw hr hk => recorded_of_change hw hs hr hk
    refused := fun setup depth target s request cause hs ht hopen hm hg hr hd hb =>
      execute_of_refused ht hopen hm hg hr hd (gives_next hs.answers request).network hb }

/-- The manager describes a blade that is off, and then the connection to it breaks down, with an
explanation that looks like a template. -/
def unpluggedManager : Script where
  supply := .queue [
    { content := .reply 200 "OK" "\x7b\"uri\": \"/b\", \"powerState\": \"Off\"\x7d" },
    { content := .fault { kind := .network .connection, message := .text "100% %s %(x)s" } }]

/-- The tool logs the same failure whether the settings are strict or not: three failures, one
within the other, down to the very text of the network. -/
theorem error_texts_never_degrade_unplugged :
    let argv := ["on", "--server-hardware-uri", "/b"]
    let ended := CommandLine.run .usual argv guardedSettings unpluggedManager
    ∃ settings', guardedSettings.set .strictTemplates (.bool true) = .ok settings' ∧
      settings'.strict = true ∧ guardedSettings.strict = false ∧
      AgreeBut .strictTemplates guardedSettings settings' ∧ OnlyNetwork unpluggedManager.supply ∧
      CommandLine.run .usual argv settings' unpluggedManager = ended ∧
      ended.1 = .exited 1 "" ∧
      (ended.2.filterMap lineOfEvent?).getLast? = some ("on failed: Failed to set server " ++
        "hardware power state to On. Error: GET request to /b failed. Error: 100% %s %(x)s") := by
  intro argv ended
  let settings' : Settings :=
    { guardedSettings with
      entries := (.strictTemplates, .given (.bool true)) :: guardedSettings.entries }
  let invocation : Invocation := ⟨.set .on, .text "/b", .null, .null, []⟩
  have hset : guardedSettings.set .strictTemplates (.bool true) = .ok settings' := rfl
  have hentries : ∀ entry ∈ guardedSettings.entries, ∀ s ∈ textsOf entry.2, '$' ∉ s.toList := by
    decide +kernel
  have hunmentioned : Unmentioned .strictTemplates guardedSettings :=
    unmentioned_of_notMem hentries (by decide +kernel)
  have htool : Unmentioned .strictTemplates (withOptions guardedSettings []) :=
    unmentioned_of_notMem hentries (by decide +kernel)
  have hsame : SameBut .strictTemplates guardedSettings settings' := sameBut_of_set hset
  have hread := hsame.agree hunmentioned
  have hnetwork : OnlyNetwork unpluggedManager.supply := by
    simp [OnlyNetwork, unpluggedManager, Supply.answers, FailureKind.isNetwork]
  have hhanded : ∀ action ∈ unpluggedManager.actions, Hands (fun _ => False) action := by
    simp [unpluggedManager, Script.actions, Supply.answers]
  have haccepted : Invocation.ofArguments .usual argv = .ok invocation := by decide +kernel
  have hundegraded := error_texts_never_degrade hread hnetwork hhanded
  have hrun : CommandLine.run .usual argv settings' unpluggedManager = ended := by
    refine (hundegraded.tool .usual argv hsame fun other ho => ?_).1
    cases haccepted.symm.trans ho
    exact htool
  exact ⟨settings', hset, rfl, rfl, hread, hnetwork, hrun, by decide +kernel⟩

end ServerPower.Proofs
