import ServerPower.Proofs.Faithful
import ServerPower.Proofs.Secured
import ServerPower.Proofs.Unmentioned
import ServerPower.Proofs.Unreadable

/-!
# The same either way

The client of the settings, calls, queries, changes, the steps of a script and the tool are the same
for all to see whether the settings are strict or not, where the answers fail only as the network
does. What can be seen tells of no misfit, and the failures in it are explained.
-/

namespace ServerPower.Proofs
open Run CommandLine

/-- What a script and settings can bring, along with the failures that others hand over. -/
structure Brings (W : Sources) (settings : Settings) (script : Script) : Prop where
  answers : script.supply.answers ⊆ W.answers
  duringWait : HandsInWaits W script.duringWait
  unreadable : ∀ failure, Unreadable settings failure → W.foreign failure

/-- The events tell of no misfit, and the failures in them and at the end are explained. -/
structure Whole {α : Type} (W : Sources) (trace : Trace α) : Prop where
  events : ∀ event ∈ trace.events, Clean W event
  outcome : ∀ failure, trace.outcome = .error failure → Explained W failure

/-- The client of the settings, whether they are strict or not. -/
def madeOf (strict : Bool) (settings : Settings) : Report Client := do
  let insecure ← settings.demand .insecure
  let certificate ← settings.demand .certificate
  let verify ← Client.verification strict insecure certificate
  let address ← settings.demand .managerUrl
  let token ← settings.demand .authToken
  let version ← settings.demand .apiVersion
  let timeout ← settings.demand .requestTimeout
  Client.create strict address token version verify timeout

section Settings

variable {W : Sources} {settings settings' : Settings} {script : Script}

lemma Brings.readable (h : Brings W settings script) {key : OptionKey} {failure : Failure}
    (hr : settings.read key = .error failure) : Explained W failure :=
  .foreign (h.unreadable failure ⟨settings.common, settings.formerNames, key, hr⟩)

lemma Brings.left (h : Brings W settings script) {supply : Supply}
    (hs : supply.answers ⊆ script.supply.answers) : Brings W settings { script with supply } :=
  ⟨fun _ ha => h.answers (hs ha), h.duringWait, h.unreadable⟩

lemma Brings.withOptions (h : Brings W settings script) (given : Values) :
    Brings W (withOptions settings given) script :=
  ⟨h.answers, h.duringWait, h.unreadable⟩

lemma phrased_verification (insecure certificate : Json) :
    Phrased (Explained W) (fun strict => Client.verification strict insecure certificate) := by
  unfold Client.verification
  dsimp only
  split
  · split
    · refine (phrased_log ?_).bind fun _ _ => phrased_pure _
      simp only [String.append_assoc]
      exact not_tellsOfMisfit
        "Performing an insecure connection with OneView, the CA certificate file: " _ (by decide)
        (by decide)
    · exact phrased_pure _
  · split
    · exact phrased_pure _
    · exact phrased_raise (fun strict => build_manager strict _) .noCertificate

lemma phrased_managerUrl (address : Json) :
    Phrased (Explained W) (fun strict => Client.managerUrl strict address) := by
  unfold Client.managerUrl
  refine Phrased.bind (phrased_ofExcept fun failure h => ?_) fun text _ => ?_
  · unfold Client.addressText at h
    split at h
    · cases h
    · split at h
      · cases h
        exact .noText _
      · cases h
  · dsimp only
    split
    · have hraise : Phrased (Explained W) (fun strict => (Failure.raise strict .invalidParameter
          [("err", .text "OneView manager URL is missing, set [oneview]manager_url.")] :
            Report Unit)) :=
        phrased_raise (fun strict => build_invalidParameter strict _) .noManager
      exact hraise.bind fun _ _ => phrased_pure _
    · exact phrased_pure _

lemma phrased_madeOf (h : Brings W settings script) :
    Phrased (Explained W) (fun strict => madeOf strict settings) := by
  have hdemand : ∀ key, Phrased (Explained W) (fun _ => settings.demand key) :=
    fun key => phrased_ofExcept fun failure hr => h.readable hr
  refine (hdemand .insecure).bind fun insecure _ => ?_
  refine (hdemand .certificate).bind fun certificate _ => ?_
  refine (phrased_verification insecure certificate).bind fun verify _ => ?_
  refine (hdemand .managerUrl).bind fun address _ => ?_
  refine (hdemand .authToken).bind fun token _ => ?_
  refine (hdemand .apiVersion).bind fun version _ => ?_
  refine (hdemand .requestTimeout).bind fun timeout _ => ?_
  exact (phrased_managerUrl address).bind fun baseUrl _ => phrased_pure _

/-- Settings that differ in nothing but strictness make the same client. -/
lemma ofSettings_congr (h : Brings W settings script)
    (hr : AgreeBut .strictTemplates settings settings') :
    Client.ofSettings settings' = Client.ofSettings settings := by
  have hdemand : ∀ key, key ≠ .strictTemplates → settings'.demand key = settings.demand key := by
    intro key hk
    rw [Settings.demand, hr key hk, Settings.demand]
  have hmade : ∀ strict, madeOf strict settings' = madeOf strict settings := by
    intro strict
    simp only [madeOf, hdemand, ne_eq, reduceCtorEq, not_false_eq_true]
  have hsame := (phrased_madeOf h).same
  calc Client.ofSettings settings'
      = madeOf settings'.strict settings' := rfl
    _ = madeOf settings.strict settings := by rw [hmade, hsame, ← hsame settings.strict]
    _ = Client.ofSettings settings := rfl

lemma phrased_ofSettings (h : Brings W settings script) :
    (∀ r ∈ (Client.ofSettings settings).records, ¬ TellsOfMisfit r) ∧
      ∀ failure, (Client.ofSettings settings).outcome = .error failure → Explained W failure := by
  have hmade : Client.ofSettings settings = madeOf false settings :=
    (phrased_madeOf h).same settings.strict
  rw [hmade]
  exact ⟨(phrased_madeOf h).records, (phrased_madeOf h).failures⟩

lemma create_congr (hr : AgreeBut .strictTemplates settings settings')
    (hardware : ManagedHardware) (limit interval : Json) :
    PowerOrder.create settings' hardware limit interval =
      PowerOrder.create settings hardware limit interval := by
  have hsetting : ∀ key v, key ≠ .strictTemplates →
      PowerOrder.orSetting settings' key v = PowerOrder.orSetting settings key v := by
    intro key v hk
    unfold PowerOrder.orSetting
    rw [hr key hk]
  simp only [PowerOrder.create, hsetting, ne_eq, reduceCtorEq, not_false_eq_true]

lemma explained_of_create (h : Brings W settings script) {hardware : ManagedHardware}
    {limit interval : Json} {failure : Failure}
    (hc : PowerOrder.create settings hardware limit interval = .error failure) :
    Explained W failure := by
  have hsetting : ∀ key v other, PowerOrder.orSetting settings key v = .error other →
      Explained W other := by
    intro key v other ho
    unfold PowerOrder.orSetting at ho
    split at ho
    · exact h.readable ho
    · cases ho
  unfold PowerOrder.create at hc
  cases hl : PowerOrder.orSetting settings .pollLimit limit with
  | error other =>
    rw [hl] at hc
    cases hc
    exact hsetting _ _ _ hl
  | ok l =>
    cases hi : PowerOrder.orSetting settings .pollInterval interval with
    | error other =>
      rw [hl, hi] at hc
      cases hc
      exact hsetting _ _ _ hi
    | ok i =>
      rw [hl, hi] at hc
      cases hc

lemma failure?_of_create {hardware : ManagedHardware} {limit interval : Json} {order : PowerOrder}
    (h : PowerOrder.create settings hardware limit interval = .ok order) :
    order.failure? = none := by
  obtain ⟨_, -, h⟩ := exists_of_bind_eq_ok h
  obtain ⟨_, -, h⟩ := exists_of_bind_eq_ok h
  cases h
  rfl

end Settings

section Runs

variable {W : Sources} {settings settings' : Settings} {script : Script}

lemma clear_scene (h : Brings W settings script) {order : PowerOrder}
    (ho : order.failure? = none) : Clear W (script.scene order) :=
  ⟨h.answers, fun _ hf => absurd (ho.symm.trans hf) (fun h => nomatch h),
    (fun _ he => nomatch he)⟩

/-- A faithful run is the same for all to see, however strict the settings are. -/
lemma Faithful.trace {α : Type} {post : α → Prop} {run : Bool → Run α} (h : Faithful W post run)
    {s : Scene} (hs : Clear W s) (strict strict' : Bool) :
    (run strict').trace s = (run strict).trace s ∧ Whole W ((run strict).trace s) := by
  have hsame : ∀ strict, (run strict).trace s = (run false).trace s := by
    intro strict
    have hrun : ExceptT.run (run strict) s = ExceptT.run (run false) s := h.same hs strict
    simp only [Run.trace, hrun]
  rw [hsame strict', hsame strict]
  refine ⟨rfl, fun event he => ?_, fun failure hf => ?_⟩
  · have hclear := h.clear hs
    simp only [Run.trace, Scene.events, List.mem_reverse, List.mem_map] at he
    obtain ⟨e, hm, rfl⟩ := he
    exact hclear.journal e hm
  · have hcomes := h.comes hs
    have ho : ((run false).run s).1 = .error failure := hf
    rwa [ho] at hcomes

lemma Whole.of_error {α : Type} {failure : Failure} (h : Explained W failure) :
    Whole W (⟨.error failure, []⟩ : Trace α) := by
  refine ⟨(fun _ he => nomatch he), ?_⟩
  rintro other ⟨⟩
  exact h

lemma Whole.map {α β : Type} {trace : Trace α} (h : Whole W trace) (f : α → β) :
    Whole W ⟨trace.outcome.map f, trace.events⟩ := by
  refine ⟨h.events, fun failure hf => ?_⟩
  dsimp only at hf
  cases ho : trace.outcome with
  | error other =>
    rw [ho] at hf
    cases hf
    exact h.outcome _ ho
  | ok a =>
    rw [ho] at hf
    cases hf

/-- The power state of hardware is the same for all to see, however strict the settings are. -/
lemma powerState_same (h : Brings W settings script)
    (hr : AgreeBut .strictTemplates settings settings') (hardware : ManagedHardware) :
    hardware.powerState settings' script = hardware.powerState settings script ∧
      Whole W (hardware.powerState settings script) := by
  unfold ManagedHardware.powerState
  rw [create_congr hr]
  cases hc : PowerOrder.create settings hardware .null .null with
  | error failure => exact ⟨rfl, .of_error (explained_of_create h hc)⟩
  | ok order =>
    let setup := script.setup settings false false order []
    have hhook : FaithfulHook W (fun strict => hookAt (judged setup strict) script.depth) :=
      faithful_hookAt h.duringWait script.depth
    have hrun : Faithful W (fun _ => True) (fun strict =>
        observe (judged setup strict) (hookAt (judged setup strict) script.depth) .query none) :=
      faithful_observe hhook .query none
    exact hrun.trace (clear_scene h (failure?_of_create hc)) settings.strict settings'.strict

lemma setPowerState_same (h : Brings W settings script)
    (hr : AgreeBut .strictTemplates settings settings') (hardware : ManagedHardware)
    (target : PowerState) (limit interval : Json) :
    hardware.setPowerState settings' script target limit interval =
        hardware.setPowerState settings script target limit interval ∧
      Whole W (hardware.setPowerState settings script target limit interval) := by
  unfold ManagedHardware.setPowerState ManagedHardware.ordered
  rw [create_congr hr, hr .failOnTimeout (by decide)]
  cases hc : PowerOrder.create settings hardware limit interval with
  | error failure => exact ⟨rfl, .of_error (explained_of_create h hc)⟩
  | ok order =>
    cases hf : settings.read .failOnTimeout with
    | error failure => exact ⟨rfl, .of_error (h.readable hf)⟩
    | ok failOnTimeout =>
      let setup := script.setup settings failOnTimeout.isGiven true order []
      have hhook : FaithfulHook W (fun strict => hookAt (judged setup strict) script.depth) :=
        faithful_hookAt h.duringWait script.depth
      have hrun : Faithful W (fun _ => True) (fun strict =>
          executeOnce (judged setup strict) (hookAt (judged setup strict) script.depth) target) :=
        faithful_executeOnce hhook h.duringWait target
      exact hrun.trace (clear_scene h (failure?_of_create hc)) settings.strict settings'.strict

end Runs

section Calls

variable {W : Sources} {supply : Supply} {client : Client} {method : String} {uri body : Json}
  {failure : Failure}

lemma clean_logged {records : List Record} (h : ∀ r ∈ records, ¬ TellsOfMisfit r) :
    ∀ event ∈ records.map Event.logged, Clean W event := by
  intro event he
  obtain ⟨r, hm, rfl⟩ := List.mem_map.mp he
  exact h r hm

lemma exchange_of_request {request : Request} (hr : client.request method uri body = .ok request)
    (strict : Bool) (supply : Supply) :
    client.exchange strict method uri body supply =
      let report := readAnswer strict method uri request (supply.next request).1
      (⟨report.outcome, .sent .query request :: report.records.map Event.logged ++
        [.answered .query request report.outcome]⟩, (supply.next request).2) := by
  unfold Client.exchange
  rw [hr]
  rfl

/-- A call that belongs to no order is the same for all to see, however strict the settings are. -/
lemma exchange_same (h : supply.answers ⊆ W.answers) (client : Client) (method : String)
    (uri body : Json) (strict : Bool) :
    client.exchange strict method uri body supply = client.exchange false method uri body supply ∧
      Whole W (client.exchange false method uri body supply).1 ∧
      ∀ text, (client.exchange false method uri body supply).1.outcome = .ok text →
        W.Sends text := by
  cases hr : client.request method uri body with
  | error failure =>
    have hrefused : ∀ strict, client.exchange strict method uri body supply =
        (⟨.error failure, []⟩, supply) := by
      intro strict
      unfold Client.exchange
      rw [hr]
    simp only [hrefused]
    exact ⟨trivial, .of_error (.unfit (request_error hr)), (fun _ h => nomatch h)⟩
  | ok request =>
    have hgives := gives_next h request
    have hphrased := phrased_readAnswer hgives method uri request
    obtain ⟨hclean, hcomes⟩ := clean_answered hgives hr .query
    simp only [exchange_of_request hr, hphrased.same strict]
    refine ⟨trivial, ⟨?_, hphrased.failures⟩, fun text ht => ?_⟩
    · exact List.forall_mem_cons.mpr ⟨trivial, List.forall_mem_append.mpr
        ⟨clean_logged hphrased.records, List.forall_mem_singleton.mpr hclean⟩⟩
    · rw [ht] at hcomes
      exact hcomes

/-- A call that fails either could not be made, or fails with what explains the very fault that its
request was met with. -/
lemma exchange_error (h : supply.answers ⊆ W.answers)
    (he : (client.exchange false method uri body supply).1.outcome = .error failure) :
    client.request method uri body = .error failure ∨
      ∃ request cause, client.request method uri body = .ok request ∧
        (sentBack (supply.next request).1).body request.url = .error cause ∧
        failure = transportFailed method uri cause := by
  cases hr : client.request method uri body with
  | error other =>
    unfold Client.exchange at he
    rw [hr] at he
    cases he
    exact .inl rfl
  | ok request =>
    rw [exchange_of_request hr] at he
    rcases readAnswer_cases (gives_next h request) false method uri request with
      ⟨text, ho, -⟩ | ⟨cause, hb, ho⟩
    · exact nomatch ho.symm.trans he
    · refine .inr ⟨request, cause, rfl, hb, ?_⟩
      cases ho.symm.trans he
      rfl

/-- Looking up hardware is the same for all to see, however strict the settings are. -/
lemma lookUp_same (h : supply.answers ⊆ W.answers) (client : Client) (uri : Json) (strict : Bool) :
    client.lookUp strict uri supply = client.lookUp false uri supply ∧
      Whole W (client.lookUp false uri supply).1 := by
  obtain ⟨hsame, hwhole, hsends⟩ := exchange_same h client "GET" uri .null strict
  unfold Client.lookUp
  rw [hsame]
  rcases hx : client.exchange false "GET" uri .null supply with ⟨⟨failure | text, events⟩, left⟩
  · rw [hx] at hwhole
    dsimp only
    refine ⟨rfl, hwhole.events, ?_⟩
    rintro other ⟨⟩
    exact hwhole.outcome failure rfl
  · rw [hx] at hwhole hsends
    have hphrased := phrased_readHardware (hsends text rfl) uri
    dsimp only
    rw [hphrased.same strict]
    have hread : Whole W
        ⟨(Client.readHardware false uri text).outcome, events ++
          (Client.readHardware false uri text).records.map Event.logged⟩ :=
      ⟨List.forall_mem_append.mpr ⟨hwhole.events, clean_logged hphrased.records⟩,
        hphrased.failures⟩
    exact ⟨rfl, hread.map _⟩

end Calls

section Tool

variable {W : Sources} {settings settings' : Settings} {script : Script}

lemma actOn_same (h : Brings W settings script)
    (hr : AgreeBut .strictTemplates settings settings') (invocation : Invocation)
    (hardware : ManagedHardware) :
    invocation.actOn settings' script hardware = invocation.actOn settings script hardware ∧
      Whole W (invocation.actOn settings script hardware) := by
  unfold Invocation.actOn
  cases invocation.command with
  | status =>
    obtain ⟨hsame, hwhole⟩ := powerState_same h hr hardware
    dsimp only
    rw [hsame]
    exact ⟨rfl, hwhole.map _⟩
  | set target =>
    obtain ⟨hsame, hwhole⟩ :=
      setPowerState_same h hr hardware target invocation.limit invocation.interval
    dsimp only
    rw [hsame]
    exact ⟨rfl, hwhole.map _⟩

/-- Hardware is found alike, however strict the settings are, and what is left brings the same. -/
lemma find_same (h : Brings W settings script)
    (hr : AgreeBut .strictTemplates settings settings') (invocation : Invocation) :
    invocation.find settings' script = invocation.find settings script ∧
      Whole W (invocation.find settings script).1 ∧
      Brings W settings (invocation.find settings script).2 := by
  obtain ⟨hrecords, hfailures⟩ := phrased_ofSettings h
  have hbefore : ∀ event ∈ (Client.ofSettings settings).records.map Event.logged,
      Clean W event := clean_logged hrecords
  have hcongr := ofSettings_congr h hr
  cases hc : (Client.ofSettings settings).outcome with
  | error failure =>
    have hc' : (Client.ofSettings settings').outcome = .error failure := by rw [hcongr, hc]
    rw [find_of_no_client hc, find_of_no_client hc', hcongr]
    refine ⟨rfl, ⟨hbefore, ?_⟩, h⟩
    rintro other ⟨⟩
    exact hfailures failure hc
  | ok client =>
    have hc' : (Client.ofSettings settings').outcome = .ok client := by rw [hcongr, hc]
    obtain ⟨hsame, hwhole⟩ := lookUp_same h.answers client invocation.uri settings.strict
    obtain ⟨hsame', -⟩ := lookUp_same h.answers client invocation.uri settings'.strict
    have hleft := (lookUp_sentBy client false invocation.uri script.supply).2
    rw [find_of_client hc, find_of_client hc', hcongr, hsame, hsame']
    exact ⟨rfl, ⟨List.forall_mem_append.mpr ⟨hbefore, hwhole.events⟩, hwhole.outcome⟩, h.left hleft⟩

lemma act_same (h : Brings W settings script)
    (hr : AgreeBut .strictTemplates settings settings') (invocation : Invocation) :
    invocation.act settings' script = invocation.act settings script ∧
      Whole W (invocation.act settings script) := by
  obtain ⟨hsame, hfound, hleft⟩ := find_same h hr invocation
  unfold Invocation.act
  rw [hsame]
  dsimp only
  cases ho : (invocation.find settings script).1.outcome with
  | error failure =>
    refine ⟨rfl, hfound.events, ?_⟩
    rintro other ⟨⟩
    exact hfound.outcome failure ho
  | ok hardware =>
    obtain ⟨hacts, hacted⟩ := actOn_same hleft hr invocation hardware
    dsimp only
    rw [hacts]
    exact ⟨rfl, List.forall_mem_append.mpr ⟨hfound.events, hacted.events⟩, hacted.outcome⟩

lemma invocation_same (h : Brings W settings script)
    (hr : AgreeBut .strictTemplates settings settings') (invocation : Invocation) :
    invocation.run settings' script = invocation.run settings script ∧
      (∀ event ∈ (invocation.run settings script).2, Clean W event) ∧
      ∀ failure, (invocation.run settings script).1 = .failed failure → Explained W failure := by
  obtain ⟨hsame, hwhole⟩ := act_same h hr invocation
  have hlast : ∀ text, ¬ TellsOfMisfit
      ⟨.error, .ok (invocation.command.name ++ " failed: " ++ text)⟩ := by
    intro text
    rw [String.append_assoc]
    cases invocation.command with
    | status => exact not_tellsOfMisfit "status" _ (by decide) (by decide)
    | set target =>
      cases target with
      | on => exact not_tellsOfMisfit "on" _ (by decide) (by decide)
      | _ => exact not_tellsOfMisfit "off" _ (by decide) (by decide)
  unfold Invocation.run
  rw [hsame]
  refine ⟨rfl, ?_⟩
  dsimp only
  cases ho : (invocation.act settings script).outcome with
  | ok answered => exact ⟨hwhole.events, (fun _ h => nomatch h)⟩
  | error failure =>
    dsimp only
    split
    · refine ⟨List.forall_mem_append.mpr ⟨hwhole.events, ?_⟩, (fun _ h => nomatch h)⟩
      exact List.forall_mem_singleton.mpr (hlast failure.text)
    · refine ⟨hwhole.events, ?_⟩
      rintro other ⟨⟩
      exact hwhole.outcome failure ho

/-- The steps of a script are the same for all to see, however strict the settings are. -/
lemma play_same (h : Brings W settings script) (settings' : Settings) {order : PowerOrder}
    (ho : order.failure? = none) {steps : List Action}
    (hsteps : ∀ action ∈ steps, Hands W.foreign action) (failOnTimeout ownPool : Bool) :
    let setup := script.setup settings failOnTimeout ownPool order steps
    let setup' := script.setup settings' failOnTimeout ownPool order steps
    script.play setup' (script.scene order) steps = script.play setup (script.scene order) steps ∧
      ∀ r ∈ script.play setup (script.scene order) steps,
        Clear W r.2 ∧ Comes W (fun _ => True) r.1 := by
  intro setup setup'
  have hwaits : HandsInWaits W setup.duringWait := h.duringWait
  obtain ⟨hsame, hplayed⟩ := faithful_play hwaits script hsteps (clear_scene h ho)
  have hlenient : script.play setup (script.scene order) steps =
      script.play (judged setup false) (script.scene order) steps := hsame settings.strict
  have hlenient' : script.play setup' (script.scene order) steps =
      script.play (judged setup false) (script.scene order) steps := hsame settings'.strict
  rw [hlenient, hlenient']
  exact ⟨rfl, hplayed⟩

/-- The words of a command line are refused, or make the tool do the same, in either settings. -/
lemma prepare_congr (hset : SameBut .strictTemplates settings settings') {places : Places}
    {argv : List String}
    (hu : ∀ invocation, Invocation.ofArguments places argv = .ok invocation →
      Unmentioned .strictTemplates (withOptions settings invocation.given)) :
    (∃ usage, prepare places argv settings = .error usage ∧
        prepare places argv settings' = .error usage) ∨
      ∃ invocation, Invocation.ofArguments places argv = .ok invocation ∧
        prepare places argv settings = .ok (invocation, withOptions settings invocation.given) ∧
        prepare places argv settings' =
          .ok (invocation, withOptions settings' invocation.given) := by
  unfold prepare
  cases hi : Invocation.ofArguments places argv with
  | error usage => exact .inl ⟨usage, rfl, rfl⟩
  | ok invocation =>
    simp only [bind, Except.bind]
    rcases configure_congr hset (hu invocation hi) places with ⟨usage, hc, hc'⟩ | ⟨hc, hc'⟩
    · rw [hc, hc']
      exact .inl ⟨usage, rfl, rfl⟩
    · rw [hc, hc']
      exact .inr ⟨invocation, rfl, rfl, rfl⟩

lemma run_of_refused {places : Places} {argv : List String} {usage : Usage}
    (h : prepare places argv settings = .error usage) :
    CommandLine.run places argv settings script = (usage.ending, []) := by
  unfold CommandLine.run
  rw [h]

lemma run_of_prepared {places : Places} {argv : List String} {invocation : Invocation}
    {start : Settings} (h : prepare places argv settings = .ok (invocation, start)) :
    CommandLine.run places argv settings script = invocation.run start script := by
  unfold CommandLine.run
  rw [h]

/-- The tool is the same for all to see, however strict the settings are, if neither they nor the
command line mention how strict they are. -/
lemma tool_same (h : Brings W settings script)
    (hset : SameBut .strictTemplates settings settings') {places : Places} {argv : List String}
    (hu : ∀ invocation, Invocation.ofArguments places argv = .ok invocation →
      Unmentioned .strictTemplates (withOptions settings invocation.given)) :
    CommandLine.run places argv settings' script = CommandLine.run places argv settings script ∧
      (∀ event ∈ (CommandLine.run places argv settings script).2, Clean W event) ∧
      ∀ failure, (CommandLine.run places argv settings script).1 = .failed failure →
        prepare places argv settings = .error (.failed failure) ∨ Explained W failure := by
  rcases prepare_congr hset hu with ⟨usage, hp, hp'⟩ | ⟨invocation, hi, hp, hp'⟩
  · rw [run_of_refused hp, run_of_refused hp', hp]
    refine ⟨rfl, (fun _ he => nomatch he), fun failure hf => .inl ?_⟩
    cases usage with
    | failed other =>
      cases hf
      rfl
    | _ => cases hf
  · rw [run_of_prepared hp, run_of_prepared hp']
    obtain ⟨hsame, hevents, hfailed⟩ := invocation_same (h.withOptions invocation.given)
      ((hset.withOptions invocation.given).agree (hu invocation hi)) invocation
    exact ⟨hsame, hevents, fun failure hf => .inr (hfailed failure hf)⟩

end Tool

end ServerPower.Proofs
