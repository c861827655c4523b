import ServerPower.CommandLine.Execution
import ServerPower.Proofs.Addressed
import ServerPower.Proofs.TypedSettings

/-!
# Secured connections

The settings say how connections are checked: with a certificate, or not at all where that is
allowed. The client made of them sends every request with that check and with the time limit of the
settings, and whatever hardware an order comes to hold is reached through that client.
-/

namespace ServerPower.Proofs
open Run CommandLine

/-- A request that is sent is checked and bounded as the client says. -/
def SentBy (client : Client) (event : Event) : Prop :=
  ∀ origin request, event = .sent origin request →
    request.verify = client.verify ∧ request.timeout = client.timeout

/-- The order is bound to the client and always was, and so was every request. -/
structure Bound (client : Client) (s : Scene) : Prop where
  held : s.order.hardware.client = client
  always : ∀ e ∈ s.journal, e.order.hardware.client = client
  sent : ∀ e ∈ s.journal, SentBy client e.event

/-- Nobody turns the order over to hardware that is reached through another client. -/
def KeepsClient (client : Client) : Action → Prop
  | .setHardware hardware => hardware.client = client
  | _ => True

/-- What the settings make of connections: they are unchecked if the settings say so, and else
checked with the certificate that the settings name. -/
structure Configured (settings : Settings) (client : Client) : Prop where
  timeout : settings.read .requestTimeout = .ok client.timeout
  unchecked : client.verify = .bool false ↔ settings.read .insecure = .ok (.bool true)
  checked : client.verify ≠ .bool false → ∃ path, path ≠ "" ∧
    settings.read .certificate = .ok (.text path) ∧ client.verify = .text path

section Clients

variable {settings : Settings} {client : Client}

/-- Unchecked connections are made just where they are allowed; a certificate that is used is
given. -/
lemma verification_eq_ok {strict : Bool} {insecure certificate verify : Json}
    (h : (Client.verification strict insecure certificate).outcome = .ok verify) :
    (insecure.isGiven ∧ verify = .bool false) ∨
      (insecure.isGiven = false ∧ certificate.isGiven ∧ verify = certificate) := by
  unfold Client.verification at h
  split at h
  · rename_i hi
    dsimp only at h
    split at h <;> cases h <;> exact .inl ⟨hi, rfl⟩
  · rename_i hi
    rw [Bool.not_eq_true] at hi
    split at h
    · rename_i hc
      cases h
      exact .inr ⟨hi, hc, rfl⟩
    · rw [raise_outcome] at h
      cases h

/-- The parts of a client that is made of settings. -/
lemma reads_of_ofSettings (h : (Client.ofSettings settings).outcome = .ok client) :
    ∃ insecure certificate, settings.read .insecure = .ok insecure ∧
      settings.read .certificate = .ok certificate ∧
      (Client.verification settings.strict insecure certificate).outcome = .ok client.verify ∧
      settings.read .requestTimeout = .ok client.timeout := by
  unfold Client.ofSettings at h
  obtain ⟨insecure, hinsecure, h⟩ := Report.exists_of_bind_eq_ok h
  obtain ⟨certificate, hcertificate, h⟩ := Report.exists_of_bind_eq_ok h
  obtain ⟨verify, hverify, h⟩ := Report.exists_of_bind_eq_ok h
  obtain ⟨address, -, h⟩ := Report.exists_of_bind_eq_ok h
  obtain ⟨token, -, h⟩ := Report.exists_of_bind_eq_ok h
  obtain ⟨version, -, h⟩ := Report.exists_of_bind_eq_ok h
  obtain ⟨timeout, htimeout, h⟩ := Report.exists_of_bind_eq_ok h
  obtain ⟨baseUrl, -, h⟩ := Report.exists_of_bind_eq_ok h
  cases h
  exact ⟨insecure, certificate, hinsecure, hcertificate, hverify, htimeout⟩

lemma configured_of_ofSettings (ht : Typed settings)
    (h : (Client.ofSettings settings).outcome = .ok client) : Configured settings client := by
  obtain ⟨insecure, certificate, hinsecure, hcertificate, hverify, htimeout⟩ :=
    reads_of_ofSettings h
  have hpath : certificate.isGiven → ∃ path, path ≠ "" ∧ certificate = .text path := by
    intro hgiven
    cases takes_of_read ht hcertificate with
    | nothing => cases hgiven
    | text path => exact ⟨path, by simpa [Json.isGiven] using hgiven, rfl⟩
  have hallowed : insecure.isGiven ↔ insecure = .bool true := by
    cases takes_of_read ht hinsecure with
    | nothing => decide
    | flag b => cases b <;> decide
  refine ⟨htimeout, ?_, ?_⟩
  · rw [hinsecure, Except.ok.injEq, ← hallowed]
    rcases verification_eq_ok hverify with ⟨hi, hv⟩ | ⟨hi, hc, hv⟩
    · exact ⟨fun _ => hi, fun _ => hv⟩
    · refine ⟨fun hfalse => ?_, fun hgiven => ?_⟩
      · rw [← hv, hfalse] at hc
        cases hc
      · rw [hi] at hgiven
        cases hgiven
  · intro hne
    rcases verification_eq_ok hverify with ⟨-, hv⟩ | ⟨-, hc, hv⟩
    · exact absurd hv hne
    · obtain ⟨path, hempty, rfl⟩ := hpath hc
      exact ⟨path, hempty, hcertificate, hv⟩

/-- Without leave for unchecked connections and without a certificate there is no client. -/
lemma ofSettings_eq_error {insecure certificate : Json}
    (hinsecure : settings.read .insecure = .ok insecure) (hi : insecure.isGiven = false)
    (hcertificate : settings.read .certificate = .ok certificate)
    (hc : certificate.isGiven = false) :
    (Client.ofSettings settings).outcome = .error ⟨.manager,
      "OneView exception occurred. Error: TLS CA certificate to connect with OneView is missing."⟩
      := by
  have hverify : (Client.verification settings.strict insecure certificate).outcome =
      .error ⟨.manager, "OneView exception occurred. Error: " ++
        "TLS CA certificate to connect with OneView is missing."⟩ := by
    unfold Client.verification
    rw [hi, hc]
    simp only [Bool.false_eq_true, if_false, Failure.raise, build_manager]
    rfl
  have hdemand : (settings.demand .insecure).outcome = .ok insecure := hinsecure
  have hdemand' : (settings.demand .certificate).outcome = .ok certificate := hcertificate
  unfold Client.ofSettings
  dsimp only
  rw [Report.bind_of_ok hdemand, Report.bind_of_ok hdemand', Report.bind_of_error hverify]
  rfl

end Clients

section Orders

variable {client : Client} {s t : Scene}

lemma sentBy_of_request {method : String} {uri body : Json} {request : Request}
    (h : client.request method uri body = .ok request) (origin : Origin) :
    SentBy client (.sent origin request) := by
  intro _ _ he
  cases he
  exact (Client.of_request_eq_ok h).2

lemma sentBy_of_asks {order : PowerOrder} {origin : Origin} {request : Request}
    (h : Asks order origin request) (hc : order.hardware.client = client) :
    SentBy client (.sent origin request) := by
  cases h with
  | hardware given made => exact sentBy_of_request (hc ▸ made) origin
  | task followed made => exact sentBy_of_request (hc ▸ made) origin
  | change address made => exact sentBy_of_request (hc ▸ made) _

def binding (client : Client) : Law where
  holds s := Confined (KeepsClient client) s.supply ∧ Bound client s
  leads _ _ := True
  refl _ := trivial
  trans _ _ := trivial

lemma binding_step (hh : t.order.hardware.client = s.order.hardware.client)
    (hj : t.journal = s.journal) (ha : t.supply.answers ⊆ s.supply.answers) :
    (binding client).Step s t := by
  rintro ⟨hconfined, hbound⟩
  refine ⟨⟨fun answer hm => hconfined answer (ha hm), hh.trans hbound.held, ?_, ?_⟩, trivial⟩
  · rw [hj]
    exact hbound.always
  · rw [hj]
    exact hbound.sent

lemma binding_onOrder {f : PowerOrder → PowerOrder}
    (hf : (f s.order).hardware = s.order.hardware) : (binding client).Step s (s.onOrder f) :=
  binding_step (congrArg ManagedHardware.client hf) rfl (List.Subset.refl _)

lemma binding_note {event : Event} (he : Fits (fun _ => True) s.order event) :
    (binding client).Step s (s.note event) := by
  rintro ⟨hconfined, hbound⟩
  refine ⟨⟨hconfined, hbound.held, ?_, ?_⟩, trivial⟩
  · intro e hm
    rcases List.mem_cons.mp hm with rfl | hm
    · exact hbound.held
    · exact hbound.always e hm
  · intro e hm
    rcases List.mem_cons.mp hm with rfl | hm
    · intro origin request hsent
      exact sentBy_of_asks (he.asks origin request hsent) hbound.held origin request rfl
    · exact hbound.sent e hm

/-- The hardware that a query finds is reached through the client that asked. -/
lemma binding_noteHardware {attempt? : Option Int} {latest : ManagedHardware} {state : PowerState}
    (hl : (binding client).Found s latest) :
    (binding client).Step s (s.onOrder (·.noteHardware attempt? latest state)) := by
  obtain ⟨asked, _, _, _, hlawful, -, -, -, -, -, hlatest⟩ := hl
  have hclient : latest.client = client := hlatest.trans hlawful.2.held
  rintro ⟨hconfined, hbound⟩
  refine ⟨⟨hconfined, ?_, hbound.always, hbound.sent⟩, trivial⟩
  simp only [Scene.order_onOrder, PowerOrder.noteHardware]
  split
  · exact hclient
  · exact hbound.held

lemma binding_serves (client : Client) :
    (binding client).Serves (fun _ => True) (KeepsClient client) where
  noted _ _ he := binding_note he
  supplied s request := binding_step rfl rfl (answers_next_subset request s.supply)
  counted _ := binding_step rfl rfl (List.Subset.refl _)
  forgot _ := binding_onOrder rfl
  hardware _ _ _ hl := binding_noteHardware hl
  progress _ _ _ := binding_onOrder (by simp)
  ended _ _ _ _ := binding_onOrder (by simp)
  task _ _ _ _ := binding_onOrder (by simp)
  during _ request hs := Confined.during hs.1 request

lemma binding_awaits (client : Client) (setup : Setup) :
    (binding client).Awaits (fun _ => True) (KeepsClient client) setup :=
  (binding_serves client).awaits (fun _ _ _ _ => trivial)
    (fun _ _ _ _ => binding_step rfl rfl (List.Subset.refl _)) setup

lemma binding_launches (client : Client) : (binding client).Launches where
  begun _ := binding_onOrder rfl
  entered _ _ := binding_step rfl rfl (List.Subset.refl _)
  queued _ _ _ := binding_step rfl rfl (List.Subset.refl _)

theorem binding_governs (client : Client) (setup : Setup) :
    (binding client).Governs (fun _ => True) (KeepsClient client) setup where
  toAwaits := binding_awaits client setup
  bears s action ha := by
    cases action with
    | setHardware hardware =>
      rintro ⟨hconfined, hbound⟩
      exact ⟨⟨hconfined, ha, hbound.always, hbound.sent⟩, trivial⟩
    | markDone _ attempt? => exact fun failure? => binding_onOrder (by simp)
    | submit _ _ => exact fun _ => trivial
    | wait _ | observe _ | refresh _ | execute _ | look => trivial
    | _ => exact binding_step rfl rfl (List.Subset.refl _)
  executes _ target hh _ :=
    (binding_launches client).keeps_execute (binding_awaits client setup) hh target

end Orders

section Runs

variable {settings : Settings} {client : Client} {script : Script} {hardware : ManagedHardware}

lemma exchange_sentBy (client : Client) (strict : Bool) (method : String) (uri body : Json)
    (supply : Supply) :
    (∀ event ∈ (client.exchange strict method uri body supply).1.events, SentBy client event) ∧
      (client.exchange strict method uri body supply).2.answers ⊆ supply.answers := by
  unfold Client.exchange
  cases hr : client.request method uri body with
  | error failure => exact ⟨fun _ he => (nomatch he), List.Subset.refl _⟩
  | ok request =>
    refine ⟨?_, answers_next_subset request supply⟩
    intro event he
    simp only [List.cons_append, List.mem_cons, List.mem_append, List.mem_map,
      List.not_mem_nil, or_false] at he
    rcases he with rfl | ⟨r, -, rfl⟩ | rfl
    · exact sentBy_of_request hr .query
    · exact fun _ _ h => nomatch h
    · exact fun _ _ h => nomatch h

/-- Hardware that is looked up is reached through the client that looked it up. -/
lemma lookUp_client {strict : Bool} {uri : Json} {supply : Supply}
    (h : (client.lookUp strict uri supply).1.outcome = .ok hardware) :
    hardware.client = client := by
  unfold Client.lookUp at h
  dsimp only at h
  split at h
  · cases h
  · rename_i body _
    cases hr : (Client.readHardware strict uri body).outcome with
    | error failure =>
      rw [hr] at h
      cases h
    | ok latest =>
      rw [hr] at h
      cases h
      rfl

lemma lookUp_sentBy (client : Client) (strict : Bool) (uri : Json) (supply : Supply) :
    (∀ event ∈ (client.lookUp strict uri supply).1.events, SentBy client event) ∧
      (client.lookUp strict uri supply).2.answers ⊆ supply.answers := by
  obtain ⟨hsent, hleft⟩ := exchange_sentBy client strict "GET" uri .null supply
  unfold Client.lookUp
  dsimp only
  split
  · exact ⟨hsent, hleft⟩
  · refine ⟨?_, hleft⟩
    intro event he
    simp only [List.mem_append, List.mem_map] at he
    rcases he with he | ⟨r, -, rfl⟩
    · exact hsent event he
    · exact fun _ _ h => nomatch h

lemma sentBy_of_trace {α : Type} {run : Run α} (hk : (binding client).Keeps run) {s : Scene}
    (hs : (binding client).holds s) : ∀ event ∈ (run.trace s).events, SentBy client event := by
  intro event he
  have hbound := (hk s hs).1.2
  simp only [Run.trace, Scene.events, List.mem_reverse, List.mem_map] at he
  obtain ⟨e, hm, rfl⟩ := he
  exact hbound.sent e hm

lemma bound_scene {order : PowerOrder} (hc : order.hardware.client = client)
    (hactions : ∀ action ∈ script.actions, KeepsClient client action) :
    (binding client).holds (script.scene order) := by
  refine ⟨?_, hc, fun e he => (nomatch he), fun e he => (nomatch he)⟩
  intro answer hm action ha
  exact hactions action (List.mem_append_left _ (List.mem_flatMap.mpr ⟨answer, hm, ha⟩))

lemma binding_hookAt (settings : Settings)
    (hactions : ∀ action ∈ script.actions, KeepsClient client action)
    (failOnTimeout ownPool : Bool) (order : PowerOrder) (steps : List Action) :
    let setup := script.setup settings failOnTimeout ownPool order steps
    (binding client).Hosts (KeepsClient client) setup (hookAt setup script.depth) :=
  (binding_governs client _).hosts_hookAt
    (fun number action ha => hactions action (script.duringWait_subset number ha)) _

lemma hardware_of_create {limit interval : Json} {order : PowerOrder}
    (h : PowerOrder.create settings hardware limit interval = .ok order) :
    order.hardware = hardware := by
  obtain ⟨_, -, h⟩ := exists_of_bind_eq_ok h
  obtain ⟨_, -, h⟩ := exists_of_bind_eq_ok h
  cases h
  rfl

lemma powerState_sentBy (hc : hardware.client = client)
    (hactions : ∀ action ∈ script.actions, KeepsClient client action) :
    ∀ event ∈ (hardware.powerState settings script).events, SentBy client event := by
  unfold ManagedHardware.powerState
  split
  · exact fun _ he => nomatch he
  · rename_i order hcreate
    have hh := binding_hookAt settings hactions false false order []
    have hbound : (binding client).holds (script.scene order) :=
      bound_scene (by rw [hardware_of_create hcreate, hc]) hactions
    exact sentBy_of_trace ((binding_serves client).keeps_observe hh
      (show Within (fun _ => True) .query from trivial) none) hbound

lemma setPowerState_sentBy (hc : hardware.client = client)
    (hactions : ∀ action ∈ script.actions, KeepsClient client action) (target : PowerState)
    (limit interval : Json) :
    ∀ event ∈ (hardware.setPowerState settings script target limit interval).events,
      SentBy client event := by
  unfold ManagedHardware.setPowerState
  split
  · exact fun _ he => nomatch he
  · rename_i hordered
    obtain ⟨order, hcreate, hordered⟩ := exists_of_bind_eq_ok hordered
    obtain ⟨failOnTimeout, -, hordered⟩ := exists_of_bind_eq_ok hordered
    cases hordered
    have hh := binding_hookAt settings hactions failOnTimeout.isGiven true order []
    have hbound : (binding client).holds (script.scene order) :=
      bound_scene (by rw [hardware_of_create hcreate, hc]) hactions
    exact sentBy_of_trace ((binding_governs client _).reigns.keeps_executeOnce hh trivial) hbound

/-- Without a client nothing is looked up. -/
lemma find_of_no_client {invocation : Invocation} {failure : Failure}
    (h : (Client.ofSettings settings).outcome = .error failure) (script : Script) :
    invocation.find settings script =
      (⟨.error failure, (Client.ofSettings settings).records.map Event.logged⟩, script) := by
  unfold Invocation.find
  dsimp only
  rw [h]

lemma find_of_client {invocation : Invocation}
    (h : (Client.ofSettings settings).outcome = .ok client) (script : Script) :
    invocation.find settings script =
      let found := client.lookUp settings.strict invocation.uri script.supply
      (⟨found.1.outcome,
        (Client.ofSettings settings).records.map Event.logged ++ found.1.events⟩,
        { script with supply := found.2 }) := by
  unfold Invocation.find
  dsimp only
  rw [h]

lemma mem_events_run {invocation : Invocation} {event : Event}
    (h : event ∈ (invocation.run settings script).2) :
    event ∈ (invocation.act settings script).events ∨ ∃ r, event = .logged r := by
  unfold Invocation.run at h
  dsimp only at h
  split at h
  · exact .inl h
  · split at h
    · rcases List.mem_append.mp h with h | h
      · exact .inl h
      · exact .inr ⟨_, List.mem_singleton.mp h⟩
    · exact .inl h

lemma mem_actions_of_left {left : Supply} (hleft : left.answers ⊆ script.supply.answers)
    {action : Action} (h : action ∈ Script.actions { script with supply := left }) :
    action ∈ script.actions := by
  rcases List.mem_append.mp h with h | h
  · obtain ⟨answer, hm, ha⟩ := List.mem_flatMap.mp h
    exact List.mem_append_left _ (List.mem_flatMap.mpr ⟨answer, hleft hm, ha⟩)
  · exact List.mem_append_right _ h

/-- Whatever an invocation sends goes through the client of its settings. -/
lemma run_sentBy (invocation : Invocation)
    (hclient : (Client.ofSettings settings).outcome = .ok client)
    (hactions : ∀ action ∈ script.actions, KeepsClient client action) :
    ∀ event ∈ (invocation.run settings script).2, SentBy client event := by
  intro event he
  rcases mem_events_run he with he | ⟨r, rfl⟩
  · have hbefore : ∀ event ∈ (Client.ofSettings settings).records.map Event.logged,
        SentBy client event := by
      intro event he
      obtain ⟨r, -, rfl⟩ := List.mem_map.mp he
      exact fun _ _ h => nomatch h
    obtain ⟨hfound, hleft⟩ :=
      lookUp_sentBy client settings.strict invocation.uri script.supply
    have hfind := List.forall_mem_append.mpr ⟨hbefore, hfound⟩
    unfold Invocation.act at he
    rw [find_of_client hclient] at he
    dsimp only at he
    split at he
    · exact hfind event he
    · rename_i hardware hlookUp
      rcases List.mem_append.mp he with he | he
      · exact hfind event he
      · have hc : hardware.client = client := lookUp_client hlookUp
        have hrest : ∀ action ∈ Script.actions
            { script with supply := (client.lookUp settings.strict invocation.uri
              script.supply).2 }, KeepsClient client action := by
          exact fun action ha => hactions action (mem_actions_of_left hleft ha)
        unfold Invocation.actOn at he
        dsimp only at he
        split at he
        · exact powerState_sentBy hc hrest event he
        · exact setPowerState_sentBy hc hrest _ _ _ event he
  · exact fun _ _ h => nomatch h

/-- Without a client nothing is sent. -/
lemma run_of_no_client (invocation : Invocation) {failure : Failure}
    (h : (Client.ofSettings settings).outcome = .error failure) :
    ∀ event ∈ (invocation.run settings script).2, sentRequest? event = none := by
  intro event he
  rcases mem_events_run he with he | ⟨r, rfl⟩
  · unfold Invocation.act at he
    rw [find_of_no_client h] at he
    obtain ⟨r, -, rfl⟩ := List.mem_map.mp he
    rfl
  · rfl

end Runs

/-- A client that is made of settings checks and bounds its requests as the settings say, and so is
every request of the tool, of a query and of a change that is begun with hardware reached through
the client, whoever interferes with whatever but another client; the order stays bound to the
client. Where unchecked connections are not allowed and no certificate is given there is no client,
and without a client the tool sends nothing. -/
theorem sent_as_configured {settings : Settings} (ht : Typed settings) :
    (∀ client, (Client.ofSettings settings).outcome = .ok client →
      Configured settings client ∧
      (∀ uri supply hardware, (client.lookUp settings.strict uri supply).1.outcome = .ok hardware →
        hardware.client = client) ∧
      ∀ script : Script, (∀ action ∈ script.actions, KeepsClient client action) →
        (∀ invocation : Invocation, ∀ event ∈ (invocation.run settings script).2,
          SentBy client event) ∧
        ∀ hardware : ManagedHardware, hardware.client = client →
          (∀ event ∈ (hardware.powerState settings script).events, SentBy client event) ∧
          (∀ target limit interval,
            ∀ event ∈ (hardware.setPowerState settings script target limit interval).events,
              SentBy client event) ∧
          ∀ order setup steps, order.hardware = hardware → setup.duringWait = script.duringWait →
            (∀ action ∈ steps, KeepsClient client action) →
            ∀ r ∈ script.play setup (script.scene order) steps, Bound client r.2) ∧
    (∀ insecure certificate, settings.read .insecure = .ok insecure → insecure.isGiven = false →
      settings.read .certificate = .ok certificate → certificate.isGiven = false →
      ∃ failure, (Client.ofSettings settings).outcome = .error failure ∧
        failure.kind = .manager) ∧
    ∀ failure, (Client.ofSettings settings).outcome = .error failure →
      ∀ (invocation : Invocation) script, ∀ event ∈ (invocation.run settings script).2,
        sentRequest? event = none := by
  refine ⟨?_, ?_, ?_⟩
  · intro client hclient
    refine ⟨configured_of_ofSettings ht hclient, fun _ _ _ => lookUp_client, ?_⟩
    intro script hactions
    refine ⟨fun invocation => run_sentBy invocation hclient hactions, ?_⟩
    intro hardware hc
    refine ⟨powerState_sentBy hc hactions, setPowerState_sentBy hc hactions, ?_⟩
    intro order setup steps horder hwaits hsteps r hr
    have hbound : (binding client).holds (script.scene order) :=
      bound_scene (by rw [horder, hc]) hactions
    have hduring : ∀ number, ∀ action ∈ setup.duringWait number, KeepsClient client action := by
      intro number action ha
      rw [hwaits] at ha
      exact hactions action (script.duringWait_subset number ha)
    have hplay := (binding_governs client setup).step_of_mem_play hduring script hsteps _ r hr
    exact (hplay hbound).1.2
  · intro insecure certificate hinsecure hi hcertificate hc
    exact ⟨_, ofSettings_eq_error hinsecure hi hcertificate hc, rfl⟩
  · exact fun failure h invocation script => run_of_no_client invocation h

def guardedSettings : Settings where
  entries :=
    [(.certificate, .given (.text "/etc/ca.pem")), (.managerUrl, .given (.text "ov.example")),
      (.requestTimeout, .given (.int 5))]

/-- The blade is off, is switched on and says so at the second check. -/
def switchedOnLater : Script where
  supply := .queue (["\x7b\"uri\": \"/b\", \"powerState\": \"Off\"\x7d",
    "\x7b\"uri\": \"/b\", \"powerState\": \"Off\"\x7d", "\x7b\"uri\": \"/t\"\x7d",
    "\x7b\"taskState\": \"Running\"\x7d", "\x7b\"taskState\": \"Completed\"\x7d"].map
      fun body => { content := .reply 200 "OK" body })

theorem sent_as_configured_guarded :
    let invocation : Invocation := ⟨.set .on, .text "/b", .null, .null, []⟩
    let ended := invocation.run guardedSettings switchedOnLater
    ∃ client, (Client.ofSettings guardedSettings).outcome = .ok client ∧
      client.verify = .text "/etc/ca.pem" ∧ client.timeout = .int 5 ∧
      ended.1 = .exited 0 "completed\n" ∧ (ended.2.filterMap sentRequest?).length = 5 ∧
      ∀ event ∈ ended.2, SentBy client event := by
  intro invocation ended
  let client : Client := ⟨"https://ov.example", none, "800", .text "/etc/ca.pem", .int 5⟩
  have ht : Typed guardedSettings := by
    intro key v hm
    simp only [guardedSettings, List.mem_cons, Prod.mk.injEq, OptionSource.given.injEq,
      List.not_mem_nil, or_false] at hm
    rcases hm with ⟨rfl, rfl⟩ | ⟨rfl, rfl⟩ | ⟨rfl, rfl⟩
    · exact .text _
    · exact .text _
    · exact .whole (by decide)
  have hclient : (Client.ofSettings guardedSettings).outcome = .ok client := by decide +kernel
  have hnobody : ∀ action ∈ switchedOnLater.actions, KeepsClient client action := by
    simp [switchedOnLater, Script.actions, Supply.answers]
  have hsent := ((sent_as_configured ht).1 client hclient).2.2 switchedOnLater hnobody
  exact ⟨client, hclient, rfl, rfl, by decide +kernel, by decide +kernel, hsent.1 invocation⟩

end ServerPower.Proofs
