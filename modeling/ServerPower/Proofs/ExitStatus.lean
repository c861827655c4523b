import ServerPower.Proofs.Breakdowns
import ServerPower.Proofs.Clock
import ServerPower.Proofs.Secured

/-!
# The exit status of the tool

Where the settings can be read and the manager's answers fail only as the network does, the tool
exits with the status 0 just when its command succeeded, and with the status 1 otherwise, unless a
failure that is none of this library escapes or the tool does not get beyond a wait. A failure
escapes just where an address cannot be requested, where a limit is no number, or where the messages
of a failed task are no texts. A wait that fails or does not end is one that was begun while the
attempt was not over, and as long as others leave the timing alone, one for an interval that the
clock does not get over.
-/

namespace ServerPower.Proofs
open Run CommandLine

/-- Every option has a value that its type accepts. -/
def Readable (settings : Settings) : Prop :=
  ∀ key, ∃ v, settings.read key = .ok v

/-- An invocation finds its hardware, and `left` is what is left of the script then. -/
structure Finds (settings : Settings) (script : Script) (invocation : Invocation)
    (hardware : ManagedHardware) (left : Script) : Prop where
  made : (Client.ofSettings settings).outcome = .ok hardware.client
  found : (hardware.client.lookUp settings.strict invocation.uri script.supply).1.outcome =
    .ok hardware
  left : left = { script with
    supply := (hardware.client.lookUp settings.strict invocation.uri script.supply).2 }

/-- The command of an invocation succeeds: the power state is found, or the change is completed. -/
inductive Succeeds (settings : Settings) (script : Script) (invocation : Invocation) : Prop
  | status {hardware : ManagedHardware} {left : Script} {state : PowerState}
      (finds : Finds settings script invocation hardware left)
      (asked : invocation.command = .status)
      (told : (hardware.powerState settings left).outcome = .ok state)
  | change {hardware : ManagedHardware} {left : Script} {target : PowerState}
      (finds : Finds settings script invocation hardware left)
      (asked : invocation.command = .set target)
      (completed : (hardware.setPowerState settings left target invocation.limit
        invocation.interval).outcome = .ok .completed)

/-- A failure escapes from an invocation: the address given, or the one that the hardware turned out
to have, cannot be requested, or the loop of the change breaks off. -/
inductive Escapes (settings : Settings) (script : Script) (invocation : Invocation)
    (failure : Failure) : Prop
  | address {client : Client} (made : (Client.ofSettings settings).outcome = .ok client)
      (refused : client.request "GET" invocation.uri .null = .error failure)
  | query {hardware : ManagedHardware} {left : Script}
      (finds : Finds settings script invocation hardware left)
      (asked : invocation.command = .status) (given : hardware.hardware.uri.isGiven)
      (refused : hardware.client.request "GET" hardware.hardware.uri .null = .error failure)
  | change {hardware : ManagedHardware} {left : Script} {target : PowerState} {order : PowerOrder}
      {failOnTimeout : Json} {checks : Nat} {u : Scene}
      (finds : Finds settings script invocation hardware left)
      (asked : invocation.command = .set target)
      (ordered : PowerOrder.create settings hardware invocation.limit invocation.interval =
        .ok order)
      (timeouts : settings.read .failOnTimeout = .ok failOnTimeout)
      (breaks : let setup := left.setup settings failOnTimeout.isGiven true order []
        BreaksOff setup (hookAt setup left.depth) target (left.scene order) failure checks u)

/-- An invocation does not get beyond a wait of its change, for this reason. -/
inductive Halts (settings : Settings) (script : Script) (invocation : Invocation) (halt : Halt) :
    Prop
  | change {hardware : ManagedHardware} {left : Script} {target : PowerState} {order : PowerOrder}
      {failOnTimeout : Json} {checks : Nat}
      (finds : Finds settings script invocation hardware left)
      (asked : invocation.command = .set target)
      (ordered : PowerOrder.create settings hardware invocation.limit invocation.interval =
        .ok order)
      (timeouts : settings.read .failOnTimeout = .ok failOnTimeout)
      (bound : checks ≤ left.checkBound [] order.limit)
      (overruns : let setup := left.setup settings failOnTimeout.isGiven true order []
        Overruns setup (hookAt setup left.depth) target (order.attempt + 1) halt 0
          (loopBegun setup (hookAt setup left.depth) target (left.scene order)) checks)

/-- How the tool ends if it ends truthfully: where it gets beyond every wait, with the status 0 just
if it succeeds, with a failure if that is the one that escapes, and else with the status 1. -/
inductive Truthful (succeeds : Prop) (escapes : Failure → Prop) (halts : Halt → Prop) :
    TimedEnding → Prop
  | success {output : String} (done : succeeds) (caught : ∀ failure, ¬ escapes failure)
      (timely : ∀ halt, ¬ halts halt) :
      Truthful succeeds escapes halts (.ended (.exited 0 output))
  | failure {output : String} (undone : ¬ succeeds) (caught : ∀ failure, ¬ escapes failure)
      (timely : ∀ halt, ¬ halts halt) :
      Truthful succeeds escapes halts (.ended (.exited 1 output))
  | escape {failure : Failure} (undone : ¬ succeeds) (escaped : escapes failure)
      (only : ∀ other, escapes other → other = failure) (timely : ∀ halt, ¬ halts halt) :
      Truthful succeeds escapes halts (.ended (.failed failure))
  | halt {halt : Halt} (halted : halts halt) (only : ∀ other, halts other → other = halt) :
      Truthful succeeds escapes halts (.halted halt)

/-- A report fails only with failures of this library. -/
def Tame {α : Type} (report : Report α) : Prop :=
  ∀ failure, report.outcome = .error failure → failure.isA .general

section Settings

variable {settings : Settings} {α β : Type}

lemma tame_pure (a : α) : Tame (pure a : Report α) :=
  fun _ h => nomatch h

lemma tame_bind {report : Report α} {next : α → Report β} (h : Tame report)
    (hn : ∀ a, report.outcome = .ok a → Tame (next a)) : Tame (report >>= next) := by
  intro failure hf
  cases ho : report.outcome with
  | error other =>
    rw [Report.bind_of_error ho] at hf
    cases hf
    exact h _ ho
  | ok a =>
    rw [Report.bind_of_ok ho] at hf
    exact hn a ho failure hf

lemma tame_raise {strict : Bool} {kind : FailureKind} {values : Template.Values}
    {failure : Failure} (hb : Failure.build strict kind values = pure failure)
    (hg : failure.isA .general) : Tame (Failure.raise strict kind values : Report α) := by
  intro other hf
  rw [raise_outcome, raised_of_build hb] at hf
  cases hf
  exact hg

lemma tame_demand (hr : Readable settings) (key : OptionKey) : Tame (settings.demand key) := by
  intro failure hf
  obtain ⟨v, hv⟩ := hr key
  cases hv.symm.trans hf

lemma tame_verification (strict : Bool) (insecure certificate : Json) :
    Tame (Client.verification strict insecure certificate) := by
  unfold Client.verification
  split
  · dsimp only
    split
    · exact tame_bind (fun _ h => nomatch h) (fun _ _ => tame_pure _)
    · exact tame_pure _
  · split
    · exact tame_pure _
    · exact tame_raise (build_manager _ _) rfl

/-- An address that is a text, or not given, is missing at most. -/
lemma tame_managerUrl (strict : Bool) {address : Json} (ht : Takes .text address) :
    Tame (Client.managerUrl strict address) := by
  have htext : ∃ text, Client.addressText address = .ok text := by
    cases ht with
    | nothing => exact ⟨_, rfl⟩
    | text s => exact ⟨_, rfl⟩
  unfold Client.managerUrl
  apply tame_bind
  · intro failure hf
    obtain ⟨text, h⟩ := htext
    cases h.symm.trans hf
  · intro text _
    dsimp only
    split
    · exact tame_bind (tame_raise (build_invalidParameter _ _) rfl) (fun _ _ => tame_pure _)
    · exact tame_pure _

/-- Where no client can be made of typed settings, the failure is one of this library. -/
lemma tame_ofSettings (ht : Typed settings) (hr : Readable settings) :
    Tame (Client.ofSettings settings) := by
  unfold Client.ofSettings
  apply tame_bind (tame_demand hr _)
  intro insecure _
  apply tame_bind (tame_demand hr _)
  intro certificate _
  apply tame_bind (tame_verification _ _ _)
  intro verify _
  apply tame_bind (tame_demand hr _)
  intro address haddress
  apply tame_bind (tame_demand hr _)
  intro token _
  apply tame_bind (tame_demand hr _)
  intro version _
  apply tame_bind (tame_demand hr _)
  intro timeout _
  apply tame_bind (tame_managerUrl _ (takes_of_read ht haddress))
  exact fun _ _ => tame_pure _

lemma exists_create (hr : Readable settings) (hardware : ManagedHardware) (limit interval : Json) :
    ∃ order, PowerOrder.create settings hardware limit interval = .ok order := by
  have hvalue : ∀ key v, ∃ w, PowerOrder.orSetting settings key v = .ok w := by
    intro key v
    cases v with
    | null => exact hr key
    | _ => exact ⟨_, rfl⟩
  obtain ⟨limit', hl⟩ := hvalue .pollLimit limit
  obtain ⟨interval', hi⟩ := hvalue .pollInterval interval
  unfold PowerOrder.create
  rw [hl, hi]
  exact ⟨_, rfl⟩

lemma interval_of_create {hardware : ManagedHardware} {limit interval : Json} {order : PowerOrder}
    (h : PowerOrder.create settings hardware limit interval = .ok order) :
    PowerOrder.orSetting settings .pollInterval interval = .ok order.interval := by
  obtain ⟨limit', -, h⟩ := exists_of_bind_eq_ok h
  obtain ⟨interval', hinterval, h⟩ := exists_of_bind_eq_ok h
  cases h
  exact hinterval

end Settings

section Queries

variable {settings : Settings} {script : Script} {client : Client} {hardware : ManagedHardware}
  {failure : Failure}

/-- A look-up fails because it cannot be requested, or with a failure of this library. -/
lemma lookUp_error {strict : Bool} {uri : Json} {supply : Supply} (hn : OnlyNetwork supply)
    (h : (client.lookUp strict uri supply).1.outcome = .error failure) :
    client.request "GET" uri .null = .error failure ∨ failure.isA .general := by
  unfold Client.lookUp Client.exchange at h
  cases hr : client.request "GET" uri .null with
  | error other =>
    simp only [hr] at h
    cases h
    exact .inl rfl
  | ok request =>
    simp only [hr] at h
    right
    split at h
    · rename_i hread
      cases h
      exact general_of_kind (readAnswer_error (hn.next request) hread) rfl
    · rename_i body _
      cases hread : (Client.readHardware strict uri body).outcome with
      | error other =>
        rw [hread] at h
        cases h
        exact general_of_kind (readHardware_error hread) rfl
      | ok latest =>
        rw [hread] at h
        cases h

lemma lookUp_of_refused {strict : Bool} {uri : Json} {supply : Supply}
    (h : client.request "GET" uri .null = .error failure) :
    (client.lookUp strict uri supply).1.outcome = .error failure := by
  unfold Client.lookUp Client.exchange
  simp only [h]

/-- The supply that is left of one that fails only as the network does is such a one. -/
lemma OnlyNetwork.left (hn : OnlyNetwork script.supply) {invocation : Invocation} {left : Script}
    (hf : Finds settings script invocation hardware left) : OnlyNetwork left.supply := by
  have hleft := (lookUp_sentBy hardware.client settings.strict invocation.uri script.supply).2
  rw [hf.left]
  exact fun answer ha => hn answer (hleft ha)

lemma powerState_error_iff (hr : Readable settings) (hn : OnlyNetwork script.supply) :
    (hardware.powerState settings script).outcome = .error failure ∧
        failure.isA .general = false ↔
      hardware.hardware.uri.isGiven ∧
        hardware.client.request "GET" hardware.hardware.uri .null = .error failure := by
  obtain ⟨order, ho⟩ := exists_create hr hardware .null .null
  have hheld : (script.scene order).order.hardware = hardware := hardware_of_create ho
  let setup := script.setup settings false false order []
  have htotal := total_hookAt setup script.depth
  have htrace : (hardware.powerState settings script).outcome =
      ((observe setup (hookAt setup script.depth) .query none).run (script.scene order)).1 := by
    unfold ManagedHardware.powerState
    rw [ho]
    rfl
  rw [htrace]
  constructor
  · rintro ⟨hrun, hg⟩
    have hfailed := (observe_error htotal hn (Prod.ext hrun rfl)).resolve_right
      (by rw [hg]; exact Bool.false_ne_true)
    rwa [hheld] at hfailed
  · rintro ⟨hgiven, hrefused⟩
    rw [← hheld] at hgiven hrefused
    refine ⟨?_, (request_error hrefused).not_general⟩
    rw [observe_of_refused htotal hgiven hrefused]

lemma ordered_eq {limit interval failOnTimeout : Json} {order : PowerOrder}
    (ho : PowerOrder.create settings hardware limit interval = .ok order)
    (hf : settings.read .failOnTimeout = .ok failOnTimeout) (script : Script) :
    hardware.ordered settings script limit interval =
      .ok (script.setup settings failOnTimeout.isGiven true order [], script.scene order) := by
  unfold ManagedHardware.ordered
  rw [ho, hf]
  rfl

/-- A change is not got beyond just where its loop overruns. -/
lemma halt?_eq_iff {target : PowerState} {limit interval failOnTimeout : Json} {order : PowerOrder}
    (ho : PowerOrder.create settings hardware limit interval = .ok order)
    (hf : settings.read .failOnTimeout = .ok failOnTimeout) {halt : Halt} :
    hardware.halt? settings script target limit interval = some halt ↔
      let setup := script.setup settings failOnTimeout.isGiven true order []
      ∃ checks ≤ script.checkBound [] order.limit,
        Overruns setup (hookAt setup script.depth) target (order.attempt + 1) halt 0
          (loopBegun setup (hookAt setup script.depth) target (script.scene order)) checks := by
  let setup := script.setup settings failOnTimeout.isGiven true order []
  have htotal := total_hookAt setup script.depth
  have hiff : ((executeOnClock setup (hookAt setup script.depth) target).run
      (script.scene order)).1 = .ok (some halt) ↔ _ := executeOnClock_eq_iff htotal rfl
  unfold ManagedHardware.halt?
  rw [ordered_eq ho hf]
  refine Iff.trans ?_ hiff
  dsimp only
  cases ((executeOnClock setup (hookAt setup script.depth) target).run (script.scene order)).1 with
  | error failure => simp
  | ok halt? => simp

lemma setPowerState_error_iff (hn : OnlyNetwork script.supply)
    {target : PowerState} (ht : target ∈ PowerState.targets) {limit interval failOnTimeout : Json}
    {order : PowerOrder} (ho : PowerOrder.create settings hardware limit interval = .ok order)
    (hf : settings.read .failOnTimeout = .ok failOnTimeout) :
    (hardware.setPowerState settings script target limit interval).outcome = .error failure ∧
        failure.isA .general = false ↔
      let setup := script.setup settings failOnTimeout.isGiven true order []
      ∃ checks u, BreaksOff setup (hookAt setup script.depth) target (script.scene order) failure
        checks u := by
  let setup := script.setup settings failOnTimeout.isGiven true order []
  have htrace : (hardware.setPowerState settings script target limit interval).outcome =
      ((execute setup (hookAt setup script.depth) target).run (script.scene order)).1 := by
    unfold ManagedHardware.setPowerState
    rw [ordered_eq ho hf]
    show ((executeOnce setup (hookAt setup script.depth) target).run (script.scene order)).1 = _
    rw [run_executeOnce]
  rw [htrace]
  exact execute_error_iff ht rfl hn

end Queries

section Invocations

variable {settings : Settings} {script left : Script} {invocation : Invocation}
  {hardware : ManagedHardware} {failure : Failure}

lemma Finds.find (h : Finds settings script invocation hardware left) :
    (invocation.find settings script).1.outcome = .ok hardware ∧
      (invocation.find settings script).2 = left := by
  rw [find_of_client h.made]
  exact ⟨h.found, h.left.symm⟩

/-- An invocation that finds its hardware comes to what its command comes to. -/
lemma Finds.act_outcome (h : Finds settings script invocation hardware left) :
    (invocation.act settings script).outcome =
      (invocation.actOn settings left hardware).outcome := by
  obtain ⟨hfound, hleft⟩ := h.find
  unfold Invocation.act
  dsimp only
  rw [hfound, hleft]

lemma act_of_not_found (h : (invocation.find settings script).1.outcome = .error failure) :
    (invocation.act settings script).outcome = .error failure := by
  unfold Invocation.act
  dsimp only
  rw [h]

/-- An invocation has no client, or cannot look its hardware up, or finds it. -/
lemma find_cases (settings : Settings) (script : Script) (invocation : Invocation) :
    (∃ failure, (Client.ofSettings settings).outcome = .error failure ∧
        (invocation.find settings script).1.outcome = .error failure) ∨
      (∃ client failure, (Client.ofSettings settings).outcome = .ok client ∧
        (client.lookUp settings.strict invocation.uri script.supply).1.outcome = .error failure ∧
        (invocation.find settings script).1.outcome = .error failure) ∨
      ∃ hardware left, Finds settings script invocation hardware left := by
  cases hc : (Client.ofSettings settings).outcome with
  | error failure =>
    refine .inl ⟨failure, rfl, ?_⟩
    rw [find_of_no_client hc]
  | ok client =>
    right
    have hfind : invocation.find settings script = _ := find_of_client hc script
    cases hf : (client.lookUp settings.strict invocation.uri script.supply).1.outcome with
    | error failure =>
      refine .inl ⟨client, failure, rfl, hf, ?_⟩
      rw [hfind]
      exact hf
    | ok hardware =>
      obtain rfl := lookUp_client hf
      exact .inr ⟨hardware, _, hc, hf, rfl⟩

lemma Finds.unique (h : Finds settings script invocation hardware left)
    {hardware' : ManagedHardware} {left' : Script}
    (h' : Finds settings script invocation hardware' left') :
    hardware' = hardware ∧ left' = left := by
  have hclient : hardware'.client = hardware.client := by
    have hmade := h'.made.symm.trans h.made
    exact Except.ok.inj hmade
  have hfound := h'.found
  rw [hclient, h.found] at hfound
  obtain rfl := Except.ok.inj hfound
  exact ⟨rfl, h'.left.trans h.left.symm⟩

/-- What escapes from an invocation are its failures that are none of this library. -/
lemma act_error_iff (ht : Typed settings) (hr : Readable settings)
    (hn : OnlyNetwork script.supply)
    (hs : ∀ target, invocation.command = .set target → target ∈ PowerState.targets) :
    (invocation.act settings script).outcome = .error failure ∧ failure.isA .general = false ↔
      Escapes settings script invocation failure := by
  constructor
  · rintro ⟨ho, hg⟩
    have hnot : ¬ failure.isA .general := by
      rw [hg]
      exact Bool.false_ne_true
    rcases find_cases settings script invocation with
      ⟨other, hc, hfind⟩ | ⟨client, other, hc, hf, hfind⟩ | ⟨hardware, left, hfinds⟩
    · cases (act_of_not_found hfind).symm.trans ho
      exact absurd (tame_ofSettings ht hr _ hc) hnot
    · cases (act_of_not_found hfind).symm.trans ho
      exact .address hc ((lookUp_error hn hf).resolve_right hnot)
    · rw [hfinds.act_outcome] at ho
      unfold Invocation.actOn at ho
      cases hcommand : invocation.command with
      | status =>
        simp only [hcommand] at ho
        cases hstate : (hardware.powerState settings left).outcome with
        | ok state =>
          rw [hstate] at ho
          cases ho
        | error other =>
          rw [hstate] at ho
          cases ho
          obtain ⟨hgiven, hrefused⟩ :=
            (powerState_error_iff hr (hn.left hfinds)).mp ⟨hstate, hg⟩
          exact .query hfinds hcommand hgiven hrefused
      | set target =>
        simp only [hcommand] at ho
        obtain ⟨order, horder⟩ := exists_create hr hardware invocation.limit invocation.interval
        obtain ⟨failOnTimeout, htimeouts⟩ := hr .failOnTimeout
        cases hresult : (hardware.setPowerState settings left target invocation.limit
            invocation.interval).outcome with
        | ok result =>
          rw [hresult] at ho
          cases ho
        | error other =>
          rw [hresult] at ho
          cases ho
          obtain ⟨checks, u, hbreaks⟩ := (setPowerState_error_iff (hn.left hfinds)
            (hs target hcommand) horder htimeouts).mp ⟨hresult, hg⟩
          exact .change hfinds hcommand horder htimeouts hbreaks
  · intro he
    cases he with
    | address made refused =>
      refine ⟨act_of_not_found ?_, (request_error refused).not_general⟩
      rw [find_of_client made]
      exact lookUp_of_refused refused
    | query finds asked given refused =>
      obtain ⟨ho, hg⟩ := (powerState_error_iff hr (hn.left finds)).mpr ⟨given, refused⟩
      refine ⟨?_, hg⟩
      rw [finds.act_outcome]
      unfold Invocation.actOn
      simp only [asked, ho]
      rfl
    | change finds asked ordered timeouts breaks =>
      obtain ⟨ho, hg⟩ := (setPowerState_error_iff (hn.left finds) (hs _ asked) ordered
        timeouts).mpr ⟨_, _, breaks⟩
      refine ⟨?_, hg⟩
      rw [finds.act_outcome]
      unfold Invocation.actOn
      simp only [asked, ho]
      rfl

/-- An invocation is answered with the status 0 just when its command succeeds, and otherwise with
the status 1. -/
lemma act_ok {answered : Answered} (h : (invocation.act settings script).outcome = .ok answered) :
    (answered.status = 0 ∧ Succeeds settings script invocation) ∨
      (answered.status = 1 ∧ ¬ Succeeds settings script invocation) := by
  rcases find_cases settings script invocation with
    ⟨other, -, hfind⟩ | ⟨client, other, -, -, hfind⟩ | ⟨hardware, left, hfinds⟩
  · cases (act_of_not_found hfind).symm.trans h
  · cases (act_of_not_found hfind).symm.trans h
  · rw [hfinds.act_outcome] at h
    unfold Invocation.actOn at h
    cases hcommand : invocation.command with
    | status =>
      simp only [hcommand] at h
      cases hstate : (hardware.powerState settings left).outcome with
      | error failure =>
        rw [hstate] at h
        cases h
      | ok state =>
        rw [hstate] at h
        cases h
        exact .inl ⟨rfl, .status hfinds hcommand hstate⟩
    | set target =>
      simp only [hcommand] at h
      cases hresult : (hardware.setPowerState settings left target invocation.limit
          invocation.interval).outcome with
      | error failure =>
        rw [hresult] at h
        cases h
      | ok result =>
        rw [hresult] at h
        cases h
        by_cases hcompleted : result = .completed
        · subst hcompleted
          exact .inl ⟨rfl, .change hfinds hcommand hresult⟩
        · refine .inr ⟨if_neg hcompleted, ?_⟩
          intro hsucceeds
          cases hsucceeds with
          | status finds asked told => cases hcommand.symm.trans asked
          | change finds asked completed =>
            obtain ⟨rfl, rfl⟩ := hfinds.unique finds
            cases hcommand.symm.trans asked
            cases hresult.symm.trans completed
            exact hcompleted rfl

/-- An invocation that fails does not succeed. -/
lemma not_succeeds_of_error (h : (invocation.act settings script).outcome = .error failure) :
    ¬ Succeeds settings script invocation := by
  intro hs
  cases hs with
  | status finds asked told =>
    rw [finds.act_outcome] at h
    unfold Invocation.actOn at h
    simp only [asked, told] at h
    cases h
  | change finds asked completed =>
    rw [finds.act_outcome] at h
    unfold Invocation.actOn at h
    simp only [asked, completed] at h
    cases h

lemma run_of_ok {answered : Answered}
    (h : (invocation.act settings script).outcome = .ok answered) :
    (invocation.run settings script).1 = .exited answered.status (answered.line ++ "\n") := by
  unfold Invocation.run
  dsimp only
  rw [h]

lemma run_of_error (h : (invocation.act settings script).outcome = .error failure) :
    (invocation.run settings script).1 =
      if failure.isA .general then .exited 1 "" else .failed failure := by
  unfold Invocation.run
  dsimp only
  rw [h]
  dsimp only
  split <;> rfl

/-- An invocation that finds its hardware gets as far as the change that it asks for. -/
lemma Finds.halt?_eq (h : Finds settings script invocation hardware left) {target : PowerState}
    (hc : invocation.command = .set target) :
    invocation.halt? settings script =
      hardware.halt? settings left target invocation.limit invocation.interval := by
  obtain ⟨hfound, hleft⟩ := h.find
  unfold Invocation.halt?
  dsimp only
  rw [hfound, hleft, hc]

lemma finds_of_halt? {halt : Halt} (h : invocation.halt? settings script = some halt) :
    ∃ hardware left target, Finds settings script invocation hardware left ∧
      invocation.command = .set target := by
  unfold Invocation.halt? at h
  rcases find_cases settings script invocation with
    ⟨failure, -, hfind⟩ | ⟨client, failure, -, -, hfind⟩ | ⟨hardware, left, hfinds⟩
  · simp only [hfind] at h
    cases h
  · simp only [hfind] at h
    cases h
  · cases hc : invocation.command with
    | status =>
      dsimp only at h
      rw [hfinds.find.1, hc] at h
      cases h
    | set target => exact ⟨hardware, left, target, hfinds, rfl⟩

/-- The clock stops an invocation just where the change that it asks for overruns. -/
lemma invocation_halt?_eq_iff (hr : Readable settings) {halt : Halt} :
    invocation.halt? settings script = some halt ↔ Halts settings script invocation halt := by
  constructor
  · intro h
    obtain ⟨hardware, left, target, hfinds, hc⟩ := finds_of_halt? h
    obtain ⟨order, horder⟩ := exists_create hr hardware invocation.limit invocation.interval
    obtain ⟨failOnTimeout, htimeouts⟩ := hr .failOnTimeout
    rw [hfinds.halt?_eq hc] at h
    obtain ⟨checks, hbound, hoverruns⟩ := (halt?_eq_iff horder htimeouts).mp h
    exact .change hfinds hc horder htimeouts hbound hoverruns
  · intro h
    cases h with
    | change finds asked ordered timeouts bound overruns =>
      rw [finds.halt?_eq asked]
      exact (halt?_eq_iff ordered timeouts).mpr ⟨_, bound, overruns⟩

/-- Where others leave the timing alone, what an invocation halts over is the interval asked for, or
the one of the settings. -/
lemma Halts.of?_interval {halt : Halt} (h : Halts settings script invocation halt)
    (hactions : ∀ action ∈ script.actions, Untimed action) :
    ∃ target interval, invocation.command = .set target ∧
      PowerOrder.orSetting settings .pollInterval invocation.interval = .ok interval ∧
      Halt.of? interval = some halt := by
  cases h with
  | @change hardware left target order _ checks finds asked ordered timeouts bound overruns =>
    have hleft := (lookUp_sentBy hardware.client settings.strict invocation.uri script.supply).2
    have hwithin : ∀ action ∈ left.actions, Untimed action := by
      rw [finds.left]
      exact fun action ha => hactions action (mem_actions_of_left hleft ha)
    have hwaits : ∀ number, ∀ action ∈ left.duringWait number, Untimed action :=
      fun number action ha => hwithin action (left.duringWait_subset number ha)
    have hanswers : Confined Untimed left.supply := by
      intro answer hanswer action ha
      exact hwithin action (List.mem_append_left _ (List.mem_flatMap.mpr ⟨answer, hanswer, ha⟩))
    refine ⟨target, order.interval, asked, interval_of_create ordered, ?_⟩
    exact Overruns.of?_interval (s := left.scene order) hwaits hanswers overruns

lemma mem_targets_of_ofArguments {places : Places} {argv : List String}
    (h : Invocation.ofArguments places argv = .ok invocation) :
    ∀ target, invocation.command = .set target → target ∈ PowerState.targets := by
  intro target hcommand
  unfold Invocation.ofArguments at h
  obtain ⟨outer, -, h⟩ := exists_of_bind_eq_ok h
  split at h
  · cases h
  · split at h
    · cases h
    · rename_i command hlookup
      obtain ⟨inner, -, h⟩ := exists_of_bind_eq_ok h
      split at h
      · cases h
      · split at h
        · cases h
        · cases h
          obtain rfl : command = .set target := hcommand
          obtain ⟨before, after, hall, -⟩ := List.lookup_eq_some_iff.mp hlookup
          have hmem : Command.set target ∈ Command.all.map Prod.snd := by simp [hall]
          simpa [Command.all, PowerState.targets] using hmem

end Invocations

/-- Where the arguments and the settings are accepted, every option can be read and the manager's
answers fail only as the network does, the tool ends truthfully. As long as others leave the timing
alone, it halts only over an interval that the clock does not get over. -/
theorem exits_truthfully {places : Places} {argv : List String} {settings configured : Settings}
    {invocation : Invocation} {script : Script} (typed : Typed settings)
    (accepted : Invocation.ofArguments places argv = .ok invocation)
    (configures : configure places settings invocation.given = .ok configured)
    (readable : Readable configured) (network : OnlyNetwork script.supply) :
    Truthful (Succeeds configured script invocation) (Escapes configured script invocation)
        (Halts configured script invocation) (runOnClock places argv settings script) ∧
      ((∀ action ∈ script.actions, Untimed action) →
        ∀ halt, Halts configured script invocation halt →
          ∃ target interval, invocation.command = .set target ∧
            PowerOrder.orSetting configured .pollInterval invocation.interval = .ok interval ∧
            Halt.of? interval = some halt) := by
  have hprepared : prepare places argv settings = .ok (invocation, configured) := by
    unfold prepare
    rw [accepted]
    dsimp only [bind, Except.bind]
    rw [configures]
    rfl
  have hhalts : ∀ halt, invocation.halt? configured script = some halt ↔
      Halts configured script invocation halt := fun _ => invocation_halt?_eq_iff readable
  refine ⟨?_, fun hactions halt hhalt => hhalt.of?_interval hactions⟩
  have hescapes : ∀ failure, (invocation.act configured script).outcome = .error failure ∧
      failure.isA .general = false ↔ Escapes configured script invocation failure :=
    fun _ => act_error_iff (typed_configure typed configures) readable network
      (mem_targets_of_ofArguments accepted)
  unfold runOnClock
  rw [hprepared]
  dsimp only
  cases hh : invocation.halt? configured script with
  | some halt =>
    refine .halt ((hhalts halt).mp hh) (fun other ho => ?_)
    exact Option.some.inj (((hhalts other).mpr ho).symm.trans hh)
  | none =>
    have htimely : ∀ halt, ¬ Halts configured script invocation halt := by
      intro halt hhalt
      cases hh.symm.trans ((hhalts halt).mpr hhalt)
    dsimp only
    cases ho : (invocation.act configured script).outcome with
    | ok answered =>
      have hnone : ∀ failure, ¬ Escapes configured script invocation failure := by
        intro failure he
        cases ho.symm.trans ((hescapes failure).mpr he).1
      rw [run_of_ok ho]
      rcases act_ok ho with ⟨hstatus, hs⟩ | ⟨hstatus, hs⟩
      · rw [hstatus]
        exact .success hs hnone htimely
      · rw [hstatus]
        exact .failure hs hnone htimely
    | error failure =>
      have hfails := not_succeeds_of_error ho
      rw [run_of_error ho]
      cases hg : failure.isA .general with
      | true =>
        rw [if_pos rfl]
        refine .failure hfails (fun other he => ?_) htimely
        obtain ⟨hother, hnot⟩ := (hescapes other).mpr he
        cases ho.symm.trans hother
        cases hg.symm.trans hnot
      | false =>
        rw [if_neg Bool.false_ne_true]
        refine .escape hfails ((hescapes failure).mp ⟨ho, hg⟩) (fun other he => ?_) htimely
        cases ho.symm.trans ((hescapes other).mpr he).1
        rfl

def openSettings : Settings :=
  .ofFile "oneview" [("manager_url", "ov.example"), ("allow_insecure_connections", "true")]

/-- The settings that the tool makes of these, with no flags before the command. -/
def openTool : Settings :=
  { openSettings with
    common := (flaggedOptions ++ unflaggedOptions).map (withGiven []), formerNames }

lemma readable_openTool : Readable openTool := by
  have hread : ∀ key : OptionKey, (openTool.read key).toBool := by
    intro key
    cases key <;> decide +kernel
  intro key
  have h := hread key
  cases hr : openTool.read key with
  | ok v => exact ⟨v, rfl⟩
  | error failure =>
    rw [hr] at h
    cases h

theorem exits_truthfully_switchedOn :
    let argv := ["on", "--server-hardware-uri", "/b"]
    let invocation : Invocation := ⟨.set .on, .text "/b", .null, .null, []⟩
    runOnClock .usual argv openSettings switchedOnLater = .ended (.exited 0 "completed\n") ∧
      Succeeds openTool switchedOnLater invocation := by
  intro argv invocation
  have hended : runOnClock .usual argv openSettings switchedOnLater =
      .ended (.exited 0 "completed\n") := by decide +kernel
  have haccepted : Invocation.ofArguments .usual argv = .ok invocation := by decide +kernel
  have hconfigures : configure .usual openSettings invocation.given = .ok openTool := rfl
  have hnetwork : OnlyNetwork switchedOnLater.supply := by
    simp [OnlyNetwork, switchedOnLater, Supply.answers]
  have htyped : Typed openSettings := typed_ofFile _ _
  obtain ⟨htruthful, -⟩ :=
    exits_truthfully htyped haccepted hconfigures readable_openTool hnetwork
  rw [hended] at htruthful
  cases htruthful with
  | success done caught timely => exact ⟨hended, done⟩

example : runOnClock .usual
    ["on", "--server-hardware-uri", "/b", "--wait-time", "10000000000"] openSettings
    switchedOnLater = .halted (.failed .overflow) := by decide +kernel
example : runOnClock .usual ["on", "--server-hardware-uri", "/b", "--wait-time=--"] openSettings
    switchedOnLater = .halted (.failed .wrongType) := by decide +kernel

/-- The manager describes hardware whose address is a number. -/
def numberedAddress : Script where
  supply := .queue [{ content := .reply 200 "OK" "\x7b\"uri\": 5\x7d" }]

/-- The hardware that is looked up has an address that cannot be requested. Its failure escapes. -/
theorem status_of_numberedAddress :
    let argv := ["status", "--server-hardware-uri", "/rest/server-hardware/1"]
    let invocation : Invocation :=
      ⟨.status, .text "/rest/server-hardware/1", .null, .null, []⟩
    Typed openSettings ∧ Invocation.ofArguments .usual argv = .ok invocation ∧
      configure .usual openSettings invocation.given = .ok openTool ∧ Readable openTool ∧
      OnlyNetwork numberedAddress.supply ∧
      runOnClock .usual argv openSettings numberedAddress =
        .ended (.failed ⟨.wrongType, "Cannot mix str and non-str arguments"⟩) := by
  intro argv invocation
  have hnetwork : OnlyNetwork numberedAddress.supply := by
    simp [OnlyNetwork, numberedAddress, Supply.answers]
  exact ⟨typed_ofFile _ _, by decide +kernel, rfl, readable_openTool, hnetwork,
    by decide +kernel⟩

end ServerPower.Proofs
