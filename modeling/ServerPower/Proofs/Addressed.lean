import ServerPower.Proofs.Attempts
import ServerPower.Proofs.Unattended

/-!
# Addressed hardware

An order whose hardware has an address keeps it, and asks for changes under it, until the manager
answers a query with hardware that has none: what a query finds takes the place of the hardware
asked for, whether or not it can be asked for again.
-/

namespace ServerPower.Proofs
open Run

/-- A query that was sent for hardware with an address was answered with hardware without one. -/
def AnsweredWithoutAddress (entries : List Entry) : Prop :=
  ∃ asked ∈ entries, ∃ told ∈ entries, ∃ origin request body latest,
    asked.event = .sent origin request ∧ asked.order.hardware.hardware.uri.isGiven ∧
    asked.order.hardware.client.request "GET" asked.order.hardware.hardware.uri .null =
      .ok request ∧
    told.event = .answered origin request (.ok body) ∧ Describes body latest ∧
    ¬ latest.uri.isGiven

/-- A request for a change goes to the power address of hardware that has an address. -/
def WellAddressed (order : PowerOrder) (request : Request) : Prop :=
  ∃ u target, u ≠ "" ∧ order.hardware.hardware.uri = .text u ∧
    order.hardware.client.request "PUT" (.text (u ++ "/powerState")) (changeBody target) =
      .ok request

/-- The hardware of the order has an address and always had one, and every request for a change went
there. -/
structure Addressed (s : Scene) : Prop where
  held : s.order.hardware.hardware.uri.isGiven
  always : ∀ e ∈ s.journal, e.order.hardware.hardware.uri.isGiven
  changes : ∀ e ∈ s.journal, ∀ origin request, e.event = .sent origin request →
    request.method = "PUT" → WellAddressed e.order request

/-- Nobody turns the order over to hardware without an address. -/
def KeepsAddress : Action → Prop
  | .setHardware hardware => hardware.hardware.uri.isGiven
  | _ => True

def addressing : Law where
  holds s := (∀ answer ∈ s.supply.answers, ∀ action ∈ answer.during, KeepsAddress action) ∧
    (AnsweredWithoutAddress s.journal ∨ Addressed s)
  leads s t := s.journal <:+ t.journal
  refl _ := List.suffix_rfl
  trans h1 h2 := h1.trans h2

section Steps

variable {s t : Scene}

lemma AnsweredWithoutAddress.grow {entries more : List Entry} (h : AnsweredWithoutAddress entries)
    (hm : entries <:+ more) : AnsweredWithoutAddress more := by
  obtain ⟨asked, ha, told, ht, hrest⟩ := h
  exact ⟨asked, hm.subset ha, told, hm.subset ht, hrest⟩

/-- A request for a change, sent where the hardware has an address, goes there. -/
lemma Asks.wellAddressed {order : PowerOrder} {origin : Origin} {request : Request}
    (h : Asks order origin request) (hu : order.hardware.hardware.uri.isGiven)
    (hm : request.method = "PUT") : WellAddressed order request := by
  cases h with
  | hardware given made =>
    rw [(Client.of_request_eq_ok made).1] at hm
    exact absurd hm (by decide)
  | task followed made =>
    rw [(Client.of_request_eq_ok made).1] at hm
    exact absurd hm (by decide)
  | @change number attempt target uri _ address made =>
    unfold Hardware.powerUri at address
    split at address
    · rename_i u hu'
      cases address
      refine ⟨u, target, ?_, hu', made⟩
      rw [hu'] at hu
      simpa [Json.isGiven] using hu
    · cases address
    · cases address

/-- Steps that leave the hardware and the journal keep an order addressed. -/
lemma addressing_step (hh : t.order.hardware = s.order.hardware) (hj : t.journal = s.journal)
    (ha : t.supply.answers ⊆ s.supply.answers) : addressing.Step s t := by
  rintro ⟨hallowed, h⟩
  have hsuffix : s.journal <:+ t.journal := ⟨[], hj.symm⟩
  refine ⟨⟨fun answer hm => hallowed answer (ha hm), ?_⟩, hsuffix⟩
  rw [hj]
  exact h.imp_right fun h => ⟨by rw [hh]; exact h.held, by rw [hj]; exact h.always,
    by rw [hj]; exact h.changes⟩

lemma addressing_onOrder {f : PowerOrder → PowerOrder}
    (hf : (f s.order).hardware = s.order.hardware) : addressing.Step s (s.onOrder f) :=
  addressing_step hf rfl (List.Subset.refl _)

lemma addressing_note {event : Event} (he : Fits (fun _ => True) s.order event) :
    addressing.Step s (s.note event) := by
  rintro ⟨hallowed, h⟩
  refine ⟨⟨hallowed, h.imp (·.grow (List.suffix_cons _ _)) fun h => ⟨h.held, fun e hm => ?_,
    fun e hm origin request hs hput => ?_⟩⟩, List.suffix_cons _ _⟩
  · rcases List.mem_cons.mp hm with rfl | hm
    · exact h.held
    · exact h.always e hm
  · rcases List.mem_cons.mp hm with rfl | hm
    · exact (he.asks origin request hs).wellAddressed h.held hput
    · exact h.changes e hm origin request hs hput

/-- Hardware that a query found has an address, or else it is the evidence. -/
lemma addressing_noteHardware {attempt? : Option Int} {latest : ManagedHardware}
    {state : PowerState} (hl : addressing.Found s latest) :
    addressing.Step s (s.onOrder (·.noteHardware attempt? latest state)) := by
  rintro ⟨hallowed, h⟩
  refine ⟨⟨hallowed, ?_⟩, List.suffix_rfl⟩
  rcases h with h | h
  · exact Or.inl h
  · by_cases hu : latest.hardware.uri.isGiven
    · refine Or.inr ⟨?_, h.always, h.changes⟩
      simp only [Scene.order_onOrder, PowerOrder.noteHardware]
      split
      · exact hu
      · exact h.held
    · -- The query was asked under the address held then, and its answer brought none.
      obtain ⟨s', origin, request, body, -, hsent, hgiven, hmade, ⟨told, ht, hev⟩, hbody, -⟩ := hl
      exact Or.inl ⟨_, hsent.subset (List.mem_cons_self ..), told, ht, origin, request, body,
        latest.hardware, rfl, hgiven, hmade, hev, hbody, hu⟩

end Steps

lemma addressing_serves : addressing.Serves (fun _ => True) KeepsAddress where
  noted s event he := addressing_note he
  supplied s request := addressing_step rfl rfl (answers_next_subset request s.supply)
  counted s := addressing_step rfl rfl (List.Subset.refl _)
  forgot s := addressing_onOrder rfl
  hardware s attempt? latest hl := addressing_noteHardware hl
  progress s attempt? task := addressing_onOrder (by simp)
  ended s failure? attempt _ := addressing_onOrder (by simp)
  task s attempt task _ := addressing_onOrder (by simp)
  during _ request hs := Confined.during hs.1 request

lemma addressing_awaits (setup : Setup) :
    addressing.Awaits (fun _ => True) KeepsAddress setup :=
  addressing_serves.awaits (fun _ _ _ _ => trivial)
    (fun _ _ _ _ => addressing_step rfl rfl (List.Subset.refl _)) setup

lemma addressing_launches : addressing.Launches where
  begun _ := addressing_onOrder rfl
  entered _ _ := addressing_step rfl rfl (List.Subset.refl _)
  queued _ _ _ := addressing_step rfl rfl (List.Subset.refl _)

theorem addressing_governs (setup : Setup) :
    addressing.Governs (fun _ => True) KeepsAddress setup where
  toAwaits := addressing_awaits setup
  bears s action ha := by
    cases action with
    | setHardware hardware =>
      rintro ⟨hallowed, h⟩
      exact ⟨⟨hallowed, h.imp_right fun h => ⟨ha, h.always, h.changes⟩⟩, List.suffix_rfl⟩
    | markDone _ attempt? =>
      exact fun failure? => addressing_onOrder (by simp)
    | submit _ _ => exact fun _ => trivial
    | wait _ | observe _ | refresh _ | execute _ | look => trivial
    | _ => exact addressing_step rfl rfl (List.Subset.refl _)
  executes _ target hh _ := addressing_launches.keeps_execute (addressing_awaits setup) hh target

/-- In every scene that a script reaches from an order with addressed hardware, the hardware is and
always was addressed and every change was asked for under that address, unless the manager answered
a query with hardware without an address. -/
theorem addressed_of_mem_play (script : Script) (setup : Setup) {order : PowerOrder}
    {steps : List Action} (hu : order.hardware.hardware.uri.isGiven)
    (hsteps : ∀ action ∈ steps, KeepsAddress action)
    (hwaits : ∀ number, ∀ action ∈ setup.duringWait number, KeepsAddress action)
    (hanswers : ∀ answer ∈ script.supply.answers, ∀ action ∈ answer.during,
      KeepsAddress action) :
    ∀ r ∈ script.play setup (script.scene order) steps,
      AnsweredWithoutAddress r.2.journal ∨ Addressed r.2 := by
  have hbegun : addressing.holds (script.scene order) :=
    ⟨hanswers, Or.inr ⟨hu, fun e he => (by cases he), fun e he => (by cases he)⟩⟩
  intro r hr
  exact ((addressing_governs setup).step_of_mem_play hwaits script hsteps _ r hr hbegun).1.2

/-- A manager that finds a blade switched on, gives its address each time and accepts a change,
while the order is cancelled and looked at anew. -/
def addressGiven : Script where
  supply := .queue
    [{ during := [.cancel],
       content := .reply 200 "OK" "\x7b\"uri\": \"/b\", \"powerState\": \"On\"\x7d" },
      { during := [.observe none], content := .reply 202 "Accepted" "\x7b\"uri\": \"/t\"\x7d" },
      { content := .reply 200 "OK" "\x7b\"uri\": \"/b\", \"powerState\": \"Off\"\x7d" }]

theorem addressed_of_mem_play_addressGiven :
    blade.hardware.hardware.uri.isGiven ∧
      ∀ r ∈ addressGiven.play calm (addressGiven.scene blade) [.submit .off none, .observe none],
        AnsweredWithoutAddress r.2.journal ∨ Addressed r.2 := by
  have hu : blade.hardware.hardware.uri.isGiven := by decide
  have hsteps : ∀ action ∈ [Action.submit .off none, .observe none], KeepsAddress action := by
    simp [KeepsAddress]
  have hanswers : ∀ answer ∈ addressGiven.supply.answers, ∀ action ∈ answer.during,
      KeepsAddress action := by
    simp [addressGiven, Supply.answers, KeepsAddress]
  exact ⟨hu,
    addressed_of_mem_play addressGiven calm hu hsteps (fun _ _ ha => by cases ha) hanswers⟩

/-- The manager finds the blade switched on and does not give its address again. The change is then
asked for under no address at all, and the order has lost its hardware. -/
theorem change_without_address :
    let t := ((submit calm (hookAt calm 0) .off none).run (bladeScene
      [{ content := .reply 200 "OK" "\x7b\"powerState\": \"On\"\x7d" },
        { content := .reply 202 "Accepted" "\x7b\"uri\": \"/t\"\x7d" }])).2
    (sentRequests t).map (fun request => (request.method, request.url)) =
        [("GET", "https://ov.example/rest/server-hardware/1"),
          ("PUT", "https://ov.example/powerState")] ∧
      t.order.hardware.hardware.uri = .text "" := by
  decide +kernel

end ServerPower.Proofs
