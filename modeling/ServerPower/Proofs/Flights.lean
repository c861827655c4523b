import Mathlib.Tactic.Common
import ServerPower.Run.Play

/-!
# Calls in flight

A call to the manager sends a request, lets the others act while it is in flight, and reads what
comes back. Between sending and reading only the others change the scene, so a call is known once
the scene is known that they leave.
-/

namespace ServerPower.Proofs
open Run

def logged (records : List Record) (s : Scene) : Scene :=
  records.foldl (fun s r => s.note (.logged r)) s

/-- What others do never fails as a whole. -/
def Total (hook : Hook) : Prop :=
  ∀ actions s, ((hook actions).run s).1 = .ok ()

/-- The scene that the others leave while a request is in flight. -/
def inFlight (hook : Hook) (request : Request) (s : Scene) : Scene :=
  let (answer, supply) := s.supply.next request
  ((hook answer.during).run { s with supply }).2

def readAnswer (strict : Bool) (method : String) (uri : Json) (request : Request)
    (answer : Answer) : Report String := do
  Client.receive strict method uri request.url (← answer.reply strict)

lemma logged_cons (r : Record) (records : List Record) (s : Scene) :
    logged (r :: records) s = logged records (s.note (.logged r)) := rfl

@[simp] lemma logged_order (records : List Record) (s : Scene) :
    (logged records s).order = s.order := by
  induction records generalizing s with
  | nil => rfl
  | cons r records ih => rw [logged_cons, ih, Scene.order_note]

@[simp] lemma logged_supply (records : List Record) (s : Scene) :
    (logged records s).supply = s.supply := by
  induction records generalizing s with
  | nil => rfl
  | cons r records ih => rw [logged_cons, ih, Scene.supply_note]

lemma mem_journal_logged (records : List Record) {s : Scene} {e : Entry} (h : e ∈ s.journal) :
    e ∈ (logged records s).journal := by
  induction records generalizing s with
  | nil => exact h
  | cons r records ih => exact ih (List.mem_cons_of_mem _ h)

@[simp] lemma run_settle {α : Type} (report : Report α) (s : Scene) :
    (settle report).run s = (.ok report.outcome, logged report.records s) := by
  have hlog : ∀ (records : List Record) (s : Scene),
      (records.forM logRecord).run s = (.ok (), logged records s) := by
    intro records
    induction records with
    | nil => exact fun s => rfl
    | cons r records ih =>
      intro s
      simp only [List.forM_eq_forM, List.forM_cons, run_bind, logRecord, run_record] at ih ⊢
      exact ih _
  simp only [settle, run_bind, hlog, run_pure]

@[simp] lemma run_ofReport {α : Type} (report : Report α) (s : Scene) :
    (ofReport report).run s = (report.outcome, logged report.records s) := by
  simp only [ofReport, run_bind, run_settle, run_ofExcept]

@[simp] lemma run_log (level : Level) (text : String) (s : Scene) :
    (log level text).run s = (.ok (), s.note (.logged ⟨level, .ok text⟩)) := rfl

/-- A call either cannot be made, or yields what the answer says on the scene that was left while
its request was in flight. -/
theorem run_call {hook : Hook} (h : Total hook) (setup : Setup) (origin : Origin) (client : Client)
    (method : String) (uri body : Json) (s : Scene) :
    (call setup hook origin client method uri body).run s =
      match client.request method uri body with
      | .error failure => (.error failure, s)
      | .ok request =>
        let answer := (s.supply.next request).1
        let report := readAnswer setup.strict method uri request answer
        let left := inFlight hook request (s.note (.sent origin request))
        (report.outcome,
          (logged report.records left).note (.answered origin request report.outcome)) := by
  unfold call
  cases hr : client.request method uri body with
  | error failure => simp only [run_bind, run_ofExcept]
  | ok request =>
    have hhook : (hook (s.supply.next request).1.during).run
        { s.note (.sent origin request) with supply := (s.supply.next request).2 } =
        (.ok (), inFlight hook request (s.note (.sent origin request))) :=
      Prod.ext (h _ _) rfl
    simp only [run_bind, run_ofExcept, run_record, run_get, run_modify, Scene.supply_note, hhook,
      run_settle, readAnswer]

/-- What a call yields stands at the head of the journal, as the answer to its request. -/
lemma journal_of_call_eq_ok {hook : Hook} (h : Total hook) {setup : Setup} {origin : Origin}
    {client : Client} {method : String} {uri body : Json} {answer : String} {s t : Scene}
    (hc : (call setup hook origin client method uri body).run s = (.ok answer, t)) :
    ∃ request rest, client.request method uri body = .ok request ∧
      t.journal = ⟨.answered origin request (.ok answer), t.order, t.phase⟩ :: rest := by
  rw [run_call h] at hc
  cases hr : client.request method uri body with
  | error failure =>
    rw [hr] at hc
    cases hc
  | ok request =>
    rw [hr] at hc
    dsimp only at hc
    obtain ⟨ho, rfl⟩ := Prod.mk.inj hc
    exact ⟨request, _, rfl, by rw [ho]; rfl⟩

lemma next_eq_or_mem (request : Request) (supply : Supply) :
    (supply.next request).1 = .exhausted ∨ (supply.next request).1 ∈ supply.answers := by
  cases supply with
  | queue answers =>
    cases answers with
    | nil => exact Or.inl rfl
    | cons answer rest => exact Or.inr (List.mem_cons_self ..)
  | routes table =>
    simp only [Supply.next, Supply.answers]
    cases hl : table.lookup (request.method ++ " " ++ request.url) with
    | none => exact Or.inl rfl
    | some answers =>
      cases answers with
      | nil => exact Or.inl rfl
      | cons answer rest =>
        obtain ⟨before, after, rfl, -⟩ := List.lookup_eq_some_iff.mp hl
        exact Or.inr (by simp)

lemma answers_next_subset (request : Request) (supply : Supply) :
    (supply.next request).2.answers ⊆ supply.answers := by
  cases supply with
  | queue answers =>
    cases answers with
    | nil => exact List.Subset.refl _
    | cons answer rest => exact List.subset_cons_self answer rest
  | routes table =>
    intro answer ha
    simp only [Supply.next, Supply.answers, Supply.advance, List.mem_flatMap, List.mem_map] at ha ⊢
    obtain ⟨_, ⟨⟨key, answers⟩, he, rfl⟩, hm⟩ := ha
    refine ⟨_, he, ?_⟩
    rcases answers with _ | ⟨first, _ | ⟨second, rest⟩⟩
    · exact hm
    · exact hm
    · dsimp only at hm ⊢
      split at hm
      · exact List.mem_cons_of_mem _ hm
      · exact hm

/-- What others do during the calls that are answered is confined to what is allowed. -/
def Confined (allows : Action → Prop) (supply : Supply) : Prop :=
  ∀ answer ∈ supply.answers, ∀ action ∈ answer.during, allows action

lemma Confined.during {allows : Action → Prop} {supply : Supply} (h : Confined allows supply)
    (request : Request) : ∀ action ∈ (supply.next request).1.during, allows action := by
  rcases next_eq_or_mem request supply with he | hm
  · rw [he]
    exact fun action ha => nomatch ha
  · exact h _ hm

end ServerPower.Proofs
