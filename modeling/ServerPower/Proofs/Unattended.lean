import ServerPower.Proofs.Executions

/-!
# Runs among nobody

Where nobody acts during calls and waits, a flight only takes the answer to its request, and a wait
only lets the submissions run that are due. If none waits, then all that a run does outside is to
send requests and to wait.
-/

namespace ServerPower.Proofs
open Run

/-- Nobody acts during the calls that the script answers. -/
def Idle (supply : Supply) : Prop :=
  ∀ answer ∈ supply.answers, answer.during = []

lemma Idle.during {supply : Supply} (h : Idle supply) (request : Request) :
    (supply.next request).1.during = [] := by
  rcases next_eq_or_mem request supply with he | hm
  · rw [he]
    rfl
  · exact h _ hm

lemma Idle.next {supply : Supply} (h : Idle supply) (request : Request) :
    Idle (supply.next request).2 :=
  fun answer ha => h answer (answers_next_subset request supply ha)

lemma inFlight_of_idle {s : Scene} (h : Idle s.supply) (setup : Setup) (depth : Nat)
    (request : Request) :
    inFlight (hookAt setup depth) request s = { s with supply := (s.supply.next request).2 } := by
  simp only [inFlight, h.during request, run_hookAt_nil]

def sentRequest? : Event → Option Request
  | .sent _ request => some request
  | _ => none

def isWait : Event → Bool
  | .waited _ _ => true
  | _ => false

def sentRequests (s : Scene) : List Request :=
  s.events.filterMap sentRequest?

def waitCount (s : Scene) : Nat :=
  s.events.countP isWait

/-- The manager gives these answers, nobody acts during calls, and no submission waits for the
pool. -/
structure Alone (contents : List AnswerContent) (s : Scene) : Prop where
  supply : s.supply = .queue (contents.map fun content => { content })
  pending : s.pending = []

def nextAnswer (contents : List AnswerContent) : Answer :=
  { content := contents.headD Answer.exhausted.content }

lemma next_queue (contents : List AnswerContent) (request : Request) :
    (Supply.queue (contents.map fun content => { content })).next request =
      (nextAnswer contents, .queue (contents.tail.map fun content => { content })) := by
  cases contents <;> rfl

/-- What a run among nobody does outside: it sends requests and waits, and leaves some answers. -/
structure Passes (requests : List Request) (waits : Nat) (left : List AnswerContent)
    (s t : Scene) : Prop where
  alone : Alone left t
  sent : sentRequests t = sentRequests s ++ requests
  waited : waitCount t = waitCount s + waits

section Alone

variable {contents left : List AnswerContent} {s t u : Scene} {requests more : List Request}
  {waits further : Nat}

lemma sentRequests_note (event : Event) (s : Scene) :
    sentRequests (s.note event) = sentRequests s ++ (sentRequest? event).toList := by
  simp only [sentRequests, Scene.events, Scene.journal_note, List.map_cons, List.reverse_cons,
    List.filterMap_append]
  cases h : sentRequest? event <;> simp [h]

lemma waitCount_note (event : Event) (s : Scene) :
    waitCount (s.note event) = waitCount s + if isWait event then 1 else 0 := by
  simp only [waitCount, Scene.events, Scene.journal_note, List.map_cons, List.reverse_cons,
    List.countP_append, List.countP_singleton]

lemma Passes.refl (h : Alone contents s) : Passes [] 0 contents s s :=
  ⟨h, (List.append_nil _).symm, rfl⟩

lemma Passes.trans (h1 : Passes requests waits contents s t) (h2 : Passes more further left t u) :
    Passes (requests ++ more) (waits + further) left s u := by
  refine ⟨h2.alone, ?_, ?_⟩
  · rw [h2.sent, h1.sent, List.append_assoc]
  · rw [h2.waited, h1.waited, Nat.add_assoc]

lemma Passes.still (h : Passes requests waits left s t) (hs : u.supply = t.supply)
    (hp : u.pending = t.pending) (hj : u.journal = t.journal) :
    Passes requests waits left s u := by
  refine ⟨⟨hs.trans h.alone.supply, hp.trans h.alone.pending⟩, ?_, ?_⟩
  · rw [← h.sent, sentRequests, sentRequests, Scene.events, Scene.events, hj]
  · rw [← h.waited, waitCount, waitCount, Scene.events, Scene.events, hj]

lemma Passes.onOrder (h : Passes requests waits left s t) (f : PowerOrder → PowerOrder) :
    Passes requests waits left s (t.onOrder f) :=
  h.still rfl rfl rfl

lemma Passes.enter (h : Passes requests waits left s t) (phase : Phase) :
    Passes requests waits left s (t.enter phase) :=
  h.still rfl rfl rfl

lemma Passes.note (h : Passes requests waits left s t) {event : Event}
    (hs : sentRequest? event = none) (hw : isWait event = false) :
    Passes requests waits left s (t.note event) := by
  refine ⟨⟨h.alone.supply, h.alone.pending⟩, ?_, ?_⟩
  · rw [sentRequests_note, hs, Option.toList_none, List.append_nil, h.sent]
  · rw [waitCount_note, hw, h.waited]
    rfl

lemma Passes.log (h : Passes requests waits left s t) (r : Record) :
    Passes requests waits left s (t.note (.logged r)) :=
  h.note rfl rfl

lemma Passes.logged (h : Passes requests waits left s t) (records : List Record) :
    Passes requests waits left s (logged records t) := by
  induction records generalizing t with
  | nil => exact h
  | cons r records ih => exact ih (h.log r)

/-- A call among nobody sends its request and yields what the next answer says. -/
lemma alone_call (h : Alone contents s) {client : Client} {method : String} {uri body : Json}
    {request : Request} (hr : client.request method uri body = .ok request) (setup : Setup)
    (depth : Nat) (origin : Origin) :
    ∃ t, (call setup (hookAt setup depth) origin client method uri body).run s =
        ((readAnswer setup.strict method uri request (nextAnswer contents)).outcome, t) ∧
      t.order = s.order ∧ Passes [request] 0 contents.tail s t := by
  have hidle : Idle (s.note (.sent origin request)).supply := by
    rw [Scene.supply_note, h.supply]
    simp [Idle, Supply.answers]
  have hnext : s.supply.next request =
      (nextAnswer contents, .queue (contents.tail.map fun content => { content })) := by
    rw [h.supply, next_queue]
  have hsent : Passes [request] 0 contents.tail s
      { s.note (.sent origin request) with
        supply := .queue (contents.tail.map fun content => { content }) } := by
    refine ⟨⟨rfl, h.pending⟩, ?_, ?_⟩
    · exact sentRequests_note (.sent origin request) s
    · exact waitCount_note (.sent origin request) s
  rw [run_call (total_hookAt setup depth), hr]
  simp only [hnext, inFlight_of_idle hidle, Scene.supply_note]
  exact ⟨_, rfl, by simp, (hsent.logged _).note rfl rfl⟩

lemma alone_pause {setup : Setup} (hw : ∀ number, setup.duringWait number = [])
    (h : Alone contents s) (depth : Nat) (origin : Origin) (delay : Json) :
    (afterPause setup (hookAt setup depth) origin delay s).order = s.order ∧
      Passes [] 1 contents s (afterPause setup (hookAt setup depth) origin delay s) := by
  have hpause : afterPause setup (hookAt setup depth) origin delay s =
      { s.note (.waited origin delay) with waits := s.waits + 1, pending := [] } := by
    unfold afterPause afterDue
    simp only [Scene.pending_note, h.pending, hw, List.filter_nil]
    rw [run_hookAt_nil]
    rfl
  rw [hpause]
  refine ⟨rfl, ⟨h.supply, rfl⟩, ?_, ?_⟩
  · exact sentRequests_note (.waited origin delay) s
  · exact waitCount_note (.waited origin delay) s

end Alone

def blade : PowerOrder where
  hardware :=
    ⟨⟨.text "/rest/server-hardware/1", .text "blade 1", .text "", .text ""⟩,
      ⟨"https://ov.example", none, "200", .bool true, .int 60⟩⟩
  limit := .int 3
  interval := .int 10

def calm : Setup where
  strict := false
  failOnTimeout := false
  ownPool := true
  duringWait := fun _ => []
  checkBound := 3

/-- Where `calm` waits, nobody does anything. -/
lemma calm_duringWait (allows : Action → Prop) :
    ∀ number, ∀ action ∈ calm.duringWait number, allows action := by
  intro number action ha
  cases ha

def bladeScene (answers : List Answer) : Scene where
  order := blade
  supply := .queue answers
  moment := .inline

end ServerPower.Proofs
