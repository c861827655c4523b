import ServerPower.Proofs.Merging
import ServerPower.Proofs.Unattended

/-!
# Overlapping refreshes

A refresh merges the manager's answer into the task that it found when it began, and records the
whole. Of two refreshes that overlap, the one that ends last takes back what the other recorded,
but for the fields that its own answer tells.
-/

namespace ServerPower.Proofs
open Run

/-- A refresh that is begun in one scene, and that the manager answers with these members, yields a
task and leaves the other scene. -/
structure Refreshed (setup : Setup) (hook : Hook) (origin : Origin) (attempt? : Option Int)
    (request : Request) (members : List (String × Json)) (latest : RemoteTask) (s t : Scene) :
    Prop where
  run : (refresh setup hook origin attempt?).run s = (.ok (some latest), t)
  asked : s.order.hardware.client.request "GET" (.text s.order.task.uri) .null = .ok request
  told : ∃ body, (readAnswer setup.strict "GET" (.text s.order.task.uri) request
      (s.supply.next request).1).outcome = .ok body ∧ Json.parse body = .ok (.object members)

/-- The task is the same from one order to the other, and so is the attempt. -/
structure SameTask (p q : PowerOrder) : Prop where
  task : q.task = p.task
  attempt : q.attempt = p.attempt

/-- One refresh, begun at `s`, overlaps another one, from `u` to `v`: this one begins and ends while
the request of the first is in flight, and nothing else touches the task or begins an attempt
meanwhile. -/
structure Overlap (outer inner : Hook) (origin origin' : Origin) (request request' : Request)
    (s u v : Scene) : Prop where
  begun : SameTask s.order u.order
  within : SameTask u.order (inFlight inner request' (u.note (.sent origin' request'))).order
  ended : SameTask v.order (inFlight outer request (s.note (.sent origin request))).order

section Refreshes

variable {setup : Setup} {hook outer inner : Hook} {origin origin' : Origin}
  {attempt? attempt?' : Option Int} {request request' : Request}
  {members members' : List (String × Json)} {first second latest : RemoteTask}
  {s t u v : Scene}

lemma SameTask.trans {p q r : PowerOrder} (h1 : SameTask p q) (h2 : SameTask q r) :
    SameTask p r :=
  ⟨h2.task.trans h1.task, h2.attempt.trans h1.attempt⟩

lemma SameTask.isCurrent {p q : PowerOrder} (h : SameTask p q) (attempt? : Option Int) :
    q.isCurrent attempt? = p.isCurrent attempt? := by
  cases attempt? with
  | none => rfl
  | some attempt => simp only [PowerOrder.isCurrent, h.attempt]

lemma noteProgress_of_current {p : PowerOrder} (hc : p.isCurrent attempt?)
    (hu : latest.uri = p.task.uri) :
    p.noteProgress attempt? latest = { p with task := latest } := by
  simp [PowerOrder.noteProgress, hc, hu]

/-- What a refresh yields is the task that it found with the answer merged in, whatever happened
while its request was in flight. -/
lemma Refreshed.outcome (h : Total hook)
    (hr : Refreshed setup hook origin attempt? request members latest s t) :
    s.order.task.update (.object members) = .ok latest ∧
      t.order = (inFlight hook request (s.note (.sent origin request))).order.noteProgress attempt?
        latest := by
  obtain ⟨body, hbody, hparse⟩ := hr.told
  have hrun := hr.run
  rw [run_refresh] at hrun
  dsimp only at hrun
  by_cases ht : s.order.task.exists?
  · rw [if_pos ht, run_call h, hr.asked] at hrun
    simp only [hbody] at hrun
    cases hread : (Client.readTask setup.strict (.text s.order.task.uri) body
      s.order.task).outcome with
    | error failure =>
      rw [hread] at hrun
      cases hrun
    | ok known =>
      rw [hread] at hrun
      cases hrun
      obtain ⟨told, htold, hupdate⟩ := readTask_eq_ok_iff.mp hread
      have hmembers : told = members := by
        have hsame := htold.symm.trans hparse
        simpa using hsame
      refine ⟨hmembers ▸ hupdate, ?_⟩
      simp only [Scene.order_onOrder, logged_order, Scene.order_note]
  · rw [if_neg ht] at hrun
    cases hrun

/-- A refresh for the current attempt whose answer does not move the task records what it yields,
where the task was left alone while its request was in flight. -/
lemma Refreshed.recorded (h : Total hook)
    (hr : Refreshed setup hook origin attempt? request members latest s t) {p : PowerOrder}
    (hp : SameTask p (inFlight hook request (s.note (.sent origin request))).order)
    (hc : p.isCurrent attempt?) (hu : latest.uri = p.task.uri) :
    t.order.task = latest ∧ t.order.attempt = p.attempt := by
  have hcurrent := (hp.isCurrent attempt?).trans hc
  have huri : latest.uri =
      (inFlight hook request (s.note (.sent origin request))).order.task.uri := by
    rw [hp.task, hu]
  have horder := (hr.outcome h).2
  rw [noteProgress_of_current hcurrent huri] at horder
  rw [horder]
  exact ⟨rfl, hp.attempt⟩

end Refreshes

/-- Of two overlapping refreshes for the current attempt, neither of which moves the task, each
records what was known before both with its own answer merged in. So in the end the answer that came
last is merged into what the other one told just if this told nothing new but in fields that the
last one told as well. -/
theorem overlapping_refreshes {setup : Setup} {outer inner : Hook} {origin origin' : Origin}
    {attempt? attempt?' : Option Int} {request request' : Request}
    {members members' : List (String × Json)} {first second : RemoteTask} {s t u v : Scene}
    (houter : Total outer) (hinner : Total inner)
    (hfirst : Refreshed setup outer origin attempt? request members first s t)
    (hsecond : Refreshed setup inner origin' attempt?' request' members' second u v)
    (hoverlap : Overlap outer inner origin origin' request request' s u v)
    (hcurrent : s.order.isCurrent attempt?) (hcurrent' : s.order.isCurrent attempt?')
    (huri : first.uri = s.order.task.uri) (huri' : second.uri = s.order.task.uri) :
    (∀ field : TaskField, field.value v.order.task =
      merged members' field (field.value s.order.task)) ∧
    (∀ field : TaskField, field.value t.order.task =
      merged members field (field.value s.order.task)) ∧
    ((∀ field : TaskField, field.value t.order.task =
        merged members field (merged members' field (field.value s.order.task))) ↔
      ∀ field : TaskField, Tells members' field → ¬ Tells members field →
        Json.member members' field.key = field.value s.order.task) := by
  have hbefore := hoverlap.begun.trans hoverlap.within
  obtain ⟨hsecondtask, hsecondattempt⟩ := hsecond.recorded hinner hbefore hcurrent' huri'
  -- The second refresh is over when the first one records, on the task that the second one left.
  have hleft : SameTask v.order (inFlight outer request (s.note (.sent origin request))).order :=
    hoverlap.ended
  have hstill : v.order.isCurrent attempt? := by
    have hv : SameTask { s.order with task := second } v.order := ⟨hsecondtask, hsecondattempt⟩
    exact (hv.isCurrent attempt?).trans hcurrent
  have hsame : first.uri = v.order.task.uri := by
    rw [hsecondtask, huri, huri']
  have hfirsttask := (hfirst.recorded houter hleft hstill hsame).1
  have hv : ∀ field : TaskField, field.value v.order.task =
      merged members' field (field.value s.order.task) := by
    intro field
    rw [hsecondtask, value_update (hsecond.outcome hinner).1, hoverlap.begun.task]
  have ht : ∀ field : TaskField, field.value t.order.task =
      merged members field (field.value s.order.task) := by
    intro field
    rw [hfirsttask, value_update (hfirst.outcome houter).1]
  refine ⟨hv, ht, ?_⟩
  constructor
  · intro hkept field htells' htells
    have hfield := hkept field
    rw [ht, merged_of_not_tells htells, merged_of_not_tells htells,
      merged_of_tells htells'] at hfield
    exact hfield.symm
  · intro hnothing field
    rw [ht]
    by_cases htells : Tells members field
    · rw [merged_of_tells htells, merged_of_tells htells]
    · rw [merged_of_not_tells htells, merged_of_not_tells htells]
      by_cases htells' : Tells members' field
      · rw [merged_of_tells htells', hnothing field htells' htells]
      · rw [merged_of_not_tells htells']

/-- The blade's task runs. The manager answers two queries, the second of which is made while the
first one is in flight. -/
def queriedTwice (first second : String) : Scene :=
  (bladeScene [⟨[.refresh none], .reply 200 "OK" first⟩, ⟨[], .reply 200 "OK" second⟩]).onOrder
    ({ · with task := { uri := "/rest/tasks/1", state := "Running" } })

theorem overlapping_refreshes_queriedTwice :
    let first := "\x7b\"percentComplete\": 50, \"taskState\": \"Completed\"\x7d"
    let second := "\x7b\"taskState\": \"Running\"\x7d"
    let s := queriedTwice first second
    let r := (refresh calm (hookAt calm 1) .query none).run s
    ∀ field : TaskField, field.value r.2.order.task =
      merged [("percentComplete", .int 50), ("taskState", .text "Completed")] field
        (merged [("taskState", .text "Running")] field (field.value s.order.task)) := by
  intro first second s r
  let request : Request :=
    { method := "GET", url := "https://ov.example/rest/tasks/1", data := none, verify := .bool true,
      timeout := .int 60 }
  let asked := s.note (.sent .query request)
  let u : Scene := { asked with supply := (asked.supply.next request).2 }
  let inner := (refresh calm (hookAt calm 0) .query none).run u
  have hfirst : Refreshed calm (hookAt calm 1) .query none request
      [("percentComplete", .int 50), ("taskState", .text "Completed")]
      { uri := "/rest/tasks/1", state := "Completed", percent := .int 50 } s r.2 :=
    ⟨Prod.ext (by decide +kernel) rfl, by decide +kernel, first, by decide +kernel,
      by decide +kernel⟩
  have hsecond : Refreshed calm (hookAt calm 0) .query none request
      [("taskState", .text "Running")] { uri := "/rest/tasks/1", state := "Running" } u inner.2 :=
    ⟨Prod.ext (by decide +kernel) rfl, by decide +kernel, second, by decide +kernel,
      by decide +kernel⟩
  have hoverlap : Overlap (hookAt calm 1) (hookAt calm 0) .query .query request request s u
      inner.2 :=
    ⟨⟨rfl, rfl⟩, ⟨by decide +kernel, by decide +kernel⟩, ⟨by decide +kernel, by decide +kernel⟩⟩
  refine (overlapping_refreshes (total_hookAt calm 1) (total_hookAt calm 0) hfirst hsecond hoverlap
    rfl rfl rfl rfl).2.2.mpr (fun field htells hnot => ?_)
  cases field with
  | state => exact absurd (by decide +kernel) hnot
  | _ => exact absurd rfl htells

/-- The second query finds the task completed, and that is recorded; the first one, which tells
nothing of the state, records the task as running again. -/
theorem completion_taken_back :
    let s := queriedTwice "\x7b\"percentComplete\": 50\x7d"
      "\x7b\"taskState\": \"Completed\"\x7d"
    let r := (refresh calm (hookAt calm 1) .query none).run s
    let latest : RemoteTask := { uri := "/rest/tasks/1", state := "Running", percent := .int 50 }
    r.1 = .ok (some latest) ∧ r.2.order.attempt = s.order.attempt ∧ r.2.order.task = latest ∧
      ∃ e ∈ r.2.journal, e.order.task = { uri := "/rest/tasks/1", state := "Completed" } := by
  decide +kernel

end ServerPower.Proofs
