import ServerPower.Proofs.FailedQuery
import ServerPower.Proofs.Recorded

/-!
# Accepted reports

A report is merged as a whole or not at all: the first field, in the order of the fields, that
carries a value of the wrong type refuses it. So over any row of answers, some of them refused,
what is recorded of a task is in each field what the last accepted answer told of it.
-/

namespace ServerPower.Proofs
open Run

inductive ValueType where
  | text
  | number
  | list

namespace ValueType

/-- Whether a value is of the type. A truth value is of none. -/
def takes : ValueType → Json → Bool
  | text, .text _ => true
  | number, .number _ => true
  | list, .list _ => true
  | _, _ => false

end ValueType

namespace TaskField

def type : TaskField → ValueType
  | uri | name | owner | state | status => .text
  | percent | computed => .number
  | errors => .list

/-- The fields in the order in which a report is checked. -/
def all : List TaskField :=
  [uri, name, owner, state, status, percent, computed, errors]

/-- Writes a value of the field's type. -/
def write (field : TaskField) (v : Json) (task : RemoteTask) : RemoteTask :=
  match field, v with
  | uri, .text s => { task with uri := s }
  | name, .text s => { task with name := s }
  | owner, .text s => { task with owner := s }
  | state, .text s => { task with state := s }
  | status, .text s => { task with status := s }
  | percent, .number n => { task with percent := n }
  | computed, .number n => { task with computed := n }
  | errors, .list items => { task with errors := items }
  | _, _ => task

end TaskField

/-- A report tells a field, but not with a value of its type. -/
def Misfits (members : List (String × Json)) (field : TaskField) : Prop :=
  Tells members field ∧ ¬ field.type.takes (Json.member members field.key)

instance (members : List (String × Json)) (field : TaskField) : Decidable (Misfits members field) :=
  inferInstanceAs (Decidable (_ ∧ _))

/-- The failure of a value that is not of the field's type. -/
def misfit (members : List (String × Json)) (field : TaskField) : Failure :=
  ⟨.wrongValue, "unexpected " ++ (Json.member members field.key).typeName ++ " value for " ++
    field.key⟩

/-- The failure that refuses a report, if it is refused. -/
def refusal? : Json → Option Failure
  | .object members => (TaskField.all.find? (Misfits members ·)).map (misfit members)
  | v => some ⟨.wrongValue, "expected a JSON object, got " ++ v.typeName⟩

/-- The values that a report tells of some fields, unless one of them misfits. -/
def toldValues (members : List (String × Json)) :
    List TaskField → Except Failure (List (TaskField × Json))
  | [] => .ok []
  | field :: rest => do
    if Misfits members field then throw (misfit members field)
    let values ← toldValues members rest
    return if Tells members field then (field, Json.member members field.key) :: values else values

/-- Merges a report into the task at hand, in place. All that it tells is checked before anything is
written. -/
def mergeInPlace : Json → ExceptT Failure (StateM RemoteTask) Unit
  | .object members => do
    let values ← liftM (toldValues members TaskField.all)
    values.forM fun (field, v) => modify (field.write v)
  | v => throw (RemoteTask.notAnObject v)

/-- A report is merged into a task as a whole, or it is refused and the task stays as it is. -/
structure MergedWholeOrNot (task : RemoteTask) (v : Json) : Prop where
  refused : ∀ failure, refusal? v = some failure →
    task.update v = .error failure ∧ (mergeInPlace v).run task = (.error failure, task)
  accepted : refusal? v = none → ∃ members latest, v = .object members ∧
    task.update v = .ok latest ∧ (mergeInPlace v).run task = (.ok (), latest) ∧
    ∀ field : TaskField, field.value latest = merged members field (field.value task)

/-- The last value that one of these reports tells of a field, or else what was known before. -/
def lastTold (told : List (List (String × Json))) (field : TaskField) (known : Json) : Json :=
  ((told.map (Json.member · field.key)).filter (· ≠ .null)).getLastD known

/-- One refresh after another is made for the current attempt of an order whose task nobody else
touches. The ones whose answer is accepted are told these members, none of which moves the task. -/
inductive Consults (setup : Setup) : Scene → List (List (String × Json)) → Scene → Prop
  | done {s t : Scene} : SameTask s.order t.order → Consults setup s [] t
  | refused {s t u v : Scene} {told : List (List (String × Json))} {depth : Nat} {origin : Origin}
      {attempt? : Option Int} {failure : Failure} :
      SameTask s.order u.order → u.order.isCurrent attempt? →
      TaskAlone (hookAt setup depth) origin u →
      (refresh setup (hookAt setup depth) origin attempt?).run u = (.error failure, v) →
      Consults setup v told t → Consults setup s told t
  | accepted {s t u v : Scene} {told : List (List (String × Json))} {depth : Nat} {origin : Origin}
      {attempt? : Option Int} {request : Request} {members : List (String × Json)}
      {latest : RemoteTask} :
      SameTask s.order u.order → u.order.isCurrent attempt? →
      TaskAlone (hookAt setup depth) origin u →
      Refreshed setup (hookAt setup depth) origin attempt? request members latest u v →
      Json.member members "uri" = .null ∨
        Json.member members "uri" = .text u.order.task.uri →
      Consults setup v told t → Consults setup s (members :: told) t

section Reports

variable {members members' : List (String × Json)} {field other : TaskField}
  {fields rest : List TaskField} {task latest : RemoteTask} {v : Json} {failure : Failure}

namespace TaskField

lemma mem_all (field : TaskField) : field ∈ all := by
  cases field <;> decide

/-- A task is known by its fields. -/
lemma value_ext {task task' : RemoteTask} (h : ∀ field : TaskField, field.value task =
    field.value task') : task = task' := by
  obtain ⟨_, _, _, _, _, _, _, _⟩ := task
  obtain ⟨_, _, _, _, _, _, _, _⟩ := task'
  have huri := Json.text.inj (h .uri)
  have hname := Json.text.inj (h .name)
  have howner := Json.text.inj (h .owner)
  have hstate := Json.text.inj (h .state)
  have hstatus := Json.text.inj (h .status)
  have hpercent := Json.number.inj (h .percent)
  have hcomputed := Json.number.inj (h .computed)
  have herrors := Json.list.inj (h .errors)
  dsimp only at huri hname howner hstate hstatus hpercent hcomputed herrors
  rw [huri, hname, howner, hstate, hstatus, hpercent, hcomputed, herrors]

lemma value_write (h : field.type.takes v) (task : RemoteTask) :
    field.value (field.write v task) = v := by
  cases field <;> cases v <;> first | rfl | cases h

lemma value_write_of_ne (h : other ≠ field) (v : Json) (task : RemoteTask) :
    other.value (field.write v task) = other.value task := by
  cases field <;> cases v <;> first | rfl | (cases other <;> first | rfl | exact absurd rfl h)

end TaskField

lemma misfits_of_bool {b : Bool} (h : Json.member members field.key = .bool b) :
    Misfits members field := by
  unfold Misfits Tells
  rw [h]
  cases field <;> simp [TaskField.type, ValueType.takes]

lemma merged_merged (members : List (String × Json)) (field : TaskField) (old : Json) :
    merged members field (merged members field old) = merged members field old := by
  by_cases h : Tells members field
  · rw [merged_of_tells h, merged_of_tells h]
  · rw [merged_of_not_tells h]

/-! ### What refuses a report -/

/-- A reader fails just where one of these fields misfits, and the first such field is to blame. -/
def FailsFirst {α : Type} (members : List (String × Json)) (fields : List TaskField)
    (read : Except Failure α) : Prop :=
  ∀ failure, read = .error failure ↔
    (fields.find? (Misfits members ·)).map (misfit members) = some failure

lemma failsFirst_pure {α : Type} (a : α) : FailsFirst members [] (pure a : Except Failure α) :=
  fun _ => iff_of_false nofun nofun

lemma failsFirst_bind {α β : Type} {read : Except Failure α} {next : α → Except Failure β}
    (h : FailsFirst members [field] read) (hnext : ∀ a, FailsFirst members rest (next a)) :
    FailsFirst members (field :: rest) (read >>= next) := by
  intro failure
  have hread := h failure
  by_cases hm : Misfits members field
  · have hfailed := (h (misfit members field)).mpr (by simp [hm])
    rw [hfailed]
    simp [hm, bind, Except.bind]
  · cases hr : read with
    | error failure =>
      have hfound := (h failure).mp hr
      simp [hm] at hfound
    | ok a =>
      have hrest := hnext a failure
      simpa [hm, bind, Except.bind] using hrest

lemma failsFirst_textField (field : TaskField) (h : field.type = .text) (old : String) :
    FailsFirst members [field] (RemoteTask.textField members field.key old) := by
  intro failure
  unfold RemoteTask.textField
  cases hv : Json.member members field.key <;>
    simp [Misfits, Tells, misfit, hv, h, ValueType.takes, RemoteTask.unexpected]

lemma failsFirst_numberField (field : TaskField) (h : field.type = .number) (old : Number) :
    FailsFirst members [field] (RemoteTask.numberField members field.key old) := by
  intro failure
  unfold RemoteTask.numberField
  cases hv : Json.member members field.key <;>
    simp [Misfits, Tells, misfit, hv, h, ValueType.takes, RemoteTask.unexpected]

lemma failsFirst_listField (field : TaskField) (h : field.type = .list) (old : List Json) :
    FailsFirst members [field] (RemoteTask.listField members field.key old) := by
  intro failure
  unfold RemoteTask.listField
  cases hv : Json.member members field.key <;>
    simp [Misfits, Tells, misfit, hv, h, ValueType.takes, RemoteTask.unexpected]

-- One field is read after the other, so the fields that misfit are never split into cases.
lemma failsFirst_update (members : List (String × Json)) (task : RemoteTask) :
    FailsFirst members TaskField.all (task.update (.object members)) :=
  failsFirst_bind (failsFirst_textField .uri rfl _) fun _ =>
  failsFirst_bind (failsFirst_textField .name rfl _) fun _ =>
  failsFirst_bind (failsFirst_textField .owner rfl _) fun _ =>
  failsFirst_bind (failsFirst_textField .state rfl _) fun _ =>
  failsFirst_bind (failsFirst_textField .status rfl _) fun _ =>
  failsFirst_bind (failsFirst_numberField .percent rfl _) fun _ =>
  failsFirst_bind (failsFirst_numberField .computed rfl _) fun _ =>
  failsFirst_bind (failsFirst_listField .errors rfl _) fun _ => failsFirst_pure _

/-- Whether a report is refused, and why, does not depend on the task. -/
lemma update_eq_error_iff (task : RemoteTask) (v : Json) (failure : Failure) :
    task.update v = .error failure ↔ refusal? v = some failure := by
  cases v with
  | object members => exact failsFirst_update members task failure
  | _ => simp [RemoteTask.update, refusal?, RemoteTask.notAnObject]

/-! ### What a report is merged into -/

/-- A task with what a report tells of some fields written into it. -/
def written (members : List (String × Json)) (fields : List TaskField) (task : RemoteTask) :
    RemoteTask :=
  (fields.filter (Tells members ·)).foldl
    (fun task field => field.write (Json.member members field.key) task) task

lemma value_written (hfits : ∀ other ∈ fields, ¬ Misfits members other) (task : RemoteTask) :
    field.value (written members fields task) =
      if field ∈ fields then merged members field (field.value task) else field.value task := by
  induction fields generalizing task with
  | nil => rfl
  | cons first rest ih =>
    have hrest := ih (fun other ho => hfits other (List.mem_cons_of_mem _ ho))
    have hfirst := hfits first List.mem_cons_self
    by_cases htells : Tells members first
    · have hstep : written members (first :: rest) task =
          written members rest (first.write (Json.member members first.key) task) := by
        simp [written, htells]
      have htakes : first.type.takes (Json.member members first.key) := by
        by_contra hnot
        exact hfirst ⟨htells, hnot⟩
      rw [hstep, hrest]
      by_cases hsame : field = first
      · subst hsame
        rw [TaskField.value_write htakes, ← merged_of_tells htells (field.value task),
          merged_merged]
        simp
      · rw [TaskField.value_write_of_ne hsame]
        simp [hsame]
    · have hstep : written members (first :: rest) task = written members rest task := by
        simp [written, htells]
      rw [hstep, hrest]
      by_cases hsame : field = first
      · subst hsame
        simp [merged_of_not_tells htells]
      · simp [hsame]

/-- What becomes of a task under a report: the first field that misfits refuses the report, and if
there is none, all that it tells is written. -/
lemma update_object (members : List (String × Json)) (task : RemoteTask) :
    task.update (.object members) =
      match TaskField.all.find? (Misfits members ·) with
      | some field => .error (misfit members field)
      | none => .ok (written members TaskField.all task) := by
  have hfails := failsFirst_update members task
  cases hf : TaskField.all.find? (Misfits members ·) with
  | some field => exact (hfails _).mpr (by rw [hf]; rfl)
  | none =>
    have hfits : ∀ other ∈ TaskField.all, ¬ Misfits members other := by
      simpa using List.find?_eq_none.mp hf
    cases hu : task.update (.object members) with
    | error failure =>
      have hfound := (hfails failure).mp hu
      rw [hf] at hfound
      cases hfound
    | ok latest =>
      have hsame : latest = written members TaskField.all task :=
        TaskField.value_ext fun field => by
          rw [value_written hfits, if_pos field.mem_all, value_update hu]
      rw [hsame]

/-- Only what a report says under the keys of the fields counts. -/
lemma update_congr (h : ∀ field : TaskField, Json.member members' field.key =
    Json.member members field.key) (task : RemoteTask) :
    task.update (.object members') = task.update (.object members) := by
  have htells : ∀ field, Tells members' field ↔ Tells members field := by
    intro field
    rw [Tells, Tells, h]
  have hmisfits : ∀ field, Misfits members' field ↔ Misfits members field := by
    intro field
    rw [Misfits, Misfits, htells, h]
  have hmisfit : misfit members' = misfit members := by
    funext field
    rw [misfit, misfit, h]
  rw [update_object, update_object]
  simp only [written, htells, hmisfits, hmisfit, h]

/-! ### Reports merged in place -/

lemma toldValues_eq (members : List (String × Json)) (fields : List TaskField) :
    toldValues members fields =
      match fields.find? (Misfits members ·) with
      | some field => .error (misfit members field)
      | none => .ok ((fields.filter (Tells members ·)).map fun field =>
          (field, Json.member members field.key)) := by
  induction fields with
  | nil => rfl
  | cons field rest ih =>
    unfold toldValues
    by_cases hm : Misfits members field
    · simp [hm, bind, Except.bind, throw, throwThe, MonadExceptOf.throw]
    · rw [ih]
      cases hf : rest.find? (Misfits members ·) with
      | some other => simp [hm, hf, bind, Except.bind]
      | none =>
        by_cases ht : Tells members field <;>
          simp [hm, hf, ht, bind, Except.bind, pure, Except.pure]

lemma run_writes (values : List (TaskField × Json)) (task : RemoteTask) :
    (values.forM fun (field, v) => modify (field.write v) :
        ExceptT Failure (StateM RemoteTask) Unit).run task =
      (.ok (), values.foldl (fun task (field, v) => field.write v task) task) := by
  induction values generalizing task with
  | nil => rfl
  | cons value rest ih => exact ih _

/-- A report merged in place leaves the task that the report makes of it, or leaves it alone. -/
lemma run_mergeInPlace (v : Json) (task : RemoteTask) :
    (mergeInPlace v).run task =
      match task.update v with
      | .ok latest => (.ok (), latest)
      | .error failure => (.error failure, task) := by
  cases v with
  | object members =>
    rw [update_object]
    dsimp only [mergeInPlace]
    rw [toldValues_eq]
    cases TaskField.all.find? (Misfits members ·) with
    | some field => rfl
    | none =>
      refine (run_writes _ task).trans ?_
      rw [List.foldl_map]
      rfl
  | _ => rfl

lemma mergedWholeOrNot (task : RemoteTask) (v : Json) : MergedWholeOrNot task v := by
  refine ⟨fun failure h => ?_, fun h => ?_⟩
  · have hrefused := (update_eq_error_iff task v failure).mpr h
    exact ⟨hrefused, by rw [run_mergeInPlace, hrefused]⟩
  · cases hu : task.update v with
    | error failure =>
      rw [(update_eq_error_iff task v failure).mp hu] at h
      cases h
    | ok latest =>
      have hrun : (mergeInPlace v).run task = (.ok (), latest) := by
        rw [run_mergeInPlace, hu]
      cases v with
      | object members =>
        exact ⟨members, latest, rfl, rfl, hrun, fun field => value_update hu field⟩
      | _ => cases h

/-! ### Reports one after the other -/

lemma lastTold_cons (members : List (String × Json)) (told : List (List (String × Json)))
    (field : TaskField) (known : Json) :
    lastTold (members :: told) field known = lastTold told field (merged members field known) := by
  unfold lastTold
  by_cases h : Tells members field
  · have hkept : Json.member members field.key ≠ .null := h
    rw [List.map_cons, List.filter_cons_of_pos (by simpa using hkept), List.getLastD_cons,
      merged_of_tells h]
  · have hnull : Json.member members field.key = .null := not_not.mp h
    rw [List.map_cons, List.filter_cons_of_neg (by simpa using hnull), merged_of_not_tells h]

variable {setup : Setup} {hook : Hook} {origin : Origin} {attempt? : Option Int}
  {request : Request} {told : List (List (String × Json))} {s t u : Scene}

/-- A refresh that fails leaves the task as it was. -/
lemma sameTask_of_refused (h : Total hook) (halone : TaskAlone hook origin s)
    (hr : (refresh setup hook origin attempt?).run s = (.error failure, t)) :
    SameTask s.order t.order := by
  have hexists : s.order.task.exists? := by
    by_contra hnone
    rw [refresh_of_no_task setup hook origin attempt? (Bool.eq_false_iff.mpr hnone)] at hr
    cases hr
  have hfails : FailsWith _ _ ((refresh setup hook origin attempt?).run s).1 _ :=
    refresh_failsWith h hexists
  rw [hr] at hfails
  have hleft : t.order = _ := hfails.order failure rfl
  rw [hleft]
  unfold leftMeanwhile
  cases hq : s.order.hardware.client.request "GET" (.text s.order.task.uri) .null with
  | error failure => exact ⟨rfl, rfl⟩
  | ok request => exact halone request hq

/-- A refresh for the current attempt whose answer is accepted and does not move the task records
the task with the answer merged in. -/
lemma value_of_accepted (h : Total hook) (hcurrent : s.order.isCurrent attempt?)
    (halone : TaskAlone hook origin s)
    (hr : Refreshed setup hook origin attempt? request members latest s t)
    (huri : Json.member members "uri" = .null ∨
      Json.member members "uri" = .text s.order.task.uri) (field : TaskField) :
    field.value t.order.task = merged members field (field.value s.order.task) := by
  have hupdate := (hr.outcome h).1
  have hstays : latest.uri = s.order.task.uri := (uri_update_iff hupdate).mpr huri
  have hrecorded := hr.recorded h (halone request hr.asked) hcurrent hstays
  rw [hrecorded.1, value_update hupdate]

/-- Over all the refreshes, each field of the task becomes the last value told of it. -/
lemma Consults.value (h : Consults setup s told t) (field : TaskField) :
    field.value t.order.task = lastTold told field (field.value s.order.task) := by
  induction h with
  | done hsame => rw [hsame.task, lastTold, List.map_nil, List.filter_nil, List.getLastD_nil]
  | refused hsame _ halone hr _ ih =>
    have hleft := sameTask_of_refused (total_hookAt setup _) halone hr
    rw [ih, hleft.task, hsame.task]
  | accepted hsame hcurrent halone hr huri _ ih =>
    rw [ih, value_of_accepted (total_hookAt setup _) hcurrent halone hr huri, hsame.task,
      lastTold_cons]

/-- What is accepted is not refused. -/
lemma Consults.not_refused (h : Consults setup s told t) :
    ∀ members ∈ told, refusal? (.object members) = none := by
  induction h with
  | done => exact fun _ hm => nomatch hm
  | refused _ _ _ _ _ ih => exact ih
  | accepted _ _ _ hr _ _ ih =>
    intro members hm
    rcases List.mem_cons.mp hm with rfl | hm
    · have hupdate := (hr.outcome (total_hookAt setup _)).1
      rw [Option.eq_none_iff_forall_ne_some]
      intro failure hrefused
      rw [(update_eq_error_iff _ _ failure).mpr hrefused] at hupdate
      cases hupdate
    · exact ih members hm

end Reports

/-- A report is merged as a whole or not at all, and is refused for the first field that misfits, as
any field with a truth value does. Only what it says under the keys of the fields counts. So after
any row of answers to one current task, each field of the record is the last value that an accepted
answer told of it. -/
theorem report_merged_whole_or_not :
    (∀ task v, MergedWholeOrNot task v) ∧
    (∀ members (field : TaskField) b, Json.member members field.key = .bool b →
      refusal? (.object members) ≠ none) ∧
    (∀ (task : RemoteTask) members members', (∀ field : TaskField,
        Json.member members' field.key = Json.member members field.key) →
      task.update (.object members') = task.update (.object members)) ∧
    ∀ setup s told t, Consults setup s told t →
      (∀ members ∈ told, refusal? (.object members) = none) ∧
      ∀ field : TaskField,
        field.value t.order.task = lastTold told field (field.value s.order.task) := by
  refine ⟨mergedWholeOrNot, fun members field b hb hnone => ?_,
    fun task members members' h => update_congr h task,
    fun setup s told t h => ⟨h.not_refused, h.value⟩⟩
  have hfits := List.find?_eq_none.mp (Option.map_eq_none_iff.mp hnone)
  exact hfits field field.mem_all (by simpa using misfits_of_bool hb)

/-- The blade's task runs. The manager's second answer tells that it is completed, but its share is
told as a text and its name as a number. -/
def consultedBlade : Scene :=
  (bladeScene [
    { content := .reply 200 "OK" "\x7b\"percentComplete\": 50, \"owner\": null\x7d" },
    { content := .reply 200 "OK"
        "\x7b\"percentComplete\": \"all\", \"taskState\": \"Completed\", \"name\": 1\x7d" },
    { content := .reply 200 "OK" "\x7b\"taskState\": \"Stopping\"\x7d" }]).onOrder
    ({ · with task := { uri := "/rest/tasks/1", state := "Running" } })

theorem report_merged_whole_or_not_consultedBlade :
    let bad : Json := .object
      [("percentComplete", .text "all"), ("taskState", .text "Completed"), ("name", .int 1)]
    let s := consultedBlade
    let consult (u : Scene) := (refresh calm (hookAt calm 0) .query none).run u
    let t := (consult (consult (consult s).2).2).2
    s.order.task.update bad = .error ⟨.wrongValue, "unexpected int value for name"⟩ ∧
      TaskField.percent.value t.order.task = .int 50 ∧
      TaskField.state.value t.order.task = .text "Stopping" ∧
      TaskField.owner.value t.order.task = TaskField.owner.value s.order.task := by
  intro bad s consult t
  have hrefused : refusal? bad = some ⟨.wrongValue, "unexpected int value for name"⟩ := by
    decide +kernel
  let halfDone : List (String × Json) := [("percentComplete", .int 50), ("owner", .null)]
  let stopping : List (String × Json) := [("taskState", .text "Stopping")]
  let request : Request :=
    { method := "GET", url := "https://ov.example/rest/tasks/1", data := none, verify := .bool true,
      timeout := .int 60 }
  have hfirst : Refreshed calm (hookAt calm 0) .query none request halfDone
      { uri := "/rest/tasks/1", state := "Running", percent := .int 50 } s (consult s).2 :=
    ⟨Prod.ext (by decide +kernel) rfl, by decide +kernel,
      "\x7b\"percentComplete\": 50, \"owner\": null\x7d", by decide +kernel, by decide +kernel⟩
  have hsecond : consult (consult s).2 = (.error ⟨.decoding, "Unable to decode response from " ++
      "/rest/tasks/1. Error: unexpected int value for name"⟩, (consult (consult s).2).2) :=
    Prod.ext (by decide +kernel) rfl
  have hthird : Refreshed calm (hookAt calm 0) .query none request stopping
      { uri := "/rest/tasks/1", state := "Stopping", percent := .int 50 }
      (consult (consult s).2).2 t :=
    ⟨Prod.ext (by decide +kernel) rfl, by decide +kernel,
      "\x7b\"taskState\": \"Stopping\"\x7d", by decide +kernel, by decide +kernel⟩
  have hconsults : Consults calm s [halfDone, stopping] t :=
    .accepted ⟨rfl, rfl⟩ rfl (taskAlone_zero calm .query _) hfirst (by decide) <|
    .refused ⟨rfl, rfl⟩ rfl (taskAlone_zero calm .query _) hsecond <|
    .accepted ⟨rfl, rfl⟩ rfl (taskAlone_zero calm .query _) hthird (by decide) <|
    .done ⟨rfl, rfl⟩
  have hvalue := (report_merged_whole_or_not.2.2.2 calm s _ t hconsults).2
  refine ⟨((report_merged_whole_or_not.1 s.order.task bad).refused _ hrefused).1, ?_, ?_, ?_⟩
  · rw [hvalue]
    decide +kernel
  · rw [hvalue]
    decide +kernel
  · rw [hvalue]
    decide +kernel

end ServerPower.Proofs
