import ServerPower.Proofs.Steps

/-!
# Merged reports

What is known of a task, field by field. A report that is accepted puts its own values in the place
of the known ones where it carries any, and says nothing of the other fields.
-/

namespace ServerPower.Proofs

/-- The fields of a task that reports tell. -/
inductive TaskField where
  | uri
  | name
  | owner
  | state
  | status
  | percent
  | computed
  | errors
  deriving DecidableEq, Repr

namespace TaskField

/-- The name of the field in a report. -/
def key : TaskField → String
  | uri => "uri"
  | name => "name"
  | owner => "owner"
  | state => "taskState"
  | status => "taskStatus"
  | percent => "percentComplete"
  | computed => "computedPercentComplete"
  | errors => "taskErrors"

/-- What is known of the field. -/
def value (field : TaskField) (task : RemoteTask) : Json :=
  match field with
  | uri => .text task.uri
  | name => .text task.name
  | owner => .text task.owner
  | state => .text task.state
  | status => .text task.status
  | percent => .number task.percent
  | computed => .number task.computed
  | errors => .list task.errors

end TaskField

/-- A report tells a field if it has a value other than `null` for it. -/
def Tells (members : List (String × Json)) (field : TaskField) : Prop :=
  Json.member members field.key ≠ .null

instance (members : List (String × Json)) (field : TaskField) : Decidable (Tells members field) :=
  inferInstanceAs (Decidable (_ ≠ _))

/-- The value of a field after a report where `old` was known before. -/
def merged (members : List (String × Json)) (field : TaskField) (old : Json) : Json :=
  if Json.member members field.key = .null then old else Json.member members field.key

section Fields

variable {members : List (String × Json)} {field : TaskField} {key : String}

lemma merged_of_tells (h : Tells members field) (old : Json) :
    merged members field old = Json.member members field.key :=
  if_neg h

lemma merged_of_not_tells (h : ¬ Tells members field) (old : Json) :
    merged members field old = old :=
  if_pos (not_not.mp h)

lemma text_of_textField {old new : String} (h : RemoteTask.textField members key old = .ok new) :
    .text new = if Json.member members key = .null then .text old else Json.member members key := by
  unfold RemoteTask.textField at h
  split at h <;> cases h <;> simp [*]

lemma number_of_numberField {old new : Number}
    (h : RemoteTask.numberField members key old = .ok new) :
    .number new =
      if Json.member members key = .null then .number old else Json.member members key := by
  unfold RemoteTask.numberField at h
  split at h <;> cases h <;> simp [*]

lemma list_of_listField {old new : List Json}
    (h : RemoteTask.listField members key old = .ok new) :
    .list new = if Json.member members key = .null then .list old else Json.member members key := by
  unfold RemoteTask.listField at h
  split at h <;> cases h <;> simp [*]

/-- A report that is accepted is merged field by field. -/
theorem value_update {task latest : RemoteTask} (h : task.update (.object members) = .ok latest)
    (field : TaskField) : field.value latest = merged members field (field.value task) := by
  unfold RemoteTask.update at h
  obtain ⟨uri, huri, h⟩ := exists_of_bind_eq_ok h
  obtain ⟨name, hname, h⟩ := exists_of_bind_eq_ok h
  obtain ⟨owner, howner, h⟩ := exists_of_bind_eq_ok h
  obtain ⟨state, hstate, h⟩ := exists_of_bind_eq_ok h
  obtain ⟨status, hstatus, h⟩ := exists_of_bind_eq_ok h
  obtain ⟨percent, hpercent, h⟩ := exists_of_bind_eq_ok h
  obtain ⟨computed, hcomputed, h⟩ := exists_of_bind_eq_ok h
  obtain ⟨errors, herrors, h⟩ := exists_of_bind_eq_ok h
  cases h
  cases field with
  | uri => exact text_of_textField huri
  | name => exact text_of_textField hname
  | owner => exact text_of_textField howner
  | state => exact text_of_textField hstate
  | status => exact text_of_textField hstatus
  | percent => exact number_of_numberField hpercent
  | computed => exact number_of_numberField hcomputed
  | errors => exact list_of_listField herrors

lemma textField_accepts {old new : String} (h : RemoteTask.textField members key old = .ok new)
    (old' : String) : ∃ new', RemoteTask.textField members key old' = .ok new' := by
  unfold RemoteTask.textField at h ⊢
  split at h
  · exact ⟨old', rfl⟩
  · exact ⟨_, rfl⟩
  · cases h

lemma numberField_accepts {old new : Number}
    (h : RemoteTask.numberField members key old = .ok new) (old' : Number) :
    ∃ new', RemoteTask.numberField members key old' = .ok new' := by
  unfold RemoteTask.numberField at h ⊢
  split at h
  · exact ⟨old', rfl⟩
  · exact ⟨_, rfl⟩
  · cases h

lemma listField_accepts {old new : List Json}
    (h : RemoteTask.listField members key old = .ok new) (old' : List Json) :
    ∃ new', RemoteTask.listField members key old' = .ok new' := by
  unfold RemoteTask.listField at h ⊢
  split at h
  · exact ⟨old', rfl⟩
  · exact ⟨_, rfl⟩
  · cases h

/-- Whether a report is accepted does not depend on what is known already. -/
theorem update_accepts {task latest : RemoteTask} (h : task.update (.object members) = .ok latest)
    (other : RemoteTask) : ∃ latest', other.update (.object members) = .ok latest' := by
  unfold RemoteTask.update at h
  obtain ⟨_, huri, h⟩ := exists_of_bind_eq_ok h
  obtain ⟨_, hname, h⟩ := exists_of_bind_eq_ok h
  obtain ⟨_, howner, h⟩ := exists_of_bind_eq_ok h
  obtain ⟨_, hstate, h⟩ := exists_of_bind_eq_ok h
  obtain ⟨_, hstatus, h⟩ := exists_of_bind_eq_ok h
  obtain ⟨_, hpercent, h⟩ := exists_of_bind_eq_ok h
  obtain ⟨_, hcomputed, h⟩ := exists_of_bind_eq_ok h
  obtain ⟨_, herrors, -⟩ := exists_of_bind_eq_ok h
  obtain ⟨uri, huri⟩ := textField_accepts huri other.uri
  obtain ⟨name, hname⟩ := textField_accepts hname other.name
  obtain ⟨owner, howner⟩ := textField_accepts howner other.owner
  obtain ⟨state, hstate⟩ := textField_accepts hstate other.state
  obtain ⟨status, hstatus⟩ := textField_accepts hstatus other.status
  obtain ⟨percent, hpercent⟩ := numberField_accepts hpercent other.percent
  obtain ⟨computed, hcomputed⟩ := numberField_accepts hcomputed other.computed
  obtain ⟨errors, herrors⟩ := listField_accepts herrors other.errors
  refine ⟨⟨uri, name, owner, state, status, percent, computed, errors⟩, ?_⟩
  simp only [RemoteTask.update, huri, hname, howner, hstate, hstatus, hpercent, hcomputed, herrors,
    bind, Except.bind, pure, Except.pure]

end Fields

/-- What comes of reading a task from an answer. -/
lemma readTask_outcome (strict : Bool) (uri : Json) (body : String) (task : RemoteTask) :
    (Client.readTask strict uri body task).outcome =
      match (Json.parse body).mapError (Failure.mk .wrongValue ·) >>= task.update with
      | .ok latest => .ok latest
      | .error failure =>
        .error (raised strict .decoding [("uri", uri), ("error", .text failure.text)]) := by
  unfold Client.readTask Client.decode Payload.read
  cases hp : Json.parse body with
  | error text =>
    simp only [hp, Except.mapError, Client.unreadable]
    rw [Report.bind_of_error (raise_outcome _ _ _)]
    rfl
  | ok v =>
    simp only [hp, Except.mapError]
    rw [Report.bind_of_ok rfl]
    simp only [bind, Except.bind]
    cases hu : task.update v with
    | error failure => exact raise_outcome _ _ _
    | ok latest => rfl

/-- A task is read from an answer just if the answer is an object that is accepted as a report. -/
theorem readTask_eq_ok_iff {strict : Bool} {uri : Json} {body : String} {task latest : RemoteTask} :
    (Client.readTask strict uri body task).outcome = .ok latest ↔
      ∃ members, Json.parse body = .ok (.object members) ∧
        task.update (.object members) = .ok latest := by
  rw [readTask_outcome]
  cases hp : Json.parse body with
  | error text => simp [Except.mapError, bind, Except.bind]
  | ok v =>
    by_cases hobject : ∃ members, v = .object members
    · obtain ⟨members, rfl⟩ := hobject
      simp only [Except.mapError, bind, Except.bind]
      cases hu : task.update (.object members) with
      | error failure => simp [hu]
      | ok known => simp [hu]
    · have hrefused : task.update v = .error (RemoteTask.notAnObject v) :=
        RemoteTask.update_of_not_object task (fun members hv => hobject ⟨members, hv⟩)
      have hother : ∀ members, v ≠ .object members := fun members hv => hobject ⟨members, hv⟩
      simp [Except.mapError, bind, Except.bind, hrefused, hother]

/-- What is read from an answer does not depend on where it is from. -/
lemma readTask_unique {strict : Bool} {uri uri' : Json} {body : String}
    {task latest latest' : RemoteTask}
    (h : (Client.readTask strict uri body task).outcome = .ok latest)
    (h' : (Client.readTask strict uri' body task).outcome = .ok latest') : latest = latest' := by
  obtain ⟨members, hparse, hupdate⟩ := readTask_eq_ok_iff.mp h
  obtain ⟨members', hparse', hupdate'⟩ := readTask_eq_ok_iff.mp h'
  rw [hparse] at hparse'
  cases hparse'
  rw [hupdate] at hupdate'
  cases hupdate'
  rfl

end ServerPower.Proofs
