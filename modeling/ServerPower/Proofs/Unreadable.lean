import Mathlib.Tactic.Common
import ServerPower.Settings

/-!
# Options that cannot be read

What goes wrong when an option is read is no failure of this library: a placeholder refers to what
is not there, or a value is not accepted.
-/

namespace ServerPower.Proofs

/-- The outcome is no failure of this library. -/
def FromOutside {α : Type} (outcome : Except Failure α) : Prop :=
  ∀ failure, outcome = .error failure → failure.isA .general = false

/-- A value of the settings cannot be read, whatever options there are outside the groups. -/
def Unreadable (settings : Settings) (failure : Failure) : Prop :=
  ∃ common formerNames key,
    ({ settings with common, formerNames } : Settings).read key = .error failure

section Outcomes

variable {α β : Type} {outcome : Except Failure α}

lemma fromOutside_ok (a : α) : FromOutside (.ok a) :=
  fun _ h => nomatch h

lemma fromOutside_error {failure : Failure} (h : failure.isA .general = false) :
    FromOutside (.error failure : Except Failure α) := by
  rintro other ⟨⟩
  exact h

lemma FromOutside.bind {next : α → Except Failure β} (h : FromOutside outcome)
    (hn : ∀ a, FromOutside (next a)) : FromOutside (outcome >>= next) := by
  cases outcome with
  | error failure => exact fromOutside_error (h failure rfl)
  | ok a => exact hn a

lemma FromOutside.map (h : FromOutside outcome) (f : α → β) : FromOutside (outcome.map f) := by
  cases outcome with
  | error failure => exact fromOutside_error (h failure rfl)
  | ok a => exact fromOutside_ok (f a)

lemma fromOutside_mapM {f : α → Except Failure β} {l : List α} (h : ∀ a ∈ l, FromOutside (f a)) :
    FromOutside (l.mapM f) := by
  induction l with
  | nil => exact fromOutside_ok []
  | cons a l ih =>
    rw [List.mapM_cons]
    refine (h a (List.mem_cons_self ..)).bind fun b => ?_
    exact (ih fun c hc => h c (List.mem_cons_of_mem a hc)).bind fun bs => fromOutside_ok _

end Outcomes

section Values

variable {settings : Settings} {read : Settings.Reader} {home? : Option String}

lemma fromOutside_checkLeast (least n : Int) (v : Json) :
    FromOutside (OptionType.checkLeast least n v) := by
  unfold OptionType.checkLeast
  split
  · exact fromOutside_error rfl
  · exact fromOutside_ok _

lemma fromOutside_accept (type : OptionType) (v : Json) : FromOutside (type.accept v) := by
  unfold OptionType.accept
  split
  · exact fromOutside_ok _
  · exact fromOutside_ok _
  · exact fromOutside_ok _
  · split
    · exact fromOutside_ok _
    · exact fromOutside_error rfl
  · exact fromOutside_error rfl
  · exact fromOutside_checkLeast _ _ _
  · exact fromOutside_checkLeast _ _ _
  · split
    · exact fromOutside_checkLeast _ _ _
    · exact fromOutside_error rfl
    · exact fromOutside_error rfl
  · split
    · exact fromOutside_ok _
    · split
      · exact fromOutside_checkLeast _ _ _
      · exact fromOutside_error rfl
  · exact fromOutside_error rfl

lemma fromOutside_check (option : CommonOption) (v : Json) : FromOutside (option.check v) := by
  unfold CommonOption.check
  split
  · exact fromOutside_ok _
  · exact fromOutside_error rfl

lemma fromOutside_resolve? (home? : Option String) (name : List Char) :
    FromOutside (Settings.resolve? home? name) := by
  unfold Settings.resolve?
  split
  · refine FromOutside.bind ?_ fun _ => fromOutside_ok _
    unfold OptionKey.checkGroup
    split
    · exact fromOutside_ok _
    · exact fromOutside_error rfl
  · exact fromOutside_ok _
  · exact fromOutside_ok _

/-- What is reported in place of a failure from outside comes from outside as well. -/
lemma FromOutside.refused {outcome : Except Failure Json} (h : FromOutside outcome)
    {kind : FailureKind} (hk : kind.isA .general = false) (name : String) :
    FromOutside (outcome.mapError (Settings.refused kind name)) := by
  cases outcome with
  | ok v => exact fromOutside_ok v
  | error failure =>
    refine fromOutside_error ?_
    unfold Settings.refused
    split
    · exact hk
    · exact h failure rfl

lemma fromOutside_fillPiece (hread : ∀ referent, FromOutside (read referent))
    (piece : Settings.Piece) : FromOutside (settings.fillPiece read home? piece) := by
  cases piece with
  | plain s => exact fromOutside_ok s
  | value name braced =>
    have houtside : ∀ s written, FromOutside (settings.fillOutside read s written) := by
      intro s written
      unfold Settings.fillOutside
      split
      · exact fromOutside_error rfl
      · split
        · exact fromOutside_ok written
        · split
          · exact (hread _).map _
          · exact fromOutside_error rfl
    refine (fromOutside_resolve? home? name).bind fun key? => ?_
    cases key? with
    | none => exact houtside _ _
    | some key =>
      dsimp only
      cases hr : read (.key key) with
      | ok v => exact fromOutside_ok _
      | error failure =>
        dsimp only
        split
        · exact houtside _ _
        · exact fromOutside_error (hread _ failure hr)

lemma fromOutside_fill (hread : ∀ referent, FromOutside (read referent)) (s : String) :
    FromOutside (settings.fill read home? s) :=
  (fromOutside_mapM fun piece _ => fromOutside_fillPiece hread piece).bind
    fun _ => fromOutside_ok _

lemma fromOutside_fillValue (hread : ∀ referent, FromOutside (read referent)) (v : Json) :
    FromOutside (settings.fillValue read v) := by
  cases v with
  | text s => exact (fromOutside_fill hread s).map _
  | list vs =>
    refine (fromOutside_mapM fun w _ => ?_).bind fun _ => fromOutside_ok _
    cases w with
    | text s => exact (fromOutside_fill hread s).map _
    | _ => exact fromOutside_ok _
  | _ => exact fromOutside_ok _

/-- However deeply placeholders are nested, reading fails with no failure of this library. -/
lemma fromOutside_readWithin (depth : Nat) :
    ∀ referent, FromOutside (settings.readWithin depth referent) := by
  induction depth with
  | zero => exact fun _ => fromOutside_error rfl
  | succ depth ih =>
    intro referent
    cases referent with
    | key key =>
      unfold Settings.readWithin
      split
      · exact fromOutside_ok _
      · exact (fromOutside_fill ih _).map _
      · exact fromOutside_ok _
      · exact ((fromOutside_fill ih _).bind fun s => fromOutside_accept _ _).refused rfl _
    | common option =>
      exact ((fromOutside_fillValue ih option.value).bind
        fun v => fromOutside_check option v).refused rfl option.name

theorem Unreadable.not_general {failure : Failure} (h : Unreadable settings failure) :
    failure.isA .general = false := by
  obtain ⟨common, formerNames, key, hr⟩ := h
  exact fromOutside_readWithin _ _ failure hr

end Values

end ServerPower.Proofs
