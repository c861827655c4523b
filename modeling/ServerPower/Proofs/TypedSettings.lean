import Mathlib.Tactic.Common
import ServerPower.CommandLine.Options

/-!
# Typed settings

Settings whose values were handed over through their types, or are written in a file. Whatever is
read from such settings is a value that the type of its option takes.
-/

namespace ServerPower.Proofs

/-- The values that a type takes: nothing, or what it makes of the values that it accepts. -/
inductive Takes : OptionType → Json → Prop
  | nothing {type : OptionType} : Takes type .null
  | text (s : String) : Takes .text (.text s)
  | flag (b : Bool) : Takes .flag (.bool b)
  | truth {least : Int} {b : Bool} (h : least ≤ b.toInt) : Takes (.whole least) (.bool b)
  | whole {least n : Int} (h : least ≤ n) : Takes (.whole least) (.int n)

/-- Every value that was handed over is one that its option takes. -/
def Typed (settings : Settings) : Prop :=
  ∀ key v, (key, OptionSource.given v) ∈ settings.entries → Takes key.type v

section Values

variable {type : OptionType} {least : Int} {v w : Json}

lemma takes_of_checkLeast {n : Int} (h : OptionType.checkLeast least n v = .ok w)
    (hv : least ≤ n → Takes (.whole least) v) : Takes (.whole least) w := by
  unfold OptionType.checkLeast at h
  split at h
  · cases h
  · rename_i hn
    cases h
    exact hv (Int.not_lt.mp hn)

lemma takes_of_accept_flag (h : OptionType.flag.accept v = .ok w) : Takes .flag w := by
  cases v with
  | null => cases h; exact .nothing
  | bool b => cases h; exact .flag b
  | text s =>
    simp only [OptionType.accept] at h
    split at h
    · cases h
      exact .flag _
    · cases h
  | _ => cases h

lemma takes_of_accept_whole (h : (OptionType.whole least).accept v = .ok w) :
    Takes (.whole least) w := by
  cases v with
  | null => cases h; exact .nothing
  | bool b => exact takes_of_checkLeast h .truth
  | number n =>
    cases n with
    | int n => exact takes_of_checkLeast h .whole
    | float x =>
      simp only [OptionType.accept] at h
      split at h
      · exact takes_of_checkLeast h .whole
      · cases h
      · cases h
  | text s =>
    simp only [OptionType.accept] at h
    split at h
    · cases h
      exact .nothing
    · split at h
      · exact takes_of_checkLeast h .whole
      · cases h
  | _ => cases h

/-- What a type makes of a value is a value that it takes. -/
lemma takes_of_accept (h : type.accept v = .ok w) : Takes type w := by
  cases type with
  | text =>
    cases v with
    | null => cases h; exact .nothing
    | _ => cases h; exact .text _
  | flag => exact takes_of_accept_flag h
  | whole least => exact takes_of_accept_whole h

lemma takes_default (key : OptionKey) : Takes key.type key.default := by
  cases key <;> first | exact .nothing | exact .flag false | exact .whole (by decide)

end Values

section Settings

variable {settings settings' : Settings} {key : OptionKey} {v : Json}

/-- Whatever is read is a value that its option takes. -/
lemma takes_of_read (ht : Typed settings) (h : settings.read key = .ok v) : Takes key.type v := by
  have hgiven : ∀ w, settings.entries.lookup key = some (.given w) → Takes key.type w := by
    intro w hl
    obtain ⟨before, after, he, -⟩ := List.lookup_eq_some_iff.mp hl
    exact ht key w (by simp [he])
  simp only [Settings.read, Settings.readWithin] at h
  split at h
  · cases h
    exact takes_default key
  · rename_i s hl
    have htext := hgiven _ hl
    generalize key.type = type at htext ⊢
    cases htext
    cases hf : settings.fill (settings.readWithin settings.size) none s with
    | error failure =>
      rw [hf] at h
      cases h
    | ok filled =>
      rw [hf] at h
      cases h
      exact .text filled
  · rename_i w _ hl
    cases h
    exact hgiven _ hl
  · rename_i s hl
    cases hx : (do
      key.type.accept (.text (← settings.fill (settings.readWithin settings.size)
        (some key.group) s)) : Except Failure Json) with
    | error failure =>
      rw [hx] at h
      cases h
    | ok w =>
      rw [hx] at h
      cases h
      obtain ⟨filled, -, ha⟩ := exists_of_bind_eq_ok hx
      exact takes_of_accept ha

lemma typed_ofFile (group : String) (lines : List (String × String)) :
    Typed (.ofFile group lines) := by
  -- None of the entries that are read is a value handed over.
  have hfile : ∀ key v, (key, OptionSource.given v) ∉ (Settings.ofFile group lines).entries := by
    unfold Settings.ofFile
    apply List.foldlRecOn (motive := fun entries => ∀ key v, (key, OptionSource.given v) ∉ entries)
    · exact fun key v hm => List.not_mem_nil hm
    · intro entries h line hline key v
      dsimp only
      split
      · simpa using h key v
      · exact h key v
  intro key v hm
  exact absurd hm (hfile key v)

lemma typed_configure {places : CommandLine.Places} {given : CommandLine.Values}
    (ht : Typed settings) (h : CommandLine.configure places settings given = .ok settings') :
    Typed settings' := by
  unfold CommandLine.configure at h
  dsimp only at h
  obtain ⟨_, -, h⟩ := exists_of_bind_eq_ok h
  obtain ⟨_, -, h⟩ := exists_of_bind_eq_ok h
  cases h
  exact ht

end Settings

end ServerPower.Proofs
