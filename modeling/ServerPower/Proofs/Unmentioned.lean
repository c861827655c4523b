import Mathlib.Tactic.Common
import ServerPower.CommandLine.Options

/-!
# Options that nobody mentions

The value of an option depends on another option only through texts that mention it. Settings that
differ in nothing but an option that no text of theirs mentions have the same values for all the
others, and the tool makes the same of them.
-/

namespace ServerPower.Proofs

/-- The text has a placeholder for the option. -/
def Mentions (hidden : OptionKey) (home? : Option String) (s : String) : Prop :=
  ∃ name braced, Settings.Piece.value name braced ∈ Settings.pieces s.toList ∧
    Settings.resolve? home? name = .ok (some hidden)

/-- The texts in the value of an option outside the groups. -/
def textsIn : Json → List String
  | .text s => [s]
  | .list vs => vs.filterMap fun
    | .text s => some s
    | _ => none
  | _ => []

/-- The texts that an option is set to. -/
def textsOf : OptionSource → List String
  | .given v => textsIn v
  | .file s => [s]

/-- No text of another option mentions the option. -/
structure Unmentioned (hidden : OptionKey) (settings : Settings) : Prop where
  given : ∀ key s, key ≠ hidden → settings.entries.lookup key = some (.given (.text s)) →
    ¬ Mentions hidden none s
  file : ∀ key s, key ≠ hidden → settings.entries.lookup key = some (.file s) →
    ¬ Mentions hidden (some key.group) s
  common : ∀ option ∈ settings.common, ∀ s ∈ textsIn option.value, ¬ Mentions hidden none s

/-- The settings differ in nothing but what is set for one option. -/
structure SameBut (hidden : OptionKey) (settings settings' : Settings) : Prop where
  entries : ∀ key, key ≠ hidden → settings'.entries.lookup key = settings.entries.lookup key
  common : settings'.common = settings.common
  formerNames : settings'.formerNames = settings.formerNames

/-- All options but one have the same values. -/
def AgreeBut (hidden : OptionKey) (settings settings' : Settings) : Prop :=
  ∀ key, key ≠ hidden → settings'.read key = settings.read key

/-- Options of the settings other than the one. -/
def Apart (hidden : OptionKey) (settings : Settings) : Settings.Referent → Prop
  | .key key => key ≠ hidden
  | .common option => option ∈ settings.common

/-- The settings of the tool with the options given on the command line, whether they are accepted
or not. -/
def withOptions (settings : Settings) (given : CommandLine.Values) : Settings :=
  { settings with
    common := (CommandLine.flaggedOptions ++ CommandLine.unflaggedOptions).map
      (CommandLine.withGiven given)
    formerNames := CommandLine.formerNames }

section Lists

variable {ε α β : Type}

lemma mapM_congr {f g : α → Except ε β} {l : List α} (h : ∀ a ∈ l, f a = g a) :
    l.mapM f = l.mapM g := by
  induction l with
  | nil => rfl
  | cons a l ih =>
    rw [List.mapM_cons, List.mapM_cons, h a (List.mem_cons_self ..),
      ih fun b hb => h b (List.mem_cons_of_mem a hb)]

lemma forM_congr {f g : α → Except ε Unit} {l : List α} (h : ∀ a ∈ l, f a = g a) :
    l.forM f = l.forM g := by
  induction l with
  | nil => rfl
  | cons a l ih =>
    show (f a >>= fun _ => l.forM f) = g a >>= fun _ => l.forM g
    rw [h a (List.mem_cons_self ..), ih fun b hb => h b (List.mem_cons_of_mem a hb)]

end Lists

section Settings

variable {hidden : OptionKey} {settings settings' : Settings}
  {read read' : Settings.Reader} {home? : Option String}

lemma sameBut_of_set {v : Json} (h : settings.set hidden v = .ok settings') :
    SameBut hidden settings settings' := by
  obtain ⟨w, -, hs⟩ := exists_of_bind_eq_ok h
  cases hs
  refine ⟨fun key hk => ?_, rfl, rfl⟩
  rw [List.lookup_cons, beq_false_of_ne hk]

lemma not_mentions_of_notMem {s : String} (h : '$' ∉ s.toList) : ¬ Mentions hidden home? s := by
  rintro ⟨name, braced, hm, -⟩
  rw [Settings.pieces_of_notMem h, List.mem_singleton] at hm
  cases hm

/-- Texts without a dollar sign mention nothing. -/
lemma unmentioned_of_notMem
    (hentries : ∀ entry ∈ settings.entries, ∀ s ∈ textsOf entry.2, '$' ∉ s.toList)
    (hcommon : ∀ option ∈ settings.common, ∀ s ∈ textsIn option.value, '$' ∉ s.toList) :
    Unmentioned hidden settings := by
  have hplain : ∀ key source, settings.entries.lookup key = some source →
      ∀ s ∈ textsOf source, '$' ∉ s.toList := by
    intro key source hl
    obtain ⟨before, after, hsplit, -⟩ := List.lookup_eq_some_iff.mp hl
    exact hentries (key, source) (by rw [hsplit]; simp)
  refine ⟨fun key s _ hl => ?_, fun key s _ hl => ?_, fun option ho s hs => ?_⟩
  · exact not_mentions_of_notMem (hplain key _ hl s (List.mem_singleton_self s))
  · exact not_mentions_of_notMem (hplain key _ hl s (List.mem_singleton_self s))
  · exact not_mentions_of_notMem (hcommon option ho s hs)

/-- What stands for a piece is the same where the options that it can lead to are. -/
lemma fillPiece_congr (h : SameBut hidden settings settings')
    (hread : ∀ referent, Apart hidden settings referent → read' referent = read referent)
    {piece : Settings.Piece}
    (hp : ∀ name braced, piece = .value name braced →
      Settings.resolve? home? name ≠ .ok (some hidden)) :
    settings'.fillPiece read' home? piece = settings.fillPiece read home? piece := by
  cases piece with
  | plain s => rfl
  | value name braced =>
    have houtside : ∀ s written,
        settings'.fillOutside read' s written = settings.fillOutside read s written := by
      intro s written
      unfold Settings.fillOutside
      rw [h.common, h.formerNames]
      cases hf : settings.common.find? (·.name == s) with
      | none => rfl
      | some option =>
        dsimp only
        rw [hread (.common option) (List.mem_of_find?_eq_some hf)]
    unfold Settings.fillPiece
    simp only [houtside]
    have hname := hp name braced rfl
    cases hr : Settings.resolve? home? name with
    | error failure => rfl
    | ok key? =>
      cases key? with
      | none => rfl
      | some key =>
        rw [hr] at hname
        have hkey : key ≠ hidden := by
          rintro rfl
          exact hname rfl
        simp only [hread (.key key) hkey, bind, Except.bind]

lemma fill_congr (h : SameBut hidden settings settings')
    (hread : ∀ referent, Apart hidden settings referent → read' referent = read referent)
    {s : String} (hs : ¬ Mentions hidden home? s) :
    settings'.fill read' home? s = settings.fill read home? s := by
  unfold Settings.fill
  rw [mapM_congr fun piece hm => ?_]
  refine fillPiece_congr h hread ?_
  rintro name braced rfl hr
  exact hs ⟨name, braced, hm, hr⟩

lemma fillValue_congr (h : SameBut hidden settings settings')
    (hread : ∀ referent, Apart hidden settings referent → read' referent = read referent)
    {v : Json} (hv : ∀ s ∈ textsIn v, ¬ Mentions hidden none s) :
    settings'.fillValue read' v = settings.fillValue read v := by
  cases v with
  | text s => simp only [Settings.fillValue, fill_congr h hread (hv s (List.mem_singleton_self s))]
  | list vs =>
    unfold Settings.fillValue
    dsimp only
    rw [mapM_congr fun w hw => ?_]
    cases w with
    | text s =>
      have hs : s ∈ textsIn (.list vs) := List.mem_filterMap.mpr ⟨.text s, hw, rfl⟩
      simp only [fill_congr h hread (hv s hs)]
    | _ => rfl
  | _ => rfl

/-- Where nobody mentions an option, all the others are read the same whatever is set for it, by
induction on how deeply placeholders are nested. -/
lemma readWithin_congr (h : SameBut hidden settings settings') (hu : Unmentioned hidden settings)
    (depth : Nat) :
    ∀ referent, Apart hidden settings referent →
      settings'.readWithin depth referent = settings.readWithin depth referent := by
  induction depth with
  | zero => exact fun _ _ => rfl
  | succ depth ih =>
    intro referent hr
    cases referent with
    | key key =>
      have hkey : key ≠ hidden := hr
      simp only [Settings.readWithin, h.entries key hkey]
      cases hl : settings.entries.lookup key with
      | none => rfl
      | some source =>
        cases source with
        | given v =>
          cases v with
          | text s => simp only [fill_congr h ih (hu.given key s hkey hl)]
          | _ => rfl
        | file s => simp only [fill_congr h ih (hu.file key s hkey hl)]
    | common option =>
      simp only [Settings.readWithin, fillValue_congr h ih (hu.common option hr)]

/-- What is set for an option that nobody mentions does not matter to the others. -/
theorem SameBut.agree (h : SameBut hidden settings settings') (hu : Unmentioned hidden settings) :
    AgreeBut hidden settings settings' := by
  intro key hk
  unfold Settings.read Settings.size
  rw [h.common]
  exact readWithin_congr h hu _ _ hk

lemma readCommon_congr (h : SameBut hidden settings settings') (hu : Unmentioned hidden settings)
    {option : CommonOption} (hm : option ∈ settings.common) :
    settings'.readCommon option = settings.readCommon option := by
  unfold Settings.readCommon Settings.size
  rw [h.common]
  exact fillValue_congr h (readWithin_congr h hu _) (hu.common option hm)

lemma SameBut.withOptions (h : SameBut hidden settings settings') (given : CommandLine.Values) :
    SameBut hidden (withOptions settings given) (withOptions settings' given) :=
  ⟨h.entries, rfl, rfl⟩

/-- The tool accepts the options given on the command line, or refuses them, in either settings. -/
lemma configure_congr (h : SameBut hidden settings settings') {given : CommandLine.Values}
    (hu : Unmentioned hidden (withOptions settings given)) (places : CommandLine.Places) :
    (∃ usage, CommandLine.configure places settings given = .error usage ∧
        CommandLine.configure places settings' given = .error usage) ∨
      CommandLine.configure places settings given = .ok (withOptions settings given) ∧
        CommandLine.configure places settings' given = .ok (withOptions settings' given) := by
  let chosen := (withOptions settings given).common.filter
    fun option => (given.lookup option.name).isSome
  have hchecks : ∀ option ∈ chosen, CommandLine.checkGiven (withOptions settings' given) option =
      CommandLine.checkGiven (withOptions settings given) option := by
    intro option hm
    unfold CommandLine.checkGiven
    rw [readCommon_congr (h.withOptions given) hu (List.mem_filter.mp hm).1]
  have hconfigure : ∀ start : Settings, CommandLine.configure places start given = (do
      chosen.forM (CommandLine.checkGiven (withOptions start given))
      (places.checkFiles (given.texts "config_file")).mapError .failed
      return withOptions start given) := fun _ => rfl
  rw [hconfigure, hconfigure, forM_congr hchecks]
  cases chosen.forM (CommandLine.checkGiven (withOptions settings given)) with
  | error usage => exact .inl ⟨usage, rfl, rfl⟩
  | ok checked =>
    cases (places.checkFiles (given.texts "config_file")).mapError CommandLine.Usage.failed with
    | error usage => exact .inl ⟨usage, rfl, rfl⟩
    | ok found => exact .inr ⟨rfl, rfl⟩

end Settings

end ServerPower.Proofs
