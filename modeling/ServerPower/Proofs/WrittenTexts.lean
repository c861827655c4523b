import Mathlib.Tactic.Common
import Mathlib.Tactic.IntervalCases
import ServerPower.Json.Reader
import ServerPower.Json.Writer

/-!
# Written texts

A text is written in printable ASCII: a character stands for itself, or there is a letter for it
after a backslash, or it is given by one or two units of UTF-16. From what is written the same text
is read back.
-/

namespace ServerPower.Proofs
open Json

/-- The letters that stand for a character after a backslash. -/
def letters : List (Char × Char) :=
  [('"', '"'), ('\\', '\\'), ('n', '\n'), ('r', '\r'), ('t', '\t'), ('f', '\x0C'), ('b', '\x08')]

def IsPrintable (c : Char) : Prop := 0x20 ≤ c.toNat ∧ c.toNat ≤ 0x7E

/-- The forms in which a character is written. -/
inductive CharForm (c : Char) : List Char → Prop
  | itself (shown : IsPrintable c) (unmarked : c ≠ '"' ∧ c ≠ '\\') : CharForm c [c]
  | letter {l : Char} (named : (l, c) ∈ letters) : CharForm c ['\\', l]
  | unit (small : c.toNat < 0x10000) : CharForm c (unitEscape c.toNat)
  | pair (large : 0x10000 ≤ c.toNat) :
      CharForm c (unitEscape (0xD800 + (c.toNat - 0x10000) / 0x400) ++
        unitEscape (0xDC00 + (c.toNat - 0x10000) % 0x400))

lemma code_bounds (c : Char) : c.toNat < 0xD800 ∨ 0xDFFF < c.toNat ∧ c.toNat < 0x110000 :=
  c.valid

lemma charForm_escapeChar (c : Char) : CharForm c (escapeChar c) := by
  have hcode : ∀ d : Char, (c.toNat == d.toNat) = true → c = d := by
    intro d hd
    exact Char.toNat_inj.mp (by simpa using hd)
  unfold escapeChar
  dsimp only
  split
  · rename_i h
    have hmark : c = '"' ∨ c = '\\' := by simpa using h
    rcases hmark with rfl | rfl <;> exact .letter (by decide)
  · rename_i h
    have hunmarked : c ≠ '"' ∧ c ≠ '\\' := by simpa using h
    split
    · rename_i hshown
      exact .itself (by simpa [IsPrintable] using hshown) hunmarked
    split
    · rename_i he
      obtain rfl : c = '\n' := by simpa using he
      exact .letter (by decide)
    split
    · rename_i he
      obtain rfl : c = '\r' := by simpa using he
      exact .letter (by decide)
    split
    · rename_i he
      obtain rfl : c = '\t' := by simpa using he
      exact .letter (by decide)
    split
    · rename_i he
      obtain rfl : c = '\x0C' := hcode _ he
      exact .letter (by decide)
    split
    · rename_i he
      obtain rfl : c = '\x08' := hcode _ he
      exact .letter (by decide)
    split
    · rename_i hsmall
      exact .unit hsmall
    · rename_i hlarge
      exact .pair (Nat.not_lt.mp hlarge)

section Units

variable {unit high low : Nat} {s : List Char}

lemma hexValue?_digitChar {d : Nat} (h : d < 16) : hexValue? (Nat.digitChar d) = some d := by
  interval_cases d <;> rfl

lemma isPrintable_digitChar {d : Nat} (h : d < 16) : IsPrintable (Nat.digitChar d) := by
  interval_cases d <;> exact ⟨by decide, by decide⟩

lemma isPrintable_unitEscape (unit : Nat) : ∀ c ∈ unitEscape unit, IsPrintable c := by
  intro c hc
  simp only [unitEscape, Text.hex, List.nil_append, List.cons_append, List.mem_cons,
    List.not_mem_nil, or_false] at hc
  rcases hc with rfl | rfl | rfl | rfl | rfl | rfl
  · exact ⟨by decide, by decide⟩
  · exact ⟨by decide, by decide⟩
  all_goals exact isPrintable_digitChar (Nat.mod_lt _ (by decide))

/-- The four digits of a unit are read back where something follows them. -/
lemma readUnit?_hex (h : unit < 0x10000) (hs : s ≠ []) :
    readUnit? (Text.hex 4 unit ++ s) = some (unit, s) := by
  obtain ⟨next, rest, rfl⟩ := List.exists_cons_of_ne_nil hs
  have hdigit : ∀ n, hexValue? (Nat.digitChar (n % 16)) = some (n % 16) :=
    fun n => hexValue?_digitChar (Nat.mod_lt n (by decide))
  simp only [Text.hex, List.nil_append, List.cons_append, readUnit?, bind, Option.bind, hdigit]
  congr 2
  omega

lemma readEscape_unit {c : Char} (h : c.toNat < 0x10000) (backslash : List Char) (hs : s ≠ []) :
    readEscape backslash ('u' :: (Text.hex 4 c.toNat ++ s)) = .ok (c, s) := by
  have hbounds := code_bounds c
  have hscalar : ¬ (0xD800 ≤ c.toNat ∧ c.toNat ≤ 0xDFFF) := by omega
  have hhigh : ¬ (0xD800 ≤ c.toNat ∧ c.toNat ≤ 0xDBFF) := by omega
  rw [readEscape, readUnit?_hex h hs]
  simp only [Bool.and_eq_true, decide_eq_true_eq, hscalar, hhigh, if_false, Char.ofNat_toNat]

/-- Two units that form a pair are read back as one character where something follows them. -/
lemma readEscape_pair (hhigh : 0xD800 ≤ high ∧ high ≤ 0xDBFF)
    (hlow : 0xDC00 ≤ low ∧ low ≤ 0xDFFF) (hs : s ≠ []) (backslash : List Char) :
    readEscape backslash ('u' :: (Text.hex 4 high ++ '\\' :: 'u' :: (Text.hex 4 low ++ s))) =
      .ok (Char.ofNat (0x10000 + (high - 0xD800) * 0x400 + (low - 0xDC00)), s) := by
  have hlong : ¬ (Text.hex 4 low ++ s).length ≤ 4 := by
    have hmore := List.length_pos_iff.mpr hs
    simp only [Text.hex, List.length_append, List.length_cons, List.length_nil]
    omega
  rw [readEscape, readUnit?_hex (by omega) (List.cons_ne_nil _ _)]
  simp only [Bool.and_eq_true, decide_eq_true_eq, hhigh, hlow, hlong, and_self, if_true, if_false,
    readUnit?_hex (show low < 0x10000 by omega) hs]

end Units

section Characters

variable {c : Char} {written s : List Char}

lemma CharForm.isPrintable (h : CharForm c written) : ∀ d ∈ written, IsPrintable d := by
  cases h with
  | itself shown _ =>
    intro d hd
    rw [List.mem_singleton.mp hd]
    exact shown
  | letter named =>
    intro d hd
    simp only [letters, List.mem_cons, Prod.mk.injEq, List.not_mem_nil, or_false] at named hd
    rcases hd with rfl | rfl
    · exact ⟨by decide, by decide⟩
    · rcases named with h | h | h | h | h | h | h <;> rw [h.1] <;> exact ⟨by decide, by decide⟩
  | unit _ => exact isPrintable_unitEscape _
  | pair _ =>
    intro d hd
    rcases List.mem_append.mp hd with hd | hd <;> exact isPrintable_unitEscape _ d hd

lemma CharForm.length_pos (h : CharForm c written) : 0 < written.length := by
  cases h <;> simp [unitEscape]

lemma readChars_escaped {opening : List Char} {fuel : Nat} {t : List Char} (ht : t ≠ [])
    (hread : readEscape ('\\' :: t) t = .ok (c, s)) :
    readChars opening (fuel + 1) ('\\' :: t) =
      (readChars opening fuel s).map fun (cs, rest) => (c :: cs, rest) := by
  have hsome : t.isEmpty = false := by simpa using ht
  rw [readChars]
  simp only [hsome, Bool.false_eq_true, if_false, hread, bind, Except.bind]
  cases readChars opening fuel s <;> rfl

/-- A character is read back from each of its forms where something follows it. -/
lemma CharForm.readChars (h : CharForm c written) (opening : List Char) (fuel : Nat)
    (hs : s ≠ []) :
    readChars opening (fuel + 1) (written ++ s) =
      (Json.readChars opening fuel s).map fun (cs, rest) => (c :: cs, rest) := by
  cases h with
  | itself shown unmarked =>
    have hplain : ¬ c.toNat < 0x20 := Nat.not_lt.mpr shown.1
    rw [List.singleton_append, Json.readChars]
    · simp only [hplain, if_false]
      cases Json.readChars opening fuel s <;> rfl
    · exact unmarked.1
    · exact unmarked.2
  | letter named =>
    refine readChars_escaped (List.cons_ne_nil _ _) ?_
    simp only [letters, List.mem_cons, Prod.mk.injEq, List.not_mem_nil, or_false] at named
    rcases named with h | h | h | h | h | h | h <;> rw [h.1, h.2] <;> rfl
  | unit small => exact readChars_escaped (List.cons_ne_nil _ _) (readEscape_unit small _ hs)
  | pair large =>
    have hbounds := code_bounds c
    let high := 0xD800 + (c.toNat - 0x10000) / 0x400
    let low := 0xDC00 + (c.toNat - 0x10000) % 0x400
    have hcode : 0x10000 + (high - 0xD800) * 0x400 + (low - 0xDC00) = c.toNat := by omega
    have hhigh : 0xD800 ≤ high ∧ high ≤ 0xDBFF := by omega
    have hlow : 0xDC00 ≤ low ∧ low ≤ 0xDFFF := by omega
    have hread := readEscape_pair hhigh hlow hs
      ('\\' :: 'u' :: (Text.hex 4 high ++ '\\' :: 'u' :: (Text.hex 4 low ++ s)))
    rw [hcode, Char.ofNat_toNat] at hread
    exact readChars_escaped (List.cons_ne_nil _ _) hread

end Characters

section Texts

variable {cs rest : List Char}

lemma isPrintable_writeText (s : String) : ∀ c ∈ writeText s, IsPrintable c := by
  intro c hc
  simp only [writeText, List.mem_append, List.mem_cons, List.mem_flatMap, List.not_mem_nil,
    or_false] at hc
  rcases hc with (rfl | ⟨d, -, hc⟩) | rfl
  · exact ⟨by decide, by decide⟩
  · exact (charForm_escapeChar d).isPrintable c hc
  · exact ⟨by decide, by decide⟩

lemma readChars_escaped_all (opening rest : List Char) {fuel : Nat} (h : cs.length ≤ fuel) :
    readChars opening fuel (cs.flatMap escapeChar ++ '"' :: rest) = .ok (cs, rest) := by
  induction cs generalizing fuel with
  | nil => cases fuel <;> rfl
  | cons c cs ih =>
    obtain ⟨fuel, rfl⟩ : ∃ n, fuel = n + 1 := ⟨fuel - 1, by simp at h; omega⟩
    have hfuel : cs.length ≤ fuel := by simpa using h
    rw [List.flatMap_cons, List.append_assoc,
      (charForm_escapeChar c).readChars opening fuel (by simp), ih hfuel]
    rfl

lemma length_le_flatMap_escapeChar (cs : List Char) :
    cs.length ≤ (cs.flatMap escapeChar).length := by
  induction cs with
  | nil => exact Nat.le_refl 0
  | cons c cs ih =>
    have hpos := (charForm_escapeChar c).length_pos
    rw [List.flatMap_cons, List.length_cons, List.length_append]
    omega

/-- After its opening mark a text is read back from what is written of it. -/
theorem readText_writeText (opening : List Char) (s : String) (rest : List Char) :
    readText opening (s.toList.flatMap escapeChar ++ '"' :: rest) = .ok (s, rest) := by
  have hfuel : s.toList.length ≤ (s.toList.flatMap escapeChar ++ '"' :: rest).length := by
    have hlength := length_le_flatMap_escapeChar s.toList
    rw [List.length_append]
    omega
  rw [readText, readChars_escaped_all opening rest hfuel]
  show Except.ok (String.ofList s.toList, rest) = _
  rw [String.ofList_toList]

end Texts

end ServerPower.Proofs
