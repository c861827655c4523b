import Mathlib.Data.List.Basic
import Mathlib.Data.List.TakeDrop
import Mathlib.Tactic.Common
import ServerPower.Exchange
import ServerPower.Proofs.Unattended
import ServerPower.Proofs.WrittenTexts

/-!
# What is sent is read back

The body of a call is sent as text. From that text the very body is read back: a value of whole
numbers, texts, lists and objects of any depth, the members of an object in their order.
-/

namespace ServerPower.Proofs
open Json

/-- The values whose text says all there is to them. The members of an object have distinct keys;
a floating-point number is none of them. -/
inductive Portable : Json → Prop
  | null : Portable .null
  | bool (b : Bool) : Portable (.bool b)
  | int (n : Int) : Portable (.int n)
  | text (s : String) : Portable (.text s)
  | list {items : List Json} (each : ∀ v ∈ items, Portable v) : Portable (.list items)
  | object {members : List (String × Json)} (distinct : (members.map Prod.fst).Nodup)
      (each : ∀ m ∈ members, Portable m.2) : Portable (.object members)

/-- What may follow a value: nothing, a comma or a bracket that closes. -/
def Delimited (rest : List Char) : Prop := ∀ c ∈ rest.head?, c ∈ [',', ']', '}']

lemma delimited_nil : Delimited [] := by
  simp [Delimited]

lemma delimited_cons {c : Char} (h : c ∈ [',', ']', '}']) (rest : List Char) :
    Delimited (c :: rest) := by
  simpa [Delimited] using h

section Numbers

variable {m : Nat} {digits rest : List Char}

lemma Delimited.not_digit (h : Delimited rest) : ∀ c ∈ rest.head?, c.isDigit = false := by
  intro c hc
  have hall : ∀ c ∈ [',', ']', '}'], c.isDigit = false := by simp
  exact hall c (h c hc)

lemma isDigit_of_mem_toDigits : ∀ c ∈ Nat.toDigits 10 m, c.isDigit = true :=
  fun _ => Nat.isDigit_of_mem_toDigits (by decide) (by decide)

lemma exists_toDigits (m : Nat) : ∃ c cs, Nat.toDigits 10 m = c :: cs ∧ c.isDigit = true := by
  obtain ⟨c, cs, hcs⟩ := List.exists_cons_of_ne_nil (Nat.toDigits_ne_nil (n := m) (b := 10))
  exact ⟨c, cs, hcs, isDigit_of_mem_toDigits c (hcs ▸ List.mem_cons_self ..)⟩

lemma head_toDigits_ne {m : Nat} (h : m ≠ 0) : '0' ∉ (Nat.toDigits 10 m).head? := by
  induction m using Nat.strongRecOn with
  | ind m ih =>
    by_cases hsmall : m < 10
    · rw [Nat.toDigits_of_lt_base hsmall]
      have hall : ∀ d < 10, d ≠ 0 → Nat.digitChar d ≠ '0' := by decide
      simpa using hall m hsmall h
    · have hlarge : 10 ≤ m := Nat.not_lt.mp hsmall
      have hquotient := ih (m / 10) (by omega) (by omega)
      obtain ⟨c, cs, hcs, -⟩ := exists_toDigits (m / 10)
      rw [Nat.toDigits_of_base_le (by decide) hlarge]
      rw [hcs] at hquotient ⊢
      exact hquotient

lemma span_toDigits (h : Delimited rest) :
    (Nat.toDigits 10 m ++ rest).span Char.isDigit = (Nat.toDigits 10 m, rest) := by
  have hrest : rest.takeWhile Char.isDigit = [] ∧ rest.dropWhile Char.isDigit = rest := by
    cases rest with
    | nil => exact ⟨rfl, rfl⟩
    | cons c rest =>
      have hc := h.not_digit c rfl
      exact ⟨by simp [hc], by simp [hc]⟩
  rw [List.span_eq_takeWhile_dropWhile, List.takeWhile_append_of_pos isDigit_of_mem_toDigits,
    List.dropWhile_append_of_pos isDigit_of_mem_toDigits, hrest.1, hrest.2, List.append_nil]

/-- The digits of a number are read as one: none of them begins with a zero that stands alone. -/
lemma readWhole?_toDigits (h : Delimited rest) :
    readWhole? (Nat.toDigits 10 m ++ rest) = some (Nat.toDigits 10 m, rest) := by
  by_cases hm : m = 0
  · subst hm
    rfl
  · have hspan := span_toDigits (m := m) h
    have hzero := head_toDigits_ne hm
    obtain ⟨c, cs, hcs, hdigit⟩ := exists_toDigits m
    rw [hcs] at hspan hzero ⊢
    rw [List.cons_append] at hspan ⊢
    rw [readWhole?]
    · rw [if_pos hdigit, hspan]
    · rintro rfl
      exact hzero rfl

lemma readFraction_of_delimited (h : Delimited rest) : readFraction rest = ([], rest) := by
  cases rest with
  | nil => rfl
  | cons c rest =>
    have hc : c ∈ [',', ']', '}'] := h c rfl
    have hpoint : c ≠ '.' := by
      rintro rfl
      simp at hc
    rw [readFraction]
    intro s he
    exact hpoint (List.cons.inj he).1

lemma readExponent?_of_delimited (h : Delimited rest) : readExponent? rest = none := by
  cases rest with
  | nil => rfl
  | cons c rest =>
    have hc : c ∈ [',', ']', '}'] := h c rfl
    have hmark : (c == 'e' || c == 'E') = false := by
      simp only [List.mem_cons, List.not_mem_nil, or_false] at hc
      rcases hc with rfl | rfl | rfl <;> rfl
    simp only [readExponent?, hmark, Bool.false_eq_true, if_false]

lemma readNumber?_digits (h : Delimited rest) (hsome : digits ≠ []) (hsign : '-' ∉ digits)
    (hwhole : readWhole? (digits ++ rest) = some (digits, rest)) :
    readNumber? (digits ++ rest) = some (.int (Nat.ofDigitChars 10 digits 0), rest) := by
  obtain ⟨c, cs, rfl⟩ := List.exists_cons_of_ne_nil hsome
  have hfirst : c ≠ '-' := fun he => hsign (he ▸ List.mem_cons_self ..)
  rw [List.cons_append] at hwhole ⊢
  unfold readNumber?
  split
  rename_i negative s heq
  split at heq
  · rename_i he
    exact absurd (List.cons.inj he).1 hfirst
  · obtain ⟨rfl, rfl⟩ := heq
    simp only [hwhole, readFraction_of_delimited h, readExponent?_of_delimited h, List.append_nil,
      List.isEmpty_nil, if_true, Bool.false_eq_true, if_false]

lemma readNumber?_minus (h : Delimited rest)
    (hwhole : readWhole? (digits ++ rest) = some (digits, rest)) :
    readNumber? ('-' :: (digits ++ rest)) =
      some (.int (-(Nat.ofDigitChars 10 digits 0 : Int)), rest) := by
  unfold readNumber?
  simp only [hwhole, readFraction_of_delimited h, readExponent?_of_delimited h, List.append_nil,
    List.isEmpty_nil, if_true]

/-- A whole number of any size is read back from its digits. -/
lemma readNumber?_intDigits (h : Delimited rest) (n : Int) :
    readNumber? (Number.intDigits n ++ rest) = some (.int n, rest) := by
  have hwhole := readWhole?_toDigits (m := n.natAbs) h
  have hvalue := Nat.ofDigitChars_ten_toDigits (n := n.natAbs)
  have hsome := Nat.toDigits_ne_nil (n := n.natAbs) (b := 10)
  have hdigit := isDigit_of_mem_toDigits (m := n.natAbs)
  unfold Number.intDigits
  generalize Nat.toDigits 10 n.natAbs = digits at *
  split
  · have hn : -(n.natAbs : Int) = n := by omega
    rw [List.cons_append, readNumber?_minus h hwhole, hvalue, hn]
  · have hn : (n.natAbs : Int) = n := by omega
    have hsign : '-' ∉ digits := fun hm => absurd (hdigit _ hm) (by decide)
    rw [readNumber?_digits h hsome hsign hwhole, hvalue, hn]

end Numbers

/-- The characters that a value can begin with. -/
def Begins (c : Char) : Prop := c.isDigit = true ∨ c ∈ ['-', 'n', 't', 'f', '"', '[', '{']

section Beginnings

variable {c : Char} {v : Json}

lemma exists_intDigits (n : Int) :
    ∃ c cs, Number.intDigits n = c :: cs ∧ (c.isDigit = true ∨ c = '-') := by
  unfold Number.intDigits
  split
  · exact ⟨_, _, rfl, .inr rfl⟩
  · obtain ⟨c, cs, hcs, hdigit⟩ := exists_toDigits n.natAbs
    exact ⟨c, cs, hcs, .inl hdigit⟩

lemma begins_write (h : Portable v) : ∃ c cs, write v = c :: cs ∧ Begins c := by
  cases h with
  | null => exact ⟨_, _, rfl, .inr (by simp)⟩
  | bool b => cases b <;> exact ⟨_, _, rfl, .inr (by simp)⟩
  | int n =>
    obtain ⟨c, cs, hcs, hc⟩ := exists_intDigits n
    exact ⟨c, cs, hcs, hc.imp id (fun he => by simp [he])⟩
  | text s => exact ⟨_, _, rfl, .inr (by simp)⟩
  | list each => exact ⟨_, _, rfl, .inr (by simp)⟩
  | object distinct each => exact ⟨_, _, rfl, .inr (by simp)⟩

lemma Begins.ne (h : Begins c) {d : Char} (hdigit : d.isDigit = false)
    (hmark : d ∉ ['-', 'n', 't', 'f', '"', '[', '{']) : c ≠ d := by
  rintro rfl
  rcases h with h | h
  · simp [hdigit] at h
  · exact hmark h

lemma Begins.not_space (h : Begins c) : isSpace c = false := by
  have hblank : ∀ d ∈ [' ', '\t', '\n', '\r'], c ≠ d := by
    intro d hd
    simp only [List.mem_cons, List.not_mem_nil, or_false] at hd
    rcases hd with rfl | rfl | rfl | rfl <;> exact h.ne (by decide) (by decide)
  simp [isSpace, hblank]

lemma skipSpace_cons {c : Char} (h : isSpace c = false) (s : List Char) :
    skipSpace (c :: s) = c :: s := by
  simp [skipSpace, h]

end Beginnings

/-- Where enough fuel is left and a value cannot go on, it is read back from its text. -/
def ReadsBack (v : Json) : Prop :=
  ∀ (fuel : Nat) (rest : List Char), Delimited rest → 2 * (write v).length ≤ fuel →
    readValue fuel (write v ++ rest) = .ok (v, rest)

section Values

variable {v : Json} {rest : List Char} {fuel : Nat}

/-- A text that begins neither a text, a list nor an object holds a word or a number. -/
lemma readValue_plain {s : List Char} (h : ∀ c ∈ s.head?, c ∉ ['"', '[', '{']) :
    readValue (fuel + 1) s =
      match readWord? s with
      | some found => .ok found
      | none =>
        match readNumber? s with
        | some (n, rest) => .ok (.number n, rest)
        | none => .error ⟨.value, s⟩ := by
  have hne : ∀ t, ∀ d ∈ ['"', '[', '{'], s ≠ d :: t := by
    rintro t d hd rfl
    exact h d rfl hd
  rw [readValue.eq_def]
  dsimp only
  split
  · exact absurd rfl (hne _ '"' (by simp))
  · exact absurd rfl (hne _ '[' (by simp))
  · exact absurd rfl (hne _ '{' (by simp))
  · rfl

lemma readsBack_word {v : Json} (hword : ∀ rest, readWord? (write v ++ rest) = some (v, rest))
    (hbegins : ∀ rest, ∀ c ∈ (write v ++ rest).head?, c ∉ ['"', '[', '{'])
    (hsome : write v ≠ []) : ReadsBack v := by
  intro fuel rest _ hfuel
  have hpos := List.length_pos_iff.mpr hsome
  obtain ⟨fuel, rfl⟩ : ∃ n, fuel = n + 1 := ⟨fuel - 1, by omega⟩
  rw [readValue_plain (hbegins rest), hword rest]

lemma readsBack_null : ReadsBack .null :=
  readsBack_word (fun _ => by simp [write, readWord?, words, List.isPrefixOf?])
    (fun _ => by simp [write]) (by simp [write])

lemma readsBack_bool (b : Bool) : ReadsBack (.bool b) := by
  cases b <;>
    exact readsBack_word (fun _ => by simp [write, readWord?, words, List.isPrefixOf?])
      (fun _ => by simp [write]) (by simp [write])

/-- A text that begins like a number holds none of the words. -/
lemma readWord?_intDigits (n : Int) (rest : List Char) :
    readWord? (Number.intDigits n ++ rest) = none := by
  obtain ⟨c, cs, hcs, hdigit⟩ := exists_toDigits n.natAbs
  have hletter : ∀ d : Char, d.isDigit = false → (d == c) = false := by
    intro d hd
    rw [beq_eq_false_iff_ne]
    rintro rfl
    simp [hd] at hdigit
  unfold Number.intDigits
  rw [hcs]
  split <;>
    simp [readWord?, words, List.isPrefixOf?, hletter 'n', hletter 't', hletter 'f', hletter 'N',
      hletter 'I', hletter '-']

lemma readsBack_int (n : Int) : ReadsBack (.int n) := by
  intro fuel rest hrest hfuel
  have hword := readWord?_intDigits n rest
  have hnumber := readNumber?_intDigits hrest n
  have hbegins : ∀ c ∈ (Number.intDigits n ++ rest).head?, c ∉ ['"', '[', '{'] := by
    obtain ⟨c, cs, hcs, hc⟩ := exists_intDigits n
    rw [hcs]
    rintro d hd
    obtain rfl : c = d := by simpa using hd
    simp only [List.mem_cons, List.not_mem_nil, or_false]
    rintro (rfl | rfl | rfl) <;> simp at hc
  have hpos : 0 < (Number.intDigits n).length := by
    obtain ⟨c, cs, hcs, -⟩ := exists_intDigits n
    rw [hcs]
    exact Nat.succ_pos _
  change 2 * (Number.intDigits n).length ≤ fuel at hfuel
  change readValue fuel (Number.intDigits n ++ rest) = .ok (.int n, rest)
  obtain ⟨fuel, rfl⟩ : ∃ n, fuel = n + 1 := ⟨fuel - 1, by omega⟩
  rw [readValue_plain hbegins]
  simp only [hword, hnumber]

lemma readsBack_text (s : String) : ReadsBack (.text s) := by
  intro fuel rest _ hfuel
  have hpos : 0 < (write (.text s)).length := by simp [write, writeText]
  obtain ⟨fuel, rfl⟩ : ∃ n, fuel = n + 1 := ⟨fuel - 1, by omega⟩
  have htext : write (.text s) ++ rest = '"' :: (s.toList.flatMap escapeChar ++ '"' :: rest) := by
    simp [write, writeText]
  rw [htext, readValue, readText_writeText]
  rfl

lemma writeItems_cons_cons (v w : Json) (items : List Json) :
    writeItems (v :: w :: items) = write v ++ ',' :: ' ' :: writeItems (w :: items) := by
  rw [writeItems]
  exact List.cons_ne_nil w items

lemma begins_writeItems (h : Portable v) (items : List Json) :
    ∃ c cs, writeItems (v :: items) = c :: cs ∧ Begins c := by
  obtain ⟨c, cs, hcs, hc⟩ := begins_write h
  cases items with
  | nil => exact ⟨c, cs, by rw [writeItems, hcs], hc⟩
  | cons w items => exact ⟨c, _, by rw [writeItems_cons_cons, hcs, List.cons_append], hc⟩

/-- Items are read up to the bracket that closes their list. -/
lemma readItems_writeItems {items : List Json} (hsome : items ≠ [])
    (each : ∀ v ∈ items, Portable v ∧ ReadsBack v)
    (hfuel : 2 * (writeItems items).length < fuel) :
    readItems fuel (writeItems items ++ ']' :: rest) = .ok (items, rest) := by
  induction items generalizing fuel with
  | nil => exact absurd rfl hsome
  | cons v items ih =>
    obtain ⟨fuel, rfl⟩ : ∃ n, fuel = n + 1 := ⟨fuel - 1, by omega⟩
    have hv := (each v (List.mem_cons_self ..)).2
    cases items with
    | nil =>
      rw [writeItems] at hfuel ⊢
      rw [readItems, hv fuel _ (delimited_cons (by simp) rest) (by omega)]
      rfl
    | cons w items =>
      have hmore : ∀ u ∈ w :: items, Portable u ∧ ReadsBack u :=
        fun u hu => each u (List.mem_cons_of_mem _ hu)
      rw [writeItems_cons_cons] at hfuel ⊢
      simp only [List.length_append, List.length_cons] at hfuel
      have hread := hv fuel (',' :: ' ' :: (writeItems (w :: items) ++ ']' :: rest))
        (delimited_cons (by simp) _) (by omega)
      have hnext : skipSpace (' ' :: (writeItems (w :: items) ++ ']' :: rest)) =
          writeItems (w :: items) ++ ']' :: rest := by
        obtain ⟨c, cs, hcs, hc⟩ := begins_writeItems (hmore w (List.mem_cons_self ..)).1 items
        rw [hcs]
        exact skipSpace_cons hc.not_space _
      have hrest := ih (List.cons_ne_nil w items) hmore (show _ < fuel by omega)
      simp only [List.append_assoc, List.cons_append, readItems, hread, bind, Except.bind,
        skipSpace_cons (show isSpace ',' = false from rfl), hnext, hrest]

lemma readsBack_list {items : List Json} (each : ∀ v ∈ items, Portable v ∧ ReadsBack v) :
    ReadsBack (.list items) := by
  intro fuel rest _ hfuel
  have htext : write (.list items) ++ rest = '[' :: (writeItems items ++ ']' :: rest) := by
    simp [write]
  have hlength : (write (.list items)).length = (writeItems items).length + 2 := by
    simp [write]
  obtain ⟨fuel, rfl⟩ : ∃ n, fuel = n + 1 := ⟨fuel - 1, by omega⟩
  rw [htext, readValue]
  cases items with
  | nil => rfl
  | cons v items =>
    have hread : readItems fuel (writeItems (v :: items) ++ ']' :: rest) =
        .ok (v :: items, rest) :=
      readItems_writeItems (List.cons_ne_nil v items) each (by omega)
    obtain ⟨c, cs, hcs, hc⟩ := begins_writeItems (each v (List.mem_cons_self ..)).1 items
    have hclosing : c ≠ ']' := hc.ne (by decide) (by decide)
    rw [hcs, List.cons_append] at hread ⊢
    simp only [skipSpace_cons hc.not_space]
    split
    · rename_i he
      exact absurd (List.cons.inj he).1 hclosing
    · rw [hread]
      rfl

lemma writeMembers_cons_cons (key : String) (v : Json) (m : String × Json)
    (members : List (String × Json)) :
    writeMembers ((key, v) :: m :: members) =
      writeText key ++ ':' :: ' ' :: (write v ++ ',' :: ' ' :: writeMembers (m :: members)) := by
  rw [writeMembers]
  · simp
  · exact List.cons_ne_nil m members

lemma exists_writeMembers (m : String × Json) (members : List (String × Json)) :
    ∃ cs, writeMembers (m :: members) = '"' :: cs := by
  obtain ⟨key, v⟩ := m
  cases members with
  | nil => exact ⟨_, by rw [writeMembers, writeText, List.cons_append, List.cons_append]⟩
  | cons n members =>
    rw [writeMembers_cons_cons]
    exact ⟨_, by rw [writeText, List.cons_append, List.cons_append]⟩

/-- Members are read up to the brace that closes their object. -/
lemma readMembers_writeMembers {members : List (String × Json)} (hsome : members ≠ [])
    (each : ∀ m ∈ members, Portable m.2 ∧ ReadsBack m.2)
    (hfuel : 2 * (writeMembers members).length < fuel) :
    readMembers fuel (writeMembers members ++ '}' :: rest) = .ok (members, rest) := by
  induction members generalizing fuel with
  | nil => exact absurd rfl hsome
  | cons m members ih =>
    obtain ⟨key, v⟩ := m
    obtain ⟨fuel, rfl⟩ : ∃ n, fuel = n + 1 := ⟨fuel - 1, by omega⟩
    obtain ⟨hportable, hv⟩ : Portable v ∧ ReadsBack v := each (key, v) (List.mem_cons_self ..)
    obtain ⟨c, cs, hcs, hc⟩ := begins_write hportable
    have hvalue (s : List Char) : skipSpace (' ' :: (write v ++ s)) = write v ++ s := by
      rw [hcs]
      exact skipSpace_cons hc.not_space _
    cases members with
    | nil =>
      rw [writeMembers] at hfuel ⊢
      simp only [List.length_append, List.length_cons] at hfuel
      have hread := hv fuel ('}' :: rest) (delimited_cons (by simp) rest) (by omega)
      simp only [writeText, List.append_assoc, List.cons_append, List.nil_append, readMembers,
        readText_writeText, bind, Except.bind, skipSpace_cons (show isSpace ':' = false from rfl),
        hvalue, hread, skipSpace_cons (show isSpace '}' = false from rfl)]
    | cons n members =>
      have hmore : ∀ u ∈ n :: members, Portable u.2 ∧ ReadsBack u.2 :=
        fun u hu => each u (List.mem_cons_of_mem _ hu)
      rw [writeMembers_cons_cons] at hfuel ⊢
      simp only [List.length_append, List.length_cons] at hfuel
      have hread := hv fuel (',' :: ' ' :: (writeMembers (n :: members) ++ '}' :: rest))
        (delimited_cons (by simp) _) (by omega)
      have hnext : skipSpace (' ' :: (writeMembers (n :: members) ++ '}' :: rest)) =
          writeMembers (n :: members) ++ '}' :: rest := by
        obtain ⟨cs, hcs⟩ := exists_writeMembers n members
        rw [hcs]
        rfl
      have hrest := ih (List.cons_ne_nil n members) hmore (show _ < fuel by omega)
      simp only [writeText, List.append_assoc, List.cons_append, List.nil_append, readMembers,
        readText_writeText, bind, Except.bind, skipSpace_cons (show isSpace ':' = false from rfl),
        hvalue, hread, skipSpace_cons (show isSpace ',' = false from rfl), hnext, hrest]

/-- Members with distinct keys are kept as they are read. -/
lemma collect_of_nodup {members : List (String × Json)} (h : (members.map Prod.fst).Nodup) :
    collect members = members := by
  have hfold : ∀ more seen : List (String × Json), ((seen ++ more).map Prod.fst).Nodup →
      more.foldl (fun seen m => setMember m.1 m.2 seen) seen = seen ++ more := by
    intro more
    induction more with
    | nil => simp
    | cons m more ih =>
      intro seen hdistinct
      obtain ⟨key, v⟩ := m
      have hnew : key ∉ seen.map Prod.fst := by
        rw [List.map_append, List.map_cons, List.nodup_append] at hdistinct
        exact fun hm => hdistinct.2.2 _ hm _ (List.mem_cons_self ..) rfl
      have hmoved : seen ++ (key, v) :: more = (seen ++ [(key, v)]) ++ more := List.append_cons ..
      rw [hmoved] at hdistinct ⊢
      simp only [List.foldl_cons, setMember_of_notMem v hnew]
      exact ih _ hdistinct
  exact hfold members [] h

lemma readsBack_object {members : List (String × Json)} (distinct : (members.map Prod.fst).Nodup)
    (each : ∀ m ∈ members, Portable m.2 ∧ ReadsBack m.2) : ReadsBack (.object members) := by
  intro fuel rest _ hfuel
  have htext : write (.object members) ++ rest = '{' :: (writeMembers members ++ '}' :: rest) := by
    simp [write]
  have hlength : (write (.object members)).length = (writeMembers members).length + 2 := by
    simp [write]
  obtain ⟨fuel, rfl⟩ : ∃ n, fuel = n + 1 := ⟨fuel - 1, by omega⟩
  rw [htext, readValue]
  cases members with
  | nil => rfl
  | cons m members =>
    have hread : readMembers fuel (writeMembers (m :: members) ++ '}' :: rest) =
        .ok (m :: members, rest) :=
      readMembers_writeMembers (List.cons_ne_nil m members) each (by omega)
    obtain ⟨cs, hcs⟩ := exists_writeMembers m members
    rw [hcs, List.cons_append] at hread ⊢
    simp only [skipSpace_cons (show isSpace '"' = false from rfl)]
    split
    · rename_i he
      exact absurd (List.cons.inj he).1 (by decide)
    · rw [hread]
      simp only [bind, Except.bind, collect_of_nodup distinct]

/-- Every value is read back from its text, whatever may follow the text of a value. -/
lemma Portable.readsBack (h : Portable v) : ReadsBack v := by
  induction h with
  | null => exact readsBack_null
  | bool b => exact readsBack_bool b
  | int n => exact readsBack_int n
  | text s => exact readsBack_text s
  | list each ih => exact readsBack_list fun v hv => ⟨each v hv, ih v hv⟩
  | object distinct each ih => exact readsBack_object distinct fun m hm => ⟨each m hm, ih m hm⟩

/-- The text of a value is no more and no less than the value. -/
lemma Portable.parse_encode (h : Portable v) : parse v.encode = .ok v := by
  have hread := h.readsBack (2 * (write v).length + 1) [] delimited_nil (by omega)
  obtain ⟨c, cs, hcs, hc⟩ := begins_write h
  have hmark : c ≠ '\uFEFF' := hc.ne (by decide) (by decide)
  have hwhole : Json.read (write v) = .ok v := by
    rw [List.append_nil, hcs] at hread
    rw [hcs, Json.read]
    · simp only [skipSpace_cons hc.not_space, hread]
      rfl
    · exact fun s he => hmark (List.cons.inj he).1
  rw [parse, encode, String.toList_ofList, hwhole]

lemma isPrintable_of_isDigit {c : Char} (h : c.isDigit = true) : IsPrintable c := by
  have hbounds : 48 ≤ c.val ∧ c.val ≤ 57 := by simpa [Char.isDigit] using h
  have hlow : 48 ≤ c.toNat := hbounds.1
  have hhigh : c.toNat ≤ 57 := hbounds.2
  exact ⟨by omega, by omega⟩

lemma isPrintable_intDigits (n : Int) : ∀ c ∈ Number.intDigits n, IsPrintable c := by
  have hdigits : ∀ c ∈ Nat.toDigits 10 n.natAbs, IsPrintable c :=
    fun c hc => isPrintable_of_isDigit (isDigit_of_mem_toDigits c hc)
  unfold Number.intDigits
  split
  · exact List.forall_mem_cons.mpr ⟨⟨by decide, by decide⟩, hdigits⟩
  · exact hdigits

lemma mem_writeItems {items : List Json} {c : Char} (h : c ∈ writeItems items) :
    c ∈ [',', ' '] ∨ ∃ v ∈ items, c ∈ write v := by
  induction items with
  | nil => simp [writeItems] at h
  | cons v items ih =>
    cases items with
    | nil => exact .inr ⟨v, List.mem_cons_self .., by rwa [writeItems] at h⟩
    | cons w items =>
      rw [writeItems_cons_cons] at h
      simp only [List.mem_append, List.mem_cons] at h
      rcases h with h | rfl | rfl | h
      · exact .inr ⟨v, List.mem_cons_self .., h⟩
      · simp
      · simp
      · refine (ih h).imp id ?_
        rintro ⟨u, hu, hc⟩
        exact ⟨u, List.mem_cons_of_mem _ hu, hc⟩

lemma mem_writeMembers {members : List (String × Json)} {c : Char}
    (h : c ∈ writeMembers members) :
    c ∈ [',', ':', ' '] ∨ ∃ m ∈ members, c ∈ writeText m.1 ∨ c ∈ write m.2 := by
  induction members with
  | nil => simp [writeMembers] at h
  | cons m members ih =>
    obtain ⟨key, v⟩ := m
    cases members with
    | nil =>
      simp only [writeMembers, List.mem_append, List.mem_cons] at h
      rcases h with h | rfl | rfl | h
      · exact .inr ⟨_, List.mem_cons_self .., .inl h⟩
      · simp
      · simp
      · exact .inr ⟨_, List.mem_cons_self .., .inr h⟩
    | cons n members =>
      rw [writeMembers_cons_cons] at h
      simp only [List.mem_append, List.mem_cons] at h
      rcases h with h | rfl | rfl | h | rfl | rfl | h
      · exact .inr ⟨_, List.mem_cons_self .., .inl h⟩
      · simp
      · simp
      · exact .inr ⟨_, List.mem_cons_self .., .inr h⟩
      · simp
      · simp
      · refine (ih h).imp id ?_
        rintro ⟨u, hu, hc⟩
        exact ⟨u, List.mem_cons_of_mem _ hu, hc⟩

/-- The text of a value consists of characters of ASCII that can be shown. -/
lemma Portable.isPrintable (h : Portable v) : ∀ c ∈ write v, IsPrintable c := by
  have hmarks : ∀ c ∈ [',', ':', ' ', '[', ']', '\x7b', '\x7d'], IsPrintable c := by
    simp [IsPrintable]
  have hbetween : ∀ c ∈ [',', ':', ' '], IsPrintable c :=
    fun c hc => hmarks c (List.mem_append_left _ hc)
  induction h with
  | null => simp [write, IsPrintable]
  | bool b => cases b <;> simp [write, IsPrintable]
  | int n => exact isPrintable_intDigits n
  | text s => exact isPrintable_writeText s
  | list each ih =>
    intro c hc
    simp only [write, List.mem_append, List.mem_cons, List.not_mem_nil, or_false] at hc
    rcases hc with (rfl | hc) | rfl
    · exact hmarks _ (by simp)
    · rcases mem_writeItems hc with hc | ⟨v, hv, hc⟩
      · exact hbetween c ((by decide : [',', ' '] ⊆ [',', ':', ' ']) hc)
      · exact ih v hv c hc
    · exact hmarks _ (by simp)
  | object distinct each ih =>
    intro c hc
    simp only [write, List.mem_append, List.mem_cons, List.not_mem_nil, or_false] at hc
    rcases hc with (rfl | hc) | rfl
    · exact hmarks _ (by simp)
    · rcases mem_writeMembers hc with hc | ⟨m, hm, hc | hc⟩
      · exact hbetween c hc
      · exact isPrintable_writeText m.1 c hc
      · exact ih m hm c hc
    · exact hmarks _ (by simp)

end Values

section Calls

variable {client : Client} {method url : String} {uri body : Json}

/-- The request that carries a body. -/
def carrying (client : Client) (method url : String) (body : Json) : Request where
  method := method
  url := url
  data := some body.encode
  verify := client.verify
  timeout := client.timeout

lemma request_carrying (hurl : client.url uri = .ok url) (hbody : body ≠ .null)
    (method : String) :
    client.request method uri body = .ok (carrying client method url body) := by
  unfold Client.request
  rw [hurl]
  simp [bind, Except.bind, pure, Except.pure, hbody, carrying]

lemma exchange_sent {request : Request} (h : client.request method uri body = .ok request)
    (strict : Bool) (supply : Supply) :
    (client.exchange strict method uri body supply).1.events.filterMap sentRequest? =
      [request] := by
  unfold Client.exchange
  rw [h]
  simp [sentRequest?, List.filterMap_append, Function.comp_def]

/-- What a call sends is read back. For every body of whole numbers of any size, texts, lists and
objects with distinct keys, of any depth, every method and every address that can be joined to the
base, there is one request, and a call that belongs to no order sends this one and no other. Its
text is printable ASCII, and from that text the very body is read, the members of its objects in
their order. -/
theorem reads_back_what_is_sent (strict : Bool) (client : Client) (method : String)
    (uri body : Json) (supply : Supply) (hbody : body ≠ .null) (portable : Portable body)
    (hurl : (client.url uri).isOk = true) :
    ∃ request data, client.request method uri body = .ok request ∧
      (client.exchange strict method uri body supply).1.events.filterMap sentRequest? =
        [request] ∧
      request.method = method ∧ client.url uri = .ok request.url ∧ request.data = some data ∧
      (∀ c ∈ data.toList, IsPrintable c) ∧
      ∀ reader source, Client.decode reader source (.value (.text data)) = pure body := by
  obtain ⟨url, hurl⟩ : ∃ url, client.url uri = .ok url := by
    cases h : client.url uri with
    | ok url => exact ⟨url, rfl⟩
    | error failure => simp [h, Except.isOk, Except.toBool] at hurl
  have hrequest := request_carrying hurl hbody method
  refine ⟨carrying client method url body, body.encode, hrequest,
    exchange_sent hrequest strict supply, rfl, hurl, rfl, ?_, ?_⟩
  · intro c hc
    rw [encode, String.toList_ofList] at hc
    exact portable.isPrintable c hc
  · intro reader source
    simp only [Client.decode, Payload.read, portable.parse_encode, Except.mapError]

/-- Marks, a control character, characters outside ASCII and outside the first plane, a number that
no machine word holds, and values within values. -/
def nestedBody : Json :=
  .object [("é\"\\", .text "a\n\x7f\x00ß😀"), ("n", .int (-123456789012345678901234567890)),
    ("", .list [.list [], .null, .object [("k", .bool true)]])]

theorem reads_back_what_is_sent_nested :
    let client : Client := ⟨"https://ov.example", none, "800", .bool true, .int 60⟩
    nestedBody ≠ .null ∧ Portable nestedBody ∧ (client.url (.text "/b")).isOk = true ∧
      ∃ request data, client.request "PUT" (.text "/b") nestedBody = .ok request ∧
        request.data = some data ∧ (∀ c ∈ data.toList, IsPrintable c) ∧
        Client.decode false (.text "/b") (.value (.text data)) = pure nestedBody := by
  intro client
  have hbody : nestedBody ≠ .null := Json.noConfusion
  have hportable : Portable nestedBody := by
    refine .object (by decide) ?_
    simp only [List.forall_mem_cons, List.not_mem_nil, IsEmpty.forall_iff, implies_true, and_true]
    refine ⟨.text _, .int _, .list ?_⟩
    simp only [List.forall_mem_cons, List.not_mem_nil, IsEmpty.forall_iff, implies_true, and_true]
    refine ⟨.list (by simp), .null, .object (by decide) ?_⟩
    simp only [List.forall_mem_cons, List.not_mem_nil, IsEmpty.forall_iff, implies_true, and_true]
    exact .bool true
  have hurl : (client.url (.text "/b")).isOk = true := by decide +kernel
  obtain ⟨request, data, hrequest, -, -, -, hdata, hprintable, hread⟩ :=
    reads_back_what_is_sent false client "PUT" (.text "/b") nestedBody (.queue []) hbody hportable
      hurl
  exact ⟨hbody, hportable, hurl, request, data, hrequest, hdata, hprintable, hread false _⟩

end Calls

end ServerPower.Proofs
