import Mathlib.Data.List.DropRight
import ServerPower.Client.Configured
import ServerPower.Proofs.Steps

/-!
# Base URLs

A base URL is in normal form if it tells a host after its scheme, has nothing blank around it and no
slash at its end, and is its own base URL. An address is trimmed before the slashes at its end are
dropped, and whether it is empty is asked in between. So its base URL is not in normal form if it
has a blank before those slashes, or nothing but slashes where the host should be.
-/

namespace ServerPower.Proofs
open Client

/-- Something other than slashes follows the mark of a scheme. -/
def Located (s : List Char) : Prop :=
  ∃ before after, s = before ++ [':', '/', '/'] ++ after ∧ ∃ c ∈ after, c ≠ '/'

/-- An address tells a host: after a scheme, or with no scheme at all. -/
def TellsHost (address : List Char) : Prop :=
  Located address ∨ hasScheme address = false ∧ ∃ c ∈ address, c ≠ '/'

/-- An address ends in no blank, the slashes at its end left out. -/
def EndsPlain (address : List Char) : Prop :=
  ∀ c ∈ (address.rdropWhile (· == '/')).getLast?, Text.isBlank c = false

/-- The normal form of base URLs. -/
structure NormalUrl (url : String) : Prop where
  located : Located url.toList
  opens : ∀ c ∈ url.toList.head?, Text.isBlank c = false
  closes : ∀ c ∈ url.toList.getLast?, Text.isBlank c = false
  unslashed : url.toList.getLast? ≠ some '/'
  fixed : ∀ strict, managerUrl strict (.text url) = pure url

/-- An address with the scheme that is meant where it has none. -/
def withScheme (address : List Char) : List Char :=
  if hasScheme address then address else "https://".toList ++ address

section Ends

variable {p : Char → Bool} {s before after : List Char}

/-- What is dropped from the end never reaches beyond something that is kept. -/
lemma rdropWhile_append (h : ∃ c ∈ after, p c = false) (before : List Char) :
    (before ++ after).rdropWhile p = before ++ after.rdropWhile p := by
  have hkept : (after.reverse.dropWhile p).isEmpty = false := by
    obtain ⟨c, hc, hp⟩ := h
    have hne : after.rdropWhile p ≠ [] := fun he =>
      absurd (List.rdropWhile_eq_nil_iff.mp he c hc) (by simp [hp])
    simpa [List.rdropWhile] using hne
  simp [List.rdropWhile, List.dropWhile_append, hkept]

lemma mem_rdropWhile {c : Char} (hc : c ∈ s) (hp : p c = false) : c ∈ s.rdropWhile p := by
  rw [← List.rdropWhile_append_rtakeWhile (p := p) (l := s), List.mem_append] at hc
  exact hc.resolve_right (fun ht => absurd (List.mem_rtakeWhile_imp ht) (by simp [hp]))

lemma rdropWhile_eq_self (h : ∀ c ∈ s.getLast?, p c = false) : s.rdropWhile p = s := by
  refine List.rdropWhile_eq_self_iff.mpr (fun hne => ?_)
  rw [h _ (List.getLast_mem_getLast? hne)]
  exact Bool.false_ne_true

lemma rdropWhile_append_of_forall (h : ∀ c ∈ after, p c) (before : List Char) :
    (before ++ after).rdropWhile p = before.rdropWhile p := by
  have hdropped : (after.reverse ++ before.reverse).dropWhile p = before.reverse.dropWhile p :=
    List.dropWhile_append_of_pos (by simpa using h)
  simp [List.rdropWhile, hdropped]

/-- What is left never ends in something of the kind dropped. -/
lemma getLast?_rdropWhile {c : Char} (h : (s.rdropWhile p).getLast? = some c) : p c = false := by
  have hne : s.rdropWhile p ≠ [] := List.ne_nil_of_mem (List.mem_of_getLast? h)
  rw [List.getLast?_eq_some_getLast hne] at h
  obtain rfl := Option.some.inj h
  simpa using List.rdropWhile_last_not p s hne

lemma head?_rdropWhile (h : s.rdropWhile p ≠ []) : (s.rdropWhile p).head? = s.head? := by
  obtain ⟨rest, hs⟩ := List.rdropWhile_prefix p s
  cases hd : s.rdropWhile p with
  | nil => exact absurd hd h
  | cons c kept =>
    rw [← hs]
    show _ = (s.rdropWhile p ++ rest).head?
    rw [hd]
    rfl

lemma trimBy_eq (p : Char → Bool) (s : List Char) :
    Text.trimBy p s = (s.dropWhile p).rdropWhile p :=
  rfl

/-- What is trimmed begins with nothing of the kind trimmed. -/
lemma head?_trimBy (p : Char → Bool) (s : List Char) :
    ∀ c ∈ (Text.trimBy p s).head?, p c = false := by
  intro c hc
  have hne : Text.trimBy p s ≠ [] := List.ne_nil_of_mem (List.mem_of_mem_head? hc)
  rw [trimBy_eq] at hc hne
  rw [head?_rdropWhile hne] at hc
  have hfirst := List.head?_dropWhile_not p s
  rw [hc] at hfirst
  exact hfirst

/-- Trimming takes away what stands around a text that neither begins nor ends with its kind. -/
lemma trimBy_append (hb : ∀ c ∈ before, p c) (ha : ∀ c ∈ after, p c)
    (hfirst : ∀ c ∈ s.head?, p c = false) (hlast : ∀ c ∈ s.getLast?, p c = false) :
    Text.trimBy p (before ++ s ++ after) = s := by
  rw [trimBy_eq, List.append_assoc, List.dropWhile_append_of_pos hb]
  cases s with
  | nil => simp [List.dropWhile_eq_nil_iff.mpr ha]
  | cons c rest =>
    rw [List.cons_append, List.dropWhile_cons_of_neg (by simp [hfirst c rfl]), ← List.cons_append,
      rdropWhile_append_of_forall ha, rdropWhile_eq_self hlast]

end Ends

section Schemes

variable {s before after : List Char}

lemma hasScheme_iff : hasScheme s ↔ [':', '/', '/'] <:+: s := by
  induction s with
  | nil => simp [hasScheme]
  | cons c rest ih =>
    rw [hasScheme, Bool.or_eq_true, List.isPrefixOf_iff_prefix, ih, List.infix_cons_iff]

lemma Located.hasScheme (h : Located s) : hasScheme s = true := by
  obtain ⟨before, after, rfl, -⟩ := h
  exact hasScheme_iff.mpr ⟨before, after, rfl⟩

/-- The slashes at the end do not matter for whether a host is told. -/
lemma located_rdropWhile_iff : Located (s.rdropWhile (· == '/')) ↔ Located s := by
  constructor
  · rintro ⟨before, after, hs, c, hc, hne⟩
    obtain ⟨slashes, hsplit⟩ := List.rdropWhile_prefix (· == '/') s
    refine ⟨before, after ++ slashes, ?_, c, List.mem_append_left _ hc, hne⟩
    rw [← hsplit, ← List.append_assoc, ← hs]
  · rintro ⟨before, after, rfl, c, hc, hne⟩
    have hkept : (c == '/') = false := by simpa using hne
    refine ⟨before, after.rdropWhile (· == '/'), rdropWhile_append ⟨c, hc, hkept⟩ _, c, ?_, hne⟩
    exact mem_rdropWhile hc hkept

/-- The slashes in place of a host do not become one by the scheme that is put before them. -/
lemma located_withScheme_iff : Located (withScheme s) ↔ TellsHost s := by
  unfold withScheme TellsHost
  by_cases hs : hasScheme s
  · simp [hs]
  · have hnone : ¬ Located s := fun h => hs h.hasScheme
    simp only [hs, hnone, Bool.false_eq_true, if_false, false_or, true_and]
    constructor
    · intro hlocated
      by_contra hslashes
      have hall : ∀ c ∈ s, (c == '/') = true := by simpa using hslashes
      rw [← located_rdropWhile_iff, rdropWhile_append_of_forall hall] at hlocated
      exact absurd hlocated.hasScheme (by decide)
    · exact fun h => ⟨"https".toList, s, rfl, h⟩

/-- The base URL of an address that tells a host ends as the address does. -/
lemma getLast?_rdropWhile_withScheme (h : TellsHost s) :
    ((withScheme s).rdropWhile (· == '/')).getLast? =
      (s.rdropWhile (· == '/')).getLast? := by
  unfold withScheme
  split
  · rfl
  · rename_i hs
    obtain ⟨-, c, hc, hne⟩ := h.resolve_left (fun hlocated => hs hlocated.hasScheme)
    have hkept : (c == '/') = false := by simpa using hne
    rw [rdropWhile_append ⟨c, hc, hkept⟩, List.getLast?_append_of_ne_nil]
    exact List.ne_nil_of_mem (mem_rdropWhile hc hkept)

end Schemes

section Bases

variable {strict : Bool} {address url : String}

lemma toList_baseOf (address : String) :
    (baseOf address).toList = (withScheme address.toList).rdropWhile (· == '/') := by
  rw [baseOf, String.toList_ofList]
  rfl

lemma managerUrl_of_ne (strict : Bool) (h : Text.trim address ≠ "") :
    managerUrl strict (.text address) = pure (baseOf (Text.trim address)) := by
  have hsome : (Text.trim address == "") = false := beq_eq_false_iff_ne.mpr h
  unfold managerUrl addressText
  rw [Report.bind_of_ok rfl]
  simp only [hsome, Bool.false_eq_true, if_false]
  rfl

/-- Only an address that is not blank has a base URL. -/
lemma of_managerUrl (h : (managerUrl strict (.text address)).outcome = .ok url) :
    Text.trim address ≠ "" ∧ url = baseOf (Text.trim address) := by
  by_cases ht : Text.trim address = ""
  · unfold managerUrl addressText at h
    rw [Report.bind_of_ok rfl] at h
    simp only [ht, beq_self_eq_true, if_true] at h
    rw [Report.bind_of_error (raise_outcome _ _ _)] at h
    cases h
  · rw [managerUrl_of_ne strict ht] at h
    exact ⟨ht, (Except.ok.inj h).symm⟩

/-- A URL that tells a host after its scheme and has nothing around it that is dropped is its own
base URL. -/
lemma managerUrl_eq_self (hlocated : Located url.toList)
    (hopens : ∀ c ∈ url.toList.head?, Text.isBlank c = false)
    (hcloses : ∀ c ∈ url.toList.getLast?, Text.isBlank c = false)
    (hslash : url.toList.getLast? ≠ some '/') (strict : Bool) :
    managerUrl strict (.text url) = pure url := by
  have htrim : Text.trim url = url := by
    have hself : Text.trimBy Text.isBlank ([] ++ url.toList ++ []) = url.toList :=
      trimBy_append (by simp) (by simp) hopens hcloses
    rw [List.nil_append, List.append_nil] at hself
    rw [Text.trim, hself, String.ofList_toList]
  have hne : Text.trim url ≠ "" := by
    rintro he
    rw [htrim] at he
    subst he
    exact absurd hlocated.hasScheme (by decide)
  have hlast : ∀ c ∈ url.toList.getLast?, (c == '/') = false := by
    intro c hc
    exact beq_eq_false_iff_ne.mpr (fun he => hslash (he ▸ hc))
  have hbase : (baseOf url).toList = url.toList := by
    rw [toList_baseOf, withScheme, if_pos hlocated.hasScheme, rdropWhile_eq_self hlast]
  rw [managerUrl_of_ne strict hne, htrim, String.toList_inj.mp hbase]

/-- A base URL begins as the address does, or with the scheme that is meant. -/
lemma opens_baseOf (h : ∀ c ∈ address.toList.head?, Text.isBlank c = false) :
    ∀ c ∈ (baseOf address).toList.head?, Text.isBlank c = false := by
  intro c hc
  rw [toList_baseOf] at hc
  rw [head?_rdropWhile (List.ne_nil_of_mem (List.mem_of_mem_head? hc))] at hc
  unfold withScheme at hc
  split at hc
  · exact h c hc
  · cases hc
    decide

end Bases

/-- The base URL of an address begins with no blank and ends in no slash. It is in normal form just
if the address, once trimmed, tells a host and has no blank before the slashes at its end. -/
theorem normalUrl_of_managerUrl {strict : Bool} {address url : String}
    (h : (managerUrl strict (.text address)).outcome = .ok url) :
    (∀ c ∈ url.toList.head?, Text.isBlank c = false) ∧ url.toList.getLast? ≠ some '/' ∧
      (NormalUrl url ↔
        TellsHost (Text.trim address).toList ∧ EndsPlain (Text.trim address).toList) := by
  obtain ⟨-, rfl⟩ := of_managerUrl h
  have hopens : ∀ c ∈ (baseOf (Text.trim address)).toList.head?, Text.isBlank c = false := by
    refine opens_baseOf (fun c hc => ?_)
    rw [Text.trim, String.toList_ofList] at hc
    exact head?_trimBy _ _ c hc
  have hslash : (baseOf (Text.trim address)).toList.getLast? ≠ some '/' := by
    intro hlast
    rw [toList_baseOf] at hlast
    exact absurd (getLast?_rdropWhile hlast) (by decide)
  refine ⟨hopens, hslash, ?_⟩
  have hlocated : Located (baseOf (Text.trim address)).toList ↔
      TellsHost (Text.trim address).toList := by
    rw [toList_baseOf, located_rdropWhile_iff, located_withScheme_iff]
  have hcloses (htells : TellsHost (Text.trim address).toList) :
      (∀ c ∈ (baseOf (Text.trim address)).toList.getLast?, Text.isBlank c = false) ↔
        EndsPlain (Text.trim address).toList := by
    rw [toList_baseOf, getLast?_rdropWhile_withScheme htells, EndsPlain]
  constructor
  · intro hnormal
    have htells := hlocated.mp hnormal.located
    exact ⟨htells, (hcloses htells).mp hnormal.closes⟩
  · rintro ⟨htells, hplain⟩
    have hblank := (hcloses htells).mpr hplain
    have hthere := hlocated.mpr htells
    exact ⟨hthere, hopens, hblank, hslash, managerUrl_eq_self hthere hopens hblank hslash⟩

theorem normalUrl_of_managerUrl_slashed :
    (managerUrl false (.text " http://ov.example:8443// ")).outcome =
        .ok "http://ov.example:8443" ∧
      NormalUrl "http://ov.example:8443" := by
  have hurl : (managerUrl false (.text " http://ov.example:8443// ")).outcome =
      .ok "http://ov.example:8443" := by decide +kernel
  have htrim : (Text.trim " http://ov.example:8443// ").toList =
      "http://ov.example:8443//".toList := by decide +kernel
  have hlast : ("http://ov.example:8443//".toList.rdropWhile (· == '/')).getLast? =
      some '3' := by decide +kernel
  refine ⟨hurl, (normalUrl_of_managerUrl hurl).2.2.mpr ?_⟩
  rw [htrim]
  refine ⟨Or.inl ⟨"http".toList, "ov.example:8443//".toList, by decide, 'o', by decide, by decide⟩,
    fun c hc => ?_⟩
  rw [hlast] at hc
  cases hc
  decide

/-- An address of nothing but a slash is taken for one that is there, and has a base URL without a
host. A blank before the slash at the end is left at the end of the base URL, and is dropped if that
is taken as an address. -/
theorem base_without_normal_form :
    ((managerUrl false (.text "/")).outcome = .ok "https:" ∧ ¬ NormalUrl "https:") ∧
      (managerUrl false (.text "ov.example /")).outcome = .ok "https://ov.example " ∧
      (managerUrl false (.text "https://ov.example ")).outcome = .ok "https://ov.example" ∧
      ¬ NormalUrl "https://ov.example " := by
  refine ⟨⟨by decide +kernel, fun h => ?_⟩, by decide +kernel, by decide +kernel, fun h => ?_⟩
  · exact absurd h.located.hasScheme (by decide)
  · exact absurd (h.closes ' ' (by decide)) (by decide)

end ServerPower.Proofs
