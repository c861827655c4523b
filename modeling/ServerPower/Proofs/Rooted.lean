import Mathlib.Data.Bool.AllAny
import Mathlib.Data.List.TakeDrop
import ServerPower.Proofs.BaseUrl

/-!
# Rooted resources

A resource whose address begins with one slash is requested from the manager itself: the URL has the
scheme and the authority that the manager's address tells, whatever stands in the rest of the
resource's address. If nothing in there has a meaning of its own, the URL is the base URL with the
address put behind it.
-/

namespace ServerPower.Proofs
open Client Url

/-- The schemes that a manager is reached with. -/
inductive WebScheme where
  | http
  | https
  deriving DecidableEq, Repr

def WebScheme.text : WebScheme → List Char
  | .http => "http".toList
  | .https => "https".toList

def isHostChar (c : Char) : Bool :=
  c.isAlphanum || c == '.' || c == '-'

/-- The address of a manager as it may stand in the settings: perhaps a scheme, a host, perhaps a
port, and any number of slashes, with blanks around all that. -/
structure ManagerAddress where
  before : List Char
  scheme? : Option WebScheme
  host : List Char
  port? : Option (List Char)
  slashes : Nat
  after : List Char
  blank_before : ∀ c ∈ before, Text.isBlank c
  host_ne_nil : host ≠ []
  host_chars : ∀ c ∈ host, isHostChar c
  port_ne_nil : ∀ port ∈ port?, port ≠ []
  port_digits : ∀ port ∈ port?, ∀ c ∈ port, c.isDigit
  blank_after : ∀ c ∈ after, Text.isBlank c

namespace ManagerAddress

def authority (a : ManagerAddress) : List Char :=
  match a.port? with
  | none => a.host
  | some port => a.host ++ ':' :: port

/-- The address without the blanks around it. -/
def core (a : ManagerAddress) : List Char :=
  let located := a.authority ++ List.replicate a.slashes '/'
  match a.scheme? with
  | none => located
  | some scheme => scheme.text ++ "://".toList ++ located

def text (a : ManagerAddress) : String :=
  String.ofList (a.before ++ a.core ++ a.after)

/-- The scheme of the address, or the one that is meant where it has none. -/
def scheme (a : ManagerAddress) : WebScheme :=
  a.scheme?.getD .https

def base (a : ManagerAddress) : List Char :=
  a.scheme.text ++ "://".toList ++ a.authority

end ManagerAddress

/-- The address of a resource begins with one slash, and no tab or line end stands in it. -/
structure Rooted (uri : List Char) : Prop where
  slash : uri.head? = some '/'
  single : ¬ ['/', '/'] <+: uri
  oneLine : ∀ c ∈ uri, c ≠ '\t' ∧ c ≠ '\r' ∧ c ≠ '\n'

/-- Nothing in the address of a resource has a meaning of its own. -/
structure PlainPath (uri : List Char) : Prop where
  query : '?' ∉ uri
  fragment : '#' ∉ uri
  params : ';' ∉ uri
  segments : ∀ segment ∈ uri.splitOn '/', segment ≠ ['.'] ∧ segment ≠ ['.', '.']

/-- What the parts of a URL are, given its scheme, its authority and what follows them. -/
def partsOf (scheme authority s : List Char) : Reference :=
  let (s, fragment) := Text.cut '#' s
  let (path, query) := Text.cut '?' s
  let (path, params) := splitParams path
  ⟨scheme, authority, path, params, query, fragment⟩

/-- The URL under which a rooted resource is requested. -/
def rootedUrl (a : ManagerAddress) (uri : List Char) : List Char :=
  let parts := partsOf a.scheme.text a.authority uri
  Reference.render { parts with path := resolvePath ['/'] parts.path }

section Characters

variable {c : Char} {a : ManagerAddress}

/-- Letters and digits are characters of ASCII. -/
lemma toNat_of_isAlphanum (h : c.isAlphanum) :
    (48 ≤ c.toNat ∧ c.toNat ≤ 57) ∨ (65 ≤ c.toNat ∧ c.toNat ≤ 90) ∨
      (97 ≤ c.toNat ∧ c.toNat ≤ 122) := by
  have hclasses : ((decide ('A'.val ≤ c.val ∧ c.val ≤ 'Z'.val) ||
      (decide ('a'.val ≤ c.val) && decide (c.val ≤ 'z'.val))) ||
      (decide ('0'.val ≤ c.val) && decide (c.val ≤ '9'.val))) = true := h
  simp only [Bool.or_eq_true, Bool.and_eq_true, decide_eq_true_eq,
    UInt32.le_iff_toNat_le] at hclasses
  have hc : c.toNat = c.val.toNat := rfl
  have hA : 'A'.val.toNat = 65 := rfl
  have hZ : 'Z'.val.toNat = 90 := rfl
  have ha : 'a'.val.toNat = 97 := rfl
  have hz : 'z'.val.toNat = 122 := rfl
  have h0 : '0'.val.toNat = 48 := rfl
  have h9 : '9'.val.toNat = 57 := rfl
  omega

/-- The characters of an authority: the hyphen, the point, the digits, the colon and the letters. -/
lemma toNat_of_mem_authority (h : c ∈ a.authority) :
    c.toNat = 45 ∨ c.toNat = 46 ∨ (48 ≤ c.toNat ∧ c.toNat ≤ 58) ∨
      (65 ≤ c.toNat ∧ c.toNat ≤ 90) ∨ (97 ≤ c.toNat ∧ c.toNat ≤ 122) := by
  have hhost : c ∈ a.host → c.toNat = 45 ∨ c.toNat = 46 ∨ (48 ≤ c.toNat ∧ c.toNat ≤ 58) ∨
      (65 ≤ c.toNat ∧ c.toNat ≤ 90) ∨ (97 ≤ c.toNat ∧ c.toNat ≤ 122) := by
    intro hm
    have hchar := a.host_chars c hm
    simp only [isHostChar, Bool.or_eq_true, beq_iff_eq] at hchar
    rcases hchar with (halnum | rfl) | rfl
    · have := toNat_of_isAlphanum halnum
      omega
    · decide
    · decide
  unfold ManagerAddress.authority at h
  split at h
  · exact hhost h
  · rename_i port hport
    rcases List.mem_append.mp h with hm | hm
    · exact hhost hm
    · rcases List.mem_cons.mp hm with rfl | hd
      · decide
      · have hdigit := a.port_digits port hport c hd
        have := toNat_of_isAlphanum (c := c) (by simp [Char.isAlphanum, hdigit])
        omega

lemma ne_of_mem_authority {d : Char} (h : c ∈ a.authority)
    (hd : d.toNat < 45 ∨ d.toNat = 47 ∨ (59 ≤ d.toNat ∧ d.toNat ≤ 64) ∨
      (91 ≤ d.toNat ∧ d.toNat ≤ 96) ∨ 123 ≤ d.toNat) : c ≠ d := by
  rintro rfl
  have := toNat_of_mem_authority h
  omega

lemma authority_ne_nil (a : ManagerAddress) : a.authority ≠ [] := by
  unfold ManagerAddress.authority
  split
  · exact a.host_ne_nil
  · exact List.append_ne_nil_of_left_ne_nil a.host_ne_nil _

lemma isBlank_of_mem_authority (h : c ∈ a.authority) : Text.isBlank c = false := by
  have hrange := toNat_of_mem_authority h
  simp only [Text.isBlank, Bool.or_eq_false_iff, Bool.and_eq_false_iff, decide_eq_false_iff_not,
    beq_eq_false_iff_ne]
  omega

end Characters

section Addresses

variable (a : ManagerAddress)

lemma hasScheme_append_of_notMem {l : List Char} (h : ':' ∉ l) (s : List Char) :
    hasScheme (l ++ s) = hasScheme s := by
  induction l with
  | nil => rfl
  | cons c rest ih =>
    rw [List.mem_cons, not_or] at h
    have hc : (':' == c) = false := beq_eq_false_iff_ne.mpr h.1
    rw [List.cons_append, hasScheme, ih h.2]
    simp [List.isPrefixOf, hc]

/-- The colon before a port marks no scheme. -/
lemma hasScheme_authority (slashes : Nat) :
    hasScheme (a.authority ++ List.replicate slashes '/') = false := by
  have hplain : ∀ l : List Char, ':' ∉ l → hasScheme (l ++ List.replicate slashes '/') = false := by
    intro l hl
    have hall : ':' ∉ l ++ List.replicate slashes '/' := by
      simp [hl]
    rw [← List.append_nil (l ++ _), hasScheme_append_of_notMem hall]
    rfl
  have hhost : ':' ∉ a.host := by
    intro hm
    exact absurd (a.host_chars ':' hm) (by decide)
  unfold ManagerAddress.authority
  split
  · exact hplain a.host hhost
  · rename_i port hport
    rw [List.append_assoc, hasScheme_append_of_notMem hhost]
    have hdigits := a.port_digits port hport
    have hport' : ':' ∉ port := fun hm => absurd (hdigits ':' hm) (by decide)
    cases port with
    | nil => exact absurd rfl (a.port_ne_nil [] hport)
    | cons d ds =>
      have hd : ('/' == d) = false := by
        refine beq_eq_false_iff_ne.mpr (fun he => ?_)
        exact absurd (hdigits d (List.mem_cons_self ..)) (by rw [← he]; decide)
      rw [List.cons_append, hasScheme, hplain (d :: ds) hport']
      simp [List.isPrefixOf, hd]

lemma hasScheme_core : hasScheme a.core = a.scheme?.isSome := by
  unfold ManagerAddress.core
  cases hs : a.scheme? with
  | none => exact hasScheme_authority a a.slashes
  | some scheme =>
    refine hasScheme_iff.mpr ⟨scheme.text, a.authority ++ List.replicate a.slashes '/', ?_⟩
    simp

/-- The base URL of an address is its scheme, or the one that is meant, and its authority. -/
lemma withScheme_core : withScheme a.core = a.base ++ List.replicate a.slashes '/' := by
  unfold withScheme
  rw [hasScheme_core]
  unfold ManagerAddress.core ManagerAddress.base ManagerAddress.scheme
  cases a.scheme? with
  | none => simp [WebScheme.text]
  | some scheme => simp

lemma getLast?_base : ∃ c ∈ a.authority, a.base.getLast? = some c := by
  refine ⟨a.authority.getLast (authority_ne_nil a), List.getLast_mem _, ?_⟩
  unfold ManagerAddress.base
  rw [List.getLast?_append_of_ne_nil _ (authority_ne_nil a), List.getLast?_eq_getLast_of_ne_nil]

lemma rdropWhile_core : (withScheme a.core).rdropWhile (· == '/') = a.base := by
  have hslashes : ∀ c ∈ List.replicate a.slashes '/', (c == '/') = true := by
    intro c hc
    rw [List.eq_of_mem_replicate hc]
    rfl
  rw [withScheme_core, rdropWhile_append_of_forall hslashes]
  obtain ⟨c, hc, hlast⟩ := getLast?_base a
  refine rdropWhile_eq_self (fun d hd => ?_)
  rw [hlast] at hd
  cases hd
  exact beq_eq_false_iff_ne.mpr (ne_of_mem_authority hc (by decide))

lemma isBlank_of_mem_core {c : Char} (h : c ∈ a.core) : Text.isBlank c = false := by
  have hlocated : c ∈ a.authority ++ List.replicate a.slashes '/' → Text.isBlank c = false := by
    intro hm
    rcases List.mem_append.mp hm with hc | hc
    · exact isBlank_of_mem_authority hc
    · rw [List.eq_of_mem_replicate hc]
      decide
  unfold ManagerAddress.core at h
  cases hs : a.scheme? with
  | none =>
    rw [hs] at h
    exact hlocated h
  | some scheme =>
    rw [hs] at h
    rcases List.mem_append.mp h with hc | hc
    · have hmarked : ∀ d ∈ scheme.text ++ "://".toList, Text.isBlank d = false :=
        List.all_iff_forall_prop.mp (by cases scheme <;> decide)
      exact hmarked c hc
    · exact hlocated hc

lemma core_ne_nil : a.core ≠ [] := by
  have hlocated : a.authority ++ List.replicate a.slashes '/' ≠ [] :=
    List.append_ne_nil_of_left_ne_nil (authority_ne_nil a) _
  unfold ManagerAddress.core
  split
  · exact hlocated
  · exact List.append_ne_nil_of_right_ne_nil _ hlocated

lemma trim_text : (Text.trim a.text).toList = a.core := by
  rw [Text.trim, String.toList_ofList, ManagerAddress.text, String.toList_ofList]
  exact trimBy_append a.blank_before a.blank_after
    (fun c hc => isBlank_of_mem_core a (List.mem_of_mem_head? hc))
    (fun c hc => isBlank_of_mem_core a (List.mem_of_getLast? hc))

/-- The base URL is the scheme of the address, or the one that is meant, and its authority. -/
lemma managerUrl_text (strict : Bool) :
    managerUrl strict (.text a.text) = pure (String.ofList a.base) := by
  have hne : Text.trim a.text ≠ "" := by
    intro he
    have hcore := trim_text a
    rw [he] at hcore
    exact core_ne_nil a hcore.symm
  have hbase : baseOf (Text.trim a.text) = String.ofList a.base := by
    rw [← String.toList_inj, toList_baseOf, trim_text, rdropWhile_core, String.toList_ofList]
  rw [managerUrl_of_ne strict hne, hbase]

end Addresses

section Parts

variable {scheme : WebScheme} {authority uri rest : List Char}

@[simp] lemma partsOf_scheme (scheme authority s : List Char) :
    (partsOf scheme authority s).scheme = scheme := rfl

@[simp] lemma partsOf_authority (scheme authority s : List Char) :
    (partsOf scheme authority s).authority = authority := rfl

lemma lists_web (scheme : WebScheme) : lists paramSchemes scheme.text ∧
    lists relativeSchemes scheme.text ∧ lists authoritySchemes scheme.text := by
  cases scheme <;> decide

lemma checkAuthority_ok (a : ManagerAddress) : checkAuthority a.authority = .ok () := by
  have hopen : a.authority.contains '[' = false := by
    simpa using fun hm => ne_of_mem_authority hm (d := '[') (by decide) rfl
  have hclose : a.authority.contains ']' = false := by
    simpa using fun hm => ne_of_mem_authority hm (d := ']') (by decide) rfl
  have hforms : (a.authority.any fun c => delimiterForms.contains c.toNat) = false := by
    refine List.any_eq_false.mpr (fun c hc => ?_)
    have hrange := toNat_of_mem_authority hc
    simp only [delimiterForms, List.contains_eq_mem, List.mem_cons, List.not_mem_nil, or_false,
      decide_eq_true_eq]
    omega
  unfold checkAuthority
  simp only [hopen, hclose, hforms]
  rfl

lemma splitScheme_base (scheme : WebScheme) (s : List Char) :
    splitScheme [] (scheme.text ++ ':' :: s) = (scheme.text, s) := by
  cases scheme <;> rfl

/-- Tabs and line ends do not count in a reference. -/
def isKept (c : Char) : Bool :=
  c != '\t' && c != '\r' && c != '\n'

/-- The characters of a reference that count. -/
def counted (s : List Char) : List Char :=
  (s.dropWhile (·.toNat ≤ 0x20)).filter isKept

def isWithinAuthority (c : Char) : Bool :=
  c != '/' && c != '?' && c != '#'

/-- Splits an authority off, which two slashes mark. -/
def splitAuthority : List Char → List Char × List Char
  | '/' :: '/' :: rest => rest.span isWithinAuthority
  | s => ([], s)

lemma parse_eq {base s scheme marked authority rest : List Char}
    (hscheme : splitScheme base (counted s) = (scheme, marked)) (hlists : lists paramSchemes scheme)
    (hauthority : splitAuthority marked = (authority, rest))
    (hcheck : checkAuthority authority = .ok ()) :
    Reference.parse base s = .ok (partsOf scheme authority rest) := by
  have hunfolded : Reference.parse base s =
      (let (scheme, marked) := splitScheme base (counted s)
       let (authority, rest) := splitAuthority marked
       checkAuthority authority >>= fun _ =>
        let (s, fragment) := Text.cut '#' rest
        let (path, query) := Text.cut '?' s
        let (path, params) := if lists paramSchemes scheme then splitParams path else (path, [])
        pure ⟨scheme, authority, path, params, query, fragment⟩) := by
    unfold Reference.parse counted
    rfl
  rw [hunfolded, hscheme]
  dsimp only
  rw [hauthority]
  dsimp only
  rw [hcheck, if_pos hlists]
  rfl

lemma splitAuthority_base (a : ManagerAddress) (rest : List Char) :
    splitAuthority ('/' :: '/' :: (a.authority ++ '/' :: rest)) = (a.authority, '/' :: rest) := by
  have hall : ∀ c ∈ a.authority, isWithinAuthority c = true := by
    intro c hc
    simp [isWithinAuthority, ne_of_mem_authority hc (d := '/') (by decide),
      ne_of_mem_authority hc (d := '?') (by decide), ne_of_mem_authority hc (d := '#') (by decide)]
  rw [splitAuthority, List.span_eq_takeWhile_dropWhile, List.takeWhile_append_of_pos hall,
    List.dropWhile_append_of_pos hall]
  simp [isWithinAuthority]

lemma counted_base (a : ManagerAddress) (rest : List Char) :
    counted (a.base ++ '/' :: rest) =
      a.scheme.text ++ ':' :: '/' :: '/' :: (a.authority ++ '/' :: rest.filter isKept) := by
  have hfirst : (a.base ++ '/' :: rest).dropWhile (·.toNat ≤ 0x20) = a.base ++ '/' :: rest := by
    unfold ManagerAddress.base
    cases a.scheme <;> rfl
  have hscheme : ∀ c ∈ a.scheme.text ++ "://".toList, isKept c = true :=
    List.all_eq_true.mp (by cases a.scheme <;> decide)
  have hauthority : ∀ c ∈ a.authority, isKept c = true := by
    intro c hc
    simp [isKept, ne_of_mem_authority hc (d := '\t') (by decide),
      ne_of_mem_authority hc (d := '\r') (by decide),
      ne_of_mem_authority hc (d := '\n') (by decide)]
  have hbase : a.base.filter isKept = a.base := by
    refine List.filter_eq_self.mpr (fun c hc => ?_)
    exact (List.mem_append.mp hc).elim (hscheme c) (hauthority c)
  rw [counted, hfirst, List.filter_append, hbase]
  simp [ManagerAddress.base, isKept]

/-- A URL of the base is taken apart into the scheme, the authority and the parts of the rest. -/
lemma parse_base (a : ManagerAddress) (rest : List Char) :
    Reference.parse [] (a.base ++ '/' :: rest) =
      .ok (partsOf a.scheme.text a.authority ('/' :: rest.filter isKept)) := by
  have hscheme : splitScheme [] (counted (a.base ++ '/' :: rest)) =
      (a.scheme.text, '/' :: '/' :: (a.authority ++ '/' :: rest.filter isKept)) := by
    rw [counted_base, splitScheme_base]
  exact parse_eq hscheme (lists_web a.scheme).1 (splitAuthority_base a _) (checkAuthority_ok a)

lemma counted_rooted (h : Rooted uri) : counted uri = uri := by
  have hfirst : uri.dropWhile (·.toNat ≤ 0x20) = uri := by
    cases uri with
    | nil => rfl
    | cons c rest =>
      cases h.slash
      rfl
  rw [counted, hfirst]
  refine List.filter_eq_self.mpr (fun c hc => ?_)
  simpa [isKept, and_assoc] using h.oneLine c hc

/-- No scheme begins with a slash. -/
lemma splitScheme_rooted (h : uri.head? = some '/') (base : List Char) :
    splitScheme base uri = (base, uri) := by
  cases uri with
  | nil => rfl
  | cons c rest =>
    cases h
    unfold splitScheme
    dsimp only
    split
    · rename_i first others _ hfirst
      cases hfirst
      rfl
    · rfl

lemma splitAuthority_rooted (h : Rooted uri) : splitAuthority uri = ([], uri) := by
  unfold splitAuthority
  split
  · exact absurd (by simp) h.single
  · rfl

lemma parse_rooted (h : Rooted uri) (scheme : WebScheme) :
    Reference.parse scheme.text uri = .ok (partsOf scheme.text [] uri) := by
  have hscheme : splitScheme scheme.text (counted uri) = (scheme.text, uri) := by
    rw [counted_rooted h, splitScheme_rooted h.slash]
  exact parse_eq hscheme (lists_web scheme).1 (splitAuthority_rooted h) rfl

/-- Before the first mark stands the rest, which begins as the whole does. -/
lemma head?_cut {mark : Char} (h : uri.head? = some '/') (hm : mark ≠ '/') :
    (Text.cut mark uri).1.head? = some '/' := by
  cases uri with
  | nil => cases h
  | cons c rest =>
    cases h
    simp [Text.cut, Ne.symm hm]

/-- The parameters are taken from behind the last slash. -/
lemma head?_splitParams (h : uri.head? = some '/') : (splitParams uri).1.head? = some '/' := by
  have hslash : '/' ∈ uri.rdropWhile (· != '/') := mem_rdropWhile (List.mem_of_mem_head? h) rfl
  have hne := List.ne_nil_of_mem hslash
  have hdirectory : (splitParams uri).1 = uri.rdropWhile (· != '/') ++
      (Text.cut ';' (uri.reverse.takeWhile (· != '/')).reverse).1 := rfl
  rw [hdirectory, List.head?_append_of_ne_nil _ hne, head?_rdropWhile hne, h]

lemma partsOf_path (h : uri.head? = some '/') (scheme authority : List Char) :
    (partsOf scheme authority uri).path.head? = some '/' :=
  head?_splitParams (head?_cut (head?_cut h (by decide)) (by decide))

end Parts

section Paths

lemma resolveSegments_of_plain {segments : List (List Char)}
    (h : ∀ segment ∈ segments, segment ≠ ['.'] ∧ segment ≠ ['.', '.']) (done : List (List Char)) :
    resolveSegments done segments = done.reverse ++ segments := by
  induction segments generalizing done with
  | nil => simp [resolveSegments]
  | cons segment rest ih =>
    obtain ⟨hone, htwo⟩ := h segment (List.mem_cons_self ..)
    rw [resolveSegments, if_neg (by simpa using htwo), if_neg (by simpa using hone),
      ih (fun s hs => h s (List.mem_cons_of_mem _ hs))]
    simp

/-- A path as it stands behind an authority: it begins with a slash, its own or one that is put
there. -/
def slashed (path : List Char) : List Char :=
  if path.head? = some '/' then path else '/' :: path

lemma exists_slashed_eq (path : List Char) : ∃ rest, slashed path = '/' :: rest := by
  unfold slashed
  split
  · rename_i h
    exact List.head?_eq_some_iff.mp h
  · exact ⟨path, rfl⟩

lemma render_eq (a : ManagerAddress) {path : List Char} (hne : path ≠ [])
    (params query fragment : List Char) :
    Reference.render ⟨a.scheme.text, a.authority, path, params, query, fragment⟩ =
      a.base ++ slashed path ++ marked ';' params ++ marked '?' query ++ marked '#' fragment := by
  have hauthority : a.authority.isEmpty = false := by simpa using authority_ne_nil a
  have hscheme : a.scheme.text.isEmpty = false := by cases a.scheme <;> rfl
  cases path with
  | nil => exact absurd rfl hne
  | cons c path =>
    by_cases hc : c = '/' <;>
      simp [Reference.render, slashed, hauthority, hscheme, hc, ManagerAddress.base]

lemma resolvePath_ne_nil (base path : List Char) : resolvePath base path ≠ [] := by
  unfold resolvePath
  dsimp only
  split
  · exact List.cons_ne_nil _ _
  · rename_i hne
    exact hne

/-- Every rooted resource is put together on the base. -/
lemma rootedUrl_based (a : ManagerAddress) (uri : List Char) :
    ∃ rest, rootedUrl a uri = a.base ++ '/' :: rest := by
  let parts := partsOf a.scheme.text a.authority uri
  obtain ⟨rest, hrest⟩ := exists_slashed_eq (resolvePath ['/'] parts.path)
  refine ⟨rest ++ marked ';' parts.params ++ marked '?' parts.query ++
    marked '#' parts.fragment, ?_⟩
  refine (render_eq a (resolvePath_ne_nil ['/'] parts.path) _ _ _).trans ?_
  rw [hrest]
  simp [parts]

lemma join_rooted (a : ManagerAddress) {uri : List Char} (h : Rooted uri) :
    Url.join (a.base ++ ['/']) uri = .ok (rootedUrl a uri) := by
  have hbase : (a.base ++ ['/']).isEmpty = false := by simp
  have huri : uri.isEmpty = false := by
    cases uri with
    | nil => cases h.slash
    | cons c rest => rfl
  have hpath : (partsOf a.scheme.text [] uri).path.isEmpty = false := by
    have hslash := partsOf_path h.slash a.scheme.text []
    cases hp : (partsOf a.scheme.text [] uri).path with
    | nil =>
      rw [hp] at hslash
      cases hslash
    | cons c rest => rfl
  obtain ⟨-, hrelative, hauthority⟩ := lists_web a.scheme
  unfold Url.join
  simp only [hbase, huri, Bool.false_eq_true, if_false, parse_base a [], bind, Except.bind]
  rw [partsOf_scheme, parse_rooted h]
  simp only [partsOf_scheme, partsOf_authority, bne_self_eq_false, hrelative, hauthority, hpath,
    List.isEmpty_nil, Bool.not_true, Bool.or_self, Bool.and_false, Bool.false_and,
    Bool.false_eq_true, if_false, if_true]
  rfl

lemma cut_of_notMem {mark : Char} {s : List Char} (h : mark ∉ s) : Text.cut mark s = (s, []) := by
  have hall : ∀ c ∈ s, (c != mark) = true := by
    intro c hc
    exact bne_iff_ne.mpr (fun he => h (he ▸ hc))
  simp [Text.cut, List.takeWhile_eq_self_iff.mpr hall, List.dropWhile_eq_nil_iff.mpr hall]

/-- An address in which nothing has a meaning of its own is all path. -/
lemma partsOf_plain {uri : List Char} (h : PlainPath uri) (scheme authority : List Char) :
    partsOf scheme authority uri = ⟨scheme, authority, uri, [], [], []⟩ := by
  have hsegment : ';' ∉ (uri.reverse.takeWhile (· != '/')).reverse := by
    intro hm
    rw [List.mem_reverse] at hm
    exact h.params (List.mem_reverse.mp (List.takeWhile_subset _ hm))
  have hparams : splitParams uri = (uri, []) := by
    unfold splitParams
    dsimp only
    rw [cut_of_notMem hsegment, ← List.reverse_append, List.takeWhile_append_dropWhile,
      List.reverse_reverse]
  simp [partsOf, cut_of_notMem h.fragment, cut_of_notMem h.query, hparams]

lemma resolvePath_plain {uri : List Char} (hslash : uri.head? = some '/') (h : PlainPath uri)
    (base : List Char) : resolvePath base uri = uri := by
  have hne : uri.splitOn '/' ≠ [] := List.splitOn_ne_nil '/' uri
  have hplain := h.segments _ (List.getLast_mem hne)
  unfold resolvePath
  simp only [hslash, beq_self_eq_true, if_true, resolveSegments_of_plain h.segments,
    List.reverse_nil, List.nil_append, List.getLast?_eq_some_getLast hne]
  generalize (uri.splitOn '/').getLast hne = last at hplain ⊢
  obtain ⟨hhere, habove⟩ := hplain
  simp only [Option.some.injEq, imp_self, hhere, habove, List.intercalate_splitOn]
  cases uri with
  | nil => cases hslash
  | cons c rest => rfl

lemma rootedUrl_plain (a : ManagerAddress) {uri : List Char} (hslash : uri.head? = some '/')
    (h : PlainPath uri) : rootedUrl a uri = a.base ++ uri := by
  have hne : uri ≠ [] := List.ne_nil_of_mem (List.mem_of_mem_head? hslash)
  unfold rootedUrl
  rw [partsOf_plain h]
  dsimp only
  rw [resolvePath_plain hslash h, render_eq a hne, slashed, if_pos hslash]
  simp [marked]

lemma request_rooted (a : ManagerAddress) {client : Client}
    (hbase : client.baseUrl = String.ofList a.base) {uri : String} (h : Rooted uri.toList)
    (method : String) (body : Json) :
    ∃ request, client.request method (.text uri) body = .ok request ∧
      request.url.toList = rootedUrl a uri.toList := by
  have hurl : client.url (.text uri) = .ok (String.ofList (rootedUrl a uri.toList)) := by
    unfold Client.url
    simp only [hbase, String.toList_ofList, join_rooted a h]
    rfl
  unfold Client.request
  rw [hurl]
  exact ⟨_, rfl, String.toList_ofList⟩

lemma create_text (a : ManagerAddress) (strict : Bool) (token version verify timeout : Json) :
    ∃ client, Client.create strict (.text a.text) token version verify timeout = pure client ∧
      client.baseUrl = String.ofList a.base := by
  unfold Client.create
  rw [managerUrl_text]
  exact ⟨_, rfl, rfl⟩

end Paths

/-- A client of a manager's address has as its base URL the scheme that the address tells, or the
secure one, and the authority. Each rooted resource is requested under a URL of this base, which has
the same scheme and the same authority; and if nothing in the resource's address has a meaning of
its own, that URL is the base URL with the resource's address behind it. -/
theorem request_of_rooted (a : ManagerAddress) (strict : Bool)
    (token version verify timeout : Json) :
    ∃ client, Client.create strict (.text a.text) token version verify timeout = pure client ∧
      client.baseUrl.toList = a.base ∧
      ∀ (method uri : String) (body : Json), Rooted uri.toList →
        ∃ request rest, client.request method (.text uri) body = .ok request ∧
          request.url.toList = a.base ++ '/' :: rest ∧
          (∃ parts, Reference.parse [] request.url.toList = .ok parts ∧
            parts.scheme = a.scheme.text ∧ parts.authority = a.authority) ∧
          (PlainPath uri.toList → request.url.toList = a.base ++ uri.toList) := by
  obtain ⟨client, hcreate, hbase⟩ := create_text a strict token version verify timeout
  refine ⟨client, hcreate, by rw [hbase, String.toList_ofList], fun method uri body h => ?_⟩
  obtain ⟨request, hrequest, hurl⟩ := request_rooted a hbase h method body
  obtain ⟨rest, hrest⟩ := rootedUrl_based a uri.toList
  have hparse := parse_base a rest
  rw [← hrest, ← hurl] at hparse
  exact ⟨request, rest, hrequest, hurl.trans hrest,
    ⟨_, hparse, partsOf_scheme _ _ _, partsOf_authority _ _ _⟩,
    fun hplain => hurl.trans (rootedUrl_plain a h.slash hplain)⟩

def portedManager : ManagerAddress where
  before := [' ']
  scheme? := none
  host := "ov.example".toList
  port? := some "8443".toList
  slashes := 2
  after := []
  blank_before := List.all_eq_true.mp (by decide)
  host_ne_nil := by decide
  host_chars := List.all_eq_true.mp (by decide)
  port_ne_nil := by
    rintro _ ⟨⟩
    decide
  port_digits := by
    rintro _ ⟨⟩
    exact List.all_eq_true.mp (by decide)
  blank_after := nofun

/-- Going up from the top and an empty segment do not lead away from the manager. -/
theorem request_of_rooted_ported :
    ∃ client, Client.create false (.text " ov.example:8443//") .null (.int 800) (.bool true)
        (.int 60) = pure client ∧
      (∃ request, client.request "GET" (.text "/../..//ov.example:80/x;y?z") .null = .ok request ∧
        "https://ov.example:8443/".toList <+: request.url.toList) ∧
      ∃ request, client.request "GET" (.text "/rest/server-hardware/1") .null = .ok request ∧
        request.url = "https://ov.example:8443/rest/server-hardware/1" := by
  have htext : portedManager.text = " ov.example:8443//" := by decide +kernel
  obtain ⟨client, hcreate, -, hrooted⟩ :=
    request_of_rooted portedManager false .null (.int 800) (.bool true) (.int 60)
  rw [htext] at hcreate
  refine ⟨client, hcreate, ?_, ?_⟩
  · obtain ⟨request, rest, hrequest, hurl, -⟩ := hrooted "GET" "/../..//ov.example:80/x;y?z" .null
      ⟨by decide, by decide, List.all_iff_forall_prop.mp (by decide)⟩
    refine ⟨request, hrequest, rest, ?_⟩
    rw [hurl]
    rfl
  · obtain ⟨request, -, hrequest, -, -, hplain⟩ := hrooted "GET" "/rest/server-hardware/1" .null
      ⟨by decide, by decide, List.all_iff_forall_prop.mp (by decide)⟩
    refine ⟨request, hrequest, String.toList_inj.mp ?_⟩
    rw [hplain ⟨by decide, by decide, by decide, by decide⟩]
    rfl

end ServerPower.Proofs
