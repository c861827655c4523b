import ServerPower.Number.Basic
import ServerPower.Text.Quoted

/-!
# JSON values

The values that the manager and its clients exchange. Members of an object keep their order, and a
key occurs once. In a message or a log record a text at the top appears as it is, inside a list or
an object between quotation marks.
-/

namespace ServerPower

inductive Json where
  | null
  | bool (value : Bool)
  | number (value : Number)
  | text (value : String)
  | list (items : List Json)
  | object (members : List (String × Json))
  deriving Repr

namespace Json

instance : Inhabited Json := ⟨.null⟩

abbrev int (n : Int) : Json := .number (.int n)

mutual

def beq : Json → Json → Bool
  | .null, .null => true
  | .bool a, .bool b => a == b
  | .number a, .number b => a == b
  | .text a, .text b => a == b
  | .list as, .list bs => beqItems as bs
  | .object as, .object bs => beqMembers as bs
  | _, _ => false

def beqItems : List Json → List Json → Bool
  | [], [] => true
  | a :: as, b :: bs => beq a b && beqItems as bs
  | _, _ => false

/-- Whether two lists of members are the same, order included. -/
def beqMembers : List (String × Json) → List (String × Json) → Bool
  | [], [] => true
  | (j, a) :: as, (k, b) :: bs => j == k && beq a b && beqMembers as bs
  | _, _ => false

end

instance : BEq Json := ⟨beq⟩

mutual

theorem eq_of_beq : ∀ {a b : Json}, beq a b = true → a = b
  | .null, .null, _ => rfl
  | .bool _, .bool _, h => by simpa [beq] using h
  | .number _, .number _, h => by simpa [beq] using h
  | .text _, .text _, h => by simpa [beq] using h
  | .list as, .list bs, h => by
    have h : beqItems as bs = true := by simpa [beq] using h
    rw [eq_of_beqItems h]
  | .object as, .object bs, h => by
    have h : beqMembers as bs = true := by simpa [beq] using h
    rw [eq_of_beqMembers h]

theorem eq_of_beqItems : ∀ {as bs : List Json}, beqItems as bs = true → as = bs
  | [], [], _ => rfl
  | a :: as, b :: bs, h => by
    simp only [beqItems, Bool.and_eq_true] at h
    rw [eq_of_beq h.1, eq_of_beqItems h.2]

theorem eq_of_beqMembers : ∀ {as bs : List (String × Json)}, beqMembers as bs = true → as = bs
  | [], [], _ => rfl
  | (j, a) :: as, (k, b) :: bs, h => by
    simp only [beqMembers, Bool.and_eq_true] at h
    rw [eq_of_beq h.1.2, eq_of_beqMembers h.2, beq_iff_eq.1 h.1.1]

end

mutual

theorem beq_self : ∀ a : Json, beq a a = true
  | .null | .bool _ | .number _ | .text _ => by simp [beq]
  | .list as => by simp [beq, beqItems_self as]
  | .object as => by simp [beq, beqMembers_self as]

theorem beqItems_self : ∀ as : List Json, beqItems as as = true
  | [] => rfl
  | a :: as => by simp [beqItems, beq_self a, beqItems_self as]

theorem beqMembers_self : ∀ as : List (String × Json), beqMembers as as = true
  | [] => rfl
  | (_, a) :: as => by simp [beqMembers, beq_self a, beqMembers_self as]

end

instance : LawfulBEq Json where
  eq_of_beq := eq_of_beq
  rfl := beq_self _

instance : DecidableEq Json := instDecidableEqOfLawfulBEq

/-- The name of a value's type, as the program's messages give it. -/
def typeName : Json → String
  | .null => "NoneType"
  | .bool _ => "bool"
  | .number (.int _) => "int"
  | .number (.float _) => "float"
  | .text _ => "str"
  | .list _ => "list"
  | .object _ => "dict"

/-- Whether a value counts as given: `null`, `false`, zeros and empty values do not. -/
def isGiven : Json → Bool
  | .null => false
  | .bool b => b
  | .number n => !n.isZero
  | .text s => s != ""
  | .list items => !items.isEmpty
  | .object members => !members.isEmpty

def member (members : List (String × Json)) (key : String) : Json :=
  (members.lookup key).getD .null

/-- Sets a member: in place of an earlier one with the key, else at the end. -/
def setMember (key : String) (value : Json) : List (String × Json) → List (String × Json)
  | [] => [(key, value)]
  | (k, v) :: rest =>
    if k = key then (k, value) :: rest else (k, v) :: setMember key value rest

theorem member_setMember (members : List (String × Json)) (key : String) (value : Json) :
    member (setMember key value members) key = value := by
  induction members with
  | nil => simp [setMember, member]
  | cons head rest ih =>
    obtain ⟨k, v⟩ := head
    by_cases h : k = key
    · simp [setMember, member, h]
    · have : (key == k) = false := by simpa using fun e => h e.symm
      simpa [setMember, member, h, List.lookup_cons, this] using ih

theorem setMember_of_notMem {members : List (String × Json)} {key : String} (value : Json)
    (h : key ∉ members.map Prod.fst) : setMember key value members = members ++ [(key, value)] := by
  induction members with
  | nil => rfl
  | cons head rest ih =>
    obtain ⟨k, v⟩ := head
    simp only [List.map_cons, List.mem_cons, not_or] at h
    have hk : k ≠ key := fun e => h.1 e.symm
    simp [setMember, hk, ih h.2]

/-! ## Values in messages -/

def joinItems (items : List String) : String :=
  ", ".intercalate items

mutual

def literal : Json → String
  | .null => "None"
  | .bool b => if b then "True" else "False"
  | .number n => n.text
  | .text s => Text.quote s
  | .list items => "[" ++ joinItems (literals items) ++ "]"
  | .object members => "\x7b" ++ joinItems (memberLiterals members) ++ "\x7d"

def literals : List Json → List String
  | [] => []
  | v :: rest => literal v :: literals rest

def memberLiterals : List (String × Json) → List String
  | [] => []
  | (key, v) :: rest => (Text.quote key ++ ": " ++ literal v) :: memberLiterals rest

end

/-- A value in a message: a text as it is, all else in literal notation. -/
def display : Json → String
  | .text s => s
  | v => literal v

@[simp] theorem display_text (s : String) : display (.text s) = s := rfl

end Json

end ServerPower
