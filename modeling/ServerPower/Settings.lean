import ServerPower.Report
import ServerPower.Settings.Option
import ServerPower.Settings.Placeholder

/-!
# Settings

The values of the options. A value handed over is checked when it is set; one written in a file is
checked when it is read. Placeholders in a text are filled in whenever it is read.
-/

namespace ServerPower

inductive OptionSource where
  | given (value : Json)
  | file (text : String)
  deriving Repr

/-- The options that are set. A later entry counts before an earlier one. -/
structure Settings where
  entries : List (OptionKey × OptionSource) := []
  common : List CommonOption := CommonOption.basic
  formerNames : List String := []

namespace Settings

def defaults : Settings := {}

def set (settings : Settings) (key : OptionKey) (v : Json) : Except Failure Settings := do
  let v ← key.type.accept v
  return { settings with entries := (key, .given v) :: settings.entries }

def setAll (settings : Settings) (group : String) (values : List (String × Json)) :
    Except Failure Settings :=
  values.foldlM (fun settings (name, v) => do settings.set (← OptionKey.find group name) v) settings

/-- The text of an option in a file: blanks around it and a pair of quotation marks dropped. -/
def fileText (s : String) : String :=
  let cs := Text.trimBy Text.isBlank s.toList
  match cs with
  | mark :: rest =>
    if (mark == '"' || mark == '\x27') && cs.getLast? == some mark then String.ofList rest.dropLast
    else String.ofList cs
  | [] => ""

/-- The options written in a group of a file. Names of no option are passed over. -/
def ofFile (group : String) (lines : List (String × String)) : Settings where
  entries := lines.foldl (fun entries (name, s) =>
    match OptionKey.find? group name with
    | some key => (key, .file (fileText s)) :: entries
    | none => entries) []

/-! ## Placeholders -/

inductive Referent where
  | key (key : OptionKey)
  | common (option : CommonOption)

abbrev Reader := Referent → Except Failure Json

/-- The option of a group that a name stands for, if there is one: the group stands before the first
point, and without a point it is `home?`. -/
def resolve? (home? : Option String) (name : List Char) : Except Failure (Option OptionKey) :=
  match name.span (· != '.'), home? with
  | (group, _ :: option), _ => do
    OptionKey.checkGroup (String.ofList group)
    return OptionKey.find? (String.ofList group) (String.ofList option)
  | (_, []), some group => .ok (OptionKey.find? group (String.ofList name))
  | (_, []), none => .ok none

/-- What a value is shown as in the place of its option: nothing, if the option is not set. -/
def shown : Json → List Char
  | .null => []
  | v => v.display.toList

/-- What a placeholder is filled with whose name stands for no option of a group. One with a former
name is left as it was `written`. -/
def fillOutside (settings : Settings) (read : Reader) (name : String) (written : List Char) :
    Except Failure (List Char) :=
  if OptionKey.groups.contains name then
    .error ⟨.groupReference,
      "template substitution error: substituting group " ++ name ++ " not supported"⟩
  else if settings.formerNames.contains name then .ok written
  else match settings.common.find? (·.name == name) with
    | some option => (read (.common option)).map shown
    | none => .error (OptionKey.unknown "DEFAULT" name)

/-- What a piece is filled with, where `read` yields the values of options. A name whose option
leads to an unknown one counts as the name of no option of a group. -/
def fillPiece (settings : Settings) (read : Reader) (home? : Option String) :
    Piece → Except Failure (List Char)
  | .plain s => .ok s
  | .value name braced => do
    let outside := settings.fillOutside read (String.ofList name) (Piece.value name braced).written
    match ← resolve? home? name with
    | none => outside
    | some key =>
      match read (.key key) with
      | .ok v => .ok (shown v)
      | .error failure => if failure.kind = .unknownOption then outside else .error failure

def fill (settings : Settings) (read : Reader) (home? : Option String) (s : String) :
    Except Failure String := do
  return String.ofList (← (pieces s.toList).mapM (settings.fillPiece read home?)).flatten

/-- A text without a dollar sign has nothing to be filled in. -/
theorem fill_of_notMem (settings : Settings) (read : Reader) (home? : Option String) {s : String}
    (h : '$' ∉ s.toList) : settings.fill read home? s = .ok s := by
  simp [fill, pieces_of_notMem h, fillPiece, pure, Except.pure, bind, Except.bind]

/-- The value of an option outside the groups with the placeholders in its texts filled in. -/
def fillValue (settings : Settings) (read : Reader) : Json → Except Failure Json
  | .text s => (settings.fill read none s).map .text
  | .list vs => do
    return .list (← vs.mapM fun
      | .text s => (settings.fill read none s).map .text
      | v => .ok v)
  | v => .ok v

/-! ## Reading -/

/-- What is reported, as a failure of a kind, when the value written for an option is not accepted.
Other failures on the way to the value stay what they are. -/
def refused (kind : FailureKind) (name : String) (failure : Failure) : Failure :=
  if [.wrongValue, .optionFile, .optionSource].contains failure.kind then
    ⟨kind, "Value for option " ++ name ++ " is not valid: " ++ failure.text⟩
  else failure

/-- The value of an option, whose placeholders are nested less than `depth` deep. -/
def readWithin (settings : Settings) : (depth : Nat) → Reader
  | 0, _ => .error ⟨.recursion, "maximum recursion depth exceeded"⟩
  | depth + 1, .key key =>
    match settings.entries.lookup key with
    | none => .ok key.default
    | some (.given (.text s)) => (settings.fill (settings.readWithin depth) none s).map .text
    | some (.given v) => .ok v
    | some (.file s) => Except.mapError (refused .optionFile key.name) do
      key.type.accept (.text (← settings.fill (settings.readWithin depth) (some key.group) s))
  | depth + 1, .common option => Except.mapError (refused .optionSource option.name) do
    option.check (← settings.fillValue (settings.readWithin depth) option.value)

/-- The number of all options. Placeholders that are nested deeper refer to themselves. -/
def size (settings : Settings) : Nat := OptionKey.all.length + settings.common.length

def read (settings : Settings) (key : OptionKey) : Except Failure Json :=
  settings.readWithin (settings.size + 1) (.key key)

/-- The value of an option outside the groups, whatever its choices are. -/
def readCommon (settings : Settings) (option : CommonOption) : Except Failure Json :=
  settings.fillValue (settings.readWithin settings.size) option.value

/-- The value of the option of a group with a name. A group that does not exist is missed as if it
were an option. -/
def readNamed (settings : Settings) (group name : String) : Except Failure Json := do
  if !OptionKey.groups.contains group then throw (OptionKey.unknown "DEFAULT" group)
  settings.read (← OptionKey.find group name)

/-- The value of an option, as a step on the way to a result. -/
def demand (settings : Settings) (key : OptionKey) : Report Json :=
  Report.ofExcept (settings.read key)

/-- Whether a message template that cannot be filled in is a failure of its own. -/
def strict (settings : Settings) : Bool :=
  match settings.read .strictTemplates with
  | .ok v => v.isGiven
  | .error _ => false

theorem read_of_lookup_eq_none {settings : Settings} {key : OptionKey}
    (h : settings.entries.lookup key = none) : settings.read key = .ok key.default := by
  simp [read, readWithin, h]

/-- An option that was just set has the value that its type made of it, unless that is a text with
placeholders. -/
theorem read_set {settings settings' : Settings} {key : OptionKey} {v v' : Json}
    (h : settings.set key v = .ok settings') (hv : key.type.accept v = .ok v')
    (hp : ∀ s, v' = .text s → '$' ∉ s.toList) : settings'.read key = .ok v' := by
  simp only [set, hv, bind, Except.bind, pure, Except.pure, Except.ok.injEq] at h
  subst h
  cases v' with
  | text s => simp [read, readWithin, fill_of_notMem _ _ _ (hp s rfl), Except.map]
  | _ => simp [read, readWithin]

end Settings

end ServerPower
