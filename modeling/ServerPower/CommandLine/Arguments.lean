import ServerPower.CommandLine.Places
import ServerPower.Json.Basic
import ServerPower.Text.Basic

/-!
# Arguments

The words of a command line: flags with their values, and plain words. A long flag may be shortened
as long as it stays unambiguous, its value may follow after an equals sign, and short flags may
share a dash.
-/

namespace ServerPower.CommandLine

inductive Usage where
  /-- Help was asked for. -/
  | help
  | mistake
  | notChosen
  | failed (failure : Failure)
  deriving DecidableEq, Repr

inductive Use where
  | help
  | toggle (on : Bool)
  | text
  | whole
  | file (places : Places)
  | directory (places : Places)
  deriving DecidableEq, Repr

def Use.hasValue : Use → Bool
  | .help | .toggle _ => false
  | _ => true

/-- A flag, with its dashes, under all its names, and the option that it sets. -/
structure Flag where
  name : String
  option : String
  use : Use
  aliases : List String := []
  deriving DecidableEq, Repr

def Flag.names (flag : Flag) : List String := flag.name :: flag.aliases

def findFlag? (flags : List Flag) (name : String) : Option Flag :=
  flags.find? (·.names.contains name)

inductive Attached where
  | none
  | long (value : String)
  /-- The value of a short flag or more short flags, perhaps after an equals sign. -/
  | short (value : String)
  deriving DecidableEq, Repr

inductive Role where
  | plain
  /-- Two dashes: all words after them are plain. -/
  | separator
  | flag (flag : Flag) (attached : Attached)
  | unknownFlag
  deriving DecidableEq, Repr

structure Word where
  text : String
  role : Role
  deriving DecidableEq, Repr

def splitValue (s : String) : String × Attached :=
  match s.toList.span (· != '=') with
  | (_, []) => (s, .none)
  | (name, _ :: value) =>
    let attached := if ['-', '-'].isPrefixOf name then Attached.long else .short
    (String.ofList name, attached (String.ofList value))

/-- Whether a word reads as a negative number, whole or with a point. One line break may follow. -/
def isNegativeNumber (s : String) : Bool :=
  let isDigit c := (Text.digitValue? c).isSome
  match s.toList with
  | '-' :: rest =>
    let rest := if rest.getLast? == some '\n' then rest.dropLast else rest
    let (whole, rest) := rest.span isDigit
    match rest with
    | [] => !whole.isEmpty
    | '.' :: part => !part.isEmpty && part.all isDigit
    | _ => false
  | _ => false

def candidates (flags : List Flag) (s : String) : List Role :=
  flags.flatMap fun flag => flag.names.filterMap fun name =>
    match s.toList with
    | '-' :: '-' :: _ =>
      let (start, attached) := splitValue s
      if start.toList.isPrefixOf name.toList then some (.flag flag attached) else none
    | dash :: letter :: rest =>
      if name.toList == [dash, letter] then some (.flag flag (.short (String.ofList rest)))
      else if s.toList.isPrefixOf name.toList then some (.flag flag .none)
      else none
    | _ => none

def roleOf (flags : List Flag) (s : String) : Except Usage Role :=
  if s.toList.head? != some '-' then .ok .plain
  else match findFlag? flags s with
  | some flag => .ok (.flag flag .none)
  | none =>
    if s == "-" then .ok .plain
    else
      let (name, attached) := splitValue s
      match findFlag? flags name with
      | some flag => .ok (.flag flag attached)
      | none =>
        match candidates flags s with
        | [role] => .ok role
        | _ :: _ :: _ => .error .mistake
        | [] =>
          if isNegativeNumber s || s.toList.contains ' ' then .ok .plain else .ok .unknownFlag

def readWords (flags : List Flag) : List String → Except Usage (List Word)
  | [] => .ok []
  | "--" :: rest => .ok (⟨"--", .separator⟩ :: rest.map (⟨·, .plain⟩))
  | s :: rest => return ⟨s, ← roleOf flags s⟩ :: (← readWords flags rest)

/-- What a command line sets, by option, what was set last first. -/
abbrev Values := List (String × Json)

/-- The texts that an option with more than one value has so far. -/
def Values.texts (values : Values) (option : String) : List String :=
  match values.lookup option with
  | some (.list vs) => vs.filterMap fun | .text s => some s | _ => none
  | _ => []

/-- The path that stands as the value of a flag. Two dashes are none. -/
def pathOfValue (value : String) : Except Failure String :=
  if value == "--" then .error ⟨.assumption, ""⟩ else .ok value

/-- Does what a flag stands for. Two dashes are no value: the option is set to nothing at all. -/
def apply (values : Values) (flag : Flag) (value : String) : Except Usage Values :=
  let set (v : Json) : Values := (flag.option, v) :: values
  match flag.use with
  | .help => .error .help
  | .toggle on => .ok (set (.bool on))
  | .text => .ok (set (if value == "--" then .list [] else .text value))
  | .whole =>
    if value == "--" then .ok (set (.list []))
    else match Text.readInt? value with
      | some n => .ok (set (.int n))
      | none => .error .mistake
  | .file places => do
    (pathOfValue value >>= places.checkFile).mapError .failed
    return set (.list ((values.texts flag.option ++ [value]).map .text))
  | .directory places => do
    (pathOfValue value >>= places.checkDirectory).mapError .failed
    return set (.list [.text value])

/-- What one word sets: flags without a value, then perhaps one with a value, which may be attached
to it. -/
structure Split where
  bare : List Flag := []
  last? : Option (Flag × Option String) := none

def Split.single (flag : Flag) (value? : Option String) : Split :=
  if flag.use.hasValue then { last? := some (flag, value?) } else { bare := [flag] }

def Split.prepend (flag : Flag) (split : Split) : Split :=
  { split with bare := flag :: split.bare }

/-- What a short flag sets together with the characters attached to it: its value, or further short
flags. -/
def splitShort (flags : List Flag) (flag : Flag) : List Char → Except Usage Split
  | [] => if flag.use.hasValue then .ok (.single flag (some "")) else .error .mistake
  | c :: rest =>
    if flag.use.hasValue then .ok (.single flag (some (String.ofList (c :: rest))))
    else match findFlag? flags (String.ofList ['-', c]), rest with
    | none, _ => .error .mistake
    | some next, [] => .ok (.prepend flag (.single next none))
    | some next, rest => (splitShort flags next rest).map (.prepend flag)

def splitFlag (flags : List Flag) (flag : Flag) : Attached → Except Usage Split
  | .none => .ok (.single flag none)
  | .long value =>
    if flag.use.hasValue then .ok (.single flag (some value)) else .error .mistake
  | .short value => splitShort flags flag value.toList

/-- What was read of a command line: the values set, the words that set nothing, and the words from
the first plain one on, if reading stops there. -/
structure Parsed where
  values : Values
  extras : List String
  rest : List String

/-- Reads the flags among words; `stop` says whether reading ends at the first plain word. -/
def parseWords (flags : List Flag) (stop : Bool) (values : Values) (extras : List String) :
    List Word → Except Usage Parsed
  | [] => .ok ⟨values, extras, []⟩
  | ⟨s, .unknownFlag⟩ :: words => parseWords flags stop values (extras ++ [s]) words
  | ⟨_, .flag flag attached⟩ :: words => do
    let split ← splitFlag flags flag attached
    let bare := split.bare.foldlM (apply · · "") values
    match split.last?, words with
    | none, words => parseWords flags stop (← bare) extras words
    | some (last, some value), words =>
      parseWords flags stop (← apply (← bare) last value) extras words
    | some (last, none), ⟨value, .plain⟩ :: words =>
      parseWords flags stop (← apply (← bare) last value) extras words
    | some (_, none), _ => .error .mistake
  | ⟨s, _⟩ :: words =>
    if stop then .ok ⟨values, extras, s :: words.map (·.text)⟩
    else parseWords flags stop values (extras ++ [s]) words

def parse (flags : List Flag) (stop : Bool) (argv : List String) : Except Usage Parsed := do
  parseWords flags stop [] [] (← readWords flags argv)

end ServerPower.CommandLine
