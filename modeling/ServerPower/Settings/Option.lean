import ServerPower.Failure
import ServerPower.Json.Basic
import ServerPower.Text.Basic

/-!
# Options

The options of the program: where they belong, what type they are of, and what is set where nothing
else is.
-/

namespace ServerPower

inductive OptionType where
  | text
  | flag
  | whole (least : Int)
  deriving DecidableEq, Repr

inductive OptionKey where
  | strictTemplates
  | managerUrl
  | authToken
  | apiVersion
  | insecure
  | certificate
  | requestTimeout
  | pollLimit
  | pollInterval
  | failOnTimeout
  deriving DecidableEq, Repr

namespace OptionKey

def all : List OptionKey :=
  [.strictTemplates, .managerUrl, .authToken, .apiVersion, .insecure, .certificate,
    .requestTimeout, .pollLimit, .pollInterval, .failOnTimeout]

def group : OptionKey → String
  | .strictTemplates => "errors"
  | _ => "oneview"

def name : OptionKey → String
  | .strictTemplates => "fatal_exception_format_errors"
  | .managerUrl => "manager_url"
  | .authToken => "auth_token"
  | .apiVersion => "api_version"
  | .insecure => "allow_insecure_connections"
  | .certificate => "tls_cacert_file"
  | .requestTimeout => "request_timeout"
  | .pollLimit => "power_poll_max_attempts"
  | .pollInterval => "power_poll_interval"
  | .failOnTimeout => "fail_on_timeout"

def type : OptionKey → OptionType
  | .strictTemplates | .insecure | .failOnTimeout => .flag
  | .managerUrl | .authToken | .certificate => .text
  | .apiVersion | .requestTimeout => .whole 1
  | .pollLimit | .pollInterval => .whole 0

def default : OptionKey → Json
  | .strictTemplates | .insecure | .failOnTimeout => .bool false
  | .managerUrl | .authToken | .certificate => .null
  | .apiVersion => .int 800
  | .requestTimeout => .int 60
  | .pollLimit => .int 36
  | .pollInterval => .int 10

def secret : OptionKey → Bool
  | .authToken => true
  | _ => false

def groups : List String := ["errors", "oneview"]

def find? (group name : String) : Option OptionKey :=
  all.find? fun key => key.group == group && key.name == name

def unknown (group name : String) : Failure :=
  ⟨.unknownOption, "no such option " ++ name ++ " in group [" ++ group ++ "]"⟩

def checkGroup (group : String) : Except Failure Unit :=
  if groups.contains group then .ok ()
  else .error ⟨.unknownGroup, "no such group [" ++ group ++ "]"⟩

def find (group name : String) : Except Failure OptionKey := do
  checkGroup group
  match find? group name with
  | some key => .ok key
  | none => .error (unknown group name)

end OptionKey

/-- An option of the program as a whole, which belongs to no group. -/
structure CommonOption where
  name : String
  value : Json := .null
  /-- The texts that it may be set to: any text, if none is listed. -/
  choices : List String := []

namespace CommonOption

/-- The options outside the groups that are there in any program. -/
def basic : List CommonOption :=
  [{ name := "config_source", value := .list [] },
    { name := "shell_completion", choices := ["bash", "zsh"] }]

def check (option : CommonOption) (v : Json) : Except Failure Json :=
  if v == .null || option.choices.isEmpty || option.choices.contains v.display then .ok v
  else .error ⟨.wrongValue, "Valid values are [" ++ String.intercalate ", " option.choices ++
    "], but found " ++ Text.quote v.display⟩

end CommonOption

namespace OptionType

def readFlag? (s : String) : Option Bool :=
  let word := s.map Char.toLower
  if ["true", "1", "on", "yes"].contains word then some true
  else if ["false", "0", "off", "no"].contains word then some false
  else none

/-- What is reported for a text that is not a whole number. No more than the first 200 characters of
its quotation are shown. -/
def notWhole (s : String) : Failure :=
  ⟨.wrongValue, "invalid literal for int() with base 10: " ++
    String.ofList ((Text.quote s).toList.take 200)⟩

def checkLeast (least n : Int) (v : Json) : Except Failure Json :=
  if n < least then
    .error ⟨.wrongValue, "Should be greater than or equal to " ++ toString least⟩
  else .ok v

/-- The value that an option of the type takes when `v` is set. Nothing, and blanks in place of a
whole number, unset it. -/
def accept : OptionType → Json → Except Failure Json
  | _, .null => .ok .null
  | .text, v => .ok (.text v.display)
  | .flag, .bool b => .ok (.bool b)
  | .flag, .text s =>
    match readFlag? s with
    | some b => .ok (.bool b)
    | none => .error ⟨.wrongValue, "Unexpected boolean value " ++ Text.quote s⟩
  | .flag, v =>
    .error ⟨.missingOperation, "'" ++ v.typeName ++ "' object has no attribute 'lower'"⟩
  | .whole least, .bool b => checkLeast least b.toInt (.bool b)
  | .whole least, .number (.int n) => checkLeast least n (.int n)
  | .whole least, .number (.float x) =>
    match x, x.truncate? with
    | _, some n => checkLeast least n (.int n)
    | .nan, none => .error ⟨.wrongValue, "cannot convert float NaN to integer"⟩
    | _, none => .error ⟨.overflow, "cannot convert float infinity to integer"⟩
  | .whole least, .text s =>
    if Text.trim s == "" then .ok .null
    else match Text.readInt? s with
      | some n => checkLeast least n (.int n)
      | none => .error (notWhole s)
  | .whole _, v =>
    .error ⟨.wrongType, "int() argument must be a string, a bytes-like object or a real number, " ++
      "not '" ++ v.typeName ++ "'"⟩

end OptionType

end ServerPower
