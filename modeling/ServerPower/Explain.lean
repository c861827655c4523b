import ServerPower.Report
import ServerPower.Template

/-!
# Explaining failures

Each kind of failure of this library has a template for its text. A template that cannot be filled
in from the values given is a mistake in the program: it is logged, and then either the bare
template serves as the text or, where the settings are strict, the mistake itself is the failure.
-/

namespace ServerPower

/-- The template that explains failures of a kind. Kinds from outside bring their own text. -/
def FailureKind.template : FailureKind → String
  | .general => "An unknown exception occurred."
  | .invalid => "Unacceptable parameters."
  | .invalidParameter => "%(err)s"
  | .missingHardware =>
    "Can not manage power of server hardware %(name)s: no server hardware URI is set."
  | .manager => "OneView exception occurred. Error: %(error)s"
  | .transport => "%(method)s request to %(uri)s failed. Error: %(error)s"
  | .decoding => "Unable to decode response from %(uri)s. Error: %(error)s"
  | .powerChange => "Failed to set server hardware power state to %(pstate)s. Error: %(error)s"
  | .powerTimeout =>
    "Timed out after %(attempts)s attempts waiting for server hardware %(name)s " ++
      "to reach power state %(pstate)s."
  | _ => ""

namespace Failure

def formatRecord (values : Template.Values) : Record :=
  let pairs := values.map fun (name, v) => name ++ "=" ++ v.display
  ⟨.error, .ok ("Exception in string format operation (arguments " ++
    ", ".intercalate pairs ++ ")")⟩

/-- The text of a failure: the message if one is given, else the template filled in. -/
def explain (strict : Bool) (template : String) (message : Json) (values : Template.Values) :
    Report String :=
  if message.isGiven then pure message.display
  else match Template.render template values with
    | .ok text => pure text
    | .error failure => ⟨if strict then .error failure else .ok template, [formatRecord values]⟩

/-- The names that no value of a failure can have: the failure and its message have them. -/
def reservedNames : List String := ["self", "message"]

def describe (strict : Bool) (template : String) (message : Json) (values : Template.Values) :
    Report String :=
  match values.find? (reservedNames.contains ·.1) with
  | none => explain strict template message values
  | some (name, _) =>
    Report.fail ⟨.wrongType,
      "BladePowerException.__init__() got multiple values for argument " ++ Text.quote name⟩

def build (strict : Bool) (kind : FailureKind) (values : Template.Values) : Report Failure := do
  return ⟨kind, ← explain strict kind.template .null values⟩

def raise {α : Type} (strict : Bool) (kind : FailureKind) (values : Template.Values) :
    Report α := do
  Report.fail (← build strict kind values)

/-- A template that can be filled in leaves no record, strict or not. -/
theorem explain_of_render {template text : String} {values : Template.Values}
    (h : Template.render template values = .ok text) (strict : Bool) :
    explain strict template .null values = pure text := by
  simp [explain, Json.isGiven, h]

end Failure

end ServerPower
