import ServerPower.RemoteTask

/-!
# Server hardware

Server hardware as the manager describes it. The manager may send any value in any field; a value
that is not given becomes the empty text.
-/

namespace ServerPower

structure Hardware where
  uri : Json
  name : Json
  serial : Json
  power : Json
  deriving DecidableEq

namespace Hardware

/-- A value, or the empty text in place of one that is not given. -/
def orEmpty (v : Json) : Json :=
  if v.isGiven then v else .text ""

def ofJson : Json → Except Failure Hardware
  | .object members =>
    let field key := orEmpty (Json.member members key)
    .ok ⟨field "uri", field "name", field "serialNumber", field "powerState"⟩
  | v => .error (RemoteTask.notAnObject v)

/-- The address under which the power of the hardware is changed. -/
def powerUri (hardware : Hardware) : Except Failure String :=
  match hardware.uri with
  | .text s => .ok (s ++ "/powerState")
  | .list _ => .error ⟨.wrongType, "can only concatenate list (not \"str\") to list"⟩
  | v =>
    .error ⟨.wrongType, "unsupported operand type(s) for +: '" ++ v.typeName ++ "' and 'str'"⟩

def classify (hardware : Hardware) : Report PowerState :=
  PowerState.classify hardware.power hardware.name

def describe (hardware : Hardware) : String :=
  "<ServerHardware uri=" ++ hardware.uri.literal ++ " name=" ++ hardware.name.literal ++
    " powerState=" ++ hardware.power.literal ++ ">"

end Hardware

end ServerPower
