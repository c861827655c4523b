import ServerPower.Client.Basic
import ServerPower.Explain
import ServerPower.Hardware
import ServerPower.Json.Reader
import ServerPower.Text.Utf8

/-!
# Replies

What comes back for a request, and what the client reads out of it. A fault of the network and an
error status are failures of the transport; an answer that cannot be read is a failure of decoding.
-/

namespace ServerPower

inductive Reply where
  | answer (status : Int) (reason body : String)
  | fault (failure : Failure)
  deriving DecidableEq

namespace Reply

/-- The body of a reply to a request. The statuses from 400 to 599 are faults. -/
def body (url : String) : Reply → Except Failure String
  | .fault failure => .error failure
  | .answer status reason body =>
    let refused (side : String) :=
      .error ⟨.network .status, toString status ++ " " ++ side ++ " Error: " ++ reason ++
        " for url: " ++ url⟩
    if 400 ≤ status && status < 500 then refused "Client"
    else if 500 ≤ status && status < 600 then refused "Server"
    else .ok body

end Reply

/-- What is handed over to be decoded. -/
inductive Payload where
  | value (v : Json)
  | bytes (data : List UInt8)

def Payload.read : Payload → Except Failure Json
  | .value (.text s) => (Json.parse s).mapError (⟨.wrongValue, ·⟩)
  | .value v => .error ⟨.wrongType, "<class '" ++ v.typeName ++ "'> can't be decoded"⟩
  | .bytes data =>
    match Text.Utf8.decode data with
    | .ok s => (Json.parse s).mapError (⟨.wrongValue, ·⟩)
    | .error fault => .error ⟨.wrongValue, fault.message⟩

namespace Client

/-- The body that answers a call of `method` on `uri`. Faults of the network are explained. -/
def receive (strict : Bool) (method : String) (uri : Json) (url : String) (reply : Reply) :
    Report String :=
  match reply.body url with
  | .ok body => pure body
  | .error failure =>
    if failure.kind.isNetwork then
      Failure.raise strict .transport
        [("method", .text method), ("uri", uri), ("error", .text failure.text)]
    else Report.fail failure

def unreadable {α : Type} (strict : Bool) (uri : Json) (failure : Failure) : Report α :=
  Failure.raise strict .decoding [("uri", uri), ("error", .text failure.text)]

def decode (strict : Bool) (uri : Json) (payload : Payload) : Report Json :=
  match payload.read with
  | .ok v => pure v
  | .error failure => unreadable strict uri failure

def readHardware (strict : Bool) (uri : Json) (body : String) : Report Hardware := do
  match Hardware.ofJson (← decode strict uri (.value (.text body))) with
  | .ok hardware => return hardware
  | .error failure => unreadable strict uri failure

def readTask (strict : Bool) (uri : Json) (body : String) (task : RemoteTask) :
    Report RemoteTask := do
  match task.update (← decode strict uri (.value (.text body))) with
  | .ok task => return task
  | .error failure => unreadable strict uri failure

end Client

end ServerPower
