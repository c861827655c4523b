import ServerPower.Json.Writer
import ServerPower.Url.Join

/-!
# Clients

A client knows where the manager is and how to talk to it. It turns calls into requests; what comes
back is read elsewhere.
-/

namespace ServerPower

structure Request where
  method : String
  url : String
  data : Option String
  verify : Json
  timeout : Json
  deriving DecidableEq

structure Client where
  baseUrl : String
  authToken : Option Json
  apiVersion : String
  verify : Json
  timeout : Json
  deriving DecidableEq

namespace Client

def headers (client : Client) : List (String × Json) :=
  [("Content-Type", .text "application/json"), ("X-API-Version", .text client.apiVersion)] ++
    (client.authToken.map fun token => ("Auth", token)).toList

/-- The URL of a resource. A resource that is not given is the base itself. -/
def url (client : Client) (uri : Json) : Except Failure String := do
  let base := client.baseUrl.toList ++ ['/']
  match uri with
  | .text s => return String.ofList (← Url.join base s.toList)
  | v =>
    if v.isGiven then throw ⟨.wrongType, "Cannot mix str and non-str arguments"⟩
    return String.ofList base

/-- The request for a call. A body that is `null` is not sent. -/
def request (client : Client) (method : String) (uri body : Json) : Except Failure Request := do
  let url ← client.url uri
  let data := if body = .null then none else some body.encode
  return { method, url, data, verify := client.verify, timeout := client.timeout }

/-- Every request is checked and bounded as the client says. -/
theorem of_request_eq_ok {client : Client} {method : String} {uri body : Json} {request : Request}
    (h : client.request method uri body = .ok request) :
    request.method = method ∧ request.verify = client.verify ∧
      request.timeout = client.timeout := by
  unfold Client.request at h
  cases hu : client.url uri with
  | error failure => simp [hu, bind, Except.bind] at h
  | ok u =>
    simp only [hu, bind, Except.bind, pure, Except.pure, Except.ok.injEq] at h
    subst h
    exact ⟨rfl, rfl, rfl⟩

end Client

end ServerPower
