import ServerPower.Client.Basic
import ServerPower.Explain
import ServerPower.Settings
import ServerPower.Text.Basic

/-!
# The client of the settings

A client is made for the manager's address as it stands in the settings, of which a base URL is
made. A secure connection needs the certificate that the manager's own is checked with; an insecure
one has to be allowed, and then the certificate does not count.
-/

namespace ServerPower

namespace Client

/-- The text of an address: the blanks around it do not count, and no address is an empty one. -/
def addressText (address : Json) : Except Failure String :=
  match address with
  | .text s => .ok (Text.trim s)
  | v =>
    if v.isGiven then
      .error ⟨.missingOperation, "'" ++ v.typeName ++ "' object has no attribute 'strip'"⟩
    else .ok ""

def hasScheme : List Char → Bool
  | [] => false
  | c :: rest => [':', '/', '/'].isPrefixOf (c :: rest) || hasScheme rest

/-- The base URL of an address that is not empty: over a secure connection unless the address has a
scheme, and without slashes at the end. -/
def baseOf (address : String) : String :=
  let cs := address.toList
  let cs := if hasScheme cs then cs else "https://".toList ++ cs
  String.ofList (cs.reverse.dropWhile (· == '/')).reverse

def managerUrl (strict : Bool) (address : Json) : Report String := do
  let text ← Report.ofExcept (addressText address)
  if text == "" then
    Failure.raise strict .invalidParameter
      [("err", .text "OneView manager URL is missing, set [oneview]manager_url.")]
  return baseOf text

example : (managerUrl false (.text " ov.example// ")).outcome.toOption =
    some "https://ov.example" := by decide +kernel

/-- A client for the manager at `address`. A token that is not given is not sent. -/
def create (strict : Bool) (address token version verify timeout : Json) : Report Client := do
  let baseUrl ← managerUrl strict address
  return { baseUrl, authToken := if token.isGiven then some token else none,
           apiVersion := version.display, verify, timeout }

/-- What connections are checked with: the certificate to trust, or `false` for no check. -/
def verification (strict : Bool) (insecure certificate : Json) : Report Json :=
  if insecure.isGiven then do
    if certificate.isGiven then
      Report.log .warning
        ("Performing an insecure connection with OneView, the CA certificate file: " ++
          certificate.display ++ " will be ignored.")
    return .bool false
  else if certificate.isGiven then return certificate
  else
    Failure.raise strict .manager
      [("error", .text "TLS CA certificate to connect with OneView is missing.")]

def ofSettings (settings : Settings) : Report Client := do
  let strict := settings.strict
  let insecure ← settings.demand .insecure
  let certificate ← settings.demand .certificate
  let verify ← verification strict insecure certificate
  let address ← settings.demand .managerUrl
  let token ← settings.demand .authToken
  let version ← settings.demand .apiVersion
  let timeout ← settings.demand .requestTimeout
  create strict address token version verify timeout

end Client

end ServerPower
