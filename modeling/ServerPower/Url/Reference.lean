import ServerPower.Failure
import ServerPower.Text.Basic
import ServerPower.Text.Quoted
import ServerPower.Url.Host

/-!
# URL references

A URL or a relative reference, taken apart and put together again. Which schemes have an authority,
parameters and relative references is a table.
-/

namespace ServerPower.Url

/-- The parts of a URL or of a relative reference. A part that is absent is empty. -/
structure Reference where
  scheme : List Char
  authority : List Char
  path : List Char
  params : List Char
  query : List Char
  fragment : List Char
  deriving DecidableEq, Repr

def relativeSchemes : List String :=
  ["", "ftp", "http", "gopher", "nntp", "imap", "wais", "file", "https", "shttp", "mms",
    "prospero", "rtsp", "rtspu", "sftp", "svn", "svn+ssh", "ws", "wss"]

def authoritySchemes : List String :=
  ["", "ftp", "http", "gopher", "nntp", "telnet", "imap", "wais", "file", "mms", "https", "shttp",
    "snews", "prospero", "rtsp", "rtspu", "rsync", "svn", "svn+ssh", "sftp", "nfs", "git",
    "git+ssh", "ws", "wss"]

/-- The schemes whose URLs have parameters after the last segment of the path. -/
def paramSchemes : List String :=
  ["", "ftp", "hdl", "prospero", "http", "imap", "https", "shttp", "rtsp", "rtspu", "sip", "sips",
    "mms", "sftp", "tel"]

def lists (table : List String) (scheme : List Char) : Bool :=
  table.contains (String.ofList scheme)

/-- Characters that stand for a delimiter of an authority once they are normalised. -/
def delimiterForms : List Nat :=
  [0x2047, 0x2048, 0x2049, 0x2100, 0x2101, 0x2105, 0x2106, 0x2A74, 0xFE13, 0xFE16, 0xFE55, 0xFE56,
    0xFE5F, 0xFE6B, 0xFF03, 0xFF0F, 0xFF1A, 0xFF1F, 0xFF20]

def isSchemeChar (c : Char) : Bool :=
  c.isAlphanum || c == '+' || c == '-' || c == '.'

/-- Splits a scheme off, in lower case: letters, digits and a few marks up to a colon, a letter
first. -/
def splitScheme (base s : List Char) : List Char × List Char :=
  let scheme := s.takeWhile (· != ':')
  match s.dropWhile (· != ':'), scheme with
  | ':' :: rest, first :: _ =>
    if first.isAlpha && scheme.all isSchemeChar then (scheme.map Char.toLower, rest) else (base, s)
  | _, _ => (base, s)

def splitParams (path : List Char) : List Char × List Char :=
  let segment := (path.reverse.takeWhile (· != '/')).reverse
  let directory := (path.reverse.dropWhile (· != '/')).reverse
  let (name, params) := Text.cut ';' segment
  (directory ++ name, params)

def misplacedBrackets : Failure := ⟨.wrongValue, "Invalid IPv6 URL"⟩

/-- The host of an authority, without the brackets around it. The host follows the last `@`; nothing
stands before its brackets, and nothing behind them but a colon and what follows it. -/
def bracketedHost (authority : List Char) : Except Failure (List Char) :=
  let address := (authority.reverse.takeWhile (· != '@')).reverse
  match address.span (· != '[') with
  | (_, []) => .ok (Text.cut ':' address).1
  | (_ :: _, _ :: _) => .error misplacedBrackets
  | ([], _ :: inside) =>
    let (host, rest) := Text.cut ']' inside
    if rest.isEmpty || rest.head? == some ':' then .ok host else .error misplacedBrackets

/-- Checks a host in brackets: it is an address, and not one of the fourth version. -/
def checkHost (host : List Char) : Except Failure Unit :=
  if host.head? == some 'v' then
    if isFuture host then .ok () else .error ⟨.wrongValue, "IPvFuture address is invalid"⟩
  else if isVersion4 host then .error ⟨.wrongValue, "An IPv4 address cannot be in brackets"⟩
  else if isVersion6 host then .ok ()
  else .error ⟨.wrongValue, Text.quote (String.ofList host) ++
    " does not appear to be an IPv4 or IPv6 address"⟩

/-- Checks an authority: brackets come in pairs around an address, and no character stands for a
delimiter. -/
def checkAuthority (authority : List Char) : Except Failure Unit := do
  if authority.contains '[' != authority.contains ']' then throw misplacedBrackets
  if authority.contains '[' then checkHost (← bracketedHost authority)
  if authority.any fun c => delimiterForms.contains c.toNat then
    throw ⟨.wrongValue, "netloc '" ++ String.ofList authority ++
      "' contains invalid characters under NFKC normalization"⟩

/-- Takes a reference apart. One without a scheme has that of the base. Controls and spaces before
it, and tabs and line ends within it, do not count. -/
def Reference.parse (base s : List Char) : Except Failure Reference := do
  let s := (s.dropWhile (·.toNat ≤ 0x20)).filter fun c => c != '\t' && c != '\r' && c != '\n'
  let (scheme, s) := splitScheme base s
  let (authority, s) :=
    match s with
    | '/' :: '/' :: rest => rest.span fun c => c != '/' && c != '?' && c != '#'
    | s => ([], s)
  checkAuthority authority
  let (s, fragment) := Text.cut '#' s
  let (path, query) := Text.cut '?' s
  let (path, params) := if lists paramSchemes scheme then splitParams path else (path, [])
  return ⟨scheme, authority, path, params, query, fragment⟩

def marked (mark : Char) (part : List Char) : List Char :=
  if part.isEmpty then [] else mark :: part

/-- Puts a reference together. Where the scheme wants an authority and there is none, two slashes
mark an empty one, unless the path begins with two slashes already. -/
def Reference.render (r : Reference) : List Char :=
  let path := r.path ++ marked ';' r.params
  let slashes := ['/', '/'].isPrefixOf path
  let wanted := !r.scheme.isEmpty && lists authoritySchemes r.scheme && !slashes
  let path :=
    if !r.authority.isEmpty || wanted then
      let slash := if path.isEmpty || path.head? == some '/' then [] else ['/']
      '/' :: '/' :: r.authority ++ slash ++ path
    else path
  let scheme := if r.scheme.isEmpty then [] else r.scheme ++ [':']
  scheme ++ path ++ marked '?' r.query ++ marked '#' r.fragment

end ServerPower.Url
