import ServerPower.Failure
import ServerPower.Text.Quoted

/-!
# Places

The directories and files that are there where the tool runs. What a command line may name depends
on them. A file is looked for by the names that are left of its path once the steps back are taken;
a directory is looked for by walking along its path.
-/

namespace ServerPower.CommandLine

inductive Place where
  | directory
  | blankFile
  /-- A file that is not written the way configuration files are. -/
  | foreignFile
  deriving DecidableEq, Repr

inductive Obstacle where
  | missing
  | file
  | longName
  deriving DecidableEq, Repr

/-- What is there, by the names on the way from the root, and the directory of the user, where the
tool is run. -/
structure Places where
  entries : List (List String × Place)
  user : String
  home : String
  deriving DecidableEq, Repr

namespace Places

def usualDirectories : List (List String) :=
  [["bin"], ["boot"], ["dev"], ["dev", "fd"], ["dev", "pts"], ["dev", "shm"], ["etc"],
    ["etc", "default"], ["etc", "ssl"], ["etc", "ssl", "certs"], ["home"], ["lib"], ["lib64"],
    ["media"], ["mnt"], ["opt"], ["proc"], ["proc", "self"], ["root"], ["run"], ["run", "lock"],
    ["sbin"], ["srv"], ["sys"], ["tmp"], ["usr"], ["usr", "bin"], ["usr", "include"],
    ["usr", "lib"], ["usr", "local"], ["usr", "local", "bin"], ["usr", "local", "lib"],
    ["usr", "sbin"], ["usr", "share"], ["usr", "src"], ["var"], ["var", "cache"], ["var", "lib"],
    ["var", "lock"], ["var", "log"], ["var", "mail"], ["var", "opt"], ["var", "run"],
    ["var", "spool"], ["var", "tmp"]]

/-- The files in `/etc` to be found nearly everywhere, none of them a configuration file of this
program. -/
def usualFiles : List String :=
  ["debconf.conf", "debian_version", "group", "host.conf", "hostname", "hosts", "issue",
    "ld.so.conf", "nsswitch.conf", "os-release", "pam.conf", "passwd", "profile", "resolv.conf",
    "shells"]

def usual : Places where
  entries := (["dev", "null"], .blankFile) :: usualDirectories.map (·, .directory) ++
    usualFiles.map (["etc", ·], .foreignFile)
  user := "root"
  home := "/root"

def place? (places : Places) (names : List String) : Option Place :=
  if names.isEmpty then some .directory else places.entries.lookup names

/-- The names in a path from the root on. A tilde stands for the directory of the user. -/
def names (places : Places) (path : String) : List String :=
  let path := match path.toList with
    | '/' :: rest => rest
    | '~' :: rest =>
      let (user, behind) := rest.span (· != '/')
      if user.isEmpty || String.ofList user == places.user then places.home.toList ++ behind
      else places.home.toList ++ '/' :: '~' :: rest
    | path => places.home.toList ++ '/' :: path
  (path.splitOn '/').map String.ofList

/-- Takes one more name, which may be a step back, onto the way from the root. -/
def push (way : List String) (name : String) : List String :=
  if name == "" || name == "." then way
  else if name == ".." then way.dropLast
  else way ++ [name]

/-- Where a walk along names leads, beginning at `here`. Only directories can be left. -/
def walk (places : Places) (here : List String) :
    List String → Except Obstacle (List String × Place)
  | [] =>
    match places.place? here with
    | some place => .ok (here, place)
    | none => .error .missing
  | name :: rest =>
    match places.place? here with
    | none => .error .missing
    | some .directory =>
      if 255 < name.utf8ByteSize then .error .longName else walk places (push here name) rest
    | some _ => .error .file

/-- The names left of the path of a file once the steps back are taken. -/
def namesOfFile (places : Places) (path : String) : List String :=
  (places.names path).foldl push []

/-- Whether a name holds the character that no name can hold. -/
def isBroken (name : String) : Bool := name.toList.contains '\x00'

/-- Checks that options can be read from a file, or that the file is not there. -/
def checkFile (places : Places) (path : String) : Except Failure Unit :=
  let names := places.namesOfFile path
  let refused (kind : FailureKind) (reason : String) : Except Failure Unit :=
    .error ⟨kind, reason ++ ": " ++ Text.quote path⟩
  if names.any isBroken then .error ⟨.wrongValue, "embedded null byte"⟩
  else match places.walk [] names with
    | .ok (_, .blankFile) | .error .missing => .ok ()
    | .ok (_, .directory) => refused .directoryAsFile "[Errno 21] Is a directory"
    | .ok (_, .foreignFile) => refused .foreignFile "Failed to parse"
    | .error .file => refused .fileAsDirectory "[Errno 20] Not a directory"
    | .error .longName => refused .system "[Errno 36] File name too long"

def checkFiles (places : Places) (paths : List String) : Except Failure Unit :=
  match paths.filter fun path =>
    places.walk [] (places.namesOfFile path) matches .error .missing with
  | [] => .ok ()
  | missing =>
    .error ⟨.missingFiles,
      "Failed to find some config files: " ++ String.intercalate "," missing⟩

/-- Checks that a directory is there, and that options can be read from its configuration files. -/
def checkDirectory (places : Places) (path : String) : Except Failure Unit :=
  match places.walk [] (places.names path) with
  | .ok (here, _) =>
    let isForeign : List String × Place → Bool := fun (names, place) =>
      place == .foreignFile && names.dropLast == here && names.any (·.endsWith ".conf")
    if path.isEmpty || isBroken path then .error (missing path)
    else if places.entries.any isForeign then .error ⟨.foreignFile, "Failed to parse: " ++ path⟩
    else .ok ()
  | .error _ => .error (missing path)
where
  missing (path : String) : Failure :=
    ⟨.missingDirectory, "Failed to read config file directory: " ++ path⟩

example : usual.namesOfFile "/nowhere/../dev/./null" = ["dev", "null"] := by decide +kernel
example : (usual.walk [] (usual.names "/nowhere/../dev")).toOption = none := by decide +kernel
example : (usual.walk [] (usual.names "//dev/../tmp/")).toOption = some (["tmp"], .directory) := by
  decide +kernel

end Places

end ServerPower.CommandLine
