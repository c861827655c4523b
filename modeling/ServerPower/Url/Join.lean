import ServerPower.Url.Reference

/-!
# Joining references

A reference is resolved against a base URL: it keeps its own parts from the first one on that it
has, and takes the others from the base.
-/

namespace ServerPower.Url

/-- Resolves the segments `.` and `..`. Going up from the top has no effect. `done` holds the
segments so far, the last one first. -/
def resolveSegments : (done : List (List Char)) → List (List Char) → List (List Char)
  | done, [] => done.reverse
  | done, segment :: rest =>
    if segment == ['.', '.'] then resolveSegments done.tail rest
    else if segment == ['.'] then resolveSegments done rest
    else resolveSegments (segment :: done) rest

/-- Drops the empty segments between the first and the last. -/
def dropEmptyInner (segments : List (List Char)) : List (List Char) :=
  match segments with
  | [] => []
  | first :: rest =>
    match rest.getLast? with
    | none => [first]
    | some last => first :: rest.dropLast.filter (!·.isEmpty) ++ [last]

def resolvePath (base path : List Char) : List Char :=
  let segments :=
    if path.head? == some '/' then path.splitOn '/'
    else
      let directory := base.splitOn '/'
      let directory := if directory.getLast? == some [] then directory else directory.dropLast
      dropEmptyInner (directory ++ path.splitOn '/')
  let resolved := resolveSegments [] segments
  let resolved :=
    match segments.getLast? with
    | some ['.'] | some ['.', '.'] => resolved ++ [[]]
    | _ => resolved
  match ['/'].intercalate resolved with
  | [] => ['/']
  | joined => joined

def join (base uri : List Char) : Except Failure (List Char) := do
  if base.isEmpty then return uri
  if uri.isEmpty then return base
  let b ← Reference.parse [] base
  let r ← Reference.parse b.scheme uri
  if r.scheme != b.scheme || !lists relativeSchemes r.scheme then return uri
  if lists authoritySchemes r.scheme && !r.authority.isEmpty then return r.render
  let authority := if lists authoritySchemes r.scheme then b.authority else r.authority
  if r.path.isEmpty && r.params.isEmpty then
    let query := if r.query.isEmpty then b.query else r.query
    return { r with authority, path := b.path, params := b.params, query }.render
  return { r with authority, path := resolvePath b.path r.path }.render

end ServerPower.Url
