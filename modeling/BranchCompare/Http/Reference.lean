import BranchCompare.Url

/-!
# References

The URL that a reference stands for on a page with another URL: parts that the reference does not
have are those of the page, and a path without a root begins in the directory of the page.
-/

namespace BranchCompare.Http.Reference

open BranchCompare.Text

/-- The schemes in which a reference may leave out parts. -/
def relativeSchemes : List String :=
  ["", "ftp", "http", "gopher", "nntp", "imap", "wais", "file", "https", "shttp", "mms",
    "prospero", "rtsp", "rtspu", "sftp", "svn", "svn+ssh", "ws", "wss"]

/-- The schemes in which the last segment of a path may have parameters. -/
def parameterSchemes : List String :=
  ["", "ftp", "hdl", "prospero", "http", "imap", "https", "shttp", "rtsp", "rtspu", "sip",
    "sips", "mms", "sftp", "tel"]

/-- A path, and the parameters after the first semicolon of its last segment. -/
def splitParameters (scheme : String) (path : List Char) : List Char × List Char :=
  if parameterSchemes.contains scheme then
    let segments := pieces '/' path
    let (last, parameters) := cutAt (· == ';') (segments.getLast?.getD [])
    match parameters with
    | some parameters => (join '/' (segments.dropLast ++ [last]), parameters)
    | none => (path, [])
  else (path, [])

def withParameters (path parameters : List Char) : String :=
  String.ofList (if parameters.isEmpty then path else path ++ ';' :: parameters)

/-- Takes the steps to the same and to the upper directory; `taken` holds the segments so far, the
last one first. -/
def takeSteps (taken : List (List Char)) : List (List Char) → List (List Char)
  | [] => taken.reverse
  | segment :: rest =>
    if segment = ['.', '.'] then takeSteps (taken.drop 1) rest
    else if segment = ['.'] then takeSteps taken rest
    else takeSteps (segment :: taken) rest

/-- The segments without the empty ones between the first and the last. -/
def dropInnerEmpty (segments : List (List Char)) : List (List Char) :=
  match segments with
  | [] => []
  | [segment] => [segment]
  | first :: rest =>
    first :: (rest.dropLast.filter fun segment => !segment.isEmpty) ++
      (rest.getLast?.map fun last => [last]).getD []

/-- The path that a path of a reference stands for on a page with the given path. -/
def resolvePath (page reference : List Char) : List Char :=
  let directory := pieces '/' page
  let directory := if directory.getLast? = some [] then directory else directory.dropLast
  let segments := match reference with
    | '/' :: _ => pieces '/' reference
    | _ => dropInnerEmpty (directory ++ pieces '/' reference)
  let last := segments.getLast?.getD []
  let taken := takeSteps [] segments
  let path := join '/' (if last = ['.'] ∨ last = ['.', '.'] then taken ++ [[]] else taken)
  if path.isEmpty then ['/'] else path

/-- The URL that a reference stands for on a page. -/
def resolve (page reference : String) : Except Url.Fault String := do
  if page = "" then return reference
  if reference = "" then return page
  let base ← Url.split page
  let target ← Url.split reference
  let scheme := if target.scheme = "" then base.scheme else target.scheme
  if scheme ≠ base.scheme ∨ ¬ relativeSchemes.contains scheme then return reference
  let target := { target with scheme := scheme }
  let hasAuthority := scheme = "" || Url.authoritySchemes.contains scheme
  let (path, parameters) := splitParameters scheme target.path.toList
  if hasAuthority ∧ target.authority ≠ "" then
    return Url.join { target with path := withParameters path parameters }
  let authority := if hasAuthority then base.authority else target.authority
  let (basePath, baseParameters) := splitParameters scheme base.path.toList
  if path.isEmpty ∧ parameters.isEmpty then
    return Url.join { target with
      authority := authority
      path := withParameters basePath baseParameters
      query := if target.query = "" then base.query else target.query }
  return Url.join { target with
    authority := authority
    path := withParameters (resolvePath basePath path) parameters }

end BranchCompare.Http.Reference
