import BranchCompare.Url.Host

/-!
# URLs

A URL in five parts.  Splitting takes any text apart from one with a bad authority; joining writes
the marks of the parts that are not empty.  Control characters and spaces before a URL, and tabs and
line breaks inside of it, are no part of it.
-/

namespace BranchCompare

/-- The five parts of a URL. -/
structure Url where
  scheme : String
  authority : String
  path : String
  query : String
  fragment : String
  deriving DecidableEq, Repr

namespace Url

open BranchCompare.Text

/-- Control characters and the space, which may stand before a URL. -/
def isLeading (c : Char) : Bool := c.toNat ≤ 0x20

/-- The characters that are left out wherever they stand. -/
def isDropped (c : Char) : Bool := c == '\t' || c == '\n' || c == '\r'

/-- The text of a URL without the characters that do not count. -/
def clean (text : List Char) : List Char :=
  (text.dropWhile isLeading).filter fun c => !isDropped c

def isSchemeChar (c : Char) : Bool := c.isAlphanum || c == '+' || c == '-' || c == '.'

/-- The scheme in lower case, and the text after its colon.  Without a scheme the text is left. -/
def splitScheme (text : List Char) : List Char × List Char :=
  match cutAt (· == ':') text with
  | (c :: scheme, some rest) =>
    if c.isAlpha && scheme.all isSchemeChar then ((c :: scheme).map Char.toLower, rest)
    else ([], text)
  | _ => ([], text)

def endsAuthority (c : Char) : Bool := c == '/' || c == '?' || c == '#'

/-- The authority after two slashes, and the text after it. -/
def splitAuthority (text : List Char) : List Char × List Char :=
  match text with
  | '/' :: '/' :: rest =>
    (rest.takeWhile fun c => !endsAuthority c, rest.dropWhile fun c => !endsAuthority c)
  | _ => ([], text)

/-- The parts of a URL. -/
def split (text : String) : Except Fault Url := do
  let (scheme, rest) := splitScheme (clean text.toList)
  let (authority, rest) := splitAuthority rest
  checkAuthority authority
  let (rest, fragment) := cutAt (· == '#') rest
  let (path, query) := cutAt (· == '?') rest
  return {
    scheme := String.ofList scheme
    authority := String.ofList authority
    path := String.ofList path
    query := String.ofList (query.getD [])
    fragment := String.ofList (fragment.getD []) }

/-- The schemes whose URLs have an authority, though it may be empty. -/
def authoritySchemes : List String :=
  ["ftp", "http", "gopher", "nntp", "telnet", "imap", "wais", "file", "mms", "https", "shttp",
    "snews", "prospero", "rtsp", "rtspu", "rsync", "svn", "svn+ssh", "sftp", "nfs", "git",
    "git+ssh", "ws", "wss"]

/-- The two slashes of an authority are written. -/
def hasSlashes (url : Url) : Bool :=
  !url.authority.isEmpty ||
    (authoritySchemes.contains url.scheme && url.path.toList.take 2 != ['/', '/'])

def marked (mark : Char) (part : String) : List Char :=
  if part.isEmpty then [] else mark :: part.toList

/-- The path, with a slash in front where an authority is before it. -/
def rootedPath (path : List Char) : List Char :=
  match path with
  | [] => []
  | '/' :: _ => path
  | _ => '/' :: path

/-- The text of a URL. -/
def join (url : Url) : String :=
  let scheme := if url.scheme.isEmpty then [] else url.scheme.toList ++ [':']
  let place :=
    if url.hasSlashes then '/' :: '/' :: url.authority.toList ++ rootedPath url.path.toList
    else url.path.toList
  String.ofList (scheme ++ place ++ marked '?' url.query ++ marked '#' url.fragment)

end Url

end BranchCompare
