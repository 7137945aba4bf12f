import BranchCompare.Text.Encoding
import BranchCompare.Text.Quoted
import BranchCompare.Text.Split

/-!
# Documents

What stands under a path: nothing, a directory, or a file of octets.  A file is read as UTF-8, and
every end of line is read as a line feed.
-/

namespace BranchCompare

/-- What stands under a path. -/
inductive Document where
  | absent
  | directory
  | file (octets : List UInt8)
  deriving DecidableEq, Repr

/-- Why a document cannot be opened. -/
inductive AccessError where
  | absent
  | directory
  deriving DecidableEq, Repr

def AccessError.message (path : String) : AccessError → String
  | .absent => s!"[Errno 2] No such file or directory: {Text.quoted path}"
  | .directory => s!"[Errno 21] Is a directory: {Text.quoted path}"

namespace Document

def ofText (text : List Char) : Document := .file (Text.Utf8.encode text)

/-- The octets of a file. -/
def octets : Document → Except AccessError (List UInt8)
  | .absent => .error .absent
  | .directory => .error .directory
  | .file octets => .ok octets

/-- The text with every end of line as a line feed. -/
def unifyLines : List Char → List Char
  | [] => []
  | '\r' :: '\n' :: rest => '\n' :: unifyLines rest
  | c :: rest => (if c = '\r' then '\n' else c) :: unifyLines rest

/-- The text of octets, as documents are read. -/
def textOf (octets : List UInt8) : Except Text.DecodeFault (List Char) :=
  (Text.Encoding.utf8.decode 0 octets).map unifyLines

/-- The text of a file with U+FFFD for what is not UTF-8; nothing else has a text. -/
def shownText : Document → Option String
  | .file octets => some (String.ofList (Text.Utf8.decodeLossy octets))
  | _ => none

/-- Writes a text to a path: a file is made or replaced, a directory stays. -/
def write (text : List Char) : Document → Except AccessError Document
  | .directory => .error .directory
  | _ => .ok (ofText text)

end Document

/-- A path without its redundant parts: doubled slashes and single points. -/
def normalPath (path : String) : String :=
  let chars := path.toList
  let slashes := (chars.takeWhile (· == '/')).length
  let root := if slashes = 0 then [] else if slashes = 2 then ['/', '/'] else ['/']
  let parts := (Text.pieces '/' chars).filter fun part => !part.isEmpty && part != ['.']
  match root ++ Text.join '/' parts with
  | [] => "."
  | cs => String.ofList cs

end BranchCompare
