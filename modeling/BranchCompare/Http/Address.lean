import BranchCompare.Decimal.Reader
import BranchCompare.Form
import BranchCompare.Http.HostName
import BranchCompare.Url.Host

/-!
# Addresses of requests

The address that a request is sent to, in a normal form: the scheme and the host are in lower case,
a host name is in ASCII, the port of the scheme is left out, steps to the same and to the upper
directory are taken, and characters that may not stand in a part are escaped.  An escape that is
there already stays.
-/

namespace BranchCompare.Http

open BranchCompare.Text

/-- An address in its parts.  An address without a scheme or a host is a relative one. -/
structure Address where
  scheme : String
  userInfo : String
  host : String
  port : Option Int
  path : String
  query : Option String
  fragment : Option String
  deriving DecidableEq, Repr

inductive AddressFault where
  | tooLong
  /-- A control character in a text or in a part that was given for itself. -/
  | unprintable (place : String) (c : Char) (index : Nat)
  | badPort (port : String)
  | badHost4 (host : String)
  | badHost6 (host : String)
  | badHostName (host : String)
  /-- A path after a host does not begin with a slash. -/
  | pathWithoutRoot
  /-- A path begins with two slashes and has no host before it. -/
  | pathWithTwoSlashes
  /-- A path begins with a colon and has no host before it. -/
  | pathWithColon
  deriving DecidableEq, Repr

/-- The fault in words. -/
def AddressFault.message : AddressFault → String
  | .tooLong => "URL too long"
  | .unprintable place c index =>
    s!"Invalid non-printable ASCII character in {place}, {quoted (String.ofList [c])} " ++
      s!"at position {index}."
  | .badPort port => s!"Invalid port: {quoted port}"
  | .badHost4 host => s!"Invalid IPv4 address: {quoted host}"
  | .badHost6 host => s!"Invalid IPv6 address: {quoted host}"
  | .badHostName host => s!"Invalid IDNA hostname: {quoted host}"
  | .pathWithoutRoot => "For absolute URLs, path must be empty or begin with '/'"
  | .pathWithTwoSlashes => "Relative URLs cannot have a path starting with '//'"
  | .pathWithColon => "Relative URLs cannot have a path starting with ':'"

namespace Address

/-! ## Escapes -/

/-- The characters of a part that are not escaped: the visible ASCII characters but these. -/
def isSafe (unsafeChars : List Char) (c : Char) : Bool :=
  0x20 < c.toNat && c.toNat < 0x7F && !unsafeChars.contains c

def unsafeInQuery : List Char := ['"', '#', '<', '>']

def unsafeInFragment : List Char := ['"', '<', '>', '\x60']

def unsafeInPath : List Char := unsafeInQuery ++ ['?', '\x60', '\x7b', '\x7d']

def unsafeInUserInfo : List Char :=
  unsafeInPath ++ ['/', ';', '=', '@', '[', '\\', ']', '^', '|']

def unsafeInHost : List Char := ['#', '/', ':', '<', '>', '?', '@', '[', ']', '^']

/-- Whether a percent sign before this text begins an escape. -/
def beginsEscape : List Char → Bool
  | a :: b :: _ => (Json.hexDigit? a).isSome && (Json.hexDigit? b).isSome
  | _ => false

/-- Escapes the characters that are not safe; `skip` characters belong to an escape that is there
already. -/
def escapeFrom (safe : Char → Bool) : (skip : Nat) → List Char → List Char
  | _, [] => []
  | skip + 1, c :: rest => c :: escapeFrom safe skip rest
  | 0, c :: rest =>
    if c = '%' ∧ beginsEscape rest then c :: escapeFrom safe 2 rest
    else if safe c then c :: escapeFrom safe 0 rest
    else (Utf8.encodeChar c).flatMap Form.escapeOctet ++ escapeFrom safe 0 rest

def escape (unsafeChars cs : List Char) : List Char := escapeFrom (isSafe unsafeChars) 0 cs

/-! ## Parts -/

/-- A text in its raw parts; a part that is not there is not empty but missing. -/
structure Raw where
  scheme : List Char
  authority : List Char
  path : List Char
  query : Option (List Char)
  fragment : Option (List Char)

/-- The characters of a scheme after the first. -/
def isSchemeChar (c : Char) : Bool := c.isAlphanum || c == '+' || c == '.' || c == '-'

/-- The scheme before a colon, and the text after it.  A colon at the front ends an empty scheme. -/
def splitScheme (cs : List Char) : List Char × List Char :=
  match cutAt (· == ':') cs with
  | ([], some rest) => ([], rest)
  | (c :: scheme, some rest) =>
    if c.isAlpha && scheme.all isSchemeChar then (c :: scheme, rest) else ([], cs)
  | _ => ([], cs)

/-- The raw parts of a text. -/
def Raw.ofText (cs : List Char) : Raw :=
  let (scheme, rest) := splitScheme cs
  let (rest, fragment) := cutAt (· == '#') rest
  let (rest, query) := cutAt (· == '?') rest
  match rest with
  | '/' :: '/' :: more =>
    ⟨scheme, more.takeWhile (· != '/'), more.dropWhile (· != '/'), query, fragment⟩
  | _ => ⟨scheme, [], rest, query, fragment⟩

/-- What stands before the last character of the kind, if there is one, and what stands after it. -/
def cutAtLast (c : Char) (cs : List Char) : Option (List Char) × List Char :=
  match cutAt (· == c) cs.reverse with
  | (after, some before) => (some before.reverse, after.reverse)
  | (_, none) => (none, cs)

/-- The user information, the host and the port of an authority.  A host in brackets reaches to the
last closing one. -/
def splitAuthority (cs : List Char) : List Char × List Char × List Char :=
  let (userInfo, rest) := cutAtLast '@' cs
  let (host, rest) := match rest, cutAtLast ']' rest with
    | '[' :: _, (some inside, after) => (inside ++ [']'], after)
    | _, _ => (rest.takeWhile (· != ':'), rest.dropWhile (· != ':'))
  let port := match rest with
    | ':' :: port => port
    | port => port
  (userInfo.getD [], host, port)

/-- Whether a host has the looks of four numbers. -/
def looksNumeric (host : List Char) : Bool :=
  let parts := pieces '.' host
  parts.length == 4 && parts.all fun part => !part.isEmpty && part.all Char.isDigit

/-- The normal form of a host. -/
def normalHost (host : List Char) : Except AddressFault (List Char) :=
  if host.isEmpty then .ok []
  else if looksNumeric host then
    if Url.isAddress4 host then .ok host else .error (.badHost4 (String.ofList host))
  else if host.head? == some '[' && host.getLast? == some ']' then
    let inside := (host.drop 1).dropLast
    if Url.isAddress6 inside then .ok inside else .error (.badHost6 (String.ofList host))
  else if host.all isAscii then .ok (escape unsafeInHost (host.map Char.toLower))
  else (HostName.encode host).mapError fun _ => .badHostName (String.ofList host)

/-- The port that a scheme has by itself. -/
def standardPort? (scheme : String) : Option Int :=
  match scheme with
  | "ftp" => some 21
  | "http" | "ws" => some 80
  | "https" | "wss" => some 443
  | _ => none

/-- The port of an address, left out if it is that of the scheme, which is looked up as it is
written. -/
def normalPort (scheme : String) (port : List Char) : Except AddressFault (Option Int) :=
  if port.isEmpty then .ok none
  else
    match Decimal.readInt? (String.ofList port) with
    | some number => .ok (if standardPort? scheme = some number then none else some number)
    | none => .error (.badPort (String.ofList port))

/-- Takes the steps to the same and to the upper directory.  `taken` holds the segments so far, the
last one first. -/
def takeSteps (taken : List (List Char)) : List (List Char) → List (List Char)
  | [] => taken.reverse
  | segment :: rest =>
    if segment = ['.'] then takeSteps taken rest
    else if segment = ['.', '.'] then takeSteps (if taken = [[]] then taken else taken.drop 1) rest
    else takeSteps (segment :: taken) rest

def normalPath (path : List Char) : List Char := join '/' (takeSteps [] (pieces '/' path))

/-- Checks where a path may begin. -/
def checkPath (hasScheme hasAuthority : Bool) (path : List Char) : Except AddressFault Unit := do
  if hasAuthority && !path.isEmpty && path.head? != some '/' then throw .pathWithoutRoot
  if !hasScheme && !hasAuthority then
    if path.take 2 = ['/', '/'] then throw .pathWithTwoSlashes
    if path.head? = some ':' then throw .pathWithColon

def mostChars : Nat := 65536

/-- A text holds no control character and is not too long. -/
def checkText (place : String) (cs : List Char) : Except AddressFault Unit := do
  if mostChars < cs.length then throw .tooLong
  let isControl (c : Char) : Bool := c.toNat < 0x20 || c.toNat = 0x7F
  match cs.findIdx? isControl, cs.find? isControl with
  | some index, some c => throw (.unprintable place c index)
  | _, _ => return ()

/-- The address of raw parts, with the given parts of the authority. -/
def ofParts (raw : Raw) (userInfo host port : List Char) : Except AddressFault Address := do
  let scheme := String.ofList (raw.scheme.map Char.toLower)
  let userInfo := escape unsafeInUserInfo userInfo
  let host ← normalHost host
  let port ← normalPort (String.ofList raw.scheme) port
  let hasScheme := scheme ≠ ""
  let hasAuthority := !userInfo.isEmpty || !host.isEmpty || port.isSome
  checkPath hasScheme hasAuthority raw.path
  let path := if hasScheme || hasAuthority then normalPath raw.path else raw.path
  return {
    scheme := scheme
    userInfo := String.ofList userInfo
    host := String.ofList host
    port := port
    path := String.ofList (escape unsafeInPath path)
    query := raw.query.map fun query => String.ofList (escape unsafeInQuery query)
    fragment := raw.fragment.map fun part => String.ofList (escape unsafeInFragment part) }

def ofRaw (raw : Raw) : Except AddressFault Address :=
  let (userInfo, host, port) := splitAuthority raw.authority
  ofParts raw userInfo host port

def ofText (text : String) : Except AddressFault Address := do
  checkText "URL" text.toList
  ofRaw (Raw.ofText text.toList)

/-! ## Texts -/

def place (address : Address) : String :=
  let host := if address.host.toList.contains ':' then "[" ++ address.host ++ "]" else address.host
  host ++ ((address.port.map fun port => s!":{port}").getD "")

def authority (address : Address) : String :=
  (if address.userInfo = "" then "" else address.userInfo ++ "@") ++ address.place

def target (address : Address) : String :=
  (if address.path = "" then "/" else address.path) ++
    ((address.query.map fun query => "?" ++ query).getD "")

/-- The text of an address. -/
def text (address : Address) : String :=
  let authority := address.authority
  (if address.scheme = "" then "" else address.scheme ++ ":") ++
    (if authority = "" then "" else "//" ++ authority) ++ address.path ++
    ((address.query.map fun query => "?" ++ query).getD "") ++
    ((address.fragment.map fun part => "#" ++ part).getD "")

def toRaw (address : Address) : Raw :=
  ⟨address.scheme.toList, address.authority.toList, address.path.toList,
    address.query.map (·.toList), address.fragment.map (·.toList)⟩

/-- The host as it is read, which is no longer in ASCII where its first label is an ASCII form. -/
def readableHost (address : Address) : Except HostName.Fault String :=
  let host := address.host.toList
  if HostName.formMark.isPrefixOf host then (HostName.decode host).map String.ofList
  else .ok address.host

def readableFragment (address : Address) : String :=
  String.ofList (Form.unescape ((address.fragment.getD "").toList))

/-! ## Changes -/

/-- Checks parts that are given one by one: each may be as long as a text. -/
def checkParts (raw : Raw) : Except AddressFault Unit := do
  checkText "URL authority component" raw.authority
  checkText "URL path component" raw.path
  checkText "URL query component" (raw.query.getD [])
  checkText "URL fragment component" (raw.fragment.getD [])

def rebuild (raw : Raw) : Except AddressFault Address := do
  checkParts raw
  ofRaw raw

def withTarget (address : Address) (target : String) : Except AddressFault Address :=
  let (path, query) := cutAt (· == '?') target.toList
  rebuild { address.toRaw with path := path, query := query }

def withParams (address : Address) (params : List Form.Pair) : Except AddressFault Address :=
  rebuild { address.toRaw with query := some (Form.encode params) }

/-- The address with another fragment, which is not escaped yet. -/
def withFragment (address : Address) (part : String) : Except AddressFault Address :=
  rebuild { address.toRaw with fragment := some part.toList }

/-- The address with another host. -/
def withHost (address : Address) (host : String) : Except AddressFault Address := do
  let raw := address.toRaw
  checkParts raw
  let (userInfo, _, port) := splitAuthority raw.authority
  ofParts raw userInfo (if host.toList.contains ':' then "[" ++ host ++ "]" else host).toList port

def withSlash (address : Address) : Except AddressFault Address :=
  if address.target.endsWith "/" then .ok address else address.withTarget (address.target ++ "/")

def isAbsolute (address : Address) : Bool := address.scheme ≠ "" && address.host ≠ ""

/-- The port, also where it is that of the scheme. -/
def effectivePort (address : Address) : Option Int :=
  address.port.or (match address.scheme with
    | "http" => some 80
    | "https" => some 443
    | _ => none)

/-- How an address lies to another one. -/
inductive Neighbourhood where
  /-- The two have the same scheme, host and port. -/
  | sameOrigin
  /-- The second is the first of the secure scheme at the host of the first. -/
  | secured
  | foreign
  deriving DecidableEq, Repr

/-- How the second address lies to the first one.  Hosts are compared as they are read; of two that
cannot be read, that of the second address is told if the schemes are the same, and otherwise that
of the first. -/
def neighbourhood (first second : Address) : Except HostName.Fault Neighbourhood := do
  if second.scheme = first.scheme then
    let secondHost ← second.readableHost
    let firstHost ← first.readableHost
    let isSame := secondHost = firstHost ∧ second.effectivePort = first.effectivePort
    return if isSame then .sameOrigin else .foreign
  else
    let firstHost ← first.readableHost
    let secondHost ← second.readableHost
    let isSecured := firstHost = secondHost ∧
      first.scheme = "http" ∧ first.effectivePort = some 80 ∧
      second.scheme = "https" ∧ second.effectivePort = some 443
    return if isSecured then .secured else .foreign

end Address

end BranchCompare.Http
