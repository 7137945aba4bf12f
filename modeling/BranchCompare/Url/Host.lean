import BranchCompare.Text.Quoted
import BranchCompare.Text.Split
import BranchCompare.Json.Reader

/-!
# Hosts

Two checks on the authority of a URL: brackets have to enclose the whole host, which is then an
address of version six or of a later one, and no character may turn into a delimiter of URLs by
compatibility normalization.
-/

namespace BranchCompare.Url

open BranchCompare.Text

inductive Fault where
  /-- An opening bracket without a closing one, the reverse, or brackets around a part of a host. -/
  | badBrackets
  /-- An address in brackets that begins like one of a later version and is none. -/
  | badFutureAddress
  /-- An address of version four in brackets. -/
  | oldAddressInBrackets
  /-- A text in brackets that is no address. -/
  | noAddress (host : String)
  /-- A character that normalization turns into a delimiter. -/
  | hiddenDelimiter (authority : String)
  deriving DecidableEq, Repr

/-- The fault in words. -/
def Fault.message : Fault → String
  | .badBrackets => "Invalid IPv6 URL"
  | .badFutureAddress => "IPvFuture address is invalid"
  | .oldAddressInBrackets => "An IPv4 address cannot be in brackets"
  | .noAddress host => s!"{quoted host} does not appear to be an IPv4 or IPv6 address"
  | .hiddenDelimiter authority =>
    s!"netloc '{authority}' contains invalid characters under NFKC normalization"

/-- The number that a part of a version four address stands for: one to three digits without a
leading zero, at most 255. -/
def isOctetText (part : List Char) : Bool :=
  part.all Char.isDigit && !part.isEmpty && part.length ≤ 3 &&
    !(part.head? == some '0' && part.length ≠ 1) && Json.natOf part ≤ 255

def isAddress4 (host : List Char) : Bool :=
  let parts := pieces '.' host
  parts.length == 4 && parts.all isOctetText

def isHextet (part : List Char) : Bool :=
  !part.isEmpty && part.length ≤ 4 && part.all fun c => (Json.hexDigit? c).isSome

/-- Whether parts between colons make up an address of version six.  One gap inside may stand for
zeros; it may also reach to an end, and the end is then empty too. -/
def areAddress6Parts (parts : List (List Char)) : Bool :=
  let inner := (parts.drop 1).dropLast
  let gaps := inner.countP (·.isEmpty)
  if gaps = 0 then parts.length == 8 && parts.all isHextet
  else
    let before := parts.takeWhile fun part => !part.isEmpty
    let hi := if (parts.head?.getD []).isEmpty then [] else before
    let lo := ((parts.reverse).takeWhile fun part => !part.isEmpty)
    let gapAtFront := (parts.head?.getD []).isEmpty
    let gapAtBack := (parts.getLast?.getD []).isEmpty
    let empties := gaps + (if gapAtFront then 1 else 0) + (if gapAtBack then 1 else 0)
    gaps == 1 && hi.length + lo.length + empties == parts.length &&
      (!gapAtFront || ((inner.head?.getD ['x']).isEmpty)) &&
      (!gapAtBack || ((inner.getLast?.getD ['x']).isEmpty)) &&
      hi.length + lo.length ≤ 7 && hi.all isHextet && lo.all isHextet

/-- A version four address at the end counts as two parts. -/
def expandLast (parts : List (List Char)) : Option (List (List Char)) :=
  match parts.getLast? with
  | some last =>
    if last.contains '.' then
      if isAddress4 last then some (parts.dropLast ++ [['0'], ['0']]) else none
    else some parts
  | none => some parts

/-- Whether a text is an address of version six, with or without a zone. -/
def isAddress6 (host : List Char) : Bool :=
  let (address, zone) := cutAt (· == '%') host
  let zoneOk := match zone with
    | none => true
    | some zone => !zone.isEmpty && !zone.contains '%'
  let parts := pieces ':' address
  zoneOk && 3 ≤ parts.length &&
    match expandLast parts with
    | some parts => parts.length ≤ 9 && areAddress6Parts parts
    | none => false

/-- Whether a text after the letter `v` names a version and an address of it. -/
def isFutureAddress (rest : List Char) : Bool :=
  let (version, address) := cutAt (· == '.') rest
  !version.isEmpty && version.all (fun c => (Json.hexDigit? c).isSome) &&
    !(address.getD []).isEmpty

/-- Checks a host in brackets. -/
def checkBracketed (host : List Char) : Except Fault Unit :=
  match host with
  | 'v' :: rest => if isFutureAddress rest then .ok () else .error .badFutureAddress
  | _ =>
    if isAddress4 host then .error .oldAddressInBrackets
    else if isAddress6 host then .ok ()
    else .error (.noAddress (String.ofList host))

/-- The characters whose compatibility form holds a delimiter of URLs. -/
def hiddenDelimiters : List Char :=
  ['\u2047', '\u2048', '\u2049', '\u2100', '\u2101', '\u2105', '\u2106', '\u2a74', '\ufe13',
    '\ufe16', '\ufe55', '\ufe56', '\ufe5f', '\ufe6b', '\uff03', '\uff0f', '\uff1a', '\uff1f',
    '\uff20']

/-- The host and the port of an authority, without the user before the last at sign. -/
def placeOf (authority : List Char) : List Char :=
  (authority.reverse.takeWhile (· != '@')).reverse

/-- The host of a place.  Brackets enclose all of it, so that nothing is before them and only a port
after them. -/
def hostOf (place : List Char) : Except Fault (List Char) :=
  match cutAt (· == '[') place with
  | (_, none) => .ok (place.takeWhile (· != ':'))
  | (before, some inside) =>
    let (host, after) := cutAt (· == ']') inside
    if before.isEmpty && [none, some ':'].contains (after.getD []).head? then .ok host
    else .error .badBrackets

/-- Checks an authority: brackets first, then characters.  Brackets in the name of a user count as
well, and the host is checked for them. -/
def checkAuthority (authority : List Char) : Except Fault Unit := do
  if authority.contains '[' != authority.contains ']' then throw .badBrackets
  if authority.contains '[' then checkBracketed (← hostOf (placeOf authority))
  if authority.any hiddenDelimiters.contains then
    throw (.hiddenDelimiter (String.ofList authority))

end BranchCompare.Url
