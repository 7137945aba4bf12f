import BranchCompare.Http.Address
import BranchCompare.Http.Reference
import BranchCompare.Seconds

/-!
# Clients

A client sends requests below a base address to a transport, which answers each with a response or
fails.  It may follow redirections.  A secret is not sent to another origin, but it is kept on the
way to the secure scheme of the same host.
-/

namespace BranchCompare.Http

/-- A request for what is at an address. -/
structure Request where
  url : Address
  authorization : Option String
  accept : String
  userAgent : String
  timeout : Seconds

/-- An answer: a status, the octets of its body, and the place it points to. -/
structure Response where
  status : Nat
  body : List UInt8
  location : Option String

/-- How a transport deals with a request. -/
inductive Outcome where
  | response (response : Response)
  /-- There is no response. -/
  | failure (message : String)

/-- A transport with a state of its own. -/
abbrev Transport (S : Type) := Request → S → Outcome × S

inductive RequestFailure where
  /-- The transport failed. -/
  | transport (message : String)
  /-- A redirection points to a text that is no address. -/
  | badLocation (fault : AddressFault)
  /-- There are more redirections than a client follows. -/
  | tooManyRedirections
  deriving DecidableEq, Repr

/-- The failure in words. -/
def RequestFailure.message : RequestFailure → String
  | .transport message => message
  | .badLocation fault => s!"Invalid URL in location header: {fault.message}."
  | .tooManyRedirections => "Exceeded maximum allowed redirects."

/-- Why a request cannot go out or its response not be taken in, though addresses are right. -/
inductive ExchangeFault where
  /-- The address of an answered request has no scheme. -/
  | noScheme (text : String)
  /-- An address or a reference is no URL. -/
  | url (fault : Url.Fault)
  /-- The name of a host cannot be read. -/
  | hostName (fault : HostName.Fault)
  /-- A text in the head of a request or a response is not ASCII. -/
  | head (fault : Text.NotAscii)
  deriving DecidableEq, Repr

/-- The fault in words. -/
def ExchangeFault.message : ExchangeFault → String
  | .noScheme text => s!"unknown url type: {Text.quoted text}"
  | .url fault => fault.message
  | .hostName fault => fault.message
  | .head fault => fault.message

/-- How sending a request ends that gives no response. -/
inductive SendError where
  | request (failure : RequestFailure)
  /-- The request cannot be made, or not be sent on: its address is none. -/
  | address (fault : AddressFault)
  | exchange (fault : ExchangeFault)
  deriving DecidableEq, Repr

inductive ClientFault where
  /-- The base address is none. -/
  | address (fault : AddressFault)
  /-- The authorization is not ASCII. -/
  | authorization (fault : Text.NotAscii)
  deriving DecidableEq, Repr

def ClientFault.message : ClientFault → String
  | .address fault => fault.message
  | .authorization fault => fault.message

/-- A client: what its requests have in common. -/
structure Client where
  base : Address
  authorization : Option String
  accept : String
  userAgent : String
  timeout : Seconds
  followsRedirections : Bool

def base64Digits : List Char :=
  "ABCDEFGHIJKLMNOPQRSTUVWXYZabcdefghijklmnopqrstuvwxyz0123456789+/".toList

def base64Digit (value : Nat) : Char := base64Digits[value]?.getD '='

/-- Octets in base sixty-four. -/
def base64 : List UInt8 → List Char
  | [] => []
  | [a] =>
    [base64Digit (a.toNat / 4), base64Digit (a.toNat % 4 * 16), '=', '=']
  | [a, b] =>
    [base64Digit (a.toNat / 4), base64Digit (a.toNat % 4 * 16 + b.toNat / 16),
      base64Digit (b.toNat % 16 * 4), '=']
  | a :: b :: c :: rest =>
    base64Digit (a.toNat / 4) :: base64Digit (a.toNat % 4 * 16 + b.toNat / 16) ::
      base64Digit (b.toNat % 16 * 4 + c.toNat / 64) :: base64Digit (c.toNat % 64) :: base64 rest

/-- The authorization by the name of a user and a password in an address, if it has any. -/
def Address.authorization? (address : Address) : Option String :=
  let (user, password) := Text.cutAt (· == ':') address.userInfo.toList
  let user := Form.unescape user
  let password := Form.unescape (password.getD [])
  if user.isEmpty && password.isEmpty then none
  else
    let octets := Text.Utf8.encode (user ++ ':' :: password)
    some ("Basic " ++ String.ofList (base64 octets))

namespace Client

def redirections : List Nat := [301, 302, 303, 307, 308]

def mostRedirections : Nat := 20

/-- The base address of a client, which ends in a slash. -/
def baseOf (text : String) : Except AddressFault Address := do
  (← Address.ofText text).withSlash

/-- A client whose base address is still a text.  The authorization has to be ASCII. -/
def make (base : String) (client : Address → Client) : Except ClientFault Client := do
  let client := client (← (baseOf base).mapError .address)
  (Text.checkAscii (client.authorization.getD "").toList).mapError .authorization
  return client

/-- The address of a path below the base, with names and values in the query. -/
def addressOf (client : Client) (path : String) (params : List Form.Pair) :
    Except AddressFault Address := do
  let target ← Address.ofText path
  let full ←
    if target.isAbsolute then pure target
    else
      let rest := String.ofList (target.target.toList.dropWhile (· == '/'))
      client.base.withTarget (client.base.target ++ rest)
  full.withParams params

/-- The request for what is at an address.  What the address says of the user goes before the
authorization of the client. -/
def requestFor (client : Client) (url : Address) : Request where
  url := url
  authorization := url.authorization?.or client.authorization
  accept := client.accept
  userAgent := client.userAgent
  timeout := client.timeout

/-- Checks that the host and the port, which the head of a request tells, are ASCII. -/
def checkPlace (url : Address) : Except SendError Unit :=
  (Text.checkAscii url.place.toList).mapError fun fault => .exchange (.head fault)

/-- The request for what is at a path below the base. -/
def requestTo (client : Client) (path : String) (params : List Form.Pair) :
    Except SendError Request := do
  let url ← (client.addressOf path params).mapError .address
  checkPlace url
  return client.requestFor url

/-- Checks the address of a request that has been answered.  What a response leaves with a client
belongs to the scheme and the authority of the request, so that the address needs a scheme and has
to be a URL. -/
def checkAnswered (url : Address) : Except ExchangeFault Unit := do
  let text := url.text.toList
  let (before, part) := Address.cutAtLast '#' text
  let place := before.getD text
  let shown := String.ofList (if before.isSome && part.isEmpty then place else text)
  let scheme := place.takeWhile fun c => c != '/' && c != ':'
  if scheme.isEmpty || (place.drop scheme.length).head? != some ':' then throw (.noScheme shown)
  discard ((Url.split shown).mapError .url)

/-- The address that a redirection points to. -/
def redirectedTo (request : Request) (location : String) : Except SendError Address := do
  let readable (url : Address) : Except SendError String :=
    url.readableHost.mapError fun fault => .exchange (.hostName fault)
  let target ← (Address.ofText location).mapError fun fault => .request (.badLocation fault)
  let target ←
    if target.scheme = "" then pure target
    else do
      let host ← readable target
      if host ≠ "" then pure target
      else do
        let host ← readable request.url
        (target.withHost host).mapError .address
  let target ←
    if target.isAbsolute then pure target
    else do
      let text ← (Reference.resolve request.url.text target.text).mapError fun fault =>
        .exchange (.url fault)
      (Address.ofText text).mapError .address
  let part := request.url.readableFragment
  if part ≠ "" ∧ target.readableFragment = "" then
    (target.withFragment part).mapError .address
  else return target

/-- The request that a redirection leads to. -/
def redirected (request : Request) (url : Address) : Except SendError Request := do
  let relation ← (request.url.neighbourhood url).mapError fun fault => .exchange (.hostName fault)
  if relation ≠ .sameOrigin then checkPlace url
  return { request with
    url := url
    authorization := if relation = .foreign then none else request.authorization }

/-- The place that a response redirects to, if it does. -/
def redirection? (response : Response) : Option String :=
  if redirections.contains response.status then response.location else none

/-- Takes in the response to a request: nothing, or the request that a redirection leads to. -/
def takeIn (request : Request) (response : Response) : Except SendError (Option Request) := do
  (Text.checkAscii (response.location.getD "").toList).mapError fun fault =>
    .exchange (.head fault)
  (checkAnswered request.url).mapError .exchange
  match redirection? response with
  | some location => return some (← redirected request (← redirectedTo request location))
  | none => return none

/-- What one request comes to: an end, or the request that a redirection leads to.  A client that
does not follow redirections still looks where they point to. -/
def afterResponse (client : Client) (request : Request) (response : Response) :
    Except SendError Response ⊕ Request :=
  match takeIn request response with
  | .error error => .inl (.error error)
  | .ok none => .inl (.ok response)
  | .ok (some next) => if client.followsRedirections then .inr next else .inl (.ok response)

/-- Sends one request. -/
def exchange {S : Type} (client : Client) (transport : Transport S) (request : Request)
    (state : S) : (Except SendError Response ⊕ Request) × S :=
  match transport request state with
  | (.failure message, state) => (.inl (.error (.request (.transport message))), state)
  | (.response response, state) => (client.afterResponse request response, state)

/-- How sending ends, with the requests that were made and the state of the transport. -/
structure Sent (S : Type) where
  result : Except SendError Response
  requests : List Request
  state : S

/-- Sends a request, and the requests that redirections lead to, of which `left` may follow. -/
def send {S : Type} (client : Client) (transport : Transport S) (request : Request) (state : S)
    (left : Nat) : Sent S :=
  match client.exchange transport request state, left with
  | (.inl result, state), _ => ⟨result, [request], state⟩
  | (.inr _, state), 0 => ⟨.error (.request .tooManyRedirections), [request], state⟩
  | (.inr next, state), left + 1 =>
    let sent := client.send transport next state left
    { sent with requests := request :: sent.requests }

/-- Asks for what is at a path. -/
def get {S : Type} (client : Client) (transport : Transport S) (path : String)
    (params : List Form.Pair) (state : S) : Sent S :=
  match client.requestTo path params with
  | .ok request => client.send transport request state mostRedirections
  | .error error => ⟨.error error, [], state⟩

def isSuccess (status : Nat) : Bool := 200 ≤ status && status ≤ 299

end Client

end BranchCompare.Http
