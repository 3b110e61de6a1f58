import ApiSuite.Http.Reason
import ApiSuite.Settings
import ApiSuite.Text.Basic
import ApiSuite.Transport
import ApiSuite.Url.Resource

/-! # Exchanges over HTTP

A request goes on the wire only when its URL and all its headers can be sent. The client adds what
every message carries, follows redirects when it is told to, and says of a failure whether it is
about the connection, its security or the time it takes. What the other end does is a parameter.
-/
namespace ApiSuite

structure WireRequest where
  method : Method
  url : Url
  headers : List (String × String)
  body : List UInt8
  deriving DecidableEq

structure WireReply where
  status : UInt16
  headers : List (String × List UInt8)
  body : List UInt8
  deriving DecidableEq

inductive WireFailure where
  | timeout
  | broken (cause : String)
  deriving DecidableEq

/-- A message that came back, and what kept the client from reading all of its body. -/
structure Arrival where
  reply : WireReply
  cut : Option WireFailure

/-- The other end of the wire, with a state of type `σ`. -/
abbrev Wire (σ : Type) := σ → WireRequest → σ × Except WireFailure Arrival

namespace WireRequest

def line (r : WireRequest) : String :=
  r.method.name ++ " " ++ .ofList r.url.target ++ " HTTP/1.1"

end WireRequest

namespace Exchange

def occurs (word : List Char) : List Char → Bool
  | [] => word.isEmpty
  | c :: rest => word.isPrefixOf (c :: rest) || occurs word rest

/-- The words by which a message is taken to be about security. -/
def securityWords : List String := ["certificate", "TLS", "SSL"]

/-- The failure that a message of the client stands for, by the words in it. -/
def classify (message : String) : RequestError :=
  if securityWords.any fun word => occurs word.toList message.toList then .tls message
  else .network message

/-- What the client says of a problem with a URL. -/
def messageAt (opening : String) (url : Url) (cause : String) : String :=
  opening ++ " (" ++ .ofList url.text ++ "): " ++ cause

def sending : String := "error sending request for url"

def receiving : String := "request or response body error for url"

def redirecting : String := "error following redirect for url"

def failureOf (opening : String) (url : Url) : WireFailure → RequestError
  | .timeout => .timeout
  | .broken cause => classify (messageAt opening url cause)

def headerError? (headers : List (String × String)) : Option RequestError :=
  headers.findSome? fun h => (Http.headerProblem? h.1 h.2).map fun problem =>
    .protocol ("header '" ++ h.1 ++ "': " ++ problem)

/-- The authorization that the user information of a URL gives. A name or a password that is no
text is none. -/
def authorization? (url : Url) : Option (List (String × String)) :=
  let decoded (cs : List Char) : Option String :=
    (Text.toText (Url.percentDecode (Text.encode (.ofList cs)))).toOption
  let (name, password) := url.credentials
  match decoded name, password.bind decoded with
  | none, _ | some "", none => none
  | some name, password =>
    let pair := name ++ ":" ++ password.getD ""
    some [("authorization", "Basic " ++ .ofList (Text.base64 (Text.encode pair)))]

def authorized (url : Url) : List (String × String) × Url :=
  match authorization? url with
  | none => ([], url)
  | some headers => (headers, url.withoutUserinfo)

/-- The characters of a host that no request can name. -/
def unnamable : List Char := ['"', '\x60', '\x7b', '\x7d']

def urlProblem? (url : Url) : Option String :=
  if !url.isHttp then some "URL scheme is not allowed"
  else if url.hostText.any unnamable.contains then some "Parsed Url is not a valid Uri"
  else none

def check (r : Request) : Except RequestError Url :=
  match Url.parse r.url with
  | .error e => .error (.invalidUrl e.message)
  | .ok url => match headerError? r.headers with
    | some e => .error e
    | none => match urlProblem? url with
      | some problem =>
        .error (.build (messageAt "builder error for url" (authorized url).2 problem))
      | none => .ok url

/-- Adds a header unless there is one of the name. -/
def defaultHeader (name value : String) (headers : List (String × String)) :
    List (String × String) :=
  if Headers.has headers name then headers else headers ++ [(name, value)]

def opening (url : Url) (r : Request) : WireRequest :=
  let (credentials, url) := authorized url
  let own := credentials ++ r.headers.map fun h => (String.ofList (foldCase h.1), h.2)
  let coded := if Headers.has own "range" then own
    else defaultHeader "accept-encoding" "gzip, br, deflate" own
  ⟨r.method, url, defaultHeader "accept" "*/*" coded, Text.encode (r.body.getD "")⟩

def measured (m : WireRequest) : WireRequest :=
  if m.body.isEmpty then m
  else { m with headers := defaultHeader "content-length" (toString m.body.length) m.headers }

/-- The headers that a redirect to another host leaves behind. -/
def sensitive : List String :=
  ["authorization", "cookie", "cookie2", "proxy-authorization", "www-authenticate"]

def describing : List String :=
  ["transfer-encoding", "content-encoding", "content-type", "content-length"]

def without (names : List String) (headers : List (String × String)) : List (String × String) :=
  headers.filter fun h => !names.any (sameName · h.1)

/-- The statuses that send the client on with a request for the resource alone. -/
def plainRedirects : List UInt16 := [301, 302, 303]

/-- The statuses that send the client on with the same request. -/
def faithfulRedirects : List UInt16 := [307, 308]

def redirection? (url : Url) (reply : WireReply) : Option Url :=
  if plainRedirects.contains reply.status || faithfulRedirects.contains reply.status then
    match reply.headers.find? fun h => sameName h.1 "location" with
    | none => none
    | some (_, value) => match Text.toText value with
      | .error _ => none
      | .ok reference =>
        (url.join reference).toOption.filter fun url => !url.hostText.any unnamable.contains
  else none

def redirected (m : WireRequest) (status : UInt16) (url : Url) : WireRequest :=
  let plain := plainRedirects.contains status
  let method := if plain && m.method ≠ .head then .get else m.method
  let kept := if plain then without describing m.headers else m.headers
  let sameHost := url.host = m.url.host && url.actualPort? = m.url.actualPort?
  let carried := if sameHost then kept else without sensitive kept
  let secured := m.url.scheme = "https".toList && url.scheme = "http".toList
  let headers := if secured then carried
    else without ["referer"] carried ++ [("referer", .ofList m.url.withoutUserinfo.location)]
  ⟨method, url, headers, if plain then [] else m.body⟩

/-- The value of a header in a reply, when all of it can be shown. -/
def visible? (value : List UInt8) : Option String :=
  if value.all fun b => b == 9 || (0x20 ≤ b && b < 0x7F) then
    some (.ofList (value.map fun b => Char.ofNat b.toNat))
  else none

def hasNoBody (method : Method) (status : UInt16) : Bool :=
  method == .head || status == 204 || status == 304

def responseOf (method : Method) (reply : WireReply) : Response :=
  let shown := reply.headers.filterMap fun h =>
    (visible? h.2).map fun value => (String.ofList (foldCase h.1), value)
  { status := reply.status
    statusText := Http.reason reply.status
    headers := SortedMap.ofList shown
    body := if hasNoBody method reply.status then [] else reply.body
    duration := .zero }

/-- What the client makes of a message that came back, once it is not sent on. -/
def replyTo (m : WireRequest) (a : Arrival) : Reply :=
  match if hasNoBody m.method a.reply.status then none else a.cut with
  | none => .ok (responseOf m.method a.reply)
  | some failure => .error (failureOf receiving m.url failure)

/-- How many redirects are followed; the next one is refused. -/
def maxRedirects : Nat := 9

variable {σ : Type}

/-- Sends a message and follows up to `budget` redirects. -/
def converse (wire : Wire σ) (follow : Bool) : Nat → WireRequest → σ → σ × Reply
  | budget, m, state =>
    let (state, answer) := wire state (measured m)
    match answer with
    | .error failure => (state, .error (failureOf sending m.url failure))
    | .ok arrival =>
      match if follow then redirection? m.url arrival.reply else none with
      | none => (state, replyTo m arrival)
      | some url => match budget with
        | budget + 1 => converse wire follow budget (redirected m arrival.reply.status url) state
        | 0 => (state, .error (classify (messageAt redirecting m.url "too many redirects")))

def transport (wire : Wire σ) (execution : Execution) : Transport σ := fun state r =>
  match check r with
  | .error e => (state, .error e)
  | .ok url => converse wire execution.followRedirects maxRedirects (opening url r) state

end Exchange

end ApiSuite
