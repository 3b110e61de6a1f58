import ApiSuite.Http.Header
import ApiSuite.Json.Decoder
import ApiSuite.Json.Printer

/-! # Responses

A response keeps one value per spelling of a header name, so that two names that differ only in
case are both there; a lookup takes the first of them in ascending order.
-/
namespace ApiSuite

/-- A length of time; the nanoseconds are less than a second. -/
structure Duration where
  seconds : UInt64
  nanoseconds : UInt32
  deriving DecidableEq

namespace Duration

def zero : Duration := ⟨0, 0⟩

def nanosecondsPerSecond : Nat := 1000000000

def ofMilliseconds (ms : UInt64) : Duration := ⟨ms / 1000, ((ms % 1000) * 1000000).toUInt32⟩

/-- Carries full seconds out of the nanoseconds. -/
def normalize (d : Duration) : Duration :=
  ⟨d.seconds + (d.nanoseconds / 1000000000).toUInt64, d.nanoseconds % 1000000000⟩

def overflow? (d : Duration) : Option Json.Cause :=
  if d.seconds.toNat + d.nanoseconds.toNat / nanosecondsPerSecond < Nat.pow 2 64 then none
  else some .durationOverflow

def record : Json.Record Duration where
  title := "struct Duration"
  arrayTitle := "struct Duration"
  blank := zero
  fields := [
    .of "secs" .required .uint64 fun x d => { d with seconds := x },
    .of "nanos" .required .uint32 fun x d => { d with nanoseconds := x }]
  strict := true
  check := overflow?

def decoder : Json.Decoder Duration := (Json.Decoder.record record).map normalize

def toJson (d : Duration) : Json :=
  .obj [("secs", .num (.int d.seconds.toNat)), ("nanos", .num (.int d.nanoseconds.toNat))]

end Duration

structure Response where
  status : UInt16
  statusText : String
  headers : SortedMap String
  body : List UInt8
  duration : Duration
  deriving DecidableEq

namespace Response

def new (status : UInt16) (statusText : String) : Response := ⟨status, statusText, .empty, [], .zero⟩

variable (r : Response)

def isSuccess : Bool := 200 ≤ r.status && r.status < 300

def isClientError : Bool := 400 ≤ r.status && r.status < 500

def isServerError : Bool := 500 ≤ r.status && r.status < 600

def header? (name : String) : Option String := Headers.get? r.headers.entries name

def contentType? : Option String := r.header? "content-type"

/-- Sets a header, and replaces one of exactly this name. -/
def addHeader (name value : String) : Response := { r with headers := r.headers.insert name value }

def text : Except Text.Malformed String := Text.toText r.body

def json : Except Json.Error Json := Json.parseBytes r.body

def toJson : Json :=
  .obj [("status_code", .num (.int r.status.toNat)), ("status_text", .str r.statusText),
    ("headers", .obj (r.headers.entries.map fun h => (h.1, .str h.2))),
    ("body", .arr (r.body.map fun b => .num (.int b.toNat))), ("duration", r.duration.toJson)]

def record : Json.Record Response where
  title := "struct HttpResponse"
  arrayTitle := "struct HttpResponse with 5 elements"
  blank := new 0 ""
  fields := [
    .of "status_code" .required .uint16 fun x r => { r with status := x },
    .of "status_text" .required .string fun x r => { r with statusText := x },
    .of "headers" .required (.mapOf .string) fun x r => { r with headers := x },
    .of "body" .required (.listOf .uint8) fun x r => { r with body := x },
    .of "duration" .required Duration.decoder fun x r => { r with duration := x }]

def decoder : Json.Decoder Response := .record record

end Response

end ApiSuite
