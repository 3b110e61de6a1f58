import ApiSuite.Http.Template

/-! # Requests

A request has no placeholders left. On record it also carries an identifier, which plays no part
in what is sent.
-/
namespace ApiSuite

structure Request where
  method : Method
  url : String
  headers : List (String × String)
  body : Option String
  deriving DecidableEq

namespace Request

def header? (r : Request) (name : String) : Option String := Headers.get? r.headers name

def hasBody (r : Request) : Bool := r.body.any fun b => !b.isEmpty

def contentType? (r : Request) : Option String := r.header? "content-type"

end Request

structure RecordedRequest where
  id : String
  request : Request
  deriving DecidableEq

namespace RecordedRequest

def toJson (r : RecordedRequest) : Json :=
  .obj [("id", .str r.id), ("method", r.request.method.toJson), ("url", .str r.request.url),
    ("headers", Headers.toJson r.request.headers),
    ("body", match r.request.body with
      | none => .null
      | some text => .str text)]

def record : Json.Record RecordedRequest where
  title := "struct ResolvedRequest"
  arrayTitle := "struct ResolvedRequest with 5 elements"
  blank := ⟨"", .get, "", [], none⟩
  fields := [
    .of "id" .required .string fun x r => { r with id := x },
    .of "method" .required Method.decoder fun x r => { r with request.method := x },
    .of "url" .required .string fun x r => { r with request.url := x },
    .of "headers" .required Headers.decoder fun x r => { r with request.headers := x },
    .of "body" .optional (.option .string) fun x r => { r with request.body := x }]

def decoder : Json.Decoder RecordedRequest := .record record

end RecordedRequest

end ApiSuite
