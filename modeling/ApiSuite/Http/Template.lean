import ApiSuite.Http.Header
import ApiSuite.Http.Method
import ApiSuite.Json.Printer

/-! # Request templates

A template is what a step of a suite writes down: method, URL, headers and body, each of which may
hold placeholders. It is put together by steps that append a header or replace the body.
-/
namespace ApiSuite

inductive BodyTemplate where
  | raw (text : String)
  | json (value : Json)
  deriving DecidableEq

structure Template where
  method : Method
  url : String
  headers : List (String × String)
  body : Option BodyTemplate
  deriving DecidableEq

namespace BodyTemplate

def decoder : Json.Decoder BodyTemplate :=
  .choice [.tagged "Raw" .string raw, .tagged "Json" .json json]

def toJson : BodyTemplate → Json
  | raw text => .obj [("Raw", .str text)]
  | json value => .obj [("Json", value)]

end BodyTemplate

def Headers.toJson (headers : List (String × String)) : Json :=
  .arr (headers.map fun h => .arr [.str h.1, .str h.2])

def Headers.decoder : Json.Decoder (List (String × String)) :=
  .listOf (.pair .string .string)

namespace Template

def new (method : Method) (url : String) : Template := ⟨method, url, [], none⟩

variable (t : Template)

def header (name value : String) : Template := { t with headers := t.headers ++ [(name, value)] }

def bearer (tokenName : String) : Template :=
  t.header "Authorization" ("Bearer \x7b\x7b" ++ tokenName ++ "\x7d\x7d")

def rawBody (text : String) : Template := { t with body := some (.raw text) }

/-- A JSON body, with its content type unless there is one already. -/
def jsonBody (value : Json) : Template :=
  let t := if Headers.has t.headers "content-type" then t
    else t.header "Content-Type" "application/json"
  { t with body := some (.json value) }

inductive Step where
  | header (name value : String)
  | bearer (tokenName : String)
  | raw (text : String)
  | json (value : Json)

def apply : Step → Template
  | .header name value => t.header name value
  | .bearer tokenName => t.bearer tokenName
  | .raw text => t.rawBody text
  | .json value => t.jsonBody value

def applyAll (steps : List Step) : Template := steps.foldl apply t

def toJson : Json :=
  .obj [("method", t.method.toJson), ("url", .str t.url), ("headers", Headers.toJson t.headers),
    ("body", match t.body with
      | none => .null
      | some b => b.toJson)]

def record : Json.Record Template where
  title := "struct RequestTemplate"
  arrayTitle := "struct RequestTemplate with 4 elements"
  blank := ⟨.get, "", [], none⟩
  fields := [
    .of "method" .required Method.decoder fun m t => { t with method := m },
    .of "url" .required .string fun u t => { t with url := u },
    .of "headers" .required Headers.decoder fun h t => { t with headers := h },
    .of "body" .optional (.option BodyTemplate.decoder) fun b t => { t with body := b }]

def decoder : Json.Decoder Template := .record record

end Template

end ApiSuite
