import ApiSuite.Http.Request
import ApiSuite.Substitution

/-! # Building requests

A builder turns a template into a request: it substitutes in the URL, in every header value and in
the body, completes a relative URL and adds the default headers that the template does not set.
Under the failing policy nothing is substituted while a variable is unset.
-/
namespace ApiSuite

structure RequestBuilder where
  store : Store
  baseUrl : Option String
  defaultHeaders : List (String × String)

namespace RequestBuilder

def serverVariable : String := "server"

variable (b : RequestBuilder)

/-- The base of relative URLs: the server variable, unless it is unset or null, and otherwise the
base of the builder. -/
def base? : Option String :=
  match b.store.get? serverVariable with
  | some text => some text
  | none => b.baseUrl

/-- Completes a URL that starts with a slash by the base without its final slashes. -/
def complete (url : String) : String :=
  if url.toList.head? = some '/' then
    match b.base? with
    | some base => String.ofList ((base.toList.reverse.dropWhile (· == '/')).reverse) ++ url
    | none => url
  else url

def substituteHeaders : List (String × String) → Traced VariableError (List (String × String))
  | [] => .ok []
  | (name, value) :: rest => do
    let text ← b.store.substitute value
    let more ← substituteHeaders rest
    return (name, text) :: more

/-- Appends the default headers one after the other, each unless a header of its name is there. -/
def addDefaults (headers : Headers) : List (String × String) → Traced VariableError Headers
  | [] => .ok headers
  | (name, value) :: rest =>
    if Headers.has headers name then addDefaults headers rest
    else do
      let text ← b.store.substitute value
      addDefaults (headers ++ [(name, text)]) rest

def substituteBody : Option BodyTemplate → Traced VariableError (Option String)
  | none => .ok none
  | some (.raw text) => do return some (← b.store.substitute text)
  | some (.json value) => do return some (← b.store.substituteJson value).render

def bodyTexts : Option BodyTemplate → List String
  | none => []
  | some (.raw text) => [text]
  | some (.json value) => value.strings

/-- The strings that are searched for unset variables before anything is built. The default headers
among them are those whose names the template does not use. -/
def texts (t : Template) : List String :=
  t.url :: t.headers.map Prod.snd
    ++ (b.defaultHeaders.filter fun d => !Headers.has t.headers d.1).map Prod.snd
    ++ bodyTexts t.body

def missing (t : Template) : List String := b.store.unset ((b.texts t).flatMap placeholders)

def checkMissing (t : Template) : Traced VariableError Unit :=
  match b.store.policy, b.missing t with
  | .fail, name :: more => do
    .warn (.unsetVariables (name :: more))
    .fail (.undefined name)
  | _, _ => .ok ()

def assemble (t : Template) : Traced VariableError Request := do
  let url ← b.store.substitute t.url
  let headers ← b.substituteHeaders t.headers
  let headers ← b.addDefaults headers b.defaultHeaders
  let body ← b.substituteBody t.body
  return ⟨t.method, b.complete url, headers, body⟩

def build (t : Template) : Traced VariableError Request := do
  b.checkMissing t
  b.assemble t

def buildParts (method : Method) (url : String) (headers : List (String × String))
    (body : Option String) : Traced VariableError Request :=
  let t := headers.foldl (fun t h => t.header h.1 h.2) (Template.new method url)
  b.build (match body with
    | none => t
    | some text => t.rawBody text)

end RequestBuilder

end ApiSuite
