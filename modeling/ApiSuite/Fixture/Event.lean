import ApiSuite.Session

/-! # Events

Creating an event is a step that many suites share. The name of the event goes through a variable
of its own, so that a name that looks like a placeholder reaches the server as it is.
-/
namespace ApiSuite

structure Event where
  name : String
  start : String
  finish : String
  type : String
  ageLimit : String
  deriving DecidableEq

namespace Event

def default : Event where
  name := "It's my party"
  start := "2020-11-13T12:00:00"
  finish := "2020-11-14T12:00:00"
  type := "Music"
  ageLimit := "A custom age limit"

def named (name : String) : Event := { default with name }

def endpoint : String := "/events"

def nameVariable : String := "last_event_name"

/-- The text that a variable is substituted in. -/
def hole (name : String) : Json := .str ("\x7b\x7b" ++ name ++ "\x7d\x7d")

def body (e : Event) : Json :=
  .obj [("age_limit", .str e.ageLimit), ("event_end", .str e.finish), ("event_start", .str e.start),
    ("event_type", .str e.type), ("name", hole nameVariable),
    ("organization_id", hole "last_org_id"), ("venue_id", hole "last_venue_id")]

def template (e : Event) : Template :=
  ((Template.new .post endpoint).bearer "org_member_token").jsonBody e.body

def identifierPath : JsonPath := ⟨"$.id", [.field "id"]⟩

variable {σ : Type}

def create (s : Session σ) (storeKey : String) (e : Event) (state : SessionState σ) :
    Outcome σ String :=
  s.sendAndRead e.template ⟨storeKey, .json identifierPath⟩
    { state with store := state.store.set nameVariable e.name }

end Event

end ApiSuite
