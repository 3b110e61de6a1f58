import ApiSuite.Fixture.Event

/-! # Users

Registration binds the identifier of the new user, and login binds a token that later requests are
authorized by.
-/
namespace ApiSuite

structure User where
  firstName : String
  lastName : String
  email : String
  phone : String
  password : String
  deriving DecidableEq

namespace User

def hexDigits : Nat → Nat → List Char
  | 0, _ => []
  | n + 1, serial => hexDigits n (serial / 16) ++ [Nat.digitChar (serial % 16)]

/-- A user whose address is told from others by a serial number of 128 bits. -/
def unique (serial : Nat) (firstName lastName : String) : User where
  firstName
  lastName
  email := "user-" ++ .ofList (hexDigits 32 serial) ++ "@tari.com"
  phone := "555"
  password := "itsasecret"

def endpoint : String := "/users"

def tokenEndpoint : String := "/auth/token"

def identifierVariable : String := "last_user_id"

def tokenPath : JsonPath := ⟨"$.access_token", [.field "access_token"]⟩

def body (u : User) : Json :=
  .obj [("email", .str u.email), ("first_name", .str u.firstName), ("last_name", .str u.lastName),
    ("password", .str u.password), ("phone", .str u.phone)]

def registration (u : User) : Template := (Template.new .post endpoint).jsonBody u.body

def credentials (email password : String) : Template :=
  (Template.new .post tokenEndpoint).jsonBody
    (.obj [("email", .str email), ("password", .str password)])

variable {σ : Type}

def register (s : Session σ) (u : User) : SessionState σ → Outcome σ String :=
  s.sendAndRead u.registration ⟨identifierVariable, .json Event.identifierPath⟩

def login (s : Session σ) (email password tokenKey : String) : SessionState σ → Outcome σ String :=
  s.sendAndRead (credentials email password) ⟨tokenKey, .json tokenPath⟩

end User

end ApiSuite
