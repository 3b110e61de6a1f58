import ApiSuite.Capture
import ApiSuite.RequestBuilder
import ApiSuite.SuiteError

/-! # Sessions

A session runs the steps of a suite one after the other over one store and one transport. Its state
is the store, the requests handed to the transport so far and the state of the transport. Whatever
a step writes stays, also when the step fails later on.
-/
namespace ApiSuite

structure Session (σ : Type) where
  baseUrl : Option String
  defaultHeaders : List (String × String)
  transport : Transport σ

structure SessionState (σ : Type) where
  store : Store
  sent : List Request
  remote : σ

/-- What a step leaves behind: the state after it and its result. -/
abbrev Outcome (σ α : Type) := SessionState σ × Except SuiteError α

def Response.expectSuccess (r : Response) : Except SuiteError Unit :=
  if r.isSuccess then .ok () else .error (.unexpectedStatus r.status (Text.toTextLossy r.body))

namespace Session

variable {σ : Type}

def ofSettings (settings : Settings) (transport : Transport σ) : Session σ :=
  ⟨some settings.server, settings.defaultHeaders.entries, transport⟩

variable (s : Session σ)

def builder (store : Store) : RequestBuilder := ⟨store, s.baseUrl, s.defaultHeaders⟩

def missing (store : Store) (t : Template) : List String := (s.builder store).missing t

def resolve (store : Store) (t : Template) : Except SuiteError Request :=
  match ((s.builder store).build t).outcome with
  | .ok r => .ok r
  | .error e => .error (.unresolved e)

def sendResolved (r : Request) (state : SessionState σ) : Outcome σ Response :=
  let (remote, reply) := s.transport state.remote r
  ({ state with sent := state.sent ++ [r], remote }, match reply with
    | .ok response => .ok response
    | .error e => .error (.request e))

/-- Builds and sends a request; a response of any status is an answer. -/
def send (t : Template) (state : SessionState σ) : Outcome σ Response :=
  match s.resolve state.store t with
  | .error e => (state, .error e)
  | .ok r => s.sendResolved r state

def capture (response : Response) (captures : List Capture) (state : SessionState σ) :
    Outcome σ Response :=
  let (store, result) := Capture.applyAll response state.store captures
  ({ state with store }, match result with
    | .ok () => .ok response
    | .error e => .error (.unresolved e))

def sendAndCapture (t : Template) (captures : List Capture) (state : SessionState σ) :
    Outcome σ Response :=
  match s.send t state with
  | (state, .error e) => (state, .error e)
  | (state, .ok response) => match response.expectSuccess with
    | .error e => (state, .error e)
    | .ok () => capture response captures state

def sendAndRead (t : Template) (c : Capture) (state : SessionState σ) : Outcome σ String :=
  match s.sendAndCapture t [c] state with
  | (state, .error e) => (state, .error e)
  | (state, .ok _) => (state, match state.store.get? c.variableName with
    | some text => .ok text
    | none => .error (.unresolved (.undefined c.variableName)))

end Session

namespace Settings

/-- The store that a session starts with: the environment file of the settings or, without one,
the file found from the working directory. The settings are validated first. -/
def seededStore (settings : Settings) (files : Files) (workingDirectory : List Char) :
    Except SuiteError Store := do
  match settings.validate with
  | .error e => .error (.settings e)
  | .ok () =>
    let empty := Store.new settings.missingVariables
    match match settings.environmentFile with
      | some path => EnvironmentFile.load files path.toList empty
      | none => EnvironmentFile.discover files workingDirectory empty with
    | (_, .error e) => .error (.environment e)
    | (store, .ok _) => .ok store

end Settings

end ApiSuite
