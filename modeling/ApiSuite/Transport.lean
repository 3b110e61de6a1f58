import ApiSuite.Http.Request
import ApiSuite.Http.Response

/-! # Transports

A transport answers requests. It can change with each request, so it is a step on a state of its
own; it is asked once per request and never again after a failure.
-/
namespace ApiSuite

inductive RequestError where
  | network (reason : String)
  | timeout
  | invalidUrl (reason : String)
  | tls (reason : String)
  | protocol (reason : String)
  | build (reason : String)
  deriving DecidableEq

def RequestError.message : RequestError → String
  | network reason => "Network error: " ++ reason
  | timeout => "Request timed out"
  | invalidUrl reason => "Invalid URL: " ++ reason
  | tls reason => "TLS/SSL error: " ++ reason
  | protocol reason => "HTTP protocol error: " ++ reason
  | build reason => "Request build error: " ++ reason

abbrev Reply := Except RequestError Response

abbrev Transport (σ : Type) := σ → Request → σ × Reply

namespace Transport

/-- Gives prepared replies one after the other; when there are no more, the connection is refused. -/
def prepared : Transport (List Reply) := fun replies _ =>
  match replies with
  | [] => ([], .error (.network "connection refused"))
  | reply :: rest => (rest, reply)

end Transport

end ApiSuite
