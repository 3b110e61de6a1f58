import ApiSuite.Http.Exchange

/-! # A server on the loopback interface

The server listens at one number and gives prepared replies, one per connection. A reply can also
fail to come. Nothing listens anywhere else.
-/
namespace ApiSuite

structure Loopback where
  /-- Nothing in the place of a reply is one that never comes. -/
  replies : List (Option WireReply)
  received : List WireRequest
  deriving DecidableEq

namespace Loopback

def isLocal : Option Host → Bool
  | some (.domain name) => name == "localhost".toList
  | some (.ipv4 address) => address == 127 * Nat.pow 256 3 + 1
  | _ => false

def refused : WireFailure :=
  .broken "error trying to connect: tcp connect error: Connection refused (os error 111)"

/-- A prepared reply with the headers that the server adds to it. -/
def framed (reply : WireReply) (withLength : Bool) : WireReply :=
  let length := if withLength then
      [("content-length", Text.encode (toString reply.body.length))]
    else []
  { reply with headers := reply.headers ++ length ++ [("connection", Text.encode "close")] }

def wire (number : Nat) : Wire Loopback := fun server m =>
  if isLocal m.url.host && m.url.actualPort? == some number then
    match server.replies with
    | [] => (server, .error refused)
    | reply :: rest =>
      (⟨rest, server.received ++ [m]⟩, match reply with
        | none => .error .timeout
        | some reply => .ok ⟨reply, none⟩)
  else (server, .error refused)

end Loopback

end ApiSuite
