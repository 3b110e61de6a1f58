import ApiSuite.Http.Loopback
import Mathlib.Data.List.Infix

/-! # What kind of failure is reported

A message that is not answered is reported by a text that holds the URL of the message and the
cause. Whether the failure is taken to be about security depends on words anywhere in that text, so
the URL decides as much as the cause does. Two requests that fail for the same cause are reported
alike, unless the cause is none of security and just one of their URLs has such a word.
-/
namespace ApiSuite

inductive RequestError.Kind where
  | network
  | timeout
  | invalidUrl
  | tls
  | protocol
  | build
  deriving DecidableEq

def RequestError.kind : RequestError → Kind
  | network _ => .network
  | timeout => .timeout
  | invalidUrl _ => .invalidUrl
  | tls _ => .tls
  | protocol _ => .protocol
  | build _ => .build

namespace Exchange

/-! ## Words in a text -/

theorem occurs_iff {word text : List Char} : occurs word text = true ↔ word <:+: text := by
  induction text with
  | nil => simp [occurs]
  | cons c rest ih =>
    rw [occurs, Bool.or_eq_true, ih, List.isPrefixOf_iff_prefix, List.infix_cons_iff]

/-- The text has one of the words that make a message one about security. -/
def MentionsSecurity (text : List Char) : Prop := ∃ word ∈ securityWords, word.toList <:+: text

instance (text : List Char) : Decidable (MentionsSecurity text) :=
  inferInstanceAs (Decidable (∃ word ∈ securityWords, word.toList <:+: text))

/-- Why a conversation comes to no response: no message comes back, its body is cut off, or it
sends the client on once too often. -/
inductive Setback where
  | failed (failure : WireFailure)
  | cut (failure : WireFailure)
  | tooManyRedirects

/-- The kind of a failure in itself, without the URL at which it happens. -/
def failureKind : WireFailure → RequestError.Kind
  | .timeout => .timeout
  | .broken cause => if MentionsSecurity cause.toList then .tls else .network

namespace Setback

def kind : Setback → RequestError.Kind
  | failed failure => failureKind failure
  | cut failure => failureKind failure
  | tooManyRedirects => .network

end Setback

variable {σ : Type} (wire : Wire σ) (follow : Bool)

variable {wire follow}

variable {execution : Execution} {state : σ} {r : Request} {u : Url} {c : Setback}

end Exchange

end ApiSuite
