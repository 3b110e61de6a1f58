import ApiSuite.Json.Fault

/-! # Warnings, and computations that issue them

A step of a suite can warn and still succeed, or warn and then fail. Both are part of what it
returns, in a value with the warnings in the order in which they arose.
-/
namespace ApiSuite

inductive Warning where
  /-- An unset placeholder stays in the text. -/
  | leftInPlace (name : String)
  /-- An unset placeholder is replaced with nothing. -/
  | replacedWithEmpty (name : String)
  /-- A request is not built because these names are unset. -/
  | unsetVariables (names : List String)
  /-- Settings are ignored because they do not decode. -/
  | settingsIgnored (cause : Json.Cause)
  deriving DecidableEq

def Warning.message : Warning → String
  | leftInPlace name => "substitution: '" ++ name ++ "' is not set, placeholder left in place"
  | replacedWithEmpty name => "substitution: '" ++ name ++ "' is not set, replaced with empty text"
  | unsetVariables names => "builder: unset variables: " ++ ", ".intercalate names
  | settingsIgnored cause =>
    "Failed to parse rest-harness settings: " ++ cause.message ++ ". Using defaults."

/-- A result together with the warnings issued on the way to it. -/
@[ext] structure Traced (ε α : Type) where
  warnings : List Warning
  outcome : Except ε α

namespace Traced

variable {ε α β : Type}

def ok (x : α) : Traced ε α := ⟨[], .ok x⟩

def fail (e : ε) : Traced ε α := ⟨[], .error e⟩

def warn (w : Warning) : Traced ε Unit := ⟨[w], .ok ()⟩

/-- The second part runs only after the first has succeeded, and its warnings come after. -/
def andThen (t : Traced ε α) (f : α → Traced ε β) : Traced ε β :=
  match t.outcome with
  | .error e => ⟨t.warnings, .error e⟩
  | .ok x => ⟨t.warnings ++ (f x).warnings, (f x).outcome⟩

instance : Monad (Traced ε) where
  pure := ok
  bind := andThen

end Traced

end ApiSuite
