import ApiSuite.EnvironmentFile
import ApiSuite.Settings
import ApiSuite.Substitution
import ApiSuite.Transport

/-! # Errors of a suite -/
namespace ApiSuite

inductive SuiteError where
  | settings (cause : SettingsError)
  | environment (cause : EnvironmentError)
  | unresolved (cause : VariableError)
  | request (cause : RequestError)
  | unexpectedStatus (status : UInt16) (body : String)
  deriving DecidableEq

namespace SuiteError

def message : SuiteError → String
  | settings cause => cause.message
  | environment cause => cause.message
  | unresolved cause => cause.message
  | request cause => cause.message
  | unexpectedStatus status body =>
    "Unexpected response status " ++ toString status.toNat ++ ": " ++ body

/-- The message of the cause; a status that no step accepts has none. -/
def cause? : SuiteError → Option String
  | unexpectedStatus _ _ => none
  | e => some e.message

end SuiteError

end ApiSuite
