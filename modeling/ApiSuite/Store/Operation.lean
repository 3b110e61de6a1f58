import ApiSuite.EnvironmentFile
import ApiSuite.Store.Handles

/-! # Operations on handles

What a suite does to the stores that it holds handles on: it makes a new store or clones a handle,
writes a name through a handle, or seeds the store behind one from a document.
-/
namespace ApiSuite

inductive Operation where
  | new (policy : MissingPolicy)
  | fromVariables (values : List (String × String))
  | clone (handle : Nat)
  | set (handle : Nat) (name value : String)
  | setNull (handle : Nat) (name : String)
  | setJson (handle : Nat) (name : String) (v : Json)
  | seed (handle : Nat) (raw : Json)
  deriving DecidableEq

def Operation.handle? : Operation → Option Nat
  | new _ => none
  | fromVariables _ => none
  | clone handle => some handle
  | set handle _ _ => some handle
  | setNull handle _ => some handle
  | setJson handle _ _ => some handle
  | seed handle _ => some handle

namespace Handles

variable (r : Handles)

def openStore (s : Store) : Handles × Nat := r.openFamily s.policy s.bindings

def update (index : Nat) (change : Store → Store) : Handles :=
  match r.store? index with
  | some s => r.write index (change s).bindings
  | none => r

/-- What becomes of the handles; an operation through a handle that is not there does nothing. -/
def perform : Operation → Handles
  | .new policy => (r.openStore (.new policy)).1
  | .fromVariables values => (r.openStore (.ofVariables values)).1
  | .clone handle => match r.clone handle with
    | some (handles, _) => handles
    | none => r
  | .set handle name value => r.update handle fun s => s.set name value
  | .setNull handle name => r.update handle fun s => s.setNull name
  | .setJson handle name v => r.update handle fun s => s.setJson name v
  | .seed handle raw => r.update handle fun s => (EnvironmentFile.seed s raw).1

def run (ops : List Operation) : Handles := ops.foldl perform empty

end Handles

end ApiSuite
