import ApiSuite.Store

/-! # Handles on shared bindings

A handle names a family of bindings and carries a policy. Cloning a handle gives another handle on
the same family, so that what is written through one is seen through the other; a new handle starts
a family of its own.
-/
namespace ApiSuite

structure Handle where
  family : Nat
  policy : MissingPolicy
  deriving DecidableEq

/-- All families and all handles, each known by its index. -/
structure Handles where
  families : List Bindings
  handles : List Handle
  deriving DecidableEq

namespace Handles

def empty : Handles := ⟨[], []⟩

variable (r : Handles)

/-- Adds a handle on a new family and gives its index. -/
def openFamily (policy : MissingPolicy) (bindings : Bindings) : Handles × Nat :=
  (⟨r.families ++ [bindings], r.handles ++ [⟨r.families.length, policy⟩]⟩, r.handles.length)

/-- Adds a handle on the family of another one, with its policy. -/
def clone (index : Nat) : Option (Handles × Nat) := do
  let h ← r.handles[index]?
  return (⟨r.families, r.handles ++ [h]⟩, r.handles.length)

def store? (index : Nat) : Option Store := do
  let h ← r.handles[index]?
  let bindings ← r.families[h.family]?
  return ⟨bindings, h.policy⟩

def write (index : Nat) (bindings : Bindings) : Handles :=
  match r.handles[index]? with
  | some h => { r with families := r.families.set h.family bindings }
  | none => r

end Handles

end ApiSuite
