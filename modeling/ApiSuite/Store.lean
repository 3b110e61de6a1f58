import ApiSuite.Binding

/-! # The store of a suite

A store holds the bindings that the steps of a suite share, and the policy for unset names.
-/
namespace ApiSuite

abbrev Bindings := SortedMap Binding

structure Store where
  bindings : Bindings
  policy : MissingPolicy
  deriving DecidableEq

namespace Store

def new (policy : MissingPolicy) : Store := ⟨.empty, policy⟩

variable (s : Store)

def binding? (name : String) : Option Binding := s.bindings.get? name

/-- The text of a name; nothing when it is unset or null. -/
def get? (name : String) : Option String := (s.binding? name).bind Binding.text?

def contains (name : String) : Bool := s.bindings.contains name

def bind (name : String) (b : Binding) : Store := { s with bindings := s.bindings.insert name b }

def set (name value : String) : Store := s.bind name (.text value)

def setNull (name : String) : Store := s.bind name .null

def setJson (name : String) (v : Json) : Store := s.bind name (.ofJson v)

def setMany (entries : List (String × String)) : Store :=
  entries.foldl (fun s e => s.set e.1 e.2) s

def ofVariables (values : List (String × String)) : Store :=
  (new .leaveAsIs).setMany values

def setManyJson (entries : List (String × Json)) : Store :=
  entries.foldl (fun s e => s.setJson e.1 e.2) s

def size : Nat := s.bindings.size

def isEmpty : Bool := s.bindings.isEmpty

def names : List String := s.bindings.keys

def snapshot : List (String × Binding) := s.bindings.entries

theorem contains_eq_isSome (name : String) : s.contains name = (s.binding? name).isSome := rfl

theorem binding?_bind (name : String) (b : Binding) (other : String) :
    (s.bind name b).binding? other = if name = other then some b else s.binding? other :=
  s.bindings.get?_insert name b other

end Store

end ApiSuite
