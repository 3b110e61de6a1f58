import ApiSuite.Text.Basic

/-! # Tables over code points

A table holds ranges of code points in ascending order, each with what it says of them, and is
searched by halving. It is written as text: entries between blanks, each a code point in base
sixteen, or the first and the last one with a hyphen between them, and after a colon what is said.
-/
namespace ApiSuite.Text

variable {α : Type}

structure CodeRange (α : Type) where
  first : Nat
  last : Nat
  value : α

structure CodeTable (α : Type) where
  ranges : Array (CodeRange α)

namespace CodeTable

/-- The range that holds a code point, among those from index `low` on and below `high`. -/
def search (t : CodeTable α) (n low high : Nat) (h : high ≤ t.ranges.size) :
    Option (CodeRange α) :=
  if hlt : low < high then
    let middle := (low + high) / 2
    have : middle < high := by omega
    let range := t.ranges[middle]
    if n < range.first then search t n low middle (by omega)
    else if range.last < n then search t n (middle + 1) high h
    else some range
  else none
  termination_by high - low

theorem bounds_of_search {t : CodeTable α} {n low high : Nat} {h : high ≤ t.ranges.size}
    {range : CodeRange α} (found : t.search n low high h = some range) :
    range.first ≤ n ∧ n ≤ range.last := by
  fun_induction search t n low high h with
  | case1 low high h hlt middle hmiddle r hfirst ih => exact ih found
  | case2 low high h hlt middle hmiddle r hfirst hlast ih => exact ih found
  | case3 low high h hlt middle hmiddle r hfirst hlast =>
    obtain rfl := Option.some.inj found
    omega
  | case4 => cases found

def find? (t : CodeTable α) (c : Char) : Option (CodeRange α) :=
  t.search c.toNat 0 t.ranges.size (Nat.le_refl _)

def value? (t : CodeTable α) (c : Char) : Option α := (t.find? c).map CodeRange.value

def contains (t : CodeTable α) (c : Char) : Bool := (t.find? c).isSome

/-! ## Written tables -/

/-- The number that digits in base sixteen spell, all letters being upper case. -/
def number (digits : List Char) : Nat :=
  digits.foldl (fun n d => 16 * n + (if d ≤ '9' then d.toNat - 0x30 else d.toNat - 0x37)) 0

def numbers (cs : List Char) : List Nat :=
  ((parts (· == '+') cs).filter fun digits => !digits.isEmpty).map number

def entry (read : List Char → α) (cs : List Char) : CodeRange α :=
  let codes := cs.takeWhile (· != ':')
  let first := codes.takeWhile (· != '-')
  ⟨number first, number (if first.length = codes.length then first
    else codes.drop (first.length + 1)), read (cs.drop (codes.length + 1))⟩

def ofText (read : List Char → α) (text : String) : CodeTable α :=
  let entries := parts (fun c => c == ' ' || c == '\n') text.toList
  ⟨((entries.filter fun cs => !cs.isEmpty).map (entry read)).toArray⟩

def ofCodes (text : String) : CodeTable Unit := ofText (fun _ => ()) text

end CodeTable

end ApiSuite.Text
