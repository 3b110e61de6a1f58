import ApiSuite.Text.Basic
import ApiSuite.Url.Basic

/-! # IPv4 hosts

A host whose last label is a number is an IPv4 address. Its one to four parts are decimal, octal or
hexadecimal; the last part fills all the bytes that the others leave.
-/
namespace ApiSuite.Url

def labels (host : List Char) : List (List Char) := Text.parts (· == '.') host

namespace Ipv4

def digitsValue (base : Nat) (cs : List Char) : Nat :=
  cs.foldl (fun n c => base * n + (hexValue? c.toNat).getD 0) 0

def radix : List Char → Nat × List Char
  | '0' :: 'x' :: digits => (16, digits)
  | '0' :: 'X' :: digits => (16, digits)
  | '0' :: c :: digits => (8, c :: digits)
  | digits => (10, digits)

def number? (part : List Char) : Option Nat :=
  if part.isEmpty then none
  else
    let (base, digits) := radix part
    if digits.all fun c => (hexValue? c.toNat).any (· < base) then some (digitsValue base digits)
    else none

/-- The labels without an empty one at the end. -/
def parts (host : List Char) : List (List Char) :=
  match (labels host).reverse with
  | [] :: rest => rest.reverse
  | _ => labels host

def endsInNumber (host : List Char) : Bool :=
  match (parts host).getLast? with
  | none => false
  | some last => (!last.isEmpty && last.all Text.isDigit) || (number? last).isSome

/-- The address that numbers make, the first being the most significant byte. -/
def assemble : List Nat → Option Nat
  | [] => none
  | numbers =>
    let last := numbers.getLastD 0
    let front := numbers.dropLast
    if 4 < numbers.length || front.any (255 < ·) || Nat.pow 256 (5 - numbers.length) ≤ last then none
    else some (front.foldl (fun n b => 256 * n + b) 0 * Nat.pow 256 (5 - numbers.length) + last)

def parse (host : List Char) : Except UrlError Nat :=
  match ((parts host).mapM number?).bind assemble with
  | some address => .ok address
  | none => .error .invalidIpv4

end Ipv4

end ApiSuite.Url
