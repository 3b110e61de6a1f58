import ApiSuite.Text.Utf8

/-! # Errors and percent-encoded bytes of URLs

A percent sign and two hexadecimal digits stand for a byte. A percent sign that no two digits
follow stands for itself.
-/
namespace ApiSuite

inductive UrlError where
  | relativeWithoutBase
  | emptyHost
  | invalidPort
  | invalidIpv4
  | invalidIpv6
  | invalidDomain
  | invalidHostCharacter
  deriving DecidableEq

def UrlError.message : UrlError → String
  | relativeWithoutBase => "relative URL without a base"
  | emptyHost => "empty host"
  | invalidPort => "invalid port number"
  | invalidIpv4 => "invalid IPv4 address"
  | invalidIpv6 => "invalid IPv6 address"
  | invalidDomain => "invalid international domain name"
  | invalidHostCharacter => "invalid domain character"

namespace Url

def hexValue? (n : Nat) : Option Nat :=
  if 0x30 ≤ n && n ≤ 0x39 then some (n - 0x30)
  else if 0x41 ≤ n && n ≤ 0x46 then some (n - 0x37)
  else if 0x61 ≤ n && n ≤ 0x66 then some (n - 0x57)
  else none

def isHexDigit (c : Char) : Bool := (hexValue? c.toNat).isSome

def hexByte? (high low : UInt8) : Option UInt8 := do
  let h ← hexValue? high.toNat
  let l ← hexValue? low.toNat
  return UInt8.ofNat (16 * h + l)

def percentDecode : List UInt8 → List UInt8
  | 0x25 :: high :: low :: rest =>
    match hexByte? high low with
    | some b => b :: percentDecode rest
    | none => 0x25 :: percentDecode (high :: low :: rest)
  | b :: rest => b :: percentDecode rest
  | [] => []

def hexDigit (n : Nat) : Char := Char.ofNat (if n < 10 then 0x30 + n else 0x37 + n)

def percentByte (b : UInt8) : List Char := ['%', hexDigit (b.toNat / 16), hexDigit (b.toNat % 16)]

/-- Encodes the control characters, all that is not ASCII and the characters of a set. -/
def percentEncode (set : List Char) (cs : List Char) : List Char :=
  cs.flatMap fun c =>
    if c.toNat < 0x20 || 0x7F ≤ c.toNat || set.contains c then
      (String.utf8EncodeChar c).flatMap percentByte
    else [c]

end Url

end ApiSuite
