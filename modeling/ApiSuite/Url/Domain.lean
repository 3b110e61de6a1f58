import ApiSuite.Text.Composed
import ApiSuite.Text.Utf8
import ApiSuite.Url.Domain.Label
import ApiSuite.Url.Domain.Mapping
import ApiSuite.Url.Ipv4

/-! # Domain names

A domain is read from the bytes of a host. Each character counts as its plain form in lower case,
and what shows nothing does not count. A label may spell characters beyond ASCII with ASCII alone;
then it has to spell ones that count as they are. A domain is sent with all its labels in ASCII.
-/
namespace ApiSuite.Url.Domain

/-- What ASCII characters a domain may not hold, apart from controls and the space. -/
def forbidden : List Char := ['%', '#', '/', ':', '<', '>', '?', '@', '[', '\\', ']', '^', '|']

def isForbidden (c : Char) : Bool := c.toNat ≤ 0x20 || c.toNat == 0x7F || forbidden.contains c

def counted? (cs : List Char) : Option (List Char) := do
  let counted := Text.composed (← cs.mapM mapping?).flatten
  if counted.any isForbidden then none else some counted

/-- How long what follows the `xn--` of a label may be. -/
def maxSpelling : Nat := 2000

/-- The characters that a label stands for. Its spelling in ASCII has to add some beyond ASCII. -/
def spelled? : List Char → Option (List Char)
  | 'x' :: 'n' :: '-' :: '-' :: spelling =>
    if spelling.isEmpty || spelling.getLast? = some '-' || maxSpelling < spelling.length then none
    else match Punycode.decode spelling with
      | none => none
      | some label => if counted? label = some label then some label else none
  | label => some label

def labels? (domain : List Char) : Option (List (List Char)) := do
  let labels ← (labels domain).mapM spelled?
  if labels.all isSound && (!labels.any (·.any runsLeftwards) || labels.all isDirected) then
    some labels
  else none

def parse (bytes : List UInt8) : Except UrlError (List Char) :=
  match Text.toText bytes with
  | .error _ => .error .invalidDomain
  | .ok text => match (counted? text.toList).bind labels? with
    | none => .error .invalidDomain
    | some labels => .ok (['.'].intercalate (labels.map labelText))

end ApiSuite.Url.Domain
