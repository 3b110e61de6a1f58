import ApiSuite.Text.CombiningClass
import ApiSuite.Text.Direction
import ApiSuite.Text.Joining
import ApiSuite.Text.Mark
import ApiSuite.Url.Punycode

/-! # Labels of domains

What a label may look like on the whole: it does not begin with a mark, has joiners only where they
change how letters are shown, and, in a domain with letters that run leftwards, does not mix the
directions so that it would be shown in an order of its own.
-/
namespace ApiSuite.Url.Domain

open Text

def nonJoiner : Char := Char.ofNat 0x200C

def joiner : Char := Char.ofNat 0x200D

/-! ## Joiners -/

/-- Whether the first letter, transparent ones aside, joins as required. -/
def joinsAs (required : Joining) (letters : List Char) : Bool :=
  match (letters.dropWhile fun c => joining? c == some .transparent).head?.bind joining? with
  | some joining => joining == required || joining == .dual
  | none => false

/-- Whether all joiners are in place. One follows a virama, or it keeps apart two letters that join
each other. The letters in front are in reverse. -/
def joinersFit (front : List Char) : List Char → Bool
  | [] => true
  | c :: rest =>
    let fits :=
      if c = joiner then front.head?.any isVirama
      else if c = nonJoiner then
        front.head?.any isVirama || joinsAs .left front && joinsAs .right rest
      else true
    fits && joinersFit (c :: front) rest

/-! ## Directions -/

def runsLeftwards (c : Char) : Bool :=
  direction c == .rightToLeft || direction c == .arabicNumber

/-- Whether a label in such a domain runs in one direction, which its first character sets. -/
def isDirected : List Char → Bool
  | [] => true
  | first :: rest =>
    let directions := rest.map direction
    let last? := (directions.reverse.dropWhile (· == .mark)).head?
    match direction first with
    | .leftToRight =>
      directions.all (fun d => d != .rightToLeft && d != .arabicNumber)
        && last?.all fun d => d == .leftToRight || d == .europeanNumber
    | .rightToLeft =>
      directions.all (· != .leftToRight)
        && last?.all (fun d => d != .neutral)
        && !(directions.contains .europeanNumber && directions.contains .arabicNumber)
    | _ => false

/-! ## Labels -/

/-- A longer label with characters beyond ASCII is refused. -/
def maxLength : Nat := 1000

def isSound (label : List Char) : Bool :=
  !label.head?.any isMark && joinersFit [] label
    && (label.all Punycode.isAscii || label.length ≤ maxLength)

def labelText (label : List Char) : List Char :=
  if label.all Punycode.isAscii then label
  else 'x' :: 'n' :: '-' :: '-' :: Punycode.encode label

end ApiSuite.Url.Domain
