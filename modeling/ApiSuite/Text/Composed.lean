import ApiSuite.Text.CombiningClass
import ApiSuite.Text.Composite

/-! # The composed form of a text

Texts that are equal in meaning have one composed form: each composite is split, the marks after a
character are put in the order of their classes, and then all composites are made that can be. A
mark reaches the character that it is to join only if no mark of its own class or a higher one
stands between.
-/
namespace ApiSuite.Text

/-- The characters that a composite is made of after `depth` rounds of splitting. -/
def splitAll : Nat → Char → List Char
  | 0, c => [c]
  | depth + 1, c => match split? c with
    | none => [c]
    | some (a, b) => splitAll depth a ++ [b]

/-- No composite has to be split more often. -/
def splitDepth : Nat := 3

/-- Puts a character before marks in order: after those of a lower class. -/
def placeMark (c : Char) : List Char → List Char
  | [] => [c]
  | d :: rest =>
    if 0 < combiningClass d && combiningClass d < combiningClass c then d :: placeMark c rest
    else c :: d :: rest

def ordered (cs : List Char) : List Char := cs.foldr placeMark []

/-- Makes composites with the character `base`, after which the marks in `held` stand, the last one
first. -/
def compose (base : Char) (held : List Char) : List Char → List Char
  | [] => base :: held.reverse
  | c :: rest =>
    let reaches := held.head?.all fun mark => combiningClass mark < combiningClass c
    match if reaches then join? base c else none with
    | some composite => compose composite held rest
    | none =>
      if combiningClass c = 0 then base :: held.reverse ++ compose c [] rest
      else compose base (c :: held) rest

def composed (cs : List Char) : List Char :=
  let parts := ordered (cs.flatMap (splitAll splitDepth))
  let front := parts.takeWhile fun c => combiningClass c != 0
  front ++ match parts.drop front.length with
    | [] => []
    | base :: rest => compose base [] rest

end ApiSuite.Text
