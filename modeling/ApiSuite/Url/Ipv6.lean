import ApiSuite.Url.Ipv4

/-! # IPv6 hosts

Eight pieces of up to four hexadecimal digits between colons. A double colon stands once for all
the zero pieces that are left out, and the last two pieces may be written as four decimal bytes.
-/
namespace ApiSuite.Url.Ipv6

/-- Pieces read so far. The gap, once there is one, is the number of pieces before the place where
zero pieces may be missing. -/
structure Reading where
  pieces : List Nat
  gap : Option Nat

namespace Reading

def count (r : Reading) : Nat := r.pieces.length

def push (r : Reading) (piece : Nat) : Reading := { r with pieces := r.pieces ++ [piece] }

/-- A gap takes at least one zero piece. -/
def open? (r : Reading) : Option Reading :=
  if r.gap.isSome then none else some ⟨r.pieces ++ [0], some (r.count + 1)⟩

def finish? (r : Reading) : Option (List Nat) :=
  match r.gap with
  | some n => some (r.pieces.take n ++ List.replicate (8 - r.count) 0 ++ r.pieces.drop n)
  | none => if r.count = 8 then some r.pieces else none

end Reading

/-- A decimal byte without leading zeros. -/
def decimalByte? (cs : List Char) : Option Nat :=
  if cs.isEmpty || !cs.all Text.isDigit || (cs.head? = some '0' && 1 < cs.length) then none
  else if Text.decimalValue cs < 256 then some (Text.decimalValue cs) else none

def embedded? (cs : List Char) : Option (Nat × Nat) :=
  match (labels cs).mapM decimalByte? with
  | some [a, b, c, d] => some (256 * a + b, 256 * c + d)
  | _ => none

def pieceDigits (cs : List Char) : List Char := (cs.take 4).takeWhile isHexDigit

def read (r : Reading) (cs : List Char) : Option Reading :=
  match cs with
  | [] => some r
  | ':' :: rest =>
    if r.count = 8 then none
    else match r.open? with
      | none => none
      | some r => read r rest
  | c :: more =>
    if r.count = 8 then none
    else
      let digits := pieceDigits (c :: more)
      match _h : (c :: more).drop digits.length with
      | [] => some (r.push (Ipv4.digitsValue 16 digits))
      | ':' :: rest =>
        if rest.isEmpty then none else read (r.push (Ipv4.digitsValue 16 digits)) rest
      | '.' :: _ =>
        if digits.isEmpty || 6 < r.count then none
        else match embedded? (c :: more) with
          | none => none
          | some (high, low) => some ((r.push high).push low)
      | _ => none
  termination_by cs.length
  decreasing_by
    · simp
    · have hlength := congrArg List.length _h
      simp only [List.length_drop, List.length_cons] at hlength ⊢
      omega

def parse (cs : List Char) : Except UrlError (List Nat) :=
  let reading := match cs with
    | ':' :: ':' :: rest => read ⟨[0], some 1⟩ rest
    | ':' :: _ => none
    | [] => none
    | [_] => none
    | _ => read ⟨[], none⟩ cs
  match reading.bind Reading.finish? with
  | some pieces => .ok pieces
  | none => .error .invalidIpv6

end ApiSuite.Url.Ipv6
