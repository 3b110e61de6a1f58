/-! # Bytes as text

A byte sequence is read as UTF-8 into symbols: the characters it spells and, where it spells none,
the stray bytes. A stray run is the longest start of some character's spelling that breaks off, or
a single byte that starts no spelling; so the reading never fails and loses nothing. Strict and
lenient readings are views of the same symbols.
-/
namespace ApiSuite.Text

inductive Symbol where
  | char (c : Char)
  | stray (bytes : List UInt8)
  deriving DecidableEq

namespace Symbol

def width : Symbol → Nat
  | char c => c.utf8Size
  | stray bytes => bytes.length

def toChar? : Symbol → Option Char
  | char c => some c
  | stray _ => none

end Symbol

def symbols (cs : List Char) : List Symbol := cs.map .char

/-- The ranges allowed for the bytes after a leading byte; none for a byte that leads nothing. -/
def continuation (b : UInt8) : List (UInt8 × UInt8) :=
  if 0xC2 ≤ b && b ≤ 0xDF then [(0x80, 0xBF)]
  else if b == 0xE0 then [(0xA0, 0xBF), (0x80, 0xBF)]
  else if b == 0xED then [(0x80, 0x9F), (0x80, 0xBF)]
  else if 0xE1 ≤ b && b ≤ 0xEF then [(0x80, 0xBF), (0x80, 0xBF)]
  else if b == 0xF0 then [(0x90, 0xBF), (0x80, 0xBF), (0x80, 0xBF)]
  else if 0xF1 ≤ b && b ≤ 0xF3 then [(0x80, 0xBF), (0x80, 0xBF), (0x80, 0xBF)]
  else if b == 0xF4 then [(0x80, 0x8F), (0x80, 0xBF), (0x80, 0xBF)]
  else []

/-- The character spelled by a complete sequence of two to four bytes. -/
def assemble : List UInt8 → Char
  | [] => Char.ofNat 0
  | lead :: tails =>
    let high := if lead < 0xE0 then lead &&& 0x1F else if lead < 0xF0 then lead &&& 0x0F
      else lead &&& 0x07
    Char.ofNat (tails.foldl (fun n b => n * 64 + (b &&& 0x3F).toNat) high.toNat)

/-- A spelling under way: the bytes seen and the ranges of those still to come. -/
structure Partial where
  bytes : List UInt8
  expected : List (UInt8 × UInt8)

namespace Partial

def idle : Partial := ⟨[], []⟩

/-- What a byte between two characters yields, and the spelling it opens. -/
def start (b : UInt8) : List Symbol × Partial :=
  if b < 0x80 then ([.char (Char.ofNat b.toNat)], idle)
  else match continuation b with
    | [] => ([.stray [b]], idle)
    | expected => ([], ⟨[b], expected⟩)

def step (p : Partial) (b : UInt8) : List Symbol × Partial :=
  match p.expected with
  | [] => start b
  | (lo, hi) :: more =>
    if lo ≤ b && b ≤ hi then
      match more with
      | [] => ([.char (assemble (p.bytes ++ [b]))], idle)
      | _ => ([], ⟨p.bytes ++ [b], more⟩)
    else
      let (out, next) := start b
      (.stray p.bytes :: out, next)

def finish (p : Partial) : List Symbol :=
  if p.bytes.isEmpty then [] else [.stray p.bytes]

def run (p : Partial) : List UInt8 → List Symbol
  | [] => p.finish
  | b :: rest =>
    let (out, next) := p.step b
    out ++ run next rest

end Partial

def decode (bytes : List UInt8) : List Symbol := Partial.idle.run bytes

def encode (s : String) : List UInt8 := s.toList.flatMap String.utf8EncodeChar

/-- Where a byte sequence stops being text: the offset of the first stray byte, and how many bytes
are at fault there, unless the sequence ends in the middle of a character. -/
structure Malformed where
  offset : Nat
  length : Option Nat
  deriving DecidableEq

def Malformed.message (m : Malformed) : String :=
  match m.length with
  | some n => s!"invalid utf-8 sequence of {n} bytes from index {m.offset}"
  | none => s!"incomplete utf-8 byte sequence from index {m.offset}"

def firstStray (offset : Nat) : List Symbol → Option Malformed
  | [] => none
  | .char c :: rest => firstStray (offset + c.utf8Size) rest
  | .stray bytes :: rest =>
    let breaksOff := rest.isEmpty && (bytes.head?.map fun b => !(continuation b).isEmpty) == some true
    some ⟨offset, if breaksOff then none else some bytes.length⟩

/-- The strict reading: every byte has to belong to a character. -/
def toText (bytes : List UInt8) : Except Malformed String :=
  let read := decode bytes
  match firstStray 0 read with
  | some m => .error m
  | none => .ok (.ofList (read.filterMap Symbol.toChar?))

/-- The lenient reading: each stray run becomes one replacement character. -/
def toTextLossy (bytes : List UInt8) : String :=
  .ofList ((decode bytes).map fun s => s.toChar?.getD (Char.ofNat 0xFFFD))

end ApiSuite.Text
