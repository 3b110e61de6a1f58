import ApiSuite.Json.Fault
import ApiSuite.Text.Basic

/-! # Reading JSON text

A reader takes a value off the front of the input or stops at the first fault. It works on symbols,
so that a byte sequence that is not text can be read up to the fault like any other. The nesting of
containers is bounded; all loops are bounded by the number of symbols in the document, which no
loop can exceed because each round takes at least one symbol.
-/
namespace ApiSuite.Json

open Text

abbrev Input := List Symbol

abbrev Reader := StateT Input (Except Fault)

/-- How many containers may still be opened, and how many rounds a loop may take. -/
structure Limits where
  depth : Nat
  items : Nat

def maxDepth : Nat := 127

namespace Reader

variable {α : Type}

def fail (cause : Cause) (bytes : Nat := 0) : Reader α := fun input =>
  .error ⟨cause, input, bytes, true⟩

def isBlank (s : Symbol) : Bool :=
  s == .char ' ' || s == .char '\n' || s == .char '\t' || s == .char '\r'

def blanks : Reader Unit := modify fun input => input.dropWhile isBlank

def peek : Reader (Option Symbol) := return (← get).head?

def advance : Reader Unit := modify List.tail

/-- The first symbol of a value, which stays in the input. -/
def peekValue : Reader Symbol := do
  blanks
  match ← peek with
  | none => fail .unfinishedValue 1
  | some s => return s

def word : List Char → Reader Unit
  | [] => return
  | c :: rest => do
    match ← peek with
    | none => fail .unfinishedValue
    | some s => if s = .char c then do advance; word rest else fail .expectedIdent 1

/-! ## Numbers -/

def spanDigits : Input → List Char × Input
  | .char c :: rest =>
    if isDigit c then
      let (ds, rest) := spanDigits rest
      (c :: ds, rest)
    else ([], .char c :: rest)
  | input => ([], input)

def digits : Reader (List Char) := do
  let (ds, rest) := spanDigits (← get)
  set rest
  return ds

/-- Digits are collected as long as they fit into 64 bits. -/
def maxSignificand : Nat := Nat.pow 2 64 - 1

def maxExponent : Nat := Nat.pow 2 31 - 1

/-- The significand of the whole part, and how many of its digits did not fit. -/
def wholePart (significand : Nat) : List Char → Nat × Nat
  | [] => (significand, 0)
  | d :: rest =>
    let next := 10 * significand + digitValue d
    if next ≤ maxSignificand then wholePart next rest else (significand, rest.length + 1)

/-- The significand after the decimals that fit, and how many those are. -/
def decimalPart (significand : Nat) : List Char → Nat × Nat
  | [] => (significand, 0)
  | d :: rest =>
    let next := 10 * significand + digitValue d
    if next ≤ maxSignificand then
      let (s, n) := decimalPart next rest
      (s, n + 1)
    else (significand, 0)

def real (negative : Bool) (significand : Nat) (exponent : Int) : Reader Number :=
  match Binary64.ofDecimal? significand exponent with
  | none => fail .numberOutOfRange
  | some x => return .real (x.withSign negative)

/-- The digits of an exponent after the first one, or the input after the digit too many. -/
def exponentDigits (e : Nat) : Input → Except Input (Nat × Input)
  | .char c :: rest =>
    if isDigit c then
      let next := 10 * e + digitValue c
      if maxExponent < next then .error rest else exponentDigits next rest
    else .ok (e, .char c :: rest)
  | input => .ok (e, input)

/-- The number after its exponent mark, which is still in the input. -/
def exponent (negative : Bool) (significand : Nat) (shift : Int) : Reader Number := do
  advance
  let down ← do
    match ← peek with
    | some (.char '+') => do advance; pure false
    | some (.char '-') => do advance; pure true
    | _ => pure false
  match ← get with
  | [] => fail .unfinishedValue
  | .char c :: rest =>
    if isDigit c then
      match exponentDigits (digitValue c) rest with
      | .ok (e, rest) => do
        set rest
        real negative significand (if down then shift - e else shift + e)
      | .error rest => do
        set rest
        if significand ≠ 0 ∧ ¬down then fail .numberOutOfRange
        else do
          let _ ← digits
          return .real (Binary64.zero.withSign negative)
    else fail .invalidNumber 1
  | _ => fail .invalidNumber 1

/-- The number after its decimal point, which is still in the input. -/
def decimals (negative : Bool) (significand : Nat) (shift : Int) : Reader Number := do
  advance
  let ds ← digits
  if ds.isEmpty then
    match ← peek with
    | none => fail .unfinishedValue 1
    | some _ => fail .invalidNumber 1
  let (significand, used) := decimalPart significand ds
  let shift := shift - used
  match ← peek with
  | some (.char 'e') | some (.char 'E') => exponent negative significand shift
  | _ => real negative significand shift

/-- An integer keeps its exact value when 64 bits hold it. Minus zero is a binary64 number. -/
def integer (negative : Bool) (significand dropped : Nat) : Reader Number :=
  if dropped = 0 ∧ ¬negative then return .int significand
  else if dropped = 0 ∧ 0 < significand ∧ significand ≤ Nat.pow 2 63 then
    return .int (-significand)
  else real negative significand dropped

def afterWhole (negative : Bool) (significand dropped : Nat) : Reader Number := do
  match ← peek with
  | some (.char '.') => decimals negative significand dropped
  | some (.char 'e') | some (.char 'E') => exponent negative significand dropped
  | _ => integer negative significand dropped

def number (negative : Bool) : Reader Number := do
  match ← get with
  | [] => fail .unfinishedValue
  | .char '0' :: _ => do
    advance
    match ← peek with
    | some (.char c) =>
      if isDigit c then fail .invalidNumber 1 else afterWhole negative 0 0
    | _ => afterWhole negative 0 0
  | .char c :: _ =>
    if isDigit c then do
      let (significand, dropped) := wholePart 0 (← digits)
      afterWhole negative significand dropped
    else fail .invalidNumber 1
  | .stray _ :: _ => fail .invalidNumber 1

/-! ## Strings -/

def hexValue? : Symbol → Option Nat
  | .char c =>
    let n := c.toNat
    if 48 ≤ n ∧ n ≤ 57 then some (n - 48)
    else if 97 ≤ n ∧ n ≤ 102 then some (n - 87)
    else if 65 ≤ n ∧ n ≤ 70 then some (n - 55)
    else none
  | .stray _ => none

def hasBytes : Nat → Input → Bool
  | 0, _ => true
  | _, [] => false
  | n + 1, s :: rest => hasBytes (n + 1 - s.width) rest
  termination_by _ input => input.length

def hexEscape : Reader Nat := do
  let input ← get
  let value? := do
    let a ← hexValue? (← input[0]?)
    let b ← hexValue? (← input[1]?)
    let c ← hexValue? (← input[2]?)
    let d ← hexValue? (← input[3]?)
    return ((a * 16 + b) * 16 + c) * 16 + d
  match value? with
  | some n => do
    set (input.drop 4)
    return n
  | none =>
    if hasBytes 4 input then fail .invalidEscape 4
    else do
      set ([] : Input)
      fail .unfinishedString

def expectInPair (c : Char) : Reader Unit := do
  match ← peek with
  | none => fail .unfinishedString
  | some s => if s = .char c then advance else fail .unfinishedSurrogatePair 1

def unicodeEscape : Reader Char := do
  let high ← hexEscape
  if 0xDC00 ≤ high ∧ high ≤ 0xDFFF then fail .loneSurrogate
  else if high < 0xD800 ∨ 0xDBFF < high then return Char.ofNat high
  else do
    expectInPair '\\'
    expectInPair 'u'
    let low ← hexEscape
    if low < 0xDC00 ∨ 0xDFFF < low then fail .loneSurrogate
    else return Char.ofNat ((high - 0xD800) * 0x400 + (low - 0xDC00) + 0x10000)

def escape : Reader Char := do
  match ← peek with
  | none => fail .unfinishedString
  | some s => match s with
    | .char '"' => do advance; return '"'
    | .char '\\' => do advance; return '\\'
    | .char '/' => do advance; return '/'
    | .char 'b' => do advance; return '\x08'
    | .char 'f' => do advance; return '\x0c'
    | .char 'n' => do advance; return '\n'
    | .char 'r' => do advance; return '\r'
    | .char 't' => do advance; return '\t'
    | .char 'u' => do advance; unicodeEscape
    | _ => fail .invalidEscape 1

def byteCount (symbols : List Symbol) : Nat := symbols.foldl (fun n s => n + s.width) 0

/-- The text that the symbols between two quotes spell. Bytes that are no text are a fault. It is
placed by counting back from after the closing quote as many bytes as the symbols take, and from
there to the first stray one; an escape is longer than what it spells, so the place found lies
behind when there are any. -/
def spelled (start after : Input) (seen : List Symbol) : Except Fault String :=
  match seen.mapM Symbol.toChar? with
  | some cs => .ok (.ofList cs)
  | none =>
    let sound := seen.takeWhile fun s => s.toChar?.isSome
    let read := start.take (start.length - after.length)
    .error ⟨.invalidCodePoint, start, byteCount read - byteCount seen + byteCount sound, true⟩

/-- A string after its opening quote, where the input is `start`, up to its closing one. The
symbols seen so far are in reverse. -/
def stringTail (start : Input) : Nat → List Symbol → Reader String
  | 0, _ => fail .unfinishedString
  | fuel + 1, seen => do
    match ← get with
    | [] => fail .unfinishedString
    | .char '"' :: rest => do
      set rest
      spelled start rest seen.reverse
    | .char '\\' :: rest => do
      set rest
      let c ← escape
      stringTail start fuel (.char c :: seen)
    | .char c :: rest =>
      if c.toNat < 0x20 then fail .controlCharacter 1
      else do
        set rest
        stringTail start fuel (.char c :: seen)
    | .stray bytes :: rest => do
      set rest
      stringTail start fuel (.stray bytes :: seen)

def string (limits : Limits) : Reader String := do
  advance
  stringTail (← get) limits.items []

/-! ## Containers -/

def hasElement (first : Bool) : Reader Bool := do
  blanks
  match ← peek with
  | none => fail .unfinishedList 1
  | some (.char ']') => return false
  | some s =>
    if first then return true
    else if s = .char ',' then do
      advance
      blanks
      match ← peek with
      | none => fail .unfinishedValue 1
      | some (.char ']') => fail .trailingComma 1
      | some _ => return true
    else fail .expectedListCommaOrEnd 1

/-- Whether another field follows in an object; then its quote is next. -/
def hasField (first : Bool) : Reader Bool := do
  blanks
  match ← peek with
  | none => fail .unfinishedObject 1
  | some (.char '\x7d') => return false
  | some s =>
    if first then
      if s = .char '"' then return true else fail .keyMustBeString 1
    else if s = .char ',' then do
      advance
      blanks
      match ← peek with
      | none => fail .unfinishedValue 1
      | some (.char '"') => return true
      | some (.char '\x7d') => fail .trailingComma 1
      | some _ => fail .keyMustBeString 1
    else fail .expectedObjectCommaOrEnd 1

def colon : Reader Unit := do
  blanks
  match ← peek with
  | none => fail .unfinishedObject 1
  | some s => if s = .char ':' then advance else fail .expectedColon 1

def elements (item : Reader α) : Nat → Bool → Reader (List α)
  | 0, _ => fail .unfinishedList
  | fuel + 1, first => do
    if ← hasElement first then
      let v ← item
      return v :: (← elements item fuel false)
    else return []

def members (limits : Limits) (item : Reader α) : Nat → Bool → Reader (List (String × α))
  | 0, _ => fail .unfinishedObject
  | fuel + 1, first => do
    if ← hasField first then
      let k ← string limits
      colon
      let v ← item
      return (k, v) :: (← members limits item fuel false)
    else return []

/-! ## Values -/

def valueWith (limits : Limits) (inner : Option (Reader Json)) : Reader Json := do
  match ← peekValue with
  | .char 'n' => do word ['n', 'u', 'l', 'l']; return .null
  | .char 't' => do word ['t', 'r', 'u', 'e']; return .bool true
  | .char 'f' => do word ['f', 'a', 'l', 's', 'e']; return .bool false
  | .char '-' => do advance; return .num (← number true)
  | .char '"' => return .str (← string limits)
  | .char '[' =>
    match inner with
    | none => fail .tooDeep 1
    | some inner => do
      advance
      let items ← elements inner limits.items true
      advance
      return .arr items
  | .char '\x7b' =>
    match inner with
    | none => fail .tooDeep 1
    | some inner => do
      advance
      let fields ← members limits inner limits.items true
      advance
      return .obj (Entries.ofList fields)
  | .char c => if isDigit c then return .num (← number false) else fail .expectedValue 1
  | .stray _ => fail .expectedValue 1

def value (limits : Limits) : Nat → Reader Json
  | 0 => valueWith limits none
  | depth + 1 => valueWith limits (some (value limits depth))

end Reader

/-- Reads a whole document: one value and then nothing but blanks. -/
def readDocument {α : Type} (read : Limits → Reader α) (input : Input) : Except Error α :=
  let whole : Reader α := do
    let v ← read ⟨maxDepth, input.length + 1⟩
    Reader.blanks
    if (← Reader.peek).isSome then Reader.fail .trailingCharacters 1
    return v
  match whole input with
  | .ok (v, _) => .ok v
  | .error f => .error (f.locate input)

def parse (text : String) : Except Error Json :=
  readDocument (fun limits => Reader.value limits limits.depth) (symbols text.toList)

def parseBytes (bytes : List UInt8) : Except Error Json :=
  readDocument (fun limits => Reader.value limits limits.depth) (decode bytes)

end ApiSuite.Json
