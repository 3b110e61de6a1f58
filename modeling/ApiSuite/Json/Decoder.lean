import ApiSuite.Json.Skip

/-! # Decoding documents into types

A decoder reads a type from two sources: straight off a text, where a mismatch is reported at its
place and before any later error of the text, and from a value that was read before, where it has
no place. A record starts from its blank value and applies one change per field, so that a field
that may be absent keeps what the blank holds.
-/
namespace ApiSuite.Json

open Text Reader

structure Decoder (α : Type) where
  read : Limits → Reader α
  ofJson : Json → Except Cause α

namespace Reader

variable {α : Type}

/-- Stops with a mismatch that the container around it will place. -/
def mismatch (cause : Cause) : Reader α := fun input => .error ⟨cause, input, 0, false⟩

/-- Reports the value that comes next as one of the wrong kind; a scalar is read first. -/
def wrongKind (limits : Limits) (expected : String) : Reader α := do
  match ← peekValue with
  | .char 'n' => do word ['n', 'u', 'l', 'l']; fail (.invalidType .null expected)
  | .char 't' => do word ['t', 'r', 'u', 'e']; fail (.invalidType (.bool true) expected)
  | .char 'f' => do word ['f', 'a', 'l', 's', 'e']; fail (.invalidType (.bool false) expected)
  | .char '-' => do
    advance
    let n ← number true
    fail (.invalidType (.number n) expected)
  | .char '"' => do
    let s ← string limits
    fail (.invalidType (.str s) expected)
  | .char '[' => fail (.invalidType .sequence expected)
  | .char '\x7b' => fail (.invalidType .map expected)
  | .char c =>
    if isDigit c then do
      let n ← number false
      fail (.invalidType (.number n) expected)
    else fail .expectedValue 1
  | .stray _ => fail .expectedValue 1

def afterList (input : Input) : Input :=
  match input.dropWhile isBlank with
  | .char ']' :: rest => rest
  | .char ',' :: rest => rest.dropWhile isBlank
  | rest => rest

def afterObject (input : Input) : Input :=
  match input.dropWhile isBlank with
  | .char '\x7d' :: rest => rest
  | rest => rest

def closeList : Reader Unit := do
  blanks
  match ← peek with
  | none => fail .unfinishedList 1
  | some (.char ']') => advance
  | some (.char ',') => do
    advance
    blanks
    match ← peek with
    | some (.char ']') => fail .trailingComma 1
    | _ => fail .trailingCharacters 1
  | some _ => fail .trailingCharacters 1

def closeObject : Reader Unit := do
  blanks
  match ← peek with
  | none => fail .unfinishedObject 1
  | some (.char '\x7d') => advance
  | some (.char ',') => fail .trailingComma 1
  | some _ => fail .trailingCharacters 1

/-- Places a mismatch at the end of the container around it. -/
def settle (after : Input → Input) (body : Reader α) : Reader α := fun input =>
  match body input with
  | .error f => .error (if f.settled then f else ⟨f.cause, after f.rest, 0, true⟩)
  | ok => ok

def enter (limits : Limits) (body : Limits → Reader α) : Reader α :=
  match limits.depth with
  | 0 => fail .tooDeep 1
  | depth + 1 => do
    advance
    body { limits with depth := depth }

def list (limits : Limits) (body : Limits → Reader α) : Reader α :=
  enter limits fun limits => settle afterList do
    let v ← body limits
    closeList
    return v

def object (limits : Limits) (body : Limits → Reader α) : Reader α :=
  enter limits fun limits => settle afterObject do
    let v ← body limits
    closeObject
    return v

end Reader

namespace Decoder

variable {α β : Type}

def map (f : α → β) (d : Decoder α) : Decoder β where
  read limits := f <$> d.read limits
  ofJson v := f <$> d.ofJson v

def json : Decoder Json where
  read limits := Reader.value limits limits.depth
  ofJson v := .ok v

def string : Decoder String where
  read limits := do
    match ← peekValue with
    | .char '"' => Reader.string limits
    | _ => wrongKind limits "a string"
  ofJson
    | .str s => .ok s
    | v => .error (.invalidType (found v) "a string")

def bool : Decoder Bool where
  read limits := do
    match ← peekValue with
    | .char 't' => do word ['t', 'r', 'u', 'e']; return true
    | .char 'f' => do word ['f', 'a', 'l', 's', 'e']; return false
    | _ => wrongKind limits "a boolean"
  ofJson
    | .bool b => .ok b
    | v => .error (.invalidType (found v) "a boolean")

def unit : Decoder Unit where
  read limits := do
    match ← peekValue with
    | .char 'n' => word ['n', 'u', 'l', 'l']
    | _ => wrongKind limits "unit"
  ofJson
    | .null => .ok ()
    | v => .error (.invalidType (found v) "unit")

def boundedNat (limit : Nat) (type : String) : Number → Except Cause Nat
  | .int n =>
    if 0 ≤ n ∧ n < limit then .ok n.toNat
    else .error (.invalidValue (.number (.int n)) type)
  | .real x => .error (.invalidType (.number (.real x)) type)

def unsigned (limit : Nat) (type : String) : Decoder Nat where
  read limits := do
    let n ← do
      match ← peekValue with
      | .char '-' => do advance; number true
      | .char c => if isDigit c then number false else wrongKind limits type
      | _ => wrongKind limits type
    match boundedNat limit type n with
    | .ok n => return n
    | .error cause => fail cause
  ofJson
    | .num n => boundedNat limit type n
    | v => .error (.invalidType (found v) type)

def uint64 : Decoder UInt64 := (unsigned (Nat.pow 2 64) "u64").map UInt64.ofNat

def uint32 : Decoder UInt32 := (unsigned (Nat.pow 2 32) "u32").map UInt32.ofNat

def uint16 : Decoder UInt16 := (unsigned (Nat.pow 2 16) "u16").map UInt16.ofNat

def uint8 : Decoder UInt8 := (unsigned (Nat.pow 2 8) "u8").map UInt8.ofNat

def option (d : Decoder α) : Decoder (Option α) where
  read limits := do
    blanks
    match ← peek with
    | some (.char 'n') => do word ['n', 'u', 'l', 'l']; return none
    | _ => some <$> d.read limits
  ofJson
    | .null => .ok none
    | v => some <$> d.ofJson v

def listOf (d : Decoder α) : Decoder (List α) where
  read limits := do
    match ← peekValue with
    | .char '[' =>
      Reader.list limits fun limits => elements (d.read limits) limits.items true
    | _ => wrongKind limits "a sequence"
  ofJson
    | .arr items => items.mapM d.ofJson
    | v => .error (.invalidType (found v) "a sequence")

def surplus (length : Nat) : Cause := .invalidLength length "fewer elements in array"

def pair (d : Decoder α) (e : Decoder β) : Decoder (α × β) where
  read limits := do
    match ← peekValue with
    | .char '[' => Reader.list limits fun limits => do
      if ← hasElement true then
        let a ← d.read limits
        if ← hasElement false then
          let b ← e.read limits
          return (a, b)
        else mismatch (.invalidLength 1 "a tuple of size 2")
      else mismatch (.invalidLength 0 "a tuple of size 2")
    | _ => wrongKind limits "a tuple of size 2"
  ofJson
    | .arr [] => .error (.invalidLength 0 "a tuple of size 2")
    | .arr [v] => do
      let _ ← d.ofJson v
      .error (.invalidLength 1 "a tuple of size 2")
    | .arr (v :: w :: more) => do
      let a ← d.ofJson v
      let b ← e.ofJson w
      if more.isEmpty then return (a, b) else .error (surplus (more.length + 2))
    | v => .error (.invalidType (found v) "a tuple of size 2")

def mapOf (d : Decoder α) : Decoder (SortedMap α) where
  read limits := do
    match ← peekValue with
    | .char '\x7b' => Reader.object limits fun limits =>
      SortedMap.ofList <$> members limits (d.read limits) limits.items true
    | _ => wrongKind limits "a map"
  ofJson
    | .obj fields => do
      let entries ← fields.mapM fun (k, v) => do return (k, ← d.ofJson v)
      return SortedMap.ofList entries
    | v => .error (.invalidType (found v) "a map")

end Decoder

/-! ## Variants -/

variable {α β : Type}

/-- One way to make a value of a choice: by name alone, or with a payload under the name. -/
structure Variant (α : Type) where
  name : String
  alone : Option α
  payload : Decoder α

/-- A variant without payload, which may also be written with `null` as one. -/
def Variant.plain (name : String) (x : α) : Variant α :=
  ⟨name, some x, Decoder.unit.map fun _ => x⟩

def Variant.tagged (name : String) (d : Decoder β) (f : β → α) : Variant α :=
  ⟨name, none, d.map f⟩

def pickVariant (variants : List (Variant α)) (name : String) : Except Cause (Variant α) :=
  match variants.find? fun v => v.name == name with
  | some v => .ok v
  | none => .error (.unknownVariant name (variants.map Variant.name))

def needsPayload : Cause := .invalidType .unitVariant "newtype variant"

def Decoder.choice (variants : List (Variant α)) : Decoder α where
  read limits := do
    match ← peekValue with
    | .char '"' => do
      let name ← Reader.string limits
      match pickVariant variants name with
      | .error cause => fail cause
      | .ok v => match v.alone with
        | some x => return x
        | none => mismatch needsPayload
    | .char '\x7b' => enter limits fun limits => do
      let v ← do
        match ← peekValue with
        | .char '"' => do
          let name ← Reader.string limits
          match pickVariant variants name with
          | .error cause => fail cause
          | .ok v => pure v
        | _ => wrongKind limits "variant identifier"
      colon
      let x ← v.payload.read limits
      blanks
      match ← peek with
      | none => fail .unfinishedObject
      | some s => if s = .char '\x7d' then do advance; return x else fail .expectedValue
    | _ => fail .expectedValue 1
  ofJson
    | .str name => do
      match (← pickVariant variants name).alone with
      | some x => return x
      | none => .error needsPayload
    | .obj [(name, v)] => do (← pickVariant variants name).payload.ofJson v
    | .obj _ => .error (.invalidValue .map "map with a single key")
    | v => .error (.invalidType (found v) "string or map")

/-! ## Records -/

/-- Where a field may be left out. -/
inductive Presence where
  /-- nowhere -/
  | required
  /-- in an object -/
  | optional
  /-- in an object, and at the end of an array -/
  | defaulted
  deriving DecidableEq

structure Field (α : Type) where
  name : String
  presence : Presence
  change : Decoder (α → α)

def Field.of (name : String) (presence : Presence) (d : Decoder β) (set : β → α → α) : Field α :=
  ⟨name, presence, d.map set⟩

/-- A record type: what it is called in messages, what an array of its fields is called, its value
before any field is read, its fields in declaration order, whether other keys are refused, and
what is wrong with a value whose fields are all well formed. -/
structure Record (α : Type) where
  title : String
  arrayTitle : String
  blank : α
  fields : List (Field α)
  strict : Bool := false
  check : α → Option Cause := fun _ => none

namespace Record

variable (r : Record α)

def missing? (seen : List String) : Option Cause :=
  (r.fields.find? fun f => f.presence == .required && !seen.contains f.name).map fun f =>
    .missingField f.name

def finish (seen : List String) (x : α) : Except Cause α :=
  match r.missing? seen with
  | some cause => .error cause
  | none => match r.check x with
    | some cause => .error cause
    | none => .ok x

def readFields (limits : Limits) : Nat → Bool → List String → α → Reader α
  | 0, _, _, _ => fail .unfinishedObject
  | fuel + 1, first, seen, x => do
    if ← hasField first then
      let name ← Reader.string limits
      match r.fields.find? fun f => f.name == name with
      | some f =>
        if seen.contains name then mismatch (.duplicateField name)
        else do
          colon
          let change ← f.change.read limits
          readFields limits fuel false (name :: seen) (change x)
      | none =>
        if r.strict then mismatch (.unknownField name (r.fields.map Field.name))
        else do
          colon
          skipValue limits
          readFields limits fuel false seen x
    else match r.finish seen x with
      | .error cause => mismatch cause
      | .ok x => return x

/-- The fields of a record written as an array; `index` of them have been read. -/
def readElements (limits : Limits) (index : Nat) (x : α) : List (Field α) → Reader α
  | [] => match r.check x with
    | some cause => mismatch cause
    | none => return x
  | f :: rest => do
    if ← hasElement (index == 0) then
      let change ← f.change.read limits
      readElements limits (index + 1) (change x) rest
    else if f.presence = .defaulted then readElements limits (index + 1) x rest
    else mismatch (.invalidLength index r.arrayTitle)

def fromFields (seen : List String) (x : α) : List (String × Json) → Except Cause α
  | [] => r.finish seen x
  | (name, v) :: rest =>
    match r.fields.find? fun f => f.name == name with
    | some f =>
      if seen.contains name then .error (.duplicateField name)
      else do
        let change ← f.change.ofJson v
        fromFields (name :: seen) (change x) rest
    | none =>
      if r.strict then .error (.unknownField name (r.fields.map Field.name))
      else fromFields seen x rest

def fromElements (index : Nat) (x : α) : List (Field α) → List Json → Except Cause α
  | [], [] => match r.check x with
    | some cause => .error cause
    | none => .ok x
  | [], more => .error (Decoder.surplus (index + more.length))
  | f :: rest, [] =>
    if f.presence = .defaulted then fromElements (index + 1) x rest []
    else .error (.invalidLength index r.arrayTitle)
  | f :: rest, v :: more => do
    let change ← f.change.ofJson v
    fromElements (index + 1) (change x) rest more

end Record

/-- A record, as an object with its fields or as an array of them in declaration order. -/
def Decoder.record (r : Record α) : Decoder α where
  read limits := do
    match ← peekValue with
    | .char '[' =>
      Reader.list limits fun limits => r.readElements limits 0 r.blank r.fields
    | .char '\x7b' =>
      Reader.object limits fun limits => r.readFields limits limits.items true [] r.blank
    | _ => wrongKind limits r.title
  ofJson
    | .arr items => r.fromElements 0 r.blank r.fields items
    | .obj fields => r.fromFields [] r.blank fields
    | v => .error (.invalidType (found v) r.title)

def Decoder.parse (d : Decoder α) (text : String) : Except Error α :=
  readDocument d.read (symbols text.toList)

end ApiSuite.Json
