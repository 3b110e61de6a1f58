import ApiSuite.Json.Reader

/-! # Skipping a value

The value of a field that nobody asks for is passed over without being read: numbers may be of any
size, surrogates stand alone, and any depth of nesting is allowed. A stack holds the containers
that are open, the innermost first.
-/
namespace ApiSuite.Json.Reader

open Text

inductive Container where
  | list
  | object
  deriving DecidableEq

def skipDigits : Reader Unit := do
  let _ ← digits

def skipExponent : Reader Unit := do
  advance
  match ← peek with
  | some (.char '+') | some (.char '-') => advance
  | _ => pure ()
  match ← peek with
  | some (.char c) => if isDigit c then skipDigits else fail .invalidNumber 1
  | _ => fail .invalidNumber 1

def skipDecimals : Reader Unit := do
  advance
  if (← digits).isEmpty then fail .invalidNumber 1
  match ← peek with
  | some (.char 'e') | some (.char 'E') => skipExponent
  | _ => return

def skipNumber : Reader Unit := do
  match ← peek with
  | some (.char '0') => do
    advance
    match ← peek with
    | some (.char c) => if isDigit c then fail .invalidNumber 1
    | _ => pure ()
  | some (.char c) => if isDigit c then skipDigits else fail .invalidNumber 1
  | _ => fail .invalidNumber 1
  match ← peek with
  | some (.char '.') => skipDecimals
  | some (.char 'e') | some (.char 'E') => skipExponent
  | _ => return

/-- Passes over a string after its opening quote. A control character is reported before it. -/
def skipString : Nat → Reader Unit
  | 0 => fail .unfinishedString
  | fuel + 1 => do
    match ← get with
    | [] => fail .unfinishedString
    | .char '"' :: rest => set rest
    | .char '\\' :: rest => do
      set rest
      match ← peek with
      | none => fail .unfinishedString
      | some (.char 'u') => do
        advance
        let _ ← hexEscape
      | some (.char c) =>
        if ['"', '\\', '/', 'b', 'f', 'n', 'r', 't'].contains c then advance
        else fail .invalidEscape 1
      | some (.stray _) => fail .invalidEscape 1
      skipString fuel
    | .char c :: rest =>
      if c.toNat < 0x20 then fail .controlCharacter
      else do
        set rest
        skipString fuel
    | .stray _ :: rest => do
      set rest
      skipString fuel

/-- Closes containers as long as they end here. What is left is the stack of the container that
goes on with another element, or nothing when the outermost one was closed. -/
def closeContainers (comma : Bool) : List Container → Reader (List Container)
  | [] => return []
  | top :: outer => do
    blanks
    match ← peek with
    | none => fail (if top = .list then .unfinishedList else .unfinishedObject) 1
    | some s =>
      if s = .char ',' ∧ comma then do
        advance
        return top :: outer
      else if s = (if top = .list then .char ']' else .char '\x7d') then do
        advance
        closeContainers true outer
      else if comma then
        fail (if top = .list then .expectedListCommaOrEnd else .expectedObjectCommaOrEnd) 1
      else return top :: outer

def skipKey (limits : Limits) : Reader Unit := do
  blanks
  match ← peek with
  | none => fail .unfinishedObject 1
  | some s =>
    if s = .char '"' then do
      advance
      skipString limits.items
      colon
    else fail .keyMustBeString 1

/-- Passes over one value, inside the containers on the stack, and over the rest of them. -/
def skipValues (limits : Limits) : Nat → List Container → Reader Unit
  | 0, _ => fail .unfinishedValue
  | fuel + 1, stack => do
    let opened ← do
      match ← peekValue with
      | .char 'n' => do word ['n', 'u', 'l', 'l']; pure none
      | .char 't' => do word ['t', 'r', 'u', 'e']; pure none
      | .char 'f' => do word ['f', 'a', 'l', 's', 'e']; pure none
      | .char '-' => do advance; skipNumber; pure none
      | .char '"' => do advance; skipString limits.items; pure none
      | .char '[' => do advance; pure (some Container.list)
      | .char '\x7b' => do advance; pure (some Container.object)
      | .char c => do
        if isDigit c then skipNumber else fail .expectedValue 1
        pure none
      | .stray _ => fail .expectedValue 1
    let stack ← match opened with
      | none => closeContainers true stack
      | some c => closeContainers false (c :: stack)
    match stack with
    | [] => return
    | .list :: _ => skipValues limits fuel stack
    | .object :: _ => do
      skipKey limits
      skipValues limits fuel stack

def skipValue (limits : Limits) : Reader Unit := skipValues limits limits.items []

end ApiSuite.Json.Reader
