import ApiSuite.Url.Domain
import ApiSuite.Url.Ipv6

/-! # URLs

A URL is read as browsers read it. Blanks and controls around it and line breaks and tabs in it do
not count. After the scheme, the web schemes take any number of slashes of either slant before
their authority: user information up to the last at sign, a host, and a number after a colon.
-/
namespace ApiSuite

inductive Host where
  | domain (name : List Char)
  | ipv4 (address : Nat)
  | ipv6 (pieces : List Nat)
  /-- The host of a scheme that gives it no meaning, and the empty one of a local file. -/
  | verbatim (text : List Char)
  deriving DecidableEq

/-- The parts of a URL; what follows the authority is kept as it was written. A number that is
the default of the scheme is left out. Without an authority there is no host. -/
structure Url where
  scheme : List Char
  userinfo : List Char
  host : Option Host
  portNumber : Option Nat
  rest : List Char
  deriving DecidableEq

namespace Url

inductive SchemeKind where
  | web
  | file
  | other
  deriving DecidableEq

def webSchemes : List (List Char × Nat) :=
  [("http".toList, 80), ("https".toList, 443), ("ws".toList, 80), ("wss".toList, 443),
   ("ftp".toList, 21)]

def defaultPort? (scheme : List Char) : Option Nat :=
  (webSchemes.find? fun s => s.1 == scheme).map Prod.snd

def SchemeKind.of (scheme : List Char) : SchemeKind :=
  if (defaultPort? scheme).isSome then .web
  else if scheme = "file".toList then .file
  else .other

def isPadding (c : Char) : Bool := c.toNat ≤ 0x20

def isBreak (c : Char) : Bool := c == '\t' || c == '\n' || c == '\r'

def significant (text : List Char) : List Char :=
  ((text.dropWhile isPadding).reverse.dropWhile isPadding).reverse.filter fun c => !isBreak c

def isSchemeChar (c : Char) : Bool := c.isAlphanum || c == '+' || c == '-' || c == '.'

def splitScheme? (text : List Char) : Option (List Char × List Char) :=
  let name := text.takeWhile isSchemeChar
  match name.head?.any Char.isAlpha, text.drop name.length with
  | true, ':' :: rest => some (name.map Char.toLower, rest)
  | _, _ => none

def isSlash (c : Char) : Bool := c == '/' || c == '\\'

def isDelimiter (kind : SchemeKind) (c : Char) : Bool :=
  c == '/' || c == '?' || c == '#' || (c == '\\' && kind != .other)

/-- User information before the last at sign, if there is one, and what follows it. -/
def splitUserinfo (authority : List Char) : Option (List Char) × List Char :=
  let after := (authority.reverse.takeWhile (· != '@')).reverse
  if after.length = authority.length then (none, authority)
  else (some (authority.take (authority.length - after.length - 1)), after)

/-- The host before the first colon outside of brackets, and what follows it. -/
def splitHost (inBrackets : Bool) : List Char → List Char × List Char
  | [] => ([], [])
  | c :: rest =>
    if c = ':' && !inBrackets then ([], c :: rest)
    else
      let inside := if c = '[' then true else if c = ']' then false else inBrackets
      let (host, after) := splitHost inside rest
      (c :: host, after)

def ipv6Host (text : List Char) : Except UrlError Host :=
  if text.getLast? = some ']' then Host.ipv6 <$> Ipv6.parse text.tail.dropLast
  else .error .invalidIpv6

def namedHost (text : List Char) : Except UrlError Host :=
  if text.head? = some '[' then ipv6Host text
  else match Domain.parse (percentDecode (Text.encode (.ofList text))) with
    | .error e => .error e
    | .ok domain =>
      if domain.isEmpty then .error .emptyHost
      else if Ipv4.endsInNumber domain then Host.ipv4 <$> Ipv4.parse domain
      else .ok (.domain domain)

/-- What a host that has no meaning may not hold. -/
def forbiddenVerbatim : List Char :=
  [Char.ofNat 0, '\t', '\n', '\r', ' ', '#', '/', ':', '<', '>', '?', '@', '[', '\\', ']', '^', '|']

def verbatimHost (text : List Char) : Except UrlError Host :=
  if text.head? = some '[' then ipv6Host text
  else if text.any forbiddenVerbatim.contains then .error .invalidHostCharacter
  else .ok (.verbatim (percentEncode [] text))

/-- The number that a text after the colon spells, if any; a backslash ends it. -/
def portNumber? (text : List Char) : Except UrlError (Option Nat) :=
  let digits := text.takeWhile Text.isDigit
  let ends := match text.drop digits.length with
    | [] => true
    | c :: _ => c == '\\'
  if !ends || 65535 < Text.decimalValue digits then .error .invalidPort
  else .ok (if digits.isEmpty then none else some (Text.decimalValue digits))

/-- The number after a host, without the default of the scheme. -/
def portAfter (scheme after : List Char) : Except UrlError (Option Nat) :=
  match after with
  | ':' :: text => do
    let number ← portNumber? text
    return if number = defaultPort? scheme then none else number
  | _ => .ok none

def withAuthority (scheme text : List Char) : Except UrlError Url := do
  let kind := SchemeKind.of scheme
  let authority := text.takeWhile fun c => !isDelimiter kind c
  let rest := text.drop authority.length
  let (userinfo, address) := splitUserinfo authority
  if userinfo = some [] && address.isEmpty && !rest.isEmpty then .error .emptyHost
  let (hostText, after) := splitHost false address
  match kind with
  | .other =>
    let host ← verbatimHost hostText
    let number ← if hostText.isEmpty && !after.isEmpty then .error .emptyHost
      else portAfter scheme after
    let named := userinfo.any fun u => !u.isEmpty && u != [':']
    if hostText.isEmpty && named then .error .emptyHost
    return ⟨scheme, userinfo.getD [], some host, number, (after.dropWhile (· != '\\')) ++ rest⟩
  | _ =>
    if hostText.isEmpty then .error .emptyHost
    let host ← namedHost hostText
    let number ← portAfter scheme after
    return ⟨scheme, userinfo.getD [], some host, number, rest⟩

/-- A letter and a colon or a bar, which name no host. -/
def isDriveLetter : List Char → Bool
  | [letter, mark] => letter.isAlpha && (mark == ':' || mark == '|')
  | _ => false

/-- Reads what follows the scheme of a file. The host of a file on this machine is empty. -/
def ofFile (scheme text : List Char) : Except UrlError Url :=
  let on (host : Host) (rest : List Char) : Url := ⟨scheme, [], some host, none, rest⟩
  match text with
  | a :: b :: text =>
    if isSlash a && isSlash b then
      let hostText := text.takeWhile fun c => !isDelimiter .file c
      if hostText.isEmpty || isDriveLetter hostText then .ok (on (.verbatim []) text)
      else do
        let host ← namedHost hostText
        return on (if host = .domain "localhost".toList then .verbatim [] else host)
          (text.drop hostText.length)
    else .ok (on (.verbatim []) (a :: b :: text))
  | _ => .ok (on (.verbatim []) text)

def afterScheme (scheme text : List Char) : Except UrlError Url :=
  match SchemeKind.of scheme with
  | .web => withAuthority scheme (text.dropWhile isSlash)
  | .file => ofFile scheme text
  | .other => match text with
    | '/' :: '/' :: text => withAuthority scheme text
    | _ => .ok ⟨scheme, [], none, none, text⟩

def parse (text : String) : Except UrlError Url :=
  match splitScheme? (significant text.toList) with
  | none => .error .relativeWithoutBase
  | some (scheme, rest) => afterScheme scheme rest

def isHttp (u : Url) : Bool := u.scheme == "http".toList || u.scheme == "https".toList

end Url

end ApiSuite
