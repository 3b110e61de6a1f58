import ApiSuite.Url

/-! # What a URL points to on its host

What follows the authority of a URL is a path, a query and a fragment. The path is written with its
dot segments resolved and with the characters encoded that cannot stand in it. A path that does not
begin with a slash, where there is no authority, is opaque and stays as it is. A reference is read
against the URL of the document that it stands in.
-/
namespace ApiSuite.Url

structure Resource where
  path : List Char
  query : Option (List Char)
  fragment : Option (List Char)
  deriving DecidableEq

namespace Resource

def ofText (rest : List Char) : Resource :=
  let front := rest.takeWhile (· != '#')
  let path := front.takeWhile (· != '?')
  { path
    query := if path.length = front.length then none else some (front.drop (path.length + 1))
    fragment :=
      if front.length = rest.length then none else some (rest.drop (front.length + 1)) }

/-- The schemes with a meaning of their own take slashes of either slant. -/
def isSeparator (kind : SchemeKind) (c : Char) : Bool :=
  c == '/' || (c == '\\' && kind != .other)

def pointed : List Char → List Char
  | '%' :: '2' :: 'e' :: rest => '.' :: pointed rest
  | '%' :: '2' :: 'E' :: rest => '.' :: pointed rest
  | c :: rest => c :: pointed rest
  | [] => []

/-- What has to be encoded in a path, apart from controls and all that is not ASCII. -/
def pathSet : List Char := [' ', '"', '#', '<', '>', '?', '\x60', '\x7b', '\x7d']

def querySet (kind : SchemeKind) : List Char :=
  [' ', '"', '#', '<', '>'] ++ if kind = .other then [] else ['\'']

def fragmentSet : List Char := [' ', '"', '<', '>', '\x60']

/-- A segment as it is sent. A letter with a bar that names a drive is written with a colon. -/
def segmentText (kind : SchemeKind) (isFirst : Bool) (segment : List Char) : List Char :=
  if kind = .file && isFirst && isDriveLetter segment then segment.take 1 ++ [':']
  else percentEncode pathSet segment

/-- The segments without the last one, which stays when it names a drive. They are in reverse. -/
def withoutLast (kind : SchemeKind) : List (List Char) → List (List Char)
  | [] => []
  | [segment] => if kind = .file && isDriveLetter segment then [segment] else []
  | _ :: rest => rest

/-- Resolves dot segments; the segments that stay are collected in reverse. -/
def resolveDots (kind : SchemeKind) (kept : List (List Char)) :
    List (List Char) → List (List Char)
  | [] => kept.reverse
  | segment :: rest =>
    if pointed segment = ['.', '.'] then
      let kept := withoutLast kind kept
      resolveDots kind (if rest.isEmpty then [] :: kept else kept) rest
    else if pointed segment = ['.'] then
      resolveDots kind (if rest.isEmpty then [] :: kept else kept) rest
    else resolveDots kind (segmentText kind kept.isEmpty segment :: kept) rest

/-- The empty segments at the start of the path of a file count only once. -/
def withoutEmptyFront (kind : SchemeKind) (segments : List (List Char)) : List (List Char) :=
  if kind = .file then
    match segments.dropWhile List.isEmpty with
    | [] => [[]]
    | segments => segments
  else segments

def normalPath (kind : SchemeKind) (path : List Char) : List Char :=
  let inner := match path with
    | c :: rest => if isSeparator kind c then rest else path
    | [] => []
  let segments := withoutEmptyFront kind (resolveDots kind [] (Text.parts (isSeparator kind) inner))
  segments.flatMap fun segment => '/' :: segment

/-- The path of a URL. Without an authority, two slashes at its start are kept from being read as
those before one. -/
def pathText (kind : SchemeKind) (hasAuthority : Bool) (path : List Char) : List Char :=
  if kind != .other then normalPath kind path
  else if hasAuthority then if path.isEmpty then [] else normalPath kind path
  else match path with
    | '/' :: _ =>
      let path := normalPath kind path
      if ['/', '/'].isPrefixOf path then '/' :: '.' :: path else path
    | _ => percentEncode [] path

end Resource

variable (u : Url)

def resource : Resource := .ofText u.rest

def kind : SchemeKind := .of u.scheme

def pathText : List Char := Resource.pathText u.kind u.host.isSome u.resource.path

def target : List Char :=
  u.pathText ++ match u.resource.query with
    | none => []
    | some query => '?' :: percentEncode (Resource.querySet u.kind) query

/-- The longest run of zero pieces, by its start and length; the first of equally long ones. -/
def longestGap (pieces : List Nat) : Nat × Nat :=
  (List.range pieces.length).foldl (fun best start =>
    let run := ((pieces.drop start).takeWhile (· == 0)).length
    if best.2 < run then (start, run) else best) (0, 1)

def ipv6Text (pieces : List Nat) : List Char :=
  let write (ps : List Nat) : List Char :=
    [':'].intercalate (ps.map fun p => Nat.toDigits 16 p)
  let (start, run) := longestGap pieces
  if run < 2 then write pieces
  else write (pieces.take start) ++ ':' :: ':' :: write (pieces.drop (start + run))

def hostText : List Char :=
  match u.host with
  | none => []
  | some (.domain name) => name
  | some (.verbatim text) => text
  | some (.ipv4 address) =>
    ['.'].intercalate (([16777216, 65536, 256, 1] : List Nat).map fun unit =>
      Nat.toDigits 10 (address / unit % 256))
  | some (.ipv6 pieces) => '[' :: ipv6Text pieces ++ [']']

def userinfoSet : List Char :=
  Resource.pathSet ++ ['/', ':', ';', '=', '@', '[', '\\', ']', '^', '|']

/-- The name before the first colon of the user information, and the password behind it if that is
not empty. -/
def credentials : List Char × Option (List Char) :=
  let name := u.userinfo.takeWhile (· != ':')
  let password := u.userinfo.drop (name.length + 1)
  (name, if password.isEmpty then none else some password)

def userinfoText : List Char :=
  match u.credentials with
  | ([], none) => []
  | (name, none) => percentEncode userinfoSet name ++ ['@']
  | (name, some password) =>
    percentEncode userinfoSet name ++ ':' :: percentEncode userinfoSet password ++ ['@']

def location : List Char :=
  let authority := if u.host.isNone then [] else
    '/' :: '/' :: u.userinfoText ++ u.hostText ++ match u.portNumber with
      | none => []
      | some number => ':' :: Nat.toDigits 10 number
  u.scheme ++ ':' :: authority ++ u.target

def text : List Char :=
  u.location ++ match u.resource.fragment with
    | none => []
    | some fragment => '#' :: percentEncode Resource.fragmentSet fragment

def withoutUserinfo : Url := { u with userinfo := [] }

/-- The number that is connected to: the one given, or the default of the scheme. -/
def actualPort? : Option Nat := u.portNumber <|> defaultPort? u.scheme

def withRest (rest : List Char) : Url := { u with rest }

def joinRelative (reference : List Char) : Except UrlError Url :=
  let slashes := reference.takeWhile isSlash
  if 2 ≤ slashes.length then withAuthority u.scheme (reference.drop slashes.length)
  else .ok (u.withRest (match reference with
    | [] => u.target
    | '#' :: _ => u.target ++ reference
    | '?' :: _ => u.pathText ++ reference
    | c :: _ =>
      if isSlash c then reference
      else (u.pathText.reverse.dropWhile (· != '/')).reverse ++ reference))

def join (reference : String) : Except UrlError Url :=
  let text := significant reference.toList
  match splitScheme? text with
  | none => u.joinRelative text
  | some (scheme, rest) =>
    if scheme = u.scheme && (rest.takeWhile isSlash).length < 2 then u.joinRelative rest
    else afterScheme scheme rest

end ApiSuite.Url
