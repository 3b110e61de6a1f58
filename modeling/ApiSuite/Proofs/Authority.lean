import ApiSuite.Proofs.HostCharacters
import ApiSuite.Proofs.Trimming
import ApiSuite.Url.Resource
import Mathlib.Data.List.Basic

/-! # The authority of a web URL

The parts of a URL of a web scheme can be read one by one, and what follows the authority plays no
part in how the authority is read. An authority that ends in a blank or a control of ASCII is always
refused: neither user information nor a number ends in one, and a host may not hold it.
-/
namespace ApiSuite.Url
open Text

/-! ## User information, host and number -/

theorem getLast?_splitUserinfo {authority : List Char} {c : Char} (h : authority.getLast? = some c)
    (hat : c ≠ '@') : (splitUserinfo authority).2.getLast? = some c := by
  unfold splitUserinfo
  dsimp only
  split
  · exact h
  · rw [List.getLast?_reverse]
    rw [← List.head?_reverse] at h
    cases hrev : authority.reverse with
    | nil =>
      rw [hrev] at h
      cases h
    | cons first more =>
      rw [hrev] at h
      obtain rfl := Option.some.inj h
      rw [List.takeWhile_cons_of_pos (by simpa using hat)]
      rfl

theorem splitHost_append (inBrackets : Bool) (address : List Char) :
    (splitHost inBrackets address).1 ++ (splitHost inBrackets address).2 = address := by
  induction address generalizing inBrackets with
  | nil => rfl
  | cons c rest ih =>
    rw [splitHost]
    split
    · rfl
    · exact congrArg (c :: ·) (ih _)

theorem head?_splitHost (inBrackets : Bool) (address : List Char) :
    ∀ c, (splitHost inBrackets address).2.head? = some c → c = ':' := by
  induction address generalizing inBrackets with
  | nil => nofun
  | cons first rest ih =>
    rw [splitHost]
    split
    · rename_i hcolon
      intro c hc
      obtain rfl := Option.some.inj hc
      simp only [Bool.and_eq_true, decide_eq_true_eq] at hcolon
      exact hcolon.1
    · exact ih _

/-- Without a backslash in it a number has to end in a digit. -/
theorem portNumber?_refused {text : List Char} {c : Char} (hlast : text.getLast? = some c)
    (hdigit : isDigit c = false) (hslant : '\\' ∉ text) :
    portNumber? text = .error .invalidPort := by
  have hmem : c ∈ text := List.mem_of_getLast? hlast
  unfold portNumber?
  dsimp only
  cases hrest : text.drop (text.takeWhile isDigit).length with
  | nil =>
    have hlen : text.length ≤ (text.takeWhile isDigit).length := List.drop_eq_nil_iff.1 hrest
    have hall : text.takeWhile isDigit = text :=
      (List.takeWhile_prefix _).eq_of_length_le hlen
    rw [← hall] at hmem
    have hc := List.mem_takeWhile_imp hmem
    rw [hdigit] at hc
    cases hc
  | cons first more =>
    have hfirst : first ∈ text := List.mem_of_mem_drop (hrest ▸ List.mem_cons_self)
    have hne : (first == '\\') = false := beq_eq_false_iff_ne.2 fun heq => hslant (heq ▸ hfirst)
    simp [hne]

theorem isDigit_of_isLow {c : Char} (h : IsLow c) : isDigit c = false := by
  refine Bool.eq_false_iff.2 fun hdigit => ?_
  have hzero : 48 ≤ c.toNat := (Char.isDigit_iff_toNat.1 hdigit).1
  unfold IsLow at h
  omega

theorem portAfter_refused {scheme text : List Char} {c : Char} (hc : IsLow c)
    (hlast : (':' :: text).getLast? = some c) (hslant : '\\' ∉ text) :
    portAfter scheme (':' :: text) = .error .invalidPort := by
  have htext : text.getLast? = some c := by
    cases text with
    | nil =>
      obtain rfl := Option.some.inj hlast
      exact absurd hc (by decide)
    | cons first more => rwa [List.getLast?_cons_cons] at hlast
  have hnumber := portNumber?_refused htext (isDigit_of_isLow hc) hslant
  simp only [portAfter, hnumber]
  rfl

/-- The URL of a web scheme that ends with its authority. -/
def bare (scheme authority : List Char) : Except UrlError Url :=
  let (userinfo, address) := splitUserinfo authority
  let (hostText, after) := splitHost false address
  if hostText.isEmpty then .error .emptyHost
  else do
    let host ← namedHost hostText
    let number ← portAfter scheme after
    return ⟨scheme, userinfo.getD [], some host, number, []⟩

theorem splitUserinfo_subset {authority : List Char} {c : Char}
    (h : c ∈ (splitUserinfo authority).2) : c ∈ authority := by
  unfold splitUserinfo at h
  dsimp only at h
  split at h
  · exact h
  · have hrev := (List.takeWhile_prefix _).subset (List.mem_reverse.1 h)
    exact List.mem_reverse.1 hrev

theorem bare_refused {scheme authority : List Char} {c : Char} (hc : IsLow c)
    (hlast : authority.getLast? = some c) (hslant : '\\' ∉ authority) :
    ∃ e, bare scheme authority = .error e := by
  have hat : c ≠ '@' := by
    rintro rfl
    exact absurd hc (by decide)
  have haddress := getLast?_splitUserinfo hlast hat
  have hslant' : '\\' ∉ (splitUserinfo authority).2 := fun h => hslant (splitUserinfo_subset h)
  have hsplit := splitHost_append false (splitUserinfo authority).2
  have hcolon := head?_splitHost false (splitUserinfo authority).2
  unfold bare
  dsimp only
  generalize splitHost false (splitUserinfo authority).2 = parts at hsplit hcolon ⊢
  obtain ⟨hostText, after⟩ := parts
  dsimp only at hsplit hcolon ⊢
  rw [← hsplit] at haddress hslant'
  split
  · exact ⟨_, rfl⟩
  · cases after with
    | nil =>
      rw [List.append_nil] at haddress
      obtain ⟨e, he⟩ := namedHost_refused hc haddress
      exact ⟨e, by rw [he]; rfl⟩
    | cons first text =>
      obtain rfl := hcolon first rfl
      have hafter : (':' :: text).getLast? = some c := by
        rwa [List.getLast?_append_cons] at haddress
      have hnumber : portAfter scheme (':' :: text) = .error .invalidPort :=
        portAfter_refused hc hafter fun h =>
          hslant' (List.mem_append_right _ (List.mem_cons_of_mem _ h))
      rw [hnumber]
      cases namedHost hostText with
      | error e => exact ⟨e, rfl⟩
      | ok host => exact ⟨.invalidPort, rfl⟩

/-- For the web schemes what follows the authority is only kept. -/
theorem withAuthority_eq {scheme text : List Char} (h : SchemeKind.of scheme = .web) :
    withAuthority scheme text =
      (bare scheme (text.takeWhile fun c => !isDelimiter .web c)).map
        (·.withRest (text.drop (text.takeWhile fun c => !isDelimiter .web c).length)) := by
  unfold withAuthority bare
  rw [h]
  dsimp only
  generalize splitUserinfo (text.takeWhile fun c => !isDelimiter .web c) = parts
  obtain ⟨userinfo, address⟩ := parts
  dsimp only
  cases hhost : (splitHost false address).1.isEmpty with
  | true =>
    rw [if_pos rfl]
    split <;> rfl
  | false =>
    have haddress : address.isEmpty = false := by
      cases address with
      | nil => cases hhost
      | cons => rfl
    rw [haddress, Bool.and_false, Bool.false_and]
    simp only [Bool.false_eq_true, if_false]
    cases namedHost (splitHost false address).1 with
    | error e => rfl
    | ok host => cases portAfter scheme (splitHost false address).2 <;> rfl

/-! ## Reading a URL part by part -/

theorem splitScheme?_eq_some_iff {text scheme rest : List Char} :
    splitScheme? text = some (scheme, rest) ↔
      ∃ name, text = name ++ ':' :: rest ∧ name.head?.any Char.isAlpha = true ∧
        (∀ c ∈ name, isSchemeChar c = true) ∧ name.map Char.toLower = scheme := by
  constructor
  · intro h
    unfold splitScheme? at h
    dsimp only at h
    split at h
    · rename_i rest' hletter hrest
      obtain ⟨rfl, rfl⟩ := Prod.mk.inj (Option.some.inj h)
      refine ⟨text.takeWhile isSchemeChar, ?_, hletter, ?_, rfl⟩
      · rw [← hrest]
        exact (List.prefix_iff_eq_append.1 (List.takeWhile_prefix _)).symm
      · exact fun c hc => List.mem_takeWhile_imp hc
    · cases h
  · rintro ⟨name, rfl, hletter, hname, rfl⟩
    have hrun : (name ++ ':' :: rest).takeWhile isSchemeChar = name := by
      refine takeWhile_run hname fun c hc => ?_
      obtain rfl := Option.some.inj hc
      decide
    simp only [splitScheme?, hrun, hletter, List.drop_left]

theorem scheme_of_withAuthority {scheme text : List Char} {u : Url}
    (h : withAuthority scheme text = .ok u) : u.scheme = scheme := by
  unfold withAuthority at h
  simp only [bind, Except.bind, pure, Except.pure] at h
  repeat' split at h
  all_goals cases h
  all_goals rfl

theorem scheme_of_ofFile {scheme text : List Char} {u : Url} (h : ofFile scheme text = .ok u) :
    u.scheme = scheme := by
  unfold ofFile at h
  simp only [bind, Except.bind, pure, Except.pure] at h
  repeat' split at h
  all_goals cases h
  all_goals rfl

theorem scheme_of_afterScheme {scheme text : List Char} {u : Url}
    (h : afterScheme scheme text = .ok u) : u.scheme = scheme := by
  unfold afterScheme at h
  split at h
  · exact scheme_of_withAuthority h
  · exact scheme_of_ofFile h
  · split at h
    · exact scheme_of_withAuthority h
    · obtain rfl := Except.ok.inj h
      rfl

theorem kind_of_isHttp {u : Url} (h : u.isHttp = true) : SchemeKind.of u.scheme = .web := by
  unfold isHttp at h
  rw [Bool.or_eq_true, beq_iff_eq, beq_iff_eq] at h
  rcases h with h | h <;> rw [h] <;> decide

/-- The parts of a URL of a web scheme as they are written. -/
structure WebForm where
  name : List Char
  slashes : List Char
  authority : List Char
  rest : List Char
  letter : name.head?.any Char.isAlpha = true
  inName : ∀ c ∈ name, isSchemeChar c = true
  web : SchemeKind.of (name.map Char.toLower) = .web
  inSlashes : ∀ c ∈ slashes, isSlash c = true
  named : authority ≠ []
  inAuthority : ∀ c ∈ authority, isDelimiter .web c = false
  behind : ∀ c, rest.head? = some c → isDelimiter .web c = true

namespace WebForm

variable (f : WebForm)

def scheme : List Char := f.name.map Char.toLower

def text : List Char := f.name ++ ':' :: (f.slashes ++ (f.authority ++ f.rest))

theorem parse_eq {text : String} (h : significant text.toList = f.text) :
    parse text = (bare f.scheme f.authority).map (·.withRest f.rest) := by
  have hscheme : splitScheme? (significant text.toList) =
      some (f.scheme, f.slashes ++ (f.authority ++ f.rest)) :=
    splitScheme?_eq_some_iff.2 ⟨f.name, h, f.letter, f.inName, rfl⟩
  have hslashes : (f.slashes ++ (f.authority ++ f.rest)).dropWhile isSlash =
      f.authority ++ f.rest := by
    rw [List.dropWhile_append_of_pos f.inSlashes]
    obtain ⟨first, more, hfirst⟩ := List.exists_cons_of_ne_nil f.named
    have hin := f.inAuthority first (hfirst ▸ List.mem_cons_self)
    rw [hfirst, List.cons_append, List.dropWhile_cons_of_neg]
    simp [isDelimiter] at hin
    simp [isSlash, hin]
  have hauthority : (f.authority ++ f.rest).takeWhile (fun c => !isDelimiter .web c) =
      f.authority := by
    refine takeWhile_run (fun c hc => ?_) fun c hc => ?_
    · rw [f.inAuthority c hc]
      rfl
    · rw [f.behind c hc]
      rfl
  have hweb : SchemeKind.of f.scheme = .web := f.web
  rw [parse, hscheme]
  simp only [afterScheme, hweb, hslashes]
  rw [withAuthority_eq hweb, hauthority, List.drop_left]

theorem exists_bare {text : String} {u : Url} (h : significant text.toList = f.text)
    (hparse : parse text = .ok u) :
    ∃ v, bare f.scheme f.authority = .ok v ∧ v.withRest f.rest = u := by
  rw [f.parse_eq h] at hparse
  cases hbare : bare f.scheme f.authority with
  | error e =>
    rw [hbare] at hparse
    cases hparse
  | ok v =>
    rw [hbare] at hparse
    exact ⟨v, rfl, Except.ok.inj hparse⟩

end WebForm

theorem exists_webForm {text : String} {u : Url} (h : parse text = .ok u)
    (hhttp : u.isHttp = true) : ∃ f : WebForm, significant text.toList = f.text := by
  unfold parse at h
  split at h
  · cases h
  · rename_i scheme rest hscheme
    obtain rfl := scheme_of_afterScheme h
    have hweb := kind_of_isHttp hhttp
    obtain ⟨name, htext, hletter, hname, hlower⟩ := splitScheme?_eq_some_iff.1 hscheme
    simp only [afterScheme, hweb] at h
    rw [withAuthority_eq hweb] at h
    let authority := (rest.dropWhile isSlash).takeWhile fun c => !isDelimiter .web c
    let behind := (rest.dropWhile isSlash).dropWhile fun c => !isDelimiter .web c
    have hnamed : authority ≠ [] := by
      intro hnil
      dsimp only [authority] at hnil
      rw [hnil] at h
      cases h
    refine ⟨⟨name, rest.takeWhile isSlash, authority, behind, hletter, hname, hlower ▸ hweb,
      fun c hc => List.mem_takeWhile_imp hc, hnamed, fun c hc => ?_,
      fun c hc => ?_⟩, ?_⟩
    · simpa using List.mem_takeWhile_imp hc
    · have hnot := List.head?_dropWhile_not (fun c => !isDelimiter .web c) (rest.dropWhile isSlash)
      rw [hc] at hnot
      simpa using hnot
    · simp only [WebForm.text, authority, behind, List.takeWhile_append_dropWhile]
      exact htext

end ApiSuite.Url
