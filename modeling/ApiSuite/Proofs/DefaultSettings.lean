import ApiSuite.Proofs.Authority
import ApiSuite.Proofs.HostCharacters
import ApiSuite.Proofs.Utf8
import ApiSuite.Settings

/-! # The default settings

The default settings pass their own check. The host of their server is a word of lower-case letters:
no table says anything of these, so such a word is a domain as it is.
-/
namespace ApiSuite

namespace Text

def IsPlain (c : Char) : Prop := 0x61 ≤ c.toNat ∧ c.toNat ≤ 0x7A

theorem isPlain_of_isLower {c : Char} (h : c.isLower = true) : IsPlain c := by
  unfold Char.isLower at h
  rw [Bool.and_eq_true, decide_eq_true_eq, decide_eq_true_eq] at h
  exact h

/-- A range without any lower-case letter of ASCII. -/
def omitsPlain (last first : Nat) : Bool := decide (last < 0x61) || decide (0x7A < first)

/-- No entry of a table is about a lower-case letter of ASCII. -/
def CodeTable.OmitsPlain {α : Type} (t : CodeTable α) : Prop :=
  ∀ r ∈ t.ranges, omitsPlain r.last r.first = true

def CodeTable.omitsPlain (cs : List Char) : Bool :=
  ((parts (fun c => c == ' ' || c == '\n') cs).filter fun cs => !cs.isEmpty).all fun written =>
    Text.omitsPlain (entry (fun _ => ()) written).last (entry (fun _ => ()) written).first

theorem CodeTable.omitsPlain_ofText {α : Type} {read : List Char → α} {text : String}
    (h : omitsPlain text.toList = true) : (CodeTable.ofText read text).OmitsPlain := by
  intro r hr
  rw [ofText, List.mem_toArray, List.mem_map] at hr
  obtain ⟨written, hwritten, rfl⟩ := hr
  exact List.all_eq_true.1 h written hwritten

theorem omitsPlain_marks : marks.OmitsPlain := by
  refine CodeTable.omitsPlain_ofText ?_
  rw [show String.toList _ = _ from String.toList_ofList]
  decide +kernel

theorem omitsPlain_combiningClasses : combiningClasses.OmitsPlain := by
  refine CodeTable.omitsPlain_ofText ?_
  rw [show String.toList _ = _ from String.toList_ofList]
  decide +kernel

theorem omitsPlain_directions : directions.OmitsPlain := by
  refine CodeTable.omitsPlain_ofText ?_
  rw [show String.toList _ = _ from String.toList_ofList]
  decide +kernel

theorem CodeTable.find?_eq_none {α : Type} {t : CodeTable α} (ht : t.OmitsPlain) {c : Char}
    (hc : IsPlain c) : t.find? c = none := by
  cases hfound : t.find? c with
  | none => rfl
  | some range =>
    have homits := ht range (mem_of_search hfound)
    have hbounds := bounds_of_search hfound
    unfold Text.omitsPlain at homits
    rw [Bool.or_eq_true, decide_eq_true_eq, decide_eq_true_eq] at homits
    unfold IsPlain at hc
    omega

/-! ## Composition -/

theorem combiningClass_of_isPlain {c : Char} (h : IsPlain c) : combiningClass c = 0 := by
  rw [combiningClass, CodeTable.value?, CodeTable.find?_eq_none omitsPlain_combiningClasses h]
  rfl

theorem joinSyllable?_of_isPlain {a b : Char} (ha : IsPlain a) : joinSyllable? a b = none := by
  have hlead : ¬firstLead ≤ a.toNat := by
    unfold firstLead
    unfold IsPlain at ha
    omega
  simp [joinSyllable?, isOpen, isSyllable_of_le ha.2, hlead]

theorem join?_of_isPlain {a b : Char} (ha : IsPlain a) (hb : IsPlain b) : join? a b = none := by
  have hfind : composites.ranges.find? (fun r => r.value == [a.toNat, b.toNat]) = none := by
    refine Array.find?_eq_none.2 fun r hr heq => ?_
    have hvalue : r.value = [a.toNat, b.toNat] := by simpa using heq
    have hsecond := (lt_of_mem_composites hr).2.2 b.toNat (by rw [hvalue]; exact List.mem_cons_self)
    unfold IsPlain at hb
    omega
  simp [join?, joinSyllable?_of_isPlain ha, hfind]

variable {cs : List Char}

theorem placeMark_of_isPlain (c : Char) (h : ∀ d ∈ cs, IsPlain d) : placeMark c cs = c :: cs := by
  cases cs with
  | nil => rfl
  | cons d rest =>
    have hclass := combiningClass_of_isPlain (h d List.mem_cons_self)
    simp [placeMark, hclass]

theorem ordered_of_isPlain (h : ∀ c ∈ cs, IsPlain c) : ordered cs = cs := by
  induction cs with
  | nil => rfl
  | cons c rest ih =>
    have hrest : ∀ d ∈ rest, IsPlain d := fun d hd => h d (List.mem_cons_of_mem _ hd)
    rw [ordered, List.foldr_cons, ← ordered, ih hrest, placeMark_of_isPlain c hrest]

theorem compose_of_isPlain {base : Char} (hbase : IsPlain base) (h : ∀ c ∈ cs, IsPlain c) :
    compose base [] cs = base :: cs := by
  induction cs generalizing base with
  | nil => rfl
  | cons c rest ih =>
    have hc : IsPlain c := h c List.mem_cons_self
    have hrest := ih hc fun d hd => h d (List.mem_cons_of_mem _ hd)
    simp [compose, join?_of_isPlain hbase hc, combiningClass_of_isPlain hc, hrest]

theorem composed_of_isPlain (h : ∀ c ∈ cs, IsPlain c) : composed cs = cs := by
  have hparts : cs.flatMap (splitAll splitDepth) = cs := by
    have hsingle : cs.flatMap (splitAll splitDepth) = cs.flatMap fun c => [c] :=
      List.flatMap_congr fun c hc => splitAll_of_le (h c hc).2 splitDepth
    rw [hsingle, List.flatMap_singleton']
  rw [composed, hparts, ordered_of_isPlain h]
  cases cs with
  | nil => rfl
  | cons base rest =>
    have hbase : IsPlain base := h base List.mem_cons_self
    have hrest : ∀ c ∈ rest, IsPlain c := fun c hc => h c (List.mem_cons_of_mem _ hc)
    simp [combiningClass_of_isPlain hbase, compose_of_isPlain hbase hrest]

end Text

namespace Url.Domain

open Text

variable {cs : List Char}

theorem mapping?_of_isPlain {c : Char} (h : IsPlain c) : mapping? c = some [c] := by
  unfold IsPlain at h
  have hlower : c.toLower = c := toLower_of_not_upper (by omega)
  rw [mapping?, if_pos (by omega), hlower]

theorem isForbidden_of_isPlain {c : Char} (h : IsPlain c) : isForbidden c = false := by
  have hlist : (forbidden.all fun d => omitsPlain d.toNat d.toNat) = true := by decide
  unfold IsPlain at h
  have hmem : c ∉ forbidden := by
    intro hc
    have homits := List.all_eq_true.1 hlist c hc
    unfold omitsPlain at homits
    rw [Bool.or_eq_true, decide_eq_true_eq, decide_eq_true_eq] at homits
    omega
  have hlow : ¬c.toNat ≤ 0x20 := by omega
  have hlast : ¬c.toNat = 0x7F := by omega
  simp [isForbidden, hlow, hlast, hmem]

theorem counted?_of_isPlain (h : ∀ c ∈ cs, IsPlain c) : counted? cs = some cs := by
  have hmapped : cs.mapM mapping? = some (cs.map fun c => [c]) := by
    induction cs with
    | nil => rfl
    | cons c rest ih =>
      have hrest := ih fun d hd => h d (List.mem_cons_of_mem _ hd)
      simp [List.mapM_cons, mapping?_of_isPlain (h c List.mem_cons_self), hrest]
  have hflat : (cs.map fun c => [c]).flatten = cs := by
    rw [← List.flatMap_def, List.flatMap_singleton']
  have hallowed : ¬cs.any isForbidden = true := by
    rw [List.any_eq_true]
    rintro ⟨c, hc, hforbidden⟩
    rw [isForbidden_of_isPlain (h c hc)] at hforbidden
    cases hforbidden
  rw [counted?, hmapped]
  simp only [Option.bind_eq_bind, Option.bind_some, hflat, composed_of_isPlain h, if_neg hallowed]

theorem labels_of_isPlain (h : ∀ c ∈ cs, IsPlain c) : labels cs = [cs] := by
  rw [labels, parts]
  induction cs with
  | nil => rfl
  | cons c rest ih =>
    have hdot : ¬(c == '.') = true := by
      rw [beq_iff_eq]
      rintro rfl
      exact absurd (h '.' List.mem_cons_self).1 (by decide)
    rw [List.foldr_cons, ih fun d hd => h d (List.mem_cons_of_mem _ hd), if_neg hdot]

theorem spelled?_of_isPlain (h : ∀ c ∈ cs, IsPlain c) : spelled? cs = some cs := by
  unfold spelled?
  split
  · exact absurd (h '-' (by simp)).1 (by decide)
  · rfl

theorem joinersFit_of_isPlain (front : List Char) (h : ∀ c ∈ cs, IsPlain c) :
    joinersFit front cs = true := by
  induction cs generalizing front with
  | nil => rfl
  | cons c rest ih =>
    have hc := (h c List.mem_cons_self).2
    have hjoiner : c ≠ joiner := by
      rintro rfl
      exact absurd hc (by decide)
    have hnonJoiner : c ≠ nonJoiner := by
      rintro rfl
      exact absurd hc (by decide)
    rw [joinersFit, if_neg hjoiner, if_neg hnonJoiner]
    exact ih (c :: front) fun d hd => h d (List.mem_cons_of_mem _ hd)

theorem isAscii_of_isPlain (h : ∀ c ∈ cs, IsPlain c) : cs.all Punycode.isAscii = true := by
  refine List.all_eq_true.2 fun c hc => ?_
  have hplain := (h c hc).2
  exact decide_eq_true (by omega)

theorem isMark_of_isPlain {c : Char} (h : IsPlain c) : isMark c = false := by
  rw [isMark, CodeTable.contains, CodeTable.find?_eq_none omitsPlain_marks h]
  rfl

theorem isSound_of_isPlain (h : ∀ c ∈ cs, IsPlain c) : isSound cs = true := by
  have hmark : cs.head?.any isMark = false := by
    cases cs with
    | nil => rfl
    | cons c rest =>
      rw [List.head?_cons, Option.any_some]
      exact isMark_of_isPlain (h c List.mem_cons_self)
  simp [isSound, hmark, joinersFit_of_isPlain [] h, isAscii_of_isPlain h]

theorem runsLeftwards_of_isPlain {c : Char} (h : IsPlain c) : runsLeftwards c = false := by
  have hdirection : direction c = .leftToRight := by
    rw [direction, CodeTable.value?, CodeTable.find?_eq_none omitsPlain_directions h]
    rfl
  rw [runsLeftwards, hdirection]
  rfl

/-- A word of lower-case letters is a domain as it is. -/
theorem parse_of_isPlain (h : ∀ c ∈ cs, IsPlain c) : parse (encode (.ofList cs)) = .ok cs := by
  have hleftwards : ∀ c ∈ cs, ¬runsLeftwards c = true := by
    intro c hc
    rw [runsLeftwards_of_isPlain (h c hc)]
    exact Bool.false_ne_true
  have hlabels : labels? cs = some [cs] := by
    simp +contextual [labels?, labels_of_isPlain h, spelled?_of_isPlain h, isSound_of_isPlain h,
      hleftwards]
  rw [parse, toText_eq_ok_iff.2 rfl]
  simp [counted?_of_isPlain h, hlabels, labelText, isAscii_of_isPlain h]

end Url.Domain

/-! ## The server of the defaults -/

namespace Url

open Text

def defaultServer : WebForm where
  name := "http".toList
  slashes := "//".toList
  authority := "localhost:8088".toList
  rest := []
  letter := by decide
  inName := List.all_eq_true.1 (by decide)
  web := by decide
  inSlashes := List.all_eq_true.1 (by decide)
  named := by decide
  inAuthority := by
    have hall : ("localhost:8088".toList.all fun c => !isDelimiter .web c) = true := by decide
    simpa using hall
  behind := nofun

theorem namedHost_localhost :
    namedHost "localhost".toList = .ok (.domain "localhost".toList) := by
  have hplain : ∀ c ∈ "localhost".toList, IsPlain c := by
    have hall : "localhost".toList.all Char.isLower = true := by decide
    exact fun c hc => isPlain_of_isLower (List.all_eq_true.1 hall c hc)
  have hbytes : percentDecode (encode (.ofList "localhost".toList)) =
      encode (.ofList "localhost".toList) := by decide
  have hname : Ipv4.endsInNumber "localhost".toList = false := by decide
  have hdomain := Domain.parse_of_isPlain hplain
  rw [namedHost, if_neg (by decide), hbytes, hdomain]
  dsimp only
  rw [if_neg (by decide), if_neg (by rw [hname]; decide)]

def localServer : Url where
  scheme := "http".toList
  userinfo := []
  host := some (.domain "localhost".toList)
  portNumber := some 8088
  rest := []

theorem bare_eq_of_host {scheme authority hostText after : List Char} {host : Host}
    {number : Option Nat} (huser : splitUserinfo authority = (none, authority))
    (hsplit : splitHost false authority = (hostText, after)) (hne : hostText ≠ [])
    (hhost : namedHost hostText = .ok host) (hnumber : portAfter scheme after = .ok number) :
    bare scheme authority = .ok ⟨scheme, [], some host, number, []⟩ := by
  have hnamed : ¬hostText.isEmpty = true := fun h => hne (List.isEmpty_iff.1 h)
  rw [bare, huser]
  dsimp only
  rw [hsplit]
  dsimp only
  rw [if_neg hnamed, hhost, hnumber]
  rfl

theorem bare_defaultServer :
    bare defaultServer.scheme defaultServer.authority = .ok localServer := by
  have hscheme : defaultServer.scheme = "http".toList := by decide
  have hsplit : splitHost false defaultServer.authority = ("localhost".toList, ":8088".toList) := by
    decide
  have hport : portAfter "http".toList ":8088".toList = .ok (some 8088) := rfl
  rw [hscheme]
  exact bare_eq_of_host (by decide) hsplit (by decide) namedHost_localhost hport

theorem parse_default_server : parse Settings.default.server = .ok localServer := by
  have hform : significant Settings.default.server.toList = defaultServer.text := by decide +kernel
  rw [defaultServer.parse_eq hform, bare_defaultServer]
  rfl

end Url

namespace Settings

theorem validate_of_default_server {s : Settings} (htimeout : s.timeout ≠ 0)
    (hserver : s.server = default.server) : s.validate = .ok () := by
  have hhttp : Url.localServer.isHttp = true := by decide +kernel
  rw [validate, if_neg htimeout, hserver, Url.parse_default_server]
  exact if_pos hhttp

theorem validate_default : default.validate = .ok () :=
  validate_of_default_server (by decide +kernel) rfl

theorem validated_default : default.validated = .ok default := by
  rw [validated, validate_default]
  rfl

theorem outcome_load_none : (load none).outcome = .ok default := validated_default

end Settings

end ApiSuite
