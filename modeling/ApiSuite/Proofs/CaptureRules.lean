import ApiSuite.Proofs.PathLanguage
import ApiSuite.Proofs.RecordFields
import ApiSuite.Proofs.RulePattern

/-! # Rules of captures

A rule is read by its first equals sign. What stands before it has to be a name and what stands
behind it a place, a header or a path, each without the blanks around it. The blanks decide nothing
else, with one exception: a rule with no place at all is refused when the equals sign ends it, but
blanks behind the sign are taken for a path without steps.
-/
namespace ApiSuite

namespace Capture

open Text

/-- An ASCII letter or underscore with ASCII letters, digits and underscores behind it. -/
def IsName (name : List Char) : Prop :=
  ∃ c rest, name = c :: rest ∧ isNameStart c = true ∧ ∀ d ∈ rest, isNameChar d = true

variable {rule : String} {text before after name place : List Char}

theorem IsName.forall_isNameChar (h : IsName name) : ∀ c ∈ name, isNameChar c = true := by
  obtain ⟨c, rest, rfl, hstart, hrest⟩ := h
  exact List.forall_mem_cons.2 ⟨isNameChar_of_isNameStart hstart, hrest⟩

theorem IsName.notMem (h : IsName name) : '=' ∉ name := fun hmem =>
  absurd (h.forall_isNameChar '=' hmem) (by decide)

theorem notMem_padded {lead gap : List Char} (h : '=' ∉ name)
    (hblank : ∀ c ∈ lead ++ gap, isBlank c = true) : '=' ∉ lead ++ name ++ gap := by
  have hnone : '=' ∉ lead ++ gap := fun hmem => absurd (hblank '=' hmem) (by decide)
  simp only [List.mem_append, not_or] at hnone ⊢
  exact ⟨⟨hnone.1, h⟩, hnone.2⟩

theorem IsName.trims (h : IsName name) : Trims name name :=
  trims_of_forall fun c hc => isBlank_of_isNameChar (h.forall_isNameChar c hc)

/-! ## The first equals sign -/

/-- A rule that is made of a name, an equals sign and blanks around the name is split there. -/
theorem split?_of_parts {lead gap : List Char} (hlead : ∀ c ∈ lead, isBlank c = true)
    (hgap : ∀ c ∈ gap, isBlank c = true) (hname : IsName name) (after : List Char) :
    split? (lead ++ name ++ gap ++ '=' :: after) = (place? after).map (name, ·) := by
  obtain ⟨c, rest, rfl, hc, hrest⟩ := hname
  have hstart : trimStart (lead ++ (c :: rest ++ (gap ++ '=' :: after))) =
      c :: rest ++ (gap ++ '=' :: after) := by
    refine dropWhile_run hlead fun d hd => ?_
    obtain rfl := Option.some.inj hd
    exact isBlank_of_isNameChar (isNameChar_of_isNameStart hc)
  have hend : ∀ d, (gap ++ '=' :: after).head? = some d → isNameChar d = false := by
    intro d hd
    refine Bool.eq_false_iff.2 fun hchar => ?_
    cases gap with
    | nil => exact absurd (Option.some.inj hd ▸ hchar) (by decide)
    | cons e gap =>
      obtain rfl := Option.some.inj hd
      exact absurd (hgap e List.mem_cons_self) (by simp [isBlank_of_isNameChar hchar])
  have hequals : trimStart (gap ++ '=' :: after) = '=' :: after := by
    refine dropWhile_run hgap fun d hd => ?_
    obtain rfl := Option.some.inj hd
    decide
  rw [List.append_assoc, List.append_assoc, split?_eq, hstart, List.cons_append]
  dsimp only
  rw [if_pos hc, takeWhile_run hrest hend, dropWhile_run hrest hend]
  simp only [hequals]

theorem split?_eq_some_iff : split? text = some (name, place) ↔
    ∃ lead gap after, text = lead ++ name ++ gap ++ '=' :: after ∧
      (∀ c ∈ lead ++ gap, isBlank c = true) ∧ IsName name ∧ place? after = some place := by
  constructor
  · intro h
    rw [split?_eq] at h
    obtain ⟨lead, htext, hlead⟩ := exists_lead text
    split at h
    · cases h
    · rename_i c rest hstart
      split at h
      · rename_i hc
        obtain ⟨gap, hrest, hgap⟩ := exists_lead (rest.dropWhile isNameChar)
        split at h
        · rename_i after hafter
          obtain ⟨place, hplace, heq⟩ := Option.map_eq_some_iff.1 h
          obtain ⟨rfl, rfl⟩ := Prod.mk.inj heq
          have hname : IsName (c :: rest.takeWhile isNameChar) :=
            ⟨c, _, rfl, hc, fun d => List.mem_takeWhile_imp⟩
          refine ⟨lead, gap, after, ?_, List.forall_mem_append.2 ⟨hlead, hgap⟩, hname, hplace⟩
          rw [List.append_assoc, List.append_assoc, ← hafter, ← hrest, List.cons_append,
            List.takeWhile_append_dropWhile, ← hstart]
          exact htext
        · cases h
      · cases h
  · rintro ⟨lead, gap, after, rfl, hblank, hname, hplace⟩
    obtain ⟨hlead, hgap⟩ := List.forall_mem_append.1 hblank
    rw [split?_of_parts hlead hgap hname, hplace]
    rfl

theorem split?_eq_none_of_notMem (h : '=' ∉ text) : split? text = none := by
  refine Option.eq_none_iff_forall_ne_some.2 fun ⟨name, place⟩ hs => h ?_
  obtain ⟨lead, gap, after, rfl, -⟩ := split?_eq_some_iff.1 hs
  simp

theorem split?_eq_some_iff_of_first (hfirst : '=' ∉ before) (hbefore : Trims before name)
    {found : List Char} :
    split? (before ++ '=' :: after) = some (found, place) ↔
      IsName name ∧ found = name ∧ place? after = some place := by
  rw [split?_eq_some_iff]
  constructor
  · rintro ⟨lead, gap, more, htext, hblank, hname, hplace⟩
    have hlead : '=' ∉ lead ++ found ++ gap := notMem_padded hname.notMem hblank
    have hrun : ∀ {run : List Char}, '=' ∉ run → ∀ c ∈ run, (c != '=') = true := by
      intro run hrun c hc
      simpa using fun heq : c = '=' => hrun (heq ▸ hc)
    obtain ⟨rfl, heq⟩ := run_unique htext (hrun hfirst) (hrun hlead) (by simp) (by simp)
    obtain rfl := (List.cons.inj heq).2
    have hfound : found = name := by
      rw [← hbefore.trim_eq, trim_padded found hblank, hname.trims.trim_eq]
    exact ⟨hfound ▸ hname, hfound, hplace⟩
  · rintro ⟨hname, rfl, hplace⟩
    obtain ⟨⟨lead, gap, rfl, hblank⟩, -⟩ := trims_iff.1 hbefore
    exact ⟨lead, gap, after, rfl, hblank, hname, hplace⟩

/-! ## Names and places -/

def malformed (rule : String) : VariableError := .invalidPath ("Malformed capture rule: " ++ rule)

def headerless (rule : String) : VariableError := .invalidPath ("Missing header name: " ++ rule)

/-- A place that names a source: a header behind the mark, or without the mark a path. -/
inductive Names : List Char → CaptureSource → Prop
  | header {rest core : List Char} (hcore : Trims rest core) (hne : core ≠ []) :
    Names (headerMark ++ rest) (.header (.ofList core))
  | path {place : List Char} {p : JsonPath} (hmark : ¬headerMark <+: place)
    (hp : JsonPath.parse (.ofList place) = .ok p) : Names place (.json p)

theorem names_header_iff {rest : List Char} {source : CaptureSource} :
    Names (headerMark ++ rest) source ↔
      trim rest ≠ [] ∧ source = .header (.ofList (trim rest)) := by
  constructor
  · intro h
    generalize hplace : headerMark ++ rest = place at h
    cases h with
    | header hcore hne =>
      obtain rfl := List.append_cancel_left hplace
      rw [hcore.trim_eq]
      exact ⟨hne, rfl⟩
    | path hmark => exact absurd (hplace ▸ List.prefix_append _ _) hmark
  · rintro ⟨hne, rfl⟩
    exact .header (trims_trim rest) hne

theorem names_path_iff (hmark : ¬headerMark <+: place) {source : CaptureSource} :
    Names place source ↔ ∃ p, JsonPath.parse (.ofList place) = .ok p ∧ source = .json p := by
  constructor
  · intro h
    cases h with
    | header => exact absurd (List.prefix_append _ _) hmark
    | path _ hp => exact ⟨_, hp, rfl⟩
  · rintro ⟨p, hp, rfl⟩
    exact .path hmark hp

theorem parse_eq_of_split?_none (h : split? rule.toList = none) :
    parse rule = .error (malformed rule) := by
  rw [parse, h]
  rfl

theorem parse_eq_of_header {rest : List Char}
    (h : split? rule.toList = some (name, headerMark ++ rest)) :
    parse rule = if trim rest = [] then .error (headerless rule)
      else .ok ⟨.ofList name, .header (.ofList (trim rest))⟩ := by
  have hmark : headerMark.isPrefixOf (headerMark ++ rest) = true :=
    List.isPrefixOf_iff_prefix.2 (List.prefix_append _ _)
  rw [parse, h]
  dsimp only
  rw [if_pos hmark, List.drop_left]
  simp only [List.isEmpty_iff]
  rfl

theorem parse_eq_of_path (h : split? rule.toList = some (name, place))
    (hmark : ¬headerMark <+: place) : parse rule = json (.ofList name) (.ofList place) := by
  rw [parse, h]
  exact if_neg fun hprefix => hmark (List.isPrefixOf_iff_prefix.1 hprefix)

theorem parse_eq_ok_iff_of_split? (h : split? rule.toList = some (name, place)) {c : Capture} :
    parse rule = .ok c ↔ c.variableName = .ofList name ∧ Names place c.source := by
  obtain ⟨variableName, source⟩ := c
  by_cases hmark : headerMark <+: place
  · obtain ⟨rest, rfl⟩ := hmark
    rw [parse_eq_of_header h, names_header_iff]
    split
    · rename_i hnil
      simp [hnil]
    · rename_i hne
      simp [hne, eq_comm]
  · rw [parse_eq_of_path h hmark, names_path_iff hmark, json, bind_eq_ok_iff]
    constructor
    · rintro ⟨p, hp, heq⟩
      cases heq
      exact ⟨rfl, p, hp, rfl⟩
    · rintro ⟨rfl, p, hp, rfl⟩
      exact ⟨p, hp, rfl⟩

theorem parse_eq_error_iff_of_split? (h : split? rule.toList = some (name, place))
    {e : VariableError} :
    parse rule = .error e ↔
      (∃ rest, place = headerMark ++ rest ∧ trim rest = [] ∧ e = headerless rule) ∨
        ¬headerMark <+: place ∧ JsonPath.parse (.ofList place) = .error e := by
  by_cases hmark : headerMark <+: place
  · obtain ⟨rest, rfl⟩ := hmark
    have hmark : headerMark <+: headerMark ++ rest := List.prefix_append _ _
    rw [parse_eq_of_header h]
    split
    · rename_i hnil
      simp only [Except.error.injEq, List.append_cancel_left_eq, exists_eq_left', hnil, hmark,
        true_and, not_true, false_and, or_false]
      exact eq_comm
    · rename_i hne
      simp [hne]
  · have hnone : ¬∃ rest, place = headerMark ++ rest ∧ trim rest = [] ∧ e = headerless rule := by
      rintro ⟨rest, rfl, -⟩
      exact hmark (List.prefix_append _ _)
    rw [parse_eq_of_path h hmark, json, bind_eq_error_iff]
    simp [hmark, hnone, pure, Except.pure]

/-! ## Rules by their first equals sign -/

theorem place?_eq_of_trims (h : Trims after place) (hne : place ≠ []) :
    place? after = if '\n' ∈ place then none else some place := by
  obtain ⟨c, rest, rfl⟩ := List.exists_cons_of_ne_nil hne
  rw [place?, h.trim_eq]
  simp only [List.contains_iff_mem]

theorem place?_eq_of_blank (h : ∀ c ∈ after, isBlank c = true) :
    place? after = (after.reverse.find? (· != '\n')).map ([·]) := by
  rw [place?, trim_eq_nil_iff.2 h]

section First

variable (hrule : rule.toList = before ++ '=' :: after) (hfirst : '=' ∉ before)
  (hname : Trims before name)

include hrule hfirst hname

theorem split?_rule_eq_some (hplace : place? after = some place) (h : IsName name) :
    split? rule.toList = some (name, place) := by
  rw [hrule]
  exact (split?_eq_some_iff_of_first hfirst hname).2 ⟨h, rfl, hplace⟩

theorem parse_eq_malformed (h : IsName name → place? after = none) :
    parse rule = .error (malformed rule) := by
  refine parse_eq_of_split?_none (Option.eq_none_iff_forall_ne_some.2 fun ⟨found, place⟩ hs => ?_)
  rw [hrule] at hs
  obtain ⟨hn, -, hplace⟩ := (split?_eq_some_iff_of_first hfirst hname).1 hs
  rw [h hn] at hplace
  cases hplace

/-- A rule is well formed when its name is one and its place is in one line. -/
theorem split?_or_malformed (hplace : Trims after place) (hne : place ≠ []) :
    (IsName name ∧ '\n' ∉ place) ∧ split? rule.toList = some (name, place) ∨
      (¬IsName name ∨ '\n' ∈ place) ∧ parse rule = .error (malformed rule) := by
  have hfound := place?_eq_of_trims hplace hne
  by_cases hok : IsName name ∧ '\n' ∉ place
  · rw [if_neg hok.2] at hfound
    exact .inl ⟨hok, split?_rule_eq_some hrule hfirst hname hfound hok.1⟩
  · rw [not_and_or, not_not] at hok
    refine .inr ⟨hok, parse_eq_malformed hrule hfirst hname fun hn => ?_⟩
    rw [hfound, if_pos (hok.resolve_left (not_not_intro hn))]

theorem parse_eq_ok_iff (hplace : Trims after place) (hne : place ≠ []) {c : Capture} :
    parse rule = .ok c ↔
      IsName name ∧ '\n' ∉ place ∧ c.variableName = .ofList name ∧ Names place c.source := by
  rcases split?_or_malformed hrule hfirst hname hplace hne with ⟨hok, hsplit⟩ | ⟨hbad, herror⟩
  · rw [parse_eq_ok_iff_of_split? hsplit]
    simp only [hok, not_false_eq_true, true_and]
  · rw [herror]
    refine ⟨nofun, fun h => ?_⟩
    exact absurd h.1 (hbad.resolve_right h.2.1)

theorem parse_eq_error_iff (hplace : Trims after place) (hne : place ≠ []) {e : VariableError} :
    parse rule = .error e ↔
      (¬IsName name ∨ '\n' ∈ place) ∧ e = malformed rule ∨
        (IsName name ∧ '\n' ∉ place) ∧
          (place = headerMark ∧ e = headerless rule ∨
            ¬headerMark <+: place ∧ JsonPath.parse (.ofList place) = .error e) := by
  rcases split?_or_malformed hrule hfirst hname hplace hne with ⟨hok, hsplit⟩ | ⟨hbad, herror⟩
  · -- The mark ends in no blank, so that only the mark itself has nothing behind it.
    have hbare : (∃ rest, place = headerMark ++ rest ∧ trim rest = [] ∧ e = headerless rule) ↔
        place = headerMark ∧ e = headerless rule := by
      constructor
      · rintro ⟨rest, rfl, hnil, rfl⟩
        obtain rfl := hplace.eq_nil_of_trim hnil
        exact ⟨List.append_nil _, rfl⟩
      · rintro ⟨rfl, rfl⟩
        exact ⟨[], (List.append_nil _).symm, rfl, rfl⟩
    rw [parse_eq_error_iff_of_split? hsplit, hbare]
    simp only [hok, not_true, false_or, not_false_eq_true, true_and, false_and]
  · rw [herror, Except.error.injEq]
    have hnot : ¬(IsName name ∧ '\n' ∉ place) := fun h => hbad.elim (· h.1) h.2
    simp only [hbad, hnot, true_and, false_and, or_false]
    exact eq_comm

end First

/-- A rule is split as its pattern matches it, and that is at the first equals sign. When there is
more than blanks behind it, the rule reads as the name before it and the header or path behind it,
each without the blanks around it; all other rules are refused for what is wrong with them. -/
theorem parse_reads_around_equals (rule : String) :
    rulePattern.captures? rule.toList = (split? rule.toList).map (fun s => [s.1, s.2]) ∧
    ('=' ∉ rule.toList → parse rule = .error (malformed rule)) ∧
    ∀ before after, rule.toList = before ++ '=' :: after → '=' ∉ before →
      (∃ c ∈ after, isBlank c = false) →
      ∃ name place, Trims before name ∧ Trims after place ∧
        (∀ c, parse rule = .ok c ↔
          IsName name ∧ '\n' ∉ place ∧ c.variableName = .ofList name ∧ Names place c.source) ∧
        ∀ e, parse rule = .error e ↔
          (¬IsName name ∨ '\n' ∈ place) ∧ e = malformed rule ∨
            (IsName name ∧ '\n' ∉ place) ∧
              (place = headerMark ∧ e = headerless rule ∨
                ¬headerMark <+: place ∧ JsonPath.parse (.ofList place) = .error e) := by
  refine ⟨captures?_rulePattern _, fun h => ?_, ?_⟩
  · exact parse_eq_of_split?_none (split?_eq_none_of_notMem h)
  · rintro before after hrule hfirst ⟨c, hc, hblank⟩
    have hname := trims_trim before
    have hplace := trims_trim after
    have hne : trim after ≠ [] := by
      intro hnil
      rw [trim_eq_nil_iff.1 hnil c hc] at hblank
      cases hblank
    exact ⟨trim before, trim after, hname, hplace,
      fun c => parse_eq_ok_iff hrule hfirst hname hplace hne,
      fun e => parse_eq_error_iff hrule hfirst hname hplace hne⟩

/-! ## Blanks around the parts of a rule -/

/-- A blank in the place of a place stands for the path without steps. -/
theorem parse_eq_of_blank {c : Char} (hsplit : split? rule.toList = some (name, [c]))
    (h : isBlank c = true) : parse rule = .ok ⟨.ofList name, .json ⟨"", []⟩⟩ := by
  have hmark : ¬headerMark <+: [c] := fun hprefix => by
    have hlength := hprefix.length_le
    simp [headerMark] at hlength
  have hpath : JsonPath.parse (.ofList [c]) = .ok ⟨"", []⟩ := by
    have htrim : trim [c] = [] := trim_eq_nil_iff.2 (by simpa using h)
    simp [JsonPath.parse_eq, htrim, JsonPath.body, JsonPath.steps?, JsonPath.fieldSteps,
      JsonPath.Cursor.start]
  rw [parse_eq_of_path hsplit hmark, json, hpath]
  rfl

theorem parse_eq_ok_iff_of_blank (hrule : rule.toList = before ++ '=' :: after)
    (hfirst : '=' ∉ before) (hname : Trims before name) (hblank : ∀ c ∈ after, isBlank c = true)
    {c : Capture} :
    parse rule = .ok c ↔
      IsName name ∧ (∃ d ∈ after, d ≠ '\n') ∧ c = ⟨.ofList name, .json ⟨"", []⟩⟩ := by
  have hplace := place?_eq_of_blank hblank
  cases hfind : after.reverse.find? (· != '\n') with
  | none =>
    have hnone : ∀ d ∈ after, d = '\n' := by simpa using hfind
    rw [hfind] at hplace
    rw [parse_eq_malformed hrule hfirst hname fun _ => hplace]
    refine ⟨nofun, ?_⟩
    rintro ⟨-, ⟨d, hd, hne⟩, -⟩
    exact absurd (hnone d hd) hne
  | some d =>
    have hd : d ∈ after := List.mem_reverse.1 (List.mem_of_find?_eq_some hfind)
    have hne : d ≠ '\n' := by simpa using List.find?_some hfind
    rw [hfind] at hplace
    by_cases h : IsName name
    · rw [parse_eq_of_blank (split?_rule_eq_some hrule hfirst hname hplace h) (hblank d hd)]
      refine ⟨fun heq => ⟨h, ⟨d, hd, hne⟩, (Except.ok.inj heq).symm⟩, ?_⟩
      rintro ⟨-, -, rfl⟩
      rfl
    · rw [parse_eq_malformed hrule hfirst hname fun hn => absurd hn h]
      exact ⟨nofun, fun hok => absurd hok.1 h⟩

/-- Blanks around the name and the place of a rule change nothing as long as there is a place. A
rule without one is refused, but with blanks in its stead it is accepted whenever the name is one
and the blanks are not all line feeds, as a capture of the whole body. -/
theorem padding_decides_without_place {v p a b c d : String} (hv : '=' ∉ v.toList)
    (hvtrim : trim v.toList = v.toList) (hptrim : trim p.toList = p.toList)
    (hblank : ∀ ch ∈ (a ++ b ++ c ++ d).toList, isBlank ch = true) :
    (p ≠ "" → ∀ found, parse (a ++ v ++ b ++ "=" ++ c ++ p ++ d) = .ok found ↔
      parse (v ++ "=" ++ p) = .ok found) ∧
    (p = "" →
      parse (v ++ "=" ++ p) = .error (malformed (v ++ "=" ++ p)) ∧
      ∀ found, parse (a ++ v ++ b ++ "=" ++ c ++ p ++ d) = .ok found ↔
        IsName v.toList ∧ (∃ ch ∈ (c ++ d).toList, ch ≠ '\n') ∧ found = ⟨v, .json ⟨"", []⟩⟩) := by
  simp only [String.toList_append, List.forall_mem_append] at hblank
  obtain ⟨⟨⟨ha, hb⟩, hc⟩, hd⟩ := hblank
  have hleft : ∀ ch ∈ a.toList ++ b.toList, isBlank ch = true :=
    List.forall_mem_append.2 ⟨ha, hb⟩
  have hright : ∀ ch ∈ c.toList ++ d.toList, isBlank ch = true :=
    List.forall_mem_append.2 ⟨hc, hd⟩
  have hname : Trims v.toList v.toList := trims_of_trim_eq hvtrim
  have hplain : (v ++ "=" ++ p).toList = v.toList ++ '=' :: p.toList := by simp
  have hpadded : (a ++ v ++ b ++ "=" ++ c ++ p ++ d).toList =
      (a.toList ++ v.toList ++ b.toList) ++ '=' :: (c.toList ++ p.toList ++ d.toList) := by simp
  have hfirst : '=' ∉ a.toList ++ v.toList ++ b.toList := notMem_padded hv hleft
  have hbefore := hname.pad hleft
  constructor
  · intro hp found
    have hne : p.toList ≠ [] := by simpa using hp
    have hplace : Trims p.toList p.toList := trims_of_trim_eq hptrim
    rw [parse_eq_ok_iff hpadded hfirst hbefore (hplace.pad hright) hne,
      parse_eq_ok_iff hplain hv hname hplace hne]
  · rintro rfl
    refine ⟨parse_eq_malformed hplain hv hname fun _ => rfl, fun found => ?_⟩
    have hafter : ∀ ch ∈ c.toList ++ "".toList ++ d.toList, isBlank ch = true := by
      simpa using hright
    rw [parse_eq_ok_iff_of_blank hpadded hfirst hbefore hafter]
    simp

/-- Blanks of four kinds around a header rule leave it as it is, and a line feed and a space behind
the equals sign pass for a place. -/
theorem padded_header_accepted :
    let plain : String := "fan" ++ "=" ++ "headers.X-Fan"
    let padded : String := "\n" ++ "fan" ++ "\u3000" ++ "=" ++ "\t" ++ "headers.X-Fan" ++ "\r\n"
    let blank : String := "" ++ "fan" ++ "" ++ "=" ++ "\n" ++ "" ++ " "
    parse plain = .ok ⟨"fan", .header "X-Fan"⟩ ∧ parse padded = .ok ⟨"fan", .header "X-Fan"⟩ ∧
      parse ("fan" ++ "=" ++ "") = .error (malformed "fan=") ∧
      parse blank = .ok ⟨"fan", .json ⟨"", []⟩⟩ := by
  intro plain padded blank
  have hplain : parse plain = .ok ⟨"fan", .header "X-Fan"⟩ := by decide +kernel
  have hpadded := (@padding_decides_without_place "fan" "headers.X-Fan" "\n" "\u3000" "\t" "\r\n"
    (by decide) (by decide) (by decide) (List.all_eq_true.1 (by decide))).1 (by decide)
  have hempty := (@padding_decides_without_place "fan" "" "" "" "\n" " " (by decide) (by decide)
    (by decide) (List.all_eq_true.1 (by decide))).2 rfl
  have hname : IsName "fan".toList :=
    ⟨'f', ['a', 'n'], rfl, by decide, List.all_eq_true.1 (by decide)⟩
  exact ⟨hplain, (hpadded _).2 hplain, hempty.1,
    (hempty.2 _).2 ⟨hname, ⟨' ', by decide, by decide⟩, rfl⟩⟩

/-- A space behind the equals sign turns a rule that is refused into one that is accepted. -/
theorem blank_place_accepted :
    '=' ∉ "a".toList ∧ trim "a".toList = "a".toList ∧ trim "".toList = "".toList ∧
      isBlank ' ' = true ∧ parse ("a" ++ "=" ++ "") = .error (malformed "a=") ∧
      parse ("a" ++ "=" ++ "" ++ " ") = .ok ⟨"a", .json ⟨"", []⟩⟩ := by
  have hsplit : split? ("a" ++ "=" ++ "" ++ " ").toList = some (['a'], [' ']) := by decide
  exact ⟨by decide, by decide, by decide, by decide, parse_eq_of_split?_none (by decide),
    parse_eq_of_blank hsplit (by decide)⟩

end Capture

end ApiSuite
