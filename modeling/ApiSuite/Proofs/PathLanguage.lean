import ApiSuite.JsonPath
import ApiSuite.Proofs.Trimming

/-! # The language of paths

A path is a row of items, fields and indexes, behind an optional dollar sign and an optional point.
A point stands directly behind an item, and a field directly behind an index needs one. The texts of
this grammar are exactly those that are read as paths, each as the steps of its items.
-/
namespace ApiSuite

namespace Text

/-- Decimal digits behind at most one plus sign, and the number that they spell. -/
def Numeral (text : List Char) (n : Nat) : Prop :=
  ∃ ds, (text = ds ∨ text = '+' :: ds) ∧ ds ≠ [] ∧ (∀ c ∈ ds, c.isDigit = true) ∧
    Nat.ofDigitChars 10 ds 0 = n

theorem decimalValue_eq (ds : List Char) : decimalValue ds = Nat.ofDigitChars 10 ds 0 :=
  Nat.ofDigitChars_eq_foldl.symm

theorem unsigned?_plus {limit : Nat} (ds : List Char) (h : ds.head? ≠ some '+') :
    unsigned? limit ('+' :: ds) = unsigned? limit ds := by
  unfold unsigned?
  split
  · rename_i rest heq
    obtain rfl := (List.cons.inj heq).2
    split
    · exact absurd rfl h
    · rfl
  · rename_i hnot
    exact absurd rfl (hnot ds)

theorem unsigned?_digits {limit n : Nat} {ds : List Char} (h : ds.head? ≠ some '+') :
    unsigned? limit ds = some n ↔
      ds ≠ [] ∧ (∀ c ∈ ds, c.isDigit = true) ∧ Nat.ofDigitChars 10 ds 0 = n ∧ n < limit := by
  have hplain : unsigned? limit ds = if ds.isEmpty || !ds.all isDigit then none
      else if decimalValue ds < limit then some (decimalValue ds) else none := by
    unfold unsigned?
    split
    · exact absurd rfl h
    · rfl
  have hdigits : ds.all isDigit = true ↔ ∀ c ∈ ds, c.isDigit = true := List.all_eq_true
  rw [hplain, ← hdigits, ← decimalValue_eq]
  by_cases hok : ds ≠ [] ∧ ds.all isDigit = true
  · rw [if_neg (by simpa using hok)]
    split
    · rename_i hlt
      constructor
      · intro hn
        obtain rfl := Option.some.inj hn
        exact ⟨hok.1, hok.2, rfl, hlt⟩
      · rintro ⟨-, -, rfl, -⟩
        rfl
    · rename_i hlt
      refine ⟨nofun, ?_⟩
      rintro ⟨-, -, rfl, hn⟩
      exact absurd hn hlt
  · rw [if_pos (by simpa [Decidable.or_iff_not_imp_left] using hok)]
    exact ⟨nofun, fun ⟨hne, hall, _⟩ => absurd ⟨hne, hall⟩ hok⟩

theorem head?_ne_of_isDigit {ds : List Char} (h : ∀ c ∈ ds, c.isDigit = true) :
    ds.head? ≠ some '+' := by
  intro hplus
  exact absurd (h '+' (List.mem_of_head? hplus)) (by decide)

theorem unsigned?_eq_some_iff {limit n : Nat} {text : List Char} :
    unsigned? limit text = some n ↔ Numeral text n ∧ n < limit := by
  constructor
  · intro h
    by_cases hsign : text.head? = some '+'
    · obtain ⟨ds, rfl⟩ := List.head?_eq_some_iff.1 hsign
      by_cases hmore : ds.head? = some '+'
      · -- A second plus sign is no digit.
        obtain ⟨more, rfl⟩ := List.head?_eq_some_iff.1 hmore
        simp [unsigned?, isDigit] at h
      · rw [unsigned?_plus ds hmore] at h
        obtain ⟨hne, hall, hn, hlt⟩ := (unsigned?_digits hmore).1 h
        exact ⟨⟨ds, .inr rfl, hne, hall, hn⟩, hlt⟩
    · obtain ⟨hne, hall, hn, hlt⟩ := (unsigned?_digits hsign).1 h
      exact ⟨⟨text, .inl rfl, hne, hall, hn⟩, hlt⟩
  · rintro ⟨⟨ds, htext, hne, hall, hn⟩, hlt⟩
    have hhead := head?_ne_of_isDigit hall
    have hds : unsigned? limit ds = some n := (unsigned?_digits hhead).2 ⟨hne, hall, hn, hlt⟩
    rcases htext with rfl | rfl
    · exact hds
    · rw [unsigned?_plus ds hhead, hds]

end Text

namespace JsonPath

/-- The characters that a field is a run of. -/
def isFieldChar (c : Char) : Bool := c != '.' && c != '[' && c != ']'

/-- A text inside brackets and the index that it spells. -/
def Indexes (inner : List Char) (n : Nat) : Prop :=
  ']' ∉ inner ∧ (∃ core, Text.Trims inner core ∧ Text.Numeral core n) ∧ n < Nat.pow 2 64

/-- Items one after the other and the steps that they stand for. The flag says whether a field may
come first: it may at the start and behind a point, while a point may come behind an item only. -/
inductive Items : Bool → List Char → List PathStep → Prop
  | done {fieldFirst : Bool} : Items fieldFirst [] []
  | point {rest : List Char} {steps : List PathStep} (h : Items true rest steps) :
    Items false ('.' :: rest) steps
  | field {name rest : List Char} {steps : List PathStep} (hne : name ≠ [])
    (hname : ∀ c ∈ name, isFieldChar c = true) (h : Items false rest steps) :
    Items true (name ++ rest) (.field (.ofList name) :: steps)
  | index {fieldFirst : Bool} {inner rest : List Char} {n : Nat} {steps : List PathStep}
    (hindex : Indexes inner n) (h : Items false rest steps) :
    Items fieldFirst ('[' :: inner ++ ']' :: rest) (.index n :: steps)

theorem index?_eq_some_iff {inner : List Char} {n : Nat} (h : ']' ∉ inner) :
    index? inner = some n ↔ Indexes inner n := by
  unfold index?
  rw [Text.unsigned?_eq_some_iff]
  constructor
  · rintro ⟨hnum, hn⟩
    exact ⟨h, ⟨_, Text.trims_trim inner, hnum⟩, hn⟩
  · rintro ⟨-, ⟨core, htrim, hnum⟩, hn⟩
    exact ⟨htrim.trim_eq ▸ hnum, hn⟩

namespace Items

theorem nil_iff {fieldFirst : Bool} {steps : List PathStep} :
    Items fieldFirst [] steps ↔ steps = [] := by
  constructor
  · intro h
    generalize htext : ([] : List Char) = text at h
    cases h with
    | done => rfl
    | point h => cases htext
    | field hne hname h => exact absurd (List.append_eq_nil_iff.1 htext.symm).1 hne
    | index hindex h => cases htext
  · rintro rfl
    exact .done

theorem behind_iff {c : Char} {rest : List Char} {steps : List PathStep} (hc : c ≠ '[') :
    Items false (c :: rest) steps ↔ c = '.' ∧ Items true rest steps := by
  constructor
  · intro h
    cases h with
    | point h => exact ⟨rfl, h⟩
    | index hindex h => exact absurd rfl hc
  · rintro ⟨rfl, h⟩
    exact .point h

theorem bracket_iff {fieldFirst : Bool} {rest : List Char} {steps : List PathStep} :
    Items fieldFirst ('[' :: rest) steps ↔
      ∃ inner after n more, rest = inner ++ ']' :: after ∧ Indexes inner n ∧
        Items false after more ∧ steps = .index n :: more := by
  constructor
  · intro h
    generalize htext : '[' :: rest = text at h
    cases h with
    | done => cases htext
    | point h => cases htext
    | @field name behind more hne hname h =>
      obtain ⟨c, name, rfl⟩ := List.exists_cons_of_ne_nil hne
      obtain rfl := (List.cons.inj htext).1
      exact absurd (hname '[' List.mem_cons_self) (by decide)
    | index hindex h => exact ⟨_, _, _, _, (List.cons.inj htext).2, hindex, h, rfl⟩
  · rintro ⟨inner, after, n, more, rfl, hindex, h, rfl⟩
    exact .index hindex h

theorem head?_of_behind {rest : List Char} {steps : List PathStep} (h : Items false rest steps) :
    ∀ c, rest.head? = some c → isFieldChar c = false := by
  intro c hc
  cases h with
  | done => cases hc
  | point h =>
    obtain rfl := Option.some.inj hc
    decide
  | index hindex h =>
    obtain rfl := Option.some.inj hc
    decide

end Items

theorem Items.field_iff {name rest : List Char} {steps : List PathStep} (hne : name ≠ [])
    (hname : ∀ c ∈ name, isFieldChar c = true)
    (hrest : ∀ c, rest.head? = some c → isFieldChar c = false) :
    Items true (name ++ rest) steps ↔
      ∃ more, Items false rest more ∧ steps = .field (.ofList name) :: more := by
  constructor
  · intro h
    generalize htext : name ++ rest = text at h
    obtain ⟨c, name', rfl⟩ := List.exists_cons_of_ne_nil hne
    have hc : isFieldChar c = true := hname c List.mem_cons_self
    cases h with
    | done => cases htext
    | field hne' hname' h =>
      obtain ⟨rfl, rfl⟩ := Text.run_unique htext hname hname' hrest h.head?_of_behind
      exact ⟨_, h, rfl⟩
    | index hindex h =>
      obtain rfl := (List.cons.inj htext).1
      exact absurd hc (by decide)
  · rintro ⟨more, h, rfl⟩
    exact .field hne hname h

theorem Items.not_first {c : Char} {rest : List Char} {steps : List PathStep}
    (hc : isFieldChar c = false) (hbracket : c ≠ '[') : ¬Items true (c :: rest) steps := by
  intro h
  generalize htext : c :: rest = text at h
  cases h with
  | done => cases htext
  | field hne hname h =>
    obtain ⟨d, name, rfl⟩ := List.exists_cons_of_ne_nil hne
    obtain rfl := (List.cons.inj htext).1
    have hd : isFieldChar c = true := hname c List.mem_cons_self
    rw [hd] at hc
    cases hc
  | index hindex h => exact hbracket (List.cons.inj htext).1

theorem Items.not_closing {fieldFirst : Bool} {rest : List Char} {steps : List PathStep} :
    ¬Items fieldFirst (']' :: rest) steps := by
  intro h
  cases fieldFirst with
  | true => exact Items.not_first (by decide) (by decide) h
  | false => exact absurd ((Items.behind_iff (by decide)).1 h).1 (by decide)

/-- The field that a reading is in ends before a character that belongs to none. -/
theorem Items.boundary_iff {c : Cursor} {rest : List Char} {steps : List PathStep}
    (hfield : ∀ ch ∈ c.field, isFieldChar ch = true) (hindex : c.afterIndex = true → c.field = [])
    (hrest : ∀ ch, rest.head? = some ch → isFieldChar ch = false) :
    Items (!c.afterIndex) (c.field.reverse ++ rest) steps ↔
      ∃ more, Items (c.field.isEmpty && !c.afterIndex) rest more ∧
        fieldSteps c.field ++ more = steps := by
  by_cases hnil : c.field = []
  · simp [hnil, fieldSteps]
  · have hafter : c.afterIndex = false := by
      rw [← Bool.not_eq_true]
      exact fun h => hnil (hindex h)
    have hreverse : ∀ ch ∈ c.field.reverse, isFieldChar ch = true := fun ch hch =>
      hfield ch (List.mem_reverse.1 hch)
    have hne : c.field.reverse ≠ [] := fun h => hnil (List.reverse_eq_nil_iff.1 h)
    have hsteps : fieldSteps c.field = [.field (.ofList c.field.reverse)] := by
      rw [fieldSteps, if_neg (by simpa using hnil)]
    have hempty : c.field.isEmpty = false := by simpa using hnil
    rw [hafter, Bool.not_false, Items.field_iff hne hreverse hrest, hsteps, hempty, Bool.false_and]
    exact ⟨fun ⟨more, h, heq⟩ => ⟨more, h, heq.symm⟩, fun ⟨more, h, heq⟩ => ⟨more, h, heq.symm⟩⟩

theorem split_bracket {rest after : List Char} {c : Char}
    (h : rest.dropWhile (· != ']') = c :: after) :
    rest = rest.takeWhile (· != ']') ++ ']' :: after := by
  have hc := List.head?_dropWhile_not (· != ']') rest
  rw [h] at hc
  obtain rfl : c = ']' := by simpa using hc
  rw [← h, List.takeWhile_append_dropWhile]

/-- An index ends at the first closing bracket. -/
theorem Items.index_iff {fieldFirst : Bool} {rest after : List Char} {c : Char}
    {steps : List PathStep} (h : rest.dropWhile (· != ']') = c :: after) :
    Items fieldFirst ('[' :: rest) steps ↔
      ∃ n more, index? (rest.takeWhile (· != ']')) = some n ∧ Items false after more ∧
        steps = .index n :: more := by
  have hinner : ∀ ch ∈ rest.takeWhile (· != ']'), (ch != ']') = true := fun _ =>
    List.mem_takeWhile_imp
  have hclose : ']' ∉ rest.takeWhile (· != ']') := fun hmem => by simpa using hinner _ hmem
  rw [Items.bracket_iff]
  constructor
  · rintro ⟨inner, after', n, more, hrest, hindex, hmore, rfl⟩
    have hfree : ∀ ch ∈ inner, (ch != ']') = true := by
      intro ch hch
      simpa using fun heq : ch = ']' => hindex.1 (heq ▸ hch)
    obtain ⟨hinner, hafter⟩ := Text.run_unique ((split_bracket h).symm.trans hrest) hinner hfree
      (by simp) (by simp)
    obtain rfl := (List.cons.inj hafter).2
    exact ⟨n, more, (index?_eq_some_iff hclose).2 (hinner ▸ hindex), hmore, rfl⟩
  · rintro ⟨n, more, hindex, hmore, rfl⟩
    exact ⟨_, after, n, more, split_bracket h, (index?_eq_some_iff hclose).1 hindex, hmore, rfl⟩

/-- What a cursor has read of the field that it is in stands in front of what is left to read. -/
theorem steps?_eq_some_iff {c : Cursor} {text : List Char} {steps : List PathStep}
    (hfield : ∀ ch ∈ c.field, isFieldChar ch = true) (hindex : c.afterIndex = true → c.field = []) :
    steps? c text = some steps ↔ Items (!c.afterIndex) (c.field.reverse ++ text) steps := by
  have hstop : ∀ {ch : Char} {rest : List Char}, isFieldChar ch = false →
      ∀ c, (ch :: rest).head? = some c → isFieldChar c = false := by
    rintro ch rest hch c hc
    rwa [← Option.some.inj hc]
  fun_induction steps? c text generalizing steps with
  | case1 c =>
    rw [Items.boundary_iff hfield hindex (by simp)]
    simp [Items.nil_iff]
  | case2 c rest h =>
    rw [Items.boundary_iff hfield hindex (hstop (by decide)), h]
    refine ⟨nofun, fun ⟨more, hmore, _⟩ => ?_⟩
    exact absurd hmore (Items.not_first (by decide) (by decide))
  | case3 c rest h ih =>
    rw [Items.boundary_iff hfield hindex (hstop (by decide)), Bool.eq_false_iff.2 h]
    have hrest : ∀ more, steps? .start rest = some more ↔ Items false ('.' :: rest) more := by
      intro more
      have hfresh : steps? .start rest = some more ↔ Items true rest more := ih nofun nofun
      rw [hfresh, Items.behind_iff (by decide)]
      exact ⟨fun h => ⟨rfl, h⟩, And.right⟩
    simp only [Option.map_eq_map, Option.map_eq_some_iff, hrest]
  | case4 c rest h =>
    rw [Items.boundary_iff hfield hindex (hstop (by decide))]
    refine ⟨nofun, fun ⟨more, hmore, _⟩ => ?_⟩
    obtain ⟨inner, after, n, more', rfl, -⟩ := Items.bracket_iff.1 hmore
    have hmem := List.dropWhile_eq_nil_iff.1 h ']' (by simp)
    simp at hmem
  | case5 c rest head after hd hn =>
    rw [Items.boundary_iff hfield hindex (hstop (by decide))]
    refine ⟨nofun, fun ⟨more, hmore, _⟩ => ?_⟩
    obtain ⟨n, -, hn', -⟩ := (Items.index_iff hd).1 hmore
    rw [hn] at hn'
    cases hn'
  | case6 c rest head after hd n hn ih =>
    rw [Items.boundary_iff hfield hindex (hstop (by decide))]
    have hafter : ∀ more, steps? ⟨[], true⟩ after = some more ↔ Items false after more :=
      fun more => ih nofun fun _ => rfl
    simp only [Option.map_eq_map, Option.map_eq_some_iff, hafter, Items.index_iff hd, hn]
    constructor
    · rintro ⟨more, hmore, rfl⟩
      exact ⟨.index n :: more, ⟨n, more, rfl, hmore, rfl⟩, rfl⟩
    · rintro ⟨-, ⟨m, more, hm, hmore, rfl⟩, rfl⟩
      obtain rfl := Option.some.inj hm
      exact ⟨more, hmore, rfl⟩
  | case7 c rest =>
    rw [Items.boundary_iff hfield hindex (hstop (by decide))]
    exact ⟨nofun, fun ⟨more, hmore, _⟩ => absurd hmore Items.not_closing⟩
  | case8 c ch rest h1 h2 h3 h =>
    rw [h, hindex h, Bool.not_true]
    refine ⟨nofun, fun hmore => ?_⟩
    exact absurd ((Items.behind_iff (by simpa using h2)).1 hmore).1 (by simpa using h1)
  | case9 c ch rest h1 h2 h3 h ih =>
    have hch : isFieldChar ch = true := by
      simpa [isFieldChar] using ⟨⟨by simpa using h1, by simpa using h2⟩, by simpa using h3⟩
    have hafter : c.afterIndex = false := by simpa using h
    have hmore : steps? ⟨ch :: c.field, false⟩ rest = some steps ↔
        Items true ((ch :: c.field).reverse ++ rest) steps :=
      ih (List.forall_mem_cons.2 ⟨hch, hfield⟩) nofun
    rw [hmore, hafter, List.reverse_cons, List.append_assoc]
    rfl

/-- The second text is the first one without the character, if that stands in front. -/
def Drops (c : Char) (text rest : List Char) : Prop :=
  text = c :: rest ∨ text = rest ∧ text.head? ≠ some c

theorem Drops.unique {c : Char} {text rest rest' : List Char} (h : Drops c text rest)
    (h' : Drops c text rest') : rest = rest' := by
  rcases h with rfl | ⟨rfl, h⟩ <;> rcases h' with h' | ⟨h', hne⟩
  · exact (List.cons.inj h').2
  · exact absurd rfl hne
  · exact absurd (h' ▸ rfl) h
  · exact h'

/-- The second text is the first one without a dollar sign and then without a point in front. -/
def Opens (raw text : List Char) : Prop := ∃ rest, Drops '$' raw rest ∧ Drops '.' rest text

theorem drops_self {c : Char} {text : List Char} (h : ∀ rest, text = c :: rest → False) :
    Drops c text text := by
  refine .inr ⟨rfl, fun hhead => ?_⟩
  obtain ⟨rest, hrest⟩ := List.head?_eq_some_iff.1 hhead
  exact h rest hrest

theorem opens_body (raw : List Char) : Opens raw (body raw) := by
  unfold body
  dsimp only
  split
  · rename_i text hpoint
    split at hpoint
    · exact ⟨_, .inl rfl, .inl hpoint⟩
    · rename_i hdollar
      exact ⟨raw, drops_self hdollar, .inl hpoint⟩
  · rename_i hpoint
    revert hpoint
    split
    · exact fun hpoint => ⟨_, .inl rfl, drops_self hpoint⟩
    · rename_i hdollar
      exact fun hpoint => ⟨raw, drops_self hdollar, drops_self hpoint⟩

theorem Opens.unique {raw text text' : List Char} (h : Opens raw text) (h' : Opens raw text') :
    text = text' := by
  obtain ⟨rest, hdollar, hpoint⟩ := h
  obtain ⟨rest', hdollar', hpoint'⟩ := h'
  obtain rfl := hdollar.unique hdollar'
  exact hpoint.unique hpoint'

/-- A text without blanks at its ends is a path of these steps. -/
def Spells (raw : List Char) (steps : List PathStep) : Prop :=
  ∃ text, Opens raw text ∧ Items true text steps

theorem steps?_body_eq_some_iff {raw : List Char} {steps : List PathStep} :
    steps? .start (body raw) = some steps ↔ Spells raw steps := by
  have hread : steps? .start (body raw) = some steps ↔ Items true (body raw) steps :=
    steps?_eq_some_iff nofun nofun
  rw [hread]
  constructor
  · intro h
    exact ⟨body raw, opens_body raw, h⟩
  · rintro ⟨text, hopens, h⟩
    rwa [(opens_body raw).unique hopens]

theorem parse_eq (text : String) :
    parse text = match steps? .start (body (Text.trim text.toList)) with
      | some steps => .ok ⟨.ofList (Text.trim text.toList), steps⟩
      | none => .error (.invalidPath (.ofList (Text.trim text.toList))) := rfl

/-- A text is read as a path exactly when the grammar has it, as the steps of its items and with
the text without the blanks around it. Any other text is refused by name. -/
theorem parse_reads_grammar (text : String) :
    ∃ raw, Text.Trims text.toList raw ∧
      (∀ p, parse text = .ok p ↔ p.raw = .ofList raw ∧ Spells raw p.steps) ∧
      ∀ e, parse text = .error e ↔
        e = .invalidPath (.ofList raw) ∧ ∀ steps, ¬Spells raw steps := by
  refine ⟨Text.trim text.toList, Text.trims_trim _, fun p => ?_, fun e => ?_⟩
  · rw [parse_eq, ← steps?_body_eq_some_iff]
    cases steps? .start (body (Text.trim text.toList)) with
    | none => simp
    | some steps =>
      obtain ⟨raw, psteps⟩ := p
      simp [eq_comm]
  · simp only [← steps?_body_eq_some_iff]
    rw [parse_eq]
    cases steps? .start (body (Text.trim text.toList)) with
    | none => simp [eq_comm]
    | some steps => simp

end JsonPath

end ApiSuite
