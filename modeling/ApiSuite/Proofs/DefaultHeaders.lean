import ApiSuite.Proofs.SubstitutionPass
import ApiSuite.RequestBuilder

/-! # Default headers that a template does not override

A default header is added to a request when no header before it has its name, where the case of
ASCII letters plays no part. The loop that adds them looks at the headers that are already there;
here the same headers are told apart by all earlier names, of added and of dropped headers alike.
-/
namespace ApiSuite

namespace Headers

/-- The headers of the second list whose names occur neither in the first list nor before them in
their own. -/
def novel (taken : List (String × String)) : List (String × String) → List (String × String)
  | [] => []
  | h :: rest => if has taken h.1 then novel (taken ++ [h]) rest else h :: novel (taken ++ [h]) rest

theorem novel_append (taken headers more : List (String × String)) :
    novel taken (headers ++ more) = novel taken headers ++ novel (taken ++ headers) more := by
  induction headers generalizing taken with
  | nil => rw [List.append_nil, List.nil_append, novel, List.nil_append]
  | cons h rest ih =>
    rw [List.cons_append, novel, novel, ih, List.append_assoc, List.singleton_append]
    split <;> rfl

theorem sameName_iff {a b : String} : sameName a b = true ↔ foldCase a = foldCase b := by
  simp [sameName]

theorem has_append (headers more : List (String × String)) (name : String) :
    has (headers ++ more) name = (has headers name || has more name) :=
  List.any_append

/-- A header whose name is there already makes no further name known. -/
theorem has_append_singleton {headers : List (String × String)} {h : String × String}
    (hh : has headers h.1 = true) (name : String) :
    has (headers ++ [h]) name = has headers name := by
  rw [has_append]
  cases hn : has [h] name with
  | false => exact Bool.or_false _
  | true =>
    obtain ⟨g, hg, hgh⟩ := List.any_eq_true.1 hh
    have hname : foldCase h.1 = foldCase name := sameName_iff.1 (by simpa [has] using hn)
    have hsame : sameName g.1 name = true := sameName_iff.2 ((sameName_iff.1 hgh).trans hname)
    have hhas : has headers name = true := List.any_eq_true.2 ⟨g, hg, hsame⟩
    rw [hhas, Bool.or_true]

theorem has_congr {headers more : List (String × String)}
    (h : headers.map Prod.fst = more.map Prod.fst) (name : String) :
    has headers name = has more name := by
  have hany : ∀ headers : List (String × String),
      has headers name = (headers.map Prod.fst).any (sameName · name) := by
    intro headers
    rw [List.any_map]
    rfl
  rw [hany, hany, h]

theorem mem_novel_iff {taken headers : List (String × String)} {h : String × String} :
    h ∈ novel taken headers ↔
      ∃ before after, headers = before ++ h :: after ∧ has (taken ++ before) h.1 = false := by
  induction headers generalizing taken with
  | nil => simp [novel]
  | cons g rest ih =>
    have hsplit : (∃ before after, g :: rest = before ++ h :: after ∧
        has (taken ++ before) h.1 = false) ↔
        (g = h ∧ has taken h.1 = false) ∨ h ∈ novel (taken ++ [g]) rest := by
      rw [ih]
      constructor
      · rintro ⟨before, after, heq, hh⟩
        cases before with
        | nil =>
          rw [List.append_nil] at hh
          exact .inl ⟨(List.cons.inj heq).1, hh⟩
        | cons f before =>
          obtain ⟨rfl, rfl⟩ := List.cons.inj heq
          exact .inr ⟨before, after, rfl, by rwa [List.append_assoc]⟩
      · rintro (⟨rfl, hh⟩ | ⟨before, after, rfl, hh⟩)
        · exact ⟨[], rest, rfl, by rwa [List.append_nil]⟩
        · exact ⟨g :: before, after, rfl, by rwa [List.append_assoc] at hh⟩
    rw [hsplit, novel]
    split
    · rename_i hg
      constructor
      · exact .inr
      · rintro (⟨rfl, hh⟩ | hh)
        · rw [hg] at hh
          cases hh
        · exact hh
    · rename_i hg
      rw [List.mem_cons]
      refine or_congr_left ⟨?_, fun hh => hh.1.symm⟩
      rintro rfl
      exact ⟨rfl, Bool.eq_false_iff.2 hg⟩

theorem has_of_mem_novel {taken headers : List (String × String)} {h : String × String}
    (hh : h ∈ novel taken headers) : h ∈ headers ∧ has taken h.1 = false := by
  obtain ⟨before, after, rfl, hhas⟩ := mem_novel_iff.1 hh
  rw [has_append, Bool.or_eq_false_iff] at hhas
  exact ⟨List.mem_append_right _ List.mem_cons_self, hhas.1⟩

end Headers

namespace RequestBuilder

variable (b : RequestBuilder) (t : Template)

def ownDefaults : List (String × String) :=
  b.defaultHeaders.filter fun d => !Headers.has t.headers d.1

/-- A default header that the template does not override, behind another one of its name. -/
def Shadowed (d : String × String) : Prop :=
  ∃ before after, b.defaultHeaders = before ++ d :: after ∧
    Headers.has t.headers d.1 = false ∧ Headers.has before d.1 = true

theorem mem_ownDefaults_iff {d : String × String} :
    d ∈ b.ownDefaults t ↔ d ∈ Headers.novel t.headers b.defaultHeaders ∨ b.Shadowed t d := by
  unfold ownDefaults
  rw [List.mem_filter, Bool.not_eq_true']
  constructor
  · rintro ⟨hd, hown⟩
    obtain ⟨before, after, heq⟩ := List.append_of_mem hd
    cases hb : Headers.has before d.1 with
    | true => exact .inr ⟨before, after, heq, hown, hb⟩
    | false =>
      refine .inl (Headers.mem_novel_iff.2 ⟨before, after, heq, ?_⟩)
      rw [Headers.has_append, hown, hb]
      rfl
  · rintro (hd | ⟨before, after, heq, hown, _⟩)
    · exact Headers.has_of_mem_novel hd
    · exact ⟨heq ▸ List.mem_append_right _ List.mem_cons_self, hown⟩

def filledHeader (h : String × String) : String × String := (h.1, b.store.filled h.2)

theorem substituteHeaders_eq (headers : List (String × String)) :
    b.substituteHeaders headers =
      b.store.pass (headers.flatMap fun h => placeholders h.2) (headers.map b.filledHeader) := by
  induction headers with
  | nil => exact (b.store.pass_nil _).symm
  | cons h rest ih =>
    rw [substituteHeaders, Store.substitute_eq, ih]
    exact b.store.pass_bind _ _ (b.store.pass_map _ _ _)

/-- The invariant of the loop: the headers that are there have the same names as all headers that
were looked at. -/
theorem addDefaults_eq (headers taken defaults : List (String × String))
    (h : ∀ name, Headers.has headers name = Headers.has taken name) :
    b.addDefaults headers defaults =
      b.store.pass ((Headers.novel taken defaults).flatMap fun d => placeholders d.2)
        (headers ++ (Headers.novel taken defaults).map b.filledHeader) := by
  induction defaults generalizing headers taken with
  | nil =>
    rw [addDefaults, Headers.novel, List.map_nil, List.append_nil]
    exact (b.store.pass_nil _).symm
  | cons d rest ih =>
    rw [addDefaults, Headers.novel, h]
    cases ht : Headers.has taken d.1 with
    | true =>
      -- The dropped header enters `taken` only, which makes no new name known.
      have hnext : ∀ name, Headers.has headers name = Headers.has (taken ++ [d]) name := by
        intro name
        rw [Headers.has_append_singleton ht, h]
      exact ih headers (taken ++ [d]) hnext
    | false =>
      have hnext : ∀ name, Headers.has (headers ++ [b.filledHeader d]) name =
          Headers.has (taken ++ [d]) name := by
        intro name
        rw [Headers.has_append, Headers.has_append, h]
        rfl
      have hrest := ih (headers ++ [b.filledHeader d]) (taken ++ [d]) hnext
      rw [List.append_assoc] at hrest
      simp only [Bool.false_eq_true, ↓reduceIte]
      rw [Store.substitute_eq]
      exact b.store.pass_bind _ _ hrest

end RequestBuilder

end ApiSuite
