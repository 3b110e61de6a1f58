import ApiSuite.Proofs.Build
import ApiSuite.Proofs.Trimming

/-! # Where the text of a variable is inserted

A placeholder names a variable with any blanks around the name. When the name has no blanks at its
ends and no characters that a placeholder cannot hold, each such placeholder is an occurrence, and
filling a template puts the text of the variable in its place as it is. A build does so in all texts
that are sent.
-/
namespace ApiSuite

namespace Piece

theorem nameOf_padded {name : String} {before after : List Char}
    (htrim : Text.trim name.toList = name.toList)
    (h : ∀ c ∈ before ++ after, Text.isBlank c = true) :
    nameOf (before ++ name.toList ++ after) = name := by
  rw [nameOf, Text.trim_padded _ h, htrim, String.ofList_toList]

theorem isInner_of_isBlank {c : Char} (hblank : Text.isBlank c = true) (hline : c ≠ '\n') :
    isInner c = true := by
  have hopen : c ≠ '\x7b' := by
    rintro rfl
    exact absurd hblank (by decide)
  have hclose : c ≠ '\x7d' := by
    rintro rfl
    exact absurd hblank (by decide)
  simp [isInner, hopen, hclose, hline]

theorem scan_nil : scan [] = [] := by
  rw [scan]
  rfl

theorem scan_of_opening? {text inner after : List Char} (ho : opening? text = some (inner, after)) :
    scan text = hole inner :: scan after := by
  rw [scan]
  split
  · rename_i heq
    rw [ho] at heq
    obtain ⟨rfl, rfl⟩ := Prod.mk.inj (Option.some.inj heq)
    rfl
  · rename_i heq
    rw [ho] at heq
    cases heq

theorem scan_cons_of_not_opening? {c : Char} {rest : List Char} (ho : opening? (c :: rest) = none) :
    scan (c :: rest) = literal c :: scan rest := by
  rw [scan]
  split
  · rename_i heq
    rw [ho] at heq
    cases heq
  · rfl

theorem scan_cons_of_ne {c : Char} (rest : List Char) (h : c ≠ '\x7b') :
    scan (c :: rest) = literal c :: scan rest := by
  apply scan_cons_of_not_opening?
  unfold opening?
  split
  · rename_i heq
    exact absurd (List.cons.inj heq).1 h
  · rfl

theorem scan_append_of_ne {lead : List Char} (rest : List Char) (h : ∀ c ∈ lead, c ≠ '\x7b') :
    scan (lead ++ rest) = lead.map literal ++ scan rest := by
  induction lead with
  | nil => rfl
  | cons c lead ih =>
    have hlead : ∀ c ∈ lead, c ≠ '\x7b' := fun d hd => h d (List.mem_cons_of_mem _ hd)
    rw [List.cons_append, scan_cons_of_ne _ (h c List.mem_cons_self), ih hlead]
    rfl

theorem scan_source_append {inner : List Char} (after : List Char)
    (h : ∀ c ∈ inner, isInner c = true) :
    scan ((hole inner).source ++ after) = hole inner :: scan after :=
  scan_of_opening? (opening?_source_append after h)

theorem nameOf_toList {name : String} (htrim : Text.trim name.toList = name.toList) :
    nameOf name.toList = name := by
  rw [nameOf, htrim, String.ofList_toList]

/-- A text that ends in a placeholder and has no opening brace before it. -/
theorem scan_hole_behind (lead : String) {name : String} (hlead : ∀ c ∈ lead.toList, c ≠ '\x7b')
    (hinner : ∀ c ∈ name.toList, isInner c = true) :
    scan (lead ++ "\x7b\x7b" ++ name ++ "\x7d\x7d").toList =
      lead.toList.map literal ++ [hole name.toList] := by
  have htext : (lead ++ "\x7b\x7b" ++ name ++ "\x7d\x7d").toList =
      lead.toList ++ ((hole name.toList).source ++ []) := by
    simp [source, String.toList_append]
  rw [htext, scan_append_of_ne _ hlead, scan_source_append _ hinner, scan_nil]

end Piece

/-- The result is the template with the text in the place of every placeholder of the name, whatever
blanks stand around the name; the literal text of the template stays. -/
def Inserts (name text template result : String) : Prop :=
  ∃ (d : Layout) (f : List Char → List Char), d.Follows template.toList ∧
    result.toList = d.fill f ∧
    ∀ before after, (∀ c ∈ before ++ after, Text.isBlank c = true ∧ c ≠ '\n') →
      f (before ++ name.toList ++ after) = text.toList ∧
      ∀ start,
        (Piece.hole (before ++ name.toList ++ after)).source <+: template.toList.drop start →
        (start, before ++ name.toList ++ after) ∈ d.spans

namespace Store

variable (s : Store)

theorem replacement_of_binding? {inner : List Char} {b : Binding}
    (h : s.binding? (Piece.nameOf inner) = some b) :
    s.replacement inner = b.substitutionText.toList := by
  unfold replacement
  rw [h]
  cases b <;> rfl

theorem filled_hole_behind (lead : String) {name : String} {b : Binding}
    (hlead : ∀ c ∈ lead.toList, c ≠ '\x7b') (htrim : Text.trim name.toList = name.toList)
    (hinner : ∀ c ∈ name.toList, Piece.isInner c = true) (hb : s.binding? name = some b) :
    s.filled (lead ++ "\x7b\x7b" ++ name ++ "\x7d\x7d") = lead ++ b.substitutionText := by
  have hvalue : s.replacement name.toList = b.substitutionText.toList :=
    s.replacement_of_binding? (by rw [Piece.nameOf_toList htrim, hb])
  apply String.toList_injective
  rw [filled, Layout.ofText, Piece.scan_hole_behind lead hlead hinner, Layout.fill_ofPieces,
    String.toList_ofList, List.flatMap_append, List.flatMap_map, List.flatMap_singleton,
    String.toList_append]
  dsimp only
  rw [hvalue, List.flatMap_singleton']

theorem inserts_filled {name : String} {b : Binding} (htrim : Text.trim name.toList = name.toList)
    (hinner : ∀ c ∈ name.toList, Piece.isInner c = true) (hb : s.binding? name = some b)
    (template : String) : Inserts name b.substitutionText template (s.filled template) := by
  have hd := Layout.follows_ofText template.toList
  refine ⟨Layout.ofText template.toList, s.replacement, hd, String.toList_ofList, ?_⟩
  intro before after hpad
  have hname : Piece.nameOf (before ++ name.toList ++ after) = name :=
    Piece.nameOf_padded htrim fun c hc => (hpad c hc).1
  refine ⟨s.replacement_of_binding? (by rw [hname, hb]), fun start hstart => ?_⟩
  refine (hd.mem_spans_iff _ _).2 (Piece.occurs_iff.2 ⟨fun c hc => ?_, hstart⟩)
  rcases List.mem_append.1 hc with hc | hc
  · rcases List.mem_append.1 hc with hc | hc
    · obtain ⟨hblank, hline⟩ := hpad c (List.mem_append_left _ hc)
      exact Piece.isInner_of_isBlank hblank hline
    · exact hinner c hc
  · obtain ⟨hblank, hline⟩ := hpad c (List.mem_append_right _ hc)
    exact Piece.isInner_of_isBlank hblank hline

end Store

inductive BodyTextwise (R : String → String → Prop) : Option BodyTemplate → Option String → Prop
  | none : BodyTextwise R none none
  | raw {text result : String} (h : R text result) : BodyTextwise R (some (.raw text)) (some result)
  | json {v w : Json} (h : v.Leafwise R w) : BodyTextwise R (some (.json v)) (some w.render)

namespace RequestBuilder

variable (b : RequestBuilder) (t : Template)

/-- A request whose texts are related to the texts of a template and of the default headers that it
does not override, each to the one that it was made from. -/
structure Textwise (R : String → String → Prop) (r : Request) : Prop where
  method_eq : r.method = t.method
  url : ∃ u, R t.url u ∧ Completed b.relativeBase u r.url
  headers : List.Forall₂ (fun h g => g.1 = h.1 ∧ R h.2 g.2)
    (t.headers ++ Headers.novel t.headers b.defaultHeaders) r.headers
  body : BodyTextwise R t.body r.body

theorem textwise_filledRequest {R : String → String → Prop}
    (h : ∀ text ∈ b.sentTexts t, R text (b.store.filled text)) :
    b.Textwise t R (b.filledRequest t) where
  method_eq := rfl
  url := ⟨_, h _ (b.url_mem_sentTexts t), b.completed_complete _⟩
  headers := by
    change List.Forall₂ _ (b.allHeaders t) ((b.allHeaders t).map b.filledHeader)
    rw [List.forall₂_map_right_iff, List.forall₂_same]
    intro d hd
    exact ⟨rfl, h _ (b.mem_sentTexts_of_mem_allHeaders t hd)⟩
  body := by
    have hbody : ∀ text ∈ bodyTexts t.body, R text (b.store.filled text) := fun text ht =>
      h text (b.mem_sentTexts_of_mem_bodyTexts t ht)
    change BodyTextwise R t.body (b.filledBody t.body)
    cases hb : t.body with
    | none => exact .none
    | some body =>
      rw [hb] at hbody
      cases body with
      | raw text => exact .raw (hbody text (by simp [bodyTexts]))
      | json v => exact .json (Json.leafwise_mapStrings v hbody)

/-- A build inserts the text of a variable in every text that it sends. -/
theorem textwise_inserts {name : String} {x : Binding} {r : Request}
    (htrim : Text.trim name.toList = name.toList)
    (hinner : ∀ c ∈ name.toList, Piece.isInner c = true) (hx : b.store.binding? name = some x)
    (h : (b.build t).outcome = .ok r) : b.Textwise t (Inserts name x.substitutionText) r := by
  rw [← b.filledRequest_of_outcome_build t h]
  exact b.textwise_filledRequest t fun text _ => b.store.inserts_filled htrim hinner hx text

end RequestBuilder

end ApiSuite
