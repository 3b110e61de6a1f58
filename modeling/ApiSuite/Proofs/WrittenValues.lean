import ApiSuite.Proofs.Canonical
import ApiSuite.Proofs.FlatBodies
import ApiSuite.Proofs.RoundTrip

/-! # Values written into documents

A value that is no string is bound as its compact text. A placeholder that is written without quotes
into a gap of a document therefore becomes the value in the gap. The braces of the document around
it do no harm: the brace of an object stands before a quote or before its closing brace, so that no
opening pair ends or overlaps the one of the placeholder, and the closing pair next to the name is
the first one.
-/
namespace ApiSuite

namespace Json

theorem keysOfItems_eq_flatMap (items : List Json) : keysOfItems items = items.flatMap keys := by
  induction items with
  | nil => rfl
  | cons v rest ih => rw [keysOfItems, ih, List.flatMap_cons]

theorem keysOfFields_eq_flatMap (fields : List (String × Json)) :
    keysOfFields fields = fields.flatMap fun e => e.1 :: e.2.keys := by
  induction fields with
  | nil => rfl
  | cons e rest ih => rw [keysOfFields, ih, List.flatMap_cons, List.cons_append]

theorem stringsOfItems_eq_flatMap (items : List Json) :
    stringsOfItems items = items.flatMap strings := by
  induction items with
  | nil => rfl
  | cons v rest ih => rw [stringsOfItems, ih, List.flatMap_cons]

theorem stringsOfFields_eq_flatMap (fields : List (String × Json)) :
    stringsOfFields fields = fields.flatMap fun e => e.2.strings := by
  induction fields with
  | nil => rfl
  | cons e rest ih => rw [stringsOfFields, ih, List.flatMap_cons]

mutual

theorem mapStrings_id : ∀ v : Json, v.mapStrings id = v
  | .null => rfl
  | .bool _ => rfl
  | .num _ => rfl
  | .str _ => rfl
  | .arr items => congrArg Json.arr (mapItems_id items)
  | .obj fields => congrArg Json.obj (mapFields_id fields)

theorem mapItems_id : ∀ items : List Json, mapItems id items = items
  | [] => rfl
  | v :: rest => by rw [mapItems, mapStrings_id v, mapItems_id rest]

theorem mapFields_id : ∀ fields : List (String × Json), mapFields id fields = fields
  | [] => rfl
  | (k, v) :: rest => by rw [mapFields, mapStrings_id v, mapFields_id rest]

end

/-- No brace opens in a key or a string of the value. -/
def Unopened (v : Json) : Prop := ∀ text ∈ v.keys ++ v.strings, '\x7b' ∉ text.toList

instance (v : Json) : Decidable v.Unopened := List.decidableBAll _ _

theorem unopened_arr_iff {items : List Json} :
    (arr items).Unopened ↔ ∀ v ∈ items, v.Unopened := by
  simp only [Unopened, keys, strings, keysOfItems_eq_flatMap, stringsOfItems_eq_flatMap,
    List.mem_append, List.mem_flatMap]
  constructor
  · rintro h v hv text (hkey | hstring)
    · exact h text (.inl ⟨v, hv, hkey⟩)
    · exact h text (.inr ⟨v, hv, hstring⟩)
  · rintro h text (⟨v, hv, hkey⟩ | ⟨v, hv, hstring⟩)
    · exact h v hv text (.inl hkey)
    · exact h v hv text (.inr hstring)

theorem unopened_obj_iff {fields : List (String × Json)} :
    (obj fields).Unopened ↔ ∀ e ∈ fields, '\x7b' ∉ e.1.toList ∧ e.2.Unopened := by
  simp only [Unopened, keys, strings, keysOfFields_eq_flatMap, stringsOfFields_eq_flatMap,
    List.mem_append, List.mem_flatMap, List.mem_cons]
  constructor
  · intro h e he
    refine ⟨h e.1 (.inl ⟨e, he, .inl rfl⟩), ?_⟩
    rintro text (hkey | hstring)
    · exact h text (.inl ⟨e, he, .inr hkey⟩)
    · exact h text (.inr ⟨e, he, hstring⟩)
  · rintro h text (⟨e, he, rfl | hkey⟩ | ⟨e, he, hstring⟩)
    · exact (h e he).1
    · exact (h e he).2 text (.inl hkey)
    · exact (h e he).2 text (.inr hstring)

/-! ## Gaps -/

/-- A document with a gap in the place of one value: of the whole document, or of a value in an
element of an array or in a field of an object. -/
inductive Gap where
  | whole
  | item (before : List Json) (gap : Gap) (after : List Json)
  | field (before : List (String × Json)) (name : String) (gap : Gap)
    (after : List (String × Json))

namespace Gap

/-- The document with a value in the gap. -/
def put (v : Json) : Gap → Json
  | whole => v
  | item before gap after => .arr (before ++ gap.put v :: after)
  | field before name gap after => .obj (before ++ (name, gap.put v) :: after)

/-- The compact text of the document, with any text in the gap. -/
def write (text : List Char) : Gap → List Char
  | whole => text
  | item before gap after =>
    '[' :: (before.flatMap (fun v => v.chars ++ [',']) ++ (gap.write text ++ itemChars after))
  | field before name gap after =>
    '\x7b' :: (before.flatMap (fun e => stringChars e.1 ++ ':' :: (e.2.chars ++ [','])) ++
      (stringChars name ++ ':' :: (gap.write text ++ fieldChars after)))

def written (p : Gap) (text : String) : String := .ofList (p.write text.toList)

end Gap

theorem chars_arr_append (before : List Json) (v : Json) (after : List Json) :
    (arr (before ++ v :: after)).chars =
      '[' :: (before.flatMap (fun w => w.chars ++ [',']) ++ (v.chars ++ itemChars after)) := by
  cases before with
  | nil => rfl
  | cons first rest =>
    rw [List.cons_append, chars]
    refine congrArg ('[' :: ·) ?_
    induction rest generalizing first with
    | nil => simp [itemChars]
    | cons w rest ih => simp [itemChars, ih w]

theorem chars_obj_append (before : List (String × Json)) (name : String) (v : Json)
    (after : List (String × Json)) :
    (obj (before ++ (name, v) :: after)).chars =
      '\x7b' :: (before.flatMap (fun e => stringChars e.1 ++ ':' :: (e.2.chars ++ [','])) ++
        (stringChars name ++ ':' :: (v.chars ++ fieldChars after))) := by
  cases before with
  | nil => rfl
  | cons first rest =>
    obtain ⟨k, w⟩ := first
    rw [List.cons_append, chars]
    refine congrArg ('\x7b' :: ·) ?_
    induction rest generalizing k w with
    | nil => simp [fieldChars]
    | cons e rest ih =>
      obtain ⟨l, u⟩ := e
      simp [fieldChars, ih l u]

namespace Gap

theorem chars_put (p : Gap) (v : Json) : (p.put v).chars = p.write v.chars := by
  induction p with
  | whole => rfl
  | item before gap after ih => rw [put, chars_arr_append, ih, write]
  | field before name gap after ih => rw [put, chars_obj_append, ih, write]

theorem render_put (p : Gap) (v : Json) : (p.put v).render = p.written v.render := by
  rw [render, chars_put, written, render, String.toList_ofList]

/-- A canonical document stays canonical when another canonical value is put into it. -/
theorem canonical_put {p : Gap} {old v : Json} (hp : (p.put old).Canonical) (hv : v.Canonical) :
    (p.put v).Canonical := by
  induction p with
  | whole => exact hv
  | item before gap after ih =>
    simp only [put, Canonical, canonicalItems_iff, List.forall_mem_append,
      List.forall_mem_cons] at hp ⊢
    exact ⟨hp.1, ih hp.2.1, hp.2.2⟩
  | field before name gap after ih =>
    simp only [put, Canonical, canonicalFields_iff, List.forall_mem_append,
      List.forall_mem_cons] at hp ⊢
    obtain ⟨hsorted, hbefore, hold, hafter⟩ := hp
    have hnames : ∀ u : Json, (before ++ (name, u) :: after).map Prod.fst =
        before.map Prod.fst ++ name :: after.map Prod.fst := by simp
    have hpairwise := List.pairwise_map.2 hsorted
    rw [hnames, ← hnames (gap.put v)] at hpairwise
    exact ⟨List.pairwise_map.1 hpairwise, hbefore, ih hold, hafter⟩

end Gap

end Json

/-! ## Filling a gap -/

namespace Store

open Json

variable {s : Store}

namespace Fills

variable {text result : List Char} {names : List String}

theorem flatMap {α : Type} {xs : List α} {f : α → List Char}
    (h : ∀ x ∈ xs, s.Fills (f x) [] (f x)) : s.Fills (xs.flatMap f) [] (xs.flatMap f) := by
  induction xs with
  | nil => exact fills_of_notMem List.not_mem_nil
  | cons x rest ih =>
    rw [List.flatMap_cons]
    exact (h x List.mem_cons_self).append (ih fun y hy => h y (List.mem_cons_of_mem _ hy))

/-- A brace in front of a quote stands for itself. -/
theorem open_quote (hquote : text.head? = some '"') (h : s.Fills text names result) :
    s.Fills ('\x7b' :: text) names ('\x7b' :: result) := by
  obtain ⟨rest, rfl⟩ := List.head?_eq_some_iff.1 hquote
  exact h.open_cons (by decide)

/-- A text of bound variables is filled without a warning. -/
theorem substitute_eq {text result : String} (h : s.Fills text.toList names result.toList)
    (hbound : ∀ name ∈ names, s.contains name = true) : s.substitute text = .ok result := by
  rw [Store.substitute_eq, h.placeholders_eq, h.filled_eq,
    s.pass_of_unbound_eq_nil (s.unbound_eq_nil_iff.2 hbound)]
  rfl

end Fills

theorem enclosed_of_unopened {v : Json} (h : v.Unopened) : s.Enclosed v.keys v.strings where
  keys key hkey := h key (List.mem_append_left _ hkey)
  fills := by
    intro leaf hleaf
    have hopen : '\x7b' ∉ leaf.toList := h leaf (List.mem_append_right _ hleaf)
    have hself : s.Fills leaf.toList [] leaf.toList := fills_of_notMem hopen
    rw [hself.placeholders_eq, hself.filled_eq]
    exact fills_of_notMem (open_notMem_stringChars hopen)

/-- A document in whose keys and strings no brace opens is filled with itself. -/
theorem fills_chars_of_unopened {v : Json} (h : v.Unopened) : s.Fills v.chars [] v.chars := by
  have hself : ∀ leaf ∈ v.strings, s.Fills leaf.toList [] leaf.toList := fun leaf hleaf =>
    fills_of_notMem (h leaf (List.mem_append_right _ hleaf))
  have hnames : v.strings.flatMap placeholders = [] :=
    List.flatMap_eq_nil_iff.2 fun leaf hleaf => (hself leaf hleaf).placeholders_eq
  have hfilled : v.mapStrings s.filled = v :=
    (mapStrings_congr v fun leaf hleaf => (hself leaf hleaf).filled_eq).trans (mapStrings_id v)
  have hfills := fills_chars v (enclosed_of_unopened (s := s) h)
  rwa [hnames, hfilled] at hfills

theorem fills_itemChars_of_unopened {items : List Json} (h : ∀ v ∈ items, v.Unopened) :
    s.Fills (itemChars items) [] (itemChars items) := by
  induction items with
  | nil => exact fills_of_notMem (by decide)
  | cons v rest ih =>
    obtain ⟨hv, hrest⟩ := List.forall_mem_cons.1 h
    exact ((fills_chars_of_unopened hv).append (ih hrest)).cons (by decide)

theorem fills_fieldChars_of_unopened {fields : List (String × Json)}
    (h : ∀ e ∈ fields, '\x7b' ∉ e.1.toList ∧ e.2.Unopened) :
    s.Fills (fieldChars fields) [] (fieldChars fields) := by
  induction fields with
  | nil => exact fills_of_notMem (by decide)
  | cons e rest ih =>
    obtain ⟨⟨hkey, hv⟩, hrest⟩ := List.forall_mem_cons.1 h
    exact (((fills_chars_of_unopened hv).append (ih hrest)).field hkey).cons (by decide)

/-- Whatever is written into the gap of such a document is filled as it is elsewhere. -/
theorem fills_write {p : Gap} {old : Json} {text result : List Char} {names : List String}
    (hp : (p.put old).Unopened) (h : s.Fills text names result) :
    s.Fills (p.write text) names (p.write result) := by
  have hcomma : s.Fills [','] [] [','] := fills_of_notMem (by decide)
  induction p with
  | whole => exact h
  | item before gap after ih =>
    rw [Gap.put, unopened_arr_iff, List.forall_mem_append, List.forall_mem_cons] at hp
    obtain ⟨hbefore, hgap, hafter⟩ := hp
    have hlead : s.Fills (before.flatMap fun v => v.chars ++ [',']) [] _ :=
      Fills.flatMap fun v hv => (fills_chars_of_unopened (hbefore v hv)).append hcomma
    have hbody := hlead.append ((ih hgap).append (fills_itemChars_of_unopened hafter))
    rw [List.nil_append, List.append_nil] at hbody
    exact hbody.cons (by decide)
  | field before name gap after ih =>
    rw [Gap.put, unopened_obj_iff, List.forall_mem_append, List.forall_mem_cons] at hp
    obtain ⟨hbefore, ⟨hname, hgap⟩, hafter⟩ := hp
    have hlead : s.Fills
        (before.flatMap fun e => stringChars e.1 ++ ':' :: (e.2.chars ++ [','])) [] _ :=
      Fills.flatMap fun e he =>
        ((fills_chars_of_unopened (hbefore e he).2).append hcomma).field (hbefore e he).1
    have hbody := ((ih hgap).append (fills_fieldChars_of_unopened hafter)).field hname
    have hfields := hlead.append hbody
    rw [List.nil_append, List.append_nil] at hfields
    refine hfields.open_quote ?_
    cases before with
    | nil => rfl
    | cons e rest => rfl

variable {x : String} {b : Binding}

theorem fills_hole (htrim : Text.trim x.toList = x.toList)
    (hinner : ∀ c ∈ x.toList, Piece.isInner c = true) (hb : s.binding? x = some b) :
    s.Fills ("\x7b\x7b" ++ x ++ "\x7d\x7d").toList [x] b.substitutionText.toList := by
  have htext : ("\x7b\x7b" ++ x ++ "\x7d\x7d").toList = (Piece.hole x.toList).source := by
    simp [Piece.source, String.toList_append]
  have hname : Piece.nameOf x.toList = x := Piece.nameOf_toList htrim
  refine ⟨[.hole x.toList], fun rest => ?_, ?_, ?_⟩
  · rw [htext, Piece.scan_source_append rest hinner]
    rfl
  · exact congrArg (· :: []) hname
  · rw [Layout.fill_ofPieces, List.flatMap_singleton]
    exact s.replacement_of_binding? (by rw [hname, hb])

theorem substitutionText_ofJson {v : Json} (hv : ∀ text, v ≠ .str text) :
    (Binding.ofJson v).substitutionText = v.render := by
  cases v with
  | str text => exact absurd rfl (hv text)
  | null | bool _ | num _ | arr _ | obj _ => rfl

/-- A value that is no string and has been written to a variable is inserted as a text of this
value. In the gap of a document in whose keys and strings no brace opens, a placeholder without
quotes becomes the value: the result is the compact text of the document with the value there. -/
theorem written_value_restored (s : Store) {x : String} {v : Json}
    (htrim : Text.trim x.toList = x.toList) (hinner : ∀ c ∈ x.toList, Piece.isInner c = true)
    (hv : ∀ text, v ≠ .str text) (hc : v.Canonical) :
    (v.Integral → v.depth ≤ maxDepth →
      ∃ text, (s.setJson x v).substitute ("\x7b\x7b" ++ x ++ "\x7d\x7d") = .ok text ∧
        Json.parse text = .ok v) ∧
    ∀ (p : Gap) (old : Json), (p.put old).Canonical → (p.put old).Unopened →
      (∀ w : Json, (p.put w).render = p.written w.render) ∧
      (s.setJson x v).substitute (p.written ("\x7b\x7b" ++ x ++ "\x7d\x7d")) =
        .ok (p.put v).render ∧
      ((p.put v).Integral → (p.put v).depth ≤ maxDepth →
        Json.parse (p.put v).render = .ok (p.put v)) := by
  have hb : (s.setJson x v).binding? x = some (Binding.ofJson v) := by
    rw [setJson, binding?_bind, if_pos rfl]
  have hhole : (s.setJson x v).Fills ("\x7b\x7b" ++ x ++ "\x7d\x7d").toList [x]
      v.render.toList := by
    rw [← substitutionText_ofJson hv]
    exact fills_hole htrim hinner hb
  have hbound : ∀ name ∈ [x], (s.setJson x v).contains name = true := by
    intro name hname
    rw [List.mem_singleton.1 hname, contains_eq_isSome, hb]
    rfl
  constructor
  · intro hi hd
    exact ⟨v.render, hhole.substitute_eq hbound, parse_render hc hi hd⟩
  · intro p old hold hopen
    refine ⟨p.render_put, ?_, fun hi hd => parse_render (Gap.canonical_put hold hc) hi hd⟩
    have hwritten : (s.setJson x v).Fills (p.written ("\x7b\x7b" ++ x ++ "\x7d\x7d")).toList [x]
        (p.put v).render.toList := by
      rw [p.render_put, Gap.written, Gap.written, String.toList_ofList, String.toList_ofList]
      exact fills_write hopen hhole
    exact hwritten.substitute_eq hbound

/-- Three closing braces and more stand behind the placeholder, and the value that is inserted has
braces and a placeholder of its own. -/
theorem nested_value_restored :
    let s := Store.new .fail
    let v : Json := .obj [("a", .str "\x7b\x7bx\x7d\x7d"), ("b", .arr [.num (.int (-7)), .null])]
    let inner : Gap := .field [] "p" (.item [.null] .whole []) []
    let p : Gap := .field [("k", .str "\"\n\x7d")] "o" inner []
    let filled : Json := .obj [("k", .str "\"\n\x7d"), ("o", .obj [("p", .arr [.null, v])])]
    Text.trim "x".toList = "x".toList ∧ (∀ c ∈ "x".toList, Piece.isInner c = true) ∧
      (∀ text, v ≠ .str text) ∧ v.Canonical ∧ (p.put .null).Canonical ∧ (p.put .null).Unopened ∧
      (∃ text, (s.setJson "x" v).substitute "\x7b\x7bx\x7d\x7d" = .ok text ∧
        Json.parse text = .ok v) ∧
      (s.setJson "x" v).substitute (p.written "\x7b\x7bx\x7d\x7d") = .ok filled.render ∧
      Json.parse filled.render = .ok filled := by
  intro s v inner p filled
  have htrim : Text.trim "x".toList = "x".toList := by decide
  have hinner : ∀ c ∈ "x".toList, Piece.isInner c = true := List.all_eq_true.1 (by decide)
  have hv : ∀ text, v ≠ .str text := nofun
  have hc : v.Canonical := ⟨by decide, trivial, ⟨trivial, trivial, trivial⟩, trivial⟩
  have hold : (p.put .null).Canonical :=
    ⟨by decide, trivial, ⟨by decide, ⟨trivial, trivial, trivial⟩, trivial⟩, trivial⟩
  have hopen : (p.put .null).Unopened := by decide
  have hseven : Number.Exact (.int (-7)) := ⟨by decide, by decide⟩
  have hi : v.Integral := ⟨trivial, ⟨hseven, trivial, trivial⟩, trivial⟩
  have hfilled : (p.put v).Integral := ⟨trivial, ⟨⟨trivial, hi, trivial⟩, trivial⟩, trivial⟩
  obtain ⟨hself, hgap⟩ := written_value_restored s htrim hinner hv hc
  obtain ⟨-, hwritten, hparse⟩ := hgap p .null hold hopen
  exact ⟨htrim, hinner, hv, hc, hold, hopen, hself hi (by decide), hwritten,
    hparse hfilled (by decide)⟩

end Store

end ApiSuite
