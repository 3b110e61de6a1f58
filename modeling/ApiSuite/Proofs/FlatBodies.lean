import ApiSuite.Proofs.Influence
import ApiSuite.Proofs.Insertion
import ApiSuite.Proofs.Substitution

/-! # Raw and structured bodies

The compact text of a value can be substituted as a whole, or the value leaf by leaf and written
afterwards. Both give the same when no key has an opening brace, the braces of every string belong
to its placeholders, and nothing in the strings and in what is put into them has to be escaped. An
opening brace of the text itself is never followed by another one, so that scanning the whole text
finds the placeholders of the strings in the order of the leaves, and no others.
-/
namespace ApiSuite

/-! ## Texts that are read alike wherever they stand -/

namespace Piece

/-- Every brace of the text belongs to an occurrence of a placeholder. -/
def BracesOccur (text : List Char) : Prop :=
  ∀ i c, text[i]? = some c → c = '\x7b' ∨ c = '\x7d' →
    ∃ start inner, Occurs text start inner ∧ start ≤ i ∧ i < start + inner.length + 4

theorem bracesOccur_source_append_iff {inner after : List Char}
    (hinner : ∀ c ∈ inner, isInner c = true) :
    BracesOccur ((hole inner).source ++ after) ↔ BracesOccur after := by
  have hshift : ∀ i, ((hole inner).source ++ after)[inner.length + 4 + i]? = after[i]? := by
    intro i
    rw [List.getElem?_append_right (by rw [length_source_hole]; omega), length_source_hole,
      Nat.add_sub_cancel_left]
  constructor
  · intro h i c hc hbrace
    obtain ⟨start, m, hoccurs, hle, hlt⟩ := h _ c ((hshift i).trans hc) hbrace
    rcases (occurs_source_append_iff hinner).1 hoccurs with ⟨rfl, rfl⟩ | ⟨k, rfl, hk⟩
    · omega
    · exact ⟨k, m, hk, by omega, by omega⟩
  · intro h i c hc hbrace
    by_cases hi : i < inner.length + 4
    · exact ⟨0, inner, (occurs_source_append_iff hinner).2 (.inl ⟨rfl, rfl⟩), by omega, by omega⟩
    · obtain ⟨k, rfl⟩ := Nat.exists_eq_add_of_le (Nat.le_of_not_lt hi)
      obtain ⟨start, m, hoccurs, hle, hlt⟩ := h k c ((hshift k).symm.trans hc) hbrace
      exact ⟨_, m, (occurs_source_append_iff hinner).2 (.inr ⟨start, rfl, hoccurs⟩), by omega,
        by omega⟩

theorem bracesOccur_cons_iff {c : Char} {rest : List Char} (ho : opening? (c :: rest) = none) :
    BracesOccur (c :: rest) ↔ (c ≠ '\x7b' ∧ c ≠ '\x7d') ∧ BracesOccur rest := by
  constructor
  · intro h
    refine ⟨?_, fun i d hd hbrace => ?_⟩
    · rw [← not_or]
      intro hbrace
      obtain ⟨start, inner, hoccurs, hle, -⟩ := h 0 c rfl hbrace
      obtain ⟨k, rfl, -⟩ := (occurs_cons_iff ho).1 hoccurs
      omega
    · obtain ⟨start, inner, hoccurs, hle, hlt⟩ := h (i + 1) d hd hbrace
      obtain ⟨k, rfl, hk⟩ := (occurs_cons_iff ho).1 hoccurs
      exact ⟨k, inner, hk, by omega, by omega⟩
  · rintro ⟨hc, h⟩ i d hd hbrace
    cases i with
    | zero =>
      rw [← Option.some.inj hd] at hbrace
      exact absurd hbrace (not_or.2 hc)
    | succ i =>
      obtain ⟨start, inner, hoccurs, hle, hlt⟩ := h i d hd hbrace
      exact ⟨start + 1, inner, (occurs_cons_iff ho).2 ⟨start, rfl, hoccurs⟩, by omega, by omega⟩

/-- The braces of a text belong to its placeholders when scanning leaves none of them over. -/
theorem bracesOccur_iff (text : List Char) :
    BracesOccur text ↔ literal '\x7b' ∉ scan text ∧ literal '\x7d' ∉ scan text := by
  fun_induction scan text with
  | case1 text inner after ho ih =>
    obtain ⟨rfl, hinner⟩ := opening?_eq_some ho
    rw [bracesOccur_source_append_iff hinner, ih]
    simp
  | case2 => simp [BracesOccur]
  | case3 c rest ho ih =>
    rw [bracesOccur_cons_iff ho, ih]
    simp only [List.mem_cons, literal.injEq, not_or, eq_comm (a := c), ne_eq]
    exact and_and_and_comm

instance (text : List Char) : Decidable (BracesOccur text) :=
  decidable_of_iff _ (bracesOccur_iff text).symm

/-- The text is read as these pieces whatever stands behind it. -/
def Reads (text : List Char) (pieces : List Piece) : Prop :=
  ∀ rest, scan (text ++ rest) = pieces ++ scan rest

theorem Reads.scan_eq {text : List Char} {pieces : List Piece} (h : Reads text pieces) :
    scan text = pieces := by
  have hend := h []
  rwa [scan_nil, List.append_nil, List.append_nil] at hend

theorem Reads.append {text more : List Char} {pieces others : List Piece} (h : Reads text pieces)
    (h' : Reads more others) : Reads (text ++ more) (pieces ++ others) := by
  intro rest
  rw [List.append_assoc, h, h', List.append_assoc]

theorem reads_of_notMem {text : List Char} (h : '\x7b' ∉ text) :
    Reads text (text.map literal) :=
  fun rest => scan_append_of_ne rest fun _ hc => ne_of_mem_of_not_mem hc h

theorem Reads.open_cons {c : Char} {text : List Char} {pieces : List Piece} (hc : c ≠ '\x7b')
    (h : Reads (c :: text) pieces) :
    Reads ('\x7b' :: c :: text) (literal '\x7b' :: pieces) := by
  intro rest
  have ho : opening? ('\x7b' :: c :: (text ++ rest)) = none := by
    unfold opening?
    split
    · rename_i heq
      exact absurd (List.cons.inj (List.cons.inj heq).2).1 hc
    · rfl
  exact (scan_cons_of_not_opening? ho).trans (congrArg (literal '\x7b' :: ·) (h rest))

theorem reads_scan {text : List Char} (h : BracesOccur text) : Reads text (scan text) := by
  fun_induction scan text with
  | case1 text inner after ho ih =>
    obtain ⟨rfl, hinner⟩ := opening?_eq_some ho
    have hhole : Reads (hole inner).source [hole inner] := fun rest =>
      scan_source_append rest hinner
    exact hhole.append (ih ((bracesOccur_source_append_iff hinner).1 h))
  | case2 => exact fun rest => rfl
  | case3 c rest ho ih =>
    obtain ⟨⟨hc, -⟩, hrest⟩ := (bracesOccur_cons_iff ho).1 h
    exact (reads_of_notMem (mt List.mem_singleton.1 hc.symm)).append (ih hrest)

theorem source_subset_of_mem_scan {text : List Char} {p : Piece} (h : p ∈ scan text) :
    p.source ⊆ text := by
  intro c hc
  rw [← Layout.source_ofText text, Layout.ofText, Layout.source, Layout.fill_ofPieces]
  refine List.mem_flatMap.2 ⟨p, h, ?_⟩
  cases p <;> exact hc

end Piece

/-! ## What is written -/

namespace Json

namespace Number

def isChar (c : Char) : Bool := c.isDigit || c == '.' || c == 'e' || c == '+' || c == '-'

theorem isChar_of_mem_repr {n : Nat} : ∀ c ∈ (Nat.repr n).toList, isChar c = true := by
  intro c hc
  rw [Nat.repr_eq_ofList_toDigits, String.toList_ofList] at hc
  have hdigit : c.isDigit = true := Nat.isDigit_of_mem_toDigits (by decide) (by decide) hc
  simp [isChar, hdigit]

theorem isChar_of_mem_layout {digits : List Char} (hdigits : ∀ c ∈ digits, isChar c = true)
    (exponent : Int) : ∀ c ∈ Binary64.layout digits exponent, isChar c = true := by
  have hzeros : ∀ n, ∀ c ∈ List.replicate n '0', isChar c = true := by
    intro n c hc
    rw [List.eq_of_mem_replicate hc]
    rfl
  have hpadded : ∀ n, ∀ c ∈ digits ++ List.replicate n '0', isChar c = true := fun n =>
    List.forall_mem_append.2 ⟨hdigits, hzeros n⟩
  unfold Binary64.layout
  dsimp only
  split
  · refine List.forall_mem_append.2 ⟨?_, List.forall_mem_cons.2 ⟨rfl, ?_⟩⟩
    · split
      · exact List.forall_mem_nil _
      · exact hdigits
      · obtain ⟨hfirst, hrest⟩ := List.forall_mem_cons.1 hdigits
        exact List.forall_mem_cons.2 ⟨hfirst, List.forall_mem_cons.2 ⟨rfl, hrest⟩⟩
    · refine List.forall_mem_cons.2 ⟨?_, isChar_of_mem_repr⟩
      split <;> rfl
  split
  · refine List.forall_mem_append.2 ⟨?_, hdigits⟩
    exact List.forall_mem_cons.2 ⟨rfl, List.forall_mem_cons.2 ⟨rfl, hzeros _⟩⟩
  · refine List.forall_mem_append.2 ⟨?_, List.forall_mem_cons.2 ⟨rfl, ?_⟩⟩
    · exact fun c hc => hpadded _ c (List.mem_of_mem_take hc)
    · split
      · exact List.forall_mem_singleton.2 rfl
      · exact fun c hc => hpadded _ c (List.mem_of_mem_drop hc)

theorem isChar_of_mem_chars (n : Number) : ∀ c ∈ n.chars, isChar c = true := by
  cases n with
  | int n =>
    rw [chars]
    split
    · exact List.forall_mem_cons.2 ⟨rfl, isChar_of_mem_repr⟩
    · exact isChar_of_mem_repr
  | real x =>
    have hmagnitude : ∀ c ∈ (if x.isZero then ['0', '.', '0']
        else Binary64.layout (Nat.repr x.shortest.1).toList x.shortest.2), isChar c = true := by
      split
      · exact List.all_eq_true.1 rfl
      · exact isChar_of_mem_layout isChar_of_mem_repr _
    rw [chars, Binary64.chars]
    split
    · exact List.forall_mem_cons.2 ⟨rfl, hmagnitude⟩
    · exact hmagnitude

theorem open_notMem_chars (n : Number) : '\x7b' ∉ n.chars := fun h =>
  absurd (n.isChar_of_mem_chars _ h) (by decide)

end Number

theorem hexDigit_ne_open : ∀ d, d < 16 → hexDigit d ≠ '\x7b' := by decide

theorem open_notMem_escaped {c : Char} (hc : c ≠ '\x7b') : '\x7b' ∉ escaped c := by
  unfold escaped
  iterate 7
    split
    · decide
  split
  · rename_i hlow
    have hhigh := hexDigit_ne_open (c.toNat / 16) (by omega)
    have hlow := hexDigit_ne_open (c.toNat % 16) (by omega)
    simp [hhigh.symm, hlow.symm]
  · simpa using hc.symm

theorem open_notMem_stringChars {text : String} (h : '\x7b' ∉ text.toList) :
    '\x7b' ∉ stringChars text := by
  have hbody : '\x7b' ∉ text.toList.flatMap escaped := by
    rw [List.mem_flatMap]
    rintro ⟨c, hc, hescaped⟩
    exact open_notMem_escaped (ne_of_mem_of_not_mem hc h) hescaped
  simp [stringChars, hbody]

/-- Nothing in the text has to be escaped when it is written. -/
def Unescaped (text : String) : Prop :=
  ∀ c ∈ text.toList, c ≠ '"' ∧ c ≠ '\\' ∧ 0x20 ≤ c.toNat

instance (text : String) : Decidable (Unescaped text) := List.decidableBAll _ _

theorem escaped_eq_singleton {c : Char} (hquote : c ≠ '"') (hslash : c ≠ '\\')
    (hlow : 0x20 ≤ c.toNat) : escaped c = [c] := by
  have hcontrol : ∀ d : Char, d.toNat < 0x20 → c ≠ d := by
    rintro d hd rfl
    omega
  unfold escaped
  rw [if_neg hquote, if_neg hslash, if_neg (hcontrol _ (by decide)),
    if_neg (hcontrol _ (by decide)), if_neg (hcontrol _ (by decide)),
    if_neg (hcontrol _ (by decide)), if_neg (hcontrol _ (by decide)), if_neg (by omega)]

theorem stringChars_of_unescaped {text : String} (h : Unescaped text) :
    stringChars text = '"' :: (text.toList ++ ['"']) := by
  have hself : text.toList.flatMap escaped = text.toList.flatMap fun c => [c] :=
    List.flatMap_congr fun c hc => escaped_eq_singleton (h c hc).1 (h c hc).2.1 (h c hc).2.2
  rw [stringChars, hself, List.flatMap_singleton']

mutual

def keys : Json → List String
  | .arr items => keysOfItems items
  | .obj fields => keysOfFields fields
  | _ => []

def keysOfItems : List Json → List String
  | [] => []
  | v :: rest => v.keys ++ keysOfItems rest

def keysOfFields : List (String × Json) → List String
  | [] => []
  | (k, v) :: rest => k :: (v.keys ++ keysOfFields rest)

end

end Json

/-! ## Filling what is written -/

namespace Store

variable (s : Store)

/-- Whatever stands behind it, the text is read with these names and filled with this result. -/
def Fills (text : List Char) (names : List String) (result : List Char) : Prop :=
  ∃ pieces, Piece.Reads text pieces ∧ pieces.filterMap Piece.name? = names ∧
    (Layout.ofPieces pieces).fill s.replacement = result

variable {s}

theorem fills_of_notMem {text : List Char} (h : '\x7b' ∉ text) : s.Fills text [] text := by
  refine ⟨text.map Piece.literal, Piece.reads_of_notMem h, ?_, ?_⟩
  · rw [List.filterMap_map]
    exact List.filterMap_eq_nil_iff.2 fun _ _ => rfl
  · rw [Layout.fill_ofPieces, List.flatMap_map]
    exact List.flatMap_singleton' text

namespace Fills

variable {text more result result' : List Char} {names names' : List String}

theorem append (h : s.Fills text names result) (h' : s.Fills more names' result') :
    s.Fills (text ++ more) (names ++ names') (result ++ result') := by
  obtain ⟨pieces, hreads, rfl, rfl⟩ := h
  obtain ⟨others, hreads', rfl, rfl⟩ := h'
  refine ⟨pieces ++ others, hreads.append hreads', List.filterMap_append, ?_⟩
  simp only [Layout.fill_ofPieces, List.flatMap_append]

theorem cons {c : Char} (hc : c ≠ '\x7b') (h : s.Fills text names result) :
    s.Fills (c :: text) names (c :: result) :=
  (fills_of_notMem (mt List.mem_singleton.1 hc.symm)).append h

theorem open_cons {c : Char} (hc : c ≠ '\x7b') (h : s.Fills (c :: text) names result) :
    s.Fills ('\x7b' :: c :: text) names ('\x7b' :: result) := by
  obtain ⟨pieces, hreads, rfl, rfl⟩ := h
  refine ⟨Piece.literal '\x7b' :: pieces, hreads.open_cons hc, rfl, ?_⟩
  rw [Layout.fill_ofPieces, Layout.fill_ofPieces, List.flatMap_cons]
  rfl

theorem placeholders_eq {text : String} (h : s.Fills text.toList names result) :
    placeholders text = names := by
  obtain ⟨pieces, hreads, rfl, -⟩ := h
  rw [placeholders, hreads.scan_eq]

theorem filled_eq {text result : String} (h : s.Fills text.toList names result.toList) :
    s.filled text = result := by
  obtain ⟨pieces, hreads, -, hresult⟩ := h
  rw [filled, Layout.ofText, hreads.scan_eq, hresult, String.ofList_toList]

end Fills

theorem fills_of_bracesOccur {text : String} (h : Piece.BracesOccur text.toList) :
    s.Fills text.toList (placeholders text) (s.filled text).toList :=
  ⟨Piece.scan text.toList, Piece.reads_scan h, rfl, String.toList_ofList.symm⟩

/-- A filled text is made of the text itself and of what its names are bound to. -/
theorem mem_filled {text : String} {c : Char} (h : c ∈ (s.filled text).toList) :
    c ∈ text.toList ∨ ∃ name ∈ placeholders text, ∃ b, s.binding? name = some b ∧
      c ∈ b.substitutionText.toList := by
  rw [filled, String.toList_ofList, Layout.ofText, Layout.fill_ofPieces] at h
  obtain ⟨p, hp, hc⟩ := List.mem_flatMap.1 h
  have hsource := Piece.source_subset_of_mem_scan hp
  cases p with
  | literal d => exact .inl (hsource hc)
  | hole inner =>
    have hname : Piece.nameOf inner ∈ placeholders text := List.mem_filterMap.2 ⟨_, hp, rfl⟩
    dsimp only at hc
    cases hb : s.binding? (Piece.nameOf inner) with
    | some b =>
      rw [s.replacement_of_binding? hb] at hc
      exact .inr ⟨_, hname, b, hb, hc⟩
    | none =>
      unfold replacement at hc
      rw [hb] at hc
      cases hp : s.policy with
      | leaveAsIs =>
        rw [hp] at hc
        exact .inl (hsource hc)
      | fail | empty =>
        rw [hp] at hc
        cases hc

variable (s)

/-- Nothing in the strings, before and after they are filled, has to be escaped, and their braces
belong to placeholders. Of the keys it is enough that no brace opens in them. -/
structure Flat (keys leaves : List String) : Prop where
  keys : ∀ key ∈ keys, '\x7b' ∉ key.toList
  unescaped : ∀ leaf ∈ leaves, Json.Unescaped leaf
  braces : ∀ leaf ∈ leaves, Piece.BracesOccur leaf.toList
  inserted : ∀ leaf ∈ leaves, ∀ name ∈ placeholders leaf, ∀ b ∈ s.binding? name,
    Json.Unescaped b.substitutionText

instance (keys leaves : List String) : Decidable (s.Flat keys leaves) :=
  decidable_of_iff
    ((∀ key ∈ keys, '\x7b' ∉ key.toList) ∧ (∀ leaf ∈ leaves, Json.Unescaped leaf) ∧
      (∀ leaf ∈ leaves, Piece.BracesOccur leaf.toList) ∧
      ∀ leaf ∈ leaves, ∀ name ∈ placeholders leaf, ∀ b ∈ s.binding? name,
        Json.Unescaped b.substitutionText)
    ⟨fun ⟨hk, hu, hb, hi⟩ => ⟨hk, hu, hb, hi⟩, fun h => ⟨h.keys, h.unescaped, h.braces, h.inserted⟩⟩

/-- No brace opens in the keys, and each leaf is read and filled within its own quotes. -/
structure Enclosed (keys leaves : List String) : Prop where
  keys : ∀ key ∈ keys, '\x7b' ∉ key.toList
  fills : ∀ leaf ∈ leaves,
    s.Fills (Json.stringChars leaf) (placeholders leaf) (Json.stringChars (s.filled leaf))

variable {s} {keys leaves : List String}

namespace Enclosed

variable {keys' leaves' : List String}

theorem mono (h : s.Enclosed keys leaves) (hk : keys' ⊆ keys) (hl : leaves' ⊆ leaves) :
    s.Enclosed keys' leaves' where
  keys key hkey := h.keys key (hk hkey)
  fills leaf hleaf := h.fills leaf (hl hleaf)

theorem left (h : s.Enclosed (keys ++ keys') (leaves ++ leaves')) : s.Enclosed keys leaves :=
  h.mono (List.subset_append_left _ _) (List.subset_append_left _ _)

theorem right (h : s.Enclosed (keys ++ keys') (leaves ++ leaves')) : s.Enclosed keys' leaves' :=
  h.mono (List.subset_append_right _ _) (List.subset_append_right _ _)

theorem head {key : String} (h : s.Enclosed (key :: keys) leaves) : '\x7b' ∉ key.toList :=
  h.keys key List.mem_cons_self

theorem tail {key : String} (h : s.Enclosed (key :: keys) leaves) : s.Enclosed keys leaves :=
  h.mono (List.subset_cons_self _ _) (List.Subset.refl _)

end Enclosed

namespace Flat

theorem unescaped_filled (h : s.Flat keys leaves) {leaf : String} (hleaf : leaf ∈ leaves) :
    Json.Unescaped (s.filled leaf) := by
  intro c hc
  rcases mem_filled hc with hc | ⟨name, hname, b, hb, hc⟩
  · exact h.unescaped leaf hleaf c hc
  · exact h.inserted leaf hleaf name hname b hb c hc

theorem enclosed (h : s.Flat keys leaves) : s.Enclosed keys leaves where
  keys := h.keys
  fills := by
    intro leaf hleaf
    have hquote : s.Fills ['"'] [] ['"'] := fills_of_notMem (by decide)
    have hbody := (fills_of_bracesOccur (h.braces leaf hleaf)).append hquote
    rw [List.append_nil] at hbody
    rw [Json.stringChars_of_unescaped (h.unescaped leaf hleaf),
      Json.stringChars_of_unescaped (h.unescaped_filled hleaf)]
    exact hbody.cons (by decide)

end Flat

theorem Fills.field {text result : List Char} {names : List String} {key : String}
    (hkey : '\x7b' ∉ key.toList) (h : s.Fills text names result) :
    s.Fills (Json.stringChars key ++ ':' :: text) names (Json.stringChars key ++ ':' :: result) :=
  (fills_of_notMem (Json.open_notMem_stringChars hkey)).append (h.cons (by decide))

end Store

namespace Json

variable {s : Store}

mutual

/-- The text of a value is filled as its leaves are: what is written between them has no
placeholders, and takes no part in any. -/
theorem fills_chars : ∀ v : Json, s.Enclosed v.keys v.strings →
    s.Fills v.chars (v.strings.flatMap placeholders) (v.mapStrings s.filled).chars
  | .null, _ => Store.fills_of_notMem (by decide)
  | .bool true, _ => Store.fills_of_notMem (by decide)
  | .bool false, _ => Store.fills_of_notMem (by decide)
  | .num n, _ => Store.fills_of_notMem n.open_notMem_chars
  | .str text, h => by
    rw [strings, List.flatMap_singleton]
    exact h.fills text (by simp [strings])
  | .arr [], _ => Store.fills_of_notMem (by decide)
  | .arr (v :: rest), h => by
    rw [keys, keysOfItems, strings, stringsOfItems] at h
    have hitems := (fills_chars v h.left).append (fills_itemChars rest h.right)
    rw [strings, stringsOfItems, List.flatMap_append]
    exact hitems.cons (by decide)
  | .obj [], _ => (Store.fills_of_notMem (by decide)).open_cons (c := '\x7d') (by decide)
  | .obj ((k, v) :: rest), h => by
    rw [keys, keysOfFields, strings, stringsOfFields] at h
    have hfields := (fills_chars v h.tail.left).append (fills_fieldChars rest h.tail.right)
    rw [strings, stringsOfFields, List.flatMap_append]
    exact (hfields.field h.head).open_cons (c := '"') (by decide)

theorem fills_itemChars : ∀ items : List Json,
    s.Enclosed (keysOfItems items) (stringsOfItems items) →
    s.Fills (itemChars items) ((stringsOfItems items).flatMap placeholders)
      (itemChars (mapItems s.filled items))
  | [], _ => Store.fills_of_notMem (by decide)
  | v :: rest, h => by
    rw [keysOfItems, stringsOfItems] at h
    have hitems := (fills_chars v h.left).append (fills_itemChars rest h.right)
    rw [stringsOfItems, List.flatMap_append]
    exact hitems.cons (by decide)

theorem fills_fieldChars : ∀ fields : List (String × Json),
    s.Enclosed (keysOfFields fields) (stringsOfFields fields) →
    s.Fills (fieldChars fields) ((stringsOfFields fields).flatMap placeholders)
      (fieldChars (mapFields s.filled fields))
  | [], _ => Store.fills_of_notMem (by decide)
  | (k, v) :: rest, h => by
    rw [keysOfFields, stringsOfFields] at h
    have hfields := (fills_chars v h.tail.left).append (fills_fieldChars rest h.tail.right)
    rw [stringsOfFields, List.flatMap_append]
    exact (hfields.field h.head).cons (by decide)

end

theorem fills_render {v : Json} (h : s.Flat v.keys v.strings) :
    s.Fills v.render.toList (v.strings.flatMap placeholders)
      (v.mapStrings s.filled).render.toList := by
  rw [render, render, String.toList_ofList, String.toList_ofList]
  exact fills_chars v h.enclosed

end Json

/-! ## Bodies -/

namespace RequestBuilder

variable (b : RequestBuilder) (t : Template)

/-- A build shows of a body only the names in it and what it is filled with. -/
theorem build_congr_body {x y : Option BodyTemplate}
    (hnames : (bodyTexts x).flatMap placeholders = (bodyTexts y).flatMap placeholders)
    (hfilled : b.filledBody x = b.filledBody y) :
    b.build { t with body := x } = b.build { t with body := y } := by
  have hmissing : b.missing { t with body := x } = b.missing { t with body := y } := by
    simp only [missing, texts, List.flatMap_append, hnames]
  have hsent : b.sentNames { t with body := x } = b.sentNames { t with body := y } := by
    simp only [sentNames, sentTexts, allHeaders, List.flatMap_append, hnames]
  have hrequest : b.filledRequest { t with body := x } = b.filledRequest { t with body := y } := by
    simp only [filledRequest, allHeaders, hfilled]
  rw [build_eq, build_eq, hmissing, hsent, hrequest]

end RequestBuilder

theorem Store.warnings_pass {α β : Type} (s : Store) (names : List String) (x : α) (y : β) :
    (s.pass names x).warnings = (s.pass names y).warnings := by
  unfold pass
  split <;> rfl

/-- Substituting the compact text of a value and writing the substituted value come to the same,
whatever the policy: one text, or an error for one variable, with the same warnings. A build does
not tell the two bodies apart either. -/
theorem Store.raw_body_agrees {s : Store} {v : Json} (h : s.Flat v.keys v.strings) :
    ((∃ w, (s.substituteJson v).outcome = .ok w ∧
        (s.substitute v.render).outcome = .ok w.render) ∨
      ∃ name, (s.substituteJson v).outcome = .error (.undefined name) ∧
        (s.substitute v.render).outcome = .error (.undefined name)) ∧
    (s.substitute v.render).warnings = (s.substituteJson v).warnings ∧
    ∀ (b : RequestBuilder) (t : Template), b.store = s →
      b.build { t with body := some (.raw v.render) } =
        b.build { t with body := some (.json v) } := by
  have hnames := (Json.fills_render h).placeholders_eq
  have hfilled := (Json.fills_render h).filled_eq
  rw [substitute_eq, substituteJson_eq, hnames, hfilled, outcome_pass, outcome_pass]
  refine ⟨?_, s.warnings_pass _ _ _, fun b t hb => ?_⟩
  · split
    · exact .inr ⟨_, rfl, rfl⟩
    · exact .inl ⟨_, rfl, rfl⟩
  · subst hb
    apply b.build_congr_body
    · rw [RequestBuilder.bodyTexts, List.flatMap_singleton, hnames, RequestBuilder.bodyTexts]
    · rw [RequestBuilder.filledBody, RequestBuilder.filledBody, hfilled]

/-- The braces behind the inner object are no part of the placeholder before them, and an inserted
closing pair does not close anything. -/
theorem Store.raw_body_agrees_nested :
    let s := (Store.new .fail).set "x" "\x7d\x7d"
    let v : Json := .obj [("o", .obj [("k", .str "\x7b\x7bx\x7d\x7d")]),
      ("w", .arr [.num (.int 3), .null, .str "<\x7b\x7b y \x7d\x7d>"])]
    v.render = "\x7b\"o\":\x7b\"k\":\"\x7b\x7bx\x7d\x7d\"\x7d," ++
        "\"w\":[3,null,\"<\x7b\x7b y \x7d\x7d>\"]\x7d" ∧
      (s.Flat v.keys v.strings ∧
        (s.substitute v.render).outcome = .error (.undefined "y")) ∧
      ((s.set "y" "2").Flat v.keys v.strings ∧
        ((s.set "y" "2").substitute v.render).outcome =
          .ok "\x7b\"o\":\x7b\"k\":\"\x7d\x7d\"\x7d,\"w\":[3,null,\"<2>\"]\x7d") := by
  intro s v
  let w : Json := .obj [("o", .obj [("k", .str "\x7d\x7d")]),
    ("w", .arr [.num (.int 3), .null, .str "<2>"])]
  have hunset : s.Flat v.keys v.strings := by decide +kernel
  have hset : (s.set "y" "2").Flat v.keys v.strings := by decide +kernel
  have hrefused : (s.substituteJson v).outcome = .error (.undefined "y") := by decide +kernel
  have hfilled : ((s.set "y" "2").substituteJson v).outcome = .ok w := by decide +kernel
  refine ⟨by decide +kernel, ⟨hunset, ?_⟩, hset, ?_⟩
  · obtain ⟨w, hw, -⟩ | ⟨name, hname, hraw⟩ := (raw_body_agrees hunset).1
    · rw [hrefused] at hw
      cases hw
    · cases hrefused.symm.trans hname
      exact hraw
  · obtain ⟨w, hw, hraw⟩ | ⟨name, hname, -⟩ := (raw_body_agrees hset).1
    · rw [hfilled] at hw
      rw [hraw, ← Except.ok.inj hw]
      decide +kernel
    · rw [hfilled] at hname
      cases hname

end ApiSuite
