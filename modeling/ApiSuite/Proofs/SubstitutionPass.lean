import ApiSuite.Proofs.Layout
import ApiSuite.Substitution

/-! # Substitution as one pass over names

Every computation that substitutes is a pass: it meets a list of names, reacts to the unset ones as
the policy of the store says, and ends with a result that does not depend on the reaction. Passes
compose by appending their names, so that the warnings and the error of a long computation are read
off the names of its parts.
-/
namespace ApiSuite

namespace Piece

theorem hasOpening_of_opening? {text inner after : List Char}
    (h : opening? text = some (inner, after)) : hasOpening text = true := by
  rw [(opening?_eq_some h).1]
  rfl

theorem hasOpening_cons_of_tail {c : Char} {rest : List Char} (h : hasOpening rest = true) :
    hasOpening (c :: rest) = true := by
  unfold hasOpening
  split
  · rfl
  · simp_all
  · simp_all

theorem scan_of_not_hasOpening {text : List Char} (h : hasOpening text = false) :
    scan text = text.map literal := by
  fun_induction scan text with
  | case1 text inner after ho ih =>
    rw [hasOpening_of_opening? ho] at h
    cases h
  | case2 => rfl
  | case3 c rest ho ih =>
    have hrest : hasOpening rest = false := by
      cases hr : hasOpening rest with
      | false => rfl
      | true =>
        rw [hasOpening_cons_of_tail hr] at h
        cases h
    rw [ih hrest, List.map_cons]

end Piece

namespace Store

variable {α β : Type} (s : Store)

/-- The names among these that are unset, with repetitions. -/
def unbound (names : List String) : List String := names.filter fun name => !s.contains name

/-- A computation that meets these names and ends with the result `x`. -/
def pass (names : List String) (x : α) : Traced VariableError α :=
  match s.policy, s.unbound names with
  | .leaveAsIs, unset => ⟨unset.map .leftInPlace, .ok x⟩
  | .empty, unset => ⟨unset.map .replacedWithEmpty, .ok x⟩
  | .fail, [] => ⟨[], .ok x⟩
  | .fail, name :: _ => ⟨[], .error (.undefined name)⟩

@[simp] theorem unbound_nil : s.unbound [] = [] := rfl

theorem unbound_append (names more : List String) :
    s.unbound (names ++ more) = s.unbound names ++ s.unbound more :=
  List.filter_append names more

theorem pass_nil (x : α) : s.pass [] x = Traced.ok x := by
  unfold pass
  cases s.policy <;> rfl

/-- A pass followed by a pass is a pass over the names of both. -/
theorem pass_bind {f : α → Traced VariableError β} (names : List String) (x : α)
    {more : List String} {y : β} (h : f x = s.pass more y) :
    (s.pass names x >>= f) = s.pass (names ++ more) y := by
  change Traced.andThen (s.pass names x) f = _
  unfold pass at h ⊢
  rw [unbound_append]
  cases hp : s.policy with
  | leaveAsIs => simp [Traced.andThen, h, hp]
  | empty => simp [Traced.andThen, h, hp]
  | fail =>
    cases hn : s.unbound names with
    | nil => simp [Traced.andThen, h, hp]
    | cons name rest => simp [Traced.andThen]

theorem pass_map (names : List String) (x : α) (g : α → β) :
    (s.pass names x >>= fun y => pure (g y)) = s.pass names (g x) := by
  have h := s.pass_bind names x (f := fun y => pure (g y)) (s.pass_nil (g x)).symm
  rwa [List.append_nil] at h

/-- What stands in the place of a placeholder with this inner text. -/
def replacement (inner : List Char) : List Char :=
  match s.binding? (Piece.nameOf inner) with
  | some (.text value) => value.toList
  | some .null => ['n', 'u', 'l', 'l']
  | none => match s.policy with
    | .leaveAsIs => (Piece.hole inner).source
    | _ => []

/-- The text with every placeholder replaced, whatever the policy says of unset names. -/
def filled (text : String) : String :=
  .ofList ((Layout.ofText text.toList).fill s.replacement)

theorem fill_hole (inner : List Char) :
    s.fill (.hole inner) = s.pass [Piece.nameOf inner] (s.replacement inner) := by
  unfold fill replacement pass unbound
  cases hb : s.binding? (Piece.nameOf inner) with
  | some b =>
    have hc : s.contains (Piece.nameOf inner) = true := by
      rw [contains_eq_isSome, hb, Option.isSome]
    cases b <;> cases s.policy <;> simp [hc, hb, Traced.ok, Binding.substitutionText]
  | none =>
    have hc : s.contains (Piece.nameOf inner) = false := by
      rw [contains_eq_isSome, hb, Option.isSome]
    cases s.policy <;> simp [hc, hb] <;> rfl

theorem fill_literal (c : Char) : s.fill (.literal c) = s.pass [] [c] := (s.pass_nil _).symm

theorem fillAll_eq (pieces : List Piece) :
    s.fillAll pieces =
      s.pass (pieces.filterMap Piece.name?) ((Layout.ofPieces pieces).fill s.replacement) := by
  induction pieces with
  | nil => exact (s.pass_nil _).symm
  | cons p rest ih =>
    rw [Layout.fill_ofPieces] at ih ⊢
    rw [fillAll, ih]
    cases p with
    | literal c =>
      rw [fill_literal]
      exact s.pass_bind _ _ (s.pass_map _ _ _)
    | hole inner =>
      rw [fill_hole]
      exact s.pass_bind _ _ (s.pass_map _ _ _)

theorem fillText_eq (text : String) :
    s.fillText text = s.pass (placeholders text) (s.filled text) := by
  unfold fillText
  rw [fillAll_eq]
  exact s.pass_map _ _ _

theorem placeholders_of_not_hasOpening {text : String}
    (h : Piece.hasOpening text.toList = false) : placeholders text = [] := by
  rw [placeholders, Piece.scan_of_not_hasOpening h, List.filterMap_map]
  exact List.filterMap_eq_nil_iff.2 fun _ _ => rfl

theorem filled_of_not_hasOpening {text : String} (h : Piece.hasOpening text.toList = false) :
    s.filled text = text := by
  rw [filled, Layout.ofText, Piece.scan_of_not_hasOpening h, Layout.fill_ofPieces,
    List.flatMap_map]
  simp

theorem filled_of_placeholders_eq_nil {text : String} (h : placeholders text = []) :
    s.filled text = text := by
  have hnames : (Layout.ofText text.toList).names = [] := (Layout.names_ofPieces _).trans h
  have htail : (Layout.ofText text.toList).tail = [] := List.map_eq_nil_iff.1 hnames
  have hlead : (Layout.ofText text.toList).lead = text.toList := by
    have hsource := Layout.source_ofText text.toList
    rwa [Layout.source, Layout.fill, htail, List.flatMap_nil, List.append_nil] at hsource
  rw [filled, Layout.fill, htail, List.flatMap_nil, List.append_nil, hlead, String.ofList_toList]

/-- Leaving out the scan of a text without an opening pair of braces changes nothing. -/
theorem substitute_eq_fillText (text : String) : s.substitute text = s.fillText text := by
  unfold substitute
  cases h : Piece.hasOpening text.toList with
  | true => rfl
  | false =>
    rw [fillText_eq, placeholders_of_not_hasOpening h, s.filled_of_not_hasOpening h, pass_nil]
    rfl

theorem substitute_eq (text : String) :
    s.substitute text = s.pass (placeholders text) (s.filled text) := by
  rw [substitute_eq_fillText, fillText_eq]

end Store

end ApiSuite
