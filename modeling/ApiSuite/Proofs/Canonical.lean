import ApiSuite.Proofs.Reading

/-! # Canonical documents

Whatever text a document is read from, the fields of its objects come in ascending order at every
level, so that no key occurs twice in an object.
-/
namespace ApiSuite

namespace Entries

variable {α : Type}

theorem sorted_foldl_insert (entries : List (String × α)) {acc : List (String × α)}
    (h : Sorted acc) : Sorted (entries.foldl (fun acc e => insert e.1 e.2 acc) acc) := by
  induction entries generalizing acc with
  | nil => exact h
  | cons e rest ih => exact ih (sorted_insert e.1 e.2 h)

theorem sorted_ofList (entries : List (String × α)) : Sorted (ofList entries) :=
  sorted_foldl_insert entries List.Pairwise.nil

theorem mem_foldl_insert {entries acc : List (String × α)} {e : String × α}
    (h : e ∈ entries.foldl (fun acc e => insert e.1 e.2 acc) acc) : e ∈ acc ∨ e ∈ entries := by
  induction entries generalizing acc with
  | nil => exact .inl h
  | cons d rest ih =>
    rcases ih h with h | h
    · rcases mem_insert h with rfl | h
      · exact .inr List.mem_cons_self
      · exact .inl h
    · exact .inr (List.mem_cons_of_mem _ h)

theorem mem_of_mem_ofList {entries : List (String × α)} {e : String × α} (h : e ∈ ofList entries) :
    e ∈ entries :=
  (mem_foldl_insert h).resolve_left List.not_mem_nil

end Entries

namespace Json

theorem canonicalItems_iff {items : List Json} :
    CanonicalItems items ↔ ∀ v ∈ items, v.Canonical := by
  induction items with
  | nil => simp [CanonicalItems]
  | cons v rest ih => rw [CanonicalItems, List.forall_mem_cons, ih]

theorem canonicalFields_iff {fields : List (String × Json)} :
    CanonicalFields fields ↔ ∀ e ∈ fields, e.2.Canonical := by
  induction fields with
  | nil => simp [CanonicalFields]
  | cons e rest ih => rw [CanonicalFields, List.forall_mem_cons, ih]

theorem canonical_of_get? {fields : List (String × Json)} {name : String} {v : Json}
    (h : CanonicalFields fields) (hv : Entries.get? fields name = some v) : v.Canonical := by
  induction fields with
  | nil => cases hv
  | cons e rest ih =>
    rw [Entries.get?] at hv
    split at hv
    · rw [← Option.some.inj hv]
      exact h.1
    · exact ih h.2 hv

namespace Reader

variable {α β : Type} {P : α → Prop} {Q : β → Prop}

/-- All results of the reader have the property. -/
def Gives (P : α → Prop) (x : Reader α) : Prop :=
  ∀ input a rest, Takes x input a rest → P a

theorem Takes.of_bind {x : Reader α} {f : α → Reader β} {input rest : Input} {b : β}
    (h : Takes (x >>= f) input b rest) :
    ∃ a middle, Takes x input a middle ∧ Takes (f a) middle b rest := by
  change (x input).bind (fun p => f p.1 p.2) = _ at h
  cases hx : x input with
  | error e =>
    rw [hx] at h
    cases h
  | ok p =>
    rw [hx] at h
    exact ⟨p.1, p.2, hx, h⟩

theorem Gives.bind {x : Reader α} {f : α → Reader β} (hx : Gives P x)
    (hf : ∀ a, P a → Gives Q (f a)) : Gives Q (x >>= f) := by
  intro input b rest h
  obtain ⟨a, middle, ha, hb⟩ := h.of_bind
  exact hf a (hx _ _ _ ha) _ _ _ hb

theorem gives_bind (x : Reader α) {f : α → Reader β} (hf : ∀ a, Gives Q (f a)) :
    Gives Q (x >>= f) :=
  Gives.bind (P := fun _ => True) (fun _ _ _ _ => trivial) fun a _ => hf a

theorem gives_pure {a : α} (h : P a) : Gives P (pure a) := by
  intro input b rest ht
  cases ht
  exact h

theorem gives_fail (cause : Cause) (bytes : Nat) : Gives P (fail cause bytes : Reader α) := by
  intro input a rest h
  cases h

theorem gives_elements {item : Reader α} (h : Gives P item) (fuel : Nat) (first : Bool) :
    Gives (fun vs => ∀ v ∈ vs, P v) (elements item fuel first) := by
  induction fuel generalizing first with
  | zero => exact gives_fail _ _
  | succ fuel ih =>
    refine gives_bind _ fun more => ?_
    split
    · refine h.bind fun v hv => (ih false).bind fun vs hvs => gives_pure ?_
      exact List.forall_mem_cons.2 ⟨hv, hvs⟩
    · exact gives_pure nofun

theorem gives_members {limits : Limits} {item : Reader α} (h : Gives P item) (fuel : Nat)
    (first : Bool) : Gives (fun es => ∀ e ∈ es, P e.2) (members limits item fuel first) := by
  induction fuel generalizing first with
  | zero => exact gives_fail _ _
  | succ fuel ih =>
    refine gives_bind _ fun more => ?_
    split
    · refine gives_bind _ fun key => gives_bind _ fun _ => h.bind fun v hv =>
        (ih false).bind fun es hes => gives_pure ?_
      exact List.forall_mem_cons.2 ⟨hv, hes⟩
    · exact gives_pure nofun

theorem gives_valueWith (limits : Limits) {inner : Option (Reader Json)}
    (h : ∀ item, inner = some item → Gives Canonical item) :
    Gives Canonical (valueWith limits inner) := by
  refine gives_bind _ fun s => ?_
  split
  · exact gives_bind _ fun _ => gives_pure trivial
  · exact gives_bind _ fun _ => gives_pure trivial
  · exact gives_bind _ fun _ => gives_pure trivial
  · exact gives_bind _ fun _ => gives_bind _ fun _ => gives_pure trivial
  · exact gives_bind _ fun _ => gives_pure trivial
  · cases inner with
    | none => exact gives_fail _ _
    | some item =>
      refine gives_bind _ fun _ => (gives_elements (h item rfl) _ _).bind fun items hitems =>
        gives_bind _ fun _ => gives_pure ?_
      exact canonicalItems_iff.2 hitems
  · cases inner with
    | none => exact gives_fail _ _
    | some item =>
      refine gives_bind _ fun _ => (gives_members (h item rfl) _ _).bind fun fields hfields =>
        gives_bind _ fun _ => gives_pure ⟨Entries.sorted_ofList fields, ?_⟩
      exact canonicalFields_iff.2 fun e he => hfields e (Entries.mem_of_mem_ofList he)
  · split
    · exact gives_bind _ fun _ => gives_pure trivial
    · exact gives_fail _ _
  · exact gives_fail _ _

theorem gives_value (limits : Limits) (depth : Nat) : Gives Canonical (value limits depth) := by
  induction depth with
  | zero => exact gives_valueWith limits nofun
  | succ depth ih =>
    refine gives_valueWith limits fun item hitem => ?_
    rw [← Option.some.inj hitem]
    exact ih

end Reader

theorem readDocument_gives {α : Type} {P : α → Prop} {read : Limits → Reader α} {input : Input}
    {a : α} (h : readDocument read input = .ok a) (hread : ∀ limits, Reader.Gives P (read limits)) :
    P a := by
  have hwhole : Reader.Gives P (do
      let v ← read ⟨maxDepth, input.length + 1⟩
      Reader.blanks
      if (← Reader.peek).isSome then Reader.fail .trailingCharacters 1
      return v) := by
    refine (hread _).bind fun v hv => Reader.gives_bind _ fun _ => Reader.gives_bind _ fun s => ?_
    split
    · exact Reader.gives_bind _ fun _ => Reader.gives_pure hv
    · exact Reader.gives_pure hv
  unfold readDocument at h
  dsimp only at h
  split at h
  · rename_i v rest htaken
    rw [← Except.ok.inj h]
    exact hwhole _ _ _ htaken
  · cases h

theorem canonical_of_parse {text : String} {v : Json} (h : parse text = .ok v) : v.Canonical :=
  readDocument_gives h fun limits => Reader.gives_value limits limits.depth

end Json

end ApiSuite
