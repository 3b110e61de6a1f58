import ApiSuite.EnvironmentFile
import ApiSuite.Proofs.Canonical
import ApiSuite.Proofs.RecordFields
import ApiSuite.Proofs.Writes

/-! # Seeding a store from a document

A document either seeds a store with all entries that it enables or leaves the store as it is. It
fails when it is no object, when what it lists is not a list of well formed entries, and when an
entry that would be written holds a container; an entry that is not enabled may hold anything.
-/
namespace ApiSuite

namespace ExportedEntry

/-- A value that spells an entry: an object with the fields of the entry, or an array of the first
of them. -/
inductive Spelled : Json → ExportedEntry → Prop
  | object {fields : List (String × Json)} {key : String} {enabled : Bool}
    (hkey : Entries.get? fields "key" = some (.str key))
    (henabled : (Entries.get? fields "enabled").getD (.bool true) = .bool enabled) :
    Spelled (.obj fields) ⟨key, (Entries.get? fields "value").getD .null, enabled⟩
  | key (key : String) : Spelled (.arr [.str key]) ⟨key, .null, true⟩
  | keyed (key : String) (value : Json) : Spelled (.arr [.str key, value]) ⟨key, value, true⟩
  | full (key : String) (value : Json) (enabled : Bool) :
    Spelled (.arr [.str key, value, .bool enabled]) ⟨key, value, enabled⟩

theorem Spelled.unique {v : Json} {e e' : ExportedEntry} (h : Spelled v e) (h' : Spelled v e') :
    e = e' := by
  cases h with
  | object hkey henabled =>
    cases h' with
    | object hkey' henabled' =>
      cases Option.some.inj (hkey.symm.trans hkey')
      cases henabled.symm.trans henabled'
      rfl
  | key => cases h'; rfl
  | keyed => cases h'; rfl
  | full => cases h'; rfl

theorem lenient_record : record.Lenient := ⟨rfl, fun _ => rfl⟩

theorem mem_record_fields {f : Json.Field ExportedEntry} (h : f ∈ record.fields) :
    f = .of "key" .required .string (fun x e => { e with key := x }) ∨
      f = .of "value" .defaulted .json (fun x e => { e with value := x }) ∨
      f = .of "enabled" .defaulted .bool fun x e => { e with enabled := x } := by
  simpa [record] using h

theorem reads_key : record.Reads ExportedEntry.key "key" := by
  intro f hf hne v c hc x
  rcases mem_record_fields hf with rfl | rfl | rfl
  · exact absurd rfl hne
  · exact Json.Field.get_change_of hc (fun _ _ => rfl) x
  · exact Json.Field.get_change_of hc (fun _ _ => rfl) x

theorem reads_value : record.Reads ExportedEntry.value "value" := by
  intro f hf hne v c hc x
  rcases mem_record_fields hf with rfl | rfl | rfl
  · exact Json.Field.get_change_of hc (fun _ _ => rfl) x
  · exact absurd rfl hne
  · exact Json.Field.get_change_of hc (fun _ _ => rfl) x

theorem reads_enabled : record.Reads ExportedEntry.enabled "enabled" := by
  intro f hf hne v c hc x
  rcases mem_record_fields hf with rfl | rfl | rfl
  · exact Json.Field.get_change_of hc (fun _ _ => rfl) x
  · exact Json.Field.get_change_of hc (fun _ _ => rfl) x
  · exact absurd rfl hne

theorem spelled_of_fromFields {fields : List (String × Json)} {e : ExportedEntry}
    (hs : Entries.Sorted fields) (h : record.fromFields [] record.blank fields = .ok e) :
    Spelled (.obj fields) e := by
  have hfresh := Json.Record.fresh_of_sorted hs
  have hread := ((Json.Record.exists_fromFields_iff lenient_record hfresh).1 ⟨e, h⟩).2
  have hmem : "key" ∈ fields.map Prod.fst :=
    (hread _ List.mem_cons_self rfl).resolve_left List.not_mem_nil
  have hkey := Json.Record.get_fromFields lenient_record reads_key (fun _ _ => rfl) rfl h hfresh
  have hvalue := Json.Record.get_fromFields lenient_record reads_value (fun _ _ => rfl) rfl h hfresh
  have henabled :=
    Json.Record.get_fromFields lenient_record reads_enabled (fun _ _ => rfl) rfl h hfresh
  cases hk : Entries.get? fields "key" with
  | none => exact absurd hmem (Entries.get?_eq_none_iff.1 hk)
  | some k =>
    rw [hk] at hkey
    obtain rfl := Json.Decoder.string_ofJson_eq_ok_iff.1 hkey
    have hv : (Entries.get? fields "value").getD .null = e.value := by
      cases hv : Entries.get? fields "value" with
      | none =>
        rw [hv] at hvalue
        exact hvalue.symm
      | some v =>
        rw [hv] at hvalue
        exact Except.ok.inj hvalue
    have he : (Entries.get? fields "enabled").getD (.bool true) = .bool e.enabled := by
      cases he : Entries.get? fields "enabled" with
      | none =>
        rw [he] at henabled
        exact congrArg Json.bool henabled.symm
      | some b =>
        rw [he] at henabled
        exact Json.Decoder.bool_ofJson_eq_ok_iff.1 henabled
    have hspelled := Spelled.object hk he
    rwa [hv] at hspelled

theorem exists_fromFields_of_spelled {fields : List (String × Json)} {e : ExportedEntry}
    (hs : Entries.Sorted fields) (h : Spelled (.obj fields) e) :
    ∃ y, record.fromFields [] record.blank fields = .ok y := by
  cases h with
  | @object _ key enabled hkey henabled =>
    refine (Json.Record.exists_fromFields_iff lenient_record
      (Json.Record.fresh_of_sorted hs)).2 ⟨fun e he f hf => ?_, fun f hf hreq => ?_⟩
    · have hget := Entries.get?_of_mem hs.nodup_keys he
      have hname : f.name = e.1 := by simpa using List.find?_some hf
      rcases mem_record_fields (List.mem_of_find?_eq_some hf) with rfl | rfl | rfl
      · change "key" = e.1 at hname
        rw [← hname, hkey] at hget
        exact ⟨_, Json.Field.ofJson_of_eq_ok_iff.2
          ⟨key, Json.Decoder.string_ofJson_eq_ok_iff.2 (Option.some.inj hget).symm, rfl⟩⟩
      · exact ⟨_, Json.Field.ofJson_of_eq_ok_iff.2 ⟨e.2, rfl, rfl⟩⟩
      · change "enabled" = e.1 at hname
        rw [← hname] at hget
        rw [hget] at henabled
        exact ⟨_, Json.Field.ofJson_of_eq_ok_iff.2
          ⟨enabled, Json.Decoder.bool_ofJson_eq_ok_iff.2 henabled, rfl⟩⟩
    · rcases mem_record_fields hf with rfl | rfl | rfl
      · by_contra hnone
        have hget := Entries.get?_eq_none_iff.2 (not_or.1 hnone).2
        rw [show Entries.get? fields "key" = none from hget] at hkey
        cases hkey
      · cases hreq
      · cases hreq

theorem ofJson_arr_eq_ok_iff {items : List Json} {e : ExportedEntry} :
    decoder.ofJson (.arr items) = .ok e ↔ Spelled (.arr items) e := by
  constructor
  · intro h
    change record.fromElements 0 record.blank record.fields items = .ok e at h
    match items with
    | [] => cases h
    | k :: rest =>
      cases k with
      | str key =>
        match rest with
        | [] => cases h; exact .key key
        | [value] => cases h; exact .keyed key value
        | value :: b :: more =>
          cases b with
          | bool enabled =>
            cases more with
            | nil => cases h; exact .full key value enabled
            | cons _ _ => cases h
          | _ => cases h
      | _ => cases h
  · intro h
    cases h <;> rfl

theorem ofJson_eq_ok_iff {v : Json} {e : ExportedEntry} (hc : v.Canonical) :
    decoder.ofJson v = .ok e ↔ Spelled v e := by
  cases v with
  | obj fields =>
    refine ⟨spelled_of_fromFields hc.1, fun h => ?_⟩
    obtain ⟨y, hy⟩ := exists_fromFields_of_spelled hc.1 h
    rw [h.unique (spelled_of_fromFields hc.1 hy)]
    exact hy
  | arr items => exact ofJson_arr_eq_ok_iff
  | _ => exact ⟨nofun, nofun⟩

end ExportedEntry

namespace EnvironmentFile

open ExportedEntry (Spelled)

/-- The entries that a document lists: those under its list of values, or else one per field. -/
inductive Lists : Json → List ExportedEntry → Prop
  | exported {fields : List (String × Json)} {items : List Json} {listed : List ExportedEntry}
    (h : Entries.get? fields valuesKey = some (.arr items))
    (hitems : List.Forall₂ Spelled items listed) : Lists (.obj fields) listed
  | flat {fields : List (String × Json)} (h : Entries.get? fields valuesKey = none) :
    Lists (.obj fields) (fields.map fun f => ⟨f.1, f.2, true⟩)

theorem Lists.unique {raw : Json} {listed more : List ExportedEntry} (h : Lists raw listed)
    (h' : Lists raw more) : listed = more := by
  have hspelled : Relator.RightUnique Spelled := fun _ _ _ => Spelled.unique
  cases h with
  | exported hv hitems =>
    cases h' with
    | exported hv' hitems' =>
      cases Option.some.inj (hv.symm.trans hv')
      exact hspelled.forall₂ hitems hitems'
    | flat hv' => cases hv.symm.trans hv'
  | flat hv =>
    cases h' with
    | exported hv' _ => cases hv.symm.trans hv'
    | flat _ => rfl

/-- What the enabled entries bind, in order. -/
def bindingsOf (listed : List ExportedEntry) : List (String × Json) :=
  (listed.filter ExportedEntry.enabled).map fun e => (e.key, e.value)

theorem bindingsOf_flat (fields : List (String × Json)) :
    bindingsOf (fields.map fun f => ⟨f.1, f.2, true⟩) = fields := by
  induction fields with
  | nil => rfl
  | cons f rest ih => exact congrArg (f :: ·) ih

theorem forall₂_ofJson_iff {items : List Json} {listed : List ExportedEntry}
    (hc : Json.CanonicalItems items) :
    List.Forall₂ (fun v e => ExportedEntry.decoder.ofJson v = .ok e) items listed ↔
      List.Forall₂ Spelled items listed := by
  induction items generalizing listed with
  | nil => simp
  | cons v rest ih =>
    simp only [List.forall₂_cons_left_iff, ExportedEntry.ofJson_eq_ok_iff hc.1, ih hc.2]

theorem lists_iff_of_none {fields : List (String × Json)} {listed : List ExportedEntry}
    (h : Entries.get? fields valuesKey = none) :
    Lists (.obj fields) listed ↔ listed = fields.map fun f => ⟨f.1, f.2, true⟩ :=
  ⟨fun hl => hl.unique (.flat h), fun heq => heq ▸ .flat h⟩

theorem lists_iff_of_some {fields : List (String × Json)} {values : Json}
    {listed : List ExportedEntry} (h : Entries.get? fields valuesKey = some values) :
    Lists (.obj fields) listed ↔
      ∃ items, values = .arr items ∧ List.Forall₂ Spelled items listed := by
  constructor
  · intro hl
    cases hl with
    | exported h' hitems => exact ⟨_, Option.some.inj (h.symm.trans h'), hitems⟩
    | flat h' => cases h.symm.trans h'
  · rintro ⟨items, rfl, hitems⟩
    exact .exported h hitems

theorem entries_eq_ok_iff {raw : Json} {found : List (String × Json)} (hc : raw.Canonical) :
    entries raw = .ok found ↔ ∃ listed, Lists raw listed ∧ bindingsOf listed = found := by
  cases raw with
  | obj fields =>
    rw [entries]
    cases hv : (Json.obj fields).field? valuesKey with
    | none =>
      simp only [lists_iff_of_none hv, exists_eq_left, bindingsOf_flat, Except.ok.injEq]
    | some values =>
      have hvalues : ∀ listed, Lists (.obj fields) listed ↔
          (Json.Decoder.listOf ExportedEntry.decoder).ofJson values = .ok listed := by
        intro listed
        rw [lists_iff_of_some hv, Json.Decoder.listOf_ofJson_eq_ok_iff]
        refine exists_congr fun items => and_congr_right ?_
        rintro rfl
        exact (forall₂_ofJson_iff (Json.canonical_of_get? hc.2 hv)).symm
      simp only [hvalues]
      cases (Json.Decoder.listOf ExportedEntry.decoder).ofJson values with
      | error cause => simp
      | ok listed => simp [bindingsOf]
  | _ =>
    refine ⟨nofun, ?_⟩
    rintro ⟨listed, hlisted, -⟩
    cases hlisted

theorem checkScalars_eq_ok_iff {found : List (String × Json)} :
    checkScalars found = .ok () ↔ ∀ e ∈ found, isScalar e.2 = true := by
  unfold checkScalars
  cases hf : found.find? fun e => !isScalar e.2 with
  | none => simpa using List.find?_eq_none.1 hf
  | some e =>
    have hbad : isScalar e.2 = false := by simpa using List.find?_some hf
    refine ⟨nofun, fun h => ?_⟩
    rw [h e (List.mem_of_find?_eq_some hf)] at hbad
    cases hbad

theorem forall_isScalar_bindingsOf {listed : List ExportedEntry} :
    (∀ e ∈ bindingsOf listed, isScalar e.2 = true) ↔
      ∀ e ∈ listed, e.enabled = true → isScalar e.value = true := by
  rw [bindingsOf, List.forall_mem_map]
  simp only [List.mem_filter, and_imp]

theorem plan_eq_ok_iff {raw : Json} {found : List (String × Json)} (hc : raw.Canonical) :
    plan raw = .ok found ↔ ∃ listed, Lists raw listed ∧ bindingsOf listed = found ∧
      ∀ e ∈ listed, e.enabled = true → isScalar e.value = true := by
  constructor
  · intro h
    obtain ⟨written, hwritten, hrest⟩ := bind_eq_ok_iff.1 h
    obtain ⟨⟨⟩, hcheck, heq⟩ := bind_eq_ok_iff.1 hrest
    obtain rfl := Except.ok.inj heq
    obtain ⟨listed, hlisted, rfl⟩ := (entries_eq_ok_iff hc).1 hwritten
    exact ⟨listed, hlisted, rfl, forall_isScalar_bindingsOf.1 (checkScalars_eq_ok_iff.1 hcheck)⟩
  · rintro ⟨listed, hlisted, rfl, hscalar⟩
    have hwritten := (entries_eq_ok_iff hc).2 ⟨listed, hlisted, rfl⟩
    have hcheck := checkScalars_eq_ok_iff.2 (forall_isScalar_bindingsOf.2 hscalar)
    exact bind_eq_ok_iff.2 ⟨_, hwritten, bind_eq_ok_iff.2 ⟨(), hcheck, rfl⟩⟩

theorem seed_eq_of_plan {raw : Json} {found : List (String × Json)} (s : Store)
    (h : plan raw = .ok found) : seed s raw = (s.setManyJson found, .ok found.length) := by
  rw [seed, h]

theorem seed_eq_of_refused {raw : Json} {e : EnvironmentError} (s : Store)
    (h : plan raw = .error e) : seed s raw = (s, .error e) := by
  rw [seed, h]

theorem seed_keeps_store {raw : Json} {s : Store} {e : EnvironmentError}
    (h : (seed s raw).2 = .error e) : (seed s raw).1 = s := by
  cases hp : plan raw with
  | error cause => rw [seed_eq_of_refused s hp]
  | ok found =>
    rw [seed_eq_of_plan s hp] at h
    cases h

theorem load_eq_of_unread {files : Files} {path : List Char} {e : EnvironmentError} (s : Store)
    (h : read files path = .error e) : load files path s = (s, .error e) := by
  rw [load, h]

theorem load_eq_of_read {files : Files} {path : List Char} {raw : Json} (s : Store)
    (h : read files path = .ok raw) : load files path s = seed s raw := by
  rw [load, h]

theorem load_keeps_store {files : Files} {path : List Char} {s : Store} {e : EnvironmentError}
    (h : (load files path s).2 = .error e) : (load files path s).1 = s := by
  cases hr : read files path with
  | error cause => rw [load_eq_of_unread s hr]
  | ok raw =>
    rw [load_eq_of_read s hr] at h ⊢
    exact seed_keeps_store h

theorem read_eq (files : Files) (path : List Char) :
    read files path =
      if files.isFile path = false then .error (.fileNotFound (.ofList path))
      else match files.read path with
        | .error cause => .error (.io cause.message)
        | .ok bytes => match Text.toText bytes with
          | .error _ => .error (.io FileError.notText.message)
          | .ok text => match Json.parse text with
            | .error e => .error (.parse e.message)
            | .ok raw => .ok raw := by
  unfold read Files.readText
  cases files.isFile path with
  | false => rfl
  | true =>
    cases files.read path with
    | error cause => rfl
    | ok bytes =>
      simp only [bind, Except.bind, Files.textOf]
      cases Text.toText bytes <;> rfl

end EnvironmentFile

end ApiSuite
