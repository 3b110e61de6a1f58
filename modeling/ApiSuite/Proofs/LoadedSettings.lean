import ApiSuite.Proofs.DefaultSettings
import ApiSuite.Proofs.RecordFields

/-! # Loading settings

An object of settings is read key by key. A key that the settings know replaces its field of the
defaults, a key that they do not know changes nothing, and a known key that spells no value of its
field discards the whole object. What is loaded passes the check of the settings.
-/
namespace ApiSuite

namespace MissingPolicy

theorem pickVariant_eq_ok_iff {name : String} {variant : Json.Variant MissingPolicy} :
    Json.pickVariant (all.map fun p => .plain p.name p) name = .ok variant ↔
      ∃ p : MissingPolicy, p.name = name ∧ .plain p.name p = variant := by
  constructor
  · intro h
    unfold Json.pickVariant at h
    split at h
    · rename_i found hfound
      have hname := List.find?_some hfound
      obtain ⟨p, -, rfl⟩ := List.mem_map.1 (List.mem_of_find?_eq_some hfound)
      exact ⟨p, beq_iff_eq.1 hname, Except.ok.inj h⟩
    · cases h
  · rintro ⟨p, rfl, rfl⟩
    cases p <;> rfl

/-- A policy is spelled by its name, alone or as the only key of an object that holds null. -/
theorem decoder_ofJson_eq_ok_iff {v : Json} {p : MissingPolicy} :
    decoder.ofJson v = .ok p ↔ v = .str p.name ∨ v = .obj [(p.name, .null)] := by
  constructor
  · intro h
    unfold decoder Json.Decoder.choice at h
    dsimp only at h
    split at h
    · obtain ⟨variant, hpick, halone⟩ := bind_eq_ok_iff.1 h
      obtain ⟨q, rfl, rfl⟩ := pickVariant_eq_ok_iff.1 hpick
      obtain rfl := Except.ok.inj halone
      exact .inl rfl
    · rename_i name payload
      obtain ⟨variant, hpick, hpayload⟩ := bind_eq_ok_iff.1 h
      obtain ⟨q, rfl, rfl⟩ := pickVariant_eq_ok_iff.1 hpick
      obtain ⟨_, hunit, rfl⟩ := Json.Decoder.map_ofJson_eq_ok_iff.1 hpayload
      cases payload with
      | null => exact .inr rfl
      | _ => cases hunit
    · cases h
    · cases h
  · rintro (rfl | rfl) <;> cases p <;> rfl

end MissingPolicy

namespace Settings

def keys : List String := record.fields.map Json.Field.name

/-- Under the key, the value spells the field that the settings have. -/
inductive Spells (s : Settings) : String → Json → Prop
  | server : Spells s "server" (.str s.server)
  | timeout : Spells s "timeout" (.num (.int s.timeout.toNat))
  | followRedirects : Spells s "followRedirects" (.bool s.followRedirects)
  | validateSsl : Spells s "validateSsl" (.bool s.validateSsl)
  | missingVariables : Spells s "missingVariables" (.str s.missingVariables.name)
  | missingVariablesNull :
    Spells s "missingVariables" (.obj [(s.missingVariables.name, .null)])
  | environmentFile : Spells s "environmentFile" (s.environmentFile.elim .null .str)
  | defaultHeaders {headers : List (String × String)}
    (h : s.defaultHeaders = SortedMap.ofList headers) :
    Spells s "defaultHeaders" (.obj (headers.map fun h => (h.1, .str h.2)))

/-- The named fields of some settings, put onto others. -/
def onto (c : Settings) (names : List String) (s : Settings) : Settings where
  server := if "server" ∈ names then c.server else s.server
  timeout := if "timeout" ∈ names then c.timeout else s.timeout
  followRedirects := if "followRedirects" ∈ names then c.followRedirects else s.followRedirects
  validateSsl := if "validateSsl" ∈ names then c.validateSsl else s.validateSsl
  missingVariables := if "missingVariables" ∈ names then c.missingVariables else s.missingVariables
  environmentFile := if "environmentFile" ∈ names then c.environmentFile else s.environmentFile
  defaultHeaders := if "defaultHeaders" ∈ names then c.defaultHeaders else s.defaultHeaders

variable {c s : Settings} {names : List String} {name : String}

theorem onto_nil : c.onto [] s = s := by
  simp [onto]

theorem onto_cons : c.onto (name :: names) s = c.onto names (c.onto [name] s) := by
  have hfield : ∀ {α : Type} (key : String) (x y : α),
      (if key ∈ name :: names then x else y) =
        if key ∈ names then x else if key ∈ [name] then x else y := by
    intro α key x y
    by_cases hnames : key ∈ names <;> simp [hnames]
  simp only [onto, hfield]

theorem mem_record_fields {f : Json.Field Settings} (h : f ∈ record.fields) :
    f = .of "server" .defaulted .string (fun x s => { s with server := x }) ∨
      f = .of "timeout" .defaulted .uint64 (fun x s => { s with timeout := x }) ∨
      f = .of "followRedirects" .defaulted .bool (fun x s => { s with followRedirects := x }) ∨
      f = .of "validateSsl" .defaulted .bool (fun x s => { s with validateSsl := x }) ∨
      f = .of "missingVariables" .defaulted MissingPolicy.decoder
        (fun x s => { s with missingVariables := x }) ∨
      f = .of "environmentFile" .defaulted (.option .string)
        (fun x s => { s with environmentFile := x }) ∨
      f = .of "defaultHeaders" .defaulted (.mapOf .string)
        fun x s => { s with defaultHeaders := x } := by
  simpa [record] using h

theorem onto_of_notMem (h : name ∉ keys) : c.onto [name] s = s := by
  simp only [keys, record, Json.Field.of, List.map_cons, List.map_nil, List.mem_cons, not_or] at h
  obtain ⟨h1, h2, h3, h4, h5, h6, h7, -⟩ := h
  simp [onto, Ne.symm h1, Ne.symm h2, Ne.symm h3, Ne.symm h4, Ne.symm h5, Ne.symm h6, Ne.symm h7]

theorem spells_of_field? {v : Json} (h : c.toJson.field? name = some v) : c.Spells name v := by
  have hmem := Entries.mem_of_get? h
  simp only [List.mem_cons, Prod.mk.injEq, List.not_mem_nil, or_false] at hmem
  rcases hmem with ⟨rfl, rfl⟩ | ⟨rfl, rfl⟩ | ⟨rfl, rfl⟩ | ⟨rfl, rfl⟩ | ⟨rfl, rfl⟩ | ⟨rfl, rfl⟩ |
    ⟨rfl, rfl⟩
  · exact .server
  · exact .timeout
  · exact .followRedirects
  · exact .validateSsl
  · exact .missingVariables
  · have hspelled : c.Spells "environmentFile" (c.environmentFile.elim .null .str) :=
      .environmentFile
    cases hfile : c.environmentFile <;> rwa [hfile] at hspelled
  · exact .defaultHeaders c.defaultHeaders.ofList_entries.symm

/-- A value that spells a field of some settings changes just this field. -/
theorem change_of_spells {f : Json.Field Settings} {v : Json} (h : c.Spells name v)
    (hf : record.fields.find? (fun f => f.name == name) = some f) :
    f.change.ofJson v = .ok (c.onto [name]) := by
  cases h <;> obtain rfl := Option.some.inj hf <;> refine Json.Field.ofJson_of_eq_ok_iff.2 ?_
  case server =>
    exact ⟨_, Json.Decoder.string_ofJson_eq_ok_iff.2 rfl, funext fun s => by simp [onto]⟩
  case timeout =>
    exact ⟨_, Json.Decoder.uint64_ofJson_eq_ok_iff.2 rfl, funext fun s => by simp [onto]⟩
  case followRedirects =>
    exact ⟨_, Json.Decoder.bool_ofJson_eq_ok_iff.2 rfl, funext fun s => by simp [onto]⟩
  case validateSsl =>
    exact ⟨_, Json.Decoder.bool_ofJson_eq_ok_iff.2 rfl, funext fun s => by simp [onto]⟩
  case missingVariables =>
    exact ⟨_, MissingPolicy.decoder_ofJson_eq_ok_iff.2 (.inl rfl), funext fun s => by simp [onto]⟩
  case missingVariablesNull =>
    exact ⟨_, MissingPolicy.decoder_ofJson_eq_ok_iff.2 (.inr rfl), funext fun s => by simp [onto]⟩
  case environmentFile =>
    exact ⟨_, Json.Decoder.option_string_ofJson_eq_ok_iff.2 rfl, funext fun s => by simp [onto]⟩
  case defaultHeaders headers hheaders =>
    exact ⟨_, Json.Decoder.mapOf_string_ofJson_eq_ok_iff.2 ⟨headers, rfl, hheaders⟩,
      funext fun s => by simp [onto]⟩

theorem spells_of_change {f : Json.Field Settings} {v : Json} {change : Settings → Settings}
    (hf : f ∈ record.fields) (h : f.change.ofJson v = .ok change) :
    ∃ s : Settings, s.Spells f.name v := by
  rcases mem_record_fields hf with rfl | rfl | rfl | rfl | rfl | rfl | rfl <;>
    obtain ⟨x, hx, -⟩ := Json.Field.ofJson_of_eq_ok_iff.1 h
  · obtain rfl := Json.Decoder.string_ofJson_eq_ok_iff.1 hx
    exact ⟨{ default with server := x }, .server⟩
  · obtain rfl := Json.Decoder.uint64_ofJson_eq_ok_iff.1 hx
    exact ⟨{ default with timeout := x }, .timeout⟩
  · obtain rfl := Json.Decoder.bool_ofJson_eq_ok_iff.1 hx
    exact ⟨{ default with followRedirects := x }, .followRedirects⟩
  · obtain rfl := Json.Decoder.bool_ofJson_eq_ok_iff.1 hx
    exact ⟨{ default with validateSsl := x }, .validateSsl⟩
  · rcases MissingPolicy.decoder_ofJson_eq_ok_iff.1 hx with rfl | rfl
    · exact ⟨{ default with missingVariables := x }, .missingVariables⟩
    · exact ⟨{ default with missingVariables := x }, .missingVariablesNull⟩
  · obtain rfl := Json.Decoder.option_string_ofJson_eq_ok_iff.1 hx
    exact ⟨{ default with environmentFile := x }, .environmentFile⟩
  · obtain ⟨headers, rfl, rfl⟩ := Json.Decoder.mapOf_string_ofJson_eq_ok_iff.1 hx
    exact ⟨{ default with defaultHeaders := SortedMap.ofList headers }, .defaultHeaders rfl⟩

theorem lenient_record : record.Lenient := ⟨rfl, fun _ => rfl⟩

theorem presence_of_mem {f : Json.Field Settings} (h : f ∈ record.fields) :
    f.presence = .defaulted := by
  rcases mem_record_fields h with rfl | rfl | rfl | rfl | rfl | rfl | rfl <;> rfl

theorem mem_keys_of_find? {f : Json.Field Settings}
    (h : record.fields.find? (fun f => f.name == name) = some f) : name ∈ keys := by
  have hname := List.find?_some h
  exact List.mem_map.2 ⟨f, List.mem_of_find?_eq_some h, beq_iff_eq.1 hname⟩

theorem notMem_keys_of_find? (h : record.fields.find? (fun f => f.name == name) = none) :
    name ∉ keys := by
  intro hmem
  obtain ⟨f, hf, hname⟩ := List.mem_map.1 hmem
  exact List.find?_eq_none.1 h f hf (beq_iff_eq.2 hname)

section Objects

variable {fields : List (String × Json)} {seen : List String}

/-- An object whose values spell fields of some settings puts these fields onto the others. -/
theorem fromFields_of_spells (hfresh : Json.Record.Fresh seen fields)
    (h : ∀ e ∈ fields, e.1 ∈ keys → c.Spells e.1 e.2) :
    record.fromFields seen s fields = .ok (c.onto (fields.map Prod.fst) s) := by
  induction fields generalizing seen s with
  | nil =>
    rw [List.map_nil, onto_nil]
    refine (Json.Record.finish_eq_ok_iff lenient_record).2 ⟨fun f hf hrequired => ?_, rfl⟩
    rw [presence_of_mem hf] at hrequired
    cases hrequired
  | cons e rest ih =>
    obtain ⟨name, v⟩ := e
    rw [List.forall_mem_cons] at h
    rw [List.map_cons, onto_cons]
    cases hf : record.fields.find? fun f => f.name == name with
    | none =>
      rw [Json.Record.fromFields_unknown lenient_record hf,
        onto_of_notMem (notMem_keys_of_find? hf)]
      exact ih hfresh.tail h.2
    | some f =>
      have hchange := change_of_spells (h.1 (mem_keys_of_find? hf)) hf
      rw [Json.Record.fromFields_known hfresh.head hf, hchange]
      exact ih hfresh.push h.2

/-- A single known key whose value spells nothing is enough to refuse an object. -/
theorem exists_ofJson_error (hfresh : Json.Record.Fresh [] fields) {e : String × Json}
    (he : e ∈ fields) (hkey : e.1 ∈ keys) (hnot : ∀ s : Settings, ¬s.Spells e.1 e.2) :
    ∃ cause, decoder.ofJson (.obj fields) = .error cause := by
  cases hdecoded : decoder.ofJson (.obj fields) with
  | error cause => exact ⟨cause, rfl⟩
  | ok s =>
    have hread := ((Json.Record.exists_fromFields_iff lenient_record hfresh).1 ⟨s, hdecoded⟩).1 e he
    cases hf : record.fields.find? fun f => f.name == e.1 with
    | none => exact absurd hkey (notMem_keys_of_find? hf)
    | some f =>
      obtain ⟨change, hchange⟩ := hread f hf
      have hname := List.find?_some hf
      obtain ⟨c, hc⟩ := spells_of_change (List.mem_of_find?_eq_some hf) hchange
      rw [beq_iff_eq.1 hname] at hc
      exact absurd hc (hnot c)

end Objects

/-! ## Documents -/

/-- The warnings and the settings that come of a document before the settings are checked. -/
inductive Merges (document : Option Json) : List Warning → Settings → Prop
  | absent (h : document.bind (Json.field? key) = none) : Merges document [] default
  | decoded {value : Json} {s : Settings} (h : document.bind (Json.field? key) = some value)
    (hs : decoder.ofJson value = .ok s) : Merges document [] s
  | ignored {value : Json} {cause : Json.Cause}
    (h : document.bind (Json.field? key) = some value)
    (hcause : decoder.ofJson value = .error cause) :
    Merges document [.settingsIgnored cause] default

variable {document : Option Json} {warnings : List Warning}

theorem exists_merges (document : Option Json) : ∃ warnings s, Merges document warnings s := by
  cases h : document.bind (Json.field? key) with
  | none => exact ⟨_, _, .absent h⟩
  | some value =>
    cases hdecoded : decoder.ofJson value with
    | ok s => exact ⟨_, _, .decoded h hdecoded⟩
    | error cause => exact ⟨_, _, .ignored h hdecoded⟩

theorem Merges.load_eq (h : Merges document warnings s) :
    load document = ⟨warnings, s.validated⟩ := by
  cases h with
  | absent h =>
    simp only [load, merge, h]
    rfl
  | decoded h hs =>
    simp only [load, merge, h, hs]
    rfl
  | ignored h hcause =>
    simp only [load, merge, h, hcause]
    rfl

theorem validated_eq_ok_iff {s' : Settings} :
    s.validated = .ok s' ↔ s.validate = .ok () ∧ s = s' := by
  rw [validated, bind_eq_ok_iff]
  constructor
  · rintro ⟨⟨⟩, hvalid, heq⟩
    exact ⟨hvalid, Except.ok.inj heq⟩
  · rintro ⟨hvalid, rfl⟩
    exact ⟨(), hvalid, rfl⟩

theorem validated_eq_error_iff {e : SettingsError} :
    s.validated = .error e ↔ s.validate = .error e := by
  rw [validated, bind_eq_error_iff]
  refine or_iff_left ?_
  rintro ⟨_, -, he⟩
  cases he

/-- What passes the check has time to wait and a server of the web. -/
theorem validate_eq_ok_iff :
    s.validate = .ok () ↔
      0 < s.timeout.toNat ∧ ∃ server, Url.parse s.server = .ok server ∧ server.isHttp = true := by
  have htimeout : 0 < s.timeout.toNat ↔ s.timeout ≠ 0 := by
    rw [Nat.pos_iff_ne_zero, ne_eq, ne_eq, ← UInt64.toNat_inj, UInt64.toNat_zero]
  rw [htimeout]
  unfold validate
  split
  · rename_i hzero
    simp [hzero]
  · rename_i hne
    cases hserver : Url.parse s.server with
    | error e => simp
    | ok url => simp [hne]

/-- The settings of an object are the defaults with those fields replaced whose keys it has. -/
theorem load_takes_present_keys :
    (∀ (document : Json) (fields : List (String × Json)),
      document.field? key = some (.obj fields) → (fields.map Prod.fst).Nodup →
        (∀ c : Settings, (∀ e ∈ fields, e.1 ∈ keys → c.toJson.field? e.1 = some e.2) →
          load (some document) = ⟨[], (c.onto (fields.map Prod.fst) default).validated⟩) ∧
        ((∃ e ∈ fields, e.1 ∈ keys ∧ ∀ s : Settings, ¬s.Spells e.1 e.2) →
          ∃ cause, load (some document) = ⟨[.settingsIgnored cause], .ok default⟩)) ∧
    ∀ (document : Option Json) (s : Settings), (load document).outcome = .ok s →
      0 < s.timeout.toNat ∧ ∃ server, Url.parse s.server = .ok server ∧
        (server.scheme = "http".toList ∨ server.scheme = "https".toList) := by
  refine ⟨fun document fields hdocument hkeys => ?_, fun document s hloaded => ?_⟩
  · have hfresh : Json.Record.Fresh [] fields := ⟨hkeys, fun _ _ => List.not_mem_nil⟩
    refine ⟨fun c hc => ?_, fun ⟨e, he, hkey, hnot⟩ => ?_⟩
    · have hdecoded : decoder.ofJson (.obj fields) = .ok _ :=
        fromFields_of_spells hfresh fun e he hkey => spells_of_field? (hc e he hkey)
      exact Merges.load_eq (.decoded hdocument hdecoded)
    · obtain ⟨cause, hcause⟩ := exists_ofJson_error hfresh he hkey hnot
      have hmerges : Merges (some document) _ _ := .ignored hdocument hcause
      refine ⟨cause, ?_⟩
      rw [hmerges.load_eq, validated_default]
  · obtain ⟨warnings, merged, hmerges⟩ := exists_merges document
    rw [hmerges.load_eq] at hloaded
    obtain ⟨hvalid, rfl⟩ := validated_eq_ok_iff.1 hloaded
    obtain ⟨htimeout, server, hserver, hhttp⟩ := validate_eq_ok_iff.1 hvalid
    rw [Url.isHttp, Bool.or_eq_true, beq_iff_eq, beq_iff_eq] at hhttp
    exact ⟨htimeout, server, hserver, hhttp⟩

theorem load_beside_unknown_key :
    load (some (.obj [(key, .obj [("color", .str "red"), ("timeout", .num (.int 5))])])) =
        ⟨[], .ok { default with timeout := 5 }⟩ ∧
      ∃ cause, load (some (.obj [(key, .obj [("server", .str "https://h"), ("timeout", .null)])])) =
        ⟨[.settingsIgnored cause], .ok default⟩ := by
  constructor
  · let c : Settings := { default with timeout := 5 }
    have hread := (load_takes_present_keys.1 (.obj [(key, .obj
      [("color", .str "red"), ("timeout", .num (.int 5))])]) _ rfl (by decide)).1 c
    have hvalid : c.validated = .ok c :=
      validated_eq_ok_iff.2 ⟨validate_of_default_server (by decide) rfl, rfl⟩
    rw [← hvalid]
    refine hread fun e he hkey => ?_
    rcases List.mem_cons.1 he with rfl | he
    · exact absurd hkey (by decide)
    · rw [List.mem_singleton.1 he]
      rfl
  · refine (load_takes_present_keys.1 (.obj [(key, .obj
      [("server", .str "https://h"), ("timeout", .null)])]) _ rfl (by decide)).2 ?_
    refine ⟨("timeout", .null), by simp, by decide, fun s hs => ?_⟩
    obtain ⟨n, hn, -⟩ := Json.Field.ofJson_of_eq_ok_iff.1 (change_of_spells hs rfl)
    cases hn

end Settings

end ApiSuite
