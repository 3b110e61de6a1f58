import ApiSuite.Proofs.LoadedSettings

/-! # Overriding settings

Settings are checked as they are loaded, and once more after the process variables have replaced
their fields. So an invalid value in a document is an error also where a variable replaces it.
Except through the first check a replaced field has no influence on what comes of the settings.
-/
namespace ApiSuite

namespace Overrides

variable {o : Overrides} {s s' : Settings}

/-- Every override that is there parses. -/
structure Parses (o : Overrides) : Prop where
  timeout : ∀ text, o.timeout = some text → ∃ n, timeout? text = .ok n
  missingVariables : ∀ text, o.missingVariables = some text → ∃ p, policy? text = .ok p

/-- The error of the first override that does not parse. -/
inductive FirstUnread (o : Overrides) : SettingsError → Prop
  | timeout {text : String} {e : SettingsError} (htext : o.timeout = some text)
    (he : timeout? text = .error e) : FirstUnread o e
  | missingVariables {text : String} {e : SettingsError}
    (htimeout : ∀ text, o.timeout = some text → ∃ n, timeout? text = .ok n)
    (htext : o.missingVariables = some text) (he : policy? text = .error e) : FirstUnread o e

/-- A field is what its override parses to, or what it was. -/
def Replaces {α : Type} (override : Option String) (read : String → Except SettingsError α)
    (inPlace x : α) : Prop :=
  match override with
  | none => x = inPlace
  | some text => read text = .ok x

/-- The second settings are the first with their overridden fields replaced. -/
structure Overridden (o : Overrides) (s s' : Settings) : Prop where
  server : Replaces o.server .ok s.server s'.server
  timeout : Replaces o.timeout timeout? s.timeout s'.timeout
  missingVariables : Replaces o.missingVariables policy? s.missingVariables s'.missingVariables
  followRedirects : s'.followRedirects = s.followRedirects
  validateSsl : s'.validateSsl = s.validateSsl
  environmentFile : s'.environmentFile = s.environmentFile
  defaultHeaders : s'.defaultHeaders = s.defaultHeaders

/-- Two settings differ at most in overridden fields. -/
structure AgreeBesides (o : Overrides) (s s' : Settings) : Prop where
  server : o.server = none → s.server = s'.server
  timeout : o.timeout = none → s.timeout = s'.timeout
  missingVariables : o.missingVariables = none → s.missingVariables = s'.missingVariables
  followRedirects : s.followRedirects = s'.followRedirects
  validateSsl : s.validateSsl = s'.validateSsl
  environmentFile : s.environmentFile = s'.environmentFile
  defaultHeaders : s.defaultHeaders = s'.defaultHeaders

section OrElse

variable {α : Type} {override : Option String} {read : String → Except SettingsError α}
  {inPlace other x : α} {e : SettingsError}

theorem orElse_eq_ok_iff :
    orElse override read inPlace = .ok x ↔ Replaces override read inPlace x := by
  cases override with
  | none => simp [orElse, Replaces, eq_comm]
  | some text => rfl

theorem orElse_eq_error_iff :
    orElse override read inPlace = .error e ↔
      ∃ text, override = some text ∧ read text = .error e := by
  cases override <;> simp [orElse]

theorem exists_replaces_iff :
    (∃ x, Replaces override read inPlace x) ↔
      ∀ text, override = some text → ∃ x, read text = .ok x := by
  cases override <;> simp [Replaces]

theorem orElse_congr (h : override = none → inPlace = other) :
    orElse override read inPlace = orElse override read other := by
  cases override with
  | none => rw [h rfl]
  | some text => rfl

end OrElse

theorem exists_server (o : Overrides) (s : Settings) :
    ∃ server, Replaces o.server .ok s.server server :=
  exists_replaces_iff.2 fun text _ => ⟨text, rfl⟩

theorem exists_overridden_iff : (∃ s', o.Overridden s s') ↔ o.Parses := by
  constructor
  · rintro ⟨s', h⟩
    exact ⟨exists_replaces_iff.1 ⟨_, h.timeout⟩, exists_replaces_iff.1 ⟨_, h.missingVariables⟩⟩
  · intro h
    obtain ⟨server, hserver⟩ := exists_server o s
    obtain ⟨timeout, htimeout⟩ := exists_replaces_iff.2 h.timeout
    obtain ⟨policy, hpolicy⟩ := exists_replaces_iff.2 h.missingVariables
    exact ⟨{ s with server, timeout, missingVariables := policy },
      ⟨hserver, htimeout, hpolicy, rfl, rfl, rfl, rfl⟩⟩

theorem replace_eq_ok_iff : o.replace s = .ok s' ↔ o.Overridden s s' := by
  unfold replace
  simp only [bind_eq_ok_iff, orElse_eq_ok_iff]
  constructor
  · rintro ⟨server, hserver, timeout, htimeout, policy, hpolicy, heq⟩
    obtain rfl := Except.ok.inj heq
    exact ⟨hserver, htimeout, hpolicy, rfl, rfl, rfl, rfl⟩
  · intro h
    refine ⟨_, h.server, _, h.timeout, _, h.missingVariables, ?_⟩
    rw [← h.followRedirects, ← h.validateSsl, ← h.environmentFile, ← h.defaultHeaders]
    rfl

theorem Overridden.unique {final : Settings} (h : o.Overridden s s') (h' : o.Overridden s final) :
    s' = final :=
  Except.ok.inj ((replace_eq_ok_iff.2 h).symm.trans (replace_eq_ok_iff.2 h'))

theorem replace_eq_error_iff {e : SettingsError} : o.replace s = .error e ↔ o.FirstUnread e := by
  unfold replace
  simp only [bind_eq_error_iff, orElse_eq_error_iff, orElse_eq_ok_iff]
  constructor
  · rintro (⟨_, _, he⟩ | ⟨_, _, htimeout | ⟨n, hn, hpolicy | ⟨_, _, he⟩⟩⟩)
    · cases he
    · obtain ⟨text, htext, he⟩ := htimeout
      exact .timeout htext he
    · obtain ⟨text, htext, he⟩ := hpolicy
      exact .missingVariables (exists_replaces_iff.1 ⟨n, hn⟩) htext he
    · cases he
  · intro h
    obtain ⟨server, hserver⟩ := exists_server o s
    refine .inr ⟨server, hserver, ?_⟩
    cases h with
    | timeout htext he => exact .inl ⟨_, htext, he⟩
    | missingVariables htimeout htext he =>
      obtain ⟨n, hn⟩ := exists_replaces_iff.2 htimeout
      exact .inr ⟨n, hn, .inl ⟨_, htext, he⟩⟩

theorem replace_congr (h : o.AgreeBesides s s') : o.replace s = o.replace s' := by
  unfold replace
  rw [orElse_congr h.server, orElse_congr h.timeout, orElse_congr h.missingVariables]
  simp only [h.followRedirects, h.validateSsl, h.environmentFile, h.defaultHeaders]

theorem apply_eq_ok_iff :
    o.apply s = .ok s' ↔ o.Overridden s s' ∧ s'.validate = .ok () := by
  rw [apply, bind_eq_ok_iff]
  constructor
  · rintro ⟨final, hfinal, hvalidated⟩
    obtain ⟨hvalid, rfl⟩ := Settings.validated_eq_ok_iff.1 hvalidated
    exact ⟨replace_eq_ok_iff.1 hfinal, hvalid⟩
  · rintro ⟨hfinal, hvalid⟩
    exact ⟨s', replace_eq_ok_iff.2 hfinal, Settings.validated_eq_ok_iff.2 ⟨hvalid, rfl⟩⟩

theorem apply_eq_error_iff {e : SettingsError} :
    o.apply s = .error e ↔
      o.FirstUnread e ∨ ∃ s', o.Overridden s s' ∧ s'.validate = .error e := by
  rw [apply, bind_eq_error_iff, replace_eq_error_iff]
  refine or_congr_right (exists_congr fun s' => ?_)
  rw [replace_eq_ok_iff, Settings.validated_eq_error_iff]

theorem apply_congr (h : o.AgreeBesides s s') : o.apply s = o.apply s' := by
  rw [apply, apply, replace_congr h]

end Overrides

namespace Settings

variable {o : Overrides} {document : Option Json} {warnings : List Warning} {s : Settings}

theorem Merges.apply_eq_ok_iff (h : Merges document warnings s) {final : Settings} :
    (load document).outcome.bind o.apply = .ok final ↔
      s.validate = .ok () ∧ o.Overridden s final ∧ final.validate = .ok () := by
  rw [h.load_eq]
  change s.validated >>= o.apply = .ok final ↔ _
  rw [bind_eq_ok_iff]
  constructor
  · rintro ⟨loaded, hloaded, happly⟩
    obtain ⟨hvalid, rfl⟩ := validated_eq_ok_iff.1 hloaded
    exact ⟨hvalid, Overrides.apply_eq_ok_iff.1 happly⟩
  · rintro ⟨hvalid, hfinal⟩
    exact ⟨s, validated_eq_ok_iff.2 ⟨hvalid, rfl⟩, Overrides.apply_eq_ok_iff.2 hfinal⟩

theorem Merges.apply_eq_error_iff (h : Merges document warnings s) {e : SettingsError} :
    (load document).outcome.bind o.apply = .error e ↔
      s.validate = .error e ∨ s.validate = .ok () ∧
        (o.FirstUnread e ∨ ∃ final, o.Overridden s final ∧ final.validate = .error e) := by
  rw [h.load_eq]
  change s.validated >>= o.apply = .error e ↔ _
  rw [bind_eq_error_iff, validated_eq_error_iff]
  refine or_congr_right ⟨?_, ?_⟩
  · rintro ⟨loaded, hloaded, happly⟩
    obtain ⟨hvalid, rfl⟩ := validated_eq_ok_iff.1 hloaded
    exact ⟨hvalid, Overrides.apply_eq_error_iff.1 happly⟩
  · rintro ⟨hvalid, hfailed⟩
    exact ⟨s, validated_eq_ok_iff.2 ⟨hvalid, rfl⟩, Overrides.apply_eq_error_iff.2 hfailed⟩

theorem Merges.exists_apply_eq_ok_iff (h : Merges document warnings s) :
    (∃ final, (load document).outcome.bind o.apply = .ok final) ↔
      s.validate = .ok () ∧ o.Parses ∧
        ∀ final, o.Overridden s final → final.validate = .ok () := by
  simp only [h.apply_eq_ok_iff, exists_and_left]
  refine and_congr_right fun _ => ⟨?_, ?_⟩
  · rintro ⟨final, hfinal, hvalid⟩
    refine ⟨Overrides.exists_overridden_iff.1 ⟨final, hfinal⟩, fun other hother => ?_⟩
    rwa [hother.unique hfinal]
  · rintro ⟨hparses, hvalid⟩
    obtain ⟨final, hfinal⟩ := Overrides.exists_overridden_iff (s := s).2 hparses
    exact ⟨final, hfinal, hvalid final hfinal⟩

/-- An overridden field makes a difference only to the check of the loaded settings. -/
theorem Merges.apply_congr {other : Option Json} {more : List Warning} {s' : Settings}
    (h : Merges document warnings s) (h' : Merges other more s')
    (hsame : s'.validate = s.validate) (hagree : o.AgreeBesides s s') :
    (load other).outcome.bind o.apply = (load document).outcome.bind o.apply := by
  rw [h.load_eq, h'.load_eq]
  cases hvalid : s.validate with
  | error e =>
    rw [validated_eq_error_iff.2 hvalid, validated_eq_error_iff.2 (hsame.trans hvalid)]
  | ok =>
    rw [validated_eq_ok_iff.2 ⟨hvalid, rfl⟩, validated_eq_ok_iff.2 ⟨hsame.trans hvalid, rfl⟩]
    exact (Overrides.apply_congr hagree).symm

/-- Settings are checked as they are loaded and again when their fields are overridden. Except
through the first check an overridden field has no influence. -/
theorem load_then_override (document : Option Json) (lookup : String → Option String) :
    let o := Overrides.ofLookup lookup
    let result (d : Option Json) := (load d).outcome.bind o.apply
    ∃ merged, Merges document (load document).warnings merged ∧
      (∀ final, result document = .ok final ↔
        merged.validate = .ok () ∧ o.Overridden merged final ∧ final.validate = .ok ()) ∧
      (∀ e, result document = .error e ↔
        merged.validate = .error e ∨ merged.validate = .ok () ∧
          (o.FirstUnread e ∨ ∃ final, o.Overridden merged final ∧ final.validate = .error e)) ∧
      ((∃ final, result document = .ok final) ↔
        merged.validate = .ok () ∧ o.Parses ∧
          ∀ final, o.Overridden merged final → final.validate = .ok ()) ∧
      ∀ other warnings s, Merges other warnings s → s.validate = merged.validate →
        o.AgreeBesides merged s → result other = result document := by
  intro o result
  obtain ⟨warnings, merged, h⟩ := exists_merges document
  refine ⟨merged, ?_, fun _ => h.apply_eq_ok_iff, fun _ => h.apply_eq_error_iff,
    h.exists_apply_eq_ok_iff, fun _ _ _ hother hsame hagree => h.apply_congr hother hsame hagree⟩
  rw [h.load_eq]
  exact h

/-- A time of zero in a document is an error although a variable replaces it. -/
theorem load_zero_then_override :
    let document : Json := .obj [(key, .obj [("timeout", .num (.int 0))])]
    let o := Overrides.ofLookup fun name =>
      if name = Overrides.timeoutVariable then some "1500" else none
    ∃ merged final, Merges (some document) [] merged ∧ o.Parses ∧ o.Overridden merged final ∧
      final.validate = .ok () ∧
        (load (some document)).outcome.bind o.apply =
          .error (.invalid "timeout must be greater than 0") := by
  intro document o
  let merged : Settings := { default with timeout := 0 }
  let final : Settings := { default with timeout := 1500 }
  have hmerged : Merges (some document) [] merged := .decoded rfl rfl
  have hfinal : o.Overridden merged final := ⟨rfl, rfl, rfl, rfl, rfl, rfl, rfl⟩
  have hvalid : final.validate = .ok () := validate_of_default_server (by decide) rfl
  have hzero : merged.validate = .error (.invalid "timeout must be greater than 0") := rfl
  exact ⟨merged, final, hmerged, Overrides.exists_overridden_iff.1 ⟨final, hfinal⟩, hfinal, hvalid,
    hmerged.apply_eq_error_iff.2 (.inl hzero)⟩

end Settings

end ApiSuite
