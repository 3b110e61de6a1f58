import ApiSuite.Proofs.Build
import ApiSuite.Proofs.RoundTrip

/-! # JSON bodies

The text of a JSON body spells the value of its template with every string leaf substituted. What is
substituted may be any text, since it is escaped when the value is written. Substituting keeps the
order of the fields, the numbers and the nesting, so that the value can still be read.
-/
namespace ApiSuite

namespace Json

theorem sorted_mapFields {f : String → String} {fields : List (String × Json)}
    (h : Entries.Sorted fields) : Entries.Sorted (mapFields f fields) := by
  have hkeys : ((mapFields f fields).map Prod.fst).Pairwise (· < ·) := by
    rw [mapFields_keys]
    exact List.pairwise_map.2 h
  exact List.pairwise_map.1 hkeys

mutual

theorem canonical_mapStrings {f : String → String} :
    ∀ v : Json, v.Canonical → (v.mapStrings f).Canonical
  | .null, h => h
  | .bool _, h => h
  | .num _, h => h
  | .str _, h => h
  | .arr items, h => canonical_mapItems items h
  | .obj fields, ⟨hs, h⟩ => ⟨sorted_mapFields hs, canonical_mapFields fields h⟩

theorem canonical_mapItems {f : String → String} :
    ∀ items : List Json, CanonicalItems items → CanonicalItems (mapItems f items)
  | [], h => h
  | v :: rest, ⟨hv, h⟩ => ⟨canonical_mapStrings v hv, canonical_mapItems rest h⟩

theorem canonical_mapFields {f : String → String} :
    ∀ fields : List (String × Json), CanonicalFields fields → CanonicalFields (mapFields f fields)
  | [], h => h
  | (_, v) :: rest, ⟨hv, h⟩ => ⟨canonical_mapStrings v hv, canonical_mapFields rest h⟩

end

mutual

theorem integral_mapStrings {f : String → String} :
    ∀ v : Json, v.Integral → (v.mapStrings f).Integral
  | .null, h => h
  | .bool _, h => h
  | .num _, h => h
  | .str _, h => h
  | .arr items, h => integral_mapItems items h
  | .obj fields, h => integral_mapFields fields h

theorem integral_mapItems {f : String → String} :
    ∀ items : List Json, IntegralItems items → IntegralItems (mapItems f items)
  | [], h => h
  | v :: rest, ⟨hv, h⟩ => ⟨integral_mapStrings v hv, integral_mapItems rest h⟩

theorem integral_mapFields {f : String → String} :
    ∀ fields : List (String × Json), IntegralFields fields → IntegralFields (mapFields f fields)
  | [], h => h
  | (_, v) :: rest, ⟨hv, h⟩ => ⟨integral_mapStrings v hv, integral_mapFields rest h⟩

end

mutual

theorem depth_mapStrings {f : String → String} : ∀ v : Json, (v.mapStrings f).depth = v.depth
  | .null => rfl
  | .bool _ => rfl
  | .num _ => rfl
  | .str _ => rfl
  | .arr items => congrArg (· + 1) (depth_mapItems items)
  | .obj fields => congrArg (· + 1) (depth_mapFields fields)

theorem depth_mapItems {f : String → String} :
    ∀ items : List Json, depthItems (mapItems f items) = depthItems items
  | [] => rfl
  | v :: rest => congrArg₂ max (depth_mapStrings v) (depth_mapItems rest)

theorem depth_mapFields {f : String → String} :
    ∀ fields : List (String × Json), depthFields (mapFields f fields) = depthFields fields
  | [] => rfl
  | (_, v) :: rest => congrArg₂ max (depth_mapStrings v) (depth_mapFields rest)

end

end Json

namespace RequestBuilder

variable (b : RequestBuilder) (t : Template)

/-- A JSON body is sent as a text that spells the substituted value of its template. That value has
the keys, the array lengths and the other leaves of the template, and each of its strings is what
the substitution of the string in the template gives. -/
theorem json_body_spells_substituted {v : Json} {r : Request} (hbody : t.body = some (.json v))
    (hc : v.Canonical) (hi : v.Integral) (hd : v.depth ≤ Json.maxDepth)
    (h : (b.build t).outcome = .ok r) :
    ∃ text w, r.body = some text ∧ Json.parse text = .ok w ∧
      (b.store.substituteJson v).outcome = .ok w ∧
      v.Leafwise (fun leaf filled => (b.store.substitute leaf).outcome = .ok filled) w := by
  have hpass := b.policy_of_outcome_build_ok t h
  have hr : b.filledRequest t = r := b.filledRequest_of_outcome_build t h
  have hsent : ∀ leaf ∈ v.strings, leaf ∈ b.sentTexts t := fun leaf hleaf =>
    b.mem_sentTexts_of_mem_bodyTexts t (by rw [hbody]; exact hleaf)
  let w := v.mapStrings b.store.filled
  have hparse : Json.parse w.render = .ok w :=
    Json.parse_render (Json.canonical_mapStrings v hc) (Json.integral_mapStrings v hi)
      (by rwa [Json.depth_mapStrings])
  have hsubstituted : (b.store.substituteJson v).outcome = .ok w := by
    rw [Store.substituteJson_eq]
    refine b.outcome_pass_of_sent t hpass (fun name hname => ?_) w
    obtain ⟨leaf, hleaf, hn⟩ := List.mem_flatMap.1 hname
    exact List.mem_flatMap.2 ⟨leaf, hsent leaf hleaf, hn⟩
  refine ⟨w.render, w, ?_, hparse, hsubstituted, ?_⟩
  · rw [← hr]
    change b.filledBody t.body = _
    rw [hbody]
    rfl
  · exact Json.leafwise_mapStrings v fun leaf hleaf =>
      b.outcome_substitute_of_sent t hpass (hsent leaf hleaf)

/-- A quote, a backslash, a line feed, a placeholder and a bidi mark come through the text. -/
theorem json_body_spells_controls :
    let text := "\"\\\n\x7b\x7by\x7d\x7d\u202e"
    let b : RequestBuilder := ⟨((Store.new .fail).set "x" text).setNull "y", none, []⟩
    let body (x y : String) : Json :=
      .obj [("a\"", .arr [.str x, .num (.int (-5)), .null]), ("b", .obj [("c", .str y)])]
    let v := body "\x7b\x7bx\x7d\x7d" "[\x7b\x7b y \x7d\x7d]"
    let t : Template := ⟨.post, "/x", [], some (.json v)⟩
    v.Canonical ∧ v.Integral ∧ v.depth ≤ Json.maxDepth ∧
      (b.build t).outcome = .ok ⟨.post, "/x", [], some (body text "[null]").render⟩ ∧
      Json.parse (body text "[null]").render = .ok (body text "[null]") := by
  intro text b body v t
  have hc : v.Canonical :=
    ⟨by decide, ⟨trivial, trivial, trivial, trivial⟩, ⟨by decide, trivial, trivial⟩, trivial⟩
  have hn : (Json.Number.int (-5)).Exact := ⟨by decide, by decide⟩
  have hi : v.Integral := ⟨⟨trivial, hn, trivial, trivial⟩, ⟨trivial, trivial⟩, trivial⟩
  have hd : v.depth ≤ Json.maxDepth := by decide
  have hbuild : (b.build t).outcome = .ok ⟨.post, "/x", [], some (body text "[null]").render⟩ :=
    b.outcome_build_eq t (by decide +kernel) (by decide +kernel)
  have hsubstituted : (b.store.substituteJson v).outcome = .ok (body text "[null]") := by
    rw [Store.substituteJson_eq, b.store.pass_of_unbound_eq_nil (by decide +kernel)]
    exact congrArg Except.ok (by decide +kernel)
  refine ⟨hc, hi, hd, hbuild, ?_⟩
  obtain ⟨sent, w, hsent, hparse, hw, -⟩ := b.json_body_spells_substituted t rfl hc hi hd hbuild
  obtain rfl := Except.ok.inj (hw.symm.trans hsubstituted)
  obtain rfl := Option.some.inj hsent
  exact hparse

end RequestBuilder

end ApiSuite
