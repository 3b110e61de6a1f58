import ApiSuite.Http.Request
import ApiSuite.Proofs.TextDecoding
import ApiSuite.Settings

/-! # Records read back

The text of a template, of a recorded request, of a response and of the settings of a transport is
read as the value that it was written from, whatever strings, bytes and numbers that value holds. A
template has to fit into the nesting that a reader allows, and the JSON value of its body has to be
one that a text gives exactly. Fields under other names in the text change nothing.
-/
namespace ApiSuite

/-- The written value is read as what it was written from, by itself and with other fields in it. -/
structure Json.Record.ReadsBack {α : Type} (r : Json.Record α) (v : Json) (x : α) : Prop where
  text : (Json.Decoder.record r).parse v.render = .ok x
  extended : ∀ own fields, v = .obj own → r.Extends own fields →
    (Json.Decoder.record r).parse (Json.obj fields).render = .ok x

theorem Json.Record.Runs.readsBack {α : Type} {r : Json.Record α} {n : Nat}
    {own : List (String × Json)} {x : α} (h : r.Runs n [] r.blank own x)
    (hstrict : r.strict = false) (hn : n + 1 ≤ Json.maxDepth) : r.ReadsBack (.obj own) x := by
  refine ⟨h.recovers.parse_render hn, fun _ fields hown he => ?_⟩
  cases hown
  exact (h.extends hstrict he).recovers.parse_render hn

open Json Json.Decoder

theorem Method.recovers (m : Method) : Method.decoder.Recovers 0 m.toJson m := by
  cases m <;> exact recovers_choice_alone rfl rfl

theorem Headers.recovers (headers : List (String × String)) :
    Headers.decoder.Recovers 2 (Headers.toJson headers) headers := by
  refine recovers_listOf (List.forall₂_map_left_iff.2 (List.forall₂_same.2 fun h _ => ?_))
  exact (recovers_string h.1).pair (recovers_string h.2)

theorem BodyTemplate.recovers_raw (text : String) :
    BodyTemplate.decoder.Recovers 1 (BodyTemplate.raw text).toJson (.raw text) :=
  Recovers.choice_payload rfl ((recovers_string text).map raw)

theorem BodyTemplate.recovers_json {v : Json} (hc : v.Canonical) (hi : v.Integral) :
    BodyTemplate.decoder.Recovers (v.depth + 1) (BodyTemplate.json v).toJson (.json v) :=
  Recovers.choice_payload rfl ((Decoder.recovers_json hc hi).map json)

/-- The JSON value of the body is one that a text gives exactly: its objects are maps, with their
keys in order, and its numbers are integers of 64 bits, with a sign or without. -/
def Template.BodyExact (t : Template) : Prop :=
  ∀ v, t.body = some (.json v) → v.Canonical ∧ v.Integral

theorem Template.recovers_body {t : Template} (ht : t.BodyExact) {n : Nat} (hn : 1 ≤ n)
    (hd : ∀ v, t.body = some (.json v) → v.depth + 1 ≤ n) :
    (Decoder.option BodyTemplate.decoder).Recovers n (t.body.elim .null BodyTemplate.toJson)
      t.body := by
  cases hbody : t.body with
  | none => exact (recovers_option_none _).mono (Nat.zero_le n)
  | some b => cases b with
    | raw text => exact ((BodyTemplate.recovers_raw text).mono hn).option_some nofun
    | json v =>
      obtain ⟨hc, hi⟩ := ht v hbody
      exact ((BodyTemplate.recovers_json hc hi).mono (hd v hbody)).option_some nofun

theorem Template.toJson_eq (t : Template) :
    t.toJson = .obj [("method", t.method.toJson), ("url", .str t.url),
      ("headers", Headers.toJson t.headers),
      ("body", t.body.elim .null BodyTemplate.toJson)] := by
  rw [toJson]
  cases t.body <;> rfl

theorem Template.readsBack {t : Template} (ht : t.BodyExact) (hd : t.toJson.depth ≤ maxDepth) :
    Template.record.ReadsBack t.toJson t := by
  have hdepth : ∀ v, t.body = some (.json v) → v.depth + 1 ≤ 126 := by
    intro v hv
    rw [t.toJson_eq, hv] at hd
    simp only [depth, depthFields, Option.elim_some, BodyTemplate.toJson, maxDepth] at hd
    omega
  have hbody := t.recovers_body ht (by decide) hdepth
  have hruns : Template.record.Runs 126 [] Template.record.blank
      [("method", t.method.toJson), ("url", .str t.url), ("headers", Headers.toJson t.headers),
        ("body", t.body.elim .null BodyTemplate.toJson)] t :=
    .known rfl rfl ((t.method.recovers.mono (by decide)).map _) <|
      .known rfl rfl (((recovers_string t.url).mono (by decide)).map _) <|
      .known rfl rfl (((Headers.recovers t.headers).mono (by decide)).map _) <|
      .known rfl rfl (hbody.map _) <| .finish rfl
  rw [t.toJson_eq]
  exact hruns.readsBack rfl (Nat.le_refl _)

theorem RecordedRequest.toJson_eq (r : RecordedRequest) :
    r.toJson = .obj [("id", .str r.id), ("method", r.request.method.toJson),
      ("url", .str r.request.url), ("headers", Headers.toJson r.request.headers),
      ("body", r.request.body.elim .null .str)] := by
  rw [toJson]
  cases r.request.body <;> rfl

theorem RecordedRequest.readsBack (r : RecordedRequest) :
    RecordedRequest.record.ReadsBack r.toJson r := by
  have hbody : (Decoder.option Decoder.string).Recovers 0 (r.request.body.elim .null .str)
      r.request.body := by
    cases r.request.body with
    | none => exact recovers_option_none _
    | some text => exact (recovers_string text).option_some nofun
  have hruns : RecordedRequest.record.Runs 2 [] RecordedRequest.record.blank
      [("id", .str r.id), ("method", r.request.method.toJson), ("url", .str r.request.url),
        ("headers", Headers.toJson r.request.headers),
        ("body", r.request.body.elim .null .str)] r :=
    .known rfl rfl (((recovers_string r.id).mono (by decide)).map _) <|
      .known rfl rfl ((r.request.method.recovers.mono (by decide)).map _) <|
      .known rfl rfl (((recovers_string r.request.url).mono (by decide)).map _) <|
      .known rfl rfl ((Headers.recovers r.request.headers).map _) <|
      .known rfl rfl ((hbody.mono (by decide)).map _) <| .finish rfl
  rw [r.toJson_eq]
  exact hruns.readsBack rfl (by decide)

namespace Duration

variable {d : Duration}

theorem overflow?_eq_none (h : d.nanoseconds.toNat < nanosecondsPerSecond) :
    d.overflow? = none := by
  have hseconds : d.seconds.toNat < Nat.pow 2 64 := d.seconds.toNat_lt
  rw [overflow?, Nat.div_eq_of_lt h, Nat.add_zero, if_pos hseconds]

theorem normalize_eq (h : d.nanoseconds.toNat < nanosecondsPerSecond) : d.normalize = d := by
  have hdiv : d.nanoseconds / 1000000000 = 0 := by
    rw [← UInt32.toNat_inj, UInt32.toNat_div]
    exact Nat.div_eq_of_lt h
  have hmod : d.nanoseconds % 1000000000 = d.nanoseconds := by
    rw [← UInt32.toNat_inj, UInt32.toNat_mod]
    exact Nat.mod_eq_of_lt h
  have hseconds : d.seconds + (0 : UInt32).toUInt64 = d.seconds := UInt64.add_zero d.seconds
  rw [normalize, hdiv, hmod, hseconds]

theorem recovers (h : d.nanoseconds.toNat < nanosecondsPerSecond) :
    decoder.Recovers 1 d.toJson d := by
  have hfinish : record.finish ["nanos", "secs"] d = .ok d :=
    Record.finish_eq_ok rfl (overflow?_eq_none h)
  have hruns : record.Runs 0 [] record.blank
      [("secs", .num (.int d.seconds.toNat)), ("nanos", .num (.int d.nanoseconds.toNat))] d :=
    .known rfl rfl ((recovers_uint64 d.seconds).map _) <|
      .known rfl rfl ((recovers_uint32 d.nanoseconds).map _) <| .finish hfinish
  have hd := hruns.recovers.map normalize
  rwa [normalize_eq h] at hd

end Duration

namespace Response

variable (r : Response)

/-- The response written with its headers listed in some order. -/
def toJsonListing (listing : List (String × String)) : Json :=
  .obj [("status_code", .num (.int r.status.toNat)), ("status_text", .str r.statusText),
    ("headers", .obj (listing.map fun h => (h.1, .str h.2))),
    ("body", .arr (r.body.map fun b => .num (.int b.toNat))), ("duration", r.duration.toJson)]

theorem toJson_eq : r.toJson = r.toJsonListing r.headers.entries := rfl

theorem readsBack (hduration : r.duration.nanoseconds.toNat < Duration.nanosecondsPerSecond)
    {listing : List (String × String)} (hlisting : listing.Perm r.headers.entries) :
    record.ReadsBack (r.toJsonListing listing) r := by
  have hheaders : (mapOf string).Recovers 1 (.obj (listing.map fun h => (h.1, .str h.2)))
      r.headers := by
    rw [← r.headers.ofList_of_perm hlisting]
    exact recovers_mapOf (List.forall₂_map_left_iff.2
      (List.forall₂_same.2 fun h _ => ⟨rfl, recovers_string h.2⟩))
  have hbody : (listOf uint8).Recovers 1 (.arr (r.body.map fun b => .num (.int b.toNat)))
      r.body :=
    recovers_listOf (List.forall₂_map_left_iff.2 (List.forall₂_same.2 fun b _ => recovers_uint8 b))
  have hruns : record.Runs 1 [] record.blank
      [("status_code", .num (.int r.status.toNat)), ("status_text", .str r.statusText),
        ("headers", .obj (listing.map fun h => (h.1, .str h.2))),
        ("body", .arr (r.body.map fun b => .num (.int b.toNat))),
        ("duration", r.duration.toJson)] r :=
    .known rfl rfl (((recovers_uint16 r.status).mono (by decide)).map _) <|
      .known rfl rfl (((recovers_string r.statusText).mono (by decide)).map _) <|
      .known rfl rfl (hheaders.map _) <| .known rfl rfl (hbody.map _) <|
      .known rfl rfl ((Duration.recovers hduration).map _) <| .finish rfl
  exact hruns.readsBack rfl (by decide)

end Response

theorem Execution.readsBack (e : Execution) : Execution.record.ReadsBack e.toJson e := by
  have hruns : Execution.record.Runs 0 [] Execution.record.blank
      [("timeout_ms", .num (.int e.timeout.toNat)), ("follow_redirects", .bool e.followRedirects),
        ("validate_ssl", .bool e.validateSsl)] e :=
    .known rfl rfl ((recovers_uint64 e.timeout).map _) <|
      .known rfl rfl ((recovers_bool e.followRedirects).map _) <|
      .known rfl rfl ((recovers_bool e.validateSsl).map _) <| .finish rfl
  exact hruns.readsBack rfl (by decide)

/-- Template, recorded request, response and transport settings are what their texts are read as.
A response may list its headers in any order. -/
theorem records_read_back :
    (∀ t : Template, t.BodyExact → t.toJson.depth ≤ maxDepth →
      Template.record.ReadsBack t.toJson t) ∧
    (∀ r : RecordedRequest, RecordedRequest.record.ReadsBack r.toJson r) ∧
    (∀ r : Response, r.duration.nanoseconds.toNat < Duration.nanosecondsPerSecond →
      Response.record.ReadsBack r.toJson r ∧
      ∀ listing : List (String × String), listing.Perm r.headers.entries →
        Response.record.ReadsBack (r.toJsonListing listing) r) ∧
    ∀ e : Execution, Execution.record.ReadsBack e.toJson e := by
  refine ⟨fun t => t.readsBack, RecordedRequest.readsBack, fun r hr => ⟨?_, fun listing => ?_⟩,
    Execution.readsBack⟩
  · rw [r.toJson_eq]
    exact r.readsBack hr (List.Perm.refl r.headers.entries)
  · exact r.readsBack hr

/-- A repeated header and the JSON body null, in a text with a field that no template has; and a
response that does not list its headers in order. -/
theorem null_body_and_listed_headers_read_back :
    Template.decoder.parse ("\x7b\"method\":\"POST\",\"note\":[0.5],\"url\":\"/\"," ++
        "\"headers\":[[\"a\",\"1\"],[\"a\",\"2\"]],\"body\":\x7b\"Json\":null\x7d\x7d") =
      .ok ⟨.post, "/", [("a", "1"), ("a", "2")], some (.json .null)⟩ ∧
    Response.decoder.parse ("\x7b\"status_code\":200,\"status_text\":\"OK\"," ++
        "\"headers\":\x7b\"b\":\"2\",\"a\":\"1\"\x7d,\"body\":[0,255]," ++
        "\"duration\":\x7b\"secs\":1,\"nanos\":5\x7d\x7d") =
      .ok ⟨200, "OK", .ofList [("a", "1"), ("b", "2")], [0, 255], ⟨1, 5⟩⟩ := by
  constructor
  · let t : Template := ⟨.post, "/", [("a", "1"), ("a", "2")], some (.json .null)⟩
    let fields : List (String × Json) := [("method", .str "POST"),
      ("note", .arr [.num (.real ⟨false, Nat.pow 2 52, -53⟩)]), ("url", .str "/"),
      ("headers", Headers.toJson [("a", "1"), ("a", "2")]), ("body", .obj [("Json", .null)])]
    have hexact : t.BodyExact := by
      intro v hv
      cases hv
      exact ⟨trivial, trivial⟩
    have hread : Template.record.ReadsBack t.toJson t := records_read_back.1 t hexact (by decide)
    have hnote : ∀ f ∈ Template.record.fields, f.name ≠ "note" := by decide
    refine (congrArg Template.decoder.parse ?_).trans (hread.extended _ fields rfl
      (.own _ (.other _ hnote (.own _ (.own _ (.own _ .nil))))))
    decide +kernel
  · let r : Response := ⟨200, "OK", .ofList [("a", "1"), ("b", "2")], [0, 255], ⟨1, 5⟩⟩
    have hread : Response.record.ReadsBack (r.toJsonListing [("b", "2"), ("a", "1")]) r :=
      (records_read_back.2.2.1 r (by decide)).2 _ (.swap _ _ _)
    refine (congrArg Response.decoder.parse ?_).trans hread.text
    decide +kernel

end ApiSuite
