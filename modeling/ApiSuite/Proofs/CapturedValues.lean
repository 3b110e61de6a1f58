import ApiSuite.Fixture.User
import ApiSuite.Proofs.Insertion
import ApiSuite.Proofs.RoundTrip
import ApiSuite.Proofs.SessionRun
import Mathlib.Logic.Relation

/-! # Captured values in later requests

A value that a capture reads is bound as a text and stays bound as long as nothing writes to its
variable. Every request that is built until then has this text in the place of the variable, even
when the text looks like a placeholder itself. The token of a login is such a value.
-/
namespace ApiSuite

/-- The text that a value of a response is bound as. -/
inductive CapturedText (r : Response) : CaptureSource → String → Prop
  | header {name value : String} (h : r.header? name = some value) :
    CapturedText r (.header name) value
  | string {path : JsonPath} {v : Json} {text : String} (hv : r.json = .ok v)
    (h : path.evaluate v = .ok (.str text)) : CapturedText r (.json path) text
  | null {path : JsonPath} {v : Json} (hv : r.json = .ok v) (h : path.evaluate v = .ok .null) :
    CapturedText r (.json path) "null"
  | other {path : JsonPath} {v w : Json} (hv : r.json = .ok v) (h : path.evaluate v = .ok w)
    (hnull : w ≠ .null) (hstr : ∀ text, w ≠ .str text) : CapturedText r (.json path) w.render

theorem Capture.capturedText_of_extract {c : Capture} {r : Response} {v : Json}
    (h : c.extract r = .ok v) : CapturedText r c.source (Binding.ofJson v).substitutionText := by
  unfold extract at h
  split at h
  · rename_i name hsource
    rw [hsource]
    split at h
    · rename_i value hvalue
      obtain rfl := Except.ok.inj h
      exact .header hvalue
    · cases h
  · rename_i path hsource
    rw [hsource]
    split at h
    · cases h
    · rename_i doc hdoc
      cases v with
      | null => exact .null hdoc h
      | str text => exact .string hdoc h
      | bool _ => exact .other hdoc h nofun nofun
      | num _ => exact .other hdoc h nofun nofun
      | arr _ => exact .other hdoc h nofun nofun
      | obj _ => exact .other hdoc h nofun nofun

/-- Later steps of putting a template together keep its headers where they are. -/
theorem Template.headers_prefix_applyAll (t : Template) (steps : List Template.Step) :
    t.headers <+: (t.applyAll steps).headers := by
  induction steps generalizing t with
  | nil => exact List.prefix_refl _
  | cons step rest ih =>
    refine List.IsPrefix.trans ?_ (ih (t.apply step))
    cases step with
    | header name value => exact List.prefix_append _ _
    | bearer name => exact List.prefix_append _ _
    | raw text => exact List.prefix_refl _
    | json v =>
      rw [apply, jsonBody]
      split
      · exact List.prefix_refl _
      · exact List.prefix_append _ _

namespace Piece

theorem placeholders_bearer {name : String} (htrim : Text.trim name.toList = name.toList)
    (hinner : ∀ c ∈ name.toList, isInner c = true) :
    placeholders ("Bearer \x7b\x7b" ++ name ++ "\x7d\x7d") = [name] := by
  have hlead : ∀ c ∈ "Bearer ".toList, c ≠ '\x7b' := by simp
  have hnone : "Bearer ".toList.filterMap (name? ∘ literal) = [] :=
    List.filterMap_eq_nil_iff.2 fun _ _ => rfl
  have hscan : scan ("Bearer \x7b\x7b" ++ name ++ "\x7d\x7d").toList = _ :=
    scan_hole_behind "Bearer " hlead hinner
  rw [placeholders, hscan, List.filterMap_append, List.filterMap_map, hnone]
  exact congrArg (· :: []) (nameOf_toList htrim)

end Piece

namespace Store

variable (s : Store)

theorem filled_bearer {name token : String} (htrim : Text.trim name.toList = name.toList)
    (hinner : ∀ c ∈ name.toList, Piece.isInner c = true)
    (hb : s.binding? name = some (.text token)) :
    s.filled ("Bearer \x7b\x7b" ++ name ++ "\x7d\x7d") = "Bearer " ++ token := by
  have hlead : ∀ c ∈ "Bearer ".toList, c ≠ '\x7b' := by simp
  exact s.filled_hole_behind "Bearer " hlead htrim hinner hb

end Store

namespace RequestBuilder

variable (b : RequestBuilder)

theorem missing_eq_nil_iff {t : Template} :
    b.missing t = [] ↔
      ∀ text ∈ b.texts t, ∀ name ∈ placeholders text, b.store.contains name = true := by
  unfold missing
  rw [Store.unset_eq_nil_iff, Store.unbound_eq_nil_iff]
  simp only [List.mem_flatMap, forall_exists_index, and_imp]
  exact ⟨fun h text ht name hn => h name text ht hn, fun h name text ht hn => h text ht name hn⟩

/-- An authorization by a bound variable adds nothing that is missing. -/
theorem missing_bearer {t : Template} {name : String}
    (htrim : Text.trim name.toList = name.toList)
    (hinner : ∀ c ∈ name.toList, Piece.isInner c = true) (hb : b.store.contains name = true)
    (h : b.missing t = []) : b.missing (t.bearer name) = [] := by
  rw [missing_eq_nil_iff] at h ⊢
  intro text ht n hn
  simp only [texts, Template.bearer, Template.header, List.mem_append, List.mem_cons,
    List.map_append, List.map_cons, List.map_nil, List.not_mem_nil, or_false] at ht
  rcases ht with ((rfl | ht | rfl) | ht) | ht
  · exact h _ (by simp [texts]) n hn
  · exact h _ (by simp [texts, ht]) n hn
  · rw [Piece.placeholders_bearer htrim hinner] at hn
    obtain rfl := List.mem_singleton.1 hn
    exact hb
  · obtain ⟨d, hd, rfl⟩ := List.mem_map.1 ht
    obtain ⟨hmem, hown⟩ := List.mem_filter.1 hd
    have hown' : Headers.has t.headers d.1 = false := by
      rw [Headers.has_append, Bool.not_eq_true', Bool.or_eq_false_iff] at hown
      exact hown.1
    have hdefault : d.2 ∈ b.texts t := by
      have : d ∈ b.ownDefaults t := List.mem_filter.2 ⟨hmem, by rw [hown']; rfl⟩
      simp only [texts, List.mem_append]
      exact .inl (.inr (List.mem_map_of_mem this))
    exact h _ hdefault n hn
  · exact h _ (by simp [texts, ht]) n hn

theorem headers_filledRequest_bearer {t : Template} {name token : String}
    (more : List Template.Step) (htrim : Text.trim name.toList = name.toList)
    (hinner : ∀ c ∈ name.toList, Piece.isInner c = true)
    (hb : b.store.binding? name = some (.text token)) :
    (b.filledRequest ((t.bearer name).applyAll more)).headers[t.headers.length]? =
      some ("Authorization", "Bearer " ++ token) := by
  obtain ⟨rest, hrest⟩ := Template.headers_prefix_applyAll (t.bearer name) more
  have hall : b.allHeaders ((t.bearer name).applyAll more) =
      t.headers ++ ("Authorization", "Bearer \x7b\x7b" ++ name ++ "\x7d\x7d") ::
        (rest ++ Headers.novel ((t.bearer name).applyAll more).headers b.defaultHeaders) := by
    rw [allHeaders, ← hrest]
    simp [Template.bearer, Template.header]
  change ((b.allHeaders _).map b.filledHeader)[t.headers.length]? = _
  rw [hall, List.getElem?_map, List.getElem?_append_right (Nat.le_refl _), Nat.sub_self]
  exact congrArg (fun v => some ("Authorization", v)) (b.store.filled_bearer htrim hinner hb)

end RequestBuilder

namespace Session

variable {σ : Type} (s : Session σ)

theorem capture_eq_ok_iff {captures : List Capture} {now next : SessionState σ}
    {response answer : Response} :
    capture answer captures now = (next, .ok response) ↔
      answer = response ∧
        ∃ store, Capture.applyAll answer now.store captures = (store, .ok ()) ∧
          next = { now with store } := by
  unfold capture
  cases happlied : Capture.applyAll answer now.store captures with
  | mk store result =>
    cases result with
    | error e => simp
    | ok _ => simp [and_comm, eq_comm]

theorem sendAndCapture_eq_ok_iff {t : Template} {captures : List Capture}
    {now next : SessionState σ} {response : Response} :
    s.sendAndCapture t captures now = (next, .ok response) ↔
      ∃ r store, ((s.builder now.store).build t).outcome = .ok r ∧
        (s.transport now.remote r).2 = .ok response ∧ response.isSuccess = true ∧
        Capture.applyAll response now.store captures = (store, .ok ()) ∧
        next = ⟨store, now.sent ++ [r], (s.transport now.remote r).1⟩ := by
  constructor
  · intro h
    cases hb : ((s.builder now.store).build t).outcome with
    | error e =>
      rw [s.sendAndCapture_eq_of_refused captures hb] at h
      cases h
    | ok r =>
      rw [s.sendAndCapture_eq_of_built captures hb] at h
      split at h
      · cases h
      · rename_i answer hreply
        split at h
        · cases h
        · rename_i hexpect
          obtain ⟨rfl, store, happlied, rfl⟩ := capture_eq_ok_iff.1 h
          exact ⟨r, store, rfl, hreply, Response.expectSuccess_eq_ok_iff.1 hexpect, happlied, rfl⟩
  · rintro ⟨r, store, hb, hreply, hs, happlied, rfl⟩
    rw [s.sendAndCapture_eq_of_built captures hb, hreply]
    dsimp only
    rw [Response.expectSuccess_eq_ok_iff.2 hs]
    exact capture_eq_ok_iff.2 ⟨rfl, store, happlied, rfl⟩

theorem sendAndRead_eq_ok_iff {t : Template} {c : Capture} {now next : SessionState σ}
    {text : String} :
    s.sendAndRead t c now = (next, .ok text) ↔
      (∃ response, s.sendAndCapture t [c] now = (next, .ok response)) ∧
        next.store.binding? c.variableName = some (.text text) := by
  rw [← Store.get?_eq_some_iff, sendAndRead]
  constructor
  · intro h
    split at h
    · cases h
    · rename_i state response hsent
      obtain ⟨rfl, hread⟩ := Prod.mk.inj h
      refine ⟨⟨response, hsent⟩, ?_⟩
      split at hread
      · rename_i value hget
        rw [hget, Except.ok.inj hread]
      · cases hread
  · rintro ⟨⟨response, hsent⟩, hget⟩
    rw [hsent]
    dsimp only
    rw [hget]

/-- What can happen on a session without writing to a name: a step, or a write of another name. -/
inductive Spares (name : String) (now : SessionState σ) : SessionState σ → Prop
  | step (step : Step) (h : ∀ e ∈ s.written now step, e.1 ≠ name) :
    Spares name now (s.perform now step)
  | write {other : String} (b : Binding) (h : other ≠ name) :
    Spares name now { now with store := now.store.bind other b }

theorem binding?_of_spares {name : String} {now next : SessionState σ}
    (h : s.Spares name now next) : next.store.binding? name = now.store.binding? name := by
  cases h with
  | step step h => rw [store_perform, Store.binding?_setManyJson_of_forall_ne _ h]
  | write b h => rw [Store.binding?_bind, if_neg h]

theorem binding?_of_sparing {name : String} {now later : SessionState σ}
    (h : Relation.ReflTransGen (s.Spares name) now later) :
    later.store.binding? name = now.store.binding? name := by
  induction h with
  | refl => rfl
  | tail _ hstep ih => exact (s.binding?_of_spares hstep).trans ih

/-- The variable that a successful step captures last from a response is inserted as the captured
text in every request that is built before something writes to it again. A token that a login gives
authorizes every such request that asks for it, and never keeps one from being built. -/
theorem captured_text_inserted {name : String} (htrim : Text.trim name.toList = name.toList)
    (hinner : ∀ c ∈ name.toList, Piece.isInner c = true) :
    (∀ t before c after now next response,
      s.sendAndCapture t (before ++ c :: after) now = (next, .ok response) →
      c.variableName = name → (∀ d ∈ after, d.variableName ≠ name) →
      ∃ text, CapturedText response c.source text ∧
        ∀ later, Relation.ReflTransGen (s.Spares name) next later →
          ∀ u r, ((s.builder later.store).build u).outcome = .ok r →
            (s.builder later.store).Textwise u (Inserts name text) r) ∧
    ∀ email password now next token,
      User.login s email password name now = (next, .ok token) →
      ∀ later, Relation.ReflTransGen (s.Spares name) next later →
        (∀ (u : Template) more r,
          ((s.builder later.store).build ((u.bearer name).applyAll more)).outcome = .ok r →
            r.headers[u.headers.length]? = some ("Authorization", "Bearer " ++ token)) ∧
        ∀ u, (later.store.policy = .fail → (s.builder later.store).missing u = []) →
          ∃ r, ((s.builder later.store).build (u.bearer name)).outcome = .ok r := by
  constructor
  · rintro t before c after now next response h rfl hlast
    obtain ⟨sent, store, -, -, -, happlied, rfl⟩ := s.sendAndCapture_eq_ok_iff.1 h
    obtain ⟨v, hv, hbound⟩ := Capture.exists_binding?_applyAll response happlied hlast
    refine ⟨(Binding.ofJson v).substitutionText, Capture.capturedText_of_extract hv, ?_⟩
    intro later hlater u r hr
    have hx := (s.binding?_of_sparing hlater).trans hbound
    exact (s.builder later.store).textwise_inserts u htrim hinner hx hr
  · intro email password now next token h later hlater
    obtain ⟨-, hbound⟩ := s.sendAndRead_eq_ok_iff.1 h
    have hx : (s.builder later.store).store.binding? name = some (.text token) :=
      (s.binding?_of_sparing hlater).trans hbound
    refine ⟨fun u more r hr => ?_, fun u hmissing => ?_⟩
    · rw [← RequestBuilder.filledRequest_of_outcome_build _ _ hr]
      exact (s.builder later.store).headers_filledRequest_bearer more htrim hinner hx
    · have hcontains : (s.builder later.store).store.contains name = true := by
        rw [Store.contains_eq_isSome, hx, Option.isSome]
      exact ⟨_, RequestBuilder.outcome_build _ _ fun hp =>
        (s.builder later.store).missing_bearer htrim hinner hcontains (hmissing hp)⟩

/-- A token that looks like a placeholder is captured over an earlier value, and goes into later
requests as it is, also after the name in it has been bound. -/
theorem captured_placeholder_inserted :
    let token := "\x7b\x7by\x7d\x7d"
    let doc : Json := .obj [("access_token", .str token)]
    let response : Response := { (Response.new 200 "OK").addHeader "x" "0" with
      body := doc.render.toList.map fun c => c.toNat.toUInt8 }
    let s : Session (List Reply) := ⟨none, [("X", "\x7b\x7b tok \x7d\x7d")], Transport.prepared⟩
    let start : SessionState (List Reply) := ⟨(Store.new .fail).set "tok" "", [], [.ok response]⟩
    let c : Capture := ⟨"tok", .json User.tokenPath⟩
    let bound := (Store.new .fail).set "tok" token
    let next : SessionState (List Reply) := ⟨bound, [⟨.get, "/", [("X", "")], none⟩], []⟩
    let later : SessionState (List Reply) := { next with store := next.store.bind "y" .null }
    let u : Template := .new .get "/\x7b\x7b\ttok\x7d\x7d"
    let r : Request := ⟨.get, "/" ++ token, [("X", token)], none⟩
    let credentials : Request := ⟨.post, "/auth/token", [("Content-Type", "application/json"),
      ("X", "")], some "\x7b\"email\":\"a\",\"password\":\"b\"\x7d"⟩
    let loggedIn : SessionState (List Reply) := ⟨bound, [credentials], []⟩
    let authorized : Request :=
      ⟨.get, "/", [("Authorization", "Bearer " ++ token), ("X", "1")], none⟩
    s.sendAndCapture (.new .get "/") ([.header "tok" "x"] ++ c :: []) start =
        (next, .ok response) ∧
      ((s.builder later.store).build u).outcome = .ok r ∧
      (∃ text, CapturedText response c.source text ∧
        (s.builder later.store).Textwise u (Inserts "tok" text) r) ∧
      User.login s "a" "b" "tok" start = (loggedIn, .ok token) ∧
      ((s.builder bound).build
        (((Template.new .get "/").bearer "tok").applyAll [.header "X" "1"])).outcome =
          .ok authorized ∧
      authorized.headers[0]? = some ("Authorization", "Bearer " ++ token) := by
  intro token doc response s start c bound
  have hbytes : Text.decode response.body = Text.symbols doc.render.toList := by decide +kernel
  have hjson : response.json = .ok doc := by
    rw [Response.json, Json.parseBytes, hbytes]
    exact Json.parse_render ⟨by decide, trivial, trivial⟩ ⟨trivial, trivial⟩ (by decide)
  have hvalue : c.extract response = .ok (.str token) := by
    rw [Capture.extract, hjson]
    rfl
  have happlied : Capture.applyAll response start.store [c] = (bound, .ok ()) := by
    rw [Capture.applyAll, hvalue]
    exact Prod.ext (by decide) rfl
  have htwice : Capture.applyAll response start.store [.header "tok" "x", c] =
      (bound, .ok ()) := by
    have hheader : (Capture.header "tok" "x").extract response = .ok (.str "0") := rfl
    rw [Capture.applyAll, hheader]
    dsimp only
    rw [Capture.applyAll, hvalue]
    exact Prod.ext (by decide) rfl
  intro next later u r credentials loggedIn authorized
  have hfirst : ((s.builder start.store).build (.new .get "/")).outcome =
      .ok ⟨.get, "/", [("X", "")], none⟩ :=
    RequestBuilder.outcome_build_eq _ _ (by decide +kernel) (by decide +kernel)
  have hsent : s.sendAndCapture (.new .get "/") ([.header "tok" "x"] ++ c :: []) start =
      (next, .ok response) :=
    s.sendAndCapture_eq_ok_iff.2 ⟨_, _, hfirst, rfl, rfl, htwice, rfl⟩
  have hlater : Relation.ReflTransGen (s.Spares "tok") next later :=
    .single (.write .null (by decide))
  have hbuild : ((s.builder later.store).build u).outcome = .ok r :=
    RequestBuilder.outcome_build_eq _ _ (by decide +kernel) (by decide +kernel)
  have hrequest : ((s.builder start.store).build (User.credentials "a" "b")).outcome =
      .ok credentials :=
    RequestBuilder.outcome_build_eq _ _ (by decide +kernel) (by decide +kernel)
  have hlogin : User.login s "a" "b" "tok" start = (loggedIn, .ok token) := by
    refine s.sendAndRead_eq_ok_iff.2 ⟨⟨response, ?_⟩, by decide⟩
    exact s.sendAndCapture_eq_ok_iff.2 ⟨_, _, hrequest, rfl, rfl, happlied, rfl⟩
  have hbearer : ((s.builder bound).build
      (((Template.new .get "/").bearer "tok").applyAll [.header "X" "1"])).outcome =
        .ok authorized :=
    RequestBuilder.outcome_build_eq _ _ (by decide +kernel) (by decide +kernel)
  have htrim : Text.trim "tok".toList = "tok".toList := by decide
  have hinner : ∀ ch ∈ "tok".toList, Piece.isInner ch = true := List.all_eq_true.1 (by decide)
  obtain ⟨hcaptured, hauthorized⟩ := s.captured_text_inserted htrim hinner
  obtain ⟨text, htext, hinserts⟩ := hcaptured _ _ _ _ _ _ _ hsent rfl
    fun _ hd => absurd hd List.not_mem_nil
  refine ⟨hsent, hbuild, ⟨text, htext, hinserts later hlater u r hbuild⟩, hlogin, hbearer, ?_⟩
  exact (hauthorized _ _ _ _ _ hlogin loggedIn .refl).1 (.new .get "/") _ _ hbearer

end Session

end ApiSuite
