import ApiSuite.Proofs.BuildPass
import Mathlib.Data.List.Forall2

/-! # The request that a build gives

A build either is refused because names are unset, which only the failing policy does, or gives the
one request that the template and the store determine part by part. The same template gives the same
request under every policy when nothing is missing.
-/
namespace ApiSuite

/-- A URL completed by an optional base. Only a URL that starts with a slash is, and the slashes at
the end of the base are left out. -/
structure Completed (base : Option String) (url completed : String) : Prop where
  joined : ∀ text, url.toList.head? = some '/' → base = some text →
    ∃ stem slashes, text.toList = stem ++ slashes ∧ (∀ c ∈ slashes, c = '/') ∧
      stem.getLast? ≠ some '/' ∧ completed.toList = stem ++ url.toList
  kept : url.toList.head? ≠ some '/' ∨ base = none → completed = url

/-- The body of a request that a body template gives. -/
inductive BodyOf (s : Store) : Option BodyTemplate → Option String → Prop
  | none : BodyOf s none none
  | raw {text filled : String} (h : (s.substitute text).outcome = .ok filled) :
    BodyOf s (some (.raw text)) (some filled)
  | json {value filled : Json} (h : (s.substituteJson value).outcome = .ok filled) :
    BodyOf s (some (.json value)) (some filled.render)

theorem stem_unique {stem slashes stem' slashes' : List Char}
    (h : stem ++ slashes = stem' ++ slashes') (hs : ∀ c ∈ slashes, c = '/')
    (hs' : ∀ c ∈ slashes', c = '/') (hl : stem.getLast? ≠ some '/')
    (hl' : stem'.getLast? ≠ some '/') : stem = stem' := by
  have hdrop : ∀ stem slashes : List Char, (∀ c ∈ slashes, c = '/') → stem.getLast? ≠ some '/' →
      (stem ++ slashes).reverse.dropWhile (· == '/') = stem.reverse := by
    intro stem slashes hs hl
    rw [List.reverse_append, List.dropWhile_append_of_pos (by simpa using hs)]
    rw [← List.head?_reverse] at hl
    cases hr : stem.reverse with
    | nil => rfl
    | cons c rest =>
      rw [hr] at hl
      exact List.dropWhile_cons_of_neg (by simpa using hl)
  have hrev := hdrop stem slashes hs hl
  rw [h, hdrop stem' slashes' hs' hl'] at hrev
  exact (List.reverse_injective hrev).symm

theorem Completed.unique {base : Option String} {url x y : String} (hx : Completed base url x)
    (hy : Completed base url y) : x = y := by
  by_cases h : url.toList.head? ≠ some '/' ∨ base = none
  · rw [hx.kept h, hy.kept h]
  · obtain ⟨hslash, hbase⟩ := not_or.1 h
    obtain ⟨text, ht⟩ := Option.ne_none_iff_exists'.1 hbase
    obtain ⟨stem, slashes, hsplit, hs, hl, hxs⟩ := hx.joined text (not_not.1 hslash) ht
    obtain ⟨stem', slashes', hsplit', hs', hl', hys⟩ := hy.joined text (not_not.1 hslash) ht
    have hstem : stem = stem' := stem_unique (hsplit.symm.trans hsplit') hs hs' hl hl'
    exact String.toList_injective (by rw [hxs, hys, hstem])

theorem BodyOf.unique {s : Store} {body : Option BodyTemplate} {x y : Option String}
    (hx : BodyOf s body x) (hy : BodyOf s body y) : x = y := by
  cases hx with
  | none => cases hy with | none => rfl
  | raw h => cases hy with | raw h' => rw [Except.ok.inj (h.symm.trans h')]
  | json h => cases hy with | json h' => rw [Except.ok.inj (h.symm.trans h')]

namespace RequestBuilder

variable (b : RequestBuilder) (t : Template)

/-- The base of relative URLs, as the bindings have it. -/
def relativeBase : Option String :=
  match b.store.binding? "server" with
  | some (.text value) => some value
  | _ => b.baseUrl

/-- The header is the other one with its value substituted. -/
def HeaderOf (h g : String × String) : Prop :=
  g.1 = h.1 ∧ (b.store.substitute h.2).outcome = .ok g.2

structure RequestOf (r : Request) : Prop where
  method_eq : r.method = t.method
  url : ∃ u, (b.store.substitute t.url).outcome = .ok u ∧ Completed b.relativeBase u r.url
  headers : List.Forall₂ b.HeaderOf (t.headers ++ Headers.novel t.headers b.defaultHeaders)
    r.headers
  body : BodyOf b.store t.body r.body

theorem base?_eq : b.base? = b.relativeBase := by
  unfold base? relativeBase Store.get? serverVariable
  cases b.store.binding? "server" with
  | none => rfl
  | some x => cases x <;> rfl

theorem completed_complete (url : String) : Completed b.relativeBase url (b.complete url) := by
  rw [← base?_eq]
  constructor
  · intro text hu hb
    let p : Char → Bool := (· == '/')
    refine ⟨(text.toList.reverse.dropWhile p).reverse, (text.toList.reverse.takeWhile p).reverse,
      ?_, ?_, ?_, ?_⟩
    · rw [← List.reverse_append, List.takeWhile_append_dropWhile, List.reverse_reverse]
    · intro c hc
      have hp := List.all_eq_true.1 List.all_takeWhile c (List.mem_reverse.1 hc)
      simpa [p] using hp
    · rw [List.getLast?_reverse]
      intro hh
      have hp := List.head?_dropWhile_not p text.toList.reverse
      rw [hh] at hp
      simp [p] at hp
    · unfold complete
      rw [if_pos hu, hb]
      simp [p, String.toList_append]
  · intro h
    unfold complete
    split
    · rename_i hu
      rcases h with h | h
      · exact absurd hu h
      · rw [h]
    · rfl

theorem RequestOf.unique {b : RequestBuilder} {t : Template} {r r' : Request}
    (h : b.RequestOf t r) (h' : b.RequestOf t r') : r = r' := by
  obtain ⟨u, hu, hurl⟩ := h.url
  obtain ⟨u', hu', hurl'⟩ := h'.url
  obtain rfl : u = u' := Except.ok.inj (hu.symm.trans hu')
  have hheader : Relator.RightUnique b.HeaderOf := by
    rintro d g g' ⟨hn, hv⟩ ⟨hn', hv'⟩
    exact Prod.ext (hn.trans hn'.symm) (Except.ok.inj (hv.symm.trans hv'))
  have hheaders : r.headers = r'.headers := hheader.forall₂ h.headers h'.headers
  have hmethod : r.method = r'.method := h.method_eq.trans h'.method_eq.symm
  have hcompleted : r.url = r'.url := hurl.unique hurl'
  have hbody : r.body = r'.body := h.body.unique h'.body
  cases r
  cases r'
  simp_all only

theorem outcome_substitute_of_sent (h : b.store.policy = .fail → b.missing t = []) {text : String}
    (ht : text ∈ b.sentTexts t) :
    (b.store.substitute text).outcome = .ok (b.store.filled text) := by
  rw [Store.substitute_eq]
  exact b.outcome_pass_of_sent t h (fun name hn => List.mem_flatMap.2 ⟨text, ht, hn⟩) _

theorem requestOf_filledRequest (h : b.store.policy = .fail → b.missing t = []) :
    b.RequestOf t (b.filledRequest t) where
  method_eq := rfl
  url := by
    have hurl := b.outcome_substitute_of_sent t h (b.url_mem_sentTexts t)
    exact ⟨_, hurl, b.completed_complete _⟩
  headers := by
    change List.Forall₂ b.HeaderOf (b.allHeaders t) ((b.allHeaders t).map b.filledHeader)
    rw [List.forall₂_map_right_iff, List.forall₂_same]
    intro d hd
    exact ⟨rfl, b.outcome_substitute_of_sent t h (b.mem_sentTexts_of_mem_allHeaders t hd)⟩
  body := by
    have hsent : ∀ text ∈ bodyTexts t.body, text ∈ b.sentTexts t := fun _ =>
      b.mem_sentTexts_of_mem_bodyTexts t
    change BodyOf b.store t.body (b.filledBody t.body)
    cases hb : t.body with
    | none => exact .none
    | some body =>
      rw [hb] at hsent
      cases body with
      | raw text =>
        exact .raw (b.outcome_substitute_of_sent t h (hsent text (by simp [bodyTexts])))
      | json value =>
        refine .json ?_
        rw [Store.substituteJson_eq]
        refine b.outcome_pass_of_sent t h (fun name hn => ?_) _
        obtain ⟨text, ht, hname⟩ := List.mem_flatMap.1 hn
        exact List.mem_flatMap.2 ⟨text, hsent text ht, hname⟩

theorem policy_of_outcome_build_ok {r : Request} (h : (b.build t).outcome = .ok r) :
    b.store.policy = .fail → b.missing t = [] := by
  intro hp
  cases hm : b.missing t with
  | nil => rfl
  | cons name more =>
    rw [b.build_refused t hp hm] at h
    cases h

theorem filledRequest_of_outcome_build {r : Request} (h : (b.build t).outcome = .ok r) :
    b.filledRequest t = r :=
  Except.ok.inj ((b.outcome_build t (b.policy_of_outcome_build_ok t h)).symm.trans h)

theorem outcome_build_eq {r : Request} (hm : b.missing t = []) (hr : b.filledRequest t = r) :
    (b.build t).outcome = .ok r := by
  rw [b.build_eq_of_missing_eq_nil t hm, hr]

theorem foldl_header (t : Template) (headers : List (String × String)) :
    headers.foldl (fun t h => t.header h.1 h.2) t =
      { t with headers := t.headers ++ headers } := by
  induction headers generalizing t with
  | nil => simp
  | cons h rest ih =>
    rw [List.foldl_cons, ih]
    simp [Template.header]

theorem buildParts_eq (method : Method) (url : String) (headers : List (String × String))
    (body : Option String) :
    b.buildParts method url headers body = b.build ⟨method, url, headers, body.map .raw⟩ := by
  unfold buildParts
  rw [foldl_header]
  cases body <;> rfl

/-- A build gives a request exactly when the check lets the template pass, and it is the one request
of the template. Building from parts is building the template of these parts with a raw body. -/
theorem build_determines_request :
    (∀ r : Request, (b.build t).outcome = .ok r ↔
      (b.store.policy = .fail → b.missing t = []) ∧ b.RequestOf t r) ∧
    ∀ (method : Method) (url : String) (headers : List (String × String)) (body : Option String),
      b.buildParts method url headers body = b.build ⟨method, url, headers, body.map .raw⟩ := by
  refine ⟨fun r => ⟨fun h => ?_, fun ⟨hpass, hr⟩ => ?_⟩, b.buildParts_eq⟩
  · have hpass := b.policy_of_outcome_build_ok t h
    have hr : b.filledRequest t = r := Except.ok.inj ((b.outcome_build t hpass).symm.trans h)
    exact ⟨hpass, hr ▸ b.requestOf_filledRequest t hpass⟩
  · rw [b.outcome_build t hpass, hr.unique (b.requestOf_filledRequest t hpass)]

/-- When nothing is missing a build gives the same request under all policies and is silent. When
something is missing the failing policy refuses the template by its first missing name with one
warning of all of them, and the other policies still give a request. -/
theorem build_under_policies :
    (b.missing t = [] →
      ∃ r, ∀ policy, (b.withPolicy policy).build t = ⟨[], .ok r⟩) ∧
    (∀ name more, b.missing t = name :: more →
      (b.withPolicy .fail).build t =
        ⟨[.unsetVariables (name :: more)], .error (.undefined name)⟩) ∧
    ∀ policy, policy ≠ .fail → ∃ r, ((b.withPolicy policy).build t).outcome = .ok r := by
  have hmissing : ∀ policy, (b.withPolicy policy).missing t = b.missing t := fun _ => rfl
  refine ⟨fun h => ⟨b.filledRequest t, fun policy => ?_⟩, fun name more h => ?_,
    fun policy hp => ⟨_, (b.withPolicy policy).outcome_build t fun h => absurd h hp⟩⟩
  · rw [(b.withPolicy policy).build_eq_of_missing_eq_nil t ((hmissing policy).trans h),
      b.filledRequest_withPolicy t policy h]
  · exact (b.withPolicy .fail).build_refused t rfl ((hmissing .fail).trans h)

end RequestBuilder

end ApiSuite
