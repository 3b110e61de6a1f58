import ApiSuite.Http.Template

/-! # Templates put together by steps

A header or bearer step appends one header, and a body step replaces the body. A JSON step also
appends a content type unless a header has that name already. Once it is there, whoever put it
there, no later step appends it again, so over a whole sequence only the first JSON step can.
-/
namespace ApiSuite.Template

def jsonContentType : String × String := ("Content-Type", "application/json")

namespace Step

def stated? : Step → Option (String × String)
  | header name value => some (name, value)
  | bearer tokenName => some ("Authorization", "Bearer \x7b\x7b" ++ tokenName ++ "\x7d\x7d")
  | raw _ => none
  | json _ => none

def body? : Step → Option BodyTemplate
  | header _ _ => none
  | bearer _ => none
  | raw text => some (.raw text)
  | json value => some (.json value)

def isJson : Step → Bool
  | json _ => true
  | _ => false

theorem isJson_iff {step : Step} : step.isJson = true ↔ ∃ value, step = .json value := by
  cases step <;> simp [isJson]

end Step

def stated (steps : List Step) : List (String × String) := steps.filterMap Step.stated?

theorem stated_cons (step : Step) (rest : List Step) :
    stated (step :: rest) = step.stated?.toList ++ stated rest := by
  unfold stated
  cases h : step.stated? with
  | none => rw [List.filterMap_cons_none h]; rfl
  | some e => rw [List.filterMap_cons_some h]; rfl

theorem bearer_ne_contentType : sameName "Authorization" "content-type" = false := by
  decide

/-- A stated content type is that of a header step, as bearer steps state another name. -/
theorem has_stated_iff {steps : List Step} :
    Headers.has (stated steps) "content-type" = true ↔
      ∃ name value, .header name value ∈ steps ∧ sameName name "content-type" = true := by
  constructor
  · intro h
    obtain ⟨e, he, hname⟩ := List.any_eq_true.1 h
    obtain ⟨step, hstep, hstated⟩ := List.mem_filterMap.1 he
    cases step with
    | header name value =>
      obtain rfl := Option.some.inj hstated
      exact ⟨name, value, hstep, hname⟩
    | bearer tokenName =>
      obtain rfl := Option.some.inj hstated
      rw [bearer_ne_contentType] at hname
      cases hname
    | raw text => cases hstated
    | json value => cases hstated
  · rintro ⟨name, value, hstep, hname⟩
    exact List.any_eq_true.2 ⟨(name, value), List.mem_filterMap.2 ⟨_, hstep, rfl⟩, hname⟩

variable (t : Template)

theorem applyAll_cons (step : Step) (rest : List Step) :
    t.applyAll (step :: rest) = (t.apply step).applyAll rest := rfl

theorem applyAll_append (steps more : List Step) :
    t.applyAll (steps ++ more) = (t.applyAll steps).applyAll more :=
  List.foldl_append

theorem method_apply (step : Step) : (t.apply step).method = t.method := by
  cases step with
  | json value => rw [apply, jsonBody]; split <;> rfl
  | _ => rfl

theorem url_apply (step : Step) : (t.apply step).url = t.url := by
  cases step with
  | json value => rw [apply, jsonBody]; split <;> rfl
  | _ => rfl

theorem body_apply (step : Step) : (t.apply step).body = step.body?.or t.body := by
  cases step <;> rfl

theorem headers_jsonBody (value : Json) :
    (t.jsonBody value).headers =
      if Headers.has t.headers "content-type" then t.headers
      else t.headers ++ [jsonContentType] := by
  unfold jsonBody
  split <;> rfl

/-- A step adds what it states, unless it is the one that brings in the content type. -/
theorem headers_apply {step : Step}
    (h : step.isJson = true → Headers.has t.headers "content-type" = true) :
    (t.apply step).headers = t.headers ++ step.stated?.toList := by
  cases step with
  | header name value => rfl
  | bearer tokenName => rfl
  | raw text => exact (List.append_nil _).symm
  | json value =>
    rw [apply, headers_jsonBody, if_pos (h rfl)]
    exact (List.append_nil _).symm

theorem method_applyAll (steps : List Step) : (t.applyAll steps).method = t.method := by
  induction steps generalizing t with
  | nil => rfl
  | cons step rest ih => rw [applyAll_cons, ih, method_apply]

theorem url_applyAll (steps : List Step) : (t.applyAll steps).url = t.url := by
  induction steps generalizing t with
  | nil => rfl
  | cons step rest ih => rw [applyAll_cons, ih, url_apply]

/-- The last step that sets a body decides. -/
theorem body_applyAll (steps : List Step) :
    (t.applyAll steps).body = (steps.filterMap Step.body?).getLast?.or t.body := by
  induction steps generalizing t with
  | nil => rfl
  | cons step rest ih =>
    rw [applyAll_cons, ih, body_apply]
    cases hb : step.body? with
    | none => rw [List.filterMap_cons_none hb]; rfl
    | some body =>
      rw [List.filterMap_cons_some hb, List.getLast?_cons]
      cases (rest.filterMap Step.body?).getLast? <;> rfl

/-- Steps add what they state when a content type is there, where it stays, and also when none of
them is a JSON step. -/
theorem headers_applyAll {steps : List Step}
    (h : Headers.has t.headers "content-type" = true ∨ ∀ step ∈ steps, step.isJson = false) :
    (t.applyAll steps).headers = t.headers ++ stated steps := by
  induction steps generalizing t with
  | nil => exact (List.append_nil _).symm
  | cons step rest ih =>
    have hstep : (t.apply step).headers = t.headers ++ step.stated?.toList := by
      refine t.headers_apply fun hjson => h.resolve_right fun hnone => ?_
      rw [hnone step List.mem_cons_self] at hjson
      cases hjson
    have hrest : Headers.has (t.apply step).headers "content-type" = true ∨
        ∀ step ∈ rest, step.isJson = false := by
      refine h.imp (fun hhas => ?_) fun hnone s hs => hnone s (List.mem_cons_of_mem _ hs)
      rw [hstep, Headers.has, List.any_append, Bool.or_eq_true]
      exact .inl hhas
    rw [applyAll_cons, ih _ hrest, hstep, stated_cons, List.append_assoc]

theorem has_headers_jsonBody (value : Json) :
    Headers.has (t.jsonBody value).headers "content-type" = true := by
  rw [headers_jsonBody]
  split
  · assumption
  · exact List.any_eq_true.2 ⟨jsonContentType, List.mem_append_right _ List.mem_cons_self, by decide⟩

/-- What the first JSON step inserts behind the headers that the steps in front of it state. -/
def inserted (front : List Step) : List (String × String) :=
  if Headers.has (stated front) "content-type" then [] else [jsonContentType]

theorem inserted_eq_nil_or (front : List Step) :
    inserted front = [] ∨ inserted front = [jsonContentType] := by
  unfold inserted
  split
  · exact .inl rfl
  · exact .inr rfl

theorem inserted_eq_iff {front : List Step} :
    inserted front = [jsonContentType] ↔
      ∀ name value, .header name value ∈ front → sameName name "content-type" = false := by
  have hnamed : Headers.has (stated front) "content-type" = false ↔
      ∀ name value, .header name value ∈ front → sameName name "content-type" = false := by
    rw [← Bool.not_eq_true, has_stated_iff]
    simp
  rw [← hnamed, inserted]
  cases Headers.has (stated front) "content-type" <;> simp

/-- Behind the first JSON step there is a content type, so that no later one inserts it again. -/
theorem headers_applyAll_json (ht : t.headers = []) {front : List Step}
    (hfront : ∀ step ∈ front, step.isJson = false) (value : Json) (back : List Step) :
    (t.applyAll (front ++ .json value :: back)).headers =
      stated front ++ inserted front ++ stated back := by
  have hstated := t.headers_applyAll (.inr hfront)
  rw [ht, List.nil_append] at hstated
  have hback : (((t.applyAll front).jsonBody value).applyAll back).headers =
      ((t.applyAll front).jsonBody value).headers ++ stated back :=
    headers_applyAll _ (.inl (has_headers_jsonBody _ value))
  rw [applyAll_append, applyAll_cons, apply, hback, headers_jsonBody, hstated, inserted]
  split
  · rw [List.append_nil]
  · rfl

theorem applyAll_eq (steps : List Step) :
    t.applyAll steps = ⟨t.method, t.url, (t.applyAll steps).headers,
      (steps.filterMap Step.body?).getLast?.or t.body⟩ := by
  rw [← body_applyAll, ← t.method_applyAll steps, ← t.url_applyAll steps]

/-- Steps on a new template leave the body of the last body step and the stated headers in order.
One content type is inserted where the first JSON step stands, if there is one, unless a header step
in front of it names a content type. -/
theorem steps_on_new_template (method : Method) (url : String) (steps : List Step) :
    ∃ front back added,
      steps = front ++ back ∧ (∀ value, .json value ∉ front) ∧
      (back = [] ∨ ∃ value rest, back = .json value :: rest) ∧
      (new method url).applyAll steps =
        ⟨method, url, stated front ++ added ++ stated back,
          (steps.filterMap Step.body?).getLast?⟩ ∧
      (added = [] ∨ added = [jsonContentType]) ∧
      (added = [jsonContentType] ↔ (∃ value, .json value ∈ steps) ∧
        ∀ name value, .header name value ∈ front → sameName name "content-type" = false) := by
  have hnew := (new method url).applyAll_eq steps
  rw [show (new method url).body = none from rfl, Option.or_none] at hnew
  have hjson : ∀ {plain : List Step}, (∀ step ∈ plain, step.isJson = false) →
      ∀ value, .json value ∉ plain := fun h value hmem => by cases h _ hmem
  cases hfind : steps.find? Step.isJson with
  | none =>
    have hnone : ∀ step ∈ steps, step.isJson = false := by
      simpa using List.find?_eq_none.1 hfind
    rw [headers_applyAll _ (.inr hnone)] at hnew
    refine ⟨steps, [], [], (List.append_nil _).symm, hjson hnone, .inl rfl, ?_, .inl rfl,
      nofun, fun ⟨⟨value, hmem⟩, _⟩ => absurd hmem (hjson hnone value)⟩
    rw [hnew, List.append_nil]
    exact congrArg (Template.mk method url · _) (List.append_nil _).symm
  | some step =>
    obtain ⟨hstep, front, back, hsplit, hfront⟩ := List.find?_eq_some_iff_append.1 hfind
    obtain ⟨value, rfl⟩ := Step.isJson_iff.1 hstep
    have hnone : ∀ step ∈ front, step.isJson = false := by simpa using hfront
    have hmem : ∃ value, .json value ∈ steps := ⟨value, by simp [hsplit]⟩
    refine ⟨front, .json value :: back, inserted front, hsplit, hjson hnone,
      .inr ⟨value, back, rfl⟩, ?_, inserted_eq_nil_or front, ?_⟩
    · rw [hnew, hsplit, headers_applyAll_json _ rfl hnone]
      rfl
    · rw [inserted_eq_iff, and_iff_right hmem]

/-- A content type that is stated behind the first JSON step stands beside the inserted one. -/
example (value : Json) :
    ((new .post "/users").applyAll
        [.json value, .header "content-type" "text/plain", .json value]).headers =
      [("Content-Type", "application/json"), ("content-type", "text/plain")] := by
  rfl

end ApiSuite.Template
