import ApiSuite.Proofs.DefaultHeaders
import ApiSuite.Proofs.JsonStrings

/-! # Building a request as one pass

The parts of a template are substituted one after the other, so building is a pass over the
placeholders of the texts that end up in the request. The check that comes before it under the
failing policy looks at all of these texts, and at default headers that are dropped in the end.
-/
namespace ApiSuite

namespace Store

variable {α : Type} (s : Store)

def withPolicy (policy : MissingPolicy) : Store := { s with policy }

theorem mem_unbound_iff {names : List String} {name : String} :
    name ∈ s.unbound names ↔ name ∈ names ∧ s.contains name = false := by
  simp [unbound]

theorem unbound_eq_nil_iff {names : List String} :
    s.unbound names = [] ↔ ∀ name ∈ names, s.contains name = true := by
  simp [unbound]

theorem mem_unset_iff {names : List String} {name : String} :
    name ∈ s.unset names ↔ name ∈ s.unbound names :=
  List.mem_eraseDups

theorem unset_eq_nil_iff {names : List String} : s.unset names = [] ↔ s.unbound names = [] := by
  simp only [List.eq_nil_iff_forall_not_mem, mem_unset_iff]

/-- A pass that meets no unset name is silent under every policy. -/
theorem pass_of_unbound_eq_nil {names : List String} (h : s.unbound names = []) (x : α) :
    s.pass names x = ⟨[], .ok x⟩ := by
  unfold pass
  rw [h]
  cases s.policy <;> rfl

theorem outcome_pass_of_ne_fail (h : s.policy ≠ .fail) (names : List String) (x : α) :
    (s.pass names x).outcome = .ok x := by
  unfold pass
  cases hp : s.policy with
  | leaveAsIs => rfl
  | empty => rfl
  | fail => exact absurd hp h

theorem replacement_withPolicy {inner : List Char} (policy : MissingPolicy)
    (h : s.contains (Piece.nameOf inner) = true) :
    (s.withPolicy policy).replacement inner = s.replacement inner := by
  rw [contains_eq_isSome] at h
  obtain ⟨b, hb⟩ := Option.isSome_iff_exists.1 h
  have hs : s.binding? (Piece.nameOf inner) = some b := hb
  have hp : (s.withPolicy policy).binding? (Piece.nameOf inner) = some b := hb
  unfold replacement
  rw [hs, hp]
  cases b <;> rfl

/-- A filled text depends on what stands in the place of its own placeholders. -/
theorem filled_congr {s s' : Store} {text : String}
    (h : ∀ inner, Piece.nameOf inner ∈ placeholders text →
      s.replacement inner = s'.replacement inner) : s.filled text = s'.filled text := by
  have hnames : (Layout.ofText text.toList).names = placeholders text := Layout.names_ofPieces _
  unfold filled Layout.fill
  congr 2
  refine List.flatMap_congr fun p hp => ?_
  have hn : Piece.nameOf p.1 ∈ placeholders text := hnames ▸ List.mem_map_of_mem hp
  rw [h p.1 hn]

theorem filled_withPolicy {text : String} (policy : MissingPolicy)
    (h : ∀ name ∈ placeholders text, s.contains name = true) :
    (s.withPolicy policy).filled text = s.filled text :=
  filled_congr fun _ hn => s.replacement_withPolicy policy (h _ hn)

end Store

namespace RequestBuilder

variable (b : RequestBuilder) (t : Template)

def withPolicy (policy : MissingPolicy) : RequestBuilder :=
  { b with store := b.store.withPolicy policy }

def withStore (s : Store) : RequestBuilder := { b with store := s }

/-- The headers of a request from the template, still with their placeholders. -/
def allHeaders : List (String × String) :=
  t.headers ++ Headers.novel t.headers b.defaultHeaders

/-- The texts that end up in a request from the template. -/
def sentTexts : List String :=
  t.url :: (b.allHeaders t).map Prod.snd ++ bodyTexts t.body

def sentNames : List String := (b.sentTexts t).flatMap placeholders

def filledBody : Option BodyTemplate → Option String
  | none => none
  | some (.raw text) => some (b.store.filled text)
  | some (.json value) => some (value.mapStrings b.store.filled).render

def filledRequest : Request :=
  ⟨t.method, b.complete (b.store.filled t.url), (b.allHeaders t).map b.filledHeader,
    b.filledBody t.body⟩

theorem substituteBody_eq (body : Option BodyTemplate) :
    b.substituteBody body =
      b.store.pass ((bodyTexts body).flatMap placeholders) (b.filledBody body) := by
  cases body with
  | none => exact (b.store.pass_nil _).symm
  | some body =>
    cases body with
    | raw text =>
      rw [substituteBody, Store.substitute_eq, bodyTexts, List.flatMap_singleton]
      exact b.store.pass_map _ _ _
    | json value =>
      rw [substituteBody, Store.substituteJson_eq, bodyTexts]
      exact b.store.pass_map _ _ _

theorem assemble_eq : b.assemble t = b.store.pass (b.sentNames t) (b.filledRequest t) := by
  have hnames : b.sentNames t = placeholders t.url ++
      (t.headers.flatMap (fun h => placeholders h.2) ++
        ((Headers.novel t.headers b.defaultHeaders).flatMap (fun d => placeholders d.2) ++
          (bodyTexts t.body).flatMap placeholders)) := by
    simp [sentNames, sentTexts, allHeaders, List.flatMap_map, List.append_assoc]
  have hheaders : (b.allHeaders t).map b.filledHeader = t.headers.map b.filledHeader ++
      (Headers.novel t.headers b.defaultHeaders).map b.filledHeader := List.map_append
  have hdefaults := b.addDefaults_eq (t.headers.map b.filledHeader) t.headers b.defaultHeaders
    (Headers.has_congr (by simp [filledHeader]))
  rw [hnames, filledRequest, hheaders]
  unfold assemble
  rw [Store.substitute_eq]
  refine b.store.pass_bind _ _ ?_
  rw [substituteHeaders_eq]
  refine b.store.pass_bind _ _ ?_
  rw [hdefaults]
  refine b.store.pass_bind _ _ ?_
  rw [substituteBody_eq]
  exact b.store.pass_map _ _ _

theorem url_mem_sentTexts : t.url ∈ b.sentTexts t :=
  List.mem_append_left _ List.mem_cons_self

theorem mem_sentTexts_of_mem_allHeaders {h : String × String} (hh : h ∈ b.allHeaders t) :
    h.2 ∈ b.sentTexts t :=
  List.mem_append_left _ (List.mem_cons_of_mem _ (List.mem_map_of_mem hh))

theorem mem_sentTexts_of_mem_bodyTexts {text : String} (h : text ∈ bodyTexts t.body) :
    text ∈ b.sentTexts t :=
  List.mem_append_right _ h

/-- The check looks at every text that is sent, and beyond them at shadowed default headers only. -/
theorem mem_texts_iff {text : String} :
    text ∈ b.texts t ↔ text ∈ b.sentTexts t ∨ ∃ d, b.Shadowed t d ∧ d.2 = text := by
  change text ∈ t.url :: t.headers.map Prod.snd ++ (b.ownDefaults t).map Prod.snd ++ _ ↔ _
  simp only [sentTexts, allHeaders, List.map_append, List.mem_append, List.mem_cons, List.mem_map,
    mem_ownDefaults_iff, or_and_right, exists_or]
  simp only [or_assoc, or_left_comm, or_comm]

theorem mem_missing_iff {name : String} :
    name ∈ b.missing t ↔ name ∈ b.store.unbound (b.sentNames t) ∨
      ∃ d, b.Shadowed t d ∧ name ∈ b.store.missing d.2 := by
  unfold missing Store.missing sentNames
  simp only [Store.mem_unset_iff, Store.mem_unbound_iff, List.mem_flatMap, mem_texts_iff]
  constructor
  · rintro ⟨⟨text, hsent | ⟨d, hd, rfl⟩, hname⟩, hunset⟩
    · exact .inl ⟨⟨text, hsent, hname⟩, hunset⟩
    · exact .inr ⟨d, hd, hname, hunset⟩
  · rintro (⟨⟨text, hsent, hname⟩, hunset⟩ | ⟨d, hd, hname, hunset⟩)
    · exact ⟨⟨text, .inl hsent, hname⟩, hunset⟩
    · exact ⟨⟨d.2, .inr ⟨d, hd, rfl⟩, hname⟩, hunset⟩

/-- What the check lets pass has no unset name left in any text that is sent. -/
theorem unbound_sentNames_of_missing (h : b.missing t = []) :
    b.store.unbound (b.sentNames t) = [] := by
  refine List.eq_nil_iff_forall_not_mem.2 fun name hn => ?_
  have hm : name ∈ b.missing t := (b.mem_missing_iff t).2 (.inl hn)
  rw [h] at hm
  cases hm

theorem build_eq_pass (h : b.store.policy = .fail → b.missing t = []) :
    b.build t = b.store.pass (b.sentNames t) (b.filledRequest t) := by
  have hcheck : b.checkMissing t = Traced.ok () := by
    unfold checkMissing
    cases hp : b.store.policy with
    | leaveAsIs => rfl
    | empty => rfl
    | fail => rw [h hp]
  rw [← assemble_eq]
  unfold build
  rw [hcheck]
  rfl

theorem build_eq_of_missing_eq_nil (h : b.missing t = []) :
    b.build t = ⟨[], .ok (b.filledRequest t)⟩ := by
  rw [b.build_eq_pass t fun _ => h]
  exact b.store.pass_of_unbound_eq_nil (b.unbound_sentNames_of_missing t h) _

/-- What a pass over some of the sent names ends with, once nothing can refuse it. -/
theorem outcome_pass_of_sent {α : Type} (h : b.store.policy = .fail → b.missing t = [])
    {names : List String} (hn : ∀ name ∈ names, name ∈ b.sentNames t) (x : α) :
    (b.store.pass names x).outcome = .ok x := by
  by_cases hp : b.store.policy = .fail
  · have hsent := b.store.unbound_eq_nil_iff.1 (b.unbound_sentNames_of_missing t (h hp))
    have hnames : b.store.unbound names = [] :=
      b.store.unbound_eq_nil_iff.2 fun name hname => hsent name (hn name hname)
    rw [b.store.pass_of_unbound_eq_nil hnames]
  · exact b.store.outcome_pass_of_ne_fail hp names x

theorem outcome_build (h : b.store.policy = .fail → b.missing t = []) :
    (b.build t).outcome = .ok (b.filledRequest t) := by
  rw [b.build_eq_pass t h]
  exact b.outcome_pass_of_sent t h (fun _ hn => hn) _

theorem build_refused {name : String} {more : List String} (hp : b.store.policy = .fail)
    (hm : b.missing t = name :: more) :
    b.build t = ⟨[.unsetVariables (name :: more)], .error (.undefined name)⟩ := by
  unfold build checkMissing
  rw [hp, hm]
  rfl

/-- Two stores that complete URLs alike and fill the sent texts alike give the same request. -/
theorem filledRequest_congr {s s' : Store} (hbase : (b.withStore s).base? = (b.withStore s').base?)
    (hfilled : ∀ text ∈ b.sentTexts t, s.filled text = s'.filled text) :
    (b.withStore s).filledRequest t = (b.withStore s').filledRequest t := by
  have hurl : (b.withStore s).complete (s.filled t.url) =
      (b.withStore s').complete (s'.filled t.url) := by
    rw [complete, complete, hbase, hfilled t.url (b.url_mem_sentTexts t)]
  have hheaders : (b.allHeaders t).map (b.withStore s).filledHeader =
      (b.allHeaders t).map (b.withStore s').filledHeader := by
    refine List.map_congr_left fun d hd => ?_
    have hd := hfilled d.2 (b.mem_sentTexts_of_mem_allHeaders t hd)
    exact congrArg (Prod.mk d.1) hd
  have hbody : (b.withStore s).filledBody t.body = (b.withStore s').filledBody t.body := by
    have hsent : ∀ text ∈ bodyTexts t.body, s.filled text = s'.filled text := fun text ht =>
      hfilled text (b.mem_sentTexts_of_mem_bodyTexts t ht)
    cases hb : t.body with
    | none => rfl
    | some body =>
      rw [hb] at hsent
      cases body with
      | raw text => exact congrArg some (hsent text (by simp [bodyTexts]))
      | json value => exact congrArg (some ·.render) (Json.mapStrings_congr value hsent)
  change (⟨t.method, (b.withStore s).complete (s.filled t.url), (b.allHeaders t).map _, _⟩ :
    Request) = _
  rw [hurl, hheaders, hbody]
  rfl

/-- Without unset names the policy leaves no trace in the request. -/
theorem filledRequest_withPolicy (policy : MissingPolicy) (h : b.missing t = []) :
    (b.withPolicy policy).filledRequest t = b.filledRequest t := by
  have hall := b.store.unbound_eq_nil_iff.1 (b.unbound_sentNames_of_missing t h)
  refine b.filledRequest_congr t rfl fun text ht => ?_
  refine b.store.filled_withPolicy policy fun name hn => hall name ?_
  exact List.mem_flatMap.2 ⟨text, ht, hn⟩

end RequestBuilder

end ApiSuite
