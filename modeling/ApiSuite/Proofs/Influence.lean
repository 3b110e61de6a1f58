import ApiSuite.Proofs.Build

/-! # What a store lets through into a build

Two stores are compared by what a build can tell apart. When they bind the same names, a build warns
and fails alike with both, whatever the names are bound to: values reach the request and nothing
else. When they agree on the names that a template and the default headers spell, and on the server,
the build is the same altogether.
-/
namespace ApiSuite

/-- Two computations that warn alike, and both succeed or fail alike; what they give when they
succeed may differ. -/
structure Traced.Alike {ε α : Type} (x y : Traced ε α) : Prop where
  warnings_eq : x.warnings = y.warnings
  ok_iff : (∃ r, x.outcome = .ok r) ↔ ∃ r, y.outcome = .ok r
  error_iff : ∀ e, x.outcome = .error e ↔ y.outcome = .error e

namespace Store

variable {α : Type} {s s' : Store}

/-- Two stores with one policy in which the same names are bound, to whatever. -/
structure SameNames (s s' : Store) : Prop where
  policy_eq : s.policy = s'.policy
  contains_eq : ∀ name, s.contains name = s'.contains name

/-- Two stores with one policy in which each of the names is bound to the same or unset. -/
structure AgreeOn (names : List String) (s s' : Store) : Prop where
  policy_eq : s.policy = s'.policy
  binding_eq : ∀ name ∈ names, s.binding? name = s'.binding? name

theorem AgreeOn.mono {names fewer : List String} (h : AgreeOn names s s')
    (hsub : ∀ name ∈ fewer, name ∈ names) : AgreeOn fewer s s' :=
  ⟨h.policy_eq, fun name hname => h.binding_eq name (hsub name hname)⟩

theorem agreeOn_bind (s : Store) {names : List String} {name : String} (x : Binding)
    (h : name ∉ names) : AgreeOn names (s.bind name x) s := by
  refine ⟨rfl, fun other hother => ?_⟩
  have hne : name ≠ other := by
    rintro rfl
    exact h hother
  rw [binding?_bind, if_neg hne]

theorem unbound_congr {names : List String}
    (h : ∀ name ∈ names, s.contains name = s'.contains name) :
    s.unbound names = s'.unbound names := by
  unfold unbound
  apply List.filter_congr
  intro name hname
  rw [h name hname]

/-- Names are unbound alike when those are that the texts spell. -/
theorem unbound_placeholders_congr {texts : List String}
    (h : ∀ text ∈ texts, ∀ name ∈ placeholders text, s.contains name = s'.contains name) :
    s.unbound (texts.flatMap placeholders) = s'.unbound (texts.flatMap placeholders) := by
  refine unbound_congr fun name hname => ?_
  obtain ⟨text, htext, hspelled⟩ := List.mem_flatMap.1 hname
  exact h text htext name hspelled

theorem pass_congr {names : List String} (hp : s.policy = s'.policy)
    (hn : s.unbound names = s'.unbound names) (x : α) : s.pass names x = s'.pass names x := by
  unfold pass
  rw [hp, hn]

/-- The result of a pass shows neither in its warnings nor in whether it fails. -/
theorem alike_pass (s : Store) (names : List String) (x y : α) :
    (s.pass names x).Alike (s.pass names y) := by
  unfold pass
  cases s.policy with
  | leaveAsIs => exact ⟨rfl, by simp, by simp⟩
  | empty => exact ⟨rfl, by simp, by simp⟩
  | fail =>
    cases s.unbound names with
    | nil => exact ⟨rfl, by simp, by simp⟩
    | cons name more => exact ⟨rfl, by simp, by simp⟩

namespace SameNames

variable (h : SameNames s s')
include h

theorem unbound_eq (names : List String) : s.unbound names = s'.unbound names :=
  unbound_congr fun name _ => h.contains_eq name

theorem alike_pass (names : List String) (x y : α) :
    (s.pass names x).Alike (s'.pass names y) := by
  have hpass : s.pass names x = s'.pass names x := pass_congr h.policy_eq (h.unbound_eq names) x
  rw [hpass]
  exact s'.alike_pass names x y

theorem alike_substitute (text : String) : (s.substitute text).Alike (s'.substitute text) := by
  rw [substitute_eq, substitute_eq]
  exact h.alike_pass _ _ _

theorem alike_substituteJson (v : Json) : (s.substituteJson v).Alike (s'.substituteJson v) := by
  rw [substituteJson_eq, substituteJson_eq]
  exact h.alike_pass _ _ _

end SameNames

namespace AgreeOn

variable {names : List String} (h : AgreeOn names s s')
include h

theorem contains_eq {name : String} (hname : name ∈ names) :
    s.contains name = s'.contains name := by
  rw [contains_eq_isSome, contains_eq_isSome, h.binding_eq name hname]

theorem unbound_eq : s.unbound names = s'.unbound names :=
  unbound_congr fun _ hname => h.contains_eq hname

theorem replacement_eq {inner : List Char} (hname : Piece.nameOf inner ∈ names) :
    s.replacement inner = s'.replacement inner := by
  unfold replacement
  rw [h.binding_eq _ hname, h.policy_eq]

theorem filled_eq {text : String} (htext : ∀ name ∈ placeholders text, name ∈ names) :
    s.filled text = s'.filled text :=
  filled_congr fun _ hname => h.replacement_eq (htext _ hname)

end AgreeOn

end Store

namespace RequestBuilder

variable (b : RequestBuilder) (t : Template)

/-- The names that are spelled in the texts of a template and in all default headers, whether these
are sent or not. -/
def named : List String :=
  (t.url :: t.headers.map Prod.snd ++ b.defaultHeaders.map Prod.snd
    ++ bodyTexts t.body).flatMap placeholders

theorem placeholders_subset_named {text name : String} (ht : text ∈ b.texts t)
    (hname : name ∈ placeholders text) : name ∈ b.named t := by
  refine List.mem_flatMap.2 ⟨text, ?_, hname⟩
  simp only [texts, List.mem_append, List.mem_map, List.mem_filter] at ht ⊢
  rcases ht with (ht | ⟨d, ⟨hd, -⟩, rfl⟩) | ht
  · exact .inl (.inl ht)
  · exact .inl (.inr ⟨d, hd, rfl⟩)
  · exact .inr ht

theorem mem_named_of_mem_sentTexts {text name : String} (ht : text ∈ b.sentTexts t)
    (hname : name ∈ placeholders text) : name ∈ b.named t :=
  b.placeholders_subset_named t ((b.mem_texts_iff t).2 (.inl ht)) hname

theorem missing_congr {s s' : Store}
    (h : ∀ name ∈ b.named t, s.contains name = s'.contains name) :
    (b.withStore s).missing t = (b.withStore s').missing t := by
  have hunbound : s.unbound ((b.texts t).flatMap placeholders) =
      s'.unbound ((b.texts t).flatMap placeholders) :=
    Store.unbound_placeholders_congr fun _ ht name hname =>
      h name (b.placeholders_subset_named t ht hname)
  exact congrArg List.eraseDups hunbound

/-- All that a build can do: it is refused for its missing names, or it is a pass. -/
theorem build_eq : b.build t =
    match b.store.policy, b.missing t with
    | .fail, name :: more => ⟨[.unsetVariables (name :: more)], .error (.undefined name)⟩
    | _, _ => b.store.pass (b.sentNames t) (b.filledRequest t) := by
  split
  · rename_i name more hp hm
    exact b.build_refused t hp hm
  · rename_i hnot
    refine b.build_eq_pass t fun hp => ?_
    cases hm : b.missing t with
    | nil => rfl
    | cons name more => exact absurd hm (hnot name more hp)

/-- What is missing, and the names of a pass, do not depend on values. -/
theorem alike_build {s s' : Store} (h : s.SameNames s') :
    ((b.withStore s).build t).Alike ((b.withStore s').build t) := by
  have hmissing : (b.withStore s).missing t = (b.withStore s').missing t :=
    b.missing_congr t fun name _ => h.contains_eq name
  have hpolicy : (b.withStore s).store.policy = (b.withStore s').store.policy := h.policy_eq
  rw [build_eq, build_eq, hmissing, hpolicy]
  split
  · exact ⟨rfl, Iff.rfl, fun _ => Iff.rfl⟩
  · exact h.alike_pass (b.sentNames t) _ _

theorem build_congr {s s' : Store} (h : Store.AgreeOn (serverVariable :: b.named t) s s') :
    (b.withStore s).build t = (b.withStore s').build t := by
  have hnamed : Store.AgreeOn (b.named t) s s' :=
    h.mono fun _ hname => List.mem_cons_of_mem _ hname
  have hmissing : (b.withStore s).missing t = (b.withStore s').missing t :=
    b.missing_congr t fun _ hname => hnamed.contains_eq hname
  have hpolicy : (b.withStore s).store.policy = (b.withStore s').store.policy := h.policy_eq
  have hbase : (b.withStore s).base? = (b.withStore s').base? := by
    have hserver := h.binding_eq serverVariable List.mem_cons_self
    simp only [base?, withStore, Store.get?, hserver]
  have hrequest : (b.withStore s).filledRequest t = (b.withStore s').filledRequest t :=
    b.filledRequest_congr t hbase fun text ht =>
      hnamed.filled_eq fun _ hname => b.mem_named_of_mem_sentTexts t ht hname
  have hunbound : s.unbound (b.sentNames t) = s'.unbound (b.sentNames t) :=
    Store.unbound_placeholders_congr fun _ ht _ hname =>
      hnamed.contains_eq (b.mem_named_of_mem_sentTexts t ht hname)
  rw [build_eq, build_eq, hmissing, hpolicy, hrequest]
  split
  · rfl
  · exact Store.pass_congr h.policy_eq hunbound _

end RequestBuilder

/-- Whatever the bound names are bound to, the same warnings are issued and the same errors given,
by a build and by each way to substitute. Values get into results and nowhere else. -/
theorem values_leave_no_trace {s s' : Store} (h : s.SameNames s') :
    (∀ (b : RequestBuilder) (t : Template),
      ((b.withStore s).build t).Alike ((b.withStore s').build t)) ∧
    (∀ text, (s.substitute text).Alike (s'.substitute text)) ∧
    ∀ v, (s.substituteJson v).Alike (s'.substituteJson v) :=
  ⟨fun b t => b.alike_build t h, h.alike_substitute, h.alike_substituteJson⟩

/-- One store makes the URL relative and the other does not, a value is null in one of them and
looks like a placeholder in the other. Both builds warn of the name that is unset and of nothing
else. -/
theorem values_leave_no_trace_in_warnings :
    let s := (((Store.new .leaveAsIs).set "path" "/x").set "token" "\x7b\x7bkey\x7d\x7d").setNull
      "server"
    let s' := (((Store.new .leaveAsIs).set "path" "x").setNull "token").set "server" "http://a"
    let b : RequestBuilder := ⟨s, some "http://b/", [("Authorization", "\x7b\x7btoken\x7d\x7d")]⟩
    let t : Template := .new .get "\x7b\x7bpath\x7d\x7d/\x7b\x7bid\x7d\x7d"
    s.SameNames s' ∧
      b.build t = ⟨[.leftInPlace "id"], .ok ⟨.get, "http://b/x/\x7b\x7bid\x7d\x7d",
        [("Authorization", "\x7b\x7bkey\x7d\x7d")], none⟩⟩ ∧
      ((b.withStore s').build t).warnings = [.leftInPlace "id"] := by
  intro s s' b t
  have hsame : s.SameNames s' := by
    refine ⟨rfl, fun name => ?_⟩
    simp only [s, s', Store.set, Store.setNull, Store.contains_eq_isSome, Store.binding?_bind]
    by_cases hserver : "server" = name
    · simp [hserver]
    · by_cases htoken : "token" = name
      · simp [hserver, htoken]
      · by_cases hpath : "path" = name <;> simp [hserver, htoken, hpath, Store.new]
  have hbuild : b.build t = ⟨[.leftInPlace "id"], .ok ⟨.get, "http://b/x/\x7b\x7bid\x7d\x7d",
      [("Authorization", "\x7b\x7bkey\x7d\x7d")], none⟩⟩ :=
    Traced.ext (by decide +kernel) (by decide +kernel)
  have halike : (b.build t).Alike ((b.withStore s').build t) :=
    (values_leave_no_trace hsame).1 b t
  refine ⟨hsame, hbuild, ?_⟩
  rw [← halike.warnings_eq, hbuild]

namespace RequestBuilder

variable (b : RequestBuilder) (t : Template)

/-- A build depends on the names that the template and the default headers spell, and on the server,
and on no other; what else is written to the store never reaches it. -/
theorem build_reads_named {s s' : Store} (h : Store.AgreeOn (serverVariable :: b.named t) s s') :
    (b.withStore s).build t = (b.withStore s').build t ∧
    ∀ name x, name ∉ serverVariable :: b.named t →
      (b.withStore (s.bind name x)).build t = (b.withStore s).build t :=
  ⟨b.build_congr t h, fun _ x hname => b.build_congr t (s.agreeOn_bind x hname)⟩

/-- A name that only stands in a value or in the key of an object is not read. -/
theorem build_reads_named_in_body :
    let s := ((Store.new .fail).set "a" "\x7b\x7bb\x7d\x7d").set "b" "1"
    let s' := ((Store.new .fail).set "a" "\x7b\x7bb\x7d\x7d").setNull "b"
    let b : RequestBuilder := ⟨s, none, []⟩
    let t : Template := ⟨.post, "/x", [],
      some (.json (.obj [("\x7b\x7bb\x7d\x7d", .str "\x7b\x7ba\x7d\x7d")]))⟩
    Store.AgreeOn (serverVariable :: b.named t) s s' ∧ b.build t = (b.withStore s').build t := by
  intro s s' b t
  have hnamed : b.named t = ["a"] := by decide +kernel
  have hagree : Store.AgreeOn (serverVariable :: b.named t) s s' := by
    rw [hnamed]
    exact ⟨rfl, by decide⟩
  exact ⟨hagree, (b.build_reads_named t hagree).1⟩

end RequestBuilder

end ApiSuite
