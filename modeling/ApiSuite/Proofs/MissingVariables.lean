import ApiSuite.Proofs.BuildPass
import Mathlib.Data.List.Induction

/-! # Missing variables and the warnings of a build

The variables that are listed as missing are those that a lenient build warns about, and those that
only occur in shadowed default headers. A shadowed default header is not overridden by the template
and still dropped, as an earlier default header has its name. Without such headers the list is the
list of warnings; with them it is when the names up to each of them begin the list of warnings.
-/
namespace ApiSuite

theorem eraseDups_filter (p : String → Bool) (names : List String) :
    (names.filter p).eraseDups = names.eraseDups.filter p := by
  induction h : names.length using Nat.strong_induction_on generalizing names with
  | _ n ih =>
    subst h
    cases names with
    | nil => rfl
    | cons name rest =>
      have hlen : (rest.filter fun other => !other == name).length < (name :: rest).length :=
        Nat.lt_succ_of_le (List.length_filter_le _ rest)
      rw [List.eraseDups_cons, List.filter_cons, List.filter_cons, ← ih _ hlen _ rfl]
      split
      · rw [List.eraseDups_cons, List.filter_comm]
      · rename_i hp
        rw [List.filter_filter]
        congr 1
        refine List.filter_congr fun other _ => ?_
        cases ho : p other with
        | false => rfl
        | true =>
          have hne : other ≠ name := by
            rintro rfl
            exact hp ho
          simp [hne]

theorem nodup_eraseDups (names : List String) : names.eraseDups.Nodup := by
  induction h : names.length using Nat.strong_induction_on generalizing names with
  | _ n ih =>
    subst h
    cases names with
    | nil => exact List.nodup_nil
    | cons name rest =>
      rw [List.eraseDups_cons, List.nodup_cons]
      refine ⟨by simp, ih _ (Nat.lt_succ_of_le (List.length_filter_le _ rest)) _ rfl⟩

theorem eraseDups_prefix_append (names more : List String) :
    names.eraseDups <+: (names ++ more).eraseDups := by
  rw [List.eraseDups_append]
  exact List.prefix_append _ _

/-- More names in front of the rest make no difference when without repetitions they are where the
fewer names and the rest begin. -/
theorem eraseDups_append_eq {names fewer rest : List String} (hsub : fewer ⊆ names)
    (h : names.eraseDups <+: (fewer ++ rest).eraseDups) :
    (names ++ rest).eraseDups = (fewer ++ rest).eraseDups := by
  obtain ⟨more, hmore⟩ := h
  have hnodup : (names.eraseDups ++ more).Nodup := hmore ▸ nodup_eraseDups _
  have hnew : ∀ name ∈ more, name ∉ names := fun name hn hname =>
    (List.nodup_append.1 hnodup).2.2 name (List.mem_eraseDups.2 hname) name hn rfl
  have hold : (names.eraseDups ++ more).filter (fun name => !names.contains name) = more := by
    rw [List.filter_append, List.filter_eq_nil_iff.2 (by simp), List.nil_append]
    exact List.filter_eq_self.2 (by simpa using hnew)
  have hfewer : fewer.filter (fun name => !names.contains name) = [] :=
    List.filter_eq_nil_iff.2 (by simpa using fun _ h => hsub h)
  have hrest : (fewer ++ rest).filter (fun name => !names.contains name) =
      rest.removeAll names := by
    rw [List.filter_append, hfewer, List.nil_append]
    rfl
  rw [List.eraseDups_append, ← hrest, eraseDups_filter, ← hmore, hold]

namespace RequestBuilder

variable (b : RequestBuilder) (t : Template)

/-- The builder with the default headers that get into a request from the template, and no more. -/
def pruned : RequestBuilder :=
  { b with defaultHeaders := Headers.novel t.headers b.defaultHeaders }

theorem texts_pruned : (b.pruned t).texts t = b.sentTexts t := by
  have hown : (b.pruned t).ownDefaults t = Headers.novel t.headers b.defaultHeaders := by
    refine List.filter_eq_self.2 fun d hd => ?_
    rw [(Headers.has_of_mem_novel hd).2]
    rfl
  change t.url :: t.headers.map Prod.snd ++ ((b.pruned t).ownDefaults t).map Prod.snd ++ _ = _
  rw [hown, sentTexts, allHeaders, List.map_append]
  rfl

theorem missing_pruned :
    (b.pruned t).missing t = (b.store.unbound (b.sentNames t)).eraseDups := by
  unfold missing sentNames
  rw [texts_pruned]
  rfl

/-- The unset names of the default headers that the template does not override. -/
def ownUnbound (defaults : List (String × String)) : List String :=
  b.store.unbound ((defaults.filter fun d => !Headers.has t.headers d.1).flatMap
    fun d => placeholders d.2)

/-- The unset names of the default headers that are sent. -/
def sentUnbound (defaults : List (String × String)) : List String :=
  b.store.unbound ((Headers.novel t.headers defaults).flatMap fun d => placeholders d.2)

theorem ownUnbound_append (defaults more : List (String × String)) :
    b.ownUnbound t (defaults ++ more) = b.ownUnbound t defaults ++ b.ownUnbound t more := by
  unfold ownUnbound
  rw [List.filter_append, List.flatMap_append, Store.unbound_append]

theorem ownUnbound_append_singleton (defaults : List (String × String)) (d : String × String) :
    b.ownUnbound t (defaults ++ [d]) = b.ownUnbound t defaults ++
      if Headers.has t.headers d.1 then [] else b.store.unbound (placeholders d.2) := by
  rw [ownUnbound_append]
  congr 1
  unfold ownUnbound
  rw [List.filter_singleton]
  cases Headers.has t.headers d.1 <;> simp

theorem sentUnbound_append_singleton (defaults : List (String × String)) (d : String × String) :
    b.sentUnbound t (defaults ++ [d]) = b.sentUnbound t defaults ++
      if Headers.has (t.headers ++ defaults) d.1 then []
      else b.store.unbound (placeholders d.2) := by
  unfold sentUnbound
  rw [Headers.novel_append, List.flatMap_append, Store.unbound_append, Headers.novel]
  cases Headers.has (t.headers ++ defaults) d.1 <;> simp [Headers.novel]

theorem sentUnbound_subset (defaults : List (String × String)) :
    b.sentUnbound t defaults ⊆ b.ownUnbound t defaults := by
  intro name hname
  obtain ⟨hmem, hunset⟩ := b.store.mem_unbound_iff.1 hname
  obtain ⟨d, hd, hn⟩ := List.mem_flatMap.1 hmem
  obtain ⟨hdefault, hown⟩ := Headers.has_of_mem_novel hd
  refine b.store.mem_unbound_iff.2 ⟨List.mem_flatMap.2 ⟨d, ?_, hn⟩, hunset⟩
  exact List.mem_filter.2 ⟨hdefault, by rw [hown]; rfl⟩

/-- Dropped default headers without unset names do not show among the unset names. -/
theorem sentUnbound_eq_ownUnbound (defaults : List (String × String))
    (h : ∀ before d after, defaults = before ++ d :: after → Headers.has t.headers d.1 = false →
      Headers.has before d.1 = true → b.store.unbound (placeholders d.2) = []) :
    b.sentUnbound t defaults = b.ownUnbound t defaults := by
  induction defaults using List.reverseRecOn with
  | nil => rfl
  | append_singleton defaults d ih =>
    have hbefore := ih fun before e after heq =>
      h before e (after ++ [d]) (by rw [heq, List.append_assoc, List.cons_append])
    rw [ownUnbound_append_singleton, sentUnbound_append_singleton, hbefore, Headers.has_append]
    cases hown : Headers.has t.headers d.1 with
    | true => rfl
    | false =>
      cases hshadow : Headers.has defaults d.1 with
      | true => rw [h defaults d [] rfl hown hshadow]; rfl
      | false => rfl

/-- The induction is on the default headers from the right, as the list is cut behind one. -/
theorem eraseDups_unbound (defaults : List (String × String)) (before after : List String)
    (h : ∀ front d back, defaults = front ++ d :: back → Headers.has t.headers d.1 = false →
      Headers.has front d.1 = true →
      (before ++ b.ownUnbound t (front ++ [d])).eraseDups <+:
        (before ++ b.sentUnbound t defaults ++ after).eraseDups) :
    (before ++ b.ownUnbound t defaults ++ after).eraseDups =
      (before ++ b.sentUnbound t defaults ++ after).eraseDups := by
  induction defaults using List.reverseRecOn generalizing after with
  | nil => rfl
  | append_singleton defaults d ih =>
    have hfront := fun front e back (heq : defaults = front ++ e :: back) =>
      h front e (back ++ [d]) (by rw [heq, List.append_assoc, List.cons_append])
    cases hown : Headers.has t.headers d.1 with
    | true =>
      have hd := b.ownUnbound_append_singleton t defaults d
      have hs := b.sentUnbound_append_singleton t defaults d
      rw [Headers.has_append, hown] at hs
      simp only [hown, Bool.true_or, if_true, List.append_nil] at hd hs
      rw [hs] at hfront
      rw [hd, hs]
      exact ih after hfront
    | false =>
      cases hshadow : Headers.has defaults d.1 with
      | true =>
        have hsub : before ++ b.sentUnbound t (defaults ++ [d]) ⊆
            before ++ b.ownUnbound t (defaults ++ [d]) :=
          List.append_subset.2 ⟨List.subset_append_left _ _,
            List.subset_append_of_subset_right _ (b.sentUnbound_subset t _)⟩
        exact eraseDups_append_eq hsub (h defaults d [] rfl hown hshadow)
      | false =>
        have hd := b.ownUnbound_append_singleton t defaults d
        have hs := b.sentUnbound_append_singleton t defaults d
        rw [Headers.has_append, hown, hshadow] at hs
        simp only [hown, Bool.or_self, Bool.false_eq_true, if_false] at hd hs
        have hassoc : ∀ names : List String,
            before ++ (names ++ b.store.unbound (placeholders d.2)) ++ after =
              before ++ names ++ (b.store.unbound (placeholders d.2) ++ after) := by
          intro names
          simp only [List.append_assoc]
        rw [hs, hassoc] at hfront
        rw [hd, hs, hassoc, hassoc]
        exact ih _ hfront

def headUnbound : List String :=
  b.store.unbound (placeholders t.url ++ t.headers.flatMap fun h => placeholders h.2)

def bodyUnbound : List String := b.store.unbound ((bodyTexts t.body).flatMap placeholders)

/-- What is missing when the default headers are cut to the given ones and the body is left out. -/
def missingUpTo (defaults : List (String × String)) : List String :=
  ({ b with defaultHeaders := defaults } : RequestBuilder).missing { t with body := none }

theorem missing_eq :
    b.missing t =
      (b.headUnbound t ++ b.ownUnbound t b.defaultHeaders ++ b.bodyUnbound t).eraseDups := by
  change (b.store.unbound ((b.texts t).flatMap placeholders)).eraseDups = _
  simp only [texts, headUnbound, ownUnbound, bodyUnbound, List.flatMap_append, List.flatMap_map,
    Store.unbound_append, List.cons_append, List.flatMap_cons, List.append_assoc]

theorem missingUpTo_eq (defaults : List (String × String)) :
    b.missingUpTo t defaults = (b.headUnbound t ++ b.ownUnbound t defaults).eraseDups := by
  rw [missingUpTo, missing_eq]
  exact congrArg List.eraseDups (List.append_nil _)

theorem unbound_sentNames :
    b.store.unbound (b.sentNames t) =
      b.headUnbound t ++ b.sentUnbound t b.defaultHeaders ++ b.bodyUnbound t := by
  simp only [sentNames, sentTexts, allHeaders, headUnbound, sentUnbound, bodyUnbound,
    List.map_append, List.flatMap_append, List.flatMap_map, Store.unbound_append, List.cons_append,
    List.flatMap_cons, List.append_assoc]

/-- The two lists of names agree when no shadowed default header brings in a name before its
turn. -/
theorem missing_eq_iff :
    b.missing t = (b.store.unbound (b.sentNames t)).eraseDups ↔
      ∀ before d after, b.defaultHeaders = before ++ d :: after →
        Headers.has t.headers d.1 = false → Headers.has before d.1 = true →
        b.missingUpTo t (before ++ [d]) <+: (b.store.unbound (b.sentNames t)).eraseDups := by
  simp only [missingUpTo_eq, unbound_sentNames, missing_eq]
  refine ⟨fun h before d after heq _ _ => ?_, b.eraseDups_unbound t _ _ _⟩
  have hcut : b.ownUnbound t b.defaultHeaders =
      b.ownUnbound t (before ++ [d]) ++ b.ownUnbound t after := by
    rw [heq, List.append_cons, ownUnbound_append]
  rw [← h, hcut, ← List.append_assoc, List.append_assoc _ _ (b.bodyUnbound t)]
  exact eraseDups_prefix_append _ _

theorem missing_eq_of_shadowed (h : ∀ d, b.Shadowed t d → b.store.missing d.2 = []) :
    b.missing t = (b.store.unbound (b.sentNames t)).eraseDups := by
  have hdefaults := b.sentUnbound_eq_ownUnbound t b.defaultHeaders fun before d after heq hown hb =>
    b.store.unset_eq_nil_iff.1 (h d ⟨before, after, heq, hown, hb⟩)
  rw [missing_eq, unbound_sentNames, hdefaults]

theorem warnings_build_leaveAsIs :
    ((b.withPolicy .leaveAsIs).build t).warnings =
      (b.store.unbound (b.sentNames t)).map .leftInPlace := by
  rw [(b.withPolicy .leaveAsIs).build_eq_pass t fun h => by cases h]
  rfl

theorem outcome_build_fail_eq_error_iff {e : VariableError} :
    ((b.withPolicy .fail).build t).outcome = .error e ↔
      ∃ name more, b.missing t = name :: more ∧ e = .undefined name := by
  cases hm : b.missing t with
  | nil =>
    rw [(b.withPolicy .fail).build_eq_of_missing_eq_nil t hm]
    simp
  | cons name more =>
    rw [(b.withPolicy .fail).build_refused t rfl hm]
    simp [eq_comm]

/-- How the missing variables of a template stand to the names that a lenient build of it warns
about, and when a strict build fails. Nothing but shadowed default headers can tell them apart, and
these do unless what is missing up to them begins the names that are warned about. -/
theorem missing_and_warned :
    ∃ warned : List String,
      ((b.withPolicy .leaveAsIs).build t).warnings = warned.map .leftInPlace ∧
      (b.pruned t).missing t = warned.eraseDups ∧
      (b.missing t = warned.eraseDups ↔
        ∀ before d after, b.defaultHeaders = before ++ d :: after →
          Headers.has t.headers d.1 = false → Headers.has before d.1 = true →
          b.missingUpTo t (before ++ [d]) <+: warned.eraseDups) ∧
      ((∀ d, b.Shadowed t d → b.store.missing d.2 = []) → b.missing t = warned.eraseDups) ∧
      (∀ name, name ∈ b.missing t ↔
        name ∈ warned ∨ ∃ d, b.Shadowed t d ∧ name ∈ b.store.missing d.2) ∧
      (∀ e, ((b.withPolicy .fail).build t).outcome = .error e ↔
        ∃ name more, b.missing t = name :: more ∧ e = .undefined name) ∧
      ((∃ e, ((b.withPolicy .fail).build t).outcome = .error e) ↔
        warned ≠ [] ∨ ∃ d, b.Shadowed t d ∧ b.store.missing d.2 ≠ []) := by
  refine ⟨b.store.unbound (b.sentNames t), b.warnings_build_leaveAsIs t, b.missing_pruned t,
    b.missing_eq_iff t, b.missing_eq_of_shadowed t, fun _ => b.mem_missing_iff t,
    fun _ => b.outcome_build_fail_eq_error_iff t, ?_⟩
  have hfail : (∃ e, ((b.withPolicy .fail).build t).outcome = .error e) ↔
      ∃ name, name ∈ b.missing t := by
    simp only [outcome_build_fail_eq_error_iff]
    cases b.missing t with
    | nil => simp
    | cons name more => exact ⟨fun _ => ⟨name, List.mem_cons_self⟩, fun _ => ⟨_, _, _, rfl, rfl⟩⟩
  have hne : ∀ names : List String, names ≠ [] ↔ ∃ name, name ∈ names := fun names =>
    ⟨List.exists_mem_of_ne_nil names, fun ⟨_, h⟩ => List.ne_nil_of_mem h⟩
  rw [hfail]
  simp only [mem_missing_iff, exists_or, hne]
  refine or_congr Iff.rfl ⟨?_, ?_⟩
  · rintro ⟨name, d, hd, hname⟩
    exact ⟨d, hd, name, hname⟩
  · rintro ⟨d, hd, name, hname⟩
    exact ⟨name, d, hd, hname⟩

/-- Two default headers whose names differ in case only; the second is never sent, and still its
unset variable is missing and stops a strict build. -/
theorem shadowed_default_missing :
    let b : RequestBuilder :=
      ⟨(Store.new .fail).set "a" "1", none, [("X-Trace", "\x7b\x7ba\x7d\x7d"),
        ("x-trace", "\x7b\x7bb\x7d\x7d")]⟩
    let t : Template := .new .get "/x"
    b.missing t = ["b"] ∧
      (b.withPolicy .leaveAsIs).build t = ⟨[], .ok ⟨.get, "/x", [("X-Trace", "1")], none⟩⟩ ∧
      b.build t = ⟨[.unsetVariables ["b"]], .error (.undefined "b")⟩ := by
  refine ⟨?_, ?_, ?_⟩
  · decide +kernel
  · exact Traced.ext (by decide +kernel) (by decide +kernel)
  · exact Traced.ext (by decide +kernel) (by decide +kernel)

end RequestBuilder

end ApiSuite
