import ApiSuite.Capture
import ApiSuite.Proofs.DefaultHeaders

/-! # Spellings of a header name

A response keeps a value for each spelling of a header name, and a lookup takes one of those whose
name it asks for in any case. Which one it takes depends on the order in which the headers are
visited. After a header has been added, a lookup gives the added value for sure when no other
spelling of the name has another value; otherwise the value of an older spelling can be found. The
headers of all other names stay as they were.
-/
namespace ApiSuite

theorem sameName_comm {a b : String} : sameName a b = sameName b a := by
  rw [Bool.eq_iff_iff, Headers.sameName_iff, Headers.sameName_iff, eq_comm]

theorem sameName_trans {a b c : String} (hab : sameName a b = true) (hbc : sameName b c = true) :
    sameName a c = true := by
  rw [Headers.sameName_iff] at *
  exact hab.trans hbc

namespace Headers

variable {headers : List (String × String)} {name value : String}

theorem exists_of_get? (h : get? headers name = some value) :
    ∃ k, (k, value) ∈ headers ∧ sameName k name = true := by
  obtain ⟨⟨k, v⟩, hfound, hv⟩ := Option.map_eq_some_iff.1 h
  obtain rfl : v = value := hv
  exact ⟨k, List.mem_of_find?_eq_some hfound, by simpa using List.find?_some hfound⟩

theorem get?_isSome_of_mem {e : String × String} (he : e ∈ headers)
    (hname : sameName e.1 name = true) : ∃ v, get? headers name = some v := by
  rw [← Option.isSome_iff_exists, get?, Option.isSome_map, List.find?_isSome]
  exact ⟨e, he, hname⟩

/-- An entry of another name that is put in its place is not found. -/
theorem get?_insert_of_ne {n : String} (w : String) (h : sameName n name = false)
    (entries : List (String × String)) :
    get? (Entries.insert n w entries) name = get? entries name := by
  induction entries with
  | nil => simp [get?, Entries.insert, h]
  | cons e rest ih =>
    obtain ⟨k, v⟩ := e
    unfold Entries.insert
    split
    · simp [get?, h]
    · split
      · rename_i heq
        subst heq
        simp [get?, h]
      · simp only [get?, List.find?_cons] at ih ⊢
        cases hk : sameName k name with
        | true => rfl
        | false => exact ih

end Headers

namespace Response

variable (r : Response)

/-- In some order of the headers the lookup of the name gives the value. -/
def Finds (name value : String) : Prop :=
  ∃ listing, listing.Perm r.headers.entries ∧ Headers.get? listing name = some value

/-- A spelling of the name other than the name itself has the value. -/
def Respells (name value : String) : Prop :=
  ∃ k, k ≠ name ∧ sameName k name = true ∧ r.headers.get? k = some value

variable {r} {name value : String}

/-- What has the name in any spelling can come first. -/
theorem finds_iff :
    r.Finds name value ↔ ∃ k, sameName k name = true ∧ r.headers.get? k = some value := by
  constructor
  · rintro ⟨listing, hperm, hget⟩
    obtain ⟨k, hk, hname⟩ := Headers.exists_of_get? hget
    exact ⟨k, hname, r.headers.mem_entries_iff.1 (hperm.mem_iff.1 hk)⟩
  · rintro ⟨k, hname, hget⟩
    have hmem : (k, value) ∈ r.headers.entries := r.headers.mem_entries_iff.2 hget
    refine ⟨(k, value) :: r.headers.entries.erase (k, value), ?_, ?_⟩
    · exact (List.perm_cons_erase hmem).symm
    · simp [Headers.get?, hname]

theorem finds_of_header? (h : r.header? name = some value) : r.Finds name value :=
  ⟨r.headers.entries, List.Perm.refl _, h⟩

variable (r) {n m : String} (w : String)

theorem finds_addHeader_iff (h : sameName m n = true) {v : String} :
    (r.addHeader n w).Finds m v ↔ v = w ∨ r.Respells n v := by
  have hget : ∀ k, (r.addHeader n w).headers.get? k = if n = k then some w else r.headers.get? k :=
    r.headers.get?_insert n w
  rw [finds_iff]
  constructor
  · rintro ⟨k, hk, hv⟩
    rw [hget] at hv
    by_cases hn : n = k
    · rw [if_pos hn, Option.some.injEq] at hv
      exact .inl hv.symm
    · rw [if_neg hn] at hv
      exact .inr ⟨k, Ne.symm hn, sameName_trans hk h, hv⟩
  · rintro (rfl | ⟨k, hk, hkn, hv⟩)
    · exact ⟨n, by rwa [sameName_comm], by rw [hget, if_pos rfl]⟩
    · refine ⟨k, sameName_trans hkn (by rwa [sameName_comm]), ?_⟩
      rw [hget, if_neg (Ne.symm hk), hv]

theorem finds_addHeader_of_ne (h : sameName m n = false) {v : String} :
    (r.addHeader n w).Finds m v ↔ r.Finds m v := by
  rw [finds_iff, finds_iff]
  refine exists_congr fun k => and_congr_right fun hk => ?_
  have hne : n ≠ k := by
    rintro rfl
    rw [sameName_comm, h] at hk
    cases hk
  change (r.headers.insert n w).get? k = _ ↔ _
  rw [SortedMap.get?_insert, if_neg hne]

theorem header?_addHeader_of_ne (h : sameName m n = false) :
    (r.addHeader n w).header? m = r.header? m :=
  Headers.get?_insert_of_ne w (by rwa [sameName_comm]) _

/-- Without another spelling that has another value, every order gives the added value. -/
theorem header?_addHeader (h : sameName m n = true) (hr : ∀ v, r.Respells n v → v = w) :
    (r.addHeader n w).header? m = some w := by
  have hmem : (n, w) ∈ (r.addHeader n w).headers.entries := by
    refine (SortedMap.mem_entries_iff _).2 ?_
    exact (r.headers.get?_insert n w n).trans (if_pos rfl)
  obtain ⟨v, hv⟩ : ∃ v, (r.addHeader n w).header? m = some v :=
    Headers.get?_isSome_of_mem hmem (by rwa [sameName_comm])
  rcases (r.finds_addHeader_iff w h).1 (finds_of_header? hv) with rfl | hother
  · exact hv
  · rw [hv, hr v hother]

/-- An added header is found under its name in any case when no other spelling of the name has
another value; otherwise a lookup can also give the value of the other spelling. Lookups of other
names give what they gave before. -/
theorem added_header_found :
    (∀ m, sameName m n = true →
      (∀ v, (r.addHeader n w).Finds m v ↔ v = w ∨ r.Respells n v) ∧
      ((∀ v, r.Respells n v → v = w) →
        (r.addHeader n w).header? m = some w ∧
          ∀ x, (Capture.header x m).extract (r.addHeader n w) = .ok (.str w))) ∧
    ∀ m, sameName m n = false →
      (∀ v, (r.addHeader n w).Finds m v ↔ r.Finds m v) ∧
        (r.addHeader n w).header? m = r.header? m := by
  refine ⟨fun m hm => ⟨fun v => r.finds_addHeader_iff w hm, fun hr => ?_⟩, fun m hm => ?_⟩
  · have hfound := r.header?_addHeader w hm hr
    refine ⟨hfound, fun x => ?_⟩
    rw [Capture.extract, Capture.header]
    dsimp only
    rw [hfound]
  · exact ⟨fun v => r.finds_addHeader_of_ne w hm, r.header?_addHeader_of_ne w hm⟩

/-- A header that is replaced under its own spelling is found under any, and others stay. -/
theorem replaced_header_found :
    let r := ((new 200 "OK").addHeader "X-A" "old").addHeader "x-b" "b"
    (r.addHeader "X-A" "new").header? "x-a" = some "new" ∧
      (Capture.header "v" "x-a").extract (r.addHeader "X-A" "new") = .ok (.str "new") ∧
      (r.addHeader "X-A" "new").header? "X-B" = r.header? "X-B" := by
  intro r
  have hentries : r.headers.entries = [("X-A", "old"), ("x-b", "b")] := by decide
  have hother : ∀ v, r.Respells "X-A" v → v = "new" := by
    rintro v ⟨k, hk, hsame, hget⟩
    have hmem := r.headers.mem_entries_iff.2 hget
    rw [hentries] at hmem
    simp only [List.mem_cons, Prod.mk.injEq, List.not_mem_nil, or_false] at hmem
    rcases hmem with ⟨rfl, -⟩ | ⟨rfl, -⟩
    · exact absurd rfl hk
    · exact absurd hsame (by decide)
  obtain ⟨hsame, hothers⟩ := r.added_header_found (n := "X-A") "new"
  obtain ⟨hfound, hread⟩ := (hsame "x-a" (by decide)).2 hother
  exact ⟨hfound, hread "v", (hothers "X-B" (by decide)).2⟩

/-- The value of an older spelling is found in place of the one that was added last. -/
theorem older_spelling_found :
    let r := (new 200 "OK").addHeader "X-A" "old"
    (r.addHeader "x-a" "new").header? "x-a" = some "old" ∧
      (Capture.header "v" "x-a").extract (r.addHeader "x-a" "new") = .ok (.str "old") := by
  decide

end Response

end ApiSuite
