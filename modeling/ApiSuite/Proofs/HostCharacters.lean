import ApiSuite.Proofs.Utf8
import ApiSuite.Url

/-! # Blanks and controls in a host

A host is read through percent decoding, UTF-8, a table of what characters count as, and
composition. None of these steps lets a blank or a control of ASCII vanish, and such a character is
not allowed in a domain, so a host that ends in one is refused.
-/
namespace ApiSuite

namespace Url

/-- A byte that no encoding is made of stays. -/
theorem mem_percentDecode {bytes : List UInt8} {b : UInt8} (hpercent : b ≠ 0x25)
    (hdigit : hexValue? b.toNat = none) (h : b ∈ bytes) : b ∈ percentDecode bytes := by
  fun_induction percentDecode bytes with
  | case1 high low rest byte hbyte ih =>
    have hhigh : b ≠ high := by
      rintro rfl
      simp [hexByte?, hdigit] at hbyte
    have hlow : b ≠ low := by
      rintro rfl
      simp [hexByte?, hdigit] at hbyte
    have hrest : b ∈ rest := by simpa [hpercent, hhigh, hlow] using h
    exact List.mem_cons_of_mem _ (ih hrest)
  | case2 high low rest hnone ih =>
    exact List.mem_cons_of_mem _ (ih (List.mem_of_ne_of_mem hpercent h))
  | case3 first rest hnot ih =>
    rcases List.mem_cons.1 h with rfl | h
    · exact List.mem_cons_self
    · exact List.mem_cons_of_mem _ (ih h)
  | case4 => cases h

end Url

/-! ## Composition -/

namespace Text

def IsLow (c : Char) : Prop := c.toNat ≤ 0x20

instance (c : Char) : Decidable (IsLow c) := inferInstanceAs (Decidable (c.toNat ≤ 0x20))

/-- Composites are above the letters of ASCII, and so is what is joined to the first of their parts;
the first part is no low character. -/
theorem lt_of_mem_composites {range : CodeRange (List Nat)} (h : range ∈ composites.ranges) :
    0x7A < range.first ∧ (∀ n ∈ range.value, 0x20 < n) ∧ ∀ n ∈ range.value.tail, 0x7A < n := by
  have hall : ∀ r ∈ composites.ranges.toList,
      (decide (0x7A < r.first) && (r.value.all fun n => decide (0x20 < n)) &&
        r.value.tail.all fun n => decide (0x7A < n)) = true := by
    unfold composites CodeTable.ofText
    rw [show String.toList _ = _ from String.toList_ofList]
    exact List.all_eq_true.1 (by decide +kernel)
  simpa [and_assoc] using hall range (Array.mem_toList_iff.2 h)

theorem CodeTable.mem_of_search {α : Type} {t : CodeTable α} {n low high : Nat}
    {h : high ≤ t.ranges.size} {range : CodeRange α} (found : t.search n low high h = some range) :
    range ∈ t.ranges := by
  fun_induction search t n low high h with
  | case1 low high h hlt middle hmiddle r hfirst ih => exact ih found
  | case2 low high h hlt middle hmiddle r hfirst hlast ih => exact ih found
  | case3 low high h hlt middle hmiddle r hfirst hlast =>
    obtain rfl := Option.some.inj found
    exact Array.getElem_mem _
  | case4 => cases found

theorem not_isLow_of_isSyllable {c : Char} (h : isSyllable c = true) : ¬IsLow c := by
  unfold isSyllable at h
  rw [Bool.and_eq_true, decide_eq_true_eq, firstSyllable] at h
  unfold IsLow
  omega

theorem IsLow.le {c : Char} (h : IsLow c) : c.toNat ≤ 0x7A := Nat.le_trans h (by decide)

theorem isSyllable_of_le {c : Char} (h : c.toNat ≤ 0x7A) : isSyllable c = false := by
  have hfirst : ¬firstSyllable ≤ c.toNat := by
    unfold firstSyllable
    omega
  rw [isSyllable, decide_eq_false hfirst, Bool.false_and]

theorem split?_of_le {c : Char} (h : c.toNat ≤ 0x7A) : split? c = none := by
  have hvalue : composites.value? c = none := by
    unfold CodeTable.value?
    cases hfound : composites.find? c with
    | none => rfl
    | some range =>
      have hlow := (lt_of_mem_composites (CodeTable.mem_of_search hfound)).1
      have hfirst := (CodeTable.bounds_of_search hfound).1
      omega
  simp [split?, isSyllable_of_le h, hvalue]

theorem splitAll_of_le {c : Char} (h : c.toNat ≤ 0x7A) (depth : Nat) : splitAll depth c = [c] := by
  cases depth with
  | zero => rfl
  | succ depth => rw [splitAll, split?_of_le h]

theorem not_isLow_of_joinSyllable? {a b c : Char} (h : joinSyllable? a b = some c) :
    ¬IsLow a ∧ ¬IsLow b := by
  unfold joinSyllable? at h
  split at h
  · rename_i hletters
    simp only [Bool.and_eq_true, decide_eq_true_eq] at hletters
    unfold firstLead firstVowel at hletters
    unfold IsLow
    omega
  · split at h
    · rename_i htrail
      simp only [Bool.and_eq_true, decide_eq_true_eq, isOpen] at htrail
      refine ⟨not_isLow_of_isSyllable htrail.1.1.1, ?_⟩
      unfold beforeTrail at htrail
      unfold IsLow
      omega
    · cases h

theorem not_isLow_of_join? {a b c : Char} (h : join? a b = some c) : ¬IsLow a ∧ ¬IsLow b := by
  unfold join? at h
  split at h
  · rename_i d hd
    exact not_isLow_of_joinSyllable? hd
  · obtain ⟨range, hfound, -⟩ := Option.map_eq_some_iff.1 h
    have hparts := (lt_of_mem_composites (Array.mem_of_find?_eq_some hfound)).2.1
    have hvalue : range.value = [a.toNat, b.toNat] := by simpa using Array.find?_some hfound
    rw [hvalue] at hparts
    exact ⟨Nat.not_le.2 (hparts _ (by simp)), Nat.not_le.2 (hparts _ (by simp))⟩

theorem mem_placeMark {c d : Char} {cs : List Char} : c ∈ placeMark d cs ↔ c = d ∨ c ∈ cs := by
  induction cs with
  | nil => simp [placeMark]
  | cons first rest ih =>
    rw [placeMark]
    split
    · rw [List.mem_cons, ih, List.mem_cons]
      exact or_left_comm
    · exact List.mem_cons

theorem mem_ordered {c : Char} {cs : List Char} : c ∈ ordered cs ↔ c ∈ cs := by
  induction cs with
  | nil => rfl
  | cons first rest ih =>
    rw [ordered, List.foldr_cons, mem_placeMark, ← ordered, ih, List.mem_cons]

/-- Only the two characters that are joined make way for a composite. -/
theorem mem_compose {c base : Char} {held rest : List Char} (hc : IsLow c)
    (h : c ∈ base :: held.reverse ++ rest) : c ∈ compose base held rest := by
  induction rest generalizing base held with
  | nil => simpa [compose] using h
  | cons first rest ih =>
    rw [compose]
    split
    · rename_i composite hjoin
      split at hjoin
      · obtain ⟨hbase, hfirst⟩ := not_isLow_of_join? hjoin
        have hne : c ≠ base ∧ c ≠ first := by
          constructor
          · rintro rfl
            exact hbase hc
          · rintro rfl
            exact hfirst hc
        exact ih (List.mem_cons_of_mem _ (by simpa [hne.1, hne.2] using h))
      · cases hjoin
    · split
      · rcases List.mem_append.1 h with h | h
        · exact List.mem_append_left _ h
        · exact List.mem_append_right _ (ih h)
      · exact ih (by simpa [or_left_comm] using h)

theorem mem_composed {c : Char} {cs : List Char} (hc : IsLow c) (h : c ∈ cs) :
    c ∈ composed cs := by
  have hsplit : c ∈ cs.flatMap (splitAll splitDepth) :=
    List.mem_flatMap.2 ⟨c, h, by rw [splitAll_of_le hc.le]; exact List.mem_singleton_self c⟩
  have hordered := mem_ordered.2 hsplit
  unfold composed
  dsimp only
  generalize ordered (cs.flatMap (splitAll splitDepth)) = parts at hordered ⊢
  have hfront : parts.takeWhile (fun c => combiningClass c != 0) <+: parts :=
    List.takeWhile_prefix _
  rw [← List.prefix_iff_eq_append.1 hfront] at hordered
  rcases List.mem_append.1 hordered with h | h
  · exact List.mem_append_left _ h
  · refine List.mem_append_right _ ?_
    split
    · rename_i hnil
      rw [hnil] at h
      cases h
    · rename_i base rest hcons
      rw [hcons] at h
      exact mem_compose hc h

end Text

namespace Url

open Text

theorem toLower_of_not_upper {c : Char} (h : ¬(65 ≤ c.toNat ∧ c.toNat ≤ 90)) : c.toLower = c :=
  dif_neg h

theorem mapping?_of_isLow {c : Char} (h : IsLow c) : Domain.mapping? c = some [c] := by
  have hlt : c.toNat < 0x80 := Nat.lt_of_le_of_lt h (by decide)
  have hlower : c.toLower = c :=
    toLower_of_not_upper fun hupper => absurd (Nat.le_trans hupper.1 h) (by decide)
  rw [Domain.mapping?, if_pos hlt, hlower]

theorem exists_of_mapM_eq_some {α β : Type} {f : α → Option β} {xs : List α} {ys : List β}
    (h : xs.mapM f = some ys) {x : α} (hx : x ∈ xs) : ∃ y ∈ ys, f x = some y := by
  induction xs generalizing ys with
  | nil => cases hx
  | cons first rest ih =>
    rw [List.mapM_cons] at h
    obtain ⟨y, hy, h⟩ := Option.bind_eq_some_iff.1 h
    obtain ⟨more, hmore, h⟩ := Option.bind_eq_some_iff.1 h
    obtain rfl := Option.some.inj h
    rcases List.mem_cons.1 hx with rfl | hx
    · exact ⟨y, List.mem_cons_self, hy⟩
    · obtain ⟨z, hz, hfz⟩ := ih hmore hx
      exact ⟨z, List.mem_cons_of_mem _ hz, hfz⟩

theorem counted?_eq_none {cs : List Char} {c : Char} (hc : IsLow c) (h : c ∈ cs) :
    Domain.counted? cs = none := by
  unfold Domain.counted?
  cases hmapped : cs.mapM Domain.mapping? with
  | none => rfl
  | some mapped =>
    obtain ⟨form, hform, hmap⟩ := exists_of_mapM_eq_some hmapped h
    rw [mapping?_of_isLow hc] at hmap
    obtain rfl := Option.some.inj hmap
    have hflat : c ∈ mapped.flatten := List.mem_flatten.2 ⟨_, hform, List.mem_singleton_self c⟩
    have hforbidden : Domain.isForbidden c = true := by
      unfold IsLow at hc
      simp [Domain.isForbidden, hc]
    have hany : (composed mapped.flatten).any Domain.isForbidden = true :=
      List.any_eq_true.2 ⟨c, mem_composed hc hflat, hforbidden⟩
    simp only [Option.bind_eq_bind, Option.bind_some, if_pos hany]

/-- The bytes of a text hold its ASCII characters as they are. -/
theorem mem_encode {text : List Char} {c : Char} (hc : c.toNat < 0x80) (h : c ∈ text) :
    UInt8.ofNat c.toNat ∈ encode (.ofList text) := by
  rw [encode, String.toList_ofList]
  refine List.mem_flatMap.2 ⟨c, h, ?_⟩
  rw [utf8EncodeChar_of_lt hc]
  exact List.mem_singleton_self _

/-- A domain is refused when a blank or a control of ASCII stands anywhere in it. -/
theorem domain_refused {text : List Char} {c : Char} (hc : IsLow c) (h : c ∈ text) :
    Domain.parse (percentDecode (encode (.ofList text))) = .error .invalidDomain := by
  have hsmall : c.toNat < 0x80 := Nat.lt_of_le_of_lt hc (by decide)
  have hbyte : (UInt8.ofNat c.toNat).toNat = c.toNat := toNat_ofNat_of_lt hsmall
  have hdigit : hexValue? (UInt8.ofNat c.toNat).toNat = none := by
    rw [hbyte]
    unfold IsLow at hc
    grind [hexValue?]
  have hpercent : UInt8.ofNat c.toNat ≠ 0x25 := by
    intro heq
    have hsame : c.toNat = 0x25 := hbyte.symm.trans (congrArg UInt8.toNat heq)
    unfold IsLow at hc
    omega
  have hascii : UInt8.ofNat c.toNat < 0x80 := by
    rw [UInt8.lt_iff_toNat_lt, hbyte]
    exact hsmall
  have hdecoded := mem_percentDecode hpercent hdigit (mem_encode hsmall h)
  unfold Domain.parse
  cases htext : toText (percentDecode (encode (.ofList text))) with
  | error e => rfl
  | ok decoded =>
    rw [← toText_eq_ok_iff.1 htext] at hdecoded
    have hmem := mem_of_mem_encode hascii hdecoded
    rw [hbyte, Char.ofNat_toNat] at hmem
    dsimp only
    rw [counted?_eq_none hc hmem]
    rfl

theorem namedHost_refused {text : List Char} {c : Char} (hc : IsLow c)
    (hlast : text.getLast? = some c) : ∃ e, namedHost text = .error e := by
  unfold namedHost
  split
  · refine ⟨.invalidIpv6, ?_⟩
    rw [ipv6Host, if_neg]
    rw [hlast]
    rintro h
    obtain rfl := Option.some.inj h
    exact absurd hc (by decide)
  · rw [domain_refused hc (List.mem_of_getLast? hlast)]
    exact ⟨_, rfl⟩

end Url

end ApiSuite
