import ApiSuite.Files.Path

/-! # Parts of a path

The parts of a path are what it starts from and the names in it that lead somewhere. The directory
above a path is the beginning of its text with all of its parts but the last. So a path has one
directory above it for each of its parts, where the root does not count: going up ends at the root,
or at the empty path when the path is relative.
-/
namespace ApiSuite.Path

theorem names_slash (rest : List Char) : names ('/' :: rest) = [] :: names rest := by
  simp [names, Text.parts]

theorem names_cons_of_ne {c : Char} (h : c ≠ '/') {rest name : List Char}
    {more : List (List Char)} (hrest : names rest = name :: more) :
    names (c :: rest) = (c :: name) :: more := by
  rw [names, Text.parts] at hrest
  rw [names, Text.parts, List.foldr_cons, hrest, if_neg (by simpa using h)]

theorem exists_names (path : List Char) : ∃ name more, names path = name :: more := by
  induction path with
  | nil => exact ⟨[], [], rfl⟩
  | cons c rest ih =>
    obtain ⟨name, more, hrest⟩ := ih
    by_cases hc : c = '/'
    · exact ⟨[], names rest, by rw [hc, names_slash]⟩
    · exact ⟨c :: name, more, names_cons_of_ne hc hrest⟩

theorem names_of_notMem {name : List Char} (h : '/' ∉ name) : names name = [name] := by
  induction name with
  | nil => rfl
  | cons c rest ih =>
    obtain ⟨hc, hrest⟩ := not_or.1 (mt List.mem_cons.2 h)
    exact names_cons_of_ne (Ne.symm hc) (ih hrest)

theorem names_append (path rest : List Char) :
    names (path ++ '/' :: rest) = names path ++ names rest := by
  induction path with
  | nil => exact names_slash rest
  | cons c path ih =>
    by_cases hc : c = '/'
    · rw [hc, List.cons_append, names_slash, names_slash, ih, List.cons_append]
    · obtain ⟨name, more, hpath⟩ := exists_names path
      rw [hpath] at ih
      rw [List.cons_append, names_cons_of_ne hc ih, names_cons_of_ne hc hpath]
      rfl

theorem notMem_of_mem_names {path name : List Char} (h : name ∈ names path) : '/' ∉ name := by
  induction path generalizing name with
  | nil =>
    obtain rfl := List.mem_singleton.1 h
    exact List.not_mem_nil
  | cons c rest ih =>
    obtain ⟨first, more, hrest⟩ := exists_names rest
    by_cases hc : c = '/'
    · rw [hc, names_slash] at h
      rcases List.mem_cons.1 h with rfl | h
      · exact List.not_mem_nil
      · exact ih h
    · rw [names_cons_of_ne hc hrest] at h
      rcases List.mem_cons.1 h with rfl | h
      · have hfirst := ih (hrest ▸ List.mem_cons_self)
        exact fun hmem => (List.mem_cons.1 hmem).elim (Ne.symm hc) hfirst
      · exact ih (hrest ▸ List.mem_cons_of_mem _ h)

theorem ofNames_cons {name : List Char} {more : List (List Char)} (h : more ≠ []) :
    ofNames (name :: more) = name ++ '/' :: ofNames more := by
  cases more with
  | nil => exact absurd rfl h
  | cons _ _ => rfl

theorem ofNames_append {front back : List (List Char)} (hfront : front ≠ []) (hback : back ≠ []) :
    ofNames (front ++ back) = ofNames front ++ '/' :: ofNames back := by
  induction front with
  | nil => exact absurd rfl hfront
  | cons name rest ih =>
    rw [List.cons_append, ofNames_cons (List.append_ne_nil_of_right_ne_nil rest hback)]
    cases rest with
    | nil => rfl
    | cons other more =>
      rw [ih (List.cons_ne_nil _ _), ofNames_cons (List.cons_ne_nil _ _), List.append_assoc]
      rfl

theorem ofNames_names (path : List Char) : ofNames (names path) = path := by
  induction path with
  | nil => rfl
  | cons c rest ih =>
    obtain ⟨name, more, hrest⟩ := exists_names rest
    rw [hrest] at ih
    by_cases hc : c = '/'
    · rw [hc, names_slash, ofNames_cons (hrest ▸ List.cons_ne_nil _ _), hrest, ih]
      rfl
    · rw [names_cons_of_ne hc hrest]
      cases more with
      | nil => exact congrArg (c :: ·) ih
      | cons other more => exact congrArg (c :: ·) ih

theorem names_ofNames {front : List (List Char)} (hne : front ≠ [])
    (h : ∀ name ∈ front, '/' ∉ name) : names (ofNames front) = front := by
  induction front with
  | nil => exact absurd rfl hne
  | cons name rest ih =>
    have hname := h name List.mem_cons_self
    cases rest with
    | nil => exact names_of_notMem hname
    | cons other more =>
      have hrest := ih (List.cons_ne_nil _ _) fun n hn => h n (List.mem_cons_of_mem _ hn)
      rw [ofNames_cons (List.cons_ne_nil _ _), names_append, names_of_notMem hname, hrest]
      rfl

theorem cases_of_names_nil {path : List Char} {more : List (List Char)}
    (h : names path = [] :: more) : path = [] ∨ ∃ rest, path = '/' :: rest := by
  cases path with
  | nil => exact .inl rfl
  | cons c rest =>
    by_cases hc : c = '/'
    · exact .inr ⟨rest, by rw [hc]⟩
    · obtain ⟨name, others, hrest⟩ := exists_names rest
      rw [names_cons_of_ne hc hrest] at h
      cases h

theorem eq_nil_of_names {path : List Char} (h : names path = [[]]) : path = [] := by
  rw [← ofNames_names path, h]
  rfl

def tailNames (path : List Char) : List (List Char) := names (path.drop (head path).length)

def leading (names : List (List Char)) : List (List Char) := names.filter fun n => !isIdle n

/-- The parts of a path: what it starts from, and the names behind it that lead somewhere. -/
def parts (path : List Char) : List (List Char) :=
  (if head path = [] then [] else [head path]) ++ leading (tailNames path)

/-- How many directories there are above a path: one for each part, unless it is the root. -/
def height (path : List Char) : Nat :=
  if path.head? = some '/' then (parts path).length - 1 else (parts path).length

theorem head_isPrefix (path : List Char) : head path <+: path := by
  unfold head
  split
  · exact List.prefix_append ['/'] _
  · exact List.prefix_refl _
  · exact List.prefix_append ['.'] _
  · exact List.nil_prefix

theorem head_append_drop (path : List Char) : head path ++ path.drop (head path).length = path :=
  List.prefix_iff_eq_append.1 (head_isPrefix path)

/-- What a path starts from can be read off its first name. -/
theorem head_of_names {path first : List Char} {more : List (List Char)}
    (h : names path = first :: more) :
    head path =
      if first = ['.'] then ['.'] else if first = [] ∧ more ≠ [] then ['/'] else [] := by
  cases path with
  | nil =>
    obtain ⟨rfl, rfl⟩ := List.cons.inj h
    rfl
  | cons c rest =>
    obtain ⟨name, others, hrest⟩ := exists_names rest
    by_cases hc : c = '/'
    · subst hc
      rw [names_slash] at h
      obtain ⟨rfl, rfl⟩ := List.cons.inj h
      simp [head, hrest]
    · rw [names_cons_of_ne hc hrest] at h
      obtain ⟨rfl, rfl⟩ := List.cons.inj h
      unfold head
      split
      · simp_all
      · simp_all [names, Text.parts]
      · simp_all [names_slash]
      · rename_i hslash hdot hdotSlash
        have hname : c :: name ≠ ['.'] := by
          intro heq
          obtain ⟨rfl, rfl⟩ := List.cons.inj heq
          rcases cases_of_names_nil hrest with rfl | ⟨rest, rfl⟩
          · exact hdot rfl
          · exact hdotSlash rest rfl
        simp [hname]

theorem head_eq_nil_iff {path first : List Char} {more : List (List Char)}
    (h : names path = first :: more) :
    head path = [] ↔ first ≠ ['.'] ∧ (first = [] → more = []) := by
  rw [head_of_names h]
  by_cases hdot : first = ['.']
  · simp [hdot]
  · simp [hdot]

/-- The last of these names leads somewhere, if there are any. -/
def Firm (names : List (List Char)) : Prop :=
  ∀ name, names.getLast? = some name → isIdle name = false

/-- Names without the idle ones at the end. -/
def firm (names : List (List Char)) : List (List Char) := (names.reverse.dropWhile isIdle).reverse

theorem firm_firm (names : List (List Char)) : Firm (firm names) := by
  intro name hname
  have hhead := List.head?_dropWhile_not isIdle names.reverse
  rw [firm, List.getLast?_reverse] at hname
  rw [hname] at hhead
  simpa using hhead

theorem exists_firm_append (names : List (List Char)) :
    ∃ gap, names = firm names ++ gap ∧ ∀ name ∈ gap, isIdle name = true := by
  refine ⟨(names.reverse.takeWhile isIdle).reverse, ?_, ?_⟩
  · rw [firm, ← List.reverse_append, List.takeWhile_append_dropWhile, List.reverse_reverse]
  · simpa using List.all_eq_true.1 (List.all_takeWhile (p := isIdle) (l := names.reverse))

theorem parent?_eq (path : List Char) :
    parent? path = match (firm (tailNames path)).reverse with
      | _ :: above => some (head path ++ ofNames (firm above.reverse))
      | [] => if head path = ['.'] then some [] else none := by
  simp only [firm, List.reverse_reverse]
  rfl

/-- Either no name of a path leads anywhere, or the last one that does stands behind the names of
the directory above. -/
theorem parent?_cases (path : List Char) :
    ((∀ name ∈ tailNames path, isIdle name = true) ∧
      parent? path = if head path = ['.'] then some [] else none) ∨
    ∃ front gap last back, tailNames path = front ++ gap ++ last :: back ∧ Firm front ∧
      (∀ name ∈ gap, isIdle name = true) ∧ isIdle last = false ∧
      (∀ name ∈ back, isIdle name = true) ∧ parent? path = some (head path ++ ofNames front) := by
  obtain ⟨back, htail, hback⟩ := exists_firm_append (tailNames path)
  rcases List.eq_nil_or_concat (firm (tailNames path)) with hnil | ⟨init, last, hinit⟩
  · refine .inl ⟨?_, by rw [parent?_eq, hnil]; rfl⟩
    rwa [htail, hnil]
  · have hlast : isIdle last = false :=
      firm_firm (tailNames path) last (by rw [hinit, List.concat_eq_append, List.getLast?_concat])
    obtain ⟨gap, hgap, hidle⟩ := exists_firm_append init
    refine .inr ⟨firm init, gap, last, back, ?_, firm_firm init, hidle, hlast, hback, ?_⟩
    · rw [← hgap, htail, hinit]
      simp
    · rw [parent?_eq, hinit, List.concat_eq_append, List.reverse_append]
      simp

theorem forms_of_head (path : List Char) :
    (∃ rest, path = '/' :: rest) ∨ path = ['.'] ∨ (∃ rest, path = '.' :: '/' :: rest) ∨
      head path = [] := by
  unfold head
  split
  · exact .inl ⟨_, rfl⟩
  · exact .inr (.inl rfl)
  · exact .inr (.inr (.inl ⟨_, rfl⟩))
  · exact .inr (.inr (.inr rfl))

theorem head_head (path : List Char) : head (head path) = head path := by
  rcases forms_of_head path with ⟨rest, rfl⟩ | rfl | ⟨rest, rfl⟩ | hhead
  · rfl
  · rfl
  · rfl
  · rw [hhead]
    rfl

theorem notMem_of_tailNames {path : List Char} {front back : List (List Char)}
    (h : tailNames path = front ++ back) : ∀ name ∈ front, '/' ∉ name := by
  intro name hname
  have hmem : name ∈ tailNames path := h ▸ List.mem_append_left back hname
  exact notMem_of_mem_names hmem

/-- The directory above a path starts like the path. -/
theorem head_above {path : List Char} {front back : List (List Char)} (hback : back ≠ [])
    (h : tailNames path = front ++ back) (hfirm : Firm front) :
    head (head path ++ ofNames front) = head path := by
  cases front with
  | nil => exact (congrArg head (List.append_nil _)).trans (head_head path)
  | cons first more =>
    rcases forms_of_head path with ⟨rest, rfl⟩ | rfl | ⟨rest, rfl⟩ | hhead
    · rfl
    · obtain ⟨-, hnil⟩ := List.cons.inj h
      exact absurd (List.append_eq_nil_iff.1 hnil.symm).2 hback
    · have hnames : names ('/' :: rest) = first :: (more ++ back) := h
      rw [names_slash] at hnames
      obtain ⟨rfl, -⟩ := List.cons.inj hnames
      have hmore : more ≠ [] := by
        rintro rfl
        cases hfirm [] rfl
      rw [ofNames_cons hmore]
      rfl
    · have hnames : names path = first :: (more ++ back) := by
        rw [tailNames, hhead] at h
        exact h
      obtain ⟨hdot, hmore⟩ := (head_eq_nil_iff hnames).1 hhead
      have hback' : more ++ back ≠ [] := List.append_ne_nil_of_right_ne_nil more hback
      have habove : names (ofNames (first :: more)) = first :: more :=
        names_ofNames (List.cons_ne_nil _ _) (notMem_of_tailNames h)
      rw [hhead, List.nil_append, head_eq_nil_iff habove]
      exact ⟨hdot, fun hfirst => absurd (hmore hfirst) hback'⟩

theorem leading_append (names more : List (List Char)) :
    leading (names ++ more) = leading names ++ leading more :=
  List.filter_append names more

theorem leading_of_idle {names : List (List Char)} (h : ∀ name ∈ names, isIdle name = true) :
    leading names = [] :=
  List.filter_eq_nil_iff.2 fun name hname => by simp [h name hname]

theorem leading_cons {name : List Char} (h : isIdle name = false) (more : List (List Char)) :
    leading (name :: more) = name :: leading more :=
  List.filter_cons_of_pos (by simp [h])

theorem leading_names_ofNames {front : List (List Char)} (h : ∀ name ∈ front, '/' ∉ name) :
    leading (names (ofNames front)) = leading front := by
  cases front with
  | nil => rfl
  | cons first more => rw [names_ofNames (List.cons_ne_nil _ _) h]

theorem height_eq (path : List Char) :
    height path = (leading (tailNames path)).length + if head path = ['.'] then 1 else 0 := by
  rcases forms_of_head path with ⟨rest, rfl⟩ | rfl | ⟨rest, rfl⟩ | hhead
  · rfl
  · rfl
  · simp [height, parts, head, Nat.add_comm]
  · have hslash : path.head? ≠ some '/' := by
      intro h
      obtain ⟨rest, rfl⟩ := List.head?_eq_some_iff.1 h
      cases hhead
    rw [height, if_neg hslash, parts, hhead]
    rfl

theorem tailNames_of_head {start rest : List Char} (h : head (start ++ rest) = start) :
    tailNames (start ++ rest) = names rest := by
  rw [tailNames, h, List.drop_left]

theorem above_isPrefix {path : List Char} {front back : List (List Char)}
    (h : tailNames path = front ++ back) : head path ++ ofNames front <+: path := by
  have hrest : path.drop (head path).length = ofNames (front ++ back) := by
    rw [← h, tailNames, ofNames_names]
  have hfront : ofNames front <+: ofNames (front ++ back) := by
    cases front with
    | nil => exact List.nil_prefix
    | cons first more =>
      by_cases hback : back = []
      · simp [hback]
      · rw [ofNames_append (List.cons_ne_nil _ _) hback]
        exact List.prefix_append _ _
  calc head path ++ ofNames front
    _ <+: head path ++ path.drop (head path).length :=
      (List.prefix_append_right_inj _).2 (hrest ▸ hfront)
    _ = path := head_append_drop path

theorem leading_above {path : List Char} {front back : List (List Char)}
    (hhead : head (head path ++ ofNames front) = head path)
    (h : tailNames path = front ++ back) :
    leading (tailNames (head path ++ ofNames front)) = leading front := by
  rw [tailNames_of_head hhead, leading_names_ofNames (notMem_of_tailNames h)]

theorem leading_last {front gap back : List (List Char)} {last : List Char}
    (hgap : ∀ name ∈ gap, isIdle name = true) (hlast : isIdle last = false)
    (hback : ∀ name ∈ back, isIdle name = true) :
    leading (front ++ (gap ++ last :: back)) = leading front ++ [last] := by
  rw [leading_append, leading_append, leading_of_idle hgap, leading_cons hlast,
    leading_of_idle hback]
  rfl

/-- The directory above a path is a beginning of it and has all of its parts but the last. -/
theorem parent?_eq_some {path above : List Char} (h : parent? path = some above) :
    above <+: path ∧ parts above = (parts path).dropLast ∧ height path = height above + 1 := by
  rcases parent?_cases path with ⟨hidle, hparent⟩ |
    ⟨front, gap, last, back, htail, hfirm, hgap, hlast, hback, hparent⟩
  · rw [h] at hparent
    split at hparent
    · rename_i hdot
      obtain rfl := Option.some.inj hparent
      have hleading := leading_of_idle hidle
      simp only [parts, height_eq, hdot, hleading]
      exact ⟨List.nil_prefix, rfl, rfl⟩
    · cases hparent
  · obtain rfl := Option.some.inj (h.symm.trans hparent)
    rw [List.append_assoc] at htail
    have hhead := head_above (List.append_ne_nil_of_right_ne_nil gap (by simp)) htail hfirm
    have habove := leading_above hhead htail
    have hpath : leading (tailNames path) = leading front ++ [last] := by
      rw [htail, leading_last hgap hlast hback]
    refine ⟨above_isPrefix htail, ?_, ?_⟩
    · rw [parts, parts, hhead, habove, hpath, ← List.append_assoc, List.dropLast_concat]
    · rw [height_eq, height_eq, hhead, habove, hpath, List.length_append]
      exact Nat.add_right_comm _ _ _

/-- A dot counts where a path opens with it and nowhere else. -/
example : parent? "./a//b/./".toList = some "./a".toList ∧
    parts "./a//b/./".toList = [['.'], ['a'], ['b']] := by
  decide

theorem eq_nil_of_idle {path : List Char} (hhead : head path = [])
    (hidle : ∀ name ∈ names path, isIdle name = true) : path = [] := by
  obtain ⟨first, more, hnames⟩ := exists_names path
  have hfirst : first = [] ∨ first = ['.'] := by
    simpa [isIdle] using hidle first (hnames ▸ List.mem_cons_self)
  obtain ⟨hdot, hmore⟩ := (head_eq_nil_iff hnames).1 hhead
  obtain rfl := hfirst.resolve_right hdot
  exact eq_nil_of_names (by rw [hnames, hmore rfl])

theorem parent?_eq_none {path : List Char} (h : parent? path = none) :
    height path = 0 ∧ (path.head? ≠ some '/' → path = []) := by
  rcases parent?_cases path with ⟨hidle, hparent⟩ | ⟨front, gap, last, back, -, -, -, -, -, hparent⟩
  · rw [h] at hparent
    split at hparent
    · cases hparent
    · rename_i hdot
      refine ⟨by rw [height_eq, leading_of_idle hidle, if_neg hdot]; rfl, fun hslash => ?_⟩
      rcases forms_of_head path with ⟨rest, rfl⟩ | rfl | ⟨rest, rfl⟩ | hhead
      · exact absurd rfl hslash
      · exact absurd rfl hdot
      · exact absurd rfl hdot
      · rw [tailNames, hhead] at hidle
        exact eq_nil_of_idle hhead hidle
  · cases h.symm.trans hparent

theorem head?_ne_of_isPrefix {path above : List Char} {c : Char} (h : above <+: path)
    (hc : path.head? ≠ some c) : above.head? ≠ some c := by
  obtain ⟨rest, rfl⟩ := h
  cases above with
  | nil => simp
  | cons d more => exact hc

theorem length_ancestors (n : Nat) (path : List Char) :
    (ancestors n path).length = min n (height path) + 1 := by
  induction n generalizing path with
  | zero => simp [ancestors]
  | succ n ih =>
    rw [ancestors]
    cases hparent : parent? path with
    | none => simp [(parent?_eq_none hparent).1]
    | some above =>
      obtain ⟨-, -, hheight⟩ := parent?_eq_some hparent
      simp only [List.length_cons, ih]
      omega

/-- Each directory on the way up is a beginning of the path and has lost one more of its parts. -/
theorem ancestors_getElem? {n k : Nat} {path d : List Char} (h : (ancestors n path)[k]? = some d) :
    d <+: path ∧ parts d = (parts path).take ((parts path).length - k) := by
  induction n generalizing path k with
  | zero =>
    cases k with
    | zero =>
      obtain rfl := Option.some.inj h
      exact ⟨List.prefix_refl _, by simp⟩
    | succ k => cases h
  | succ n ih =>
    rw [ancestors] at h
    cases k with
    | zero =>
      obtain rfl := Option.some.inj h
      exact ⟨List.prefix_refl _, by simp⟩
    | succ k =>
      cases hparent : parent? path with
      | none =>
        rw [hparent] at h
        cases h
      | some above =>
        rw [hparent] at h
        obtain ⟨hbegins, hparts, -⟩ := parent?_eq_some hparent
        replace h : (ancestors n above)[k]? = some d := h
        obtain ⟨hd, htake⟩ := ih h
        refine ⟨hd.trans hbegins, ?_⟩
        rw [htake, hparts, List.length_dropLast, List.dropLast_eq_take, List.take_take]
        congr 1
        omega

/-- Going up far enough from a relative path ends at the empty path. -/
theorem getLast?_ancestors {n : Nat} {path : List Char} (hrelative : path.head? ≠ some '/')
    (h : height path ≤ n) : (ancestors n path).getLast? = some [] := by
  induction n generalizing path with
  | zero =>
    cases hparent : parent? path with
    | none =>
      obtain rfl := (parent?_eq_none hparent).2 hrelative
      rfl
    | some above =>
      obtain ⟨-, -, hheight⟩ := parent?_eq_some hparent
      omega
  | succ n ih =>
    rw [ancestors]
    cases hparent : parent? path with
    | none =>
      obtain rfl := (parent?_eq_none hparent).2 hrelative
      rfl
    | some above =>
      obtain ⟨hbegins, -, hheight⟩ := parent?_eq_some hparent
      have hlast := ih (head?_ne_of_isPrefix hbegins hrelative) (by omega)
      rw [List.getLast?_cons, hlast]
      rfl

theorem head_append_slash {path : List Char} (h : path ≠ []) (rest : List Char) :
    head (path ++ '/' :: rest) = head path := by
  obtain ⟨first, more, hnames⟩ := exists_names path
  have hmore : first = [] → more ≠ [] := by
    rintro rfl rfl
    exact h (eq_nil_of_names hnames)
  have happend : names (path ++ '/' :: rest) = first :: (more ++ names rest) := by
    rw [names_append, hnames]
    rfl
  rw [head_of_names happend, head_of_names hnames]
  by_cases hfirst : first = []
  · simp [hfirst, hmore hfirst]
  · simp [hfirst]

theorem parts_append_slash {path : List Char} (h : path ≠ []) (rest : List Char) :
    parts (path ++ '/' :: rest) = parts path ++ leading (names rest) := by
  have hlength := (head_isPrefix path).length_le
  rw [parts, parts, tailNames, head_append_slash h, List.drop_append_of_le_length hlength,
    names_append, leading_append, List.append_assoc]
  rfl

/-- A name stands in the directory that it is put behind. -/
theorem parts_child {d name : List Char} (hslash : '/' ∉ name) (hname : isIdle name = false) :
    parts (child d name) = parts d ++ [name] := by
  have hnames : leading (names name) = [name] := by
    rw [names_of_notMem hslash, leading_cons hname]
    rfl
  unfold child
  split
  · rename_i hd
    obtain rfl := List.getLast?_eq_none_iff.1 hd
    have hdot : name ≠ ['.'] := by
      rintro rfl
      cases hname
    have hhead : head name = [] :=
      (head_eq_nil_iff (names_of_notMem hslash)).2 ⟨hdot, fun _ => rfl⟩
    rw [parts, if_pos hhead, tailNames, hhead]
    exact hnames
  · rename_i hd
    obtain ⟨init, rfl⟩ := List.getLast?_eq_some_iff.1 hd
    cases init with
    | nil => exact congrArg (['/'] :: ·) hnames
    | cons c cs =>
      rw [List.append_assoc, List.singleton_append, parts_append_slash (List.cons_ne_nil _ _),
        parts_append_slash (List.cons_ne_nil _ _), hnames]
      simp [leading, names, Text.parts, isIdle]
  · rename_i hd
    have hne : d ≠ [] := by
      rintro rfl
      cases hd
    rw [parts_append_slash hne, hnames]

end ApiSuite.Path
