import Mathlib.Data.Set.Card
import Mathlib.Logic.Relation
import ApiSuite.Proofs.Writes
import ApiSuite.Store.Operation

/-! # Stores shared through handles

Handles of one family show one map of bindings, which holds for each name what was last written to
it through any of them. The history of a run says what was written and which handles are clones of
which, without any store; families and their maps represent it after every operation.
-/
namespace ApiSuite

structure HandleWrite where
  handle : Nat
  name : String
  binding : Binding

/-- What operations come to: the number of handles they made, the policies that handles on new
stores were opened with, the clones with the handles they were cloned from, and all writes. -/
structure History where
  count : Nat
  opened : List (Nat × MissingPolicy)
  clones : List (Nat × Nat)
  log : List HandleWrite

namespace History

/-- The writes of some entries through one handle. -/
def through (handle : Nat) (entries : List (String × Binding)) : List HandleWrite :=
  entries.map fun e => ⟨handle, e.1, e.2⟩

/-- What a document writes when it seeds a store: all its entries or none. -/
def seeded (raw : Json) : List (String × Binding) :=
  match EnvironmentFile.plan raw with
  | .ok found => found.map fun e => (e.1, .ofJson e.2)
  | .error _ => []

variable (p : History)

def opening (policy : MissingPolicy) (entries : List (String × Binding)) : History where
  count := p.count + 1
  opened := p.opened ++ [(p.count, policy)]
  clones := p.clones
  log := p.log ++ through p.count entries

def cloning (handle : Nat) : History :=
  if handle < p.count then
    { p with count := p.count + 1, clones := p.clones ++ [(p.count, handle)] }
  else p

def writing (handle : Nat) (entries : List (String × Binding)) : History :=
  if handle < p.count then { p with log := p.log ++ through handle entries } else p

def add (p : History) : Operation → History
  | .new policy => p.opening policy []
  | .fromVariables values =>
    p.opening .leaveAsIs (values.map fun e => (e.1, .text e.2))
  | .clone handle => p.cloning handle
  | .set handle name value => p.writing handle [(name, .text value)]
  | .setNull handle name => p.writing handle [(name, .null)]
  | .setJson handle name v => p.writing handle [(name, .ofJson v)]
  | .seed handle raw => p.writing handle (seeded raw)

def empty : History := ⟨0, [], [], []⟩

def ofRun (ops : List Operation) : History := ops.foldl add empty

/-- Handles of one family of clones. -/
def Related (g h : Nat) : Prop :=
  Relation.EqvGen (fun clone original => (clone, original) ∈ p.clones) g h

/-- A name has been written through some handle of the family. -/
def Written (h : Nat) (name : String) : Prop :=
  ∃ w ∈ p.log, w.name = name ∧ p.Related w.handle h

/-- A write of a name through a handle of the family that no other one follows. -/
def LastWritten (h : Nat) (name : String) (b : Binding) : Prop :=
  ∃ front back g, p.log = front ++ ⟨g, name, b⟩ :: back ∧ p.Related g h ∧
    ∀ w ∈ back, w.name = name → ¬p.Related w.handle h

/-- The policy that a handle was opened with, or the one of the handle it was cloned from. -/
inductive PolicyOf : Nat → MissingPolicy → Prop
  | opened {h : Nat} {policy : MissingPolicy} (hmem : (h, policy) ∈ p.opened) : PolicyOf h policy
  | cloned {h original : Nat} {policy : MissingPolicy} (hmem : (h, original) ∈ p.clones)
    (horiginal : PolicyOf original policy) : PolicyOf h policy

/-- What every observer of the store behind a handle answers. -/
structure Shows (h : Nat) (s : Store) : Prop where
  binding?_eq_some_iff (name : String) (b : Binding) :
    s.binding? name = some b ↔ p.LastWritten h name b
  binding?_eq_none_iff (name : String) : s.binding? name = none ↔ ¬p.Written h name
  get?_eq_some_iff (name text : String) :
    s.get? name = some text ↔ p.LastWritten h name (.text text)
  get?_eq_none_iff (name : String) :
    s.get? name = none ↔ ¬p.Written h name ∨ p.LastWritten h name .null
  contains_iff (name : String) : s.contains name = true ↔ p.Written h name
  size_eq : s.size = Set.ncard {name | p.Written h name}
  pairwise_names : s.names.Pairwise (· < ·)
  mem_names_iff (name : String) : name ∈ s.names ↔ p.Written h name
  snapshot_names : s.snapshot.map Prod.fst = s.names
  mem_snapshot_iff (name : String) (b : Binding) :
    (name, b) ∈ s.snapshot ↔ p.LastWritten h name b
  policyOf_iff (policy : MissingPolicy) : p.PolicyOf h policy ↔ s.policy = policy

/-! ## The writes to a family -/

/-- The entries that a log writes to a family, given the families of its handles. -/
def entriesOf (family? : Nat → Option Nat) (log : List HandleWrite) (f : Nat) :
    List (String × Binding) :=
  log.filterMap fun w => if family? w.handle = some f then some (w.name, w.binding) else none

variable {family? other? : Nat → Option Nat} {log : List HandleWrite} {f : Nat}

theorem entriesOf_append (more : List HandleWrite) :
    entriesOf family? (log ++ more) f = entriesOf family? log f ++ entriesOf family? more f :=
  List.filterMap_append

theorem entriesOf_cons (w : HandleWrite) :
    entriesOf family? (w :: log) f =
      if family? w.handle = some f then (w.name, w.binding) :: entriesOf family? log f
      else entriesOf family? log f := by
  rw [entriesOf, List.filterMap_cons]
  by_cases h : family? w.handle = some f
  · simp only [if_pos h]
    rfl
  · simp only [if_neg h]
    rfl

theorem mem_entriesOf_iff {e : String × Binding} :
    e ∈ entriesOf family? log f ↔
      ∃ w ∈ log, family? w.handle = some f ∧ (w.name, w.binding) = e := by
  simp only [entriesOf, List.mem_filterMap, Option.ite_none_right_eq_some, Option.some.injEq]

theorem mem_entriesOf_names_iff {name : String} :
    name ∈ (entriesOf family? log f).map Prod.fst ↔
      ∃ w ∈ log, w.name = name ∧ family? w.handle = some f := by
  constructor
  · intro h
    obtain ⟨e, he, rfl⟩ := List.mem_map.1 h
    obtain ⟨w, hw, hf, rfl⟩ := mem_entriesOf_iff.1 he
    exact ⟨w, hw, rfl, hf⟩
  · rintro ⟨w, hw, rfl, hf⟩
    exact List.mem_map.2 ⟨_, mem_entriesOf_iff.2 ⟨w, hw, hf, rfl⟩, rfl⟩

theorem entriesOf_congr (h : ∀ w ∈ log, family? w.handle = other? w.handle) :
    entriesOf family? log f = entriesOf other? log f := by
  refine List.filterMap_congr fun w hw => ?_
  rw [h w hw]

theorem entriesOf_eq_nil (h : ∀ w ∈ log, family? w.handle ≠ some f) :
    entriesOf family? log f = [] := by
  refine List.eq_nil_iff_forall_not_mem.2 fun e he => ?_
  obtain ⟨w, hw, hf, -⟩ := mem_entriesOf_iff.1 he
  exact h w hw hf

theorem entriesOf_through {handle : Nat} (h : family? handle = some f)
    (entries : List (String × Binding)) :
    entriesOf family? (through handle entries) f = entries := by
  induction entries with
  | nil => rfl
  | cons e rest ih =>
    rw [through, List.map_cons, entriesOf_cons, if_pos h]
    exact congrArg (e :: ·) ih

theorem handle_of_mem_through {handle : Nat} {entries : List (String × Binding)} {w : HandleWrite}
    (h : w ∈ through handle entries) : w.handle = handle := by
  obtain ⟨e, -, rfl⟩ := List.mem_map.1 h
  rfl

/-- Writes through one handle reach its family and no other. -/
theorem entriesOf_append_through {handle g : Nat} (h : family? handle = some g)
    (entries : List (String × Binding)) :
    entriesOf family? (log ++ through handle entries) f =
      if g = f then entriesOf family? log f ++ entries else entriesOf family? log f := by
  rw [entriesOf_append]
  by_cases hg : g = f
  · rw [if_pos hg, entriesOf_through (hg ▸ h)]
  · have hnil : entriesOf family? (through handle entries) f = [] := by
      refine entriesOf_eq_nil fun w hw heq => hg ?_
      rw [handle_of_mem_through hw, h] at heq
      exact Option.some.inj heq
    rw [if_neg hg, hnil, List.append_nil]

theorem get?_entriesOf_reverse_eq_some_iff {name : String} {b : Binding} :
    Entries.get? (entriesOf family? log f).reverse name = some b ↔
      ∃ front back g, log = front ++ ⟨g, name, b⟩ :: back ∧ family? g = some f ∧
        ∀ w ∈ back, w.name = name → family? w.handle ≠ some f := by
  rw [Entries.get?_reverse_eq_some_iff]
  constructor
  · rintro ⟨front, back, hsplit, hlast⟩
    obtain ⟨before, more, rfl, -, hmore⟩ := List.filterMap_eq_append_iff.1 hsplit
    obtain ⟨between, w, after, rfl, -, hw, rfl⟩ := List.filterMap_eq_cons_iff.1 hmore
    rw [Option.ite_none_right_eq_some, Option.some.injEq, Prod.mk.injEq] at hw
    obtain ⟨hfamily, rfl, rfl⟩ := hw
    refine ⟨before ++ between, after, w.handle, by rw [List.append_assoc], hfamily, ?_⟩
    intro d hd hname hd'
    exact hlast _ (mem_entriesOf_iff.2 ⟨d, hd, hd', rfl⟩) hname
  · rintro ⟨front, back, g, rfl, hfamily, hlast⟩
    refine ⟨entriesOf family? front f, entriesOf family? back f, ?_, fun e he hname => ?_⟩
    · rw [entriesOf_append, entriesOf_cons, if_pos hfamily]
    · obtain ⟨w, hw, hf, rfl⟩ := mem_entriesOf_iff.1 he
      exact hlast w hw hname hf

/-! ## Longer histories -/

/-- A history with the handles of another one, and maybe more. -/
structure Continues (p' : History) : Prop where
  opened : p.opened ⊆ p'.opened
  clones : p.clones ⊆ p'.clones

variable {p} {p' : History}

theorem Continues.refl (p : History) : p.Continues p := ⟨fun _ he => he, fun _ he => he⟩

theorem Related.mono {g h : Nat} (hrelated : p.Related g h) (hp : p.Continues p') :
    p'.Related g h :=
  Relation.EqvGen.mono (fun _ _ hmem => hp.clones hmem) g h hrelated

theorem PolicyOf.mono {h : Nat} {policy : MissingPolicy} (hpolicy : p.PolicyOf h policy)
    (hp : p.Continues p') : p'.PolicyOf h policy := by
  induction hpolicy with
  | opened hmem => exact .opened (hp.opened hmem)
  | cloned hmem _ ih => exact .cloned (hp.clones hmem) ih

theorem continues_opening (policy : MissingPolicy) (entries : List (String × Binding)) :
    p.Continues (p.opening policy entries) :=
  ⟨List.subset_append_left _ _, fun _ he => he⟩

theorem continues_cloning (handle : Nat) : p.Continues (p.cloning handle) := by
  rw [cloning]
  split
  · exact ⟨fun _ he => he, List.subset_append_left _ _⟩
  · exact .refl p

theorem continues_writing (handle : Nat) (entries : List (String × Binding)) :
    p.Continues (p.writing handle entries) := by
  rw [writing]
  split
  · exact ⟨fun _ he => he, fun _ he => he⟩
  · exact .refl p

theorem continues_add (op : Operation) : p.Continues (p.add op) := by
  cases op with
  | new policy => exact continues_opening policy []
  | fromVariables values => exact continues_opening .leaveAsIs _
  | clone handle => exact continues_cloning handle
  | set handle name value => exact continues_writing handle _
  | setNull handle name => exact continues_writing handle _
  | setJson handle name v => exact continues_writing handle _
  | seed handle raw => exact continues_writing handle _

end History

namespace Handles

def family? (r : Handles) (index : Nat) : Option Nat := r.handles[index]?.map Handle.family

/-- Handles and families as the history says: handles of one family are related, clones are alike,
and a family holds what was written through its handles. -/
structure Represents (r : Handles) (p : History) : Prop where
  count_eq : r.handles.length = p.count
  family_lt : ∀ (h : Nat) (x : Handle), r.handles[h]? = some x → x.family < r.families.length
  opened : ∀ (h : Nat) (policy : MissingPolicy), (h, policy) ∈ p.opened →
    ∃ f, r.handles[h]? = some ⟨f, policy⟩
  cloned : ∀ h original : Nat, (h, original) ∈ p.clones →
    ∃ x, r.handles[h]? = some x ∧ r.handles[original]? = some x
  policyOf : ∀ (h : Nat) (x : Handle), r.handles[h]? = some x → p.PolicyOf h x.policy
  related : ∀ (g h : Nat) (x y : Handle), r.handles[g]? = some x → r.handles[h]? = some y →
    x.family = y.family → p.Related g h
  log_lt : ∀ w ∈ p.log, w.handle < p.count
  holds : ∀ (f : Nat) (m : Bindings), r.families[f]? = some m →
    m = SortedMap.ofList (History.entriesOf r.family? p.log f)

variable {r : Handles} {p : History}

theorem represents_empty : empty.Represents .empty where
  count_eq := rfl
  family_lt := nofun
  opened := nofun
  cloned := nofun
  policyOf := nofun
  related := nofun
  log_lt := nofun
  holds := nofun

theorem getElem?_concat_eq_some_iff {α : Type} {xs : List α} {x y : α} {i : Nat} :
    (xs ++ [x])[i]? = some y ↔ xs[i]? = some y ∨ i = xs.length ∧ x = y := by
  rcases Nat.lt_trichotomy i xs.length with h | rfl | h
  · have hne : i ≠ xs.length := by omega
    rw [List.getElem?_append_left h]
    simp [hne]
  · simp
  · have hne : i ≠ xs.length := by omega
    have hend : (xs ++ [x]).length ≤ i := by
      rw [List.length_append, List.length_singleton]
      omega
    rw [List.getElem?_eq_none hend, List.getElem?_eq_none (Nat.le_of_lt h)]
    simp [hne]

/-- A handle more changes no family of the handles that a history writes through. -/
theorem Represents.entriesOf_eq (h : r.Represents p) {r' : Handles} {x : Handle}
    (hr' : r'.handles = r.handles ++ [x]) (f : Nat) :
    History.entriesOf r'.family? p.log f = History.entriesOf r.family? p.log f := by
  refine History.entriesOf_congr fun w hw => ?_
  have hlt : w.handle < r.handles.length := h.count_eq ▸ h.log_lt w hw
  rw [family?, family?, hr', List.getElem?_append_left hlt]

/-- One more handle is represented when it is, next to what was there. -/
theorem Represents.concat (h : r.Represents p) {r' : Handles} {p' : History} {x : Handle}
    (hr' : r'.handles = r.handles ++ [x]) (hp : p.Continues p') (hcount : p'.count = p.count + 1)
    (hfamilies : r.families.length ≤ r'.families.length) (hx : x.family < r'.families.length)
    (hopened : ∀ i policy, (i, policy) ∈ p'.opened →
      (i, policy) ∈ p.opened ∨ i = p.count ∧ policy = x.policy)
    (hcloned : ∀ i original, (i, original) ∈ p'.clones →
      (i, original) ∈ p.clones ∨ i = p.count ∧ r.handles[original]? = some x)
    (hpolicy : p'.PolicyOf p.count x.policy)
    (hrelated : ∀ (i : Nat) (y : Handle), r.handles[i]? = some y → y.family = x.family →
      p'.Related i p.count)
    (hlog : ∀ w ∈ p'.log, w.handle < p'.count)
    (hholds : ∀ (f : Nat) (m : Bindings), r'.families[f]? = some m →
      m = SortedMap.ofList (History.entriesOf r'.family? p'.log f)) : r'.Represents p' := by
  have hold : ∀ {i : Nat} {y : Handle}, r.handles[i]? = some y → r'.handles[i]? = some y := by
    intro i y hy
    rw [hr', getElem?_concat_eq_some_iff]
    exact .inl hy
  have hnew : r'.handles[p.count]? = some x := by
    rw [hr', getElem?_concat_eq_some_iff]
    exact .inr ⟨h.count_eq.symm, rfl⟩
  have hcases : ∀ {i : Nat} {y : Handle}, r'.handles[i]? = some y →
      r.handles[i]? = some y ∨ i = p.count ∧ x = y := by
    intro i y hy
    rwa [hr', getElem?_concat_eq_some_iff, h.count_eq] at hy
  constructor
  case count_eq => rw [hr', List.length_append, h.count_eq, hcount, List.length_singleton]
  case family_lt =>
    intro i y hy
    rcases hcases hy with hy | ⟨-, rfl⟩
    · have := h.family_lt i y hy
      omega
    · exact hx
  case opened =>
    intro i policy hi
    rcases hopened i policy hi with hi | ⟨rfl, rfl⟩
    · obtain ⟨f, hf⟩ := h.opened i policy hi
      exact ⟨f, hold hf⟩
    · exact ⟨x.family, hnew⟩
  case cloned =>
    intro i original hi
    rcases hcloned i original hi with hi | ⟨rfl, horiginal⟩
    · obtain ⟨y, hy, horiginal⟩ := h.cloned i original hi
      exact ⟨y, hold hy, hold horiginal⟩
    · exact ⟨x, hnew, hold horiginal⟩
  case policyOf =>
    intro i y hy
    rcases hcases hy with hy | ⟨rfl, rfl⟩
    · exact (h.policyOf i y hy).mono hp
    · exact hpolicy
  case related =>
    intro i j y z hy hz hfamily
    rcases hcases hy with hy | ⟨rfl, rfl⟩
    · rcases hcases hz with hz | ⟨rfl, rfl⟩
      · exact (h.related i j y z hy hz hfamily).mono hp
      · exact hrelated i y hy hfamily
    · rcases hcases hz with hz | ⟨rfl, rfl⟩
      · exact .symm _ _ (hrelated j z hz hfamily.symm)
      · exact .refl _
  case log_lt => exact hlog
  case holds => exact hholds

/-- Nothing is written to a family before there is one. -/
theorem Represents.entriesOf_eq_nil (h : r.Represents p) :
    History.entriesOf r.family? p.log r.families.length = [] := by
  refine History.entriesOf_eq_nil fun w hw heq => ?_
  obtain ⟨x, hx, hxf⟩ := Option.map_eq_some_iff.1 heq
  have hlt := h.family_lt w.handle x hx
  omega

theorem Represents.holds_openStore (h : r.Represents p) {s : Store}
    {entries : List (String × Binding)} (hs : s.bindings = SortedMap.ofList entries) {f : Nat}
    {m : Bindings} (hm : (r.openStore s).1.families[f]? = some m) :
    m = SortedMap.ofList (History.entriesOf (r.openStore s).1.family?
      (p.log ++ History.through p.count entries) f) := by
  have hhandles : (r.openStore s).1.handles = r.handles ++ [⟨r.families.length, s.policy⟩] := rfl
  have hfamilies : (r.openStore s).1.families = r.families ++ [s.bindings] := rfl
  have hnew : (r.openStore s).1.family? p.count = some r.families.length := by
    rw [family?, hhandles, ← h.count_eq, List.getElem?_concat_length, Option.map_some]
  rw [hfamilies, getElem?_concat_eq_some_iff] at hm
  rw [History.entriesOf_append_through hnew, h.entriesOf_eq hhandles]
  rcases hm with hm | ⟨rfl, rfl⟩
  · have hlt : f < r.families.length := (List.getElem?_eq_some_iff.1 hm).1
    rw [if_neg (Nat.ne_of_gt hlt)]
    exact h.holds f m hm
  · rw [if_pos rfl, h.entriesOf_eq_nil, List.nil_append]
    exact hs

/-- A new store starts a family of its own. -/
theorem represents_openStore (h : r.Represents p) {s : Store} {entries : List (String × Binding)}
    (hs : s.bindings = SortedMap.ofList entries) :
    (r.openStore s).1.Represents (p.opening s.policy entries) := by
  have hlength : (r.openStore s).1.families.length = r.families.length + 1 := List.length_append
  apply h.concat rfl (History.continues_opening s.policy entries) rfl
  case hfamilies => omega
  case hx =>
    rw [hlength]
    exact Nat.lt_succ_self _
  case hopened =>
    intro i policy hi
    rcases List.mem_append.1 hi with hi | hi
    · exact .inl hi
    · cases List.mem_singleton.1 hi
      exact .inr ⟨rfl, rfl⟩
  case hcloned => exact fun i original hi => .inl hi
  case hpolicy => exact .opened (List.mem_append_right _ List.mem_cons_self)
  case hrelated =>
    intro i y hy hfamily
    exact absurd hfamily (Nat.ne_of_lt (h.family_lt i y hy))
  case hlog =>
    intro w hw
    rcases List.mem_append.1 hw with hw | hw
    · exact Nat.lt_succ_of_lt (h.log_lt w hw)
    · rw [History.handle_of_mem_through hw]
      exact Nat.lt_succ_self _
  case hholds => exact fun f m => h.holds_openStore hs

theorem Represents.lt_count_iff (h : r.Represents p) {i : Nat} :
    i < p.count ↔ ∃ x, r.handles[i]? = some x := by
  rw [← h.count_eq]
  constructor
  · intro hlt
    exact ⟨_, List.getElem?_eq_getElem hlt⟩
  · rintro ⟨x, hx⟩
    exact (List.getElem?_eq_some_iff.1 hx).1

theorem represents_clone (h : r.Represents p) (handle : Nat) :
    (r.perform (.clone handle)).Represents (p.cloning handle) := by
  rw [perform, clone, History.cloning]
  cases hx : r.handles[handle]? with
  | none =>
    have hout : ¬handle < p.count := by
      rw [h.lt_count_iff, hx]
      nofun
    rw [if_neg hout]
    exact h
  | some x =>
    have hin : handle < p.count := h.lt_count_iff.2 ⟨x, hx⟩
    rw [if_pos hin]
    have hp : p.Continues (p.cloning handle) := History.continues_cloning handle
    rw [History.cloning, if_pos hin] at hp
    apply h.concat rfl hp rfl
    case hfamilies => exact Nat.le_refl _
    case hx => exact h.family_lt handle x hx
    case hopened => exact fun i policy hi => .inl hi
    case hcloned =>
      intro i original hi
      rcases List.mem_append.1 hi with hi | hi
      · exact .inl hi
      · cases List.mem_singleton.1 hi
        exact .inr ⟨rfl, hx⟩
    case hpolicy =>
      exact .cloned (List.mem_append_right _ List.mem_cons_self) ((h.policyOf handle x hx).mono hp)
    case hrelated =>
      intro i y hy hfamily
      have hclone : (p.count, handle) ∈ p.clones ++ [(p.count, handle)] :=
        List.mem_append_right _ List.mem_cons_self
      have hi := (h.related i handle y x hy hx hfamily).mono hp
      exact .trans _ _ _ hi (.symm _ _ (.rel _ _ hclone))
    case hlog => exact fun w hw => Nat.lt_succ_of_lt (h.log_lt w hw)
    case hholds =>
      intro f m hm
      rw [h.entriesOf_eq rfl]
      exact h.holds f m hm

theorem store?_eq_some_iff {i : Nat} {s : Store} :
    r.store? i = some s ↔ ∃ x, r.handles[i]? = some x ∧
      r.families[x.family]? = some s.bindings ∧ x.policy = s.policy := by
  rw [store?]
  cases hx : r.handles[i]? with
  | none => simp
  | some x =>
    cases hm : r.families[x.family]? with
    | none => simp [hm]
    | some m =>
      obtain ⟨bindings, policy⟩ := s
      simp [hm]

theorem Represents.store?_eq_none_iff (h : r.Represents p) {i : Nat} :
    r.store? i = none ↔ p.count ≤ i := by
  rw [← Nat.not_lt, h.lt_count_iff, Option.eq_none_iff_forall_ne_some]
  constructor
  · rintro hnone ⟨x, hx⟩
    have hm := List.getElem?_eq_getElem (h.family_lt i x hx)
    exact hnone ⟨_, x.policy⟩ (store?_eq_some_iff.2 ⟨x, hx, hm, rfl⟩)
  · intro hout s hs
    obtain ⟨x, hx, -⟩ := store?_eq_some_iff.1 hs
    exact hout ⟨x, hx⟩

theorem update_eq_of_some {i : Nat} {s : Store} {x : Handle} {change : Store → Store}
    (hs : r.store? i = some s) (hx : r.handles[i]? = some x) :
    r.update i change = ⟨r.families.set x.family (change s).bindings, r.handles⟩ := by
  rw [update, hs]
  simp only [write, hx]

/-- Writing through a handle adds to the map of its family and to no other. -/
theorem Represents.holds_update (h : r.Represents p) {handle : Nat} {s : Store} {x : Handle}
    (hx : r.handles[handle]? = some x) (hm : r.families[x.family]? = some s.bindings)
    (entries : List (String × Binding)) {f : Nat} {m : Bindings}
    (hf : (r.families.set x.family (s.bindings.insertMany entries))[f]? = some m) :
    m = SortedMap.ofList
      (History.entriesOf r.family? (p.log ++ History.through handle entries) f) := by
  have hfamily : r.family? handle = some x.family := by rw [family?, hx, Option.map_some]
  rw [History.entriesOf_append_through hfamily]
  by_cases hxf : x.family = f
  · subst hxf
    rw [List.getElem?_set_self (h.family_lt handle x hx), Option.some.injEq] at hf
    rw [if_pos rfl, SortedMap.ofList, SortedMap.insertMany_append, ← hf]
    exact congrArg (·.insertMany entries) (h.holds x.family s.bindings hm)
  · rw [List.getElem?_set_ne hxf] at hf
    rw [if_neg hxf]
    exact h.holds f m hf

theorem represents_update (h : r.Represents p) {handle : Nat} {change : Store → Store}
    {entries : List (String × Binding)}
    (hchange : ∀ s, (change s).bindings = s.bindings.insertMany entries) :
    (r.update handle change).Represents (p.writing handle entries) := by
  cases hs : r.store? handle with
  | none =>
    have hout : ¬handle < p.count := Nat.not_lt.2 (h.store?_eq_none_iff.1 hs)
    rw [update, hs, History.writing, if_neg hout]
    exact h
  | some s =>
    obtain ⟨x, hx, hm, -⟩ := store?_eq_some_iff.1 hs
    have hin : handle < p.count := h.lt_count_iff.2 ⟨x, hx⟩
    have hp : p.Continues (p.writing handle entries) := History.continues_writing handle entries
    rw [update_eq_of_some hs hx, hchange]
    rw [History.writing, if_pos hin] at hp ⊢
    constructor
    case count_eq => exact h.count_eq
    case family_lt =>
      intro i y hy
      rw [List.length_set]
      exact h.family_lt i y hy
    case opened => exact h.opened
    case cloned => exact h.cloned
    case policyOf => exact fun i y hy => (h.policyOf i y hy).mono hp
    case related => exact fun i j y z hy hz hfamily => (h.related i j y z hy hz hfamily).mono hp
    case log_lt =>
      intro w hw
      rcases List.mem_append.1 hw with hw | hw
      · exact h.log_lt w hw
      · rw [History.handle_of_mem_through hw]
        exact hin
    case holds => exact fun f m hf => h.holds_update hx hm entries hf

theorem bindings_seed (s : Store) (raw : Json) :
    (EnvironmentFile.seed s raw).1.bindings = s.bindings.insertMany (History.seeded raw) := by
  rw [EnvironmentFile.seed, History.seeded]
  cases EnvironmentFile.plan raw with
  | error e => rfl
  | ok found =>
    change (s.setManyJson found).bindings = _
    rw [Store.setManyJson_eq]

theorem represents_perform (h : r.Represents p) (op : Operation) :
    (r.perform op).Represents (p.add op) := by
  cases op with
  | new policy => exact represents_openStore h rfl
  | fromVariables values =>
    have hs : (Store.ofVariables values).bindings =
        SortedMap.ofList (values.map fun e => (e.1, Binding.text e.2)) := by
      rw [Store.ofVariables, Store.setMany_eq]
      rfl
    have hpolicy : (Store.ofVariables values).policy = .leaveAsIs := by
      rw [Store.ofVariables, Store.setMany_eq]
      rfl
    rw [History.add, ← hpolicy]
    exact represents_openStore h hs
  | clone handle => exact represents_clone h handle
  | set handle name value => exact represents_update h fun s => rfl
  | setNull handle name => exact represents_update h fun s => rfl
  | setJson handle name v => exact represents_update h fun s => rfl
  | seed handle raw => exact represents_update h fun s => bindings_seed s raw

theorem represents_run (ops : List Operation) : (run ops).Represents (.ofRun ops) := by
  induction ops using List.reverseRecOn with
  | nil => exact represents_empty
  | append_singleton ops op ih =>
    rw [run, History.ofRun, List.foldl_append, List.foldl_append]
    exact represents_perform ih op

/-! ## What handles show -/

theorem Represents.handle_eq_of_related (h : r.Represents p) {i j : Nat} (hij : p.Related i j) :
    r.handles[i]? = r.handles[j]? := by
  induction hij with
  | rel clone original hmem =>
    obtain ⟨x, hx, hy⟩ := h.cloned clone original hmem
    rw [hx, hy]
  | refl i => rfl
  | symm i j _ ih => exact ih.symm
  | trans i j k _ _ ih ih' => exact ih.trans ih'

theorem Represents.policy_eq_of_policyOf (h : r.Represents p) {i : Nat} {policy : MissingPolicy}
    (hpolicy : p.PolicyOf i policy) : ∃ x, r.handles[i]? = some x ∧ x.policy = policy := by
  induction hpolicy with
  | opened hmem =>
    obtain ⟨f, hf⟩ := h.opened _ _ hmem
    exact ⟨_, hf, rfl⟩
  | cloned hmem _ ih =>
    obtain ⟨x, hx, hpolicy⟩ := ih
    obtain ⟨y, hy, horiginal⟩ := h.cloned _ _ hmem
    cases hx.symm.trans horiginal
    exact ⟨x, hy, hpolicy⟩

theorem Represents.related_iff (h : r.Represents p) {i j : Nat} {x : Handle}
    (hx : r.handles[j]? = some x) : p.Related i j ↔ r.family? i = some x.family := by
  constructor
  · intro hij
    rw [family?, h.handle_eq_of_related hij, hx, Option.map_some]
  · intro hf
    obtain ⟨y, hy, hfamily⟩ := Option.map_eq_some_iff.1 hf
    exact h.related i j y x hy hx hfamily

theorem ncard_setOf_mem {xs : List String} (h : xs.Nodup) :
    Set.ncard {x | x ∈ xs} = xs.length := by
  rw [← List.coe_toFinset, Set.ncard_coe_finset, List.toFinset_card_of_nodup h]

section Observers

variable {i : Nat} {s : Store}

theorem Represents.bindings_eq (h : r.Represents p) (hs : r.store? i = some s) :
    ∃ x, r.handles[i]? = some x ∧ x.policy = s.policy ∧
      s.bindings = SortedMap.ofList (History.entriesOf r.family? p.log x.family) := by
  obtain ⟨x, hx, hm, hpolicy⟩ := store?_eq_some_iff.1 hs
  exact ⟨x, hx, hpolicy, h.holds x.family s.bindings hm⟩

theorem Represents.binding?_eq_some_iff (h : r.Represents p) (hs : r.store? i = some s)
    {name : String} {b : Binding} : s.binding? name = some b ↔ p.LastWritten i name b := by
  obtain ⟨x, hx, -, hbindings⟩ := h.bindings_eq hs
  rw [Store.binding?, hbindings, SortedMap.get?_ofList,
    History.get?_entriesOf_reverse_eq_some_iff]
  simp only [History.LastWritten, h.related_iff hx, ne_eq]

theorem Represents.binding?_eq_none_iff (h : r.Represents p) (hs : r.store? i = some s)
    {name : String} : s.binding? name = none ↔ ¬p.Written i name := by
  obtain ⟨x, hx, -, hbindings⟩ := h.bindings_eq hs
  rw [Store.binding?, hbindings, SortedMap.get?_ofList, Entries.get?_eq_none_iff,
    List.map_reverse, List.mem_reverse, History.mem_entriesOf_names_iff]
  simp only [History.Written, h.related_iff hx]

theorem Represents.exists_binding?_iff (h : r.Represents p) (hs : r.store? i = some s)
    {name : String} : (∃ b, s.binding? name = some b) ↔ p.Written i name := by
  rw [← not_iff_not, ← h.binding?_eq_none_iff hs, Option.eq_none_iff_forall_ne_some, not_exists]

theorem Represents.mem_names_iff (h : r.Represents p) (hs : r.store? i = some s)
    {name : String} : name ∈ s.names ↔ p.Written i name := by
  rw [Store.names, SortedMap.mem_keys_iff]
  exact h.exists_binding?_iff hs

theorem Represents.policyOf_iff (h : r.Represents p) (hs : r.store? i = some s)
    {policy : MissingPolicy} : p.PolicyOf i policy ↔ s.policy = policy := by
  obtain ⟨x, hx, hpolicy, -⟩ := h.bindings_eq hs
  constructor
  · intro hp
    obtain ⟨y, hy, rfl⟩ := h.policy_eq_of_policyOf hp
    cases hx.symm.trans hy
    exact hpolicy.symm
  · rintro rfl
    exact hpolicy ▸ h.policyOf i x hx

/-- The store behind a handle answers every question as the history does. -/
theorem Represents.shows (h : r.Represents p) (hs : r.store? i = some s) : p.Shows i s := by
  constructor
  case binding?_eq_some_iff => exact fun name b => h.binding?_eq_some_iff hs
  case binding?_eq_none_iff => exact fun name => h.binding?_eq_none_iff hs
  case get?_eq_some_iff =>
    intro name text
    rw [Store.get?_eq_some_iff, h.binding?_eq_some_iff hs]
  case get?_eq_none_iff =>
    intro name
    rw [Store.get?_eq_none_iff, h.binding?_eq_none_iff hs, h.binding?_eq_some_iff hs]
  case contains_iff =>
    intro name
    rw [Store.contains_eq_isSome, Option.isSome_iff_exists, h.exists_binding?_iff hs]
  case size_eq =>
    have hset : {name | p.Written i name} = {name | name ∈ s.names} := by
      ext name
      exact (h.mem_names_iff hs).symm
    have hnodup : s.names.Nodup := s.bindings.sorted.nodup_keys
    have hlength : s.names.length = s.size := List.length_map _
    rw [hset, ncard_setOf_mem hnodup, hlength]
  case pairwise_names => exact s.bindings.pairwise_keys
  case mem_names_iff => exact fun name => h.mem_names_iff hs
  case snapshot_names => rfl
  case mem_snapshot_iff =>
    intro name b
    rw [← h.binding?_eq_some_iff hs]
    exact s.bindings.mem_entries_iff
  case policyOf_iff => exact fun policy => h.policyOf_iff hs

end Observers

/-! ## Operations on other families -/

theorem store?_openStore (s : Store) {i : Nat} {t : Store} (ht : r.store? i = some t) :
    (r.openStore s).1.store? i = some t := by
  obtain ⟨x, hx, hm, hpolicy⟩ := store?_eq_some_iff.1 ht
  refine store?_eq_some_iff.2 ⟨x, getElem?_concat_eq_some_iff.2 (.inl hx), ?_, hpolicy⟩
  exact getElem?_concat_eq_some_iff.2 (.inl hm)

theorem store?_clone (handle : Nat) {i : Nat} {t : Store} (ht : r.store? i = some t) :
    (r.perform (.clone handle)).store? i = some t := by
  obtain ⟨x, hx, hm, hpolicy⟩ := store?_eq_some_iff.1 ht
  rw [perform, clone]
  cases r.handles[handle]? with
  | none => exact ht
  | some y =>
    exact store?_eq_some_iff.2 ⟨x, getElem?_concat_eq_some_iff.2 (.inl hx), hm, hpolicy⟩

theorem Represents.store?_update (h : r.Represents p) {handle i : Nat} (change : Store → Store)
    (hunrelated : ¬p.Related handle i) {t : Store} (ht : r.store? i = some t) :
    (r.update handle change).store? i = some t := by
  obtain ⟨x, hx, hm, hpolicy⟩ := store?_eq_some_iff.1 ht
  cases hs : r.store? handle with
  | none => rwa [update, hs]
  | some s =>
    obtain ⟨y, hy, -⟩ := store?_eq_some_iff.1 hs
    have hne : y.family ≠ x.family := fun heq => hunrelated (h.related handle i y x hy hx heq)
    rw [update_eq_of_some hs hy]
    refine store?_eq_some_iff.2 ⟨x, hx, ?_, hpolicy⟩
    rw [List.getElem?_set_ne hne]
    exact hm

/-- An operation through an unrelated handle, or through none, leaves a store as it is. -/
theorem Represents.store?_perform (h : r.Represents p) (op : Operation) {i : Nat} {t : Store}
    (hunrelated : ∀ g, op.handle? = some g → ¬p.Related g i) (ht : r.store? i = some t) :
    (r.perform op).store? i = some t := by
  cases op with
  | new policy => exact store?_openStore _ ht
  | fromVariables values => exact store?_openStore _ ht
  | clone handle => exact store?_clone handle ht
  | set handle name value => exact h.store?_update _ (hunrelated handle rfl) ht
  | setNull handle name => exact h.store?_update _ (hunrelated handle rfl) ht
  | setJson handle name v => exact h.store?_update _ (hunrelated handle rfl) ht
  | seed handle raw => exact h.store?_update _ (hunrelated handle rfl) ht

theorem store?_run_append (ops more : List Operation) {i : Nat} {t : Store}
    (hunrelated : ∀ op ∈ more, ∀ g, op.handle? = some g →
      ¬(History.ofRun (ops ++ more)).Related g i) (ht : (run ops).store? i = some t) :
    (run (ops ++ more)).store? i = some t := by
  induction more using List.reverseRecOn with
  | nil => rwa [List.append_nil]
  | append_singleton more op ih =>
    have hadd : History.ofRun (ops ++ (more ++ [op])) =
        (History.ofRun (ops ++ more)).add op := by
      rw [← List.append_assoc, History.ofRun, List.foldl_append]
      rfl
    have hrun : run (ops ++ (more ++ [op])) = (run (ops ++ more)).perform op := by
      rw [← List.append_assoc, run, List.foldl_append]
      rfl
    have hbefore : ∀ d ∈ more ++ [op], ∀ g, d.handle? = some g →
        ¬(History.ofRun (ops ++ more)).Related g i := by
      intro d hd g hg hrelated
      refine hunrelated d hd g hg ?_
      rw [hadd]
      exact hrelated.mono (History.continues_add op)
    have hstore : (run (ops ++ more)).store? i = some t :=
      ih fun d hd => hbefore d (List.mem_append_left _ hd)
    rw [hrun]
    exact (represents_run (ops ++ more)).store?_perform op
      (hbefore op (List.mem_append_right _ List.mem_cons_self)) hstore

/-- After any run a handle that was made shows what the handles of its family wrote last, and it
goes on showing it whatever is done through other families. -/
theorem run_shows_last_writes (ops : List Operation) (h : Nat) :
    ((run ops).store? h = none ↔ (History.ofRun ops).count ≤ h) ∧
    ∀ s, (run ops).store? h = some s →
      (History.ofRun ops).Shows h s ∧
      ∀ more, (∀ op ∈ more, ∀ g, op.handle? = some g →
          ¬(History.ofRun (ops ++ more)).Related g h) →
        (run (ops ++ more)).store? h = some s := by
  have hrun : (run ops).Represents (.ofRun ops) := represents_run ops
  refine ⟨hrun.store?_eq_none_iff, fun s hs => ⟨hrun.shows hs, fun more hunrelated => ?_⟩⟩
  exact store?_run_append ops more hunrelated hs

/-- A clone shows what the handle it was cloned from writes later, and no other store is touched. -/
example :
    let r := run [.new .fail, .clone 0, .set 1 "a" "1", .fromVariables [("a", "2")], .setNull 0 "a"]
    r.store? 1 = some ((Store.new .fail).setNull "a") ∧
      r.store? 2 = some (Store.ofVariables [("a", "2")]) := by
  decide

end Handles

end ApiSuite
