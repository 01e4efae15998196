import Mathlib.Tactic

/-!
# Sparse arrays that hand out indices

An array whose present entries are kept in the order of their indices.  An entry may carry a mark.
`allocCyclic` hands out the lowest free index at or after a running counter and starts over below
it when none is left.
-/

/-- A present entry. -/
structure XEntry (α : Type*) where
  index : ℕ
  value : α
  mark : Bool
  deriving DecidableEq, Repr

/-- A sparse array. -/
structure XArray (α : Type*) where
  /-- The present entries, in the order of their indices. -/
  entries : List (XEntry α)
  sorted : entries.Pairwise (·.index < ·.index)

namespace XArray

variable {α β : Type*}

instance [DecidableEq α] : DecidableEq (XArray α) := fun a b =>
  decidable_of_iff (a.entries = b.entries) ⟨fun h => by cases a; cases b; cases h; rfl,
    fun h => h ▸ rfl⟩

def empty : XArray α := ⟨[], .nil⟩

instance : Inhabited (XArray α) := ⟨empty⟩

/-- The entries' values, in the order of their indices. -/
def values (x : XArray α) : List α := x.entries.map XEntry.value

/-- The value at an index. -/
def load (x : XArray α) (i : ℕ) : Option α := (x.entries.find? (·.index = i)).map XEntry.value

def getMark (x : XArray α) (i : ℕ) : Bool := x.entries.any fun e => e.index = i ∧ e.mark

def isEmpty (x : XArray α) : Bool := x.entries.isEmpty

/-- The marked entries from an index on. -/
def markedFrom (x : XArray α) (start : ℕ) : List (XEntry α) :=
  x.entries.filter fun e => start ≤ e.index && e.mark

/-- Put an unmarked entry at an index, in the place of what was there. -/
def store (x : XArray α) (i : ℕ) (v : α) : XArray α where
  entries := x.entries.filter (·.index < i) ++ ⟨i, v, false⟩ :: x.entries.filter (i < ·.index)
  sorted := by
    rw [List.pairwise_append]
    refine ⟨x.sorted.filter _, List.pairwise_cons.2 ⟨?_, x.sorted.filter _⟩, ?_⟩
    · intro e mem
      simpa using (List.mem_filter.1 mem).2
    · intro e before e' after
      have below : e.index < i := by simpa using (List.mem_filter.1 before).2
      rcases List.mem_cons.1 after with rfl | above
      · exact below
      · exact below.trans (by simpa using (List.mem_filter.1 above).2)

def erase (x : XArray α) (i : ℕ) : XArray α := ⟨x.entries.filter (·.index ≠ i), x.sorted.filter _⟩

/-- Change the value and the mark at an index, if present. -/
def alter (x : XArray α) (i : ℕ) (f : α → Bool → α × Bool) : XArray α where
  entries := x.entries.map fun e =>
    if e.index = i then ⟨e.index, (f e.value e.mark).1, (f e.value e.mark).2⟩ else e
  sorted := by
    rw [List.pairwise_map]
    refine x.sorted.imp fun {e e'} lt => ?_
    split <;> split <;> exact lt

/-- Change the value at an index, if present. -/
def update (x : XArray α) (i : ℕ) (f : α → α) : XArray α := x.alter i fun v mark => (f v, mark)

/-- Set or clear the mark at an index, if present. -/
def setMark (x : XArray α) (i : ℕ) (mark : Bool) : XArray α := x.alter i fun v _ => (v, mark)

/-! ## Membership -/

section Membership

variable {x : XArray α} {e e' : XEntry α} {i : ℕ} {v : α}

theorem ext_index (mem : e ∈ x.entries) (mem' : e' ∈ x.entries) (same : e.index = e'.index) :
    e = e' := by
  have forwards : x.entries.Pairwise fun e e' => e.index = e'.index → e = e' :=
    x.sorted.imp fun lt same => absurd same lt.ne
  have backwards : x.entries.Pairwise (flip fun e e' => e.index = e'.index → e = e') :=
    x.sorted.imp fun lt same => absurd same lt.ne'
  exact forwards.forall_of_forall_of_flip (fun _ _ _ => rfl) backwards mem mem' same

theorem mem_values : v ∈ x.values ↔ ∃ e ∈ x.entries, e.value = v := List.mem_map

theorem mem_markedFrom {start : ℕ} :
    e ∈ x.markedFrom start ↔ e ∈ x.entries ∧ start ≤ e.index ∧ e.mark = true := by
  simp [markedFrom]

theorem markedFrom_sorted (x : XArray α) (start : ℕ) :
    (x.markedFrom start).Pairwise (·.index < ·.index) := x.sorted.filter _

/-- Going on from an entry, the rest comes again. -/
theorem markedFrom_of_split {start : ℕ} {before after : List (XEntry α)}
    (split : x.markedFrom start = before ++ e :: after) : x.markedFrom e.index = e :: after := by
  have sorted := x.markedFrom_sorted start
  rw [split, List.pairwise_append, List.pairwise_cons] at sorted
  obtain ⟨-, ⟨above, -⟩, below⟩ := sorted
  have here : start ≤ e.index := (mem_markedFrom.1 (by rw [split]; simp)).2.1
  have again : x.markedFrom e.index = (x.markedFrom start).filter fun e' => e.index ≤ e'.index := by
    unfold markedFrom
    rw [List.filter_filter]
    refine List.filter_congr fun e' _ => ?_
    by_cases le : e.index ≤ e'.index
    · simp [le, here.trans le]
    · simp [le]
  rw [again, split, List.filter_append, List.filter_cons_of_pos (by simp)]
  have gone : before.filter (fun e' => e.index ≤ e'.index) = [] := by
    refine List.filter_eq_nil_iff.2 fun e' mem => ?_
    simpa using below e' mem e List.mem_cons_self
  have kept : after.filter (fun e' => e.index ≤ e'.index) = after := by
    refine List.filter_eq_self.2 fun e' mem => ?_
    simpa using (above e' mem).le
  rw [gone, kept, List.nil_append]

theorem mem_store : e ∈ (x.store i v).entries ↔
    e = ⟨i, v, false⟩ ∨ (e ∈ x.entries ∧ e.index ≠ i) := by
  simp only [store, List.mem_append, List.mem_cons, List.mem_filter, decide_eq_true_eq]
  constructor
  · rintro (⟨mem, lt⟩ | rfl | ⟨mem, gt⟩)
    · exact .inr ⟨mem, lt.ne⟩
    · exact .inl rfl
    · exact .inr ⟨mem, gt.ne'⟩
  · rintro (rfl | ⟨mem, ne⟩)
    · exact .inr (.inl rfl)
    · rcases ne.lt_or_gt with lt | gt
      · exact .inl ⟨mem, lt⟩
      · exact .inr (.inr ⟨mem, gt⟩)

theorem mem_erase : e ∈ (x.erase i).entries ↔ e ∈ x.entries ∧ e.index ≠ i := by
  simp [erase]

theorem mem_setMark {mark : Bool} : e ∈ (x.setMark i mark).entries ↔
    ∃ e' ∈ x.entries, e = if e'.index = i then { e' with mark } else e' := by
  simp only [setMark, alter, List.mem_map, eq_comm (b := e)]

theorem mem_update {f : α → α} : e ∈ (x.update i f).entries ↔
    ∃ e' ∈ x.entries, e = if e'.index = i then { e' with value := f e'.value } else e' := by
  simp only [update, alter, List.mem_map, eq_comm (b := e)]

theorem ext_entries {y : XArray α} (same : x.entries = y.entries) : x = y := by
  cases x
  cases y
  cases same
  rfl

/-- An array is determined by the set of its entries. -/
theorem ext_mem {y : XArray α} (same : ∀ e, e ∈ x.entries ↔ e ∈ y.entries) : x = y := by
  have nodup : ∀ z : XArray α, z.entries.Nodup := fun z =>
    z.sorted.imp fun lt same => absurd (congrArg XEntry.index same) lt.ne
  have perm : x.entries.Perm y.entries :=
    (List.perm_ext_iff_of_nodup (nodup x) (nodup y)).2 same
  exact ext_entries (perm.eq_of_pairwise
    (fun _ _ _ _ lt gt => absurd (lt.trans gt) (lt_irrefl _)) x.sorted y.sorted)

theorem isEmpty_iff : x.isEmpty ↔ ∀ e, e ∉ x.entries := by
  rw [isEmpty, List.isEmpty_iff, List.eq_nil_iff_forall_not_mem]

/-- Erasing what was stored at a free index leaves the array as it was. -/
theorem erase_store (free : ∀ e ∈ x.entries, e.index ≠ i) : (x.store i v).erase i = x := by
  refine ext_mem fun e => ?_
  rw [mem_erase, mem_store]
  constructor
  · rintro ⟨rfl | old, away⟩
    · exact absurd rfl away
    · exact old.1
  · exact fun mem => ⟨.inr ⟨mem, free e mem⟩, free e mem⟩

theorem update_update {f g : α → α} :
    (x.update i f).update i g = x.update i fun v => g (f v) := by
  refine ext_mem fun e => ?_
  simp only [mem_update]
  constructor
  · rintro ⟨_, ⟨e', mem, rfl⟩, rfl⟩
    refine ⟨e', mem, ?_⟩
    split_ifs <;> simp_all
  · rintro ⟨e', mem, rfl⟩
    refine ⟨_, ⟨e', mem, rfl⟩, ?_⟩
    split_ifs <;> simp_all

/-- An update depends on the value that is there. -/
theorem update_congr {f g : α → α}
    (same : ∀ e ∈ x.entries, e.index = i → f e.value = g e.value) : x.update i f = x.update i g := by
  refine ext_mem fun e => ?_
  rw [mem_update, mem_update]
  refine exists_congr fun e' => and_congr_right fun mem => ?_
  split_ifs with here
  · rw [same e' mem here]
  · exact Iff.rfl

theorem update_eq_self {f : α → α} (same : ∀ e ∈ x.entries, e.index = i → f e.value = e.value) :
    x.update i f = x := by
  refine (update_congr (g := id) same).trans (ext_mem fun e => ?_)
  rw [mem_update]
  simp

/-- What does not look at values and marks does not see an update. -/
theorem filter_update {f : α → α} (p : ℕ → Bool) :
    (x.update i f).entries.filter (fun e => p e.index) =
      (x.entries.filter fun e => p e.index).map fun e =>
        if e.index = i then { e with value := f e.value } else e := by
  simp only [update, alter]
  rw [List.filter_map]
  congr 1
  refine List.filter_congr fun e _ => ?_
  simp only [Function.comp]
  split_ifs <;> rfl

theorem setMark_setMark {mark mark' : Bool} :
    (x.setMark i mark).setMark i mark' = x.setMark i mark' := by
  refine ext_entries ?_
  simp only [setMark, alter, List.map_map]
  refine List.map_congr_left fun e _ => ?_
  simp only [Function.comp]
  by_cases here : e.index = i
  · simp [here]
  · simp [here]

/-! Changes at different indices commute. -/

section Commute

variable {j : ℕ} {f g : α → α}

theorem update_comm (away : i ≠ j) : (x.update i f).update j g = (x.update j g).update i f := by
  refine ext_entries ?_
  simp only [update, alter, List.map_map]
  refine List.map_congr_left fun e _ => ?_
  simp only [Function.comp]
  by_cases here : e.index = i
  · simp [here, away]
  · by_cases there : e.index = j
    · simp [there, away.symm]
    · simp [here, there]

theorem erase_update_comm : (x.update i f).erase j = (x.erase j).update i f := by
  refine ext_entries ?_
  exact filter_update fun k => decide (k ≠ j)

theorem update_store_comm (away : i ≠ j) :
    (x.store j v).update i f = (x.update i f).store j v := by
  refine ext_entries ?_
  simp only [store]
  rw [filter_update fun k => decide (k < j), filter_update fun k => decide (j < k)]
  simp only [update, alter, List.map_append, List.map_cons, if_neg away.symm]

theorem erase_store_comm (away : i ≠ j) : (x.store j v).erase i = (x.erase i).store j v := by
  refine ext_entries ?_
  simp only [store, erase, List.filter_append, List.filter_filter, List.filter_cons]
  rw [if_pos (by simpa using away.symm)]
  simp only [Bool.and_comm]

end Commute

theorem getMark_eq_true_iff : x.getMark i = true ↔ ∃ e ∈ x.entries, e.index = i ∧ e.mark := by
  simp [getMark]

theorem load_eq_some_iff : x.load i = some v ↔ ∃ e ∈ x.entries, e.index = i ∧ e.value = v := by
  unfold load
  rw [Option.map_eq_some_iff]
  constructor
  · rintro ⟨e, found, value⟩
    exact ⟨e, List.mem_of_find?_eq_some found, by simpa using List.find?_some found, value⟩
  · rintro ⟨e, mem, index, value⟩
    refine ⟨e, ?_, value⟩
    cases found : x.entries.find? (·.index = i) with
    | none => exact absurd index (by simpa using List.find?_eq_none.1 found e mem)
    | some e' =>
      rw [ext_index (List.mem_of_find?_eq_some found) mem]
      rw [index]
      simpa using List.find?_some found

theorem mem_values_of_load (present : x.load i = some v) : v ∈ x.values := by
  obtain ⟨e, mem, -, value⟩ := load_eq_some_iff.1 present
  exact mem_values.2 ⟨e, mem, value⟩

theorem exists_load_of_mem_values (mem : v ∈ x.values) : ∃ i, x.load i = some v := by
  obtain ⟨e, entry, value⟩ := mem_values.1 mem
  exact ⟨e.index, load_eq_some_iff.2 ⟨e, entry, rfl, value⟩⟩

@[simp] theorem values_setMark {mark : Bool} : (x.setMark i mark).values = x.values := by
  simp only [values, setMark, alter, List.map_map]
  apply List.map_congr_left
  intro e _
  simp only [Function.comp_apply]
  split <;> rfl

theorem getMark_of_mem (mem : e ∈ x.entries) : x.getMark e.index = e.mark := by
  rw [Bool.eq_iff_iff, getMark_eq_true_iff]
  constructor
  · rintro ⟨e', mem', index, marked⟩
    rwa [ext_index mem' mem index] at marked
  · exact fun marked => ⟨e, mem, rfl, marked⟩

/-- What is read off the only entry that something is read off. -/
theorem filterMap_entries {f : XEntry α → Option β} (mem : e ∈ x.entries)
    (only : ∀ e' ∈ x.entries, f e' ≠ none → e' = e) : x.entries.filterMap f = (f e).toList := by
  obtain ⟨before, after, split⟩ := List.append_of_mem mem
  have others : ∀ e' ∈ before ++ after, f e' = none := by
    intro e' mem'
    by_contra read
    have differ : e'.index ≠ e.index := by
      have sorted := x.sorted
      rw [split, List.pairwise_append, List.pairwise_cons] at sorted
      rcases List.mem_append.1 mem' with left | right
      · exact (sorted.2.2 e' left e List.mem_cons_self).ne
      · exact (sorted.2.1.1 e' right).ne'
    have here : e' ∈ x.entries := by
      rw [split]
      rcases List.mem_append.1 mem' with left | right
      · exact List.mem_append_left _ left
      · exact List.mem_append_right _ (List.mem_cons_of_mem _ right)
    exact differ (congrArg XEntry.index (only e' here read))
  have left : before.filterMap f = [] :=
    List.filterMap_eq_nil_iff.2 fun e' mem => others e' (List.mem_append_left _ mem)
  have right : after.filterMap f = [] :=
    List.filterMap_eq_nil_iff.2 fun e' mem => others e' (List.mem_append_right _ mem)
  rw [split, List.filterMap_append, List.filterMap_cons, left, right]
  cases f e <;> rfl

/-- Setting a mark to what it is changes nothing. -/
theorem setMark_eq_self (mem : e ∈ x.entries) : x.setMark e.index e.mark = x := by
  have same : ∀ e' ∈ x.entries, (if e'.index = e.index then ⟨e'.index, e'.value, e.mark⟩ else e')
      = e' := by
    intro e' mem'
    split
    · rename_i index
      rw [ext_index mem' mem index]
    · rfl
  cases x with
  | mk entries sorted =>
    simp only [setMark, alter, mk.injEq]
    exact (List.map_congr_left same).trans (List.map_id _)

end Membership

/-! ## What is at an index after a change -/

section Lookup

variable {x : XArray α} {i j : ℕ} {v : α} {mark : Bool}

@[simp] theorem load_setMark : (x.setMark i mark).load j = x.load j := by
  refine Option.ext fun v => ?_
  rw [load_eq_some_iff, load_eq_some_iff]
  constructor
  · rintro ⟨_, mem, index, value⟩
    obtain ⟨e, old, rfl⟩ := mem_setMark.1 mem
    refine ⟨e, old, ?_, ?_⟩
    · split_ifs at index <;> exact index
    · split_ifs at value <;> exact value
  · rintro ⟨e, old, index, value⟩
    refine ⟨_, mem_setMark.2 ⟨e, old, rfl⟩, ?_, ?_⟩
    · split_ifs <;> exact index
    · split_ifs <;> exact value

theorem getMark_setMark_self (present : x.load i = some v) : (x.setMark i mark).getMark i = mark := by
  obtain ⟨e, mem, index, -⟩ := load_eq_some_iff.1 present
  rw [Bool.eq_iff_iff, getMark_eq_true_iff]
  constructor
  · rintro ⟨_, mem', index', marked⟩
    obtain ⟨e', old, rfl⟩ := mem_setMark.1 mem'
    split_ifs at index' marked with here
    · exact marked
    · exact absurd index' here
  · intro marked
    refine ⟨_, mem_setMark.2 ⟨e, mem, rfl⟩, ?_, ?_⟩
    · rw [if_pos index]
      exact index
    · rw [if_pos index]
      exact marked

theorem getMark_setMark_of_ne (away : j ≠ i) : (x.setMark i mark).getMark j = x.getMark j := by
  rw [Bool.eq_iff_iff, getMark_eq_true_iff, getMark_eq_true_iff]
  constructor
  · rintro ⟨_, mem, rfl, marked⟩
    obtain ⟨e, old, rfl⟩ := mem_setMark.1 mem
    split_ifs at away marked ⊢ with here
    · exact absurd here away
    · exact ⟨e, old, rfl, marked⟩
  · rintro ⟨e, old, rfl, marked⟩
    exact ⟨e, mem_setMark.2 ⟨e, old, (if_neg away).symm⟩, rfl, marked⟩

theorem setMark_getMark (present : x.load i = some v) : x.setMark i (x.getMark i) = x := by
  obtain ⟨e, mem, rfl, -⟩ := load_eq_some_iff.1 present
  rw [getMark_of_mem mem]
  exact setMark_eq_self mem

theorem load_store_self : (x.store i v).load i = some v :=
  load_eq_some_iff.2 ⟨_, mem_store.2 (.inl rfl), rfl, rfl⟩

theorem getMark_store_self : (x.store i v).getMark i = false := by
  rw [Bool.eq_false_iff, Ne, getMark_eq_true_iff]
  rintro ⟨e, mem, index, marked⟩
  rcases mem_store.1 mem with rfl | ⟨-, away⟩
  · cases marked
  · exact away index

theorem load_store_of_ne (away : j ≠ i) : (x.store i v).load j = x.load j := by
  refine Option.ext fun w => ?_
  rw [load_eq_some_iff, load_eq_some_iff]
  refine exists_congr fun e => ?_
  rw [mem_store]
  constructor
  · rintro ⟨rfl | ⟨mem, -⟩, index, value⟩
    · exact absurd index.symm away
    · exact ⟨mem, index, value⟩
  · rintro ⟨mem, index, value⟩
    exact ⟨.inr ⟨mem, index ▸ away⟩, index, value⟩

theorem getMark_store_of_ne (away : j ≠ i) : (x.store i v).getMark j = x.getMark j := by
  rw [Bool.eq_iff_iff, getMark_eq_true_iff, getMark_eq_true_iff]
  refine exists_congr fun e => ?_
  rw [mem_store]
  constructor
  · rintro ⟨rfl | ⟨mem, -⟩, index, marked⟩
    · exact absurd index.symm away
    · exact ⟨mem, index, marked⟩
  · rintro ⟨mem, index, marked⟩
    exact ⟨.inr ⟨mem, index ▸ away⟩, index, marked⟩

theorem load_erase_self : (x.erase i).load i = none := by
  rw [Option.eq_none_iff_forall_ne_some]
  intro v present
  obtain ⟨e, mem, index, -⟩ := load_eq_some_iff.1 present
  exact (mem_erase.1 mem).2 index

theorem load_erase_of_ne (away : j ≠ i) : (x.erase i).load j = x.load j := by
  refine Option.ext fun w => ?_
  rw [load_eq_some_iff, load_eq_some_iff]
  refine exists_congr fun e => ?_
  rw [mem_erase]
  constructor
  · exact fun ⟨⟨mem, _⟩, index, value⟩ => ⟨mem, index, value⟩
  · exact fun ⟨mem, index, value⟩ => ⟨⟨mem, index ▸ away⟩, index, value⟩

theorem getMark_erase_of_ne (away : j ≠ i) : (x.erase i).getMark j = x.getMark j := by
  rw [Bool.eq_iff_iff, getMark_eq_true_iff, getMark_eq_true_iff]
  refine exists_congr fun e => ?_
  rw [mem_erase]
  constructor
  · exact fun ⟨⟨mem, _⟩, index, marked⟩ => ⟨mem, index, marked⟩
  · exact fun ⟨mem, index, marked⟩ => ⟨⟨mem, index ▸ away⟩, index, marked⟩

end Lookup

/-! ## Handing out indices -/

/-- The lowest index from `first` on that is not present. -/
def nextFree (x : XArray α) (first : ℕ) : ℕ :=
  x.entries.foldl (fun c e => if e.index = c then c + 1 else c) first

section NextFree

theorem le_foldl_nextFree (es : List (XEntry α)) (first : ℕ) :
    first ≤ es.foldl (fun c e => if e.index = c then c + 1 else c) first := by
  induction es generalizing first with
  | nil => exact le_rfl
  | cons e es ih =>
    rw [List.foldl_cons]
    split
    · exact (Nat.le_succ _).trans (ih _)
    · exact ih _

/-- Entries behind the candidate do not move it. -/
theorem foldl_nextFree_of_lt {es : List (XEntry α)} {first : ℕ}
    (above : ∀ e ∈ es, first < e.index) :
    es.foldl (fun c e => if e.index = c then c + 1 else c) first = first := by
  induction es with
  | nil => rfl
  | cons e es ih =>
    rw [List.foldl_cons, if_neg (above e List.mem_cons_self).ne']
    exact ih fun e' mem => above e' (List.mem_cons_of_mem _ mem)

theorem foldl_nextFree_free {es : List (XEntry α)} (sorted : es.Pairwise (·.index < ·.index))
    (first : ℕ) :
    ∀ e ∈ es, e.index ≠ es.foldl (fun c e => if e.index = c then c + 1 else c) first := by
  induction es generalizing first with
  | nil => simp
  | cons e es ih =>
    obtain ⟨head, tail⟩ := List.pairwise_cons.1 sorted
    rw [List.foldl_cons]
    intro e' mem
    rcases List.mem_cons.1 mem with rfl | mem
    · split
      · rename_i hit
        have := le_foldl_nextFree es (first + 1)
        omega
      · rename_i miss
        rcases Nat.lt_or_gt_of_ne miss with below | above
        · have := le_foldl_nextFree es first
          omega
        · rw [foldl_nextFree_of_lt fun e'' mem => above.trans (head e'' mem)]
          exact miss
    · exact ih tail _ e' mem

theorem nextFree_free (x : XArray α) (first : ℕ) : ∀ e ∈ x.entries, e.index ≠ x.nextFree first :=
  foldl_nextFree_free x.sorted first

end NextFree

/-- A counter for cyclic allocation: the next index to try, and whether it has started over since
the last allocation. -/
structure Cursor where
  next : ℕ
  wrapped : Bool
  deriving DecidableEq, Repr

/-- Put a value at a free index of at most `max`, looking from the cursor on first and from 0 on
then.  The flag says whether the allocation was the first one after the cursor started over. -/
def allocCyclic (x : XArray α) (cursor : Cursor) (max : ℕ) (v : α) :
    Option (ℕ × Bool × XArray α × Cursor) :=
  let after i (wrapped : Bool) : Cursor :=
    if i + 1 ≤ max then ⟨i + 1, wrapped⟩ else ⟨0, true⟩
  if x.nextFree cursor.next ≤ max then
    let i := x.nextFree cursor.next
    some (i, cursor.wrapped, x.store i v, after i false)
  else if 0 < cursor.next ∧ x.nextFree 0 ≤ max then
    let i := x.nextFree 0
    some (i, true, x.store i v, after i cursor.wrapped)
  else none

/-- An allocated index was free. -/
theorem allocCyclic_eq_some {x x' : XArray α} {cursor cursor' : Cursor} {max i : ℕ} {v : α}
    {first : Bool} (h : x.allocCyclic cursor max v = some (i, first, x', cursor')) :
    (∀ e ∈ x.entries, e.index ≠ i) ∧ x' = x.store i v := by
  unfold allocCyclic at h
  split at h
  · cases h
    exact ⟨x.nextFree_free _, rfl⟩
  · split at h
    · cases h
      exact ⟨x.nextFree_free _, rfl⟩
    · cases h

theorem allocCyclic_le {x x' : XArray α} {cursor cursor' : Cursor} {max i : ℕ} {v : α} {first : Bool}
    (h : x.allocCyclic cursor max v = some (i, first, x', cursor')) : i ≤ max := by
  unfold allocCyclic at h
  split at h
  · rename_i within
    cases h
    exact within
  · split at h
    · rename_i within
      cases h
      exact within.2
    · cases h

/-! ## Whether the indices last -/

def indices (x : XArray α) : List ℕ := x.entries.map XEntry.index

/-- The next `n` values are given indices before the cursor starts over, or not at all. -/
def lasts (x : XArray α) (cursor : Cursor) (max : ℕ) (v : α) : ℕ → Bool
  | 0 => true
  | n + 1 =>
    match x.allocCyclic cursor max v with
    | none => true
    | some (_, true, _, _) => false
    | some (_, false, x, cursor) => x.lasts cursor max v n

section Lasts

variable {x : XArray α} {y : XArray β} {cursor : Cursor} {max : ℕ} {v : α} {w : β}

@[simp] theorem indices_setMark {i : ℕ} {mark : Bool} : (x.setMark i mark).indices = x.indices := by
  simp only [indices, setMark, alter, List.map_map]
  refine List.map_congr_left fun e _ => ?_
  simp only [Function.comp_apply]
  split <;> rfl

theorem indices_store (x : XArray α) (i : ℕ) (v : α) : (x.store i v).indices =
    x.indices.filter (· < i) ++ i :: x.indices.filter (i < ·) := by
  simp [indices, store, List.filter_map, Function.comp_def]

theorem nextFree_eq (x : XArray α) (first : ℕ) :
    x.nextFree first = x.indices.foldl (fun c i => if i = c then c + 1 else c) first := by
  rw [indices, List.foldl_map]
  rfl

/-- Which index a value is given depends on the indices in use only. -/
theorem allocCyclic_congr (same : x.indices = y.indices) :
    (x.allocCyclic cursor max v).map (fun a => (a.1, a.2.1, a.2.2.1.indices, a.2.2.2)) =
      (y.allocCyclic cursor max w).map fun a => (a.1, a.2.1, a.2.2.1.indices, a.2.2.2) := by
  have next : ∀ first, x.nextFree first = y.nextFree first := fun first => by
    rw [nextFree_eq, nextFree_eq, same]
  unfold allocCyclic
  simp only [next]
  split_ifs <;> simp [indices_store, same]

theorem lasts_congr (same : x.indices = y.indices) (n : ℕ) :
    x.lasts cursor max v n = y.lasts cursor max w n := by
  induction n generalizing x y cursor with
  | zero => rfl
  | succ n ih =>
    have alloc := @allocCyclic_congr α β x y cursor max v w same
    unfold lasts
    generalize x.allocCyclic cursor max v = a at alloc ⊢
    generalize y.allocCyclic cursor max w = b at alloc ⊢
    match a, b, alloc with
    | none, none, _ => rfl
    | some (_, true, _, _), some (_, true, _, _), _ => rfl
    | some (_, false, _, _), some (_, false, _, _), alloc =>
      simp only [Option.map_some, Option.some.injEq, Prod.mk.injEq] at alloc
      obtain ⟨-, -, indices, rfl⟩ := alloc
      exact ih indices

/-- While the indices last, an allocation is not the first after the cursor started over. -/
theorem lasts_of_alloc {x' : XArray α} {cursor' : Cursor} {i n : ℕ} {first : Bool} {u : α}
    (lasts : x.lasts cursor max u (n + 1) = true)
    (alloc : x.allocCyclic cursor max v = some (i, first, x', cursor')) :
    first = false ∧ x'.lasts cursor' max u n = true := by
  have same := @allocCyclic_congr α α x x cursor max v u rfl
  rw [alloc] at same
  unfold XArray.lasts at lasts
  generalize x.allocCyclic cursor max u = a at same lasts
  match a, same with
  | some (_, true, _, _), _ => cases lasts
  | some (_, false, _, _), same =>
    simp only [Option.map_some, Option.some.injEq, Prod.mk.injEq] at same
    obtain ⟨-, rfl, indices, rfl⟩ := same
    exact ⟨rfl, (lasts_congr indices n).trans lasts⟩

end Lasts

end XArray
