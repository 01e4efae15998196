import Mathlib.Tactic

/-!
# Tables of slots

A table has a fixed number of slots, and a test says which of them are in use.  A new entry goes to
the first slot that is not.
-/

namespace Slots

variable {n : ℕ} {α κ : Type*} {used : α → Bool} {key : α → κ} {t : Fin n → α} {i j : Fin n}
  {x : α} {k : κ}

/-- The number of slots in use. -/
def count (used : α → Bool) (t : Fin n → α) : ℕ := (Finset.univ.filter fun i => used (t i)).card

/-- The first slot that is not in use. -/
def firstFree (used : α → Bool) (t : Fin n → α) : Option (Fin n) := Fin.find? fun i => !used (t i)

theorem count_le (used : α → Bool) (t : Fin n → α) : count used t ≤ n :=
  (Finset.card_le_univ _).trans_eq (Fintype.card_fin n)

theorem count_eq_iff : count used t = n ↔ ∀ i, used (t i) = true := by
  have all := Finset.card_eq_iff_eq_univ (Finset.univ.filter fun i => used (t i) = true)
  rw [Fintype.card_fin] at all
  unfold count
  rw [all, Finset.filter_eq_self]
  simp

theorem count_eq_zero (free : ∀ i, used (t i) = false) : count used t = 0 := by
  unfold count
  rw [Finset.card_eq_zero, Finset.filter_eq_empty_iff]
  intro i _
  simp [free i]

/-- A table is full when no slot is free. -/
theorem firstFree_eq_none_iff : firstFree used t = none ↔ count used t = n := by
  rw [count_eq_iff]
  unfold firstFree
  rw [Fin.find?_eq_none_iff]
  simp

theorem free_of_firstFree (first : firstFree used t = some i) : used (t i) = false := by
  simpa using Fin.eq_true_of_find?_eq_some first

theorem exists_firstFree (room : count used t < n) : ∃ i, firstFree used t = some i := by
  cases first : firstFree used t with
  | some i => exact ⟨i, rfl⟩
  | none =>
    rw [firstFree_eq_none_iff] at first
    omega

theorem exists_firstFree_of_free (free : used (t i) = false) :
    ∃ j, firstFree used t = some j := by
  refine exists_firstFree ((count_le used t).lt_of_ne fun full => ?_)
  rw [count_eq_iff.1 full i] at free
  cases free

theorem count_update_of_free (free : used (t i) = false) (new : used x = true) :
    count used (Function.update t i x) = count used t + 1 := by
  have more : (Finset.univ.filter fun j => used (Function.update t i x j) = true) =
      insert i (Finset.univ.filter fun j => used (t j) = true) := by
    ext j
    by_cases same : j = i
    · subst same
      simp [new]
    · simp [same]
  unfold count
  rw [more, Finset.card_insert_of_notMem]
  simp [free]

theorem count_update_of_used (old : used (t i) = true) (gone : used x = false) :
    count used (Function.update t i x) + 1 = count used t := by
  have free : used (Function.update t i x i) = false := by simpa using gone
  have back := count_update_of_free free old
  rw [Function.update_idem, Function.update_eq_self] at back
  exact back.symm

theorem count_update_of_same (same : used x = used (t i)) :
    count used (Function.update t i x) = count used t := by
  unfold count
  congr 1
  ext j
  by_cases here : j = i
  · subst here
    simp [same]
  · simp [here]

/-- The first slot in use from an index on. -/
def nextUsed (used : α → Bool) (t : Fin n → α) (s : ℕ) : Option (Fin n) :=
  Fin.find? fun i => decide (s ≤ i) && used (t i)

theorem free_of_nextUsed {s : ℕ} (next : nextUsed used t s = none) (le : s ≤ i) :
    used (t i) = false := by
  have free := Fin.eq_false_of_find?_eq_none next i
  simpa only [le, decide_true, Bool.true_and] using free

theorem used_of_nextUsed {s : ℕ} (next : nextUsed used t s = some i) :
    s ≤ i ∧ used (t i) = true := by
  have used := Fin.eq_true_of_find?_eq_some next
  simpa only [Bool.and_eq_true, decide_eq_true_eq] using used

theorem free_of_lt_nextUsed {s : ℕ} (next : nextUsed used t s = some i) (le : s ≤ j) (lt : j < i) :
    used (t j) = false := by
  have free := Fin.eq_false_of_find?_eq_some_of_lt next j lt
  simpa only [le, decide_true, Bool.true_and] using free

/-! ## Keys -/

/-- No two slots in use have the same key. -/
def Distinct (used : α → Bool) (key : α → κ) (t : Fin n → α) : Prop :=
  ∀ ⦃i j⦄, used (t i) = true → used (t j) = true → key (t i) = key (t j) → i = j

/-- A slot in use has the key. -/
def Holds (used : α → Bool) (key : α → κ) (t : Fin n → α) (k : κ) : Prop :=
  ∃ i, used (t i) = true ∧ key (t i) = k

theorem distinct_of_free (free : ∀ i, used (t i) = false) : Distinct used key t := by
  intro i _ here
  rw [free i] at here
  cases here

theorem Distinct.update_of_new (distinct : Distinct used key t)
    (new : used x = true → ¬Holds used key t (key x)) :
    Distinct used key (Function.update t i x) := by
  intro j j' here here' same
  by_cases at_j : j = i
  · by_cases at_j' : j' = i
    · exact at_j.trans at_j'.symm
    · subst at_j
      simp only [Function.update_self, Function.update_of_ne at_j'] at here here' same
      exact absurd ⟨j', here', same.symm⟩ (new here)
  · by_cases at_j' : j' = i
    · subst at_j'
      simp only [Function.update_self, Function.update_of_ne at_j] at here here' same
      exact absurd ⟨j, here, same⟩ (new here')
    · simp only [Function.update_of_ne at_j, Function.update_of_ne at_j'] at here here' same
      exact distinct here here' same

/-- A change that keeps the key of a slot. -/
theorem Distinct.update_of_same (distinct : Distinct used key t) (same : used x = used (t i))
    (own : key x = key (t i)) : Distinct used key (Function.update t i x) := by
  have usedAt : ∀ j, used (Function.update t i x j) = used (t j) := by
    intro j
    by_cases here : j = i
    · rw [here, Function.update_self, same]
    · rw [Function.update_of_ne here]
  have keyAt : ∀ j, key (Function.update t i x j) = key (t j) := by
    intro j
    by_cases here : j = i
    · rw [here, Function.update_self, own]
    · rw [Function.update_of_ne here]
  intro j k
  rw [usedAt, usedAt, keyAt, keyAt]
  exact fun here there => distinct here there

/-- The keys in use after a change of a slot whose entry was the only one with its key. -/
theorem holds_update_iff (distinct : Distinct used key t) :
    Holds used key (Function.update t i x) k ↔
      (used x = true ∧ key x = k) ∨
        (Holds used key t k ∧ ¬(used (t i) = true ∧ key (t i) = k)) := by
  constructor
  · rintro ⟨j, here, own⟩
    by_cases same : j = i
    · subst same
      simp only [Function.update_self] at here own
      exact .inl ⟨here, own⟩
    · simp only [Function.update_of_ne same] at here own
      refine .inr ⟨⟨j, here, own⟩, ?_⟩
      rintro ⟨other, own'⟩
      exact same (distinct here other (own.trans own'.symm))
  · rintro (⟨here, own⟩ | ⟨⟨j, here, own⟩, notThis⟩)
    · exact ⟨i, by simpa using here, by simpa using own⟩
    · have ne : j ≠ i := by
        rintro rfl
        exact notThis ⟨here, own⟩
      exact ⟨j, by simpa [ne] using here, by simpa [ne] using own⟩

end Slots
