import Mathlib.Tactic

/-!
# Reference counts and their holders

`RefCount.counts holders` is the table of reference counts in which every object counts the holders
of a reference to it, and an object without holders is gone.  A table of counts that is
`counts holders` stays one when a reference is taken (`counts_cons`) or dropped (`counts_of_cons`),
whatever the order of the holders (`counts_perm`).
-/

namespace RefCount

variable {α : Type*} [DecidableEq α] {holders : List α}

/-- The count of an object: the number of its holders, or `none` if it has none. -/
def counts (holders : List α) (a : α) : Option ℕ :=
  if a ∈ holders then some (holders.count a) else none

theorem counts_perm {others : List α} (perm : holders.Perm others) :
    counts holders = counts others := by
  funext a
  unfold counts
  rw [perm.count_eq a]
  simp only [perm.mem_iff]

@[simp] theorem counts_nil : counts ([] : List α) = fun _ => none := by
  funext a
  simp [counts]

/-- One more holder of `a`: the first one, or one that shares it. -/
theorem counts_cons (a : α) (holders : List α) :
    counts (a :: holders) = Function.update (counts holders) a (some (holders.count a + 1)) := by
  funext b
  by_cases same : b = a
  · subst same
    simp [counts]
  · simp [counts, same, List.count_cons_of_ne (Ne.symm same)]

/-- One holder of `a` less: the object is gone if it was the last one. -/
theorem counts_of_cons (a : α) (holders : List α) :
    counts holders =
      Function.update (counts (a :: holders)) a
        (if holders.count a = 0 then none else some (holders.count a)) := by
  funext b
  by_cases same : b = a
  · subst same
    simp [counts, List.count_eq_zero]
  · simp [counts, same, List.count_cons_of_ne (Ne.symm same)]

theorem counts_eq_some_iff {a : α} {n : ℕ} :
    counts holders a = some n ↔ holders.count a = n ∧ 0 < n := by
  unfold counts
  split_ifs with mem
  · have pos := List.count_pos_iff.2 mem
    constructor
    · intro eq
      obtain rfl := Option.some.inj eq
      exact ⟨rfl, pos⟩
    · rintro ⟨rfl, -⟩
      rfl
  · have zero := List.count_eq_zero.2 mem
    constructor
    · intro eq
      cases eq
    · rintro ⟨rfl, pos⟩
      omega

theorem counts_eq_none_iff {a : α} : counts holders a = none ↔ a ∉ holders := by
  unfold counts
  split_ifs with mem <;> simp [mem]

end RefCount
