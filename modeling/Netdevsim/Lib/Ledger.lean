import Mathlib.Tactic

/-!
# Ledgers

A ledger is a list of items entered under keys.  `entriesAt` gives the items of a key in the order
in which they were entered; entering and striking out an item changes that of its own key only.
-/

namespace Ledger

variable {κ ρ : Type*} [DecidableEq κ] {l l' : List (κ × ρ)} {k : κ} {r : ρ}

/-- The items entered under a key. -/
def entriesAt (l : List (κ × ρ)) (k : κ) : List ρ := (l.filter (·.1 = k)).map Prod.snd

theorem mem_entriesAt : r ∈ entriesAt l k ↔ (k, r) ∈ l := by
  unfold entriesAt
  rw [List.mem_map]
  constructor
  · rintro ⟨e, kept, rfl⟩
    obtain ⟨entered, key⟩ := List.mem_filter.1 kept
    obtain rfl : e.1 = k := by simpa using key
    exact entered
  · exact fun mem => ⟨(k, r), List.mem_filter.2 ⟨mem, by simp⟩, rfl⟩

@[simp] theorem entriesAt_nil : entriesAt ([] : List (κ × ρ)) = fun _ => [] := rfl

theorem entriesAt_append : entriesAt (l ++ l') k = entriesAt l k ++ entriesAt l' k := by
  simp [entriesAt]

theorem entriesAt_cons_self : entriesAt ((k, r) :: l) k = r :: entriesAt l k := by
  simp [entriesAt]

theorem entriesAt_cons_of_ne {k' : κ} (other : k' ≠ k) :
    entriesAt ((k', r) :: l) k = entriesAt l k := by
  simp [entriesAt, other]

/-- One more item under a key. -/
theorem entriesAt_enter (l : List (κ × ρ)) (k : κ) (r : ρ) :
    entriesAt (l ++ [(k, r)]) = Function.update (entriesAt l) k (entriesAt l k ++ [r]) := by
  funext k'
  rw [entriesAt_append]
  by_cases same : k' = k
  · subst same
    rw [Function.update_self, entriesAt_cons_self]
    rfl
  · rw [Function.update_of_ne same, entriesAt_cons_of_ne (Ne.symm same)]
    exact List.append_nil _

/-- The first of these items under the key is gone. -/
theorem entriesAt_erase [DecidableEq ρ] [BEq (κ × ρ)] [LawfulBEq (κ × ρ)] (l : List (κ × ρ)) (k : κ)
    (r : ρ) :
    entriesAt (l.erase (k, r)) = Function.update (entriesAt l) k ((entriesAt l k).erase r) := by
  funext k'
  induction l with
  | nil => by_cases same : k' = k <;> simp [same]
  | cons e l ih =>
    obtain ⟨k₀, r₀⟩ := e
    by_cases hit : (k₀, r₀) = (k, r)
    · cases hit
      rw [List.erase_cons_head]
      by_cases same : k' = k
      · subst same
        rw [Function.update_self, entriesAt_cons_self, List.erase_cons_head]
      · rw [Function.update_of_ne same, entriesAt_cons_of_ne (Ne.symm same)]
    · rw [List.erase_cons_tail (by simpa using hit)]
      by_cases same : k' = k
      · subst same
        rw [Function.update_self] at ih ⊢
        by_cases own : k₀ = k'
        · subst own
          have differ : r₀ ≠ r := fun item => hit (by rw [item])
          rw [entriesAt_cons_self, entriesAt_cons_self, ih,
            List.erase_cons_tail (by simpa using differ)]
        · rw [entriesAt_cons_of_ne own, entriesAt_cons_of_ne own, ih]
      · rw [Function.update_of_ne same] at ih ⊢
        by_cases own : k₀ = k'
        · subst own
          rw [entriesAt_cons_self, entriesAt_cons_self, ih]
        · rw [entriesAt_cons_of_ne own, entriesAt_cons_of_ne own, ih]

/-! ## Striking out several items -/

section Strike

variable {α : Type*} [BEq α] [LawfulBEq α] {items : List α} {e : α}

/-- Striking out what was entered last, if it was new. -/
theorem erase_enter (new : e ∉ items) :
    (items ++ [e]).erase e = items := by
  rw [List.erase_append_right _ new, List.erase_cons_head, List.append_nil]

/-- Striking out the items in the middle, in any order. -/
theorem diff_middle {first middle last struck : List α}
    (nodup : (first ++ middle ++ last).Nodup) (same : ∀ e, e ∈ struck ↔ e ∈ middle) :
    (first ++ middle ++ last).diff struck = first ++ last := by
  rw [nodup.sdiff_eq_filter, List.filter_append, List.filter_append]
  obtain ⟨front, -, back⟩ := List.nodup_append.1 nodup
  obtain ⟨-, -, apart⟩ := List.nodup_append.1 front
  have none : middle.filter (· ∉ struck) = [] :=
    List.filter_eq_nil_iff.2 fun e mem => by simpa using (same e).2 mem
  have left : first.filter (· ∉ struck) = first := by
    refine List.filter_eq_self.2 fun e mem => ?_
    simpa using fun hit => apart e mem e ((same e).1 hit) rfl
  have right : last.filter (· ∉ struck) = last := by
    refine List.filter_eq_self.2 fun e mem => ?_
    simpa using fun hit => back e (List.mem_append_right _ ((same e).1 hit)) e mem rfl
  rw [none, left, right, List.append_nil]

end Strike

end Ledger
