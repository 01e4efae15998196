import Mathlib.Tactic

/-!
# Hash tables of lists

Nodes with a key are kept in lists, one for each value of a hash function.  `Holds hash key table`
says that the table has exactly the nodes with a key, each once and in the list of its hash; adding
and deleting a node keep that, and a search of the list of a key that no two nodes have finds the
node with it.
-/

namespace Buckets

variable {κ ν : Type*} {hash : κ → ℕ} {key : ν → Option κ}
  {table : ℕ → List ν} {p : ν} {k : κ}

/-- The table has the nodes with a key and no others. -/
structure Holds (hash : κ → ℕ) (key : ν → Option κ) (table : ℕ → List ν) : Prop where
  mem_iff : ∀ b p, p ∈ table b ↔ ∃ k, key p = some k ∧ hash k = b
  nodup : ∀ b, (table b).Nodup

/-- No two nodes have the same key. -/
def Unique (key : ν → Option κ) : Prop := ∀ p q k, key p = some k → key q = some k → p = q

theorem holds_empty : Holds hash (fun _ => none : ν → Option κ) fun _ => [] :=
  ⟨fun b p => by simp, fun _ => List.nodup_nil⟩

/-- A search of the list of a key finds the node with the key. -/
theorem Holds.find?_eq_some_iff [DecidableEq κ] (holds : Holds hash key table) (unique : Unique key) :
    (table (hash k)).find? (fun q => key q = some k) = some p ↔ key p = some k := by
  constructor
  · intro found
    simpa using List.find?_some found
  · intro keyed
    have mem := (holds.mem_iff (hash k) p).2 ⟨k, keyed, rfl⟩
    cases found : (table (hash k)).find? fun q => key q = some k with
    | none => exact absurd keyed (by simpa using List.find?_eq_none.1 found p mem)
    | some q =>
      have there : key q = some k := by simpa using List.find?_some found
      rw [unique q p k there keyed]

variable [DecidableEq ν]

/-- A node is added at the head of its list. -/
theorem Holds.add (holds : Holds hash key table) (new : key p = none) :
    Holds hash (Function.update key p (some k))
      (Function.update table (hash k) (p :: table (hash k))) := by
  have absent : ∀ b, p ∉ table b := by
    intro b mem
    obtain ⟨k', keyed, -⟩ := (holds.mem_iff b p).1 mem
    rw [new] at keyed
    cases keyed
  refine ⟨fun b q => ?_, fun b => ?_⟩
  · by_cases same : q = p
    · subst same
      rw [Function.update_self]
      by_cases here : b = hash k
      · subst here
        simp
      · have elsewhere := absent b
        simp [here, elsewhere, Ne.symm here]
    · rw [Function.update_of_ne same, ← holds.mem_iff b q]
      by_cases here : b = hash k
      · subst here
        simp [same]
      · rw [Function.update_of_ne here]
  · by_cases here : b = hash k
    · subst here
      rw [Function.update_self]
      exact List.nodup_cons.2 ⟨absent _, holds.nodup _⟩
    · rw [Function.update_of_ne here]
      exact holds.nodup b

/-- A node is unlinked from the list it is in. -/
theorem Holds.del (holds : Holds hash key table) (p : ν) :
    Holds hash (Function.update key p none) fun b => (table b).erase p := by
  refine ⟨fun b q => ?_, fun b => (holds.nodup b).erase p⟩
  rw [(holds.nodup b).mem_erase_iff, holds.mem_iff b q]
  by_cases same : q = p
  · subst same
    simp
  · rw [Function.update_of_ne same]
    simp [same]

theorem Unique.add (unique : Unique key) (fresh : ∀ q, key q ≠ some k) :
    Unique (Function.update key p (some k)) := by
  intro q r k' here there
  by_cases first : q = p <;> by_cases second : r = p
  · rw [first, second]
  · subst first
    rw [Function.update_self] at here
    rw [Function.update_of_ne second, ← here] at there
    exact absurd there (fresh r)
  · subst second
    rw [Function.update_self] at there
    rw [Function.update_of_ne first, ← there] at here
    exact absurd here (fresh q)
  · rw [Function.update_of_ne first] at here
    rw [Function.update_of_ne second] at there
    exact unique q r k' here there

theorem Unique.del (unique : Unique key) (p : ν) : Unique (Function.update key p none) := by
  intro q r k' here there
  by_cases first : q = p <;> by_cases second : r = p
  · rw [first, second]
  · simp [first] at here
  · simp [second] at there
  · rw [Function.update_of_ne first] at here
    rw [Function.update_of_ne second] at there
    exact unique q r k' here there

end Buckets
