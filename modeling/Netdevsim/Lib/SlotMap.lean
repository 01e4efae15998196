import Mathlib.Data.Finmap
import Netdevsim.Lib.Slots

/-!
# Tables of slots as finite maps

A slot holds a key and a value, or nothing.  A table in which no key occurs twice stores a finite map.
-/

namespace Slots

variable {n : ℕ} {κ ν : Type*} [DecidableEq κ] {t : Fin n → Option (κ × ν)}
  {m : Finmap fun _ : κ => ν} {i : Fin n} {k : κ} {v : ν} {s : ℕ}

/-- The entries of the table are those of the map, each in one slot. -/
structure Stores (t : Fin n → Option (κ × ν)) (m : Finmap fun _ : κ => ν) : Prop where
  distinct : ∀ {i j k v w}, t i = some (k, v) → t j = some (k, w) → i = j
  lookup : ∀ {k v}, m.lookup k = some v ↔ ∃ i, t i = some (k, v)

theorem stores_empty (free : ∀ i, t i = none) : Stores t ∅ := by
  constructor
  · intro i j k v w here
    rw [free i] at here
    cases here
  · intro k v
    simp [free]

namespace Stores

theorem mem_iff (stores : Stores t m) : k ∈ m ↔ ∃ i v, t i = some (k, v) := by
  rw [Finmap.mem_iff]
  constructor
  · intro ⟨v, look⟩
    obtain ⟨i, here⟩ := stores.lookup.1 look
    exact ⟨i, v, here⟩
  · intro ⟨i, v, here⟩
    exact ⟨v, stores.lookup.2 ⟨i, here⟩⟩

/-- The only slot that may hold the key is written. -/
theorem insert (stores : Stores t m) (own : ∀ {k' w}, t i = some (k', w) → k' = k)
    (only : ∀ {j w}, t j = some (k, w) → j = i) :
    Stores (Function.update t i (some (k, v))) (m.insert k v) := by
  constructor
  · intro j j' k' w w' here here'
    by_cases at_j : j = i <;> by_cases at_j' : j' = i
    · exact at_j.trans at_j'.symm
    · subst at_j
      simp only [Function.update_self, Option.some.injEq, Prod.mk.injEq,
        Function.update_of_ne at_j'] at here here'
      rw [← here.1] at here'
      exact (only here').symm
    · subst at_j'
      simp only [Function.update_self, Option.some.injEq, Prod.mk.injEq,
        Function.update_of_ne at_j] at here here'
      rw [← here'.1] at here
      exact only here
    · simp only [Function.update_of_ne at_j, Function.update_of_ne at_j'] at here here'
      exact stores.distinct here here'
  · intro k' w
    by_cases same : k' = k
    · subst same
      rw [Finmap.lookup_insert]
      constructor
      · intro eq
        exact ⟨i, by rw [Function.update_self, Option.some.inj eq]⟩
      · intro ⟨j, here⟩
        by_cases at_j : j = i
        · subst at_j
          simp only [Function.update_self, Option.some.injEq, Prod.mk.injEq, true_and] at here
          rw [here]
        · rw [Function.update_of_ne at_j] at here
          exact absurd (only here) at_j
    · rw [Finmap.lookup_insert_of_ne _ same, stores.lookup]
      constructor
      · intro ⟨j, here⟩
        have at_j : j ≠ i := by
          rintro rfl
          exact same (own here)
        exact ⟨j, by rw [Function.update_of_ne at_j, here]⟩
      · intro ⟨j, here⟩
        by_cases at_j : j = i
        · subst at_j
          simp only [Function.update_self, Option.some.injEq, Prod.mk.injEq] at here
          exact absurd here.1.symm same
        · exact ⟨j, by rwa [Function.update_of_ne at_j] at here⟩

/-- A slot is cleared. -/
theorem erase (stores : Stores t m) (here : t i = some (k, v)) :
    Stores (Function.update t i none) (m.erase k) := by
  have left : ∀ {j k' w}, Function.update t i none j = some (k', w) → j ≠ i ∧ t j = some (k', w) := by
    intro j k' w there
    by_cases at_j : j = i
    · subst at_j
      rw [Function.update_self] at there
      cases there
    · exact ⟨at_j, by rwa [Function.update_of_ne at_j] at there⟩
  constructor
  · intro j j' k' w w' there there'
    exact stores.distinct (left there).2 (left there').2
  · intro k' w
    by_cases same : k' = k
    · subst same
      rw [Finmap.lookup_erase]
      refine ⟨nofun, fun ⟨j, there⟩ => ?_⟩
      exact absurd (stores.distinct (left there).2 here) (left there).1
    · rw [Finmap.lookup_erase_ne same, stores.lookup]
      constructor
      · intro ⟨j, there⟩
        have at_j : j ≠ i := by
          rintro rfl
          rw [here] at there
          exact same (Prod.mk.inj (Option.some.inj there)).1.symm
        exact ⟨j, by rw [Function.update_of_ne at_j, there]⟩
      · intro ⟨j, there⟩
        exact ⟨j, (left there).2⟩

/-- A key for every slot in use. -/
theorem card_keys (stores : Stores t m) : m.keys.card = count Option.isSome t := by
  symm
  refine Finset.card_bij (fun i used => ((t i).get (Finset.mem_filter.1 used).2).1) ?_ ?_ ?_
  · intro i used
    have some := (Finset.mem_filter.1 used).2
    rw [Finmap.mem_keys, stores.mem_iff]
    exact ⟨i, ((t i).get some).2, (Option.some_get some).symm⟩
  · intro i used j used' same
    have some := (Finset.mem_filter.1 used).2
    have some' := (Finset.mem_filter.1 used').2
    have here : t i = .some (((t i).get some).1, ((t i).get some).2) := (Option.some_get some).symm
    have there : t j = .some (((t j).get some').1, ((t j).get some').2) :=
      (Option.some_get some').symm
    rw [same] at here
    exact stores.distinct here there
  · intro k mem
    obtain ⟨i, v, here⟩ := stores.mem_iff.1 (Finmap.mem_keys.1 mem)
    refine ⟨i, ?_, ?_⟩
    · simp [here]
    · simp [here]

end Stores

/-! ## Walking over the slots -/

/-- The keys that a walk from an index on comes by. -/
inductive Walk (t : Fin n → Option (κ × ν)) : ℕ → List κ → Prop
  | stop {s : ℕ} : nextUsed Option.isSome t s = none → Walk t s []
  | next {s : ℕ} {i : Fin n} {k : κ} {v : ν} {ks : List κ} :
      nextUsed Option.isSome t s = some i → t i = some (k, v) → Walk t (i + 1) ks →
      Walk t s (k :: ks)

/-- A walk comes by every key that lies ahead of it, and by each of them once. -/
theorem Stores.exists_walk (stores : Stores t m) (s : ℕ) :
    ∃ ks, Walk t s ks ∧ ks.Nodup ∧ ∀ k, k ∈ ks ↔ ∃ i : Fin n, s ≤ i ∧ ∃ v, t i = some (k, v) := by
  induction left : n - s using Nat.strong_induction_on generalizing s with
  | _ left' ih =>
    cases next : nextUsed Option.isSome t s with
    | none =>
      refine ⟨[], .stop next, List.nodup_nil, fun k => ⟨nofun, fun ⟨i, le, v, here⟩ => ?_⟩⟩
      have free := free_of_nextUsed next le
      rw [here] at free
      cases free
    | some i =>
      obtain ⟨le, used⟩ := used_of_nextUsed next
      obtain ⟨⟨k, v⟩, here⟩ := Option.isSome_iff_exists.1 used
      obtain ⟨ks, walk, nodup, mem⟩ := ih (n - (i + 1)) (by omega) (i + 1) rfl
      refine ⟨k :: ks, .next next here walk, List.nodup_cons.2 ⟨?_, nodup⟩, fun k' => ?_⟩
      · intro again
        obtain ⟨j, lt, w, there⟩ := (mem k).1 again
        have same := stores.distinct here there
        subst same
        omega
      · rw [List.mem_cons, mem]
        constructor
        · rintro (rfl | ⟨j, lt, w, there⟩)
          · exact ⟨i, le, v, here⟩
          · exact ⟨j, by omega, w, there⟩
        · intro ⟨j, le', w, there⟩
          -- The slots between the index and the next one in use are empty.
          rcases lt_trichotomy j i with lt | rfl | gt
          · have free := free_of_lt_nextUsed next le' lt
            rw [there] at free
            cases free
          · rw [here] at there
            exact .inl (Prod.mk.inj (Option.some.inj there)).1.symm
          · exact .inr ⟨j, gt, w, there⟩

end Slots
