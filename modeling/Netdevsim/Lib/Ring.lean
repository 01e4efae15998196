import Mathlib.Tactic

/-!
# Ring buffers with one slot kept free

`Ring.Holds N buf head tail xs`: the ring of `N` slots holds the elements `xs`, oldest first, from
`head` on, and `tail` is the free slot after the newest.  Since one slot stays free, `head = tail`
only if the ring is empty, and the number of elements can be read off the two indices.
-/

namespace Ring

variable {α : Type*} {N head tail : ℕ} {buf : ℕ → α} {xs : List α}

/-- The ring holds `xs`, oldest first. -/
structure Holds (N : ℕ) (buf : ℕ → α) (head tail : ℕ) (xs : List α) : Prop where
  head_lt : head < N
  length_lt : xs.length < N
  tail_eq : tail = (head + xs.length) % N
  get : ∀ i (h : i < xs.length), buf ((head + i) % N) = xs[i]

/-- Offsets of less than one turn lead to different slots. -/
theorem slot_inj {i j : ℕ} (hi : i < N) (hj : j < N) (same : (head + i) % N = (head + j) % N) :
    i = j := by
  have congr : i ≡ j [MOD N] := Nat.ModEq.add_left_cancel' head same
  rwa [Nat.ModEq, Nat.mod_eq_of_lt hi, Nat.mod_eq_of_lt hj] at congr

/-- Moving on by one slot and then by `i` is moving on by `i + 1`. -/
theorem slot_succ (head i N : ℕ) : ((head + 1) % N + i) % N = (head + (i + 1)) % N := by
  rw [Nat.mod_add_mod, Nat.add_assoc, Nat.add_comm 1 i]

theorem holds_nil (h : head < N) : Holds N buf head head [] where
  head_lt := h
  length_lt := by simpa using by omega
  tail_eq := by simp [Nat.mod_eq_of_lt h]
  get := by simp

/-- The number of elements, from the two indices alone. -/
theorem Holds.length_eq (h : Holds N buf head tail xs) :
    (xs.length : ℤ) =
      if (tail : ℤ) - head < 0 then (N : ℤ) + (tail - head) else (tail : ℤ) - head := by
  have headLt := h.head_lt
  have lengthLt := h.length_lt
  have tailEq := h.tail_eq
  by_cases wraps : head + xs.length < N
  · rw [Nat.mod_eq_of_lt wraps] at tailEq
    rw [if_neg (by omega)]
    omega
  · rw [Nat.mod_eq_sub_mod (not_lt.1 wraps), Nat.mod_eq_of_lt (by omega)] at tailEq
    rw [if_pos (by omega)]
    omega

/-- Writing the free slot and moving `tail` on appends an element. -/
theorem Holds.push (h : Holds N buf head tail xs) (x : α) (room : xs.length + 1 < N) :
    Holds N (Function.update buf tail x) head ((tail + 1) % N) (xs ++ [x]) where
  head_lt := h.head_lt
  length_lt := by simpa using room
  tail_eq := by
    rw [h.tail_eq, Nat.mod_add_mod, List.length_append, List.length_singleton, Nat.add_assoc]
  get i hi := by
    rw [List.length_append, List.length_singleton] at hi
    by_cases last : i = xs.length
    · subst last
      rw [← h.tail_eq, Function.update_self, List.getElem_concat_length rfl]
    · have old : i < xs.length := by omega
      have other : (head + i) % N ≠ tail := by
        rw [h.tail_eq]
        exact fun same => last (slot_inj (by omega) h.length_lt same)
      rw [Function.update_of_ne other, h.get i old, List.getElem_append_left old]

/-- Moving `head` on forgets the oldest element. -/
theorem Holds.behead {x : α} (h : Holds N buf head tail (x :: xs)) :
    buf head = x ∧ Holds N buf ((head + 1) % N) tail xs := by
  have headLt := h.head_lt
  have lengthLt := h.length_lt
  rw [List.length_cons] at lengthLt
  constructor
  · have first := h.get 0 (by simp)
    rwa [Nat.add_zero, Nat.mod_eq_of_lt headLt] at first
  · refine ⟨Nat.mod_lt _ (by omega), by omega, ?_, fun i hi => ?_⟩
    · rw [h.tail_eq, slot_succ, List.length_cons]
    · rw [slot_succ, h.get (i + 1) (by simpa using hi), List.getElem_cons_succ]

/-- Writing the free slot of a full ring and moving both indices on drops the oldest element. -/
theorem Holds.pushFull (h : Holds N buf head tail xs) (x : α) (nonempty : xs ≠ [])
    (full : xs.length + 1 = N) :
    Holds N (Function.update buf tail x) ((head + 1) % N) ((tail + 1) % N) (xs.tail ++ [x]) := by
  obtain ⟨oldest, rest, rfl⟩ := List.exists_cons_of_ne_nil nonempty
  have beheaded := h.behead.2
  rw [List.length_cons] at full
  exact beheaded.push x (by omega)

end Ring
