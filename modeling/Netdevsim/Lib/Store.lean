import Mathlib.Data.List.Basic

/-!
# Stores at consecutive indices

A loop that stores one value after the other in an array overwrites just the part that it covers.
-/

namespace Store

variable {α : Type*}

/-- Stores at consecutive indices from `i` on; a store outside of the array is lost. -/
def storeFrom (xs : List α) (i : ℕ) : List α → List α
  | [] => xs
  | v :: values => storeFrom (xs.set i v) (i + 1) values

/-- A part of the array is replaced by as many values. -/
theorem storeFrom_append (before old after values : List α) (same : old.length = values.length) :
    storeFrom (before ++ (old ++ after)) before.length values = before ++ (values ++ after) := by
  induction values generalizing before old with
  | nil =>
    obtain rfl := List.length_eq_zero_iff.1 same
    rfl
  | cons v values ih =>
    obtain ⟨o, old, rfl⟩ := List.exists_cons_of_length_eq_add_one same
    have set : (before ++ (o :: old ++ after)).set before.length v =
        (before ++ [v]) ++ (old ++ after) := by
      simp
    have moved := ih (before ++ [v]) old (by simpa using same)
    rw [storeFrom, set]
    simpa using moved

@[simp] theorem length_storeFrom (xs : List α) (i : ℕ) (values : List α) :
    (storeFrom xs i values).length = xs.length := by
  induction values generalizing xs i with
  | nil => rfl
  | cons v values ih => rw [storeFrom, ih, List.length_set]

/-- What is in front of the stores stays. -/
theorem take_storeFrom_of_le {xs : List α} {i n : ℕ} (front : n ≤ i) (values : List α) :
    (storeFrom xs i values).take n = xs.take n := by
  induction values generalizing xs i with
  | nil => rfl
  | cons v values ih => rw [storeFrom, ih (by omega), List.take_set_of_le front]

/-- The array up to the end of the stores. -/
theorem take_storeFrom {xs : List α} {i : ℕ} {values : List α}
    (fits : i + values.length ≤ xs.length) :
    (storeFrom xs i values).take (i + values.length) = xs.take i ++ values := by
  have split : xs = xs.take i ++ ((xs.drop i).take values.length ++
      (xs.drop i).drop values.length) := by
    rw [List.take_append_drop, List.take_append_drop]
  have front : (xs.take i).length = i := List.length_take_of_le (by omega)
  have stored := storeFrom_append (xs.take i) ((xs.drop i).take values.length)
    ((xs.drop i).drop values.length) values (by
      rw [List.length_take, List.length_drop]
      omega)
  rw [← split, front] at stored
  have covered : i + values.length = (xs.take i ++ values).length := by
    rw [List.length_append, front]
  rw [stored, covered, ← List.append_assoc]
  exact List.take_left

end Store
