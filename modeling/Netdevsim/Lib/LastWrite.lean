import Mathlib.Tactic

/-!
# The last write to a key

A write gives values to some keys of a table.  After a list of writes a key has the value that the
last write gave to it, or its initial one if none did (`getD_lastWrite_append`,
`lastWrite_eq_of_last`, `lastWrite_eq_none`).
-/

namespace LastWrite

variable {κ V : Type*} {k : κ} {v : V}

/-- A write: the value that it gives to a key, if it gives one. -/
abbrev Write (κ V : Type*) := κ → Option V

/-- The value that the last of the writes to a key gave to it. -/
def lastWrite (writes : List (Write κ V)) (k : κ) : Option V :=
  writes.foldl (fun last write => (write k).or last) none

theorem lastWrite_append_singleton (writes : List (Write κ V)) (write : Write κ V) (k : κ) :
    lastWrite (writes ++ [write]) k = (write k).or (lastWrite writes k) := by
  unfold lastWrite
  rw [List.foldl_append]
  rfl

/-- A write to a table with the last values. -/
theorem getD_lastWrite_append (writes : List (Write κ V)) (write : Write κ V) (k : κ) (old : V) :
    (lastWrite (writes ++ [write]) k).getD old =
      (write k).getD ((lastWrite writes k).getD old) := by
  rw [lastWrite_append_singleton]
  cases write k with
  | none => rfl
  | some v => rfl

theorem lastWrite_eq_none {writes : List (Write κ V)} (none' : ∀ write ∈ writes, write k = none) :
    lastWrite writes k = none := by
  induction writes using List.reverseRecOn with
  | nil => rfl
  | append_singleton writes write ih =>
    rw [lastWrite_append_singleton, none' write (by simp)]
    exact ih fun w mem => none' w (by simp [mem])

/-- Later writes to other keys do not count. -/
theorem lastWrite_eq_of_last {before after : List (Write κ V)} {write : Write κ V}
    (given : write k = some v) (others : ∀ w ∈ after, w k = none) :
    lastWrite (before ++ write :: after) k = some v := by
  induction after using List.reverseRecOn with
  | nil =>
    rw [lastWrite_append_singleton, given]
    rfl
  | append_singleton after w ih =>
    rw [← List.cons_append, ← List.append_assoc, lastWrite_append_singleton, others w (by simp)]
    exact ih fun u mem => others u (by simp [mem])

end LastWrite
