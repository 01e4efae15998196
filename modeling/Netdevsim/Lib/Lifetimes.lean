import Mathlib.Tactic

/-!
# Lifetimes of resources

A log tells which resources were created and destroyed, the newest event first.  `live` replays it:
there is a set of live resources as long as nothing was created while it was live and nothing
destroyed while it was not.
-/

namespace Lifetimes

inductive Event (ρ : Type*) where
  | create (r : ρ)
  | destroy (r : ρ)
  deriving DecidableEq

variable {ρ : Type*} [DecidableEq ρ] {log : List (Event ρ)} {L : Finset ρ} {r : ρ}

/-- The resources that are live after the events of a log. -/
def live : List (Event ρ) → Option (Finset ρ)
  | [] => some ∅
  | .create r :: log => (live log).bind fun L => if r ∈ L then none else some (insert r L)
  | .destroy r :: log => (live log).bind fun L => if r ∈ L then some (L.erase r) else none

theorem live_create (now : live log = some L) (new : r ∉ L) :
    live (.create r :: log) = some (insert r L) := by
  rw [live, now, Option.bind_some, if_neg new]

theorem live_destroy (now : live log = some L) (mem : r ∈ L) :
    live (.destroy r :: log) = some (L.erase r) := by
  rw [live, now, Option.bind_some, if_pos mem]

/-- What is live was created once more than it was destroyed, and everything else was destroyed as
often as it was created. -/
theorem count_create (now : live log = some L) (r : ρ) :
    log.count (.create r) = log.count (.destroy r) + if r ∈ L then 1 else 0 := by
  induction log generalizing L with
  | nil =>
    obtain rfl := Option.some.inj now
    simp
  | cons e log ih =>
    cases e with
    | create x =>
      obtain ⟨K, before, step⟩ := Option.bind_eq_some_iff.1 now
      split at step
      · cases step
      · rename_i new
        obtain rfl := Option.some.inj step
        have old := ih before
        by_cases same : x = r
        · subst same
          simp [new] at old ⊢
          omega
        · simpa [List.count_cons, same, Ne.symm same] using old
    | destroy x =>
      obtain ⟨K, before, step⟩ := Option.bind_eq_some_iff.1 now
      split at step
      · rename_i mem
        obtain rfl := Option.some.inj step
        have old := ih before
        by_cases same : x = r
        · subst same
          simp [mem] at old ⊢
          omega
        · simpa [List.count_cons, same, Ne.symm same] using old
      · cases step

/-- When nothing is live any more, everything was destroyed as often as it was created. -/
theorem count_create_of_none_live (now : live log = some ∅) (r : ρ) :
    log.count (.create r) = log.count (.destroy r) := by
  simpa using count_create now r

end Lifetimes
