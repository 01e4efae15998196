import Mathlib.Algebra.BigOperators.Group.List.Basic
import Mathlib.Data.Finset.Card
import Mathlib.Tactic

/-!
# Counting ahead of a queue

Operations are announced to a server, which queues them and executes them later.  `Ready` says that
each operation meets its precondition when its turn comes.

The operations of interest add keys to a set or remove them, and a counter follows the
announcements: one up for an addition, one down for a removal.  When an addition is executed whose
key is there already, the counter has to go down again.  `Tally` is the invariant of such a counter.
It is never negative, and whenever it has to go down it is positive, so that a decrement that stops
at zero does not matter.
-/

/-! ## Queued operations -/

section Ready

variable {σ ο : Type*} (apply : σ → ο → σ) (pre : σ → ο → Prop)

/-- Each operation meets its precondition when its turn comes. -/
def Ready : σ → List ο → Prop
  | _, [] => True
  | s, op :: ops => pre s op ∧ Ready (apply s op) ops

variable {apply pre} {s : σ} {op : ο} {ops : List ο}

theorem ready_cons : Ready apply pre s (op :: ops) ↔ pre s op ∧ Ready apply pre (apply s op) ops :=
  Iff.rfl

/-- An operation may be queued if what the others lead to meets its precondition. -/
theorem ready_concat :
    Ready apply pre s (ops ++ [op]) ↔
      Ready apply pre s ops ∧ pre (ops.foldl apply s) op := by
  induction ops generalizing s with
  | nil => simp [Ready]
  | cons first ops ih =>
    rw [List.cons_append, ready_cons, ready_cons, ih, List.foldl_cons, and_assoc]

end Ready

/-! ## Changes of a set -/

/-- The addition or removal of a key. -/
inductive Change (κ : Type) where
  | add (key : κ)
  | del (key : κ)
  deriving DecidableEq

namespace Change

variable {κ : Type}

/-- What an announcement adds to the counter. -/
def weight : Change κ → ℤ
  | add _ => 1
  | del _ => -1

def balance (cs : List (Change κ)) : ℤ := (cs.map weight).sum

@[simp] theorem balance_nil : balance ([] : List (Change κ)) = 0 := rfl

@[simp] theorem balance_cons (c : Change κ) (cs : List (Change κ)) :
    balance (c :: cs) = c.weight + balance cs := by
  simp [balance]

@[simp] theorem balance_append (cs ds : List (Change κ)) :
    balance (cs ++ ds) = balance cs + balance ds := by
  simp [balance]

variable [DecidableEq κ]

def apply (R : Finset κ) : Change κ → Finset κ
  | add key => insert key R
  | del key => R.erase key

/-- A removal finds its key. -/
def Finds (R : Finset κ) (c : Change κ) : Prop := ∀ key, c = del key → key ∈ R

/-- The set does not grow by more than what is announced. -/
theorem card_apply_le {R : Finset κ} {c : Change κ} (finds : c.Finds R) :
    ((c.apply R).card : ℤ) ≤ R.card + c.weight := by
  cases c with
  | add key =>
    have := Finset.card_insert_le key R
    simp only [apply, weight]
    omega
  | del key =>
    have here := finds key rfl
    have := Finset.card_erase_of_mem here
    have := Finset.card_pos.2 ⟨key, here⟩
    simp only [apply, weight]
    omega

theorem card_foldl_le {R : Finset κ} {cs : List (Change κ)} (ready : Ready apply Finds R cs) :
    ((cs.foldl apply R).card : ℤ) ≤ R.card + balance cs := by
  induction cs generalizing R with
  | nil => simp
  | cons c cs ih =>
    have first := card_apply_le ready.1
    have rest := ih ready.2
    rw [List.foldl_cons, balance_cons]
    omega

end Change

/-! ## The counter -/

/-- The counter is right for the set and the changes that are queued. -/
structure Tally {κ : Type} [DecidableEq κ] (num : ℤ) (R : Finset κ) (cs : List (Change κ)) :
    Prop where
  num_eq : num = R.card + Change.balance cs
  ready : Ready Change.apply Change.Finds R cs

namespace Tally

open Change

variable {κ : Type} [DecidableEq κ] {num : ℤ} {R : Finset κ} {cs : List (Change κ)} {key : κ}

theorem empty : Tally 0 (∅ : Finset κ) [] := ⟨rfl, trivial⟩

/-- The counter is at least the size of the set that the queued changes lead to. -/
theorem card_le (tally : Tally num R cs) : ((cs.foldl apply R).card : ℤ) ≤ num := by
  rw [tally.num_eq]
  exact card_foldl_le tally.ready

theorem nonneg (tally : Tally num R cs) : 0 ≤ num := (Int.natCast_nonneg _).trans tally.card_le

theorem pos_of_mem (tally : Tally num R cs) (mem : key ∈ cs.foldl apply R) : 0 < num := by
  have := tally.card_le
  have := Finset.card_pos.2 ⟨key, mem⟩
  omega

theorem announce_add (tally : Tally num R cs) (key : κ) :
    Tally (num + 1) R (cs ++ [add key]) := by
  refine ⟨?_, ready_concat.2 ⟨tally.ready, fun _ other => nomatch other⟩⟩
  have := tally.num_eq
  simp only [balance_append, balance_cons, balance_nil, weight]
  omega

theorem announce_del (tally : Tally num R cs) (mem : key ∈ cs.foldl apply R) :
    Tally (num - 1) R (cs ++ [del key]) := by
  refine ⟨?_, ready_concat.2 ⟨tally.ready, ?_⟩⟩
  · have := tally.num_eq
    simp only [balance_append, balance_cons, balance_nil, weight]
    omega
  · rintro _ ⟨⟩
    exact mem

/-- The execution of an addition of a new key. -/
theorem add_new (tally : Tally num R (add key :: cs)) (new : key ∉ R) :
    Tally num (insert key R) cs := by
  refine ⟨?_, tally.ready.2⟩
  have := tally.num_eq
  rw [Finset.card_insert_of_notMem new]
  simp only [balance_cons, weight] at this
  omega

/-- The execution of an addition of a key that is there, for which the counter goes down. -/
theorem add_old (tally : Tally num R (add key :: cs)) (old : key ∈ R) :
    0 < num ∧ Tally (num - 1) R cs := by
  have rest : Ready apply Finds R cs := by
    have := tally.ready.2
    rwa [apply, Finset.insert_eq_of_mem old] at this
  have less : Tally (num - 1) R cs := by
    refine ⟨?_, rest⟩
    have := tally.num_eq
    simp only [balance_cons, weight] at this
    omega
  have := less.nonneg
  exact ⟨by omega, less⟩

/-- The execution of a removal. -/
theorem del_old (tally : Tally num R (del key :: cs)) : key ∈ R ∧ Tally num (R.erase key) cs := by
  have old := tally.ready.1 key rfl
  refine ⟨old, ?_, tally.ready.2⟩
  have := tally.num_eq
  have := Finset.card_erase_of_mem old
  have := Finset.card_pos.2 ⟨key, old⟩
  simp only [balance_cons, weight] at *
  omega

/-- With nothing queued the counter is exact. -/
theorem exact (tally : Tally num R []) : num = R.card := by
  have := tally.num_eq
  simpa using this

end Tally
