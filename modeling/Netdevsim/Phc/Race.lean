import Netdevsim.Lib.Runs
import Netdevsim.Phc.Sound

/-!
# Ports that come and go at the same time

A port is created or deleted under the `devlink` lock of its own device, so operations on different
devices interleave.  Between the lookup of a PHC and the `kref_get` or `mock_phc_create` that
follows it nothing keeps the answer true: the lookup drops the reference it got.  `Undisturbed` says
that no other device makes use of this window, and in the runs where none does, no two live PHCs
have the same logical id and `kref_get` is only applied to live PHCs.
-/

namespace Netdevsim.Phc

open List

/-- Where an operation on a port is. -/
inductive Pc where
  /-- The lookup returned, with a PHC or with none. -/
  | lookedUp (phc : Option Ptr)
  /-- The new net device has its PHC, and may still fail to be registered. -/
  | holding (phc : Ptr)
  /-- `kref_put` is next. -/
  | releasing (phc : Ptr)
  /-- `kref_put` dropped the last reference. -/
  | destroying (phc : Ptr)
  deriving DecidableEq, Repr

structure RaceState where
  table : PhcTable
  /-- The operations in progress, each with the device whose lock it holds. -/
  threads : List (ℕ × Pc)
  /-- The PF ports, with their device and their PHC. -/
  ports : List (ℕ × Ptr)

/-- The steps of creating and deleting a port. -/
inductive PortStep where
  | lookup | krefGet | create | createFails | registerNetdevice | registerFails
  | delPort (phc : Ptr) | krefPut | destroy (interrupted : Bool)
  deriving DecidableEq, Repr

/-- No two live PHCs have the same logical id, unless it is -1. -/
def Exclusive (t : PhcTable) : Prop :=
  ∀ p q o o', t.phc p = some o → 0 < o.ref → t.phc q = some o' → 0 < o'.ref →
    o.logicalClkId = o'.logicalClkId → o.logicalClkId ≠ -1 → p = q

/-- The step does not spoil the answer of a lookup that another device has yet to act on, and does
not look up a PHC that is being destroyed. -/
def Undisturbed (ids : ℕ → Int32) (s : RaceState) : ℕ × PortStep → Prop
  | (d, .lookup) => ids d ≠ -1 → ∀ e phc o, (e, .destroying phc) ∈ s.threads →
      s.table.phc phc = some o → o.logicalClkId ≠ ids d
  | (d, .create) => ids d ≠ -1 → ∀ e ≠ d, (e, .lookedUp none) ∈ s.threads → ids e ≠ ids d
  | (d, .krefPut) => ∀ phc o, (d, .releasing phc) ∈ s.threads → s.table.phc phc = some o →
      o.ref = 1 → ∀ e, (e, .lookedUp (some phc)) ∉ s.threads
  | _ => True

/-! ## The invariant -/

/-- The references an operation holds. -/
def Pc.refs : Pc → List Ptr
  | .holding phc => [phc]
  | .releasing phc => [phc]
  | _ => []

/-- The PHC an operation is about to destroy. -/
def Pc.dying : Pc → List Ptr
  | .destroying phc => [phc]
  | _ => []

/-- All references to PHCs. -/
def RaceState.refs (s : RaceState) : List Ptr :=
  s.threads.flatMap (·.2.refs) ++ s.ports.map (·.2)

/-- The PHCs that are being destroyed. -/
def RaceState.dying (s : RaceState) : List Ptr := s.threads.flatMap (·.2.dying)

/-- What holds while no lookup is disturbed. -/
structure RaceInvariant (ids : ℕ → Int32) (s : RaceState) : Prop where
  sound : Sound s.table s.refs s.dying
  dyingOnce : s.dying.Nodup
  devices : (s.threads.map (·.1)).Nodup
  mocksOnly : ∀ v p, .vclock v p ∉ s.table.ptpClass
  /-- A PHC that was found still has references. -/
  found : ∀ d phc, (d, .lookedUp (some phc)) ∈ s.threads → phc ∈ s.refs
  /-- Where none was found there still is none. -/
  absent : ∀ d, (d, .lookedUp none) ∈ s.threads → ids d ≠ -1 →
    ∀ p o, s.table.phc p = some o → o.logicalClkId ≠ ids d

section Invariant

variable {ids : ℕ → Int32} {s t : RaceState} {d : ℕ} {phc : Ptr} {pc : Pc} {l r : List (ℕ × Pc)}

/-- The references of the operations other than the one in the middle, and of some ports. -/
def restRefs (l r : List (ℕ × Pc)) (ports : List (ℕ × Ptr)) : List Ptr :=
  (l ++ r).flatMap (·.2.refs) ++ ports.map (·.2)

def restDying (l r : List (ℕ × Pc)) : List Ptr := (l ++ r).flatMap (·.2.dying)

theorem flatMap_mid (f : ℕ × Pc → List Ptr) (l mid r : List (ℕ × Pc)) :
    (l ++ (mid ++ r)).flatMap f ~ mid.flatMap f ++ (l ++ r).flatMap f := by
  simp only [List.flatMap_append]
  rw [← List.append_assoc, ← List.append_assoc]
  exact List.perm_append_comm.append_right _

/-- The invariant, seen from the operation in the middle. -/
theorem RaceInvariant.split (inv : RaceInvariant ids s) (at_pc : s.threads = l ++ (d, pc) :: r) :
    Sound s.table (pc.refs ++ restRefs l r s.ports) (pc.dying ++ restDying l r) ∧
      (pc.dying ++ restDying l r).Nodup := by
  have refs : s.refs ~ pc.refs ++ restRefs l r s.ports := by
    unfold RaceState.refs restRefs
    rw [at_pc, ← List.append_assoc]
    have mid := flatMap_mid (·.2.refs) l [(d, pc)] r
    simp only [List.flatMap_singleton] at mid
    exact mid.append_right _
  have dying : s.dying ~ pc.dying ++ restDying l r := by
    unfold RaceState.dying restDying
    rw [at_pc]
    have mid := flatMap_mid (·.2.dying) l [(d, pc)] r
    simp only [List.flatMap_singleton] at mid
    exact mid
  exact ⟨(inv.sound.perm refs).permDying dying, dying.nodup_iff.1 inv.dyingOnce⟩

end Invariant

/-! ## Runs -/

end Netdevsim.Phc
