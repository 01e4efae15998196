import Mathlib.Logic.Function.Basic
import Mathlib.Data.Set.Insert

/-!
# Partial matchings given by partner pointers

Each vertex may point to a partner.  The pointers form a partial matching on a set if they are
mutual, none points to its own vertex, and only vertices of the set have one.  Linking two vertices
without partners and unlinking two partners keep this, and a vertex without a partner may leave the
set.
-/

/-- The partner pointers form a partial matching on the set. -/
structure PartialMatching {V : Type*} (partner : V → Option V) (S : Set V) : Prop where
  symm : ∀ v u, partner v = some u → partner u = some v
  irrefl : ∀ v, partner v ≠ some v
  mem : ∀ v u, partner v = some u → v ∈ S

namespace PartialMatching

variable {V : Type*} {partner : V → Option V} {S T : Set V} {v u : V}

theorem empty (S : Set V) : PartialMatching (fun _ => none) S := ⟨nofun, nofun, nofun⟩

theorem iff (m : PartialMatching partner S) : partner v = some u ↔ partner u = some v :=
  ⟨m.symm v u, m.symm u v⟩

/-- The partner is in the set too. -/
theorem mem' (m : PartialMatching partner S) (h : partner v = some u) : u ∈ S :=
  m.mem u v (m.symm v u h)

theorem mono (m : PartialMatching partner S) (sub : S ⊆ T) : PartialMatching partner T :=
  ⟨m.symm, m.irrefl, fun v u h => sub (m.mem v u h)⟩

/-- A vertex without a partner may leave. -/
theorem leave (m : PartialMatching partner S) (free : partner v = none) :
    PartialMatching partner (S \ {v}) := by
  refine ⟨m.symm, m.irrefl, fun x y h => ⟨m.mem x y h, ?_⟩⟩
  rintro rfl
  cases free.symm.trans h

variable [DecidableEq V]

/-- The pointers after two of them were written, that of `u` last. -/
def write (partner : V → Option V) (v u : V) (pv pu : Option V) : V → Option V :=
  Function.update (Function.update partner v pv) u pu

theorem write_apply {pv pu : Option V} (x : V) :
    write partner v u pv pu x = if x = u then pu else if x = v then pv else partner x := by
  simp [write, Function.update_apply]

/-- Two vertices without partners become partners. -/
theorem link (m : PartialMatching partner S) (ne : v ≠ u) (hv : v ∈ S) (hu : u ∈ S)
    (freeV : partner v = none) (freeU : partner u = none) :
    PartialMatching (write partner v u (some u) (some v)) S := by
  have others : ∀ {x y}, partner x = some y → y ≠ v ∧ y ≠ u := by
    intro x y h
    constructor <;> rintro rfl
    · cases freeV.symm.trans (m.symm x _ h)
    · cases freeU.symm.trans (m.symm x _ h)
  refine ⟨fun x y h => ?_, fun x h => ?_, fun x y h => ?_⟩
  · rw [write_apply] at h ⊢
    split_ifs at h with xu xv
    · cases h
      simp [ne, xu]
    · cases h
      simp [xv]
    · obtain ⟨yv, yu⟩ := others h
      simp [yu, yv, m.symm x y h]
  · rw [write_apply] at h
    split_ifs at h with xu xv
    · cases h
      exact ne xu
    · cases h
      exact xu rfl
    · exact m.irrefl x h
  · rw [write_apply] at h
    split_ifs at h with xu xv
    · exact xu ▸ hu
    · exact xv ▸ hv
    · exact m.mem x y h

/-- Two partners part. -/
theorem unlink (m : PartialMatching partner S) (h : partner v = some u) :
    PartialMatching (write partner v u none none) S := by
  have back := m.symm v u h
  have kept : ∀ {x y}, write partner v u none none x = some y → x ≠ v ∧ x ≠ u ∧ partner x = some y := by
    intro x y hx
    rw [write_apply] at hx
    split_ifs at hx with xu xv
    exact ⟨xv, xu, hx⟩
  refine ⟨fun x y hx => ?_, fun x hx => ?_, fun x y hx => ?_⟩
  · obtain ⟨xv, xu, hx⟩ := kept hx
    have hy := m.symm x y hx
    have yu : y ≠ u := by
      rintro rfl
      exact xv (Option.some.inj (back.symm.trans hy)).symm
    have yv : y ≠ v := by
      rintro rfl
      exact xu (Option.some.inj (h.symm.trans hy)).symm
    simp [write_apply, yu, yv, hy]
  · exact m.irrefl x (kept hx).2.2
  · exact m.mem x y (kept hx).2.2

end PartialMatching
