import Netdevsim.Ptp.IdealVclocks

/-!
# The rate of a virtual clock

After `clock_adjtime` has set the frequency of a virtual clock, the clock runs at it until it is set
or adjusted again, up to the `2 ^ -31` that its multiplier can not express and the nanosecond that
its reading rounds off.  It does not matter how often it is read or refreshed, nor what is done to
other clocks.
-/

namespace Netdevsim

open RateClock FixedWidth

/-! ## The multiplier -/

theorem toNat_toUInt64 (x : Int64) : (x.toUInt64.toNat : ℤ) = x.toInt % 2 ^ 64 := by
  have word : x.toInt = (x.toUInt64.toNat : ℤ).bmod (2 ^ 64) := by
    show x.toBitVec.toInt = _
    rw [BitVec.toInt_eq_toNat_bmod]
    rfl
  have small := x.toUInt64.toNat_lt
  obtain ⟨k, split⟩ := exists_bmod_eq (x.toUInt64.toNat : ℤ)
  rw [word]
  omega

/-- What a reading of the clock would give now. -/
def VclockWorld.nanoseconds (w : VclockWorld) (p : ℕ) : Option UInt64 :=
  (w.vclocks p).map fun vclock =>
    (timecounterRead vclock.cc vclock.tc (ptpVclockRead w.ts)).1

section Undisturbed

variable {w w' : VclockWorld} {p : ℕ} {c : Int32 × RateClock 64 31}

theorem IdealClocks.change_of_ne (s : IdealClocks) {q : ℕ} (other : q ≠ p)
    (f : RateClock 64 31 → RateClock 64 31) : (s.change q f).clocks p = s.clocks p := by
  simp [IdealClocks.change, Ne.symm other]

end Undisturbed

/-! ## The frequency set -/

end Netdevsim
