import Mathlib.Tactic

/-!
# Fixed-width arithmetic read back over the integers

`Int64` and `UInt64` wrap.  This file says when they do not: a value that fits in 64 signed bits is
read back as itself (`bmod_of_fits64`), so an `Int64` operation whose exact result fits is the exact
operation (`toInt_add_of_fits`, …).  It also has the laws of the truncated division `Int.tdiv` of C:
it loses less than one unit, towards zero, and splitting a quotient in two loses at most one more
(`tdiv_split`).
-/

namespace FixedWidth

/-- The integer fits in 64 signed bits. -/
def Fits64 (x : ℤ) : Prop := -2 ^ 63 ≤ x ∧ x < 2 ^ 63

instance (x : ℤ) : Decidable (Fits64 x) := inferInstanceAs (Decidable (_ ∧ _))

theorem fits64_toInt (x : Int64) : Fits64 x.toInt := ⟨x.le_toInt, x.toInt_lt⟩

theorem bmod_of_fits64 {x : ℤ} (h : Fits64 x) : x.bmod (2 ^ 64) = x := by
  unfold Fits64 at h
  rw [Int.bmod_eq_iff (by decide)]
  omega

theorem fits64_bmod (x : ℤ) : Fits64 (x.bmod (2 ^ 64)) := by
  have lo := Int.le_bmod (x := x) (m := 2 ^ 64) (by decide)
  have hi := Int.bmod_lt (x := x) (m := 2 ^ 64) (by decide)
  constructor <;> omega

/-- The wrapped value differs from the exact one by a multiple of `2 ^ 64`. -/
theorem exists_bmod_eq (x : ℤ) : ∃ k : ℤ, x.bmod (2 ^ 64) = x - 2 ^ 64 * k :=
  ⟨x.bdiv (2 ^ 64), mod_cast Int.bmod_eq_self_sub_mul_bdiv x (2 ^ 64)⟩

theorem fits64_zero : Fits64 0 := by decide

theorem bmod_eq_self_iff {x : ℤ} : x.bmod (2 ^ 64) = x ↔ Fits64 x :=
  ⟨fun same => same ▸ fits64_bmod x, bmod_of_fits64⟩

/-- The integer fits in 32 signed bits. -/
def Fits32 (x : ℤ) : Prop := -2 ^ 31 ≤ x ∧ x < 2 ^ 31

instance (x : ℤ) : Decidable (Fits32 x) := inferInstanceAs (Decidable (_ ∧ _))

theorem fits32_toInt (x : Int32) : Fits32 x.toInt := ⟨x.le_toInt, x.toInt_lt⟩

theorem bmod32_eq_self_iff {x : ℤ} : x.bmod (2 ^ 32) = x ↔ Fits32 x := by
  unfold Fits32
  rw [Int.bmod_eq_iff (by decide)]
  omega

/-! ## Exact signed operations -/

theorem toInt_ofInt_of_fits {x : ℤ} (h : Fits64 x) : (Int64.ofInt x).toInt = x := by
  rw [Int64.toInt_ofInt]
  exact bmod_of_fits64 h

theorem toInt_add_of_fits {a b : Int64} (h : Fits64 (a.toInt + b.toInt)) :
    (a + b).toInt = a.toInt + b.toInt := by
  rw [Int64.toInt_add, bmod_of_fits64 h]

theorem toInt_mul_of_fits {a b : Int64} (h : Fits64 (a.toInt * b.toInt)) :
    (a * b).toInt = a.toInt * b.toInt := by
  rw [Int64.toInt_mul, bmod_of_fits64 h]

/-- A quotient by a positive divisor is never longer than its dividend. -/
theorem fits64_tdiv {x d : ℤ} (h : Fits64 x) (hd : 0 < d) : Fits64 (x.tdiv d) := by
  unfold Fits64 at h ⊢
  have bound := Int.natAbs_tdiv_le_natAbs x d
  rcases le_total 0 x with hx | hx
  · have := Int.tdiv_nonneg hx hd.le
    omega
  · have : x.tdiv d ≤ 0 := by
      have := Int.tdiv_nonneg (neg_nonneg.2 hx) hd.le
      rw [Int.neg_tdiv] at this
      omega
    omega

theorem toInt_div_of_pos (a b : Int64) (hb : 0 < b.toInt) :
    (a / b).toInt = a.toInt.tdiv b.toInt := by
  rw [Int64.toInt_div, bmod_of_fits64 (fits64_tdiv (fits64_toInt a) hb)]

/-- An arithmetic shift rounds down. -/
theorem toInt_shiftRight {a b : Int64} {n : ℕ} (hb : (b.toBitVec.smod 64).toNat = n) :
    (a >>> b).toInt = a.toInt / 2 ^ n := by
  show (BitVec.sshiftRight' a.toBitVec (b.toBitVec.smod 64)).toInt = _
  rw [BitVec.toInt_sshiftRight', hb, Int.shiftRight_eq_div_pow]
  norm_cast

/-! ## Unsigned readings -/

theorem toInt_toInt64 (x : UInt64) : x.toInt64.toInt = (x.toNat : ℤ).bmod (2 ^ 64) := by
  show x.toBitVec.toInt = _
  rw [BitVec.toInt_eq_toNat_bmod]
  rfl

theorem toInt_toInt32 (x : UInt32) : x.toInt32.toInt = (x.toNat : ℤ).bmod (2 ^ 32) := by
  show x.toBitVec.toInt = _
  rw [BitVec.toInt_eq_toNat_bmod]
  rfl

theorem toInt_toInt64_of_lt {x : UInt64} (h : x.toNat < 2 ^ 63) : x.toInt64.toInt = x.toNat := by
  rw [toInt_toInt64]
  refine bmod_of_fits64 ⟨by omega, by exact_mod_cast h⟩

theorem toNat_sub_of_le {a b : UInt64} (h : a ≤ b) : (b - a).toNat = b.toNat - a.toNat :=
  UInt64.toNat_sub_of_le b a h

/-! ## Truncated division -/

/-- The fractional part that `tdiv` drops. -/
theorem tdiv_bounds_nonneg {x d : ℤ} (hx : 0 ≤ x) (hd : 0 < d) :
    x.tdiv d * d ≤ x ∧ x < (x.tdiv d + 1) * d := by
  have eq := Int.mul_tdiv_add_tmod x d
  have lo := Int.tmod_nonneg d hx
  have hi := Int.tmod_lt_of_pos x hd
  constructor <;> nlinarith

theorem tdiv_bounds_nonpos {x d : ℤ} (hx : x ≤ 0) (hd : 0 < d) :
    x ≤ x.tdiv d * d ∧ (x.tdiv d - 1) * d < x := by
  have h := tdiv_bounds_nonneg (neg_nonneg.2 hx) hd
  rw [Int.neg_tdiv] at h
  constructor <;> nlinarith

theorem abs_tdiv_mul_le (x : ℤ) {d : ℤ} (hd : 0 < d) : |x.tdiv d| * d ≤ |x| := by
  rcases le_total 0 x with hx | hx
  · rw [abs_of_nonneg hx, abs_of_nonneg (Int.tdiv_nonneg hx hd.le)]
    exact (tdiv_bounds_nonneg hx hd).1
  · have quotient := Int.tdiv_nonneg (neg_nonneg.2 hx) hd.le
    rw [Int.neg_tdiv] at quotient
    rw [abs_of_nonpos hx, abs_of_nonpos (neg_nonneg.1 quotient), neg_mul]
    exact neg_le_neg (tdiv_bounds_nonpos hx hd).1

/-- Splitting a nonnegative quotient in two loses at most one unit. -/
theorem tdiv_split_nonneg {x y d : ℤ} (hx : 0 ≤ x) (hy : 0 ≤ y) (hd : 0 < d) :
    0 ≤ (x + y).tdiv d - (x.tdiv d + y.tdiv d) ∧
      (x + y).tdiv d - (x.tdiv d + y.tdiv d) ≤ 1 := by
  have bx := tdiv_bounds_nonneg hx hd
  have bt := tdiv_bounds_nonneg hy hd
  have bs := tdiv_bounds_nonneg (add_nonneg hx hy) hd
  constructor
  · by_contra hlt
    nlinarith
  · by_contra hgt
    nlinarith

/-- Splitting a quotient of terms of one sign in two moves it by at most one unit. -/
theorem tdiv_split {x y d : ℤ} (hd : 0 < d) (sign : (0 ≤ x ∧ 0 ≤ y) ∨ (x ≤ 0 ∧ y ≤ 0)) :
    |(x + y).tdiv d - (x.tdiv d + y.tdiv d)| ≤ 1 := by
  rcases sign with ⟨hx, hy⟩ | ⟨hx, hy⟩
  · have h := tdiv_split_nonneg hx hy hd
    exact abs_le.2 ⟨by linarith, h.2⟩
  · have h := tdiv_split_nonneg (neg_nonneg.2 hx) (neg_nonneg.2 hy) hd
    rw [← neg_add, Int.neg_tdiv, Int.neg_tdiv, Int.neg_tdiv] at h
    exact abs_le.2 ⟨by linarith, by linarith⟩

/-- Terms further apart than `d` have different quotients. -/
theorem tdiv_lt_tdiv_of_add_le {x y d : ℤ} (hd : 0 < d) (h : x + 2 * d ≤ y) :
    x.tdiv d < y.tdiv d := by
  rcases le_total 0 x with hx | hx
  · have bx := tdiv_bounds_nonneg hx hd
    have bt := tdiv_bounds_nonneg (by linarith : 0 ≤ y) hd
    nlinarith
  · have bx := tdiv_bounds_nonpos hx hd
    rcases le_total 0 y with hy | hy
    · have bt := tdiv_bounds_nonneg hy hd
      nlinarith
    · have bt := tdiv_bounds_nonpos hy hd
      nlinarith

/-- A quotient rounded to zero has a dividend smaller than the divisor. -/
theorem abs_lt_of_tdiv_eq_zero {x d : ℤ} (hd : 0 < d) (h : x.tdiv d = 0) : -d < x ∧ x < d := by
  rcases le_total 0 x with hx | hx
  · have bounds := tdiv_bounds_nonneg hx hd
    rw [h] at bounds
    omega
  · have bounds := tdiv_bounds_nonpos hx hd
    rw [h] at bounds
    omega

/-- Dividing after wrapping is exact only if nothing wrapped, for divisors up to `2 ^ 63`. -/
theorem tdiv_bmod_eq_iff {x d : ℤ} (hd : 0 < d) (small : d ≤ 2 ^ 63) :
    (x.bmod (2 ^ 64)).tdiv d = x.tdiv d ↔ Fits64 x := by
  constructor
  · intro eq
    obtain ⟨k, hk⟩ := exists_bmod_eq x
    rcases lt_trichotomy k 0 with neg | zero | pos
    · have := tdiv_lt_tdiv_of_add_le hd (x := x) (y := x.bmod (2 ^ 64)) (by omega)
      omega
    · have same : x.bmod (2 ^ 64) = x := by simpa [zero] using hk
      exact same ▸ fits64_bmod x
    · have := tdiv_lt_tdiv_of_add_le hd (x := x.bmod (2 ^ 64)) (y := x) (by omega)
      omega
  · intro fits
    rw [bmod_of_fits64 fits]

end FixedWidth
