import Netdevsim.Ptp.Clock

/-!
# The rate law of the mock PHC

Folding the drift should advance the PHC by the elapsed time plus the exact drift, rounded towards
zero (`RateLaw`).  The code multiplies the elapsed time and the frequency in 64 bits, so the law
holds exactly while that product fits (`DriftFits`, `rateLaw_iff`).  As long as it does and the PHC
time itself stays below `2 ^ 63`, readings do not decrease between two steps of the time base.
-/

namespace Netdevsim

open FixedWidth

/-- The PHC time at the last update of the time base. -/
def MockPhc.timeNs (phc : MockPhc) : ℤ := (phc.lastMonoNs.toInt64 + phc.offsetNs).toInt

/-- The time since the last update, for `phc.lastMonoNs ≤ raw`. -/
def MockPhc.elapsed (phc : MockPhc) (raw : UInt64) : ℤ :=
  (raw.toNat : ℤ) - phc.lastMonoNs.toNat

/-- The mathematical drift since the last update, rounded towards zero. -/
def MockPhc.drift (phc : MockPhc) (raw : UInt64) : ℤ :=
  (phc.elapsed raw * phc.freqPpb.toInt).tdiv 1000000000

/-- The frequency is in the range the PTP core enforces. -/
def MockPhc.FreqInRange (phc : MockPhc) : Prop :=
  -MOCK_PHC_MAX_ADJ_PPB ≤ phc.freqPpb.toInt ∧ phc.freqPpb.toInt ≤ MOCK_PHC_MAX_ADJ_PPB

/-- A read at `raw` advances the PHC by the elapsed time plus the drift.  PHC times are 64-bit. -/
def RateLaw (phc : MockPhc) (raw : UInt64) : Prop :=
  (mockPhcReadLocked phc raw).1.toInt64.toInt =
    (phc.timeNs + (phc.elapsed raw + phc.drift raw)).bmod (2 ^ 64)

/-- A reading at `raw` is not before the PHC time at the last update. -/
def NoDecrease (phc : MockPhc) (raw : UInt64) : Prop :=
  phc.timeNs ≤ (mockPhcGettime64 phc raw).1.ns

/-- The 64-bit product of the drift does not overflow. -/
def DriftFits (phc : MockPhc) (raw : UInt64) : Prop :=
  phc.freqPpb.toInt = 0 ∨
    (phc.elapsed raw < 2 ^ 63 ∧ Fits64 (phc.elapsed raw * phc.freqPpb.toInt))

/-- Neither the product nor the PHC time overflows. -/
def ReadFits (phc : MockPhc) (raw : UInt64) : Prop :=
  DriftFits phc raw ∧ phc.timeNs + phc.elapsed raw + phc.drift raw < 2 ^ 63

instance (phc : MockPhc) : Decidable phc.FreqInRange := inferInstanceAs (Decidable (_ ∧ _))
instance (phc : MockPhc) (raw : UInt64) : Decidable (RateLaw phc raw) :=
  inferInstanceAs (Decidable (_ = _))
instance (phc : MockPhc) (raw : UInt64) : Decidable (DriftFits phc raw) :=
  inferInstanceAs (Decidable (_ ∨ _))
instance (phc : MockPhc) (raw : UInt64) : Decidable (ReadFits phc raw) :=
  inferInstanceAs (Decidable (_ ∧ _))

/-! ## What the code adds -/

/-- The drift the code adds, with its wrapping arithmetic. -/
def MockPhc.codeDrift (phc : MockPhc) (raw : UInt64) : ℤ :=
  let elapsed := (phc.elapsed raw).bmod (2 ^ 64)
  if 0 < elapsed ∧ phc.freqPpb.toInt ≠ 0 then
    ((elapsed * phc.freqPpb.toInt).bmod (2 ^ 64)).tdiv 1000000000
  else 0

section OneRead

variable {phc : MockPhc} {raw : UInt64}

theorem elapsed_toInt64 (phc : MockPhc) (raw : UInt64) :
    (raw - phc.lastMonoNs).toInt64.toInt = (phc.elapsed raw).bmod (2 ^ 64) := by
  have sub : (raw - phc.lastMonoNs).toInt64 = raw.toInt64 - phc.lastMonoNs.toInt64 := by
    exact UInt64.toInt64_sub raw phc.lastMonoNs
  rw [sub, Int64.toInt_sub, toInt_toInt64, toInt_toInt64, Int.bmod_sub_bmod, Int.sub_bmod_bmod]
  rfl

/-- The offset moves by the drift of the code. -/
theorem readLocked_offsetNs (phc : MockPhc) (raw : UInt64) :
    (mockPhcReadLocked phc raw).2.offsetNs.toInt =
      (phc.offsetNs.toInt + phc.codeDrift raw).bmod (2 ^ 64) := by
  have positive : 0 < (raw - phc.lastMonoNs).toInt64 ↔ 0 < (phc.elapsed raw).bmod (2 ^ 64) := by
    rw [Int64.lt_iff_toInt_lt, elapsed_toInt64]
    rfl
  have nonzero : phc.freqPpb ≠ 0 ↔ phc.freqPpb.toInt ≠ 0 := by
    rw [not_iff_not, ← Int64.toInt_inj]
    rfl
  unfold MockPhc.codeDrift
  simp only [mockPhcReadLocked, positive, nonzero]
  split_ifs with folds
  · rw [Int64.toInt_add, toInt_div_of_pos _ _ (by decide), Int64.toInt_mul, elapsed_toInt64]
    rfl
  · rw [add_zero, bmod_of_fits64 (fits64_toInt _)]

/-- The PHC time after a read is the reading. -/
theorem timeNs_readLocked (phc : MockPhc) (raw : UInt64) :
    (mockPhcReadLocked phc raw).2.timeNs = (mockPhcReadLocked phc raw).1.toInt64.toInt := by
  simp only [MockPhc.timeNs, mockPhcReadLocked, Int64.toInt64_toUInt64]

theorem gettime64_ns (phc : MockPhc) (raw : UInt64) :
    (mockPhcGettime64 phc raw).1.ns = (mockPhcReadLocked phc raw).2.timeNs := by
  rw [timeNs_readLocked]
  exact ns_nsToTimespec64 _

/-- A read advances the PHC by the elapsed time and the drift of the code, modulo `2 ^ 64`. -/
theorem timeNs_readLocked_codeDrift (phc : MockPhc) (raw : UInt64) :
    (mockPhcReadLocked phc raw).2.timeNs =
      (phc.timeNs + (phc.elapsed raw + phc.codeDrift raw)).bmod (2 ^ 64) := by
  unfold MockPhc.timeNs
  rw [Int64.toInt_add, Int64.toInt_add, readLocked_offsetNs, readLocked_lastMonoNs, toInt_toInt64,
    toInt_toInt64, Int.add_bmod_bmod, Int.bmod_add_bmod, Int.bmod_add_bmod, Int.add_assoc,
    Int.bmod_add_bmod]
  congr 1
  unfold MockPhc.elapsed
  omega

/-! ## When the drift is exact -/

theorem elapsed_bounds (le : phc.lastMonoNs ≤ raw) :
    0 ≤ phc.elapsed raw ∧ phc.elapsed raw < 2 ^ 64 := by
  have : phc.lastMonoNs.toNat ≤ raw.toNat := le
  have := raw.toNat_lt
  unfold MockPhc.elapsed
  omega

/-- The exact drift moves the rate by at most one half. -/
theorem drift_bounds (inRange : phc.FreqInRange) (le : phc.lastMonoNs ≤ raw) :
    -phc.elapsed raw ≤ 2 * phc.drift raw ∧ 2 * phc.drift raw ≤ phc.elapsed raw := by
  obtain ⟨lo, hi⟩ := inRange
  have nonneg := (elapsed_bounds le).1
  unfold MOCK_PHC_MAX_ADJ_PPB at lo hi
  unfold MockPhc.drift
  rcases le_total 0 phc.freqPpb.toInt with sign | sign
  · have bounds := tdiv_bounds_nonneg (mul_nonneg nonneg sign) (d := 1000000000) (by decide)
    have := Int.tdiv_nonneg (mul_nonneg nonneg sign) (b := 1000000000) (by decide)
    constructor <;> nlinarith
  · have bounds := tdiv_bounds_nonpos (mul_nonpos_of_nonneg_of_nonpos nonneg sign)
      (d := 1000000000) (by decide)
    have := Int.tdiv_nonneg (neg_nonneg.2 (mul_nonpos_of_nonneg_of_nonpos nonneg sign))
      (b := 1000000000) (by decide)
    rw [Int.neg_tdiv] at this
    constructor <;> nlinarith

/-- The drift up to a later time is the drift up to a time before it and the drift in between, up to
the fraction that rounding drops. -/
theorem abs_drift_split_le {first later : UInt64} (le : phc.lastMonoNs ≤ first)
    (after : first ≤ later) :
    |phc.drift later - (phc.drift first +
      (((later.toNat : ℤ) - first.toNat) * phc.freqPpb.toInt).tdiv 1000000000)| ≤ 1 := by
  have before : phc.lastMonoNs.toNat ≤ first.toNat := le
  have between : first.toNat ≤ later.toNat := after
  unfold MockPhc.drift MockPhc.elapsed
  have split := tdiv_split (d := 1000000000) (by decide)
    (x := ((first.toNat : ℤ) - phc.lastMonoNs.toNat) * phc.freqPpb.toInt)
    (y := ((later.toNat : ℤ) - first.toNat) * phc.freqPpb.toInt) (by
      rcases le_total 0 phc.freqPpb.toInt with sign | sign
      · exact .inl ⟨mul_nonneg (by omega) sign, mul_nonneg (by omega) sign⟩
      · exact .inr ⟨mul_nonpos_of_nonneg_of_nonpos (by omega) sign,
          mul_nonpos_of_nonneg_of_nonpos (by omega) sign⟩)
  have whole : ((first.toNat : ℤ) - phc.lastMonoNs.toNat) * phc.freqPpb.toInt +
      ((later.toNat : ℤ) - first.toNat) * phc.freqPpb.toInt =
      ((later.toNat : ℤ) - phc.lastMonoNs.toNat) * phc.freqPpb.toInt := by ring
  rwa [whole] at split

theorem codeDrift_bounds (phc : MockPhc) (raw : UInt64) :
    -2 ^ 34 < phc.codeDrift raw ∧ phc.codeDrift raw < 2 ^ 34 := by
  unfold MockPhc.codeDrift
  simp only
  split_ifs
  · have fits := fits64_bmod ((phc.elapsed raw).bmod (2 ^ 64) * phc.freqPpb.toInt)
    unfold Fits64 at fits
    generalize ((phc.elapsed raw).bmod (2 ^ 64) * phc.freqPpb.toInt).bmod (2 ^ 64) = x at fits ⊢
    rcases le_total 0 x with sign | sign
    · have bounds := tdiv_bounds_nonneg sign (d := 1000000000) (by decide)
      constructor <;> omega
    · have bounds := tdiv_bounds_nonpos sign (d := 1000000000) (by decide)
      constructor <;> omega
  · decide

/-- The drift of the code is the exact one precisely when its product fits. -/
theorem codeDrift_eq_drift_iff (le : phc.lastMonoNs ≤ raw) :
    phc.codeDrift raw = phc.drift raw ↔ DriftFits phc raw := by
  obtain ⟨nonneg, small⟩ := elapsed_bounds le
  unfold MockPhc.codeDrift MockPhc.drift DriftFits
  simp only
  by_cases still : phc.freqPpb.toInt = 0
  · simp [still]
  · simp only [still, ne_eq, not_false_eq_true, and_true, false_or]
    generalize phc.elapsed raw = elapsed at *
    generalize phc.freqPpb.toInt = freq at *
    by_cases short : elapsed < 2 ^ 63
    · rw [bmod_of_fits64 (x := elapsed) ⟨by omega, short⟩]
      simp only [short, true_and]
      by_cases zero : elapsed = 0
      · simp [zero, fits64_zero]
      · rw [if_pos (by omega)]
        exact tdiv_bmod_eq_iff (by decide) (by decide)
    · -- The elapsed time reads as negative: no drift is added, though some is due.
      have negative : ¬ 0 < elapsed.bmod (2 ^ 64) := by
        have : elapsed.bmod (2 ^ 64) = elapsed - 2 ^ 64 := by
          rw [Int.bmod_eq_iff (by decide)]
          omega
        omega
      rw [if_neg negative]
      simp only [short, false_and, iff_false]
      intro zero
      obtain ⟨lo, hi⟩ := abs_lt_of_tdiv_eq_zero (by decide) zero.symm
      rcases lt_or_gt_of_ne still with sign | sign <;> nlinarith

/-- The rate law holds exactly when the product of the drift fits. -/
theorem rateLaw_iff (inRange : phc.FreqInRange) (le : phc.lastMonoNs ≤ raw) :
    RateLaw phc raw ↔ DriftFits phc raw := by
  rw [← codeDrift_eq_drift_iff le]
  unfold RateLaw
  rw [← timeNs_readLocked, timeNs_readLocked_codeDrift]
  constructor
  · intro congruent
    obtain ⟨nonneg, small⟩ := elapsed_bounds le
    obtain ⟨j, hj⟩ := exists_bmod_eq (phc.timeNs + (phc.elapsed raw + phc.codeDrift raw))
    obtain ⟨k, hk⟩ := exists_bmod_eq (phc.timeNs + (phc.elapsed raw + phc.drift raw))
    have code := codeDrift_bounds phc raw
    have exact' := drift_bounds inRange le
    -- Both drifts are far smaller than the modulus they agree by.
    omega
  · intro same
    rw [same]

/-- While the drift fits, readings do not decrease exactly as long as the PHC time fits too. -/
theorem noDecrease_iff (inRange : phc.FreqInRange) (le : phc.lastMonoNs ≤ raw)
    (fits : DriftFits phc raw) :
    NoDecrease phc raw ↔ phc.timeNs + phc.elapsed raw + phc.drift raw < 2 ^ 63 := by
  unfold NoDecrease
  rw [gettime64_ns, timeNs_readLocked_codeDrift, (codeDrift_eq_drift_iff le).2 fits,
    ← Int.add_assoc]
  have time : Fits64 phc.timeNs := fits64_toInt _
  have total := fits64_bmod (phc.timeNs + phc.elapsed raw + phc.drift raw)
  obtain ⟨nonneg, small⟩ := elapsed_bounds le
  obtain ⟨k, hk⟩ := exists_bmod_eq (phc.timeNs + phc.elapsed raw + phc.drift raw)
  have bounds := drift_bounds inRange le
  unfold Fits64 at time total
  constructor
  · intro kept
    by_contra late
    have : phc.elapsed raw + phc.drift raw < 2 ^ 64 := by
      rcases fits with still | ⟨short, -⟩
      · have : phc.drift raw = 0 := by
          unfold MockPhc.drift
          rw [still, mul_zero]
          rfl
        omega
      · omega
    omega
  · intro room
    have exact' : (phc.timeNs + phc.elapsed raw + phc.drift raw).bmod (2 ^ 64) =
        phc.timeNs + phc.elapsed raw + phc.drift raw := bmod_of_fits64 ⟨by omega, room⟩
    omega

theorem rateLaw_and_noDecrease_iff (inRange : phc.FreqInRange) (le : phc.lastMonoNs ≤ raw) :
    (RateLaw phc raw ∧ NoDecrease phc raw) ↔ ReadFits phc raw := by
  unfold ReadFits
  rw [rateLaw_iff inRange le]
  exact and_congr_right fun fits => noDecrease_iff inRange le fits

end OneRead

/-! ## The frequencies the core lets through -/

/-- `scaled_ppm_to_ppb` rounds the wrapped product down. -/
theorem toInt_scaledPpmToPpb (ppm : Int64) :
    (scaledPpmToPpb ppm).toInt = ((1 + ppm.toInt) * 125).bmod (2 ^ 64) / 2 ^ 13 := by
  have wrapped : ((1 + ppm) * 125).toInt = ((1 + ppm.toInt) * 125).bmod (2 ^ 64) := by
    rw [Int64.toInt_mul, Int64.toInt_add, Int.bmod_mul_bmod]
    rfl
  unfold scaledPpmToPpb
  rw [toInt_shiftRight (n := 13) (by decide), wrapped]

/-- The product of `scaled_ppm_to_ppb` and the one of `mock_phc_adjfine` wrap together, so an
accepted frequency lands in the range whatever its size. -/
theorem freqInRange_adjfine (phc : MockPhc) (raw : UInt64) {scaledPpm : Int64}
    (accepted : freqAccepted scaledPpm) : (mockPhcAdjfine phc raw scaledPpm).FreqInRange := by
  unfold freqAccepted at accepted
  rw [decide_eq_true_eq, toInt_scaledPpmToPpb] at accepted
  obtain ⟨k, hk⟩ := exists_bmod_eq ((1 + scaledPpm.toInt) * 125)
  generalize ((1 + scaledPpm.toInt) * 125).bmod (2 ^ 64) = ppb at accepted hk
  have freq : (scaledPpm * 1000 / 65536).toInt = (8 * (ppb - 125)).tdiv 65536 := by
    rw [toInt_div_of_pos _ _ (by decide), Int64.toInt_mul]
    congr 1
    rw [Int.bmod_eq_iff (by decide)]
    unfold MOCK_PHC_MAX_ADJ_PPB at accepted
    refine ⟨by omega, by omega, ⟨-8 * k, ?_⟩⟩
    have : (1000 : Int64).toInt = 1000 := rfl
    rw [this]
    omega
  unfold MockPhc.FreqInRange MOCK_PHC_MAX_ADJ_PPB at *
  show -500000000 ≤ (scaledPpm * 1000 / 65536).toInt ∧ (scaledPpm * 1000 / 65536).toInt ≤ 500000000
  rw [freq]
  rcases le_total 0 (8 * (ppb - 125)) with sign | sign
  · have := tdiv_bounds_nonneg sign (d := 65536) (by decide)
    omega
  · have := tdiv_bounds_nonpos sign (d := 65536) (by decide)
    omega

/-! ## Readings between two steps of the time base -/

/-- The call sets neither the time nor a frequency the core refuses. -/
def BetweenSteps : PhcOp → Prop
  | .adjfine scaledPpm => freqAccepted scaledPpm
  | op => op.setsTime = false

/-- The rate law holds at this call, if it reads the PHC. -/
def LawAt (phc : MockPhc) (clk : Clocks) (op : PhcOp) : Prop :=
  op.folds phc clk → RateLaw phc clk.mono ∧ NoDecrease phc clk.mono

/-- The condition of the rate law at this call. -/
def FitsAt (phc : MockPhc) (clk : Clocks) (op : PhcOp) : Prop :=
  op.folds phc clk → ReadFits phc clk.mono

theorem not_setsTime_of_betweenSteps {op : PhcOp} (between : BetweenSteps op) :
    op.setsTime = false := by
  cases op <;> first | rfl | exact between

theorem timeNs_eq_of_base {phc phc' : MockPhc} (offset : phc'.base.offsetNs = phc.base.offsetNs)
    (last : phc'.base.lastMonoNs = phc.base.lastMonoNs) : phc'.timeNs = phc.timeNs := by
  unfold MockPhc.timeNs
  rw [show phc'.offsetNs = phc.offsetNs from offset,
    show phc'.lastMonoNs = phc.lastMonoNs from last]

/-- What one call between steps keeps, and where it takes the PHC time. -/
theorem phcStep_between {phc : MockPhc} {clk : Clocks} {op : PhcOp} (inRange : phc.FreqInRange)
    (le : phc.lastMonoNs ≤ clk.mono) (between : BetweenSteps op) (fits : FitsAt phc clk op) :
    let after := (phcStep phc clk op).1
    after.FreqInRange ∧ after.lastMonoNs ≤ clk.mono ∧ phc.timeNs ≤ after.timeNs ∧
      ∀ ts, (phcStep phc clk op).2 = .reading ts → ts.ns = after.timeNs := by
  obtain ⟨offset, last, freq⟩ := phcStep_base phc clk
    (not_setsTime_of_betweenSteps between)
  refine ⟨?_, ?_, ?_, ?_⟩
  · cases op with
    | adjfine scaledPpm => exact freqInRange_adjfine phc clk.mono between
    | _ =>
      unfold MockPhc.FreqInRange
      rw [show (phcStep phc clk _).1.freqPpb = phc.freqPpb from freq]
      exact inRange
  · rw [show (phcStep phc clk op).1.lastMonoNs = _ from last]
    split_ifs
    · exact UInt64.le_refl clk.mono
    · exact le
  · by_cases folds : op.folds phc clk
    · rw [if_pos folds] at offset last
      rw [timeNs_eq_of_base offset last, ← gettime64_ns]
      exact ((rateLaw_and_noDecrease_iff inRange le).2 (fits folds)).2
    · rw [if_neg folds] at offset last
      rw [timeNs_eq_of_base offset last]
  · intro ts out
    cases op with
    | gettime64 =>
      simp only [phcStep, PhcOutput.reading.injEq] at out ⊢
      rw [← out, gettime64_ns]
      rfl
    | enable rq on =>
      simp only [phcStep] at out
      cases attempt : mockPhcEnable phc clk rq on <;> rw [attempt] at out <;> cases out
    | exttsDelayMsStore buf =>
      simp only [phcStep] at out
      cases attempt : exttsDelayMsStore phc clk buf <;> rw [attempt] at out <;> cases out
    | exttsTimer =>
      simp only [phcStep] at out
      split at out <;> cases out
    | _ => cases out

/-- In a run between steps whose reads all fit, the law holds at every read, and the readings rise
from the PHC time the run starts at. -/
theorem phcRun_between (steps : List (Clocks × PhcOp)) (phc : MockPhc) (now : UInt64)
    (inRange : phc.FreqInRange) (le : phc.lastMonoNs ≤ now) (mono : MonoFrom now steps)
    (between : ∀ step ∈ steps, BetweenSteps step.2) (fits : EveryStep FitsAt phc steps) :
    EveryStep LawAt phc steps ∧
      (∀ t ∈ readings (phcRun phc steps).2, phc.timeNs ≤ t) ∧
      (readings (phcRun phc steps).2).Pairwise (· ≤ ·) := by
  induction steps generalizing phc now with
  | nil => exact ⟨trivial, by simp [phcRun, readings], by simp [phcRun, readings]⟩
  | cons step steps ih =>
    obtain ⟨clk, op⟩ := step
    obtain ⟨fitsHere, fitsLater⟩ := fits
    obtain ⟨later, mono⟩ := List.isChain_cons_cons.1 mono
    have le' : phc.lastMonoNs ≤ clk.mono := UInt64.le_trans le later
    obtain ⟨inRange', last', time, reading⟩ :=
      phcStep_between inRange le' (between (clk, op) (by simp)) fitsHere
    obtain ⟨law, above, rising⟩ := ih (phcStep phc clk op).1 clk.mono inRange' last' mono
      (fun step mem => between step (by simp [mem])) fitsLater
    refine ⟨⟨fun folds => (rateLaw_and_noDecrease_iff inRange le').2 (fitsHere folds), law⟩, ?_⟩
    simp only [phcRun]
    cases out : (phcStep phc clk op).2 with
    | reading ts =>
      have ns := reading ts out
      simp only [readings, List.filterMap_cons] at above rising ⊢
      refine ⟨fun t mem => ?_, List.pairwise_cons.2 ⟨fun t mem => ?_, rising⟩⟩
      · rcases List.mem_cons.1 mem with rfl | mem
        · exact ns ▸ time
        · exact time.trans (above t mem)
      · exact ns ▸ above t mem
    | _ =>
      simp only [readings, List.filterMap_cons] at above rising ⊢
      exact ⟨fun t mem => time.trans (above t mem), rising⟩

/-- The rate law, at a single read and over whole runs: it holds exactly while the 64-bit product
and the PHC time fit. -/
theorem phc_rate_law (phc : MockPhc) (inRange : phc.FreqInRange) :
    (∀ raw, phc.lastMonoNs ≤ raw → ((RateLaw phc raw ∧ NoDecrease phc raw) ↔ ReadFits phc raw)) ∧
    ∀ steps, MonoFrom phc.lastMonoNs steps → (∀ step ∈ steps, BetweenSteps step.2) →
      EveryStep FitsAt phc steps →
      EveryStep LawAt phc steps ∧ (readings (phcRun phc steps).2).Pairwise (· ≤ ·) := by
  refine ⟨fun raw => rateLaw_and_noDecrease_iff inRange, ?_⟩
  intro steps mono between fits
  obtain ⟨law, -, rising⟩ :=
    phcRun_between steps phc phc.lastMonoNs inRange (UInt64.le_refl _) mono between fits
  exact ⟨law, rising⟩

/-- A clock started at the monotonic time 0 and tuned to the largest frequency. -/
def tunedClock : MockPhc := { mockPhcCreate ⟨0, 0⟩ with freqPpb := 500000000 }

theorem phc_rate_law_after_ten_seconds :
    tunedClock.FreqInRange ∧ RateLaw tunedClock 10000000000 ∧
      (readings (phcRun tunedClock [(⟨5, 5⟩, .gettime64), (⟨9, 9⟩, .gettime64)]).2).Pairwise
        (· ≤ ·) := by
  have inRange : tunedClock.FreqInRange := ⟨by decide, by decide⟩
  have early : ReadFits tunedClock 10000000000 := by decide
  refine ⟨inRange, (((phc_rate_law tunedClock inRange).1 _ (by decide)).2 early).1, ?_⟩
  refine ((phc_rate_law tunedClock inRange).2 _ (by simp [MonoFrom]; decide) ?_ ?_).2
  · simp [BetweenSteps, PhcOp.setsTime, PhcOp.enablesExtts]
  · exact ⟨fun _ => by decide, fun _ => by decide, trivial⟩

/-- Left unread for 20 s the tuned clock advances by 11.55 s instead of 30 s. -/
theorem rate_law_fails_after_twenty_seconds :
    tunedClock.FreqInRange ∧ tunedClock.lastMonoNs ≤ 20000000000 ∧
      (mockPhcGettime64 tunedClock 20000000000).1 = ⟨11, 553255927⟩ ∧
      ¬ RateLaw tunedClock 20000000000 := by
  decide

end Netdevsim
