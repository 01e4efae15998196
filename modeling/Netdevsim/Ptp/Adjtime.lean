import Netdevsim.Ptp.RateLaw

/-!
# What clock_adjtime checks and what it applies

`adjtimeCall` is `ptp_clock_adjtime` for any driver: the callback it calls and with what, or the
error it returns instead.  Each branch multiplies or narrows a value of the user in fixed width and
checks the result.  `ptp_clock_adjtime` of the mock clock is this function at the limits of the mock
driver (`ptpClockAdjtime_eq`).
-/

namespace Netdevsim

open FixedWidth

def NSEC_PER_USEC : ℤ := 1000

/-- `struct ptp_clock_info`: the limits `ptp_clock_adjtime` reads. -/
structure PtpClockInfo where
  maxAdj : Int32
  /-- What `getmaxphase` returns, for a driver with `adjphase`. -/
  maxPhase : Option Int32
  deriving DecidableEq, Repr

/-- `struct __kernel_timex`, with the field read for a driver with `adjphase`. -/
structure PhaseTimex extends KernelTimex where
  offset : Int64
  deriving DecidableEq, Repr

/-- The calls `ptp_clock_adjtime` makes to a driver. -/
inductive DriverCall where
  | adjtime (delta : Int64)
  | adjfine (scaledPpm : Int64)
  | adjphase (offset : Int32)
  deriving DecidableEq, Repr

namespace KernelTimex

def setsOffset (tx : KernelTimex) : Bool := tx.modes &&& ADJ_SETOFFSET ≠ 0
def setsFrequency (tx : KernelTimex) : Bool := tx.modes &&& ADJ_FREQUENCY ≠ 0
def setsPhase (tx : KernelTimex) : Bool := tx.modes &&& ADJ_OFFSET ≠ 0
def inNanoseconds (tx : KernelTimex) : Bool := tx.modes &&& ADJ_NANO ≠ 0

/-- `ts.tv_nsec` of `ADJ_SETOFFSET`. -/
def tvNsec (tx : KernelTimex) : Int64 := if tx.inNanoseconds then tx.tvUsec else tx.tvUsec * 1000

/-- The range check of `ADJ_SETOFFSET` lets the request through. -/
def NsecChecked (tx : KernelTimex) : Prop := tx.tvNsec.toUInt64.toNat < NSEC_PER_SEC

end KernelTimex

/-- The range check of `ADJ_FREQUENCY`. -/
def freqChecked (maxAdj : Int32) (freq : Int64) : Bool :=
  scaledPpmToPpb freq ≤ maxAdj.toInt64 ∧ (-maxAdj).toInt64 ≤ scaledPpmToPpb freq

/-- `offset` of `ADJ_OFFSET`. -/
def PhaseTimex.phase (tx : PhaseTimex) : Int32 :=
  if tx.inNanoseconds then tx.offset.toInt32 else tx.offset.toInt32 * 1000

/-- The range check of `ADJ_OFFSET`. -/
def phaseChecked (maxPhaseAdj offset : Int32) : Bool :=
  offset ≤ maxPhaseAdj ∧ -maxPhaseAdj ≤ offset

/-- `ptp_clock_adjtime` for any driver: its call, if it makes one, or its error. -/
def adjtimeCall (info : PtpClockInfo) (freerun : Bool) (tx : PhaseTimex) :
    Except Errno (Option DriverCall) :=
  if freerun then .error .EBUSY
  else if tx.setsOffset then
    if NSEC_PER_SEC ≤ tx.tvNsec.toUInt64.toNat then .error .EINVAL
    else .ok (some (.adjtime (timespec64ToKtime ⟨tx.tvSec, tx.tvNsec⟩)))
  else if tx.setsFrequency then
    if !freqChecked info.maxAdj tx.freq then .error .ERANGE
    else .ok (some (.adjfine tx.freq))
  else if tx.setsPhase then
    match info.maxPhase with
    | none => .error .EOPNOTSUPP
    | some maxPhaseAdj =>
      if !phaseChecked maxPhaseAdj tx.phase then .error .ERANGE
      else .ok (some (.adjphase tx.phase))
  else if tx.modes = 0 then .ok none
  else .error .EOPNOTSUPP

/-! ## The mock clock -/

/-- The limits of the mock driver. -/
def mockPhcInfo : PtpClockInfo := ⟨500000000, none⟩

/-- The clock after a call to the mock driver. -/
def PtpClock.driven (ptp : PtpClock) (clk : Clocks) : Option DriverCall → PtpClock
  | some (.adjtime delta) => { ptp with phc := mockPhcAdjtime ptp.phc clk.mono delta }
  | some (.adjfine scaledPpm) => { ptp with
      phc := mockPhcAdjfine ptp.phc clk.mono scaledPpm
      dialedFrequency := scaledPpm }
  | _ => ptp

theorem freqChecked_mock (freq : Int64) : freqChecked mockPhcInfo.maxAdj freq = freqAccepted freq := by
  unfold freqChecked freqAccepted
  simp only [Int64.le_iff_toInt_le]
  rfl

/-- The mock clock carries out the call. -/
theorem ptpClockAdjtime_eq (ptp : PtpClock) (clk : Clocks) (interrupted : Bool) (tx : PhaseTimex) :
    ptpClockAdjtime ptp clk interrupted tx.toKernelTimex =
      (adjtimeCall mockPhcInfo (ptpClockFreerun ptp interrupted) tx).map (ptp.driven clk) := by
  unfold ptpClockAdjtime adjtimeCall
  rw [freqChecked_mock]
  simp only [KernelTimex.setsOffset, KernelTimex.setsFrequency, KernelTimex.setsPhase,
    KernelTimex.tvNsec, KernelTimex.inNanoseconds, decide_eq_true_eq]
  split_ifs <;> rfl

/-! ## The request -/

/-- The nanoseconds of `ADJ_SETOFFSET` asked for. -/
def KernelTimex.nanoseconds (tx : KernelTimex) : ℤ :=
  if tx.inNanoseconds then tx.tvUsec.toInt else tx.tvUsec.toInt * NSEC_PER_USEC

/-- The step of the clock asked for. -/
def KernelTimex.delta (tx : KernelTimex) : ℤ := tx.tvSec.toInt * NSEC_PER_SEC + tx.nanoseconds

/-- The phase asked for. -/
def PhaseTimex.requestedPhase (tx : PhaseTimex) : ℤ :=
  if tx.inNanoseconds then tx.offset.toInt else tx.offset.toInt * NSEC_PER_USEC

/-- The call asks the driver for what the user asked for, within the limits of the driver. -/
def AppliesRequest (info : PtpClockInfo) (tx : PhaseTimex) : DriverCall → Prop
  | .adjtime delta => tx.setsOffset ∧ 0 ≤ tx.nanoseconds ∧ tx.nanoseconds < NSEC_PER_SEC ∧
      delta.toInt = tx.delta
  | .adjfine scaledPpm => tx.setsFrequency ∧ scaledPpm = tx.freq ∧
      |(tx.freq.toInt : ℚ) * 1000 / 65536| < info.maxAdj.toInt + 1
  | .adjphase offset => tx.setsPhase ∧ offset.toInt = tx.requestedPhase ∧
      ∃ limit, info.maxPhase = some limit ∧
        -limit.toInt ≤ tx.requestedPhase ∧ tx.requestedPhase ≤ limit.toInt

/-- `ptp_clock_adjtime` fails without a call, calls the driver for what was asked, or is asked for
nothing. -/
def ValidatesWhatItApplies (info : PtpClockInfo) (freerun : Bool) (tx : PhaseTimex) : Prop :=
  match adjtimeCall info freerun tx with
  | .error _ => True
  | .ok none => tx.modes = 0
  | .ok (some call) => AppliesRequest info tx call

/-! ## When the checks see the request -/

/-- The nanoseconds do not wrap, and `timespec64_to_ktime` neither saturates nor wraps. -/
def DeltaFits (tx : KernelTimex) : Prop :=
  Fits64 tx.nanoseconds ∧ Fits64 tx.delta ∧ (tx.tvSec < KTIME_SEC_MAX ∨ tx.delta = 2 ^ 63 - 1)

/-- The product of `scaled_ppm_to_ppb` does not wrap, and `max_adj` has a negation. -/
def FrequencyFits (info : PtpClockInfo) (tx : KernelTimex) : Prop :=
  Fits64 ((1 + tx.freq.toInt) * 125) ∧ info.maxAdj ≠ Int32.minValue

/-- The phase is not narrowed, and its limit has a negation. -/
def PhaseFits (tx : PhaseTimex) (limit : Int32) : Prop :=
  Fits32 tx.requestedPhase ∧ limit ≠ Int32.minValue

/-- Whatever passes the check of its branch fits the widths the check is made in. -/
def CheckedFits (info : PtpClockInfo) (tx : PhaseTimex) : Prop :=
  if tx.setsOffset then tx.NsecChecked → DeltaFits tx.toKernelTimex
  else if tx.setsFrequency then freqChecked info.maxAdj tx.freq → FrequencyFits info tx.toKernelTimex
  else if tx.setsPhase then
    ∀ limit, info.maxPhase = some limit → phaseChecked limit tx.phase → PhaseFits tx limit
  else True

section Checks

variable {info : PtpClockInfo} {tx : PhaseTimex}

theorem toInt_tvNsec (tx : KernelTimex) : tx.tvNsec.toInt = tx.nanoseconds.bmod (2 ^ 64) := by
  unfold KernelTimex.tvNsec KernelTimex.nanoseconds
  split
  · exact (bmod_of_fits64 (fits64_toInt tx.tvUsec)).symm
  · exact Int64.toInt_mul tx.tvUsec 1000

theorem nsecChecked_iff (tx : KernelTimex) :
    tx.NsecChecked ↔ 0 ≤ tx.tvNsec.toInt ∧ tx.tvNsec.toInt < NSEC_PER_SEC := by
  unfold KernelTimex.NsecChecked NSEC_PER_SEC
  have reading := toInt_toInt64 tx.tvNsec.toUInt64
  rw [Int64.toInt64_toUInt64] at reading
  have bound := tx.tvNsec.toUInt64.toNat_lt
  rw [reading]
  constructor
  · intro small
    rw [bmod_of_fits64 ⟨by omega, by omega⟩]
    omega
  · intro ⟨low, high⟩
    obtain ⟨k, wrap⟩ := exists_bmod_eq tx.tvNsec.toUInt64.toNat
    omega

/-- `timespec64_to_ktime` before its last second. -/
theorem toInt_ktime (ts : Timespec64) (small : ts.tvSec < KTIME_SEC_MAX) :
    (timespec64ToKtime ts).toInt = ts.ns.bmod (2 ^ 64) := by
  unfold timespec64ToKtime Timespec64.ns
  rw [if_neg (Int64.not_le.2 small), Int64.toInt_add, Int64.toInt_mul, Int.bmod_add_bmod]
  rfl

theorem toInt_ktime_saturated (ts : Timespec64) (large : ¬ts.tvSec < KTIME_SEC_MAX) :
    (timespec64ToKtime ts).toInt = 2 ^ 63 - 1 := by
  unfold timespec64ToKtime
  rw [if_pos (Int64.not_lt.1 large)]
  decide

/-- The delta handed to the driver is the one asked for exactly when nothing wraps or saturates. -/
theorem appliesDelta_iff (tx : KernelTimex) (checked : tx.NsecChecked) :
    (0 ≤ tx.nanoseconds ∧ tx.nanoseconds < NSEC_PER_SEC ∧
      (timespec64ToKtime ⟨tx.tvSec, tx.tvNsec⟩).toInt = tx.delta) ↔ DeltaFits tx := by
  have range := (nsecChecked_iff tx).1 checked
  have inRange : (0 ≤ tx.nanoseconds ∧ tx.nanoseconds < NSEC_PER_SEC) ↔ Fits64 tx.nanoseconds := by
    constructor
    · rintro ⟨nonneg, small⟩
      unfold NSEC_PER_SEC at small
      exact ⟨by omega, by omega⟩
    · intro fits
      rw [← bmod_of_fits64 fits, ← toInt_tvNsec]
      exact range
  rw [← and_assoc, inRange]
  unfold DeltaFits
  refine and_congr_right fun fits => ?_
  have exact : (⟨tx.tvSec, tx.tvNsec⟩ : Timespec64).ns = tx.delta := by
    unfold Timespec64.ns KernelTimex.delta
    rw [toInt_tvNsec, bmod_of_fits64 fits]
  by_cases small : tx.tvSec < KTIME_SEC_MAX
  · have ktime := toInt_ktime ⟨tx.tvSec, tx.tvNsec⟩ small
    rw [ktime, exact, bmod_eq_self_iff]
    exact (and_iff_left (.inl small)).symm
  · have ktime := toInt_ktime_saturated ⟨tx.tvSec, tx.tvNsec⟩ small
    rw [ktime, or_iff_right small]
    constructor
    · intro same
      refine ⟨?_, same.symm⟩
      rw [← same]
      decide
    · rintro ⟨-, same⟩
      exact same.symm

theorem toInt_neg_limit {limit : Int32} (notMin : limit ≠ Int32.minValue) :
    (-limit).toInt = -limit.toInt := by
  have least : limit.toInt ≠ -2 ^ 31 := fun same => notMin (Int32.toInt_inj.1 same)
  have bounds := fits32_toInt limit
  unfold Fits32 at bounds
  rw [Int32.toInt_neg, bmod32_eq_self_iff]
  exact ⟨by omega, by omega⟩

/-- A checked frequency is within the limit exactly when the product of the check does not wrap. -/
theorem appliesFrequency_iff (checked : freqChecked info.maxAdj tx.freq) :
    |(tx.freq.toInt : ℚ) * 1000 / 65536| < info.maxAdj.toInt + 1 ↔
      FrequencyFits info tx.toKernelTimex := by
  have inIntegers : |(tx.freq.toInt : ℚ) * 1000 / 65536| < info.maxAdj.toInt + 1 ↔
      -(info.maxAdj.toInt + 1) * 65536 < tx.freq.toInt * 1000 ∧
        tx.freq.toInt * 1000 < (info.maxAdj.toInt + 1) * 65536 := by
    rw [abs_lt, lt_div_iff₀ (by norm_num), div_lt_iff₀ (by norm_num)]
    norm_cast
  rw [inIntegers]
  unfold freqChecked at checked
  rw [decide_eq_true_eq, Int64.le_iff_toInt_le, Int64.le_iff_toInt_le, toInt_scaledPpmToPpb,
    Int32.toInt_toInt64, Int32.toInt_toInt64] at checked
  obtain ⟨above, below⟩ := checked
  have limit := fits32_toInt info.maxAdj
  unfold Fits32 at limit
  constructor
  · -- a frequency this small cannot make the product wrap
    rintro ⟨low, high⟩
    refine ⟨⟨by omega, by omega⟩, ?_⟩
    intro least
    rw [least, show (Int32.minValue).toInt = -2147483648 by decide] at low high
    omega
  · rintro ⟨fits, notMin⟩
    rw [toInt_neg_limit notMin] at below
    rw [bmod_of_fits64 fits] at above below
    constructor <;> omega

theorem toInt_phase (tx : PhaseTimex) : tx.phase.toInt = tx.requestedPhase.bmod (2 ^ 32) := by
  have narrowed : tx.offset.toInt32.toInt = tx.offset.toInt.bmod (2 ^ 32) := Int64.toInt_toInt32 _
  unfold PhaseTimex.phase PhaseTimex.requestedPhase
  split
  · exact narrowed
  · rw [Int32.toInt_mul, narrowed, Int.bmod_mul_bmod]
    rfl

/-- A checked phase is the one asked for exactly when it is not narrowed. -/
theorem appliesPhase_iff {limit : Int32} (checked : phaseChecked limit tx.phase) :
    (tx.phase.toInt = tx.requestedPhase ∧
      -limit.toInt ≤ tx.requestedPhase ∧ tx.requestedPhase ≤ limit.toInt) ↔ PhaseFits tx limit := by
  unfold phaseChecked at checked
  rw [decide_eq_true_eq, Int32.le_iff_toInt_le, Int32.le_iff_toInt_le, toInt_phase] at checked
  obtain ⟨above, below⟩ := checked
  rw [toInt_phase, bmod32_eq_self_iff]
  unfold PhaseFits
  refine and_congr_right fun fits => ?_
  rw [bmod32_eq_self_iff.2 fits] at above below
  constructor
  · rintro ⟨low, high⟩ least
    rw [least, show (Int32.minValue).toInt = -2147483648 by decide] at low high
    omega
  · intro notMin
    rw [toInt_neg_limit notMin] at below
    exact ⟨below, above⟩

/-! ## Each branch -/

theorem validates_offset (offset : tx.setsOffset = true) :
    ValidatesWhatItApplies info false tx ↔ (tx.NsecChecked → DeltaFits tx.toKernelTimex) := by
  unfold ValidatesWhatItApplies adjtimeCall
  rw [if_neg Bool.false_ne_true, if_pos offset]
  by_cases checked : tx.NsecChecked
  · rw [if_neg (Nat.not_le.2 checked), imp_iff_right checked, ← appliesDelta_iff _ checked]
    exact and_iff_right offset
  · rw [if_pos (Nat.not_lt.1 checked)]
    exact iff_of_true trivial fun yes => absurd yes checked

theorem validates_frequency (offset : ¬tx.setsOffset = true) (frequency : tx.setsFrequency = true) :
    ValidatesWhatItApplies info false tx ↔
      (freqChecked info.maxAdj tx.freq → FrequencyFits info tx.toKernelTimex) := by
  unfold ValidatesWhatItApplies adjtimeCall
  rw [if_neg Bool.false_ne_true, if_neg offset, if_pos frequency]
  cases checked : freqChecked info.maxAdj tx.freq with
  | false => exact iff_of_true trivial fun yes => absurd yes Bool.false_ne_true
  | true =>
    rw [imp_iff_right rfl, ← appliesFrequency_iff checked]
    exact (and_iff_right frequency).trans (and_iff_right rfl)

theorem validates_phase (offset : ¬tx.setsOffset = true) (frequency : ¬tx.setsFrequency = true)
    (phase : tx.setsPhase = true) :
    ValidatesWhatItApplies info false tx ↔
      ∀ limit, info.maxPhase = some limit → phaseChecked limit tx.phase → PhaseFits tx limit := by
  unfold ValidatesWhatItApplies adjtimeCall
  rw [if_neg Bool.false_ne_true, if_neg offset, if_neg frequency, if_pos phase]
  cases supported : info.maxPhase with
  | none => exact iff_of_true trivial fun _ no => nomatch no
  | some limit =>
    simp only [Option.some.injEq, forall_eq']
    cases checked : phaseChecked limit tx.phase with
    | false => exact iff_of_true trivial fun yes => absurd yes Bool.false_ne_true
    | true =>
      rw [imp_iff_right rfl, ← appliesPhase_iff checked]
      refine (and_iff_right phase).trans (and_congr_right fun _ => ?_)
      simp only [supported, Option.some.injEq, exists_eq_left']

theorem validates_other (offset : ¬tx.setsOffset = true) (frequency : ¬tx.setsFrequency = true)
    (phase : ¬tx.setsPhase = true) : ValidatesWhatItApplies info false tx := by
  unfold ValidatesWhatItApplies adjtimeCall
  rw [if_neg Bool.false_ne_true, if_neg offset, if_neg frequency, if_neg phase]
  by_cases reads : tx.modes = 0
  · rw [if_pos reads]
    exact reads
  · rw [if_neg reads]
    trivial

end Checks

/-- A clock that is not free running validates what it applies exactly when what passes the check of
a branch fits the width the check is made in. -/
theorem validates_what_it_applies_iff (info : PtpClockInfo) (freerun : Bool) (tx : PhaseTimex) :
    ValidatesWhatItApplies info freerun tx ↔ (freerun = false → CheckedFits info tx) := by
  cases freerun with
  | true => exact iff_of_true trivial fun running => absurd running (by decide)
  | false =>
    rw [forall_prop_of_true rfl]
    unfold CheckedFits
    split_ifs with offset frequency phase
    · exact validates_offset offset
    · exact validates_frequency offset frequency
    · exact validates_phase offset frequency phase
    · exact iff_of_true (validates_other offset frequency phase) trivial

/-- The product of the check wraps to 9, and so to 0 ppb. -/
theorem adjtime_accepts_wrapped_frequency :
    ¬∀ info freerun tx, ValidatesWhatItApplies info freerun tx := by
  intro always
  have wraps := always mockPhcInfo false ⟨⟨ADJ_FREQUENCY, 0, 0, 147573952589676412⟩, 0⟩
  rw [validates_frequency (by decide) (by decide)] at wraps
  exact absurd (wraps (by decide)).1 (by decide)

end Netdevsim
