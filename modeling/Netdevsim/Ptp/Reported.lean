import Netdevsim.Ptp.FreeRun

/-!
# The frequency that is reported

The PTP core remembers the frequency it dialed, and `clock_adjtime` with no modes reports it.  The
driver resets the frequency when it is set or parks at CLOCK_TAI, which the core does not see.
-/

namespace Netdevsim

open FixedWidth

/-! ## The two copies of the frequency -/

/-- `tx->freq` after `ptp_clock_adjtime`. -/
def ptpClockAdjtimeFreq (ptp : PtpClock) (clk : Clocks) (interrupted : Bool) (tx : KernelTimex) :
    Except Errno Int64 :=
  (ptpClockAdjtime ptp clk interrupted tx).map fun _ =>
    if tx.modes = 0 then ptp.dialedFrequency else tx.freq

/-- The parts per billion of a scaled frequency, rounded to 0. -/
def ppbOf (freq : Int64) : ℤ := (freq.toInt * 1000).tdiv 65536

/-- A report tells the frequency in force. -/
def ReportsFrequency (ptp : PtpClock) : Prop :=
  ∀ clk interrupted tx freq, tx.modes = 0 → ptpClockAdjtimeFreq ptp clk interrupted tx = .ok freq →
    ppbOf freq = ptp.phc.freqPpb.toInt

/-- The copy of the core is the frequency of the driver. -/
def CopiesAgree (ptp : PtpClock) : Prop := ppbOf ptp.dialedFrequency = ptp.phc.freqPpb.toInt

/-- `ptp_clock_adjtime` hands a frequency to the driver. -/
def DialsFrequency (ptp : PtpClock) (interrupted : Bool) (tx : KernelTimex) : Prop :=
  ptpClockFreerun ptp interrupted = false ∧ tx.modes &&& ADJ_SETOFFSET = 0 ∧
    tx.modes &&& ADJ_FREQUENCY ≠ 0 ∧ freqAccepted tx.freq = true

instance (ptp : PtpClock) (interrupted : Bool) (tx : KernelTimex) :
    Decidable (DialsFrequency ptp interrupted tx) := inferInstanceAs (Decidable (_ ∧ _))

/-- The clock is set, or parked at CLOCK_TAI, only while it is not tuned, and the driver computes
with the frequencies it is handed without overflow. -/
def KeepsCopies (ptp : PtpClock) : Clocks × Bool × PtpCall → Prop
  | (_, interrupted, .settime _) => ptpClockFreerun ptp interrupted = false → ptp.phc.freqPpb = 0
  | (_, interrupted, .adjtime tx) =>
    DialsFrequency ptp interrupted tx → Fits64 (tx.freq.toInt * 1000)
  | (_, interrupted, call) => call.enablesExtts interrupted = true → ptp.phc.freqPpb = 0

instance (ptp : PtpClock) (call : Clocks × Bool × PtpCall) : Decidable (KeepsCopies ptp call) := by
  obtain ⟨clk, interrupted, call⟩ := call
  cases call <;> unfold KeepsCopies <;> infer_instance

/-- The clock of a mock PHC from its creation. -/
def ptpClockSystem : TransitionSystem PtpClock (Clocks × Bool × PtpCall) where
  init ptp := ∃ clk, ptp = ptpClockRegister clk
  step ptp call ptp' := ptp' = (ptpStep ptp call.1 call.2.1 call.2.2).1

/-! ## What a call does to the two copies -/

section Calls

variable {ptp ptp' : PtpClock} {clk : Clocks} {interrupted : Bool} {tx : KernelTimex}

/-- The driver's frequency after a request that was refused, a read, or a parking. -/
theorem freqPpb_outcome {enables : Bool} (outcome : Outcome ptp clk enables ptp') :
    ptp'.phc.freqPpb = if enables then 0 else ptp.phc.freqPpb := by
  have time := outcome.time
  split_ifs at time ⊢
  · exact congrArg TimeBase.freqPpb time
  · exact time.freq

/-- Resetting the frequency of the driver. -/
theorem copiesAgree_reset (agree : CopiesAgree ptp)
    (dialed : ptp'.dialedFrequency = ptp.dialedFrequency) {resets : Bool}
    (freq : ptp'.phc.freqPpb = if resets then 0 else ptp.phc.freqPpb) :
    CopiesAgree ptp' ↔ (resets = true → ptp.phc.freqPpb = 0) := by
  unfold CopiesAgree at agree ⊢
  rw [dialed, agree, freq]
  cases resets with
  | false => simp
  | true =>
    simp only [if_true, true_imp_iff]
    rw [← Int64.toInt_inj]

/-- The frequency of the driver after it was handed one. -/
theorem freqPpb_adjfine (phc : MockPhc) (raw : UInt64) (scaledPpm : Int64) :
    (mockPhcAdjfine phc raw scaledPpm).freqPpb.toInt =
      ((scaledPpm.toInt * 1000).bmod (2 ^ 64)).tdiv 65536 := by
  unfold mockPhcAdjfine
  rw [toInt_div_of_pos _ _ (by decide), Int64.toInt_mul]
  rfl

theorem ptpStep_adjtime_dials (dials : DialsFrequency ptp interrupted tx) :
    (ptpStep ptp clk interrupted (.adjtime tx)).1 =
      { ptp with phc := mockPhcAdjfine ptp.phc clk.mono tx.freq, dialedFrequency := tx.freq } := by
  obtain ⟨free, setOffset, frequency, accepted⟩ := dials
  simp [ptpStep, ptpClockAdjtime, PtpClock.attempt, free, setOffset, frequency, accepted]

/-- Any other `clock_adjtime` leaves both copies alone. -/
theorem ptpStep_adjtime_other (other : ¬DialsFrequency ptp interrupted tx) :
    (ptpStep ptp clk interrupted (.adjtime tx)).1.dialedFrequency = ptp.dialedFrequency ∧
      (ptpStep ptp clk interrupted (.adjtime tx)).1.phc.freqPpb = ptp.phc.freqPpb := by
  unfold ptpStep ptpClockAdjtime
  simp only
  split_ifs
  all_goals try exact ⟨rfl, rfl⟩
  rename_i free setOffset frequency refused
  exact absurd ⟨by simpa using free, not_not.1 setOffset, frequency, by simpa using refused⟩ other

/-- One call keeps the copies in agreement exactly if it meets the condition. -/
theorem copiesAgree_step (agree : CopiesAgree ptp) (call : PtpCall) :
    CopiesAgree (ptpStep ptp clk interrupted call).1 ↔ KeepsCopies ptp (clk, interrupted, call) := by
  cases call with
  | settime ts =>
    show _ ↔ (ptpClockFreerun ptp interrupted = false → ptp.phc.freqPpb = 0)
    unfold ptpStep ptpClockSettime
    cases ptpClockFreerun ptp interrupted with
    | true => exact iff_of_true agree fun no => absurd no.symm Bool.false_ne_true
    | false =>
      have reset : CopiesAgree { ptp with phc := mockPhcSettime64 ptp.phc clk.mono ts } ↔
          (true = true → ptp.phc.freqPpb = 0) := by
        refine copiesAgree_reset agree ?_ ?_
        · rfl
        · rfl
      exact reset.trans ⟨fun zero _ => zero rfl, fun zero _ => zero rfl⟩
  | gettime => exact iff_of_true agree fun no => absurd no Bool.false_ne_true
  | vclockRead => exact iff_of_true agree fun no => absurd no Bool.false_ne_true
  | adjtime tx =>
    show _ ↔ (DialsFrequency ptp interrupted tx → Fits64 (tx.freq.toInt * 1000))
    by_cases dials : DialsFrequency ptp interrupted tx
    · unfold CopiesAgree
      rw [ptpStep_adjtime_dials dials, imp_iff_right dials]
      dsimp only
      rw [freqPpb_adjfine, ppbOf, eq_comm]
      exact tdiv_bmod_eq_iff (by decide) (by decide)
    · obtain ⟨dialed, freq⟩ := ptpStep_adjtime_other dials
      refine iff_of_true ?_ fun yes => absurd yes dials
      unfold CopiesAgree
      rw [dialed, freq]
      exact agree
  | ioctl cmd =>
    have outcome := @outcome_ioctl ptp clk interrupted cmd
    exact copiesAgree_reset agree (dialedFrequency_ptpStep fun tx => by simp)
      (freqPpb_outcome outcome)
  | sysfs write =>
    have outcome := @outcome_sysfs ptp clk interrupted write
    exact copiesAgree_reset agree (dialedFrequency_ptpStep fun tx => by simp)
      (freqPpb_outcome outcome)
  | exttsTimer =>
    refine iff_of_true ?_ fun no => absurd no Bool.false_ne_true
    unfold CopiesAgree
    rw [show (ptpStep ptp clk interrupted .exttsTimer).1.phc.freqPpb = ptp.phc.freqPpb from
      (exttsTimer_runsFrom ptp.phc clk).freq]
    exact agree

/-- What is reported is the copy of the core. -/
theorem reportsFrequency_of_agree (agree : CopiesAgree ptp) : ReportsFrequency ptp := by
  intro clk interrupted tx freq none ok
  unfold ptpClockAdjtimeFreq at ok
  cases result : ptpClockAdjtime ptp clk interrupted tx with
  | error e =>
    rw [result] at ok
    cases ok
  | ok ptp' =>
    rw [result] at ok
    obtain rfl : ptp.dialedFrequency = freq := by simpa [Except.map, none] using ok
    exact agree

end Calls

/-! ## Every run -/

section Runs

/-- In every run in which the clock is set or parked only while it is not tuned, and no frequency
overflows in the driver, a report tells the frequency in force; and the first call of the other kind
parts the two copies. -/
theorem reported_frequency (ptp : PtpClock)
    (run : (ptpClockSystem.guard KeepsCopies).Reachable ptp) :
    ReportsFrequency ptp ∧
    ∀ call ptp', ptpClockSystem.step ptp call ptp' →
      (CopiesAgree ptp' ↔ KeepsCopies ptp call) := by
  have agree : CopiesAgree ptp := by
    refine TransitionSystem.Reachable.induct (M := ptpClockSystem.guard KeepsCopies) ?_ ?_ run
    · rintro _ ⟨clk, rfl⟩
      show ppbOf 0 = (0 : Int64).toInt
      decide
    · rintro ptp ⟨clk, interrupted, call⟩ _ - before ⟨rfl, keeps⟩
      exact (copiesAgree_step before call).2 keeps
  refine ⟨reportsFrequency_of_agree agree, ?_⟩
  rintro ⟨clk, interrupted, call⟩ _ rfl
  exact copiesAgree_step agree call

/-- The clock is tuned to 1000 ppb and read. -/
theorem reported_frequency_tuned : ∃ ptp, (ptpClockSystem.guard KeepsCopies).Reachable ptp ∧
    ptp.phc.freqPpb = 1000 ∧ ReportsFrequency ptp := by
  have registered : (ptpClockSystem.guard KeepsCopies).Reachable (ptpClockRegister ⟨0, 37⟩) :=
    .init ⟨_, rfl⟩
  have tuned := registered.step
    (a := (⟨1, 38⟩, false, .adjtime ⟨ADJ_FREQUENCY, 0, 0, 65536⟩)) ⟨rfl, by decide⟩
  have read := tuned.step (a := (⟨1000000001, 1000000038⟩, false, .gettime)) ⟨rfl, by decide⟩
  exact ⟨_, read, by decide, (reported_frequency _ read).1⟩

/-- The clock is tuned to 1000 ppb and then set. -/
theorem reported_frequency_settime : ¬∀ ptp, ptpClockSystem.Reachable ptp → ReportsFrequency ptp := by
  intro always
  have registered : ptpClockSystem.Reachable (ptpClockRegister ⟨0, 37⟩) := .init ⟨_, rfl⟩
  have tuned := registered.step
    (a := (⟨1, 38⟩, false, .adjtime ⟨ADJ_FREQUENCY, 0, 0, 65536⟩)) rfl
  have set := tuned.step (a := (⟨2, 39⟩, false, .settime ⟨1700000000, 0⟩)) rfl
  have report := always _ set ⟨3, 40⟩ false ⟨0, 0, 0, 0⟩ 65536 rfl (by decide)
  exact absurd report (by decide)

end Runs

end Netdevsim
