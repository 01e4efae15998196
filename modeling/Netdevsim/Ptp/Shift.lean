import Netdevsim.Ptp.RateLaw

/-!
# Shifting and setting the PHC

A shifted PHC stays the same distance ahead until its time is set: no call tells it from the PHC it
was shifted from, but by that distance.  A PHC that was set runs with CLOCK_MONOTONIC from the time
it was set to.
-/

namespace Netdevsim

open FixedWidth

/-! ## Shifts -/

/-- The PHC `delta` nanoseconds ahead. -/
def MockPhc.shift (phc : MockPhc) (delta : Int64) : MockPhc :=
  { phc with offsetNs := phc.offsetNs + delta }

/-- The call makes the PHC forget the time it had. -/
def PhcOp.resetsTime : PhcOp → Bool
  | .settime64 _ => true
  | op => op.enablesExtts

/-- The PHC after a run. -/
def phcAfter (phc : MockPhc) (steps : List (Clocks × PhcOp)) : MockPhc := (phcRun phc steps).1

/-- The nanoseconds that `gettime64` returns. -/
def readingNs (phc : MockPhc) (clk : Clocks) : ℤ := (mockPhcGettime64 phc clk.mono).1.ns

section Runs

variable {phc : MockPhc} {clk : Clocks} {op : PhcOp} {delta : Int64}

theorem phcAfter_cons (steps : List (Clocks × PhcOp)) :
    phcAfter phc ((clk, op) :: steps) = phcAfter (phcStep phc clk op).1 steps := rfl

theorem phcAfter_append (before after : List (Clocks × PhcOp)) :
    phcAfter phc (before ++ after) = phcAfter (phcAfter phc before) after := by
  induction before generalizing phc with
  | nil => rfl
  | cons step before ih =>
    obtain ⟨clk, op⟩ := step
    rw [List.cons_append, phcAfter_cons, phcAfter_cons, ih]

end Runs

section Shift

variable (phc : MockPhc) (clk : Clocks) (raw : UInt64) (delta : Int64) {op : PhcOp}

theorem add_right_comm_int64 (a b c : Int64) : a + b + c = a + c + b := by
  rw [Int64.add_assoc, Int64.add_comm b, ← Int64.add_assoc]

theorem readLocked_shift :
    (mockPhcReadLocked (phc.shift delta) raw).2 = (mockPhcReadLocked phc raw).2.shift delta := by
  unfold mockPhcReadLocked MockPhc.shift
  simp only [MockPhc.mk.injEq, and_true]
  split_ifs
  · exact add_right_comm_int64 _ _ _
  · rfl

theorem adjfine_shift (scaledPpm : Int64) :
    mockPhcAdjfine (phc.shift delta) raw scaledPpm =
      (mockPhcAdjfine phc raw scaledPpm).shift delta := by
  unfold mockPhcAdjfine
  rw [readLocked_shift]
  rfl

theorem adjtime_shift (delta' : Int64) :
    mockPhcAdjtime (phc.shift delta) raw delta' = (mockPhcAdjtime phc raw delta').shift delta := by
  unfold mockPhcAdjtime
  rw [readLocked_shift]
  simp only [MockPhc.shift, MockPhc.mk.injEq, and_true]
  exact add_right_comm_int64 _ _ _

theorem forwardTimer_shift (interval : UInt64) :
    (phc.shift delta).forwardTimer clk interval = (phc.forwardTimer clk interval).shift delta := rfl

theorem exttsTimer_shift :
    (mockPhcExttsTimer (phc.shift delta) clk).1 = (mockPhcExttsTimer phc clk).1.shift delta := by
  have enabled : (phc.shift delta).exttsEnabled = phc.exttsEnabled := rfl
  have last : (phc.shift delta).lastExttsSec = phc.lastExttsSec := rfl
  have delay : (phc.shift delta).delayNs = phc.delayNs := rfl
  unfold mockPhcExttsTimer
  simp only [enabled, last, delay]
  split_ifs
  · rfl
  · rfl
  · -- the callback emits, and so reads the PHC
    have read := readLocked_shift
      { phc with lastExttsSec := clk.tai / UInt64.ofNat NSEC_PER_SEC } clk.mono delta
    show MockPhc.forwardTimer (mockPhcReadLocked _ _).2 clk (nextDeltaNs _ _) =
      (MockPhc.forwardTimer _ clk (nextDeltaNs _ _)).shift delta
    rw [← forwardTimer_shift, ← read]
    rfl
  · rfl

theorem enable_shift (rq : PtpClockRequest) (on : Bool) :
    (phcStep (phc.shift delta) clk (.enable rq on)).1 =
      if PhcOp.enablesExtts (.enable rq on) then (phcStep phc clk (.enable rq on)).1
      else (phcStep phc clk (.enable rq on)).1.shift delta := by
  cases rq with
  | extts index =>
    by_cases outside : N_EXT_TS ≤ index
    · have refused : PhcOp.enablesExtts (.enable (.extts index) on) = false := by
        simp [PhcOp.enablesExtts, outside]
      rw [refused]
      simp only [phcStep, mockPhcEnable, if_pos outside]
      rfl
    · have accepted : PhcOp.enablesExtts (.enable (.extts index) on) = on := by
        simp [PhcOp.enablesExtts, UInt32.not_le.1 outside]
      rw [accepted]
      simp only [phcStep, mockPhcEnable, if_neg outside]
      cases on <;> rfl
  | perout index => rfl
  | pps => rfl

theorem delayStore_shift (buf : Bytes) :
    (phcStep (phc.shift delta) clk (.exttsDelayMsStore buf)).1 =
      (phcStep phc clk (.exttsDelayMsStore buf)).1.shift delta := by
  have enabled : (phc.shift delta).exttsEnabled = phc.exttsEnabled := rfl
  simp only [phcStep, exttsDelayMsStore, enabled]
  cases kstrtouint buf 0 with
  | error e => rfl
  | ok delayMs =>
    dsimp only
    split_ifs <;> rfl

/-- Every call takes a shifted PHC to a shifted PHC, but for those that reset the time. -/
theorem phcStep_shift :
    (phcStep (phc.shift delta) clk op).1 =
      if op.resetsTime then (phcStep phc clk op).1 else (phcStep phc clk op).1.shift delta := by
  cases op with
  | gettime64 => exact readLocked_shift phc clk.mono delta
  | settime64 ts => rfl
  | adjtime delta' => exact adjtime_shift phc clk.mono delta delta'
  | adjfine scaledPpm => exact adjfine_shift phc clk.mono delta scaledPpm
  | enable rq on => exact enable_shift phc clk delta rq on
  | exttsDelayMsStore buf => exact delayStore_shift phc clk delta buf
  | exttsTimer =>
    rw [phcStep_exttsTimer_state, phcStep_exttsTimer_state]
    exact exttsTimer_shift phc clk delta

/-- A whole run, which resets the time or does not. -/
theorem phcAfter_shift (steps : List (Clocks × PhcOp)) :
    phcAfter (phc.shift delta) steps =
      if steps.any (·.2.resetsTime) then phcAfter phc steps else (phcAfter phc steps).shift delta := by
  induction steps generalizing phc with
  | nil => rfl
  | cons step steps ih =>
    obtain ⟨clk, op⟩ := step
    rw [phcAfter_cons, phcAfter_cons, phcStep_shift, List.any_cons]
    cases resets : op.resetsTime with
    | true => rfl
    | false =>
      rw [Bool.false_or]
      exact ih (phcStep phc clk op).1

/-- A reading of a shifted PHC. -/
theorem readingNs_shift :
    readingNs (phc.shift delta) clk ≡ readingNs phc clk + delta.toInt [ZMOD 2 ^ 64] := by
  unfold readingNs
  rw [gettime64_ns, gettime64_ns, readLocked_shift]
  unfold MockPhc.timeNs MockPhc.shift
  rw [← Int64.add_assoc, Int64.toInt_add _ delta]
  exact Int.bmod_emod

end Shift

/-! ## A PHC that was set -/

/-- The call leaves the time and the frequency of the PHC to themselves. -/
def PhcOp.leavesTime : PhcOp → Bool
  | .settime64 _ | .adjtime _ | .adjfine _ => false
  | op => !op.enablesExtts

/-- The normalised times from 0 on that fit `ktime_t`. -/
structure ValidTime (ts : Timespec64) : Prop where
  sec : 0 ≤ ts.tvSec.toInt
  nsec : 0 ≤ ts.tvNsec.toInt ∧ ts.tvNsec.toInt < NSEC_PER_SEC
  fits : ts.ns < 2 ^ 63

/-- `timespec64_to_ns` does not saturate. -/
def Unsaturated (ts : Timespec64) : Prop := ts.tvSec < KTIME_SEC_MAX ∨ ts.ns = 2 ^ 63 - 1

section Set

variable {phc : MockPhc} {clk : Clocks} {op : PhcOp} {ts : Timespec64}

theorem timespec64ToNs_exact (valid : ValidTime ts) (exact : Unsaturated ts) :
    (timespec64ToNs ts).toInt = ts.ns := by
  have sec := valid.sec
  obtain ⟨low, high⟩ := valid.nsec
  unfold NSEC_PER_SEC at high
  have max : KTIME_SEC_MAX.toInt = 9223372036 := by decide
  unfold timespec64ToNs
  rcases exact with small | last
  · have notMin : ¬ts.tvSec ≤ -KTIME_SEC_MAX := by
      rw [Int64.le_iff_toInt_le, show (-KTIME_SEC_MAX).toInt = -9223372036 by decide]
      omega
    rw [if_neg (Int64.not_le.2 small), if_neg notMin]
    rw [Int64.lt_iff_toInt_lt, max] at small
    have product : (ts.tvSec * 1000000000).toInt = ts.tvSec.toInt * 1000000000 := by
      refine toInt_mul_of_fits ?_
      rw [show (1000000000 : Int64).toInt = 1000000000 by decide]
      unfold Fits64
      omega
    rw [toInt_add_of_fits, product]
    · rfl
    · rw [product]
      unfold Fits64
      omega
  · have large : KTIME_SEC_MAX ≤ ts.tvSec := by
      rw [Int64.le_iff_toInt_le, max]
      unfold Timespec64.ns NSEC_PER_SEC at last
      omega
    rw [if_pos large, last]
    decide

/-- An untuned PHC keeps its offset. -/
theorem phcStep_untuned (untuned : phc.freqPpb = 0) (leaves : op.leavesTime = true) :
    (phcStep phc clk op).1.freqPpb = 0 ∧ (phcStep phc clk op).1.offsetNs = phc.offsetNs := by
  have keeps : op.setsTime = false := by
    cases op <;> simp_all [PhcOp.leavesTime, PhcOp.setsTime]
  obtain ⟨offset, -, freq⟩ := phcStep_base phc clk keeps
  constructor
  · refine Eq.trans freq ?_
    cases op with
    | adjfine scaledPpm => cases leaves
    | _ => exact untuned
  · refine Eq.trans offset ?_
    have read : (mockPhcReadLocked phc clk.mono).2.offsetNs = phc.offsetNs := by
      simp [mockPhcReadLocked, untuned]
    split
    · exact read
    · rfl

theorem phcAfter_untuned {steps : List (Clocks × PhcOp)} (untuned : phc.freqPpb = 0)
    (leaves : steps.all (·.2.leavesTime) = true) :
    (phcAfter phc steps).freqPpb = 0 ∧ (phcAfter phc steps).offsetNs = phc.offsetNs := by
  induction steps generalizing phc with
  | nil => exact ⟨untuned, rfl⟩
  | cons step steps ih =>
    obtain ⟨clk, op⟩ := step
    rw [List.all_cons, Bool.and_eq_true] at leaves
    have first : (phcStep phc clk op).1.freqPpb = 0 ∧
        (phcStep phc clk op).1.offsetNs = phc.offsetNs := phcStep_untuned untuned leaves.1
    rw [phcAfter_cons, ← first.2]
    exact ih first.1 leaves.2

/-- A reading of an untuned PHC. -/
theorem readingNs_untuned (untuned : phc.freqPpb = 0) :
    readingNs phc clk = (clk.mono.toInt64 + phc.offsetNs).toInt := by
  unfold readingNs
  rw [gettime64_ns]
  have read : (mockPhcReadLocked phc clk.mono).2.offsetNs = phc.offsetNs := by
    simp [mockPhcReadLocked, untuned]
  unfold MockPhc.timeNs
  rw [read, readLocked_lastMonoNs]

/-- A reading of a PHC that was set at `clk` and left alone since. -/
theorem readingNs_set {now : Clocks} (valid : ValidTime ts) (exact : Unsaturated ts)
    (later : clk.mono ≤ now.mono) (fits : ts.ns + (now.mono.toNat - clk.mono.toNat) < 2 ^ 63)
    (untuned : phc.freqPpb = 0)
    (offset : phc.offsetNs = timespec64ToNs ts - clk.mono.toInt64) :
    readingNs phc now = ts.ns + (now.mono.toNat - clk.mono.toNat) := by
  have order : clk.mono.toNat ≤ now.mono.toNat := later
  have nonneg : 0 ≤ ts.ns := by
    have sec := valid.sec
    have nsec := valid.nsec.1
    unfold Timespec64.ns NSEC_PER_SEC
    omega
  rw [readingNs_untuned untuned, offset, Int64.toInt_add, Int64.toInt_sub,
    timespec64ToNs_exact valid exact, toInt_toInt64, toInt_toInt64, Int.sub_bmod_bmod,
    Int.bmod_add_bmod, Int.add_bmod_bmod]
  rw [show (now.mono.toNat : ℤ) + (ts.ns - clk.mono.toNat) =
    ts.ns + (now.mono.toNat - clk.mono.toNat) by omega]
  refine bmod_of_fits64 ⟨?_, fits⟩
  omega

/-- Stepping the PHC shifts all readings until its time is reset, and no other reading and no
frequency; and a PHC that was set shows the time it was set to and the time since. -/
theorem adjtime_shifts_settime64_sets :
    (∀ (phc : MockPhc) (before : List (Clocks × PhcOp)) (clk : Clocks) (delta : Int64)
        (after : List (Clocks × PhcOp)) (now : Clocks),
      let first := phcAfter phc (before ++ (clk, .adjtime delta) :: after)
      let second := phcAfter phc (before ++ (clk, .gettime64) :: after)
      first.freqPpb = second.freqPpb ∧
        if after.any (·.2.resetsTime) then readingNs first now = readingNs second now
        else readingNs first now ≡ readingNs second now + delta.toInt [ZMOD 2 ^ 64]) ∧
    ∀ (phc : MockPhc) (before : List (Clocks × PhcOp)) (clk : Clocks) (ts : Timespec64)
        (after : List (Clocks × PhcOp)) (now : Clocks), ValidTime ts → Unsaturated ts →
      after.all (·.2.leavesTime) = true → clk.mono ≤ now.mono →
      ts.ns + (now.mono.toNat - clk.mono.toNat) < 2 ^ 63 →
      readingNs (phcAfter phc (before ++ (clk, .settime64 ts) :: after)) now =
        ts.ns + (now.mono.toNat - clk.mono.toNat) := by
  constructor
  · intro phc before clk delta after now first second
    have shifted : first =
        if after.any (·.2.resetsTime) then second else second.shift delta := by
      show phcAfter phc _ = if _ then phcAfter phc _ else (phcAfter phc _).shift delta
      rw [phcAfter_append, phcAfter_append]
      exact phcAfter_shift (mockPhcReadLocked (phcAfter phc before) clk.mono).2 delta after
    rw [shifted]
    split
    · exact ⟨rfl, rfl⟩
    · exact ⟨rfl, readingNs_shift second now delta⟩
  · intro phc before clk ts after now valid exact leaves later fits
    rw [phcAfter_append, phcAfter_cons]
    have untuned : (phcStep (phcAfter phc before) clk (.settime64 ts)).1.freqPpb = 0 := rfl
    obtain ⟨freq, offset⟩ := phcAfter_untuned untuned leaves
    exact readingNs_set valid exact later fits freq offset

/-- A clock that was tuned is set, and read half a second and one second later. -/
theorem settime64_sets_tuned :
    readingNs (phcAfter (mockPhcCreate ⟨0, 37⟩) ([(⟨5, 42⟩, .adjfine 65536)] ++
      (⟨10, 47⟩, .settime64 ⟨1700000000, 500000000⟩) :: [(⟨500000010, 500000047⟩, .gettime64)]))
        ⟨1000000010, 1000000047⟩ = 1700000001500000000 :=
  adjtime_shifts_settime64_sets.2 _ _ _ _ _ _ ⟨by decide, by decide, by decide⟩
    (.inl (by decide)) (by decide) (by decide) (by decide)

/-- The clock is set to the last second that fits `ktime_t`. -/
theorem settime64_saturates : ¬∀ phc before clk ts after now, ValidTime ts →
    after.all (·.2.leavesTime) = true → clk.mono ≤ now.mono →
    ts.ns + (now.mono.toNat - clk.mono.toNat) < 2 ^ 63 →
    readingNs (phcAfter phc (before ++ (clk, .settime64 ts) :: after)) now =
      ts.ns + (now.mono.toNat - clk.mono.toNat) := by
  intro always
  have exact := always (mockPhcCreate ⟨0, 37⟩) [] ⟨5, 42⟩ ⟨9223372036, 0⟩ [] ⟨5, 42⟩
    ⟨by decide, by decide, by decide⟩ rfl (by decide) (by decide)
  exact absurd exact (by decide)

end Set

end Netdevsim
