import Netdevsim.Lib.Runs
import Netdevsim.Ptp.MockPhc

/-!
# One EXTTS event per TAI second

The timer callback decides from the TAI time, the delay and the last reported second whether to
emit an event, and when to wake up next.  `wake` is that decision over the natural numbers and
`exttsTimer_wake` says the callback follows it.  A run of the driver is recorded together with the
events it emitted and the second of the last enable request (`ExttsHistory`); the recorded seconds
strictly increase.
-/

namespace Netdevsim

/-! ## The decision of the callback -/

/-- What the callback does. -/
structure Wake where
  emits : Bool
  lastSec : ℕ
  /-- The interval by which it moves its timer. -/
  interval : ℕ
  deriving DecidableEq, Repr

/-- The decision at the TAI time `tai`, over the natural numbers. -/
def wake (enabled : Bool) (lastSec delay tai : ℕ) : Wake :=
  let late := tai % NSEC_PER_SEC
  let next := (NSEC_PER_SEC - late) + delay + NSEC_PER_MSEC
  if !enabled then ⟨false, lastSec, 100 * NSEC_PER_MSEC⟩
  else if tai / NSEC_PER_SEC = lastSec then ⟨false, lastSec, next⟩
  else if late < delay then ⟨false, lastSec, delay - late⟩
  else ⟨true, tai / NSEC_PER_SEC, next⟩

theorem wake_emits_iff {enabled : Bool} {lastSec delay tai : ℕ} :
    (wake enabled lastSec delay tai).emits ↔
      enabled ∧ tai / NSEC_PER_SEC ≠ lastSec ∧ delay ≤ tai % NSEC_PER_SEC := by
  cases enabled with
  | false => simp [wake]
  | true =>
    simp only [wake, Bool.not_true, Bool.false_eq_true, if_false, true_and]
    split_ifs with same early
    · simp [same]
    · simp only [false_iff, not_and, not_le]
      exact fun _ => early
    · simp only [true_iff]
      exact ⟨same, not_lt.1 early⟩

/-- The delay in force, in nanoseconds. -/
def MockPhc.delay (phc : MockPhc) : ℕ := phc.exttsDelayMs.toNat * NSEC_PER_MSEC

theorem toNat_delayNs (phc : MockPhc) : phc.delayNs.toNat = phc.delay := by
  have small := phc.exttsDelayMs.toNat_lt
  unfold MockPhc.delayNs MockPhc.delay NSEC_PER_MSEC
  rw [UInt64.toNat_mul]
  simp only [UInt32.toNat_toUInt64, UInt64.toNat_ofNat']
  omega

section Seconds

variable (tai : UInt64)

theorem toNat_taiSec :
    (tai / UInt64.ofNat NSEC_PER_SEC).toNat = tai.toNat / NSEC_PER_SEC := by
  rw [UInt64.toNat_div]
  rfl

theorem toNat_lateNs :
    (tai - tai / UInt64.ofNat NSEC_PER_SEC * UInt64.ofNat NSEC_PER_SEC).toNat =
      tai.toNat % NSEC_PER_SEC := by
  have whole : (tai / UInt64.ofNat NSEC_PER_SEC * UInt64.ofNat NSEC_PER_SEC).toNat =
      tai.toNat / NSEC_PER_SEC * NSEC_PER_SEC := by
    have := tai.toNat_lt
    rw [UInt64.toNat_mul, toNat_taiSec, show (UInt64.ofNat NSEC_PER_SEC).toNat = NSEC_PER_SEC from rfl]
    unfold NSEC_PER_SEC
    omega
  have le : tai / UInt64.ofNat NSEC_PER_SEC * UInt64.ofNat NSEC_PER_SEC ≤ tai := by
    rw [UInt64.le_iff_toNat_le, whole]
    exact Nat.div_mul_le_self _ _
  rw [UInt64.toNat_sub_of_le _ _ le, whole]
  unfold NSEC_PER_SEC
  omega

end Seconds

theorem toNat_nextDeltaNs {lateNs delayNs : UInt64} (late : lateNs.toNat < NSEC_PER_SEC)
    (small : delayNs.toNat < 2 ^ 52) :
    (nextDeltaNs lateNs delayNs).toNat =
      (NSEC_PER_SEC - lateNs.toNat) + delayNs.toNat + NSEC_PER_MSEC := by
  have second : (UInt64.ofNat NSEC_PER_SEC).toNat = 1000000000 := rfl
  have slack : EXTTS_EDGE_SLACK_NS.toNat = 1000000 := rfl
  have sum : ((UInt64.ofNat NSEC_PER_SEC - lateNs) + delayNs + EXTTS_EDGE_SLACK_NS).toNat =
      (NSEC_PER_SEC - lateNs.toNat) + delayNs.toNat + NSEC_PER_MSEC := by
    unfold NSEC_PER_SEC at late
    rw [UInt64.toNat_add, UInt64.toNat_add, UInt64.toNat_sub_of_le, second, slack]
    · unfold NSEC_PER_SEC NSEC_PER_MSEC
      omega
    · rw [UInt64.le_iff_toNat_le, second]
      omega
  unfold nextDeltaNs
  simp only
  rw [if_neg, sum]
  rw [UInt64.lt_iff_toNat_lt, sum, slack]
  unfold NSEC_PER_MSEC
  omega

/-- The callback follows `wake`, and leaves the switch and the delay alone. -/
theorem exttsTimer_wake (phc : MockPhc) (clk : Clocks) :
    let after := (mockPhcExttsTimer phc clk).1
    let decision := wake phc.exttsEnabled phc.lastExttsSec.toNat phc.delay clk.tai.toNat
    (mockPhcExttsTimer phc clk).2.isSome = decision.emits ∧
      after.lastExttsSec.toNat = decision.lastSec ∧
      after.exttsEnabled = phc.exttsEnabled ∧ after.exttsDelayMs = phc.exttsDelayMs ∧
      after.exttsTimer = phc.exttsTimer.map fun expires =>
        hrtimerForwardNow expires clk.mono.toNat decision.interval := by
  have late := toNat_lateNs clk.tai
  have delay := toNat_delayNs phc
  have lateBound : clk.tai.toNat % NSEC_PER_SEC < NSEC_PER_SEC :=
    Nat.mod_lt _ (by decide)
  have delayBound : phc.delay < 2 ^ 52 := by
    have := phc.exttsDelayMs.toNat_lt
    unfold MockPhc.delay NSEC_PER_MSEC
    omega
  have next := toNat_nextDeltaNs (late ▸ lateBound) (delay ▸ delayBound)
  rw [late, delay] at next
  have sec := toNat_taiSec clk.tai
  unfold mockPhcExttsTimer wake
  simp only
  by_cases disabled : phc.exttsEnabled = false
  · simp only [disabled, Bool.not_false, if_true]
    exact ⟨rfl, rfl, disabled, rfl, rfl⟩
  · rw [Bool.not_eq_false] at disabled
    simp only [disabled, Bool.not_true, Bool.false_eq_true, if_false]
    by_cases same : clk.tai / UInt64.ofNat NSEC_PER_SEC = phc.lastExttsSec
    · have same' : clk.tai.toNat / NSEC_PER_SEC = phc.lastExttsSec.toNat := by rw [← sec, same]
      rw [if_neg (not_not.2 same), if_pos same']
      refine ⟨rfl, rfl, disabled, rfl, ?_⟩
      rw [forwardTimer_exttsTimer, next]
    · have same' : clk.tai.toNat / NSEC_PER_SEC ≠ phc.lastExttsSec.toNat := by
        rw [← sec]
        exact fun eq => same (UInt64.toNat_inj.1 eq)
      rw [if_pos same, if_neg same']
      by_cases early : clk.tai.toNat % NSEC_PER_SEC < phc.delay
      · have early' := early
        rw [← late, ← delay, ← UInt64.lt_iff_toNat_lt] at early'
        rw [if_pos early', if_pos early]
        refine ⟨rfl, rfl, disabled, rfl, ?_⟩
        rw [forwardTimer_exttsTimer, UInt64.toNat_sub_of_le _ _ (UInt64.le_of_lt early'), late,
          delay]
      · have early' := early
        rw [← late, ← delay, ← UInt64.lt_iff_toNat_lt] at early'
        rw [if_neg early', if_neg early]
        refine ⟨rfl, sec, rfl, rfl, ?_⟩
        simp only [forwardTimer_exttsTimer, readLocked_exttsTimer, next]

/-! ## The other calls -/

/-- The calls that concern the 1PPS input. -/
def PhcOp.concernsExtts : PhcOp → Bool
  | .enable (.extts _) _ | .exttsDelayMsStore _ | .exttsTimer => true
  | _ => false

section OtherCalls

variable (phc : MockPhc) (clk : Clocks)

/-- The remaining calls leave the 1PPS input alone and emit nothing. -/
theorem phcStep_extts_of_not_concerns {op : PhcOp} (other : op.concernsExtts = false) :
    let after := (phcStep phc clk op).1
    after.exttsEnabled = phc.exttsEnabled ∧ after.lastExttsSec = phc.lastExttsSec ∧
      after.exttsDelayMs = phc.exttsDelayMs ∧ after.exttsTimer = phc.exttsTimer ∧
      ∀ e, (phcStep phc clk op).2 ≠ .event e := by
  cases op with
  | enable rq on =>
    cases rq with
    | extts index => cases other
    | _ => exact ⟨rfl, rfl, rfl, rfl, fun e eq => by cases eq⟩
  | exttsDelayMsStore buf => cases other
  | exttsTimer => cases other
  | _ => exact ⟨rfl, rfl, rfl, rfl, fun e eq => by cases eq⟩

/-- An EXTTS request switches the input, unless its index is refused; switching on reports the
current second as done. -/
theorem phcStep_enable_extts (index : UInt32) (on : Bool) :
    let after := (phcStep phc clk (.enable (.extts index) on)).1
    (N_EXT_TS ≤ index ∧ after = phc) ∨
      (index < N_EXT_TS ∧ after.exttsEnabled = on ∧
        after.lastExttsSec =
          (if on then clk.tai / UInt64.ofNat NSEC_PER_SEC else phc.lastExttsSec) ∧
        after.exttsDelayMs = phc.exttsDelayMs ∧ after.exttsTimer = phc.exttsTimer) := by
  simp only [phcStep, mockPhcEnable]
  by_cases refused : N_EXT_TS ≤ index
  · rw [if_pos refused]
    exact .inl ⟨refused, rfl⟩
  · rw [if_neg refused]
    refine .inr ⟨UInt32.not_le.1 refused, ?_⟩
    cases on <;> exact ⟨rfl, rfl, rfl, rfl⟩

theorem phcStep_enable_extts_output (index : UInt32) (on : Bool) (e : PtpClockEvent) :
    (phcStep phc clk (.enable (.extts index) on)).2 ≠ .event e := by
  simp only [phcStep]
  cases mockPhcEnable phc clk (.extts index) on <;> simp [orUnchanged]

/-- An accepted delay is at most 900 ms and wakes the timer soon, if the input is on. -/
theorem phcStep_delayStore (buf : Bytes) :
    let after := (phcStep phc clk (.exttsDelayMsStore buf)).1
    after = phc ∨
      (after.exttsEnabled = phc.exttsEnabled ∧ after.lastExttsSec = phc.lastExttsSec ∧
        after.exttsDelayMs ≤ EXTTS_MAX_DELAY_MS ∧
        after.exttsTimer = if phc.exttsEnabled then
          hrtimerStart clk.mono.toNat EXTTS_EDGE_SLACK_NS.toNat else phc.exttsTimer) := by
  simp only [phcStep, exttsDelayMsStore]
  cases kstrtouint buf 0 with
  | error e => exact .inl rfl
  | ok delayMs =>
    simp only
    by_cases long : EXTTS_MAX_DELAY_MS < delayMs
    · rw [if_pos long]
      exact .inl rfl
    · rw [if_neg long]
      exact .inr ⟨rfl, rfl, UInt32.not_lt.1 long, rfl⟩

theorem phcStep_delayStore_output (buf : Bytes) (e : PtpClockEvent) :
    (phcStep phc clk (.exttsDelayMsStore buf)).2 ≠ .event e := by
  simp only [phcStep]
  cases exttsDelayMsStore phc clk buf <;> simp [orUnchanged]

/-- The callback's step returns its event. -/
theorem phcStep_exttsTimer_event :
    (∃ e, (phcStep phc clk .exttsTimer).2 = .event e) ↔ (mockPhcExttsTimer phc clk).2.isSome := by
  rw [phcStep_exttsTimer_output]
  cases (mockPhcExttsTimer phc clk).2 <;> simp

end OtherCalls

/-! ## Runs and the events they emit -/

/-- An emitted event, with the TAI time of the callback, the delay in force there and the second of
the last accepted enable request before it. -/
structure Emission where
  sec : ℕ
  offset : ℕ
  delay : ℕ
  enabledIn : Option ℕ
  deriving DecidableEq, Repr

/-- A driver with its past: the latest TAI time, the second of the last accepted enable request and
the events emitted so far, oldest first. -/
structure ExttsHistory where
  phc : MockPhc
  tai : ℕ
  enabledIn : Option ℕ
  emitted : List Emission

/-- The event an output carries, as seen at the TAI time `tai`. -/
def emission (h : ExttsHistory) (tai : ℕ) : PhcOutput → List Emission
  | .event _ => [⟨tai / NSEC_PER_SEC, tai % NSEC_PER_SEC, h.phc.delay, h.enabledIn⟩]
  | _ => []

/-- The history after one call. -/
def ExttsHistory.next (h : ExttsHistory) (clk : Clocks) (op : PhcOp) : ExttsHistory where
  phc := (phcStep h.phc clk op).1
  tai := clk.tai.toNat
  enabledIn := if op.enablesExtts then some (clk.tai.toNat / NSEC_PER_SEC) else h.enabledIn
  emitted := h.emitted ++ emission h clk.tai.toNat (phcStep h.phc clk op).2

section Step

variable {h : ExttsHistory} {clk : Clocks}

end Step

end Netdevsim
