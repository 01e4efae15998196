import Netdevsim.Lib.Runs
import Netdevsim.Ptp.StepEffect

/-!
# A physical clock with virtual clocks runs freely

While a physical clock without cycle support has virtual clocks, the core refuses to set or tune it.
Reads still fold the drift, so "runs freely" means that the time base is one that reads alone lead
to (`RunsFrom`).  An EXTTS enable request reaches the driver unchecked and parks the clock at
CLOCK_TAI; it is harmless only if the clock is there already (`AtTai`).
-/

namespace Netdevsim

/-- Reads at the given monotonic times, one after the other. -/
def readAll (phc : MockPhc) (raws : List UInt64) : MockPhc :=
  raws.foldl (fun phc raw => (mockPhcReadLocked phc raw).2) phc

/-- The time base of `phc'` is one that reads alone lead to from `phc`. -/
def RunsFrom (phc phc' : MockPhc) : Prop := ∃ raws, phc'.base = (readAll phc raws).base

/-- The call is an EXTTS enable request that reaches the driver. -/
def PtpCall.enablesExtts (interrupted : Bool) : PtpCall → Bool
  | .ioctl (.exttsRequest v2 (some req)) =>
    match exttsRequestCheck v2 req with
    | .ok on => on && !interrupted
    | .error _ => false
  | .sysfs (.exttsEnable (some (index, enable))) => index < N_EXT_TS && enable ≠ 0
  | _ => false

/-- The clock shows CLOCK_TAI and is not tuned. -/
def AtTai (phc : MockPhc) (clk : Clocks) : Prop :=
  phc.freqPpb = 0 ∧ phc.offsetNs = clk.tai.toInt64 - clk.mono.toInt64

/-- A call that does not disturb the clock: an EXTTS enable request finds it at CLOCK_TAI. -/
def Harmless (ptp : PtpClock) : Clocks × Bool × PtpCall → Prop
  | (clk, interrupted, call) => call.enablesExtts interrupted → AtTai ptp.phc clk

/-! ## Reads -/

section Reads

variable {p q r : MockPhc}

theorem readLocked_base_congr (same : p.base = q.base) (raw : UInt64) :
    (mockPhcReadLocked p raw).2.base = (mockPhcReadLocked q raw).2.base := by
  simp only [MockPhc.base, TimeBase.mk.injEq] at same
  obtain ⟨offset, freq, last⟩ := same
  simp only [mockPhcReadLocked, MockPhc.base, offset, freq, last]

theorem readAll_base_congr (same : p.base = q.base) (raws : List UInt64) :
    (readAll p raws).base = (readAll q raws).base := by
  induction raws generalizing p q with
  | nil => exact same
  | cons raw raws ih => exact ih (readLocked_base_congr same raw)

theorem runsFrom_of_base (same : q.base = p.base) : RunsFrom p q := ⟨[], same⟩

theorem runsFrom_readAll (raws : List UInt64) : RunsFrom p (readAll p raws) := ⟨raws, rfl⟩

theorem RunsFrom.trans (first : RunsFrom p q) (second : RunsFrom q r) : RunsFrom p r := by
  obtain ⟨raws, hraws⟩ := first
  obtain ⟨raws', hraws'⟩ := second
  refine ⟨raws ++ raws', ?_⟩
  rw [hraws', readAll_base_congr hraws, readAll, readAll, readAll, List.foldl_append]

/-- Reads do not tune the clock. -/
theorem RunsFrom.freq (runs : RunsFrom p q) : q.freqPpb = p.freqPpb := by
  obtain ⟨raws, same⟩ := runs
  rw [show q.freqPpb = (readAll p raws).freqPpb from congrArg TimeBase.freqPpb same]
  clear same
  induction raws generalizing p with
  | nil => rfl
  | cons raw raws ih => exact ih

/-- Reads do not move an untuned clock. -/
theorem RunsFrom.offset (runs : RunsFrom p q) (untuned : p.freqPpb = 0) :
    q.offsetNs = p.offsetNs := by
  obtain ⟨raws, same⟩ := runs
  rw [show q.offsetNs = (readAll p raws).offsetNs from congrArg TimeBase.offsetNs same]
  clear same
  induction raws generalizing p with
  | nil => rfl
  | cons raw raws ih =>
    have still : (mockPhcReadLocked p raw).2.offsetNs = p.offsetNs := by
      simp [mockPhcReadLocked, untuned]
    exact (ih (p := (mockPhcReadLocked p raw).2) untuned).trans still

end Reads

/-! ## The calls that reach the driver -/

section Driver

variable {phc phc' : MockPhc} {clk : Clocks}

/-- Only an EXTTS enable request touches the time base in `mock_phc_enable`. -/
theorem mockPhcEnable_base {rq : PtpClockRequest} {on : Bool}
    (ok : mockPhcEnable phc clk rq on = .ok phc') :
    phc'.base = if on then ⟨clk.tai.toInt64 - clk.mono.toInt64, 0, clk.mono⟩ else phc.base := by
  cases rq with
  | extts index =>
    unfold mockPhcEnable at ok
    simp only at ok
    split_ifs at ok with outside enabling
    · injection ok with eq
      rw [if_pos enabling, ← eq]
      rfl
    · injection ok with eq
      rw [if_neg enabling, ← eq]
      rfl
  | perout index => cases ok
  | pps => cases ok

theorem exttsTimer_runsFrom (phc : MockPhc) (clk : Clocks) :
    RunsFrom phc (mockPhcExttsTimer phc clk).1 := by
  have base := exttsTimer_base phc clk
  split_ifs at base with emits
  · exact ⟨[clk.mono], base⟩
  · exact runsFrom_of_base base

/-- What `ptp_set_pinfunc` keeps of the driver's state is what disabling a function keeps. -/
theorem ptpSetPinfunc_keeps {δ : Type} {ops : PinDriver δ} {P : δ → Prop}
    (disable : ∀ d rq, P d → P (ops.disable d rq)) {pins pins' : List PtpPinDesc} {d d' : δ}
    {pin func chan : UInt32} (ok : ptpSetPinfunc ops pins d pin func chan = .ok (pins', d'))
    (before : P d) : P d' := by
  have pinfunc : ∀ d func chan, P d → P (ptpDisablePinfunc ops d func chan) := by
    intro d func chan hd
    unfold ptpDisablePinfunc
    split_ifs
    · exact disable _ _ hd
    · exact disable _ _ hd
    · exact hd
  unfold ptpSetPinfunc at ok
  simp only at ok
  split_ifs at ok with same allowed refused
  · injection ok with eq
    injection eq with _ eq
    exact eq ▸ before
  · generalize List.findIdx? _ pins = pin₁ at ok
    cases pin₁ with
    | none =>
      simp only at ok
      split at ok <;> injection ok with eq <;> injection eq with _ eq <;> subst eq
      · exact before
      · exact pinfunc _ _ _ before
    | some i =>
      simp only at ok
      split at ok <;> injection ok with eq <;> injection eq with _ eq <;> subst eq
      · exact pinfunc _ _ _ before
      · exact pinfunc _ _ _ (pinfunc _ _ _ before)

theorem setPinfunc_base {ptp ptp' : PtpClock} {pin func chan : UInt32}
    (ok : ptp.setPinfunc clk pin func chan = .ok ptp') : ptp'.phc.base = ptp.phc.base := by
  obtain ⟨_, _, set, rfl⟩ := exists_of_setPinfunc ok
  refine ptpSetPinfunc_keeps (P := fun phc => phc.base = ptp.phc.base) ?_ set rfl
  intro d rq same
  show (orUnchanged d (mockPhcEnable d clk rq false)).1.base = ptp.phc.base
  cases attempt : mockPhcEnable d clk rq false with
  | error e => exact same
  | ok d' => exact (mockPhcEnable_base attempt).trans same

theorem enable_base {ptp ptp' : PtpClock} {rq : PtpClockRequest} {on : Bool}
    (ok : ptp.enable clk rq on = .ok ptp') :
    ptp'.phc.base =
      if on then ⟨clk.tai.toInt64 - clk.mono.toInt64, 0, clk.mono⟩ else ptp.phc.base := by
  unfold PtpClock.enable at ok
  cases attempt : mockPhcEnable ptp.phc clk rq on with
  | error e =>
    rw [attempt] at ok
    cases ok
  | ok phc =>
    rw [attempt] at ok
    injection ok with eq
    exact eq ▸ mockPhcEnable_base attempt

end Driver

/-! ## The calls of a clock with virtual clocks -/

/-- What a call may do to a freely running clock: park it at CLOCK_TAI, if it is an EXTTS enable
request, and otherwise read it. -/
structure Outcome (ptp : PtpClock) (clk : Clocks) (enables : Bool) (ptp' : PtpClock) : Prop where
  cycles : ptp'.hasCycles = ptp.hasCycles
  virtual : ptp'.isVirtualClock = ptp.isVirtualClock
  time : if enables then ptp'.phc.base = ⟨clk.tai.toInt64 - clk.mono.toInt64, 0, clk.mono⟩
    else RunsFrom ptp.phc ptp'.phc

section Calls

variable {ptp ptp' : PtpClock} {clk : Clocks} {interrupted : Bool}

theorem outcome_self (ptp : PtpClock) (clk : Clocks) : Outcome ptp clk false ptp :=
  ⟨rfl, rfl, runsFrom_of_base rfl⟩

/-- A failed call changes nothing, and a failed request does not reach the driver. -/
theorem outcome_attempt {enables : Bool} {result : Except Errno PtpClock}
    (ok : ∀ ptp', result = .ok ptp' → Outcome ptp clk enables ptp')
    (error : ∀ e, result = .error e → enables = false) :
    Outcome ptp clk enables (ptp.attempt result).1 := by
  cases result with
  | ok ptp' => exact ok ptp' rfl
  | error e => exact error e rfl ▸ outcome_self ptp clk

theorem outcome_enable {rq : PtpClockRequest} {on : Bool} (ok : ptp.enable clk rq on = .ok ptp') :
    Outcome ptp clk on ptp' := by
  have base := enable_base ok
  have kind : ptp'.hasCycles = ptp.hasCycles ∧ ptp'.isVirtualClock = ptp.isVirtualClock := by
    unfold PtpClock.enable at ok
    cases attempt : mockPhcEnable ptp.phc clk rq on with
    | error e =>
      rw [attempt] at ok
      cases ok
    | ok phc =>
      rw [attempt] at ok
      injection ok with eq
      exact eq ▸ ⟨rfl, rfl⟩
  refine ⟨kind.1, kind.2, ?_⟩
  cases on with
  | true => exact base
  | false => exact runsFrom_of_base base

theorem outcome_setPinfunc {pin func chan : UInt32}
    (ok : ptp.setPinfunc clk pin func chan = .ok ptp') : Outcome ptp clk false ptp' := by
  have base := setPinfunc_base ok
  obtain ⟨_, _, rfl⟩ := setPinfunc_changes ok
  exact ⟨rfl, rfl, runsFrom_of_base base⟩

/-- The requests of the mock driver fail on their index only, which the core checks first. -/
theorem enable_extts_ok {index : UInt32} {on : Bool} (inside : ¬ N_EXT_TS ≤ index) (e : Errno) :
    ptp.enable clk (.extts index) on ≠ .error e := by
  unfold PtpClock.enable mockPhcEnable
  simp only [if_neg inside]
  cases on <;> exact fun eq => by cases eq

theorem index_of_exttsRequestCheck {v2 on : Bool} {req : PtpExttsRequest}
    (ok : exttsRequestCheck v2 req = .ok on) : ¬ N_EXT_TS ≤ req.index := by
  unfold exttsRequestCheck at ok
  simp only at ok
  split_ifs at ok <;> assumption

theorem outcome_ioctl (cmd : PtpIoctl) :
    Outcome ptp clk (PtpCall.enablesExtts interrupted (.ioctl cmd))
      (ptp.attempt (ptpIoctl ptp clk interrupted cmd)).1 := by
  cases cmd with
  | exttsRequest v2 req =>
    cases req with
    | none => exact outcome_self ptp clk
    | some req =>
      simp only [PtpCall.enablesExtts, ptpIoctl]
      cases check : exttsRequestCheck v2 req with
      | error e => exact outcome_self ptp clk
      | ok on =>
        cases interrupted with
        | true =>
          simp only [Bool.not_true, Bool.and_false, if_true]
          exact outcome_self ptp clk
        | false =>
          simp only [Bool.not_false, Bool.and_true, Bool.false_eq_true, if_false]
          exact outcome_attempt (fun ptp' ok => outcome_enable ok)
            fun e eq => absurd eq (enable_extts_ok (index_of_exttsRequestCheck check) e)
  | peroutRequest v2 req => cases req <;> exact outcome_self ptp clk
  | enablePps capable =>
    have fails : ∃ e, ptpIoctl ptp clk interrupted (.enablePps capable) = .error e := by
      simp only [ptpIoctl]
      split_ifs <;> exact ⟨_, rfl⟩
    obtain ⟨e, eq⟩ := fails
    rw [eq]
    exact outcome_self ptp clk
  | sysOffset nSamples reads =>
    cases nSamples with
    | none => exact outcome_self ptp clk
    | some n =>
      refine outcome_attempt (fun ptp' ok => ?_) fun _ _ => rfl
      simp only [ptpIoctl] at ok
      split_ifs at ok
      injection ok with eq
      exact eq ▸ ⟨rfl, rfl, runsFrom_readAll (reads.take n.toNat)⟩
  | pinGetfunc v2 pin =>
    refine outcome_attempt (fun ptp' ok => ?_) fun _ _ => rfl
    cases pin with
    | none => cases ok
    | some pin =>
      simp only [ptpIoctl] at ok
      split_ifs at ok
      injection ok with eq
      exact eq ▸ outcome_self ptp clk
  | pinSetfunc v2 pin =>
    refine outcome_attempt (fun ptp' ok => ?_) fun _ _ => rfl
    cases pin with
    | none => cases ok
    | some pin =>
      simp only [ptpIoctl] at ok
      split_ifs at ok
      exact outcome_setPinfunc ok
  | maskEnSingle channel =>
    refine outcome_attempt (fun ptp' ok => ?_) fun _ _ => rfl
    cases channel with
    | none => cases ok
    | some channel =>
      simp only [ptpIoctl] at ok
      split_ifs at ok
      injection ok with eq
      exact eq ▸ outcome_self ptp clk
  | _ => exact outcome_self ptp clk

theorem outcome_sysfs (write : SysfsWrite) :
    Outcome ptp clk (PtpCall.enablesExtts interrupted (.sysfs write))
      (sysfsStore ptp clk interrupted write).1 := by
  cases write with
  | exttsEnable args =>
    cases args with
    | none => exact outcome_self ptp clk
    | some args =>
      obtain ⟨index, enable⟩ := args
      simp only [PtpCall.enablesExtts, sysfsStore, exttsEnableStore]
      by_cases outside : N_EXT_TS ≤ index
      · rw [if_pos outside, decide_eq_false (UInt32.not_lt.2 outside), Bool.false_and]
        exact outcome_self ptp clk
      · rw [if_neg outside, decide_eq_true (UInt32.not_le.1 outside), Bool.true_and]
        exact outcome_attempt (fun ptp' ok => outcome_enable ok)
          fun e eq => absurd eq (enable_extts_ok outside e)
  | period args =>
    refine outcome_attempt (fun ptp' ok => ?_) fun _ _ => rfl
    cases args with
    | none => cases ok
    | some index =>
      unfold periodStore at ok
      simp only at ok
      split_ifs at ok
      injection ok with eq
      exact eq ▸ outcome_self ptp clk
  | ppsEnable capable arg =>
    have fails : ∃ e, ppsEnableStore ptp clk capable arg = .error e := by
      unfold ppsEnableStore
      split_ifs
      · exact ⟨_, rfl⟩
      · cases arg <;> exact ⟨_, rfl⟩
    obtain ⟨e, eq⟩ := fails
    simp only [sysfsStore, eq]
    exact outcome_self ptp clk
  | nVclocks buf attempts =>
    obtain ⟨_, _, _, eq⟩ := @nVclocksStore_changes ptp interrupted buf attempts
    simp only [sysfsStore, eq]
    exact ⟨rfl, rfl, runsFrom_of_base rfl⟩
  | maxVclocks allocated buf =>
    obtain ⟨_, _, eq⟩ := @maxVclocksStore_changes ptp interrupted allocated buf
    simp only [sysfsStore, eq]
    exact ⟨rfl, rfl, runsFrom_of_base rfl⟩
  | pin name args =>
    refine outcome_attempt (fun ptp' ok => ?_) fun _ _ => rfl
    cases args with
    | none => cases ok
    | some args =>
      simp only [ptpPinStore] at ok
      cases found : ptpPinName2index ptp name with
      | none =>
        rw [found] at ok
        cases ok
      | some index =>
        simp only [found] at ok
        split_ifs at ok
        exact outcome_setPinfunc ok
  | exttsDelayMs buf =>
    refine outcome_attempt (fun ptp' ok => ?_) fun _ _ => rfl
    cases store : exttsDelayMsStore ptp.phc clk buf with
    | error e =>
      rw [store] at ok
      cases ok
    | ok phc =>
      rw [store] at ok
      injection ok with eq
      exact eq ▸ ⟨rfl, rfl, runsFrom_of_base (delayStore_base store)⟩

end Calls

/-! ## Whole runs -/

section Runs

variable {start ptp : PtpClock}

end Runs

end Netdevsim
