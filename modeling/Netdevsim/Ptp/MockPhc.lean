import Netdevsim.Kernel

/-!
# The mock PTP hardware clock

`MockPhc` is `struct mock_phc`: a time base (`offsetNs`, `freqPpb`, `lastMonoNs`) on top of
CLOCK_MONOTONIC and the state of the simulated 1PPS input.  Every entry point of the driver takes
the clock readings it makes as a `Clocks` argument and returns the new state; `phcStep` collects
them in one step function.  The functions of the driver take the phc lock for their whole time-base
update, so a call is one step.
-/

namespace Netdevsim

/-- The clock readings made by one call: `ktime_get_ns` and `ktime_get_clocktai_ns`. -/
structure Clocks where
  mono : UInt64
  tai : UInt64
  deriving DecidableEq, Repr

/-- `struct mock_phc`, less its pins, its reference count and its logical id. -/
structure MockPhc where
  /-- PHC = CLOCK_MONOTONIC + `offsetNs`. -/
  offsetNs : Int64
  freqPpb : Int64
  lastMonoNs : UInt64
  exttsTimer : Hrtimer
  exttsEnabled : Bool
  exttsChannel : UInt32
  lastExttsSec : UInt64
  exttsDelayMs : UInt32
  deriving DecidableEq, Repr

/-- The `PTP_CLOCK_EXTTS` event handed to `ptp_clock_event`. -/
structure PtpClockEvent where
  timestamp : UInt64
  index : UInt32
  deriving DecidableEq, Repr

/-- `struct ptp_clock_request`: the fields the mock driver reads. -/
inductive PtpClockRequest where
  | extts (index : UInt32)
  | perout (index : UInt32)
  | pps
  deriving DecidableEq, Repr

def MOCK_PHC_MAX_ADJ_PPB : ℤ := 500000000
def N_EXT_TS : UInt32 := 1
def EXTTS_IDLE_POLL_NS : UInt64 := 100000000
def EXTTS_EDGE_SLACK_NS : UInt64 := 1000000
def EXTTS_MAX_DELAY_MS : UInt32 := 900

/-! ## The time base -/

/-- `mock_phc_read_locked`: fold the drift since the last update into the offset. -/
def mockPhcReadLocked (phc : MockPhc) (raw : UInt64) : UInt64 × MockPhc :=
  let elapsed := (raw - phc.lastMonoNs).toInt64
  let offsetNs :=
    if 0 < elapsed ∧ phc.freqPpb ≠ 0 then phc.offsetNs + elapsed * phc.freqPpb / 1000000000
    else phc.offsetNs
  ((raw.toInt64 + offsetNs).toUInt64, { phc with offsetNs := offsetNs, lastMonoNs := raw })

/-- `mock_phc_adjfine`. -/
def mockPhcAdjfine (phc : MockPhc) (raw : UInt64) (scaledPpm : Int64) : MockPhc :=
  { (mockPhcReadLocked phc raw).2 with freqPpb := scaledPpm * 1000 / 65536 }

/-- `mock_phc_adjtime`. -/
def mockPhcAdjtime (phc : MockPhc) (raw : UInt64) (delta : Int64) : MockPhc :=
  let phc := (mockPhcReadLocked phc raw).2
  { phc with offsetNs := phc.offsetNs + delta }

/-- `mock_phc_settime64`. -/
def mockPhcSettime64 (phc : MockPhc) (raw : UInt64) (ts : Timespec64) : MockPhc :=
  { phc with lastMonoNs := raw, offsetNs := timespec64ToNs ts - raw.toInt64, freqPpb := 0 }

/-- `mock_phc_gettime64`. -/
def mockPhcGettime64 (phc : MockPhc) (raw : UInt64) : Timespec64 × MockPhc :=
  let (ns, phc) := mockPhcReadLocked phc raw
  (nsToTimespec64 ns.toInt64, phc)

/-! ## The 1PPS input -/

/-- `hrtimer_forward_now` on the EXTTS timer, whose callback is running. -/
def MockPhc.forwardTimer (phc : MockPhc) (clk : Clocks) (interval : UInt64) : MockPhc :=
  { phc with
    exttsTimer := phc.exttsTimer.map
      (fun expires => hrtimerForwardNow expires clk.mono.toNat interval.toNat) }

/-- The delay in force, in nanoseconds. -/
def MockPhc.delayNs (phc : MockPhc) : UInt64 :=
  phc.exttsDelayMs.toUInt64 * UInt64.ofNat NSEC_PER_MSEC

/-- The interval that aims for the delay after the next TAI second. -/
def nextDeltaNs (lateNs delayNs : UInt64) : UInt64 :=
  let next := (UInt64.ofNat NSEC_PER_SEC - lateNs) + delayNs + EXTTS_EDGE_SLACK_NS
  if next < EXTTS_EDGE_SLACK_NS then EXTTS_EDGE_SLACK_NS else next

/-- `mock_phc_extts_timer`: the new state and the event, if one was emitted. -/
def mockPhcExttsTimer (phc : MockPhc) (clk : Clocks) : MockPhc × Option PtpClockEvent :=
  if !phc.exttsEnabled then (phc.forwardTimer clk EXTTS_IDLE_POLL_NS, none)
  else
    let taiSec := clk.tai / UInt64.ofNat NSEC_PER_SEC
    let lateNs := clk.tai - taiSec * UInt64.ofNat NSEC_PER_SEC
    if taiSec ≠ phc.lastExttsSec then
      -- Wait until the configured phase delay has elapsed after the edge.
      if lateNs < phc.delayNs then (phc.forwardTimer clk (phc.delayNs - lateNs), none)
      else
        let (phcNs, phc') := mockPhcReadLocked { phc with lastExttsSec := taiSec } clk.mono
        (phc'.forwardTimer clk (nextDeltaNs lateNs phc.delayNs),
          some ⟨phcNs - (lateNs - phc.delayNs), phc.exttsChannel⟩)
    else (phc.forwardTimer clk (nextDeltaNs lateNs phc.delayNs), none)

/-- `mock_phc_enable`.  Enabling parks the PHC at CLOCK_TAI. -/
def mockPhcEnable (phc : MockPhc) (clk : Clocks) (rq : PtpClockRequest) (on : Bool) :
    Except Errno MockPhc :=
  match rq with
  | .extts index =>
    if N_EXT_TS ≤ index then .error .EINVAL
    else if on then .ok
      { phc with
        exttsChannel := index
        lastMonoNs := clk.mono
        offsetNs := clk.tai.toInt64 - clk.mono.toInt64
        freqPpb := 0
        lastExttsSec := clk.tai / UInt64.ofNat NSEC_PER_SEC
        exttsEnabled := true }
    else .ok { phc with exttsEnabled := false }
  | _ => .error .EOPNOTSUPP

/-- `extts_delay_ms_store`. -/
def exttsDelayMsStore (phc : MockPhc) (clk : Clocks) (buf : Bytes) : Except Errno MockPhc :=
  match kstrtouint buf 0 with
  | .error e => .error e
  | .ok delayMs =>
    if EXTTS_MAX_DELAY_MS < delayMs then .error .ERANGE
    else
      -- Re-evaluate promptly, especially when lowering an active delay.
      let timer := if phc.exttsEnabled then
          hrtimerStart clk.mono.toNat EXTTS_EDGE_SLACK_NS.toNat else phc.exttsTimer
      .ok { phc with exttsDelayMs := delayMs, exttsTimer := timer }

/-- The state `mock_phc_create` leaves on success. -/
def mockPhcCreate (clk : Clocks) : MockPhc where
  offsetNs := 0
  freqPpb := 0
  lastMonoNs := clk.mono
  exttsTimer := hrtimerStart clk.mono.toNat EXTTS_IDLE_POLL_NS.toNat
  exttsEnabled := false
  exttsChannel := 0
  lastExttsSec := 0
  exttsDelayMs := 0

/-! ## One step of the driver -/

/-- The entry points of the driver. -/
inductive PhcOp where
  | gettime64
  | settime64 (ts : Timespec64)
  | adjtime (delta : Int64)
  | adjfine (scaledPpm : Int64)
  | enable (rq : PtpClockRequest) (on : Bool)
  | exttsDelayMsStore (buf : Bytes)
  | exttsTimer
  deriving DecidableEq, Repr

/-- What a call returns to the world besides the new state. -/
inductive PhcOutput where
  | nothing
  | reading (ts : Timespec64)
  | event (e : PtpClockEvent)
  | failed (e : Errno)
  deriving DecidableEq, Repr

/-- The state after a call that changes nothing when it fails. -/
def orUnchanged (phc : MockPhc) : Except Errno MockPhc → MockPhc × PhcOutput
  | .ok phc' => (phc', .nothing)
  | .error e => (phc, .failed e)

/-- One call, with the clock readings it makes. -/
def phcStep (phc : MockPhc) (clk : Clocks) : PhcOp → MockPhc × PhcOutput
  | .gettime64 =>
    let (ts, phc') := mockPhcGettime64 phc clk.mono
    (phc', .reading ts)
  | .settime64 ts => (mockPhcSettime64 phc clk.mono ts, .nothing)
  | .adjtime delta => (mockPhcAdjtime phc clk.mono delta, .nothing)
  | .adjfine scaledPpm => (mockPhcAdjfine phc clk.mono scaledPpm, .nothing)
  | .enable rq on => orUnchanged phc (mockPhcEnable phc clk rq on)
  | .exttsDelayMsStore buf => orUnchanged phc (exttsDelayMsStore phc clk buf)
  | .exttsTimer =>
    match mockPhcExttsTimer phc clk with
    | (phc', some e) => (phc', .event e)
    | (phc', none) => (phc', .nothing)

/-- A run: the state it ends in and what its calls returned, in order. -/
def phcRun (phc : MockPhc) : List (Clocks × PhcOp) → MockPhc × List PhcOutput
  | [] => (phc, [])
  | (clk, op) :: steps =>
    let (phc', out) := phcStep phc clk op
    let (end', outs) := phcRun phc' steps
    (end', out :: outs)

/-- The readings among the outputs of a run, in nanoseconds. -/
def readings (outs : List PhcOutput) : List ℤ :=
  outs.filterMap fun out => match out with
    | .reading ts => some ts.ns
    | _ => none

/-- Every step of the run meets `C`. -/
def EveryStep (C : MockPhc → Clocks → PhcOp → Prop) (phc : MockPhc) :
    List (Clocks × PhcOp) → Prop
  | [] => True
  | (clk, op) :: steps => C phc clk op ∧ EveryStep C (phcStep phc clk op).1 steps

instance EveryStep.instDecidable (C : MockPhc → Clocks → PhcOp → Prop)
    [∀ phc clk op, Decidable (C phc clk op)] :
    ∀ phc steps, Decidable (EveryStep C phc steps)
  | _, [] => inferInstanceAs (Decidable True)
  | phc, (clk, op) :: steps =>
    have : Decidable (EveryStep C (phcStep phc clk op).1 steps) :=
      EveryStep.instDecidable C _ steps
    inferInstanceAs (Decidable (_ ∧ _))

/-- The monotonic times of the run never go backwards, starting from `now`. -/
def MonoFrom (now : UInt64) (steps : List (Clocks × PhcOp)) : Prop :=
  List.IsChain (· ≤ ·) (now :: steps.map fun step => step.1.mono)

/-! ## The fields a call leaves alone -/

section Frames

variable (phc : MockPhc) (clk : Clocks) (raw : UInt64)

@[simp] theorem readLocked_freqPpb : (mockPhcReadLocked phc raw).2.freqPpb = phc.freqPpb := rfl

@[simp] theorem readLocked_lastMonoNs : (mockPhcReadLocked phc raw).2.lastMonoNs = raw := rfl

@[simp] theorem readLocked_exttsEnabled :
    (mockPhcReadLocked phc raw).2.exttsEnabled = phc.exttsEnabled := rfl

@[simp] theorem readLocked_lastExttsSec :
    (mockPhcReadLocked phc raw).2.lastExttsSec = phc.lastExttsSec := rfl

@[simp] theorem readLocked_exttsDelayMs :
    (mockPhcReadLocked phc raw).2.exttsDelayMs = phc.exttsDelayMs := rfl

@[simp] theorem readLocked_exttsTimer :
    (mockPhcReadLocked phc raw).2.exttsTimer = phc.exttsTimer := rfl

@[simp] theorem forwardTimer_exttsTimer (interval : UInt64) :
    (phc.forwardTimer clk interval).exttsTimer = phc.exttsTimer.map
      (fun expires => hrtimerForwardNow expires clk.mono.toNat interval.toNat) := rfl

end Frames

/-! ## What a call does to the time base -/

/-- The part of the clock that determines its readings. -/
structure TimeBase where
  offsetNs : Int64
  freqPpb : Int64
  lastMonoNs : UInt64
  deriving DecidableEq, Repr

def MockPhc.base (phc : MockPhc) : TimeBase := ⟨phc.offsetNs, phc.freqPpb, phc.lastMonoNs⟩

/-- The call reads the PHC, and so folds the drift into the offset. -/
def PhcOp.folds (phc : MockPhc) (clk : Clocks) : PhcOp → Bool
  | .gettime64 | .adjtime _ | .adjfine _ => true
  | .exttsTimer => (mockPhcExttsTimer phc clk).2.isSome
  | _ => false

/-- The call is an EXTTS enable request the driver accepts. -/
def PhcOp.enablesExtts : PhcOp → Bool
  | .enable (.extts index) on => on && index < N_EXT_TS
  | _ => false

/-- The call sets the PHC to a time of its own. -/
def PhcOp.setsTime : PhcOp → Bool
  | .settime64 _ | .adjtime _ => true
  | op => op.enablesExtts

/-- The timer callback folds the drift when it emits an event and does nothing else. -/
theorem exttsTimer_base (phc : MockPhc) (clk : Clocks) :
    (mockPhcExttsTimer phc clk).1.base =
      if (mockPhcExttsTimer phc clk).2.isSome then (mockPhcReadLocked phc clk.mono).2.base
      else phc.base := by
  unfold mockPhcExttsTimer
  simp only
  split_ifs <;> first | rfl | contradiction

theorem enable_base_of_not_setsTime {phc phc' : MockPhc} {clk : Clocks} {rq : PtpClockRequest}
    {on : Bool} (keeps : PhcOp.setsTime (.enable rq on) = false)
    (ok : mockPhcEnable phc clk rq on = .ok phc') : phc'.base = phc.base := by
  cases rq with
  | extts index =>
    unfold mockPhcEnable at ok
    simp only at ok
    split_ifs at ok with outside enabling
    · simp only [PhcOp.setsTime, PhcOp.enablesExtts, enabling, Bool.true_and,
        decide_eq_false_iff_not] at keeps
      exact absurd (UInt32.not_lt.1 keeps) outside
    · injection ok with eq
      exact eq ▸ rfl
  | perout index => cases ok
  | pps => cases ok

theorem delayStore_base {phc phc' : MockPhc} {clk : Clocks} {buf : Bytes}
    (ok : exttsDelayMsStore phc clk buf = .ok phc') : phc'.base = phc.base := by
  unfold exttsDelayMsStore at ok
  split at ok
  · cases ok
  · simp only at ok
    split at ok
    · cases ok
    · injection ok with eq
      exact eq ▸ rfl

/-- The callback's step is the callback. -/
theorem phcStep_exttsTimer_state (phc : MockPhc) (clk : Clocks) :
    (phcStep phc clk .exttsTimer).1 = (mockPhcExttsTimer phc clk).1 := by
  simp only [phcStep]
  rcases mockPhcExttsTimer phc clk with ⟨phc', _ | e⟩ <;> rfl

theorem phcStep_exttsTimer_output (phc : MockPhc) (clk : Clocks) :
    (phcStep phc clk .exttsTimer).2 =
      match (mockPhcExttsTimer phc clk).2 with
      | some e => .event e
      | none => .nothing := by
  simp only [phcStep]
  rcases mockPhcExttsTimer phc clk with ⟨phc', _ | e⟩ <;> rfl

/-- A call that does not set the time leaves the offset and the update time of a plain read, if it
reads, and of the state before it, if it does not.  Only `adjfine` changes the frequency. -/
theorem phcStep_base (phc : MockPhc) (clk : Clocks) {op : PhcOp} (keeps : op.setsTime = false) :
    let after := (phcStep phc clk op).1.base
    let folded := if op.folds phc clk then (mockPhcReadLocked phc clk.mono).2.base else phc.base
    after.offsetNs = folded.offsetNs ∧ after.lastMonoNs = folded.lastMonoNs ∧
      after.freqPpb = match op with
        | .adjfine scaledPpm => scaledPpm * 1000 / 65536
        | _ => phc.freqPpb := by
  cases op with
  | gettime64 => exact ⟨rfl, rfl, rfl⟩
  | settime64 ts => cases keeps
  | adjtime delta => cases keeps
  | adjfine scaledPpm => exact ⟨rfl, rfl, rfl⟩
  | enable rq on =>
    have same : (phcStep phc clk (.enable rq on)).1.base = phc.base := by
      simp only [phcStep]
      cases attempt : mockPhcEnable phc clk rq on with
      | error e => rfl
      | ok phc' => exact enable_base_of_not_setsTime keeps attempt
    rw [same]
    exact ⟨rfl, rfl, rfl⟩
  | exttsDelayMsStore buf =>
    have same : (phcStep phc clk (.exttsDelayMsStore buf)).1.base = phc.base := by
      simp only [phcStep]
      cases attempt : exttsDelayMsStore phc clk buf with
      | error e => rfl
      | ok phc' => exact delayStore_base attempt
    rw [same]
    exact ⟨rfl, rfl, rfl⟩
  | exttsTimer =>
    have same := exttsTimer_base phc clk
    have reads : PhcOp.exttsTimer.folds phc clk = (mockPhcExttsTimer phc clk).2.isSome := rfl
    rw [phcStep_exttsTimer_state, same, reads]
    refine ⟨rfl, rfl, ?_⟩
    split_ifs <;> rfl

end Netdevsim
