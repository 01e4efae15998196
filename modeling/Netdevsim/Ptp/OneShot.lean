import Netdevsim.Ptp.Lateness

/-!
# Enabling EXTTS again

Enabling EXTTS parks the PHC at TAI and takes the current second as reported.  A second request does
the same again: later runs cannot tell only if the PHC runs untuned at TAI and the current second
was reported already.
-/

namespace Netdevsim

open FixedWidth

/-- The reads, the adjustments and the timer callback. -/
def PhcOp.continues : PhcOp → Bool
  | .enable _ _ | .exttsDelayMsStore _ => false
  | _ => true

/-- The events among the outputs of a run, in order. -/
def emitted (outs : List PhcOutput) : List PtpClockEvent :=
  outs.filterMap fun out => match out with
    | .event e => some e
    | _ => none

/-- What a run shows: its readings, its events and the frequency it ends with. -/
structure Shown where
  readings : List ℤ
  events : List PtpClockEvent
  freqPpb : Int64
  deriving DecidableEq, Repr

def shown (phc : MockPhc) (steps : List (Clocks × PhcOp)) : Shown :=
  ⟨readings (phcRun phc steps).2, emitted (phcRun phc steps).2, (phcRun phc steps).1.freqPpb⟩

/-- The PHC after a further enable request for its channel. -/
def enabledAgain (phc : MockPhc) (clk : Clocks) : MockPhc :=
  (phcStep phc clk (.enable (.extts phc.exttsChannel) true)).1

/-- No later run tells whether EXTTS was enabled once more. -/
def OneShot (phc : MockPhc) (clk : Clocks) : Prop :=
  ∀ steps, steps.all (·.2.continues) = true → MonoFrom clk.mono steps →
    shown (enabledAgain phc clk) steps = shown phc steps

/-- The PHC is as an enable request at `clk` leaves it, but for its last update. -/
structure AlreadyParked (phc : MockPhc) (clk : Clocks) : Prop where
  untuned : phc.freqPpb = 0
  offset : phc.offsetNs = clk.tai.toInt64 - clk.mono.toInt64
  second : phc.lastExttsSec = clk.tai / UInt64.ofNat NSEC_PER_SEC

/-- The channel and the delay are ones the driver accepts. -/
structure ValidExtts (phc : MockPhc) : Prop where
  channel : phc.exttsChannel < N_EXT_TS
  delay : phc.exttsDelayMs ≤ EXTTS_MAX_DELAY_MS

/-! ## The states of a mock PHC -/

theorem validExtts_create (clk : Clocks) : ValidExtts (mockPhcCreate clk) where
  channel := show (0 : UInt32) < N_EXT_TS by decide
  delay := show (0 : UInt32) ≤ EXTTS_MAX_DELAY_MS by decide

theorem validExtts_step {phc : MockPhc} (clk : Clocks) (op : PhcOp) (valid : ValidExtts phc) :
    ValidExtts (phcStep phc clk op).1 := by
  cases op with
  | enable rq on =>
    cases rq with
    | extts index =>
      simp only [phcStep, mockPhcEnable]
      by_cases outside : N_EXT_TS ≤ index
      · rw [if_pos outside]
        exact valid
      · rw [if_neg outside]
        cases on with
        | true => exact ⟨UInt32.not_le.1 outside, valid.delay⟩
        | false => exact ⟨valid.channel, valid.delay⟩
    | perout index => exact valid
    | pps => exact valid
  | exttsDelayMsStore buf =>
    simp only [phcStep, exttsDelayMsStore]
    cases kstrtouint buf 0 with
    | error e => exact valid
    | ok delayMs =>
      dsimp only
      by_cases long : EXTTS_MAX_DELAY_MS < delayMs
      · rw [if_pos long]
        exact valid
      · rw [if_neg long]
        exact ⟨valid.channel, UInt32.not_lt.1 long⟩
  | exttsTimer =>
    rw [phcStep_exttsTimer_state]
    unfold mockPhcExttsTimer
    dsimp only
    split_ifs
    all_goals exact ⟨valid.channel, valid.delay⟩
  | _ => exact ⟨valid.channel, valid.delay⟩

theorem validExtts_run {phc : MockPhc} (steps : List (Clocks × PhcOp)) (valid : ValidExtts phc) :
    ValidExtts (phcAfter phc steps) := by
  induction steps generalizing phc with
  | nil => exact valid
  | cons step steps ih =>
    obtain ⟨clk, op⟩ := step
    exact ih (validExtts_step clk op valid)

/-! ## The last update of an untuned PHC -/

/-- The PHC last updated at `last`. -/
def MockPhc.updatedAt (phc : MockPhc) (last : UInt64) : MockPhc := { phc with lastMonoNs := last }

section Untuned

variable {phc : MockPhc} {clk : Clocks} {op : PhcOp} {last raw : UInt64}

/-- An untuned PHC reads the same whenever it was last updated. -/
theorem readLocked_updatedAt (phc : MockPhc) (untuned : phc.freqPpb = 0) :
    mockPhcReadLocked (phc.updatedAt last) raw = mockPhcReadLocked phc raw := by
  simp [mockPhcReadLocked, MockPhc.updatedAt, untuned]

theorem exttsTimer_updatedAt (untuned : phc.freqPpb = 0) :
    (mockPhcExttsTimer (phc.updatedAt last) clk).2 = (mockPhcExttsTimer phc clk).2 ∧
      ((mockPhcExttsTimer (phc.updatedAt last) clk).1 = (mockPhcExttsTimer phc clk).1 ∨
        (mockPhcExttsTimer (phc.updatedAt last) clk).1 =
          (mockPhcExttsTimer phc clk).1.updatedAt last) := by
  have enabled : (phc.updatedAt last).exttsEnabled = phc.exttsEnabled := rfl
  have second : (phc.updatedAt last).lastExttsSec = phc.lastExttsSec := rfl
  have delay : (phc.updatedAt last).delayNs = phc.delayNs := rfl
  unfold mockPhcExttsTimer
  simp only [enabled, second, delay]
  split_ifs
  · exact ⟨rfl, .inr rfl⟩
  · exact ⟨rfl, .inr rfl⟩
  · -- the callback emits, and so reads the PHC
    have read : mockPhcReadLocked { phc.updatedAt last with
          lastExttsSec := clk.tai / UInt64.ofNat NSEC_PER_SEC } clk.mono =
        mockPhcReadLocked { phc with
          lastExttsSec := clk.tai / UInt64.ofNat NSEC_PER_SEC } clk.mono :=
      readLocked_updatedAt { phc with lastExttsSec := clk.tai / UInt64.ofNat NSEC_PER_SEC } untuned
    exact ⟨congrArg
        (fun r : UInt64 × MockPhc => some (⟨r.1 - _, phc.exttsChannel⟩ : PtpClockEvent)) read,
      .inl (congrArg (fun r : UInt64 × MockPhc => r.2.forwardTimer clk _) read)⟩
  · exact ⟨rfl, .inr rfl⟩

theorem phcRun_cons (steps : List (Clocks × PhcOp)) :
    phcRun phc ((clk, op) :: steps) = ((phcRun (phcStep phc clk op).1 steps).1,
      (phcStep phc clk op).2 :: (phcRun (phcStep phc clk op).1 steps).2) := rfl

/-- One call returns the same; it makes the states the same, or leaves the PHC untuned. -/
theorem phcStep_updatedAt (untuned : phc.freqPpb = 0) (continues : op.continues = true) :
    (phcStep (phc.updatedAt last) clk op).2 = (phcStep phc clk op).2 ∧
      ((phcStep (phc.updatedAt last) clk op).1 = (phcStep phc clk op).1 ∨
        (phcStep phc clk op).1.freqPpb = 0 ∧
          (phcStep (phc.updatedAt last) clk op).1 = (phcStep phc clk op).1.updatedAt last) := by
  have read : ∀ raw, mockPhcReadLocked (phc.updatedAt last) raw = mockPhcReadLocked phc raw :=
    fun raw => readLocked_updatedAt phc untuned
  cases op with
  | gettime64 =>
    refine ⟨?_, .inl ?_⟩
    all_goals simp only [phcStep, mockPhcGettime64, read]
  | settime64 ts => exact ⟨rfl, .inl rfl⟩
  | adjtime delta =>
    refine ⟨?_, .inl ?_⟩
    all_goals simp only [phcStep, mockPhcAdjtime, read]
  | adjfine scaledPpm =>
    refine ⟨?_, .inl ?_⟩
    all_goals simp only [phcStep, mockPhcAdjfine, read]
  | enable rq on => cases continues
  | exttsDelayMsStore buf => cases continues
  | exttsTimer =>
    obtain ⟨event, state⟩ := @exttsTimer_updatedAt phc clk last untuned
    have keeps : (phcStep phc clk .exttsTimer).1.freqPpb = 0 := (phcStep_untuned untuned rfl).1
    rw [phcStep_exttsTimer_output, phcStep_exttsTimer_output, event, phcStep_exttsTimer_state,
      phcStep_exttsTimer_state]
    rw [phcStep_exttsTimer_state] at keeps
    exact ⟨rfl, state.imp_right fun same => ⟨keeps, same⟩⟩

/-- A run shows the same whenever an untuned PHC was last updated. -/
theorem shown_updatedAt {steps : List (Clocks × PhcOp)} (untuned : phc.freqPpb = 0)
    (continues : steps.all (·.2.continues) = true) :
    shown (phc.updatedAt last) steps = shown phc steps := by
  have runs : (phcRun (phc.updatedAt last) steps).2 = (phcRun phc steps).2 ∧
      (phcRun (phc.updatedAt last) steps).1.freqPpb = (phcRun phc steps).1.freqPpb := by
    induction steps generalizing phc with
    | nil => exact ⟨rfl, rfl⟩
    | cons step steps ih =>
      obtain ⟨clk, op⟩ := step
      rw [List.all_cons, Bool.and_eq_true] at continues
      obtain ⟨output, same | ⟨still, same⟩⟩ := phcStep_updatedAt untuned continues.1
      · rw [phcRun_cons, phcRun_cons, output, same]
        exact ⟨rfl, rfl⟩
      · obtain ⟨outputs, freq⟩ := ih still continues.2
        rw [phcRun_cons, phcRun_cons, output, same, outputs, freq]
        exact ⟨rfl, rfl⟩
  unfold shown
  rw [runs.1, runs.2]

end Untuned

/-! ## The repeated request -/

section Again

variable {phc : MockPhc} {clk : Clocks}

theorem enabledAgain_eq (enabled : phc.exttsEnabled = true) (inside : phc.exttsChannel < N_EXT_TS) :
    enabledAgain phc clk = { phc with
      lastMonoNs := clk.mono
      offsetNs := clk.tai.toInt64 - clk.mono.toInt64
      freqPpb := 0
      lastExttsSec := clk.tai / UInt64.ofNat NSEC_PER_SEC } := by
  unfold enabledAgain
  simp only [phcStep, mockPhcEnable, if_neg (UInt32.not_le.2 inside), if_true, orUnchanged]
  rw [← enabled]

/-- A reader's enable ioctl that passes its checks is this request. -/
theorem ptpIoctl_enablesAgain {ptp : PtpClock} {v2 : Bool} {req : PtpExttsRequest}
    (checked : exttsRequestCheck v2 req = .ok true) (same : req.index = ptp.phc.exttsChannel)
    (inside : ptp.phc.exttsChannel < N_EXT_TS) :
    ptpIoctl ptp clk false (.exttsRequest v2 (some req)) =
      .ok { ptp with phc := enabledAgain ptp.phc clk } := by
  simp only [ptpIoctl, checked, same, PtpClock.enable, enabledAgain, phcStep, mockPhcEnable,
    if_neg (UInt32.not_le.2 inside), if_true]
  rfl

/-- A request to a PHC that is parked already moves its last update only. -/
theorem enabledAgain_parked (enabled : phc.exttsEnabled = true)
    (inside : phc.exttsChannel < N_EXT_TS) (parked : AlreadyParked phc clk) :
    enabledAgain phc clk = phc.updatedAt clk.mono := by
  rw [enabledAgain_eq enabled inside, ← parked.offset, ← parked.second]
  unfold MockPhc.updatedAt
  rw [← parked.untuned]

/-- A read at once tells the offset of an untuned PHC. -/
theorem offset_of_oneShot (enabled : phc.exttsEnabled = true) (inside : phc.exttsChannel < N_EXT_TS)
    (untuned : phc.freqPpb = 0) (oneShot : OneShot phc clk) :
    phc.offsetNs = clk.tai.toInt64 - clk.mono.toInt64 := by
  have read := oneShot [(clk, .gettime64)] rfl (by simp [MonoFrom])
  have reading : readingNs (enabledAgain phc clk) clk = readingNs phc clk :=
    List.head_eq_of_cons_eq (congrArg Shown.readings read)
  rw [readingNs_untuned untuned, readingNs_untuned (by rw [enabledAgain_eq enabled inside]),
    enabledAgain_eq enabled inside, Int64.toInt_inj] at reading
  exact ((Int64.add_right_inj _).1 reading).symm

/-- The TAI time of the delayed edge of the current second, or now if it has passed. -/
def edgeOrNow (phc : MockPhc) (clk : Clocks) : ℕ := max clk.tai.toNat (edgeTai phc clk)

theorem edgeOrNow_second (delay : phc.exttsDelayMs ≤ EXTTS_MAX_DELAY_MS) :
    edgeOrNow phc clk / NSEC_PER_SEC = clk.tai.toNat / NSEC_PER_SEC ∧
      phc.delay ≤ edgeOrNow phc clk % NSEC_PER_SEC := by
  have small : phc.delay < NSEC_PER_SEC := by
    have ms : phc.exttsDelayMs.toNat ≤ 900 := delay
    unfold MockPhc.delay NSEC_PER_MSEC NSEC_PER_SEC
    omega
  unfold edgeOrNow edgeTai NSEC_PER_SEC at *
  omega

/-- The callback at the delayed edge, or at once if that has passed, tells whether the current
second was reported. -/
theorem second_of_oneShot (enabled : phc.exttsEnabled = true) (inside : phc.exttsChannel < N_EXT_TS)
    (delay : phc.exttsDelayMs ≤ EXTTS_MAX_DELAY_MS) (edge : edgeTai phc clk < 2 ^ 64)
    (oneShot : OneShot phc clk) : phc.lastExttsSec = clk.tai / UInt64.ofNat NSEC_PER_SEC := by
  by_contra other
  obtain ⟨second, late⟩ := @edgeOrNow_second phc clk delay
  have time : (UInt64.ofNat (edgeOrNow phc clk)).toNat = edgeOrNow phc clk := by
    have now := clk.tai.toNat_lt
    exact UInt64.toNat_ofNat_of_lt' (max_lt now edge)
  let callback : Clocks := ⟨clk.mono, UInt64.ofNat (edgeOrNow phc clk)⟩
  have tells := oneShot [(callback, .exttsTimer)] rfl (by simp [MonoFrom, callback])
  have events : emitted [(phcStep (enabledAgain phc clk) callback .exttsTimer).2] =
      emitted [(phcStep phc callback .exttsTimer).2] := congrArg Shown.events tells
  have silent : ¬(mockPhcExttsTimer (enabledAgain phc clk) callback).2.isSome := by
    rw [(exttsTimer_wake (enabledAgain phc clk) callback).1, wake_emits_iff, time]
    rintro ⟨-, differs, -⟩
    rw [enabledAgain_eq enabled inside, toNat_taiSec, second] at differs
    exact differs rfl
  have emits : (mockPhcExttsTimer phc callback).2.isSome := by
    rw [(exttsTimer_wake phc callback).1, wake_emits_iff, time]
    refine ⟨enabled, fun same => other ?_, late⟩
    rw [← UInt64.toNat_inj, toNat_taiSec, ← same, second]
  obtain ⟨event, emits⟩ := Option.isSome_iff_exists.1 emits
  rw [phcStep_exttsTimer_output, phcStep_exttsTimer_output,
    Option.not_isSome_iff_eq_none.1 silent, emits] at events
  cases events

/-- The states of a mock PHC are valid; and in a valid one with EXTTS enabled, a further enable
request goes unnoticed exactly if the PHC is parked already. -/
theorem enable_again_unnoticed_iff (phc : MockPhc) (clk : Clocks) :
    (∀ start steps, ValidExtts (phcAfter (mockPhcCreate start) steps)) ∧
    (ValidExtts phc → phc.exttsEnabled = true → edgeTai phc clk < 2 ^ 64 →
      (OneShot phc clk ↔ AlreadyParked phc clk)) := by
  refine ⟨fun start steps => validExtts_run steps (validExtts_create start), ?_⟩
  intro valid enabled edge
  constructor
  · intro oneShot
    have untuned : phc.freqPpb = 0 := by
      have freq := congrArg Shown.freqPpb (oneShot [] rfl (by simp [MonoFrom]))
      change (enabledAgain phc clk).freqPpb = phc.freqPpb at freq
      rw [← freq, enabledAgain_eq enabled valid.channel]
    exact ⟨untuned, offset_of_oneShot enabled valid.channel untuned oneShot,
      second_of_oneShot enabled valid.channel valid.delay edge oneShot⟩
  · intro parked steps continues _
    rw [enabledAgain_parked enabled valid.channel parked]
    exact shown_updatedAt parked.untuned continues

/-- EXTTS is enabled twice in one second, and the PHC is left alone in between. -/
theorem enable_again_unnoticed_at_once :
    OneShot (phcAfter (mockPhcCreate ⟨0, 37000000000⟩) [(⟨5, 37000000005⟩, .enable (.extts 0) true)])
      ⟨9, 37000000009⟩ :=
  ((enable_again_unnoticed_iff _ _).2 (validExtts_run _ (validExtts_create _)) (by decide)
    (by decide)).2 ⟨by decide, by decide, by decide⟩

/-- A second request untunes the PHC. -/
theorem enable_again_untunes : ¬∀ phc clk, ValidExtts phc → phc.exttsEnabled = true →
    OneShot phc clk := by
  intro always
  have again := always
    (phcAfter (mockPhcCreate ⟨0, 37000000000⟩)
      [(⟨5, 37000000005⟩, .enable (.extts 0) true), (⟨7, 37000000007⟩, .adjfine 65536)])
    ⟨9, 37000000009⟩ (validExtts_run _ (validExtts_create _)) (by decide) [] rfl (by simp [MonoFrom])
  exact absurd again (by decide)

end Again

end Netdevsim
