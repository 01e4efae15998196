import Netdevsim.Ptp.Clock

/-!
# What a step of the clock can do

Whatever reaches the clock changes the driver behind it, dials a frequency by `clock_adjtime`, sets
a pin function, or writes `n_vclocks` or `max_vclocks`; and each of these leaves the rest of the
clock alone.
-/

namespace Netdevsim

/-- What can become of the clock in one step. -/
inductive StepEffect (ptp : PtpClock) (clk : Clocks) (interrupted : Bool) (call : PtpCall) :
    PtpClock → Prop where
  | driver (phc : MockPhc) : StepEffect ptp clk interrupted call { ptp with phc := phc }
  | dial (tx : KernelTimex) (phc : MockPhc) (freq : Int64) (dials : call = .adjtime tx) :
      StepEffect ptp clk interrupted call { ptp with phc := phc, dialedFrequency := freq }
  | pinfunc {ptp' : PtpClock} (pin func chan : UInt32) (inside : pin.toNat < ptp.pinConfig.length)
      (ok : ptp.setPinfunc clk pin func chan = .ok ptp') : StepEffect ptp clk interrupted call ptp'
  | nVclocks (buf : Bytes) (attempts : List (Option Int32))
      (write : call = .sysfs (.nVclocks buf attempts)) :
      StepEffect ptp clk interrupted call (nVclocksStore ptp interrupted buf attempts).1
  | maxVclocks (allocated : Bool) (buf : Bytes)
      (write : call = .sysfs (.maxVclocks allocated buf)) :
      StepEffect ptp clk interrupted call (maxVclocksStore ptp interrupted allocated buf).1

section Effect

variable {ptp ptp' : PtpClock} {clk : Clocks} {interrupted : Bool} {call : PtpCall}

theorem stepEffect_same : StepEffect ptp clk interrupted call ptp :=
  .driver ptp.phc

theorem stepEffect_attempt {result : Except Errno PtpClock}
    (ok : ∀ ptp', result = .ok ptp' → StepEffect ptp clk interrupted call ptp') :
    StepEffect ptp clk interrupted call (ptp.attempt result).1 := by
  cases result with
  | ok ptp' => exact ok ptp' rfl
  | error e => exact stepEffect_same

theorem stepEffect_enable {rq : PtpClockRequest} {on : Bool}
    (ok : ptp.enable clk rq on = .ok ptp') : StepEffect ptp clk interrupted call ptp' := by
  unfold PtpClock.enable at ok
  cases enabled : mockPhcEnable ptp.phc clk rq on with
  | error e =>
    rw [enabled] at ok
    cases ok
  | ok phc =>
    rw [enabled] at ok
    cases ok
    exact .driver phc

theorem stepEffect_adjtime {tx : KernelTimex}
    (ok : ptpClockAdjtime ptp clk interrupted tx = .ok ptp') :
    StepEffect ptp clk interrupted (.adjtime tx) ptp' := by
  unfold ptpClockAdjtime at ok
  dsimp only at ok
  split_ifs at ok
  all_goals
    cases ok
    exact .dial tx _ _ rfl

theorem stepEffect_ioctl {cmd : PtpIoctl} (ok : ptpIoctl ptp clk interrupted cmd = .ok ptp') :
    StepEffect ptp clk interrupted call ptp' := by
  unfold ptpIoctl at ok
  split at ok
  all_goals try split at ok
  all_goals try split_ifs at ok
  all_goals first
    | cases ok; done
    | exact stepEffect_enable ok
    | exact .pinfunc _ _ _ (by omega) ok
    | exact Except.ok.inj ok ▸ .driver _

theorem stepEffect_sysfs (write : SysfsWrite) :
    StepEffect ptp clk interrupted (.sysfs write) (sysfsStore ptp clk interrupted write).1 := by
  cases write with
  | exttsEnable args =>
    refine stepEffect_attempt fun ptp' ok => ?_
    unfold exttsEnableStore at ok
    split at ok
    · cases ok
    · split_ifs at ok
      exact stepEffect_enable ok
  | period args =>
    refine stepEffect_attempt fun ptp' ok => ?_
    unfold periodStore at ok
    split at ok
    · cases ok
    · split_ifs at ok
      cases ok
      exact stepEffect_same
  | ppsEnable capable arg =>
    refine stepEffect_attempt fun ptp' ok => ?_
    unfold ppsEnableStore at ok
    split_ifs at ok
    split at ok
    · cases ok
    · exact stepEffect_enable ok
  | nVclocks buf attempts => exact .nVclocks buf attempts rfl
  | maxVclocks allocated buf => exact .maxVclocks allocated buf rfl
  | pin name args =>
    refine stepEffect_attempt fun ptp' ok => ?_
    unfold ptpPinStore at ok
    split at ok
    · cases ok
    split at ok
    · cases ok
    · rename_i index found
      -- the name of the attribute is the name of a pin of the table
      have inside : index < ptp.pinConfig.length := (List.findIdx?_eq_some_iff_getElem.1 found).1
      split_ifs at ok
      refine .pinfunc _ _ _ (lt_of_le_of_lt ?_ inside) ok
      rw [UInt32.toNat_ofNat']
      exact Nat.mod_le _ _
  | exttsDelayMs buf =>
    refine stepEffect_attempt fun ptp' ok => ?_
    cases stored : exttsDelayMsStore ptp.phc clk buf with
    | error e =>
      rw [stored] at ok
      cases ok
    | ok phc =>
      rw [stored] at ok
      cases ok
      exact .driver _

theorem ptpStep_effect (call : PtpCall) :
    StepEffect ptp clk interrupted call (ptpStep ptp clk interrupted call).1 := by
  cases call with
  | settime ts =>
    refine stepEffect_attempt fun ptp' ok => ?_
    unfold ptpClockSettime at ok
    split_ifs at ok
    cases ok
    exact .driver _
  | gettime => exact .driver _
  | adjtime tx => exact stepEffect_attempt fun ptp' => stepEffect_adjtime
  | ioctl cmd => exact stepEffect_attempt fun ptp' => stepEffect_ioctl
  | sysfs write => exact stepEffect_sysfs write
  | exttsTimer => exact .driver _
  | vclockRead => exact .driver _

/-! ## What each of them changes -/

/-- The clock gets what `ptp_set_pinfunc` returns. -/
theorem exists_of_setPinfunc {pin func chan : UInt32}
    (ok : ptp.setPinfunc clk pin func chan = .ok ptp') : ∃ pinConfig phc,
      ptpSetPinfunc (mockPinDriver clk) ptp.pinConfig ptp.phc pin func chan =
        .ok (pinConfig, phc) ∧ ptp' = { ptp with pinConfig, phc } := by
  unfold PtpClock.setPinfunc at ok
  cases set : ptpSetPinfunc (mockPinDriver clk) ptp.pinConfig ptp.phc pin func chan with
  | error e =>
    rw [set] at ok
    cases ok
  | ok r =>
    rw [set] at ok
    exact ⟨r.1, r.2, rfl, (Except.ok.inj ok).symm⟩

theorem setPinfunc_changes {pin func chan : UInt32}
    (ok : ptp.setPinfunc clk pin func chan = .ok ptp') :
    ∃ pinConfig phc, ptp' = { ptp with pinConfig, phc } := by
  obtain ⟨pinConfig, phc, -, changed⟩ := exists_of_setPinfunc ok
  exact ⟨pinConfig, phc, changed⟩

theorem nVclocksStore_changes (buf : Bytes) (attempts : List (Option Int32)) :
    ∃ vclocks vclockIndex nVclocks, (nVclocksStore ptp interrupted buf attempts).1 =
      { ptp with vclocks, vclockIndex, nVclocks } := by
  unfold nVclocksStore
  split
  · exact ⟨_, _, _, rfl⟩
  · dsimp only
    split_ifs <;> exact ⟨_, _, _, rfl⟩

theorem maxVclocksStore_changes (allocated : Bool) (buf : Bytes) :
    ∃ vclockIndex maxVclocks, (maxVclocksStore ptp interrupted allocated buf).1 =
      { ptp with vclockIndex, maxVclocks } := by
  unfold maxVclocksStore
  split
  · exact ⟨_, _, rfl⟩
  · dsimp only
    split_ifs <;> exact ⟨_, _, rfl⟩

/-- Only `clock_adjtime` dials a frequency. -/
theorem dialedFrequency_ptpStep (other : ∀ tx, call ≠ .adjtime tx) :
    (ptpStep ptp clk interrupted call).1.dialedFrequency = ptp.dialedFrequency := by
  have effect := @ptpStep_effect ptp clk interrupted call
  generalize (ptpStep ptp clk interrupted call).1 = ptp' at effect
  cases effect with
  | driver phc => rfl
  | dial tx phc freq dials => exact absurd dials (other tx)
  | pinfunc pin func chan inside ok =>
    obtain ⟨_, _, rfl⟩ := setPinfunc_changes ok
    rfl
  | nVclocks buf attempts _ =>
    obtain ⟨_, _, _, eq⟩ := @nVclocksStore_changes ptp interrupted buf attempts
    rw [eq]
  | maxVclocks allocated buf _ =>
    obtain ⟨_, _, eq⟩ := @maxVclocksStore_changes ptp interrupted allocated buf
    rw [eq]

end Effect

end Netdevsim
