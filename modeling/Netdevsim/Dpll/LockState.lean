import Netdevsim.Lib.Runs
import Netdevsim.Dpll.Nsim

/-!
# The lock state machine

The lock status, the fix, the block and the holdover timer are kept consistent by NMEA sentences,
UBX configuration, the sysfs attribute and the timer together (`LockInvariant`).  The core of the
invariant is what a lost fix means: the DPLL coasts in holdover until the armed timer expires, and
has dropped to free run when the timer is no longer armed.
-/

namespace Netdevsim

/-- The readings of CLOCK_MONOTONIC and CLOCK_REALTIME at a step. -/
structure Instant where
  mono : ℕ
  real : Timespec64
  deriving DecidableEq, Repr

/-- What happens to a running DPLL. -/
inductive DpllEvent where
  | sysfsWrite (buf : Bytes)
  | gnssWrite (buf : Bytes)
  | gnssOpen
  | gnssClose
  | holdoverTimer
  | ntfTimer
  | ubxTimer
  | ntfWork
  deriving DecidableEq, Repr

/-- One step.  A timer expires only while it is armed, and not early. -/
def DpllStep (d : NsimDpll) (t : Instant) (d' : NsimDpll) : DpllEvent → Prop
  | .sysfsWrite buf => d' = (nsimDpllLockStatusStore d t.mono buf).1
  | .gnssWrite buf => ∃ replies, nsimGnssWriteRaw d t.mono t.real buf = some (d', replies)
  | .gnssOpen => d' = nsimGnssOpen d t.mono
  | .gnssClose => d' = nsimGnssClose d
  | .holdoverTimer =>
    (∃ expires, d.holdoverTimer = some expires ∧ expires ≤ t.mono) ∧ d' = nsimDpllHoldoverTimerCb d
  | .ntfTimer =>
    (∃ expires, d.ntfTimer = some expires ∧ expires ≤ t.mono) ∧ d' = nsimDpllNtfTimerCb d t.mono
  | .ubxTimer =>
    (∃ expires, d.ubxTimer = some expires ∧ expires ≤ t.mono) ∧
      d' = (nsimUbxTimerCb d t.mono t.real).1
  | .ntfWork => d.ntfWork ∧ d' = { d with ntfWork := false }

/-- The runs of a DPLL from the end of its initialisation on. -/
def dpllSystem : TransitionSystem NsimDpll (Instant × DpllEvent) where
  init d := ∃ now, d = NsimDpll.started now
  step d label d' := DpllStep d label.1 d' label.2

/-- The invariant of the lock state. -/
structure LockInvariant (d : NsimDpll) : Prop where
  status : d.lockStatus ≠ .LOCKED
  blocked : d.signalBlocked → d.gnssGpsFix = 0
  lost : d.gnssGpsFix = 0 →
    (d.lockStatus = .HOLDOVER ∧ d.holdoverTimer.isSome) ∨
      (d.lockStatus = .UNLOCKED ∧ d.holdoverTimer = none)
  armed : d.holdoverTimer.isSome → d.lockStatus = .HOLDOVER

theorem lockInvariant_started (now : ℕ) : LockInvariant (NsimDpll.started now) :=
  ⟨by simp [NsimDpll.started], by simp [NsimDpll.started], by simp [NsimDpll.started], by simp [NsimDpll.started]⟩

section Step

variable {d d' : NsimDpll} {now : ℕ}

/-- The invariant reads four fields only. -/
theorem LockInvariant.of_fields (inv : LockInvariant d) (status : d'.lockStatus = d.lockStatus)
    (blocked : d'.signalBlocked = d.signalBlocked) (fix : d'.gnssGpsFix = d.gnssGpsFix)
    (timer : d'.holdoverTimer = d.holdoverTimer) : LockInvariant d' where
  status := by rw [status]; exact inv.status
  blocked := by rw [blocked, fix]; exact inv.blocked
  lost := by rw [status, fix, timer]; exact inv.lost
  armed := by rw [status, timer]; exact inv.armed

/-- Entering holdover establishes the clauses on the timer, whatever the fix. -/
theorem lockInvariant_enterHoldover (blocked : d.signalBlocked → d.gnssGpsFix = 0) (now : ℕ) :
    LockInvariant (nsimDpllEnterHoldover d now) := by
  rw [nsimDpllEnterHoldover_eq]
  refine ⟨?_, ?_, fun _ => .inl ⟨?_, rfl⟩, fun _ => ?_⟩
  · simp
  · simpa using blocked
  · simp
  · simp

/-- Entering the locked state is right with a fix only. -/
theorem lockInvariant_enterLocked (blocked : d.signalBlocked = false) (fix : d.gnssGpsFix ≠ 0) :
    LockInvariant (nsimDpllEnterLocked d) := by
  rw [nsimDpllEnterLocked_eq]
  refine ⟨?_, ?_, fun lost => ?_, fun armed => ?_⟩
  · simp
  · simp [blocked]
  · exact absurd (by simpa using lost) fix
  · cases armed

theorem nsimGgaQualityToGpsFix_eq_zero_iff (quality : UInt8) :
    nsimGgaQualityToGpsFix quality = 0 ↔ quality = 0 := by
  unfold nsimGgaQualityToGpsFix
  split_ifs <;> simp_all

/-- The fix follows the sentence; the branch that changes nothing else keeps a locked state. -/
theorem lockInvariant_applyGgaFix (inv : LockInvariant d) (unblocked : d.signalBlocked = false)
    (now : ℕ) (quality : UInt8) : LockInvariant (nsimApplyGgaFix d now quality) := by
  unfold nsimApplyGgaFix
  simp only [unblocked, Bool.false_eq_true, if_false]
  by_cases loses : nsimGgaQualityToGpsFix quality = 0 ∧ d.gnssGpsFix ≠ 0
  · rw [if_pos loses]
    apply lockInvariant_enterHoldover
    simp [loses.1]
  · rw [if_neg loses]
    by_cases gains : nsimGgaQualityToGpsFix quality ≠ 0 ∧
        (d.gnssGpsFix = 0 ∨ d.lockStatus ≠ .LOCKED_HO_ACQ)
    · rw [if_pos gains]
      exact lockInvariant_enterLocked rfl gains.1
    · rw [if_neg gains]
      by_cases zero : nsimGgaQualityToGpsFix quality = 0
      · -- The fix was lost before and stays lost.
        have lost : d.gnssGpsFix = 0 := by
          by_contra held
          exact loses ⟨zero, held⟩
        exact inv.of_fields rfl unblocked.symm (zero.trans lost.symm) rfl
      · -- The DPLL was locked before, and the fix stays.
        refine ⟨inv.status, fun blocked => ?_, fun lost => absurd lost zero, inv.armed⟩
        cases blocked

theorem lockInvariant_applyInfil (now : ℕ) (val : UInt8) :
    LockInvariant (applyInfil d now val) := by
  unfold applyInfil
  split
  · exact lockInvariant_enterHoldover (fun _ => rfl) now
  · exact lockInvariant_enterLocked rfl (show (3 : UInt8) ≠ 0 by decide)

theorem lockInvariant_startUbxNav (inv : LockInvariant d) (now : ℕ) :
    LockInvariant (startUbxNav d now) := by
  unfold startUbxNav
  split
  · exact inv
  · exact inv.of_fields rfl rfl rfl rfl

theorem lockInvariant_gnssWrite {real : Timespec64} {buf : Bytes} {replies : List Bytes}
    (inv : LockInvariant d) (ok : nsimGnssWriteRaw d now real buf = some (d', replies)) :
    LockInvariant d' := by
  cases nsimGnssWriteRaw_effect ok with
  | unchanged => exact inv
  | ubxNav => exact lockInvariant_startUbxNav inv now
  | gga quality unblocked _ _ => exact lockInvariant_applyGgaFix inv unblocked now quality
  | infil val _ _ => exact lockInvariant_applyInfil now val

/-- The attribute cannot name the plain locked state. -/
theorem parseLockStatus_ne_locked {buf : Bytes} {status : DpllLockStatus}
    (ok : parseLockStatus buf = .ok status) : status ≠ .LOCKED := by
  unfold parseLockStatus at ok
  split_ifs at ok <;> injection ok with eq <;> subst eq <;> decide

/-- The attribute acts only while there is a fix and no block. -/
theorem lockInvariant_sysfsWrite (inv : LockInvariant d) (now : ℕ) (buf : Bytes) :
    LockInvariant (nsimDpllLockStatusStore d now buf).1 := by
  unfold nsimDpllLockStatusStore
  cases parsed : parseLockStatus buf with
  | error e => exact inv
  | ok newStatus =>
    simp only
    by_cases owned : d.signalBlocked ∨ d.gnssGpsFix = 0
    · rw [if_pos owned]
      exact inv
    · rw [if_neg owned]
      obtain ⟨unblocked, fix⟩ := not_or.1 owned
      rw [Bool.not_eq_true] at unblocked
      split_ifs with holdover locked
      · exact lockInvariant_enterHoldover inv.blocked now
      · exact lockInvariant_enterLocked unblocked fix
      · refine ⟨?_, ?_, fun lost => ?_, fun armed => ?_⟩
        · simpa using parseLockStatus_ne_locked parsed
        · simp [unblocked]
        · exact absurd (by simpa using lost) fix
        · simp at armed

/-- When the holdover timer expires the DPLL drops to free run if the fix is lost. -/
theorem lockInvariant_holdoverTimer (inv : LockInvariant d) :
    LockInvariant (nsimDpllHoldoverTimerCb d) := by
  unfold nsimDpllHoldoverTimerCb
  simp only
  by_cases drops : d.lockStatus = .HOLDOVER ∧ (d.gnssGpsFix = 0 ∨ d.signalBlocked)
  · rw [if_pos drops]
    refine ⟨?_, ?_, fun _ => .inr ⟨?_, ?_⟩, fun armed => ?_⟩
    · simp
    · simpa using inv.blocked
    · simp
    · simp
    · simp at armed
  · rw [if_neg drops]
    refine ⟨inv.status, inv.blocked, fun lost => ?_, fun armed => ?_⟩
    · rcases inv.lost lost with ⟨holdover, -⟩ | ⟨unlocked, -⟩
      · exact absurd ⟨holdover, .inl lost⟩ drops
      · exact .inr ⟨unlocked, rfl⟩
    · cases armed

/-- Every step keeps the invariant. -/
theorem lockInvariant_step {t : Instant} {event : DpllEvent} (inv : LockInvariant d)
    (step : DpllStep d t d' event) : LockInvariant d' := by
  cases event with
  | sysfsWrite buf =>
    rw [show d' = _ from step]
    exact lockInvariant_sysfsWrite inv t.mono buf
  | gnssWrite buf =>
    obtain ⟨replies, ok⟩ := step
    exact lockInvariant_gnssWrite inv ok
  | gnssOpen =>
    rw [show d' = _ from step]
    exact lockInvariant_startUbxNav inv t.mono
  | gnssClose =>
    rw [show d' = _ from step]
    exact inv.of_fields rfl rfl rfl rfl
  | holdoverTimer =>
    rw [step.2]
    exact lockInvariant_holdoverTimer inv
  | ntfTimer =>
    rw [step.2]
    exact inv.of_fields rfl rfl rfl rfl
  | ubxTimer =>
    rw [step.2]
    unfold nsimUbxTimerCb
    split
    · exact inv.of_fields rfl rfl rfl rfl
    · exact inv.of_fields rfl rfl rfl rfl
  | ntfWork =>
    rw [step.2]
    exact inv.of_fields rfl rfl rfl rfl

/-- While the fix is lost or the signal blocked, the attribute is ignored. -/
theorem sysfsWrite_of_lost (lost : d.gnssGpsFix = 0 ∨ d.signalBlocked) (now : ℕ) (buf : Bytes) :
    (nsimDpllLockStatusStore d now buf).1 = d := by
  unfold nsimDpllLockStatusStore
  cases parseLockStatus buf with
  | error e => rfl
  | ok newStatus =>
    simp only
    rw [if_pos lost.symm]

end Step

theorem lockInvariant_reachable {d : NsimDpll} (run : dpllSystem.Reachable d) :
    LockInvariant d := by
  apply run.induct
  · rintro _ ⟨now, rfl⟩
    exact lockInvariant_started now
  · intro d label d' _ inv step
    exact lockInvariant_step inv step

/-- The lock state machine: in every reachable state the lock status, the fix, the block and the
holdover timer agree, and while the fix is lost no sysfs write changes any of them. -/
theorem lock_state_machine (d : NsimDpll) (run : dpllSystem.Reachable d) :
    (d.lockStatus = .LOCKED_HO_ACQ ∨ d.lockStatus = .HOLDOVER ∨ d.lockStatus = .UNLOCKED) ∧
      (d.signalBlocked → d.gnssGpsFix = 0) ∧
      (d.gnssGpsFix = 0 → d.lockStatus ≠ .LOCKED_HO_ACQ) ∧
      (d.holdoverTimer.isSome → d.lockStatus = .HOLDOVER) ∧
      (d.lockStatus = .HOLDOVER → d.gnssGpsFix = 0 → d.holdoverTimer.isSome) ∧
      (d.gnssGpsFix = 0 ∨ d.signalBlocked → ∀ now buf,
        (nsimDpllLockStatusStore d now buf).1 = d) := by
  have inv := lockInvariant_reachable run
  refine ⟨?_, inv.blocked, fun lost locked => ?_, inv.armed, fun holdover lost => ?_,
    fun lost now buf => sysfsWrite_of_lost lost now buf⟩
  · cases status : d.lockStatus with
    | LOCKED => exact absurd status inv.status
    | LOCKED_HO_ACQ => exact .inl rfl
    | HOLDOVER => exact .inr (.inl rfl)
    | UNLOCKED => exact .inr (.inr rfl)
  · rcases inv.lost lost with ⟨holdover, -⟩ | ⟨unlocked, -⟩
    · rw [holdover] at locked
      cases locked
    · rw [unlocked] at locked
      cases locked
  · rcases inv.lost lost with ⟨-, armed⟩ | ⟨unlocked, -⟩
    · exact armed
    · rw [unlocked] at holdover
      cases holdover

/-- A sentence without a fix, and the expiry of the timer half a minute later. -/
def lostFix : NsimDpll :=
  nsimDpllHoldoverTimerCb (nsimApplyGgaFix (NsimDpll.started 0) 5000000000 0)

theorem lock_state_machine_lostFix :
    lostFix.lockStatus = .UNLOCKED ∧ (lostFix.gnssGpsFix = 0 →
      lostFix.lockStatus ≠ .LOCKED_HO_ACQ) := by
  have started : dpllSystem.Reachable (NsimDpll.started 0) := .init ⟨0, rfl⟩
  have write : dpllSystem.step (NsimDpll.started 0)
      (⟨5000000000, ⟨0, 0⟩⟩, .gnssWrite (ascii "$GNGGA,,,,,,0,,*00"))
      (nsimApplyGgaFix (NsimDpll.started 0) 5000000000 0) :=
    ⟨[ascii "$GNGGA,,,,,,0,,*00"], by decide⟩
  have expiry : dpllSystem.step (nsimApplyGgaFix (NsimDpll.started 0) 5000000000 0)
      (⟨35000000000, ⟨0, 0⟩⟩, .holdoverTimer) lostFix :=
    ⟨⟨35000000000, by decide, le_refl _⟩, rfl⟩
  exact ⟨by decide, (lock_state_machine lostFix ((started.step write).step expiry)).2.2.1⟩

end Netdevsim
