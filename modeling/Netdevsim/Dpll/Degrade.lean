import Netdevsim.Dpll.LockState

/-!
# While the fix stays lost

Without a fix the DPLL coasts in holdover until the timer expires and then runs free.  A repeated
sentence without a fix does not start that over, but a repeated CFG-VALSET that blocks the signal
does: it enters holdover and arms the timer whatever the state.
-/

namespace Netdevsim

/-! ## What restores and what blocks the signal -/

/-- The event brings the fix back: a sentence with a fix while the signal is not blocked, or a
CFG-VALSET that lifts the block. -/
def Restores (d : NsimDpll) : DpllEvent → Prop
  | .gnssWrite buf =>
    (d.signalBlocked = false ∧ buf[0]? = some 36 ∧
      ∃ quality ≠ 0, ggaQuality buf (buf.length + 1) 0 = some (some quality)) ∨
    (IsValset buf ∧ frameInfil buf = some (some 0))
  | _ => False

/-- The event is a CFG-VALSET that blocks the signal. -/
def Blocks : DpllEvent → Prop
  | .gnssWrite buf => IsValset buf ∧ ∃ val, 0 < val ∧ frameInfil buf = some (some val)
  | _ => False

/-- The lock status stays or drops from holdover to free run, and nothing but its expiry touches
the holdover timer. -/
structure Degrades (d d' : NsimDpll) (event : DpllEvent) : Prop where
  status : d'.lockStatus = d.lockStatus ∨ (d.lockStatus = .HOLDOVER ∧ d'.lockStatus = .UNLOCKED)
  timer : event ≠ .holdoverTimer → d'.holdoverTimer = d.holdoverTimer

/-- The signal is not blocked anew, unless at the very instant at which the running timer was
started. -/
def NotBlockedAnew (d : NsimDpll) (t : Instant) (event : DpllEvent) : Prop :=
  Blocks event →
    d.holdoverTimer = some (t.mono + NSIM_DPLL_HOLDOVER_TIMEOUT_SEC * NSEC_PER_SEC)

section Write

variable {d d' : NsimDpll} {now : ℕ} {real : Timespec64} {buf : Bytes} {replies : List Bytes}

/-- A CFG-VALSET frame with a value for INFIL_NCNOTHRS always has its effect. -/
theorem nsimGnssWriteRaw_valset {val : UInt8} (valset : IsValset buf)
    (found : frameInfil buf = some (some val))
    (ok : nsimGnssWriteRaw d now real buf = some (d', replies)) : d' = applyInfil d now val := by
  rw [nsimGnssWriteRaw_isValset valset found] at ok
  injection ok with eq
  injection eq with state
  exact state.symm

theorem applyInfil_blocking {val : UInt8} (blocks : 0 < val) :
    (applyInfil d now val).lockStatus = .HOLDOVER ∧
      (applyInfil d now val).holdoverTimer =
        some (now + NSIM_DPLL_HOLDOVER_TIMEOUT_SEC * NSEC_PER_SEC) ∧
      (applyInfil d now val).gnssGpsFix = 0 := by
  unfold applyInfil
  rw [if_pos blocks, nsimDpllEnterHoldover_eq]
  refine ⟨?_, rfl, ?_⟩ <;> simp

/-- A sentence without a fix changes nothing that is lost already. -/
theorem nsimApplyGgaFix_zero (lost : d.gnssGpsFix = 0) : nsimApplyGgaFix d now 0 = d := by
  unfold nsimApplyGgaFix
  have fix : nsimGgaQualityToGpsFix 0 = 0 := rfl
  simp only [fix, lost, ne_eq, not_true_eq_false, and_false, false_and, if_false, ite_self]
  rw [← lost]

end Write

section Step

variable {d d' : NsimDpll} {t : Instant} {event : DpllEvent}

/-- What an event does that neither restores nor blocks the signal. -/
theorem degrades_of_not_blocks (lost : d.gnssGpsFix = 0) (step : DpllStep d t d' event)
    (stays : ¬Restores d event) (unblocked : ¬Blocks event) :
    Degrades d d' event ∧ d'.gnssGpsFix = 0 := by
  have same : d' = d → Degrades d d' event ∧ d'.gnssGpsFix = 0 := by
    rintro rfl
    exact ⟨⟨.inl rfl, fun _ => rfl⟩, lost⟩
  have nav : d' = startUbxNav d t.mono → Degrades d d' event ∧ d'.gnssGpsFix = 0 := by
    rintro rfl
    unfold startUbxNav
    split
    · exact ⟨⟨.inl rfl, fun _ => rfl⟩, lost⟩
    · exact ⟨⟨.inl rfl, fun _ => rfl⟩, lost⟩
  cases event with
  | sysfsWrite buf => exact same ((show d' = _ from step).trans (sysfsWrite_of_lost (.inl lost) _ _))
  | gnssWrite buf =>
    obtain ⟨replies, ok⟩ := step
    cases nsimGnssWriteRaw_effect ok with
    | unchanged => exact same rfl
    | ubxNav => exact nav rfl
    | gga quality heard nmea found =>
      have none : quality = 0 := by
        by_contra some
        exact stays (.inl ⟨heard, nmea, quality, some, found⟩)
      subst none
      exact same (nsimApplyGgaFix_zero lost)
    | infil val valset found =>
      by_cases zero : val = 0
      · rw [zero] at found
        exact absurd (.inr ⟨valset, found⟩) stays
      · exact absurd ⟨valset, val, UInt8.pos_iff_ne_zero.2 zero, found⟩ unblocked
  | gnssOpen => exact nav step
  | gnssClose =>
    rw [show d' = _ from step]
    exact ⟨⟨.inl rfl, fun _ => rfl⟩, lost⟩
  | holdoverTimer =>
    rw [step.2]
    unfold nsimDpllHoldoverTimerCb
    simp only
    split
    · rename_i drops
      refine ⟨⟨.inr ⟨drops.1, ?_⟩, fun other => absurd rfl other⟩, ?_⟩
      · simp
      · simpa using lost
    · exact ⟨⟨.inl rfl, fun other => absurd rfl other⟩, lost⟩
  | ntfTimer =>
    rw [step.2]
    exact ⟨⟨.inl rfl, fun _ => rfl⟩, lost⟩
  | ubxTimer =>
    rw [step.2]
    unfold nsimUbxTimerCb
    split
    · exact ⟨⟨.inl rfl, fun _ => rfl⟩, lost⟩
    · exact ⟨⟨.inl rfl, fun _ => rfl⟩, lost⟩
  | ntfWork =>
    rw [step.2]
    exact ⟨⟨.inl rfl, fun _ => rfl⟩, lost⟩

/-- A block of the signal starts holdover over, so it degrades the lock only in that the timer has
just been started. -/
theorem degrades_iff_of_blocks (inv : LockInvariant d) (step : DpllStep d t d' event)
    (blocks : Blocks event) :
    d'.gnssGpsFix = 0 ∧ (Degrades d d' event ↔ NotBlockedAnew d t event) := by
  cases event with
  | gnssWrite buf =>
    obtain ⟨replies, ok⟩ := step
    obtain ⟨valset, val, positive, found⟩ := blocks
    obtain ⟨status, timer, fix⟩ := @applyInfil_blocking d t.mono val positive
    rw [← nsimGnssWriteRaw_valset valset found ok] at status timer fix
    refine ⟨fix, fun degrades => ?_, fun just => ?_⟩
    · intro _
      rw [← degrades.timer DpllEvent.noConfusion, timer]
    · have running := just ⟨valset, val, positive, found⟩
      refine ⟨.inl ?_, fun _ => timer.trans running.symm⟩
      rw [status, inv.armed (by rw [running]; rfl)]
  | _ => exact absurd blocks id

/-- An event that leaves the fix lost degrades the lock exactly if it does not block the signal
anew. -/
theorem degrades_iff (inv : LockInvariant d) (lost : d.gnssGpsFix = 0)
    (step : DpllStep d t d' event) (stays : ¬Restores d event) :
    d'.gnssGpsFix = 0 ∧ (Degrades d d' event ↔ NotBlockedAnew d t event) := by
  by_cases blocks : Blocks event
  · exact degrades_iff_of_blocks inv step blocks
  · obtain ⟨degrades, fix⟩ := degrades_of_not_blocks lost step stays blocks
    exact ⟨fix, iff_of_true degrades fun contra => absurd contra blocks⟩

end Step

/-! ## Every run -/

/-- The steps of a DPLL that leave the fix lost. -/
def lostSystem : TransitionSystem NsimDpll (Instant × DpllEvent) :=
  dpllSystem.guard fun d a => ¬Restores d a.2

/-- What a run without a fix makes of the lock. -/
structure Degraded (d d' : NsimDpll) : Prop where
  lost : d'.gnssGpsFix = 0
  status : d'.lockStatus = d.lockStatus ∨ (d.lockStatus = .HOLDOVER ∧ d'.lockStatus = .UNLOCKED)
  timer : d'.holdoverTimer = d.holdoverTimer ∨ d'.holdoverTimer = none

theorem Degraded.step {d d' d'' : NsimDpll} {t : Instant} {event : DpllEvent}
    (before : Degraded d d') (step : DpllStep d' t d'' event) (fix : d''.gnssGpsFix = 0)
    (degrades : Degrades d' d'' event) : Degraded d d'' := by
  refine ⟨fix, ?_, ?_⟩
  · rcases degrades.status with same | ⟨holdover, unlocked⟩
    · rw [same]
      exact before.status
    · rcases before.status with same' | ⟨-, unlocked'⟩
      · exact .inr ⟨same' ▸ holdover, unlocked⟩
      · rw [holdover] at unlocked'
        cases unlocked'
  · by_cases expiry : event = .holdoverTimer
    · subst expiry
      refine .inr ?_
      rw [step.2]
      unfold nsimDpllHoldoverTimerCb
      simp only
      split <;> simp
    · rw [degrades.timer expiry]
      exact before.timer

/-- While the fix stays lost, and the signal is not blocked anew, the lock only degrades: in every
run from a reachable state, and in each single step exactly under that condition. -/
theorem degradation_is_one_way (d : NsimDpll) (run : dpllSystem.Reachable d)
    (lost : d.gnssGpsFix = 0) :
    (∀ as d', (lostSystem.guard fun d a => NotBlockedAnew d a.1 a.2).Run d as d' →
      Degraded d d') ∧
    ∀ t d' event, DpllStep d t d' event → ¬Restores d event →
      (Degrades d d' event ↔ NotBlockedAnew d t event) := by
  refine ⟨?_, fun t d' event step stays =>
    (degrades_iff (lockInvariant_reachable run) lost step stays).2⟩
  intro as d' guarded
  have both : Degraded d d' ∧ dpllSystem.Reachable d' := by
    refine guarded.preserves (P := fun d' => Degraded d d' ∧ dpllSystem.Reachable d') ?_
      ⟨⟨lost, .inl rfl, .inl rfl⟩, run⟩
    rintro d₁ ⟨t, event⟩ d₂ ⟨before, reached⟩ ⟨⟨step, stays⟩, condition⟩
    obtain ⟨fix, iff⟩ := degrades_iff (lockInvariant_reachable reached) before.lost step stays
    exact ⟨before.step step fix (iff.2 condition), reached.step step⟩
  exact both.1

/-- The CFG-VALSET frame that sets INFIL_NCNOTHRS to 50. -/
def blockingValset : Bytes :=
  [0xB5, 0x62, 0x06, 0x8A, 0x09, 0x00, 0x00, 0x01, 0x00, 0x00, 0xAA, 0x00, 0x11, 0x20, 0x32, 0x00,
    0x00]

/-- The sentence that loses the fix, as an event. -/
def noFix : DpllEvent := .gnssWrite (ascii "$GNGGA,,,,,,0,,*00")

/-- The fix is lost five seconds after the start and once more at the tenth; the DPLL runs free half
a minute after the first loss. -/
theorem degradation_is_one_way_lostFix :
    Degraded (nsimApplyGgaFix (NsimDpll.started 0) 5000000000 0) lostFix := by
  have started : dpllSystem.Reachable (NsimDpll.started 0) := .init ⟨0, rfl⟩
  have loses : dpllSystem.Reachable (nsimApplyGgaFix (NsimDpll.started 0) 5000000000 0) :=
    started.step (a := (⟨5000000000, ⟨0, 0⟩⟩, noFix)) ⟨[ascii "$GNGGA,,,,,,0,,*00"], by decide⟩
  have again : (lostSystem.guard fun d a => NotBlockedAnew d a.1 a.2).step
      (nsimApplyGgaFix (NsimDpll.started 0) 5000000000 0) (⟨10000000000, ⟨0, 0⟩⟩, noFix)
      (nsimApplyGgaFix (NsimDpll.started 0) 5000000000 0) := by
    refine ⟨⟨⟨[ascii "$GNGGA,,,,,,0,,*00"], by decide⟩, ?_⟩, ?_⟩
    · rintro (⟨-, -, quality, nonzero, found⟩ | ⟨valset, -⟩)
      · have zero : ggaQuality (ascii "$GNGGA,,,,,,0,,*00") 19 0 = some (some 0) := by decide
        exact nonzero (Option.some.inj (Option.some.inj (found.symm.trans zero)))
      · exact absurd valset (by decide)
    · exact fun blocks => absurd blocks.1 (by decide)
  have expiry : (lostSystem.guard fun d a => NotBlockedAnew d a.1 a.2).step
      (nsimApplyGgaFix (NsimDpll.started 0) 5000000000 0) (⟨35000000000, ⟨0, 0⟩⟩, .holdoverTimer)
      lostFix :=
    ⟨⟨⟨⟨35000000000, by decide, le_refl _⟩, rfl⟩, id⟩, fun blocks => absurd blocks id⟩
  exact (degradation_is_one_way _ loses (by decide)).1 _ _ ((TransitionSystem.Run.nil.snoc again).snoc
    expiry)

/-- The DPLL runs free after a lost fix, and a CFG-VALSET that blocks the signal takes it back into
holdover. -/
theorem block_returns_to_holdover :
    ¬ ∀ d t d' event, dpllSystem.Reachable d → d.gnssGpsFix = 0 → DpllStep d t d' event →
      ¬Restores d event → Degrades d d' event := by
  intro always
  have started : dpllSystem.Reachable (NsimDpll.started 0) := .init ⟨0, rfl⟩
  have loses : dpllSystem.Reachable (nsimApplyGgaFix (NsimDpll.started 0) 5000000000 0) :=
    started.step (a := (⟨5000000000, ⟨0, 0⟩⟩, noFix)) ⟨[ascii "$GNGGA,,,,,,0,,*00"], by decide⟩
  have free : dpllSystem.Reachable lostFix :=
    loses.step (a := (⟨35000000000, ⟨0, 0⟩⟩, .holdoverTimer)) ⟨⟨35000000000, by decide, le_refl _⟩, rfl⟩
  have found : frameInfil blockingValset = some (some 50) := by decide
  obtain ⟨⟨d', replies⟩, ok⟩ := nsimGnssWriteRaw_total lostFix 40000000000 ⟨0, 0⟩ blockingValset
  have blocked := nsimGnssWriteRaw_valset (by decide) found ok
  have stays : ¬Restores lostFix (.gnssWrite blockingValset) := by
    rintro (⟨-, nmea, -⟩ | ⟨-, lifted⟩)
    · exact absurd nmea (by decide)
    · rw [found] at lifted
      exact absurd lifted (by decide)
  have status := (always lostFix ⟨40000000000, ⟨0, 0⟩⟩ d' (.gnssWrite blockingValset) free (by decide)
    ⟨replies, ok⟩ stays).status
  rw [blocked, (applyInfil_blocking (by decide)).1] at status
  exact absurd status (by decide)

end Netdevsim
