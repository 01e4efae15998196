import Netdevsim.Ptp.IdealVclocks

/-!
# The refresh work reads virtual clocks in time

A virtual clock has a worker that reads it two seconds after it was registered, and again two seconds
after each time the worker did so.  Nothing else makes sure that a clock is read at all.  The worker
may be late by 147483648 nanoseconds (`vclocks_refreshed`): then no clock is left unread for `2 ^ 31`
cycles, which is what `vclocks_refine` asks for.
-/

namespace Netdevsim

/-- The interval of the refresh work, in nanoseconds. -/
def REFRESH_NS : ℕ := PTP_VCLOCK_REFRESH_INTERVAL * 1000000000

/-- A worker is due at most an interval after its clock was read. -/
def DueInTime (due : ℕ → ℕ) (w : VclockWorld) : Prop :=
  ∀ p vclock, w.vclocks p = some vclock → due p ≤ vclock.tc.cycleLast.toNat + REFRESH_NS

section Step

variable {w w' : VclockWorld} {due : ℕ → ℕ} {p : ℕ} {vclock vclock' : PtpVclock} {interrupted : Bool}

theorem DueInTime.put (inTime : DueInTime due w)
    (later : due p ≤ vclock'.tc.cycleLast.toNat + REFRESH_NS) : DueInTime due (w.put p vclock') := by
  intro q other there
  by_cases same : q = p
  · subst same
    obtain rfl : vclock' = other := by simpa [VclockWorld.put] using there
    exact later
  · exact inTime q other (by simpa [VclockWorld.put, same] using there)

/-- A clock that was read just now. -/
theorem DueInTime.read (inTime : DueInTime due w) (all : AllTicking (2 ^ 31) w)
    (here : w.vclocks p = some vclock) (now : vclock'.tc.cycleLast = ptpVclockRead w.ts) :
    DueInTime due (w.put p vclock') := by
  refine inTime.put ?_
  have past := (all.ticking p vclock here).past
  have before := inTime p vclock here
  rw [now, ptpVclockRead_ts all.range, toNat_ofNat_cycles all.range]
  omega

theorem DueInTime.settime (inTime : DueInTime due w) (all : AllTicking (2 ^ 31) w)
    (here : w.vclocks p = some vclock) (set : Timespec64) :
    DueInTime due (w.apply p (ptpVclockSettime vclock w.ts interrupted set)).1 := by
  cases interrupted with
  | true => exact inTime
  | false => exact inTime.read all here rfl

theorem DueInTime.adjtime (inTime : DueInTime due w) (all : AllTicking (2 ^ 31) w)
    (here : w.vclocks p = some vclock) (tx : PhaseTimex) :
    DueInTime due (w.adjtime p vclock interrupted tx).1 := by
  unfold VclockWorld.adjtime
  split
  · exact inTime
  · cases interrupted with
    | true => exact inTime
    | false => exact inTime.put (inTime p vclock here)
  · cases interrupted with
    | true => exact inTime
    | false => exact inTime.read all here rfl
  · exact inTime

theorem DueInTime.gettime (inTime : DueInTime due w) (all : AllTicking (2 ^ 31) w)
    (here : w.vclocks p = some vclock) : DueInTime due (w.gettime p vclock interrupted).1 := by
  cases interrupted with
  | true => exact inTime
  | false => exact inTime.read all here rfl

/-- A new clock is read when its worker is scheduled. -/
theorem DueInTime.register (inTime : DueInTime due w) (all : AllTicking (2 ^ 31) w) (index : Int32) :
    DueInTime (Function.update due p (w.cycles + REFRESH_NS)) (w.ptpVclockRegister p index) := by
  intro q other there
  by_cases same : q = p
  · subst same
    obtain rfl : PtpVclock.mk index ptpVclockCc _ = other := by
      simpa [VclockWorld.ptpVclockRegister, VclockWorld.hashAdd, VclockWorld.put] using there
    rw [Function.update_self]
    show _ ≤ (ptpVclockRead w.ts).toNat + _
    rw [ptpVclockRead_ts all.range, toNat_ofNat_cycles all.range]
  · rw [Function.update_of_ne same]
    refine inTime q other ?_
    simpa [VclockWorld.ptpVclockRegister, VclockWorld.hashAdd, VclockWorld.put, same] using there

/-- The worker reads its clock and is scheduled again. -/
theorem DueInTime.refresh (inTime : DueInTime due w) (all : AllTicking (2 ^ 31) w) :
    DueInTime (Function.update due p (w.cycles + REFRESH_NS))
      (w.put p (ptpVclockRefresh vclock w.ts false).1) := by
  intro q other there
  by_cases same : q = p
  · subst same
    obtain rfl : (ptpVclockRefresh vclock w.ts false).1 = other := by
      simpa [VclockWorld.put] using there
    rw [Function.update_self]
    show _ ≤ (ptpVclockRead w.ts).toNat + _
    rw [ptpVclockRead_ts all.range, toNat_ofNat_cycles all.range]
  · rw [Function.update_of_ne same]
    exact inTime q other (by simpa [VclockWorld.put, same] using there)

end Step

end Netdevsim
