import Netdevsim.Dpll.LockState

/-!
# Tearing a DPLL down

`nsim_dpll_exit` and the error path of `nsim_dpll_init` cancel the timers and the work of a DPLL one
by one while its GNSS device may still be written, and finally free it.  A GNSS write can start what
was cancelled before, so nothing outlives the DPLL only if no write does that in the meantime
(`Harmless`).  The error path does not cancel the holdover timer at all.
-/

namespace Netdevsim

/-! ## The lock status a write asks for -/

/-- The lock status `nsim_parse_gga_fix` enters for a quality, if any. -/
def ggaCommand (d : NsimDpll) (quality : UInt8) : Option DpllLockStatus :=
  let newFix := nsimGgaQualityToGpsFix quality
  if newFix = 0 ∧ d.gnssGpsFix ≠ 0 then some .HOLDOVER
  else if newFix ≠ 0 ∧ (d.gnssGpsFix = 0 ∨ d.lockStatus ≠ .LOCKED_HO_ACQ) then some .LOCKED_HO_ACQ
  else none

/-- The lock status `nsim_gnss_write_raw` enters for a buffer, if any. -/
def writeCommand (d : NsimDpll) (buf : Bytes) : Option DpllLockStatus :=
  if buf[0]? = some 36 then
    if d.signalBlocked then none
    else match ggaQuality buf (buf.length + 1) 0 with
      | some (some quality) => ggaCommand d quality
      | _ => none
  else if IsValset buf then
    match frameInfil buf with
    | some (some val) => some (if 0 < val then .HOLDOVER else .LOCKED_HO_ACQ)
    | _ => none
  else none

/-- The write neither enters holdover nor changes the lock status. -/
def Settled (d : NsimDpll) (buf : Bytes) : Prop :=
  writeCommand d buf = none ∨
    (writeCommand d buf = some .LOCKED_HO_ACQ ∧ d.lockStatus = .LOCKED_HO_ACQ)

section Settled

variable {d d' : NsimDpll} {now : ℕ} {real : Timespec64} {buf : Bytes} {replies : List Bytes}

/-- Re-entering the locked state only disarms the timer. -/
theorem enterLocked_of_locked (locked : d.lockStatus = .LOCKED_HO_ACQ) :
    (nsimDpllEnterLocked d).holdoverTimer = none ∧ (nsimDpllEnterLocked d).ntfWork = d.ntfWork := by
  unfold nsimDpllEnterLocked
  rw [if_neg (not_not.2 locked)]
  exact ⟨rfl, rfl⟩

/-- A settled write does not arm the holdover timer and does not queue the work. -/
theorem settled_write (settled : Settled d buf)
    (ok : nsimGnssWriteRaw d now real buf = some (d', replies)) :
    (d'.holdoverTimer = d.holdoverTimer ∨ d'.holdoverTimer = none) ∧ d'.ntfWork = d.ntfWork := by
  cases nsimGnssWriteRaw_effect ok with
  | unchanged => exact ⟨.inl rfl, rfl⟩
  | ubxNav =>
    unfold startUbxNav
    split <;> exact ⟨.inl rfl, rfl⟩
  | gga quality unblocked nmea found =>
    have command : writeCommand d buf = ggaCommand d quality := by
      unfold writeCommand
      rw [if_pos nmea, if_neg (by simp [unblocked]), found]
    unfold Settled at settled
    rw [command] at settled
    unfold ggaCommand at settled
    unfold nsimApplyGgaFix
    simp only [unblocked, Bool.false_eq_true, if_false] at settled ⊢
    by_cases loses : nsimGgaQualityToGpsFix quality = 0 ∧ d.gnssGpsFix ≠ 0
    · rw [if_pos loses] at settled
      rcases settled with none' | ⟨other, -⟩
      · cases none'
      · cases other
    · rw [if_neg loses] at settled ⊢
      by_cases gains : nsimGgaQualityToGpsFix quality ≠ 0 ∧
          (d.gnssGpsFix = 0 ∨ d.lockStatus ≠ .LOCKED_HO_ACQ)
      · rw [if_pos gains] at settled ⊢
        rcases settled with none' | ⟨-, locked⟩
        · cases none'
        · obtain ⟨timer, work⟩ := enterLocked_of_locked (d := { d with
            signalBlocked := false, gnssGpsFix := nsimGgaQualityToGpsFix quality }) locked
          exact ⟨.inr timer, work⟩
      · rw [if_neg gains]
        exact ⟨.inl rfl, rfl⟩
  | infil val valset found =>
    have command : writeCommand d buf =
        some (if 0 < val then .HOLDOVER else .LOCKED_HO_ACQ) := by
      unfold writeCommand
      rw [if_neg, if_pos valset, found]
      rw [valset.2.1]
      decide
    unfold Settled at settled
    rw [command] at settled
    unfold applyInfil
    split_ifs at settled ⊢ with positive
    · rcases settled with none' | ⟨other, -⟩
      · cases none'
      · cases other
    · rcases settled with none' | ⟨-, locked⟩
      · cases none'
      · obtain ⟨timer, work⟩ := enterLocked_of_locked (d := { d with
          signalBlocked := false, gnssGpsFix := 3 }) locked
        exact ⟨.inr timer, work⟩

end Settled

/-! ## The steps of the teardown -/

/-- The steps of `nsim_dpll_exit` and of the error labels of `nsim_dpll_init`. -/
inductive TeardownStep where
  | removeSysfs
  | cancelNtfTimer
  | cancelHoldoverTimer
  | cancelNtfWork
  | disableUbxNav
  | cancelUbxTimer
  | deregisterGnss
  | putGnss
  | cleanupPortPins
  | unregisterExtPins
  | unregisterGnssPin
  | unregisterEec
  | unregisterPps
  | free
  deriving DecidableEq, Repr

/-- The end both paths have in common. -/
def registryCleanup : List TeardownStep :=
  [.cleanupPortPins, .unregisterExtPins, .unregisterGnssPin, .unregisterEec, .unregisterPps, .free]

/-- `nsim_dpll_exit`. -/
def nsimDpllExitSteps : List TeardownStep :=
  [.removeSysfs, .cancelNtfTimer, .cancelHoldoverTimer, .cancelNtfWork, .disableUbxNav,
    .cancelUbxTimer, .deregisterGnss, .putGnss] ++ registryCleanup

/-- `nsim_dpll_init` from the label `err_gnss_cleanup` on. -/
def nsimDpllInitUnwindSteps : List TeardownStep :=
  [.disableUbxNav, .cancelUbxTimer, .deregisterGnss, .putGnss, .cancelNtfTimer, .cancelNtfWork] ++
    registryCleanup

/-- The ways to tear a DPLL down once its GNSS device is registered.  The label `err_sysfs_kobj`
drops the directory first. -/
def teardownPaths : List (List TeardownStep) :=
  [nsimDpllExitSteps, .removeSysfs :: nsimDpllInitUnwindSteps, nsimDpllInitUnwindSteps]

/-- A DPLL in its teardown, with the open files of its GNSS device and the steps still to come. -/
structure Teardown where
  dpll : NsimDpll
  opens : ℕ
  registered : Bool
  todo : List TeardownStep
  deriving Repr

/-- What one step does to the DPLL.  A cancelled timer's callback has finished, and so has cancelled
work.  Deregistering closes a GNSS device that is open. -/
def Teardown.perform (s : Teardown) (step : TeardownStep) (todo : List TeardownStep) : Teardown :=
  let s := { s with todo := todo }
  match step with
  | .cancelNtfTimer => { s with dpll := { s.dpll with ntfTimer := none } }
  | .cancelHoldoverTimer => { s with dpll := { s.dpll with holdoverTimer := none } }
  | .cancelNtfWork => { s with dpll := { s.dpll with ntfWork := false } }
  | .disableUbxNav => { s with dpll := { s.dpll with ubxNavEnabled := false } }
  | .cancelUbxTimer => { s with dpll := { s.dpll with ubxTimer := none } }
  | .deregisterGnss =>
    { s with
      registered := false
      dpll := if 0 < s.opens then nsimGnssClose s.dpll else s.dpll }
  | _ => s

/-- What happens during the teardown. -/
inductive TeardownEvent where
  | teardown
  | gnssOpen
  | gnssClose
  | gnssWrite (buf : Bytes)
  | holdoverTimer
  | ntfTimer
  | ubxTimer
  | ntfWork
  deriving DecidableEq, Repr

/-- One step of the interleaving.  The GNSS device calls the driver when its first file is opened
and its last one closed, and on every write, until it is deregistered. -/
def Teardown.Step (s : Teardown) (t : Instant) (s' : Teardown) : TeardownEvent → Prop
  | .teardown => ∃ step todo, s.todo = step :: todo ∧ s' = s.perform step todo
  | .gnssOpen => s.registered ∧ s' =
      { s with
        opens := s.opens + 1
        dpll := if s.opens = 0 then nsimGnssOpen s.dpll t.mono else s.dpll }
  | .gnssClose => s.registered ∧ 0 < s.opens ∧ s' =
      { s with
        opens := s.opens - 1
        dpll := if s.opens = 1 then nsimGnssClose s.dpll else s.dpll }
  | .gnssWrite buf => s.registered ∧ 0 < s.opens ∧ ∃ d replies,
      nsimGnssWriteRaw s.dpll t.mono t.real buf = some (d, replies) ∧ s' = { s with dpll := d }
  | .holdoverTimer => ∃ d, DpllStep s.dpll t d .holdoverTimer ∧ s' = { s with dpll := d }
  | .ntfTimer => ∃ d, DpllStep s.dpll t d .ntfTimer ∧ s' = { s with dpll := d }
  | .ubxTimer => ∃ d, DpllStep s.dpll t d .ubxTimer ∧ s' = { s with dpll := d }
  | .ntfWork => ∃ d, DpllStep s.dpll t d .ntfWork ∧ s' = { s with dpll := d }

/-- The teardown by `program` of a DPLL in any state, with any files open. -/
def teardownSystem (program : List TeardownStep) :
    TransitionSystem Teardown (Instant × TeardownEvent) where
  init s := s.registered ∧ s.todo = program
  step s label s' := s.Step label.1 s' label.2

/-- The condition on a step: the work is cancelled with the holdover timer disarmed, and from then
on a GNSS write neither enters holdover nor changes the lock status. -/
def Teardown.Harmless (s : Teardown) (label : Instant × TeardownEvent) : Prop :=
  match label.2 with
  | .teardown => s.todo.head? = some .cancelNtfWork → s.dpll.holdoverTimer = none
  | .gnssWrite buf => .cancelNtfWork ∉ s.todo → Settled s.dpll buf
  | _ => True

/-- No timer is armed and no work queued. -/
def NsimDpll.Quiet (d : NsimDpll) : Prop :=
  d.holdoverTimer = none ∧ d.ntfTimer = none ∧ d.ubxTimer = none ∧ d.ntfWork = false

/-! ## What holds from each step on -/

/-- What the order of the steps of a program is used for. -/
structure WellOrdered (todo : List TeardownStep) : Prop where
  nodup : todo.Nodup
  timerBeforeWork : .cancelNtfTimer ∈ todo → .cancelNtfWork ∈ todo
  ubxBeforeGnss : .cancelUbxTimer ∈ todo → .deregisterGnss ∈ todo

instance (todo : List TeardownStep) : Decidable (WellOrdered todo) :=
  decidable_of_iff (todo.Nodup ∧ (.cancelNtfTimer ∈ todo → .cancelNtfWork ∈ todo) ∧
    (.cancelUbxTimer ∈ todo → .deregisterGnss ∈ todo))
    ⟨fun h => ⟨h.1, h.2.1, h.2.2⟩, fun h => ⟨h.1, h.2, h.3⟩⟩

/-- Every cancelled timer stays disarmed and cancelled work stays off the queue; the UBX timer runs
only for a device that is open, until that is deregistered. -/
structure TeardownInvariant (s : Teardown) : Prop where
  ordered : ∀ todo, todo <:+ s.todo → WellOrdered todo
  ntfTimer : .cancelNtfTimer ∉ s.todo → s.dpll.ntfTimer = none
  work : .cancelNtfWork ∉ s.todo → s.dpll.holdoverTimer = none ∧ s.dpll.ntfWork = false
  ubxTimer : .cancelUbxTimer ∉ s.todo → s.dpll.ubxTimer.isSome → 0 < s.opens ∧ s.registered
  registered : .deregisterGnss ∉ s.todo → s.registered = false

/-- The steps other than the teardown's own leave the program alone, arm no cancelled timer and
queue no cancelled work. -/
theorem TeardownInvariant.event {s s' : Teardown} (inv : TeardownInvariant s)
    (todo : s'.todo = s.todo)
    (ntfTimer : s.dpll.ntfTimer = none → s'.dpll.ntfTimer = none)
    (work : .cancelNtfWork ∉ s.todo → s.dpll.holdoverTimer = none → s.dpll.ntfWork = false →
      s'.dpll.holdoverTimer = none ∧ s'.dpll.ntfWork = false)
    (ubxTimer : .cancelUbxTimer ∉ s.todo → s'.dpll.ubxTimer.isSome → 0 < s'.opens ∧ s'.registered)
    (registered : s'.registered = s.registered) : TeardownInvariant s' where
  ordered := by rw [todo]; exact inv.ordered
  ntfTimer := by
    rw [todo]
    exact fun cancelled => ntfTimer (inv.ntfTimer cancelled)
  work := by
    rw [todo]
    exact fun cancelled => work cancelled (inv.work cancelled).1 (inv.work cancelled).2
  ubxTimer := by rw [todo]; exact ubxTimer
  registered := by rw [todo, registered]; exact inv.registered

section Step

variable {s s' : Teardown} {t : Instant}

theorem teardownInvariant_gnssOpen (inv : TeardownInvariant s) (step : s.Step t s' .gnssOpen) :
    TeardownInvariant s' := by
  obtain ⟨registered, rfl⟩ := step
  have frame : ∀ d : NsimDpll, (startUbxNav d t.mono).ntfTimer = d.ntfTimer ∧
      (startUbxNav d t.mono).holdoverTimer = d.holdoverTimer ∧
      (startUbxNav d t.mono).ntfWork = d.ntfWork := by
    intro d
    unfold startUbxNav
    split <;> exact ⟨rfl, rfl, rfl⟩
  obtain ⟨ntf, holdover, queued⟩ := frame s.dpll
  apply inv.event
  · rfl
  · intro off
    simp only
    split
    · exact ntf.trans off
    · exact off
  · intro _ off idle
    simp only
    split
    · exact ⟨holdover.trans off, queued.trans idle⟩
    · exact ⟨off, idle⟩
  · exact fun _ _ => ⟨Nat.succ_pos _, registered⟩
  · rfl

theorem teardownInvariant_gnssClose (inv : TeardownInvariant s) (step : s.Step t s' .gnssClose) :
    TeardownInvariant s' := by
  obtain ⟨registered, positive, rfl⟩ := step
  apply inv.event
  · rfl
  · intro off
    simp only
    split <;> exact off
  · intro _ off idle
    simp only
    split <;> exact ⟨off, idle⟩
  · intro cancelled
    simp only
    split
    · exact fun armed => by cases armed
    · rename_i more
      intro armed
      exact ⟨by have := (inv.ubxTimer cancelled armed).1; omega, registered⟩
  · rfl

/-- A write happens on an open device; the condition keeps it from arming what was cancelled. -/
theorem teardownInvariant_gnssWrite {buf : Bytes} (inv : TeardownInvariant s)
    (step : s.Step t s' (.gnssWrite buf)) (harmless : s.Harmless (t, .gnssWrite buf)) :
    TeardownInvariant s' := by
  obtain ⟨registered, positive, d, replies, ok, rfl⟩ := step
  apply inv.event
  · rfl
  · exact fun off => (nsimGnssWriteRaw_ntfTimer ok).trans off
  · intro cancelled off idle
    obtain ⟨timer, work⟩ := settled_write (harmless cancelled) ok
    refine ⟨?_, work.trans idle⟩
    rcases timer with same | disarmed
    · exact same.trans off
    · exact disarmed
  · exact fun _ _ => ⟨positive, registered⟩
  · rfl

theorem teardownInvariant_holdoverTimer (inv : TeardownInvariant s)
    (step : s.Step t s' .holdoverTimer) : TeardownInvariant s' := by
  obtain ⟨_, ⟨⟨expires, armed, -⟩, rfl⟩, rfl⟩ := step
  apply inv.event
  · rfl
  · intro off
    unfold nsimDpllHoldoverTimerCb
    simp only
    split
    · simpa using off
    · exact off
  · intro _ off
    rw [off] at armed
    cases armed
  · intro cancelled armed
    apply inv.ubxTimer cancelled
    unfold nsimDpllHoldoverTimerCb at armed
    simp only at armed
    split at armed
    · simpa using armed
    · exact armed
  · rfl

/-- The notification timer queues the work, so its own cancelling has to come first. -/
theorem teardownInvariant_ntfTimer (inv : TeardownInvariant s) (step : s.Step t s' .ntfTimer) :
    TeardownInvariant s' := by
  obtain ⟨_, ⟨⟨expires, armed, -⟩, rfl⟩, rfl⟩ := step
  apply inv.event
  · rfl
  · intro off
    rw [off] at armed
    cases armed
  · intro cancelled
    have ordered := inv.ordered s.todo (List.suffix_refl _)
    have off := inv.ntfTimer fun pending => cancelled (ordered.timerBeforeWork pending)
    rw [off] at armed
    cases armed
  · exact inv.ubxTimer
  · rfl

theorem teardownInvariant_ubxTimer (inv : TeardownInvariant s) (step : s.Step t s' .ubxTimer) :
    TeardownInvariant s' := by
  obtain ⟨_, ⟨⟨expires, armed, -⟩, rfl⟩, rfl⟩ := step
  have frame : (nsimUbxTimerCb s.dpll t.mono t.real).1.ntfTimer = s.dpll.ntfTimer ∧
      (nsimUbxTimerCb s.dpll t.mono t.real).1.holdoverTimer = s.dpll.holdoverTimer ∧
      (nsimUbxTimerCb s.dpll t.mono t.real).1.ntfWork = s.dpll.ntfWork := by
    unfold nsimUbxTimerCb
    split <;> exact ⟨rfl, rfl, rfl⟩
  obtain ⟨ntf, holdover, queued⟩ := frame
  apply inv.event
  · rfl
  · exact fun off => ntf.trans off
  · exact fun _ off idle => ⟨holdover.trans off, queued.trans idle⟩
  · intro cancelled _
    exact inv.ubxTimer cancelled (Option.isSome_iff_exists.2 ⟨expires, armed⟩)
  · rfl

theorem teardownInvariant_ntfWork (inv : TeardownInvariant s) (step : s.Step t s' .ntfWork) :
    TeardownInvariant s' := by
  obtain ⟨_, ⟨-, rfl⟩, rfl⟩ := step
  exact inv.event rfl id (fun _ off _ => ⟨off, rfl⟩) inv.ubxTimer rfl

end Step

/-! ## The teardown's own steps -/

section Perform

variable {s : Teardown} {step : TeardownStep} {todo : List TeardownStep}

@[simp] theorem perform_todo : (s.perform step todo).todo = todo := by
  unfold Teardown.perform
  cases step <;> rfl

@[simp] theorem perform_opens : (s.perform step todo).opens = s.opens := by
  unfold Teardown.perform
  cases step <;> rfl

theorem perform_registered (other : step ≠ .deregisterGnss) :
    (s.perform step todo).registered = s.registered := by
  unfold Teardown.perform
  cases step <;> first | rfl | exact absurd rfl other

theorem perform_ntfTimer (other : step ≠ .cancelNtfTimer) :
    (s.perform step todo).dpll.ntfTimer = s.dpll.ntfTimer := by
  unfold Teardown.perform
  cases step with
  | cancelNtfTimer => exact absurd rfl other
  | deregisterGnss =>
    simp only
    split <;> rfl
  | _ => rfl

theorem perform_ntfWork (other : step ≠ .cancelNtfWork) :
    (s.perform step todo).dpll.ntfWork = s.dpll.ntfWork := by
  unfold Teardown.perform
  cases step with
  | cancelNtfWork => exact absurd rfl other
  | deregisterGnss =>
    simp only
    split <;> rfl
  | _ => rfl

/-- No step arms the holdover timer. -/
theorem perform_holdoverTimer (off : s.dpll.holdoverTimer = none) :
    (s.perform step todo).dpll.holdoverTimer = none := by
  unfold Teardown.perform
  cases step with
  | cancelHoldoverTimer => rfl
  | deregisterGnss =>
    simp only
    split <;> exact off
  | _ => exact off

/-- Only its own cancelling and the end of the device touch the UBX timer. -/
theorem perform_ubxTimer (cancels : step ≠ .cancelUbxTimer) (deregisters : step ≠ .deregisterGnss) :
    (s.perform step todo).dpll.ubxTimer = s.dpll.ubxTimer := by
  unfold Teardown.perform
  cases step <;> first | rfl | exact absurd rfl cancels | exact absurd rfl deregisters

/-- Deregistering a device disarms the UBX timer, if it runs only while the device is open. -/
theorem perform_deregisterGnss (open' : s.dpll.ubxTimer.isSome → 0 < s.opens) :
    (s.perform .deregisterGnss todo).dpll.ubxTimer = none := by
  show (if 0 < s.opens then nsimGnssClose s.dpll else s.dpll).ubxTimer = none
  split
  · rfl
  · rename_i closed
    exact Option.not_isSome_iff_eq_none.1 fun armed => closed (open' armed)

/-- The teardown's own step establishes what its cancelling is for. -/
theorem teardownInvariant_perform (inv : TeardownInvariant s) (next : s.todo = step :: todo)
    (disarmed : step = .cancelNtfWork → s.dpll.holdoverTimer = none) :
    TeardownInvariant (s.perform step todo) := by
  have suffix : todo <:+ s.todo := next ▸ List.suffix_cons step todo
  have ordered := inv.ordered s.todo (List.suffix_refl _)
  have before : ∀ other, other ∉ todo → step ≠ other → other ∉ s.todo := by
    intro other absent differs mem
    rw [next] at mem
    rcases List.mem_cons.1 mem with same | later
    · exact differs same.symm
    · exact absent later
  refine ⟨?_, ?_, ?_, ?_, ?_⟩
  · rw [perform_todo]
    exact fun rest more => inv.ordered rest (more.trans suffix)
  all_goals
    rw [perform_todo]
    intro absent
  · by_cases now : step = .cancelNtfTimer
    · subst now
      rfl
    · rw [perform_ntfTimer now]
      exact inv.ntfTimer (before _ absent now)
  · by_cases now : step = .cancelNtfWork
    · exact ⟨perform_holdoverTimer (disarmed now), now ▸ rfl⟩
    · obtain ⟨off, idle⟩ := inv.work (before _ absent now)
      exact ⟨perform_holdoverTimer off, (perform_ntfWork now).trans idle⟩
  · intro armed
    by_cases cancels : step = .cancelUbxTimer
    · subst cancels
      cases armed
    · have cancelled := before _ absent cancels
      by_cases deregisters : step = .deregisterGnss
      · subst deregisters
        rw [perform_deregisterGnss fun armed => (inv.ubxTimer cancelled armed).1] at armed
        cases armed
      · rw [perform_ubxTimer cancels deregisters] at armed
        rw [perform_opens, perform_registered deregisters]
        exact inv.ubxTimer cancelled armed
  · by_cases now : step = .deregisterGnss
    · subst now
      rfl
    · rw [perform_registered now]
      exact inv.registered (before _ absent now)

end Perform

/-! ## Whole teardowns -/

theorem teardownInvariant_step {s s' : Teardown} {t : Instant} {event : TeardownEvent}
    (inv : TeardownInvariant s) (step : s.Step t s' event) (harmless : s.Harmless (t, event)) :
    TeardownInvariant s' := by
  cases event with
  | teardown =>
    obtain ⟨action, todo, next, rfl⟩ := step
    apply teardownInvariant_perform inv next
    rintro rfl
    exact harmless (next ▸ rfl)
  | gnssOpen => exact teardownInvariant_gnssOpen inv step
  | gnssClose => exact teardownInvariant_gnssClose inv step
  | gnssWrite buf => exact teardownInvariant_gnssWrite inv step harmless
  | holdoverTimer => exact teardownInvariant_holdoverTimer inv step
  | ntfTimer => exact teardownInvariant_ntfTimer inv step
  | ubxTimer => exact teardownInvariant_ubxTimer inv step
  | ntfWork => exact teardownInvariant_ntfWork inv step

/-- A program that cancels everything, in an order that works. -/
structure Complete (program : List TeardownStep) : Prop where
  ordered : ∀ todo ∈ program.tails, WellOrdered todo
  ntfTimer : .cancelNtfTimer ∈ program
  work : .cancelNtfWork ∈ program
  ubxTimer : .cancelUbxTimer ∈ program
  gnss : .deregisterGnss ∈ program

instance (program : List TeardownStep) : Decidable (Complete program) :=
  decidable_of_iff ((∀ todo ∈ program.tails, WellOrdered todo) ∧ .cancelNtfTimer ∈ program ∧
    .cancelNtfWork ∈ program ∧ .cancelUbxTimer ∈ program ∧ .deregisterGnss ∈ program)
    ⟨fun h => ⟨h.1, h.2.1, h.2.2.1, h.2.2.2.1, h.2.2.2.2⟩, fun h => ⟨h.1, h.2, h.3, h.4, h.5⟩⟩

theorem complete_of_path : ∀ program ∈ teardownPaths, Complete program := by decide

theorem teardownInvariant_reachable {program : List TeardownStep} (complete : Complete program)
    {s : Teardown} (run : ((teardownSystem program).guard Teardown.Harmless).Reachable s) :
    TeardownInvariant s := by
  apply run.induct
  · rintro s ⟨-, rfl⟩
    exact ⟨fun todo suffix => complete.ordered todo ((List.mem_tails _ _).2 suffix),
      fun absent => absurd complete.ntfTimer absent, fun absent => absurd complete.work absent,
      fun absent => absurd complete.ubxTimer absent, fun absent => absurd complete.gnss absent⟩
  · rintro s ⟨t, event⟩ s' - inv ⟨step, harmless⟩
    exact teardownInvariant_step inv step harmless

/-- When only the freeing is left, everything is quiet. -/
theorem TeardownInvariant.quiet {s : Teardown} (inv : TeardownInvariant s)
    (last : s.todo = [.free]) : s.dpll.Quiet := by
  have absent : ∀ step, step ≠ .free → step ∉ s.todo := by
    intro step differs mem
    rw [last, List.mem_singleton] at mem
    exact differs mem
  obtain ⟨off, idle⟩ := inv.work (absent _ (by decide))
  refine ⟨off, inv.ntfTimer (absent _ (by decide)), ?_, idle⟩
  apply Option.not_isSome_iff_eq_none.1
  intro armed
  have registered := (inv.ubxTimer (absent _ (by decide)) armed).2
  rw [inv.registered (absent _ (by decide))] at registered
  cases registered

/-- No timer and no work outlives the DPLL in a teardown whose steps all meet the condition. -/
theorem teardown_quiet (program : List TeardownStep) (path : program ∈ teardownPaths) (s : Teardown)
    (run : ((teardownSystem program).guard Teardown.Harmless).Reachable s)
    (last : s.todo = [.free]) : s.dpll.Quiet :=
  (teardownInvariant_reachable (complete_of_path program path) run).quiet last

/-! ## Teardowns without other events -/

/-- The next step of the teardown. -/
def Teardown.pop (s : Teardown) : Teardown :=
  match s.todo with
  | [] => s
  | step :: todo => s.perform step todo

section Pop

variable {program : List TeardownStep} {C : Teardown → Instant × TeardownEvent → Prop}
  {s : Teardown}

theorem reachable_pop (run : ((teardownSystem program).guard C).Reachable s) (t : Instant)
    (meets : C s (t, .teardown)) : ((teardownSystem program).guard C).Reachable s.pop := by
  cases next : s.todo with
  | nil =>
    have popped : s.pop = s := by
      unfold Teardown.pop
      rw [next]
    rw [popped]
    exact run
  | cons step todo =>
    have popped : s.pop = s.perform step todo := by
      unfold Teardown.pop
      rw [next]
    exact run.step (a := (t, .teardown)) ⟨⟨step, todo, next, popped⟩, meets⟩

theorem reachable_iterate_pop (run : ((teardownSystem program).guard C).Reachable s) (t : Instant)
    (n : ℕ) (meets : ∀ k < n, C (Teardown.pop^[k] s) (t, .teardown)) :
    ((teardownSystem program).guard C).Reachable (Teardown.pop^[n] s) := by
  induction n with
  | zero => exact run
  | succ n ih =>
    rw [Function.iterate_succ_apply']
    exact reachable_pop (ih fun k lt => meets k (lt.trans n.lt_succ_self)) t
      (meets n n.lt_succ_self)

end Pop

/-- A DPLL with its GNSS device open, at the start of `nsim_dpll_exit`. -/
def openAtExit : Teardown := ⟨nsimGnssOpen (NsimDpll.started 0) 1, 1, true, nsimDpllExitSteps⟩

theorem teardown_quiet_openAtExit : (Teardown.pop^[13] openAtExit).dpll.Quiet := by
  refine teardown_quiet nsimDpllExitSteps (by decide) _ (reachable_iterate_pop ?_ ⟨2, ⟨0, 0⟩⟩ 13 ?_)
    (by decide)
  · exact .init ⟨rfl, rfl⟩
  · intro k lt
    interval_cases k <;> exact fun _ => rfl

/-- The state after the work is cancelled, a sentence without a fix and the rest of the exit. -/
def writtenDuringExit : Teardown :=
  Teardown.pop^[9] { Teardown.pop^[4] openAtExit with
    dpll := nsimApplyGgaFix (Teardown.pop^[4] openAtExit).dpll 3 0 }

/-- The error path entered with the holdover timer armed by such a sentence. -/
def writtenDuringInit : Teardown :=
  Teardown.pop^[11] ⟨nsimApplyGgaFix (nsimGnssOpen (NsimDpll.started 0) 1) 3 0, 1, true,
    nsimDpllInitUnwindSteps⟩

/-- A GNSS write between the cancelling and the end of the device leaves the holdover timer armed
and the work queued when the DPLL is freed; in the error path the timer is never cancelled. -/
theorem timers_outlive_the_dpll :
    ((teardownSystem nsimDpllExitSteps).Reachable writtenDuringExit ∧
      writtenDuringExit.todo = [.free] ∧ writtenDuringExit.dpll.holdoverTimer.isSome ∧
      writtenDuringExit.dpll.ntfWork) ∧
    (teardownSystem nsimDpllInitUnwindSteps).Reachable writtenDuringInit ∧
      writtenDuringInit.todo = [.free] ∧ writtenDuringInit.dpll.holdoverTimer.isSome := by
  refine ⟨⟨?_, by decide, by decide, by decide⟩, ?_, by decide, by decide⟩
  · have start : ((teardownSystem nsimDpllExitSteps).guard fun _ _ => True).Reachable
        openAtExit := .init ⟨rfl, rfl⟩
    have cancelled := reachable_iterate_pop start ⟨2, ⟨0, 0⟩⟩ 4 fun _ _ => trivial
    have write : ((teardownSystem nsimDpllExitSteps).guard fun _ _ => True).step
        (Teardown.pop^[4] openAtExit)
        (⟨3, ⟨0, 0⟩⟩, .gnssWrite (ascii "$GNGGA,,,,,,0,,*00"))
        { Teardown.pop^[4] openAtExit with
          dpll := nsimApplyGgaFix (Teardown.pop^[4] openAtExit).dpll 3 0 } :=
      ⟨⟨by decide, by decide, _, [ascii "$GNGGA,,,,,,0,,*00"], by decide, rfl⟩, trivial⟩
    exact (reachable_iterate_pop (cancelled.step write) ⟨4, ⟨0, 0⟩⟩ 9 fun _ _ => trivial).of_guard
  · have start : ((teardownSystem nsimDpllInitUnwindSteps).guard fun _ _ => True).Reachable
        ⟨nsimApplyGgaFix (nsimGnssOpen (NsimDpll.started 0) 1) 3 0, 1, true,
          nsimDpllInitUnwindSteps⟩ := .init ⟨rfl, rfl⟩
    exact (reachable_iterate_pop start ⟨4, ⟨0, 0⟩⟩ 11 fun _ _ => trivial).of_guard

end Netdevsim
