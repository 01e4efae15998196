import Netdevsim.Lib.Runs
import Netdevsim.Lib.Store
import Netdevsim.Ptp.StepEffect

/-!
# The virtual clocks of a physical clock

`n_vclocks` counts the virtual clocks as long as no registration fails after another one succeeded
in the same write: `n_vclocks_store` then returns an error and leaves the new clocks uncounted.
-/

namespace Netdevsim

open Store

/-! ## Counting -/

/-- `n_vclocks` is the number of virtual clocks, and the index array lists them in the order they
were created. -/
structure VclocksCounted (ptp : PtpClock) : Prop where
  physical : ptp.isVirtualClock = false
  le : ptp.nVclocks ≤ ptp.maxVclocks
  room : ptp.vclockIndex.length = ptp.maxVclocks.toNat
  live : ptp.vclocks.length = ptp.nVclocks.toNat
  listed : ptp.vclockIndex.take ptp.nVclocks.toNat = ptp.vclocks

/-- A write of `n_vclocks` gets all the clocks it asks for, or none from the first one on. -/
def AllOrNone (ptp : PtpClock) (interrupted : Bool) (buf : Bytes)
    (attempts : List (Option Int32)) : Prop :=
  match kstrtouint buf 0 with
  | .error _ => True
  | .ok num => interrupted = true ∨ ptp.maxVclocks < num ∨ num ≤ ptp.nVclocks ∨
      (num - ptp.nVclocks).toNat ≤ (attempts.takeWhile Option.isSome).length ∨
      attempts.head?.join = none

/-- `ptp_clock_unregister` removes the virtual clocks that are in use. -/
def ptpClockUnregister (ptp : PtpClock) (interrupted : Bool) : PtpClock :=
  if ptpVclockInUse ptp interrupted then { ptp with vclocks := [] } else ptp

/-! ## Writes -/

section Writes

variable {ptp : PtpClock} {interrupted : Bool} {buf : Bytes} {attempts : List (Option Int32)}
  {num : UInt32}

/-- The indices of the attempts up to the first that fails. -/
def created (attempts : List (Option Int32)) : List Int32 :=
  (attempts.takeWhile Option.isSome).reduceOption

theorem created_cons_some (index : Int32) (attempts : List (Option Int32)) :
    created (some index :: attempts) = index :: created attempts := rfl

theorem length_created (attempts : List (Option Int32)) :
    (created attempts).length = (attempts.takeWhile Option.isSome).length := by
  induction attempts with
  | nil => rfl
  | cons attempt attempts ih =>
    cases attempt with
    | none => rfl
    | some index => exact congrArg (· + 1) ih

theorem created_eq_nil_iff : created attempts = [] ↔ attempts.head?.join = none := by
  match attempts with
  | [] => exact iff_of_true rfl rfl
  | none :: attempts => exact iff_of_true rfl rfl
  | some index :: attempts => exact iff_of_false nofun nofun

/-- As many clocks are registered as attempts succeed, at most as many as asked for. -/
theorem registerVclocks_eq (n : ℕ) (attempts : List (Option Int32)) :
    registerVclocks n attempts =
      ((created attempts).take n, decide (n ≤ (created attempts).length)) := by
  induction n generalizing attempts with
  | zero => simp [registerVclocks]
  | succ n ih =>
    match attempts with
    | [] => rfl
    | none :: attempts => rfl
    | some index :: attempts => simp [registerVclocks, ih, created_cons_some]

theorem setFrom_eq (xs : List Int32) (i : ℕ) (values : List Int32) :
    setFrom xs i values = storeFrom xs i values := by
  induction values generalizing xs i with
  | nil => rfl
  | cons v values ih => exact ih _ _

/-- Creating clocks: all of them are counted if enough attempts succeed, and none otherwise. -/
theorem nVclocksStore_more (parsed : kstrtouint buf 0 = .ok num) (go : interrupted = false)
    (le : num ≤ ptp.maxVclocks) (more : ptp.nVclocks < num) :
    nVclocksStore ptp interrupted buf attempts =
      let indices := (created attempts).take (num - ptp.nVclocks).toNat
      let ptp' := { ptp with
        vclocks := ptp.vclocks ++ indices
        vclockIndex := storeFrom ptp.vclockIndex ptp.nVclocks.toNat indices }
      if (num - ptp.nVclocks).toNat ≤ (created attempts).length then
        ({ ptp' with nVclocks := num }, none)
      else (ptp', some .EINVAL) := by
  unfold nVclocksStore
  rw [parsed]
  dsimp only
  rw [if_neg (by simp [go]), if_neg (UInt32.not_lt.2 le), if_pos more, registerVclocks_eq,
    setFrom_eq]
  simp only [decide_eq_true_eq]

/-- Deleting clocks, the last ones first. -/
theorem nVclocksStore_fewer (parsed : kstrtouint buf 0 = .ok num) (go : interrupted = false)
    (le : num ≤ ptp.maxVclocks) (fewer : num ≤ ptp.nVclocks) :
    nVclocksStore ptp interrupted buf attempts =
      let gone := (ptp.nVclocks - num).toNat
      ({ ptp with
        vclocks := ptp.vclocks.take (ptp.vclocks.length - gone)
        vclockIndex := storeFrom ptp.vclockIndex num.toNat (List.replicate gone (-1))
        nVclocks := num }, none) := by
  unfold nVclocksStore
  rw [parsed]
  dsimp only
  rw [if_neg (by simp [go]), if_neg (UInt32.not_lt.2 le), if_neg (UInt32.not_lt.2 fewer),
    setFrom_eq]

/-- Writes that are refused before the loops change nothing. -/
theorem nVclocksStore_refused
    (refused : ∀ num, kstrtouint buf 0 = .ok num → interrupted = true ∨ ptp.maxVclocks < num) :
    (nVclocksStore ptp interrupted buf attempts).1 = ptp := by
  unfold nVclocksStore
  cases parsed : kstrtouint buf 0 with
  | error e => rfl
  | ok num =>
    dsimp only
    by_cases stop : interrupted = true
    · rw [if_pos stop]
    · rw [if_neg stop, if_pos ((refused num parsed).resolve_left stop)]

theorem counted_more (counted : VclocksCounted ptp) (le : num ≤ ptp.maxVclocks)
    {indices : List Int32} (length : ptp.nVclocks.toNat + indices.length = num.toNat) :
    VclocksCounted { ptp with
      vclocks := ptp.vclocks ++ indices
      vclockIndex := storeFrom ptp.vclockIndex ptp.nVclocks.toNat indices
      nVclocks := num } where
  physical := counted.physical
  le := le
  room := (length_storeFrom _ _ _).trans counted.room
  live := by
    show (ptp.vclocks ++ indices).length = num.toNat
    rw [List.length_append, counted.live, length]
  listed := by
    have room := counted.room
    have bound : num.toNat ≤ ptp.maxVclocks.toNat := UInt32.le_iff_toNat_le.1 le
    show (storeFrom ptp.vclockIndex ptp.nVclocks.toNat indices).take num.toNat = _
    rw [← length, take_storeFrom (by omega), counted.listed]

theorem counted_fewer (counted : VclocksCounted ptp) (fewer : num ≤ ptp.nVclocks) :
    VclocksCounted { ptp with
      vclocks := ptp.vclocks.take (ptp.vclocks.length - (ptp.nVclocks - num).toNat)
      vclockIndex := storeFrom ptp.vclockIndex num.toNat
        (List.replicate (ptp.nVclocks - num).toNat (-1))
      nVclocks := num } := by
  have bound : num.toNat ≤ ptp.nVclocks.toNat := UInt32.le_iff_toNat_le.1 fewer
  have gone : (ptp.nVclocks - num).toNat = ptp.nVclocks.toNat - num.toNat :=
    UInt32.toNat_sub_of_le _ _ fewer
  have kept : ptp.vclocks.length - (ptp.nVclocks - num).toNat = num.toNat := by
    have live := counted.live
    omega
  constructor
  · exact counted.physical
  · exact UInt32.le_trans fewer counted.le
  · exact (length_storeFrom _ _ _).trans counted.room
  · show (ptp.vclocks.take _).length = num.toNat
    rw [kept, List.length_take, counted.live]
    omega
  · show (storeFrom ptp.vclockIndex num.toNat _).take num.toNat = ptp.vclocks.take _
    rw [take_storeFrom_of_le le_rfl, kept, ← counted.listed, List.take_take,
      Nat.min_eq_left bound]

/-- If the attempts do not suffice, the first one has to fail. -/
theorem allOrNone_iff_none (parsed : kstrtouint buf 0 = .ok num) (go : interrupted = false)
    (le : num ≤ ptp.maxVclocks) (more : ptp.nVclocks < num)
    (few : ¬(num - ptp.nVclocks).toNat ≤ (created attempts).length) :
    AllOrNone ptp interrupted buf attempts ↔ created attempts = [] := by
  unfold AllOrNone
  rw [parsed, ← length_created, created_eq_nil_iff]
  simp only [go, Bool.false_eq_true, UInt32.not_lt.2 le, UInt32.not_le.2 more, few, false_or]

/-- A write keeps the count exactly if it gets all the clocks it asks for, or none. -/
theorem counted_nVclocksStore_iff (counted : VclocksCounted ptp) :
    VclocksCounted (nVclocksStore ptp interrupted buf attempts).1 ↔
      AllOrNone ptp interrupted buf attempts := by
  cases parsed : kstrtouint buf 0 with
  | error e =>
    rw [nVclocksStore_refused fun num ok => nomatch parsed.symm.trans ok]
    refine iff_of_true counted ?_
    rw [AllOrNone, parsed]
    trivial
  | ok num =>
    have whole : AllOrNone ptp interrupted buf attempts ↔
        interrupted = true ∨ ptp.maxVclocks < num ∨ num ≤ ptp.nVclocks ∨
          (num - ptp.nVclocks).toNat ≤ (created attempts).length ∨ attempts.head?.join = none := by
      rw [AllOrNone, parsed, length_created]
    by_cases refused : interrupted = true ∨ ptp.maxVclocks < num
    · rw [nVclocksStore_refused fun num' ok => by
        cases parsed.symm.trans ok
        exact refused]
      exact iff_of_true counted (whole.2 (refused.imp_right .inl))
    obtain ⟨stop, above⟩ := not_or.1 refused
    have go : interrupted = false := by simpa using stop
    have le : num ≤ ptp.maxVclocks := UInt32.not_lt.1 above
    by_cases fewer : num ≤ ptp.nVclocks
    · rw [nVclocksStore_fewer parsed go le fewer]
      exact iff_of_true (counted_fewer counted fewer) (whole.2 (.inr (.inr (.inl fewer))))
    · have more : ptp.nVclocks < num := UInt32.not_le.1 fewer
      have asked : (num - ptp.nVclocks).toNat = num.toNat - ptp.nVclocks.toNat :=
        UInt32.toNat_sub_of_le _ _ (UInt32.le_of_lt more)
      have grows := UInt32.lt_iff_toNat_lt.1 more
      rw [nVclocksStore_more parsed go le more]
      dsimp only
      by_cases all : (num - ptp.nVclocks).toNat ≤ (created attempts).length
      · rw [if_pos all]
        have length : ptp.nVclocks.toNat +
            ((created attempts).take (num - ptp.nVclocks).toNat).length = num.toNat := by
          rw [List.length_take]
          omega
        exact iff_of_true (counted_more counted le length)
          (whole.2 (.inr (.inr (.inr (.inl all)))))
      · have short : (created attempts).take (num - ptp.nVclocks).toNat = created attempts :=
          List.take_of_length_le (by omega)
        rw [if_neg all, short, allOrNone_iff_none parsed go le more all]
        constructor
        · intro after
          have live : (ptp.vclocks ++ created attempts).length = ptp.nVclocks.toNat := after.live
          rw [List.length_append, counted.live] at live
          exact List.length_eq_zero_iff.1 (by omega)
        · intro none
          rw [none, List.append_nil]
          exact counted

/-- A write that returns an error, and did not stop half way, leaves the virtual clocks. -/
theorem vclocks_nVclocksStore (whole : AllOrNone ptp interrupted buf attempts) {e : Errno}
    (error : (nVclocksStore ptp interrupted buf attempts).2 = some e) :
    (nVclocksStore ptp interrupted buf attempts).1.vclocks = ptp.vclocks := by
  cases parsed : kstrtouint buf 0 with
  | error e' => rw [nVclocksStore_refused fun num ok => nomatch parsed.symm.trans ok]
  | ok num =>
    by_cases refused : interrupted = true ∨ ptp.maxVclocks < num
    · rw [nVclocksStore_refused fun num' ok => by
        cases parsed.symm.trans ok
        exact refused]
    obtain ⟨stop, above⟩ := not_or.1 refused
    have go : interrupted = false := by simpa using stop
    have le : num ≤ ptp.maxVclocks := UInt32.not_lt.1 above
    by_cases fewer : num ≤ ptp.nVclocks
    · rw [nVclocksStore_fewer parsed go le fewer] at error
      cases error
    · have more : ptp.nVclocks < num := UInt32.not_le.1 fewer
      rw [nVclocksStore_more parsed go le more] at error ⊢
      dsimp only at error ⊢
      by_cases all : (num - ptp.nVclocks).toNat ≤ (created attempts).length
      · rw [if_pos all] at error
        cases error
      · have none := (allOrNone_iff_none parsed go le more all).1 whole
        rw [if_neg all, none, List.take_nil, List.append_nil]

/-- A new array keeps the indices that are in use. -/
theorem counted_maxVclocksStore (counted : VclocksCounted ptp) (allocated : Bool) :
    VclocksCounted (maxVclocksStore ptp interrupted allocated buf).1 ∧
      (maxVclocksStore ptp interrupted allocated buf).1.vclocks = ptp.vclocks := by
  unfold maxVclocksStore
  cases kstrtouint buf 0 with
  | error e => exact ⟨counted, rfl⟩
  | ok max =>
    dsimp only
    split_ifs with zero same stop less failed
    · exact ⟨counted, rfl⟩
    · exact ⟨counted, rfl⟩
    · exact ⟨counted, rfl⟩
    · exact ⟨counted, rfl⟩
    · exact ⟨counted, rfl⟩
    · have le : ptp.nVclocks ≤ max := UInt32.not_lt.1 less
      have bound : ptp.nVclocks.toNat ≤ max.toNat := UInt32.le_iff_toNat_le.1 le
      have kept : (ptp.vclockIndex.take ptp.nVclocks.toNat).length = ptp.nVclocks.toNat := by
        rw [counted.listed, counted.live]
      refine ⟨⟨counted.physical, le, ?_, counted.live, ?_⟩, rfl⟩
      · show (_ ++ List.replicate _ _).length = max.toNat
        rw [List.length_append, List.length_replicate, kept]
        omega
      · show (_ ++ List.replicate _ _).take ptp.nVclocks.toNat = ptp.vclocks
        rw [List.take_append_of_le_length kept.ge, List.take_take, Nat.min_self, counted.listed]

end Writes

/-! ## Runs of the clock -/

/-- What can reach a physical clock after it was registered. -/
def vclockSystem : TransitionSystem PtpClock (Clocks × Bool × PtpCall) where
  init s := ∃ clk, s = ptpClockRegister clk
  step s a t := t = (ptpStep s a.1 a.2.1 a.2.2).1

/-- No write of `n_vclocks` stops half way. -/
def NotHalfWay (s : PtpClock) (a : Clocks × Bool × PtpCall) : Prop :=
  ∀ buf attempts, a.2.2 = .sysfs (.nVclocks buf attempts) → AllOrNone s a.2.1 buf attempts

section Runs

variable {s : PtpClock}

theorem vclocksCounted_register (clk : Clocks) : VclocksCounted (ptpClockRegister clk) where
  physical := rfl
  le := (by decide : (0 : UInt32) ≤ PTP_DEFAULT_MAX_VCLOCKS)
  room := List.length_replicate
  live := rfl
  listed := rfl

/-- Any call but a write of `n_vclocks` keeps the virtual clocks and their count. -/
theorem counted_other (counted : VclocksCounted s) {clk : Clocks} {interrupted : Bool}
    {call : PtpCall}
    (other : ∀ buf attempts, call ≠ .sysfs (.nVclocks buf attempts)) :
    VclocksCounted (ptpStep s clk interrupted call).1 ∧
      (ptpStep s clk interrupted call).1.vclocks = s.vclocks := by
  have effect := @ptpStep_effect s clk interrupted call
  generalize (ptpStep s clk interrupted call).1 = t at effect
  cases effect with
  | driver phc =>
    exact ⟨⟨counted.physical, counted.le, counted.room, counted.live, counted.listed⟩, rfl⟩
  | dial tx phc freq _ =>
    exact ⟨⟨counted.physical, counted.le, counted.room, counted.live, counted.listed⟩, rfl⟩
  | pinfunc pin func chan inside ok =>
    obtain ⟨pins, phc, rfl⟩ := setPinfunc_changes ok
    exact ⟨⟨counted.physical, counted.le, counted.room, counted.live, counted.listed⟩, rfl⟩
  | nVclocks buf attempts write => exact absurd write (other buf attempts)
  | maxVclocks allocated buf _ => exact counted_maxVclocksStore counted allocated

/-- A step counts the virtual clocks exactly if it does not stop half way. -/
theorem counted_step_iff (counted : VclocksCounted s) (clk : Clocks) (interrupted : Bool)
    (call : PtpCall) : VclocksCounted (ptpStep s clk interrupted call).1 ↔
      NotHalfWay s (clk, interrupted, call) := by
  by_cases write : ∃ buf attempts, call = .sysfs (.nVclocks buf attempts)
  · obtain ⟨buf, attempts, rfl⟩ := write
    refine (counted_nVclocksStore_iff counted).trans ⟨?_, fun whole => whole buf attempts rfl⟩
    rintro whole buf' attempts' same
    cases same
    exact whole
  · have other : ∀ buf attempts, call ≠ .sysfs (.nVclocks buf attempts) :=
      fun buf attempts same => write ⟨buf, attempts, same⟩
    exact iff_of_true (counted_other counted other).1 fun buf attempts same =>
      absurd same (other buf attempts)

/-- A call that returns an error leaves the virtual clocks, unless it stops half way. -/
theorem vclocks_of_error (counted : VclocksCounted s) {clk : Clocks} {interrupted : Bool}
    {call : PtpCall} (whole : NotHalfWay s (clk, interrupted, call)) {e : Errno}
    (error : (ptpStep s clk interrupted call).2 = some e) :
    (ptpStep s clk interrupted call).1.vclocks = s.vclocks := by
  by_cases write : ∃ buf attempts, call = .sysfs (.nVclocks buf attempts)
  · obtain ⟨buf, attempts, rfl⟩ := write
    exact vclocks_nVclocksStore (whole buf attempts rfl) error
  · exact (counted_other counted fun buf attempts same => write ⟨buf, attempts, same⟩).2

theorem vclocks_unregister (counted : VclocksCounted s) (interrupted : Bool) :
    (ptpClockUnregister s interrupted).vclocks = [] := by
  unfold ptpClockUnregister ptpVclockInUse
  split_ifs with used
  · rfl
  · -- not in use: there are none
    have zero : s.nVclocks = 0 := by
      by_contra some
      simp [counted.physical, some] at used
    have live := counted.live
    rw [zero] at live
    exact List.length_eq_zero_iff.1 live

theorem vclocksCounted_reachable (reach : (vclockSystem.guard NotHalfWay).Reachable s) :
    VclocksCounted s := by
  refine reach.induct ?_ ?_
  · rintro _ ⟨clk, rfl⟩
    exact vclocksCounted_register clk
  · rintro s a t - counted ⟨rfl, whole⟩
    exact (counted_step_iff counted _ _ _).2 whole

/-- As long as no write of `n_vclocks` stops half way, it counts the virtual clocks, a call that
returns an error leaves them, and unregistering the clock removes them all.  A write that does stop
half way makes the count wrong. -/
theorem n_vclocks_counts (s : PtpClock) :
    ((vclockSystem.guard NotHalfWay).Reachable s →
      VclocksCounted s ∧
      (∀ clk interrupted call e, NotHalfWay s (clk, interrupted, call) →
        (ptpStep s clk interrupted call).2 = some e →
          (ptpStep s clk interrupted call).1.vclocks = s.vclocks) ∧
      ∀ interrupted, (ptpClockUnregister s interrupted).vclocks = []) ∧
    ∀ clk interrupted call, VclocksCounted s → ¬NotHalfWay s (clk, interrupted, call) →
      ¬VclocksCounted (ptpStep s clk interrupted call).1 := by
  constructor
  · intro reach
    have counted := vclocksCounted_reachable reach
    exact ⟨counted, fun clk interrupted call e whole => vclocks_of_error counted whole,
      vclocks_unregister counted⟩
  · intro clk interrupted call counted half after
    exact half ((counted_step_iff counted clk interrupted call).1 after)

end Runs

/-- The second of two registrations fails: one clock is there, and none is counted. -/
theorem n_vclocks_miscounts : ¬∀ s, vclockSystem.Reachable s → VclocksCounted s := by
  intro always
  have start : vclockSystem.Reachable (ptpClockRegister ⟨0, 0⟩) := .init ⟨⟨0, 0⟩, rfl⟩
  have write := start.step
    (a := (⟨0, 0⟩, false, .sysfs (.nVclocks (ascii "2") [some 1, none]))) rfl
  exact absurd (always _ write).live (by decide)

end Netdevsim
