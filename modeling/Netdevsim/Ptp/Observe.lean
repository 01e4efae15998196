import Netdevsim.Ptp.RateLaw

/-!
# What a read does to later readings

Every read folds a drift rounded towards zero into the offset and drops the fraction.  Two runs
that differ by inserted reads therefore drift apart by up to one nanosecond for each of them
(`common_readings_close`), until the next `settime64` makes them equal again.  The offset a clock
would show at a later time (`MockPhc.offsetAt`) is the abstract clock of the comparison: a read
moves it by at most one nanosecond (`abs_offsetAt_read_sub_le`).
-/

namespace Netdevsim

open FixedWidth

/-! ## Calls without overflow -/

/-- The offset in nanoseconds that a read at `raw` would find. -/
def MockPhc.offsetAt (phc : MockPhc) (raw : UInt64) : ℤ := phc.offsetNs.toInt + phc.drift raw

/-- A read at `raw` overflows nowhere. -/
def ExactRead (phc : MockPhc) (raw : UInt64) : Prop :=
  DriftFits phc raw ∧ Fits64 (phc.offsetAt raw) ∧ Fits64 (raw.toNat + phc.offsetAt raw)

/-- The call is one of the four clock operations and overflows nowhere. -/
def ExactAt (phc : MockPhc) (clk : Clocks) : PhcOp → Prop
  | .gettime64 => ExactRead phc clk.mono
  | .settime64 ts => Fits64 ((timespec64ToNs ts).toInt - clk.mono.toNat)
  | .adjtime delta =>
    ExactRead phc clk.mono ∧ Fits64 (phc.offsetAt clk.mono + delta.toInt)
  | .adjfine scaledPpm => ExactRead phc clk.mono ∧ Fits64 (scaledPpm.toInt * 1000)
  | _ => False

instance (phc : MockPhc) (raw : UInt64) : Decidable (ExactRead phc raw) :=
  inferInstanceAs (Decidable (_ ∧ _))

instance (phc : MockPhc) (clk : Clocks) (op : PhcOp) : Decidable (ExactAt phc clk op) := by
  cases op <;> unfold ExactAt <;> infer_instance

theorem offsetNs_exactRead {phc : MockPhc} {raw : UInt64} (le : phc.lastMonoNs ≤ raw)
    (fits : ExactRead phc raw) :
    (mockPhcReadLocked phc raw).2.offsetNs.toInt = phc.offsetAt raw := by
  rw [readLocked_offsetNs, (codeDrift_eq_drift_iff le).2 fits.1]
  exact bmod_of_fits64 fits.2.1

/-- An exact reading is the monotonic time plus the offset. -/
theorem gettime64_exactRead {phc : MockPhc} {raw : UInt64} (le : phc.lastMonoNs ≤ raw)
    (fits : ExactRead phc raw) :
    (mockPhcGettime64 phc raw).1.ns = raw.toNat + phc.offsetAt raw := by
  rw [gettime64_ns]
  unfold MockPhc.timeNs
  rw [Int64.toInt_add, offsetNs_exactRead le fits, readLocked_lastMonoNs, toInt_toInt64,
    Int.bmod_add_bmod]
  exact bmod_of_fits64 fits.2.2

/-! ## The offset shown later -/

/-- Reading in between moves the offset shown later by at most one nanosecond. -/
theorem abs_offsetAt_read_sub_le {phc : MockPhc} {raw later : UInt64} (le : phc.lastMonoNs ≤ raw)
    (after : raw ≤ later) (fits : ExactRead phc raw) :
    |phc.offsetAt later - (mockPhcReadLocked phc raw).2.offsetAt later| ≤ 1 := by
  have offset := offsetNs_exactRead le fits
  have split := abs_drift_split_le le after
  have fresh : (mockPhcReadLocked phc raw).2.drift later =
      (((later.toNat : ℤ) - raw.toNat) * phc.freqPpb.toInt).tdiv 1000000000 := rfl
  unfold MockPhc.offsetAt at *
  rw [offset, fresh]
  convert split using 2
  ring

/-- The two clocks were last updated by `now`, run at one frequency, and from `now` on show offsets
at most `n` apart. -/
structure Close (n : ℕ) (now : UInt64) (p q : MockPhc) : Prop where
  lastLeft : p.lastMonoNs ≤ now
  lastRight : q.lastMonoNs ≤ now
  freq : p.freqPpb = q.freqPpb
  apart : ∀ later, now ≤ later → |p.offsetAt later - q.offsetAt later| ≤ n

theorem close_refl (phc : MockPhc) : Close 0 phc.lastMonoNs phc phc where
  lastLeft := UInt64.le_refl _
  lastRight := UInt64.le_refl _
  freq := rfl
  apart later _ := by simp

section Steps

variable {n : ℕ} {now : UInt64} {p q : MockPhc} {clk : Clocks}

/-- Clocks updated together keep the distance of their offsets, whatever their new frequency. -/
theorem close_of_offsets {raw : UInt64} (left : p.lastMonoNs = raw) (right : q.lastMonoNs = raw)
    (freq : p.freqPpb = q.freqPpb) (apart : |p.offsetNs.toInt - q.offsetNs.toInt| ≤ n) :
    Close n raw p q where
  lastLeft := left ▸ UInt64.le_refl _
  lastRight := right ▸ UInt64.le_refl _
  freq := freq
  apart later _ := by
    unfold MockPhc.offsetAt MockPhc.drift MockPhc.elapsed
    rw [left, right, freq, add_sub_add_right_eq_sub]
    exact apart

/-- An inserted read may part the clocks by one more nanosecond. -/
theorem close_extraRead (close : Close n now p q) (later : now ≤ clk.mono)
    (fits : ExactRead q clk.mono) :
    Close (n + 1) clk.mono p (phcStep q clk .gettime64).1 where
  lastLeft := UInt64.le_trans close.lastLeft later
  lastRight := UInt64.le_refl _
  freq := close.freq
  apart t after := by
    have before := close.apart t (UInt64.le_trans later after)
    have moved := abs_offsetAt_read_sub_le (UInt64.le_trans close.lastRight later) after fits
    have triangle := abs_sub_le (p.offsetAt t) (q.offsetAt t)
      ((mockPhcReadLocked q clk.mono).2.offsetAt t)
    push_cast
    exact triangle.trans (add_le_add before moved)

/-- A common read leaves the offsets as far apart as they were. -/
theorem read_apart (close : Close n now p q) (later : now ≤ clk.mono)
    (fits₁ : ExactRead p clk.mono) (fits₂ : ExactRead q clk.mono) :
    |(mockPhcReadLocked p clk.mono).2.offsetNs.toInt -
      (mockPhcReadLocked q clk.mono).2.offsetNs.toInt| ≤ n := by
  rw [offsetNs_exactRead (UInt64.le_trans close.lastLeft later) fits₁,
    offsetNs_exactRead (UInt64.le_trans close.lastRight later) fits₂]
  exact close.apart clk.mono later

/-- How far apart a common call can leave clocks that were `n` apart. -/
def apartAfter (n : ℕ) : PhcOp → ℕ
  | .settime64 _ => 0
  | _ => n

theorem close_common {op : PhcOp} (close : Close n now p q) (later : now ≤ clk.mono)
    (fits₁ : ExactAt p clk op) (fits₂ : ExactAt q clk op) :
    Close (apartAfter n op) clk.mono (phcStep p clk op).1 (phcStep q clk op).1 := by
  cases op with
  | gettime64 => exact close_of_offsets rfl rfl close.freq (read_apart close later fits₁ fits₂)
  | settime64 ts =>
    refine close_of_offsets rfl rfl rfl ?_
    simp [phcStep, mockPhcSettime64, apartAfter]
  | adjtime delta =>
    refine close_of_offsets rfl rfl close.freq ?_
    have apart := read_apart close later fits₁.1 fits₂.1
    have left := offsetNs_exactRead (UInt64.le_trans close.lastLeft later) fits₁.1
    have right := offsetNs_exactRead (UInt64.le_trans close.lastRight later) fits₂.1
    have sum₁ := fits₁.2
    have sum₂ := fits₂.2
    rw [← left] at sum₁
    rw [← right] at sum₂
    show |((mockPhcReadLocked p clk.mono).2.offsetNs + delta).toInt -
      ((mockPhcReadLocked q clk.mono).2.offsetNs + delta).toInt| ≤ n
    rw [toInt_add_of_fits sum₁, toInt_add_of_fits sum₂, add_sub_add_right_eq_sub]
    exact apart
  | adjfine scaledPpm =>
    exact close_of_offsets rfl rfl rfl (read_apart close later fits₁.1 fits₂.1)
  | enable rq on => exact fits₁.elim
  | exttsDelayMsStore buf => exact fits₁.elim
  | exttsTimer => exact fits₁.elim

end Steps

/-! ## Two runs -/

/-- A call of the second run: one the runs have in common, or an inserted read. -/
inductive Call where
  | common (clk : Clocks) (op : PhcOp)
  | extraRead (clk : Clocks)
  deriving DecidableEq, Repr

/-- The run without the inserted reads. -/
def firstRun (calls : List Call) : List (Clocks × PhcOp) :=
  calls.filterMap fun call => match call with
    | .common clk op => some (clk, op)
    | .extraRead _ => none

/-- The run with the inserted reads. -/
def secondRun (calls : List Call) : List (Clocks × PhcOp) :=
  calls.map fun call => match call with
    | .common clk op => (clk, op)
    | .extraRead clk => (clk, .gettime64)

/-- The number of inserted reads since the last common `settime64`, on top of `n`. -/
def extraReadsFrom (n : ℕ) : List Call → ℕ
  | [] => n
  | .common _ op :: calls => extraReadsFrom (apartAfter n op) calls
  | .extraRead _ :: calls => extraReadsFrom (n + 1) calls

def extraReads (calls : List Call) : ℕ := extraReadsFrom 0 calls

/-- Clocks that start close give close readings after the two runs. -/
theorem readings_close (calls : List Call) (clk : Clocks) (n : ℕ) (now : UInt64) (p q : MockPhc)
    (close : Close n now p q) (mono : MonoFrom now (secondRun calls ++ [(clk, .gettime64)]))
    (exact₁ : EveryStep ExactAt p (firstRun calls ++ [(clk, .gettime64)]))
    (exact₂ : EveryStep ExactAt q (secondRun calls ++ [(clk, .gettime64)])) :
    |(mockPhcGettime64 (phcRun p (firstRun calls)).1 clk.mono).1.ns -
      (mockPhcGettime64 (phcRun q (secondRun calls)).1 clk.mono).1.ns| ≤
        extraReadsFrom n calls := by
  induction calls generalizing n now p q with
  | nil =>
    have later : now ≤ clk.mono := (List.isChain_cons_cons.1 mono).1
    simp only [firstRun, secondRun, List.filterMap_nil, List.map_nil, phcRun]
    rw [gettime64_exactRead (UInt64.le_trans close.lastLeft later) exact₁.1,
      gettime64_exactRead (UInt64.le_trans close.lastRight later) exact₂.1,
      add_sub_add_left_eq_sub]
    exact close.apart clk.mono later
  | cons call calls ih =>
    obtain ⟨later, mono⟩ := List.isChain_cons_cons.1 mono
    cases call with
    | common clk' op =>
      exact ih _ clk'.mono _ _ (close_common close later exact₁.1 exact₂.1) mono exact₁.2 exact₂.2
    | extraRead clk' =>
      exact ih _ clk'.mono _ _ (close_extraRead close later exact₂.1) mono exact₁ exact₂.2

/-- A reading two runs have in common differs by at most one nanosecond for every read inserted
before it since the last `settime64`. -/
theorem common_readings_close (phc : MockPhc) (calls : List Call) (clk : Clocks)
    (mono : MonoFrom phc.lastMonoNs (secondRun calls ++ [(clk, .gettime64)]))
    (exact₁ : EveryStep ExactAt phc (firstRun calls ++ [(clk, .gettime64)]))
    (exact₂ : EveryStep ExactAt phc (secondRun calls ++ [(clk, .gettime64)])) :
    |(mockPhcGettime64 (phcRun phc (firstRun calls)).1 clk.mono).1.ns -
      (mockPhcGettime64 (phcRun phc (secondRun calls)).1 clk.mono).1.ns| ≤ extraReads calls :=
  readings_close calls clk 0 phc.lastMonoNs phc phc (close_refl phc) mono exact₁ exact₂

/-- Reads inserted after 1, 2, 3, 4 and 5 nanoseconds. -/
def fiveReads : List Call :=
  [.extraRead ⟨1, 1⟩, .extraRead ⟨2, 2⟩, .extraRead ⟨3, 3⟩, .extraRead ⟨4, 4⟩, .extraRead ⟨5, 5⟩]

theorem common_readings_close_fiveReads :
    |(mockPhcGettime64 (phcRun tunedClock (firstRun fiveReads)).1 6).1.ns -
      (mockPhcGettime64 (phcRun tunedClock (secondRun fiveReads)).1 6).1.ns| ≤ 5 :=
  common_readings_close tunedClock fiveReads ⟨6, 6⟩ (by unfold MonoFrom; decide) (by decide)
    (by decide)

/-- One nanosecond does not bound the difference: the reading at 6 ns is 9 ns in the first run and
6 ns in the second. -/
theorem five_reads_part_by_three :
    MonoFrom tunedClock.lastMonoNs (secondRun fiveReads ++ [(⟨6, 6⟩, .gettime64)]) ∧
      EveryStep ExactAt tunedClock (firstRun fiveReads ++ [(⟨6, 6⟩, .gettime64)]) ∧
      EveryStep ExactAt tunedClock (secondRun fiveReads ++ [(⟨6, 6⟩, .gettime64)]) ∧
      ¬ |(mockPhcGettime64 (phcRun tunedClock (firstRun fiveReads)).1 6).1.ns -
        (mockPhcGettime64 (phcRun tunedClock (secondRun fiveReads)).1 6).1.ns| ≤ 1 := by
  refine ⟨?_, by decide, by decide, by decide⟩
  unfold MonoFrom
  decide

end Netdevsim
