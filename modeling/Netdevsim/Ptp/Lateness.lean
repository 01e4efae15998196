import Netdevsim.Ptp.Extts
import Netdevsim.Ptp.Shift

/-!
# EXTTS timestamps and the lateness of the callback

The callback runs late and stamps the edge by going back from the PHC time it reads.  It goes back
by its lateness in TAI, while the PHC advanced by the lateness and the drift meanwhile; so the
timestamp is the PHC time at the edge up to that drift and one rounding.
-/

namespace Netdevsim

open FixedWidth

/-- TAI and MONOTONIC advance by the same time between the two readings. -/
def AdvanceTogether (first later : Clocks) : Prop :=
  first.mono.toNat + later.tai.toNat = later.mono.toNat + first.tai.toNat

instance (first later : Clocks) : Decidable (AdvanceTogether first later) :=
  inferInstanceAs (Decidable (_ = _))

/-- The TAI time of the delayed edge in the second of `clk`. -/
def edgeTai (phc : MockPhc) (clk : Clocks) : ℕ :=
  clk.tai.toNat / NSEC_PER_SEC * NSEC_PER_SEC + phc.delay

/-- The clocks at the delayed edge, since when the callback at `clk` is the first operation. -/
structure DelayedEdge (phc : MockPhc) (edge clk : Clocks) : Prop where
  tai : edge.tai.toNat = edgeTai phc clk
  together : AdvanceTogether edge clk
  untouched : phc.lastMonoNs ≤ edge.mono

/-- The PHC time at an instant, as the callback reads it. -/
def phcTimeAt (phc : MockPhc) (clk : Clocks) : UInt64 := (mockPhcReadLocked phc clk.mono).1

/-- How far the time `a` is ahead of `b`, for 64-bit times. -/
def ahead (a b : UInt64) : ℤ := (a - b).toInt64.toInt

/-- For times below `2 ^ 63` this is the difference. -/
theorem ahead_eq_sub {a b : UInt64} (left : a.toNat < 2 ^ 63) (right : b.toNat < 2 ^ 63) :
    ahead a b = a.toNat - b.toNat := by
  unfold ahead
  rw [UInt64.toInt64_sub, Int64.toInt_sub, toInt_toInt64_of_lt left, toInt_toInt64_of_lt right]
  exact bmod_of_fits64 ⟨by omega, by omega⟩

section OneCallback

variable {phc : MockPhc} {edge clk : Clocks} {event : PtpClockEvent}

/-- The lateness of an emitting callback covers the delay, and its event is stamped with the PHC
time less the rest of the lateness. -/
theorem exttsTimer_timestamp (emits : (mockPhcExttsTimer phc clk).2 = some event) :
    phc.delay ≤ clk.tai.toNat % NSEC_PER_SEC ∧ ∃ late : UInt64,
      late.toNat = clk.tai.toNat % NSEC_PER_SEC - phc.delay ∧
        event.timestamp = phcTimeAt phc clk - late := by
  have wakes := (exttsTimer_wake phc clk).1
  rw [emits, eq_comm, Option.isSome_some, wake_emits_iff] at wakes
  have covered := wakes.2.2
  refine ⟨covered, clk.tai - clk.tai / UInt64.ofNat NSEC_PER_SEC * UInt64.ofNat NSEC_PER_SEC -
    phc.delayNs, ?_, ?_⟩
  · rw [UInt64.toNat_sub_of_le, toNat_lateNs, toNat_delayNs]
    rw [UInt64.le_iff_toNat_le, toNat_lateNs, toNat_delayNs]
    exact covered
  · unfold mockPhcExttsTimer at emits
    simp only at emits
    split_ifs at emits
    cases emits
    rfl

/-- The callback runs its lateness after the edge. -/
theorem edge_add_lateness (emits : (mockPhcExttsTimer phc clk).2 = some event)
    (delayed : DelayedEdge phc edge clk) :
    edge.mono.toNat + (clk.tai.toNat % NSEC_PER_SEC - phc.delay) = clk.mono.toNat := by
  have covered := (exttsTimer_timestamp emits).1
  have tai := delayed.tai
  have together := delayed.together
  unfold edgeTai at tai
  unfold AdvanceTogether at together
  have whole := Nat.div_add_mod' clk.tai.toNat NSEC_PER_SEC
  omega

/-- Going back by the lateness arrives at the edge, plus the drift folded since. -/
theorem timestamp_ahead (emits : (mockPhcExttsTimer phc clk).2 = some event)
    (delayed : DelayedEdge phc edge clk) :
    ahead event.timestamp (phcTimeAt phc edge) = phc.codeDrift clk.mono - phc.codeDrift edge.mono := by
  obtain ⟨covered, late, lateNs, timestamp⟩ := exttsTimer_timestamp emits
  have lateness := edge_add_lateness emits delayed
  have elapsed : late = clk.mono - edge.mono := by
    rw [← UInt64.toNat_inj, toNat_sub_of_le (UInt64.le_iff_toNat_le.2 (by omega))]
    omega
  have offsets : (event.timestamp - phcTimeAt phc edge).toInt64 =
      (mockPhcReadLocked phc clk.mono).2.offsetNs - (mockPhcReadLocked phc edge.mono).2.offsetNs := by
    rw [timestamp, elapsed]
    unfold phcTimeAt mockPhcReadLocked
    simp only [UInt64.toInt64_sub, Int64.toInt64_toUInt64]
    grind
  have atCallback := codeDrift_bounds phc clk.mono
  have atEdge := codeDrift_bounds phc edge.mono
  unfold ahead
  rw [offsets, Int64.toInt_sub, readLocked_offsetNs, readLocked_offsetNs, Int.bmod_sub_bmod,
    Int.sub_bmod_bmod, add_sub_add_left_eq_sub]
  exact bmod_of_fits64 ⟨by omega, by omega⟩

/-- The code folds the exact drift up to the edge too. -/
theorem driftFits_before {first later : UInt64} (le : phc.lastMonoNs ≤ first) (after : first ≤ later)
    (fits : DriftFits phc later) : DriftFits phc first := by
  have before : phc.lastMonoNs.toNat ≤ first.toNat := le
  have between : first.toNat ≤ later.toNat := after
  rcases fits with still | ⟨small, product⟩
  · exact .inl still
  · right
    have nonneg : 0 ≤ phc.elapsed first := (elapsed_bounds le).1
    have shorter : phc.elapsed first ≤ phc.elapsed later := by
      unfold MockPhc.elapsed
      omega
    refine ⟨by omega, ?_⟩
    unfold Fits64 at *
    rcases le_total 0 phc.freqPpb.toInt with sign | sign
    · constructor <;> nlinarith
    · constructor <;> nlinarith

/-- The timestamp is the PHC time at the edge up to the drift since and one rounding. -/
theorem abs_timestamp_ahead_le (emits : (mockPhcExttsTimer phc clk).2 = some event)
    (delayed : DelayedEdge phc edge clk) (fits : DriftFits phc clk.mono) :
    |(ahead event.timestamp (phcTimeAt phc edge) : ℚ)| ≤
      (clk.tai.toNat % NSEC_PER_SEC - phc.delay : ℕ) * |(phc.freqPpb.toInt : ℚ)| / 10 ^ 9 + 1 := by
  have lateness := edge_add_lateness emits delayed
  generalize clk.tai.toNat % NSEC_PER_SEC - phc.delay = late at lateness ⊢
  have untouched := delayed.untouched
  have before : edge.mono ≤ clk.mono := UInt64.le_iff_toNat_le.2 (by omega)
  have later := UInt64.le_trans untouched before
  have drifted : ahead event.timestamp (phcTimeAt phc edge) =
      phc.drift clk.mono - phc.drift edge.mono := by
    rw [timestamp_ahead emits delayed, (codeDrift_eq_drift_iff later).2 fits,
      (codeDrift_eq_drift_iff untouched).2 (driftFits_before untouched before fits)]
  have split := abs_drift_split_le untouched before
  rw [show (clk.mono.toNat : ℤ) - edge.mono.toNat = late by omega, ← sub_sub, ← drifted] at split
  have rounded := abs_tdiv_mul_le (late * phc.freqPpb.toInt) (d := 1000000000) (by decide)
  rw [abs_mul, Nat.abs_cast] at rounded
  generalize ahead event.timestamp (phcTimeAt phc edge) = error at split ⊢
  generalize (late * phc.freqPpb.toInt).tdiv 1000000000 = quotient at split rounded
  have bound : (|error| - 1) * 1000000000 ≤ late * |phc.freqPpb.toInt| := by
    have triangle := abs_sub_abs_le_abs_sub error quotient
    nlinarith
  have bound' : (|(error : ℚ)| - 1) * 1000000000 ≤ late * |(phc.freqPpb.toInt : ℚ)| := by
    exact_mod_cast bound
  rw [← sub_le_iff_le_add, le_div_iff₀ (by norm_num)]
  norm_num
  exact bound'

end OneCallback

/-! ## A PHC that was parked -/

section Parked

variable {phc : MockPhc} {start clk : Clocks} {event : PtpClockEvent}

/-- A PHC that shows TAI stamps the edge with its TAI time. -/
theorem timestamp_parked (emits : (mockPhcExttsTimer phc clk).2 = some event)
    (untuned : phc.freqPpb = 0) (offset : phc.offsetNs = start.tai.toInt64 - start.mono.toInt64)
    (together : AdvanceTogether start clk) : event.timestamp.toNat = edgeTai phc clk := by
  obtain ⟨covered, late, lateNs, timestamp⟩ := exttsTimer_timestamp emits
  have shows : phcTimeAt phc clk = clk.tai := by
    have same : clk.mono + (start.tai - start.mono) = clk.tai := by
      unfold AdvanceTogether at together
      have bound := clk.tai.toNat_lt
      have bound' := start.mono.toNat_lt
      rw [← UInt64.toNat_inj, UInt64.toNat_add, UInt64.toNat_sub]
      omega
    unfold phcTimeAt mockPhcReadLocked
    simp only [untuned, ne_eq, not_true_eq_false, and_false, if_false]
    rw [offset, ← UInt64.toInt64_sub, ← UInt64.toInt64_add, same, UInt64.toUInt64_toInt64]
  have whole := Nat.div_add_mod' clk.tai.toNat NSEC_PER_SEC
  rw [timestamp, shows, UInt64.toNat_sub_of_le, lateNs]
  · unfold edgeTai
    omega
  · rw [UInt64.le_iff_toNat_le, lateNs]
    omega

/-- The timestamp of an event misses the PHC time of its edge by the drift since the edge and one
nanosecond at most, for 64-bit times and for times that fit; and an event of a PHC left alone since
EXTTS was enabled carries the TAI time of its edge. -/
theorem extts_timestamp_lateness :
    (∀ phc edge clk event, (mockPhcExttsTimer phc clk).2 = some event →
      DelayedEdge phc edge clk → DriftFits phc clk.mono →
      let late := clk.tai.toNat % NSEC_PER_SEC
      let bound : ℚ := (late - phc.delay : ℕ) * |(phc.freqPpb.toInt : ℚ)| / 10 ^ 9 + 1
      |(ahead event.timestamp (phcTimeAt phc edge) : ℚ)| ≤ bound ∧
        (event.timestamp.toNat < 2 ^ 63 → (phcTimeAt phc edge).toNat < 2 ^ 63 →
          |(event.timestamp.toNat - (phcTimeAt phc edge).toNat : ℚ)| ≤ bound)) ∧
    ∀ phc start index steps clk event, PhcOp.enablesExtts (.enable (.extts index) true) = true →
      steps.all (·.2.leavesTime) = true → AdvanceTogether start clk →
      let parked := phcAfter phc ((start, .enable (.extts index) true) :: steps)
      (mockPhcExttsTimer parked clk).2 = some event → event.timestamp.toNat = edgeTai parked clk := by
  constructor
  · intro phc edge clk event emits delayed fits late bound
    have close : |(ahead event.timestamp (phcTimeAt phc edge) : ℚ)| ≤ bound :=
      abs_timestamp_ahead_le emits delayed fits
    refine ⟨close, fun left right => ?_⟩
    rw [ahead_eq_sub left right] at close
    push_cast at close
    exact close
  · intro phc start index steps clk event accepted leaves together parked emits
    have enabled : (phcStep phc start (.enable (.extts index) true)).1.freqPpb = 0 ∧
        (phcStep phc start (.enable (.extts index) true)).1.offsetNs =
          start.tai.toInt64 - start.mono.toInt64 := by
      have inside : ¬N_EXT_TS ≤ index := by
        simpa [PhcOp.enablesExtts] using accepted
      simp only [phcStep, mockPhcEnable, if_neg inside]
      exact ⟨rfl, rfl⟩
    obtain ⟨untuned, offset⟩ := phcAfter_untuned enabled.1 leaves
    exact timestamp_parked emits untuned (offset.trans enabled.2) together

/-- The calls that park a PHC at TAI and delay its edges by half a second. -/
def parkAndDelay : List (Clocks × PhcOp) :=
  [(⟨1000, 37000001000⟩, .enable (.extts 0) true),
    (⟨2000, 37000002000⟩, .exttsDelayMsStore (ascii "500"))]

/-- A parked PHC that was then tuned to 1000 ppm and read. -/
def tunedAndRead : MockPhc :=
  phcAfter (mockPhcCreate ⟨0, 37000000000⟩) (parkAndDelay ++
    [(⟨3000, 37000003000⟩, .adjfine 65536000), (⟨500000000, 37500000000⟩, .gettime64)])

/-- The callback runs 3 ms after the delayed edge, on the tuned PHC and on the one left alone. -/
theorem extts_timestamp_lateness_3ms :
    |((38501502997 : ℕ) - (38501499997 : ℕ) : ℚ)| ≤ (3000000 : ℕ) * |((1000000 : ℤ) : ℚ)| / 10 ^ 9 + 1 ∧
      (38500000000 : UInt64).toNat =
        edgeTai (phcAfter (mockPhcCreate ⟨0, 37000000000⟩) parkAndDelay) ⟨1503000000, 38503000000⟩ := by
  constructor
  · exact (extts_timestamp_lateness.1 tunedAndRead ⟨1500000000, 38500000000⟩ ⟨1503000000, 38503000000⟩
      ⟨38501502997, 0⟩ (by decide) ⟨by decide, by decide, by decide⟩ (by decide)).2
        (by decide) (by decide)
  · exact extts_timestamp_lateness.2 (mockPhcCreate ⟨0, 37000000000⟩) ⟨1000, 37000001000⟩ 0
      [(⟨2000, 37000002000⟩, .exttsDelayMsStore (ascii "500"))] ⟨1503000000, 38503000000⟩
      ⟨38500000000, 0⟩ (by decide) rfl (by decide) (by decide)

end Parked

end Netdevsim
