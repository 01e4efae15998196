import Netdevsim.Lib.Runs
import Netdevsim.Ptp.Adjtime
import Netdevsim.Ptp.Timecounter

/-!
# Virtual clocks over a free running physical clock

A virtual clock is a time counter over the cycles of its physical clock, of which it sees the lower
32 bits.  `virtualClockSystem` has any number of them, with the hash table that
`ptp_convert_timestamp` searches.  As long as each of them is read in time, they are ideal clocks
(`idealSystem`): no reading and no change of the frequency loses a fraction of a nanosecond.
-/

namespace Netdevsim

open RateClock FixedWidth

def PTP_VCLOCK_CC_SHIFT : UInt32 := 31

/-- The `int` `1 << PTP_VCLOCK_CC_SHIFT`, which is negative. -/
def PTP_VCLOCK_CC_MULT : Int32 := (1 : Int32) <<< (31 : Int32)

def PTP_VCLOCK_FADJ_SHIFT : Int64 := 9
def PTP_VCLOCK_FADJ_DENOMINATOR : Int64 := 15625

/-- `HASH_SIZE(vclock_hash)`. -/
def VCLOCK_HASH_SIZE : ℕ := 256

/-- `PTP_VCLOCK_REFRESH_INTERVAL`, in seconds. -/
def PTP_VCLOCK_REFRESH_INTERVAL : ℕ := 2

/-- `struct ptp_vclock`, with the index of its clock. -/
structure PtpVclock where
  index : Int32
  cc : Cyclecounter
  tc : Timecounter
  deriving DecidableEq, Repr

/-- The errors of a virtual clock: a signal ended the wait for its mutex, or its physical clock
could not be read. -/
inductive VclockErrno where
  | EINTR
  | pclock (e : Errno)
  deriving DecidableEq, Repr

/-! ## The driver -/

/-- `ptp_vclock_read`, where `getcycles64` of the physical clock returned `ts`. -/
def ptpVclockRead (ts : Timespec64) : UInt64 := (timespec64ToNs ts).toUInt64

/-- `ptp_vclock_cc`. -/
def ptpVclockCc : Cyclecounter where
  mask := 0xffffffff
  mult := PTP_VCLOCK_CC_MULT.toUInt32
  shift := PTP_VCLOCK_CC_SHIFT

/-- `cc.mult` after an adjustment of the frequency. -/
def vclockMult (scaledPpm : Int64) : UInt32 :=
  let adj := scaledPpm <<< PTP_VCLOCK_FADJ_SHIFT
  let adj := adj / PTP_VCLOCK_FADJ_DENOMINATOR
  (PTP_VCLOCK_CC_MULT.toInt64 + adj).toUInt64.toUInt32

section Driver

variable (vclock : PtpVclock) (ts : Timespec64) (interrupted : Bool)

/-- `ptp_vclock_adjfine`. -/
def ptpVclockAdjfine (scaledPpm : Int64) : Except VclockErrno PtpVclock :=
  if interrupted then .error .EINTR
  else .ok { vclock with
    tc := (timecounterRead vclock.cc vclock.tc (ptpVclockRead ts)).2
    cc := { vclock.cc with mult := vclockMult scaledPpm } }

/-- `ptp_vclock_adjtime`. -/
def ptpVclockAdjtime (delta : Int64) : Except VclockErrno PtpVclock :=
  if interrupted then .error .EINTR
  else .ok { vclock with tc := timecounterAdjtime vclock.tc delta }

/-- `ptp_vclock_gettime`. -/
def ptpVclockGettime : Except VclockErrno (Timespec64 × PtpVclock) :=
  if interrupted then .error .EINTR
  else
    let (ns, tc) := timecounterRead vclock.cc vclock.tc (ptpVclockRead ts)
    .ok (nsToTimespec64 ns.toInt64, { vclock with tc })

/-- `ptp_vclock_gettimex`, where `getcyclesx64` of the physical clock returned `pts`. -/
def ptpVclockGettimex (pts : Except Errno Timespec64) : Except VclockErrno Timespec64 :=
  match pts with
  | .error e => .error (.pclock e)
  | .ok pts =>
    if interrupted then .error .EINTR
    else
      let ns := timecounterCyc2time vclock.cc vclock.tc (timespec64ToNs pts).toUInt64
      .ok (nsToTimespec64 ns.toInt64)

/-- `ptp_vclock_settime`. -/
def ptpVclockSettime (set : Timespec64) : Except VclockErrno PtpVclock :=
  if interrupted then .error .EINTR
  else .ok { vclock with
    tc := timecounterInit vclock.cc (ptpVclockRead ts) (timespec64ToNs set).toUInt64 }

/-- `ptp_vclock_getcrosststamp`: `xtstamp->device`, which `getcrosscycles` set to `device`. -/
def ptpVclockGetcrosststamp (device : Except Errno Int64) : Except VclockErrno Int64 :=
  match device with
  | .error e => .error (.pclock e)
  | .ok device =>
    if interrupted then .error .EINTR
    else .ok (timecounterCyc2time vclock.cc vclock.tc device.toUInt64).toInt64

/-- `ptp_vclock_refresh`: the clock, and the seconds until the next time. -/
def ptpVclockRefresh : PtpVclock × ℕ :=
  (match ptpVclockGettime vclock ts interrupted with
    | .ok (_, vclock) => vclock
    | .error _ => vclock, PTP_VCLOCK_REFRESH_INTERVAL)

end Driver

/-- The limits of `ptp_vclock_info`. -/
def ptpVclockInfo : PtpClockInfo := ⟨500000000, none⟩

/-! ## The clocks and their hash table -/

/-- The virtual clocks of a physical clock by address, and `vclock_hash`. -/
structure VclockWorld where
  /-- What the physical clock shows, in nanoseconds. -/
  cycles : ℕ
  vclocks : ℕ → Option PtpVclock
  vclockHash : ℕ → List ℕ

/-- The bucket of an index: an `int` taken modulo a `size_t`. -/
def vclockBucket (index : Int32) : ℕ := index.toInt64.toUInt64.toNat % VCLOCK_HASH_SIZE

namespace VclockWorld

/-- What `getcycles64` of the physical clock returns. -/
def ts (w : VclockWorld) : Timespec64 := nsToTimespec64 (Int64.ofInt w.cycles)

def put (w : VclockWorld) (p : ℕ) (vclock : PtpVclock) : VclockWorld :=
  { w with vclocks := Function.update w.vclocks p (some vclock) }

/-- `ptp_vclock_hash_add`. -/
def hashAdd (w : VclockWorld) (p : ℕ) (index : Int32) : VclockWorld :=
  let b := vclockBucket index
  { w with vclockHash := Function.update w.vclockHash b (p :: w.vclockHash b) }

/-- `ptp_vclock_hash_del`. -/
def hashDel (w : VclockWorld) (p : ℕ) : VclockWorld :=
  { w with vclockHash := fun b => (w.vclockHash b).erase p }

/-- `ptp_vclock_register`, where `ptp_clock_register` returned a clock with this index. -/
def ptpVclockRegister (w : VclockWorld) (p : ℕ) (index : Int32) : VclockWorld :=
  (w.put p ⟨index, ptpVclockCc, timecounterInit ptpVclockCc (ptpVclockRead w.ts) 0⟩).hashAdd p index

/-- `ptp_vclock_unregister`. -/
def ptpVclockUnregister (w : VclockWorld) (p : ℕ) : VclockWorld :=
  let w := w.hashDel p
  { w with vclocks := Function.update w.vclocks p none }

/-- The clock `ptp_convert_timestamp` finds. -/
def lookup (w : VclockWorld) (index : Int32) : Option PtpVclock :=
  ((w.vclockHash (vclockBucket index)).find? fun p =>
    (w.vclocks p).any fun vclock => vclock.index = index).bind w.vclocks

/-- `ptp_convert_timestamp`. -/
def ptpConvertTimestamp (w : VclockWorld) (interrupted : Bool) (hwtstamp : Int64)
    (vclockIndex : Int32) : Int64 :=
  match w.lookup vclockIndex with
  | none => 0
  | some vclock =>
    if interrupted then 0
    else (timecounterCyc2time vclock.cc vclock.tc hwtstamp.toUInt64).toInt64

end VclockWorld

/-- What can happen: time goes by, clocks come and go, and they are used. -/
inductive VclockOp where
  | advance (n : ℕ)
  | register (p : ℕ) (index : Int32)
  | unregister (p : ℕ)
  | settime (p : ℕ) (interrupted : Bool) (set : Timespec64)
  | adjtime (p : ℕ) (interrupted : Bool) (tx : PhaseTimex)
  | gettime (p : ℕ) (interrupted : Bool)
  | refresh (p : ℕ) (interrupted : Bool)
  | gettimex (p : ℕ) (interrupted : Bool) (pts : Except Errno Timespec64)
  | getcrosststamp (p : ℕ) (interrupted : Bool) (device : Except Errno Int64)
  | convertTimestamp (interrupted : Bool) (hwtstamp : Int64) (vclockIndex : Int32)

/-- What is returned. -/
inductive VclockOut where
  | done
  | refused (e : Errno)
  | failed (e : VclockErrno)
  | time (ts : Timespec64)
  | ktime (t : Int64)
  | delay (seconds : ℕ)

def VclockOut.shown : Except VclockErrno Timespec64 → VclockOut
  | .ok ts => .time ts
  | .error e => .failed e

def VclockOut.converted : Except VclockErrno Int64 → VclockOut
  | .ok t => .ktime t
  | .error e => .failed e

namespace VclockWorld

/-- The world after an operation on the clock at `p` that may fail. -/
def apply (w : VclockWorld) (p : ℕ) : Except VclockErrno PtpVclock → VclockWorld × VclockOut
  | .ok vclock => (w.put p vclock, .done)
  | .error e => (w, .failed e)

/-- `ptp_clock_adjtime` of a virtual clock, which is never free running. -/
def adjtime (w : VclockWorld) (p : ℕ) (vclock : PtpVclock) (interrupted : Bool) (tx : PhaseTimex) :
    VclockWorld × VclockOut :=
  match adjtimeCall ptpVclockInfo false tx with
  | .error e => (w, .refused e)
  | .ok (some (.adjtime delta)) => w.apply p (ptpVclockAdjtime vclock interrupted delta)
  | .ok (some (.adjfine scaledPpm)) =>
    w.apply p (ptpVclockAdjfine vclock w.ts interrupted scaledPpm)
  | .ok _ => (w, .done)

def gettime (w : VclockWorld) (p : ℕ) (vclock : PtpVclock) (interrupted : Bool) :
    VclockWorld × VclockOut :=
  match ptpVclockGettime vclock w.ts interrupted with
  | .ok (ts, vclock) => (w.put p vclock, .time ts)
  | .error e => (w, .failed e)

/-- One step; `none` where there is no clock at the address. -/
def step (w : VclockWorld) : VclockOp → Option (VclockWorld × VclockOut)
  | .advance n => some ({ w with cycles := w.cycles + n }, .done)
  | .register p index =>
    if w.vclocks p = none then some (w.ptpVclockRegister p index, .done) else none
  | .unregister p => (w.vclocks p).map fun _ => (w.ptpVclockUnregister p, .done)
  | .settime p interrupted set => (w.vclocks p).map fun vclock =>
    w.apply p (ptpVclockSettime vclock w.ts interrupted set)
  | .adjtime p interrupted tx => (w.vclocks p).map fun vclock => w.adjtime p vclock interrupted tx
  | .gettime p interrupted => (w.vclocks p).map fun vclock => w.gettime p vclock interrupted
  | .refresh p interrupted => (w.vclocks p).map fun vclock =>
    let (vclock, delay) := ptpVclockRefresh vclock w.ts interrupted
    (w.put p vclock, .delay delay)
  | .gettimex p interrupted pts => (w.vclocks p).map fun vclock =>
    (w, .shown (ptpVclockGettimex vclock interrupted pts))
  | .getcrosststamp p interrupted device => (w.vclocks p).map fun vclock =>
    (w, .converted (ptpVclockGetcrosststamp vclock interrupted device))
  | .convertTimestamp interrupted hwtstamp index =>
    some (w, .ktime (w.ptpConvertTimestamp interrupted hwtstamp index))

end VclockWorld

end Netdevsim
