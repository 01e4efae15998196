import Netdevsim.Ptp.MockPhc

/-!
# The PTP clock in front of the mock PHC

`PtpClock` is `struct ptp_clock` with the mock PHC as its driver.  This file embeds the user's ways
to reach the driver: the posix clock calls (`ptpClockSettime`, `ptpClockAdjtime`), the ioctls of the
character device (`ptpIoctl`) and the attributes in sysfs (`sysfsStore`).  Data copied to user space
is not part of the state and is left out; a failed copy from user space, an interrupted wait for a
mutex and the outcome of an allocation are arguments.
-/

namespace Netdevsim

/-! ## Pins -/

def PTP_PF_NONE : UInt32 := 0
def PTP_PF_EXTTS : UInt32 := 1
def PTP_PF_PEROUT : UInt32 := 2
def PTP_PF_PHYSYNC : UInt32 := 3

/-- `struct ptp_pin_desc`.  `func` is user input: not every value names a function. -/
structure PtpPinDesc where
  name : String
  func : UInt32
  chan : UInt32
  deriving DecidableEq, Repr

/-- The callbacks and limits `ptp_set_pinfunc` uses, for a driver with state `δ`. -/
structure PinDriver (δ : Type) where
  nExtTs : UInt32
  nPerOut : UInt32
  /-- The driver refuses the function on the pin. -/
  verify : δ → (pin func chan : UInt32) → Bool
  /-- The state after `enable(rq, 0)`, whatever it returned. -/
  disable : δ → PtpClockRequest → δ

section PinFunctions

variable {δ : Type} (ops : PinDriver δ)

/-- `ptp_disable_pinfunc`; its result is ignored by the only caller. -/
def ptpDisablePinfunc (d : δ) (func chan : UInt32) : δ :=
  if func = PTP_PF_EXTTS then ops.disable d (.extts chan)
  else if func = PTP_PF_PEROUT then ops.disable d (.perout chan)
  else d

/-- The check of the desired function and channel. -/
def pinfuncAllowed (func chan : UInt32) : Bool :=
  if func = PTP_PF_NONE then true
  else if func = PTP_PF_EXTTS then chan < ops.nExtTs
  else if func = PTP_PF_PEROUT then chan < ops.nPerOut
  else if func = PTP_PF_PHYSYNC then chan = 0
  else false

/-- `ptp_set_pinfunc`.  The first pin that already has the function gives it up. -/
def ptpSetPinfunc (pins : List PtpPinDesc) (d : δ) (pin func chan : UInt32) :
    Except Errno (List PtpPinDesc × δ) :=
  let pin₁ := pins.findIdx? fun p => p.func = func ∧ p.chan = chan
  if pin₁ = some pin.toNat then .ok (pins, d)
  else if !pinfuncAllowed ops func chan then .error .EINVAL
  else if ops.verify d pin func chan then .error .EOPNOTSUPP
  else
    let (pins, d) := match pin₁ with
      | some i => (pins.modify i fun p => { p with func := PTP_PF_NONE, chan := 0 },
          ptpDisablePinfunc ops d func chan)
      | none => (pins, d)
    match pins[pin.toNat]? with
    | none => .ok (pins, d)
    | some p => .ok (pins.set pin.toNat { p with func := func, chan := chan },
        ptpDisablePinfunc ops d p.func p.chan)

end PinFunctions

/-! ## The clock -/

/-- `struct ptp_clock`: what the modelled calls read and write. -/
structure PtpClock where
  /-- `info` and the driver behind it. -/
  phc : MockPhc
  pinConfig : List PtpPinDesc
  dialedFrequency : Int64
  maxVclocks : UInt32
  nVclocks : UInt32
  vclockIndex : List Int32
  /-- The indices of the virtual clocks registered under this clock, oldest first. -/
  vclocks : List Int32
  isVirtualClock : Bool
  hasCycles : Bool
  deriving DecidableEq, Repr

def PTP_DEFAULT_MAX_VCLOCKS : UInt32 := 20
def MOCK_N_PER_OUT : UInt32 := 0

/-- The pins `mock_phc_create` sets up. -/
def mockPhcPins : List PtpPinDesc :=
  ⟨"GNSS-1PPS", PTP_PF_EXTTS, 0⟩ ::
    ["SMA1", "SMA2", "U.FL1", "U.FL2"].map fun name => ⟨name, PTP_PF_NONE, 0⟩

/-- The mock driver as seen by `ptp_set_pinfunc`: `mock_phc_verify` accepts everything. -/
def mockPinDriver (clk : Clocks) : PinDriver MockPhc where
  nExtTs := N_EXT_TS
  nPerOut := MOCK_N_PER_OUT
  verify _ _ _ _ := false
  disable phc rq := (orUnchanged phc (mockPhcEnable phc clk rq false)).1

/-- The physical clock `ptp_clock_register` makes of a fresh mock PHC.  The mock driver has neither
`getcycles64` nor `getcyclesx64`. -/
def ptpClockRegister (clk : Clocks) : PtpClock where
  phc := mockPhcCreate clk
  pinConfig := mockPhcPins
  dialedFrequency := 0
  maxVclocks := PTP_DEFAULT_MAX_VCLOCKS
  nVclocks := 0
  vclockIndex := List.replicate PTP_DEFAULT_MAX_VCLOCKS.toNat 0
  vclocks := []
  isVirtualClock := false
  hasCycles := false

/-- `ptp_vclock_in_use`.  An interrupted wait for the mutex counts as in use. -/
def ptpVclockInUse (ptp : PtpClock) (interrupted : Bool) : Bool :=
  interrupted || (!ptp.isVirtualClock && ptp.nVclocks ≠ 0)

/-- `ptp_clock_freerun`. -/
def ptpClockFreerun (ptp : PtpClock) (interrupted : Bool) : Bool :=
  !ptp.hasCycles && ptpVclockInUse ptp interrupted

/-! ## The posix clock -/

def ADJ_OFFSET : UInt32 := 0x0001
def ADJ_FREQUENCY : UInt32 := 0x0002
def ADJ_SETOFFSET : UInt32 := 0x0100
def ADJ_NANO : UInt32 := 0x2000

/-- `struct __kernel_timex`: the fields `ptp_clock_adjtime` reads. -/
structure KernelTimex where
  modes : UInt32
  tvSec : Int64
  tvUsec : Int64
  freq : Int64
  deriving DecidableEq, Repr

/-- `scaled_ppm_to_ppb`. -/
def scaledPpmToPpb (ppm : Int64) : Int64 := ((1 + ppm) * 125) >>> 13

/-- The frequency is one `ptp_clock_adjtime` accepts. -/
def freqAccepted (freq : Int64) : Bool :=
  (scaledPpmToPpb freq).toInt ≤ MOCK_PHC_MAX_ADJ_PPB ∧
    -MOCK_PHC_MAX_ADJ_PPB ≤ (scaledPpmToPpb freq).toInt

/-- `ptp_clock_settime`. -/
def ptpClockSettime (ptp : PtpClock) (clk : Clocks) (interrupted : Bool) (ts : Timespec64) :
    Except Errno PtpClock :=
  if ptpClockFreerun ptp interrupted then .error .EBUSY
  else .ok { ptp with phc := mockPhcSettime64 ptp.phc clk.mono ts }

/-- `ptp_clock_gettime`; the mock driver has no `gettimex64`. -/
def ptpClockGettime (ptp : PtpClock) (clk : Clocks) : PtpClock :=
  { ptp with phc := (mockPhcGettime64 ptp.phc clk.mono).2 }

/-- `ptp_clock_adjtime`; the mock driver has no `adjphase`. -/
def ptpClockAdjtime (ptp : PtpClock) (clk : Clocks) (interrupted : Bool) (tx : KernelTimex) :
    Except Errno PtpClock :=
  if ptpClockFreerun ptp interrupted then .error .EBUSY
  else if tx.modes &&& ADJ_SETOFFSET ≠ 0 then
    let tvNsec := if tx.modes &&& ADJ_NANO ≠ 0 then tx.tvUsec else tx.tvUsec * 1000
    if NSEC_PER_SEC ≤ tvNsec.toUInt64.toNat then .error .EINVAL
    else
      let delta := timespec64ToKtime ⟨tx.tvSec, tvNsec⟩
      .ok { ptp with phc := mockPhcAdjtime ptp.phc clk.mono delta }
  else if tx.modes &&& ADJ_FREQUENCY ≠ 0 then
    if !freqAccepted tx.freq then .error .ERANGE
    else .ok { ptp with
      phc := mockPhcAdjfine ptp.phc clk.mono tx.freq
      dialedFrequency := tx.freq }
  else if tx.modes &&& ADJ_OFFSET ≠ 0 then .error .EOPNOTSUPP
  else if tx.modes = 0 then .ok ptp
  else .error .EOPNOTSUPP

/-! ## The character device -/

def PTP_ENABLE_FEATURE : UInt32 := 1
def PTP_EXTTS_EDGES : UInt32 := 0x6
def PTP_STRICT_FLAGS : UInt32 := 0x8
def PTP_EXTTS_VALID_FLAGS : UInt32 := 0x1f
def PTP_EXTTS_V1_VALID_FLAGS : UInt32 := 0x7
def PTP_PEROUT_DUTY_CYCLE : UInt32 := 0x2
def PTP_PEROUT_PHASE : UInt32 := 0x4
def PTP_PEROUT_VALID_FLAGS : UInt32 := 0x7
def PTP_MAX_SAMPLES : UInt32 := 25
def PTP_MAX_CHANNELS : UInt32 := 2048

/-- `struct ptp_extts_request`. -/
structure PtpExttsRequest where
  index : UInt32
  flags : UInt32
  rsv₀ : UInt32
  rsv₁ : UInt32
  deriving DecidableEq, Repr

/-- `struct ptp_perout_request`.  The `on` time and the four reserved words are one union. -/
structure PtpPeroutRequest where
  phaseSec : Int64
  phaseNsec : UInt32
  periodSec : Int64
  periodNsec : UInt32
  index : UInt32
  flags : UInt32
  onSec : Int64
  onNsec : UInt32
  onReserved : UInt32
  deriving DecidableEq, Repr

/-- The ioctls, each with what it copies from user space: `none` is a failed copy.  `v2` tells the
second version of a request from the first. -/
inductive PtpIoctl where
  | clockGetcaps
  | exttsRequest (v2 : Bool) (req : Option PtpExttsRequest)
  | peroutRequest (v2 : Bool) (req : Option PtpPeroutRequest)
  | enablePps (capable : Bool)
  | sysOffsetPrecise
  | sysOffsetExtended
  /-- `reads` are the monotonic times at which the samples of the PHC are taken. -/
  | sysOffset (nSamples : Option UInt32) (reads : List UInt64)
  | pinGetfunc (v2 : Bool) (pin : Option (UInt32 × Bool))
  /-- Pin index, function, channel and whether a reserved word is set. -/
  | pinSetfunc (v2 : Bool) (pin : Option (UInt32 × UInt32 × UInt32 × Bool))
  | maskClearAll
  | maskEnSingle (channel : Option UInt32)
  | other
  deriving DecidableEq, Repr

/-- The checks of `PTP_EXTTS_REQUEST` and `PTP_EXTTS_REQUEST2`, down to whether to enable. -/
def exttsRequestCheck (v2 : Bool) (req : PtpExttsRequest) : Except Errno Bool :=
  let flags := if v2 then req.flags ||| PTP_STRICT_FLAGS else req.flags &&& PTP_EXTTS_V1_VALID_FLAGS
  if v2 ∧ (flags &&& ~~~PTP_EXTTS_VALID_FLAGS ≠ 0 ∨ req.rsv₀ ≠ 0 ∨ req.rsv₁ ≠ 0) then .error .EINVAL
  else if v2 ∧ flags &&& PTP_ENABLE_FEATURE ≠ 0 ∧ flags &&& PTP_EXTTS_EDGES = 0 then .error .EINVAL
  else if N_EXT_TS ≤ req.index then .error .EINVAL
  else .ok (flags &&& PTP_ENABLE_FEATURE ≠ 0)

/-- The checks of `PTP_PEROUT_REQUEST` and `PTP_PEROUT_REQUEST2`.  The mock driver has no periodic
output, so the bound on the index rejects every request that gets there. -/
def peroutRequestCheck (v2 : Bool) (req : PtpPeroutRequest) : Errno :=
  let dutyCycle := req.flags &&& PTP_PEROUT_DUTY_CYCLE ≠ 0
  if v2 ∧ req.flags &&& ~~~PTP_PEROUT_VALID_FLAGS ≠ 0 then .EINVAL
  else if v2 ∧ ¬ dutyCycle ∧ (req.onSec ≠ 0 ∨ req.onNsec ≠ 0 ∨ req.onReserved ≠ 0) then .EINVAL
  else if v2 ∧ dutyCycle ∧ (req.periodSec < req.onSec ∨
      (req.onSec = req.periodSec ∧ req.periodNsec < req.onNsec)) then .ERANGE
  else if v2 ∧ req.flags &&& PTP_PEROUT_PHASE ≠ 0 ∧ (req.periodSec < req.phaseSec ∨
      (req.phaseSec = req.periodSec ∧ req.periodNsec ≤ req.phaseNsec)) then .ERANGE
  else .EINVAL

/-- `ops->enable` reached from the clock. -/
def PtpClock.enable (ptp : PtpClock) (clk : Clocks) (rq : PtpClockRequest) (on : Bool) :
    Except Errno PtpClock :=
  (mockPhcEnable ptp.phc clk rq on).map fun phc => { ptp with phc := phc }

/-- `ptp_set_pinfunc` on the clock. -/
def PtpClock.setPinfunc (ptp : PtpClock) (clk : Clocks) (pin func chan : UInt32) :
    Except Errno PtpClock :=
  (ptpSetPinfunc (mockPinDriver clk) ptp.pinConfig ptp.phc pin func chan).map
    fun r => { ptp with pinConfig := r.1, phc := r.2 }

/-- `ptp_ioctl`.  The bits of the reader's channel mask belong to the open file, not to the
clock. -/
def ptpIoctl (ptp : PtpClock) (clk : Clocks) (interrupted : Bool) : PtpIoctl → Except Errno PtpClock
  | .clockGetcaps => .ok ptp
  | .exttsRequest _ none => .error .EFAULT
  | .exttsRequest v2 (some req) =>
    match exttsRequestCheck v2 req with
    | .error e => .error e
    | .ok on =>
      if interrupted then .error .ERESTARTSYS else ptp.enable clk (.extts req.index) on
  | .peroutRequest _ none => .error .EFAULT
  | .peroutRequest v2 (some req) => .error (peroutRequestCheck v2 req)
  | .enablePps capable =>
    if !capable then .error .EPERM
    else if interrupted then .error .ERESTARTSYS
    else ptp.enable clk .pps true
  | .sysOffsetPrecise => .error .EOPNOTSUPP
  | .sysOffsetExtended => .error .EOPNOTSUPP
  | .sysOffset none _ => .error .EFAULT
  | .sysOffset (some n) reads =>
    if PTP_MAX_SAMPLES < n then .error .EINVAL
    else .ok { ptp with phc :=
      (reads.take n.toNat).foldl (fun phc raw => (mockPhcGettime64 phc raw).2) ptp.phc }
  | .pinGetfunc _ none => .error .EFAULT
  | .pinGetfunc v2 (some (pin, rsv)) =>
    if v2 ∧ rsv then .error .EINVAL
    else if ptp.pinConfig.length ≤ pin.toNat then .error .EINVAL
    else if interrupted then .error .ERESTARTSYS
    else .ok ptp
  | .pinSetfunc _ none => .error .EFAULT
  | .pinSetfunc v2 (some (pin, func, chan, rsv)) =>
    if v2 ∧ rsv then .error .EINVAL
    else if ptp.pinConfig.length ≤ pin.toNat then .error .EINVAL
    else if interrupted then .error .ERESTARTSYS
    else ptp.setPinfunc clk pin func chan
  | .maskClearAll => .ok ptp
  | .maskEnSingle none => .error .EFAULT
  | .maskEnSingle (some channel) =>
    if PTP_MAX_CHANNELS ≤ channel then .error .EFAULT else .ok ptp
  | .other => .error .ENOTTY

/-! ## sysfs -/

/-- The virtual clocks `n_vclocks_store` registers: one attempt per wanted clock, the first failure
ends the loop.  Each attempt is the index of the new clock, or `none`. -/
def registerVclocks : ℕ → List (Option Int32) → List Int32 × Bool
  | 0, _ => ([], true)
  | _ + 1, [] => ([], false)
  | _ + 1, none :: _ => ([], false)
  | n + 1, some index :: attempts =>
    let (indices, done) := registerVclocks n attempts
    (index :: indices, done)

/-- Write `values` into `xs` from position `i` on. -/
def setFrom (xs : List Int32) (i : ℕ) : List Int32 → List Int32
  | [] => xs
  | v :: values => setFrom (xs.set i v) (i + 1) values

/-- `n_vclocks_store`. -/
def nVclocksStore (ptp : PtpClock) (interrupted : Bool) (buf : Bytes)
    (attempts : List (Option Int32)) : PtpClock × Option Errno :=
  match kstrtouint buf 0 with
  | .error _ => (ptp, some .EINVAL)
  | .ok num =>
    if interrupted then (ptp, some .ERESTARTSYS)
    else if ptp.maxVclocks < num then (ptp, some .EINVAL)
    else if ptp.nVclocks < num then
      let (indices, done) := registerVclocks (num - ptp.nVclocks).toNat attempts
      let ptp' := { ptp with
        vclocks := ptp.vclocks ++ indices
        vclockIndex := setFrom ptp.vclockIndex ptp.nVclocks.toNat indices }
      if done then ({ ptp' with nVclocks := num }, none) else (ptp', some .EINVAL)
    else
      let gone := (ptp.nVclocks - num).toNat
      ({ ptp with
        vclocks := ptp.vclocks.take (ptp.vclocks.length - gone)
        vclockIndex := setFrom ptp.vclockIndex num.toNat (List.replicate gone (-1))
        nVclocks := num }, none)

/-- `max_vclocks_store`; `allocated` is the outcome of the allocation. -/
def maxVclocksStore (ptp : PtpClock) (interrupted allocated : Bool) (buf : Bytes) :
    PtpClock × Option Errno :=
  match kstrtouint buf 0 with
  | .error _ => (ptp, some .EINVAL)
  | .ok max =>
    if max = 0 then (ptp, some .EINVAL)
    else if max = ptp.maxVclocks then (ptp, none)
    else if interrupted then (ptp, some .ERESTARTSYS)
    else if max < ptp.nVclocks then (ptp, some .EINVAL)
    else if !allocated then (ptp, some .ENOMEM)
    else
      let kept := ptp.vclockIndex.take ptp.nVclocks.toNat
      ({ ptp with
        vclockIndex := kept ++ List.replicate (max.toNat - kept.length) 0
        maxVclocks := max }, none)

/-- `ptp_pin_name2index`. -/
def ptpPinName2index (ptp : PtpClock) (name : String) : Option ℕ :=
  ptp.pinConfig.findIdx? fun p => p.name = name

/-- The writable attributes, each with the numbers `sscanf` reads from the buffer (`none` when it
reads too few) or with the buffer itself. -/
inductive SysfsWrite where
  | exttsEnable (args : Option (UInt32 × Int32))
  | period (args : Option UInt32)
  | ppsEnable (capable : Bool) (arg : Option Int32)
  | nVclocks (buf : Bytes) (attempts : List (Option Int32))
  | maxVclocks (allocated : Bool) (buf : Bytes)
  | pin (name : String) (args : Option (UInt32 × UInt32))
  | exttsDelayMs (buf : Bytes)
  deriving DecidableEq, Repr

/-- `extts_enable_store`. -/
def exttsEnableStore (ptp : PtpClock) (clk : Clocks) :
    Option (UInt32 × Int32) → Except Errno PtpClock
  | none => .error .EINVAL
  | some (index, enable) =>
    if N_EXT_TS ≤ index then .error .EINVAL else ptp.enable clk (.extts index) (enable ≠ 0)

/-- `period_store`.  The mock driver has no periodic output, so the bound on the index rejects every
request. -/
def periodStore (ptp : PtpClock) : Option UInt32 → Except Errno PtpClock
  | none => .error .EINVAL
  | some index =>
    if MOCK_N_PER_OUT ≤ index then .error .EINVAL else .ok ptp

/-- `pps_enable_store`. -/
def ppsEnableStore (ptp : PtpClock) (clk : Clocks) (capable : Bool) (arg : Option Int32) :
    Except Errno PtpClock :=
  if !capable then .error .EPERM
  else match arg with
    | none => .error .EINVAL
    | some enable => ptp.enable clk .pps (enable ≠ 0)

/-- `ptp_pin_store`. -/
def ptpPinStore (ptp : PtpClock) (clk : Clocks) (interrupted : Bool) (name : String) :
    Option (UInt32 × UInt32) → Except Errno PtpClock
  | none => .error .EINVAL
  | some (func, chan) =>
    match ptpPinName2index ptp name with
    | none => .error .EINVAL
    | some index =>
      if interrupted then .error .ERESTARTSYS
      else ptp.setPinfunc clk (UInt32.ofNat index) func chan

/-- The state and the error of a call that changes nothing when it fails. -/
def PtpClock.attempt (ptp : PtpClock) : Except Errno PtpClock → PtpClock × Option Errno
  | .ok ptp' => (ptp', none)
  | .error e => (ptp, some e)

/-- The store callbacks of the attributes of the clock and of its driver. -/
def sysfsStore (ptp : PtpClock) (clk : Clocks) (interrupted : Bool) :
    SysfsWrite → PtpClock × Option Errno
  | .exttsEnable args => ptp.attempt (exttsEnableStore ptp clk args)
  | .period args => ptp.attempt (periodStore ptp args)
  | .ppsEnable capable arg => ptp.attempt (ppsEnableStore ptp clk capable arg)
  | .nVclocks buf attempts => nVclocksStore ptp interrupted buf attempts
  | .maxVclocks allocated buf => maxVclocksStore ptp interrupted allocated buf
  | .pin name args => ptp.attempt (ptpPinStore ptp clk interrupted name args)
  | .exttsDelayMs buf => ptp.attempt
      ((exttsDelayMsStore ptp.phc clk buf).map fun phc => { ptp with phc := phc })

/-! ## One step of the clock -/

/-- What reaches the clock: the calls of the user, the callback of the EXTTS timer, and the reads a
virtual clock makes of its parent. -/
inductive PtpCall where
  | settime (ts : Timespec64)
  | gettime
  | adjtime (tx : KernelTimex)
  | ioctl (cmd : PtpIoctl)
  | sysfs (write : SysfsWrite)
  | exttsTimer
  | vclockRead
  deriving DecidableEq, Repr

/-- One call with the clock readings it makes; `interrupted` is the fate of its waits. -/
def ptpStep (ptp : PtpClock) (clk : Clocks) (interrupted : Bool) : PtpCall → PtpClock × Option Errno
  | .settime ts => ptp.attempt (ptpClockSettime ptp clk interrupted ts)
  | .gettime => (ptpClockGettime ptp clk, none)
  | .adjtime tx => ptp.attempt (ptpClockAdjtime ptp clk interrupted tx)
  | .ioctl cmd => ptp.attempt (ptpIoctl ptp clk interrupted cmd)
  | .sysfs write => sysfsStore ptp clk interrupted write
  | .exttsTimer => ({ ptp with phc := (mockPhcExttsTimer ptp.phc clk).1 }, none)
  | .vclockRead => (ptpClockGettime ptp clk, none)

end Netdevsim
