import Netdevsim.Dpll.Core
import Netdevsim.Dpll.Nsim

/-!
# Setting the DPLL of a device up and tearing it down

`nsim_dpll_init` gets and registers the two DPLLs, the GNSS pin, the external pins and a pin for
each PF port.  Each step that fails is unwound through the labels of the function, which are the
cleanups nested here.
-/

namespace Netdevsim

open Program

/-! ## Ports -/

/-- `enum nsim_dev_port_type`. -/
inductive NsimDevPortType where
  | PF | VF
  deriving DecidableEq, Repr

/-- `struct nsim_dev_port`, `ns` being the address of its `struct netdevsim`. -/
structure NsimDevPort where
  portIndex : UInt32
  portType : NsimDevPortType
  ns : Ptr
  deriving DecidableEq, Repr

def nsimDevPortIsPf (port : NsimDevPort) : Bool := port.portType = .PF

def nsimDevPortIsVf (port : NsimDevPort) : Bool := port.portType = .VF

/-! ## Constants -/

def NSIM_DPLL_CLOCK_ID : UInt64 := 0
def NSIM_DPLL_PPS_IDX : UInt32 := 0
def NSIM_DPLL_EEC_IDX : UInt32 := 1
def NSIM_DPLL_GNSS_PIN_IDX : UInt32 := 0
def NSIM_DPLL_NUM_EXT_PINS : ℕ := 4
def NSIM_DPLL_EXT_PIN_BASE : UInt32 := NSIM_DPLL_GNSS_PIN_IDX + 1

def DPLL_PIN_FREQUENCY_1_HZ : UInt64 := 1
def DPLL_PIN_FREQUENCY_10_MHZ : UInt64 := 10000000

/-- `DPLL_PIN_FREQUENCY`. -/
def dpllPinFrequency (val : UInt64) : UInt64 × UInt64 := (val, val)

/-- `THIS_MODULE`. -/
def THIS_MODULE : Ptr := 1

def nsimDpllDeviceOps : DpllDeviceOps := ⟨2, true, true⟩

def nsimDpllGnssPinOps : DpllPinOps := ⟨3, true, false, true⟩

def nsimDpllRclkPinOps : DpllPinOps := ⟨4, true, false, true⟩

/-- The properties of a pin with a board label and nothing optional. -/
def pinProps (label : Bytes) (type : ℕ) (freqSupported : List (UInt64 × UInt64)) :
    DpllPinProperties :=
  ⟨some label, none, none, type, 0, freqSupported, (0, 0)⟩

def nsimDpllGnssPinProps : DpllPinProperties :=
  pinProps (ascii "GNSS-1PPS") DPLL_PIN_TYPE_GNSS [dpllPinFrequency DPLL_PIN_FREQUENCY_1_HZ]

def nsimDpllExtPinLabels : List Bytes :=
  [ascii "SMA1", ascii "SMA2", ascii "U.FL1", ascii "U.FL2"]

def nsimDpllExtFreq : List (UInt64 × UInt64) :=
  [dpllPinFrequency DPLL_PIN_FREQUENCY_1_HZ, dpllPinFrequency DPLL_PIN_FREQUENCY_10_MHZ]

/-! ## What a DPLL holds -/

/-- `struct nsim_dpll_pin`, at the address `addr`. -/
structure NsimDpllPin where
  addr : Ptr
  pin : Ptr
  ns : Ptr
  deriving DecidableEq, Repr

/-- `struct nsim_dpll`, at the address `addr`: what it got from the core, and its lock state. -/
structure NsimDpllDev where
  addr : Ptr
  clockId : UInt64
  ppsDpll : Ptr
  eecDpll : Ptr
  gnssPin : Ptr
  extPins : List Ptr
  portPins : List NsimDpllPin
  lock : NsimDpll

/-- The parts of a `struct nsim_dpll` with addresses of their own: the structure itself, the GNSS
pin's private data and that of the external pins. -/
def NSIM_DPLL_PARTS : ℕ := 2 + NSIM_DPLL_NUM_EXT_PINS

/-- `&ndpll->gnss_pin_priv`. -/
def gnssPinPriv (ndpll : Ptr) : Ptr := ndpll + 1

/-- `&ndpll->ext_pin_privs[i]`. -/
def extPinPriv (ndpll : Ptr) (i : ℕ) : Ptr := ndpll + 2 + i

/-! ## Setting up -/

/-- The loop of the label `err_ext_cleanup`, from the last external pin to the first. -/
def nsimDpllCleanupExtPins (ndpll ppsDpll : Ptr) (extPins : List Ptr) : KernelM Unit :=
  extPins.zipIdx.reverse.forM fun (epin, i) => do
    dpllPinUnregister ppsDpll epin nsimDpllGnssPinOps (extPinPriv ndpll i)
    dpllPinPut epin

/-- `nsim_dpll_cleanup_port_pins`. -/
def nsimDpllCleanupPortPins (ppsDpll : Ptr) (portPins : List NsimDpllPin) : KernelM Unit :=
  portPins.forM fun npin => do
    dpllNetdevPinClear npin.ns
    dpllPinUnregister ppsDpll npin.pin nsimDpllRclkPinOps npin.addr
    dpllPinPut npin.pin

/-- Get a pin and register it on the PPS DPLL. -/
def nsimDpllPin (ppsDpll : Ptr) (pinIdx : UInt32) (props : DpllPinProperties) (ops : DpllPinOps)
    (priv : Ptr) : KernelM Ptr := do
  let pin ← dpllPinGet NSIM_DPLL_CLOCK_ID pinIdx THIS_MODULE props
  unwind (dpllPinPut pin) (dpllPinRegister ppsDpll pin ops priv)
  return pin

/-- The loop over the external pins, with those already registered. -/
def nsimDpllExtPins (ndpll ppsDpll : Ptr) (extPins : List Ptr) : List Bytes → KernelM (List Ptr)
  | [] => return extPins
  | label :: labels => do
    let i := extPins.length
    let epin ← unwind (nsimDpllCleanupExtPins ndpll ppsDpll extPins)
      (nsimDpllPin ppsDpll (NSIM_DPLL_EXT_PIN_BASE + UInt32.ofNat i)
        (pinProps label DPLL_PIN_TYPE_EXT nsimDpllExtFreq) nsimDpllGnssPinOps (extPinPriv ndpll i))
    nsimDpllExtPins ndpll ppsDpll (extPins ++ [epin]) labels

/-- The body of the loop over the ports, for a PF port. -/
def nsimDpllPortPin (ppsDpll : Ptr) (pinIdx : UInt32) (port : NsimDevPort) :
    KernelM NsimDpllPin := do
  let npin ← kzalloc 1
  match (← get).netdev port.ns with
  | none => goWrong
  | some netdev =>
    let pin ← nsimDpllPin ppsDpll pinIdx
      (pinProps netdev.name DPLL_PIN_TYPE_SYNCE_ETH_PORT
        [dpllPinFrequency DPLL_PIN_FREQUENCY_10_MHZ]) nsimDpllRclkPinOps npin
    dpllNetdevPinSet port.ns pin
    return ⟨npin, pin, port.ns⟩

/-- The loop over the ports, with the pins already registered. -/
def nsimDpllPortPins (ppsDpll : Ptr) (pinIdx : UInt32) (portPins : List NsimDpllPin) :
    List NsimDevPort → KernelM (List NsimDpllPin)
  | [] => return portPins
  | port :: ports =>
    if nsimDevPortIsPf port then do
      let npin ← unwind (nsimDpllCleanupPortPins ppsDpll portPins)
        (nsimDpllPortPin ppsDpll pinIdx port)
      nsimDpllPortPins ppsDpll (pinIdx + 1) (portPins ++ [npin]) ports
    else nsimDpllPortPins ppsDpll pinIdx portPins ports

/-- The GNSS device and the sysfs file, whose unwinding does not concern the core:
`gnss_allocate_device`, `gnss_register_device`, `kobject_create_and_add` and
`sysfs_create_file`. -/
def nsimDpllGnssAndSysfs : KernelM Unit := do
  mayRunOut
  mayFail
  mayRunOut
  mayFail

/-- The notifications of `nsim_dpll_ntf_work`. -/
def nsimDpllNtfWork (ndpll : NsimDpllDev) : KernelM Unit := do
  dpllDeviceEventSend .change ndpll.ppsDpll
  dpllDeviceEventSend .change ndpll.eecDpll
  dpllPinEventSend .change ndpll.gnssPin
  ndpll.extPins.forM fun epin => dpllPinEventSend .change epin

/-- The notifications at the end of `nsim_dpll_init`. -/
def nsimDpllAnnounce (ndpll : NsimDpllDev) : KernelM Unit := do
  nsimDpllNtfWork ndpll
  ndpll.portPins.forM fun npin => dpllPinEventSend .change npin.pin

/-- The part of `nsim_dpll_init` behind the registration of the two DPLLs. -/
def nsimDpllInitPins (now : ℕ) (portList : List NsimDevPort) (ndpll ppsDpll eecDpll : Ptr) :
    KernelM NsimDpllDev := do
  let gnssPin ← nsimDpllPin ppsDpll NSIM_DPLL_GNSS_PIN_IDX nsimDpllGnssPinProps nsimDpllGnssPinOps
    (gnssPinPriv ndpll)
  let dropGnssPin := do
    dpllPinUnregister ppsDpll gnssPin nsimDpllGnssPinOps (gnssPinPriv ndpll)
    dpllPinPut gnssPin
  unwind dropGnssPin do
    let extPins ← nsimDpllExtPins ndpll ppsDpll [] nsimDpllExtPinLabels
    unwind (nsimDpllCleanupExtPins ndpll ppsDpll extPins) do
      let portPins ← nsimDpllPortPins ppsDpll
        (NSIM_DPLL_EXT_PIN_BASE + UInt32.ofNat NSIM_DPLL_NUM_EXT_PINS) [] portList
      unwind (nsimDpllCleanupPortPins ppsDpll portPins) nsimDpllGnssAndSysfs
      let dev : NsimDpllDev := ⟨ndpll, NSIM_DPLL_CLOCK_ID, ppsDpll, eecDpll, gnssPin, extPins,
        portPins, NsimDpll.started now⟩
      nsimDpllAnnounce dev
      return dev

/-- `nsim_dpll_init`, called at the time `now` for a device with the given ports. -/
def nsimDpllInit (now : ℕ) (portList : List NsimDevPort) : KernelM NsimDpllDev := do
  let ndpll ← kzalloc NSIM_DPLL_PARTS
  let ppsDpll ← dpllDeviceGet NSIM_DPLL_CLOCK_ID NSIM_DPLL_PPS_IDX THIS_MODULE
  unwind (dpllDevicePut ppsDpll) do
    dpllDeviceRegister ppsDpll DPLL_TYPE_PPS nsimDpllDeviceOps ndpll
    unwind (dpllDeviceUnregister ppsDpll nsimDpllDeviceOps ndpll) do
      let eecDpll ← dpllDeviceGet NSIM_DPLL_CLOCK_ID NSIM_DPLL_EEC_IDX THIS_MODULE
      unwind (dpllDevicePut eecDpll) do
        dpllDeviceRegister eecDpll DPLL_TYPE_EEC nsimDpllDeviceOps ndpll
        unwind (dpllDeviceUnregister eecDpll nsimDpllDeviceOps ndpll)
          (nsimDpllInitPins now portList ndpll ppsDpll eecDpll)

/-! ## Tearing down -/

/-- What `nsim_dpll_exit` does in the core. -/
def nsimDpllExit (ndpll : NsimDpllDev) : KernelM Unit := do
  nsimDpllCleanupPortPins ndpll.ppsDpll ndpll.portPins
  nsimDpllCleanupExtPins ndpll.addr ndpll.ppsDpll ndpll.extPins
  dpllPinUnregister ndpll.ppsDpll ndpll.gnssPin nsimDpllGnssPinOps (gnssPinPriv ndpll.addr)
  dpllPinPut ndpll.gnssPin
  dpllDeviceUnregister ndpll.eecDpll nsimDpllDeviceOps ndpll.addr
  dpllDevicePut ndpll.eecDpll
  dpllDeviceUnregister ndpll.ppsDpll nsimDpllDeviceOps ndpll.addr
  dpllDevicePut ndpll.ppsDpll

end Netdevsim
