import Netdevsim.Kernel
import Netdevsim.Lib.Program
import Netdevsim.Lib.XArray

/-!
# The DPLL core

The registry of DPLL devices and pins: what drivers get, register, unregister and put, and the
notifications sent meanwhile.  Objects live at addresses that are never reused; reading an address
at which no object lives goes wrong.  Which of the allocations and other outside calls fail is read
off a list of faults, a missing fault being a success.
-/

namespace Netdevsim

/-! ## Data -/

/-- Addresses, with `NULL` = 0. -/
abbrev Ptr := ℕ

/-- `struct dpll_device_ops`: the address of the table and which callbacks it has. -/
structure DpllDeviceOps where
  addr : Ptr
  modeGet : Bool
  lockStatusGet : Bool
  deriving DecidableEq, Repr

/-- `struct dpll_pin_ops`: the address of the table and which of the checked callbacks it has. -/
structure DpllPinOps where
  addr : Ptr
  directionGet : Bool
  stateOnPinGet : Bool
  stateOnDpllGet : Bool
  deriving DecidableEq, Repr

/-- `struct dpll_device_registration`. -/
structure DpllDeviceRegistration where
  ops : DpllDeviceOps
  priv : Ptr
  deriving DecidableEq, Repr

/-- `struct dpll_pin_registration`. -/
structure DpllPinRegistration where
  ops : DpllPinOps
  priv : Ptr
  cookie : Ptr
  deriving DecidableEq, Repr

/-- `struct dpll_pin_ref`, `target` being the device or the pin. -/
structure DpllPinRef where
  target : Ptr
  registrationList : List DpllPinRegistration
  refcount : ℕ
  deriving DecidableEq, Repr

/-- `struct dpll_device`. -/
structure DpllDevice where
  id : ℕ
  deviceIdx : UInt32
  clockId : UInt64
  module : Ptr
  type : ℕ
  pinRefs : XArray DpllPinRef
  refcount : ℕ
  registrationList : List DpllDeviceRegistration

def DPLL_TYPE_PPS : ℕ := 1
def DPLL_TYPE_EEC : ℕ := 2
def DPLL_TYPE_MAX : ℕ := DPLL_TYPE_EEC

def DPLL_PIN_TYPE_MUX : ℕ := 1
def DPLL_PIN_TYPE_EXT : ℕ := 2
def DPLL_PIN_TYPE_SYNCE_ETH_PORT : ℕ := 3
def DPLL_PIN_TYPE_GNSS : ℕ := 5
def DPLL_PIN_TYPE_MAX : ℕ := DPLL_PIN_TYPE_GNSS

/-- `struct dpll_pin_properties`. -/
structure DpllPinProperties where
  boardLabel : Option Bytes
  panelLabel : Option Bytes
  packageLabel : Option Bytes
  type : ℕ
  capabilities : UInt64
  freqSupported : List (UInt64 × UInt64)
  phaseRange : Int32 × Int32

/-- `struct dpll_pin`. -/
structure DpllPin where
  id : ℕ
  pinIdx : UInt32
  clockId : UInt64
  module : Ptr
  dpllRefs : XArray DpllPinRef
  parentRefs : XArray DpllPinRef
  prop : DpllPinProperties
  refcount : ℕ

/-- The kinds of notification about a device or a pin. -/
inductive DpllNtfCmd where
  | create | delete | change
  deriving DecidableEq, Repr

/-- A notification sent.  The contents of one about a device come from its first registration. -/
inductive DpllNtf where
  | device (cmd : DpllNtfCmd) (id : ℕ) (owner : DpllDeviceRegistration)
  | pin (cmd : DpllNtfCmd) (id : ℕ)
  deriving DecidableEq, Repr

/-- What the modelled code reads and writes of a `struct net_device`. -/
structure Netdev where
  name : Bytes
  numQueues : UInt32
  dpllPin : Ptr
  deriving DecidableEq, Repr

/-- The state of the core and of what it works on.  The mark of an entry of the two arrays is
`DPLL_REGISTERED`. -/
structure KernelState where
  /-- The devices, by address. -/
  device : Ptr → Option DpllDevice
  deviceXa : XArray Ptr
  deviceXaId : XArray.Cursor
  /-- The pins, by address. -/
  pin : Ptr → Option DpllPin
  pinXa : XArray Ptr
  pinXaId : XArray.Cursor
  /-- The net devices, by the address of their `struct netdevsim`. -/
  netdev : Ptr → Option Netdev
  /-- The names that new net devices get, by the same address. -/
  netdevName : Ptr → Bytes
  /-- The notifications sent so far. -/
  sent : List DpllNtf
  /-- The first address not yet handed out. -/
  nextPtr : Ptr
  /-- What the coming calls that may fail return. -/
  faults : List (Option Errno)

/-- The state in which the module was loaded, with no object in memory yet. -/
def KernelState.loaded : KernelState :=
  ⟨fun _ => none, .empty, ⟨0, false⟩, fun _ => none, .empty, ⟨0, false⟩, fun _ => none,
    fun _ => [], [], 16, []⟩

abbrev KernelM (α : Type) := Program KernelState Errno α

open Program

/-! ## Memory -/

/-- The result of the next call that may fail. -/
def fault : KernelM (Option Errno) := do
  let s ← get
  match s.faults with
  | [] => return none
  | f :: faults =>
    set { s with faults }
    return f

/-- A call that may fail with any error. -/
def mayFail : KernelM Unit := do
  match ← fault with
  | some e => throw e
  | none => return ()

/-- An allocation that may fail and whose address does not matter. -/
def mayRunOut : KernelM Unit := do
  match ← fault with
  | some _ => throw .ENOMEM
  | none => return ()

/-- `kzalloc` of an object with `size` parts that have addresses of their own. -/
def kzalloc (size : ℕ) : KernelM Ptr := do
  mayRunOut
  let s ← get
  set { s with nextPtr := s.nextPtr + size }
  return s.nextPtr

def derefDevice (dpll : Ptr) : KernelM DpllDevice := do
  match (← get).device dpll with
  | some d => return d
  | none => goWrong

def setDevice (dpll : Ptr) (d : DpllDevice) : KernelM Unit :=
  modify fun s => { s with device := Function.update s.device dpll (some d) }

def derefPin (pin : Ptr) : KernelM DpllPin := do
  match (← get).pin pin with
  | some p => return p
  | none => goWrong

def setPin (pin : Ptr) (p : DpllPin) : KernelM Unit :=
  modify fun s => { s with pin := Function.update s.pin pin (some p) }

/-- `xa_limit_32b.max`. -/
def XA_LIMIT_32B_MAX : ℕ := 2 ^ 32 - 1

/-! ## Registrations and references -/

/-- `dpll_pin_registration_find`. -/
def dpllPinRegistrationFind (ref : DpllPinRef) (reg : DpllPinRegistration) : Bool :=
  reg ∈ ref.registrationList

/-- `dpll_xa_ref_pin_add` and `dpll_xa_ref_dpll_add`, which differ in what is referred to and the
index it goes to.  A reference inserted for a registration that then cannot be allocated is erased
again, so that a failure leaves the array as it was. -/
def dpllXaRefAdd (xa : XArray DpllPinRef) (target : Ptr) (index : ℕ) (reg : DpllPinRegistration) :
    KernelM (XArray DpllPinRef) := do
  match xa.entries.find? (·.value.target = target) with
  | some e =>
    if dpllPinRegistrationFind e.value reg then
      return xa.update e.index fun ref => { ref with refcount := ref.refcount + 1 }
    else
      mayRunOut
      return xa.update e.index fun ref =>
        { ref with
          registrationList := ref.registrationList ++ [reg], refcount := ref.refcount + 1 }
  | none =>
    mayRunOut
    -- xa_insert
    failIf (xa.load index).isSome .EBUSY
    mayRunOut
    -- the registration
    mayRunOut
    return xa.store index ⟨target, [reg], 1⟩

def dpllXaRefPinAdd (xaPins : XArray DpllPinRef) (pin : Ptr) (reg : DpllPinRegistration) :
    KernelM (XArray DpllPinRef) := do
  let p ← derefPin pin
  dpllXaRefAdd xaPins pin p.pinIdx.toNat reg

def dpllXaRefDpllAdd (xaDplls : XArray DpllPinRef) (dpll : Ptr) (reg : DpllPinRegistration) :
    KernelM (XArray DpllPinRef) := do
  let d ← derefDevice dpll
  dpllXaRefAdd xaDplls dpll d.id reg

/-- `dpll_xa_ref_pin_del` and `dpll_xa_ref_dpll_del`, whose results no caller looks at.  Without a
matching registration nothing happens. -/
def dpllXaRefDel (xa : XArray DpllPinRef) (target : Ptr) (reg : DpllPinRegistration) :
    XArray DpllPinRef :=
  match xa.entries.find? (·.value.target = target) with
  | some e =>
    if dpllPinRegistrationFind e.value reg then
      if e.value.refcount = 1 then xa.erase e.index
      else xa.update e.index fun ref =>
        { ref with
          registrationList := ref.registrationList.erase reg, refcount := ref.refcount - 1 }
    else xa
  | none => xa

/-- `dpll_device_registration_first`, followed by its caller: without a registration there is none
to read. -/
def dpllDeviceRegistrationFirst (dpll : Ptr) : KernelM DpllDeviceRegistration := do
  let d ← derefDevice dpll
  match d.registrationList with
  | reg :: _ => return reg
  | [] => goWrong

/-- `dpll_priv`. -/
def dpllPriv (dpll : Ptr) : KernelM Ptr := do
  let reg ← dpllDeviceRegistrationFirst dpll
  return reg.priv

/-- `dpll_device_ops`. -/
def dpllDeviceOps (dpll : Ptr) : KernelM DpllDeviceOps := do
  let reg ← dpllDeviceRegistrationFirst dpll
  return reg.ops

/-- `dpll_pin_registration_first`: nothing for a reference without registrations. -/
def dpllPinRegistrationFirst (ref : DpllPinRef) : Option DpllPinRegistration :=
  ref.registrationList.head?

/-- `dpll_pin_ops`. -/
def dpllPinOps (ref : DpllPinRef) : KernelM DpllPinOps :=
  match dpllPinRegistrationFirst ref with
  | some reg => return reg.ops
  | none => goWrong

/-- The private data of the first registration at an index, and `NULL` without a reference. -/
def dpllPinPrivAt (xaRefs : XArray DpllPinRef) (index : ℕ) : KernelM Ptr :=
  match xaRefs.load index with
  | none => return 0
  | some ref =>
    match dpllPinRegistrationFirst ref with
    | some reg => return reg.priv
    | none => goWrong

/-- `dpll_pin_on_dpll_priv`. -/
def dpllPinOnDpllPriv (dpll pin : Ptr) : KernelM Ptr := do
  let d ← derefDevice dpll
  let p ← derefPin pin
  dpllPinPrivAt d.pinRefs p.pinIdx.toNat

/-- `dpll_pin_on_pin_priv`. -/
def dpllPinOnPinPriv (parent pin : Ptr) : KernelM Ptr := do
  let p ← derefPin pin
  let par ← derefPin parent
  dpllPinPrivAt p.parentRefs par.pinIdx.toNat

/-! ## Notifications

No caller looks at whether a notification could be sent. -/

/-- `dpll_device_event_send`. -/
def dpllDeviceEventSend (cmd : DpllNtfCmd) (dpll : Ptr) : KernelM Unit := do
  let d ← derefDevice dpll
  let s ← get
  if s.deviceXa.getMark d.id then
    -- building the message
    if (← fault) = none then
      let owner ← dpllDeviceRegistrationFirst dpll
      modify fun s => { s with sent := s.sent ++ [.device cmd d.id owner] }

/-- `dpll_pin_available`. -/
def dpllPinAvailable (pin : Ptr) : KernelM Bool := do
  let p ← derefPin pin
  let s ← get
  if s.pinXa.getMark p.id then
    if ← p.parentRefs.values.anyM fun ref => do
        let parent ← derefPin ref.target
        return s.pinXa.getMark parent.id then
      return true
    p.dpllRefs.values.anyM fun ref => do
      let d ← derefDevice ref.target
      return s.deviceXa.getMark d.id
  else return false

/-- `dpll_pin_event_send`. -/
def dpllPinEventSend (cmd : DpllNtfCmd) (pin : Ptr) : KernelM Unit := do
  let p ← derefPin pin
  if ← dpllPinAvailable pin then
    -- building the message
    if (← fault) = none then
      modify fun s => { s with sent := s.sent ++ [.pin cmd p.id] }

/-! ## Net devices -/

/-- `dpll_netdev_pin_assign`, given the `struct netdevsim` of the net device. -/
def dpllNetdevPinAssign (ns dpllPin : Ptr) : KernelM Unit := do
  match (← get).netdev ns with
  | some dev =>
    modify fun s => { s with netdev := Function.update s.netdev ns (some { dev with dpllPin }) }
  | none => goWrong

/-- `dpll_netdev_pin_set`. -/
def dpllNetdevPinSet (ns dpllPin : Ptr) : KernelM Unit := dpllNetdevPinAssign ns dpllPin

/-- `dpll_netdev_pin_clear`. -/
def dpllNetdevPinClear (ns : Ptr) : KernelM Unit := dpllNetdevPinAssign ns 0

/-! ## Devices -/

/-- The search of `dpll_device_get`, over the addresses in the array. -/
def dpllDeviceLookup (clockId : UInt64) (deviceIdx : UInt32) (module : Ptr) :
    List Ptr → KernelM (Option Ptr)
  | [] => return none
  | dpll :: rest => do
    let d ← derefDevice dpll
    if d.clockId = clockId ∧ d.deviceIdx = deviceIdx ∧ d.module = module then return some dpll
    else dpllDeviceLookup clockId deviceIdx module rest

/-- `dpll_device_alloc`.  That the running id has started over is not an error here. -/
def dpllDeviceAlloc (clockId : UInt64) (deviceIdx : UInt32) (module : Ptr) : KernelM Ptr := do
  let dpll ← kzalloc 1
  -- xa_alloc_cyclic
  mayRunOut
  let s ← get
  match s.deviceXa.allocCyclic s.deviceXaId XA_LIMIT_32B_MAX dpll with
  | none => throw .EBUSY
  | some (id, _, deviceXa, deviceXaId) =>
    set { s with
      deviceXa, deviceXaId
      device := Function.update s.device dpll
        (some ⟨id, deviceIdx, clockId, module, 0, .empty, 1, []⟩) }
    return dpll

/-- `dpll_device_get`. -/
def dpllDeviceGet (clockId : UInt64) (deviceIdx : UInt32) (module : Ptr) : KernelM Ptr := do
  let s ← get
  match ← dpllDeviceLookup clockId deviceIdx module s.deviceXa.values with
  | some dpll =>
    let d ← derefDevice dpll
    setDevice dpll { d with refcount := d.refcount + 1 }
    return dpll
  | none => dpllDeviceAlloc clockId deviceIdx module

/-- `dpll_device_put`. -/
def dpllDevicePut (dpll : Ptr) : KernelM Unit := do
  let d ← derefDevice dpll
  if d.refcount = 1 then
    modify fun s => { s with
      deviceXa := s.deviceXa.erase d.id
      device := Function.update s.device dpll none }
  else setDevice dpll { d with refcount := d.refcount - 1 }

/-- `dpll_device_register`. -/
def dpllDeviceRegister (dpll : Ptr) (type : ℕ) (ops : DpllDeviceOps) (priv : Ptr) :
    KernelM Unit := do
  failIf (ops.addr = 0 ∨ ¬ops.modeGet ∨ ¬ops.lockStatusGet) .EINVAL
  failIf (type < DPLL_TYPE_PPS ∨ DPLL_TYPE_MAX < type) .EINVAL
  let d ← derefDevice dpll
  failIf (⟨ops, priv⟩ ∈ d.registrationList) .EEXIST
  mayRunOut
  setDevice dpll { d with type, registrationList := d.registrationList ++ [⟨ops, priv⟩] }
  if d.registrationList = [] then
    modify fun s => { s with deviceXa := s.deviceXa.setMark d.id true }
    dpllDeviceEventSend .create dpll

/-- `dpll_device_unregister`. -/
def dpllDeviceUnregister (dpll : Ptr) (ops : DpllDeviceOps) (priv : Ptr) : KernelM Unit := do
  dpllDeviceEventSend .delete dpll
  let d ← derefDevice dpll
  if ⟨ops, priv⟩ ∈ d.registrationList then
    let registrationList := d.registrationList.erase ⟨ops, priv⟩
    setDevice dpll { d with registrationList }
    if registrationList = [] then
      modify fun s => { s with deviceXa := s.deviceXa.setMark d.id false }

/-! ## Pins -/

/-- The copy of something that may be missing. -/
def kmemdup (present : Bool) : KernelM Unit := if present then mayRunOut else pure ()

/-- `dpll_pin_prop_dup`: the lists and labels that are there are copied. -/
def dpllPinPropDup (src : DpllPinProperties) : KernelM DpllPinProperties := do
  kmemdup (src.freqSupported ≠ [])
  kmemdup src.boardLabel.isSome
  kmemdup src.panelLabel.isSome
  kmemdup src.packageLabel.isSome
  return src

/-- `dpll_pin_alloc`.  Any result of `xa_alloc_cyclic` but 0 counts as an error: when the running id
has started over the pin is freed, its address stays in the array, and what is returned is
`ERR_PTR(1)`, which is no error pointer for the callers. -/
def dpllPinAlloc (clockId : UInt64) (pinIdx : UInt32) (module : Ptr) (prop : DpllPinProperties) :
    KernelM Ptr := do
  let pin ← kzalloc 1
  failIf (prop.type < DPLL_PIN_TYPE_MUX ∨ DPLL_PIN_TYPE_MAX < prop.type) .EINVAL
  let prop ← dpllPinPropDup prop
  -- xa_alloc_cyclic
  mayRunOut
  let s ← get
  match s.pinXa.allocCyclic s.pinXaId XA_LIMIT_32B_MAX pin with
  | none => throw .EBUSY
  | some (_, true, pinXa, pinXaId) =>
    set { s with pinXa, pinXaId }
    return 1
  | some (id, false, pinXa, pinXaId) =>
    set { s with
      pinXa, pinXaId
      pin := Function.update s.pin pin
        (some ⟨id, pinIdx, clockId, module, .empty, .empty, prop, 1⟩) }
    return pin

/-- The search of `dpll_pin_get`, over the addresses in the array. -/
def dpllPinLookup (clockId : UInt64) (pinIdx : UInt32) (module : Ptr) :
    List Ptr → KernelM (Option Ptr)
  | [] => return none
  | pin :: rest => do
    let p ← derefPin pin
    if p.clockId = clockId ∧ p.pinIdx = pinIdx ∧ p.module = module then return some pin
    else dpllPinLookup clockId pinIdx module rest

/-- `dpll_pin_get`. -/
def dpllPinGet (clockId : UInt64) (pinIdx : UInt32) (module : Ptr) (prop : DpllPinProperties) :
    KernelM Ptr := do
  let s ← get
  match ← dpllPinLookup clockId pinIdx module s.pinXa.values with
  | some pin =>
    let p ← derefPin pin
    setPin pin { p with refcount := p.refcount + 1 }
    return pin
  | none => dpllPinAlloc clockId pinIdx module prop

/-- `dpll_pin_put`. -/
def dpllPinPut (pin : Ptr) : KernelM Unit := do
  let p ← derefPin pin
  if p.refcount = 1 then
    modify fun s => { s with
      pinXa := s.pinXa.erase p.id
      pin := Function.update s.pin pin none }
  else setPin pin { p with refcount := p.refcount - 1 }

/-- `dpll_xa_ref_pin_del` on the references of a device. -/
def dpllPinRefsDel (dpll pin : Ptr) (reg : DpllPinRegistration) : KernelM Unit := do
  let d ← derefDevice dpll
  setDevice dpll { d with pinRefs := dpllXaRefDel d.pinRefs pin reg }

/-- `__dpll_pin_register`. -/
def _dpllPinRegister (dpll pin : Ptr) (reg : DpllPinRegistration) : KernelM Unit := do
  let d ← derefDevice dpll
  let pinRefs ← dpllXaRefPinAdd d.pinRefs pin reg
  setDevice dpll { d with pinRefs }
  unwind (dpllPinRefsDel dpll pin reg) do
    let p ← derefPin pin
    let dpllRefs ← dpllXaRefDpllAdd p.dpllRefs dpll reg
    setPin pin { p with dpllRefs }
  let p ← derefPin pin
  modify fun s => { s with pinXa := s.pinXa.setMark p.id true }
  dpllPinEventSend .create pin

/-- `dpll_pin_register`. -/
def dpllPinRegister (dpll pin : Ptr) (ops : DpllPinOps) (priv : Ptr) : KernelM Unit := do
  failIf (ops.addr = 0 ∨ ¬ops.stateOnDpllGet ∨ ¬ops.directionGet) .EINVAL
  let d ← derefDevice dpll
  let p ← derefPin pin
  failIf (¬(d.module = p.module ∧ d.clockId = p.clockId)) .EINVAL
  _dpllPinRegister dpll pin ⟨ops, priv, 0⟩

/-- `__dpll_pin_unregister`. -/
def _dpllPinUnregister (dpll pin : Ptr) (reg : DpllPinRegistration) : KernelM Unit := do
  dpllPinRefsDel dpll pin reg
  let p ← derefPin pin
  let dpllRefs := dpllXaRefDel p.dpllRefs dpll reg
  setPin pin { p with dpllRefs }
  if dpllRefs.isEmpty then
    modify fun s => { s with pinXa := s.pinXa.setMark p.id false }

/-- `dpll_pin_unregister`. -/
def dpllPinUnregister (dpll pin : Ptr) (ops : DpllPinOps) (priv : Ptr) : KernelM Unit := do
  let d ← derefDevice dpll
  let p ← derefPin pin
  if ¬d.pinRefs.isEmpty ∧ p.parentRefs.isEmpty then
    dpllPinEventSend .delete pin
    _dpllPinUnregister dpll pin ⟨ops, priv, 0⟩

/-- The loop of `dpll_pin_on_pin_register`; the pin is registered on the devices in `done`
already. -/
def dpllPinOnPinLoop (pin : Ptr) (reg : DpllPinRegistration) (done : List Ptr) :
    List Ptr → KernelM Unit
  | [] => return ()
  | dpll :: rest => do
    let unregisterDone := done.forM fun dpll => do
      _dpllPinUnregister dpll pin reg
      dpllPinEventSend .delete pin
    unwind unregisterDone (_dpllPinRegister dpll pin reg)
    dpllPinEventSend .create pin
    dpllPinOnPinLoop pin reg (done ++ [dpll]) rest

/-- `dpll_pin_on_pin_register`. -/
def dpllPinOnPinRegister (parent pin : Ptr) (ops : DpllPinOps) (priv : Ptr) : KernelM Unit := do
  let par ← derefPin parent
  failIf (par.prop.type ≠ DPLL_PIN_TYPE_MUX) .EINVAL
  failIf (ops.addr = 0 ∨ ¬ops.stateOnPinGet ∨ ¬ops.directionGet) .EINVAL
  let p ← derefPin pin
  let parentRefs ← dpllXaRefPinAdd p.parentRefs parent ⟨ops, priv, pin⟩
  setPin pin { p with parentRefs, refcount := p.refcount + 1 }
  let dropParent := do
    let p ← derefPin pin
    setPin pin { p with
      refcount := p.refcount - 1
      parentRefs := dpllXaRefDel p.parentRefs parent ⟨ops, priv, pin⟩ }
  let par ← derefPin parent
  unwind dropParent
    (dpllPinOnPinLoop pin ⟨ops, priv, parent⟩ [] (par.dpllRefs.values.map DpllPinRef.target))

/-- `dpll_pin_on_pin_unregister`. -/
def dpllPinOnPinUnregister (parent pin : Ptr) (ops : DpllPinOps) (priv : Ptr) : KernelM Unit := do
  dpllPinEventSend .delete pin
  let p ← derefPin pin
  setPin pin { p with
    parentRefs := dpllXaRefDel p.parentRefs parent ⟨ops, priv, pin⟩
    refcount := p.refcount - 1 }
  (p.dpllRefs.values.map DpllPinRef.target).forM fun dpll =>
    _dpllPinUnregister dpll pin ⟨ops, priv, parent⟩

end Netdevsim
