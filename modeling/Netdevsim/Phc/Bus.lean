import Netdevsim.Lib.Program
import Netdevsim.Lib.Runs
import Netdevsim.Phc.Table

/-!
# The bus devices and the PHCs of their PF ports

Creating and deleting bus devices and PF ports, as far as their PHCs go.  The net device of a PF
port gets its PHC in `nsimInitNetdevsim`: the one with the logical id of its bus device, if the
lookup finds one, and a new one otherwise.  The VF ports have no PHC and are left out; everything
else that may fail does so through `mayFail`.
-/

namespace Netdevsim.Phc

open Program

/-- `struct nsim_bus_dev`. -/
structure NsimBusDev where
  addr : Ptr
  id : UInt32
  logicalClkId : Int32
  deriving DecidableEq, Repr

/-- The port of a PF and its `struct netdevsim`. -/
structure PfPort where
  busDev : NsimBusDev
  portIndex : UInt32
  phc : Ptr
  deriving DecidableEq, Repr

structure PhcWorld where
  table : PhcTable
  /-- The devices registered on the bus. -/
  busDevs : List NsimBusDev
  /-- Whether the driver is bound to the device at an address: it has set its `drvdata`. -/
  drvdata : Ptr → Bool
  /-- The PF ports of all devices, the newest first. -/
  ports : List PfPort
  /-- What the coming calls that may fail return. -/
  faults : List (Option Errno)

abbrev PhcM (α : Type) := Program PhcWorld Errno α

/-- The result of the next call that may fail. -/
def fault : PhcM (Option Errno) := do
  let w ← get
  match w.faults with
  | [] => return none
  | f :: faults =>
    set { w with faults }
    return f

/-- A call that may fail with any error. -/
def mayFail : PhcM Unit := do
  match ← fault with
  | some e => throw e
  | none => return ()

def modifyTable (f : PhcTable → PhcTable) : PhcM Unit := modify fun w => { w with table := f w.table }

/-! ## PHCs -/

/-- `mock_phc_release`. -/
def mockPhcRelease (phc : Ptr) : PhcM Unit := do
  let interrupted ← fault
  modifyTable (·.mockPhcRelease phc interrupted.isSome)

/-- `mock_phc_create`. -/
def mockPhcCreate (dev : Ptr) (logicalClkId : Int32) : PhcM Ptr := do
  -- the allocation, and ptp_clock_register
  mayFail
  let phc := (← get).table.nextPtr
  modifyTable (·.register dev logicalClkId)
  let interrupted ← fault
  -- sysfs_create_file
  unwind (modifyTable (·.mockPhcDestroy phc interrupted.isSome)) mayFail
  return phc

/-- What `nsim_init_netdevsim` looks up. -/
def lookupPhc (logicalClkId : Int32) : PhcM (Option PtpClassDev) := do
  if logicalClkId ≠ -1 then return ((← get).table.getPtpClockByLogicalClkId logicalClkId).2
  else return none

/-- The first half of `nsim_init_netdevsim`: the PHC that the lookup finds, or a new one.  A virtual
clock taken for a mock PHC is written to. -/
def shareOrCreatePhc (busDev : NsimBusDev) : PhcM Ptr := do
  match ← lookupPhc busDev.logicalClkId with
  | none => mockPhcCreate busDev.addr busDev.logicalClkId
  | some (.mock phc) =>
    modifyTable (·.krefGet phc)
    return phc
  | some (.vclock _ _) => goWrong

/-- `nsim_init_netdevsim`: the PHC of the new net device. -/
def nsimInitNetdevsim (busDev : NsimBusDev) : PhcM Ptr := do
  let phc ← shareOrCreatePhc busDev
  -- nsim_udp_tunnels_info_create, nsim_bpf_init, register_netdevice
  unwind (mockPhcRelease phc) mayFail
  return phc

/-! ## Ports -/

/-- `nsim_create`. -/
def nsimCreate (busDev : NsimBusDev) : PhcM Ptr := do
  -- alloc_netdev_mq
  mayFail
  nsimInitNetdevsim busDev

/-- `__nsim_dev_port_add`. -/
def _nsimDevPortAdd (busDev : NsimBusDev) (portIndex : UInt32) : PhcM Unit := do
  -- the allocation, devl_port_register, nsim_dev_port_debugfs_init
  mayFail
  let phc ← nsimCreate busDev
  modify fun w => { w with ports := ⟨busDev, portIndex, phc⟩ :: w.ports }

/-- `__nsim_dev_port_del`, with `nsim_destroy` and `nsim_exit_netdevsim`. -/
def _nsimDevPortDel (port : PfPort) : PhcM Unit := do
  modify fun w => { w with ports := w.ports.erase port }
  mockPhcRelease port.phc

/-- `nsim_dev_port_del_all`. -/
def nsimDevPortDelAll (busDev : NsimBusDev) : PhcM Unit := do
  let w ← get
  (w.ports.filter (·.busDev = busDev)).forM _nsimDevPortDel

/-- `nsim_dev_port_add_all`. -/
def nsimDevPortAddAll (busDev : NsimBusDev) (portCount : UInt32) : PhcM Unit :=
  unwind (nsimDevPortDelAll busDev)
    ((List.range portCount.toNat).forM fun i => _nsimDevPortAdd busDev (UInt32.ofNat i))

/-- `__nsim_dev_port_lookup`. -/
def _nsimDevPortLookup (w : PhcWorld) (busDev : NsimBusDev) (portIndex : UInt32) : Option PfPort :=
  w.ports.find? fun port => port.busDev = busDev ∧ port.portIndex = portIndex

/-- `nsim_drv_port_add`. -/
def nsimDrvPortAdd (busDev : NsimBusDev) (portIndex : UInt32) : PhcM Unit := do
  let w ← get
  failIf (_nsimDevPortLookup w busDev portIndex).isSome .EEXIST
  _nsimDevPortAdd busDev portIndex

/-- `nsim_drv_port_del`. -/
def nsimDrvPortDel (busDev : NsimBusDev) (portIndex : UInt32) : PhcM Unit := do
  match _nsimDevPortLookup (← get) busDev portIndex with
  | none => throw .ENOENT
  | some port => _nsimDevPortDel port

/-! ## Devices -/

/-- `nsim_drv_probe`. -/
def nsimDrvProbe (busDev : NsimBusDev) (portCount : UInt32) : PhcM Unit := do
  -- all that is set up before the ports
  mayFail
  nsimDevPortAddAll busDev portCount
  -- nsim_dpll_init
  unwind (nsimDevPortDelAll busDev) mayFail

/-- `nsim_drv_remove`. -/
def nsimDrvRemove (busDev : NsimBusDev) : PhcM Unit := nsimDevPortDelAll busDev

/-- `nsim_bus_dev_new`.  The device is on the bus whether or not the driver could be bound. -/
def nsimBusDevNew (id : UInt32) (logicalClkId : Int32) (portCount : UInt32) : PhcM Unit := do
  -- the allocation and the fake PCI device
  mayFail
  -- ida_alloc_range
  let w ← get
  failIf (w.busDevs.any (·.id = id)) .ENOSPC
  -- device_register
  mayFail
  let busDev : NsimBusDev := ⟨w.table.nextPtr, id, logicalClkId⟩
  modify fun w => { w with
    table := { w.table with nextPtr := w.table.nextPtr + 1 }
    busDevs := w.busDevs ++ [busDev] }
  let bound ← attempt (nsimDrvProbe busDev portCount)
  modify fun w => { w with drvdata := Function.update w.drvdata busDev.addr bound }

/-- `nsim_bus_remove`, if the driver is bound. -/
def nsimBusRemove (busDev : NsimBusDev) : PhcM Unit := do
  let w ← get
  if w.drvdata busDev.addr then nsimDrvRemove busDev else pure ()

/-- `nsim_bus_dev_del`. -/
def nsimBusDevDel (busDev : NsimBusDev) : PhcM Unit := do
  nsimBusRemove busDev
  modify fun w => { w with
    drvdata := Function.update w.drvdata busDev.addr false
    busDevs := w.busDevs.erase busDev }

/-- The device of an id. -/
def PhcWorld.busDev (w : PhcWorld) (id : UInt32) : Option NsimBusDev := w.busDevs.find? (·.id = id)

/-- `del_device_store`. -/
def delDeviceStore (id : UInt32) : PhcM Unit := do
  match (← get).busDev id with
  | none => throw .ENOENT
  | some busDev => nsimBusDevDel busDev

/-! ## Runs -/

/-- What a user can do. -/
inductive PhcOp where
  | newDevice (id : UInt32) (logicalClkId : Int32) (portCount : UInt32)
  | delDevice (id : UInt32)
  | newPort (id portIndex : UInt32) | delPort (id portIndex : UInt32)
  | nVclocks (phc : Ptr) (buf : Bytes) (attempts : List Bool)
  deriving DecidableEq, Repr

/-- A port is created or deleted on a device that the driver is bound to. -/
def onBound (id : UInt32) (m : NsimBusDev → PhcM Unit) : PhcM Unit := do
  let w ← get
  match w.busDev id with
  | none => throw .ENOENT
  | some busDev => if w.drvdata busDev.addr then m busDev else goWrong

/-- A write to `n_vclocks`. -/
def nVclocksStore (phc : Ptr) (buf : Bytes) (attempts : List Bool) : PhcM Unit := do
  let interrupted ← fault
  let (table, err) := (← get).table.nVclocksStore phc interrupted.isSome buf attempts
  modify fun w => { w with table }
  match err with
  | some e => throw e
  | none => return ()

/-- What the driver runs. -/
def PhcOp.program : PhcOp → PhcM Unit
  | .newDevice id logicalClkId portCount => nsimBusDevNew id logicalClkId portCount
  | .delDevice id => delDeviceStore id
  | .newPort id portIndex => onBound id (nsimDrvPortAdd · portIndex)
  | .delPort id portIndex => onBound id (nsimDrvPortDel · portIndex)
  | .nVclocks phc buf attempts => nVclocksStore phc buf attempts

/-- The state in which the module was loaded. -/
def PhcWorld.loaded (stray : Ptr → Int32) : PhcWorld := ⟨.empty stray, [], fun _ => false, [], []⟩

/-- The bus with its devices.  A label is an operation and what its calls that may fail return. -/
def phcSystem : TransitionSystem PhcWorld (List (Option Errno) × PhcOp) where
  init w := ∃ stray, w = .loaded stray
  step w a t := ∃ result, a.2.program.exec { w with faults := a.1 } = some (result, t)

end Netdevsim.Phc
