import Netdevsim.Bus.Function0
import Netdevsim.Lib.Erasure
import Netdevsim.Lib.Total
import Netdevsim.Scanf

/-!
# Creating and deleting bus devices

`new_device` and `del_device` with all they take and give back: the fake PCI device, the id, the
`struct nsim_bus_dev` and its place on the list and in the count of devices.  A device that was
freed, or that there is none of, cannot be read.
-/

namespace Netdevsim.Bus

open Program

/-! ## Data -/

/-- `struct nsim_bus_dev`. -/
structure NsimBusDev where
  pciAddr : PciAddr
  id : UInt32
  portCount : UInt32
  numQueues : UInt32
  maxVfs : UInt32
  logicalClkId : Int32
  wpc : Bool
  init : Bool
  /-- Whether the driver is bound. -/
  drvdata : Bool
  deriving DecidableEq, Repr

/-- What `kzalloc` leaves in a `struct nsim_bus_dev`. -/
def NsimBusDev.zero : NsimBusDev := ⟨⟨0, 0, 0, 0⟩, 0, 0, 0, 0, 0, false, false, false⟩

/-- The variables of the bus. -/
structure BusWorld where
  pci : FakePci
  /-- The `struct nsim_bus_dev`s in memory. -/
  busDev : Ptr → Option NsimBusDev
  nextPtr : Ptr
  nsimBusDevIds : Finset UInt32
  nsimBusDevList : List Ptr
  nsimBusEnable : Bool
  nsimBusDevs : ℕ

abbrev BusM (α : Type) := Program BusWorld Failure α

/-- A program of the fake PCI bus. -/
def onPci {α : Type} (m : PciM α) : BusM α := zoom BusWorld.pci (fun pci w => { w with pci }) m

/-- How the calls that may fail end while a device is created. -/
structure NewDeviceFaults where
  busStr : Bool
  busDev : Bool
  fakeDevice : Bool
  probed : List (Ptr × UInt8 × UInt8)
  ida : Bool
  deviceRegister : Option Errno
  /-- What `nsim_drv_probe` returns, which `device_register` does not look at. -/
  probe : Option Errno
  deriving DecidableEq, Repr

/-! ## Lines -/

/-- The values of a line written to `new_device`. -/
structure NewDeviceLine where
  id : UInt32
  busStr : Bytes
  clkLogicalId : Int32
  portCount : UInt32
  numQueues : UInt32
  wpc : UInt32
  deriving DecidableEq, Repr

/-- `"%u %s %d %u %u %u"`. -/
def newDeviceFormat : List ScanDirective :=
  [.u, .space, .str, .space, .int, .space, .u, .space, .u, .space, .u]

def defaultPciAddr : Bytes := ascii "0000:00:01.0"

/-- The values of a line, with the defaults of those it omits; `%s` copies the whole word, whatever
the size of the buffer. -/
def newDeviceValues (buf : Bytes) : Option NewDeviceLine :=
  match sscanf buf newDeviceFormat with
  | [.uint id] => some ⟨id, defaultPciAddr, -1, 1, 1, 0⟩
  | [.uint id, .str busStr] => some ⟨id, busStr, -1, 1, 1, 0⟩
  | [.uint id, .str busStr, .int clk] => some ⟨id, busStr, clk, 1, 1, 0⟩
  | [.uint id, .str busStr, .int clk, .uint ports] => some ⟨id, busStr, clk, ports, 1, 0⟩
  | [.uint id, .str busStr, .int clk, .uint ports, .uint queues] =>
    some ⟨id, busStr, clk, ports, queues, 0⟩
  | [.uint id, .str busStr, .int clk, .uint ports, .uint queues, .uint wpc] =>
    some ⟨id, busStr, clk, ports, queues, wpc⟩
  | _ => none

/-- `"%04x:%02x:%02x.%01x"`. -/
def pciAddrFormat : List ScanDirective :=
  [.uint 16 4, .char 58, .uint 16 2, .char 58, .uint 16 2, .char 46, .uint 16 1]

/-- `parse_pci_address`. -/
def parsePciAddress (str : Bytes) : Except Errno PciAddr :=
  match sscanf str pciAddrFormat with
  | [.uint domain, .uint bus, .uint device, .uint function] =>
    if 255 < bus ∨ 31 < device ∨ 7 < function then .error .EINVAL
    else .ok ⟨domain.toUInt16, bus.toUInt8, device.toUInt8, function.toUInt8⟩
  | _ => .error .EINVAL

example : parsePciAddress (ascii "0000:20:1f.7") = .ok ⟨0, 32, 31, 7⟩ := by decide

/-! ## Memory, ids and references -/

/-- A use of a `struct nsim_bus_dev`. -/
def derefBusDev (p : Ptr) : BusM NsimBusDev := do
  match (← get).busDev p with
  | some dev => return dev
  | none => goWrong

def setBusDev (p : Ptr) (dev : NsimBusDev) : BusM Unit :=
  modify fun w => { w with busDev := Function.update w.busDev p (some dev) }

/-- `kzalloc` of a `struct nsim_bus_dev`. -/
def kzallocBusDev (fault : Bool) : BusM Ptr := do
  failIf fault (.errno .ENOMEM)
  let w ← get
  set { w with busDev := Function.update w.busDev w.nextPtr (some .zero), nextPtr := w.nextPtr + 1 }
  return w.nextPtr

/-- `kfree` of a `struct nsim_bus_dev`. -/
def kfreeBusDev (p : Ptr) : BusM Unit :=
  modify fun w => { w with busDev := Function.update w.busDev p none }

/-- `ida_alloc_range` of one id. -/
def idaAlloc (id : UInt32) (fault : Bool) : BusM Unit := do
  let w ← get
  failIf fault (.errno .ENOMEM)
  failIf (id ∈ w.nsimBusDevIds) (.errno .ENOSPC)
  set { w with nsimBusDevIds := insert id w.nsimBusDevIds }

/-- `ida_free`. -/
def idaFree (id : UInt32) : BusM Unit :=
  modify fun w => { w with nsimBusDevIds := w.nsimBusDevIds.erase id }

/-- `nsim_bus_dev_release`, called when the last reference is dropped. -/
def nsimBusDevRelease (p : Ptr) : BusM Unit := do
  kfreeBusDev p
  modify fun w => { w with nsimBusDevs := w.nsimBusDevs - 1 }

/-- The body, and if it returns an error, the cleanup. -/
def onErrno {α : Type} (cleanup : BusM Unit) (m : BusM α) : BusM α :=
  tryCatch m fun
    | .oops pointer => throw (.oops pointer)
    | .errno e => do
      cleanup
      throw (.errno e)

/-- Whatever the call returns, go on. -/
def ignoreErrno (m : BusM Unit) : BusM Unit :=
  tryCatch m fun
    | .oops pointer => throw (.oops pointer)
    | .errno _ => pure ()

/-! ## Creating -/

/-- `nsim_bus_probe`, as far as the bus goes. -/
def nsimBusProbe (p : Ptr) (result : Option Errno) : BusM Unit := do
  let dev ← derefBusDev p
  let _ ← onPci (findFakePciDeviceByAddr dev.pciAddr)
  setBusDev p { dev with drvdata := result.isNone }

/-- `device_register`: what probing returns does not matter. -/
def deviceRegister (p : Ptr) (outcome probe : Option Errno) : BusM Unit :=
  match outcome with
  | some e => throw (.errno e)
  | none => nsimBusProbe p probe

def NSIM_BUS_DEV_MAX_VFS : UInt32 := 4

/-- `nsim_bus_dev_new`. -/
def nsimBusDevNew (line : NewDeviceLine) (faults : NewDeviceFaults) : BusM Ptr := do
  let p ← kzallocBusDev faults.busDev
  let addr ← onErrno (kfreeBusDev p) (match parsePciAddress line.busStr with
    | .error e => throw (.errno e)
    | .ok addr => pure addr)
  setBusDev p { NsimBusDev.zero with pciAddr := addr }
  onErrno (kfreeBusDev p) (onPci (createFakePciDevice addr faults.fakeDevice faults.probed))
  -- err_nsim_bus_dev_free, which frees the device and then reads its address
  onErrno (do
      kfreeBusDev p
      let dev ← derefBusDev p
      ignoreErrno (onPci (removeFakePciDevice dev.pciAddr)))
    (idaAlloc line.id faults.ida)
  setBusDev p {
    pciAddr := addr
    id := line.id
    portCount := line.portCount
    numQueues := line.numQueues
    maxVfs := NSIM_BUS_DEV_MAX_VFS
    logicalClkId := line.clkLogicalId
    wpc := line.wpc ≠ 0
    init := false
    drvdata := false }
  -- err_nsim_bus_dev_id_free, which goes on with a NULL pointer
  onErrno (do
      let dev ← derefBusDev p
      idaFree dev.id
      -- put_device
      nsimBusDevRelease p
      goWrong)
    (deviceRegister p faults.deviceRegister faults.probe)
  return p

/-- `new_device_store`.  The buffer for the address is written to if the line has an id. -/
def newDeviceStore (buf : Bytes) (faults : NewDeviceFaults) : BusM Unit := do
  match newDeviceValues buf with
  | none => throw (.errno .EINVAL)
  | some line =>
    failIf faults.busStr (.oops .busStr)
    failIf (INT_MAX < line.id.toNat) (.errno .EINVAL)
    failIf (¬(← get).nsimBusEnable) (.errno .EBUSY)
    let p ← nsimBusDevNew line faults
    modify fun w => { w with nsimBusDevs := w.nsimBusDevs + 1 }
    let dev ← derefBusDev p
    setBusDev p { dev with init := true }
    modify fun w => { w with nsimBusDevList := w.nsimBusDevList ++ [p] }

/-! ## Deleting -/

/-- `nsim_bus_remove`. -/
def nsimBusRemove (p : Ptr) : BusM Unit := do
  let dev ← derefBusDev p
  setBusDev p { dev with drvdata := false }

/-- `device_unregister`. -/
def deviceUnregister (p : Ptr) : BusM Unit := do
  let dev ← derefBusDev p
  if dev.drvdata then nsimBusRemove p
  nsimBusDevRelease p

/-- `nsim_bus_dev_del`: an error of `remove_fake_pci_device` is only printed. -/
def nsimBusDevDel (p : Ptr) : BusM Unit := do
  let dev ← derefBusDev p
  ignoreErrno (onPci (removeFakePciDevice dev.pciAddr))
  let dev ← derefBusDev p
  setBusDev p { dev with init := false }
  idaFree dev.id
  deviceUnregister p

/-- The first device on a list with the id. -/
def findBusDev (id : UInt32) : List Ptr → BusM (Option Ptr)
  | [] => return none
  | p :: ps => do
    let dev ← derefBusDev p
    if dev.id = id then return some p else findBusDev id ps

/-- `del_device_store`. -/
def delDeviceStore (buf : Bytes) : BusM Unit := do
  match sscanf buf [.u] with
  | [.uint id] =>
    failIf (INT_MAX < id.toNat) (.errno .EINVAL)
    let w ← get
    failIf (¬w.nsimBusEnable) (.errno .EBUSY)
    match ← findBusDev id w.nsimBusDevList with
    | none => throw (.errno .ENOENT)
    | some p =>
      modify fun w => { w with nsimBusDevList := w.nsimBusDevList.erase p }
      nsimBusDevDel p
  | _ => throw (.errno .EINVAL)

end Netdevsim.Bus
