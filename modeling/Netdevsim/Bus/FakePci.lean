import Netdevsim.Kernel
import Netdevsim.Lib.Program
import Netdevsim.Lib.Runs

/-!
# The fake PCI bus

The list of fake PCI devices and the functions that create, find and remove them.  A device with a
function other than 0 is only created next to one with the function 0, but the one with the function
0 can be removed first.
-/

namespace Netdevsim.Bus

open Program

/-- A pointer that may be NULL where it is used. -/
inductive NullPointer where
  | rootBus | busStr
  deriving DecidableEq, Repr

/-- How a call may fail: with an error, or because the kernel kills the caller at a NULL pointer. -/
inductive Failure where
  | errno (e : Errno) | oops (pointer : NullPointer)
  deriving DecidableEq, Repr

abbrev Ptr := ℕ

/-! ## Data -/

/-- `struct pci_addr`. -/
structure PciAddr where
  domain : UInt16
  bus : UInt8
  device : UInt8
  function : UInt8
  deriving DecidableEq, Repr

/-- What is used of a `struct pci_bus`. -/
structure PciBus where
  number : UInt8
  domainNr : Int32
  deriving DecidableEq, Repr

/-- `struct fake_pci_device`. -/
structure FakePciDevice where
  pciDev : Option Ptr
  bus : UInt8
  device : UInt8
  function : UInt8
  deriving DecidableEq, Repr

/-- What tells a fake device from the others. -/
def FakePciDevice.key (dev : FakePciDevice) : UInt8 × UInt8 × UInt8 :=
  (dev.bus, dev.device, dev.function)

/-- The variables of the fake PCI driver. -/
structure FakePci where
  pciBusNr : Int32
  /-- Whether `fake_pci_driver` is registered. -/
  driver : Bool
  /-- Whether `fake_bridge_parent_dev` is registered. -/
  parentDev : Bool
  rootBus : Option PciBus
  fakeDevicesList : List FakePciDevice
  deriving DecidableEq, Repr

abbrev PciM (α : Type) := Program FakePci Failure α

/-- `find_fake_device`. -/
def findFakeDevice (s : FakePci) (bus device function : UInt8) : Option FakePciDevice :=
  s.fakeDevicesList.find? (·.key = (bus, device, function))

/-- A use of `root_bus` that reads what it points to. -/
def derefRootBus : PciM PciBus := do
  match (← get).rootBus with
  | some bus => return bus
  | none => throw (.oops .rootBus)

/-- The address is on the bus of the driver. -/
def checkAddr (addr : PciAddr) : PciM PciBus := do
  let root ← derefRootBus
  failIf ((addr.domain.toNat : ℤ) ≠ root.domainNr.toInt) (.errno .ENODEV)
  failIf ((addr.bus.toNat : ℤ) ≠ (← get).pciBusNr.toInt) (.errno .ENODEV)
  return root

/-! ## Operations -/

/-- `fake_pci_probe`. -/
def fakePciProbe (bus : UInt8) (pdev : Ptr) (device function : UInt8) : FakePciDevice → FakePciDevice :=
  fun dev => if dev.key = (bus, device, function) then { dev with pciDev := some pdev } else dev

/-- `pci_rescan_bus`: the PCI devices for which the PCI core calls `fake_pci_probe`. -/
def pciRescanBus (root : PciBus) (probed : List (Ptr × UInt8 × UInt8)) : PciM Unit :=
  modify fun s => { s with fakeDevicesList := probed.foldl (fun devs p =>
    devs.map (fakePciProbe root.number p.1 p.2.1 p.2.2)) s.fakeDevicesList }

/-- `create_fake_pci_device`, with the outcome of its allocation and what the rescan finds. -/
def createFakePciDevice (addr : PciAddr) (fault : Bool) (probed : List (Ptr × UInt8 × UInt8)) :
    PciM Unit := do
  let root ← checkAddr addr
  let s ← get
  failIf (addr.function ≠ 0 ∧ findFakeDevice s addr.bus addr.device 0 = none) (.errno .ENODEV)
  failIf (findFakeDevice s addr.bus addr.device addr.function).isSome (.errno .EEXIST)
  failIf fault (.errno .ENOMEM)
  set { s with fakeDevicesList :=
    ⟨none, root.number, addr.device, addr.function⟩ :: s.fakeDevicesList }
  pciRescanBus root probed

/-- `remove_fake_pci_device`.  The PCI device goes with it, whose removal finds nothing on the
list. -/
def removeFakePciDevice (addr : PciAddr) : PciM Unit := do
  let _ ← checkAddr addr
  let s ← get
  match findFakeDevice s addr.bus addr.device addr.function with
  | none => throw (.errno .ENODEV)
  | some dev => set { s with fakeDevicesList := s.fakeDevicesList.erase dev }

/-- `find_fake_pci_device_by_addr`: an address that is not on the bus is no error. -/
def findFakePciDeviceByAddr (addr : PciAddr) : PciM (Option Ptr) := do
  let root ← derefRootBus
  let s ← get
  if (addr.domain.toNat : ℤ) ≠ root.domainNr.toInt then return none
  else if (addr.bus.toNat : ℤ) ≠ s.pciBusNr.toInt then return none
  else return (findFakeDevice s addr.bus addr.device addr.function).bind (·.pciDev)

/-! ## Starting and stopping -/

/-- `find_free_bus_number`, given the buses there are. -/
def findFreeBusNumber (taken : ℕ → Bool) : Int32 :=
  match (List.range 256).find? (!taken ·) with
  | some n => Int32.ofNat n
  | none => -19

/-- How the calls of `fakepci_init` end. -/
structure FakePciFaults where
  registerDriver : Option Errno
  taken : ℕ → Bool
  rootDeviceRegister : Option Errno
  /-- The domain of the new root bus, if there is one. -/
  createRootBus : Option Int32
  fakeDevice : Bool
  probed : List (Ptr × UInt8 × UInt8)

/-- A call with this outcome. -/
def call {σ : Type} (outcome : Option Errno) : Program σ Failure Unit :=
  match outcome with
  | some e => throw (.errno e)
  | none => pure ()

/-- The bus number that `fakepci_init` settles on. -/
def choosePciBusNr (taken : ℕ → Bool) : PciM Unit := do
  let s ← get
  if 0 ≤ s.pciBusNr then failIf (255 < s.pciBusNr) (.errno .ENODEV)
  else
    set { s with pciBusNr := findFreeBusNumber taken }
    failIf (findFreeBusNumber taken < 0) (.errno .ENOMEM)

/-- `fakepci_init`. -/
def fakepciInit (faults : FakePciFaults) : PciM Unit := do
  call faults.registerDriver
  modify fun s => { s with driver := true }
  choosePciBusNr faults.taken
  call faults.rootDeviceRegister
  modify fun s => { s with parentDev := true }
  match faults.createRootBus with
  | none => throw (.errno .ENODEV)
  | some domainNr =>
    modify fun s => { s with rootBus := some ⟨UInt8.ofNat s.pciBusNr.toInt.toNat, domainNr⟩ }
    let s ← get
    createFakePciDevice ⟨UInt16.ofInt domainNr.toInt, UInt8.ofInt s.pciBusNr.toInt, 0, 0⟩
      faults.fakeDevice faults.probed

/-- `fakepci_exit`: what was not registered cannot be unregistered. -/
def fakepciExit : PciM Unit := do
  let _ ← derefRootBus
  modify fun s => { s with rootBus := none }
  if (← get).parentDev then modify fun s => { s with parentDev := false } else goWrong
  if (← get).driver then modify fun s => { s with driver := false } else goWrong

/-- The driver as it is loaded, with the value of the module parameter. -/
def FakePci.loaded (pciBusNr : Int32) : FakePci := ⟨pciBusNr, false, false, none, []⟩

/-- A call to create or remove a fake device. -/
inductive FakePciOp where
  | create (addr : PciAddr) (fault : Bool) (probed : List (Ptr × UInt8 × UInt8))
  | remove (addr : PciAddr)
  deriving DecidableEq, Repr

def FakePciOp.program : FakePciOp → PciM Unit
  | .create addr fault probed => createFakePciDevice addr fault probed
  | .remove addr => removeFakePciDevice addr

/-- The fake PCI bus after `fakepci_init` succeeded. -/
def fakePciSystem : TransitionSystem FakePci FakePciOp where
  init s := ∃ pciBusNr faults, (fakepciInit faults).exec (.loaded pciBusNr) = some (.ok (), s)
  step s op t := ∃ result, op.program.exec s = some (result, t)

end Netdevsim.Bus
