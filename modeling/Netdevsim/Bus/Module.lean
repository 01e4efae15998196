import Netdevsim.Bus.NewDevice

/-!
# Loading and unloading the module

`nsim_module_init` starts the fake PCI bus first and does not look at the result, so that the module
may be loaded with no root bus.
-/

namespace Netdevsim.Bus

open Program

/-! ## Data -/

/-- What `nsim_module_init` sets up. -/
structure Module where
  bus : BusWorld
  nsimDevDdir : Bool
  busRegistered : Bool
  driverRegistered : Bool
  linkOps : Bool

abbrev ModuleM (α : Type) := Program Module Failure α

/-- A program of the bus. -/
def onBus {α : Type} (m : BusM α) : ModuleM α := zoom Module.bus (fun bus s => { s with bus }) m

/-- The module before `nsim_module_init`, with the value of its parameter. -/
def Module.loaded (pciBusNr : Int32) : Module :=
  ⟨⟨.loaded pciBusNr, fun _ => none, 0, ∅, [], false, 0⟩, false, false, false, false⟩

/-- How the calls of `nsim_module_init` end. -/
structure ModuleFaults where
  fakepci : FakePciFaults
  debugfsCreateDir : Option Errno
  busRegister : Option Errno
  driverRegister : Option Errno
  rtnlLinkRegister : Option Errno

/-! ## Starting and stopping -/

/-- `nsim_dev_init`. -/
def nsimDevInit (debugfsCreateDir : Option Errno) : ModuleM Unit := do
  call debugfsCreateDir
  modify fun s => { s with nsimDevDdir := true }

/-- `nsim_dev_exit`. -/
def nsimDevExit : ModuleM Unit := modify fun s => { s with nsimDevDdir := false }

/-- `nsim_bus_init`. -/
def nsimBusInit (busRegister driverRegister : Option Errno) : ModuleM Unit := do
  call busRegister
  modify fun s => { s with busRegistered := true }
  unwind (modify fun s => { s with busRegistered := false }) (call driverRegister)
  modify fun s => { s with driverRegistered := true }
  modify fun s => { s with bus := { s.bus with nsimBusDevs := 1, nsimBusEnable := true } }

/-- `list_del` and `nsim_bus_dev_del`. -/
def unlistAndDel (p : Ptr) : BusM Unit := do
  modify fun w => { w with nsimBusDevList := w.nsimBusDevList.erase p }
  nsimBusDevDel p

/-- `nsim_bus_exit`, which waits for ever if the count of devices does not get to 0. -/
def nsimBusExit : ModuleM Unit := do
  modify fun s => { s with
    bus := { s.bus with nsimBusEnable := false, nsimBusDevs := s.bus.nsimBusDevs - 1 } }
  onBus ((← get).bus.nsimBusDevList.forM unlistAndDel)
  if (← get).bus.nsimBusDevs ≠ 0 then goWrong
  modify fun s => { s with driverRegistered := false, busRegistered := false }

/-- `nsim_module_init`. -/
def nsimModuleInit (faults : ModuleFaults) : ModuleM Unit := do
  onBus (ignoreErrno (onPci (fakepciInit faults.fakepci)))
  nsimDevInit faults.debugfsCreateDir
  unwind nsimDevExit do
    nsimBusInit faults.busRegister faults.driverRegister
    unwind nsimBusExit do
      call faults.rtnlLinkRegister
      modify fun s => { s with linkOps := true }

/-- `nsim_module_exit`. -/
def nsimModuleExit : ModuleM Unit := do
  modify fun s => { s with linkOps := false }
  nsimBusExit
  nsimDevExit
  onBus (onPci fakepciExit)

/-! ## Runs -/

/-- A write to a file of the bus. -/
inductive ModuleOp where
  | newDevice (buf : Bytes) (faults : NewDeviceFaults)
  | delDevice (buf : Bytes)
  deriving DecidableEq, Repr

def ModuleOp.program : ModuleOp → ModuleM Unit
  | .newDevice buf faults => onBus (newDeviceStore buf faults)
  | .delDevice buf => onBus (delDeviceStore buf)

/-- The module after `nsim_module_init` succeeded. -/
def moduleSystem (pciBusNr : Int32) (faults : ModuleFaults) : TransitionSystem Module ModuleOp where
  init s := (nsimModuleInit faults).exec (.loaded pciBusNr) = some (.ok (), s)
  step s op t := ∃ result, op.program.exec s = some (result, t)

/-- No write and no unloading of the module follows `root_bus` when it is NULL. -/
def RootBusIsThere (pciBusNr : Int32) (faults : ModuleFaults) : Prop :=
  ∀ s, (moduleSystem pciBusNr faults).Reachable s →
    (∀ (op : ModuleOp) t, op.program.exec s ≠ some (.error (.oops .rootBus), t)) ∧
    ∀ t, nsimModuleExit.exec s ≠ some (.error (.oops .rootBus), t)

/-- Unloading the module leaves the fake PCI driver as it was before the module was loaded, but for
the bus number. -/
def ExitUndoesInit (pciBusNr : Int32) (faults : ModuleFaults) : Prop :=
  ∀ s, (moduleSystem pciBusNr faults).Reachable s →
    ∃ t, nsimModuleExit.exec s = some (.ok (), t) ∧ t.bus.pci = .loaded t.bus.pci.pciBusNr

/-! ## Conditions on the calls -/

/-- `nsim_module_init` fails. -/
def ModuleInitFails (faults : ModuleFaults) : Prop :=
  faults.debugfsCreateDir ≠ none ∨ faults.busRegister ≠ none ∨ faults.driverRegister ≠ none ∨
    faults.rtnlLinkRegister ≠ none

/-- The parameter is a bus number, or negative with a bus number that is free. -/
def GoodBusNr (pciBusNr : Int32) (taken : ℕ → Bool) : Prop :=
  if 0 ≤ pciBusNr then pciBusNr ≤ 255 else 0 ≤ findFreeBusNumber taken

/-- `fakepci_init` creates the root bus. -/
structure GetsRootBus (pciBusNr : Int32) (faults : FakePciFaults) : Prop where
  registerDriver : faults.registerDriver = none
  busNr : GoodBusNr pciBusNr faults.taken
  rootDeviceRegister : faults.rootDeviceRegister = none
  createRootBus : faults.createRootBus ≠ none

/-- `fakepci_init` does not create the fake device with the device and function 0. -/
def NoFirstDevice (faults : FakePciFaults) : Prop :=
  faults.fakeDevice = true ∨ ∀ domainNr ∈ faults.createRootBus,
    ((UInt16.ofInt domainNr.toInt).toNat : ℤ) ≠ domainNr.toInt

end Netdevsim.Bus
