import Netdevsim.Dpll.Init
import Netdevsim.Lib.Runs

/-!
# The netdevsim device

Probing, removing and reloading a device, its ports, its VFs and its eswitch mode.  The subsystems a
device sets up are live or not; the ports are modelled one by one.  What `devlink` and the net core
do is in the functions of their names.
-/

namespace Netdevsim

open Program

/-! ## Data -/

/-- `enum devlink_eswitch_mode`. -/
inductive EswitchMode where
  | LEGACY | SWITCHDEV
  deriving DecidableEq, Repr

/-- The subsystems that are set up and torn down as a whole. -/
inductive Component where
  | devlink | resources | params | dummyRegion | traps | debugfs | fib | health | bpf | psample
  | hwstats | takeSnapshot
  deriving DecidableEq, Repr

/-- `struct nsim_bus_dev`. -/
structure NsimBusDev where
  portCount : UInt32
  numQueues : UInt32
  wpc : Bool
  maxVfs : UInt32
  numVfs : UInt32
  deriving DecidableEq, Repr

/-- `struct nsim_dev`, and what `devlink` keeps of it. -/
structure NsimDev where
  busDev : NsimBusDev
  /-- The subsystems that are live. -/
  live : Finset Component
  /-- The ports, the newest first. -/
  portList : List NsimDevPort
  dpll : Option NsimDpllDev
  eswMode : EswitchMode
  dontAllowReload : Bool
  failReload : Bool
  /-- The indices of the ports registered with `devlink`. -/
  devlinkPorts : Finset UInt32
  /-- `devlink_is_reload_failed`. -/
  reloadFailed : Bool

/-- A device and the kernel it is in. -/
structure NsimWorld where
  kernel : KernelState
  dev : NsimDev

abbrev DevM (α : Type) := Program NsimWorld Errno α

/-- A program of the kernel, which does not see the device. -/
def inKernel {α : Type} (m : KernelM α) : DevM α := fun w =>
  (m.exec w.kernel).map fun (r, kernel) => (r, { w with kernel })

def getDev : DevM NsimDev := do return (← get).dev

def modifyDev (f : NsimDev → NsimDev) : DevM Unit := modify fun w => { w with dev := f w.dev }

/-! ## Ports -/

def NSIM_DEV_VF_PORT_INDEX_BASE : UInt32 := 128
def NSIM_DEV_VF_PORT_INDEX_MAX : UInt32 := 0xffffffff

/-- `nsim_dev_port_index`. -/
def nsimDevPortIndex (type : NsimDevPortType) (portIndex : UInt32) : UInt32 :=
  match type with
  | .VF => NSIM_DEV_VF_PORT_INDEX_BASE + portIndex
  | .PF => portIndex

/-- `devl_port_register`. -/
def devlPortRegister (portIndex : UInt32) : DevM Unit := do
  let dev ← getDev
  failIf (portIndex ∈ dev.devlinkPorts) .EBUSY
  inKernel mayRunOut
  modifyDev fun dev => { dev with devlinkPorts := insert portIndex dev.devlinkPorts }

/-- `devl_port_unregister`. -/
def devlPortUnregister (portIndex : UInt32) : DevM Unit :=
  modifyDev fun dev => { dev with devlinkPorts := dev.devlinkPorts.erase portIndex }

/-- `nsim_create`: the address of the new `struct netdevsim`.  There is no net device without
queues. -/
def nsimCreate : DevM Ptr := do
  let dev ← getDev
  failIf (dev.busDev.numQueues = 0) .ENOMEM
  let ns ← inKernel (kzalloc 1)
  -- nsim_init_netdevsim, nsim_init_netdevsim_vf
  inKernel mayFail
  modify fun w => { w with kernel := { w.kernel with
    netdev := Function.update w.kernel.netdev ns
      (some ⟨w.kernel.netdevName ns, dev.busDev.numQueues, 0⟩) } }
  return ns

/-- `nsim_destroy`. -/
def nsimDestroy (ns : Ptr) : DevM Unit :=
  modify fun w => { w with kernel := { w.kernel with
    netdev := Function.update w.kernel.netdev ns none } }

/-- `__nsim_dev_port_add`. -/
def _nsimDevPortAdd (type : NsimDevPortType) (portIndex : UInt32) : DevM Unit := do
  let dev ← getDev
  failIf (type = .VF ∧ dev.busDev.numVfs = 0) .EINVAL
  inKernel mayRunOut
  let index := nsimDevPortIndex type portIndex
  devlPortRegister index
  unwind (devlPortUnregister index) do
    -- nsim_dev_port_debugfs_init
    inKernel mayFail
    let ns ← nsimCreate
    -- devl_rate_leaf_create
    unwind (nsimDestroy ns) (if type = .VF then inKernel mayFail else pure ())
    modifyDev fun dev => { dev with portList := ⟨index, type, ns⟩ :: dev.portList }

/-- `__nsim_dev_port_del`. -/
def _nsimDevPortDel (port : NsimDevPort) : DevM Unit := do
  modifyDev fun dev => { dev with portList := dev.portList.erase port }
  nsimDestroy port.ns
  devlPortUnregister port.portIndex

/-- `nsim_dev_port_del_all`. -/
def nsimDevPortDelAll : DevM Unit := do
  let dev ← getDev
  dev.portList.forM _nsimDevPortDel

/-- The deletion of all VF ports. -/
def delVfPorts : DevM Unit := do
  let dev ← getDev
  (dev.portList.filter nsimDevPortIsVf).forM _nsimDevPortDel

/-- `nsim_dev_port_add_all`. -/
def nsimDevPortAddAll (portCount : UInt32) : DevM Unit :=
  unwind nsimDevPortDelAll
    ((List.range portCount.toNat).forM fun i => _nsimDevPortAdd .PF (UInt32.ofNat i))

/-- `__nsim_dev_port_lookup`: only the index of a port is compared. -/
def _nsimDevPortLookup (dev : NsimDev) (type : NsimDevPortType) (portIndex : UInt32) :
    Option NsimDevPort :=
  dev.portList.find? (·.portIndex = nsimDevPortIndex type portIndex)

/-- `nsim_drv_port_add`. -/
def nsimDrvPortAdd (type : NsimDevPortType) (portIndex : UInt32) : DevM Unit := do
  let dev ← getDev
  failIf (_nsimDevPortLookup dev type portIndex).isSome .EEXIST
  _nsimDevPortAdd type portIndex

/-- `nsim_drv_port_del`. -/
def nsimDrvPortDel (type : NsimDevPortType) (portIndex : UInt32) : DevM Unit := do
  let dev ← getDev
  match _nsimDevPortLookup dev type portIndex with
  | none => throw .ENOENT
  | some port => _nsimDevPortDel port

/-! ## VFs and the eswitch mode -/

/-- `nsim_bus_dev_set_vfs`. -/
def nsimBusDevSetVfs (numVfs : UInt32) : DevM Unit :=
  modifyDev fun dev => { dev with busDev := { dev.busDev with numVfs } }

/-- `nsim_esw_legacy_enable`. -/
def nsimEswLegacyEnable : DevM Unit := do
  delVfPorts
  modifyDev fun dev => { dev with eswMode := .LEGACY }

/-- `nsim_esw_switchdev_enable`. -/
def nsimEswSwitchdevEnable : DevM Unit := do
  let dev ← getDev
  unwind delVfPorts
    ((List.range dev.busDev.numVfs.toNat).forM fun i => _nsimDevPortAdd .VF (UInt32.ofNat i))
  modifyDev fun dev => { dev with eswMode := .SWITCHDEV }

/-- `nsim_devlink_eswitch_mode_set`. -/
def nsimDevlinkEswitchModeSet (mode : EswitchMode) : DevM Unit := do
  let dev ← getDev
  if mode = dev.eswMode then pure ()
  else match mode with
    | .LEGACY => nsimEswLegacyEnable
    | .SWITCHDEV => nsimEswSwitchdevEnable

/-- `nsim_drv_configure_vfs`. -/
def nsimDrvConfigureVfs (numVfs : UInt32) : DevM Unit := do
  let dev ← getDev
  if dev.busDev.numVfs = numVfs then pure ()
  else
    failIf (dev.busDev.numVfs ≠ 0 ∧ numVfs ≠ 0) .EBUSY
    failIf (dev.busDev.maxVfs < numVfs) .ENOMEM
    nsimBusDevSetVfs numVfs
    if dev.eswMode = .SWITCHDEV then
      if numVfs ≠ 0 then unwind (nsimBusDevSetVfs 0) nsimEswSwitchdevEnable
      else nsimEswLegacyEnable
    else pure ()

/-- `nsim_bus_dev_max_vfs_write`, once the number has been parsed. -/
def nsimBusDevMaxVfsWrite (val : UInt32) : DevM Unit := do
  failIf (NSIM_DEV_VF_PORT_INDEX_MAX - NSIM_DEV_VF_PORT_INDEX_BASE < val) .ERANGE
  -- the VF configurations
  inKernel mayRunOut
  let dev ← getDev
  failIf (dev.busDev.numVfs ≠ 0) .EBUSY
  modifyDev fun dev => { dev with busDev := { dev.busDev with maxVfs := val } }

/-! ## Subsystems -/

/-- Setting a subsystem up. -/
def initComponent (c : Component) : DevM Unit := do
  inKernel mayFail
  modifyDev fun dev => { dev with live := insert c dev.live }

/-- Tearing a subsystem down. -/
def exitComponent (c : Component) : DevM Unit :=
  modifyDev fun dev => { dev with live := dev.live.erase c }

def devlRegister : DevM Unit := initComponent .devlink
def devlUnregister : DevM Unit := exitComponent .devlink
def nsimDevResourcesRegister : DevM Unit := initComponent .resources
def devlResourcesUnregister : DevM Unit := exitComponent .resources
def devlParamsRegister : DevM Unit := initComponent .params
def devlParamsUnregister : DevM Unit := exitComponent .params
def nsimDevDummyRegionInit : DevM Unit := initComponent .dummyRegion
def nsimDevDummyRegionExit : DevM Unit := exitComponent .dummyRegion
def nsimDevTrapsInit : DevM Unit := initComponent .traps
def nsimDevTrapsExit : DevM Unit := exitComponent .traps
def nsimFibCreate : DevM Unit := initComponent .fib
def nsimFibDestroy : DevM Unit := exitComponent .fib
def nsimDevHealthInit : DevM Unit := initComponent .health
def nsimDevHealthExit : DevM Unit := exitComponent .health
def nsimBpfDevInit : DevM Unit := initComponent .bpf
def nsimBpfDevExit : DevM Unit := exitComponent .bpf
def nsimDevPsampleInit : DevM Unit := initComponent .psample
def nsimDevPsampleExit : DevM Unit := exitComponent .psample
def nsimDevHwstatsInit : DevM Unit := initComponent .hwstats
def nsimDevHwstatsExit : DevM Unit := exitComponent .hwstats

/-- `debugfs_create_file` for `take_snapshot`, whose result nobody looks at. -/
def createTakeSnapshot : DevM Unit :=
  modifyDev fun dev => { dev with live := insert .takeSnapshot dev.live }

def removeTakeSnapshot : DevM Unit := exitComponent .takeSnapshot

/-- `nsim_dev_debugfs_init`. -/
def nsimDevDebugfsInit : DevM Unit := do
  initComponent .debugfs
  createTakeSnapshot

/-- `nsim_dev_debugfs_exit`, which removes the whole directory. -/
def nsimDevDebugfsExit : DevM Unit := do
  exitComponent .debugfs
  removeTakeSnapshot

/-! ## Probing, reloading and removing -/

/-- The `struct nsim_dev` that `nsim_drv_probe` starts from. -/
def NsimDev.blank (busDev : NsimBusDev) : NsimDev where
  busDev
  live := ∅
  portList := []
  dpll := none
  eswMode := .LEGACY
  dontAllowReload := false
  failReload := false
  devlinkPorts := ∅
  reloadFailed := false

/-- The call of `nsim_dpll_init` in `nsim_drv_probe`. -/
def probeDpll (now : ℕ) : DevM Unit := do
  let dev ← getDev
  if dev.busDev.wpc then
    let ndpll ← inKernel (nsimDpllInit now dev.portList)
    modifyDev fun dev => { dev with dpll := some ndpll }

/-- `nsim_drv_probe`, at the time `now`. -/
def nsimDrvProbe (now : ℕ) : DevM Unit := do
  -- devlink_alloc_ns, and the VF configurations
  inKernel mayRunOut
  inKernel mayRunOut
  devlRegister
  unwind devlUnregister do
    nsimDevResourcesRegister
    unwind devlResourcesUnregister do
      devlParamsRegister
      unwind devlParamsUnregister do
        nsimDevDummyRegionInit
        unwind nsimDevDummyRegionExit do
          nsimDevTrapsInit
          unwind nsimDevTrapsExit do
            nsimDevDebugfsInit
            unwind nsimDevDebugfsExit do
              nsimFibCreate
              unwind nsimFibDestroy do
                nsimDevHealthInit
                unwind nsimDevHealthExit do
                  nsimBpfDevInit
                  unwind nsimBpfDevExit do
                    nsimDevPsampleInit
                    unwind nsimDevPsampleExit do
                      nsimDevHwstatsInit
                      unwind nsimDevHwstatsExit do
                        let dev ← getDev
                        nsimDevPortAddAll dev.busDev.portCount
                        unwind nsimDevPortDelAll (probeDpll now)
                        modifyDev fun dev => { dev with eswMode := .LEGACY }

/-- `nsim_dev_reload_create`. -/
def nsimDevReloadCreate : DevM Unit := do
  modifyDev fun dev => { dev with portList := [] }
  nsimDevDummyRegionInit
  unwind nsimDevDummyRegionExit do
    nsimDevTrapsInit
    unwind nsimDevTrapsExit do
      nsimFibCreate
      unwind nsimFibDestroy do
        nsimDevHealthInit
        unwind nsimDevHealthExit do
          nsimDevPsampleInit
          unwind nsimDevPsampleExit do
            nsimDevHwstatsInit
            unwind nsimDevHwstatsExit do
              let dev ← getDev
              nsimDevPortAddAll dev.busDev.portCount
              createTakeSnapshot

/-- The call of `nsim_dpll_exit`. -/
def exitDpll : DevM Unit := do
  let dev ← getDev
  match dev.dpll with
  | none => pure ()
  | some ndpll =>
    inKernel (nsimDpllExit ndpll)
    modifyDev fun dev => { dev with dpll := none }

/-- The part of `nsim_dev_reload_destroy` that gives the VFs up. -/
def dropVfs : DevM Unit := do
  let dev ← getDev
  if dev.busDev.numVfs ≠ 0 then
    nsimBusDevSetVfs 0
    if dev.eswMode = .SWITCHDEV then nsimEswLegacyEnable

/-- `nsim_dev_reload_destroy`. -/
def nsimDevReloadDestroy : DevM Unit := do
  let dev ← getDev
  if dev.reloadFailed then pure ()
  else
    removeTakeSnapshot
    dropVfs
    exitDpll
    nsimDevPortDelAll
    nsimDevHwstatsExit
    nsimDevPsampleExit
    nsimDevHealthExit
    nsimFibDestroy
    nsimDevTrapsExit
    nsimDevDummyRegionExit

/-- `nsim_dev_reload_down`. -/
def nsimDevReloadDown : DevM Unit := do
  let dev ← getDev
  failIf dev.dontAllowReload .EOPNOTSUPP
  nsimDevReloadDestroy

/-- `nsim_dev_reload_up`. -/
def nsimDevReloadUp : DevM Unit := do
  let dev ← getDev
  failIf dev.failReload .EINVAL
  nsimDevReloadCreate

/-- `devlink_reload`: whether the device came up again is remembered. -/
def devlinkReload : DevM Unit := do
  nsimDevReloadDown
  unwind (modifyDev fun dev => { dev with reloadFailed := true }) nsimDevReloadUp
  modifyDev fun dev => { dev with reloadFailed := false }

/-- `nsim_drv_remove`. -/
def nsimDrvRemove : DevM Unit := do
  nsimDevReloadDestroy
  nsimBpfDevExit
  nsimDevDebugfsExit
  devlParamsUnregister
  devlResourcesUnregister
  devlUnregister

/-! ## Runs -/

/-- What can happen to a device. -/
inductive NsimOp where
  | probe (now : ℕ) | remove
  | newPort (portIndex : UInt32) | delPort (portIndex : UInt32)
  | sriovNumvfs (numVfs : UInt32) | maxVfs (val : UInt32) | eswitchMode (mode : EswitchMode)
  | reload | dontAllowReload (val : Bool) | failReload (val : Bool)
  deriving DecidableEq, Repr

/-- What the driver and `devlink` run. -/
def NsimOp.program : NsimOp → DevM Unit
  | .probe now => nsimDrvProbe now
  | .remove => nsimDrvRemove
  | .newPort portIndex => nsimDrvPortAdd .PF portIndex
  | .delPort portIndex => nsimDrvPortDel .PF portIndex
  | .sriovNumvfs numVfs => nsimDrvConfigureVfs numVfs
  | .maxVfs val => nsimBusDevMaxVfsWrite val
  | .eswitchMode mode => nsimDevlinkEswitchModeSet mode
  | .reload => devlinkReload
  | .dontAllowReload val => modifyDev fun dev => { dev with dontAllowReload := val }
  | .failReload val => modifyDev fun dev => { dev with failReload := val }

/-- A bus device, which has a driver or not. -/
structure NsimSystem where
  world : NsimWorld
  bound : Bool

/-- Whether the driver is bound after an operation that returned `result`. -/
def NsimOp.binds : NsimOp → Except Errno Unit → Bool
  | .probe _, .ok _ => true
  | .probe _, .error _ => false
  | .remove, _ => false
  | _, _ => true

/-- The device an operation starts from: probing starts over. -/
def NsimOp.start (op : NsimOp) (dev : NsimDev) : NsimDev :=
  match op with
  | .probe _ => .blank dev.busDev
  | _ => dev

/-- A step of a bus device.  Between the steps other devices may have changed the kernel in any
way, but addresses are not reused.  Only a device without a driver is probed, and only one with a
driver does anything else. -/
def nsimDevSystem : TransitionSystem NsimSystem (KernelState × NsimOp) where
  init s := s.bound = false
  step s a t := s.world.kernel.nextPtr ≤ a.1.nextPtr ∧ (s.bound ↔ ∀ now, a.2 ≠ .probe now) ∧
    ∃ result, a.2.program.exec ⟨a.1, a.2.start s.world.dev⟩ = some (result, t.world) ∧
      t.bound = a.2.binds result

/-- A device without a driver is probed. -/
theorem exists_probe_of_unbound {α : Type} {op : α} {probe : ℕ → α} {bound : Bool}
    (driver : bound ↔ ∀ now, op ≠ probe now) (unbound : bound = false) :
    ∃ now, op = probe now := by
  by_contra other
  have bound' := driver.2 fun now same => other ⟨now, same⟩
  exact absurd (unbound.symm.trans bound') (by decide)

theorem start_of_ne_probe {op : NsimOp} (bound : ∀ now, op ≠ .probe now) (dev : NsimDev) :
    op.start dev = dev := by
  cases op with
  | probe now => exact absurd rfl (bound now)
  | _ => rfl

/-- Probing, when the kernel is the one the device was last seen in. -/
theorem probe_step {kernel : KernelState} {busDev : NsimBusDev} {now : ℕ} {w : NsimWorld}
    (run : (nsimDrvProbe now).exec ⟨kernel, .blank busDev⟩ = some (.ok (), w)) :
    nsimDevSystem.step ⟨⟨kernel, .blank busDev⟩, false⟩ (kernel, .probe now) ⟨w, true⟩ := by
  refine ⟨le_rfl, ?_, .ok (), run, rfl⟩
  exact iff_of_false Bool.false_ne_true fun other => other now rfl

/-- An operation of a device with a driver, when the kernel is the one the device was last seen
in. -/
theorem driver_step {op : NsimOp} {w t : NsimWorld} (other : ∀ now, op ≠ .probe now)
    (run : op.program.exec w = some (.ok (), t)) (stays : op.binds (.ok ()) = true) :
    nsimDevSystem.step ⟨w, true⟩ (w.kernel, op) ⟨t, true⟩ := by
  refine ⟨le_rfl, iff_of_true rfl other, .ok (), ?_, stays.symm⟩
  rw [start_of_ne_probe other]
  exact run

theorem reachable_probed {kernel : KernelState} {busDev : NsimBusDev} {now : ℕ} {w : NsimWorld}
    (run : (nsimDrvProbe now).exec ⟨kernel, .blank busDev⟩ = some (.ok (), w)) :
    nsimDevSystem.Reachable ⟨w, true⟩ := by
  have start : nsimDevSystem.Reachable ⟨⟨kernel, .blank busDev⟩, false⟩ := .init rfl
  exact start.step (probe_step run)

end Netdevsim
