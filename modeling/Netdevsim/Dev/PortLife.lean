import Netdevsim.Dev.Device
import Netdevsim.Lib.Erasure
import Netdevsim.Lib.Lifetimes

/-!
# The device with what its ports hold

The operations of a device once more, now with a log of the net devices, PHC references and devlink
ports that are created and destroyed, and with the VF configurations.  Without the log and the
configurations they are the operations of `NsimDev` (`erases_program`).
-/

namespace Netdevsim.Ports

open Program Lifetimes

/-! ## Data -/

/-- What a port holds: its devlink port, its net device and, if it is a PF port, a reference of a
PHC. -/
inductive ResourceKind where
  | devlinkPort | netdev | phc
  deriving DecidableEq, Repr

/-- Something held by the port with this index. -/
structure PortResource where
  kind : ResourceKind
  portIndex : UInt32
  portType : NsimDevPortType
  deriving DecidableEq

/-- `struct nsim_vf_config`. -/
structure NsimVfConfig where
  linkState : Int32
  minTxRate : UInt16
  maxTxRate : UInt16
  vlan : UInt16
  vlanProto : UInt16
  qos : UInt16
  vfMac : Bytes
  spoofchkEnabled : Bool
  trusted : Bool
  rssQueryEnabled : Bool
  deriving DecidableEq, Repr

/-- What `kcalloc` leaves in a `struct nsim_vf_config`. -/
def NsimVfConfig.zero : NsimVfConfig := ⟨0, 0, 0, 0, 0, 0, List.replicate 6 0, false, false, false⟩

/-- A device with its VF configurations, and what happened to its ports since it was bound. -/
structure PortWorld where
  world : NsimWorld
  vfconfigs : List NsimVfConfig
  log : List (Event PortResource)
  /-- Of the coming calls of `nsim_init_netdevsim`, if they fail: whether they get no PHC, or fail
  later. -/
  noPhc : List Bool

def PortWorld.dev (w : PortWorld) : NsimDev := w.world.dev

abbrev PortM (α : Type) := Program PortWorld Errno α

/-- A program of the device, which does not see the log. -/
def onDevice {α : Type} (m : DevM α) : PortM α :=
  zoom PortWorld.world (fun world w => { w with world }) m

def getDev : PortM NsimDev := onDevice Netdevsim.getDev

def modifyDev (f : NsimDev → NsimDev) : PortM Unit := onDevice (Netdevsim.modifyDev f)

def note (e : Event PortResource) : PortM Unit := modify fun w => { w with log := e :: w.log }

def setVfconfigs (vfconfigs : List NsimVfConfig) : PortM Unit := modify fun w => { w with vfconfigs }

/-! ## Ports -/

/-- `devl_port_register`. -/
def devlPortRegister (type : NsimDevPortType) (portIndex : UInt32) : PortM Unit := do
  onDevice (Netdevsim.devlPortRegister portIndex)
  note (.create ⟨.devlinkPort, portIndex, type⟩)

/-- `devl_port_unregister`. -/
def devlPortUnregister (type : NsimDevPortType) (portIndex : UInt32) : PortM Unit := do
  onDevice (Netdevsim.devlPortUnregister portIndex)
  note (.destroy ⟨.devlinkPort, portIndex, type⟩)

/-- Whether the next `nsim_init_netdevsim`, if it fails, gets no PHC. -/
def nextNoPhc : PortM Bool := do
  let w ← get
  set { w with noPhc := w.noPhc.tail }
  return w.noPhc.headD false

/-- A call that may fail if `c`. -/
def mayFailIf (c : Bool) : PortM Unit := if c then onDevice (inKernel mayFail) else pure ()

/-- `nsim_init_netdevsim`. -/
def nsimInitNetdevsim (portIndex : UInt32) : PortM Unit := do
  let noPhc ← nextNoPhc
  -- get_ptp_clock_by_logical_clk_id, mock_phc_create
  mayFailIf noPhc
  note (.create ⟨.phc, portIndex, .PF⟩)
  -- nsim_udp_tunnels_info_create, nsim_bpf_init, register_netdevice
  unwind (note (.destroy ⟨.phc, portIndex, .PF⟩)) (mayFailIf !noPhc)
  note (.create ⟨.netdev, portIndex, .PF⟩)

/-- `nsim_init_netdevsim_vf`. -/
def nsimInitNetdevsimVf (portIndex : UInt32) : PortM Unit := do
  -- register_netdevice
  onDevice (inKernel mayFail)
  note (.create ⟨.netdev, portIndex, .VF⟩)

/-- How `nsim_create` initialises a net device. -/
def initNetdev : NsimDevPortType → UInt32 → PortM Unit
  | .PF => nsimInitNetdevsim
  | .VF => nsimInitNetdevsimVf

/-- The new `struct netdevsim` is a net device of the kernel. -/
def addNetdev (ns : Ptr) (numQueues : UInt32) : DevM Unit :=
  modify fun w => { w with kernel := { w.kernel with
    netdev := Function.update w.kernel.netdev ns (some ⟨w.kernel.netdevName ns, numQueues, 0⟩) } }

/-- `nsim_create`. -/
def nsimCreate (type : NsimDevPortType) (portIndex : UInt32) : PortM Ptr := do
  let dev ← getDev
  failIf (dev.busDev.numQueues = 0) .ENOMEM
  let ns ← onDevice (inKernel (kzalloc 1))
  initNetdev type portIndex
  onDevice (addNetdev ns dev.busDev.numQueues)
  return ns

/-- `nsim_destroy`, with `nsim_exit_netdevsim`. -/
def nsimDestroy (port : NsimDevPort) : PortM Unit := do
  onDevice (Netdevsim.nsimDestroy port.ns)
  note (.destroy ⟨.netdev, port.portIndex, port.portType⟩)
  if port.portType = .PF then note (.destroy ⟨.phc, port.portIndex, port.portType⟩)

/-- `__nsim_dev_port_add`. -/
def _nsimDevPortAdd (type : NsimDevPortType) (portIndex : UInt32) : PortM Unit := do
  let dev ← getDev
  failIf (type = .VF ∧ dev.busDev.numVfs = 0) .EINVAL
  onDevice (inKernel mayRunOut)
  let index := nsimDevPortIndex type portIndex
  devlPortRegister type index
  unwind (devlPortUnregister type index) do
    -- nsim_dev_port_debugfs_init
    onDevice (inKernel mayFail)
    let ns ← nsimCreate type index
    -- devl_rate_leaf_create
    unwind (nsimDestroy ⟨index, type, ns⟩)
      (if type = .VF then onDevice (inKernel mayFail) else pure ())
    modifyDev fun dev => { dev with portList := ⟨index, type, ns⟩ :: dev.portList }

/-- `__nsim_dev_port_del`. -/
def _nsimDevPortDel (port : NsimDevPort) : PortM Unit := do
  modifyDev fun dev => { dev with portList := dev.portList.erase port }
  nsimDestroy port
  devlPortUnregister port.portType port.portIndex

/-- `nsim_dev_port_del_all`. -/
def nsimDevPortDelAll : PortM Unit := do
  let dev ← getDev
  dev.portList.forM _nsimDevPortDel

/-- The deletion of all VF ports. -/
def delVfPorts : PortM Unit := do
  let dev ← getDev
  (dev.portList.filter nsimDevPortIsVf).forM _nsimDevPortDel

/-- `nsim_dev_port_add_all`. -/
def nsimDevPortAddAll (portCount : UInt32) : PortM Unit :=
  unwind nsimDevPortDelAll
    ((List.range portCount.toNat).forM fun i => _nsimDevPortAdd .PF (UInt32.ofNat i))

/-- `nsim_drv_port_add`. -/
def nsimDrvPortAdd (type : NsimDevPortType) (portIndex : UInt32) : PortM Unit := do
  let dev ← getDev
  failIf (_nsimDevPortLookup dev type portIndex).isSome .EEXIST
  _nsimDevPortAdd type portIndex

/-- `nsim_drv_port_del`. -/
def nsimDrvPortDel (type : NsimDevPortType) (portIndex : UInt32) : PortM Unit := do
  let dev ← getDev
  match _nsimDevPortLookup dev type portIndex with
  | none => throw .ENOENT
  | some port => _nsimDevPortDel port

/-! ## VFs and the eswitch mode -/

def nsimBusDevSetVfs (numVfs : UInt32) : PortM Unit := onDevice (Netdevsim.nsimBusDevSetVfs numVfs)

/-- `nsim_esw_legacy_enable`. -/
def nsimEswLegacyEnable : PortM Unit := do
  delVfPorts
  modifyDev fun dev => { dev with eswMode := .LEGACY }

/-- `nsim_esw_switchdev_enable`. -/
def nsimEswSwitchdevEnable : PortM Unit := do
  let dev ← getDev
  unwind delVfPorts
    ((List.range dev.busDev.numVfs.toNat).forM fun i => _nsimDevPortAdd .VF (UInt32.ofNat i))
  modifyDev fun dev => { dev with eswMode := .SWITCHDEV }

/-- `nsim_devlink_eswitch_mode_set`. -/
def nsimDevlinkEswitchModeSet (mode : EswitchMode) : PortM Unit := do
  let dev ← getDev
  if mode = dev.eswMode then pure ()
  else match mode with
    | .LEGACY => nsimEswLegacyEnable
    | .SWITCHDEV => nsimEswSwitchdevEnable

/-- `nsim_drv_configure_vfs`. -/
def nsimDrvConfigureVfs (numVfs : UInt32) : PortM Unit := do
  let dev ← getDev
  if dev.busDev.numVfs = numVfs then pure ()
  else
    failIf (dev.busDev.numVfs ≠ 0 ∧ numVfs ≠ 0) .EBUSY
    failIf (dev.busDev.maxVfs < numVfs) .ENOMEM
    nsimBusDevSetVfs numVfs
    if dev.eswMode = .SWITCHDEV then
      if numVfs ≠ 0 then unwind (nsimBusDevSetVfs 0) nsimEswSwitchdevEnable
      else nsimEswLegacyEnable
    else pure ()

/-- `nsim_bus_dev_max_vfs_write`, once the number has been parsed: the new array replaces the old
one when nothing has failed. -/
def nsimBusDevMaxVfsSet (val : UInt32) : PortM Unit := do
  onDevice (Netdevsim.nsimBusDevMaxVfsWrite val)
  setVfconfigs (List.replicate val.toNat .zero)

/-- What a write of `buf` at `ppos` to `max_vfs` does, where `store` does the rest. -/
def parseMaxVfs {σ : Type} (ppos : ℕ) (buf : Bytes) (copy : Program σ Errno Unit)
    (store : UInt32 → Program σ Errno Unit) : Program σ Errno Unit := do
  if ppos ≠ 0 then pure ()
  else
    failIf (10 ≤ buf.length) .ENOSPC
    copy
    match kstrtouint buf 10 with
    | .error _ => throw .EINVAL
    | .ok val => store val

/-- `nsim_bus_dev_max_vfs_write`. -/
def nsimBusDevMaxVfsWrite (ppos : ℕ) (buf : Bytes) : PortM Unit :=
  -- copy_from_user
  parseMaxVfs ppos buf (onDevice (inKernel mayFail)) nsimBusDevMaxVfsSet

/-! ## Probing, reloading and removing -/

/-- The VF configurations of a new device. -/
def allocVfconfigs : PortM Unit := modify fun w =>
  { w with vfconfigs := List.replicate w.dev.busDev.maxVfs.toNat .zero }

/-- `nsim_drv_probe`, at the time `now`. -/
def nsimDrvProbe (now : ℕ) : PortM Unit := do
  -- devlink_alloc_ns
  onDevice (inKernel mayRunOut)
  onDevice (inKernel mayRunOut)
  allocVfconfigs
  unwind (setVfconfigs []) do
    onDevice devlRegister
    unwind (onDevice devlUnregister) do
      onDevice nsimDevResourcesRegister
      unwind (onDevice devlResourcesUnregister) do
        onDevice devlParamsRegister
        unwind (onDevice devlParamsUnregister) do
          onDevice nsimDevDummyRegionInit
          unwind (onDevice nsimDevDummyRegionExit) do
            onDevice nsimDevTrapsInit
            unwind (onDevice nsimDevTrapsExit) do
              onDevice nsimDevDebugfsInit
              unwind (onDevice nsimDevDebugfsExit) do
                onDevice nsimFibCreate
                unwind (onDevice nsimFibDestroy) do
                  onDevice nsimDevHealthInit
                  unwind (onDevice nsimDevHealthExit) do
                    onDevice nsimBpfDevInit
                    unwind (onDevice nsimBpfDevExit) do
                      onDevice nsimDevPsampleInit
                      unwind (onDevice nsimDevPsampleExit) do
                        onDevice nsimDevHwstatsInit
                        unwind (onDevice nsimDevHwstatsExit) do
                          let dev ← getDev
                          nsimDevPortAddAll dev.busDev.portCount
                          unwind nsimDevPortDelAll (onDevice (probeDpll now))
                          modifyDev fun dev => { dev with eswMode := .LEGACY }

/-- `nsim_dev_reload_create`. -/
def nsimDevReloadCreate : PortM Unit := do
  modifyDev fun dev => { dev with portList := [] }
  onDevice nsimDevDummyRegionInit
  unwind (onDevice nsimDevDummyRegionExit) do
    onDevice nsimDevTrapsInit
    unwind (onDevice nsimDevTrapsExit) do
      onDevice nsimFibCreate
      unwind (onDevice nsimFibDestroy) do
        onDevice nsimDevHealthInit
        unwind (onDevice nsimDevHealthExit) do
          onDevice nsimDevPsampleInit
          unwind (onDevice nsimDevPsampleExit) do
            onDevice nsimDevHwstatsInit
            unwind (onDevice nsimDevHwstatsExit) do
              let dev ← getDev
              nsimDevPortAddAll dev.busDev.portCount
              onDevice createTakeSnapshot

/-- The part of `nsim_dev_reload_destroy` that gives the VFs up. -/
def dropVfs : PortM Unit := do
  let dev ← getDev
  if dev.busDev.numVfs ≠ 0 then
    nsimBusDevSetVfs 0
    if dev.eswMode = .SWITCHDEV then nsimEswLegacyEnable

/-- `nsim_dev_reload_destroy`. -/
def nsimDevReloadDestroy : PortM Unit := do
  let dev ← getDev
  if dev.reloadFailed then pure ()
  else
    onDevice removeTakeSnapshot
    dropVfs
    onDevice exitDpll
    nsimDevPortDelAll
    onDevice nsimDevHwstatsExit
    onDevice nsimDevPsampleExit
    onDevice nsimDevHealthExit
    onDevice nsimFibDestroy
    onDevice nsimDevTrapsExit
    onDevice nsimDevDummyRegionExit

/-- `nsim_dev_reload_down`. -/
def nsimDevReloadDown : PortM Unit := do
  let dev ← getDev
  failIf dev.dontAllowReload .EOPNOTSUPP
  nsimDevReloadDestroy

/-- `nsim_dev_reload_up`. -/
def nsimDevReloadUp : PortM Unit := do
  let dev ← getDev
  failIf dev.failReload .EINVAL
  nsimDevReloadCreate

/-- `devlink_reload`. -/
def devlinkReload : PortM Unit := do
  nsimDevReloadDown
  unwind (modifyDev fun dev => { dev with reloadFailed := true }) nsimDevReloadUp
  modifyDev fun dev => { dev with reloadFailed := false }

/-- `nsim_drv_remove`. -/
def nsimDrvRemove : PortM Unit := do
  nsimDevReloadDestroy
  onDevice nsimBpfDevExit
  onDevice nsimDevDebugfsExit
  onDevice devlParamsUnregister
  onDevice devlResourcesUnregister
  onDevice devlUnregister
  setVfconfigs []

/-! ## Runs -/

/-- What can happen to a device. -/
inductive PortOp where
  | probe (now : ℕ) | remove
  | newPort (portIndex : UInt32) | delPort (portIndex : UInt32)
  | sriovNumvfs (numVfs : UInt32) | maxVfs (ppos : ℕ) (buf : Bytes)
  | eswitchMode (mode : EswitchMode)
  | reload | dontAllowReload (val : Bool) | failReload (val : Bool)
  deriving DecidableEq, Repr

/-- What the driver and `devlink` run. -/
def PortOp.program : PortOp → PortM Unit
  | .probe now => nsimDrvProbe now
  | .remove => nsimDrvRemove
  | .newPort portIndex => nsimDrvPortAdd .PF portIndex
  | .delPort portIndex => nsimDrvPortDel .PF portIndex
  | .sriovNumvfs numVfs => nsimDrvConfigureVfs numVfs
  | .maxVfs ppos buf => nsimBusDevMaxVfsWrite ppos buf
  | .eswitchMode mode => nsimDevlinkEswitchModeSet mode
  | .reload => devlinkReload
  | .dontAllowReload val => modifyDev fun dev => { dev with dontAllowReload := val }
  | .failReload val => modifyDev fun dev => { dev with failReload := val }

/-- The same without the log. -/
def PortOp.erased : PortOp → DevM Unit
  | .probe now => Netdevsim.nsimDrvProbe now
  | .remove => Netdevsim.nsimDrvRemove
  | .newPort portIndex => Netdevsim.nsimDrvPortAdd .PF portIndex
  | .delPort portIndex => Netdevsim.nsimDrvPortDel .PF portIndex
  | .sriovNumvfs numVfs => Netdevsim.nsimDrvConfigureVfs numVfs
  | .maxVfs ppos buf => parseMaxVfs ppos buf (inKernel mayFail) Netdevsim.nsimBusDevMaxVfsWrite
  | .eswitchMode mode => Netdevsim.nsimDevlinkEswitchModeSet mode
  | .reload => Netdevsim.devlinkReload
  | .dontAllowReload val => Netdevsim.modifyDev fun dev => { dev with dontAllowReload := val }
  | .failReload val => Netdevsim.modifyDev fun dev => { dev with failReload := val }

/-- A bus device, which has a driver or not. -/
structure PortSystem where
  world : PortWorld
  bound : Bool

/-- Whether the driver is bound after an operation that returned `result`. -/
def PortOp.binds : PortOp → Except Errno Unit → Bool
  | .probe _, .ok _ => true
  | .probe _, .error _ => false
  | .remove, _ => false
  | _, _ => true

/-- The world an operation starts from: probing starts over. -/
def PortOp.start (op : PortOp) (w : PortWorld) : PortWorld :=
  match op with
  | .probe _ => { w with
      world := ⟨w.world.kernel, .blank w.dev.busDev⟩
      vfconfigs := []
      log := [] }
  | _ => w

def NSIM_BUS_DEV_MAX_VFS : UInt32 := 4

/-- What a step starts with besides the device: the kernel, which other devices may have changed in
any way but for addresses being used once, and which failing calls get no PHC. -/
structure Surroundings where
  kernel : KernelState
  noPhc : List Bool

def PortWorld.within (w : PortWorld) (around : Surroundings) : PortWorld :=
  { w with world := ⟨around.kernel, w.dev⟩, noPhc := around.noPhc }

/-- A device that `nsim_bus_dev_new` made, from then on.  Only a device without a driver is probed,
and only one with a driver does anything else. -/
def portSystem : TransitionSystem PortSystem (Surroundings × PortOp) where
  init s := s.bound = false ∧ s.world.log = [] ∧
    s.world.dev.busDev.maxVfs = NSIM_BUS_DEV_MAX_VFS ∧ s.world.dev.busDev.numVfs = 0
  step s a t := s.world.world.kernel.nextPtr ≤ a.1.kernel.nextPtr ∧
    (s.bound ↔ ∀ now, a.2 ≠ .probe now) ∧
    ∃ result, a.2.program.exec (a.2.start (s.world.within a.1)) = some (result, t.world) ∧
      t.bound = a.2.binds result

instance (op : PortOp) : Decidable (∀ now, op ≠ .probe now) :=
  match op with
  | .probe now => isFalse fun other => other now rfl
  | .remove | .newPort _ | .delPort _ | .sriovNumvfs _ | .maxVfs _ _ | .eswitchMode _ | .reload
  | .dontAllowReload _ | .failReload _ => isTrue fun _ => PortOp.noConfusion

/-- Nothing but the device has changed, and no call will fail. -/
def PortSystem.around (s : PortSystem) : Surroundings := ⟨s.world.world.kernel, []⟩

/-- The state after an operation, if it may happen and meets the condition. -/
def PortSystem.advance (C : PortSystem → Surroundings × PortOp → Prop) [∀ s a, Decidable (C s a)]
    (s : PortSystem) (op : PortOp) : Option PortSystem :=
  if (s.bound ↔ ∀ now, op ≠ .probe now) ∧ C s (s.around, op) then
    (op.program.exec (op.start (s.world.within s.around))).map fun r => ⟨r.2, op.binds r.1⟩
  else none

/-- A device of a bus with one port. -/
def PortSystem.fresh : PortSystem :=
  ⟨⟨⟨.loaded, .blank ⟨1, 1, false, NSIM_BUS_DEV_MAX_VFS, 0⟩⟩, [], [], []⟩, false⟩

section Given

variable (C : PortSystem → Surroundings × PortOp → Prop) [∀ s a, Decidable (C s a)]

theorem step_of_advance {s t : PortSystem} {op : PortOp} (next : s.advance C op = some t) :
    (portSystem.guard C).step s (s.around, op) t := by
  unfold PortSystem.advance at next
  split at next
  · rename_i may
    obtain ⟨⟨result, w⟩, run, rfl⟩ := Option.map_eq_some_iff.1 next
    exact ⟨⟨le_rfl, may.1, result, run, rfl⟩, may.2⟩
  · cases next

/-- A given run of a device whose steps meet the condition. -/
theorem reachable_of_advance (ops : List PortOp) (test : PortSystem → Bool)
    (passes : (TransitionSystem.follow (PortSystem.advance C) ops .fresh).any test = true) :
    ∃ t, (portSystem.guard C).Reachable t ∧ test t = true := by
  have start : (portSystem.guard C).Reachable .fresh := .init ⟨rfl, rfl, rfl, rfl⟩
  refine start.exists_of_choice ops test ?_ passes
  exact fun op _ s t next => ⟨_, step_of_advance C next⟩

end Given

/-! ## Without the log -/

section Erasure

variable {α : Type} {type : NsimDevPortType} {portIndex : UInt32}

/-- Without its log and the VF configurations, the program is one of the device. -/
abbrev ErasesTo (m : PortM α) (m' : DevM α) : Prop := Erases PortWorld.world m m'

theorem erases_onDevice (m : DevM α) : ErasesTo (onDevice m) m := erases_zoom (fun _ _ => rfl) m

theorem erases_note (e : Event PortResource) : ErasesTo (note e) (pure ()) := erases_modify fun _ => rfl

theorem erases_setVfconfigs (vfconfigs : List NsimVfConfig) :
    ErasesTo (setVfconfigs vfconfigs) (pure ()) := erases_modify fun _ => rfl

theorem erases_devlPortRegister :
    ErasesTo (devlPortRegister type portIndex) (Netdevsim.devlPortRegister portIndex) :=
  (erases_onDevice _).before (erases_note _)

theorem erases_devlPortUnregister :
    ErasesTo (devlPortUnregister type portIndex) (Netdevsim.devlPortUnregister portIndex) :=
  (erases_onDevice _).before (erases_note _)

theorem exec_nextNoPhc (w : PortWorld) :
    nextNoPhc.exec w = some (.ok (w.noPhc.headD false), { w with noPhc := w.noPhc.tail }) := rfl

/-- Exactly one of the two calls may fail. -/
theorem erases_nsimInitNetdevsim :
    ErasesTo (nsimInitNetdevsim portIndex) (inKernel mayFail) := by
  have rest : ∀ b, ErasesTo (do
      mayFailIf b
      note (.create ⟨.phc, portIndex, .PF⟩)
      unwind (note (.destroy ⟨.phc, portIndex, .PF⟩)) (mayFailIf !b)
      note (.create ⟨.netdev, portIndex, .PF⟩)) (inKernel mayFail) := by
    intro b
    cases b with
    | true =>
      apply (erases_onDevice _).before
      apply (erases_note _).after
      exact ((erases_note _).unwind_hidden (erases_pure ())).after (erases_note _)
    | false =>
      apply (erases_pure ()).after
      apply (erases_note _).after
      exact ((erases_note _).unwind_hidden (erases_onDevice _)).before (erases_note _)
  intro w
  unfold nsimInitNetdevsim
  rw [exec_bind, exec_nextNoPhc]
  exact rest _ _

theorem erases_initNetdev : ErasesTo (initNetdev type portIndex) (inKernel mayFail) := by
  cases type with
  | PF => exact erases_nsimInitNetdevsim
  | VF => exact (erases_onDevice _).before (erases_note _)

theorem erases_nsimCreate : ErasesTo (nsimCreate type portIndex) Netdevsim.nsimCreate := by
  apply (erases_onDevice _).bind
  intro dev
  apply (erases_failIf _ _).bind
  intro _
  apply (erases_onDevice _).bind
  intro ns
  apply erases_initNetdev.bind
  intro _
  apply (erases_onDevice _).bind
  exact fun _ => erases_pure ns

theorem erases_nsimDestroy (port : NsimDevPort) :
    ErasesTo (nsimDestroy port) (Netdevsim.nsimDestroy port.ns) := by
  apply (erases_onDevice _).before
  apply (erases_note _).after
  split
  · exact erases_note _
  · exact erases_pure _

theorem erases_nsimDevPortAdd :
    ErasesTo (_nsimDevPortAdd type portIndex) (Netdevsim._nsimDevPortAdd type portIndex) := by
  apply (erases_onDevice _).bind
  intro dev
  apply (erases_failIf _ _).bind
  intro _
  apply (erases_onDevice _).bind
  intro _
  apply erases_devlPortRegister.bind
  intro _
  apply erases_devlPortUnregister.unwind
  apply (erases_onDevice _).bind
  intro _
  apply erases_nsimCreate.bind
  intro ns
  apply Erases.bind _ fun _ => erases_onDevice _
  apply (erases_nsimDestroy ⟨nsimDevPortIndex type portIndex, type, ns⟩).unwind
  exact erases_ite (erases_onDevice _) (erases_pure _)

theorem erases_nsimDevPortDel (port : NsimDevPort) :
    ErasesTo (_nsimDevPortDel port) (Netdevsim._nsimDevPortDel port) := by
  apply (erases_onDevice _).bind
  intro _
  apply (erases_nsimDestroy port).bind
  exact fun _ => erases_devlPortUnregister

theorem erases_nsimDevPortDelAll : ErasesTo nsimDevPortDelAll Netdevsim.nsimDevPortDelAll := by
  apply (erases_onDevice _).bind
  exact fun dev => erases_forM erases_nsimDevPortDel

theorem erases_delVfPorts : ErasesTo delVfPorts Netdevsim.delVfPorts := by
  apply (erases_onDevice _).bind
  exact fun dev => erases_forM erases_nsimDevPortDel

theorem erases_nsimDevPortAddAll (portCount : UInt32) :
    ErasesTo (nsimDevPortAddAll portCount) (Netdevsim.nsimDevPortAddAll portCount) :=
  erases_nsimDevPortDelAll.unwind (erases_forM fun _ => erases_nsimDevPortAdd)

theorem erases_nsimDrvPortAdd :
    ErasesTo (nsimDrvPortAdd type portIndex) (Netdevsim.nsimDrvPortAdd type portIndex) := by
  apply (erases_onDevice _).bind
  intro dev
  apply (erases_failIf _ _).bind
  exact fun _ => erases_nsimDevPortAdd

theorem erases_nsimDrvPortDel :
    ErasesTo (nsimDrvPortDel type portIndex) (Netdevsim.nsimDrvPortDel type portIndex) := by
  apply (erases_onDevice _).bind
  intro dev
  cases _nsimDevPortLookup dev type portIndex with
  | none => exact erases_throw _
  | some port => exact erases_nsimDevPortDel port

theorem erases_nsimEswLegacyEnable :
    ErasesTo nsimEswLegacyEnable Netdevsim.nsimEswLegacyEnable := by
  apply erases_delVfPorts.bind
  exact fun _ => erases_onDevice _

theorem erases_nsimEswSwitchdevEnable :
    ErasesTo nsimEswSwitchdevEnable Netdevsim.nsimEswSwitchdevEnable := by
  apply (erases_onDevice _).bind
  intro dev
  apply (erases_delVfPorts.unwind (erases_forM fun _ => erases_nsimDevPortAdd)).bind
  exact fun _ => erases_onDevice _

theorem erases_nsimDevlinkEswitchModeSet (mode : EswitchMode) :
    ErasesTo (nsimDevlinkEswitchModeSet mode) (Netdevsim.nsimDevlinkEswitchModeSet mode) := by
  apply (erases_onDevice _).bind
  intro dev
  apply erases_ite (erases_pure _)
  cases mode with
  | LEGACY => exact erases_nsimEswLegacyEnable
  | SWITCHDEV => exact erases_nsimEswSwitchdevEnable

theorem erases_nsimDrvConfigureVfs (numVfs : UInt32) :
    ErasesTo (nsimDrvConfigureVfs numVfs) (Netdevsim.nsimDrvConfigureVfs numVfs) := by
  apply (erases_onDevice _).bind
  intro dev
  apply erases_ite (erases_pure _)
  apply (erases_failIf _ _).bind
  intro _
  apply (erases_failIf _ _).bind
  intro _
  apply (erases_onDevice _).bind
  intro _
  apply erases_ite _ (erases_pure _)
  apply erases_ite _ erases_nsimEswLegacyEnable
  exact (erases_onDevice _).unwind erases_nsimEswSwitchdevEnable

theorem erases_parseMaxVfs (ppos : ℕ) (buf : Bytes) :
    ErasesTo (nsimBusDevMaxVfsWrite ppos buf)
      (parseMaxVfs ppos buf (inKernel mayFail) Netdevsim.nsimBusDevMaxVfsWrite) := by
  apply erases_ite (erases_pure _)
  apply (erases_failIf _ _).bind
  intro _
  apply (erases_onDevice _).bind
  intro _
  cases kstrtouint buf 10 with
  | error e => exact erases_throw _
  | ok val => exact (erases_onDevice _).before (erases_setVfconfigs _)

theorem erases_nsimDrvProbe (now : ℕ) :
    ErasesTo (nsimDrvProbe now) (Netdevsim.nsimDrvProbe now) := by
  have on : ∀ {m : DevM Unit}, ErasesTo (onDevice m) m := erases_onDevice _
  refine on.bind fun _ => on.bind fun _ => ?_
  have alloc : ErasesTo allocVfconfigs (pure ()) := erases_modify fun _ => rfl
  refine alloc.after ((erases_setVfconfigs []).unwind_hidden ?_)
  refine on.bind fun _ => on.unwind ?_
  refine on.bind fun _ => on.unwind ?_
  refine on.bind fun _ => on.unwind ?_
  refine on.bind fun _ => on.unwind ?_
  refine on.bind fun _ => on.unwind ?_
  refine on.bind fun _ => on.unwind ?_
  refine on.bind fun _ => on.unwind ?_
  refine on.bind fun _ => on.unwind ?_
  refine on.bind fun _ => on.unwind ?_
  refine on.bind fun _ => on.unwind ?_
  refine on.bind fun _ => on.unwind ?_
  apply (erases_onDevice _).bind
  intro dev
  apply (erases_nsimDevPortAddAll _).bind
  intro _
  apply (erases_nsimDevPortDelAll.unwind on).bind
  exact fun _ => on

theorem erases_nsimDevReloadCreate : ErasesTo nsimDevReloadCreate Netdevsim.nsimDevReloadCreate := by
  have on : ∀ {m : DevM Unit}, ErasesTo (onDevice m) m := erases_onDevice _
  refine on.bind fun _ => on.bind fun _ => on.unwind ?_
  refine on.bind fun _ => on.unwind ?_
  refine on.bind fun _ => on.unwind ?_
  refine on.bind fun _ => on.unwind ?_
  refine on.bind fun _ => on.unwind ?_
  refine on.bind fun _ => on.unwind ?_
  apply (erases_onDevice _).bind
  intro dev
  apply (erases_nsimDevPortAddAll _).bind
  exact fun _ => on

theorem erases_dropVfs : ErasesTo dropVfs Netdevsim.dropVfs := by
  apply (erases_onDevice _).bind
  intro dev
  apply erases_ite _ (erases_pure _)
  apply (erases_onDevice _).bind
  exact fun _ => erases_ite erases_nsimEswLegacyEnable (erases_pure _)

theorem erases_nsimDevReloadDestroy :
    ErasesTo nsimDevReloadDestroy Netdevsim.nsimDevReloadDestroy := by
  have on : ∀ {m : DevM Unit}, ErasesTo (onDevice m) m := erases_onDevice _
  apply (erases_onDevice _).bind
  intro dev
  apply erases_ite (erases_pure _)
  refine on.bind fun _ => erases_dropVfs.bind fun _ => on.bind fun _ => ?_
  refine erases_nsimDevPortDelAll.bind fun _ => ?_
  exact on.bind fun _ => on.bind fun _ => on.bind fun _ => on.bind fun _ => on.bind fun _ => on

theorem erases_devlinkReload : ErasesTo devlinkReload Netdevsim.devlinkReload := by
  have on : ∀ {m : DevM Unit}, ErasesTo (onDevice m) m := erases_onDevice _
  have down : ErasesTo nsimDevReloadDown Netdevsim.nsimDevReloadDown := by
    apply (erases_onDevice _).bind
    intro dev
    apply (erases_failIf _ _).bind
    exact fun _ => erases_nsimDevReloadDestroy
  have up : ErasesTo nsimDevReloadUp Netdevsim.nsimDevReloadUp := by
    apply (erases_onDevice _).bind
    intro dev
    apply (erases_failIf _ _).bind
    exact fun _ => erases_nsimDevReloadCreate
  exact down.bind fun _ => (on.unwind up).bind fun _ => on

theorem erases_nsimDrvRemove : ErasesTo nsimDrvRemove Netdevsim.nsimDrvRemove := by
  have on : ∀ {m : DevM Unit}, ErasesTo (onDevice m) m := erases_onDevice _
  refine erases_nsimDevReloadDestroy.bind fun _ => ?_
  refine on.bind fun _ => on.bind fun _ => on.bind fun _ => on.bind fun _ => ?_
  exact on.before (erases_setVfconfigs [])

/-- Without the log and the VF configurations the operations are those of the device. -/
theorem erases_program (op : PortOp) : ErasesTo op.program op.erased := by
  cases op with
  | probe now => exact erases_nsimDrvProbe now
  | remove => exact erases_nsimDrvRemove
  | newPort portIndex => exact erases_nsimDrvPortAdd
  | delPort portIndex => exact erases_nsimDrvPortDel
  | sriovNumvfs numVfs => exact erases_nsimDrvConfigureVfs numVfs
  | maxVfs ppos buf => exact erases_parseMaxVfs ppos buf
  | eswitchMode mode => exact erases_nsimDevlinkEswitchModeSet mode
  | reload => exact erases_devlinkReload
  | dontAllowReload val =>
    exact erases_onDevice (Netdevsim.modifyDev fun dev => { dev with dontAllowReload := val })
  | failReload val =>
    exact erases_onDevice (Netdevsim.modifyDev fun dev => { dev with failReload := val })

end Erasure

end Netdevsim.Ports
