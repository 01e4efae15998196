import Netdevsim.Dev.Lifecycle
import Netdevsim.Dpll.Completes
import Netdevsim.Lib.Erasure

/-!
# The files of a bus device

`new_port`, `del_port` and `sriov_numvfs` of a bus device, whether or not it has a driver.
`sriov_numvfs` looks whether there is driver data.  `new_port` and `del_port` look at `init`, which
only says that `new_device` is through, and then follow the driver data.
-/

namespace Netdevsim

open Program

/-! ## Data -/

/-- A bus device as the driver core has it. -/
structure BusDevice where
  world : NsimWorld
  /-- Whether `dev_get_drvdata` is not NULL. -/
  drvdata : Bool
  /-- Whether the driver is bound: its probe succeeded and it was not removed since. -/
  bound : Bool
  init : Bool
  /-- Whether its files are there. -/
  registered : Bool

abbrev BusDeviceM (α : Type) := Program BusDevice Errno α

/-- A program that follows the driver data. -/
def withDrvdata {α : Type} (m : DevM α) : BusDeviceM α := do
  if (← get).drvdata then zoom BusDevice.world (fun world d => { d with world }) m else goWrong

/-! ## The files -/

/-- `nsim_bus_dev_numvfs_store`. -/
def nsimBusDevNumvfsStore (buf : Bytes) : BusDeviceM Unit :=
  match kstrtouint buf 0 with
  | .error e => throw e
  | .ok numVfs => do
    if (← get).drvdata then withDrvdata (nsimDrvConfigureVfs numVfs) else throw .ENOENT

/-- `new_port_store` and `del_port_store`: a number is parsed and something is done to its port. -/
def portStore (drv : UInt32 → DevM Unit) (buf : Bytes) : BusDeviceM Unit := do
  failIf (¬(← get).init) .EBUSY
  match kstrtouint buf 0 with
  | .error e => throw e
  | .ok portIndex => withDrvdata (drv portIndex)

def newPortStore : Bytes → BusDeviceM Unit := portStore (nsimDrvPortAdd .PF)
def delPortStore : Bytes → BusDeviceM Unit := portStore (nsimDrvPortDel .PF)

/-- A write to a file of the device. -/
inductive DeviceWrite where
  | sriovNumvfs (buf : Bytes) | newPort (buf : Bytes) | delPort (buf : Bytes)
  deriving DecidableEq, Repr

def DeviceWrite.program : DeviceWrite → BusDeviceM Unit
  | .sriovNumvfs buf => nsimBusDevNumvfsStore buf
  | .newPort buf => newPortStore buf
  | .delPort buf => delPortStore buf

/-! ## The driver core -/

/-- `nsim_bus_probe`, and what the driver core makes of the result.  The driver data is set in
`nsim_drv_probe`, and reset wherever that fails. -/
def nsimBusProbe (now : ℕ) : BusDeviceM Unit := do
  modify fun d => { d with
    world := { d.world with dev := .blank d.world.dev.busDev }
    drvdata := true }
  unwind (modify fun d => { d with drvdata := false }) (withDrvdata (nsimDrvProbe now))
  modify fun d => { d with bound := true }

/-- `nsim_bus_remove`. -/
def nsimBusRemove : BusDeviceM Unit := do
  withDrvdata nsimDrvRemove
  modify fun d => { d with drvdata := false, bound := false }

/-- What happens to a bus device. -/
inductive BusDeviceOp where
  /-- `device_add`, without the probing. -/
  | deviceAdd (busDev : NsimBusDev)
  | probe (now : ℕ)
  /-- `new_device_store` sets `init`, and `nsim_bus_dev_del` resets it. -/
  | setInit (val : Bool)
  | unbind
  | deviceDel
  /-- What `devlink` and debugfs ask of the driver. -/
  | devlink (op : NsimOp)
  | write (w : DeviceWrite)
  deriving DecidableEq, Repr

/-- The operations that `devlink` and debugfs ask for. -/
def NsimOp.throughDevlink : NsimOp → Bool
  | .maxVfs _ | .eswitchMode _ | .reload | .dontAllowReload _ | .failReload _ => true
  | _ => false

def BusDeviceOp.program : BusDeviceOp → BusDeviceM Unit
  | .deviceAdd busDev => modify fun d => { d with
      world := { d.world with dev := .blank busDev }
      registered := true }
  | .probe now => nsimBusProbe now
  | .setInit val => modify fun d => { d with init := val }
  | .unbind => nsimBusRemove
  | .deviceDel => do
    if (← get).bound then nsimBusRemove
    modify fun d => { d with registered := false }
  | .devlink op => withDrvdata op.program
  | .write w => w.program

/-- When something happens.  A device is probed at any time when it has no driver, and its driver is
unbound at any time. -/
def BusDeviceOp.may (d : BusDevice) : BusDeviceOp → Prop
  | .deviceAdd _ => d.registered = false ∧ d.bound = false ∧ d.init = false
  | .probe _ => d.registered = true ∧ d.bound = false
  | .setInit _ => d.registered = true
  | .unbind => d.bound = true
  | .deviceDel => d.registered = true ∧ d.init = false
  | .devlink op => d.bound = true ∧ op.throughDevlink = true
  | .write _ => d.registered = true

instance (d : BusDevice) (op : BusDeviceOp) : Decidable (op.may d) := by
  cases op <;> unfold BusDeviceOp.may <;> infer_instance

/-- The device in another state of the kernel. -/
def BusDevice.inKernel (d : BusDevice) (kernel : KernelState) : BusDevice :=
  { d with world := { d.world with kernel } }

/-- A bus device, next to which other devices change the kernel in any way, but do not use addresses
again. -/
def busDeviceSystem : TransitionSystem BusDevice (KernelState × BusDeviceOp) where
  init d := d.drvdata = false ∧ d.bound = false ∧ d.init = false ∧ d.registered = false
  step d a t := a.2.may d ∧ d.world.kernel.nextPtr ≤ a.1.nextPtr ∧
    ∃ result, a.2.program.exec (d.inKernel a.1) = some (result, t)

/-- Probing succeeded, and since then the device was only used by its driver. -/
def FullyProbed (w : NsimWorld) : Prop :=
  ∃ kernel : KernelState, kernel.nextPtr ≤ w.kernel.nextPtr ∧
    nsimDevSystem.Reachable ⟨⟨kernel, w.dev⟩, true⟩

/-- A write runs on a fully probed device, or returns an error and does nothing. -/
def HandledSafely (d : BusDevice) (w : DeviceWrite) : Prop :=
  (FullyProbed d.world ∧ Completes w.program d) ∨ ∃ e, w.program.exec d = some (.error e, d)

/-- For a port there is a driver, or the write is refused for another reason. -/
def PortNeedsDriver (d : BusDevice) : DeviceWrite → Prop
  | .sriovNumvfs _ => True
  | .newPort buf | .delPort buf =>
      d.init = true → (∃ portIndex, kstrtouint buf 0 = .ok portIndex) → d.bound = true

/-! ## The driver's functions do not go wrong -/

section Total

variable {α : Type}

theorem total_inKernel {m : KernelM α} (total : Total m) : Total (inKernel m) := by
  intro w
  rw [inKernel_eq_zoom]
  exact twp_zoom.2 (total w.kernel)

theorem total_getDev : Total getDev := fun _ => trivial

theorem total_modifyDev (f : NsimDev → NsimDev) : Total (modifyDev f) := fun _ => trivial

theorem total_nsimDestroy (ns : Ptr) : Total (nsimDestroy ns) := total_modify

theorem total_nsimCreate : Total nsimCreate := by
  refine total_getDev.bind fun _ => (total_failIf _).bind fun _ => ?_
  refine (total_inKernel (total_kzalloc 1)).bind fun _ => (total_inKernel total_mayFail).bind fun _ => ?_
  exact total_modify.bind fun _ => total_pure _

theorem total_devlPortRegister (portIndex : UInt32) : Total (devlPortRegister portIndex) :=
  total_getDev.bind fun _ => (total_failIf _).bind fun _ =>
    (total_inKernel total_mayRunOut).bind fun _ => total_modifyDev _

theorem total_nsimDevPortAdd (type : NsimDevPortType) (portIndex : UInt32) :
    Total (_nsimDevPortAdd type portIndex) := by
  refine total_getDev.bind fun _ => (total_failIf _).bind fun _ => ?_
  refine (total_inKernel total_mayRunOut).bind fun _ => (total_devlPortRegister _).bind fun _ => ?_
  refine (total_modifyDev _).unwind ((total_inKernel total_mayFail).bind fun _ => ?_)
  refine total_nsimCreate.bind fun ns => ((total_nsimDestroy ns).unwind ?_).bind fun _ =>
    total_modifyDev _
  split
  · exact total_inKernel total_mayFail
  · exact total_pure _

theorem total_nsimDevPortDel (port : NsimDevPort) : Total (_nsimDevPortDel port) :=
  (total_modifyDev _).bind fun _ => (total_nsimDestroy _).bind fun _ => total_modifyDev _

theorem total_delVfPorts : Total delVfPorts :=
  total_getDev.bind fun _ => total_forM total_nsimDevPortDel

theorem total_nsimDrvPortAdd (type : NsimDevPortType) (portIndex : UInt32) :
    Total (nsimDrvPortAdd type portIndex) :=
  total_getDev.bind fun _ => (total_failIf _).bind fun _ => total_nsimDevPortAdd _ _

theorem total_nsimDrvPortDel (type : NsimDevPortType) (portIndex : UInt32) :
    Total (nsimDrvPortDel type portIndex) := by
  refine total_getDev.bind fun dev => ?_
  split
  · exact total_throw _
  · exact total_nsimDevPortDel _

theorem total_nsimEswLegacyEnable : Total nsimEswLegacyEnable :=
  total_delVfPorts.bind fun _ => total_modifyDev _

theorem total_nsimEswSwitchdevEnable : Total nsimEswSwitchdevEnable := by
  refine total_getDev.bind fun _ => ?_
  refine (total_delVfPorts.unwind (total_forM fun _ => total_nsimDevPortAdd _ _)).bind fun _ => ?_
  exact total_modifyDev _

theorem total_nsimDrvConfigureVfs (numVfs : UInt32) : Total (nsimDrvConfigureVfs numVfs) := by
  refine total_getDev.bind fun _ => ?_
  split
  · exact total_pure _
  refine (total_failIf _).bind fun _ => (total_failIf _).bind fun _ =>
    (total_modifyDev _).bind fun _ => ?_
  split
  · split
    · exact (total_modifyDev _).unwind total_nsimEswSwitchdevEnable
    · exact total_nsimEswLegacyEnable
  · exact total_pure _

end Total

/-! ## The driver data in every run -/

/-- There is driver data exactly if the driver is bound, and the device is then fully probed. -/
structure DriverBound (d : BusDevice) : Prop where
  drvdata : d.drvdata = d.bound
  probed : d.bound = true → FullyProbed d.world

section Runs

variable {α : Type} {d e : BusDevice} {w : NsimWorld} {op : NsimOp} {Q : α → BusDevice → Prop}
  {E : Errno → BusDevice → Prop}

theorem wp_withDrvdata {m : DevM α} :
    wp (withDrvdata m) Q E d ↔ (d.drvdata = true →
      wp m (fun a world => Q a { d with world }) (fun e world => E e { d with world }) d.world) := by
  unfold withDrvdata
  rw [wp_bind, wp_get]
  split
  · rename_i there
    rw [wp_zoom]
    exact (imp_iff_right there).symm
  · rename_i missing
    exact iff_of_true wp_goWrong fun there => absurd there missing

/-- What the driver does to a fully probed device. -/
theorem wp_driver (probe : ∀ now, op ≠ .probe now) (remove : op ≠ .remove) (probed : FullyProbed w) :
    wp op.program (fun _ => FullyProbed) (fun _ => FullyProbed) w := by
  obtain ⟨kernel, older, reachable⟩ := probed
  refine wp_of_forall fun r t run => ⟨t.kernel, le_rfl, ?_⟩
  refine reachable.step (a := (w.kernel, op)) ⟨older, iff_of_true rfl probe, r, ?_, ?_⟩
  · rw [start_of_ne_probe probe]
    exact run
  · cases op with
    | probe now => exact absurd rfl (probe now)
    | remove => exact absurd rfl remove
    | _ => rfl

theorem wp_withDrvdata_driver (op : NsimOp) (probe : ∀ now, op ≠ .probe now) (remove : op ≠ .remove)
    (bound : DriverBound d) :
    wp (withDrvdata op.program) (fun _ => DriverBound) (fun _ => DriverBound) d := by
  rw [wp_withDrvdata]
  intro there
  have probed := bound.probed (bound.drvdata ▸ there)
  refine wp_mono (wp_driver probe remove probed) ?_ ?_
  · exact fun _ _ probed => ⟨bound.drvdata, fun _ => probed⟩
  · exact fun _ _ probed => ⟨bound.drvdata, fun _ => probed⟩

theorem wp_write (w : DeviceWrite) (bound : DriverBound d) :
    wp w.program (fun _ => DriverBound) (fun _ => DriverBound) d := by
  have port : ∀ (drv : UInt32 → DevM Unit) (buf : Bytes),
      (∀ portIndex, wp (withDrvdata (drv portIndex)) (fun _ => DriverBound)
        (fun _ => DriverBound) d) →
      wp (portStore drv buf) (fun _ => DriverBound) (fun _ => DriverBound) d := by
    intro drv buf run
    unfold portStore
    rw [wp_bind, wp_get, wp_bind, wp_failIf]
    refine ⟨fun _ => bound, fun _ => ?_⟩
    cases kstrtouint buf 0 with
    | error e => exact bound
    | ok portIndex => exact run portIndex
  cases w with
  | sriovNumvfs buf =>
    rw [DeviceWrite.program, nsimBusDevNumvfsStore]
    cases kstrtouint buf 0 with
    | error e => exact bound
    | ok numVfs =>
      dsimp only
      rw [wp_bind, wp_get]
      split
      · exact wp_withDrvdata_driver (.sriovNumvfs numVfs) nofun nofun bound
      · exact bound
  | newPort buf =>
    exact port _ _ fun portIndex =>
      wp_withDrvdata_driver (.newPort portIndex) nofun nofun bound
  | delPort buf =>
    exact port _ _ fun portIndex =>
      wp_withDrvdata_driver (.delPort portIndex) nofun nofun bound

theorem wp_nsimBusProbe {now : ℕ} :
    wp (nsimBusProbe now) (fun _ => DriverBound)
      (fun _ t => t.drvdata = false ∧ t.bound = d.bound) d := by
  unfold nsimBusProbe
  rw [wp_bind, wp_modify, wp_bind, wp_unwind, wp_withDrvdata]
  intro _
  have unbound : nsimDevSystem.Reachable ⟨⟨d.world.kernel, .blank d.world.dev.busDev⟩, false⟩ :=
    .init rfl
  have probed : wp (nsimDrvProbe now) (fun _ => FullyProbed) (fun _ _ => True)
      ⟨d.world.kernel, .blank d.world.dev.busDev⟩ := by
    unfold wp
    split
    · trivial
    · rename_i t run
      refine ⟨t.kernel, le_rfl, unbound.step (a := (d.world.kernel, .probe now)) ?_⟩
      exact ⟨le_rfl, iff_of_false Bool.false_ne_true fun other => other now rfl, _, run, rfl⟩
    · trivial
  refine wp_mono probed ?_ ?_
  · intro _ t probed
    rw [wp_modify]
    exact ⟨rfl, fun _ => probed⟩
  · intro _ t _
    rw [wp_modify]
    exact ⟨rfl, rfl⟩

theorem wp_nsimBusRemove :
    wp nsimBusRemove (fun _ t => t.drvdata = false ∧ t.bound = false) (fun _ _ => False) d := by
  unfold nsimBusRemove
  rw [wp_bind, wp_withDrvdata]
  intro _
  refine neverFails_nsimDrvRemove.wp (E := fun _ _ => True) (wp_mono wp_true ?_ fun _ _ => id)
  exact fun _ _ _ => ⟨rfl, rfl⟩

theorem driverBound_unbound (drvdata : d.drvdata = false) (bound : d.bound = false) :
    DriverBound d :=
  ⟨drvdata.trans bound.symm, fun yes => absurd (bound.symm.trans yes) Bool.false_ne_true⟩

theorem driverBound_step {a : KernelState × BusDeviceOp} (before : DriverBound d)
    (step : busDeviceSystem.step d a e) : DriverBound e := by
  obtain ⟨kernel, op⟩ := a
  obtain ⟨may, newer, result, run⟩ := step
  have start : DriverBound (d.inKernel kernel) := by
    refine ⟨before.drvdata, fun bound => ?_⟩
    obtain ⟨kernel', older, reachable⟩ := before.probed bound
    exact ⟨kernel', older.trans newer, reachable⟩
  have kept : wp op.program (fun _ => DriverBound) (fun _ => DriverBound) (d.inKernel kernel) := by
    cases op with
    | deviceAdd busDev => exact driverBound_unbound (before.drvdata.trans may.2.1) may.2.1
    | probe now =>
      refine wp_mono wp_nsimBusProbe (fun _ _ => id) ?_
      rintro _ t ⟨drvdata, bound⟩
      exact driverBound_unbound drvdata (bound.trans may.2)
    | setInit val => exact ⟨start.drvdata, start.probed⟩
    | unbind =>
      refine wp_mono wp_nsimBusRemove ?_ fun _ _ => False.elim
      exact fun _ t gone => driverBound_unbound gone.1 gone.2
    | deviceDel =>
      rw [BusDeviceOp.program, wp_bind, wp_get]
      split
      · rw [wp_bind]
        refine wp_mono wp_nsimBusRemove ?_ fun _ _ => False.elim
        exact fun _ t gone => driverBound_unbound gone.1 gone.2
      · exact ⟨start.drvdata, start.probed⟩
    | devlink op =>
      refine wp_withDrvdata_driver op ?_ ?_ start
      · rintro now rfl
        exact absurd may.2 Bool.false_ne_true
      · rintro rfl
        exact absurd may.2 Bool.false_ne_true
    | write w => exact wp_write w start
  exact holds_of_wp kept run

theorem driverBound_reachable (run : busDeviceSystem.Reachable d) : DriverBound d := by
  refine TransitionSystem.Reachable.induct ?_ ?_ run
  · exact fun _ init => driverBound_unbound init.1 init.2.1
  · exact fun _ _ _ _ before step => driverBound_step before step

end Runs

/-! ## Writes -/

section Writes

variable {α : Type} {d : BusDevice} {w : DeviceWrite} {m : DevM α}

theorem exec_withDrvdata_missing (missing : d.drvdata = false) :
    (withDrvdata m).exec d = none := by
  unfold withDrvdata
  rw [exec_bind]
  show (if d.drvdata = true then _ else goWrong : BusDeviceM α).exec d = none
  rw [missing]
  rfl

theorem completes_withDrvdata (there : d.drvdata = true) (total : Total m) :
    Completes (withDrvdata m) d := by
  unfold withDrvdata Completes
  rw [twp_bind, twp_get, if_pos there, twp_zoom]
  exact total d.world

theorem exec_portStore (drv : UInt32 → DevM Unit) (buf : Bytes) :
    (portStore drv buf).exec d = if d.init then
      match kstrtouint buf 0 with
      | .error e => some (.error e, d)
      | .ok portIndex => (withDrvdata (drv portIndex)).exec d
    else some (.error .EBUSY, d) := by
  unfold portStore
  rw [exec_bind]
  show (failIf (¬d.init) Errno.EBUSY >>= _ : BusDeviceM Unit).exec d = _
  cases d.init with
  | false => rfl
  | true => cases kstrtouint buf 0 <;> rfl

theorem exec_nsimBusDevNumvfsStore (buf : Bytes) :
    (nsimBusDevNumvfsStore buf).exec d = match kstrtouint buf 0 with
      | .error e => some (.error e, d)
      | .ok numVfs => if d.drvdata then (withDrvdata (nsimDrvConfigureVfs numVfs)).exec d
        else some (.error .ENOENT, d) := by
  unfold nsimBusDevNumvfsStore
  cases kstrtouint buf 0 with
  | error e => rfl
  | ok numVfs =>
    rw [exec_bind]
    show (if d.drvdata = true then _ else throw Errno.ENOENT : BusDeviceM Unit).exec d = _
    cases d.drvdata <;> rfl

theorem completes_congr {n n' : BusDeviceM α} (same : n.exec d = n'.exec d) :
    Completes n d ↔ Completes n' d := by
  unfold Completes twp
  rw [same]

/-- A write to a file of ports. -/
theorem handled_portStore {drv : UInt32 → DevM Unit} {buf : Bytes} (bound : DriverBound d)
    (total : ∀ portIndex, Total (drv portIndex)) :
    (FullyProbed d.world ∧ Completes (portStore drv buf) d ∨
        ∃ e, (portStore drv buf).exec d = some (.error e, d)) ↔
      (d.init = true → (∃ portIndex, kstrtouint buf 0 = .ok portIndex) → d.bound = true) := by
  have run := exec_portStore (d := d) drv buf
  cases init : d.init with
  | false =>
    rw [init] at run
    exact iff_of_true (.inr ⟨_, run⟩) fun yes => absurd yes Bool.false_ne_true
  | true =>
    rw [init, if_pos rfl] at run
    cases parsed : kstrtouint buf 0 with
    | error e =>
      rw [parsed] at run
      refine iff_of_true (.inr ⟨e, run⟩) fun _ number => ?_
      obtain ⟨_, same⟩ := number
      cases same
    | ok portIndex =>
      rw [parsed] at run
      cases there : d.drvdata with
      | false =>
        dsimp only at run
        rw [exec_withDrvdata_missing there] at run
        refine iff_of_false ?_ fun needs => ?_
        · rintro (⟨-, completes⟩ | ⟨e, fails⟩)
          · obtain ⟨_, _, ends⟩ := completes.exists
            rw [run] at ends
            cases ends
          · rw [run] at fails
            cases fails
        · have driver := needs rfl ⟨portIndex, rfl⟩
          rw [← bound.drvdata, there] at driver
          cases driver
      | true =>
        have driver : d.bound = true := bound.drvdata ▸ there
        refine iff_of_true (.inl ⟨bound.probed driver, ?_⟩) fun _ _ => driver
        exact (completes_congr run).2 (completes_withDrvdata there (total portIndex))

/-- A write is handled safely exactly if it is not one of a port number to a device that
`new_device` is through with and that has no driver. -/
theorem writes_handled_safely (d : BusDevice) (run : busDeviceSystem.Reachable d) (w : DeviceWrite) :
    HandledSafely d w ↔ PortNeedsDriver d w := by
  have bound := driverBound_reachable run
  cases w with
  | sriovNumvfs buf =>
    refine iff_of_true ?_ trivial
    have exec := exec_nsimBusDevNumvfsStore (d := d) buf
    cases parsed : kstrtouint buf 0 with
    | error e =>
      rw [parsed] at exec
      exact .inr ⟨e, exec⟩
    | ok numVfs =>
      rw [parsed] at exec
      cases there : d.drvdata with
      | false =>
        rw [there] at exec
        exact .inr ⟨_, exec⟩
      | true =>
        rw [there] at exec
        refine .inl ⟨bound.probed (bound.drvdata ▸ there), ?_⟩
        exact (completes_congr exec).2
          (completes_withDrvdata there (total_nsimDrvConfigureVfs numVfs))
  | newPort buf => exact handled_portStore bound fun _ => total_nsimDrvPortAdd _ _
  | delPort buf => exact handled_portStore bound fun _ => total_nsimDrvPortDel _ _

end Writes

/-! ## Given runs -/

section Given

/-- The device after an operation in a state of the kernel, if it may happen. -/
def BusDevice.advance (d : BusDevice) (a : KernelState × BusDeviceOp) : Option BusDevice :=
  if a.2.may d ∧ d.world.kernel.nextPtr ≤ a.1.nextPtr then
    (a.2.program.exec (d.inKernel a.1)).map Prod.snd
  else none

/-- A bus device with one port, before it is there. -/
def BusDevice.fresh : BusDevice :=
  ⟨⟨.loaded, .blank ⟨1, 1, false, 4, 0⟩⟩, false, false, false, false⟩

/-- A given run. -/
theorem exists_busDevice (ops : List (KernelState × BusDeviceOp)) (test : BusDevice → Bool)
    (passes : (TransitionSystem.follow BusDevice.advance ops .fresh).any test = true) :
    ∃ d, busDeviceSystem.Reachable d ∧ test d = true := by
  have start : busDeviceSystem.Reachable .fresh := .init ⟨rfl, rfl, rfl, rfl⟩
  refine start.exists_of_follow ops test ?_ passes
  intro a _ d e next
  unfold BusDevice.advance at next
  split at next
  · rename_i may
    obtain ⟨⟨result, u⟩, run, rfl⟩ := Option.map_eq_some_iff.1 next
    exact ⟨may.1, may.2, result, run⟩
  · cases next

/-- A port is added to a device with a driver. -/
theorem writes_handled_safely_bound : ∃ d, busDeviceSystem.Reachable d ∧ d.bound = true ∧
    d.init = true ∧ HandledSafely d (.newPort (ascii "5")) := by
  obtain ⟨d, run, test⟩ := exists_busDevice
    [(.loaded, .deviceAdd ⟨1, 1, false, 4, 0⟩), (.loaded, .probe 0),
      ({ KernelState.loaded with nextPtr := 100 }, .setInit true)]
    (fun d => d.bound && d.init) (by decide +kernel)
  obtain ⟨bound, init⟩ := (Bool.and_eq_true _ _).mp test
  exact ⟨d, run, bound, init, (writes_handled_safely d run _).2 fun _ _ => bound⟩

/-- An allocation fails when the device is probed, and then a port is added. -/
theorem new_port_without_driver : ¬∀ d, busDeviceSystem.Reachable d → ∀ w, HandledSafely d w := by
  intro always
  obtain ⟨d, run, test⟩ := exists_busDevice
    [(.loaded, .deviceAdd ⟨1, 1, false, 4, 0⟩),
      ({ KernelState.loaded with faults := [some .ENOMEM] }, .probe 0), (.loaded, .setInit true)]
    (fun d => !d.bound && d.init) (by decide +kernel)
  obtain ⟨unbound, init⟩ := (Bool.and_eq_true _ _).mp test
  have needs := (writes_handled_safely d run _).1 (always d run (.newPort (ascii "5")))
  have bound := needs init ⟨5, by decide⟩
  rw [bound] at unbound
  cases unbound

end Given

end Netdevsim
