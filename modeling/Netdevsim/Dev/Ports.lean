import Netdevsim.Dev.Device
import Netdevsim.Dpll.PinFrame
import Netdevsim.Lib.Erasure

/-!
# What port operations change

Adding a port either succeeds and adds exactly that port, or leaves the device as it was.  Whatever
is done to VF ports leaves the PF ports and everything but the ports alone.
-/

namespace Netdevsim

open Program

/-! ## Programs of the device -/

section Basic

variable {α : Type} {w : NsimWorld} {E : Errno → NsimWorld → Prop}

/-- The kernel is the part of the world that kernel functions see. -/
theorem inKernel_eq_zoom (m : KernelM α) :
    inKernel m = zoom NsimWorld.kernel (fun kernel w => { w with kernel }) m := rfl

@[simp] theorem wp_inKernel {m : KernelM α} {Q : α → NsimWorld → Prop} :
    wp (inKernel m) Q E w ↔
      wp m (fun a kernel => Q a ⟨kernel, w.dev⟩) (fun e kernel => E e ⟨kernel, w.dev⟩) w.kernel := by
  rw [inKernel_eq_zoom, wp_zoom]

@[simp] theorem wp_getDev {Q : NsimDev → NsimWorld → Prop} : wp getDev Q E w ↔ Q w.dev w := Iff.rfl

@[simp] theorem wp_modifyDev {f : NsimDev → NsimDev} {Q : Unit → NsimWorld → Prop} :
    wp (modifyDev f) Q E w ↔ Q () ⟨w.kernel, f w.dev⟩ := Iff.rfl

theorem neverFails_inKernel {m : KernelM α} (never : NeverFails m) : NeverFails (inKernel m) :=
  fun w => wp_inKernel.2 (never w.kernel)

theorem neverFails_getDev : NeverFails getDev := fun _ => trivial

theorem neverFails_modifyDev (f : NsimDev → NsimDev) : NeverFails (modifyDev f) := fun _ => trivial

end Basic

/-! ## The frame of all port operations -/

/-- The device without its ports, what the VFs change of it and the switches in debugfs. -/
def NsimDev.core (dev : NsimDev) : NsimDev :=
  ⟨{ dev.busDev with maxVfs := 0, numVfs := 0 }, dev.live, [], dev.dpll, .LEGACY, false, false, ∅,
    dev.reloadFailed⟩

/-- All changes of ports, VFs, the eswitch mode and the switches. -/
def portFrame : Frame NsimWorld where
  rel w t := pinFrame.rel w.kernel t.kernel ∧ t.dev.core = w.dev.core
  refl w := ⟨pinFrame.refl w.kernel, rfl⟩
  trans := fun ⟨kernel, dev⟩ ⟨kernel', dev'⟩ => ⟨pinFrame.trans kernel kernel', dev'.trans dev⟩

def NsimDev.pfPorts (dev : NsimDev) : List NsimDevPort := dev.portList.filter nsimDevPortIsPf

/-- All changes of VF ports, VFs and the eswitch mode. -/
def vfFrame : Frame NsimWorld where
  rel w t := portFrame.rel w t ∧ t.dev.pfPorts = w.dev.pfPorts
  refl w := ⟨portFrame.refl w, rfl⟩
  trans := fun ⟨frame, pf⟩ ⟨frame', pf'⟩ => ⟨portFrame.trans frame frame', pf'.trans pf⟩

theorem keeps_inKernel {α : Type} {m : KernelM α} (keeps : Keeps pinFrame m) :
    Keeps vfFrame (inKernel m) := by
  intro w
  rw [wp_inKernel]
  apply wp_mono (keeps w.kernel)
  · exact fun _ _ kernel => ⟨⟨kernel, rfl⟩, rfl⟩
  · exact fun _ _ kernel => ⟨⟨kernel, rfl⟩, rfl⟩

theorem keeps_getDev {F : Frame NsimWorld} : Keeps F getDev := F.refl

/-! ## One port -/

section OnePort

variable {type : NsimDevPortType} {portIndex : UInt32} {w t : NsimWorld} {port : NsimDevPort}

/-- The device with one port more. -/
def NsimDev.addPort (dev : NsimDev) (port : NsimDevPort) : NsimDev :=
  { dev with
    portList := port :: dev.portList, devlinkPorts := insert port.portIndex dev.devlinkPorts }

/-- The device with one port less. -/
def NsimDev.delPort (dev : NsimDev) (port : NsimDevPort) : NsimDev :=
  { dev with
    portList := dev.portList.erase port, devlinkPorts := dev.devlinkPorts.erase port.portIndex }

/-- The port is new in `w` and is all that `t` has more. -/
structure PortAdded (port : NsimDevPort) (w t : NsimWorld) : Prop where
  kernel : pinFrame.rel w.kernel t.kernel
  dev : t.dev = w.dev.addPort port
  unregistered : port.portIndex ∉ w.dev.devlinkPorts
  ns : w.kernel.nextPtr ≤ port.ns ∧ port.ns < t.kernel.nextPtr

theorem wp_nsimCreate {E : Errno → NsimWorld → Prop}
    (error : ∀ e t, pinFrame.rel w.kernel t.kernel → t.dev = w.dev → E e t) :
    wp nsimCreate (fun ns t => pinFrame.rel w.kernel t.kernel ∧ t.dev = w.dev ∧
      w.kernel.nextPtr ≤ ns ∧ ns < t.kernel.nextPtr) E w := by
  unfold nsimCreate
  rw [wp_bind, wp_getDev, wp_bind, wp_failIf]
  refine ⟨fun _ => error _ _ (pinFrame.refl _) rfl, fun _ => ?_⟩
  rw [wp_bind, wp_inKernel]
  apply wp_kzalloc
  · intro faults
    rw [wp_bind, wp_inKernel]
    have grown : pinFrame.rel w.kernel
        { w.kernel with nextPtr := w.kernel.nextPtr + 1, faults } :=
      ⟨fun _ => rfl, rfl, Nat.le_add_right _ _⟩
    apply wp_mono (keeps_mayFail _)
    · intro _ kernel kept
      have later := pinFrame.trans grown kept
      exact ⟨⟨later.1, later.2.1, later.2.2⟩, rfl, le_rfl, Nat.lt_of_succ_le kept.2.2⟩
    · exact fun e kernel kept => error e _ (pinFrame.trans grown kept) rfl
  · exact fun faults => error _ _ ⟨fun _ => rfl, rfl, le_rfl⟩ rfl

/-- A port is added, or nothing changes. -/
theorem wp_nsimDevPortAdd :
    wp (_nsimDevPortAdd type portIndex)
      (fun _ t => ∃ ns, PortAdded ⟨nsimDevPortIndex type portIndex, type, ns⟩ w t)
      (fun _ t => pinFrame.rel w.kernel t.kernel ∧ t.dev = w.dev) w := by
  unfold _nsimDevPortAdd
  rw [wp_bind, wp_getDev, wp_bind, wp_failIf]
  refine ⟨fun _ => ⟨pinFrame.refl _, rfl⟩, fun _ => ?_⟩
  rw [wp_bind, wp_inKernel]
  apply wp_mono (keeps_mayRunOut _) _ fun _ _ kept => ⟨kept, rfl⟩
  intro _ k₁ kept₁
  dsimp only
  unfold devlPortRegister
  rw [wp_bind, wp_bind, wp_getDev, wp_bind, wp_failIf]
  refine ⟨fun _ => ⟨kept₁, rfl⟩, fun unregistered => ?_⟩
  rw [wp_bind, wp_inKernel]
  apply wp_mono (keeps_mayRunOut _) _ fun _ _ kept => ⟨pinFrame.trans kept₁ kept, rfl⟩
  intro _ k₂ kept₂
  have kept₂ := pinFrame.trans kept₁ kept₂
  rw [wp_modifyDev]
  -- from here on a failure takes the registration back
  apply wp_unwind_of (J := fun t => pinFrame.rel w.kernel t.kernel ∧ t.dev =
    { w.dev with devlinkPorts := insert (nsimDevPortIndex type portIndex) w.dev.devlinkPorts })
  · rw [wp_bind, wp_inKernel]
    apply wp_mono (keeps_mayFail _) _ fun _ _ kept => ⟨pinFrame.trans kept₂ kept, rfl⟩
    intro _ k₃ kept₃
    have kept₃ := pinFrame.trans kept₂ kept₃
    rw [wp_bind]
    apply wp_mono (wp_nsimCreate fun _ t kept same => ⟨pinFrame.trans kept₃ kept, same⟩) _
      fun _ _ => id
    rintro ns t ⟨kept, same, le, lt⟩
    have kept := pinFrame.trans kept₃ kept
    rw [wp_bind, wp_unwind]
    apply wp_mono (Q := fun _ u => pinFrame.rel t.kernel u.kernel ∧ u.dev = t.dev)
      (E := fun _ u => pinFrame.rel t.kernel u.kernel ∧ u.dev = t.dev)
    · split
      · rw [wp_inKernel]
        apply wp_mono (keeps_mayFail _)
        · exact fun _ _ kept => ⟨kept, rfl⟩
        · exact fun _ _ kept => ⟨kept, rfl⟩
      · exact ⟨pinFrame.refl _, rfl⟩
    · rintro _ u ⟨kept', same'⟩
      rw [wp_modifyDev]
      refine ⟨ns, pinFrame.trans kept kept', ?_, unregistered, kept₃.2.2.trans le,
        lt.trans_le kept'.2.2⟩
      rw [same', same]
      rfl
    · rintro _ u ⟨kept', same'⟩
      have later := pinFrame.trans kept kept'
      exact ⟨⟨later.1, later.2.1, later.2.2⟩, same'.trans same⟩
  · rintro t ⟨kept, same⟩
    unfold devlPortUnregister
    rw [wp_modifyDev]
    refine ⟨kept, ?_⟩
    dsimp only
    rw [same]
    dsimp only
    rw [Finset.erase_insert unregistered]

theorem keeps_nsimDevPortAdd : Keeps portFrame (_nsimDevPortAdd type portIndex) := by
  intro w
  apply wp_mono wp_nsimDevPortAdd
  · rintro _ t ⟨ns, kernel, dev, -, -⟩
    refine ⟨kernel, ?_⟩
    rw [dev]
    rfl
  · rintro _ t ⟨kernel, dev⟩
    refine ⟨kernel, ?_⟩
    rw [dev]

theorem wp_nsimDevPortDel {E : Errno → NsimWorld → Prop} :
    wp (_nsimDevPortDel port)
      (fun _ t => pinFrame.rel w.kernel t.kernel ∧ t.dev = w.dev.delPort port) E w :=
  ⟨⟨fun _ => rfl, rfl, le_rfl⟩, rfl⟩

theorem keeps_nsimDevPortDel (port : NsimDevPort) : Keeps portFrame (_nsimDevPortDel port) := by
  intro w
  apply wp_mono wp_nsimDevPortDel _ fun _ _ => id
  rintro _ t ⟨kernel, dev⟩
  refine ⟨kernel, ?_⟩
  rw [dev]
  rfl

theorem keeps_nsimDrvPortAdd : Keeps portFrame (nsimDrvPortAdd type portIndex) := by
  apply keeps_getDev.bind
  intro dev
  exact (keeps_failIf _).bind fun _ => keeps_nsimDevPortAdd

theorem keeps_nsimDrvPortDel : Keeps portFrame (nsimDrvPortDel type portIndex) := by
  apply keeps_getDev.bind
  intro dev
  split
  · exact keeps_throw _
  · exact keeps_nsimDevPortDel _

end OnePort

/-! ## All ports -/

section AllPorts

variable {w : NsimWorld} {n : ℕ} {dev : NsimDev} {ports rest : List NsimDevPort} {bound : Ptr}
  {registered : Finset UInt32}

/-- The indices of ports. -/
def portIndices (ports : List NsimDevPort) : Finset UInt32 :=
  (ports.map NsimDevPort.portIndex).toFinset

/-- The device, if it had no ports, with the given ones. -/
def NsimDev.withPorts (dev : NsimDev) (ports : List NsimDevPort) : NsimDev :=
  { dev with portList := ports, devlinkPorts := dev.devlinkPorts ∪ portIndices ports }

/-- The device after the deletion of all ports. -/
def NsimDev.noPorts (dev : NsimDev) : NsimDev :=
  { dev with portList := [], devlinkPorts := dev.devlinkPorts \ portIndices dev.portList }

/-- What tells a port from the others of its device. -/
def NsimDevPort.key (port : NsimDevPort) : UInt32 × NsimDevPortType :=
  (port.portIndex, port.portType)

/-- The keys of the PF ports `0, …, n - 1`, the newest first. -/
def pfKeys (n : ℕ) : List (UInt32 × NsimDevPortType) :=
  ((List.range n).map fun i => (UInt32.ofNat i, .PF)).reverse

/-- The ports are the PF ports `0, …, n - 1`, none of them registered before and in memory below
`bound`. -/
structure PfPorts (n : ℕ) (registered : Finset UInt32) (bound : Ptr) (ports : List NsimDevPort) :
    Prop where
  keys : ports.map NsimDevPort.key = pfKeys n
  unregistered : ∀ port ∈ ports, port.portIndex ∉ registered
  nodup : (ports.map NsimDevPort.ns).Nodup
  bound : ∀ port ∈ ports, port.ns < bound

theorem PfPorts.cons (old : PfPorts n registered bound ports) {ns bound' : Ptr}
    (unregistered : UInt32.ofNat n ∉ registered) (new : bound ≤ ns) (lt : ns < bound') :
    PfPorts (n + 1) registered bound' (⟨UInt32.ofNat n, .PF, ns⟩ :: ports) := by
  refine ⟨?_, ?_, ?_, ?_⟩
  · rw [pfKeys, List.range_succ, List.map_append, List.reverse_append, List.map_cons, old.keys]
    rfl
  · rintro port (_ | ⟨_, mem⟩)
    · exact unregistered
    · exact old.unregistered port mem
  · rw [List.map_cons, List.nodup_cons]
    refine ⟨?_, old.nodup⟩
    intro mem
    obtain ⟨port, mem, same⟩ := List.mem_map.1 mem
    exact absurd (old.bound port mem) (not_lt.2 (same ▸ new))
  · rintro port (_ | ⟨_, mem⟩)
    · exact lt
    · exact (old.bound port mem).trans_le (new.trans lt.le)

theorem PfPorts.mem_pf (ok : PfPorts n registered bound ports) {port : NsimDevPort}
    (mem : port ∈ ports) :
    nsimDevPortIsPf port := by
  have key : port.key ∈ pfKeys n := ok.keys ▸ List.mem_map_of_mem mem
  obtain ⟨i, -, same⟩ := List.mem_map.1 (List.mem_reverse.1 key)
  have type : port.portType = .PF := (congrArg Prod.snd same).symm
  exact decide_eq_true type

theorem PfPorts.portIndices (ok : PfPorts n registered bound ports) :
    portIndices ports = ((pfKeys n).map Prod.fst).toFinset := by
  rw [← ok.keys, List.map_map]
  rfl

theorem PfPorts.disjoint (ok : PfPorts n registered bound ports) :
    Disjoint registered (Netdevsim.portIndices ports) := by
  rw [Finset.disjoint_right]
  intro index mem
  obtain ⟨port, inPorts, rfl⟩ := List.mem_map.1 (List.mem_toFinset.1 mem)
  exact ok.unregistered port inPorts

theorem withPorts_nil (none : dev.portList = []) : dev.withPorts [] = dev := by
  show NsimDev.mk _ _ [] _ _ _ _ (dev.devlinkPorts ∪ ∅) _ = dev
  rw [Finset.union_empty, ← none]

theorem withPorts_cons (port : NsimDevPort) :
    dev.withPorts (port :: ports) = (dev.withPorts ports).addPort port := by
  unfold NsimDev.withPorts NsimDev.addPort portIndices
  rw [List.map_cons, List.toFinset_cons, Finset.union_insert]

/-- Deleting the ports just added leads back. -/
theorem noPorts_withPorts (none : dev.portList = [])
    (apart : Disjoint dev.devlinkPorts (portIndices ports)) :
    (dev.withPorts ports).noPorts = dev := by
  show NsimDev.mk _ _ [] _ _ _ _ ((dev.devlinkPorts ∪ portIndices ports) \ portIndices ports) _ = dev
  rw [Finset.union_sdiff_cancel_right apart, ← none]
  rfl

theorem foldl_delPort (all : dev.portList = ports ++ rest) :
    ports.foldl NsimDev.delPort dev =
      { dev with portList := rest, devlinkPorts := dev.devlinkPorts \ portIndices ports } := by
  induction ports generalizing dev with
  | nil =>
    rw [List.nil_append] at all
    rw [List.foldl_nil, ← all]
    simp [portIndices]
  | cons port ports ih =>
    have others : (dev.delPort port).portList = ports ++ rest := by
      rw [NsimDev.delPort, all, List.cons_append]
      exact List.erase_cons_head ..
    rw [List.foldl_cons, ih others]
    simp only [NsimDev.delPort, portIndices, List.map_cons, List.toFinset_cons,
      Finset.sdiff_insert, Finset.erase_sdiff_comm]

theorem wp_delPorts {E : Errno → NsimWorld → Prop} (ports : List NsimDevPort) :
    wp (ports.forM _nsimDevPortDel)
      (fun _ t => pinFrame.rel w.kernel t.kernel ∧ t.dev = ports.foldl NsimDev.delPort w.dev) E
      w := by
  induction ports generalizing w with
  | nil => exact ⟨pinFrame.refl _, rfl⟩
  | cons port ports ih =>
    show wp (_nsimDevPortDel port >>= fun _ => ports.forM _nsimDevPortDel) _ _ _
    rw [wp_bind]
    apply wp_mono wp_nsimDevPortDel _ fun _ _ => id
    rintro _ t ⟨kept, deleted⟩
    apply wp_mono ih _ fun _ _ => id
    rintro _ u ⟨kept', deleted'⟩
    refine ⟨pinFrame.trans kept kept', ?_⟩
    rw [deleted', deleted, List.foldl_cons]

theorem wp_nsimDevPortDelAll {E : Errno → NsimWorld → Prop} :
    wp nsimDevPortDelAll
      (fun _ t => pinFrame.rel w.kernel t.kernel ∧ t.dev = w.dev.noPorts) E w := by
  unfold nsimDevPortDelAll
  rw [wp_bind, wp_getDev]
  apply wp_mono (wp_delPorts _) _ fun _ _ => id
  rintro _ t ⟨kept, deleted⟩
  refine ⟨kept, ?_⟩
  rw [deleted, foldl_delPort (List.append_nil _).symm]
  rfl

/-- The first `n` PF ports are all that `t` has more than `w`. -/
def PortsAdded (w : NsimWorld) (n : ℕ) (t : NsimWorld) : Prop :=
  pinFrame.rel w.kernel t.kernel ∧ ∃ ports,
    PfPorts n w.dev.devlinkPorts t.kernel.nextPtr ports ∧ t.dev = w.dev.withPorts ports

theorem wp_addPfPort {t : NsimWorld} (added : PortsAdded w n t) :
    wp (_nsimDevPortAdd .PF (UInt32.ofNat n)) (fun _ => PortsAdded w (n + 1))
      (fun _ => PortsAdded w n) t := by
  obtain ⟨kept, ports, ok, same⟩ := added
  apply wp_mono wp_nsimDevPortAdd
  · rintro _ u ⟨ns, kernel, dev, unregistered, le, lt⟩
    rw [same] at unregistered
    refine ⟨pinFrame.trans kept kernel, _, ok.cons ?_ le lt, ?_⟩
    · exact fun mem => unregistered (Finset.mem_union_left _ mem)
    · rw [dev, same, withPorts_cons]
      rfl
  · rintro _ u ⟨kernel, dev⟩
    refine ⟨pinFrame.trans kept kernel, ports, ?_, dev.trans same⟩
    exact ⟨ok.keys, ok.unregistered, ok.nodup, fun port mem =>
      (ok.bound port mem).trans_le kernel.2.2⟩

/-- Either all PF ports are added to a device without ports, or nothing changes. -/
theorem wp_nsimDevPortAddAll {portCount : UInt32} (none : w.dev.portList = []) :
    wp (nsimDevPortAddAll portCount) (fun _ => PortsAdded w portCount.toNat)
      (fun _ t => pinFrame.rel w.kernel t.kernel ∧ t.dev = w.dev) w := by
  unfold nsimDevPortAddAll
  apply wp_unwind_of (J := fun t => ∃ n, PortsAdded w n t)
  · apply wp_forM_range (I := PortsAdded w)
    · intro i _ t added
      exact wp_mono (wp_addPfPort added) (fun _ _ => id) fun _ _ back => ⟨i, back⟩
    · refine ⟨pinFrame.refl _, [], ⟨rfl, ?_, List.nodup_nil, ?_⟩, (withPorts_nil none).symm⟩
      · exact fun port mem => absurd mem List.not_mem_nil
      · exact fun port mem => absurd mem List.not_mem_nil
  · rintro t ⟨n, kept, ports, ok, same⟩
    apply wp_mono wp_nsimDevPortDelAll _ fun _ _ => id
    rintro _ u ⟨kept', deleted⟩
    refine ⟨pinFrame.trans kept kept', ?_⟩
    rw [deleted, same, noPorts_withPorts none ok.disjoint]

end AllPorts

/-! ## VF ports -/

section VfPorts

variable {portIndex : UInt32} {port : NsimDevPort}

theorem keeps_addVfPort : Keeps vfFrame (_nsimDevPortAdd .VF portIndex) := by
  intro w
  apply wp_mono wp_nsimDevPortAdd
  · rintro _ t ⟨ns, kernel, dev, -, -⟩
    refine ⟨⟨kernel, ?_⟩, ?_⟩ <;> rw [dev]
    · rfl
    · exact List.filter_cons_of_neg (by simp [nsimDevPortIsPf])
  · rintro _ t ⟨kernel, dev⟩
    refine ⟨⟨kernel, ?_⟩, ?_⟩ <;> rw [dev]

theorem keeps_delVfPort (vf : nsimDevPortIsVf port) : Keeps vfFrame (_nsimDevPortDel port) := by
  intro w
  apply wp_mono wp_nsimDevPortDel _ fun _ _ => id
  rintro _ t ⟨kernel, dev⟩
  refine ⟨⟨kernel, ?_⟩, ?_⟩ <;> rw [dev]
  · rfl
  · have other : port ∉ w.dev.pfPorts := by
      intro mem
      have pf := (List.mem_filter.1 mem).2
      simp_all [nsimDevPortIsVf, nsimDevPortIsPf]
    show (w.dev.portList.erase port).filter nsimDevPortIsPf = _
    rw [← List.erase_filter]
    exact List.erase_of_not_mem other

theorem keeps_delVfPorts : Keeps vfFrame delVfPorts := by
  apply keeps_getDev.bind
  intro dev
  apply keeps_forM
  exact fun port mem => keeps_delVfPort (List.mem_filter.1 mem).2

theorem keeps_nsimBusDevSetVfs (numVfs : UInt32) : Keeps vfFrame (nsimBusDevSetVfs numVfs) :=
  fun w => ⟨⟨pinFrame.refl w.kernel, rfl⟩, rfl⟩

theorem keeps_nsimEswLegacyEnable : Keeps vfFrame nsimEswLegacyEnable := by
  apply keeps_delVfPorts.bind
  exact fun _ w => ⟨⟨pinFrame.refl w.kernel, rfl⟩, rfl⟩

theorem keeps_nsimEswSwitchdevEnable : Keeps vfFrame nsimEswSwitchdevEnable := by
  apply keeps_getDev.bind
  intro dev
  apply Keeps.bind
  · exact keeps_delVfPorts.unwind (keeps_forM fun _ _ => keeps_addVfPort)
  · exact fun _ w => ⟨⟨pinFrame.refl w.kernel, rfl⟩, rfl⟩

theorem keeps_nsimDevlinkEswitchModeSet (mode : EswitchMode) :
    Keeps vfFrame (nsimDevlinkEswitchModeSet mode) := by
  apply keeps_getDev.bind
  intro dev
  split
  · exact keeps_pure _
  · cases mode
    · exact keeps_nsimEswLegacyEnable
    · exact keeps_nsimEswSwitchdevEnable

theorem keeps_nsimDrvConfigureVfs (numVfs : UInt32) :
    Keeps vfFrame (nsimDrvConfigureVfs numVfs) := by
  apply keeps_getDev.bind
  intro dev
  split
  · exact keeps_pure _
  · apply (keeps_failIf _).bind
    intro _
    apply (keeps_failIf _).bind
    intro _
    apply (keeps_nsimBusDevSetVfs _).bind
    intro _
    split
    · split
      · exact (keeps_nsimBusDevSetVfs 0).unwind keeps_nsimEswSwitchdevEnable
      · exact keeps_nsimEswLegacyEnable
    · exact keeps_pure _

theorem keeps_nsimBusDevMaxVfsWrite (val : UInt32) :
    Keeps vfFrame (nsimBusDevMaxVfsWrite val) := by
  apply (keeps_failIf _).bind
  intro _
  apply (keeps_inKernel keeps_mayRunOut).bind
  intro _
  apply keeps_getDev.bind
  intro dev
  apply (keeps_failIf _).bind
  exact fun _ w => ⟨⟨pinFrame.refl w.kernel, rfl⟩, rfl⟩

theorem keeps_dropVfs : Keeps vfFrame dropVfs := by
  apply keeps_getDev.bind
  intro dev
  split
  · apply (keeps_nsimBusDevSetVfs 0).bind
    intro _
    split
    · exact keeps_nsimEswLegacyEnable
    · exact keeps_pure _
  · exact keeps_pure _

theorem neverFails_delPorts (ports : List NsimDevPort) :
    NeverFails (ports.forM _nsimDevPortDel) := fun _ => wp_mono (wp_delPorts ports)
  (fun _ _ _ => trivial) fun _ _ => id

theorem neverFails_dropVfs : NeverFails dropVfs := by
  have delVfPorts : NeverFails delVfPorts := neverFails_getDev.bind fun _ => neverFails_delPorts _
  apply neverFails_getDev.bind
  intro dev
  split
  · apply (neverFails_modifyDev _).bind
    intro _
    split
    · exact delVfPorts.bind fun _ => neverFails_modifyDev _
    · exact neverFails_pure _
  · exact neverFails_pure _

/-- Without VFs there is nothing to give up. -/
theorem wp_dropVfs {w : NsimWorld} {E : Errno → NsimWorld → Prop} :
    wp dropVfs (fun _ t => portFrame.rel w t ∧ (w.dev.busDev.numVfs = 0 → t = w)) E w := by
  apply neverFails_dropVfs.wp (E := fun _ _ => True)
  by_cases none : w.dev.busDev.numVfs = 0
  · unfold dropVfs
    rw [wp_bind, wp_getDev, if_neg (not_not.2 none)]
    exact ⟨portFrame.refl w, fun _ => rfl⟩
  · apply wp_mono (keeps_dropVfs w) _ fun _ _ _ => trivial
    exact fun _ t within => ⟨within.1, fun zero => absurd zero none⟩

end VfPorts

/-- What a driver does between probing and removing, reloads apart. -/
theorem keeps_program {op : NsimOp} (bound : ∀ now, op ≠ .probe now) (stays : op ≠ .remove)
    (up : op ≠ .reload) : Keeps portFrame op.program := by
  have vfs : ∀ {m : DevM Unit}, Keeps vfFrame m → Keeps portFrame m :=
    fun keeps => keeps.mono fun _ _ => And.left
  cases op with
  | probe now => exact absurd rfl (bound now)
  | remove => exact absurd rfl stays
  | newPort portIndex => exact keeps_nsimDrvPortAdd
  | delPort portIndex => exact keeps_nsimDrvPortDel
  | sriovNumvfs numVfs => exact vfs (keeps_nsimDrvConfigureVfs numVfs)
  | maxVfs val => exact vfs (keeps_nsimBusDevMaxVfsWrite val)
  | eswitchMode mode => exact vfs (keeps_nsimDevlinkEswitchModeSet mode)
  | reload => exact absurd rfl up
  | dontAllowReload val => exact fun w => ⟨pinFrame.refl w.kernel, rfl⟩
  | failReload val => exact fun w => ⟨pinFrame.refl w.kernel, rfl⟩

end Netdevsim
