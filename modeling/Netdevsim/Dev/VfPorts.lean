import Netdevsim.Dev.PortPins

/-!
# What is done to the VF ports

PF and VF ports are on one list and share one space of indices.  `VfEffect` says what an operation
makes of the VF ports: it leaves them alone, deletes them all, builds one for each VF, or deletes
the one whose index `del_port` was given.
-/

namespace Netdevsim

open Program

/-- `nsim_dev_port_index_to_vf_index`. -/
def nsimDevPortIndexToVfIndex (portIndex : UInt32) : UInt32 := portIndex - NSIM_DEV_VF_PORT_INDEX_BASE

def NsimDev.vfPorts (dev : NsimDev) : List NsimDevPort := dev.portList.filter nsimDevPortIsVf

def NsimDev.vfIndices (dev : NsimDev) : List UInt32 :=
  dev.vfPorts.map fun port => nsimDevPortIndexToVfIndex port.portIndex

/-- `new_port` and `del_port` create and remove PF ports only. -/
def OnlyPfPorts (op : NsimOp) (dev dev' : NsimDev) : Prop :=
  match op with
  | .newPort _ => dev'.portList = dev.portList ∨
      ∃ port, nsimDevPortIsPf port ∧ dev'.portList = port :: dev.portList
  | .delPort _ => dev'.portList = dev.portList ∨
      ∃ port ∈ dev.portList, nsimDevPortIsPf port ∧ dev'.portList = dev.portList.erase port
  | _ => True

/-! ## The ports on the list -/

/-- The ports on the list are registered with `devlink`, under different indices. -/
structure PortsRegistered (dev : NsimDev) : Prop where
  nodup : (dev.portList.map NsimDevPort.portIndex).Nodup
  mem : ∀ port ∈ dev.portList, port.portIndex ∈ dev.devlinkPorts

/-- The device after the deletion of all VF ports. -/
def NsimDev.noVfPorts (dev : NsimDev) : NsimDev :=
  { dev with portList := dev.pfPorts, devlinkPorts := dev.devlinkPorts \ portIndices dev.vfPorts }

section PortLists

variable {dev dev' : NsimDev} {port other : NsimDevPort} {i : UInt32}

theorem nsimDevPortIndexToVfIndex_vf (i : UInt32) :
    nsimDevPortIndexToVfIndex (nsimDevPortIndex .VF i) = i := by
  unfold nsimDevPortIndexToVfIndex nsimDevPortIndex
  rw [UInt32.add_comm, UInt32.add_sub_cancel]

theorem nsimDevPortIndexToVfIndex_inj {a b : UInt32} :
    nsimDevPortIndexToVfIndex a = nsimDevPortIndexToVfIndex b ↔ a = b := by
  unfold nsimDevPortIndexToVfIndex
  constructor
  · intro same
    have back := congrArg (· + NSIM_DEV_VF_PORT_INDEX_BASE) same
    simpa using back
  · rintro rfl
    rfl

theorem PortsRegistered.congr (ports : PortsRegistered dev) (list : dev'.portList = dev.portList)
    (devlink : dev'.devlinkPorts = dev.devlinkPorts) : PortsRegistered dev' := by
  refine ⟨?_, ?_⟩
  · rw [list]
    exact ports.nodup
  · rw [list, devlink]
    exact ports.mem

theorem portsRegistered_nil (none : dev.portList = []) : PortsRegistered dev := by
  refine ⟨?_, ?_⟩ <;> simp [none]

theorem PortsRegistered.addPort (ports : PortsRegistered dev)
    (unregistered : port.portIndex ∉ dev.devlinkPorts) : PortsRegistered (dev.addPort port) := by
  refine ⟨?_, ?_⟩
  · show (port.portIndex :: dev.portList.map NsimDevPort.portIndex).Nodup
    rw [List.nodup_cons]
    refine ⟨?_, ports.nodup⟩
    intro mem
    obtain ⟨other, listed, same⟩ := List.mem_map.1 mem
    exact unregistered (same ▸ ports.mem other listed)
  · intro other listed
    rcases List.mem_cons.1 listed with rfl | listed
    · exact Finset.mem_insert_self _ _
    · exact Finset.mem_insert_of_mem (ports.mem other listed)

theorem PortsRegistered.list_nodup (ports : PortsRegistered dev) : dev.portList.Nodup :=
  ports.nodup.of_map _

/-- A port is known by its index. -/
theorem PortsRegistered.eq_of_index (ports : PortsRegistered dev) (mem : port ∈ dev.portList)
    (mem' : other ∈ dev.portList) (same : port.portIndex = other.portIndex) : port = other :=
  List.inj_on_of_nodup_map ports.nodup mem mem' same

theorem PortsRegistered.delPort (ports : PortsRegistered dev) (mem : port ∈ dev.portList) :
    PortsRegistered (dev.delPort port) := by
  refine ⟨?_, ?_⟩
  · exact ports.nodup.sublist (List.erase_sublist.map _)
  · intro other left
    obtain ⟨differ, listed⟩ := (ports.list_nodup.mem_erase_iff).1 left
    refine Finset.mem_erase.2 ⟨?_, ports.mem other listed⟩
    exact fun same => differ (ports.eq_of_index listed mem same)

theorem mem_pfPorts : port ∈ dev.pfPorts ↔ port ∈ dev.portList ∧ nsimDevPortIsPf port :=
  List.mem_filter

theorem mem_vfPorts : port ∈ dev.vfPorts ↔ port ∈ dev.portList ∧ nsimDevPortIsVf port :=
  List.mem_filter

theorem PortsRegistered.noVfPorts (ports : PortsRegistered dev) : PortsRegistered dev.noVfPorts := by
  refine ⟨?_, ?_⟩
  · exact ports.nodup.sublist (List.filter_sublist.map _)
  · intro other left
    obtain ⟨listed, pf⟩ := mem_pfPorts.1 left
    refine Finset.mem_sdiff.2 ⟨ports.mem other listed, ?_⟩
    intro index
    obtain ⟨port, vf, same⟩ := List.mem_map.1 (List.mem_toFinset.1 index)
    obtain ⟨listed', vf⟩ := mem_vfPorts.1 vf
    rw [ports.eq_of_index listed' listed same] at vf
    exact nsimDevPortIsVf_iff.1 vf pf

theorem vfPorts_noVfPorts : dev.noVfPorts.vfPorts = [] := by
  refine List.filter_eq_nil_iff.2 fun port mem vf => ?_
  exact nsimDevPortIsVf_iff.1 vf (mem_pfPorts.1 mem).2

theorem vfPorts_addPort_pf (pf : nsimDevPortIsPf port) : (dev.addPort port).vfPorts = dev.vfPorts :=
  List.filter_cons_of_neg fun vf => nsimDevPortIsVf_iff.1 vf pf

theorem vfPorts_addPort_vf (vf : nsimDevPortIsVf port) :
    (dev.addPort port).vfPorts = port :: dev.vfPorts := List.filter_cons_of_pos vf

theorem vfPorts_delPort : (dev.delPort port).vfPorts = dev.vfPorts.erase port :=
  List.erase_filter.symm

theorem vfPorts_delPort_pf (pf : nsimDevPortIsPf port) :
    (dev.delPort port).vfPorts = dev.vfPorts := by
  rw [vfPorts_delPort]
  exact List.erase_of_not_mem fun mem => nsimDevPortIsVf_iff.1 (mem_vfPorts.1 mem).2 pf

/-- The indices of the first `n` VFs, the highest first. -/
def vfRange (n : ℕ) : List UInt32 := ((List.range n).map UInt32.ofNat).reverse

theorem vfRange_succ (n : ℕ) : vfRange (n + 1) = UInt32.ofNat n :: vfRange n := by
  rw [vfRange, List.range_succ, List.map_append, List.reverse_append]
  rfl

theorem mem_vfRange {n : UInt32} : i ∈ vfRange n.toNat ↔ i < n := by
  rw [vfRange, List.mem_reverse, List.mem_map, UInt32.lt_iff_toNat_lt]
  constructor
  · rintro ⟨k, mem, rfl⟩
    have lt := List.mem_range.1 mem
    rwa [UInt32.toNat_ofNat_of_lt' (lt.trans n.toNat_lt)]
  · exact fun lt => ⟨i.toNat, List.mem_range.2 lt, UInt32.ofNat_toNat⟩

theorem nodup_vfRange (n : UInt32) : (vfRange n.toNat).Nodup := by
  refine List.nodup_reverse.2 (List.nodup_range.map_on fun a memA b memB same => ?_)
  have small : ∀ k ∈ List.range n.toNat, (UInt32.ofNat k).toNat = k := fun k mem =>
    UInt32.toNat_ofNat_of_lt' ((List.mem_range.1 mem).trans n.toNat_lt)
  rw [← small a memA, same, small b memB]

/-- The PF ports of a device are registered under different indices. -/
theorem PfPorts.portIndex_nodup {portCount : UInt32} {registered : Finset UInt32} {bound : Ptr}
    {ports : List NsimDevPort} (ok : PfPorts portCount.toNat registered bound ports) :
    (ports.map NsimDevPort.portIndex).Nodup := by
  have same : ports.map NsimDevPort.portIndex = vfRange portCount.toNat := by
    have keys := congrArg (List.map Prod.fst) ok.keys
    rw [pfKeys, List.map_map, List.map_reverse, List.map_map] at keys
    exact keys
  rw [same]
  exact nodup_vfRange portCount

theorem nodup_vfIndices (ports : PortsRegistered dev) : dev.vfIndices.Nodup := by
  have indices : (dev.vfPorts.map NsimDevPort.portIndex).Nodup :=
    ports.nodup.sublist (List.filter_sublist.map _)
  have same : dev.vfIndices =
      (dev.vfPorts.map NsimDevPort.portIndex).map nsimDevPortIndexToVfIndex := by
    rw [NsimDev.vfIndices, List.map_map]
    rfl
  rw [same]
  exact indices.map fun _ _ => nsimDevPortIndexToVfIndex_inj.1

theorem foldl_delPort_eq (ports : List NsimDevPort) :
    ports.foldl NsimDev.delPort dev =
      { dev with
        portList := dev.portList.diff ports
        devlinkPorts := dev.devlinkPorts \ portIndices ports } := by
  induction ports generalizing dev with
  | nil => simp [portIndices]
  | cons port ports ih =>
    rw [List.foldl_cons, ih, List.diff_cons]
    simp only [NsimDev.delPort, portIndices, List.map_cons, List.toFinset_cons, Finset.sdiff_insert,
      Finset.erase_sdiff_comm]

theorem foldl_delPort_vfPorts (ports : PortsRegistered dev) :
    dev.vfPorts.foldl NsimDev.delPort dev = dev.noVfPorts := by
  have left : dev.portList.diff dev.vfPorts = dev.pfPorts := by
    rw [ports.list_nodup.sdiff_eq_filter]
    refine List.filter_congr fun port listed => ?_
    simp [mem_vfPorts, listed, nsimDevPortIsVf_iff]
  rw [foldl_delPort_eq, left]
  rfl

end PortLists

/-! ## What each operation makes of the VF ports -/

/-- The VF ports are what the mode and the number of VFs allow. -/
structure VfPortsSound (dev : NsimDev) : Prop where
  ports : PortsRegistered dev
  legacy : dev.eswMode = .LEGACY → dev.vfPorts = []
  within : ∀ i ∈ dev.vfIndices, i < dev.busDev.numVfs

/-- What the VF ports of `dev` become. -/
inductive VfEffect (op : NsimOp) (dev dev' : NsimDev) : Prop where
  | kept (ports : dev'.vfPorts = dev.vfPorts) (mode : dev'.eswMode = dev.eswMode)
      (vfs : dev'.busDev.numVfs = dev.busDev.numVfs)
  | cleared (ports : dev'.vfPorts = []) (off : dev'.eswMode = .LEGACY ∨ dev'.busDev.numVfs = 0)
  | built (ports : dev'.vfIndices = vfRange dev'.busDev.numVfs.toNat) (mode : dev'.eswMode = .SWITCHDEV)
  /-- `del_port` was given the index of a VF port. -/
  | deleted {port : NsimDevPort} (mem : port ∈ dev.vfPorts) (asked : op = .delPort port.portIndex)
      (ports : dev'.vfPorts = dev.vfPorts.erase port) (mode : dev'.eswMode = dev.eswMode)
      (vfs : dev'.busDev.numVfs = dev.busDev.numVfs)
  /-- The list was initialised again while the last reload had failed. -/
  | forgotten (failed : dev.reloadFailed = true) (ports : dev'.vfPorts = [])
      (mode : dev'.eswMode = dev.eswMode) (vfs : dev'.busDev.numVfs = dev.busDev.numVfs)

def NsimDev.withVfs (dev : NsimDev) (numVfs : UInt32) : NsimDev :=
  { dev with busDev := { dev.busDev with numVfs } }

/-- The device without its ports. -/
def NsimDev.bare (dev : NsimDev) : NsimDev := { dev with portList := [], devlinkPorts := ∅ }

section Operations

variable {w : NsimWorld} {dev dev' : NsimDev} {op : NsimOp} {portIndex numVfs : UInt32} {n : ℕ}
  {E : Errno → NsimWorld → Prop}

theorem VfPortsSound.none_of_zero (sound : VfPortsSound dev) (zero : dev.busDev.numVfs = 0) :
    dev.vfPorts = [] := by
  refine List.eq_nil_iff_forall_not_mem.2 fun port mem => ?_
  have lt := sound.within _ (List.mem_map_of_mem mem)
  rw [zero] at lt
  exact UInt32.not_lt_zero lt

theorem wp_nsimBusDevSetVfs {Q : Unit → NsimWorld → Prop} :
    wp (nsimBusDevSetVfs numVfs) Q E w ↔ Q () ⟨w.kernel, w.dev.withVfs numVfs⟩ := Iff.rfl

theorem wp_delVfPorts (ports : PortsRegistered w.dev) :
    wp delVfPorts (fun _ t => t.dev = w.dev.noVfPorts) E w := by
  unfold delVfPorts
  rw [wp_bind, wp_getDev]
  apply wp_mono (wp_delPorts _) _ fun _ _ => id
  rintro _ t ⟨-, deleted⟩
  exact deleted.trans (foldl_delPort_vfPorts ports)

theorem wp_nsimEswLegacyEnable (ports : PortsRegistered w.dev) :
    wp nsimEswLegacyEnable (fun _ t => t.dev = { w.dev.noVfPorts with eswMode := .LEGACY }) E w := by
  unfold nsimEswLegacyEnable
  rw [wp_bind]
  apply wp_mono (wp_delVfPorts ports) _ fun _ _ => id
  intro _ t deleted
  rw [wp_modifyDev, deleted]

/-- The ports of the first `n` VFs were added to a device without VF ports. -/
structure VfPortsAdded (dev : NsimDev) (n : ℕ) (dev' : NsimDev) : Prop where
  bare : dev'.bare = dev.bare
  ports : PortsRegistered dev'
  indices : dev'.vfIndices = vfRange n

theorem wp_addVfPort (added : VfPortsAdded dev n w.dev) :
    wp (_nsimDevPortAdd .VF (UInt32.ofNat n)) (fun _ t => VfPortsAdded dev (n + 1) t.dev)
      (fun _ t => VfPortsAdded dev n t.dev) w := by
  apply wp_mono wp_nsimDevPortAdd
  · rintro _ t ⟨ns, -, new, unregistered, -⟩
    rw [new]
    refine ⟨added.bare, added.ports.addPort unregistered, ?_⟩
    rw [NsimDev.vfIndices, vfPorts_addPort_vf rfl, List.map_cons, vfRange_succ,
      nsimDevPortIndexToVfIndex_vf]
    exact congrArg _ added.indices
  · rintro _ t ⟨-, same⟩
    rw [same]
    exact added

/-- Switchdev mode is enabled with a port for each VF, or there are no VF ports. -/
theorem wp_nsimEswSwitchdevEnable (ports : PortsRegistered w.dev) (none : w.dev.vfPorts = []) :
    wp nsimEswSwitchdevEnable
      (fun _ t => t.dev.bare = { w.dev.bare with eswMode := .SWITCHDEV } ∧ PortsRegistered t.dev ∧
        t.dev.vfIndices = vfRange w.dev.busDev.numVfs.toNat)
      (fun _ t => t.dev.bare = w.dev.bare ∧ PortsRegistered t.dev ∧ t.dev.vfPorts = []) w := by
  unfold nsimEswSwitchdevEnable
  rw [wp_bind, wp_getDev, wp_bind, wp_unwind]
  apply wp_mono (Q := fun _ t => VfPortsAdded w.dev w.dev.busDev.numVfs.toNat t.dev)
    (E := fun _ t => ∃ n, VfPortsAdded w.dev n t.dev)
  · apply wp_forM_range (I := fun n (t : NsimWorld) => VfPortsAdded w.dev n t.dev)
    · intro i _ t added
      exact wp_mono (wp_addVfPort added) (fun _ _ => id) fun _ _ back => ⟨i, back⟩
    · refine ⟨rfl, ports, ?_⟩
      rw [NsimDev.vfIndices, none]
      rfl
  · intro _ t added
    rw [wp_modifyDev]
    refine ⟨?_, added.ports.congr rfl rfl, added.indices⟩
    exact congrArg (fun dev : NsimDev => { dev with eswMode := .SWITCHDEV }) added.bare
  · rintro _ t ⟨n, added⟩
    apply wp_mono (wp_delVfPorts added.ports) _ fun _ _ => id
    intro _ u deleted
    rw [deleted]
    exact ⟨added.bare, added.ports.noVfPorts, vfPorts_noVfPorts⟩

/-- An operation had this effect on the VF ports of `dev`, and the list of ports is in order. -/
def VfDone (op : NsimOp) (dev : NsimDev) (t : NsimWorld) : Prop :=
  VfEffect op dev t.dev ∧ PortsRegistered t.dev

theorem VfPortsSound.unchanged (sound : VfPortsSound dev) {t : NsimWorld} (same : t.dev = dev) :
    VfDone op dev t := by
  rw [VfDone, same]
  exact ⟨.kept rfl rfl rfl, sound.ports⟩

theorem wp_eswitchMode {mode : EswitchMode} (sound : VfPortsSound w.dev) :
    wp (nsimDevlinkEswitchModeSet mode) (fun _ => VfDone op w.dev) (fun _ => VfDone op w.dev) w := by
  unfold nsimDevlinkEswitchModeSet
  rw [wp_bind, wp_getDev]
  split
  · exact sound.unchanged rfl
  · rename_i differ
    cases mode with
    | LEGACY =>
      apply wp_mono (wp_nsimEswLegacyEnable sound.ports) _ fun _ _ => id
      intro _ t done
      rw [VfDone, done]
      exact ⟨.cleared vfPorts_noVfPorts (.inl rfl), sound.ports.noVfPorts.congr rfl rfl⟩
    | SWITCHDEV =>
      have legacy : w.dev.eswMode = .LEGACY := by
        cases mode : w.dev.eswMode with
        | LEGACY => rfl
        | SWITCHDEV => exact absurd mode.symm differ
      apply wp_mono (wp_nsimEswSwitchdevEnable sound.ports (sound.legacy legacy))
      · rintro _ t ⟨bare, ports, indices⟩
        have vfs : t.dev.busDev.numVfs = w.dev.busDev.numVfs := (congrArg (·.busDev.numVfs) bare :)
        refine ⟨.built ?_ (congrArg NsimDev.eswMode bare :), ports⟩
        rw [indices, vfs]
      · rintro _ t ⟨bare, ports, none⟩
        have mode : t.dev.eswMode = w.dev.eswMode := (congrArg NsimDev.eswMode bare :)
        exact ⟨.cleared none (.inl (mode.trans legacy)), ports⟩

theorem wp_sriovNumvfs (sound : VfPortsSound w.dev) :
    wp (nsimDrvConfigureVfs numVfs) (fun _ => VfDone op w.dev) (fun _ => VfDone op w.dev) w := by
  unfold nsimDrvConfigureVfs
  rw [wp_bind, wp_getDev]
  split
  · exact sound.unchanged rfl
  rw [wp_bind, wp_failIf]
  refine ⟨fun _ => sound.unchanged rfl, fun idle => ?_⟩
  rw [wp_bind, wp_failIf]
  refine ⟨fun _ => sound.unchanged rfl, fun _ => ?_⟩
  rw [wp_bind, wp_nsimBusDevSetVfs]
  have ports : PortsRegistered (w.dev.withVfs numVfs) := sound.ports.congr rfl rfl
  split
  · rename_i switchdev
    split
    · rename_i some
      have zero : w.dev.busDev.numVfs = 0 := not_not.1 fun others => idle ⟨others, some⟩
      rw [wp_unwind]
      have none : (w.dev.withVfs numVfs).vfPorts = [] := sound.none_of_zero zero
      apply wp_mono (wp_nsimEswSwitchdevEnable (w := ⟨w.kernel, _⟩) ports none)
      · rintro _ t ⟨bare, ports, indices⟩
        have vfs : t.dev.busDev.numVfs = numVfs := (congrArg (·.busDev.numVfs) bare :)
        refine ⟨.built ?_ (congrArg NsimDev.eswMode bare :), ports⟩
        rw [indices, vfs]
      · rintro _ t ⟨bare, ports, none⟩
        exact ⟨.cleared none (.inr rfl), ports.congr rfl rfl⟩
    · apply wp_mono (wp_nsimEswLegacyEnable (w := ⟨w.kernel, _⟩) ports) _ fun _ _ => id
      intro _ t done
      rw [VfDone, done]
      exact ⟨.cleared vfPorts_noVfPorts (.inl rfl), ports.noVfPorts.congr rfl rfl⟩
  · rename_i other
    have legacy : w.dev.eswMode = .LEGACY := by
      cases mode : w.dev.eswMode with
      | LEGACY => rfl
      | SWITCHDEV => exact absurd mode other
    exact ⟨.cleared (sound.legacy legacy) (.inl legacy), ports⟩

theorem wp_maxVfs {val : UInt32} (sound : VfPortsSound w.dev) :
    wp (nsimBusDevMaxVfsWrite val) (fun _ => VfDone op w.dev) (fun _ => VfDone op w.dev) w := by
  unfold nsimBusDevMaxVfsWrite
  rw [wp_bind, wp_failIf]
  refine ⟨fun _ => sound.unchanged rfl, fun _ => ?_⟩
  rw [wp_bind, wp_inKernel]
  apply wp_mono wp_true _ fun _ _ _ => sound.unchanged rfl
  intro _ kernel _
  rw [wp_bind, wp_getDev, wp_bind, wp_failIf]
  refine ⟨fun _ => sound.unchanged rfl, fun _ => ?_⟩
  exact ⟨.kept rfl rfl rfl, sound.ports.congr rfl rfl⟩

theorem wp_newPort (sound : VfPortsSound w.dev) :
    wp (nsimDrvPortAdd .PF portIndex)
      (fun _ t => VfDone (.newPort portIndex) w.dev t ∧
        OnlyPfPorts (.newPort portIndex) w.dev t.dev)
      (fun _ t => VfDone (.newPort portIndex) w.dev t ∧
        OnlyPfPorts (.newPort portIndex) w.dev t.dev) w := by
  unfold nsimDrvPortAdd
  rw [wp_bind, wp_getDev, wp_bind, wp_failIf]
  refine ⟨fun _ => ⟨sound.unchanged rfl, .inl rfl⟩, fun _ => ?_⟩
  apply wp_mono wp_nsimDevPortAdd
  · rintro _ t ⟨ns, -, new, unregistered, -⟩
    rw [VfDone, new]
    refine ⟨⟨.kept (vfPorts_addPort_pf rfl) rfl rfl, sound.ports.addPort unregistered⟩, .inr ?_⟩
    exact ⟨⟨portIndex, .PF, ns⟩, rfl, rfl⟩
  · rintro _ t ⟨-, same⟩
    exact ⟨sound.unchanged same, .inl (congrArg NsimDev.portList same)⟩

theorem of_lookup {port : NsimDevPort} (found : _nsimDevPortLookup dev .PF portIndex = some port) :
    port ∈ dev.portList ∧ port.portIndex = portIndex := by
  unfold _nsimDevPortLookup at found
  have hit := List.find?_some found
  exact ⟨List.mem_of_find?_eq_some found, of_decide_eq_true hit⟩

theorem wp_delPort (sound : VfPortsSound w.dev) :
    wp (nsimDrvPortDel .PF portIndex)
      (fun _ t => VfDone (.delPort portIndex) w.dev t ∧ ((∀ port ∈ w.dev.vfPorts,
        port.portIndex ≠ portIndex) → OnlyPfPorts (.delPort portIndex) w.dev t.dev))
      (fun _ t => VfDone (.delPort portIndex) w.dev t ∧
        OnlyPfPorts (.delPort portIndex) w.dev t.dev) w := by
  apply wp_mono wp_nsimDrvPortDel
  · rintro _ t ⟨port, found, deleted⟩
    obtain ⟨listed, rfl⟩ := of_lookup found
    rw [VfDone, deleted]
    by_cases vf : nsimDevPortIsVf port
    · have mem : port ∈ w.dev.vfPorts := mem_vfPorts.2 ⟨listed, vf⟩
      refine ⟨⟨.deleted mem rfl vfPorts_delPort rfl rfl, sound.ports.delPort listed⟩, ?_⟩
      exact fun spared => absurd rfl (spared port mem)
    · have pf : nsimDevPortIsPf port := not_not.1 fun other => vf (nsimDevPortIsVf_iff.2 other)
      refine ⟨⟨.kept (vfPorts_delPort_pf pf) rfl rfl, sound.ports.delPort listed⟩, ?_⟩
      exact fun _ => .inr ⟨port, listed, pf, rfl⟩
  · rintro _ t same
    exact ⟨sound.unchanged same.2, .inl (congrArg NsimDev.portList same.2)⟩

end Operations

/-! ## Reloading -/

section Reload

variable {w : NsimWorld} {dev : NsimDev} {m : EswitchMode} {n : UInt32}
  {E : Errno → NsimWorld → Prop}

/-- No VF has a port, in the mode `m` with `n` VFs. -/
structure NoVfPorts (m : EswitchMode) (n : UInt32) (dev : NsimDev) : Prop where
  ports : PortsRegistered dev
  none : dev.vfPorts = []
  mode : dev.eswMode = m
  vfs : dev.busDev.numVfs = n

theorem NoVfPorts.withLive (no : NoVfPorts m n dev) (live : Finset Component) :
    NoVfPorts m n (dev.withLive live) :=
  ⟨no.ports.congr rfl rfl, no.none, no.mode, no.vfs⟩

/-- A program that changes the subsystems only. -/
theorem wp_initComponent_vfs (c : Component) (no : NoVfPorts m n w.dev) :
    wp (initComponent c) (fun _ t => NoVfPorts m n t.dev) (fun _ t => NoVfPorts m n t.dev) w := by
  unfold initComponent
  rw [wp_bind, wp_inKernel]
  exact wp_mono wp_true (fun _ _ _ => no.withLive _) fun _ _ _ => no

theorem keeps_component_vfs (c : Component) :
    Keeps (.inv fun t : NsimWorld => NoVfPorts m n t.dev) (initComponent c) ∧
      Keeps (.inv fun t : NsimWorld => NoVfPorts m n t.dev) (exitComponent c) :=
  ⟨keeps_inv fun _ no => wp_initComponent_vfs c no, keeps_inv fun _ no => no.withLive _⟩

theorem keeps_portDelAll_vfs :
    Keeps (.inv fun t : NsimWorld => NoVfPorts m n t.dev) nsimDevPortDelAll := by
  refine keeps_inv fun w no => ?_
  apply wp_mono wp_nsimDevPortDelAll _ fun _ _ => id
  rintro _ t ⟨-, deleted⟩
  rw [deleted]
  exact ⟨portsRegistered_nil rfl, rfl, no.mode, no.vfs⟩

theorem keeps_portAddAll_vfs (portCount : UInt32) :
    Keeps (.inv fun t : NsimWorld => NoVfPorts m n t.dev) (nsimDevPortAddAll portCount) := by
  apply keeps_portDelAll_vfs.unwind
  refine keeps_forM fun i _ => keeps_inv fun w no => ?_
  apply wp_mono wp_nsimDevPortAdd
  · rintro _ t ⟨ns, -, new, unregistered, -⟩
    rw [new]
    refine ⟨no.ports.addPort unregistered, ?_, no.mode, no.vfs⟩
    rw [vfPorts_addPort_pf rfl]
    exact no.none
  · rintro _ t ⟨-, same⟩
    rw [same]
    exact no

/-- The list is initialised first, and only PF ports are added. -/
theorem wp_nsimDevReloadCreate_vfs (mode : w.dev.eswMode = m) (vfs : w.dev.busDev.numVfs = n) :
    wp nsimDevReloadCreate (fun _ t => NoVfPorts m n t.dev) (fun _ t => NoVfPorts m n t.dev) w := by
  unfold nsimDevReloadCreate
  rw [wp_bind, wp_modifyDev]
  refine Keeps.inv (I := fun t : NsimWorld => NoVfPorts m n t.dev) ?_
    ⟨portsRegistered_nil rfl, rfl, mode, vfs⟩
  have init : ∀ c, Keeps _ (initComponent c) := fun c => (keeps_component_vfs (m := m) (n := n) c).1
  have exit : ∀ c, Keeps _ (exitComponent c) := fun c => (keeps_component_vfs (m := m) (n := n) c).2
  refine (init .dummyRegion).bind fun _ => (exit .dummyRegion).unwind ?_
  refine (init .traps).bind fun _ => (exit .traps).unwind ?_
  refine (init .fib).bind fun _ => (exit .fib).unwind ?_
  refine (init .health).bind fun _ => (exit .health).unwind ?_
  refine (init .psample).bind fun _ => (exit .psample).unwind ?_
  refine (init .hwstats).bind fun _ => (exit .hwstats).unwind ?_
  refine keeps_getDev.bind fun dev => (keeps_portAddAll_vfs _).bind fun _ => ?_
  exact keeps_inv fun _ no => no.withLive _

theorem wp_dropVfs_vfs (sound : VfPortsSound w.dev) :
    wp dropVfs (fun _ t => PortsRegistered t.dev ∧ t.dev.busDev.numVfs = 0) E w := by
  unfold dropVfs
  rw [wp_bind, wp_getDev]
  split
  · rw [wp_bind, wp_nsimBusDevSetVfs]
    have ports : PortsRegistered (w.dev.withVfs 0) := sound.ports.congr rfl rfl
    split
    · apply wp_mono (wp_nsimEswLegacyEnable (w := ⟨w.kernel, _⟩) ports) _ fun _ _ => id
      intro _ t done
      rw [done]
      exact ⟨ports.noVfPorts.congr rfl rfl, rfl⟩
    · exact ⟨ports, rfl⟩
  · rename_i zero
    exact ⟨sound.ports, not_not.1 zero⟩

/-- A device that was up has no VFs and no ports after `nsim_dev_reload_destroy`. -/
theorem wp_nsimDevReloadDestroy_vfs (sound : VfPortsSound w.dev) (up : w.dev.reloadFailed = false) :
    wp nsimDevReloadDestroy (fun _ t => t.dev.portList = [] ∧ t.dev.busDev.numVfs = 0) E w := by
  apply neverFails_nsimDevReloadDestroy.wp (E := fun _ _ => True)
  unfold nsimDevReloadDestroy
  rw [wp_bind, wp_getDev, up, if_neg (by decide), wp_bind]
  unfold removeTakeSnapshot exitComponent
  rw [wp_modifyDev, wp_bind]
  have sound' : VfPortsSound (w.dev.withLive (w.dev.live.erase .takeSnapshot)) :=
    ⟨sound.ports.congr rfl rfl, sound.legacy, sound.within⟩
  apply wp_mono (wp_dropVfs_vfs (w := ⟨w.kernel, _⟩) sound') _ fun _ _ => id
  rintro _ t ⟨-, vfs⟩
  rw [wp_bind]
  apply wp_mono (@wp_exitDpll (fun _ => True) t (fun _ _ => wp_true) fun _ => trivial) _
    fun _ _ => id
  rintro _ u ⟨-, gone⟩
  rw [wp_bind]
  apply wp_mono wp_nsimDevPortDelAll _ fun _ _ => id
  rintro _ v ⟨-, deleted⟩
  show v.dev.portList = [] ∧ v.dev.busDev.numVfs = 0
  rw [deleted, gone]
  exact ⟨rfl, vfs⟩

theorem VfDone.withFailed {op : NsimOp} {kernel : KernelState} {dev' : NsimDev}
    (done : VfDone op dev ⟨kernel, dev'⟩) (failed : Bool) :
    VfDone op dev ⟨kernel, { dev' with reloadFailed := failed }⟩ := by
  obtain ⟨effect, ports⟩ := done
  refine ⟨?_, ports.congr rfl rfl⟩
  cases effect with
  | kept ports mode vfs => exact .kept ports mode vfs
  | cleared ports off => exact .cleared ports off
  | built ports mode => exact .built ports mode
  | deleted mem asked ports mode vfs => exact .deleted mem asked ports mode vfs
  | forgotten failed ports mode vfs => exact .forgotten failed ports mode vfs

/-- The device between the two halves of a reload of `dev`, as far as the VFs go. -/
def VfDown (dev dev' : NsimDev) : Prop :=
  dev.reloadFailed = true ∧ dev' = dev ∨ dev'.portList = [] ∧ dev'.busDev.numVfs = 0

theorem wp_nsimDevReloadDown_vfs (sound : VfPortsSound w.dev) :
    wp nsimDevReloadDown (fun _ t => VfDown w.dev t.dev) (fun _ t => t = w) w := by
  refine wp_nsimDevReloadDown_of rfl (fun failed => .inl ⟨failed, rfl⟩) fun up => ?_
  exact wp_mono (wp_nsimDevReloadDestroy_vfs sound up) (fun _ _ => .inr) fun _ _ => id

theorem wp_nsimDevReloadUp_vfs {op : NsimOp} (sound : VfPortsSound dev) (down : VfDown dev w.dev) :
    wp nsimDevReloadUp (fun _ => VfDone op dev) (fun _ => VfDone op dev) w := by
  have rebuilt : ∀ t : NsimWorld, NoVfPorts w.dev.eswMode w.dev.busDev.numVfs t.dev →
      VfDone op dev t := by
    intro t no
    refine ⟨?_, no.ports⟩
    rcases down with ⟨failed, same⟩ | ⟨-, zero⟩
    · rw [same] at no
      exact .forgotten failed no.none no.mode no.vfs
    · exact .cleared no.none (.inr (no.vfs.trans zero))
  unfold nsimDevReloadUp
  rw [wp_bind, wp_getDev, wp_bind, wp_failIf]
  refine ⟨fun _ => ?_, fun _ => ?_⟩
  · rcases down with ⟨-, same⟩ | ⟨none, zero⟩
    · exact sound.unchanged same
    · refine ⟨.cleared ?_ (.inr zero), portsRegistered_nil none⟩
      rw [NsimDev.vfPorts, none]
      rfl
  · exact wp_mono (wp_nsimDevReloadCreate_vfs rfl rfl) (fun _ => rebuilt) fun _ => rebuilt

theorem wp_reload (sound : VfPortsSound w.dev) :
    wp devlinkReload (fun _ => VfDone .reload w.dev) (fun _ => VfDone .reload w.dev) w := by
  unfold devlinkReload
  rw [wp_bind]
  apply wp_mono (wp_nsimDevReloadDown_vfs sound)
  · intro _ t down
    rw [wp_bind, wp_unwind]
    apply wp_mono (wp_nsimDevReloadUp_vfs sound down)
    · exact fun _ _ done => done.withFailed false
    · exact fun _ _ done => done.withFailed true
  · rintro _ t rfl
    exact sound.unchanged rfl

end Reload

/-! ## Any operation -/

section Program

variable {w : NsimWorld} {dev : NsimDev} {op : NsimOp}

/-- What an operation between probing and removing does to the ports. -/
theorem wp_program_vfs (sound : VfPortsSound w.dev) (bound : ∀ now, op ≠ .probe now)
    (stays : op ≠ .remove) :
    wp op.program (fun _ => VfDone op w.dev) (fun _ => VfDone op w.dev) w := by
  cases op with
  | probe now => exact absurd rfl (bound now)
  | remove => exact absurd rfl stays
  | newPort portIndex =>
    exact wp_mono (wp_newPort sound) (fun _ _ => And.left) fun _ _ => And.left
  | delPort portIndex =>
    exact wp_mono (wp_delPort sound) (fun _ _ => And.left) fun _ _ => And.left
  | sriovNumvfs numVfs => exact wp_sriovNumvfs sound
  | maxVfs val => exact wp_maxVfs sound
  | eswitchMode mode => exact wp_eswitchMode sound
  | reload => exact wp_reload sound
  | dontAllowReload val => exact ⟨.kept rfl rfl rfl, sound.ports.congr rfl rfl⟩
  | failReload val => exact ⟨.kept rfl rfl rfl, sound.ports.congr rfl rfl⟩

theorem VfDone.sound (sound : VfPortsSound dev) {t : NsimWorld} (done : VfDone op dev t) :
    VfPortsSound t.dev := by
  obtain ⟨effect, ports⟩ := done
  have indices_nil : ∀ d : NsimDev, d.vfPorts = [] → ∀ i ∈ d.vfIndices, i < d.busDev.numVfs := by
    intro d none i mem
    rw [NsimDev.vfIndices, none] at mem
    exact absurd mem List.not_mem_nil
  cases effect with
  | kept same mode vfs =>
    refine ⟨ports, ?_, ?_⟩
    · rw [mode, same]
      exact sound.legacy
    · rw [NsimDev.vfIndices, same, vfs]
      exact sound.within
  | cleared none off => exact ⟨ports, fun _ => none, indices_nil _ none⟩
  | built indices mode =>
    refine ⟨ports, fun legacy => absurd (mode.symm.trans legacy) (by decide), ?_⟩
    rw [indices]
    exact fun i => mem_vfRange.1
  | deleted mem asked less mode vfs =>
    refine ⟨ports, ?_, ?_⟩
    · rw [mode, less]
      intro legacy
      rw [sound.legacy legacy] at mem
      exact absurd mem List.not_mem_nil
    · rw [NsimDev.vfIndices, less, vfs]
      intro i left
      obtain ⟨port, kept, rfl⟩ := List.mem_map.1 left
      exact sound.within _ (List.mem_map_of_mem (List.mem_of_mem_erase kept))
  | forgotten failed none mode vfs => exact ⟨ports, fun _ => none, indices_nil _ none⟩

end Program

end Netdevsim
