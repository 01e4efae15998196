import Netdevsim.Dev.Outlives
import Netdevsim.Dev.VfConfigs

/-!
# The VF configurations are accessed within bounds

The VFs are at most as many as the entries of `vfconfigs`, and a port is only added for a VF that
there is.  A VF port that was forgotten by a reload keeps its index, though, when the VFs are given
up later.
-/

namespace Netdevsim.Ports

open Program Lifetimes

/-- The devlink port of a VF. -/
def PortResource.IsVfPort (r : PortResource) : Prop := r.kind = .devlinkPort ∧ r.portType = .VF

instance (r : PortResource) : Decidable r.IsVfPort := inferInstanceAs (Decidable (_ ∧ _))

/-- The array has an entry for each VF there can be, each VF port belongs to a VF there is, and no
operation on a VF, whatever its number, or on the rates of a VF port leaves the array. -/
structure VfAccessesInBounds (w : PortWorld) : Prop where
  numVfs : w.dev.busDev.numVfs ≤ w.dev.busDev.maxVfs
  length : w.vfconfigs.length = w.dev.busDev.maxVfs.toNat
  ports : ∃ L, live w.log = some L ∧
    ∀ r ∈ L, r.IsVfPort → nsimDevPortIndexToVfIndex r.portIndex < w.dev.busDev.numVfs
  set : ∀ (call : NdoSetVf) vf, Completes (call.program vf) w
  get : ∀ vf, Completes (nsimGetVfConfig vf) w
  rates : ∀ L, live w.log = some L → ∀ r ∈ L, r.IsVfPort → ∀ rate,
    Completes (nsimLeafTxShareSet r.portIndex rate) w ∧
      Completes (nsimLeafTxMaxSet r.portIndex rate) w

/-- The operation gives up the VFs, if there are any. -/
def DropsVfs (dev : NsimDev) (op : PortOp) : Prop :=
  op = .sriovNumvfs 0 ∨ op = .reload ∧ dev.dontAllowReload = false ∧ dev.reloadFailed = false

instance (dev : NsimDev) (op : PortOp) : Decidable (DropsVfs dev op) :=
  inferInstanceAs (Decidable (_ ∨ _))

/-- The VFs are not given up while `devlink` has a VF port that is not on the list. -/
def SparesLostVfs (w : PortWorld) (op : PortOp) : Prop :=
  DropsVfs w.dev op → ∀ L ∈ live w.log, ∀ r ∈ L, r.IsVfPort →
    ∃ port ∈ w.dev.portList, port.portIndex = r.portIndex

instance (w : PortWorld) (op : PortOp) : Decidable (SparesLostVfs w op) :=
  inferInstanceAs (Decidable (_ → _))

/-! ## Numbers that are parsed -/

section Parsing

variable {base : ℕ} {s buf : Bytes} {value digits : ℕ}

theorem parseInteger_lt : (parseInteger base s value digits).1 < (value + 1) * base ^ s.length ∨
    base = 0 := by
  rcases base.eq_zero_or_pos with zero | positive
  · exact .inr zero
  left
  have stop : ∀ {n v : ℕ}, v < (v + 1) * base ^ n := fun {n v} =>
    (Nat.lt_succ_self v).trans_le (Nat.le_mul_of_pos_right _ (pow_pos positive n))
  induction s generalizing value digits with
  | nil => exact stop
  | cons c s ih =>
    unfold parseInteger
    split
    · rename_i d _
      split
      · rename_i small
        refine ih.trans_le ?_
        rw [List.length_cons, pow_succ', ← mul_assoc]
        apply Nat.mul_le_mul_right
        have room : value * base + d + 1 ≤ value * base + base := Nat.add_le_add_left small _
        rwa [← Nat.succ_mul] at room
      · exact stop
    · exact stop

/-- A number with `n` characters is below `10 ^ n`. -/
theorem kstrtoull_lt (ok : kstrtoull buf 10 = .ok value) : value < 10 ^ buf.length := by
  have bound : ∀ s : Bytes, s.length ≤ buf.length →
      (parseInteger 10 s 0 0).1 < 10 ^ buf.length := by
    intro s short
    refine (parseInteger_lt.resolve_right (by decide)).trans_le ?_
    rw [Nat.zero_add, Nat.one_mul]
    exact Nat.pow_le_pow_right (by decide) short
  have rest : ∀ s : Bytes, s.length ≤ buf.length →
      (if 2 ^ 64 ≤ (parseInteger 10 s 0 0).1 then Except.error Errno.ERANGE
        else if (parseInteger 10 s 0 0).2.1 = 0 then .error .EINVAL
        else if (parseInteger 10 s 0 0).2.2 = [] ∨ (parseInteger 10 s 0 0).2.2 = [10] then
          .ok (parseInteger 10 s 0 0).1
        else .error .EINVAL) = Except.ok value → value < 10 ^ buf.length := by
    intro s short ok
    split_ifs at ok
    · obtain rfl := Except.ok.inj ok
      exact bound s short
  have shorter : (cstr buf).length ≤ buf.length := (List.takeWhile_sublist _).length_le
  unfold kstrtoull at ok
  simp only [parseIntegerFixupRadix_ten] at ok
  split at ok
  · rename_i s sign
    rw [sign, List.length_cons] at shorter
    exact rest s ((Nat.le_succ _).trans shorter) ok
  · exact rest _ shorter ok

theorem kstrtouint_lt {val : UInt32} (ok : kstrtouint buf 10 = .ok val) :
    val.toNat < 10 ^ buf.length := by
  unfold kstrtouint at ok
  split at ok
  · cases ok
  rename_i value parsed
  split at ok
  · rename_i small
    obtain rfl := Except.ok.inj ok
    rw [UInt32.toNat_ofNat_of_lt' small]
    exact kstrtoull_lt parsed
  · cases ok

end Parsing

/-! ## Programs that leave the VFs alone -/

/-- The program changes neither the bus device nor the VF configurations. -/
abbrev SparesVfs {α : Type} (m : PortM α) : Prop :=
  Keeps (.of fun w : PortWorld => (w.dev.busDev, w.vfconfigs)) m

/-- The program does not change the bus device. -/
abbrev SparesBusDev {α : Type} (m : DevM α) : Prop :=
  Keeps (.of fun w : NsimWorld => w.dev.busDev) m

section Spares

variable {α : Type} {type : NsimDevPortType} {portIndex : UInt32} {lost : Finset PortResource}

theorem sparesVfs_onDevice {m : DevM α} (spares : SparesBusDev m) : SparesVfs (onDevice m) := by
  intro w
  rw [wp_onDevice]
  apply wp_mono (spares w.world)
  · exact fun _ t same => congrArg (·, w.vfconfigs) same
  · exact fun _ t same => congrArg (·, w.vfconfigs) same

theorem Spares.sparesBusDev {m : DevM α} (spares : Spares m) : SparesBusDev m :=
  Keeps.mono spares fun _ _ same => congrArg Prod.fst same

theorem sparesVfs_of_spares {m : DevM α} (spares : Spares m) : SparesVfs (onDevice m) :=
  sparesVfs_onDevice spares.sparesBusDev

theorem sparesBusDev_modifyDev {f : NsimDev → NsimDev} (same : ∀ dev, (f dev).busDev = dev.busDev) :
    SparesBusDev (Netdevsim.modifyDev f) := fun w => same w.dev

theorem sparesVfs_inKernel (m : KernelM α) : SparesVfs (onDevice (inKernel m)) :=
  sparesVfs_of_spares (spares_inKernel m)

theorem sparesVfs_modifyDev {f : NsimDev → NsimDev} (same : ∀ dev, (f dev).busDev = dev.busDev) :
    SparesVfs (modifyDev f) := sparesVfs_onDevice (sparesBusDev_modifyDev same)

theorem sparesVfs_getDev : SparesVfs getDev := fun _ => rfl

theorem sparesVfs_note (e : Lifetimes.Event PortResource) : SparesVfs (note e) := fun _ => rfl

theorem sparesVfs_mayFailIf (c : Bool) : SparesVfs (mayFailIf c) := by
  cases c with
  | true => exact sparesVfs_inKernel _
  | false => exact keeps_pure _

theorem sparesVfs_initNetdev : SparesVfs (initNetdev type portIndex) := by
  cases type with
  | PF =>
    refine Keeps.bind (m := nextNoPhc) (fun _ => rfl) fun noPhc => ?_
    refine (sparesVfs_mayFailIf _).bind fun _ => (sparesVfs_note _).bind fun _ => ?_
    refine ((sparesVfs_note _).unwind (sparesVfs_mayFailIf _)).bind fun _ => ?_
    exact sparesVfs_note _
  | VF => exact (sparesVfs_inKernel _).bind fun _ => sparesVfs_note _

theorem sparesVfs_nsimCreate : SparesVfs (nsimCreate type portIndex) := by
  apply sparesVfs_getDev.bind
  intro dev
  refine (keeps_failIf _).bind fun _ => (sparesVfs_inKernel _).bind fun ns => ?_
  refine sparesVfs_initNetdev.bind fun _ => Keeps.bind ?_ fun _ => keeps_pure ns
  exact sparesVfs_onDevice fun _ => rfl

theorem sparesVfs_nsimDestroy (port : NsimDevPort) : SparesVfs (nsimDestroy port) := by
  have gone : SparesBusDev (Netdevsim.nsimDestroy port.ns) := fun _ => rfl
  refine (sparesVfs_onDevice gone).bind fun _ => (sparesVfs_note _).bind fun _ => ?_
  split
  · exact sparesVfs_note _
  · exact keeps_pure _

theorem sparesVfs_devlPortUnregister : SparesVfs (devlPortUnregister type portIndex) := by
  have gone : SparesBusDev (Netdevsim.devlPortUnregister portIndex) := fun _ => rfl
  exact (sparesVfs_onDevice gone).bind fun _ => sparesVfs_note _

theorem sparesVfs_devlPortRegister : SparesVfs (devlPortRegister type portIndex) := by
  have registers : SparesBusDev (Netdevsim.devlPortRegister portIndex) := by
    apply keeps_getDev.bind
    intro dev
    refine (keeps_failIf _).bind fun _ => (spares_inKernel _).sparesBusDev.bind fun _ => ?_
    exact sparesBusDev_modifyDev fun _ => rfl
  exact (sparesVfs_onDevice registers).bind fun _ => sparesVfs_note _

theorem sparesVfs_nsimDevPortAdd : SparesVfs (_nsimDevPortAdd type portIndex) := by
  apply sparesVfs_getDev.bind
  intro dev
  refine (keeps_failIf _).bind fun _ => (sparesVfs_inKernel _).bind fun _ => ?_
  refine sparesVfs_devlPortRegister.bind fun _ => sparesVfs_devlPortUnregister.unwind ?_
  refine (sparesVfs_inKernel _).bind fun _ => sparesVfs_nsimCreate.bind fun ns => ?_
  refine Keeps.bind ((sparesVfs_nsimDestroy _).unwind ?_) fun _ => sparesVfs_modifyDev fun _ => rfl
  split
  · exact sparesVfs_inKernel _
  · exact keeps_pure _

theorem sparesVfs_nsimDevPortDel (port : NsimDevPort) : SparesVfs (_nsimDevPortDel port) := by
  refine Keeps.bind (sparesVfs_modifyDev fun _ => rfl) fun _ => ?_
  exact (sparesVfs_nsimDestroy port).bind fun _ => sparesVfs_devlPortUnregister

theorem sparesVfs_delVfPorts : SparesVfs delVfPorts :=
  sparesVfs_getDev.bind fun _ => keeps_forM fun port _ => sparesVfs_nsimDevPortDel port

theorem sparesVfs_nsimDevPortDelAll : SparesVfs nsimDevPortDelAll :=
  sparesVfs_getDev.bind fun _ => keeps_forM fun port _ => sparesVfs_nsimDevPortDel port

theorem sparesVfs_nsimDevPortAddAll (portCount : UInt32) : SparesVfs (nsimDevPortAddAll portCount) :=
  sparesVfs_nsimDevPortDelAll.unwind (keeps_forM fun _ _ => sparesVfs_nsimDevPortAdd)

theorem sparesVfs_nsimDrvPortAdd : SparesVfs (nsimDrvPortAdd type portIndex) := by
  apply sparesVfs_getDev.bind
  intro dev
  exact (keeps_failIf _).bind fun _ => sparesVfs_nsimDevPortAdd

theorem sparesVfs_nsimDrvPortDel : SparesVfs (nsimDrvPortDel type portIndex) := by
  apply sparesVfs_getDev.bind
  intro dev
  cases _nsimDevPortLookup dev type portIndex with
  | none => exact keeps_throw _
  | some port => exact sparesVfs_nsimDevPortDel port

theorem sparesVfs_nsimEswLegacyEnable : SparesVfs nsimEswLegacyEnable :=
  sparesVfs_delVfPorts.bind fun _ => sparesVfs_modifyDev fun _ => rfl

theorem sparesVfs_nsimEswSwitchdevEnable : SparesVfs nsimEswSwitchdevEnable := by
  apply sparesVfs_getDev.bind
  intro dev
  apply (sparesVfs_delVfPorts.unwind (keeps_forM fun _ _ => sparesVfs_nsimDevPortAdd)).bind
  exact fun _ => sparesVfs_modifyDev fun _ => rfl

theorem sparesVfs_nsimDevlinkEswitchModeSet (mode : EswitchMode) :
    SparesVfs (nsimDevlinkEswitchModeSet mode) := by
  apply sparesVfs_getDev.bind
  intro dev
  split
  · exact keeps_pure _
  · cases mode with
    | LEGACY => exact sparesVfs_nsimEswLegacyEnable
    | SWITCHDEV => exact sparesVfs_nsimEswSwitchdevEnable

theorem keepsParts_vfs :
    KeepsParts (.of fun w : PortWorld => (w.dev.busDev, w.vfconfigs)) where
  device := sparesVfs_of_spares
  addAll := sparesVfs_nsimDevPortAddAll
  delAll := sparesVfs_nsimDevPortDelAll

theorem sparesVfs_nsimDevReloadCreate : SparesVfs nsimDevReloadCreate :=
  fun _ => keepsParts_vfs.wp_nsimDevReloadCreate

theorem sparesVfs_nsimDevReloadUp : SparesVfs nsimDevReloadUp := by
  apply sparesVfs_getDev.bind
  intro dev
  exact (keeps_failIf _).bind fun _ => sparesVfs_nsimDevReloadCreate

end Spares

/-! ## What each operation does to the VFs -/

/-- There are `n` VFs now, and nothing else of the bus device and the array is different. -/
structure VfsSet (w : PortWorld) (n : UInt32) (t : PortWorld) : Prop where
  busDev : t.dev.busDev = { w.dev.busDev with numVfs := n }
  array : t.vfconfigs = w.vfconfigs

/-- What an operation does to the number of VFs and the array. -/
inductive ArrayEffect (op : PortOp) (w t : PortWorld) : Prop where
  | set {n : UInt32} (set : VfsSet w n t) (most : n ≤ w.dev.busDev.maxVfs)
      (dropped : DropsVfs w.dev op → n = 0) (kept : ¬DropsVfs w.dev op → w.dev.busDev.numVfs ≤ n)
  | resized {val : UInt32} (small : val.toNat < 10 ^ 9) (spares : ¬DropsVfs w.dev op)
      (none : w.dev.busDev.numVfs = 0) (busDev : t.dev.busDev = { w.dev.busDev with maxVfs := val })
      (array : t.vfconfigs = List.replicate val.toNat .zero)

section Effects

variable {α β : Type} {w t u : PortWorld} {n numVfs : UInt32} {op : PortOp}

theorem vfsSet_of_same (same : (t.dev.busDev, t.vfconfigs) = (w.dev.busDev, w.vfconfigs)) :
    VfsSet w w.dev.busDev.numVfs t := by
  obtain ⟨busDev, array⟩ := Prod.mk.inj same
  exact ⟨busDev, array⟩

theorem VfsSet.after (first : VfsSet w n t)
    (same : (u.dev.busDev, u.vfconfigs) = (t.dev.busDev, t.vfconfigs)) : VfsSet w n u := by
  obtain ⟨busDev, array⟩ := Prod.mk.inj same
  exact ⟨busDev.trans first.busDev, array.trans first.array⟩

theorem VfsSet.before (same : (t.dev.busDev, t.vfconfigs) = (w.dev.busDev, w.vfconfigs))
    (rest : VfsSet t n u) : VfsSet w n u := by
  obtain ⟨busDev, array⟩ := Prod.mk.inj same
  refine ⟨?_, rest.array.trans array⟩
  rw [rest.busDev, busDev]

theorem SparesVfs.wp_set {m : PortM α} (spares : SparesVfs m) (set : VfsSet w n t) :
    wp m (fun _ => VfsSet w n) (fun _ => VfsSet w n) t :=
  wp_mono (spares t) (fun _ _ => set.after) fun _ _ => set.after

/-- A program that leaves the VFs alone may follow. -/
theorem wp_set_bind {m : PortM α} {k : α → PortM β}
    (first : wp m (fun _ => VfsSet w n) (fun _ => VfsSet w n) t) (rest : ∀ a, SparesVfs (k a)) :
    wp (m >>= k) (fun _ => VfsSet w n) (fun _ => VfsSet w n) t := by
  rw [wp_bind]
  exact wp_mono first (fun a _ set => SparesVfs.wp_set (rest a) set) fun _ _ => id

theorem wp_setVfs {Q : Unit → PortWorld → Prop} {E : Errno → PortWorld → Prop} :
    wp (nsimBusDevSetVfs n) Q E w ↔
      Q () { w with world := ⟨w.world.kernel, w.dev.withVfs n⟩ } := Iff.rfl

theorem wp_dropVfs : wp dropVfs (fun _ => VfsSet w 0) (fun _ => VfsSet w 0) w := by
  unfold dropVfs
  rw [wp_bind, wp_getDev]
  split
  · rw [wp_bind, wp_setVfs]
    have zero : VfsSet w 0 { w with world := ⟨w.world.kernel, w.dev.withVfs 0⟩ } := ⟨rfl, rfl⟩
    split
    · exact SparesVfs.wp_set sparesVfs_nsimEswLegacyEnable zero
    · exact zero
  · rename_i none
    have same : w.dev.busDev.numVfs = 0 := not_not.1 none
    have kept : VfsSet w w.dev.busDev.numVfs w := vfsSet_of_same rfl
    rwa [same] at kept

/-- A device that is up has no VFs after `nsim_dev_reload_destroy`. -/
theorem wp_nsimDevReloadDestroy (set : (if w.dev.reloadFailed then w.dev.busDev.numVfs else 0) = n) :
    wp nsimDevReloadDestroy (fun _ => VfsSet w n) (fun _ => VfsSet w n) w := by
  unfold nsimDevReloadDestroy
  rw [wp_bind, wp_getDev]
  split
  · rename_i failed
    rw [if_pos failed] at set
    rw [← set]
    exact vfsSet_of_same rfl
  · rename_i up
    rw [if_neg up] at set
    rw [← set]
    rw [wp_bind]
    refine wp_set_bind (t := { w with world := ⟨w.world.kernel, _⟩ }) (wp_mono wp_dropVfs ?_ ?_)
      fun _ => keepsParts_vfs.afterVfs
    · exact fun _ _ => VfsSet.before rfl
    · exact fun _ _ => VfsSet.before rfl

theorem wp_reload_vfs (most : w.dev.busDev.numVfs ≤ w.dev.busDev.maxVfs) :
    wp devlinkReload (fun _ => ArrayEffect .reload w) (fun _ => ArrayEffect .reload w) w := by
  have zero : (0 : UInt32) ≤ w.dev.busDev.maxVfs := UInt32.zero_le
  unfold devlinkReload nsimDevReloadDown
  rw [wp_bind, wp_bind, wp_getDev, wp_bind, wp_failIf]
  refine ⟨fun refused => ?_, fun allowed => ?_⟩
  · refine .set (vfsSet_of_same rfl) most (fun drops => ?_) fun _ => UInt32.le_refl _
    rcases drops with other | ⟨-, allowed, -⟩
    · cases other
    · exact absurd (refused.symm.trans allowed) (by decide)
  have effect : ∀ t : PortWorld,
      VfsSet w (if w.dev.reloadFailed then w.dev.busDev.numVfs else 0) t →
      ArrayEffect .reload w t := by
    intro t set
    cases failed : w.dev.reloadFailed with
    | true =>
      rw [failed] at set
      refine .set set most (fun drops => ?_) fun _ => UInt32.le_refl _
      rcases drops with other | ⟨-, -, up⟩
      · cases other
      · exact absurd (failed.symm.trans up) (by decide)
    | false =>
      rw [failed] at set
      refine .set set zero (fun _ => rfl) fun spares => absurd ?_ spares
      exact .inr ⟨rfl, by simpa using allowed, failed⟩
  have rest : SparesVfs (do
      unwind (modifyDev fun dev => { dev with reloadFailed := true }) nsimDevReloadUp
      modifyDev fun dev => { dev with reloadFailed := false }) := by
    refine Keeps.bind (Keeps.unwind (sparesVfs_modifyDev fun _ => rfl) sparesVfs_nsimDevReloadUp) ?_
    exact fun _ => sparesVfs_modifyDev fun _ => rfl
  apply wp_mono (wp_nsimDevReloadDestroy rfl) _ fun _ => effect
  intro _ t set
  exact wp_mono (SparesVfs.wp_set rest set) (fun _ => effect) fun _ => effect

theorem dropsVfs_sriovNumvfs {dev : NsimDev} : DropsVfs dev (.sriovNumvfs numVfs) ↔ numVfs = 0 := by
  simp [DropsVfs]

theorem wp_sriovNumvfs_vfs (most : w.dev.busDev.numVfs ≤ w.dev.busDev.maxVfs) :
    wp (nsimDrvConfigureVfs numVfs) (fun _ => ArrayEffect (.sriovNumvfs numVfs) w)
      (fun _ => ArrayEffect (.sriovNumvfs numVfs) w) w := by
  have kept : numVfs ≠ 0 → ArrayEffect (.sriovNumvfs numVfs) w w := fun some =>
    .set (vfsSet_of_same rfl) most (fun drops => absurd (dropsVfs_sriovNumvfs.1 drops) some)
      fun _ => UInt32.le_refl _
  unfold nsimDrvConfigureVfs
  rw [wp_bind, wp_getDev]
  split
  · rename_i same
    refine .set (vfsSet_of_same rfl) most (fun drops => ?_) fun _ => UInt32.le_refl _
    rw [same]
    exact dropsVfs_sriovNumvfs.1 drops
  rw [wp_bind, wp_failIf]
  refine ⟨fun busy => kept busy.2, fun idle => ?_⟩
  rw [wp_bind, wp_failIf]
  refine ⟨fun tooMany => kept fun zero => ?_, fun within => ?_⟩
  · rw [zero] at tooMany
    exact UInt32.not_lt_zero tooMany
  have within : numVfs ≤ w.dev.busDev.maxVfs := UInt32.not_lt.1 within
  rw [wp_bind, wp_setVfs]
  have given : VfsSet w numVfs { w with world := ⟨w.world.kernel, w.dev.withVfs numVfs⟩ } :=
    ⟨rfl, rfl⟩
  have none : numVfs ≠ 0 → w.dev.busDev.numVfs = 0 := fun some =>
    not_not.1 fun others => idle ⟨others, some⟩
  have effect : ∀ t, VfsSet w numVfs t → ArrayEffect (.sriovNumvfs numVfs) w t := fun t set =>
    .set set within dropsVfs_sriovNumvfs.1 fun spares => by
      rw [none fun zero => spares (dropsVfs_sriovNumvfs.2 zero)]
      exact UInt32.zero_le
  split
  · split
    · rename_i some
      rw [wp_unwind]
      apply wp_mono (SparesVfs.wp_set sparesVfs_nsimEswSwitchdevEnable given) (fun _ => effect)
      intro _ t set
      rw [wp_setVfs]
      have back : VfsSet w 0 { t with world := ⟨t.world.kernel, t.dev.withVfs 0⟩ } := by
        refine ⟨?_, set.array⟩
        show { t.dev.busDev with numVfs := 0 } = _
        rw [set.busDev]
      refine .set back UInt32.zero_le (fun _ => rfl) fun _ => ?_
      rw [none some]
      exact UInt32.le_refl _
    · have set := SparesVfs.wp_set sparesVfs_nsimEswLegacyEnable given
      exact wp_mono set (fun _ => effect) fun _ => effect
  · exact effect _ given

theorem wp_maxVfs_vfs {ppos : ℕ} {buf : Bytes}
    (most : w.dev.busDev.numVfs ≤ w.dev.busDev.maxVfs) :
    wp (nsimBusDevMaxVfsWrite ppos buf) (fun _ => ArrayEffect (.maxVfs ppos buf) w)
      (fun _ => ArrayEffect (.maxVfs ppos buf) w) w := by
  have spares : ¬DropsVfs w.dev (.maxVfs ppos buf) := by simp [DropsVfs]
  have kept : ∀ t : PortWorld, (t.dev.busDev, t.vfconfigs) = (w.dev.busDev, w.vfconfigs) →
      ArrayEffect (.maxVfs ppos buf) w t := fun t same =>
    .set (vfsSet_of_same same) most (fun drops => absurd drops spares) fun _ => UInt32.le_refl _
  unfold nsimBusDevMaxVfsWrite parseMaxVfs
  split
  · exact kept w rfl
  rw [wp_bind, wp_failIf]
  refine ⟨fun _ => kept w rfl, fun short => ?_⟩
  rw [wp_bind]
  apply wp_mono (sparesVfs_inKernel mayFail w) _ fun _ => kept
  intro _ t same
  cases parsed : kstrtouint buf 10 with
  | error e => exact kept t same
  | ok val =>
    have small : val.toNat < 10 ^ 9 := (kstrtouint_lt parsed).trans_le
      (Nat.pow_le_pow_right (by decide) (Nat.le_of_lt_succ (Nat.lt_of_not_le short)))
    obtain ⟨busDev, array⟩ := Prod.mk.inj same
    show wp (nsimBusDevMaxVfsSet val) _ _ t
    unfold nsimBusDevMaxVfsSet Netdevsim.nsimBusDevMaxVfsWrite
    rw [wp_bind, wp_onDevice, wp_bind, wp_failIf]
    refine ⟨fun _ => kept _ same, fun _ => ?_⟩
    rw [wp_bind, wp_inKernel]
    refine wp_mono wp_true ?_ fun _ kernel _ => kept { t with world := ⟨kernel, t.dev⟩ } same
    intro _ kernel _
    rw [wp_bind, Netdevsim.wp_getDev, wp_bind, wp_failIf]
    refine ⟨fun _ => kept _ same, fun idle => ?_⟩
    have none : t.dev.busDev.numVfs = 0 := not_not.1 idle
    rw [busDev] at none
    refine .resized small spares none ?_ rfl
    show { t.dev.busDev with maxVfs := val } = _
    rw [busDev]

theorem effect_of_spares {m : PortM α} (spares : SparesVfs m)
    (most : w.dev.busDev.numVfs ≤ w.dev.busDev.maxVfs) (keeps : ¬DropsVfs w.dev op) :
    wp m (fun _ => ArrayEffect op w) (fun _ => ArrayEffect op w) w := by
  have effect : ∀ t, VfsSet w w.dev.busDev.numVfs t → ArrayEffect op w t := fun t set =>
    .set set most (fun drops => absurd drops keeps) fun _ => UInt32.le_refl _
  exact wp_mono (spares w) (fun _ _ same => effect _ (vfsSet_of_same same))
    fun _ _ same => effect _ (vfsSet_of_same same)

/-- What an operation between probing and removing does to the VFs and their configurations. -/
theorem wp_program_effect (most : w.dev.busDev.numVfs ≤ w.dev.busDev.maxVfs)
    (bound : ∀ now, op ≠ .probe now) (stays : op ≠ .remove) :
    wp op.program (fun _ => ArrayEffect op w) (fun _ => ArrayEffect op w) w := by
  cases op with
  | probe now => exact absurd rfl (bound now)
  | remove => exact absurd rfl stays
  | newPort portIndex => exact effect_of_spares sparesVfs_nsimDrvPortAdd most (by simp [DropsVfs])
  | delPort portIndex => exact effect_of_spares sparesVfs_nsimDrvPortDel most (by simp [DropsVfs])
  | sriovNumvfs numVfs => exact wp_sriovNumvfs_vfs most
  | maxVfs ppos buf => exact wp_maxVfs_vfs most
  | eswitchMode mode =>
    exact effect_of_spares (sparesVfs_nsimDevlinkEswitchModeSet mode) most (by simp [DropsVfs])
  | reload => exact wp_reload_vfs most
  | dontAllowReload val =>
    exact effect_of_spares (sparesVfs_modifyDev fun _ => rfl) most (by simp [DropsVfs])
  | failReload val =>
    exact effect_of_spares (sparesVfs_modifyDev fun _ => rfl) most (by simp [DropsVfs])

/-- A probed device has an entry for each VF there can be. -/
theorem wp_probe_vfs (now : ℕ) :
    wp (nsimDrvProbe now)
      (fun _ t => t.dev.busDev = w.dev.busDev ∧
        t.vfconfigs = List.replicate w.dev.busDev.maxVfs.toNat .zero)
      (fun _ t => t.dev.busDev = w.dev.busDev) w := by
  refine wp_mono (keepsParts_vfs.wp_nsimDrvProbe now) ?_ ?_
  · rintro _ t ⟨kernel, same⟩
    exact Prod.mk.inj same
  · rintro _ t (⟨kernel, rfl⟩ | ⟨kernel, u, same, rfl⟩)
    · rfl
    · exact congrArg Prod.fst same

/-- The removal of a device at most gives up its VFs. -/
theorem wp_remove_vfs :
    wp nsimDrvRemove
      (fun _ t => ∃ n, (n = w.dev.busDev.numVfs ∨ n = 0) ∧
        t.dev.busDev = { w.dev.busDev with numVfs := n })
      (fun _ t => ∃ n, (n = w.dev.busDev.numVfs ∨ n = 0) ∧
        t.dev.busDev = { w.dev.busDev with numVfs := n }) w := by
  have done : ∀ t : PortWorld,
      VfsSet w (if w.dev.reloadFailed then w.dev.busDev.numVfs else 0) t →
      ∃ n, (n = w.dev.busDev.numVfs ∨ n = 0) ∧
        t.dev.busDev = { w.dev.busDev with numVfs := n } := by
    intro t set
    refine ⟨_, ?_, set.busDev⟩
    split
    · exact .inl rfl
    · exact .inr rfl
  unfold nsimDrvRemove
  rw [wp_bind]
  apply wp_mono (wp_nsimDevReloadDestroy rfl) _ fun _ => done
  exact fun _ t set => done t set

end Effects

/-! ## Every run -/

/-- What is known of the numbers of VFs, with and without a driver. -/
structure VfNumbers (busDev : NsimBusDev) : Prop where
  most : busDev.numVfs ≤ busDev.maxVfs
  small : busDev.maxVfs.toNat < 2 ^ 31

/-- What is known of a device with a driver.  VF ports may have been forgotten, but their VFs are
there. -/
structure ArrayInvariant (w : PortWorld) : Prop where
  numbers : VfNumbers w.dev.busDev
  length : w.vfconfigs.length = w.dev.busDev.maxVfs.toNat
  sound : VfPortsSound w.dev
  books : ∃ lost, OnBooks (Books lost) w ∧ ∀ r ∈ lost, r.IsVfPort →
    nsimDevPortIndexToVfIndex r.portIndex < w.dev.busDev.numVfs

section Runs

variable {w u : PortWorld} {op : PortOp} {s t : PortSystem} {a : Surroundings × PortOp}
  {lost : Finset PortResource} {r : PortResource}

/-- A VF port on the list belongs to a VF. -/
theorem VfPortsSound.of_held (sound : VfPortsSound w.dev) (mem : r ∈ held w.dev.portList)
    (vf : r.IsVfPort) : nsimDevPortIndexToVfIndex r.portIndex < w.dev.busDev.numVfs := by
  obtain ⟨port, listed, mine⟩ := mem_held.1 mem
  obtain ⟨-, index, type⟩ := mem_heldBy.1 mine
  have isVf : nsimDevPortIsVf port := nsimDevPortIsVf_iff.2 fun pf => by
    have same : port.portType = .PF := of_decide_eq_true pf
    rw [vf.2, same] at type
    cases type
  rw [index]
  exact sound.within _ (List.mem_map_of_mem (mem_vfPorts.2 ⟨listed, isVf⟩))

theorem ArrayInvariant.inBounds (inv : ArrayInvariant w) : VfAccessesInBounds w := by
  obtain ⟨lost, books, gone⟩ := inv.books
  have entries : EntriesForVfs w := by
    have most := UInt32.le_iff_toNat_le.1 inv.numbers.most
    refine ⟨most.trans_lt inv.numbers.small, ?_⟩
    rw [inv.length]
    exact most
  have ports : ∀ r ∈ held w.dev.portList ∪ lost, r.IsVfPort →
      nsimDevPortIndexToVfIndex r.portIndex < w.dev.busDev.numVfs := by
    intro r mem vf
    rcases Finset.mem_union.1 mem with mine | mine
    · exact VfPortsSound.of_held inv.sound mine vf
    · exact gone r mine vf
  refine ⟨inv.numbers.most, inv.length, ⟨_, books.live, ports⟩, entries.set, entries.get, ?_⟩
  intro L live r mem vf rate
  rw [books.live] at live
  obtain rfl := Option.some.inj live
  exact entries.rates (ports r mem vf) rate

/-- The numbers of VFs after an operation. -/
theorem ArrayEffect.numbers (effect : ArrayEffect op w u) (numbers : VfNumbers w.dev.busDev) :
    VfNumbers u.dev.busDev := by
  cases effect with
  | set set most dropped kept =>
    rw [set.busDev]
    exact ⟨most, numbers.small⟩
  | resized small spares none busDev array =>
    rw [busDev]
    refine ⟨?_, small.trans (by decide)⟩
    show w.dev.busDev.numVfs ≤ _
    rw [none]
    exact UInt32.zero_le

theorem ArrayEffect.length (effect : ArrayEffect op w u)
    (length : w.vfconfigs.length = w.dev.busDev.maxVfs.toNat) :
    u.vfconfigs.length = u.dev.busDev.maxVfs.toNat := by
  cases effect with
  | set set most dropped kept =>
    rw [set.busDev, set.array]
    exact length
  | resized small spares none busDev array => rw [busDev, array, List.length_replicate]

/-- VFs only go when they are given up. -/
theorem ArrayEffect.kept (effect : ArrayEffect op w u) (spares : ¬DropsVfs w.dev op) :
    w.dev.busDev.numVfs ≤ u.dev.busDev.numVfs := by
  cases effect with
  | set set most dropped kept =>
    rw [set.busDev]
    exact kept spares
  | resized small _ none busDev array =>
    rw [busDev]
    exact UInt32.le_refl _

theorem ArrayEffect.dropped (effect : ArrayEffect op w u) (drops : DropsVfs w.dev op) :
    u.dev.busDev.numVfs = 0 := by
  cases effect with
  | set set most dropped kept =>
    rw [set.busDev]
    exact dropped drops
  | resized small spares none busDev array => exact absurd drops spares

/-- A forgotten VF port is still there after an operation. -/
theorem mem_lostBy (mem : r ∈ lost) : r ∈ lostBy op w.dev lost := by
  unfold lostBy
  split
  · exact Finset.mem_union_right _ mem
  · exact mem

/-- What is lost by an operation belongs to VFs, if the VFs are not given up or no VF port was
forgotten. -/
theorem lostBy_within (sound : VfPortsSound w.dev) (effect : ArrayEffect op w u)
    (gone : ∀ r ∈ lost, r.IsVfPort →
      nsimDevPortIndexToVfIndex r.portIndex < w.dev.busDev.numVfs)
    (spared : DropsVfs w.dev op → ∀ r ∈ lost, ¬r.IsVfPort) :
    ∀ r ∈ lostBy op w.dev lost, r.IsVfPort →
      nsimDevPortIndexToVfIndex r.portIndex < u.dev.busDev.numVfs := by
  intro r mem vf
  by_cases drops : DropsVfs w.dev op
  · have keeps : lostBy op w.dev lost = lost := by
      refine if_neg fun forgets => ?_
      rcases drops with other | ⟨-, -, up⟩
      · exact absurd (forgets.1.symm.trans other) (by decide)
      · exact absurd (up.symm.trans forgets.2.1) (by decide)
    rw [keeps] at mem
    exact absurd vf (spared drops r mem)
  · have old : nsimDevPortIndexToVfIndex r.portIndex < w.dev.busDev.numVfs := by
      unfold lostBy at mem
      split at mem
      · rcases Finset.mem_union.1 mem with mine | mine
        · exact VfPortsSound.of_held sound mine vf
        · exact gone r mine vf
      · exact gone r mem vf
    exact UInt32.lt_of_lt_of_le old (effect.kept drops)

/-- With the books in order, the condition speaks of what was lost. -/
theorem sparesLostVfs_iff (books : OnBooks (Books lost) w) :
    SparesLostVfs w op ↔ (DropsVfs w.dev op → ∀ r ∈ lost, ¬r.IsVfPort) := by
  refine imp_congr_right fun drops => ?_
  rw [books.live]
  constructor
  · intro listed r mem vf
    obtain ⟨port, onList, same⟩ := listed _ rfl r (Finset.mem_union_right _ mem) vf
    exact (books.apart r mem).2 port onList same
  · intro none L live r mem vf
    obtain rfl := Option.some.inj live
    rcases Finset.mem_union.1 mem with mine | mine
    · obtain ⟨port, onList, mine⟩ := mem_held.1 mine
      exact ⟨port, onList, (index_of_mem_resources mine).symm⟩
    · exact absurd vf (none r mine)

/-- A step of a device without a driver. -/
theorem arrayInvariant_probe (numbers : VfNumbers s.world.dev.busDev) (unbound : s.bound = false)
    (step : portSystem.step s a t) :
    VfNumbers t.world.dev.busDev ∧ (t.bound = true → ArrayInvariant t.world) := by
  have known := (accountedFor_probe unbound step).1
  obtain ⟨-, driver, result, run, after⟩ := step
  obtain ⟨now, probe⟩ := exists_probe_of_unbound driver unbound
  rw [probe] at run after
  have outcome := wp_probe_vfs (w := (PortOp.probe now).start (s.world.within a.1)) now
  cases result with
  | ok _ =>
    obtain ⟨busDev, array⟩ := exec_ok_of_wp outcome run
    have same : t.world.dev.busDev = s.world.dev.busDev := busDev
    have numbers' : VfNumbers t.world.dev.busDev := by rwa [same]
    refine ⟨numbers', fun bound => ?_⟩
    obtain ⟨sound, books⟩ := known bound
    refine ⟨numbers', ?_, sound, ∅, books, by simp⟩
    rw [array, List.length_replicate, same]
    rfl
  | error e =>
    have same : t.world.dev.busDev = s.world.dev.busDev := exec_error_of_wp
      (E := fun _ (t : PortWorld) => t.dev.busDev = s.world.dev.busDev) outcome run
    refine ⟨same ▸ numbers, fun bound => ?_⟩
    have unbound' : t.bound = false := after
    exact absurd (unbound'.symm.trans bound) (by decide)

/-- A step of a device with a driver. -/
theorem arrayInvariant_step (inv : ArrayInvariant s.world) (bound : s.bound = true)
    (step : portSystem.step s a t) :
    VfNumbers t.world.dev.busDev ∧ (t.bound = true →
      (SparesLostVfs s.world a.2 → ArrayInvariant t.world) ∧
        (VfAccessesInBounds t.world ↔ SparesLostVfs s.world a.2)) := by
  obtain ⟨-, driver, result, run, after⟩ := step
  have other := driver.1 bound
  rw [PortOp.start_of_ne_probe other] at run
  by_cases remove : a.2 = .remove
  · rw [remove] at run after
    obtain ⟨n, least, busDev⟩ := holds_of_wp (I := fun t : PortWorld =>
      ∃ n, (n = s.world.dev.busDev.numVfs ∨ n = 0) ∧
        t.dev.busDev = { s.world.dev.busDev with numVfs := n })
      (wp_remove_vfs (w := s.world.within a.1)) run
    refine ⟨?_, fun stays => absurd (after.symm.trans stays) Bool.false_ne_true⟩
    rw [busDev]
    refine ⟨?_, inv.numbers.small⟩
    rcases least with rfl | rfl
    · exact inv.numbers.most
    · exact UInt32.zero_le
  have effect : ArrayEffect a.2 s.world t.world := by
    have effect := holds_of_wp (wp_program_effect (w := s.world.within a.1) inv.numbers.most
      other remove) run
    cases effect with
    | set set most dropped kept => exact .set ⟨set.busDev, set.array⟩ most dropped kept
    | resized small spares none busDev array => exact .resized small spares none busDev array
  obtain ⟨lost, books, gone⟩ := inv.books
  have sound : VfPortsSound (s.world.within a.1).dev := inv.sound
  have kept : OnBooks (Books (lostBy a.2 s.world.dev lost)) t.world :=
    holds_of_wp (wp_program_books (w := s.world.within a.1) sound books other) run
  have sound' : VfPortsSound t.world.dev :=
    holds_of_wp (I := fun t : NsimWorld => VfPortsSound t.dev)
      (wp_erased_sound sound other remove) ((erases_program a.2).exec run)
  have numbers := effect.numbers inv.numbers
  refine ⟨numbers, fun _ => ?_⟩
  have next : SparesLostVfs s.world a.2 → ArrayInvariant t.world := fun spared =>
    ⟨numbers, effect.length inv.length, sound', _, kept,
      lostBy_within inv.sound effect gone ((sparesLostVfs_iff books).1 spared)⟩
  refine ⟨next, fun inBounds => ?_, fun spared => (next spared).inBounds⟩
  rw [sparesLostVfs_iff books]
  intro drops r mem vf
  obtain ⟨L, live, within⟩ := inBounds.ports
  rw [kept.live] at live
  obtain rfl := Option.some.inj live
  have lt := within r (Finset.mem_union_right _ (mem_lostBy mem)) vf
  rw [effect.dropped drops] at lt
  exact UInt32.not_lt_zero lt

/-- A step of a device with a driver gives no VFs up that have forgotten ports. -/
def VfArrayCondition (s : PortSystem) (a : Surroundings × PortOp) : Prop :=
  s.bound = true → SparesLostVfs s.world a.2

instance (s : PortSystem) (a : Surroundings × PortOp) : Decidable (VfArrayCondition s a) :=
  inferInstanceAs (Decidable (_ → _))

theorem arrayInvariant_reachable (run : (portSystem.guard VfArrayCondition).Reachable s) :
    VfNumbers s.world.dev.busDev ∧ (s.bound = true → ArrayInvariant s.world) := by
  refine TransitionSystem.Reachable.induct
    (P := fun s => VfNumbers s.world.dev.busDev ∧ (s.bound = true → ArrayInvariant s.world))
    ?_ ?_ run
  · rintro s ⟨unbound, -, max, none⟩
    refine ⟨⟨?_, ?_⟩, fun bound => absurd (unbound.symm.trans bound) (by decide)⟩
    · rw [none]
      exact UInt32.zero_le
    · rw [max]
      decide
  · rintro s a t - ⟨numbers, inv⟩ ⟨step, condition⟩
    cases bound : s.bound with
    | false => exact arrayInvariant_probe numbers bound step
    | true =>
      obtain ⟨numbers', kept⟩ := arrayInvariant_step (inv bound) bound step
      exact ⟨numbers', fun stays => (kept stays).1 (condition bound)⟩

/-- In every run in which no VFs are given up while a port of theirs has been forgotten, no access
to the VF configurations leaves the array; and the first step of the other kind leaves `devlink`
with the port of a VF that is not there. -/
theorem vf_accesses_in_bounds (s : PortSystem)
    (run : (portSystem.guard VfArrayCondition).Reachable s) (bound : s.bound = true) :
    VfAccessesInBounds s.world ∧
    ∀ a t, portSystem.step s a t → t.bound = true →
      (VfAccessesInBounds t.world ↔ SparesLostVfs s.world a.2) := by
  refine ⟨((arrayInvariant_reachable run).2 bound).inBounds, ?_⟩
  intro a t step stays
  exact ((arrayInvariant_step ((arrayInvariant_reachable run).2 bound) bound step).2 stays).2

/-- Two VFs are given up again, the array is replaced, and one VF is given a port. -/
theorem vf_accesses_in_bounds_resized : ∃ s, (portSystem.guard VfArrayCondition).Reachable s ∧
    s.bound = true ∧ s.world.dev.vfIndices = [0] ∧ s.world.vfconfigs.length = 7 ∧
      VfAccessesInBounds s.world := by
  obtain ⟨s, reachable, test⟩ := reachable_of_advance VfArrayCondition
    [.probe 0, .eswitchMode .SWITCHDEV, .sriovNumvfs 2, .sriovNumvfs 0, .maxVfs 0 (ascii "7"),
      .sriovNumvfs 1, .eswitchMode .SWITCHDEV]
    (fun s => s.bound ∧ s.world.dev.vfIndices = [0] ∧ s.world.vfconfigs.length = 7)
    (by decide +kernel)
  obtain ⟨bound, indices, length⟩ := of_decide_eq_true test
  exact ⟨s, reachable, bound, indices, length, (vf_accesses_in_bounds s reachable bound).1⟩

/-- VF ports that are added after a failed reload are forgotten by the next one and keep their
indices when the VFs are given up; the rates of such a port are outside an array that has become
smaller. -/
theorem forgotten_vf_port_outside_array : ¬ ∀ s, portSystem.Reachable s → s.bound = true →
    VfAccessesInBounds s.world := by
  intro always
  obtain ⟨s, reachable, test⟩ := reachable_of_advance (fun _ _ => True)
    [.probe 0, .failReload true, .reload, .sriovNumvfs 2, .eswitchMode .SWITCHDEV,
      .failReload false, .reload, .sriovNumvfs 0, .maxVfs 0 (ascii "1")]
    (fun s => s.bound ∧ ∃ L ∈ live s.world.log, ⟨.devlinkPort, 129, .VF⟩ ∈ L ∧
      ((nsimLeafTxShareSet 129 125000).exec s.world).isNone) (by decide +kernel)
  obtain ⟨bound, L, live, port, wrong⟩ := of_decide_eq_true test
  have inBounds := always s reachable.of_guard bound
  obtain ⟨result, t, run⟩ := (inBounds.rates L live _ port ⟨rfl, rfl⟩ 125000).1.exists
  rw [run] at wrong
  cases wrong

end Runs

end Netdevsim.Ports
