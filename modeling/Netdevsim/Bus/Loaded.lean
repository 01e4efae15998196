import Netdevsim.Bus.Atomic
import Netdevsim.Bus.Module

/-!
# The module with and without its root bus

When `fakepci_init` creates no root bus, the module is loaded all the same, and the next that uses
it follows a NULL pointer.  When it does, the fake devices are those of the listed bus devices and
the one with the device and function 0, which stays when the module is unloaded.
-/

namespace Netdevsim.Bus

open Program

/-! ## What `fakepci_init` leaves -/

section Init

variable {pciBusNr : Int32} {faults : FakePciFaults} {t : FakePci}

theorem twp_call {σ : Type} {s : σ} {outcome : Option Errno} {Q : Unit → σ → Prop}
    {E : Failure → σ → Prop} :
    twp (call outcome) Q E s ↔
      (∀ e, outcome = some e → E (.errno e) s) ∧ (outcome = none → Q () s) := by
  unfold call
  cases outcome <;> simp

theorem twp_choosePciBusNr {s : FakePci} {taken : ℕ → Bool} :
    twp (choosePciBusNr taken) (fun _ _ => GoodBusNr s.pciBusNr taken)
      (fun _ _ => ¬GoodBusNr s.pciBusNr taken) s := by
  unfold choosePciBusNr GoodBusNr
  rw [twp_bind, twp_get]
  split
  · rw [twp_failIf]
    exact ⟨fun large small => Int32.not_lt.2 small large, Int32.not_lt.1⟩
  · rw [twp_bind, twp_set, twp_failIf]
    exact ⟨fun missing found => Int32.not_lt.2 found missing, Int32.not_lt.1⟩

theorem twp_fakepciInit :
    twp (fakepciInit faults) (fun _ _ => GetsRootBus pciBusNr faults ∧ ¬NoFirstDevice faults)
      (fun _ t => (t.rootBus ≠ none ↔ GetsRootBus pciBusNr faults) ∧
        (GetsRootBus pciBusNr faults → NoFirstDevice faults)) (.loaded pciBusNr) := by
  have stops : ∀ t : FakePci, t.rootBus = none → ¬GetsRootBus pciBusNr faults →
      (t.rootBus ≠ none ↔ GetsRootBus pciBusNr faults) ∧
        (GetsRootBus pciBusNr faults → NoFirstDevice faults) :=
    fun t none fails => ⟨iff_of_false (not_not.2 none) fails, fun gets => absurd gets fails⟩
  unfold fakepciInit
  rw [twp_bind, twp_call]
  refine ⟨fun e fails => stops _ rfl fun gets => ?_, fun registerDriver => ?_⟩
  · rw [gets.registerDriver] at fails
    cases fails
  rw [twp_bind, twp_modify, twp_bind]
  refine twp_mono (twp_and twp_choosePciBusNr wp_choosePciBusNr) ?_ ?_
  · rintro _ t ⟨busNr, same, least, most⟩
    rw [twp_bind, twp_call]
    have none : t.rootBus = none := by rw [same]; rfl
    refine ⟨fun e fails => stops _ none fun gets => ?_, fun rootDeviceRegister => ?_⟩
    · rw [gets.rootDeviceRegister] at fails
      cases fails
    rw [twp_bind, twp_modify]
    cases createRootBus : faults.createRootBus with
    | none => exact stops _ none fun gets => gets.createRootBus createRootBus
    | some domainNr =>
      have gets : GetsRootBus pciBusNr faults := by
        refine ⟨registerDriver, busNr, rootDeviceRegister, ?_⟩
        rw [createRootBus]
        exact Option.some_ne_none _
      dsimp only
      rw [twp_bind, twp_modify, twp_bind, twp_get]
      refine twp_mono twp_createFakePciDevice ?_ ?_
      · rintro _ u ⟨can, -⟩
        refine ⟨gets, ?_⟩
        rintro (fault | far)
        · exact absurd (can.2.2.2.symm.trans fault) (by decide)
        · obtain ⟨⟨root, present, fits⟩, -⟩ := can.1
          obtain rfl := Option.some.inj present
          exact far domainNr createRootBus fits
      · rintro e u ⟨rfl, cannot⟩
        refine ⟨iff_of_true (Option.some_ne_none _) gets, fun _ => ?_⟩
        by_contra first
        obtain ⟨works, fits⟩ := not_or.1 first
        push Not at fits
        obtain ⟨domainNr', present, fits⟩ := fits
        obtain rfl := Option.some.inj (createRootBus.symm.trans present)
        refine cannot ⟨⟨⟨_, rfl, fits⟩, ?_⟩, fun other => absurd rfl other, ?_, by simpa using works⟩
        · show ((UInt8.ofInt t.pciBusNr.toInt).toNat : ℤ) = t.pciBusNr.toInt
          have small : (t.pciBusNr.toInt % 2 ^ 8).toNat < 256 := by omega
          rw [UInt8.ofInt, UInt8.toNat_ofNat_of_lt' small]
          omega
        · rw [FakePci.keys, same]
          exact List.not_mem_nil
  · rintro e t ⟨bad, -, same⟩
    refine stops _ ?_ fun gets => bad gets.busNr
    rw [same]
    rfl

/-- What is known of the fake PCI driver after `fakepci_init`, whatever it returned. -/
structure Settled (pciBusNr : Int32) (faults : FakePciFaults) (t : FakePci) : Prop where
  rootBus : t.rootBus ≠ none ↔ GetsRootBus pciBusNr faults
  started : t.rootBus ≠ none → Started faults t
  noKeys : GetsRootBus pciBusNr faults → (t.keys = [] ↔ NoFirstDevice faults)
  nodup : t.keys.Nodup

theorem twp_fakepciInit_settled :
    twp (fakepciInit faults) (fun _ => Settled pciBusNr faults)
      (fun e t => (∃ errno, e = .errno errno) ∧ Settled pciBusNr faults t) (.loaded pciBusNr) := by
  refine twp_mono (twp_and twp_fakepciInit wp_fakepciInit) ?_ ?_
  · rintro _ t ⟨⟨gets, first⟩, started, keys⟩
    obtain ⟨root, present, -⟩ := started.ready
    have there : t.rootBus ≠ none := Option.ne_none_iff_exists'.2 ⟨root, present⟩
    refine ⟨iff_of_true there gets, fun _ => started, fun _ => iff_of_false ?_ first, ?_⟩
    · rw [keys]
      exact List.cons_ne_nil _ _
    · rw [keys]
      exact List.nodup_singleton _
  · rintro e t ⟨⟨rootBus, without⟩, errno, keys, far⟩
    refine ⟨errno, rootBus, fun there => far.resolve_left there, fun gets => ?_, ?_⟩
    · exact iff_of_true keys (without gets)
    · rw [keys]
      exact List.nodup_nil

end Init

/-! ## Bus devices and fake devices -/

/-- The addresses of the listed bus devices. -/
def BusWorld.addresses (w : BusWorld) : List (UInt8 × UInt8 × UInt8) :=
  (w.nsimBusDevList.filterMap w.busDev).map (·.pciAddr.key)

/-- Each listed device is in memory, on the bus, and has a fake device; there are only those of
`base` besides.  The devices are counted, and `extra` more. -/
structure Accounted (base : List (UInt8 × UInt8 × UInt8)) (extra : ℕ) (w : BusWorld) : Prop where
  ready : HasRootBus w.pci
  parentDev : w.pci.parentDev = true
  driver : w.pci.driver = true
  nodup : w.pci.keys.Nodup
  unique : w.nsimBusDevList.Nodup
  listed : ∀ p ∈ w.nsimBusDevList, p < w.nextPtr ∧
    ∃ dev, w.busDev p = some dev ∧ OnBus w.pci dev.pciAddr
  keys : w.pci.keys.Perm (w.addresses ++ base)
  count : w.nsimBusDevs = w.nsimBusDevList.length + extra

/-- Only fake devices and new bus devices are different. -/
structure KeepsDevices (w t : BusWorld) : Prop where
  list : t.nsimBusDevList = w.nsimBusDevList
  count : t.nsimBusDevs = w.nsimBusDevs
  enable : t.nsimBusEnable = w.nsimBusEnable
  nextPtr : w.nextPtr ≤ t.nextPtr
  busDev : ∀ p < w.nextPtr, t.busDev p = w.busDev p
  bus : SameBus w.pci t.pci

/-- The device is new, with a fake device that is new. -/
structure Created (w : BusWorld) (p : Ptr) (dev : NsimBusDev) (t : BusWorld) : Prop
    extends KeepsDevices w t where
  fresh : w.nextPtr ≤ p ∧ p < t.nextPtr
  present : t.busDev p = some dev
  onBus : OnBus w.pci dev.pciAddr
  new : dev.pciAddr.key ∉ w.pci.keys
  keys : t.pci.keys = dev.pciAddr.key :: w.pci.keys

section Devices

variable {α : Type} {w t : BusWorld} {base : List (UInt8 × UInt8 × UInt8)} {extra : ℕ} {p : Ptr}
  {dev : NsimBusDev} {Q : α → BusWorld → Prop} {E : Failure → BusWorld → Prop}

theorem onBus_congr {s u : FakePci} (same : SameBus s u) {addr : PciAddr} :
    OnBus u addr ↔ OnBus s addr := by
  rw [SameBus] at same
  rw [same]
  exact Iff.rfl

theorem parentDev_congr {s u : FakePci} (same : SameBus s u) : u.parentDev = s.parentDev := by
  rw [SameBus] at same
  rw [same]

theorem driver_congr {s u : FakePci} (same : SameBus s u) : u.driver = s.driver := by
  rw [SameBus] at same
  rw [same]

/-- What is written elsewhere leaves the others as they were. -/
theorem update_eq_on {P : Ptr → Prop} {f g : Ptr → Option NsimBusDev} (elsewhere : ¬P p)
    (x : Option NsimBusDev) (same : ∀ q, P q → f q = g q) :
    ∀ q, P q → Function.update f p x q = g q := by
  intro q inside
  have other : q ≠ p := fun here => elsewhere (here ▸ inside)
  rw [Function.update_of_ne other, same q inside]

theorem KeepsDevices.addresses (keeps : KeepsDevices w t) (acc : Accounted base extra w) :
    t.addresses = w.addresses := by
  have same : t.nsimBusDevList.filterMap t.busDev = w.nsimBusDevList.filterMap w.busDev := by
    rw [keeps.list]
    exact List.filterMap_congr fun p mem => keeps.busDev p (acc.listed p mem).1
  rw [BusWorld.addresses, same]
  rfl

/-- What a refused `new_device` leaves. -/
theorem Accounted.keep (acc : Accounted base extra w) (keeps : KeepsDevices w t)
    (keys : t.pci.keys = w.pci.keys) : Accounted base extra t where
  ready := SameBus.hasRootBus keeps.bus acc.ready
  parentDev := (parentDev_congr keeps.bus).trans acc.parentDev
  driver := (driver_congr keeps.bus).trans acc.driver
  nodup := keys ▸ acc.nodup
  unique := keeps.list ▸ acc.unique
  listed := by
    intro p mem
    rw [keeps.list] at mem
    obtain ⟨old, dev, present, on⟩ := acc.listed p mem
    refine ⟨old.trans_le keeps.nextPtr, dev, ?_, (onBus_congr keeps.bus).2 on⟩
    rw [keeps.busDev p old]
    exact present
  keys := by
    rw [keys, keeps.addresses acc]
    exact acc.keys
  count := by
    rw [keeps.count, keeps.list]
    exact acc.count

/-- What a successful `new_device` leaves. -/
theorem Accounted.add (acc : Accounted base extra w) (created : Created w p dev t) :
    Accounted base extra { t with
      nsimBusDevs := t.nsimBusDevs + 1
      busDev := Function.update t.busDev p (some { dev with init := true })
      nsimBusDevList := t.nsimBusDevList ++ [p] } := by
  have other : ∀ q ∈ w.nsimBusDevList, q ≠ p := fun q mem same =>
    absurd (acc.listed q mem).1 (Nat.not_lt.2 (same ▸ created.fresh.1))
  have addresses : BusWorld.addresses { t with
      nsimBusDevs := t.nsimBusDevs + 1
      busDev := Function.update t.busDev p (some { dev with init := true })
      nsimBusDevList := t.nsimBusDevList ++ [p] } = w.addresses ++ [dev.pciAddr.key] := by
    unfold BusWorld.addresses
    rw [List.filterMap_append, List.map_append, created.list]
    congr 1
    · congr 1
      refine List.filterMap_congr fun q mem => ?_
      show Function.update t.busDev p _ q = _
      rw [Function.update_of_ne (other q mem), created.busDev q (acc.listed q mem).1]
    · show (List.filterMap (Function.update t.busDev p _) [p]).map _ = _
      rw [List.filterMap_cons, Function.update_self]
      rfl
  refine ⟨SameBus.hasRootBus created.bus acc.ready, (parentDev_congr created.bus).trans acc.parentDev,
    (driver_congr created.bus).trans acc.driver, ?_, ?_, ?_, ?_, ?_⟩
  · show t.pci.keys.Nodup
    rw [created.keys]
    exact List.nodup_cons.2 ⟨created.new, acc.nodup⟩
  · show (t.nsimBusDevList ++ [p]).Nodup
    rw [created.list, List.nodup_append]
    refine ⟨acc.unique, List.nodup_singleton p, fun q mem q' mem' => ?_⟩
    rw [List.mem_singleton.1 mem']
    exact other q mem
  · intro q mem
    rcases List.mem_append.1 mem with old | new
    · have old : q ∈ w.nsimBusDevList := created.list ▸ old
      obtain ⟨small, found, present, on⟩ := acc.listed q old
      refine ⟨small.trans_le created.nextPtr, found, ?_, (onBus_congr created.bus).2 on⟩
      show Function.update t.busDev p _ q = _
      rw [Function.update_of_ne (other q old), created.busDev q small]
      exact present
    · rw [List.mem_singleton.1 new]
      exact ⟨created.fresh.2, _, Function.update_self .., (onBus_congr created.bus).2 created.onBus⟩
  · rw [addresses, List.append_assoc]
    show t.pci.keys.Perm _
    rw [created.keys]
    exact (acc.keys.cons _).trans List.perm_middle.symm
  · show t.nsimBusDevs + 1 = (t.nsimBusDevList ++ [p]).length + extra
    rw [List.length_append, created.count, created.list, acc.count]
    simp only [List.length_singleton]
    omega

end Devices

/-! ## Writes to `new_device` -/

section New

variable {α : Type} {w : BusWorld} {base : List (UInt8 × UInt8 × UInt8)} {extra : ℕ} {p : Ptr}
  {Q : α → BusWorld → Prop} {E : Failure → BusWorld → Prop}

theorem wp_onErrno {cleanup : BusM Unit} {m : BusM α} (body : wp m Q (fun e t => match e with
      | .oops pointer => E (.oops pointer) t
      | .errno e => wp cleanup (fun _ u => E (.errno e) u) E t) w) :
    wp (onErrno cleanup m) Q E w := by
  unfold onErrno
  rw [wp_tryCatch]
  refine wp_mono body (fun _ _ => id) fun e t caught => ?_
  cases e with
  | oops pointer => exact caught
  | errno e =>
    rw [wp_bind]
    exact caught

theorem wp_derefBusDev {Q : NsimBusDev → BusWorld → Prop}
    (rest : ∀ dev, w.busDev p = some dev → Q dev w) : wp (derefBusDev p) Q E w := by
  unfold derefBusDev
  rw [wp_bind, wp_get]
  cases present : w.busDev p with
  | none => exact wp_goWrong
  | some dev => exact rest dev present

/-- The cleanup that reads the device it freed goes wrong. -/
theorem wp_readsFreed {Q : Unit → BusWorld → Prop} :
    wp (do
      kfreeBusDev p
      let dev ← derefBusDev p
      ignoreErrno (onPci (removeFakePciDevice dev.pciAddr))) Q E w := by
  rw [wp_bind, kfreeBusDev, wp_modify, wp_bind]
  refine wp_derefBusDev fun dev present => ?_
  dsimp only at present
  rw [Function.update_self] at present
  cases present

/-- With its root bus a new device is created, or none is. -/
theorem wp_nsimBusDevNew {line : NewDeviceLine} {faults : NewDeviceFaults}
    (ready : HasRootBus w.pci) :
    wp (nsimBusDevNew line faults) (fun p t => ∃ dev, Created w p dev t)
      (fun e t => (∃ errno, e = .errno errno) ∧ KeepsDevices w t ∧ t.pci.keys = w.pci.keys) w := by
  have others : ∀ x f, (∀ q < w.nextPtr, f q = w.busDev q) →
      ∀ q < w.nextPtr, Function.update f w.nextPtr x q = w.busDev q :=
    fun x _ => update_eq_on (P := (· < w.nextPtr)) (lt_irrefl _) x
  unfold nsimBusDevNew kzallocBusDev
  rw [wp_bind, wp_bind, wp_failIf]
  refine ⟨fun _ => ⟨⟨_, rfl⟩, ⟨rfl, rfl, rfl, le_rfl, fun _ _ => rfl, rfl⟩, rfl⟩, fun _ => ?_⟩
  rw [wp_bind, wp_get, wp_bind, wp_set, wp_pure, wp_bind]
  apply wp_onErrno
  cases parsePciAddress line.busStr with
  | error e =>
    refine ⟨⟨_, rfl⟩, ⟨rfl, rfl, rfl, Nat.le_succ _, ?_, rfl⟩, rfl⟩
    exact others _ _ (others _ _ fun _ _ => rfl)
  | ok addr =>
    rw [wp_pure, wp_bind, setBusDev, wp_modify, wp_bind]
    apply wp_onErrno
    rw [onPci, wp_zoom]
    refine wp_mono (wp_createFakePciDevice ready) ?_ ?_
    · rintro _ pci ⟨bus, keys, new, -, on⟩
      rw [wp_bind]
      apply wp_onErrno
      unfold idaAlloc
      rw [wp_bind, wp_get, wp_bind, wp_failIf]
      refine ⟨fun _ => wp_readsFreed, fun _ => ?_⟩
      rw [wp_bind, wp_failIf]
      refine ⟨fun _ => wp_readsFreed, fun _ => ?_⟩
      rw [wp_set, wp_bind, setBusDev, wp_modify, wp_bind]
      apply wp_onErrno
      have bus : SameBus w.pci pci := bus
      cases faults.deviceRegister with
      | some e =>
        rw [deviceRegister, wp_throw]
        dsimp only
        rw [wp_bind]
        refine wp_derefBusDev fun dev _ => ?_
        exact trivial
      | none =>
        rw [deviceRegister, nsimBusProbe, wp_bind]
        refine wp_derefBusDev fun dev present => ?_
        dsimp only at present
        rw [Function.update_self] at present
        obtain rfl := Option.some.inj present
        rw [wp_bind, onPci, wp_zoom]
        obtain ⟨root, there, -⟩ := SameBus.hasRootBus bus ready
        refine wp_of_twp (twp_findFakePciDeviceByAddr
          (Option.ne_none_iff_exists'.2 ⟨root, there⟩) fun _ => ?_)
        refine ⟨_, ⟨rfl, rfl, rfl, Nat.le_succ _, ?_, bus⟩, ⟨le_rfl, Nat.lt_succ_self _⟩,
          Function.update_self .., on, new, keys⟩
        exact others _ _ (others _ _ (others _ _ (others _ _ fun _ _ => rfl)))
    · rintro e pci ⟨⟨errno, rfl⟩, rfl⟩
      refine ⟨⟨_, rfl⟩, ⟨rfl, rfl, rfl, Nat.le_succ _, ?_, rfl⟩, rfl⟩
      exact others _ _ (others _ _ (others _ _ fun _ _ => rfl))

/-- What is the same after any write. -/
theorem wp_newDeviceStore {buf : Bytes} {faults : NewDeviceFaults}
    (acc : Accounted base extra w) (enabled : w.nsimBusEnable = true) :
    wp (newDeviceStore buf faults) (fun _ t => Accounted base extra t ∧ t.nsimBusEnable = true)
      (fun e t => e ≠ .oops .rootBus ∧ Accounted base extra t ∧ t.nsimBusEnable = true) w := by
  unfold newDeviceStore
  cases newDeviceValues buf with
  | none => exact ⟨by simp, acc, enabled⟩
  | some line =>
    dsimp only
    rw [wp_bind, wp_failIf]
    refine ⟨fun _ => ⟨by simp, acc, enabled⟩, fun _ => ?_⟩
    rw [wp_bind, wp_failIf]
    refine ⟨fun _ => ⟨by simp, acc, enabled⟩, fun _ => ?_⟩
    rw [wp_bind, wp_get, wp_bind, wp_failIf]
    refine ⟨fun _ => ⟨by simp, acc, enabled⟩, fun _ => ?_⟩
    rw [wp_bind]
    refine wp_mono (wp_nsimBusDevNew acc.ready) ?_ ?_
    · rintro p t ⟨dev, created⟩
      rw [wp_bind, wp_modify, wp_bind]
      refine wp_derefBusDev fun found present => ?_
      obtain rfl := Option.some.inj (present.symm.trans created.present)
      rw [wp_bind, setBusDev, wp_modify, wp_modify]
      exact ⟨acc.add created, created.enable.trans enabled⟩
    · rintro e t ⟨⟨errno, rfl⟩, keeps, keys⟩
      exact ⟨by simp, acc.keep keeps keys, keeps.enable.trans enabled⟩

end New

/-! ## Deleting devices -/

/-- The device is off the list, freed, and its fake device is removed. -/
structure Deleted (w : BusWorld) (p : Ptr) (dev : NsimBusDev) (t : BusWorld) : Prop where
  list : t.nsimBusDevList = w.nsimBusDevList.erase p
  count : t.nsimBusDevs = w.nsimBusDevs - 1
  enable : t.nsimBusEnable = w.nsimBusEnable
  nextPtr : t.nextPtr = w.nextPtr
  busDev : ∀ q, q ≠ p → t.busDev q = w.busDev q
  bus : SameBus w.pci t.pci
  keys : t.pci.keys = w.pci.keys.erase dev.pciAddr.key

section Delete

variable {w t : BusWorld} {base : List (UInt8 × UInt8 × UInt8)} {extra : ℕ} {p : Ptr}
  {dev : NsimBusDev} {Q : Unit → BusWorld → Prop} {E : Failure → BusWorld → Prop}

/-- The list of addresses without that of a deleted device. -/
theorem Deleted.addresses (deleted : Deleted w p dev t) (unique : w.nsimBusDevList.Nodup)
    (mem : p ∈ w.nsimBusDevList) (present : w.busDev p = some dev) :
    w.addresses.Perm (dev.pciAddr.key :: t.addresses) := by
  have first : (w.nsimBusDevList.filterMap w.busDev).Perm
      (dev :: (w.nsimBusDevList.erase p).filterMap w.busDev) := by
    have perm := (List.perm_cons_erase mem).filterMap w.busDev
    rw [List.filterMap_cons, present] at perm
    exact perm
  have rest : (w.nsimBusDevList.erase p).filterMap w.busDev =
      t.nsimBusDevList.filterMap t.busDev := by
    rw [deleted.list]
    refine List.filterMap_congr fun q left => (deleted.busDev q ?_).symm
    exact (unique.mem_erase_iff.1 left).1
  rw [rest] at first
  exact first.map _

theorem Accounted.key_mem (acc : Accounted base extra w) (mem : p ∈ w.nsimBusDevList)
    (present : w.busDev p = some dev) : dev.pciAddr.key ∈ w.pci.keys := by
  refine acc.keys.mem_iff.2 (List.mem_append_left _ ?_)
  exact List.mem_map_of_mem (List.mem_filterMap.2 ⟨p, mem, present⟩)

theorem Accounted.delete (acc : Accounted base extra w) (mem : p ∈ w.nsimBusDevList)
    (present : w.busDev p = some dev) (deleted : Deleted w p dev t) : Accounted base extra t where
  ready := SameBus.hasRootBus deleted.bus acc.ready
  parentDev := (parentDev_congr deleted.bus).trans acc.parentDev
  driver := (driver_congr deleted.bus).trans acc.driver
  nodup := by
    rw [deleted.keys]
    exact acc.nodup.erase _
  unique := by
    rw [deleted.list]
    exact acc.unique.erase p
  listed := by
    intro q left
    rw [deleted.list] at left
    obtain ⟨other, old⟩ := acc.unique.mem_erase_iff.1 left
    obtain ⟨small, found, there, on⟩ := acc.listed q old
    refine ⟨deleted.nextPtr ▸ small, found, ?_, (onBus_congr deleted.bus).2 on⟩
    rw [deleted.busDev q other]
    exact there
  keys := by
    have perm := acc.keys.trans
      ((deleted.addresses acc.unique mem present).append_right base)
    rw [deleted.keys]
    have erased := perm.erase dev.pciAddr.key
    rw [List.cons_append, List.erase_cons_head] at erased
    exact erased
  count := by
    have positive : 0 < w.nsimBusDevList.length := List.length_pos_of_mem mem
    rw [deleted.count, deleted.list, List.length_erase_of_mem mem, acc.count]
    omega

theorem twp_ignoreErrno {m : BusM Unit} (body : twp m Q (fun e t => match e with
      | .oops pointer => E (.oops pointer) t
      | .errno _ => Q () t) w) :
    twp (ignoreErrno m) Q E w := by
  unfold ignoreErrno
  rw [twp_tryCatch]
  refine twp_mono body (fun _ _ => id) fun e t caught => ?_
  cases e with
  | oops pointer => exact caught
  | errno e => exact caught

theorem total_removeFakePciDevice (addr : PciAddr) : Total (removeFakePciDevice addr) := by
  have root : Total derefRootBus := by
    refine total_get.bind fun s => ?_
    split
    · exact total_pure _
    · exact total_throw _
  have check : Total (checkAddr addr) :=
    root.bind fun _ => (total_failIf _).bind fun _ => total_get.bind fun _ =>
      (total_failIf _).bind fun _ => total_pure _
  refine check.bind fun _ => total_get.bind fun s => ?_
  split
  · exact total_throw _
  · exact total_set _

/-- A listed device can be deleted, with its fake device. -/
theorem twp_unlistAndDel (acc : Accounted base extra w) (mem : p ∈ w.nsimBusDevList) :
    twp (unlistAndDel p) (fun _ t => Accounted base extra t ∧
        t.nsimBusDevList = w.nsimBusDevList.erase p ∧ t.nsimBusEnable = w.nsimBusEnable)
      (fun _ _ => False) w := by
  obtain ⟨-, dev, present, on⟩ := acc.listed p mem
  have suffices_deleted : ∀ t, Deleted w p dev t → Accounted base extra t ∧
      t.nsimBusDevList = w.nsimBusDevList.erase p ∧ t.nsimBusEnable = w.nsimBusEnable :=
    fun t deleted => ⟨acc.delete mem present deleted, deleted.list, deleted.enable⟩
  have others : ∀ x f, (∀ q, q ≠ p → f q = w.busDev q) →
      ∀ q, q ≠ p → Function.update f p x q = w.busDev q :=
    fun x _ => update_eq_on (P := (· ≠ p)) (not_not.2 rfl) x
  unfold unlistAndDel nsimBusDevDel
  rw [twp_bind, twp_modify, twp_bind]
  refine twp_derefBusDev present ?_
  rw [twp_bind]
  refine twp_ignoreErrno ?_
  rw [twp_onPci]
  refine twp_mono ((total_removeFakePciDevice _ _).twp
    (wp_removeFakePciDevice acc.ready acc.nodup)) ?_ ?_
  · rintro _ pci ⟨bus, keys, -⟩
    have bus : SameBus w.pci pci := bus
    rw [twp_bind]
    refine twp_derefBusDev present ?_
    rw [twp_bind, setBusDev, twp_modify, twp_bind, idaFree, twp_modify]
    unfold deviceUnregister
    rw [twp_bind]
    refine twp_derefBusDev (Function.update_self ..) ?_
    unfold nsimBusDevRelease kfreeBusDev
    split
    · unfold nsimBusRemove
      rw [twp_bind, twp_bind]
      refine twp_derefBusDev (Function.update_self ..) ?_
      rw [setBusDev, twp_modify, twp_bind, twp_modify, twp_modify]
      refine suffices_deleted _ ⟨rfl, rfl, rfl, rfl, ?_, bus, keys⟩
      exact others _ _ (others _ _ (others _ _ fun _ _ => rfl))
    · rw [twp_bind, twp_modify, twp_modify]
      refine suffices_deleted _ ⟨rfl, rfl, rfl, rfl, ?_, bus, keys⟩
      exact others _ _ (others _ _ fun _ _ => rfl)
  · rintro e pci ⟨-, -, missing⟩
    exact absurd (acc.key_mem mem present) (missing on)

/-- Looking for an id in a list of devices that are in memory. -/
theorem twp_findBusDev {id : UInt32} {ps : List Ptr} {Q : Option Ptr → BusWorld → Prop}
    (listed : ∀ p ∈ ps, ∃ dev, w.busDev p = some dev)
    (rest : ∀ found, (∀ p ∈ found, p ∈ ps) → Q found w) : twp (findBusDev id ps) Q E w := by
  induction ps with
  | nil => exact rest none fun p none => absurd none (Option.not_mem_none p)
  | cons p ps ih =>
    obtain ⟨dev, present⟩ := listed p List.mem_cons_self
    unfold findBusDev
    rw [twp_bind]
    refine twp_derefBusDev present ?_
    split
    · refine rest (some p) fun q same => ?_
      rw [← Option.some.inj same]
      exact List.mem_cons_self
    · refine ih (fun q mem => listed q (List.mem_cons_of_mem p mem)) fun found within => ?_
      exact rest found fun q mem => List.mem_cons_of_mem p (within q mem)

theorem wp_delDeviceStore {buf : Bytes} (acc : Accounted base extra w)
    (enabled : w.nsimBusEnable = true) :
    wp (delDeviceStore buf) (fun _ t => Accounted base extra t ∧ t.nsimBusEnable = true)
      (fun e t => e ≠ .oops .rootBus ∧ Accounted base extra t ∧ t.nsimBusEnable = true) w := by
  unfold delDeviceStore
  split
  · rw [wp_bind, wp_failIf]
    refine ⟨fun _ => ⟨by simp, acc, enabled⟩, fun _ => ?_⟩
    rw [wp_bind, wp_get, wp_bind, wp_failIf]
    refine ⟨fun _ => ⟨by simp, acc, enabled⟩, fun _ => ?_⟩
    rw [wp_bind]
    refine wp_of_twp (twp_findBusDev (fun p mem => ?_) fun found within => ?_)
    · obtain ⟨-, dev, present, -⟩ := acc.listed p mem
      exact ⟨dev, present⟩
    · cases found with
      | none => exact ⟨by simp, acc, enabled⟩
      | some p =>
        refine wp_mono (wp_of_twp (twp_unlistAndDel acc (within p rfl))) ?_ ?_
        · rintro _ t ⟨acc', -, enable⟩
          exact ⟨acc', enable.trans enabled⟩
        · exact fun _ _ => False.elim
  · exact ⟨by simp, acc, enabled⟩

end Delete

/-! ## Unloading -/

section Exit

variable {s : Module} {base : List (UInt8 × UInt8 × UInt8)}

theorem twp_onBus {α : Type} {m : BusM α} {Q : α → Module → Prop} {E : Failure → Module → Prop} :
    twp (onBus m) Q E s ↔
      twp m (fun a bus => Q a { s with bus }) (fun e bus => E e { s with bus }) s.bus := twp_zoom

/-- The rule for `nsim_bus_exit`, with the invariant `I` of what is left of the list. -/
theorem twp_nsimBusExit {I : List Ptr → BusWorld → Prop}
    (start : I s.bus.nsimBusDevList
      { s.bus with nsimBusEnable := false, nsimBusDevs := s.bus.nsimBusDevs - 1 })
    (del : ∀ p rest w, I (p :: rest) w → twp (unlistAndDel p) (fun _ => I rest) (fun _ _ => False) w)
    (count : ∀ w, I [] w → w.nsimBusDevs = 0) :
    twp nsimBusExit (fun _ t => I [] t.bus) (fun _ _ => False) s := by
  unfold nsimBusExit
  rw [twp_bind, twp_modify, twp_bind, twp_get, twp_bind, twp_onBus]
  refine twp_mono (twp_forM del start) ?_ fun _ _ => id
  rintro _ w done
  rw [twp_bind, twp_get, if_neg (not_not.2 (count w done))]
  exact done

theorem twp_nsimBusExit_empty (empty : s.bus.nsimBusDevList = []) (count : s.bus.nsimBusDevs = 1) :
    twp nsimBusExit (fun _ t => t.bus.pci = s.bus.pci) (fun _ _ => False) s := by
  refine twp_mono (twp_nsimBusExit
    (I := fun ps w => ps = [] ∧ w.pci = s.bus.pci ∧ w.nsimBusDevs = 0) ?_ ?_ ?_)
    (fun _ _ done => done.2.1) fun _ _ => id
  · refine ⟨empty, rfl, ?_⟩
    show s.bus.nsimBusDevs - 1 = 0
    rw [count]
  · exact fun _ _ _ left => absurd left.1 (List.cons_ne_nil _ _)
  · exact fun _ done => done.2.2

theorem twp_nsimBusExit_accounted (acc : Accounted base 1 s.bus) :
    twp nsimBusExit (fun _ t => Accounted base 0 t.bus ∧ t.bus.nsimBusDevList = [])
      (fun _ _ => False) s := by
  refine twp_nsimBusExit (I := fun ps w => Accounted base 0 w ∧ w.nsimBusDevList = ps) ?_ ?_ ?_
  · refine ⟨⟨acc.ready, acc.parentDev, acc.driver, acc.nodup, acc.unique, acc.listed, acc.keys, ?_⟩,
      rfl⟩
    show s.bus.nsimBusDevs - 1 = s.bus.nsimBusDevList.length + 0
    rw [acc.count]
    omega
  · rintro p rest w ⟨acc', list⟩
    have mem : p ∈ w.nsimBusDevList := list ▸ List.mem_cons_self
    refine twp_mono (twp_unlistAndDel acc' mem) ?_ fun _ _ => id
    rintro _ t ⟨acc'', erased, -⟩
    refine ⟨acc'', ?_⟩
    rw [erased, list, List.erase_cons_head]
  · rintro w ⟨acc', list⟩
    rw [acc'.count, list]
    rfl

/-- With its root bus the module can be unloaded; what is left are the fake devices of no device. -/
theorem twp_nsimModuleExit (acc : Accounted base 1 s.bus) :
    twp nsimModuleExit (fun _ t => t.bus.pci.keys.Perm base ∧ t.bus.pci =
        { FakePci.loaded t.bus.pci.pciBusNr with fakeDevicesList := t.bus.pci.fakeDevicesList })
      (fun _ _ => False) s := by
  unfold nsimModuleExit
  rw [twp_bind, twp_modify, twp_bind]
  refine twp_mono (twp_nsimBusExit_accounted acc) ?_ fun _ _ => id
  rintro _ t ⟨acc', empty⟩
  obtain ⟨root, present, -⟩ := acc'.ready
  have keys := acc'.keys
  rw [BusWorld.addresses, empty] at keys
  rw [twp_bind, nsimDevExit, twp_modify, twp_onBus, twp_onPci]
  unfold fakepciExit derefRootBus
  rw [twp_bind, twp_bind, twp_get, present]
  dsimp only
  rw [twp_pure, twp_bind, twp_modify, twp_bind, twp_get]
  dsimp only
  rw [if_pos acc'.parentDev, twp_bind, twp_modify, twp_bind, twp_get]
  dsimp only
  rw [if_pos acc'.driver, twp_modify]
  exact ⟨keys, rfl⟩

theorem twp_nsimModuleExit_missing (missing : s.bus.pci.rootBus = none)
    (empty : s.bus.nsimBusDevList = []) (count : s.bus.nsimBusDevs = 1) :
    twp nsimModuleExit (fun _ _ => False) (fun e _ => e = .oops .rootBus) s := by
  unfold nsimModuleExit
  rw [twp_bind, twp_modify, twp_bind]
  refine twp_mono (twp_nsimBusExit_empty empty count) ?_ fun _ _ => False.elim
  intro _ t same
  rw [twp_bind, nsimDevExit, twp_modify, twp_onBus, twp_onPci]
  unfold fakepciExit derefRootBus
  rw [twp_bind, twp_bind, twp_get]
  dsimp only at same ⊢
  rw [same, missing]
  rfl

end Exit

/-! ## Loading -/

section Load

variable {s : Module} {pciBusNr : Int32} {faults : ModuleFaults}

/-- The module with no device yet. -/
structure FreshlyLoaded (pciBusNr : Int32) (faults : ModuleFaults) (s : Module) : Prop where
  settled : Settled pciBusNr faults.fakepci s.bus.pci
  list : s.bus.nsimBusDevList = []
  count : s.bus.nsimBusDevs = 1
  enabled : s.bus.nsimBusEnable = true

theorem twp_nsimModuleInit :
    twp (nsimModuleInit faults)
      (fun _ s => ¬ModuleInitFails faults ∧ FreshlyLoaded pciBusNr faults s)
      (fun _ _ => ModuleInitFails faults) (.loaded pciBusNr) := by
  have load : ∀ pci, Settled pciBusNr faults.fakepci pci →
      twp (do
          nsimDevInit faults.debugfsCreateDir
          unwind nsimDevExit do
            nsimBusInit faults.busRegister faults.driverRegister
            unwind nsimBusExit do
              call faults.rtnlLinkRegister
              modify fun s => { s with linkOps := true })
        (fun _ s => ¬ModuleInitFails faults ∧ FreshlyLoaded pciBusNr faults s)
        (fun _ _ => ModuleInitFails faults)
        { Module.loaded pciBusNr with bus := { (Module.loaded pciBusNr).bus with pci } } := by
    intro pci settled
    unfold nsimDevInit nsimBusInit
    rw [twp_bind, twp_bind, twp_call]
    refine ⟨fun e fails => .inl (by rw [fails]; exact Option.some_ne_none e), fun dir => ?_⟩
    rw [twp_modify, twp_unwind, twp_bind, twp_bind, twp_call]
    refine ⟨fun e fails => ?_, fun bus => ?_⟩
    · exact .inr (.inl (by rw [fails]; exact Option.some_ne_none e))
    rw [twp_bind, twp_modify, twp_bind, twp_unwind, twp_call]
    refine ⟨fun e fails => ?_, fun driver => ?_⟩
    · exact .inr (.inr (.inl (by rw [fails]; exact Option.some_ne_none e)))
    rw [twp_bind, twp_modify, twp_modify, twp_unwind, twp_bind, twp_call]
    refine ⟨fun e fails => ?_, fun link => ?_⟩
    · refine twp_mono (twp_nsimBusExit_empty rfl rfl) (fun _ _ _ => ?_) fun _ _ => False.elim
      exact .inr (.inr (.inr (by rw [fails]; exact Option.some_ne_none e)))
    · rw [twp_modify]
      refine ⟨?_, settled, rfl, rfl, rfl⟩
      rintro (fails | fails | fails | fails)
      · exact fails dir
      · exact fails bus
      · exact fails driver
      · exact fails link
  unfold nsimModuleInit
  rw [twp_bind, twp_onBus]
  refine twp_ignoreErrno ?_
  rw [twp_onPci]
  refine twp_mono twp_fakepciInit_settled (fun _ pci => load pci) ?_
  rintro e pci ⟨⟨errno, rfl⟩, settled⟩
  exact load pci settled

theorem freshlyLoaded_init (init : (moduleSystem pciBusNr faults).init s) :
    ¬ModuleInitFails faults ∧ FreshlyLoaded pciBusNr faults s :=
  exec_ok_of_wp (Q := fun _ s => ¬ModuleInitFails faults ∧ FreshlyLoaded pciBusNr faults s)
    (wp_of_twp twp_nsimModuleInit) init

theorem exists_init (pciBusNr : Int32) (loads : ¬ModuleInitFails faults) :
    ∃ s, (moduleSystem pciBusNr faults).init s := by
  have effect : twp (nsimModuleInit faults) _ _ (.loaded pciBusNr) := twp_nsimModuleInit
  obtain ⟨result, s, run⟩ := (completes_of_twp effect).exists
  cases result with
  | error e => exact absurd (exec_error_of_wp (wp_of_twp effect) run) loads
  | ok _ => exact ⟨s, run⟩

/-- With its root bus the module keeps its books. -/
theorem accounted_reachable (gets : GetsRootBus pciBusNr faults.fakepci)
    (run : (moduleSystem pciBusNr faults).Reachable s) :
    ∃ base, (base = [] ↔ NoFirstDevice faults.fakepci) ∧ Accounted base 1 s.bus ∧
      s.bus.nsimBusEnable = true := by
  refine TransitionSystem.Reachable.induct (P := fun s : Module =>
    ∃ base, (base = [] ↔ NoFirstDevice faults.fakepci) ∧ Accounted base 1 s.bus ∧
      s.bus.nsimBusEnable = true) ?_ ?_ run
  · intro s init
    obtain ⟨-, fresh⟩ := freshlyLoaded_init init
    have started := fresh.settled.started (fresh.settled.rootBus.2 gets)
    refine ⟨s.bus.pci.keys, fresh.settled.noKeys gets, ?_, fresh.enabled⟩
    refine ⟨started.ready, started.parentDev, started.driver, fresh.settled.nodup, ?_, ?_, ?_, ?_⟩
    · rw [fresh.list]
      exact List.nodup_nil
    · intro p mem
      rw [fresh.list] at mem
      exact absurd mem List.not_mem_nil
    · rw [BusWorld.addresses, fresh.list]
      exact .refl _
    · rw [fresh.list]
      exact fresh.count
  · rintro s op t - ⟨base, first, acc, enabled⟩ ⟨result, step⟩
    refine ⟨base, first, ?_⟩
    refine holds_of_wp (I := fun t => Accounted base 1 t.bus ∧ t.bus.nsimBusEnable = true) ?_ step
    cases op with
    | newDevice buf faults =>
      rw [ModuleOp.program, onBus, wp_zoom]
      exact wp_mono (wp_newDeviceStore acc enabled) (fun _ _ => id) fun _ _ => And.right
    | delDevice buf =>
      rw [ModuleOp.program, onBus, wp_zoom]
      exact wp_mono (wp_delDeviceStore acc enabled) (fun _ _ => id) fun _ _ => And.right

/-- Without its root bus the module cannot be unloaded. -/
theorem exit_missing (loads : ¬ModuleInitFails faults) (missing : ¬GetsRootBus pciBusNr faults.fakepci) :
    ∃ s t, (moduleSystem pciBusNr faults).Reachable s ∧
      nsimModuleExit.exec s = some (.error (.oops .rootBus), t) := by
  obtain ⟨s, init⟩ := exists_init pciBusNr loads
  obtain ⟨-, fresh⟩ := freshlyLoaded_init init
  have none : s.bus.pci.rootBus = none := not_not.1 fun there => missing (fresh.settled.rootBus.1 there)
  have effect := twp_nsimModuleExit_missing none fresh.list fresh.count
  obtain ⟨result, t, run⟩ := (completes_of_twp effect).exists
  cases result with
  | ok _ => exact (exec_ok_of_wp (wp_of_twp effect) run).elim
  | error e =>
    obtain rfl : e = .oops .rootBus :=
      exec_error_of_wp (E := fun e _ => e = .oops .rootBus) (wp_of_twp effect) run
    exact ⟨s, t, .init init, run⟩

/-- How the module is unloaded when there is its root bus. -/
theorem exit_present (gets : GetsRootBus pciBusNr faults.fakepci)
    (run : (moduleSystem pciBusNr faults).Reachable s) :
    ∃ t, nsimModuleExit.exec s = some (.ok (), t) ∧
      (t.bus.pci = .loaded t.bus.pci.pciBusNr ↔ NoFirstDevice faults.fakepci) := by
  obtain ⟨base, first, acc, -⟩ := accounted_reachable gets run
  have effect := twp_nsimModuleExit acc
  obtain ⟨result, t, exits⟩ := (completes_of_twp effect).exists
  cases result with
  | error e => exact (exec_error_of_wp (wp_of_twp effect) exits).elim
  | ok _ =>
    obtain ⟨keys, pci⟩ := exec_ok_of_wp (Q := fun _ (t : Module) => t.bus.pci.keys.Perm base ∧ _)
      (wp_of_twp effect) exits
    refine ⟨t, exits, ?_⟩
    rw [← first]
    constructor
    · intro undone
      rw [undone] at keys
      exact keys.symm.eq_nil
    · rintro rfl
      have empty : t.bus.pci.fakeDevicesList = [] := List.map_eq_nil_iff.1 keys.eq_nil
      rw [pci, empty]
      rfl

/-- No use of the fake PCI bus finds it missing exactly if the module is not loaded, or there is the
root bus.  Unloading the module undoes what was done exactly if, besides, there is no fake device
with the device and function 0. -/
theorem fakepci_not_used_when_missing (pciBusNr : Int32) (faults : ModuleFaults) :
    (RootBusIsThere pciBusNr faults ↔
      ModuleInitFails faults ∨ GetsRootBus pciBusNr faults.fakepci) ∧
    (RootBusIsThere pciBusNr faults ∧ ExitUndoesInit pciBusNr faults ↔
      ModuleInitFails faults ∨
        GetsRootBus pciBusNr faults.fakepci ∧ NoFirstDevice faults.fakepci) := by
  have vacuous : ModuleInitFails faults → ∀ s, ¬(moduleSystem pciBusNr faults).Reachable s := by
    intro fails s run
    refine TransitionSystem.Reachable.induct (P := fun _ => False) ?_ (fun _ _ _ _ no _ => no) run
    exact fun s init => (freshlyLoaded_init init).1 fails
  have present : GetsRootBus pciBusNr faults.fakepci → RootBusIsThere pciBusNr faults := by
    intro gets s run
    constructor
    · intro op t step
      obtain ⟨base, -, acc, enabled⟩ := accounted_reachable gets run
      have fine : wp op.program (fun _ _ => True) (fun e _ => e ≠ .oops .rootBus) s := by
        cases op with
        | newDevice buf faults =>
          rw [ModuleOp.program, onBus, wp_zoom]
          exact wp_mono (wp_newDeviceStore acc enabled) (fun _ _ _ => trivial) fun _ _ => And.left
        | delDevice buf =>
          rw [ModuleOp.program, onBus, wp_zoom]
          exact wp_mono (wp_delDeviceStore acc enabled) (fun _ _ _ => trivial) fun _ _ => And.left
      exact exec_error_of_wp (E := fun e _ => e ≠ .oops .rootBus) fine step rfl
    · intro t exits
      obtain ⟨u, fine, -⟩ := exit_present gets run
      rw [fine] at exits
      cases exits
  have missing : RootBusIsThere pciBusNr faults → ¬ModuleInitFails faults →
      GetsRootBus pciBusNr faults.fakepci := by
    intro there loads
    by_contra none
    obtain ⟨s, t, run, exits⟩ := exit_missing loads none
    exact (there s run).2 t exits
  refine ⟨⟨fun there => or_iff_not_imp_left.2 (missing there), ?_⟩, ?_, ?_⟩
  · rintro (fails | gets)
    · exact fun s run => absurd run (vacuous fails s)
    · exact present gets
  · rintro ⟨there, undoes⟩
    refine or_iff_not_imp_left.2 fun loads => ?_
    have gets := missing there loads
    obtain ⟨s, init⟩ := exists_init pciBusNr loads
    obtain ⟨t, exits, undone⟩ := undoes s (.init init)
    obtain ⟨u, exits', iff⟩ := exit_present gets (.init init)
    obtain rfl : t = u := congrArg Prod.snd (Option.some.inj (exits.symm.trans exits'))
    exact ⟨gets, iff.1 undone⟩
  · rintro (fails | ⟨gets, first⟩)
    · exact ⟨fun s run => absurd run (vacuous fails s), fun s run => absurd run (vacuous fails s)⟩
    · refine ⟨present gets, fun s run => ?_⟩
      obtain ⟨t, exits, iff⟩ := exit_present gets run
      exact ⟨t, exits, iff.2 first⟩

/-- All calls succeed. -/
def ModuleFaults.none : ModuleFaults := ⟨.none, .none, .none, .none, .none⟩

/-- The module is loaded with the bus number 256, and with the bus number 32. -/
theorem fakepci_used_when_missing :
    ¬RootBusIsThere 256 .none ∧ ¬ExitUndoesInit 32 .none := by
  have loads : ¬ModuleInitFails .none := by
    rintro (fails | fails | fails | fails) <;> exact fails rfl
  have gets : GetsRootBus 32 FakePciFaults.none :=
    ⟨rfl, by unfold GoodBusNr; decide, rfl, Option.some_ne_none _⟩
  refine ⟨fun always => ?_, fun undoes => ?_⟩
  · have bad : ¬GetsRootBus 256 FakePciFaults.none := by
      intro gets'
      have busNr := gets'.busNr
      unfold GoodBusNr at busNr
      exact absurd busNr (by decide)
    obtain ⟨s, t, run, exits⟩ := exit_missing loads bad
    exact (always s run).2 t exits
  · obtain ⟨s, init⟩ := exists_init 32 loads
    obtain ⟨t, exits, undone⟩ := undoes s (.init init)
    obtain ⟨u, exits', iff⟩ := exit_present gets (.init init)
    obtain rfl : t = u := congrArg Prod.snd (Option.some.inj (exits.symm.trans exits'))
    have first : ¬NoFirstDevice FakePciFaults.none := by
      rintro (fault | far)
      · cases fault
      · exact far 0 rfl (by decide)
    exact first (iff.1 undone)

end Load

end Netdevsim.Bus
