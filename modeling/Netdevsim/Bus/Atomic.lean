import Netdevsim.Bus.NewDevice

/-!
# `new_device` fails atomically, or not

All that `new_device` takes before the id is given back when it fails there.  When the id cannot be
taken, or the device cannot be registered, it reads the address of a device that was freed, or of
none.
-/

namespace Netdevsim.Bus

open Program

/-- The devices on the list, the ids, the fake devices and the count of devices are the same. -/
structure SameResources (w t : BusWorld) : Prop where
  list : t.nsimBusDevList = w.nsimBusDevList
  ids : t.nsimBusDevIds = w.nsimBusDevIds
  fakeDevices : t.pci.fakeDevicesList = w.pci.fakeDevicesList
  count : t.nsimBusDevs = w.nsimBusDevs

/-- A write to `new_device` reads no device that is not there, and changes nothing if it returns an
error. -/
def NewDeviceAtomic (buf : Bytes) (faults : NewDeviceFaults) (w : BusWorld) : Prop :=
  Completes (newDeviceStore buf faults) w ∧
    ∀ e t, (newDeviceStore buf faults).exec w = some (.error (.errno e), t) → SameResources w t

/-- A fake device can be created. -/
def CanCreate (s : FakePci) (addr : PciAddr) (fault : Bool) : Prop :=
  OnBus s addr ∧ (addr.function ≠ 0 → (addr.bus, addr.device, 0) ∈ s.keys) ∧ addr.key ∉ s.keys ∧
    fault = false

instance (s : FakePci) (addr : PciAddr) (fault : Bool) : Decidable (CanCreate s addr fault) :=
  inferInstanceAs (Decidable (_ ∧ _))

/-- The line is good, and so is its address, for which the fake device is created. -/
structure GetsFakeDevice (buf : Bytes) (faults : NewDeviceFaults) (w : BusWorld)
    (line : NewDeviceLine) (addr : PciAddr) : Prop where
  values : newDeviceValues buf = some line
  busStr : faults.busStr = false
  small : line.id.toNat ≤ INT_MAX
  enabled : w.nsimBusEnable = true
  busDev : faults.busDev = false
  parsed : parsePciAddress line.busStr = .ok addr
  create : CanCreate w.pci addr faults.fakeDevice

/-- If the fake device is created, the id is taken and the device is registered. -/
def GoesThrough (buf : Bytes) (faults : NewDeviceFaults) (w : BusWorld) : Prop :=
  ∀ line addr, GetsFakeDevice buf faults w line addr →
    line.id ∉ w.nsimBusDevIds ∧ faults.ida = false ∧ faults.deviceRegister = none

/-! ## Rules -/

section Rules

variable {α : Type} {w : BusWorld} {Q : α → BusWorld → Prop} {E : Failure → BusWorld → Prop}
  {s : FakePci} {addr : PciAddr} {fault : Bool} {probed : List (Ptr × UInt8 × UInt8)} {p : Ptr}

theorem twp_onErrno {cleanup : BusM Unit} {m : BusM α} :
    twp (onErrno cleanup m) Q E w ↔ twp m Q (fun e t => match e with
      | .oops pointer => E (.oops pointer) t
      | .errno e => twp cleanup (fun _ u => E (.errno e) u) E t) w := by
  unfold onErrno
  rw [twp_tryCatch]
  constructor
  · refine fun h => twp_mono h (fun _ _ => id) fun e t caught => ?_
    cases e with
    | oops pointer => exact caught
    | errno e =>
      rw [twp_bind] at caught
      exact caught
  · refine fun h => twp_mono h (fun _ _ => id) fun e t caught => ?_
    cases e with
    | oops pointer => exact caught
    | errno e =>
      rw [twp_bind]
      exact caught

theorem twp_onPci {m : PciM α} :
    twp (onPci m) Q E w ↔
      twp m (fun a pci => Q a { w with pci }) (fun e pci => E e { w with pci }) w.pci := twp_zoom

theorem twp_derefBusDev {Q : NsimBusDev → BusWorld → Prop} {dev : NsimBusDev}
    (present : w.busDev p = some dev) (rest : Q dev w) : twp (derefBusDev p) Q E w := by
  unfold derefBusDev
  rw [twp_bind, twp_get, present]
  exact rest

/-- Creating a fake device never goes wrong, and changes nothing if it fails. -/
theorem twp_createFakePciDevice :
    twp (createFakePciDevice addr fault probed)
      (fun _ t => CanCreate s addr fault ∧ SameBus s t)
      (fun _ t => t = s ∧ ¬CanCreate s addr fault) s := by
  unfold createFakePciDevice checkAddr derefRootBus
  rw [twp_bind, twp_bind, twp_bind, twp_get]
  cases present : s.rootBus with
  | none =>
    refine ⟨rfl, fun can => ?_⟩
    obtain ⟨⟨⟨root, mem, -⟩, -⟩, -⟩ := can
    rw [present] at mem
    cases mem
  | some root =>
    rw [twp_pure, twp_bind, twp_failIf]
    refine ⟨fun other => ⟨rfl, fun can => ?_⟩, fun domain => ?_⟩
    · obtain ⟨⟨⟨root', mem, same⟩, -⟩, -⟩ := can
      rw [present] at mem
      obtain rfl := Option.some.inj mem
      exact other same
    rw [twp_bind, twp_get, twp_bind, twp_failIf]
    refine ⟨fun other => ⟨rfl, fun can => other can.1.2⟩, fun busNr => ?_⟩
    have on : OnBus s addr := ⟨⟨root, present, not_not.1 domain⟩, not_not.1 busNr⟩
    rw [twp_pure, twp_bind, twp_get, twp_bind, twp_failIf]
    refine ⟨fun alone => ⟨rfl, fun can => ?_⟩, fun next => ?_⟩
    · exact findFakeDevice_eq_none.1 alone.2 (can.2.1 alone.1)
    rw [twp_bind, twp_failIf]
    refine ⟨fun there => ⟨rfl, fun can => ?_⟩, fun new => ?_⟩
    · rw [findFakeDevice_eq_none.2 can.2.2.1] at there
      cases there
    rw [twp_bind, twp_failIf]
    refine ⟨fun fails => ⟨rfl, fun can => ?_⟩, fun works => ?_⟩
    · exact absurd (can.2.2.2.symm.trans fails) (by decide)
    rw [twp_bind, twp_set]
    refine ⟨⟨on, fun other => ?_, ?_, by simpa using works⟩, rfl⟩
    · by_contra missing
      exact next ⟨other, findFakeDevice_eq_none.2 missing⟩
    · exact findFakeDevice_eq_none.1 (by simpa using new)

theorem exec_createFakePciDevice (can : CanCreate s addr fault)
    (probed : List (Ptr × UInt8 × UInt8)) :
    ∃ t, (createFakePciDevice addr fault probed).exec s = some (.ok (), t) ∧ SameBus s t := by
  have effect : twp (createFakePciDevice addr fault probed) _ _ s := twp_createFakePciDevice
  obtain ⟨result, t, run⟩ := (completes_of_twp effect).exists
  cases result with
  | error e => exact absurd can (exec_error_of_wp (wp_of_twp effect) run).2
  | ok _ => exact ⟨t, run, (exec_ok_of_wp (wp_of_twp effect) run).2⟩

/-- Finding a fake device never goes wrong, and does not fail once there is a root bus. -/
theorem twp_findFakePciDeviceByAddr {Q : Option Ptr → FakePci → Prop}
    {E : Failure → FakePci → Prop} (root : s.rootBus ≠ none) (rest : ∀ found, Q found s) :
    twp (findFakePciDeviceByAddr addr) Q E s := by
  obtain ⟨bus, present⟩ := Option.ne_none_iff_exists'.1 root
  unfold findFakePciDeviceByAddr derefRootBus
  rw [twp_bind, twp_bind, twp_get, present]
  dsimp only
  rw [twp_pure, twp_bind, twp_get]
  split
  · exact rest _
  split
  · exact rest _
  · exact rest _

theorem twp_idaAlloc {Q : Unit → BusWorld → Prop} {id : UInt32} :
    twp (idaAlloc id fault) Q E w ↔
      (fault = true → E (.errno .ENOMEM) w) ∧ (fault = false →
        (id ∈ w.nsimBusDevIds → E (.errno .ENOSPC) w) ∧
        (id ∉ w.nsimBusDevIds → Q () { w with nsimBusDevIds := insert id w.nsimBusDevIds })) := by
  unfold idaAlloc
  rw [twp_bind, twp_get, twp_bind, twp_failIf, twp_bind, twp_failIf]
  simp

theorem not_twp_derefBusDev {Q : NsimBusDev → BusWorld → Prop} (missing : w.busDev p = none) :
    ¬twp (derefBusDev p) Q E w := by
  unfold derefBusDev
  rw [twp_bind, twp_get, missing]
  exact id

end Rules

/-! ## Until the fake device is there -/

section New

variable {w : BusWorld} {line : NewDeviceLine} {faults : NewDeviceFaults}

/-- Nothing else can fail once the fake device is created. -/
theorem twp_nsimBusDevNew
    (goes : ∀ addr, faults.busDev = false → parsePciAddress line.busStr = .ok addr →
      CanCreate w.pci addr faults.fakeDevice →
        line.id ∉ w.nsimBusDevIds ∧ faults.ida = false ∧ faults.deviceRegister = none) :
    twp (nsimBusDevNew line faults) (fun p t => ∃ dev, t.busDev p = some dev)
      (fun _ t => SameResources w t) w := by
  have same : SameResources w w := ⟨rfl, rfl, rfl, rfl⟩
  unfold nsimBusDevNew kzallocBusDev
  rw [twp_bind, twp_bind, twp_failIf]
  refine ⟨fun _ => same, fun allocated => ?_⟩
  rw [twp_bind, twp_get, twp_bind, twp_set, twp_pure, twp_bind, twp_onErrno]
  cases parsed : parsePciAddress line.busStr with
  | error e => exact ⟨rfl, rfl, rfl, rfl⟩
  | ok addr =>
    rw [twp_pure, twp_bind, setBusDev, twp_modify, twp_bind, twp_onErrno, twp_onPci]
    refine twp_mono twp_createFakePciDevice ?_ ?_
    · rintro _ pci ⟨can, bus⟩
      obtain ⟨free, ida, registered⟩ := goes addr (by simpa using allocated) parsed can
      rw [twp_bind, twp_onErrno, twp_idaAlloc]
      refine ⟨fun fails => absurd (ida.symm.trans fails) (by decide), fun _ =>
        ⟨fun used => absurd used free, fun _ => ?_⟩⟩
      rw [twp_bind, setBusDev, twp_modify, twp_bind, twp_onErrno, registered, deviceRegister,
        nsimBusProbe, twp_bind]
      refine twp_derefBusDev (Function.update_self ..) ?_
      rw [twp_bind, twp_onPci]
      refine twp_findFakePciDeviceByAddr ?_ fun _ => ?_
      · obtain ⟨root, present, -⟩ := can.1.1
        show pci.rootBus ≠ none
        rw [bus]
        exact Option.ne_none_iff_exists'.2 ⟨root, present⟩
      · exact ⟨_, Function.update_self ..⟩
    · rintro e pci ⟨rfl, -⟩
      cases e with
      | oops pointer => exact ⟨rfl, rfl, rfl, rfl⟩
      | errno e => exact ⟨rfl, rfl, rfl, rfl⟩

/-- Something else fails once the fake device is created. -/
theorem not_completes_nsimBusDevNew {addr : PciAddr} (busDev : faults.busDev = false)
    (parsed : parsePciAddress line.busStr = .ok addr)
    (can : CanCreate w.pci addr faults.fakeDevice)
    (fails : ¬(line.id ∉ w.nsimBusDevIds ∧ faults.ida = false ∧ faults.deviceRegister = none))
    {Q : Ptr → BusWorld → Prop} {E : Failure → BusWorld → Prop} :
    ¬twp (nsimBusDevNew line faults) Q E w := by
  intro run
  obtain ⟨pci, created, -⟩ := exec_createFakePciDevice can faults.probed
  unfold nsimBusDevNew kzallocBusDev at run
  rw [twp_bind, twp_bind, busDev, failIf, if_neg Bool.false_ne_true, twp_pure, twp_bind, twp_get,
    twp_bind, twp_set, twp_pure, parsed, twp_bind, twp_onErrno, twp_pure, twp_bind, setBusDev,
    twp_modify, twp_bind, twp_onErrno, twp_onPci, twp_of_exec created, twp_bind, twp_onErrno,
    twp_idaAlloc] at run
  cases ida : faults.ida with
  | true =>
    have cleanup := run.1 ida
    dsimp only at cleanup
    rw [twp_bind, kfreeBusDev, twp_modify, twp_bind] at cleanup
    exact not_twp_derefBusDev (Function.update_self ..) cleanup
  | false =>
    by_cases used : line.id ∈ w.nsimBusDevIds
    · have cleanup := (run.2 ida).1 used
      dsimp only at cleanup
      rw [twp_bind, kfreeBusDev, twp_modify, twp_bind] at cleanup
      exact not_twp_derefBusDev (Function.update_self ..) cleanup
    · have registers := (run.2 ida).2 used
      cases outcome : faults.deviceRegister with
      | none => exact fails ⟨used, ida, outcome⟩
      | some e =>
        rw [outcome, twp_bind, setBusDev, twp_modify, twp_bind, twp_onErrno, deviceRegister,
          twp_throw] at registers
        dsimp only at registers
        rw [twp_bind] at registers
        unfold derefBusDev at registers
        rw [twp_bind, twp_get] at registers
        dsimp only at registers
        rw [Function.update_self] at registers
        exact registers

end New

/-! ## `new_device` -/

/-- A write to `new_device` is atomic exactly if nothing fails once the fake device is created. -/
theorem new_device_atomic (buf : Bytes) (faults : NewDeviceFaults) (w : BusWorld) :
    NewDeviceAtomic buf faults w ↔ GoesThrough buf faults w := by
  have same : SameResources w w := ⟨rfl, rfl, rfl, rfl⟩
  constructor
  · rintro ⟨completes, -⟩ line addr gets
    by_contra fails
    unfold Completes newDeviceStore at completes
    rw [gets.values] at completes
    dsimp only at completes
    rw [twp_bind, twp_failIf] at completes
    have large := completes.2 (by rw [gets.busStr]; decide)
    rw [twp_bind, twp_failIf] at large
    have enabled := large.2 (Nat.not_lt.2 gets.small)
    rw [twp_bind, twp_get, twp_bind, twp_failIf] at enabled
    have new := enabled.2 (not_not.2 gets.enabled)
    rw [twp_bind] at new
    exact not_completes_nsimBusDevNew gets.busDev gets.parsed gets.create fails new
  · intro goes
    have effect : twp (newDeviceStore buf faults) (fun _ _ => True)
        (fun _ t => SameResources w t) w := by
      unfold newDeviceStore
      cases values : newDeviceValues buf with
      | none => exact same
      | some line =>
        dsimp only
        rw [twp_bind, twp_failIf]
        refine ⟨fun _ => same, fun busStr => ?_⟩
        rw [twp_bind, twp_failIf]
        refine ⟨fun _ => same, fun small => ?_⟩
        rw [twp_bind, twp_get, twp_bind, twp_failIf]
        refine ⟨fun _ => same, fun enabled => ?_⟩
        rw [twp_bind]
        refine twp_mono (twp_nsimBusDevNew fun addr busDev parsed create => ?_) ?_ fun _ _ => id
        · exact goes line addr ⟨values, by simpa using busStr, Nat.not_lt.1 small,
            not_not.1 enabled, busDev, parsed, create⟩
        · rintro p t ⟨dev, present⟩
          rw [twp_bind, twp_modify, twp_bind]
          refine twp_derefBusDev present ?_
          exact trivial
    exact ⟨completes_of_twp (twp_mono effect (fun _ _ _ => trivial) fun _ _ _ => trivial),
      fun e t run => exec_error_of_wp (E := fun _ t => SameResources w t) (wp_of_twp effect) run⟩

/-- The bus with its fake root bus and no device. -/
def BusWorld.started : BusWorld := ⟨.started, fun _ => none, 0, ∅, [], true, 1⟩

/-- Everything succeeds. -/
def NewDeviceFaults.none : NewDeviceFaults := ⟨false, false, false, [], false, .none, .none⟩

/-- A second device is created with the id of the first. -/
theorem new_device_used_id : ¬∀ buf faults w, NewDeviceAtomic buf faults w := by
  intro always
  obtain ⟨completes, -⟩ := always (ascii "1 0000:20:02.0") .none
    (((newDeviceStore (ascii "1 0000:20:01.0") .none).exec .started).elim .started Prod.snd)
  obtain ⟨result, t, run⟩ := completes.exists
  have stops : ((newDeviceStore (ascii "1 0000:20:02.0") .none).exec
    (((newDeviceStore (ascii "1 0000:20:01.0") .none).exec .started).elim .started
      Prod.snd)).isNone = true := by decide
  rw [run] at stops
  cases stops

end Netdevsim.Bus
