import Netdevsim.Dpll.PinLedger
import Netdevsim.Lib.RefTable

/-!
# Getting and putting

Devices and pins are two reference-counted tables, whatever is got and put, and wherever their
running ids stand: for devices always, for pins until an id is given out right after the running id
started over.  Then `dpll_pin_get` returns `ERR_PTR(1)`, and the freed pin stays in the array.
-/

namespace Netdevsim

open Program RefTable

/-! ## The tables -/

def KernelState.devices (s : KernelState) : RefTable DpllKey := fun dpll =>
  (s.device dpll).map fun d => ⟨d.id, d.key, d.refcount⟩

def KernelState.pins (s : KernelState) : RefTable DpllPinKey := fun pin =>
  (s.pin pin).map fun p => ⟨p.id, p.key, p.refcount⟩

/-- Both tables are sound, and no object is where none was allocated. -/
structure TablesSound (s : KernelState) : Prop where
  devices : s.devices.Sound s.deviceXa
  pins : s.pins.Sound s.pinXa
  freshDevice : ∀ p, s.nextPtr ≤ p → s.devices p = none
  freshPin : ∀ p, s.nextPtr ≤ p → s.pins p = none

/-! ## Calls -/

def DpllCall.IsGetPut : DpllCall → Prop
  | .deviceGet .. | .devicePut .. | .pinGet .. | .pinPut .. => True
  | _ => False

/-- All runs of gets and puts. -/
def getPutSystem : TransitionSystem KernelState (DpllCall × List (Option Errno)) :=
  registrySystem.guard fun _ a => a.1.IsGetPut

/-- An id given out for a pin is not the first one after the running id started over. -/
def pinIdLasts (s : KernelState) (a : DpllCall × List (Option Errno)) : Bool :=
  match a.1 with
  | .pinGet clockId pinIdx module _ => s.pinIdsLast [⟨clockId, pinIdx, module⟩]
  | _ => true

/-- A get of a device takes a reference to the one with the key, or fails and changes no table. -/
def GetsDevices (s : KernelState) : Prop :=
  ∀ (key : DpllKey) (faults : List (Option Errno)),
    twp (dpllDeviceGet key.clockId key.deviceIdx key.module)
      (fun dpll t => Got s.devices t.devices key dpll ∧ t.pins = s.pins ∧ TablesSound t)
      (fun _ t => t.devices = s.devices ∧ t.pins = s.pins ∧ TablesSound t) { s with faults }

/-- A get of a pin takes a reference to the one with the key, or fails and changes no table. -/
def GetsPin (s : KernelState) (key : DpllPinKey) : Prop :=
  ∀ (prop : DpllPinProperties) (faults : List (Option Errno)),
    twp (dpllPinGet key.clockId key.pinIdx key.module prop)
      (fun pin t => Got s.pins t.pins key pin ∧ t.devices = s.devices ∧ TablesSound t)
      (fun _ t => t.devices = s.devices ∧ t.pins = s.pins ∧ TablesSound t) { s with faults }

/-- A put of a device there is drops a reference. -/
def PutsDevices (s : KernelState) : Prop :=
  ∀ dpll o faults, s.devices dpll = some o →
    twp (dpllDevicePut dpll)
      (fun _ t => Dropped s.devices t.devices dpll ∧ t.pins = s.pins ∧ TablesSound t)
      (fun _ _ => False) { s with faults }

def PutsPins (s : KernelState) : Prop :=
  ∀ pin o faults, s.pins pin = some o →
    twp (dpllPinPut pin)
      (fun _ t => Dropped s.pins t.pins pin ∧ t.devices = s.devices ∧ TablesSound t)
      (fun _ _ => False) { s with faults }

section Calls

variable {s t : KernelState} {dpll pin : Ptr} {d : DpllDevice} {p : DpllPin}

theorem devices_update {o : Option DpllDevice} (device : t.device = Function.update s.device dpll o) :
    t.devices = Function.update s.devices dpll (o.map fun d => ⟨d.id, d.key, d.refcount⟩) := by
  unfold KernelState.devices
  rw [device]
  exact Function.comp_update (Option.map fun d : DpllDevice => Referenced.mk d.id d.key d.refcount)
    s.device dpll o

theorem pins_update {o : Option DpllPin} (changed : t.pin = Function.update s.pin pin o) :
    t.pins = Function.update s.pins pin (o.map fun p => ⟨p.id, p.key, p.refcount⟩) := by
  unfold KernelState.pins
  rw [changed]
  exact Function.comp_update (Option.map fun p : DpllPin => Referenced.mk p.id p.key p.refcount)
    s.pin pin o

theorem devices_of_live (live : s.device dpll = some d) :
    s.devices dpll = some ⟨d.id, d.key, d.refcount⟩ := by
  rw [KernelState.devices, live, Option.map_some]

theorem pins_of_live (live : s.pin pin = some p) :
    s.pins pin = some ⟨p.id, p.key, p.refcount⟩ := by
  rw [KernelState.pins, live, Option.map_some]

namespace TablesSound

theorem liveDevice (sound : TablesSound s) (mem : dpll ∈ s.deviceXa.values) :
    ∃ d, s.device dpll = some d := by
  obtain ⟨o, live⟩ := sound.devices.live_of_mem mem
  obtain ⟨d, live, -⟩ := Option.map_eq_some_iff.1 live
  exact ⟨d, live⟩

theorem livePin (sound : TablesSound s) (mem : pin ∈ s.pinXa.values) :
    ∃ p, s.pin pin = some p := by
  obtain ⟨o, live⟩ := sound.pins.live_of_mem mem
  obtain ⟨p, live, -⟩ := Option.map_eq_some_iff.1 live
  exact ⟨p, live⟩

/-- The tables change at one address that may have been handed out. -/
theorem changeDevices (sound : TablesSound s) {o : Option (Referenced DpllKey)}
    (devices : t.devices = Function.update s.devices dpll o)
    (kept : Sound (Function.update s.devices dpll o) t.deviceXa) (pins : t.pins = s.pins)
    (pinXa : t.pinXa = s.pinXa) (next : s.nextPtr ≤ t.nextPtr) (below : dpll < t.nextPtr) :
    TablesSound t := by
  refine ⟨devices ▸ kept, ?_, fun q fresh => ?_, fun q fresh => ?_⟩
  · rw [pins, pinXa]
    exact sound.pins
  · rw [devices, Function.update_of_ne (below.trans_le fresh).ne']
    exact sound.freshDevice q (next.trans fresh)
  · rw [pins]
    exact sound.freshPin q (next.trans fresh)

theorem changePins (sound : TablesSound s) {o : Option (Referenced DpllPinKey)}
    (pins : t.pins = Function.update s.pins pin o)
    (kept : Sound (Function.update s.pins pin o) t.pinXa) (devices : t.devices = s.devices)
    (deviceXa : t.deviceXa = s.deviceXa) (next : s.nextPtr ≤ t.nextPtr) (below : pin < t.nextPtr) :
    TablesSound t := by
  refine ⟨?_, pins ▸ kept, fun q fresh => ?_, fun q fresh => ?_⟩
  · rw [devices, deviceXa]
    exact sound.devices
  · rw [devices]
    exact sound.freshDevice q (next.trans fresh)
  · rw [pins, Function.update_of_ne (below.trans_le fresh).ne']
    exact sound.freshPin q (next.trans fresh)

theorem of_eq (sound : TablesSound s) (device : t.device = s.device)
    (deviceXa : t.deviceXa = s.deviceXa) (pin : t.pin = s.pin) (pinXa : t.pinXa = s.pinXa)
    (next : s.nextPtr ≤ t.nextPtr) : TablesSound t := by
  have devices : t.devices = s.devices := by
    unfold KernelState.devices
    rw [device]
  have pins : t.pins = s.pins := by
    unfold KernelState.pins
    rw [pin]
  refine ⟨?_, ?_, fun q fresh => ?_, fun q fresh => ?_⟩
  · rw [devices, deviceXa]
    exact sound.devices
  · rw [pins, pinXa]
    exact sound.pins
  · rw [devices]
    exact sound.freshDevice q (next.trans fresh)
  · rw [pins]
    exact sound.freshPin q (next.trans fresh)

theorem below_device (sound : TablesSound s) {o : Referenced DpllKey} (live : s.devices dpll = some o) :
    dpll < s.nextPtr := by
  by_contra fresh
  rw [sound.freshDevice dpll (not_lt.1 fresh)] at live
  cases live

theorem below_pin (sound : TablesSound s) {o : Referenced DpllPinKey} (live : s.pins pin = some o) :
    pin < s.nextPtr := by
  by_contra fresh
  rw [sound.freshPin pin (not_lt.1 fresh)] at live
  cases live

theorem getsDevices (sound : TablesSound s) : GetsDevices s := by
  intro key faults
  have start : TablesSound { s with faults } := sound.of_eq rfl rfl rfl rfl le_rfl
  refine (completes_dpllDeviceGet key fun _ => start.liveDevice).twp ?_
  refine wp_dpllDeviceGet_of (fun dpll _ d live own => ?_) fun others => ?_
  · obtain rfl : d.key = key := own
    have here := devices_of_live (s := s) live
    have changed := @devices_update s { s with
      faults, device := Function.update s.device dpll
        (some { d with refcount := d.refcount + 1 }) } dpll _ rfl
    refine ⟨?_, rfl, ?_⟩
    · rw [changed]
      exact got_old sound.devices here
    · exact sound.changeDevices changed (sound.devices.recount here (Nat.succ_pos _)) rfl rfl le_rfl
        (sound.below_device here)
  · have unused := sound.freshDevice s.nextPtr le_rfl
    have new : ∀ q o, s.devices q = some o → o.key ≠ key := by
      intro q o live
      obtain ⟨d, live', rfl⟩ := Option.map_eq_some_iff.1 live
      exact others q (sound.devices.mem_of_live live) d live'
    refine wp_dpllDeviceAlloc_of (fun id deviceXaId faults free _ => ?_) fun e size faults =>
      ⟨rfl, rfl, sound.of_eq rfl rfl rfl rfl (Nat.le_add_right _ _)⟩
    have changed := @devices_update s { s with
      faults, deviceXaId, deviceXa := s.deviceXa.store id s.nextPtr, nextPtr := s.nextPtr + 1
      device := Function.update s.device s.nextPtr (some
        ⟨id, key.deviceIdx, key.clockId, key.module, 0, .empty, 1, []⟩) } s.nextPtr _ rfl
    refine ⟨?_, rfl, ?_⟩
    · rw [changed]
      exact got_new unused new
    · exact sound.changeDevices changed (sound.devices.create unused new free) rfl rfl
        (Nat.le_succ _) (Nat.lt_succ_self _)

theorem putsDevices (sound : TablesSound s) : PutsDevices s := by
  intro dpll o faults here
  obtain ⟨d, live, rfl⟩ := Option.map_eq_some_iff.1 here
  refine Completes.twp (completes_dpllDevicePut (by exact live)) ?_
  have after := sound.devices.drop here
  unfold dpllDevicePut
  rw [wp_bind, wp_derefDevice]
  intro d' live'
  rw [live] at live'
  cases live'
  split
  · rename_i last
    rw [if_pos last, if_pos last] at after
    have changed := @devices_update s { s with
      faults, deviceXa := s.deviceXa.erase d.id
      device := Function.update s.device dpll none } dpll _ rfl
    refine ⟨?_, rfl, sound.changeDevices changed after rfl rfl le_rfl (sound.below_device here)⟩
    rw [changed]
    have gone := dropped here
    rwa [if_pos last] at gone
  · rename_i more
    rw [if_neg more, if_neg more] at after
    have changed := @devices_update s { s with
      faults, device := Function.update s.device dpll
        (some { d with refcount := d.refcount - 1 }) } dpll _ rfl
    refine ⟨?_, rfl, sound.changeDevices changed after rfl rfl le_rfl (sound.below_device here)⟩
    rw [changed]
    have less := dropped here
    rwa [if_neg more] at less

theorem getsPin (sound : TablesSound s) {key : DpllPinKey} (lasts : s.pinIdsLast [key]) :
    GetsPin s key := by
  intro prop faults
  have start : TablesSound { s with faults } := sound.of_eq rfl rfl rfl rfl le_rfl
  refine (completes_dpllPinGet fun _ => start.livePin).twp ?_
  refine wp_dpllPinGet_of (fun pin _ p live clockId pinIdx module => ?_) fun others => ?_
  · obtain rfl : p.key = key := by rw [DpllPin.key, clockId, pinIdx, module]
    have here := pins_of_live (s := s) live
    have changed := @pins_update s { s with
      faults, pin := Function.update s.pin pin
        (some { p with refcount := p.refcount + 1 }) } pin _ rfl
    refine ⟨?_, rfl, ?_⟩
    · rw [changed]
      exact got_old sound.pins here
    · exact sound.changePins changed (sound.pins.recount here (Nat.succ_pos _)) rfl rfl le_rfl
        (sound.below_pin here)
  · have absent : s.hasPin key = false := by
      rw [Bool.eq_false_iff, Ne, hasPin_eq_true_iff]
      rintro ⟨q, mem, p, live, rfl⟩
      exact others q mem p live ⟨rfl, rfl, rfl⟩
    unfold KernelState.pinIdsLast at lasts
    rw [newPins, if_neg (Bool.not_eq_true _ ▸ absent)] at lasts
    refine wp_dpllPinAlloc_of (fun id pinXa pinXaId faults alloc => ?_)
      (fun id pinXa pinXaId faults alloc => ?_) fun e size faults =>
        ⟨rfl, rfl, sound.of_eq rfl rfl rfl rfl (Nat.le_add_right _ _)⟩
    · obtain ⟨free, rfl⟩ := XArray.allocCyclic_eq_some alloc
      have unused := sound.freshPin s.nextPtr le_rfl
      have new : ∀ q o, s.pins q = some o → o.key ≠ key := by
        intro q o live
        obtain ⟨p, live', rfl⟩ := Option.map_eq_some_iff.1 live
        rintro rfl
        exact others q (sound.pins.mem_of_live live) p live' ⟨rfl, rfl, rfl⟩
      have changed := @pins_update s { s with
        faults, pinXaId, pinXa := s.pinXa.store id s.nextPtr, nextPtr := s.nextPtr + 1
        pin := Function.update s.pin s.nextPtr (some
          ⟨id, key.pinIdx, key.clockId, key.module, .empty, .empty, prop, 1⟩) } s.nextPtr _ rfl
      refine ⟨?_, rfl, ?_⟩
      · rw [changed]
        exact got_new unused new
      · exact sound.changePins changed (sound.pins.create unused new free) rfl rfl
          (Nat.le_succ _) (Nat.lt_succ_self _)
    · cases (XArray.lasts_of_alloc lasts alloc).1

theorem putsPins (sound : TablesSound s) : PutsPins s := by
  intro pin o faults here
  obtain ⟨p, live, rfl⟩ := Option.map_eq_some_iff.1 here
  refine Completes.twp (completes_dpllPinPut (by exact live)) ?_
  have after := sound.pins.drop here
  unfold dpllPinPut
  rw [wp_bind, wp_derefPin]
  intro p' live'
  rw [live] at live'
  cases live'
  split
  · rename_i last
    rw [if_pos last, if_pos last] at after
    have changed := @pins_update s { s with
      faults, pinXa := s.pinXa.erase p.id, pin := Function.update s.pin pin none } pin _ rfl
    refine ⟨?_, rfl, sound.changePins changed after rfl rfl le_rfl (sound.below_pin here)⟩
    rw [changed]
    have gone := dropped here
    rwa [if_pos last] at gone
  · rename_i more
    rw [if_neg more, if_neg more] at after
    have changed := @pins_update s { s with
      faults, pin := Function.update s.pin pin
        (some { p with refcount := p.refcount - 1 }) } pin _ rfl
    refine ⟨?_, rfl, sound.changePins changed after rfl rfl le_rfl (sound.below_pin here)⟩
    rw [changed]
    have less := dropped here
    rwa [if_neg more] at less

end TablesSound

/-- A get or a put keeps the tables sound. -/
theorem tablesSound_program (sound : TablesSound s) {a : DpllCall × List (Option Errno)}
    (getPut : a.1.IsGetPut) (lasts : pinIdLasts s a) :
    wp a.1.program (fun _ => TablesSound) (fun _ => TablesSound) { s with faults := a.2 } := by
  obtain ⟨call, faults⟩ := a
  cases call with
  | deviceGet clockId deviceIdx module =>
    refine wp_bind.2 (wp_mono (wp_of_twp (sound.getsDevices ⟨clockId, deviceIdx, module⟩ faults))
      ?_ ?_)
    · exact fun _ _ both => both.2.2
    · exact fun _ _ both => both.2.2
  | devicePut dpll =>
    cases here : s.device dpll with
    | none =>
      refine wp_bind.2 (wp_derefDevice.2 fun d live => ?_)
      exact nomatch here.symm.trans live
    | some d =>
      refine wp_mono (wp_of_twp (sound.putsDevices dpll _ faults (devices_of_live here))) ?_ ?_
      · exact fun _ _ both => both.2.2
      · exact fun _ _ => False.elim
  | pinGet clockId pinIdx module prop =>
    refine wp_bind.2 (wp_mono (wp_of_twp (sound.getsPin lasts prop faults)) ?_ ?_)
    · exact fun _ _ both => both.2.2
    · exact fun _ _ both => both.2.2
  | pinPut pin =>
    cases here : s.pin pin with
    | none =>
      refine wp_bind.2 (wp_derefPin.2 fun p live => ?_)
      exact nomatch here.symm.trans live
    | some p =>
      refine wp_mono (wp_of_twp (sound.putsPins pin _ faults (pins_of_live here))) ?_ ?_
      · exact fun _ _ both => both.2.2
      · exact fun _ _ => False.elim
  | _ => exact getPut.elim

end Calls

/-! ## Runs -/

theorem tablesSound_reachable {s : KernelState}
    (reachable : (getPutSystem.guard fun s a => pinIdLasts s a).Reachable s) : TablesSound s := by
  refine reachable.induct (fun s init => ?_) fun s a t _ sound step => ?_
  · obtain ⟨device, deviceXa, pin, pinXa⟩ := init
    have devices : s.devices = fun _ => none := by
      unfold KernelState.devices
      rw [device]
      rfl
    have pins : s.pins = fun _ => none := by
      unfold KernelState.pins
      rw [pin]
      rfl
    refine ⟨?_, ?_, fun p _ => congrFun devices p, fun p _ => congrFun pins p⟩
    · rw [devices, deviceXa]
      exact sound_empty
    · rw [pins, pinXa]
      exact sound_empty
  · obtain ⟨⟨⟨result, run⟩, getPut⟩, lasts⟩ := step
    exact holds_of_wp (tablesSound_program sound getPut lasts) run

/-- In runs of gets and puts in which no id of a pin is the first one after the running id started
over, devices and pins are reference-counted tables: nothing goes wrong, a get leads to the object
with the key, a put drops a reference, and what fails leaves the tables as they were. -/
theorem dpll_gets_and_puts (s : KernelState)
    (reachable : (getPutSystem.guard fun s a => pinIdLasts s a).Reachable s) :
    TablesSound s ∧ GetsDevices s ∧ PutsDevices s ∧ PutsPins s ∧
      ∀ key, s.pinIdsLast [key] → GetsPin s key :=
  have sound := tablesSound_reachable reachable
  ⟨sound, sound.getsDevices, sound.putsDevices, sound.putsPins, fun _ => sound.getsPin⟩

/-- A get or a put for which the ids last, and what it leads to. -/
def afterGetPut (s : KernelState) (a : DpllCall × List (Option Errno)) : Option KernelState :=
  if pinIdLasts s a then afterCall s a else none

/-- A device is got twice and put once, and a pin is got. -/
def getsAndAPut : List (DpllCall × List (Option Errno)) :=
  [(.deviceGet 0 0 1, []), (.deviceGet 0 0 1, []), (.devicePut 16, []), (.pinGet 0 0 1 plainPin, [])]

/-- After two gets and a put there is one reference to the device, and the pin can be got again. -/
theorem dpll_gets_and_puts_run :
    ∃ s, s.devices 16 = some ⟨0, ⟨0, 0, 1⟩, 1⟩ ∧ TablesSound s ∧ GetsPin s ⟨0, 0, 1⟩ := by
  have start : (getPutSystem.guard fun s a => pinIdLasts s a).Reachable .loaded :=
    .init ⟨rfl, rfl, rfl, rfl⟩
  have sound : ∀ a ∈ getsAndAPut, ∀ s t, afterGetPut s a = some t →
      (getPutSystem.guard fun s a => pinIdLasts s a).step s a t := by
    intro a mem s t next
    unfold afterGetPut at next
    split at next
    · rename_i lasts
      refine ⟨⟨step_of_afterCall next, ?_⟩, lasts⟩
      fin_cases mem <;> trivial
    · cases next
  obtain ⟨s, reachable, test⟩ := start.exists_of_follow getsAndAPut
    (fun s => s.devices 16 = some ⟨0, ⟨0, 0, 1⟩, 1⟩ ∧ s.pinIdsLast [⟨0, 0, 1⟩]) sound
    (by decide +kernel)
  obtain ⟨one, lasts⟩ := of_decide_eq_true test
  have all := dpll_gets_and_puts s reachable
  exact ⟨s, one, all.1, all.2.2.2.2 _ lasts⟩

/-- Right after the running id of pins started over, a get of a pin does not lead to a pin. -/
theorem dpllPinGet_pinIdsOver : ¬∀ s, getPutSystem.Reachable s → ∀ key, GetsPin s key := by
  intro always
  have start : getPutSystem.Reachable pinIdsOver := .init ⟨rfl, rfl, rfl, rfl⟩
  have got := always pinIdsOver start ⟨0, 0, 1⟩ plainPin []
  have stray : ((dpllPinGet 0 0 1 plainPin).exec { pinIdsOver with faults := [] }).any
      fun after => match after.1 with
        | .ok pin => (after.2.pins pin).isNone
        | .error _ => false := by
    decide +kernel
  obtain ⟨⟨result, t⟩, run, nowhere⟩ := (Option.any_eq_true _ _).1 stray
  cases result with
  | error e => cases nowhere
  | ok pin =>
    obtain ⟨o, live, -⟩ := (exec_ok_of_wp (wp_of_twp got) run).1.live
    have none : (t.pins pin).isNone := nowhere
    rw [live] at none
    cases none

end Netdevsim
