import Netdevsim.Dev.Agree
import Netdevsim.Dpll.Wpc

/-!
# What the registry shows

The view of the core leaves out addresses and running ids: for each key it lists the devices or pins
with this key, their references, registrations and marks.  A core that holds the items of some DPLLs
shows exactly what these contributed.
-/

namespace Netdevsim

open Program Ledger

/-! ## Views -/

structure DeviceView where
  refcount : ℕ
  registrationList : List DpllDeviceRegistration
  /-- Marked `DPLL_REGISTERED`. -/
  registered : Bool
  pinRefs : DpllPinKey → List Registrations

structure PinView where
  refcount : ℕ
  /-- Marked `DPLL_REGISTERED`. -/
  registered : Bool
  dpllRefs : DpllKey → List Registrations

structure RegistryView where
  devices : DpllKey → List DeviceView
  pins : DpllPinKey → List PinView
  /-- The ids at which the arrays have no object. -/
  stray : List ℕ × List ℕ

def RegistryView.empty : RegistryView := ⟨fun _ => [], fun _ => [], ([], [])⟩

/-- What an array says of the targets with a key. -/
def refsAt {κ : Type} [DecidableEq κ] (keyOf : Ptr → Option κ) (xa : XArray DpllPinRef) (key : κ) :
    List Registrations :=
  xa.entries.filterMap fun e =>
    if keyOf e.value.target = some key then some e.value.registrations else none

def KernelState.deviceKeyAt (s : KernelState) (dpll : Ptr) : Option DpllKey :=
  (s.device dpll).map DpllDevice.key

def KernelState.pinKeyAt (s : KernelState) (pin : Ptr) : Option DpllPinKey :=
  (s.pin pin).map DpllPin.key

/-- What an entry of the devices shows under a key. -/
def KernelState.deviceView (s : KernelState) (key : DpllKey) (e : XEntry Ptr) : Option DeviceView :=
  (s.device e.value).bind fun d =>
    if d.key = key then
      some ⟨d.refcount, d.registrationList, e.mark, refsAt s.pinKeyAt d.pinRefs⟩
    else none

/-- What an entry of the pins shows under a key. -/
def KernelState.pinView (s : KernelState) (key : DpllPinKey) (e : XEntry Ptr) : Option PinView :=
  (s.pin e.value).bind fun p =>
    if p.key = key then some ⟨p.refcount, e.mark, refsAt s.deviceKeyAt p.dpllRefs⟩ else none

/-- The view of the core. -/
def KernelState.view (s : KernelState) : RegistryView where
  devices key := s.deviceXa.entries.filterMap (s.deviceView key)
  pins key := s.pinXa.entries.filterMap (s.pinView key)
  stray :=
    ((s.deviceXa.entries.filter fun e => (s.device e.value).isNone).map XEntry.index,
      (s.pinXa.entries.filter fun e => (s.pin e.value).isNone).map XEntry.index)

/-- What a DPLL registers of which pin. -/
def NsimDpllDev.registrations (d : NsimDpllDev) : List (DpllPinKey × DpllPinRegistration) :=
  d.items.map fun item => (item.1.1, item.2)

/-- The registrations of a pin by some DPLLs. -/
def registeredBy (dplls : List NsimDpllDev) (key : DpllPinKey) : List DpllPinRegistration :=
  entriesAt (dplls.flatMap NsimDpllDev.registrations) key

/-- What the core shows of some DPLLs: each has a reference to the PPS and the EEC device and
registered both, and has a reference to each of its pins and registered them on the PPS device. -/
def contributed (dplls : List NsimDpllDev) : RegistryView where
  devices key :=
    if dplls = [] then []
    else if key = ppsKey then
      [⟨dplls.length, dplls.map fun d => nsimReg d.addr, true,
        fun pinKey => (Registrations.of (registeredBy dplls pinKey)).toList⟩]
    else if key = eecKey then
      [⟨dplls.length, dplls.map fun d => nsimReg d.addr, true, fun _ => []⟩]
    else []
  pins key :=
    if registeredBy dplls key = [] then []
    else
      [⟨(registeredBy dplls key).length, true, fun dpllKey =>
        if dpllKey = ppsKey then (Registrations.of (registeredBy dplls key)).toList else []⟩]
  stray := ([], [])

theorem contributed_nil : contributed [] = RegistryView.empty := rfl

/-! ## References -/

section RefsAt

variable {κ : Type} [DecidableEq κ] {keyOf : Ptr → Option κ} {index : Ptr → Option ℕ}
  {xa : XArray DpllPinRef} {key : κ} {target : Ptr}

theorem refsAt_eq_nil (keyed : Keyed index xa)
    (none : ∀ q, keyOf q = some key → contents xa q = none) : refsAt keyOf xa key = [] := by
  refine List.filterMap_eq_nil_iff.2 fun e mem => if_neg fun own => ?_
  have here := keyed.contents_of_mem mem
  rw [none _ own] at here
  cases here

/-- What is said of the only target with the key. -/
theorem refsAt_eq (keyed : Keyed index xa) (own : keyOf target = some key)
    (unique : ∀ q, keyOf q = some key → contents xa q ≠ none → q = target) :
    refsAt keyOf xa key = (contents xa target).toList := by
  cases here : contents xa target with
  | none =>
    refine refsAt_eq_nil keyed fun q at' => ?_
    by_contra some
    rw [unique q at' some] at some
    exact some here
  | some r =>
    obtain ⟨e, mem, value⟩ := keyed.contents_eq_some_iff.1 here
    refine (XArray.filterMap_entries mem fun e' mem' read => ?_).trans ?_
    · have at' : keyOf e'.value.target = some key := by
        by_contra other
        exact read (if_neg other)
      have same := unique _ at' (by rw [keyed.contents_of_mem mem']; exact Option.some_ne_none _)
      exact keyed.ext mem' mem (by rw [same, value])
    · rw [if_pos (by rw [value]; exact own), value]
      rfl

end RefsAt

/-! ## What a core shows that holds the items of some DPLLs -/

/-- The core holds what the DPLLs contributed and nothing else. -/
structure HoldsDplls (kernel : KernelState) (dplls : List NsimDpllDev) (T : DeviceTable)
    (bound b : Ptr) : Prop where
  shared : Shared kernel dplls T bound
  holds : Holds kernel T b (T ppsKey).addr [] b (dplls.flatMap NsimDpllDev.items)
  others : ∀ key, key ≠ ppsKey → key ≠ eecKey → (T key).refs = 0

namespace HoldsDplls

variable {kernel : KernelState} {dplls : List NsimDpllDev} {T : DeviceTable} {bound b pin : Ptr}
  {p : DpllPin} {d : DpllDevice} {pinKey : DpllPinKey}

theorem refs_eq (held : HoldsDplls kernel dplls T bound b) {key : DpllKey}
    (own : key = ppsKey ∨ key = eecKey) : (T key).refs = dplls.length :=
  held.shared.refs key (by rcases own with rfl | rfl <;> simp)

/-- Registrations of a pin are entered for the pin with the key. -/
theorem registeredBy_eq (held : HoldsDplls kernel dplls T bound b) (live : kernel.pin pin = some p) :
    registeredBy dplls p.key = entriesAt (dplls.flatMap NsimDpllDev.items) (p.key, pin) := by
  have strip : dplls.flatMap NsimDpllDev.registrations =
      (dplls.flatMap NsimDpllDev.items).map fun item => (item.1.1, item.2) := by
    rw [List.map_flatMap]
    rfl
  unfold registeredBy entriesAt
  rw [strip, List.filter_map, List.map_map]
  have same : ∀ item ∈ dplls.flatMap NsimDpllDev.items,
      ((item.1.1 = p.key : Bool)) = (item.1 = (p.key, pin) : Bool) := by
    rintro ⟨⟨key, q⟩, reg⟩ mem
    rw [decide_eq_decide]
    constructor
    · rintro rfl
      obtain ⟨p', live', key'⟩ := held.holds.pins.live_of_registered mem
      rw [held.holds.pins.unique q p' pin p live' live key']
    · exact congrArg Prod.fst
  exact congrArg (List.map Prod.snd) (List.filter_congr same)

theorem exists_pin (held : HoldsDplls kernel dplls T bound b)
    (some : registeredBy dplls pinKey ≠ []) :
    ∃ pin p, kernel.pin pin = Option.some p ∧ p.key = pinKey := by
  obtain ⟨reg, mem⟩ := List.exists_mem_of_ne_nil _ some
  obtain ⟨d, own, item⟩ := List.mem_flatMap.1 (mem_entriesAt.1 mem)
  obtain ⟨⟨⟨key, pin⟩, reg'⟩, there, eq⟩ := List.mem_map.1 item
  cases eq
  exact ⟨pin, held.holds.pins.live_of_registered (List.mem_flatMap.2 ⟨d, own, there⟩)⟩

theorem deviceKeyAt_pps (held : HoldsDplls kernel dplls T bound b) (some : dplls ≠ []) :
    kernel.deviceKeyAt (T ppsKey).addr = Option.some ppsKey := by
  have refs : 0 < (T ppsKey).refs := by
    rw [held.refs_eq (.inl rfl)]
    exact List.length_pos_iff.2 some
  obtain ⟨d, live⟩ := held.holds.table.live ⟨refs, rfl⟩
  rw [KernelState.deviceKeyAt, live, Option.map_some, (held.holds.table.at_addr refs live).1]

theorem ne_nil_of_registeredBy (some : registeredBy dplls pinKey ≠ []) : dplls ≠ [] := by
  rintro rfl
  exact some rfl

/-- What a pin shows. -/
theorem pins_eq (held : HoldsDplls kernel dplls T bound b) (key : DpllPinKey) :
    kernel.view.pins key = (contributed dplls).pins key := by
  show kernel.pinXa.entries.filterMap (kernel.pinView key) = ite _ _ _
  have pins := held.holds.pins
  by_cases none : registeredBy dplls key = []
  · rw [if_pos none]
    refine List.filterMap_eq_nil_iff.2 fun e mem => ?_
    obtain ⟨p, live⟩ := pins.live_of_mem (XArray.mem_values.2 ⟨e, mem, rfl⟩)
    have other : p.key ≠ key := by
      rintro rfl
      rw [held.registeredBy_eq live] at none
      exact (pins.pins _ p live).held none
    rw [KernelState.pinView, live, Option.bind_some, if_neg other]
  · rw [if_neg none]
    obtain ⟨pin, p, live, rfl⟩ := held.exists_pin none
    have here := pins.pins pin p live
    obtain ⟨e, mem, index, value⟩ := XArray.load_eq_some_iff.1 (pins.inv.pinAt pin p live)
    refine (XArray.filterMap_entries mem fun e' mem' read => ?_).trans ?_
    · obtain ⟨p', live', shown⟩ := Option.bind_eq_some_iff.1 (Option.eq_some_of_isSome
        (Option.isSome_iff_ne_none.2 read))
      have own : p'.key = p.key := by
        by_contra other
        rw [if_neg other] at shown
        cases shown
      have same := pins.unique _ p' pin p live' live own
      obtain ⟨p'', live'', id⟩ := pins.listed e'.index e'.value
        (XArray.load_eq_some_iff.2 ⟨e', mem', rfl, rfl⟩)
      rw [same, live] at live''
      cases live''
      exact XArray.ext_index mem' mem (id.symm.trans index.symm)
    · have refs := here.refs (T ppsKey).addr
      rw [if_pos rfl, ← held.registeredBy_eq live] at refs
      have mark : e.mark = true := by
        rw [← XArray.getMark_of_mem mem, index, pins.inv.marked pin p live]
        rw [Bool.not_eq_true', Bool.eq_false_iff, Ne, isEmpty_iff_contents]
        intro empty
        rw [empty, eq_comm, Registrations.of_eq_none_iff] at refs
        exact none refs
      have pps := held.deviceKeyAt_pps (ne_nil_of_registeredBy none)
      have keyed := pins.inv.dpllRefs pin p live
      have only : ∀ q, contents p.dpllRefs q ≠ Option.none → q = (T ppsKey).addr := by
        intro q some
        by_contra other
        rw [here.refs, if_neg other] at some
        exact some rfl
      rw [KernelState.pinView, value, live, Option.bind_some, if_pos rfl, Option.toList_some, mark,
        here.refcount, ← held.registeredBy_eq live]
      congr 2
      funext dpllKey
      split_ifs with own
      · rw [own, ← refs]
        exact refsAt_eq keyed pps fun q _ => only q
      · refine refsAt_eq_nil keyed fun q at' => ?_
        by_contra some
        rw [only q some, pps, Option.some_inj] at at'
        exact own at'.symm

/-- What the PPS device shows of pins. -/
theorem refsAt_pps (held : HoldsDplls kernel dplls T bound b)
    (live : kernel.device (T ppsKey).addr = some d) (key : DpllPinKey) :
    refsAt kernel.pinKeyAt d.pinRefs key = (Registrations.of (registeredBy dplls key)).toList := by
  have pins := held.holds.pins
  have keyed := pins.inv.pinRefs _ d live
  have liveAt : ∀ q, kernel.pinKeyAt q = some key → ∃ p, kernel.pin q = some p ∧ p.key = key :=
    fun q => Option.map_eq_some_iff.1
  have contents_eq : ∀ q p, kernel.pin q = some p →
      contents d.pinRefs q = Registrations.of (registeredBy dplls p.key) := by
    intro q p liveP
    rw [pins.inv.agree _ d live q p liveP, (pins.pins q p liveP).refs, if_pos rfl,
      held.registeredBy_eq liveP]
  by_cases none : registeredBy dplls key = []
  · rw [none, Registrations.of_nil]
    refine refsAt_eq_nil keyed fun q at' => ?_
    obtain ⟨p, liveP, rfl⟩ := liveAt q at'
    rw [contents_eq q p liveP, none, Registrations.of_nil]
  · obtain ⟨pin, p, liveP, rfl⟩ := held.exists_pin none
    rw [← contents_eq pin p liveP]
    refine refsAt_eq keyed (by rw [KernelState.pinKeyAt, liveP, Option.map_some])
      fun q at' _ => ?_
    obtain ⟨p', liveP', key'⟩ := liveAt q at'
    exact pins.unique q p' pin p liveP' liveP key'

/-- What the device of a key shows. -/
theorem filterMap_deviceView (held : HoldsDplls kernel dplls T bound b) {key : DpllKey}
    (own : key = ppsKey ∨ key = eecKey) (some : dplls ≠ [])
    (live : kernel.device (T key).addr = Option.some d) :
    kernel.deviceXa.entries.filterMap (kernel.deviceView key) =
      [⟨dplls.length, dplls.map fun d => nsimReg d.addr, true,
        refsAt kernel.pinKeyAt d.pinRefs⟩] := by
  have refs := held.refs_eq own
  have regs := held.shared.regs key (by rcases own with rfl | rfl <;> simp) some
  have positive : 0 < (T key).refs := by
    rw [refs]
    exact List.length_pos_iff.2 some
  have table := held.holds.table
  obtain ⟨e, mem, value, mark, -⟩ := table.present key positive
  obtain ⟨dkey, count, list⟩ := table.at_addr positive live
  refine (XArray.filterMap_entries mem fun e' mem' read => ?_).trans ?_
  · obtain ⟨d', live', shown⟩ := Option.bind_eq_some_iff.1 (Option.eq_some_of_isSome
      (Option.isSome_iff_ne_none.2 read))
    obtain ⟨d'', live'', id, -, addr⟩ := table.listed e' mem'
    rw [live'] at live''
    cases live''
    have same : d'.key = key := by
      by_contra other
      rw [if_neg other] at shown
      cases shown
    rw [same] at addr
    rw [← addr, live] at live'
    cases live'
    exact XArray.ext_index mem' mem (id.symm.trans (table.index_eq mem (value ▸ live)).symm)
  · rw [KernelState.deviceView, value, live, Option.bind_some, if_pos dkey, Option.toList_some, count,
      refs, list, regs]
    rw [mark.2 (by rw [regs]; simpa using some)]

theorem devices_eq (held : HoldsDplls kernel dplls T bound b) (key : DpllKey) :
    kernel.view.devices key = (contributed dplls).devices key := by
  show kernel.deviceXa.entries.filterMap (kernel.deviceView key) = ite _ _ _
  have table := held.holds.table
  have nothing : (T key).refs = 0 →
      kernel.deviceXa.entries.filterMap (kernel.deviceView key) = [] := by
    intro zero
    refine List.filterMap_eq_nil_iff.2 fun e mem => ?_
    obtain ⟨d, live, -, positive, -⟩ := table.listed e mem
    have other : d.key ≠ key := by
      rintro rfl
      rw [zero] at positive
      exact lt_irrefl 0 positive
    rw [KernelState.deviceView, live, Option.bind_some, if_neg other]
  have alive : dplls ≠ [] → ∀ key, key = ppsKey ∨ key = eecKey →
      0 < (T key).refs ∧ (T key).addr = (T key).addr := fun some key own => by
    rw [held.refs_eq own]
    exact ⟨List.length_pos_iff.2 some, rfl⟩
  split_ifs with none pps eec
  · refine nothing ?_
    by_cases own : key = ppsKey ∨ key = eecKey
    · rw [held.refs_eq own, none, List.length_nil]
    · rw [not_or] at own
      exact held.others key own.1 own.2
  · subst pps
    obtain ⟨d, live⟩ := table.live (alive none ppsKey (.inl rfl))
    rw [held.filterMap_deviceView (.inl rfl) none live, funext (held.refsAt_pps live)]
  · subst eec
    obtain ⟨d, live⟩ := table.live (alive none eecKey (.inr rfl))
    have apart := table.addr_ne (alive none ppsKey (.inl rfl)) (alive none eecKey (.inr rfl)) pps
    have empty := held.holds.isEmpty_pinRefs live (.inr apart)
    rw [held.filterMap_deviceView (.inr rfl) none live]
    congr 2
    funext pinKey
    exact refsAt_eq_nil (held.holds.pins.inv.pinRefs _ d live)
      fun q _ => isEmpty_iff_contents.1 empty q
  · exact nothing (held.others key pps eec)

theorem stray_eq (held : HoldsDplls kernel dplls T bound b) : kernel.view.stray = ([], []) := by
  have devices : (kernel.deviceXa.entries.filter fun e => (kernel.device e.value).isNone) = [] := by
    refine List.filter_eq_nil_iff.2 fun e mem => ?_
    obtain ⟨d, live, -⟩ := held.holds.table.listed e mem
    simp [live]
  have pins : (kernel.pinXa.entries.filter fun e => (kernel.pin e.value).isNone) = [] := by
    refine List.filter_eq_nil_iff.2 fun e mem => ?_
    obtain ⟨p, live⟩ := held.holds.pins.live_of_mem (XArray.mem_values.2 ⟨e, mem, rfl⟩)
    simp [live]
  show (List.map _ _, List.map _ _) = _
  rw [devices, pins]
  rfl

/-- The core shows exactly what the DPLLs contributed. -/
theorem view_eq (held : HoldsDplls kernel dplls T bound b) : kernel.view = contributed dplls := by
  have devices := funext held.devices_eq
  have pins := funext held.pins_eq
  have stray := held.stray_eq
  cases view : kernel.view
  rw [view] at devices pins stray
  cases devices
  cases pins
  cases stray
  rfl

end HoldsDplls

end Netdevsim
