import Netdevsim.Dpll.Completes

/-!
# The registry of the core

`RegistryInvariant` says how the devices and the pins of the core and their references fit together.
The changes that the operations are made of keep it, and each operation that registers or
unregisters a pin has one specification: the exact next state if it succeeds, and, if it fails, the
state it started from.
-/

namespace Netdevsim

open Program

/-! ## The invariant -/

/-- The index of a pin in the arrays that refer to it. -/
def KernelState.pinKey (s : KernelState) (pin : Ptr) : Option ℕ :=
  (s.pin pin).map fun p => p.pinIdx.toNat

/-- The index of a device in the arrays that refer to it. -/
def KernelState.deviceKey (s : KernelState) (dpll : Ptr) : Option ℕ :=
  (s.device dpll).map DpllDevice.id

/-- Every object is in the array of its kind, every reference leads to an object, a device and a pin
agree on their reference to each other, and the marks are those of what is registered. -/
structure RegistryInvariant (s : KernelState) : Prop where
  deviceAt : ∀ dpll d, s.device dpll = some d → s.deviceXa.load d.id = some dpll
  pinAt : ∀ pin p, s.pin pin = some p → s.pinXa.load p.id = some pin
  freshDevice : ∀ dpll d, s.device dpll = some d → dpll < s.nextPtr
  freshPin : ∀ pin p, s.pin pin = some p → pin < s.nextPtr
  pinRefs : ∀ dpll d, s.device dpll = some d → Keyed s.pinKey d.pinRefs
  dpllRefs : ∀ pin p, s.pin pin = some p → Keyed s.deviceKey p.dpllRefs
  parentRefs : ∀ pin p, s.pin pin = some p → Keyed s.pinKey p.parentRefs
  agree : ∀ dpll d, s.device dpll = some d → ∀ pin p, s.pin pin = some p →
    contents d.pinRefs pin = contents p.dpllRefs dpll
  registered : ∀ dpll d, s.device dpll = some d →
    (s.deviceXa.getMark d.id = true ↔ d.registrationList ≠ [])
  marked : ∀ pin p, s.pin pin = some p → s.pinXa.getMark p.id = !p.dpllRefs.isEmpty

section Changes

variable {s t : KernelState} {dpll pin : Ptr} {d d' : DpllDevice} {p p' : DpllPin}

theorem pinKey_of_live (live : s.pin pin = some p) : s.pinKey pin = some p.pinIdx.toNat := by
  rw [KernelState.pinKey, live, Option.map_some]

theorem deviceKey_of_live (live : s.device dpll = some d) : s.deviceKey dpll = some d.id := by
  rw [KernelState.deviceKey, live, Option.map_some]

/-- What holds of all objects after one was replaced. -/
theorem forall_update {α : Type} {f : Ptr → Option α} {a : Ptr} {x : α} {P : Ptr → α → Prop} :
    (∀ b y, Function.update f a (some x) b = some y → P b y) ↔
      P a x ∧ ∀ b y, b ≠ a → f b = some y → P b y := by
  constructor
  · intro all
    refine ⟨all a x (Function.update_self ..), fun b y away live => ?_⟩
    exact all b y ((Function.update_of_ne away ..).trans live)
  · rintro ⟨here, others⟩ b y live
    by_cases same : b = a
    · subst same
      rw [Function.update_self, Option.some_inj] at live
      exact live ▸ here
    · exact others b y same ((Function.update_of_ne same ..).symm.trans live)

/-- What is there stays there when something is put to an address. -/
theorem exists_update {α : Type} {f : Ptr → Option α} {a b : Ptr} {x : α} (h : ∃ y, f b = some y) :
    ∃ y, Function.update f a (some x) b = some y := by
  by_cases same : b = a
  · exact ⟨x, by rw [same, Function.update_self]⟩
  · rw [Function.update_of_ne same]
    exact h

theorem eq_of_update_self {α : Type} {f : Ptr → Option α} {a : Ptr} {x y : α}
    (live : Function.update f a (some x) a = some y) : x = y := by
  rw [Function.update_self] at live
  exact Option.some.inj live

theorem pinKey_of_ne {q : Ptr} {x : Option DpllPin} (away : q ≠ pin)
    (changed : t.pin = Function.update s.pin pin x) : t.pinKey q = s.pinKey q := by
  rw [KernelState.pinKey, changed, Function.update_of_ne away]
  rfl

theorem deviceKey_of_ne {q : Ptr} {x : Option DpllDevice} (away : q ≠ dpll)
    (changed : t.device = Function.update s.device dpll x) : t.deviceKey q = s.deviceKey q := by
  rw [KernelState.deviceKey, changed, Function.update_of_ne away]
  rfl

theorem pinKey_update (live : s.pin pin = some p) (pinIdx : p'.pinIdx = p.pinIdx)
    (changed : t.pin = Function.update s.pin pin (some p')) : t.pinKey = s.pinKey := by
  funext q
  by_cases same : q = pin
  · unfold KernelState.pinKey
    rw [changed, same, Function.update_self, live, Option.map_some, Option.map_some, pinIdx]
  · exact pinKey_of_ne same changed

theorem deviceKey_update (live : s.device dpll = some d) (id : d'.id = d.id)
    (changed : t.device = Function.update s.device dpll (some d')) : t.deviceKey = s.deviceKey := by
  funext q
  by_cases same : q = dpll
  · unfold KernelState.deviceKey
    rw [changed, same, Function.update_self, live, Option.map_some, Option.map_some, id]
  · exact deviceKey_of_ne same changed

/-- The state after the references of a device and a pin to each other changed. -/
def KernelState.withRefs (s : KernelState) (dpll pin : Ptr) (d : DpllDevice) (p : DpllPin)
    (pinRefs dpllRefs : XArray DpllPinRef) : KernelState :=
  { s with
    device := Function.update s.device dpll (some { d with pinRefs })
    pin := Function.update s.pin pin (some { p with dpllRefs })
    pinXa := s.pinXa.setMark p.id !dpllRefs.isEmpty }

namespace RegistryInvariant

theorem pin_eq (inv : RegistryInvariant s) {pin' : Ptr} (live : s.pin pin = some p)
    (live' : s.pin pin' = some p') (same : p.id = p'.id) : pin = pin' := by
  have first := inv.pinAt pin p live
  rw [same, inv.pinAt pin' p' live'] at first
  exact (Option.some.inj first).symm

theorem device_eq (inv : RegistryInvariant s) {dpll' : Ptr} (live : s.device dpll = some d)
    (live' : s.device dpll' = some d') (same : d.id = d'.id) : dpll = dpll' := by
  have first := inv.deviceAt dpll d live
  rw [same, inv.deviceAt dpll' d' live'] at first
  exact (Option.some.inj first).symm

/-- The references of a pin lead to devices. -/
theorem targets (inv : RegistryInvariant s) (live : s.pin pin = some p) :
    ∀ ref ∈ p.dpllRefs.values, ∃ d, s.device ref.target = some d := by
  intro ref mem
  obtain ⟨e, entry, rfl⟩ := XArray.mem_values.1 mem
  obtain ⟨d, liveD, -⟩ := Option.map_eq_some_iff.1 (inv.dpllRefs pin p live e entry).1
  exact ⟨d, liveD⟩

/-- The parents of a pin are pins. -/
theorem parents (inv : RegistryInvariant s) (live : s.pin pin = some p) :
    ∀ ref ∈ p.parentRefs.values, ∃ par, s.pin ref.target = some par := by
  intro ref mem
  obtain ⟨e, entry, rfl⟩ := XArray.mem_values.1 mem
  obtain ⟨par, livePar, -⟩ := Option.map_eq_some_iff.1 (inv.parentRefs pin p live e entry).1
  exact ⟨par, livePar⟩

/-- What holds of all devices in the array holds of all devices. -/
theorem forall_device (inv : RegistryInvariant s) {test : DpllDevice → Bool}
    (all : s.deviceXa.values.all (fun dpll => (s.device dpll).all test) = true)
    (live : s.device dpll = some d) : test d = true := by
  have here := List.all_eq_true.1 all dpll (XArray.mem_values_of_load (inv.deviceAt dpll d live))
  rwa [live] at here

/-- What holds of all pins in the array holds of all pins. -/
theorem forall_pin (inv : RegistryInvariant s) {test : DpllPin → Bool}
    (all : s.pinXa.values.all (fun pin => (s.pin pin).all test) = true)
    (live : s.pin pin = some p) : test p = true := by
  have here := List.all_eq_true.1 all pin (XArray.mem_values_of_load (inv.pinAt pin p live))
  rwa [live] at here

/-- What is not part of the registry does not matter. -/
theorem of_eq (inv : RegistryInvariant s) (device : t.device = s.device) (pin : t.pin = s.pin)
    (deviceXa : t.deviceXa = s.deviceXa) (pinXa : t.pinXa = s.pinXa) (next : s.nextPtr ≤ t.nextPtr) :
    RegistryInvariant t := by
  have pinKey : t.pinKey = s.pinKey := by
    funext q
    rw [KernelState.pinKey, KernelState.pinKey, pin]
  have deviceKey : t.deviceKey = s.deviceKey := by
    funext q
    rw [KernelState.deviceKey, KernelState.deviceKey, device]
  constructor
  · rw [device, deviceXa]
    exact inv.deviceAt
  · rw [pin, pinXa]
    exact inv.pinAt
  · rw [device]
    exact fun dpll d live => (inv.freshDevice dpll d live).trans_le next
  · rw [pin]
    exact fun pin p live => (inv.freshPin pin p live).trans_le next
  · rw [device, pinKey]
    exact inv.pinRefs
  · rw [pin, deviceKey]
    exact inv.dpllRefs
  · rw [pin, pinKey]
    exact inv.parentRefs
  · rw [device, pin]
    exact inv.agree
  · rw [device, deviceXa]
    exact inv.registered
  · rw [pin, pinXa]
    exact inv.marked

theorem of_ntfFrame (within : ntfFrame.rel s t) (inv : RegistryInvariant s) : RegistryInvariant t := by
  obtain ⟨_, _, rfl⟩ := within
  exact inv.of_eq rfl rfl rfl rfl le_rfl

/-- Changing what a pin does not share with devices. -/
theorem setPin (inv : RegistryInvariant s) (live : s.pin pin = some p) (id : p'.id = p.id)
    (pinIdx : p'.pinIdx = p.pinIdx) (dpllRefs : p'.dpllRefs = p.dpllRefs)
    (parentRefs : Keyed s.pinKey p'.parentRefs) :
    RegistryInvariant { s with pin := Function.update s.pin pin (some p') } := by
  have pinKey : ({ s with pin := Function.update s.pin pin (some p') } : KernelState).pinKey =
      s.pinKey := pinKey_update live pinIdx rfl
  refine ⟨inv.deviceAt, ?_, inv.freshDevice, ?_, ?_, ?_, ?_, ?_, inv.registered, ?_⟩
  · refine forall_update.2 ⟨?_, fun q p₀ _ => inv.pinAt q p₀⟩
    rw [id]
    exact inv.pinAt pin p live
  · exact forall_update.2 ⟨inv.freshPin pin p live, fun q p₀ _ => inv.freshPin q p₀⟩
  · rw [pinKey]
    exact inv.pinRefs
  · refine forall_update.2 ⟨?_, fun q p₀ _ => inv.dpllRefs q p₀⟩
    rw [dpllRefs]
    exact inv.dpllRefs pin p live
  · rw [pinKey]
    exact forall_update.2 ⟨parentRefs, fun q p₀ _ => inv.parentRefs q p₀⟩
  · refine fun dpll d liveD => forall_update.2 ⟨?_, fun q p₀ _ => inv.agree dpll d liveD q p₀⟩
    rw [dpllRefs]
    exact inv.agree dpll d liveD pin p live
  · refine forall_update.2 ⟨?_, fun q p₀ _ => inv.marked q p₀⟩
    rw [id, dpllRefs]
    exact inv.marked pin p live

/-- Changing what a device does not share with pins, and its mark with its registrations. -/
theorem setDevice (inv : RegistryInvariant s) (live : s.device dpll = some d) (d' : DpllDevice)
    (id : d'.id = d.id) (pinRefs : d'.pinRefs = d.pinRefs) (mark : Bool)
    (marked : mark = true ↔ d'.registrationList ≠ []) :
    RegistryInvariant { s with
      device := Function.update s.device dpll (some d')
      deviceXa := s.deviceXa.setMark d.id mark } := by
  have deviceKey : ({ s with
      device := Function.update s.device dpll (some d')
      deviceXa := s.deviceXa.setMark d.id mark } : KernelState).deviceKey = s.deviceKey :=
    deviceKey_update live id rfl
  refine ⟨?_, inv.pinAt, ?_, inv.freshPin, ?_, ?_, inv.parentRefs, ?_, ?_, inv.marked⟩
  · simp only [XArray.load_setMark]
    refine forall_update.2 ⟨?_, fun q d₀ _ => inv.deviceAt q d₀⟩
    rw [id]
    exact inv.deviceAt dpll d live
  · exact forall_update.2 ⟨inv.freshDevice dpll d live, fun q d₀ _ => inv.freshDevice q d₀⟩
  · refine forall_update.2 ⟨?_, fun q d₀ _ => inv.pinRefs q d₀⟩
    rw [pinRefs]
    exact inv.pinRefs dpll d live
  · rw [deviceKey]
    exact inv.dpllRefs
  · refine forall_update.2 ⟨?_, fun q d₀ _ => inv.agree q d₀⟩
    rw [pinRefs]
    exact inv.agree dpll d live
  · refine forall_update.2 ⟨?_, fun q d₀ away liveD => ?_⟩
    · rw [id]
      show (s.deviceXa.setMark d.id mark).getMark d.id = true ↔ _
      rw [XArray.getMark_setMark_self (inv.deviceAt dpll d live)]
      exact marked
    · show (s.deviceXa.setMark d.id mark).getMark d₀.id = true ↔ _
      rw [XArray.getMark_setMark_of_ne fun same => away (inv.device_eq liveD live same)]
      exact inv.registered q d₀ liveD

/-- Changing what a device shares neither with pins nor with its mark. -/
theorem setDevice' (inv : RegistryInvariant s) (live : s.device dpll = some d) (id : d'.id = d.id)
    (pinRefs : d'.pinRefs = d.pinRefs)
    (registered : d'.registrationList ≠ [] ↔ d.registrationList ≠ []) :
    RegistryInvariant { s with device := Function.update s.device dpll (some d') } := by
  have changed := inv.setDevice live d' id pinRefs (s.deviceXa.getMark d.id)
    ((inv.registered dpll d live).trans registered.symm)
  rwa [XArray.setMark_getMark (inv.deviceAt dpll d live)] at changed

/-- Changing the references of a device and a pin to each other, in the same way. -/
theorem withRefs (inv : RegistryInvariant s) (liveD : s.device dpll = some d)
    (liveP : s.pin pin = some p) {pinRefs dpllRefs : XArray DpllPinRef} {r : Option Registrations}
    (keyedP : Keyed s.pinKey pinRefs) (keyedD : Keyed s.deviceKey dpllRefs)
    (pins : contents pinRefs = Function.update (contents d.pinRefs) pin r)
    (dplls : contents dpllRefs = Function.update (contents p.dpllRefs) dpll r) :
    RegistryInvariant (s.withRefs dpll pin d p pinRefs dpllRefs) := by
  have pinKey : (s.withRefs dpll pin d p pinRefs dpllRefs).pinKey = s.pinKey :=
    pinKey_update liveP (show ({ p with dpllRefs } : DpllPin).pinIdx = p.pinIdx from rfl) rfl
  have deviceKey : (s.withRefs dpll pin d p pinRefs dpllRefs).deviceKey = s.deviceKey :=
    deviceKey_update liveD (show ({ d with pinRefs } : DpllDevice).id = d.id from rfl) rfl
  refine ⟨?_, ?_, ?_, ?_, ?_, ?_, ?_, ?_, ?_, ?_⟩
  · exact forall_update.2 ⟨inv.deviceAt dpll d liveD, fun q d₀ _ => inv.deviceAt q d₀⟩
  · simp only [KernelState.withRefs, XArray.load_setMark]
    exact forall_update.2 ⟨inv.pinAt pin p liveP, fun q p₀ _ => inv.pinAt q p₀⟩
  · exact forall_update.2 ⟨inv.freshDevice dpll d liveD, fun q d₀ _ => inv.freshDevice q d₀⟩
  · exact forall_update.2 ⟨inv.freshPin pin p liveP, fun q p₀ _ => inv.freshPin q p₀⟩
  · rw [pinKey]
    exact forall_update.2 ⟨keyedP, fun q d₀ _ => inv.pinRefs q d₀⟩
  · rw [deviceKey]
    exact forall_update.2 ⟨keyedD, fun q p₀ _ => inv.dpllRefs q p₀⟩
  · rw [pinKey]
    exact forall_update.2 ⟨inv.parentRefs pin p liveP, fun q p₀ _ => inv.parentRefs q p₀⟩
  · refine forall_update.2 ⟨?_, fun b d₀ awayD liveD' => ?_⟩
    · refine forall_update.2 ⟨?_, fun q p₀ awayP liveP' => ?_⟩
      · rw [pins, dplls, Function.update_self, Function.update_self]
      · rw [pins, Function.update_of_ne awayP]
        exact inv.agree dpll d liveD q p₀ liveP'
    · refine forall_update.2 ⟨?_, fun q p₀ _ => inv.agree b d₀ liveD' q p₀⟩
      rw [dplls, Function.update_of_ne awayD]
      exact inv.agree b d₀ liveD' pin p liveP
  · exact forall_update.2 ⟨inv.registered dpll d liveD, fun q d₀ _ => inv.registered q d₀⟩
  · refine forall_update.2 ⟨?_, fun q p₀ away live => ?_⟩
    · exact XArray.getMark_setMark_self (inv.pinAt pin p liveP)
    · refine (XArray.getMark_setMark_of_ne fun same => away (inv.pin_eq live liveP same)).trans ?_
      exact inv.marked q p₀ live

/-- A new device without references, at a free id and an address handed out but not used. -/
theorem insertDevice (inv : RegistryInvariant s) (cursor : XArray.Cursor)
    (unused : s.device dpll = none) (handedOut : dpll < s.nextPtr)
    (free : ∀ e ∈ s.deviceXa.entries, e.index ≠ d.id) (pinRefs : d.pinRefs = .empty)
    (registrationList : d.registrationList = []) :
    RegistryInvariant { s with
      deviceXa := s.deviceXa.store d.id dpll
      deviceXaId := cursor
      device := Function.update s.device dpll (some d) } := by
  have apart : ∀ q d₀, s.device q = some d₀ → d₀.id ≠ d.id := by
    intro q d₀ live same
    obtain ⟨e, mem, index, -⟩ := XArray.load_eq_some_iff.1 (inv.deviceAt q d₀ live)
    exact free e mem (index.trans same)
  have noKey : s.deviceKey dpll = none := by
    rw [KernelState.deviceKey, unused, Option.map_none]
  refine ⟨?_, inv.pinAt, ?_, inv.freshPin, ?_, ?_, inv.parentRefs, ?_, ?_, inv.marked⟩
  · refine forall_update.2 ⟨XArray.load_store_self, fun q d₀ _ live => ?_⟩
    exact (XArray.load_store_of_ne (apart q d₀ live)).trans (inv.deviceAt q d₀ live)
  · exact forall_update.2 ⟨handedOut, fun q d₀ _ => inv.freshDevice q d₀⟩
  · refine forall_update.2 ⟨?_, fun q d₀ _ => inv.pinRefs q d₀⟩
    rw [pinRefs]
    exact keyed_empty
  · refine fun q p₀ live => (inv.dpllRefs q p₀ live).mono fun e _ i at' => ?_
    refine (deviceKey_of_ne ?_ rfl).trans at'
    rintro rfl
    rw [noKey] at at'
    cases at'
  · refine forall_update.2 ⟨fun q p₀ live => ?_, fun q d₀ _ => inv.agree q d₀⟩
    rw [pinRefs, show contents .empty q = none from rfl]
    exact ((inv.dpllRefs q p₀ live).contents_of_no_key noKey).symm
  · refine forall_update.2 ⟨?_, fun q d₀ _ live => ?_⟩
    · show (s.deviceXa.store d.id dpll).getMark d.id = true ↔ _
      rw [XArray.getMark_store_self, registrationList]
      decide
    · show (s.deviceXa.store d.id dpll).getMark d₀.id = true ↔ _
      rw [XArray.getMark_store_of_ne (apart q d₀ live)]
      exact inv.registered q d₀ live

/-- A new pin without references, at a free id and an address handed out but not used. -/
theorem insertPin (inv : RegistryInvariant s) (cursor : XArray.Cursor)
    (unused : s.pin pin = none) (handedOut : pin < s.nextPtr)
    (free : ∀ e ∈ s.pinXa.entries, e.index ≠ p.id) (dpllRefs : p.dpllRefs = .empty)
    (parentRefs : p.parentRefs = .empty) :
    RegistryInvariant { s with
      pinXa := s.pinXa.store p.id pin
      pinXaId := cursor
      pin := Function.update s.pin pin (some p) } := by
  have apart : ∀ q p₀, s.pin q = some p₀ → p₀.id ≠ p.id := by
    intro q p₀ live same
    obtain ⟨e, mem, index, -⟩ := XArray.load_eq_some_iff.1 (inv.pinAt q p₀ live)
    exact free e mem (index.trans same)
  have noKey : s.pinKey pin = none := by rw [KernelState.pinKey, unused, Option.map_none]
  have more : ∀ {xa : XArray DpllPinRef}, Keyed s.pinKey xa →
      Keyed ({ s with
        pinXa := s.pinXa.store p.id pin
        pinXaId := cursor
        pin := Function.update s.pin pin (some p) } : KernelState).pinKey xa := by
    refine fun keyed => keyed.mono fun e _ i at' => ?_
    refine (pinKey_of_ne ?_ rfl).trans at'
    rintro rfl
    rw [noKey] at at'
    cases at'
  refine ⟨inv.deviceAt, ?_, inv.freshDevice, ?_, ?_, ?_, ?_, ?_, inv.registered, ?_⟩
  · refine forall_update.2 ⟨XArray.load_store_self, fun q p₀ _ live => ?_⟩
    exact (XArray.load_store_of_ne (apart q p₀ live)).trans (inv.pinAt q p₀ live)
  · exact forall_update.2 ⟨handedOut, fun q p₀ _ => inv.freshPin q p₀⟩
  · exact fun q d₀ live => more (inv.pinRefs q d₀ live)
  · refine forall_update.2 ⟨?_, fun q p₀ _ => inv.dpllRefs q p₀⟩
    rw [dpllRefs]
    exact keyed_empty
  · refine forall_update.2 ⟨?_, fun q p₀ _ live => more (inv.parentRefs q p₀ live)⟩
    rw [parentRefs]
    exact keyed_empty
  · refine fun q d₀ live => forall_update.2 ⟨?_, fun q' p₀ _ => inv.agree q d₀ live q' p₀⟩
    rw [dpllRefs, show contents .empty q = none from rfl]
    exact (inv.pinRefs q d₀ live).contents_of_no_key noKey
  · refine forall_update.2 ⟨?_, fun q p₀ _ live => ?_⟩
    · rw [dpllRefs]
      exact XArray.getMark_store_self
    · exact (XArray.getMark_store_of_ne (apart q p₀ live)).trans (inv.marked q p₀ live)

/-- An index of the array of pins is lost to an address without a pin. -/
theorem storeStray (inv : RegistryInvariant s) (cursor : XArray.Cursor) {i : ℕ}
    (free : ∀ e ∈ s.pinXa.entries, e.index ≠ i) :
    RegistryInvariant { s with pinXa := s.pinXa.store i pin, pinXaId := cursor } := by
  have apart : ∀ q p₀, s.pin q = some p₀ → p₀.id ≠ i := by
    intro q p₀ live same
    obtain ⟨e, mem, index, -⟩ := XArray.load_eq_some_iff.1 (inv.pinAt q p₀ live)
    exact free e mem (index.trans same)
  refine ⟨inv.deviceAt, fun q p₀ live => ?_, inv.freshDevice, inv.freshPin, inv.pinRefs,
    inv.dpllRefs, inv.parentRefs, inv.agree, inv.registered, fun q p₀ live => ?_⟩
  · exact (XArray.load_store_of_ne (apart q p₀ live)).trans (inv.pinAt q p₀ live)
  · exact (XArray.getMark_store_of_ne (apart q p₀ live)).trans (inv.marked q p₀ live)

/-- A device without references goes away. -/
theorem removeDevice (inv : RegistryInvariant s) (live : s.device dpll = some d)
    (unreferenced : d.pinRefs.isEmpty) :
    RegistryInvariant { s with
      deviceXa := s.deviceXa.erase d.id
      device := Function.update s.device dpll none } := by
  have kept : ∀ q d₀, Function.update s.device dpll none q = some d₀ →
      q ≠ dpll ∧ s.device q = some d₀ := by
    intro q d₀ live
    by_cases same : q = dpll
    · subst same
      rw [Function.update_self] at live
      cases live
    · exact ⟨same, (Function.update_of_ne same ..).symm.trans live⟩
  refine ⟨fun q d₀ left => ?_, inv.pinAt, fun q d₀ left => ?_, inv.freshPin, fun q d₀ left => ?_,
    fun q p₀ liveP => ?_, inv.parentRefs, fun q d₀ left => ?_, fun q d₀ left => ?_, inv.marked⟩
  · obtain ⟨away, live₀⟩ := kept q d₀ left
    exact (XArray.load_erase_of_ne fun same => away (inv.device_eq live₀ live same)).trans
      (inv.deviceAt q d₀ live₀)
  · exact inv.freshDevice q d₀ (kept q d₀ left).2
  · exact inv.pinRefs q d₀ (kept q d₀ left).2
  · refine (inv.dpllRefs q p₀ liveP).mono fun e mem i at' => ?_
    refine (deviceKey_of_ne ?_ rfl).trans at'
    rintro rfl
    have none := inv.agree _ d live q p₀ liveP
    rw [isEmpty_iff_contents.1 unreferenced q] at none
    exact contents_eq_none_iff.1 none.symm e mem rfl
  · exact inv.agree q d₀ (kept q d₀ left).2
  · obtain ⟨away, live₀⟩ := kept q d₀ left
    show (s.deviceXa.erase d.id).getMark d₀.id = true ↔ _
    rw [XArray.getMark_erase_of_ne fun same => away (inv.device_eq live₀ live same)]
    exact inv.registered q d₀ live₀

/-- A pin without references to devices, and which is no pin's parent, goes away. -/
theorem removePin (inv : RegistryInvariant s) (live : s.pin pin = some p)
    (unreferenced : p.dpllRefs.isEmpty)
    (noParent : ∀ q p₀, q ≠ pin → s.pin q = some p₀ → contents p₀.parentRefs pin = none) :
    RegistryInvariant { s with
      pinXa := s.pinXa.erase p.id
      pin := Function.update s.pin pin none } := by
  have kept : ∀ q p₀, Function.update s.pin pin none q = some p₀ →
      q ≠ pin ∧ s.pin q = some p₀ := by
    intro q p₀ live
    by_cases same : q = pin
    · subst same
      rw [Function.update_self] at live
      cases live
    · exact ⟨same, (Function.update_of_ne same ..).symm.trans live⟩
  have less : ∀ {xa : XArray DpllPinRef}, Keyed s.pinKey xa → contents xa pin = none →
      Keyed ({ s with
        pinXa := s.pinXa.erase p.id
        pin := Function.update s.pin pin none } : KernelState).pinKey xa := by
    refine fun keyed none => keyed.mono fun e mem i at' => ?_
    refine (pinKey_of_ne ?_ rfl).trans at'
    exact contents_eq_none_iff.1 none e mem
  refine ⟨inv.deviceAt, fun q p₀ left => ?_, inv.freshDevice, fun q p₀ left => ?_,
    fun q d₀ liveD => ?_, fun q p₀ left => ?_, fun q p₀ left => ?_, fun q d₀ liveD q' p₀ left => ?_,
    inv.registered, fun q p₀ left => ?_⟩
  · obtain ⟨away, live₀⟩ := kept q p₀ left
    exact (XArray.load_erase_of_ne fun same => away (inv.pin_eq live₀ live same)).trans
      (inv.pinAt q p₀ live₀)
  · exact inv.freshPin q p₀ (kept q p₀ left).2
  · refine less (inv.pinRefs q d₀ liveD) ?_
    rw [inv.agree q d₀ liveD pin p live]
    exact isEmpty_iff_contents.1 unreferenced q
  · exact inv.dpllRefs q p₀ (kept q p₀ left).2
  · obtain ⟨away, live₀⟩ := kept q p₀ left
    exact less (inv.parentRefs q p₀ live₀) (noParent q p₀ away live₀)
  · exact inv.agree q d₀ liveD q' p₀ (kept q' p₀ left).2
  · obtain ⟨away, live₀⟩ := kept q p₀ left
    exact (XArray.getMark_erase_of_ne fun same => away (inv.pin_eq live₀ live same)).trans
      (inv.marked q p₀ live₀)

end RegistryInvariant

end Changes

/-! ## Registering and unregistering a pin -/

section Operations

variable {s : KernelState} {dpll pin : Ptr} {d : DpllDevice} {p : DpllPin}
  {reg : DpllPinRegistration} {Q : Unit → KernelState → Prop} {E : Errno → KernelState → Prop}

/-- A device's id is taken by no other device. -/
theorem RegistryInvariant.free_dpllRefs (inv : RegistryInvariant s) (liveD : s.device dpll = some d)
    (liveP : s.pin pin = some p) : Free p.dpllRefs dpll d.id := by
  intro none e mem index
  have key := (inv.dpllRefs pin p liveP e mem).1
  rw [KernelState.deviceKey, Option.map_eq_some_iff] at key
  obtain ⟨d', live', id⟩ := key
  have same := inv.device_eq live' liveD (id.trans index)
  exact contents_eq_none_iff.1 none e mem same

/-- The state after a registration of a pin on a device was added. -/
def KernelState.registered (s : KernelState) (dpll pin : Ptr) (d : DpllDevice) (p : DpllPin)
    (reg : DpllPinRegistration) : KernelState :=
  s.withRefs dpll pin d p (addRef d.pinRefs pin p.pinIdx.toNat reg) (addRef p.dpllRefs dpll d.id reg)

/-- The state after a registration of a pin on a device was deleted. -/
def KernelState.unregistered (s : KernelState) (dpll pin : Ptr) (d : DpllDevice) (p : DpllPin)
    (reg : DpllPinRegistration) : KernelState :=
  s.withRefs dpll pin d p (dpllXaRefDel d.pinRefs pin reg) (dpllXaRefDel p.dpllRefs dpll reg)

theorem RegistryInvariant.registered_pin (inv : RegistryInvariant s)
    (liveD : s.device dpll = some d) (liveP : s.pin pin = some p)
    (free : Free d.pinRefs pin p.pinIdx.toNat) :
    RegistryInvariant (s.registered dpll pin d p reg) := by
  have pinKey := pinKey_of_live liveP
  have deviceKey := deviceKey_of_live liveD
  have pins := contents_addRef (inv.pinRefs dpll d liveD) pinKey free reg
  have dplls := contents_addRef (inv.dpllRefs pin p liveP) deviceKey
    (inv.free_dpllRefs liveD liveP) reg
  rw [← inv.agree dpll d liveD pin p liveP] at dplls
  exact inv.withRefs liveD liveP (keyed_addRef (inv.pinRefs dpll d liveD) pinKey reg)
    (keyed_addRef (inv.dpllRefs pin p liveP) deviceKey reg) pins dplls

theorem RegistryInvariant.unregistered_pin (inv : RegistryInvariant s)
    (liveD : s.device dpll = some d) (liveP : s.pin pin = some p) :
    RegistryInvariant (s.unregistered dpll pin d p reg) := by
  have pins := contents_dpllXaRefDel (inv.pinRefs dpll d liveD) pin reg
  have dplls := contents_dpllXaRefDel (inv.dpllRefs pin p liveP) dpll reg
  rw [← inv.agree dpll d liveD pin p liveP] at dplls
  exact inv.withRefs liveD liveP (keyed_dpllXaRefDel (inv.pinRefs dpll d liveD) pin reg)
    (keyed_dpllXaRefDel (inv.dpllRefs pin p liveP) dpll reg) pins dplls

/-- `__dpll_pin_register` up to its notification. -/
def _dpllPinAddRefs (dpll pin : Ptr) (reg : DpllPinRegistration) : KernelM Unit := do
  let d ← derefDevice dpll
  let pinRefs ← dpllXaRefPinAdd d.pinRefs pin reg
  setDevice dpll { d with pinRefs }
  unwind (dpllPinRefsDel dpll pin reg) do
    let p ← derefPin pin
    let dpllRefs ← dpllXaRefDpllAdd p.dpllRefs dpll reg
    setPin pin { p with dpllRefs }
  let p ← derefPin pin
  modify fun s => { s with pinXa := s.pinXa.setMark p.id true }

theorem dpllPinRegister_eq : _dpllPinRegister dpll pin reg =
    _dpllPinAddRefs dpll pin reg >>= fun _ => dpllPinEventSend .create pin := by
  simp only [_dpllPinRegister, _dpllPinAddRefs, bind_assoc]

/-- The registration is added on both sides, or nothing changes. -/
theorem twp_dpllPinAddRefs (inv : RegistryInvariant s) (liveD : s.device dpll = some d)
    (liveP : s.pin pin = some p)
    (ok : Free d.pinRefs pin p.pinIdx.toNat → ∀ faults, faults <:+ s.faults →
      Q () { s.registered dpll pin d p reg with faults })
    (error : ∀ e faults, E e { s with faults }) : twp (_dpllPinAddRefs dpll pin reg) Q E s := by
  unfold _dpllPinAddRefs
  rw [twp_bind, twp_derefDevice]
  refine ⟨d, liveD, ?_⟩
  unfold dpllXaRefPinAdd
  rw [twp_bind, twp_bind, twp_derefPin]
  refine ⟨p, liveP, (total_dpllXaRefAdd _ _ _ _ s).twp ?_⟩
  refine wp_dpllXaRefAdd (fun free faults₁ suffix₁ => ?_) fun _ e faults => error e faults
  rw [twp_bind, twp_setDevice, twp_bind, twp_unwind, twp_bind, twp_derefPin]
  refine ⟨p, liveP, ?_⟩
  unfold dpllXaRefDpllAdd
  rw [twp_bind, twp_bind, twp_derefDevice]
  refine ⟨_, Function.update_self .., (total_dpllXaRefAdd _ _ _ _ _).twp ?_⟩
  have freeD := inv.free_dpllRefs liveD liveP
  have keyD := deviceKey_of_live liveD
  refine wp_dpllXaRefAdd (fun _ faults₂ suffix₂ => ?_) fun new e faults => ?_
  · rw [twp_setPin, twp_bind, twp_derefPin]
    refine ⟨_, Function.update_self .., ?_⟩
    have done := ok free faults₂ (suffix₂.trans suffix₁)
    have nonempty := isEmpty_addRef (inv.dpllRefs pin p liveP) keyD freeD reg
    unfold KernelState.registered KernelState.withRefs at done
    rw [nonempty] at done
    exact done
  · have unknown : ¬Known d.pinRefs pin reg := by
      unfold Known
      rw [inv.agree dpll d liveD pin p liveP]
      exact new
    have undone := dpllXaRefDel_addRef (inv.pinRefs dpll d liveD) (pinKey_of_live liveP) free unknown
    unfold dpllPinRefsDel
    rw [twp_bind, twp_derefDevice]
    refine ⟨_, Function.update_self .., ?_⟩
    have device : Function.update (Function.update s.device dpll
        (some { d with pinRefs := addRef d.pinRefs pin p.pinIdx.toNat reg })) dpll
        (some { d with
          pinRefs := dpllXaRefDel (addRef d.pinRefs pin p.pinIdx.toNat reg) pin reg }) =
        s.device := by
      rw [Function.update_idem, undone]
      show Function.update s.device dpll (some d) = s.device
      rw [← liveD, Function.update_eq_self]
    rw [twp_setDevice]
    dsimp only
    rw [device]
    exact error e faults

/-- `__dpll_pin_register` adds the registration on both sides and announces the pin, or changes
nothing. -/
theorem wp_dpllPinRegisterRefs (inv : RegistryInvariant s)
    (ok : ∀ d p, s.device dpll = some d → s.pin pin = some p → Free d.pinRefs pin p.pinIdx.toNat →
      ∀ faults, faults <:+ s.faults →
        wp (dpllPinEventSend .create pin) Q E { s.registered dpll pin d p reg with faults })
    (error : ∀ e faults, E e { s with faults }) : wp (_dpllPinRegister dpll pin reg) Q E s := by
  rw [dpllPinRegister_eq, wp_bind]
  cases liveD : s.device dpll with
  | none =>
    unfold _dpllPinAddRefs
    rw [wp_bind, wp_derefDevice, liveD]
    exact fun d live => by cases live
  | some d =>
    cases liveP : s.pin pin with
    | none =>
      unfold _dpllPinAddRefs dpllXaRefPinAdd
      rw [wp_bind, wp_derefDevice]
      intro d _
      rw [wp_bind, wp_bind, wp_derefPin, liveP]
      exact fun p live => by cases live
    | some p => exact wp_of_twp (twp_dpllPinAddRefs inv liveD liveP (ok d p liveD liveP) error)

/-- So does `dpll_pin_register`. -/
theorem wp_dpllPinRegister_of {ops : DpllPinOps} {priv : Ptr} (inv : RegistryInvariant s)
    (ok : ∀ d p, s.device dpll = some d → s.pin pin = some p → Free d.pinRefs pin p.pinIdx.toNat →
      ∀ faults, faults <:+ s.faults → wp (dpllPinEventSend .create pin) Q E
        { s.registered dpll pin d p ⟨ops, priv, 0⟩ with faults })
    (error : ∀ e faults, E e { s with faults }) : wp (dpllPinRegister dpll pin ops priv) Q E s := by
  unfold dpllPinRegister
  rw [wp_bind, wp_failIf]
  refine ⟨fun _ => error _ s.faults, fun _ => ?_⟩
  rw [wp_bind, wp_derefDevice]
  intro d _
  rw [wp_bind, wp_derefPin]
  intro p _
  rw [wp_bind, wp_failIf]
  exact ⟨fun _ => error _ s.faults, fun _ => wp_dpllPinRegisterRefs inv ok error⟩

/-- A notification about a pin reads live objects only. -/
theorem twp_dpllPinEventSend_of_inv {cmd : DpllNtfCmd} (inv : RegistryInvariant s)
    (liveP : s.pin pin = some p) (ok : ∀ t, ntfFrame.rel s t → Q () t) :
    twp (dpllPinEventSend cmd pin) Q E s := by
  refine (completes_dpllPinEventSend liveP (inv.parents liveP) (inv.targets liveP)).twp ?_
  exact wp_mono (wp_and (sends_dpllPinEventSend cmd pin s) (neverFails_dpllPinEventSend cmd pin s))
    (fun _ t both => ok t both.1) fun _ _ both => both.2.elim

theorem twp_dpllPinRegisterRefs (inv : RegistryInvariant s) (liveD : s.device dpll = some d)
    (liveP : s.pin pin = some p)
    (ok : Free d.pinRefs pin p.pinIdx.toNat → ∀ t,
      ntfFrame.rel (s.registered dpll pin d p reg) t → Q () t)
    (error : ∀ e faults, E e { s with faults }) : twp (_dpllPinRegister dpll pin reg) Q E s := by
  rw [dpllPinRegister_eq, twp_bind]
  refine twp_dpllPinAddRefs inv liveD liveP (fun free faults _ => ?_) error
  have start : ntfFrame.rel (s.registered dpll pin d p reg)
      { s.registered dpll pin d p reg with faults } := ⟨_, faults, rfl⟩
  have after := (inv.registered_pin liveD liveP free).of_ntfFrame start
  have live : ({ s.registered dpll pin d p reg with faults } : KernelState).pin pin =
      some { p with dpllRefs := addRef p.dpllRefs dpll d.id reg } := Function.update_self ..
  exact twp_dpllPinEventSend_of_inv after live fun t within =>
    ok free t (ntfFrame.trans start within)

/-- `__dpll_pin_unregister` deletes the registration on both sides. -/
theorem wp_dpllPinUnregisterRefs (inv : RegistryInvariant s)
    (ok : ∀ d p, s.device dpll = some d → s.pin pin = some p →
      Q () (s.unregistered dpll pin d p reg)) : wp (_dpllPinUnregister dpll pin reg) Q E s := by
  unfold _dpllPinUnregister dpllPinRefsDel
  rw [wp_bind, wp_bind, wp_derefDevice]
  intro d liveD
  rw [wp_setDevice, wp_bind, wp_derefPin]
  intro p liveP
  have done := ok d p liveD liveP
  unfold KernelState.unregistered KernelState.withRefs at done
  dsimp only
  rw [wp_bind, wp_setPin]
  split
  · rename_i empty
    rw [empty] at done
    exact done
  · rename_i nonempty
    rw [Bool.not_eq_true] at nonempty
    have before : p.dpllRefs.isEmpty = false := by
      rw [Bool.eq_false_iff, Ne, isEmpty_iff_contents] at nonempty ⊢
      intro none
      refine nonempty fun target => ?_
      rw [contents_dpllXaRefDel (inv.dpllRefs pin p liveP), Function.update_apply]
      split_ifs
      · rw [none, Option.bind_none]
      · exact none target
    have mark := inv.marked pin p liveP
    rw [nonempty, show (!false) = s.pinXa.getMark p.id by rw [mark, before],
      XArray.setMark_getMark (inv.pinAt pin p liveP)] at done
    exact done

end Operations

end Netdevsim
