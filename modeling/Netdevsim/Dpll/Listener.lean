import Netdevsim.Dpll.TwoSided

/-!
# Who listens to the notifications

A listener adds what is created and removes what is deleted.  It holds what the core has registered
as long as every change of what is registered is announced, and nothing is announced as deleted that
stays.
-/

namespace Netdevsim

open Program

/-! ## The listener -/

/-- The ids that a listener holds. -/
structure Listener where
  devices : Finset ℕ
  pins : Finset ℕ
  deriving DecidableEq

/-- What a listener does on a notification. -/
def Listener.receive (l : Listener) : DpllNtf → Listener
  | .device .create id _ => { l with devices := insert id l.devices }
  | .device .delete id _ => { l with devices := l.devices.erase id }
  | .device .change _ _ => l
  | .pin .create id => { l with pins := insert id l.pins }
  | .pin .delete id => { l with pins := l.pins.erase id }
  | .pin .change _ => l

/-- What a listener holds that started with nothing. -/
def heard (sent : List DpllNtf) : Listener := sent.foldl Listener.receive ⟨∅, ∅⟩

theorem heard_snoc (sent : List DpllNtf) (ntf : DpllNtf) :
    heard (sent ++ [ntf]) = (heard sent).receive ntf := List.foldl_append

/-- The ids of the objects at the addresses of a kind. -/
def idsOf (id : Ptr → Option ℕ) (B : Ptr → Prop) : Set ℕ := {i | ∃ a, id a = some i ∧ B a}

section Ids

variable {id : Ptr → Option ℕ} {B B' : Ptr → Prop} {a : Ptr} {i : ℕ}

theorem idsOf_insert (here : id a = some i) (kind : ∀ b, B' b ↔ b = a ∨ B b) :
    idsOf id B' = insert i (idsOf id B) := by
  ext j
  constructor
  · rintro ⟨b, at', holds⟩
    rcases (kind b).1 holds with rfl | holds
    · exact .inl (Option.some.inj (at'.symm.trans here))
    · exact .inr ⟨b, at', holds⟩
  · rintro (rfl | ⟨b, at', holds⟩)
    · exact ⟨a, here, (kind a).2 (.inl rfl)⟩
    · exact ⟨b, at', (kind b).2 (.inr holds)⟩

theorem idsOf_erase (here : id a = some i) (only : ∀ b, id b = some i → b = a)
    (kind : ∀ b, B' b ↔ B b ∧ b ≠ a) : idsOf id B' = idsOf id B \ {i} := by
  ext j
  constructor
  · rintro ⟨b, at', holds⟩
    obtain ⟨holds, away⟩ := (kind b).1 holds
    refine ⟨⟨b, at', holds⟩, ?_⟩
    rintro rfl
    exact away (only b at')
  · rintro ⟨⟨b, at', holds⟩, other⟩
    refine ⟨b, at', (kind b).2 ⟨holds, ?_⟩⟩
    rintro rfl
    exact other (Option.some.inj (at'.symm.trans here))

theorem idsOf_congr (kind : ∀ b, B' b ↔ B b) : idsOf id B' = idsOf id B := by
  rw [funext fun b => propext (kind b)]

end Ids

/-! ## What is registered -/

/-- What `dpll_pin_available` returns. -/
def KernelState.pinAvailable (s : KernelState) (pin : Ptr) : Bool :=
  match (dpllPinAvailable pin).exec s with
  | some (.ok available, _) => available
  | _ => false

def KernelState.pinId (s : KernelState) (pin : Ptr) : Option ℕ := (s.pin pin).map DpllPin.id

/-- A listener that started with nothing holds the ids of the marked devices and of the available
pins. -/
def MirrorsRegistry (s : KernelState) : Prop :=
  ↑(heard s.sent).devices = idsOf s.deviceKey (fun dpll => s.deviceMarked dpll = true) ∧
    ↑(heard s.sent).pins = idsOf s.pinId fun pin => s.pinAvailable pin = true

/-- A device with registrations. -/
def KernelState.Registered (s : KernelState) (dpll : Ptr) : Prop :=
  ∃ d, s.device dpll = some d ∧ d.registrationList ≠ []

/-- A pin that refers to a device. -/
def KernelState.On (s : KernelState) (pin dpll : Ptr) : Prop :=
  ∃ p, s.pin pin = some p ∧ contents p.dpllRefs dpll ≠ none

/-- A pin on a device with registrations. -/
def KernelState.OnRegistered (s : KernelState) (pin : Ptr) : Prop :=
  ∃ dpll, s.Registered dpll ∧ s.On pin dpll

section Views

variable {s : KernelState} {dpll pin : Ptr} {d : DpllDevice} {p : DpllPin}

theorem deviceMarked_iff (inv : RegistryInvariant s) :
    s.deviceMarked dpll = true ↔ s.Registered dpll := by
  unfold KernelState.deviceMarked KernelState.Registered
  cases live : s.device dpll with
  | none => simp
  | some d => simp [inv.registered dpll d live]

theorem on_iff (live : s.pin pin = some p) : s.On pin dpll ↔ contents p.dpllRefs dpll ≠ none := by
  unfold KernelState.On
  simp [live]

theorem on_iff_of_device (inv : RegistryInvariant s) (live : s.device dpll = some d) :
    s.On pin dpll ↔ contents d.pinRefs pin ≠ none := by
  cases liveP : s.pin pin with
  | none =>
    have noKey : s.pinKey pin = none := by rw [KernelState.pinKey, liveP, Option.map_none]
    rw [(inv.pinRefs dpll d live).contents_of_no_key noKey]
    unfold KernelState.On
    simp [liveP]
  | some p => rw [on_iff liveP, inv.agree dpll d live pin p liveP]

theorem contents_ne_none_iff {xa : XArray DpllPinRef} {target : Ptr} :
    contents xa target ≠ none ↔ ∃ ref ∈ xa.values, ref.target = target := by
  rw [Ne, contents_eq_none_iff]
  push Not
  constructor
  · rintro ⟨e, mem, same⟩
    exact ⟨e.value, XArray.mem_values.2 ⟨e, mem, rfl⟩, same⟩
  · rintro ⟨ref, mem, same⟩
    obtain ⟨e, entry, rfl⟩ := XArray.mem_values.1 mem
    exact ⟨e, entry, same⟩

theorem exec_dpllPinAvailable (inv : RegistryInvariant s) (live : s.pin pin = some p)
    (orphan : p.parentRefs.isEmpty) : (dpllPinAvailable pin).exec s =
      some (.ok (p.dpllRefs.values.any fun ref => s.deviceMarked ref.target), s) := by
  rw [exec_dpllPinAvailable_of_orphan live orphan (inv.targets live), inv.marked pin p live]
  cases empty : p.dpllRefs.isEmpty with
  | false => rfl
  | true =>
    have values : p.dpllRefs.values = [] := by
      rw [XArray.values, List.isEmpty_iff.1 empty, List.map_nil]
    rw [values]
    rfl

theorem exists_pin_of_pinAvailable (available : s.pinAvailable pin = true) :
    ∃ p, s.pin pin = some p := by
  cases live : s.pin pin with
  | some p => exact ⟨p, rfl⟩
  | none =>
    have wrong : (dpllPinAvailable pin).exec s = none := by
      unfold dpllPinAvailable
      rw [exec_bind, exec_derefPin_of_freed live]
    unfold KernelState.pinAvailable at available
    rw [wrong] at available
    cases available

theorem pinAvailable_iff (inv : RegistryInvariant s)
    (orphans : ∀ pin p, s.pin pin = some p → p.parentRefs.isEmpty) :
    s.pinAvailable pin = true ↔ s.OnRegistered pin := by
  cases live : s.pin pin with
  | none =>
    have off : ¬s.OnRegistered pin := by simp [KernelState.OnRegistered, KernelState.On, live]
    refine iff_of_false (fun available => ?_) off
    obtain ⟨p, live'⟩ := exists_pin_of_pinAvailable available
    rw [live] at live'
    cases live'
  | some p =>
    unfold KernelState.pinAvailable KernelState.OnRegistered
    rw [exec_dpllPinAvailable inv live (orphans pin p live)]
    simp only [List.any_eq_true, deviceMarked_iff inv, on_iff live, contents_ne_none_iff]
    constructor
    · rintro ⟨ref, mem, registered⟩
      exact ⟨ref.target, registered, ref, mem, rfl⟩
    · rintro ⟨b, registered, ref, mem, rfl⟩
      exact ⟨ref, mem, registered⟩

end Views

/-! ## Notifications that are sent -/

section Sending

variable {s : KernelState} {dpll pin : Ptr} {Q : Unit → KernelState → Prop}
  {E : Errno → KernelState → Prop}

theorem tail_faults (none : s.faults = []) : { s with faults := s.faults.tail } = s := by
  cases s
  simp_all

/-- What is announced of a device with registrations, when there is room for the message. -/
theorem wp_dpllDeviceEventSend {cmd : DpllNtfCmd} (inv : RegistryInvariant s)
    (none : s.faults = []) (sends : ∀ d owner, s.device dpll = some d → d.registrationList ≠ [] →
      Q () { s with sent := s.sent ++ [.device cmd d.id owner] })
    (silent : ∀ d, s.device dpll = some d → d.registrationList = [] → Q () s) :
    wp (dpllDeviceEventSend cmd dpll) Q E s := by
  unfold dpllDeviceEventSend
  rw [wp_bind, wp_derefDevice]
  intro d live
  rw [wp_bind, wp_get]
  have mark := inv.registered dpll d live
  split
  · rename_i marked
    rw [wp_bind, wp_fault_iff, none, List.headD_nil, if_pos rfl, ← none, tail_faults none]
    unfold dpllDeviceRegistrationFirst
    rw [wp_bind, wp_bind, wp_derefDevice]
    intro d' live'
    obtain rfl := Option.some.inj (live.symm.trans live')
    split
    · rename_i owner _ _
      exact sends d owner live (mark.1 marked)
    · trivial
  · rename_i unmarked
    exact silent d live (not_not.1 fun more => unmarked (mark.2 more))

/-- What is announced of a pin that is available, when there is room for the message. -/
theorem wp_dpllPinEventSend {cmd : DpllNtfCmd} (inv : RegistryInvariant s)
    (orphans : ∀ pin p, s.pin pin = some p → p.parentRefs.isEmpty) (none : s.faults = [])
    (sends : ∀ p, s.pin pin = some p → s.OnRegistered pin →
      Q () { s with sent := s.sent ++ [.pin cmd p.id] })
    (silent : ¬s.OnRegistered pin → Q () s) : wp (dpllPinEventSend cmd pin) Q E s := by
  unfold dpllPinEventSend
  rw [wp_bind, wp_derefPin]
  intro p live
  have available : s.pinAvailable pin = true ↔ s.OnRegistered pin := pinAvailable_iff inv orphans
  unfold KernelState.pinAvailable at available
  rw [wp_bind, wp_of_exec (exec_dpllPinAvailable inv live (orphans pin p live))]
  rw [exec_dpllPinAvailable inv live (orphans pin p live)] at available
  split
  · rename_i here
    rw [wp_bind, wp_fault_iff, none, List.headD_nil, if_pos rfl, ← none, tail_faults none]
    exact sends p live (available.1 here)
  · rename_i away
    exact silent fun on => away (available.2 on)

end Sending

/-! ## Calls -/

/-- A call of `dpll_device_register`, `dpll_device_unregister`, `dpll_pin_register` or
`dpll_pin_unregister`. -/
def Registers : DpllCall → Prop
  | .deviceRegister .. | .deviceUnregister .. | .pinRegister .. | .pinUnregister .. => True
  | _ => False

/-- All runs of these calls from a core in which nothing is registered, a listener having just
started.  There is room for every message, so that nothing fails in a call that succeeds. -/
def listenerSystem : TransitionSystem KernelState (DpllCall × List (Option Errno)) where
  init s := (∃ earlier, (registrySystem.guard fun s a => PutsUnregistered s a.1).Reachable
      { s with sent := earlier }) ∧
    (∀ dpll d, s.device dpll = some d → d.registrationList = [] ∧ d.pinRefs.isEmpty) ∧
    (∀ pin p, s.pin pin = some p → p.parentRefs.isEmpty) ∧ s.sent = []
  step s a t := Registers a.1 ∧ ∃ result,
    a.1.program.exec { s with faults := a.2 } = some (result, t) ∧ (result = .ok () → a.2 = [])

/-- Registering a device makes no pin available. -/
def NoPinAppears (s : KernelState) (dpll : Ptr) : Prop :=
  ∀ d ∈ s.device dpll, d.registrationList = [] →
    ∀ ref ∈ d.pinRefs.values, s.pinAvailable ref.target = true

/-- A device that is registered is unregistered by its only owner, and its pins have others. -/
def OnlyDeviceDisappears (s : KernelState) (dpll : Ptr) (reg : DpllDeviceRegistration) : Prop :=
  ∀ d ∈ s.device dpll, d.registrationList ≠ [] → d.registrationList = [reg] ∧
    ∀ ref ∈ d.pinRefs.values, ∀ p ∈ s.pin ref.target,
      ∃ ref' ∈ p.dpllRefs.values, ref'.target ≠ dpll ∧ s.deviceMarked ref'.target = true

/-- A pin that is available is unregistered where it is registered last. -/
def PinDisappears (s : KernelState) (dpll pin : Ptr) (reg : DpllPinRegistration) : Prop :=
  ∀ d ∈ s.device dpll, ¬d.pinRefs.isEmpty → s.pinAvailable pin = true →
    ∀ p ∈ s.pin pin, ∀ ref ∈ p.dpllRefs.values, s.deviceMarked ref.target = true →
      ref.target = dpll ∧ ref.refcount = 1 ∧ reg ∈ ref.registrationList

/-- A call announces all that it changes, and nothing else. -/
def AnnouncesChanges (s : KernelState) (a : DpllCall × List (Option Errno)) : Prop :=
  match a.1 with
  | .deviceRegister dpll type ops _ =>
    a.2 = [] → ¬(ops.addr = 0 ∨ ¬ops.modeGet ∨ ¬ops.lockStatusGet) →
      ¬(type < DPLL_TYPE_PPS ∨ DPLL_TYPE_MAX < type) → NoPinAppears s dpll
  | .deviceUnregister dpll ops priv => OnlyDeviceDisappears s dpll ⟨ops, priv⟩
  | .pinUnregister dpll pin ops priv => PinDisappears s dpll pin ⟨ops, priv, 0⟩
  | _ => True

/-- No pin has parents, and the listener knows the devices with registrations and the pins on
them. -/
structure Listening (s : KernelState) : Prop where
  sound : RegistryInvariant s
  orphans : ∀ pin p, s.pin pin = some p → p.parentRefs.isEmpty
  devices : ↑(heard s.sent).devices = idsOf s.deviceKey s.Registered
  pins : ↑(heard s.sent).pins = idsOf s.pinId s.OnRegistered

section Calls

variable {s t : KernelState} {dpll pin : Ptr} {d d' : DpllDevice} {p : DpllPin}
  {ops : DpllDeviceOps} {priv : Ptr}

theorem Listening.mirrorsRegistry (listening : Listening s) : MirrorsRegistry s := by
  constructor
  · rw [listening.devices]
    exact (idsOf_congr fun _ => deviceMarked_iff listening.sound).symm
  · rw [listening.pins]
    exact (idsOf_congr fun _ => pinAvailable_iff listening.sound listening.orphans).symm

theorem Listening.withFaults (listening : Listening s) (faults : List (Option Errno)) :
    Listening { s with faults } :=
  ⟨listening.sound.withFaults faults, listening.orphans, listening.devices, listening.pins⟩

theorem registered_update (changed : t.device = Function.update s.device dpll (some d')) (b : Ptr) :
    t.Registered b ↔ if b = dpll then d'.registrationList ≠ [] else s.Registered b := by
  unfold KernelState.Registered
  rw [changed]
  split_ifs with same
  · subst same
    simp
  · rw [Function.update_of_ne same]

theorem deviceKey_eq (inv : RegistryInvariant s) (live : s.device dpll = some d) :
    s.deviceKey dpll = some d.id ∧ ∀ b, s.deviceKey b = some d.id → b = dpll := by
  refine ⟨deviceKey_of_live live, fun b key => ?_⟩
  obtain ⟨d₀, live₀, same⟩ := Option.map_eq_some_iff.1 key
  exact inv.device_eq live₀ live same

theorem pinId_eq (inv : RegistryInvariant s) (live : s.pin pin = some p) :
    s.pinId pin = some p.id ∧ ∀ q, s.pinId q = some p.id → q = pin := by
  refine ⟨by rw [KernelState.pinId, live, Option.map_some], fun q key => ?_⟩
  obtain ⟨p₀, live₀, same⟩ := Option.map_eq_some_iff.1 key
  exact inv.pin_eq live₀ live same

/-- A pin on a device is on it from both sides. -/
theorem on_iff_of_refs (inv : RegistryInvariant s) (live : s.device dpll = some d) :
    s.On pin dpll ↔ ∃ ref ∈ d.pinRefs.values, ref.target = pin := by
  rw [on_iff_of_device inv live, contents_ne_none_iff]

/-! ### Devices -/

/-- The pins on devices with registrations, after a change of the devices. -/
theorem onRegistered_iff (pin : t.pin = s.pin) (q : Ptr) :
    t.OnRegistered q ↔ ∃ b, t.Registered b ∧ s.On q b := by
  unfold KernelState.OnRegistered KernelState.On
  rw [pin]

theorem pinId_of_pin (pin : t.pin = s.pin) : t.pinId = s.pinId := by
  funext q
  rw [KernelState.pinId, KernelState.pinId, pin]

/-- One more registration of a device, or one less, that is not announced. -/
theorem Listening.of_silent (listening : Listening s) (live : s.device dpll = some d)
    (changed : t.device = Function.update s.device dpll (some d')) (pin : t.pin = s.pin)
    (sent : t.sent = s.sent) (sound : RegistryInvariant t) (id : d'.id = d.id)
    (still : d'.registrationList ≠ [] ↔ d.registrationList ≠ []) : Listening t := by
  have registered : ∀ b, t.Registered b ↔ s.Registered b := by
    intro b
    rw [registered_update changed b]
    split_ifs with same
    · subst same
      rw [still]
      exact ⟨fun more => ⟨d, live, more⟩, fun ⟨d₀, live₀, more⟩ =>
        Option.some.inj (live₀.symm.trans live) ▸ more⟩
    · exact Iff.rfl
  refine ⟨sound, by rw [pin]; exact listening.orphans, ?_, ?_⟩
  · rw [sent, deviceKey_update live id changed, listening.devices]
    exact (idsOf_congr registered).symm
  · rw [sent, pinId_of_pin pin, listening.pins]
    refine (idsOf_congr fun q => ?_).symm
    rw [onRegistered_iff pin]
    exact exists_congr fun b => and_congr_left' (registered b)

/-- The first registration of a device, announced. -/
theorem Listening.of_created (listening : Listening s) (live : s.device dpll = some d)
    (changed : t.device = Function.update s.device dpll (some d')) (pin : t.pin = s.pin)
    {owner : DpllDeviceRegistration} (sent : t.sent = s.sent ++ [.device .create d.id owner])
    (sound : RegistryInvariant t) (id : d'.id = d.id) (first : d.registrationList = [])
    (more : d'.registrationList ≠ []) (noPin : NoPinAppears s dpll) : Listening t := by
  have registered : ∀ b, t.Registered b ↔ b = dpll ∨ s.Registered b := by
    intro b
    rw [registered_update changed b]
    split_ifs with same <;> simp [same, more]
  refine ⟨sound, by rw [pin]; exact listening.orphans, ?_, ?_⟩
  · rw [sent, heard_snoc, deviceKey_update live id changed]
    simp only [Listener.receive, Finset.coe_insert, listening.devices]
    exact (idsOf_insert (deviceKey_of_live live) registered).symm
  · rw [sent, heard_snoc, pinId_of_pin pin]
    refine Eq.trans listening.pins (idsOf_congr fun q => ?_).symm
    rw [onRegistered_iff pin]
    constructor
    · rintro ⟨b, here, on⟩
      rcases (registered b).1 here with rfl | here
      · obtain ⟨ref, mem, rfl⟩ := (on_iff_of_refs listening.sound live).1 on
        exact (pinAvailable_iff listening.sound listening.orphans).1 (noPin d live first ref mem)
      · exact ⟨b, here, on⟩
    · rintro ⟨b, here, on⟩
      exact ⟨b, (registered b).2 (.inr here), on⟩

/-- The last registration of a device, announced before it is deleted. -/
theorem Listening.of_deleted (listening : Listening s) (live : s.device dpll = some d)
    (changed : t.device = Function.update s.device dpll (some d')) (pin : t.pin = s.pin)
    {owner : DpllDeviceRegistration} (sent : t.sent = s.sent ++ [.device .delete d.id owner])
    (sound : RegistryInvariant t) (id : d'.id = d.id) (last : d'.registrationList = [])
    (others : ∀ ref ∈ d.pinRefs.values, ∀ p ∈ s.pin ref.target,
      ∃ ref' ∈ p.dpllRefs.values, ref'.target ≠ dpll ∧ s.deviceMarked ref'.target = true) :
    Listening t := by
  have registered : ∀ b, t.Registered b ↔ s.Registered b ∧ b ≠ dpll := by
    intro b
    rw [registered_update changed b]
    split_ifs with same <;> simp [same, last]
  obtain ⟨here, only⟩ := deviceKey_eq listening.sound live
  refine ⟨sound, by rw [pin]; exact listening.orphans, ?_, ?_⟩
  · rw [sent, heard_snoc, deviceKey_update live id changed]
    simp only [Listener.receive, Finset.coe_erase, listening.devices]
    exact (idsOf_erase here only registered).symm
  · rw [sent, heard_snoc, pinId_of_pin pin]
    refine Eq.trans listening.pins (idsOf_congr fun q => ?_).symm
    rw [onRegistered_iff pin]
    constructor
    · rintro ⟨b, still, on⟩
      exact ⟨b, ((registered b).1 still).1, on⟩
    · rintro ⟨b, before, on⟩
      by_cases same : b = dpll
      · subst same
        obtain ⟨ref, mem, rfl⟩ := (on_iff_of_refs listening.sound live).1 on
        obtain ⟨p, liveP, -⟩ := on
        obtain ⟨ref', mem', away, marked⟩ := others ref mem p liveP
        refine ⟨ref'.target, (registered _).2 ⟨(deviceMarked_iff listening.sound).1 marked, away⟩, ?_⟩
        exact (on_iff liveP).2 (contents_ne_none_iff.2 ⟨ref', mem', rfl⟩)
      · exact ⟨b, (registered b).2 ⟨before, same⟩, on⟩

theorem listening_dpllDeviceRegister {type : ℕ} (listening : Listening s) (none : s.faults = [])
    (announced : AnnouncesChanges s (.deviceRegister dpll type ops priv, [])) :
    wp (dpllDeviceRegister dpll type ops priv) (fun _ => Listening) (fun _ _ => True) s := by
  have sound := listening.sound.withFaults []
  refine wp_dpllDeviceRegister_of (fun _ _ => trivial) (fun d faults may suffix first => ?_)
    fun d faults may suffix more => ?_
  all_goals
    rw [none, List.suffix_nil] at suffix
    subst suffix
    have live := may.live
  · have noPin := announced rfl may.valid may.known
    have after := sound.setDevice live { d with
      type, registrationList := d.registrationList ++ [⟨ops, priv⟩] } rfl rfl true (by simp)
    refine wp_dpllDeviceEventSend after rfl (fun d' owner live' more => ?_) fun d' live' none => ?_
    · obtain rfl := eq_of_update_self live'
      exact listening.of_created live rfl rfl rfl (after.of_ntfFrame ⟨_, _, rfl⟩) rfl first more
        noPin
    · obtain rfl := eq_of_update_self live'
      simp at none
  · exact listening.of_silent live rfl rfl rfl (sound.setDevice' live rfl rfl (by simp [more])) rfl
      (by simp [more])

theorem listening_dpllDeviceUnregister (listening : Listening s) (none : s.faults = [])
    (announced : OnlyDeviceDisappears s dpll ⟨ops, priv⟩) :
    wp (dpllDeviceUnregister dpll ops priv) (fun _ => Listening) (fun _ _ => True) s := by
  unfold dpllDeviceUnregister
  rw [wp_bind]
  refine wp_dpllDeviceEventSend listening.sound none (fun d owner live more => ?_)
    fun d live none => ?_
  · obtain ⟨only, others⟩ := announced d live more
    have last : d.registrationList.erase ⟨ops, priv⟩ = [] := by rw [only, List.erase_cons_head]
    rw [wp_bind, wp_derefDevice]
    intro d' live'
    obtain rfl := Option.some.inj (live.symm.trans live')
    rw [if_pos (by rw [only]; exact List.mem_cons_self)]
    dsimp only
    rw [wp_bind, wp_setDevice, if_pos last, wp_modify]
    have after := listening.sound.setDevice live { d with
      registrationList := d.registrationList.erase ⟨ops, priv⟩ } rfl rfl false (by simp [last])
    exact listening.of_deleted live rfl rfl rfl (after.of_ntfFrame ⟨_, _, rfl⟩) rfl last others
  · rw [wp_bind, wp_derefDevice]
    intro d' live'
    obtain rfl := Option.some.inj (live.symm.trans live')
    rw [if_neg (by rw [none]; exact List.not_mem_nil)]
    exact listening

/-! ### Pins -/

section Pins

variable {pinRefs dpllRefs : XArray DpllPinRef} {pinOps : DpllPinOps}

theorem on_update (changed : t.pin = Function.update s.pin pin (some { p with dpllRefs }))
    (q b : Ptr) : t.On q b ↔ if q = pin then contents dpllRefs b ≠ none else s.On q b := by
  unfold KernelState.On
  rw [changed]
  split_ifs with same
  · subst same
    simp
  · rw [Function.update_of_ne same]

theorem registered_of_refs (live : s.device dpll = some d)
    (device : t.device = Function.update s.device dpll (some { d with pinRefs })) (b : Ptr) :
    t.Registered b ↔ s.Registered b := by
  rw [registered_update device b]
  split_ifs with same
  · subst same
    unfold KernelState.Registered
    simp [live]
  · exact Iff.rfl

/-- What is announced of a pin whose references changed is how it now stands. -/
theorem Listening.of_pin (listening : Listening s) (liveD : s.device dpll = some d)
    (liveP : s.pin pin = some p)
    (device : t.device = Function.update s.device dpll (some { d with pinRefs }))
    (changed : t.pin = Function.update s.pin pin (some { p with dpllRefs }))
    (sound : RegistryInvariant t)
    (announced : t.sent = s.sent ∧ (t.OnRegistered pin ↔ s.OnRegistered pin) ∨
      t.sent = s.sent ++ [.pin .create p.id] ∧ t.OnRegistered pin ∨
      t.sent = s.sent ++ [.pin .delete p.id] ∧ ¬t.OnRegistered pin) : Listening t := by
  have registered := registered_of_refs liveD device
  have others : ∀ q, q ≠ pin → (t.OnRegistered q ↔ s.OnRegistered q) := by
    refine fun q away => exists_congr fun b => and_congr (registered b) ?_
    rw [on_update changed, if_neg away]
  have deviceKey : t.deviceKey = s.deviceKey := by
    refine deviceKey_update liveD ?_ device
    rfl
  have pinId : t.pinId = s.pinId := by
    funext q
    rw [KernelState.pinId, KernelState.pinId, changed]
    by_cases same : q = pin
    · rw [same, Function.update_self, liveP]
      rfl
    · rw [Function.update_of_ne same]
  have orphans : ∀ q p₀, t.pin q = some p₀ → p₀.parentRefs.isEmpty := by
    rw [changed]
    exact forall_update.2 ⟨listening.orphans pin p liveP, fun q p₀ _ => listening.orphans q p₀⟩
  have devices := listening.devices.trans (idsOf_congr registered).symm
  obtain ⟨here, only⟩ := pinId_eq listening.sound liveP
  refine ⟨sound, orphans, ?_, ?_⟩
  · rw [deviceKey]
    rcases announced with ⟨sent, -⟩ | ⟨sent, -⟩ | ⟨sent, -⟩ <;> rw [sent]
    · exact devices
    · rw [heard_snoc]
      exact devices
    · rw [heard_snoc]
      exact devices
  · rw [pinId]
    rcases announced with ⟨sent, same⟩ | ⟨sent, on⟩ | ⟨sent, off⟩ <;> rw [sent]
    · rw [listening.pins]
      refine (idsOf_congr fun q => ?_).symm
      by_cases pinned : q = pin
      · rw [pinned, same]
      · exact others q pinned
    · rw [heard_snoc]
      simp only [Listener.receive, Finset.coe_insert, listening.pins]
      refine (idsOf_insert here fun q => ?_).symm
      by_cases pinned : q = pin
      · subst pinned
        exact iff_of_true on (.inl rfl)
      · rw [others q pinned, or_iff_right pinned]
    · rw [heard_snoc]
      simp only [Listener.receive, Finset.coe_erase, listening.pins]
      refine (idsOf_erase here only fun q => ?_).symm
      by_cases pinned : q = pin
      · subst pinned
        exact iff_of_false off fun both => both.2 rfl
      · rw [others q pinned, and_iff_left pinned]

theorem listening_dpllPinRegister (listening : Listening s) (none : s.faults = []) :
    wp (dpllPinRegister dpll pin pinOps priv) (fun _ => Listening) (fun _ _ => True) s := by
  refine wp_dpllPinRegister_of listening.sound (fun d p liveD liveP free faults suffix => ?_)
    fun _ _ => trivial
  rw [none, List.suffix_nil] at suffix
  subst suffix
  have sound : RegistryInvariant { s.registered dpll pin d p ⟨pinOps, priv, 0⟩ with faults := [] } :=
    (listening.sound.registered_pin liveD liveP free).withFaults []
  have orphans : ∀ q p₀, (s.registered dpll pin d p ⟨pinOps, priv, 0⟩).pin q = some p₀ →
      p₀.parentRefs.isEmpty :=
    forall_update.2 ⟨listening.orphans pin p liveP, fun q p₀ _ => listening.orphans q p₀⟩
  refine wp_dpllPinEventSend sound orphans rfl (fun p' live' on => ?_) fun off => ?_
  · obtain rfl := eq_of_update_self live'
    exact listening.of_pin liveD liveP rfl rfl (sound.of_ntfFrame ⟨_, _, rfl⟩) (.inr (.inl ⟨rfl, on⟩))
  · refine listening.of_pin liveD liveP rfl rfl sound (.inl ⟨rfl, iff_of_false off fun before => ?_⟩)
    obtain ⟨b, registered, on⟩ := before
    refine off ⟨b, (registered_of_refs liveD rfl b).2 registered, (on_update rfl pin b).2 ?_⟩
    rw [if_pos rfl, contents_addRef (listening.sound.dpllRefs pin p liveP)
      (deviceKey_of_live liveD) (listening.sound.free_dpllRefs liveD liveP), Function.update_apply]
    split_ifs
    · exact Option.some_ne_none _
    · exact (on_iff liveP).1 on

/-- The devices that a pin is on after one of its registrations was deleted. -/
theorem on_unregistered {reg : DpllPinRegistration} (inv : RegistryInvariant s)
    (liveP : s.pin pin = some p) (changed : t.pin = Function.update s.pin pin
      (some { p with dpllRefs := dpllXaRefDel p.dpllRefs dpll reg })) (b : Ptr) :
    t.On pin b ↔ if b = dpll then (contents p.dpllRefs dpll).bind (Registrations.drop reg) ≠ none
      else s.On pin b := by
  rw [on_update changed, if_pos rfl, contents_dpllXaRefDel (inv.dpllRefs pin p liveP),
    Function.update_apply]
  split_ifs
  · rfl
  · exact (on_iff liveP).symm

theorem listening_dpllPinUnregister (listening : Listening s) (none : s.faults = [])
    (announced : PinDisappears s dpll pin ⟨pinOps, priv, 0⟩) :
    wp (dpllPinUnregister dpll pin pinOps priv) (fun _ => Listening) (fun _ _ => True) s := by
  unfold dpllPinUnregister
  rw [wp_bind, wp_derefDevice]
  intro d liveD
  rw [wp_bind, wp_derefPin]
  intro p liveP
  split
  · rename_i both
    rw [wp_bind]
    refine wp_dpllPinEventSend listening.sound listening.orphans none (fun p' live' on => ?_)
      fun off => ?_
    · obtain rfl := Option.some.inj (liveP.symm.trans live')
      have last := announced d liveD both.1
        ((pinAvailable_iff listening.sound listening.orphans).2 on) p liveP
      have before : RegistryInvariant { s with sent := s.sent ++ [.pin .delete p.id] } :=
        listening.sound.of_ntfFrame ⟨_, _, rfl⟩
      refine wp_dpllPinUnregisterRefs before fun d' p' liveD' liveP' => ?_
      obtain rfl := Option.some.inj (liveD.symm.trans liveD')
      obtain rfl := Option.some.inj (liveP.symm.trans liveP')
      refine listening.of_pin liveD liveP rfl rfl (before.unregistered_pin liveD liveP)
        (.inr (.inr ⟨rfl, ?_⟩))
      rintro ⟨b, registered, still⟩
      rw [registered_of_refs (s := s) liveD rfl] at registered
      rw [on_unregistered listening.sound liveP rfl] at still
      have marked := (deviceMarked_iff listening.sound).2 registered
      split_ifs at still with same
      · subst same
        refine still ?_
        cases here : contents p.dpllRefs b with
        | none => rfl
        | some r =>
          obtain ⟨e, mem, value⟩ :=
            (listening.sound.dpllRefs pin p liveP).contents_eq_some_iff.1 here
          have ref := last e.value (XArray.mem_values.2 ⟨e, mem, rfl⟩) (by rwa [value])
          rw [value] at ref
          rw [Option.bind_some, Registrations.drop_of_mem ref.2.2, if_pos ref.2.1]
      · obtain ⟨ref, mem, target⟩ := contents_ne_none_iff.1 ((on_iff liveP).1 still)
        exact same (target.symm.trans (last ref mem (by rwa [target])).1)
    · refine wp_dpllPinUnregisterRefs listening.sound fun d p liveD liveP => ?_
      refine listening.of_pin liveD liveP rfl rfl (listening.sound.unregistered_pin liveD liveP)
        (.inl ⟨rfl, iff_of_false (fun after => ?_) off⟩)
      obtain ⟨b, registered, still⟩ := after
      refine off ⟨b, (registered_of_refs liveD rfl b).1 registered, ?_⟩
      rw [on_unregistered listening.sound liveP rfl] at still
      split_ifs at still with same
      · subst same
        refine (on_iff liveP).2 fun none => still ?_
        rw [none, Option.bind_none]
      · exact still
  · exact listening

end Pins

/-- A call that fails changes nothing. -/
theorem wp_error_of_registers {call : DpllCall} (inv : RegistryInvariant s)
    (registers : Registers call) :
    wp call.program (fun _ _ => True) (fun _ t => ∃ faults, t = { s with faults }) s := by
  cases call with
  | deviceRegister dpll type ops priv =>
    refine wp_dpllDeviceRegister_of (fun _ faults => ⟨faults, rfl⟩) (fun _ _ _ _ _ => ?_)
      fun _ _ _ _ _ => trivial
    exact (neverFails_dpllDeviceEventSend .create dpll).wp wp_true
  | deviceUnregister dpll ops priv => exact (neverFails_dpllDeviceUnregister ops priv).wp wp_true
  | pinRegister dpll pin ops priv =>
    refine wp_dpllPinRegister_of inv (fun d p _ _ _ _ _ => ?_) fun _ faults => ⟨faults, rfl⟩
    exact (neverFails_dpllPinEventSend .create pin).wp wp_true
  | pinUnregister dpll pin ops priv => exact (neverFails_dpllPinUnregister ops priv).wp wp_true
  | _ => exact registers.elim

theorem listening_program {call : DpllCall} (listening : Listening s) (none : s.faults = [])
    (registers : Registers call) (announced : AnnouncesChanges s (call, [])) :
    wp call.program (fun _ => Listening) (fun _ _ => True) s := by
  cases call with
  | deviceRegister dpll type ops priv => exact listening_dpllDeviceRegister listening none announced
  | deviceUnregister dpll ops priv => exact listening_dpllDeviceUnregister listening none announced
  | pinRegister dpll pin ops priv => exact listening_dpllPinRegister listening none
  | pinUnregister dpll pin ops priv => exact listening_dpllPinUnregister listening none announced
  | _ => exact registers.elim

end Calls

theorem Listening.announcesChanges {s : KernelState} (listening : Listening s)
    {a : DpllCall × List (Option Errno)} (announced : AnnouncesChanges s a) :
    AnnouncesChanges { s with faults := a.2 } a := by
  have available : ∀ q, KernelState.pinAvailable { s with faults := a.2 } q = s.pinAvailable q := by
    intro q
    rw [Bool.eq_iff_iff, pinAvailable_iff listening.sound listening.orphans,
      pinAvailable_iff (listening.withFaults a.2).sound listening.orphans]
    rfl
  obtain ⟨call, faults⟩ := a
  cases call with
  | deviceRegister dpll type ops priv =>
    intro none valid known d live first ref mem
    rw [available]
    exact announced none valid known d live first ref mem
  | deviceUnregister dpll ops priv => exact announced
  | pinUnregister dpll pin ops priv =>
    intro d live nonempty on
    rw [available] at on
    exact announced d live nonempty on
  | _ => trivial

/-! ## Runs -/

theorem listening_reachable {s : KernelState}
    (h : (listenerSystem.guard AnnouncesChanges).Reachable s) : Listening s := by
  refine h.induct (fun s init => ?_) fun s a t _ listening step => ?_
  · obtain ⟨⟨earlier, reachable⟩, unregistered, orphans, sent⟩ := init
    have within : ntfFrame.rel { s with sent := earlier } s := ⟨s.sent, s.faults, rfl⟩
    have sound := (registryInvariant_reachable reachable).of_ntfFrame within
    have none : ∀ b, ¬s.Registered b := fun b ⟨d, live, more⟩ => more (unregistered b d live).1
    have nothing : ∀ {id : Ptr → Option ℕ} {B : Ptr → Prop}, (∀ b, ¬B b) → idsOf id B = ∅ :=
      fun no => Set.eq_empty_of_forall_notMem fun _ ⟨b, _, holds⟩ => no b holds
    refine ⟨sound, orphans, ?_, ?_⟩
    · rw [sent, nothing none]
      exact Finset.coe_empty
    · rw [sent, nothing fun q ⟨b, registered, _⟩ => none b registered]
      exact Finset.coe_empty
  · obtain ⟨⟨registers, result, run, quiet⟩, announced⟩ := step
    obtain ⟨call, faults⟩ := a
    have start := listening.withFaults faults
    cases result with
    | ok _ =>
      obtain rfl := quiet rfl
      exact exec_ok_of_wp (listening_program start rfl registers
        (listening.announcesChanges announced)) run
    | error e =>
      obtain ⟨faults', rfl⟩ := exec_error_of_wp (wp_error_of_registers start.sound registers) run
      exact listening.withFaults faults'

/-- In every run of calls each of which announces what it changes, a listener holds exactly what is
registered. -/
theorem notifications_mirror_registry (s : KernelState)
    (h : (listenerSystem.guard AnnouncesChanges).Reachable s) : MirrorsRegistry s :=
  (listening_reachable h).mirrorsRegistry

/-! ## Given runs -/

section Given

variable (s : KernelState) (dpll pin : Ptr)

instance : Decidable (NoPinAppears s dpll) := by unfold NoPinAppears; infer_instance

instance (reg : DpllDeviceRegistration) : Decidable (OnlyDeviceDisappears s dpll reg) := by
  unfold OnlyDeviceDisappears; infer_instance

instance (reg : DpllPinRegistration) : Decidable (PinDisappears s dpll pin reg) := by
  unfold PinDisappears; infer_instance

instance : DecidablePred (AnnouncesChanges s)
  | (.deviceRegister dpll type ops _, faults) => inferInstanceAs (Decidable (
      faults = [] → ¬(ops.addr = 0 ∨ ¬ops.modeGet ∨ ¬ops.lockStatusGet) →
        ¬(type < DPLL_TYPE_PPS ∨ DPLL_TYPE_MAX < type) → NoPinAppears s dpll))
  | (.deviceUnregister dpll ops priv, _) =>
    inferInstanceAs (Decidable (OnlyDeviceDisappears s dpll ⟨ops, priv⟩))
  | (.pinUnregister dpll pin ops priv, _) =>
    inferInstanceAs (Decidable (PinDisappears s dpll pin ⟨ops, priv, 0⟩))
  | (.deviceGet .., _) | (.devicePut .., _) | (.pinGet .., _) | (.pinPut .., _)
  | (.pinRegister .., _) | (.pinOnPinRegister .., _) | (.pinOnPinUnregister .., _) =>
    instDecidableTrue

instance : DecidablePred Registers
  | .deviceRegister .. | .deviceUnregister .. | .pinRegister .. | .pinUnregister .. =>
    instDecidableTrue
  | .deviceGet .. | .devicePut .. | .pinGet .. | .pinPut .. | .pinOnPinRegister ..
  | .pinOnPinUnregister .. => instDecidableFalse

end Given

/-- One device and one pin, at the addresses 16 and 17, then the calls. -/
def afterListening (C : KernelState → DpllCall × List (Option Errno) → Prop)
    [∀ s a, Decidable (C s a)] (calls : List DpllCall) (test : KernelState → Bool) : Bool :=
  (TransitionSystem.follow afterCall (onePin.take 2) .loaded).any fun s =>
    (s.deviceXa.values.all fun dpll => (s.device dpll).all fun d =>
      d.registrationList = [] && d.pinRefs.isEmpty) &&
    (s.pinXa.values.all fun pin => (s.pin pin).all fun p => p.parentRefs.isEmpty) &&
    (TransitionSystem.follow
      (fun s a => if Registers a.1 ∧ a.2 = [] ∧ C s a then afterCall s a else none)
      (calls.map (·, [])) { s with sent := [] }).any test

theorem exists_of_afterListening {C : KernelState → DpllCall × List (Option Errno) → Prop}
    [∀ s a, Decidable (C s a)] (calls : List DpllCall) (test : KernelState → Bool)
    (passes : afterListening C calls test = true) :
    ∃ s, (listenerSystem.guard C).Reachable s ∧ test s = true := by
  obtain ⟨s, reachable, all⟩ := exists_reachable_of_follow _ _
    (fun a mem s => by fin_cases mem <;> trivial) passes
  obtain ⟨nothing, follows⟩ := Bool.and_eq_true_iff.1 all
  obtain ⟨devices, pins⟩ := Bool.and_eq_true_iff.1 nothing
  have sound := registryInvariant_reachable reachable
  have start : (listenerSystem.guard C).Reachable { s with sent := [] } := by
    refine .init ⟨⟨s.sent, reachable⟩, fun dpll d live => ?_, fun _ _ => sound.forall_pin pins, rfl⟩
    simpa using sound.forall_device devices live
  refine start.exists_of_follow _ test (fun a _ s t next => ?_) follows
  split at next
  · rename_i allowed
    obtain ⟨registers, none, holds⟩ := allowed
    obtain ⟨result, run⟩ := step_of_afterCall next
    exact ⟨⟨registers, result, run, fun _ => none⟩, holds⟩
  · cases next

/-- The callbacks that a device needs. -/
def plainDeviceOps : DpllDeviceOps := ⟨3, true, true⟩

/-- A device and a pin are there, and the listener knows both. -/
theorem notifications_mirror_registry_pin :
    ∃ s : KernelState, heard s.sent = ⟨{0}, {0}⟩ ∧ MirrorsRegistry s := by
  obtain ⟨s, reachable, both⟩ := exists_of_afterListening (C := AnnouncesChanges)
    [.deviceRegister 16 DPLL_TYPE_PPS plainDeviceOps 4, .pinRegister 16 17 plainPinOps 5,
      .pinUnregister 16 17 plainPinOps 5, .pinRegister 16 17 plainPinOps 6]
    (fun s => heard s.sent = ⟨{0}, {0}⟩) (by decide +kernel)
  exact ⟨s, of_decide_eq_true both, notifications_mirror_registry s reachable⟩

/-- With two owners a device or a pin is announced as deleted when the first of them leaves, and a
pin that becomes available with its device is not announced. -/
theorem not_notifications_mirror_registry :
    (∃ s, listenerSystem.Reachable s ∧ s.deviceMarked 16 = true ∧
      s.sent = [.device .create 0 ⟨plainDeviceOps, 4⟩, .device .delete 0 ⟨plainDeviceOps, 4⟩]) ∧
    (∃ s, listenerSystem.Reachable s ∧ s.pinAvailable 17 = true ∧
      s.sent = [.device .create 0 ⟨plainDeviceOps, 4⟩, .pin .create 0, .pin .create 0,
        .pin .delete 0]) ∧
    (∃ s, listenerSystem.Reachable s ∧ s.pinAvailable 17 = true ∧
      s.sent = [.device .create 0 ⟨plainDeviceOps, 4⟩]) ∧
    ¬∀ s, listenerSystem.Reachable s → MirrorsRegistry s := by
  have gone : ∃ s, listenerSystem.Reachable s ∧ s.deviceMarked 16 = true ∧
      s.sent = [.device .create 0 ⟨plainDeviceOps, 4⟩, .device .delete 0 ⟨plainDeviceOps, 4⟩] := by
    obtain ⟨s, reachable, both⟩ := exists_of_afterListening (C := fun _ _ => True)
      [.deviceRegister 16 DPLL_TYPE_PPS plainDeviceOps 4,
        .deviceRegister 16 DPLL_TYPE_PPS plainDeviceOps 5, .deviceUnregister 16 plainDeviceOps 4]
      (fun s => s.deviceMarked 16 = true ∧ s.sent =
        [.device .create 0 ⟨plainDeviceOps, 4⟩, .device .delete 0 ⟨plainDeviceOps, 4⟩])
      (by decide +kernel)
    exact ⟨s, reachable.of_guard, of_decide_eq_true both⟩
  have shared : ∃ s, listenerSystem.Reachable s ∧ s.pinAvailable 17 = true ∧
      s.sent = [.device .create 0 ⟨plainDeviceOps, 4⟩, .pin .create 0, .pin .create 0,
        .pin .delete 0] := by
    obtain ⟨s, reachable, both⟩ := exists_of_afterListening (C := fun _ _ => True)
      [.deviceRegister 16 DPLL_TYPE_PPS plainDeviceOps 4, .pinRegister 16 17 plainPinOps 5,
        .pinRegister 16 17 plainPinOps 6, .pinUnregister 16 17 plainPinOps 5]
      (fun s => s.pinAvailable 17 = true ∧ s.sent =
        [.device .create 0 ⟨plainDeviceOps, 4⟩, .pin .create 0, .pin .create 0, .pin .delete 0])
      (by decide +kernel)
    exact ⟨s, reachable.of_guard, of_decide_eq_true both⟩
  have brought : ∃ s, listenerSystem.Reachable s ∧ s.pinAvailable 17 = true ∧
      s.sent = [.device .create 0 ⟨plainDeviceOps, 4⟩] := by
    obtain ⟨s, reachable, both⟩ := exists_of_afterListening (C := fun _ _ => True)
      [.pinRegister 16 17 plainPinOps 5, .deviceRegister 16 DPLL_TYPE_PPS plainDeviceOps 4]
      (fun s => s.pinAvailable 17 = true ∧ s.sent = [.device .create 0 ⟨plainDeviceOps, 4⟩])
      (by decide +kernel)
    exact ⟨s, reachable.of_guard, of_decide_eq_true both⟩
  refine ⟨gone, shared, brought, fun all => ?_⟩
  obtain ⟨s, reachable, marked, sent⟩ := gone
  obtain ⟨d, live, -⟩ := (Option.any_eq_true _ _).1 marked
  have held : d.id ∈ (heard s.sent).devices := by
    rw [← Finset.mem_coe, (all s reachable).1]
    exact ⟨16, deviceKey_of_live live, marked⟩
  rw [sent] at held
  exact Finset.notMem_empty d.id held

end Netdevsim
