import Netdevsim.Dpll.Core

/-!
# What pin operations change of the devices

An operation on pins leaves the devices of the core as they are but for the pins registered on
them (`pinFrame`).
-/

namespace Netdevsim

open Program

/-! ## Operations that leave the devices alone -/

/-- The device without its pins. -/
def DpllDevice.bare (d : DpllDevice) : DpllDevice := { d with pinRefs := .empty }

/-- All changes that leave the devices as they are, but for their pins. -/
def pinFrame : Frame KernelState where
  rel s t := (∀ p, (t.device p).map DpllDevice.bare = (s.device p).map DpllDevice.bare) ∧
    t.deviceXa = s.deviceXa ∧ s.nextPtr ≤ t.nextPtr
  refl _ := ⟨fun _ => rfl, rfl, le_rfl⟩
  trans := fun ⟨dev, xa, next⟩ ⟨dev', xa', next'⟩ =>
    ⟨fun p => (dev' p).trans (dev p), xa'.trans xa, next.trans next'⟩

section Basic

variable {s t : KernelState} {dpll pin : Ptr} {E : Errno → KernelState → Prop}

@[simp] theorem wp_derefDevice {Q : DpllDevice → KernelState → Prop} :
    wp (derefDevice dpll) Q E s ↔ ∀ d, s.device dpll = some d → Q d s := by
  unfold derefDevice
  rw [wp_bind, wp_get]
  cases s.device dpll <;> simp

@[simp] theorem wp_derefPin {Q : DpllPin → KernelState → Prop} :
    wp (derefPin pin) Q E s ↔ ∀ p, s.pin pin = some p → Q p s := by
  unfold derefPin
  rw [wp_bind, wp_get]
  cases s.pin pin <;> simp

@[simp] theorem wp_setDevice {d : DpllDevice} {Q : Unit → KernelState → Prop} :
    wp (setDevice dpll d) Q E s ↔ Q () { s with device := Function.update s.device dpll (some d) } :=
  Iff.rfl

@[simp] theorem wp_setPin {p : DpllPin} {Q : Unit → KernelState → Prop} :
    wp (setPin pin p) Q E s ↔ Q () { s with pin := Function.update s.pin pin (some p) } :=
  Iff.rfl

/-- Whether the next call fails is read off the list of faults. -/
theorem wp_fault_iff {Q : Option Errno → KernelState → Prop} :
    wp fault Q E s ↔ Q (s.faults.headD none) { s with faults := s.faults.tail } := by
  unfold fault
  rw [wp_bind, wp_get]
  cases faults : s.faults with
  | nil =>
    rw [wp_pure, List.headD_nil, List.tail_nil, ← faults]
  | cons f fs => exact Iff.rfl

theorem wp_fault {Q : Option Errno → KernelState → Prop}
    (any : ∀ f faults, Q f { s with faults }) : wp fault Q E s :=
  wp_fault_iff.2 (any _ _)

/-- What is left of the list of faults after some calls that may fail. -/
theorem wp_mayRunOut_suffix {Q : Unit → KernelState → Prop}
    (ok : ∀ faults, faults <:+ s.faults → Q () { s with faults })
    (error : ∀ faults, E .ENOMEM { s with faults }) : wp mayRunOut Q E s := by
  unfold mayRunOut
  rw [wp_bind, wp_fault_iff]
  cases s.faults.headD none with
  | none => exact ok _ (List.tail_suffix _)
  | some e => exact error _

theorem wp_mayRunOut {Q : Unit → KernelState → Prop} (ok : ∀ faults, Q () { s with faults })
    (error : ∀ faults, E .ENOMEM { s with faults }) : wp mayRunOut Q E s :=
  wp_mayRunOut_suffix (fun faults _ => ok faults) error

theorem wp_kzalloc {size : ℕ} {Q : Ptr → KernelState → Prop}
    (ok : ∀ faults, Q s.nextPtr { s with nextPtr := s.nextPtr + size, faults })
    (error : ∀ faults, E .ENOMEM { s with faults }) : wp (kzalloc size) Q E s := by
  unfold kzalloc
  rw [wp_bind]
  exact wp_mayRunOut ok error

theorem keeps_fault : Keeps pinFrame fault :=
  fun _ => wp_fault fun _ _ => ⟨fun _ => rfl, rfl, le_rfl⟩

theorem keeps_mayFail : Keeps pinFrame mayFail := by
  apply keeps_fault.bind
  rintro (_ | e)
  · exact keeps_pure _
  · exact keeps_throw _

theorem keeps_mayRunOut : Keeps pinFrame mayRunOut := fun _ =>
  wp_mayRunOut (fun _ => ⟨fun _ => rfl, rfl, le_rfl⟩) fun _ => ⟨fun _ => rfl, rfl, le_rfl⟩

theorem keeps_kzalloc (size : ℕ) : Keeps pinFrame (kzalloc size) := fun _ =>
  wp_kzalloc (fun _ => ⟨fun _ => rfl, rfl, Nat.le_add_right _ _⟩) fun _ =>
    ⟨fun _ => rfl, rfl, le_rfl⟩

theorem keeps_derefDevice (dpll : Ptr) : Keeps pinFrame (derefDevice dpll) :=
  fun s => wp_derefDevice.2 fun _ _ => pinFrame.refl s

theorem keeps_derefPin (pin : Ptr) : Keeps pinFrame (derefPin pin) :=
  fun s => wp_derefPin.2 fun _ _ => pinFrame.refl s

theorem keeps_setPin (pin : Ptr) (p : DpllPin) : Keeps pinFrame (setPin pin p) :=
  keeps_modify fun _ => ⟨fun _ => rfl, rfl, le_rfl⟩

/-- The pins of a device are not part of what the frame keeps. -/
theorem pinFrame_setPinRefs {d : DpllDevice} (pinRefs : XArray DpllPinRef)
    (device : (s.device dpll).map DpllDevice.bare = some d.bare) :
    pinFrame.rel s { s with
      device := Function.update s.device dpll (some { d with pinRefs }) } := by
  refine ⟨fun p => ?_, rfl, le_rfl⟩
  show (Function.update s.device dpll (some { d with pinRefs }) p).map _ = _
  by_cases same : p = dpll
  · subst same
    rw [Function.update_self, device]
    rfl
  · rw [Function.update_of_ne same]

end Basic

section Notifications

/-- All changes of nothing but the notifications sent and what the coming calls return. -/
def ntfFrame : Frame KernelState where
  rel s t := ∃ sent faults, t = { s with sent, faults }
  refl s := ⟨s.sent, s.faults, rfl⟩
  trans := by
    rintro s t u ⟨_, _, rfl⟩ ⟨sent, faults, rfl⟩
    exact ⟨sent, faults, rfl⟩

theorem sends_fault : Keeps ntfFrame fault := fun s => wp_fault fun _ faults => ⟨s.sent, faults, rfl⟩

theorem sends_derefDevice (dpll : Ptr) : Keeps ntfFrame (derefDevice dpll) :=
  fun s => wp_derefDevice.2 fun _ _ => ntfFrame.refl s

theorem sends_derefPin (pin : Ptr) : Keeps ntfFrame (derefPin pin) :=
  fun s => wp_derefPin.2 fun _ _ => ntfFrame.refl s

theorem sends_dpllDeviceRegistrationFirst (dpll : Ptr) :
    Keeps ntfFrame (dpllDeviceRegistrationFirst dpll) := by
  apply (sends_derefDevice dpll).bind
  intro d
  cases d.registrationList with
  | nil => exact keeps_goWrong
  | cons reg _ => exact keeps_pure reg

theorem sends_dpllDeviceEventSend (cmd : DpllNtfCmd) (dpll : Ptr) :
    Keeps ntfFrame (dpllDeviceEventSend cmd dpll) := by
  apply (sends_derefDevice dpll).bind
  intro d
  apply keeps_get.bind
  intro s
  split
  · apply sends_fault.bind
    rintro (_ | e)
    · apply (sends_dpllDeviceRegistrationFirst dpll).bind
      exact fun _ => keeps_modify fun s => ⟨_, s.faults, rfl⟩
    · exact keeps_pure _
  · exact keeps_pure _

theorem sends_dpllPinAvailable (pin : Ptr) : Keeps ntfFrame (dpllPinAvailable pin) := by
  apply (sends_derefPin pin).bind
  intro p
  apply keeps_get.bind
  intro s
  split
  · apply Keeps.bind
    · apply keeps_anyM
      intro ref _
      exact (sends_derefPin _).bind fun _ => keeps_pure _
    · rintro (_ | _)
      · apply keeps_anyM
        intro ref _
        exact (sends_derefDevice _).bind fun _ => keeps_pure _
      · exact keeps_pure _
  · exact keeps_pure _

theorem sends_dpllPinEventSend (cmd : DpllNtfCmd) (pin : Ptr) :
    Keeps ntfFrame (dpllPinEventSend cmd pin) := by
  apply (sends_derefPin pin).bind
  intro p
  apply (sends_dpllPinAvailable pin).bind
  rintro (_ | _)
  · exact keeps_pure _
  · apply sends_fault.bind
    rintro (_ | e)
    · exact keeps_modify fun s => ⟨_, s.faults, rfl⟩
    · exact keeps_pure _

theorem pinFrame_of_ntfFrame (s t : KernelState) (within : ntfFrame.rel s t) : pinFrame.rel s t := by
  obtain ⟨_, _, rfl⟩ := within
  exact ⟨fun _ => rfl, rfl, le_rfl⟩

theorem keeps_dpllDeviceEventSend (cmd : DpllNtfCmd) (dpll : Ptr) :
    Keeps pinFrame (dpllDeviceEventSend cmd dpll) :=
  (sends_dpllDeviceEventSend cmd dpll).mono pinFrame_of_ntfFrame

theorem keeps_dpllPinEventSend (cmd : DpllNtfCmd) (pin : Ptr) :
    Keeps pinFrame (dpllPinEventSend cmd pin) :=
  (sends_dpllPinEventSend cmd pin).mono pinFrame_of_ntfFrame

theorem keeps_dpllNetdevPinAssign (ns dpllPin : Ptr) :
    Keeps pinFrame (dpllNetdevPinAssign ns dpllPin) := by
  apply keeps_get.bind
  intro s
  split
  · exact keeps_modify fun _ => ⟨fun _ => rfl, rfl, le_rfl⟩
  · exact keeps_goWrong

end Notifications

section Pins

variable {dpll pin : Ptr} {reg : DpllPinRegistration}

theorem keeps_dpllXaRefAdd (xa : XArray DpllPinRef) (target : Ptr) (index : ℕ) :
    Keeps pinFrame (dpllXaRefAdd xa target index reg) := by
  unfold dpllXaRefAdd
  split
  · split
    · exact keeps_pure _
    · exact keeps_mayRunOut.bind fun _ => keeps_pure _
  · apply keeps_mayRunOut.bind
    intro _
    apply (keeps_failIf _).bind
    intro _
    exact keeps_mayRunOut.bind fun _ => keeps_mayRunOut.bind fun _ => keeps_pure _

theorem keeps_dpllPinRefsDel : Keeps pinFrame (dpllPinRefsDel dpll pin reg) := by
  intro s
  unfold dpllPinRefsDel
  simp only [wp_bind, wp_derefDevice, wp_setDevice]
  intro d device
  apply pinFrame_setPinRefs
  rw [device]
  rfl

theorem keeps_dpllPinRegisterRefs : Keeps pinFrame (_dpllPinRegister dpll pin reg) := by
  intro s
  unfold _dpllPinRegister
  rw [wp_bind, wp_derefDevice]
  intro d device
  have add : Keeps pinFrame (dpllXaRefPinAdd d.pinRefs pin reg) :=
    (keeps_derefPin pin).bind fun p => keeps_dpllXaRefAdd _ _ _
  rw [wp_bind]
  apply wp_mono (add s) _ fun _ _ => id
  intro pinRefs t before
  rw [wp_bind, wp_setDevice]
  have same : (t.device dpll).map DpllDevice.bare = some d.bare := by
    rw [before.1, device]
    rfl
  have set := pinFrame.trans before (pinFrame_setPinRefs pinRefs same)
  have rest : Keeps pinFrame (do
      unwind (dpllPinRefsDel dpll pin reg) do
        let p ← derefPin pin
        let dpllRefs ← dpllXaRefDpllAdd p.dpllRefs dpll reg
        setPin pin { p with dpllRefs }
      let p ← derefPin pin
      modify fun s => { s with pinXa := s.pinXa.setMark p.id true }
      dpllPinEventSend .create pin) := by
    apply Keeps.bind
    · apply keeps_dpllPinRefsDel.unwind
      apply (keeps_derefPin pin).bind
      intro p
      apply Keeps.bind
      · exact (keeps_derefDevice dpll).bind fun d => keeps_dpllXaRefAdd _ _ _
      · exact fun _ => keeps_setPin _ _
    · intro _
      apply (keeps_derefPin pin).bind
      intro p
      apply Keeps.bind
      · exact keeps_modify fun _ => ⟨fun _ => rfl, rfl, le_rfl⟩
      · exact fun _ => keeps_dpllPinEventSend _ _
  exact wp_mono (rest _) (fun _ _ => pinFrame.trans set) fun _ _ => pinFrame.trans set

theorem keeps_dpllPinRegister (ops : DpllPinOps) (priv : Ptr) :
    Keeps pinFrame (dpllPinRegister dpll pin ops priv) := by
  apply (keeps_failIf _).bind
  intro _
  apply (keeps_derefDevice dpll).bind
  intro d
  apply (keeps_derefPin pin).bind
  intro p
  exact (keeps_failIf _).bind fun _ => keeps_dpllPinRegisterRefs

theorem keeps_dpllPinUnregister (ops : DpllPinOps) (priv : Ptr) :
    Keeps pinFrame (dpllPinUnregister dpll pin ops priv) := by
  apply (keeps_derefDevice dpll).bind
  intro d
  apply (keeps_derefPin pin).bind
  intro p
  split
  · apply (keeps_dpllPinEventSend _ _).bind
    intro _
    apply keeps_dpllPinRefsDel.bind
    intro _
    apply (keeps_derefPin pin).bind
    intro p
    apply (keeps_setPin _ _).bind
    intro _
    split
    · exact keeps_modify fun _ => ⟨fun _ => rfl, rfl, le_rfl⟩
    · exact keeps_pure _
  · exact keeps_pure _

theorem keeps_kmemdup (present : Bool) : Keeps pinFrame (kmemdup present) := by
  cases present
  · exact keeps_pure _
  · exact keeps_mayRunOut

theorem keeps_dpllPinPropDup (src : DpllPinProperties) : Keeps pinFrame (dpllPinPropDup src) := by
  apply (keeps_kmemdup _).bind
  intro _
  apply (keeps_kmemdup _).bind
  intro _
  apply (keeps_kmemdup _).bind
  intro _
  exact (keeps_kmemdup _).bind fun _ => keeps_pure _

theorem keeps_dpllPinAlloc (clockId : UInt64) (pinIdx : UInt32) (module : Ptr)
    (prop : DpllPinProperties) : Keeps pinFrame (dpllPinAlloc clockId pinIdx module prop) := by
  apply (keeps_kzalloc 1).bind
  intro pin
  apply (keeps_failIf _).bind
  intro _
  apply (keeps_dpllPinPropDup prop).bind
  intro prop
  apply keeps_mayRunOut.bind
  intro _
  apply keeps_get_bind
  intro s
  split
  · exact pinFrame.refl s
  · exact ⟨fun _ => rfl, rfl, le_rfl⟩
  · exact ⟨fun _ => rfl, rfl, le_rfl⟩

/-- The search finds an address of a pin, or reads all. -/
theorem wp_dpllPinLookup {clockId : UInt64} {pinIdx : UInt32} {module : Ptr} {pins : List Ptr}
    {s : KernelState} {Q : Option Ptr → KernelState → Prop} {E : Errno → KernelState → Prop}
    (found : ∀ q ∈ pins, ∀ p, s.pin q = some p → p.clockId = clockId → p.pinIdx = pinIdx →
      p.module = module → Q (some q) s)
    (missing : (∀ q ∈ pins, ∀ p, s.pin q = some p →
      ¬(p.clockId = clockId ∧ p.pinIdx = pinIdx ∧ p.module = module)) → Q none s) :
    wp (dpllPinLookup clockId pinIdx module pins) Q E s := by
  induction pins with
  | nil => exact missing fun q mem => absurd mem List.not_mem_nil
  | cons q pins ih =>
    rw [dpllPinLookup, wp_bind, wp_derefPin]
    intro p live
    split
    · rename_i hit
      exact found q List.mem_cons_self p live hit.1 hit.2.1 hit.2.2
    · rename_i miss
      refine ih (fun q' mem => found q' (List.mem_cons_of_mem _ mem)) fun others => ?_
      refine missing fun q' mem p' live' => ?_
      rcases List.mem_cons.1 mem with rfl | mem
      · rw [live] at live'
        cases live'
        exact miss
      · exact others q' mem p' live'

theorem wp_kmemdup {s : KernelState} {present : Bool} {Q : Unit → KernelState → Prop}
    {E : Errno → KernelState → Prop} (ok : ∀ faults, Q () { s with faults })
    (error : ∀ faults, E .ENOMEM { s with faults }) : wp (kmemdup present) Q E s := by
  unfold kmemdup
  split
  · exact wp_mayRunOut ok error
  · exact ok s.faults

theorem wp_dpllPinPropDup {s : KernelState} {src : DpllPinProperties}
    {Q : DpllPinProperties → KernelState → Prop} {E : Errno → KernelState → Prop}
    (ok : ∀ faults, Q src { s with faults })
    (error : ∀ faults, E .ENOMEM { s with faults }) : wp (dpllPinPropDup src) Q E s := by
  unfold dpllPinPropDup
  rw [wp_bind]
  refine wp_kmemdup (fun _ => ?_) error
  rw [wp_bind]
  refine wp_kmemdup (fun _ => ?_) error
  rw [wp_bind]
  refine wp_kmemdup (fun _ => ?_) error
  rw [wp_bind]
  exact wp_kmemdup ok error

/-- An allocation of a pin fails, or lists a new pin with one reference.  When the ids wrap around,
the pin is listed and forgotten. -/
theorem wp_dpllPinAlloc_of {clockId : UInt64} {pinIdx : UInt32} {module : Ptr}
    {prop : DpllPinProperties} {s : KernelState} {Q : Ptr → KernelState → Prop}
    {E : Errno → KernelState → Prop}
    (made : ∀ id pinXa pinXaId faults,
      s.pinXa.allocCyclic s.pinXaId XA_LIMIT_32B_MAX s.nextPtr = some (id, false, pinXa, pinXaId) →
        Q s.nextPtr { s with
          nextPtr := s.nextPtr + 1
          faults
          pinXa
          pinXaId
          pin := Function.update s.pin s.nextPtr (some
            ⟨id, pinIdx, clockId, module, .empty, .empty, prop, 1⟩) })
    (wrapped : ∀ id pinXa pinXaId faults,
      s.pinXa.allocCyclic s.pinXaId XA_LIMIT_32B_MAX s.nextPtr = some (id, true, pinXa, pinXaId) →
        Q 1 { s with nextPtr := s.nextPtr + 1, faults, pinXa, pinXaId })
    (failed : ∀ e size faults, E e { s with nextPtr := s.nextPtr + size, faults }) :
    wp (dpllPinAlloc clockId pinIdx module prop) Q E s := by
  unfold dpllPinAlloc
  rw [wp_bind]
  refine wp_kzalloc (fun faults => ?_) (failed _ 0)
  rw [wp_bind, wp_failIf]
  refine ⟨fun _ => failed _ 1 faults, fun _ => ?_⟩
  rw [wp_bind]
  refine wp_dpllPinPropDup (fun faults => ?_) (failed _ 1)
  rw [wp_bind]
  refine wp_mayRunOut (fun faults => ?_) (failed _ 1)
  rw [wp_bind, wp_get]
  dsimp only
  split
  · exact failed _ 1 faults
  · rename_i alloc
    exact wrapped _ _ _ faults alloc
  · rename_i alloc
    exact made _ _ _ faults alloc

/-- Getting a pin counts a reference to the listed one, or allocates it. -/
theorem wp_dpllPinGet_of {clockId : UInt64} {pinIdx : UInt32} {module : Ptr}
    {prop : DpllPinProperties} {s : KernelState} {Q : Ptr → KernelState → Prop}
    {E : Errno → KernelState → Prop}
    (found : ∀ q ∈ s.pinXa.values, ∀ p, s.pin q = some p → p.clockId = clockId →
      p.pinIdx = pinIdx → p.module = module → Q q { s with
        pin := Function.update s.pin q (some { p with refcount := p.refcount + 1 }) })
    (missing : (∀ q ∈ s.pinXa.values, ∀ p, s.pin q = some p →
      ¬(p.clockId = clockId ∧ p.pinIdx = pinIdx ∧ p.module = module)) →
        wp (dpllPinAlloc clockId pinIdx module prop) Q E s) :
    wp (dpllPinGet clockId pinIdx module prop) Q E s := by
  unfold dpllPinGet
  rw [wp_bind, wp_get, wp_bind]
  refine wp_dpllPinLookup (fun q mem p live clock index owner => ?_) missing
  rw [wp_bind, wp_derefPin]
  intro p' live'
  rw [live] at live'
  cases live'
  exact found q mem p live clock index owner

theorem keeps_dpllPinLookup (clockId : UInt64) (pinIdx : UInt32) (module : Ptr) (pins : List Ptr) :
    Keeps pinFrame (dpllPinLookup clockId pinIdx module pins) := by
  induction pins with
  | nil => exact keeps_pure _
  | cons pin pins ih =>
    apply (keeps_derefPin pin).bind
    intro p
    split
    · exact keeps_pure _
    · exact ih

theorem keeps_dpllPinGet (clockId : UInt64) (pinIdx : UInt32) (module : Ptr)
    (prop : DpllPinProperties) : Keeps pinFrame (dpllPinGet clockId pinIdx module prop) := by
  apply keeps_get.bind
  intro s
  apply (keeps_dpllPinLookup _ _ _ _).bind
  rintro (_ | pin)
  · exact keeps_dpllPinAlloc _ _ _ _
  · apply (keeps_derefPin pin).bind
    intro p
    exact (keeps_setPin _ _).bind fun _ => keeps_pure _

theorem keeps_dpllPinPut (pin : Ptr) : Keeps pinFrame (dpllPinPut pin) := by
  apply (keeps_derefPin pin).bind
  intro p
  split
  · exact keeps_modify fun _ => ⟨fun _ => rfl, rfl, le_rfl⟩
  · exact keeps_setPin _ _

end Pins

/-! ## Operations that do not fail

Nothing that is part of tearing down returns an error: whether a notification could be sent is
nobody's concern. -/

section NeverFails

variable {dpll pin : Ptr}

theorem neverFails_fault : NeverFails fault := fun _ => wp_fault fun _ _ => trivial

theorem neverFails_derefDevice (dpll : Ptr) : NeverFails (derefDevice dpll) :=
  fun _ => wp_derefDevice.2 fun _ _ => trivial

theorem neverFails_derefPin (pin : Ptr) : NeverFails (derefPin pin) :=
  fun _ => wp_derefPin.2 fun _ _ => trivial

theorem neverFails_dpllDeviceRegistrationFirst (dpll : Ptr) :
    NeverFails (dpllDeviceRegistrationFirst dpll) := by
  apply (neverFails_derefDevice dpll).bind
  intro d
  cases d.registrationList with
  | nil => exact neverFails_goWrong
  | cons reg _ => exact neverFails_pure reg

theorem neverFails_dpllDeviceEventSend (cmd : DpllNtfCmd) (dpll : Ptr) :
    NeverFails (dpllDeviceEventSend cmd dpll) := by
  apply (neverFails_derefDevice dpll).bind
  intro d
  apply neverFails_get.bind
  intro s
  split
  · apply neverFails_fault.bind
    rintro (_ | e)
    · apply (neverFails_dpllDeviceRegistrationFirst dpll).bind
      exact fun _ => neverFails_modify
    · exact neverFails_pure _
  · exact neverFails_pure _

theorem neverFails_dpllPinAvailable (pin : Ptr) : NeverFails (dpllPinAvailable pin) := by
  apply (neverFails_derefPin pin).bind
  intro p
  apply neverFails_get.bind
  intro s
  split
  · apply NeverFails.bind
    · apply neverFails_anyM
      intro ref _
      exact (neverFails_derefPin _).bind fun _ => neverFails_pure _
    · rintro (_ | _)
      · apply neverFails_anyM
        intro ref _
        exact (neverFails_derefDevice _).bind fun _ => neverFails_pure _
      · exact neverFails_pure _
  · exact neverFails_pure _

theorem neverFails_dpllPinEventSend (cmd : DpllNtfCmd) (pin : Ptr) :
    NeverFails (dpllPinEventSend cmd pin) := by
  apply (neverFails_derefPin pin).bind
  intro p
  apply (neverFails_dpllPinAvailable pin).bind
  rintro (_ | _)
  · exact neverFails_pure _
  · apply neverFails_fault.bind
    rintro (_ | e)
    · exact neverFails_modify
    · exact neverFails_pure _

theorem neverFails_dpllNetdevPinAssign (ns dpllPin : Ptr) :
    NeverFails (dpllNetdevPinAssign ns dpllPin) := by
  apply neverFails_get.bind
  intro s
  split
  · exact neverFails_modify
  · exact neverFails_goWrong

theorem neverFails_dpllPinUnregister (ops : DpllPinOps) (priv : Ptr) :
    NeverFails (dpllPinUnregister dpll pin ops priv) := by
  apply (neverFails_derefDevice dpll).bind
  intro d
  apply (neverFails_derefPin pin).bind
  intro p
  split
  · apply (neverFails_dpllPinEventSend _ _).bind
    intro _
    apply NeverFails.bind
    · exact (neverFails_derefDevice dpll).bind fun _ => neverFails_modify
    · intro _
      apply (neverFails_derefPin pin).bind
      intro p
      apply neverFails_modify.bind
      intro _
      split
      · exact neverFails_modify
      · exact neverFails_pure _
  · exact neverFails_pure _

theorem neverFails_dpllPinPut (pin : Ptr) : NeverFails (dpllPinPut pin) := by
  apply (neverFails_derefPin pin).bind
  intro p
  split
  · exact neverFails_modify
  · exact neverFails_modify

theorem neverFails_dpllDeviceUnregister (ops : DpllDeviceOps) (priv : Ptr) :
    NeverFails (dpllDeviceUnregister dpll ops priv) := by
  apply (neverFails_dpllDeviceEventSend _ _).bind
  intro _
  apply (neverFails_derefDevice dpll).bind
  intro d
  split
  · apply neverFails_modify.bind
    intro _
    split
    · exact neverFails_modify
    · exact neverFails_pure _
  · exact neverFails_pure _

theorem neverFails_dpllDevicePut (dpll : Ptr) : NeverFails (dpllDevicePut dpll) := by
  apply (neverFails_derefDevice dpll).bind
  intro d
  split
  · exact neverFails_modify
  · exact neverFails_modify

end NeverFails

end Netdevsim
