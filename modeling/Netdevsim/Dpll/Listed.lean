import Netdevsim.Dpll.TwoSided

/-!
# What the arrays list

The arrays of devices and pins list what is there by its ids, whatever refers to it.  An id that was
lost to a pin that was freed at once is not marked.
-/

namespace Netdevsim

open Program

/-- Each object is listed at its id, which has 32 bits.  What is listed is a device with that id, or,
if it is marked, a pin with that id. -/
structure Listed (s : KernelState) : Prop where
  deviceAt : ∀ dpll d, s.device dpll = some d → s.deviceXa.load d.id = some dpll
  pinAt : ∀ pin p, s.pin pin = some p → s.pinXa.load p.id = some pin
  freshDevice : ∀ dpll d, s.device dpll = some d → dpll < s.nextPtr
  freshPin : ∀ pin p, s.pin pin = some p → pin < s.nextPtr
  deviceId : ∀ dpll d, s.device dpll = some d → d.id ≤ XA_LIMIT_32B_MAX
  pinId : ∀ pin p, s.pin pin = some p → p.id ≤ XA_LIMIT_32B_MAX
  device : ∀ e ∈ s.deviceXa.entries, ∃ d, s.device e.value = some d ∧ d.id = e.index
  pin : ∀ e ∈ s.pinXa.entries, e.mark = true → ∃ p, s.pin e.value = some p ∧ p.id = e.index

namespace Listed

variable {s t : KernelState} {dpll pin : Ptr} {d : DpllDevice} {p : DpllPin}

theorem unused_device (listed : Listed s) : s.device s.nextPtr = none := by
  cases live : s.device s.nextPtr with
  | none => rfl
  | some d => exact absurd (listed.freshDevice _ d live) (lt_irrefl _)

theorem unused_pin (listed : Listed s) : s.pin s.nextPtr = none := by
  cases live : s.pin s.nextPtr with
  | none => rfl
  | some p => exact absurd (listed.freshPin _ p live) (lt_irrefl _)

/-- What is not listed does not matter. -/
theorem of_eq (listed : Listed s) (device : t.device = s.device) (pin : t.pin = s.pin)
    (deviceXa : t.deviceXa = s.deviceXa) (pinXa : t.pinXa = s.pinXa) (next : s.nextPtr ≤ t.nextPtr) :
    Listed t := by
  constructor
  · rw [device, deviceXa]
    exact listed.deviceAt
  · rw [pin, pinXa]
    exact listed.pinAt
  · rw [device]
    exact fun dpll d live => (listed.freshDevice dpll d live).trans_le next
  · rw [pin]
    exact fun pin p live => (listed.freshPin pin p live).trans_le next
  · rw [device]
    exact listed.deviceId
  · rw [pin]
    exact listed.pinId
  · rw [device, deviceXa]
    exact listed.device
  · rw [pin, pinXa]
    exact listed.pin

theorem withFaults (listed : Listed s) (faults : List (Option Errno)) :
    Listed { s with faults } := listed.of_eq rfl rfl rfl rfl le_rfl

theorem grown (listed : Listed s) (size : ℕ) (faults : List (Option Errno)) :
    Listed { s with nextPtr := s.nextPtr + size, faults } :=
  listed.of_eq rfl rfl rfl rfl (Nat.le_add_right _ _)

theorem of_ntfFrame (within : ntfFrame.rel s t) (listed : Listed s) : Listed t := by
  obtain ⟨_, _, rfl⟩ := within
  exact listed.of_eq rfl rfl rfl rfl le_rfl

/-- Changing a device in all but its id. -/
theorem setDevice (listed : Listed s) (live : s.device dpll = some d) (d' : DpllDevice)
    (id : d'.id = d.id) :
    Listed { s with device := Function.update s.device dpll (some d') } := by
  refine ⟨forall_update.2 ⟨?_, fun q d₀ _ => listed.deviceAt q d₀⟩, listed.pinAt,
    forall_update.2 ⟨listed.freshDevice dpll d live, fun q d₀ _ => listed.freshDevice q d₀⟩,
    listed.freshPin,
    forall_update.2 ⟨id.trans_le (listed.deviceId dpll d live), fun q d₀ _ => listed.deviceId q d₀⟩,
    listed.pinId, fun e mem => ?_, listed.pin⟩
  · rw [id]
    exact listed.deviceAt dpll d live
  · obtain ⟨d₀, live₀, same⟩ := listed.device e mem
    by_cases here : e.value = dpll
    · rw [here, live] at live₀
      cases live₀
      exact ⟨d', here ▸ Function.update_self .., id.trans same⟩
    · exact ⟨d₀, (Function.update_of_ne here ..).trans live₀, same⟩

/-- Changing a pin in all but its id. -/
theorem setPin (listed : Listed s) (live : s.pin pin = some p) (p' : DpllPin)
    (id : p'.id = p.id) :
    Listed { s with pin := Function.update s.pin pin (some p') } := by
  refine ⟨listed.deviceAt, forall_update.2 ⟨?_, fun q p₀ _ => listed.pinAt q p₀⟩,
    listed.freshDevice,
    forall_update.2 ⟨listed.freshPin pin p live, fun q p₀ _ => listed.freshPin q p₀⟩, listed.deviceId,
    forall_update.2 ⟨id.trans_le (listed.pinId pin p live), fun q p₀ _ => listed.pinId q p₀⟩,
    listed.device, fun e mem marked => ?_⟩
  · rw [id]
    exact listed.pinAt pin p live
  · obtain ⟨p₀, live₀, same⟩ := listed.pin e mem marked
    by_cases here : e.value = pin
    · rw [here, live] at live₀
      cases live₀
      exact ⟨p', here ▸ Function.update_self .., id.trans same⟩
    · exact ⟨p₀, (Function.update_of_ne here ..).trans live₀, same⟩

theorem markDevice (listed : Listed s) (i : ℕ) (mark : Bool) :
    Listed { s with deviceXa := s.deviceXa.setMark i mark } := by
  refine ⟨fun q d₀ live => ?_, listed.pinAt, listed.freshDevice, listed.freshPin, listed.deviceId,
    listed.pinId, fun e mem => ?_, listed.pin⟩
  · rw [XArray.load_setMark]
    exact listed.deviceAt q d₀ live
  · obtain ⟨e', mem', rfl⟩ := XArray.mem_setMark.1 mem
    obtain ⟨d₀, live, same⟩ := listed.device e' mem'
    split_ifs <;> exact ⟨d₀, live, same⟩

theorem markPin (listed : Listed s) (live : s.pin pin = some p) (mark : Bool) :
    Listed { s with pinXa := s.pinXa.setMark p.id mark } := by
  refine ⟨listed.deviceAt, fun q p₀ live₀ => ?_, listed.freshDevice, listed.freshPin, listed.deviceId,
    listed.pinId, listed.device, fun e mem marked => ?_⟩
  · rw [XArray.load_setMark]
    exact listed.pinAt q p₀ live₀
  · obtain ⟨e', mem', rfl⟩ := XArray.mem_setMark.1 mem
    split_ifs at marked ⊢ with here
    · -- The entry at the id of the pin is the pin's.
      obtain ⟨e₀, mem₀, index, value⟩ := XArray.load_eq_some_iff.1 (listed.pinAt pin p live)
      obtain rfl := XArray.ext_index mem₀ mem' (index.trans here.symm)
      exact ⟨p, by rw [value]; exact live, index.symm⟩
    · exact listed.pin e' mem' marked

/-- A new device, at a free id and an address handed out but not used. -/
theorem insertDevice (listed : Listed s) (cursor : XArray.Cursor) (unused : s.device dpll = none)
    (handedOut : dpll < s.nextPtr) (within : d.id ≤ XA_LIMIT_32B_MAX)
    (free : ∀ e ∈ s.deviceXa.entries, e.index ≠ d.id) :
    Listed { s with
      deviceXa := s.deviceXa.store d.id dpll
      deviceXaId := cursor
      device := Function.update s.device dpll (some d) } := by
  refine ⟨forall_update.2 ⟨XArray.load_store_self, fun q d₀ _ live => ?_⟩, listed.pinAt,
    forall_update.2 ⟨handedOut, fun q d₀ _ => listed.freshDevice q d₀⟩, listed.freshPin,
    forall_update.2 ⟨within, fun q d₀ _ => listed.deviceId q d₀⟩, listed.pinId, fun e mem => ?_,
    listed.pin⟩
  · refine (XArray.load_store_of_ne fun same => ?_).trans (listed.deviceAt q d₀ live)
    obtain ⟨e, mem, index, -⟩ := XArray.load_eq_some_iff.1 (listed.deviceAt q d₀ live)
    exact free e mem (index.trans same)
  · rcases XArray.mem_store.1 mem with rfl | ⟨mem, -⟩
    · exact ⟨d, Function.update_self .., rfl⟩
    · obtain ⟨d₀, live, same⟩ := listed.device e mem
      refine ⟨d₀, (Function.update_of_ne ?_ ..).trans live, same⟩
      intro here
      rw [here, unused] at live
      cases live

/-- A new pin, at a free id and an address handed out but not used. -/
theorem insertPin (listed : Listed s) (cursor : XArray.Cursor) (unused : s.pin pin = none)
    (handedOut : pin < s.nextPtr) (within : p.id ≤ XA_LIMIT_32B_MAX)
    (free : ∀ e ∈ s.pinXa.entries, e.index ≠ p.id) :
    Listed { s with
      pinXa := s.pinXa.store p.id pin
      pinXaId := cursor
      pin := Function.update s.pin pin (some p) } := by
  refine ⟨listed.deviceAt, forall_update.2 ⟨XArray.load_store_self, fun q p₀ _ live => ?_⟩,
    listed.freshDevice, forall_update.2 ⟨handedOut, fun q p₀ _ => listed.freshPin q p₀⟩,
    listed.deviceId, forall_update.2 ⟨within, fun q p₀ _ => listed.pinId q p₀⟩, listed.device,
    fun e mem marked => ?_⟩
  · refine (XArray.load_store_of_ne fun same => ?_).trans (listed.pinAt q p₀ live)
    obtain ⟨e, mem, index, -⟩ := XArray.load_eq_some_iff.1 (listed.pinAt q p₀ live)
    exact free e mem (index.trans same)
  · rcases XArray.mem_store.1 mem with rfl | ⟨mem, -⟩
    · cases marked
    · obtain ⟨p₀, live, same⟩ := listed.pin e mem marked
      refine ⟨p₀, (Function.update_of_ne ?_ ..).trans live, same⟩
      intro here
      rw [here, unused] at live
      cases live

/-- An id is lost. -/
theorem storeStray (listed : Listed s) (cursor : XArray.Cursor) {i : ℕ}
    (free : ∀ e ∈ s.pinXa.entries, e.index ≠ i) :
    Listed { s with pinXa := s.pinXa.store i pin, pinXaId := cursor } := by
  refine ⟨listed.deviceAt, fun q p₀ live => ?_, listed.freshDevice, listed.freshPin, listed.deviceId,
    listed.pinId, listed.device, fun e mem marked => ?_⟩
  · refine (XArray.load_store_of_ne fun same => ?_).trans (listed.pinAt q p₀ live)
    obtain ⟨e, mem, index, -⟩ := XArray.load_eq_some_iff.1 (listed.pinAt q p₀ live)
    exact free e mem (index.trans same)
  · rcases XArray.mem_store.1 mem with rfl | ⟨mem, -⟩
    · cases marked
    · exact listed.pin e mem marked

theorem removeDevice (listed : Listed s) (live : s.device dpll = some d) :
    Listed { s with
      deviceXa := s.deviceXa.erase d.id
      device := Function.update s.device dpll none } := by
  have kept : ∀ q d₀, Function.update s.device dpll none q = some d₀ →
      s.device q = some d₀ ∧ d₀.id ≠ d.id := by
    intro q d₀ left
    have away : q ≠ dpll := by
      rintro rfl
      rw [Function.update_self] at left
      cases left
    rw [Function.update_of_ne away] at left
    refine ⟨left, fun same => away ?_⟩
    have here := listed.deviceAt q d₀ left
    rw [same, listed.deviceAt dpll d live] at here
    exact (Option.some.inj here).symm
  refine ⟨fun q d₀ left => ?_, listed.pinAt,
    fun q d₀ left => listed.freshDevice q d₀ (kept q d₀ left).1, listed.freshPin,
    fun q d₀ left => listed.deviceId q d₀ (kept q d₀ left).1, listed.pinId,
    fun e mem => ?_, listed.pin⟩
  · exact (XArray.load_erase_of_ne (kept q d₀ left).2).trans (listed.deviceAt q d₀ (kept q d₀ left).1)
  · obtain ⟨mem, away⟩ := XArray.mem_erase.1 mem
    obtain ⟨d₀, live₀, same⟩ := listed.device e mem
    refine ⟨d₀, (Function.update_of_ne ?_ ..).trans live₀, same⟩
    intro here
    rw [here, live] at live₀
    cases live₀
    exact away same.symm

theorem removePin (listed : Listed s) (live : s.pin pin = some p) :
    Listed { s with
      pinXa := s.pinXa.erase p.id
      pin := Function.update s.pin pin none } := by
  have kept : ∀ q p₀, Function.update s.pin pin none q = some p₀ →
      s.pin q = some p₀ ∧ p₀.id ≠ p.id := by
    intro q p₀ left
    have away : q ≠ pin := by
      rintro rfl
      rw [Function.update_self] at left
      cases left
    rw [Function.update_of_ne away] at left
    refine ⟨left, fun same => away ?_⟩
    have here := listed.pinAt q p₀ left
    rw [same, listed.pinAt pin p live] at here
    exact (Option.some.inj here).symm
  refine ⟨listed.deviceAt, fun q p₀ left => ?_, listed.freshDevice,
    fun q p₀ left => listed.freshPin q p₀ (kept q p₀ left).1, listed.deviceId,
    fun q p₀ left => listed.pinId q p₀ (kept q p₀ left).1, listed.device, fun e mem marked => ?_⟩
  · exact (XArray.load_erase_of_ne (kept q p₀ left).2).trans (listed.pinAt q p₀ (kept q p₀ left).1)
  · obtain ⟨mem, away⟩ := XArray.mem_erase.1 mem
    obtain ⟨p₀, live₀, same⟩ := listed.pin e mem marked
    refine ⟨p₀, (Function.update_of_ne ?_ ..).trans live₀, same⟩
    intro here
    rw [here, live] at live₀
    cases live₀
    exact away same.symm

end Listed

/-! ## What each call keeps -/

section Calls

variable {dpll pin parent : Ptr} {reg : DpllPinRegistration}

theorem listed_of_ntfFrame {α : Type} {m : KernelM α} (sends : Keeps ntfFrame m) :
    Keeps (.inv Listed) m :=
  sends.mono fun _ _ within listed => listed.of_ntfFrame within

theorem listed_dpllDeviceGet (clockId : UInt64) (deviceIdx : UInt32) (module : Ptr) :
    Keeps (.inv Listed) (dpllDeviceGet clockId deviceIdx module) := by
  refine keeps_inv fun s listed => ?_
  refine @wp_dpllDeviceGet_of s ⟨clockId, deviceIdx, module⟩ _ _ (fun dpll _ d live _ => ?_)
    fun _ => ?_
  · exact listed.setDevice live _ rfl
  · refine wp_dpllDeviceAlloc_of (fun id deviceXaId faults free small => ?_) fun _ => listed.grown
    exact (listed.grown 1 faults).insertDevice _ listed.unused_device (Nat.lt_succ_self _) small
      free

theorem listed_dpllDevicePut : Keeps (.inv Listed) (dpllDevicePut dpll) := by
  refine keeps_inv fun s listed => ?_
  unfold dpllDevicePut
  rw [wp_bind, wp_derefDevice]
  intro d live
  split
  · exact listed.removeDevice live
  · exact listed.setDevice live _ rfl

theorem listed_dpllDeviceRegister (type : ℕ) (ops : DpllDeviceOps) (priv : Ptr) :
    Keeps (.inv Listed) (dpllDeviceRegister dpll type ops priv) := by
  refine keeps_inv fun s listed => ?_
  have changed (d : DpllDevice) (faults : List (Option Errno)) (live : s.device dpll = some d) :=
    (listed.withFaults faults).setDevice live { d with
      type, registrationList := d.registrationList ++ [⟨ops, priv⟩] } rfl
  refine wp_dpllDeviceRegister_of (fun _ => listed.withFaults) (fun d faults may _ _ => ?_)
    fun d faults may _ _ => changed d faults may.live
  exact (listed_of_ntfFrame (sends_dpllDeviceEventSend .create dpll)).inv
    ((changed d faults may.live).markDevice _ _)

theorem listed_dpllDeviceUnregister (ops : DpllDeviceOps) (priv : Ptr) :
    Keeps (.inv Listed) (dpllDeviceUnregister dpll ops priv) := by
  refine (listed_of_ntfFrame (sends_dpllDeviceEventSend .delete dpll)).bind fun _ => ?_
  refine keeps_inv fun s listed => ?_
  rw [wp_bind, wp_derefDevice]
  intro d live
  split
  · have changed := listed.setDevice live { d with
      registrationList := d.registrationList.erase ⟨ops, priv⟩ } rfl
    dsimp only
    rw [wp_bind, wp_setDevice]
    split
    · exact changed.markDevice _ _
    · exact changed
  · exact listed

theorem listed_dpllPinAlloc (clockId : UInt64) (pinIdx : UInt32) (module : Ptr)
    (prop : DpllPinProperties) :
    Keeps (.inv Listed) (dpllPinAlloc clockId pinIdx module prop) := by
  refine keeps_inv fun s listed => ?_
  refine wp_dpllPinAlloc_of (fun id pinXa pinXaId faults alloc => ?_)
    (fun id pinXa pinXaId faults alloc => ?_) fun _ => listed.grown
  · have small := XArray.allocCyclic_le alloc
    obtain ⟨free, rfl⟩ := XArray.allocCyclic_eq_some alloc
    exact (listed.grown 1 faults).insertPin _ listed.unused_pin (Nat.lt_succ_self _) small free
  · obtain ⟨free, rfl⟩ := XArray.allocCyclic_eq_some alloc
    exact (listed.grown 1 faults).storeStray _ free

theorem listed_dpllPinGet (clockId : UInt64) (pinIdx : UInt32) (module : Ptr)
    (prop : DpllPinProperties) : Keeps (.inv Listed) (dpllPinGet clockId pinIdx module prop) := by
  refine keeps_inv fun s listed => ?_
  refine wp_dpllPinGet_of (fun pin _ p live _ _ _ => ?_) fun _ => ?_
  · exact listed.setPin live _ rfl
  · exact (listed_dpllPinAlloc _ _ _ _).inv listed

theorem listed_dpllPinPut : Keeps (.inv Listed) (dpllPinPut pin) := by
  refine keeps_inv fun s listed => ?_
  unfold dpllPinPut
  rw [wp_bind, wp_derefPin]
  intro p live
  split
  · exact listed.removePin live
  · exact listed.setPin live _ rfl

theorem listed_dpllPinRefsDel : Keeps (.inv Listed) (dpllPinRefsDel dpll pin reg) := by
  refine keeps_inv fun s listed => ?_
  unfold dpllPinRefsDel
  rw [wp_bind, wp_derefDevice]
  intro d live
  exact listed.setDevice live _ rfl

theorem listed_dpllPinRegisterRefs : Keeps (.inv Listed) (_dpllPinRegister dpll pin reg) := by
  refine keeps_inv fun s listed => ?_
  unfold _dpllPinRegister
  rw [wp_bind, wp_derefDevice]
  intro d live
  unfold dpllXaRefPinAdd
  rw [wp_bind, wp_bind, wp_derefPin]
  intro p _
  refine wp_dpllXaRefAdd (fun _ faults _ => ?_) fun _ _ => listed.withFaults
  rw [wp_bind, wp_setDevice, wp_bind]
  have added := (listed.withFaults faults).setDevice live { d with
    pinRefs := addRef d.pinRefs pin p.pinIdx.toNat reg } rfl
  refine wp_mono (wp_unwind_of (Q := fun _ => Listed) ?_ fun t => listed_dpllPinRefsDel.inv) ?_
    fun _ _ => id
  · rw [wp_bind, wp_derefPin]
    intro p' live'
    unfold dpllXaRefDpllAdd
    rw [wp_bind, wp_bind, wp_derefDevice]
    intro d' _
    exact wp_dpllXaRefAdd (fun _ faults _ => (added.withFaults faults).setPin live' _ rfl)
      fun _ _ => added.withFaults
  · intro _ t listed
    rw [wp_bind, wp_derefPin]
    intro p' live'
    exact (listed_of_ntfFrame (sends_dpllPinEventSend .create pin)).inv (listed.markPin live' true)

theorem listed_dpllPinRegister (ops : DpllPinOps) (priv : Ptr) :
    Keeps (.inv Listed) (dpllPinRegister dpll pin ops priv) := by
  refine (keeps_failIf _).bind fun _ => ?_
  refine (listed_of_ntfFrame (sends_derefDevice dpll)).bind fun d => ?_
  refine (listed_of_ntfFrame (sends_derefPin pin)).bind fun p => ?_
  exact (keeps_failIf _).bind fun _ => listed_dpllPinRegisterRefs

theorem listed_dpllPinUnregisterRefs : Keeps (.inv Listed) (_dpllPinUnregister dpll pin reg) := by
  refine listed_dpllPinRefsDel.bind fun _ => keeps_inv fun s listed => ?_
  rw [wp_bind, wp_derefPin]
  intro p live
  have changed := listed.setPin live { p with
    dpllRefs := dpllXaRefDel p.dpllRefs dpll reg } rfl
  dsimp only
  rw [wp_bind, wp_setPin]
  split
  · exact changed.markPin (Function.update_self ..) false
  · exact changed

theorem listed_dpllPinUnregister (ops : DpllPinOps) (priv : Ptr) :
    Keeps (.inv Listed) (dpllPinUnregister dpll pin ops priv) := by
  refine (listed_of_ntfFrame (sends_derefDevice dpll)).bind fun d => ?_
  refine (listed_of_ntfFrame (sends_derefPin pin)).bind fun p => ?_
  split
  · refine (listed_of_ntfFrame (sends_dpllPinEventSend .delete pin)).bind fun _ => ?_
    exact listed_dpllPinUnregisterRefs
  · exact keeps_pure _

theorem listed_dpllPinOnPinLoop (dplls done : List Ptr) :
    Keeps (.inv Listed) (dpllPinOnPinLoop pin reg done dplls) := by
  induction dplls generalizing done with
  | nil => exact keeps_pure _
  | cons dpll dplls ih =>
    have rollback : Keeps (.inv Listed) (done.forM fun dpll => do
        _dpllPinUnregister dpll pin reg
        dpllPinEventSend .delete pin) := by
      refine keeps_forM fun dpll _ => listed_dpllPinUnregisterRefs.bind fun _ => ?_
      exact listed_of_ntfFrame (sends_dpllPinEventSend .delete pin)
    refine (rollback.unwind listed_dpllPinRegisterRefs).bind fun _ => ?_
    exact (listed_of_ntfFrame (sends_dpllPinEventSend .create pin)).bind fun _ => ih _

theorem listed_dpllPinOnPinRegister (ops : DpllPinOps) (priv : Ptr) :
    Keeps (.inv Listed) (dpllPinOnPinRegister parent pin ops priv) := by
  refine (listed_of_ntfFrame (sends_derefPin parent)).bind fun par => ?_
  refine (keeps_failIf _).bind fun _ => (keeps_failIf _).bind fun _ => ?_
  refine keeps_inv fun s listed => ?_
  rw [wp_bind, wp_derefPin]
  intro p live
  unfold dpllXaRefPinAdd
  rw [wp_bind, wp_bind, wp_derefPin]
  intro par' _
  refine wp_dpllXaRefAdd (fun _ faults _ => ?_) fun _ _ => listed.withFaults
  rw [wp_bind, wp_setPin, wp_bind, wp_derefPin]
  intro par'' _
  refine wp_unwind_of ((listed_dpllPinOnPinLoop _ _).inv
    ((listed.withFaults faults).setPin live _ rfl)) fun t listed => ?_
  rw [wp_bind, wp_derefPin]
  intro p' live'
  exact listed.setPin live' _ rfl

theorem listed_dpllPinOnPinUnregister (ops : DpllPinOps) (priv : Ptr) :
    Keeps (.inv Listed) (dpllPinOnPinUnregister parent pin ops priv) := by
  refine (listed_of_ntfFrame (sends_dpllPinEventSend .delete pin)).bind fun _ => ?_
  refine keeps_inv fun s listed => ?_
  rw [wp_bind, wp_derefPin]
  intro p live
  rw [wp_bind, wp_setPin]
  refine Keeps.inv (keeps_forM fun dpll _ => listed_dpllPinUnregisterRefs) ?_
  exact listed.setPin live _ rfl

/-- A call keeps what is listed right, whether it succeeds or fails. -/
theorem listed_program (call : DpllCall) : Keeps (.inv Listed) call.program := by
  cases call with
  | deviceGet clockId deviceIdx module =>
    exact (listed_dpllDeviceGet _ _ _).bind fun _ => keeps_pure _
  | devicePut dpll => exact listed_dpllDevicePut
  | deviceRegister dpll type ops priv => exact listed_dpllDeviceRegister type ops priv
  | deviceUnregister dpll ops priv => exact listed_dpllDeviceUnregister ops priv
  | pinGet clockId pinIdx module prop =>
    exact (listed_dpllPinGet _ _ _ _).bind fun _ => keeps_pure _
  | pinPut pin => exact listed_dpllPinPut
  | pinRegister dpll pin ops priv => exact listed_dpllPinRegister ops priv
  | pinUnregister dpll pin ops priv => exact listed_dpllPinUnregister ops priv
  | pinOnPinRegister parent pin ops priv => exact listed_dpllPinOnPinRegister ops priv
  | pinOnPinUnregister parent pin ops priv => exact listed_dpllPinOnPinUnregister ops priv

end Calls

/-- In every state that calls lead to, the arrays list what is there. -/
theorem listed_reachable {s : KernelState} (h : registrySystem.Reachable s) : Listed s := by
  refine h.induct (fun s init => ?_) fun s a t _ listed step => ?_
  · obtain ⟨device, deviceXa, pin, pinXa⟩ := init
    have noDevice : ∀ dpll d, s.device dpll ≠ some d := by simp [device]
    have noPin : ∀ q p, s.pin q ≠ some p := by simp [pin]
    refine ⟨fun q d live => absurd live (noDevice q d), fun q p live => absurd live (noPin q p),
      fun q d live => absurd live (noDevice q d), fun q p live => absurd live (noPin q p),
      fun q d live => absurd live (noDevice q d), fun q p live => absurd live (noPin q p), ?_, ?_⟩
    · rw [deviceXa]
      exact fun e mem => absurd mem List.not_mem_nil
    · rw [pinXa]
      exact fun e mem => absurd mem List.not_mem_nil
  · obtain ⟨result, run⟩ := step
    exact holds_of_wp ((listed_program a.1).inv (listed.withFaults a.2)) run

end Netdevsim
