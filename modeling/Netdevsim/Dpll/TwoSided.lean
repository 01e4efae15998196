import Netdevsim.Dpll.DeviceTable
import Netdevsim.Dpll.Registry
import Netdevsim.Lib.Runs

/-!
# References have two sides

Drivers call the core in any order, and each call may fail at any allocation.  Whatever they do, a
device refers to a pin exactly if the pin refers to the device, by the same registrations, and the
pins with references to devices are those marked.
-/

namespace Netdevsim

open Program

/-! ## Calls -/

/-- A call of the core. -/
inductive DpllCall where
  | deviceGet (clockId : UInt64) (deviceIdx : UInt32) (module : Ptr)
  | devicePut (dpll : Ptr)
  | deviceRegister (dpll : Ptr) (type : ℕ) (ops : DpllDeviceOps) (priv : Ptr)
  | deviceUnregister (dpll : Ptr) (ops : DpllDeviceOps) (priv : Ptr)
  | pinGet (clockId : UInt64) (pinIdx : UInt32) (module : Ptr) (prop : DpllPinProperties)
  | pinPut (pin : Ptr)
  | pinRegister (dpll pin : Ptr) (ops : DpllPinOps) (priv : Ptr)
  | pinUnregister (dpll pin : Ptr) (ops : DpllPinOps) (priv : Ptr)
  | pinOnPinRegister (parent pin : Ptr) (ops : DpllPinOps) (priv : Ptr)
  | pinOnPinUnregister (parent pin : Ptr) (ops : DpllPinOps) (priv : Ptr)

/-- What a call runs.  Its caller keeps the address a `get` returns. -/
def DpllCall.program : DpllCall → KernelM Unit
  | .deviceGet clockId deviceIdx module =>
    dpllDeviceGet clockId deviceIdx module >>= fun _ => pure ()
  | .devicePut dpll => dpllDevicePut dpll
  | .deviceRegister dpll type ops priv => dpllDeviceRegister dpll type ops priv
  | .deviceUnregister dpll ops priv => dpllDeviceUnregister dpll ops priv
  | .pinGet clockId pinIdx module prop =>
    dpllPinGet clockId pinIdx module prop >>= fun _ => pure ()
  | .pinPut pin => dpllPinPut pin
  | .pinRegister dpll pin ops priv => dpllPinRegister dpll pin ops priv
  | .pinUnregister dpll pin ops priv => dpllPinUnregister dpll pin ops priv
  | .pinOnPinRegister parent pin ops priv => dpllPinOnPinRegister parent pin ops priv
  | .pinOnPinUnregister parent pin ops priv => dpllPinOnPinUnregister parent pin ops priv

/-- All runs of calls from a core without objects, each with a list of what fails in it. -/
def registrySystem : TransitionSystem KernelState (DpllCall × List (Option Errno)) where
  init s := s.device = (fun _ => none) ∧ s.deviceXa = .empty ∧ s.pin = (fun _ => none) ∧
    s.pinXa = .empty
  step s a t := ∃ result, a.1.program.exec { s with faults := a.2 } = some (result, t)

/-- The last reference to an object is only dropped when no other object refers to it. -/
def PutsUnregistered (s : KernelState) : DpllCall → Prop
  | .devicePut dpll => ∀ d, s.device dpll = some d → d.refcount = 1 → d.pinRefs.isEmpty
  | .pinPut pin => ∀ p, s.pin pin = some p → p.refcount = 1 → p.dpllRefs.isEmpty ∧
      ∀ q p', s.pin q = some p' → ∀ e ∈ p'.parentRefs.entries, e.value.target ≠ pin
  | _ => True

/-- The references between devices and pins. -/
structure TwoSided (s : KernelState) : Prop where
  /-- A device refers to a pin at the pin's index. -/
  pinRefs : ∀ dpll d, s.device dpll = some d → ∀ e ∈ d.pinRefs.entries,
    ∃ p, s.pin e.value.target = some p ∧ p.pinIdx.toNat = e.index
  /-- A pin refers to a device at the device's id. -/
  dpllRefs : ∀ pin p, s.pin pin = some p → ∀ e ∈ p.dpllRefs.entries,
    ∃ d, s.device e.value.target = some d ∧ d.id = e.index
  /-- A pin refers to its parent at the parent's index. -/
  parentRefs : ∀ pin p, s.pin pin = some p → ∀ e ∈ p.parentRefs.entries,
    ∃ parent, s.pin e.value.target = some parent ∧ parent.pinIdx.toNat = e.index
  /-- Both refer to each other, with the same registrations and the same count. -/
  agree : ∀ dpll d pin p, s.device dpll = some d → s.pin pin = some p →
    ∀ registrationList refcount,
      (∃ e ∈ d.pinRefs.entries, e.value = ⟨pin, registrationList, refcount⟩) ↔
        ∃ e ∈ p.dpllRefs.entries, e.value = ⟨dpll, registrationList, refcount⟩
  /-- A pin is marked `DPLL_REGISTERED` if it refers to a device. -/
  marked : ∀ pin p, s.pin pin = some p → (s.pinXa.getMark p.id ↔ ¬p.dpllRefs.isEmpty)

theorem RegistryInvariant.twoSided {s : KernelState} (inv : RegistryInvariant s) : TwoSided s where
  pinRefs dpll d live e mem := Option.map_eq_some_iff.1 (inv.pinRefs dpll d live e mem).1
  dpllRefs pin p live e mem := Option.map_eq_some_iff.1 (inv.dpllRefs pin p live e mem).1
  parentRefs pin p live e mem := Option.map_eq_some_iff.1 (inv.parentRefs pin p live e mem).1
  agree dpll d pin p liveD liveP registrationList refcount := by
    have here := inv.agree dpll d liveD pin p liveP
    have pins : contents d.pinRefs pin = some ⟨registrationList, refcount⟩ ↔ _ :=
      (inv.pinRefs dpll d liveD).contents_eq_some_iff
    have dplls : contents p.dpllRefs dpll = some ⟨registrationList, refcount⟩ ↔ _ :=
      (inv.dpllRefs pin p liveP).contents_eq_some_iff
    rw [← pins, ← dplls, here]
  marked pin p live := by
    rw [inv.marked pin p live, Bool.not_eq_true', Bool.not_eq_true]

/-! ## What each call keeps -/

section Calls

variable {s : KernelState} {dpll pin parent : Ptr} {reg : DpllPinRegistration}

theorem sound_of_ntfFrame {α : Type} {m : KernelM α} (sends : Keeps ntfFrame m) :
    Keeps (.inv RegistryInvariant) m :=
  sends.mono fun _ _ within inv => inv.of_ntfFrame within

theorem RegistryInvariant.withFaults (inv : RegistryInvariant s) (faults : List (Option Errno)) :
    RegistryInvariant { s with faults } := inv.of_eq rfl rfl rfl rfl le_rfl

theorem RegistryInvariant.unused_device (inv : RegistryInvariant s) :
    s.device s.nextPtr = none := by
  cases live : s.device s.nextPtr with
  | none => rfl
  | some d => exact absurd (inv.freshDevice _ d live) (lt_irrefl _)

theorem RegistryInvariant.unused_pin (inv : RegistryInvariant s) : s.pin s.nextPtr = none := by
  cases live : s.pin s.nextPtr with
  | none => rfl
  | some p => exact absurd (inv.freshPin _ p live) (lt_irrefl _)

theorem RegistryInvariant.grown (inv : RegistryInvariant s) (size : ℕ)
    (faults : List (Option Errno)) :
    RegistryInvariant { s with nextPtr := s.nextPtr + size, faults } :=
  inv.of_eq rfl rfl rfl rfl (Nat.le_add_right _ _)

theorem sound_dpllDeviceGet (clockId : UInt64) (deviceIdx : UInt32) (module : Ptr) :
    Keeps (.inv RegistryInvariant) (dpllDeviceGet clockId deviceIdx module) := by
  refine keeps_inv fun s inv => ?_
  refine @wp_dpllDeviceGet_of s ⟨clockId, deviceIdx, module⟩ _ _ (fun dpll _ d live _ => ?_)
    fun _ => ?_
  · exact inv.setDevice' live rfl rfl Iff.rfl
  · refine wp_dpllDeviceAlloc_of (fun id deviceXaId faults free _ => ?_) fun _ => inv.grown
    exact (inv.grown 1 faults).insertDevice _ inv.unused_device (Nat.lt_succ_self _) free rfl rfl

theorem sound_dpllDevicePut (inv : RegistryInvariant s)
    (unregistered : PutsUnregistered s (.devicePut dpll)) :
    wp (dpllDevicePut dpll) (fun _ => RegistryInvariant) (fun _ => RegistryInvariant) s := by
  unfold dpllDevicePut
  rw [wp_bind, wp_derefDevice]
  intro d live
  split
  · rename_i last
    exact inv.removeDevice live (unregistered d live last)
  · exact inv.setDevice' live rfl rfl Iff.rfl

theorem sound_dpllDeviceRegister (type : ℕ) (ops : DpllDeviceOps) (priv : Ptr) :
    Keeps (.inv RegistryInvariant) (dpllDeviceRegister dpll type ops priv) := by
  refine keeps_inv fun s inv => ?_
  refine wp_dpllDeviceRegister_of (fun _ => inv.withFaults) (fun d faults may _ _ => ?_)
    fun d faults may _ more => ?_
  · refine (sound_of_ntfFrame (sends_dpllDeviceEventSend .create dpll)).inv ?_
    exact (inv.withFaults faults).setDevice may.live { d with
      type, registrationList := d.registrationList ++ [⟨ops, priv⟩] } rfl rfl true (by simp)
  · exact (inv.withFaults faults).setDevice' may.live rfl rfl (by simp [more])

theorem sound_dpllDeviceUnregister (ops : DpllDeviceOps) (priv : Ptr) :
    Keeps (.inv RegistryInvariant) (dpllDeviceUnregister dpll ops priv) := by
  refine (sound_of_ntfFrame (sends_dpllDeviceEventSend .delete dpll)).bind fun _ => ?_
  refine keeps_inv fun s inv => ?_
  rw [wp_bind, wp_derefDevice]
  intro d live
  split
  · rename_i registered
    dsimp only
    rw [wp_bind, wp_setDevice]
    split
    · rename_i last
      exact inv.setDevice live { d with
        registrationList := d.registrationList.erase ⟨ops, priv⟩ } rfl rfl false (by simp [last])
    · rename_i more
      exact inv.setDevice' live rfl rfl (iff_of_true more (List.ne_nil_of_mem registered))
  · exact inv

theorem sound_dpllPinAlloc (clockId : UInt64) (pinIdx : UInt32) (module : Ptr)
    (prop : DpllPinProperties) :
    Keeps (.inv RegistryInvariant) (dpllPinAlloc clockId pinIdx module prop) := by
  refine keeps_inv fun s inv => ?_
  refine wp_dpllPinAlloc_of (fun id pinXa pinXaId faults alloc => ?_)
    (fun id pinXa pinXaId faults alloc => ?_) fun _ => inv.grown
  · obtain ⟨free, rfl⟩ := XArray.allocCyclic_eq_some alloc
    exact (inv.grown 1 faults).insertPin _ inv.unused_pin (Nat.lt_succ_self _) free rfl rfl
  · obtain ⟨free, rfl⟩ := XArray.allocCyclic_eq_some alloc
    exact (inv.grown 1 faults).storeStray _ free

theorem sound_dpllPinGet (clockId : UInt64) (pinIdx : UInt32) (module : Ptr)
    (prop : DpllPinProperties) :
    Keeps (.inv RegistryInvariant) (dpllPinGet clockId pinIdx module prop) := by
  refine keeps_inv fun s inv => ?_
  refine wp_dpllPinGet_of (fun pin _ p live _ _ _ => ?_) fun _ => ?_
  · exact inv.setPin live rfl rfl rfl (inv.parentRefs pin p live)
  · exact (sound_dpllPinAlloc _ _ _ _).inv inv

theorem sound_dpllPinPut (inv : RegistryInvariant s)
    (unregistered : PutsUnregistered s (.pinPut pin)) :
    wp (dpllPinPut pin) (fun _ => RegistryInvariant) (fun _ => RegistryInvariant) s := by
  unfold dpllPinPut
  rw [wp_bind, wp_derefPin]
  intro p live
  split
  · rename_i last
    obtain ⟨empty, noParent⟩ := unregistered p live last
    exact inv.removePin live empty fun q p' _ live' => contents_eq_none_iff.2 (noParent q p' live')
  · exact inv.setPin live rfl rfl rfl (inv.parentRefs pin p live)

/-! ## Pins -/

theorem sound_dpllPinRegisterRefs (dpll pin : Ptr) (reg : DpllPinRegistration) :
    Keeps (.inv RegistryInvariant) (_dpllPinRegister dpll pin reg) := by
  refine keeps_inv fun s inv => wp_dpllPinRegisterRefs inv (fun d p liveD liveP free faults _ => ?_)
    fun _ => inv.withFaults
  refine (sound_of_ntfFrame (sends_dpllPinEventSend .create pin)).inv ?_
  exact (inv.registered_pin liveD liveP free).withFaults faults

theorem sound_dpllPinUnregisterRefs (dpll pin : Ptr) (reg : DpllPinRegistration) :
    Keeps (.inv RegistryInvariant) (_dpllPinUnregister dpll pin reg) :=
  keeps_inv fun _ inv => wp_dpllPinUnregisterRefs inv fun _ _ => inv.unregistered_pin

theorem sound_dpllPinRegister (ops : DpllPinOps) (priv : Ptr) :
    Keeps (.inv RegistryInvariant) (dpllPinRegister dpll pin ops priv) := by
  refine (keeps_failIf _).bind fun _ => ?_
  refine (sound_of_ntfFrame (sends_derefDevice dpll)).bind fun d => ?_
  refine (sound_of_ntfFrame (sends_derefPin pin)).bind fun p => ?_
  exact (keeps_failIf _).bind fun _ => sound_dpllPinRegisterRefs dpll pin _

theorem sound_dpllPinUnregister (ops : DpllPinOps) (priv : Ptr) :
    Keeps (.inv RegistryInvariant) (dpllPinUnregister dpll pin ops priv) := by
  refine (sound_of_ntfFrame (sends_derefDevice dpll)).bind fun d => ?_
  refine (sound_of_ntfFrame (sends_derefPin pin)).bind fun p => ?_
  split
  · refine (sound_of_ntfFrame (sends_dpllPinEventSend .delete pin)).bind fun _ => ?_
    exact sound_dpllPinUnregisterRefs dpll pin _
  · exact keeps_pure _

/-! ## Pins on pins -/

theorem sound_dpllPinOnPinLoop (dplls done : List Ptr) :
    Keeps (.inv RegistryInvariant) (dpllPinOnPinLoop pin reg done dplls) := by
  induction dplls generalizing done with
  | nil => exact keeps_pure _
  | cons dpll dplls ih =>
    have rollback : Keeps (.inv RegistryInvariant) (done.forM fun dpll => do
        _dpllPinUnregister dpll pin reg
        dpllPinEventSend .delete pin) := by
      refine keeps_forM fun dpll _ => ?_
      refine (sound_dpllPinUnregisterRefs dpll pin reg).bind fun _ => ?_
      exact sound_of_ntfFrame (sends_dpllPinEventSend .delete pin)
    refine (rollback.unwind (sound_dpllPinRegisterRefs dpll pin reg)).bind fun _ => ?_
    exact (sound_of_ntfFrame (sends_dpllPinEventSend .create pin)).bind fun _ => ih _

theorem sound_dpllPinOnPinRegister (ops : DpllPinOps) (priv : Ptr) :
    Keeps (.inv RegistryInvariant) (dpllPinOnPinRegister parent pin ops priv) := by
  refine keeps_inv fun s inv => ?_
  unfold dpllPinOnPinRegister
  rw [wp_bind, wp_derefPin]
  intro par liveParent
  rw [wp_bind, wp_failIf]
  refine ⟨fun _ => inv, fun _ => ?_⟩
  rw [wp_bind, wp_failIf]
  refine ⟨fun _ => inv, fun _ => ?_⟩
  rw [wp_bind, wp_derefPin]
  intro p live
  unfold dpllXaRefPinAdd
  rw [wp_bind, wp_bind, wp_derefPin]
  intro par' liveParent'
  refine wp_dpllXaRefAdd (fun _ faults _ => ?_) fun _ _ => inv.withFaults
  have added := keyed_addRef (inv.parentRefs pin p live) (pinKey_of_live liveParent')
    ⟨ops, priv, pin⟩
  rw [wp_bind, wp_setPin, wp_bind, wp_derefPin]
  intro par'' _
  refine wp_unwind_of ((sound_dpllPinOnPinLoop _ _).inv
    ((inv.withFaults faults).setPin live rfl rfl rfl added)) fun t inv => ?_
  rw [wp_bind, wp_derefPin]
  intro p' live'
  exact inv.setPin live' rfl rfl rfl (keyed_dpllXaRefDel (inv.parentRefs pin p' live') _ _)

theorem sound_dpllPinOnPinUnregister (ops : DpllPinOps) (priv : Ptr) :
    Keeps (.inv RegistryInvariant) (dpllPinOnPinUnregister parent pin ops priv) := by
  refine (sound_of_ntfFrame (sends_dpllPinEventSend .delete pin)).bind fun _ => ?_
  refine keeps_inv fun s inv => ?_
  rw [wp_bind, wp_derefPin]
  intro p live
  rw [wp_bind, wp_setPin]
  refine Keeps.inv (keeps_forM fun dpll _ => sound_dpllPinUnregisterRefs dpll pin _) ?_
  exact inv.setPin live rfl rfl rfl (keyed_dpllXaRefDel (inv.parentRefs pin p live) _ _)

/-- A call keeps the invariant, whether it succeeds or fails. -/
theorem sound_program (call : DpllCall) (inv : RegistryInvariant s)
    (unregistered : PutsUnregistered s call) :
    wp call.program (fun _ => RegistryInvariant) (fun _ => RegistryInvariant) s := by
  cases call with
  | deviceGet clockId deviceIdx module =>
    exact ((sound_dpllDeviceGet _ _ _).bind fun _ => keeps_pure _).inv inv
  | devicePut dpll => exact sound_dpllDevicePut inv unregistered
  | deviceRegister dpll type ops priv => exact (sound_dpllDeviceRegister type ops priv).inv inv
  | deviceUnregister dpll ops priv => exact (sound_dpllDeviceUnregister ops priv).inv inv
  | pinGet clockId pinIdx module prop =>
    exact ((sound_dpllPinGet _ _ _ _).bind fun _ => keeps_pure _).inv inv
  | pinPut pin => exact sound_dpllPinPut inv unregistered
  | pinRegister dpll pin ops priv => exact (sound_dpllPinRegister ops priv).inv inv
  | pinUnregister dpll pin ops priv => exact (sound_dpllPinUnregister ops priv).inv inv
  | pinOnPinRegister parent pin ops priv => exact (sound_dpllPinOnPinRegister ops priv).inv inv
  | pinOnPinUnregister parent pin ops priv =>
    exact (sound_dpllPinOnPinUnregister ops priv).inv inv

end Calls

/-! ## Runs -/

theorem registryInvariant_reachable {s : KernelState}
    (h : (registrySystem.guard fun s a => PutsUnregistered s a.1).Reachable s) :
    RegistryInvariant s := by
  refine h.induct (fun s init => ?_) fun s a t _ inv step => ?_
  · obtain ⟨device, deviceXa, pin, pinXa⟩ := init
    have noDevice : ∀ dpll d, s.device dpll ≠ some d := by simp [device]
    have noPin : ∀ q p, s.pin q ≠ some p := by simp [pin]
    exact ⟨fun q d live => absurd live (noDevice q d), fun q p live => absurd live (noPin q p),
      fun q d live => absurd live (noDevice q d), fun q p live => absurd live (noPin q p),
      fun q d live => absurd live (noDevice q d), fun q p live => absurd live (noPin q p),
      fun q p live => absurd live (noPin q p), fun q d live => absurd live (noDevice q d),
      fun q d live => absurd live (noDevice q d), fun q p live => absurd live (noPin q p)⟩
  · obtain ⟨⟨result, run⟩, unregistered⟩ := step
    refine holds_of_wp (sound_program a.1 (inv.withFaults a.2) ?_) run
    cases call : a.1 <;> rw [call] at unregistered <;> exact unregistered

/-- In every state that calls lead to, the references between devices and pins have two sides. -/
theorem references_two_sided (s : KernelState)
    (h : (registrySystem.guard fun s a => PutsUnregistered s a.1).Reachable s) : TwoSided s :=
  (registryInvariant_reachable h).twoSided

/-- The state after a call. -/
def afterCall (s : KernelState) (a : DpllCall × List (Option Errno)) : Option KernelState :=
  (a.1.program.exec { s with faults := a.2 }).map Prod.snd

theorem step_of_afterCall {s t : KernelState} {a : DpllCall × List (Option Errno)}
    (next : afterCall s a = some t) : registrySystem.step s a t := by
  obtain ⟨⟨result, _⟩, run, rfl⟩ := Option.map_eq_some_iff.1 next
  exact ⟨result, run⟩

/-- What is found after some calls is reached. -/
theorem exists_reachable_of_follow (as : List (DpllCall × List (Option Errno)))
    (test : KernelState → Bool) (unregistered : ∀ a ∈ as, ∀ s, PutsUnregistered s a.1)
    (passes : (TransitionSystem.follow afterCall as .loaded).any test = true) :
    ∃ k, (registrySystem.guard fun s a => PutsUnregistered s a.1).Reachable k ∧ test k = true := by
  have start : (registrySystem.guard fun s a => PutsUnregistered s a.1).Reachable .loaded :=
    .init ⟨rfl, rfl, rfl, rfl⟩
  exact start.exists_of_follow as test
    (fun a mem s _ next => ⟨step_of_afterCall next, unregistered a mem s⟩) passes

/-- The properties of a pin for GNSS without labels. -/
def plainPin : DpllPinProperties := ⟨none, none, none, DPLL_PIN_TYPE_GNSS, 0, [], (0, 0)⟩

/-- The callbacks that a pin on a device needs. -/
def plainPinOps : DpllPinOps := ⟨2, true, false, true⟩

/-- One device and one pin registered on it, at the addresses 16 and 17. -/
def onePin : List (DpllCall × List (Option Errno)) :=
  [(.deviceGet 0 0 1, []), (.pinGet 0 0 1 plainPin, []), (.pinRegister 16 17 plainPinOps 3, [])]

/-- A pin is registered on a device. -/
theorem references_two_sided_onePin :
    ∃ s, (s.device 16).any (fun d => ¬d.pinRefs.isEmpty) ∧ TwoSided s := by
  obtain ⟨s, reachable, pin⟩ := exists_reachable_of_follow onePin
    (fun s => (s.device 16).any fun d => ¬d.pinRefs.isEmpty)
    (fun a mem s => by fin_cases mem <;> trivial) (by decide +kernel)
  exact ⟨s, pin, references_two_sided s reachable⟩

end Netdevsim
