import Netdevsim.Dpll.DeviceTable
import Netdevsim.Dpll.Refs
import Netdevsim.Lib.Total

/-!
# Operations that do not go wrong

An operation of the core goes on as long as the objects it is given are alive and every entry of the
array it searches is an object.
-/

namespace Netdevsim

open Program

/-! ## Memory -/

section Memory

variable {s : KernelState} {dpll pin : Ptr} {d : DpllDevice} {p : DpllPin}

theorem exec_derefDevice (live : s.device dpll = some d) :
    (derefDevice dpll).exec s = some (.ok d, s) := by
  have get : (get : KernelM KernelState).exec s = some (.ok s, s) := rfl
  unfold derefDevice
  rw [exec_bind_of_ok get, live]
  rfl

theorem exec_derefPin (live : s.pin pin = some p) : (derefPin pin).exec s = some (.ok p, s) := by
  have get : (get : KernelM KernelState).exec s = some (.ok s, s) := rfl
  unfold derefPin
  rw [exec_bind_of_ok get, live]
  rfl

theorem exec_derefPin_of_freed (freed : s.pin pin = none) : (derefPin pin).exec s = none := by
  have get : (get : KernelM KernelState).exec s = some (.ok s, s) := rfl
  unfold derefPin
  rw [exec_bind_of_ok get, freed]
  rfl

theorem twp_derefDevice {Q : DpllDevice → KernelState → Prop} {E : Errno → KernelState → Prop} :
    twp (derefDevice dpll) Q E s ↔ ∃ d, s.device dpll = some d ∧ Q d s := by
  unfold derefDevice
  rw [twp_bind, twp_get]
  cases live : s.device dpll with
  | none => exact iff_of_false id (by simp)
  | some d => simp

theorem twp_derefPin {Q : DpllPin → KernelState → Prop} {E : Errno → KernelState → Prop} :
    twp (derefPin pin) Q E s ↔ ∃ p, s.pin pin = some p ∧ Q p s := by
  unfold derefPin
  rw [twp_bind, twp_get]
  cases live : s.pin pin with
  | none => exact iff_of_false id (by simp)
  | some p => simp

@[simp] theorem twp_setDevice {Q : Unit → KernelState → Prop} {E : Errno → KernelState → Prop} :
    twp (setDevice dpll d) Q E s ↔
      Q () { s with device := Function.update s.device dpll (some d) } := Iff.rfl

@[simp] theorem twp_setPin {Q : Unit → KernelState → Prop} {E : Errno → KernelState → Prop} :
    twp (setPin pin p) Q E s ↔ Q () { s with pin := Function.update s.pin pin (some p) } := Iff.rfl

theorem completes_derefDevice (live : s.device dpll = some d) : Completes (derefDevice dpll) s :=
  twp_derefDevice.2 ⟨d, live, trivial⟩

theorem completes_derefPin (live : s.pin pin = some p) : Completes (derefPin pin) s :=
  twp_derefPin.2 ⟨p, live, trivial⟩

theorem total_fault : Total fault := by
  refine total_get.bind fun s => ?_
  split
  · exact total_pure _
  · exact (total_set _).bind fun _ => total_pure _

theorem total_mayFail : Total mayFail := by
  refine total_fault.bind ?_
  rintro (_ | e)
  · exact total_pure _
  · exact total_throw _

theorem total_mayRunOut : Total mayRunOut := by
  refine total_fault.bind ?_
  rintro (_ | e)
  · exact total_pure _
  · exact total_throw _

theorem total_kzalloc (size : ℕ) : Total (kzalloc size) := by
  refine total_mayRunOut.bind fun _ => total_get.bind fun _ => ?_
  exact (total_set _).bind fun _ => total_pure _

theorem total_kmemdup (present : Bool) : Total (kmemdup present) := by
  cases present
  · exact total_pure _
  · exact total_mayRunOut

theorem total_dpllPinPropDup (src : DpllPinProperties) : Total (dpllPinPropDup src) := by
  refine (total_kmemdup _).bind fun _ => (total_kmemdup _).bind fun _ => ?_
  exact (total_kmemdup _).bind fun _ => (total_kmemdup _).bind fun _ => total_pure _

theorem total_dpllXaRefAdd (xa : XArray DpllPinRef) (target : Ptr) (index : ℕ)
    (reg : DpllPinRegistration) : Total (dpllXaRefAdd xa target index reg) := by
  unfold dpllXaRefAdd
  split
  · split
    · exact total_pure _
    · exact total_mayRunOut.bind fun _ => total_pure _
  · refine total_mayRunOut.bind fun _ => (total_failIf _).bind fun _ => ?_
    exact total_mayRunOut.bind fun _ => total_mayRunOut.bind fun _ => total_pure _

end Memory

/-! ## Notifications -/

/-- The mark `DPLL_REGISTERED` of a device. -/
def KernelState.deviceMarked (s : KernelState) (dpll : Ptr) : Bool :=
  (s.device dpll).any fun d => s.deviceXa.getMark d.id

/-- The mark `DPLL_REGISTERED` of a pin. -/
def KernelState.pinMarked (s : KernelState) (pin : Ptr) : Bool :=
  (s.pin pin).any fun p => s.pinXa.getMark p.id

section Notifications

variable {s : KernelState} {dpll pin : Ptr} {d : DpllDevice} {p : DpllPin} {cmd : DpllNtfCmd}

theorem completes_dpllDeviceEventSend (live : s.device dpll = some d)
    (registered : s.deviceXa.getMark d.id = true → d.registrationList ≠ []) :
    Completes (dpllDeviceEventSend cmd dpll) s := by
  refine (completes_derefDevice live).bind (wp_derefDevice.2 fun d' live' => ?_)
  obtain rfl := Option.some.inj (live.symm.trans live')
  refine (total_get s).bind ?_
  rw [wp_get]
  split
  · rename_i marked
    refine (total_fault s).bind (wp_fault fun f faults => ?_)
    split
    · have still : ({ s with faults } : KernelState).device dpll = some d := live
      refine Completes.bind ?_ (wp_mono wp_true (fun _ t _ => total_modify t) fun _ _ => id)
      refine (completes_derefDevice still).bind (wp_derefDevice.2 fun d' live' => ?_)
      obtain rfl := Option.some.inj (live.symm.trans live')
      cases regs : d.registrationList with
      | nil => exact absurd regs (registered marked)
      | cons reg _ => exact total_pure reg _
    · exact total_pure _ _
  · exact total_pure _ _

/-- A pin is available if it is marked and has a marked parent or is on a marked device. -/
theorem exec_dpllPinAvailable_of_live (live : s.pin pin = some p)
    (parents : ∀ ref ∈ p.parentRefs.values, ∃ par, s.pin ref.target = some par)
    (targets : ∀ ref ∈ p.dpllRefs.values, ∃ d, s.device ref.target = some d) :
    (dpllPinAvailable pin).exec s = some (.ok (s.pinXa.getMark p.id &&
      (p.parentRefs.values.any (fun ref => s.pinMarked ref.target) ||
        p.dpllRefs.values.any fun ref => s.deviceMarked ref.target)), s) := by
  have get : (get : KernelM KernelState).exec s = some (.ok s, s) := rfl
  have onPins : (p.parentRefs.values.anyM fun ref => do
      let parent ← derefPin ref.target
      return s.pinXa.getMark parent.id : KernelM Bool).exec s =
      some (.ok (p.parentRefs.values.any fun ref => s.pinMarked ref.target), s) := by
    refine exec_anyM fun ref mem => ?_
    obtain ⟨par, livePar⟩ := parents ref mem
    rw [exec_bind_of_ok (exec_derefPin livePar), KernelState.pinMarked, livePar]
    rfl
  have onDevices : (p.dpllRefs.values.anyM fun ref => do
      let d ← derefDevice ref.target
      return s.deviceXa.getMark d.id : KernelM Bool).exec s =
      some (.ok (p.dpllRefs.values.any fun ref => s.deviceMarked ref.target), s) := by
    refine exec_anyM fun ref mem => ?_
    obtain ⟨d, liveD⟩ := targets ref mem
    rw [exec_bind_of_ok (exec_derefDevice liveD), KernelState.deviceMarked, liveD]
    rfl
  unfold dpllPinAvailable
  rw [exec_bind_of_ok (exec_derefPin live), exec_bind_of_ok get]
  split
  · rename_i marked
    rw [exec_bind, onPins, marked, Bool.true_and]
    cases p.parentRefs.values.any fun ref => s.pinMarked ref.target with
    | true => rfl
    | false => exact onDevices
  · rename_i unmarked
    rw [Bool.eq_false_iff.2 unmarked]
    rfl

/-- A pin without parents is available if it is marked and on a marked device. -/
theorem exec_dpllPinAvailable_of_orphan (live : s.pin pin = some p) (orphan : p.parentRefs.isEmpty)
    (targets : ∀ ref ∈ p.dpllRefs.values, ∃ d, s.device ref.target = some d) :
    (dpllPinAvailable pin).exec s = some (.ok (s.pinXa.getMark p.id &&
      p.dpllRefs.values.any fun ref => s.deviceMarked ref.target), s) := by
  have values : p.parentRefs.values = [] := by
    rw [XArray.values, List.isEmpty_iff.1 orphan, List.map_nil]
  have available := exec_dpllPinAvailable_of_live live (by simp [values]) targets
  rwa [values, List.any_nil, Bool.false_or] at available

theorem completes_dpllPinEventSend (live : s.pin pin = some p)
    (parents : ∀ ref ∈ p.parentRefs.values, ∃ par, s.pin ref.target = some par)
    (targets : ∀ ref ∈ p.dpllRefs.values, ∃ d, s.device ref.target = some d) :
    Completes (dpllPinEventSend cmd pin) s := by
  have available := exec_dpllPinAvailable_of_live live parents targets
  refine (completes_derefPin live).bind (wp_derefPin.2 fun p' _ => ?_)
  refine Completes.bind ?_ ((wp_of_exec available).2 ?_)
  · unfold Completes twp
    rw [available]
    trivial
  · split
    · refine (total_fault s).bind (wp_fault fun f faults => ?_)
      split
      · exact total_modify _
      · exact total_pure _ _
    · exact total_pure _ _

end Notifications

/-! ## Devices -/

section Devices

variable {s : KernelState} {dpll : Ptr} {d : DpllDevice}

theorem completes_dpllDeviceLookup {clockId : UInt64} {deviceIdx : UInt32} {module : Ptr}
    {dplls : List Ptr} (live : ∀ q ∈ dplls, ∃ d, s.device q = some d) :
    Completes (dpllDeviceLookup clockId deviceIdx module dplls) s := by
  induction dplls with
  | nil => exact total_pure _ s
  | cons q dplls ih =>
    obtain ⟨d, here⟩ := live q List.mem_cons_self
    rw [dpllDeviceLookup]
    refine (completes_derefDevice here).bind (wp_derefDevice.2 fun d' _ => ?_)
    split
    · exact total_pure _ s
    · exact ih fun q' mem => live q' (List.mem_cons_of_mem _ mem)

theorem total_dpllDeviceAlloc (clockId : UInt64) (deviceIdx : UInt32) (module : Ptr) :
    Total (dpllDeviceAlloc clockId deviceIdx module) := by
  refine (total_kzalloc 1).bind fun dpll => total_mayRunOut.bind fun _ => total_get.bind fun s => ?_
  split
  · exact total_throw _
  · exact (total_set _).bind fun _ => total_pure _

theorem completes_dpllDeviceGet (key : DpllKey)
    (live : ∀ q ∈ s.deviceXa.values, ∃ d, s.device q = some d) :
    Completes (dpllDeviceGet key.clockId key.deviceIdx key.module) s := by
  refine (total_get s).bind ?_
  rw [wp_get]
  refine (completes_dpllDeviceLookup live).bind (wp_dpllDeviceLookup (fun q _ d here _ => ?_) fun _ => ?_)
  · refine (completes_derefDevice here).bind (wp_derefDevice.2 fun d' _ => ?_)
    exact (total_modify s).bind (wp_mono wp_true (fun _ t _ => total_pure q t) fun _ _ => id)
  · exact total_dpllDeviceAlloc _ _ _ s

theorem completes_dpllDevicePut (live : s.device dpll = some d) :
    Completes (dpllDevicePut dpll) s := by
  refine (completes_derefDevice live).bind (wp_derefDevice.2 fun d' _ => ?_)
  split
  · exact total_modify s
  · exact total_modify s

theorem completes_dpllDeviceRegister {type : ℕ} {ops : DpllDeviceOps} {priv : Ptr}
    (live : s.device dpll = some d) : Completes (dpllDeviceRegister dpll type ops priv) s := by
  refine (total_failIf _ s).bind (wp_failIf.2 ⟨fun _ => trivial, fun _ => ?_⟩)
  refine (total_failIf _ s).bind (wp_failIf.2 ⟨fun _ => trivial, fun _ => ?_⟩)
  refine (completes_derefDevice live).bind (wp_derefDevice.2 fun d' _ => ?_)
  refine (total_failIf _ s).bind (wp_failIf.2 ⟨fun _ => trivial, fun _ => ?_⟩)
  refine (total_mayRunOut s).bind (wp_mayRunOut (fun faults => ?_) fun _ => trivial)
  refine (total_modify _).bind ?_
  rw [wp_modify]
  split
  · refine (total_modify _).bind ?_
    rw [wp_modify]
    exact completes_dpllDeviceEventSend (Function.update_self ..) fun _ => by simp
  · exact total_pure _ _

theorem completes_dpllDeviceUnregister {ops : DpllDeviceOps} {priv : Ptr} (live : s.device dpll = some d)
    (registered : s.deviceXa.getMark d.id = true → d.registrationList ≠ []) :
    Completes (dpllDeviceUnregister dpll ops priv) s := by
  refine (completes_dpllDeviceEventSend live registered).bind ?_
  refine wp_mono (sends_dpllDeviceEventSend .delete dpll s) (fun _ t within => ?_)
    fun _ _ _ => trivial
  obtain ⟨_, _, rfl⟩ := within
  refine Completes.bind (completes_derefDevice (by exact live)) (wp_derefDevice.2 fun d' _ => ?_)
  split
  · refine (total_modify _).bind ?_
    rw [wp_modify]
    split
    · exact total_modify _
    · exact total_pure _ _
  · exact total_pure _ _

end Devices

/-! ## Pins -/

section Pins

variable {s : KernelState} {dpll pin : Ptr} {d : DpllDevice} {p : DpllPin}
  {reg : DpllPinRegistration}

theorem completes_dpllPinLookup {clockId : UInt64} {pinIdx : UInt32} {module : Ptr} {pins : List Ptr}
    (live : ∀ q ∈ pins, ∃ p, s.pin q = some p) :
    Completes (dpllPinLookup clockId pinIdx module pins) s := by
  induction pins with
  | nil => exact total_pure _ s
  | cons q pins ih =>
    obtain ⟨p, here⟩ := live q List.mem_cons_self
    rw [dpllPinLookup]
    refine (completes_derefPin here).bind (wp_derefPin.2 fun p' _ => ?_)
    split
    · exact total_pure _ s
    · exact ih fun q' mem => live q' (List.mem_cons_of_mem _ mem)

theorem total_dpllPinAlloc (clockId : UInt64) (pinIdx : UInt32) (module : Ptr)
    (prop : DpllPinProperties) : Total (dpllPinAlloc clockId pinIdx module prop) := by
  refine (total_kzalloc 1).bind fun pin => (total_failIf _).bind fun _ => ?_
  refine (total_dpllPinPropDup prop).bind fun prop => total_mayRunOut.bind fun _ => ?_
  refine total_get.bind fun s => ?_
  split
  · exact total_throw _
  · exact (total_set _).bind fun _ => total_pure _
  · exact (total_set _).bind fun _ => total_pure _

theorem completes_dpllPinGet {clockId : UInt64} {pinIdx : UInt32} {module : Ptr}
    {prop : DpllPinProperties} (live : ∀ q ∈ s.pinXa.values, ∃ p, s.pin q = some p) :
    Completes (dpllPinGet clockId pinIdx module prop) s := by
  refine (total_get s).bind ?_
  rw [wp_get]
  refine (completes_dpllPinLookup live).bind ?_
  refine wp_dpllPinLookup (fun q _ p here _ _ _ => ?_) fun _ => ?_
  · refine (completes_derefPin here).bind (wp_derefPin.2 fun p' _ => ?_)
    exact (total_modify s).bind (wp_mono wp_true (fun _ t _ => total_pure q t) fun _ _ => id)
  · exact total_dpllPinAlloc _ _ _ _ s

theorem completes_dpllPinPut (live : s.pin pin = some p) : Completes (dpllPinPut pin) s := by
  refine (completes_derefPin live).bind (wp_derefPin.2 fun p' _ => ?_)
  split
  · exact total_modify s
  · exact total_modify s

theorem completes_dpllPinRefsDel (live : s.device dpll = some d) :
    Completes (dpllPinRefsDel dpll pin reg) s := by
  refine (completes_derefDevice live).bind (wp_derefDevice.2 fun d' _ => ?_)
  exact total_modify s

theorem completes_dpllPinUnregisterRefs (liveD : s.device dpll = some d)
    (liveP : s.pin pin = some p) : Completes (_dpllPinUnregister dpll pin reg) s := by
  refine (completes_dpllPinRefsDel liveD).bind ?_
  unfold dpllPinRefsDel
  rw [wp_bind, wp_derefDevice]
  intro d' _
  rw [wp_setDevice]
  refine Completes.bind (completes_derefPin (by exact liveP)) (wp_derefPin.2 fun p' _ => ?_)
  refine (total_modify _).bind ?_
  rw [wp_modify]
  split
  · exact total_modify _
  · exact total_pure _ _

theorem completes_dpllPinUnregister {ops : DpllPinOps} {priv : Ptr} (liveD : s.device dpll = some d)
    (liveP : s.pin pin = some p) (targets : ∀ ref ∈ p.dpllRefs.values, ∃ d, s.device ref.target = some d) :
    Completes (dpllPinUnregister dpll pin ops priv) s := by
  refine (completes_derefDevice liveD).bind (wp_derefDevice.2 fun d' _ => ?_)
  refine (completes_derefPin liveP).bind (wp_derefPin.2 fun p' liveP' => ?_)
  split
  · rename_i both
    obtain rfl := Option.some.inj (liveP.symm.trans liveP')
    have noParents : p.parentRefs.values = [] := by
      rw [XArray.values, List.isEmpty_iff.1 both.2, List.map_nil]
    refine (completes_dpllPinEventSend liveP (by simp [noParents]) targets).bind ?_
    refine wp_mono (sends_dpllPinEventSend .delete pin s) (fun _ t within => ?_) fun _ _ _ => trivial
    obtain ⟨_, _, rfl⟩ := within
    exact completes_dpllPinUnregisterRefs liveD liveP
  · exact total_pure _ s

end Pins

end Netdevsim
