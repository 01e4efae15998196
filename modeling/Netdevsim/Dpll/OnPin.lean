import Netdevsim.Dpll.TwoSided

/-!
# Registering a pin on a pin is all or nothing

`dpll_pin_on_pin_register` enters the pin in its own list of parents and on every device of the
parent, on both sides of each.  `Also` says that a state is another one with the pin registered on
some more devices as well.  Deleting the registration from the devices again, in whatever order and
from devices without it too, leads back (`twp_dropAlso`), and so a failure on any device and
`dpll_pin_on_pin_unregister` both restore the registry.
-/

namespace Netdevsim

open Program

/-! ## One registration more -/

section Refs

variable {s : KernelState} {dpll other pin : Ptr} {d d' : DpllDevice} {p : DpllPin}
  {reg : DpllPinRegistration}

/-- What is written last counts. -/
theorem withRefs_withRefs (pinRefs dpllRefs pinRefs' dpllRefs' : XArray DpllPinRef) :
    (s.withRefs dpll pin d p pinRefs dpllRefs).withRefs dpll pin { d with pinRefs }
      { p with dpllRefs } pinRefs' dpllRefs' = s.withRefs dpll pin d p pinRefs' dpllRefs' := by
  unfold KernelState.withRefs
  simp only [Function.update_idem, XArray.setMark_setMark]

/-- Writing what is there changes nothing. -/
theorem RegistryInvariant.withRefs_eq_self (inv : RegistryInvariant s)
    (liveD : s.device dpll = some d) (liveP : s.pin pin = some p) :
    s.withRefs dpll pin d p d.pinRefs p.dpllRefs = s := by
  unfold KernelState.withRefs
  rw [← inv.marked pin p liveP, XArray.setMark_getMark (inv.pinAt pin p liveP)]
  show { s with
    device := Function.update s.device dpll (some d)
    pin := Function.update s.pin pin (some p) } = s
  rw [← liveD, ← liveP, Function.update_eq_self, Function.update_eq_self]

/-- What is written for two devices may be written in either order. -/
theorem withRefs_comm (away : dpll ≠ other)
    (pinRefs pinRefs' dpllRefs dpllRefs' last : XArray DpllPinRef) :
    (s.withRefs dpll pin d p pinRefs dpllRefs).withRefs other pin d' { p with dpllRefs }
      pinRefs' last =
      (s.withRefs other pin d' p pinRefs' dpllRefs').withRefs dpll pin d { p with
        dpllRefs := dpllRefs' } pinRefs last := by
  unfold KernelState.withRefs
  simp only [Function.update_idem, XArray.setMark_setMark]
  rw [Function.update_comm away]

/-- A registration is known to the device if it is known to the pin. -/
theorem RegistryInvariant.known_iff (inv : RegistryInvariant s) (liveD : s.device dpll = some d)
    (liveP : s.pin pin = some p) : Known d.pinRefs pin reg ↔ Known p.dpllRefs dpll reg := by
  unfold Known
  rw [inv.agree dpll d liveD pin p liveP]

/-- Deleting a registration that was added, and was not known before, leads back. -/
theorem RegistryInvariant.unregistered_registered (inv : RegistryInvariant s)
    (liveD : s.device dpll = some d) (liveP : s.pin pin = some p)
    (free : Free d.pinRefs pin p.pinIdx.toNat) (new : ¬Known p.dpllRefs dpll reg) :
    (s.registered dpll pin d p reg).unregistered dpll pin
      { d with pinRefs := addRef d.pinRefs pin p.pinIdx.toNat reg }
      { p with dpllRefs := addRef p.dpllRefs dpll d.id reg } reg = s := by
  have pins := dpllXaRefDel_addRef (inv.pinRefs dpll d liveD) (pinKey_of_live liveP) free
    (mt (inv.known_iff liveD liveP).1 new)
  have dplls := dpllXaRefDel_addRef (inv.dpllRefs pin p liveP) (deviceKey_of_live liveD)
    (inv.free_dpllRefs liveD liveP) new
  unfold KernelState.registered KernelState.unregistered
  rw [withRefs_withRefs, pins, dplls]
  exact inv.withRefs_eq_self liveD liveP

/-- Deleting a registration that is not known changes nothing. -/
theorem RegistryInvariant.unregistered_eq_self (inv : RegistryInvariant s)
    (liveD : s.device dpll = some d) (liveP : s.pin pin = some p)
    (new : ¬Known p.dpllRefs dpll reg) : s.unregistered dpll pin d p reg = s := by
  unfold KernelState.unregistered
  rw [dpllXaRefDel_of_not_known new,
    dpllXaRefDel_of_not_known (mt (inv.known_iff liveD liveP).1 new)]
  exact inv.withRefs_eq_self liveD liveP

/-- A registration on one device can be deleted before one on another device is added. -/
theorem RegistryInvariant.unregistered_registered_comm (inv : RegistryInvariant s)
    (liveD : s.device dpll = some d) (liveP : s.pin pin = some p) (away : dpll ≠ other) :
    (s.registered dpll pin d p reg).unregistered other pin d'
      { p with dpllRefs := addRef p.dpllRefs dpll d.id reg } reg =
      (s.unregistered other pin d' p reg).registered dpll pin d
        { p with dpllRefs := dpllXaRefDel p.dpllRefs other reg } reg := by
  unfold KernelState.registered KernelState.unregistered
  rw [dpllXaRefDel_addRef_comm (inv.dpllRefs pin p liveP) (deviceKey_of_live liveD)
    (inv.free_dpllRefs liveD liveP) away.symm]
  exact withRefs_comm away _ _ _ _ _

end Refs

/-! ## Some devices more -/

/-- The state `t` is `s` with the pin registered on the devices as well. -/
inductive Also (pin : Ptr) (reg : DpllPinRegistration) (s : KernelState) :
    List Ptr → KernelState → Prop where
  | same : Also pin reg s [] s
  | more {dplls t dpll d p} (also : Also pin reg s dplls t) (new : dpll ∉ dplls)
      (liveD : t.device dpll = some d) (liveP : t.pin pin = some p)
      (free : Free d.pinRefs pin p.pinIdx.toNat) :
      Also pin reg s (dplls ++ [dpll]) (t.registered dpll pin d p reg)

/-- The pin has no such registration on any device. -/
def Unregistered (s : KernelState) (pin : Ptr) (reg : DpllPinRegistration) : Prop :=
  ∀ p, s.pin pin = some p → ∀ dpll, ¬Known p.dpllRefs dpll reg

/-- The state with other parents and another count of a pin. -/
def KernelState.withParent (s : KernelState) (pin : Ptr) (p : DpllPin)
    (parentRefs : XArray DpllPinRef) (refcount : ℕ) : KernelState :=
  { s with pin := Function.update s.pin pin (some { p with parentRefs, refcount }) }

namespace Also

variable {s t : KernelState} {dplls : List Ptr} {dpll pin : Ptr} {d : DpllDevice} {p : DpllPin}
  {reg : DpllPinRegistration}

theorem inv (also : Also pin reg s dplls t) (inv : RegistryInvariant s) : RegistryInvariant t := by
  induction also with
  | same => exact inv
  | more _ _ liveD liveP free ih => exact ih.registered_pin liveD liveP free

theorem eq_of_nil (also : Also pin reg s [] t) : t = s := by
  generalize empty : ([] : List Ptr) = dplls at also
  cases also with
  | same => rfl
  | more => simp at empty

theorem nodup (also : Also pin reg s dplls t) : dplls.Nodup := by
  induction also with
  | same => exact List.nodup_nil
  | more _ new _ _ _ ih =>
    refine List.nodup_append.2 ⟨ih, List.nodup_singleton _, fun a mem b last same => ?_⟩
    rw [List.mem_singleton.1 last] at same
    exact new (same ▸ mem)

theorem liveDevice (also : Also pin reg s dplls t) {q : Ptr} (live : ∃ d, s.device q = some d) :
    ∃ d, t.device q = some d := by
  induction also with
  | same => exact live
  | more _ _ _ _ _ ih => exact exists_update ih

theorem liveDevice_of (also : Also pin reg s dplls t) {q : Ptr} (live : ∃ d, t.device q = some d) :
    ∃ d, s.device q = some d := by
  induction also with
  | same => exact live
  | @more _ _ dpll d _ _ _ liveD _ _ ih =>
    by_cases same : q = dpll
    · subst same
      exact ih ⟨d, liveD⟩
    · obtain ⟨d', live⟩ := live
      exact ih ⟨d', (Function.update_of_ne same ..).symm.trans live⟩

theorem livePin (also : Also pin reg s dplls t) {q : Ptr} (live : ∃ p, s.pin q = some p) :
    ∃ p, t.pin q = some p := by
  induction also with
  | same => exact live
  | more _ _ _ _ _ ih => exact exists_update ih

/-- On other devices nothing was registered. -/
theorem unknown (also : Also pin reg s dplls t) (inv : RegistryInvariant s)
    (none : Unregistered s pin reg) (live : t.pin pin = some p) (other : dpll ∉ dplls) :
    ¬Known p.dpllRefs dpll reg := by
  induction also generalizing p with
  | same => exact none p live dpll
  | @more dplls t q d p₀ also new liveD liveP free ih =>
    have inv := also.inv inv
    obtain ⟨old, last⟩ := not_or.1 (mt List.mem_append.2 other)
    obtain rfl := eq_of_update_self live
    rw [known_addRef_of_ne (inv.dpllRefs pin p₀ liveP) (deviceKey_of_live liveD)
      (inv.free_dpllRefs liveD liveP) fun same => last (List.mem_singleton.2 same)]
    exact ih liveP old

/-- On the devices the pin is registered. -/
theorem known (also : Also pin reg s dplls t) (inv : RegistryInvariant s)
    (live : t.pin pin = some p) (mem : dpll ∈ dplls) : Known p.dpllRefs dpll reg := by
  induction also generalizing p with
  | same => cases mem
  | @more dplls t q d p₀ also new liveD liveP free ih =>
    have inv := also.inv inv
    obtain rfl := eq_of_update_self live
    have keyed := inv.dpllRefs pin p₀ liveP
    have key := deviceKey_of_live liveD
    have freeP := inv.free_dpllRefs liveD liveP
    by_cases same : dpll = q
    · subst same
      unfold Known
      rw [contents_addRef keyed key freeP, Function.update_self]
      refine ⟨_, rfl, ?_⟩
      unfold Registrations.add
      split
      · exact List.mem_singleton_self _
      · split_ifs with here
        · exact here
        · exact List.mem_append_right _ (List.mem_singleton_self _)
    · rw [known_addRef_of_ne keyed key freeP same]
      exact ih liveP (by simpa [same] using mem)

/-- The parents and the count of the pin are another matter. -/
theorem withParent {p₁ : DpllPin} (also : Also pin reg s dplls t) (live : s.pin pin = some p)
    (live₁ : t.pin pin = some p₁) (parentRefs : XArray DpllPinRef) (refcount : ℕ) :
    p₁.parentRefs = p.parentRefs ∧ p₁.refcount = p.refcount ∧
      Also pin reg (s.withParent pin p parentRefs refcount) dplls
        (t.withParent pin p₁ parentRefs refcount) := by
  induction also generalizing p₁ with
  | same =>
    obtain rfl := Option.some.inj (live.symm.trans live₁)
    exact ⟨rfl, rfl, same⟩
  | @more dplls t q d p₀ also new liveD liveP free ih =>
    obtain rfl := eq_of_update_self live₁
    obtain ⟨sameRefs, sameCount, also⟩ := ih liveP
    refine ⟨sameRefs, sameCount, ?_⟩
    have next := also.more new (d := d) (p := { p₀ with parentRefs, refcount }) liveD
      (Function.update_self ..) free
    unfold KernelState.withParent KernelState.registered KernelState.withRefs at next ⊢
    simp only [Function.update_idem] at next ⊢
    exact next

/-- Deleting the registration from one of the devices. -/
theorem drop (also : Also pin reg s dplls t) (inv : RegistryInvariant s)
    (none : Unregistered s pin reg) (liveD : t.device dpll = some d) (liveP : t.pin pin = some p)
    (mem : dpll ∈ dplls) :
    Also pin reg s (dplls.erase dpll) (t.unregistered dpll pin d p reg) := by
  induction also generalizing d p with
  | same => cases mem
  | @more dplls t q d₀ p₀ also new liveD₀ liveP₀ free ih =>
    have inv' := also.inv inv
    obtain rfl := eq_of_update_self liveP
    by_cases same : dpll = q
    · subst same
      obtain rfl := eq_of_update_self liveD
      have unknown := also.unknown inv none liveP₀ new
      rw [inv'.unregistered_registered liveD₀ liveP₀ free unknown, List.erase_append_right _ new,
        List.erase_cons_head, List.append_nil]
      exact also
    · have old : dpll ∈ dplls := by simpa [same] using mem
      have liveD' : t.device dpll = some d := (Function.update_of_ne same ..).symm.trans liveD
      rw [inv'.unregistered_registered_comm liveD₀ liveP₀ (Ne.symm same),
        List.erase_append_left _ old]
      refine more (ih liveD' liveP₀ old) (fun mem => new (List.mem_of_mem_erase mem)) ?_ ?_ free
      · exact (Function.update_of_ne (Ne.symm same) ..).trans liveD₀
      · exact Function.update_self ..

end Also

/-! ## The loops -/

section Loops

variable {s t u : KernelState} {dpll pin : Ptr} {reg : DpllPinRegistration} {dplls : List Ptr}
  {Q : Unit → KernelState → Prop} {E : Errno → KernelState → Prop}

/-- What a notification changes does not matter to the registrations. -/
theorem ntfFrame_unregistered {d : DpllDevice} {p : DpllPin} (within : ntfFrame.rel t u) :
    ntfFrame.rel (t.unregistered dpll pin d p reg) (u.unregistered dpll pin d p reg) := by
  obtain ⟨sent, faults, rfl⟩ := within
  exact ⟨sent, faults, rfl⟩

theorem ntfFrame_registered {d : DpllDevice} {p : DpllPin} (within : ntfFrame.rel t u) :
    ntfFrame.rel (t.registered dpll pin d p reg) (u.registered dpll pin d p reg) := by
  obtain ⟨sent, faults, rfl⟩ := within
  exact ⟨sent, faults, rfl⟩

/-- The state is `s` with the pin registered on some of the devices of a list as well, up to
notifications. -/
def AlsoAmong (pin : Ptr) (reg : DpllPinRegistration) (s : KernelState) (list : List Ptr)
    (u : KernelState) : Prop :=
  ∃ dplls t, Also pin reg s dplls t ∧ dplls ⊆ list ∧ ntfFrame.rel t u

theorem AlsoAmong.nil (among : AlsoAmong pin reg s [] u) : ntfFrame.rel s u := by
  obtain ⟨dplls, t, also, subset, within⟩ := among
  obtain rfl := List.eq_nil_of_subset_nil subset
  obtain rfl := also.eq_of_nil
  exact within

theorem AlsoAmong.announced {list : List Ptr} (among : AlsoAmong pin reg s list u)
    (sent : ntfFrame.rel u t) : AlsoAmong pin reg s list t := by
  obtain ⟨dplls, w, also, subset, within⟩ := among
  exact ⟨dplls, w, also, subset, ntfFrame.trans within sent⟩

/-- Deleting the registration from the first device of the list, if it is there. -/
theorem twp_dropOne {list : List Ptr} (inv : RegistryInvariant s) (none : Unregistered s pin reg)
    (liveD : ∃ d, s.device dpll = some d) (liveP : ∃ p, s.pin pin = some p)
    (among : AlsoAmong pin reg s (dpll :: list) u)
    (ok : ∀ v, AlsoAmong pin reg s list v → RegistryInvariant v → (∃ p, v.pin pin = some p) →
      Q () v) : twp (_dpllPinUnregister dpll pin reg) Q E u := by
  obtain ⟨dplls, t, also, subset, within⟩ := among
  obtain ⟨d, liveD⟩ := also.liveDevice liveD
  obtain ⟨p, liveP⟩ := also.livePin liveP
  have sound := (also.inv inv).of_ntfFrame within
  have left : ntfFrame.rel (t.unregistered dpll pin d p reg)
      (u.unregistered dpll pin d p reg) := ntfFrame_unregistered within
  obtain ⟨sent, faults, rfl⟩ := within
  refine Completes.twp (completes_dpllPinUnregisterRefs (by exact liveD) (by exact liveP)) ?_
  refine wp_dpllPinUnregisterRefs sound fun d' p' liveD' liveP' => ?_
  obtain rfl := Option.some.inj (liveD.symm.trans liveD')
  obtain rfl := Option.some.inj (liveP.symm.trans liveP')
  refine ok _ ?_ (sound.unregistered_pin liveD' liveP') ⟨_, Function.update_self ..⟩
  by_cases mem : dpll ∈ dplls
  · refine ⟨_, _, also.drop inv none liveD liveP mem, fun q kept => ?_, left⟩
    obtain ⟨other, old⟩ := also.nodup.mem_erase_iff.1 kept
    exact (List.mem_cons.1 (subset old)).resolve_left other
  · rw [(also.inv inv).unregistered_eq_self liveD liveP (also.unknown inv none liveP mem)] at left
    refine ⟨dplls, t, also, fun q old => ?_, left⟩
    refine (List.mem_cons.1 (subset old)).resolve_left ?_
    rintro rfl
    exact mem old

/-- Going over a list that has all the devices, with what deletes the registration from each. -/
theorem twp_dropEach {list : List Ptr} {body : Ptr → KernelM Unit}
    (each : ∀ q rest v, (∃ d, s.device q = some d) → AlsoAmong pin reg s (q :: rest) v →
      twp (body q) (fun _ w => AlsoAmong pin reg s rest w) E v)
    (live : ∀ q ∈ list, ∃ d, s.device q = some d) (among : AlsoAmong pin reg s list u) :
    twp (list.forM body) (fun _ v => ntfFrame.rel s v) E u := by
  refine twp_mono (twp_forM (I := fun list v => AlsoAmong pin reg s list v ∧
    ∀ q ∈ list, ∃ d, s.device q = some d) (fun q rest v both => ?_) ⟨among, live⟩)
    (fun _ v both => both.1.nil) fun _ _ => id
  refine twp_mono (each q rest v (both.2 q List.mem_cons_self) both.1) (fun _ w among => ?_)
    fun _ _ => id
  exact ⟨among, fun q mem => both.2 q (List.mem_cons_of_mem _ mem)⟩

/-- The loop of `dpll_pin_on_pin_unregister`: the registration is deleted from all devices that have
it. -/
theorem twp_dropAlso {list : List Ptr} (inv : RegistryInvariant s) (none : Unregistered s pin reg)
    (liveP : ∃ p, s.pin pin = some p) (live : ∀ q ∈ list, ∃ d, s.device q = some d)
    (among : AlsoAmong pin reg s list u) :
    twp (list.forM fun dpll => _dpllPinUnregister dpll pin reg) (fun _ v => ntfFrame.rel s v) E
      u := by
  refine twp_dropEach (fun q rest v liveQ among => ?_) live among
  exact twp_dropOne inv none liveQ liveP among fun w left _ _ => left

/-- The rollback of `dpll_pin_on_pin_register`, with a notification for each device. -/
theorem twp_rollbackAlso {list : List Ptr} (inv : RegistryInvariant s)
    (none : Unregistered s pin reg) (liveP : ∃ p, s.pin pin = some p)
    (live : ∀ q ∈ list, ∃ d, s.device q = some d) (among : AlsoAmong pin reg s list u) :
    twp (list.forM fun dpll => do
        _dpllPinUnregister dpll pin reg
        dpllPinEventSend .delete pin) (fun _ v => ntfFrame.rel s v) E u := by
  refine twp_dropEach (fun q rest v liveQ among => ?_) live among
  rw [twp_bind]
  refine twp_dropOne inv none liveQ liveP among fun w left sound ⟨p, liveW⟩ => ?_
  exact twp_dpllPinEventSend_of_inv sound liveW fun x sent => left.announced sent

/-- The loop of `dpll_pin_on_pin_register`: the pin is registered on all devices as well, or nothing
is left of what it did. -/
theorem twp_dpllPinOnPinLoop {done rest : List Ptr} (inv : RegistryInvariant s)
    (none : Unregistered s pin reg) (live : ∀ q ∈ done ++ rest, ∃ d, s.device q = some d)
    (liveP : ∃ p, s.pin pin = some p) (nodup : (done ++ rest).Nodup)
    (also : Also pin reg s done t) (within : ntfFrame.rel t u) :
    twp (dpllPinOnPinLoop pin reg done rest)
      (fun _ v => ∃ w, Also pin reg s (done ++ rest) w ∧ ntfFrame.rel w v)
      (fun _ v => ntfFrame.rel s v) u := by
  induction rest generalizing done t u with
  | nil =>
    rw [List.append_nil]
    exact ⟨t, also, within⟩
  | cons q rest ih =>
    obtain ⟨d, liveD⟩ := also.liveDevice (live q (by simp))
    obtain ⟨p, liveP'⟩ := also.livePin liveP
    have sound := (also.inv inv).of_ntfFrame within
    have new : q ∉ done := fun mem =>
      (List.nodup_append.1 nodup).2.2 q mem q List.mem_cons_self rfl
    rw [dpllPinOnPinLoop, twp_bind]
    refine twp_unwind_of (J := fun v => ntfFrame.rel t v) ?_ fun v left => ?_
    · have liveD' : u.device q = some d := by
        obtain ⟨_, _, rfl⟩ := within
        exact liveD
      have livePu : u.pin pin = some p := by
        obtain ⟨_, _, rfl⟩ := within
        exact liveP'
      refine twp_dpllPinRegisterRefs sound liveD' livePu (fun free v after => ?_) fun e faults =>
        ntfFrame.trans within ⟨_, faults, rfl⟩
      have next := also.more new liveD liveP' free
      have frame := ntfFrame.trans (ntfFrame_registered within) after
      obtain ⟨p', liveW⟩ := next.livePin liveP
      have liveV : v.pin pin = some p' := by
        obtain ⟨_, _, rfl⟩ := frame
        exact liveW
      rw [twp_bind]
      refine twp_dpllPinEventSend_of_inv ((next.inv inv).of_ntfFrame frame) liveV fun w sent => ?_
      rw [List.append_cons done q rest] at live nodup ⊢
      exact ih live nodup next (ntfFrame.trans frame sent)
    · exact twp_rollbackAlso inv none liveP (fun q mem => live q (List.mem_append_left _ mem))
        ⟨done, t, also, List.Subset.refl _, left⟩

end Loops

/-! ## The parent -/

/-- The pin is registered on the parent with the callbacks and the private data: it has such a
registration of the parent, or one that was made on a device for the parent's sake. -/
def RegisteredOn (s : KernelState) (parent pin : Ptr) (ops : DpllPinOps) (priv : Ptr) : Prop :=
  ∃ p, s.pin pin = some p ∧ (Known p.parentRefs parent ⟨ops, priv, pin⟩ ∨
    ∃ dpll, Known p.dpllRefs dpll ⟨ops, priv, parent⟩)

section OnPin

variable {s t u : KernelState} {parent pin dpll : Ptr} {ops : DpllPinOps} {priv : Ptr}
  {par p p₁ : DpllPin} {reg : DpllPinRegistration} {dplls : List Ptr}

/-- No two references lead to the same target. -/
theorem Keyed.nodup_targets {key : Ptr → Option ℕ} {xa : XArray DpllPinRef}
    (keyed : Keyed key xa) : (xa.values.map DpllPinRef.target).Nodup := by
  unfold XArray.values
  rw [List.map_map, List.Nodup, List.pairwise_map]
  refine xa.sorted.imp_of_mem fun mem mem' lt same => lt.ne ?_
  rw [keyed.ext mem mem' same]

theorem Keyed.mem_targets {key : Ptr → Option ℕ} {xa : XArray DpllPinRef}
    (keyed : Keyed key xa) (known : Known xa dpll reg) :
    dpll ∈ xa.values.map DpllPinRef.target := by
  obtain ⟨e, mem, rfl, -⟩ := (known_iff_mem keyed).1 known
  exact List.mem_map_of_mem (XArray.mem_values.2 ⟨e, mem, rfl⟩)

theorem RegistryInvariant.live_targets (inv : RegistryInvariant s) (live : s.pin pin = some p) :
    ∀ q ∈ p.dpllRefs.values.map DpllPinRef.target, ∃ d, s.device q = some d := by
  intro q mem
  obtain ⟨ref, listed, rfl⟩ := List.mem_map.1 mem
  exact inv.targets live ref listed

/-- The state while the pin has the parent. -/
def KernelState.adopted (s : KernelState) (parent pin : Ptr) (par p : DpllPin)
    (reg : DpllPinRegistration) : KernelState :=
  s.withParent pin p (addRef p.parentRefs parent par.pinIdx.toNat reg) (p.refcount + 1)

theorem RegistryInvariant.adopted (inv : RegistryInvariant s) (livePar : s.pin parent = some par)
    (live : s.pin pin = some p) (reg : DpllPinRegistration) :
    RegistryInvariant (s.adopted parent pin par p reg) :=
  inv.setPin live rfl rfl rfl
    (keyed_addRef (inv.parentRefs pin p live) (pinKey_of_live livePar) reg)

theorem adopted_pin : (s.adopted parent pin par p reg).pin pin =
    some { p with
      parentRefs := addRef p.parentRefs parent par.pinIdx.toNat reg, refcount := p.refcount + 1 } :=
  Function.update_self ..

/-- Without the parent the pin is as it was. -/
theorem withParent_withParent {p' : DpllPin} (live : s.pin pin = some p)
    (same : { p' with parentRefs := p.parentRefs, refcount := p.refcount } = p)
    (xa : XArray DpllPinRef) (n : ℕ) :
    (s.withParent pin p xa n).withParent pin p' p.parentRefs p.refcount = s := by
  unfold KernelState.withParent
  dsimp only
  rw [Function.update_idem, same, ← live, Function.update_eq_self]

/-- Dropping the parent from what else was registered. -/
theorem Also.abandoned {reg' : DpllPinRegistration}
    (also : Also pin reg' (s.adopted parent pin par p reg) dplls t) (inv : RegistryInvariant s)
    (livePar : s.pin parent = some par) (live : s.pin pin = some p)
    (free : Free p.parentRefs parent par.pinIdx.toNat) (new : ¬Known p.parentRefs parent reg)
    (live₁ : t.pin pin = some p₁) :
    Also pin reg' s dplls (t.withParent pin p₁ (dpllXaRefDel p₁.parentRefs parent reg)
      (p₁.refcount - 1)) := by
  have undone := dpllXaRefDel_addRef (inv.parentRefs pin p live) (pinKey_of_live livePar) free new
  obtain ⟨parents, count, back⟩ := also.withParent adopted_pin live₁ p.parentRefs p.refcount
  have restored : (s.adopted parent pin par p reg).withParent pin
      { p with
        parentRefs := addRef p.parentRefs parent par.pinIdx.toNat reg, refcount := p.refcount + 1 }
      p.parentRefs p.refcount = s := withParent_withParent live rfl _ _
  rw [restored] at back
  rw [parents, count, undone]
  exact back

/-- Nothing was registered on devices for the parent's sake. -/
theorem unregistered_of_not_registeredOn (new : ¬RegisteredOn s parent pin ops priv) :
    Unregistered s pin ⟨ops, priv, parent⟩ :=
  fun p live dpll known => new ⟨p, live, .inr ⟨dpll, known⟩⟩

theorem Unregistered.adopted {reg' : DpllPinRegistration} (none : Unregistered s pin reg')
    (live : s.pin pin = some p) : Unregistered (s.adopted parent pin par p reg) pin reg' := by
  intro p' live' dpll known
  obtain rfl := eq_of_update_self live'
  exact none p live dpll known

/-- `dpll_pin_on_pin_register` registers the pin on the devices of the parent as well, or fails and
changes nothing. -/
theorem twp_dpllPinOnPinRegister (inv : RegistryInvariant s) (livePar : s.pin parent = some par)
    (live : s.pin pin = some p) (new : ¬RegisteredOn s parent pin ops priv) :
    twp (dpllPinOnPinRegister parent pin ops priv)
      (fun _ t => Free p.parentRefs parent par.pinIdx.toNat ∧ ∃ dplls u,
        Also pin ⟨ops, priv, parent⟩ (s.adopted parent pin par p ⟨ops, priv, pin⟩) dplls u ∧
          ntfFrame.rel u t)
      (fun _ t => ntfFrame.rel s t) s := by
  unfold dpllPinOnPinRegister
  rw [twp_bind, twp_derefPin]
  refine ⟨par, livePar, ?_⟩
  rw [twp_bind, twp_failIf]
  refine ⟨fun _ => ntfFrame.refl s, fun _ => ?_⟩
  rw [twp_bind, twp_failIf]
  refine ⟨fun _ => ntfFrame.refl s, fun _ => ?_⟩
  rw [twp_bind, twp_derefPin]
  refine ⟨p, live, ?_⟩
  unfold dpllXaRefPinAdd
  rw [twp_bind, twp_bind, twp_derefPin]
  refine ⟨par, livePar, (total_dpllXaRefAdd _ _ _ _ s).twp ?_⟩
  refine wp_dpllXaRefAdd (fun free faults _ => ?_) fun _ _ faults => ⟨_, faults, rfl⟩
  rw [twp_bind, twp_setPin]
  -- from here on the pin has the parent
  have adopted := inv.adopted livePar live ⟨ops, priv, pin⟩
  have none : Unregistered (s.adopted parent pin par p ⟨ops, priv, pin⟩) pin
      ⟨ops, priv, parent⟩ := (unregistered_of_not_registeredOn new).adopted live
  have unknown : ¬Known p.parentRefs parent ⟨ops, priv, pin⟩ :=
    fun known => new ⟨p, live, .inl known⟩
  have start : ntfFrame.rel (s.adopted parent pin par p ⟨ops, priv, pin⟩)
      { s.adopted parent pin par p ⟨ops, priv, pin⟩ with faults } := ⟨_, faults, rfl⟩
  obtain ⟨par', livePar'⟩ := exists_update (a := pin) (x := { p with
    parentRefs := addRef p.parentRefs parent par.pinIdx.toNat ⟨ops, priv, pin⟩
    refcount := p.refcount + 1 }) ⟨par, livePar⟩
  rw [twp_bind, twp_derefPin]
  refine ⟨par', livePar', ?_⟩
  refine twp_unwind_of (J := fun v => ntfFrame.rel
    (s.adopted parent pin par p ⟨ops, priv, pin⟩) v) ?_ fun v left => ?_
  · refine twp_mono (twp_dpllPinOnPinLoop adopted none ?_ ⟨_, adopted_pin⟩ ?_ .same start)
      (fun _ v ⟨w, also, within⟩ => ⟨free, _, w, also, within⟩) fun _ _ => id
    · exact adopted.live_targets livePar'
    · exact (adopted.dpllRefs parent par' livePar').nodup_targets
  · obtain ⟨sent, faults, rfl⟩ := left
    rw [twp_bind, twp_derefPin]
    refine ⟨_, adopted_pin, ?_⟩
    have nothing : Also pin ⟨ops, priv, parent⟩
      (s.adopted parent pin par p ⟨ops, priv, pin⟩) [] _ := .same
    have restored := (nothing.abandoned inv livePar live free unknown adopted_pin).eq_of_nil
    exact ⟨sent, faults, congrArg (fun w => { w with sent, faults }) restored⟩

/-- Right after it, `dpll_pin_on_pin_unregister` leads back. -/
theorem twp_dpllPinOnPinUnregister (inv : RegistryInvariant s) (livePar : s.pin parent = some par)
    (live : s.pin pin = some p) (new : ¬RegisteredOn s parent pin ops priv)
    (free : Free p.parentRefs parent par.pinIdx.toNat)
    (also : Also pin ⟨ops, priv, parent⟩ (s.adopted parent pin par p ⟨ops, priv, pin⟩) dplls t)
    (within : ntfFrame.rel t u) :
    twp (dpllPinOnPinUnregister parent pin ops priv) (fun _ v => ntfFrame.rel s v)
      (fun _ _ => False) u := by
  have adopted := inv.adopted livePar live ⟨ops, priv, pin⟩
  have none : Unregistered s pin ⟨ops, priv, parent⟩ := unregistered_of_not_registeredOn new
  have unknown : ¬Known p.parentRefs parent ⟨ops, priv, pin⟩ :=
    fun known => new ⟨p, live, .inl known⟩
  have sound := also.inv adopted
  obtain ⟨p₁, live₁⟩ := also.livePin ⟨_, adopted_pin⟩
  have live₁' : u.pin pin = some p₁ := by
    obtain ⟨_, _, rfl⟩ := within
    exact live₁
  unfold dpllPinOnPinUnregister
  rw [twp_bind]
  refine twp_dpllPinEventSend_of_inv (sound.of_ntfFrame within) live₁' fun v announced => ?_
  obtain ⟨sent, faults, rfl⟩ := ntfFrame.trans within announced
  rw [twp_bind, twp_derefPin]
  refine ⟨p₁, live₁, ?_⟩
  rw [twp_bind, twp_setPin]
  have back := also.abandoned inv livePar live free unknown live₁
  refine twp_dropAlso inv none ⟨p, live⟩ (fun q mem => ?_)
    ⟨dplls, _, back, fun q mem => ?_, ⟨sent, faults, rfl⟩⟩
  · exact back.liveDevice_of (sound.live_targets live₁ q mem)
  · exact (sound.dpllRefs pin p₁ live₁).mem_targets (also.known adopted live₁ mem)

end OnPin

/-! ## All or nothing -/

theorem not_known_of_isEmpty {xa : XArray DpllPinRef} {target : Ptr} {reg : DpllPinRegistration}
    (empty : xa.isEmpty) : ¬Known xa target reg := by
  rintro ⟨r, here, -⟩
  rw [isEmpty_iff_contents.1 empty] at here
  cases here

/-- Registering the pin on the parent, whatever fails in it, fails and changes nothing of the
registry, or succeeds, and unregistering it right after changes it back. -/
def AllOrNothing (s : KernelState) (parent pin : Ptr) (ops : DpllPinOps) (priv : Ptr) : Prop :=
  ∀ faults, ∃ result t,
    (dpllPinOnPinRegister parent pin ops priv).exec { s with faults } = some (result, t) ∧
    (∀ e, result = .error e → ntfFrame.rel s t) ∧
    (result = .ok () → ∀ faults, ∃ u,
      (dpllPinOnPinUnregister parent pin ops priv).exec { t with faults } = some (.ok (), u) ∧
      ntfFrame.rel s u)

/-- Whatever calls were made before, a pin is registered on a parent it is not registered on yet all
or nothing. -/
theorem pin_on_pin_all_or_nothing (s : KernelState)
    (h : (registrySystem.guard fun s a => PutsUnregistered s a.1).Reachable s) (parent pin : Ptr)
    (livePar : (s.pin parent).isSome) (live : (s.pin pin).isSome) (ops : DpllPinOps) (priv : Ptr)
    (new : ¬RegisteredOn s parent pin ops priv) : AllOrNothing s parent pin ops priv := by
  intro faults
  obtain ⟨par, livePar⟩ := Option.isSome_iff_exists.1 livePar
  obtain ⟨p, live⟩ := Option.isSome_iff_exists.1 live
  have inv := registryInvariant_reachable h
  have start : ntfFrame.rel s { s with faults } := ⟨_, faults, rfl⟩
  obtain ⟨result, t, run, ok, error⟩ := ends_of_twp (twp_dpllPinOnPinRegister
    (inv.withFaults faults) (by exact livePar) (by exact live) (by exact new))
  refine ⟨result, t, run, fun e failed => ntfFrame.trans start (error e failed), ?_⟩
  rintro rfl faults'
  obtain ⟨free, dplls, u, also, within⟩ := ok () rfl
  obtain ⟨result', v, run', ok', error'⟩ := ends_of_twp (twp_dpllPinOnPinUnregister
    (inv.withFaults faults) (by exact livePar) (by exact live) (by exact new) free also
    (ntfFrame.trans within ⟨_, faults', rfl⟩))
  cases result' with
  | ok a => exact ⟨v, run', ntfFrame.trans start (ok' a rfl)⟩
  | error e => exact (error' e rfl).elim

/-- The properties of a multiplexer. -/
def muxPin : DpllPinProperties := ⟨none, none, none, DPLL_PIN_TYPE_MUX, 0, [], (0, 0)⟩

/-- The callbacks that a pin on a pin needs. -/
def onPinOps : DpllPinOps := ⟨2, true, true, false⟩

/-- A multiplexer registered on a device, and another pin, at the addresses 17 and 18. -/
def oneParent : List (DpllCall × List (Option Errno)) :=
  [(.deviceGet 0 0 1, []), (.pinGet 0 0 1 muxPin, []), (.pinGet 0 1 1 plainPin, []),
    (.pinRegister 16 17 plainPinOps 3, [])]

/-- The pin is registered on the multiplexer. -/
theorem pin_on_pin_all_or_nothing_oneParent :
    ∃ s, (s.pin 17).any (fun par => par.prop.type = DPLL_PIN_TYPE_MUX ∧ ¬par.dpllRefs.isEmpty) ∧
      AllOrNothing s 17 18 onPinOps 3 := by
  obtain ⟨s, reachable, test⟩ := exists_reachable_of_follow oneParent
    (fun s => (s.pin 17).any (fun par => par.prop.type = DPLL_PIN_TYPE_MUX ∧
      ¬par.dpllRefs.isEmpty) && (s.pin 18).any fun p => p.parentRefs.isEmpty && p.dpllRefs.isEmpty)
    (fun a mem s => by fin_cases mem <;> trivial) (by decide +kernel)
  obtain ⟨parent, child⟩ := Bool.and_eq_true_iff.1 test
  refine ⟨s, parent, pin_on_pin_all_or_nothing s reachable 17 18 ?_ ?_ onPinOps 3 ?_⟩
  · cases here : s.pin 17 with
    | none => simp [here] at parent
    | some par => rfl
  · cases here : s.pin 18 with
    | none => simp [here] at child
    | some p => rfl
  · rintro ⟨p, live, known⟩
    rw [live, Option.any_some, Bool.and_eq_true] at child
    obtain known | ⟨dpll, known⟩ := known
    · exact not_known_of_isEmpty child.1 known
    · exact not_known_of_isEmpty child.2 known

end Netdevsim
