import Netdevsim.Dpll.DeviceTable
import Netdevsim.Dpll.Init

/-!
# A device's DPLLs in the table

`nsim_dpll_init` gets and registers the PPS and the EEC device; when it fails, the table is what it
was.  `nsim_dpll_exit` takes both back.  Everything about pins stays out of the table.
-/

namespace Netdevsim

open Program

def ppsKey : DpllKey := ⟨NSIM_DPLL_CLOCK_ID, NSIM_DPLL_PPS_IDX, THIS_MODULE⟩
def eecKey : DpllKey := ⟨NSIM_DPLL_CLOCK_ID, NSIM_DPLL_EEC_IDX, THIS_MODULE⟩

/-- The registration of a DPLL by the `struct nsim_dpll` at an address. -/
def nsimReg (ndpll : Ptr) : DpllDeviceRegistration := ⟨nsimDpllDeviceOps, ndpll⟩

/-- The table after `nsim_dpll_init`. -/
def DeviceTable.attach (T : DeviceTable) (ndpll ppsDpll eecDpll : Ptr) : DeviceTable :=
  (((T.get ppsKey ppsDpll).register ppsKey (nsimReg ndpll)).get eecKey eecDpll).register eecKey
    (nsimReg ndpll)

/-- The table after `nsim_dpll_exit`. -/
def DeviceTable.detach (T : DeviceTable) (ndpll : Ptr) : DeviceTable :=
  (((T.unregister eecKey (nsimReg ndpll)).put eecKey).unregister ppsKey (nsimReg ndpll)).put ppsKey

/-! ## Taking operations back -/

section Undo

variable {T : DeviceTable} {key : DpllKey} {p : Ptr} {reg : DpllDeviceRegistration}

@[simp] theorem get_self : T.get key p key =
    ⟨p, (T key).refs + 1, if (T key).refs = 0 then [] else (T key).regs⟩ := Function.update_self ..

@[simp] theorem register_self : T.register key reg key =
    ⟨(T key).addr, (T key).refs, (T key).regs ++ [reg]⟩ := Function.update_self ..

@[simp] theorem put_self : T.put key key = ⟨(T key).addr, (T key).refs - 1, (T key).regs⟩ :=
  Function.update_self ..

@[simp] theorem unregister_self : T.unregister key reg key =
    ⟨(T key).addr, (T key).refs, (T key).regs.erase reg⟩ := Function.update_self ..

section Other

variable {other : DpllKey} (differ : other ≠ key)
include differ

theorem get_other : T.get key p other = T other := Function.update_of_ne differ ..

theorem register_other : T.register key reg other = T other := Function.update_of_ne differ ..

theorem put_other : T.put key other = T other := Function.update_of_ne differ ..

theorem unregister_other : T.unregister key reg other = T other := Function.update_of_ne differ ..

end Other

theorem put_get (addr : 0 < (T key).refs → p = (T key).addr) : ((T.get key p).put key).Same T := by
  intro other
  by_cases own : other = key
  · subst own
    rw [put_self, get_self]
    rcases Nat.eq_zero_or_pos (T other).refs with none | some
    · right
      exact ⟨by show (T other).refs + 1 - 1 = 0; omega, none⟩
    · left
      simp [addr some, if_neg some.ne']
  · rw [put_other own, get_other own]
    exact .inl rfl

theorem unregister_register (new : reg ∉ (T key).regs) :
    (T.register key reg).unregister key reg = T := by
  funext other
  by_cases own : other = key
  · subst own
    rw [unregister_self, register_self, List.erase_append_right _ new]
    simp
  · rw [unregister_other own, register_other own]

end Undo

/-! ## The pins -/

section Pins

variable {ppsDpll pin ndpll : Ptr}

theorem keeps_nsimDpllPin (pinIdx : UInt32) (props : DpllPinProperties) (ops : DpllPinOps)
    (priv : Ptr) : Keeps pinFrame (nsimDpllPin ppsDpll pinIdx props ops priv) := by
  apply (keeps_dpllPinGet _ _ _ _).bind
  intro pin
  apply ((keeps_dpllPinPut pin).unwind (keeps_dpllPinRegister _ _)).bind
  exact fun _ => keeps_pure _

theorem keeps_nsimDpllCleanupExtPins (extPins : List Ptr) :
    Keeps pinFrame (nsimDpllCleanupExtPins ndpll ppsDpll extPins) := by
  apply keeps_forM
  intro epin _
  exact (keeps_dpllPinUnregister _ _).bind fun _ => keeps_dpllPinPut _

theorem keeps_nsimDpllCleanupPortPins (portPins : List NsimDpllPin) :
    Keeps pinFrame (nsimDpllCleanupPortPins ppsDpll portPins) := by
  apply keeps_forM
  intro npin _
  apply (keeps_dpllNetdevPinAssign _ _).bind
  intro _
  exact (keeps_dpllPinUnregister _ _).bind fun _ => keeps_dpllPinPut _

theorem keeps_nsimDpllExtPins (labels : List Bytes) (extPins : List Ptr) :
    Keeps pinFrame (nsimDpllExtPins ndpll ppsDpll extPins labels) := by
  induction labels generalizing extPins with
  | nil => exact keeps_pure _
  | cons label labels ih =>
    apply ((keeps_nsimDpllCleanupExtPins _).unwind (keeps_nsimDpllPin _ _ _ _)).bind
    exact fun _ => ih _

theorem keeps_nsimDpllPortPin (pinIdx : UInt32) (port : NsimDevPort) :
    Keeps pinFrame (nsimDpllPortPin ppsDpll pinIdx port) := by
  apply (keeps_kzalloc 1).bind
  intro npin
  apply keeps_get.bind
  intro s
  split
  · exact keeps_goWrong
  · apply (keeps_nsimDpllPin _ _ _ _).bind
    intro pin
    exact (keeps_dpllNetdevPinAssign _ _).bind fun _ => keeps_pure _

theorem keeps_nsimDpllPortPins (ports : List NsimDevPort) (pinIdx : UInt32)
    (portPins : List NsimDpllPin) :
    Keeps pinFrame (nsimDpllPortPins ppsDpll pinIdx portPins ports) := by
  induction ports generalizing pinIdx portPins with
  | nil => exact keeps_pure _
  | cons port ports ih =>
    rw [nsimDpllPortPins]
    split
    · apply ((keeps_nsimDpllCleanupPortPins _).unwind (keeps_nsimDpllPortPin _ _)).bind
      exact fun _ => ih _ _
    · exact ih _ _

theorem keeps_nsimDpllNtfWork (ndpll : NsimDpllDev) : Keeps pinFrame (nsimDpllNtfWork ndpll) := by
  apply (keeps_dpllDeviceEventSend _ _).bind
  intro _
  apply (keeps_dpllDeviceEventSend _ _).bind
  intro _
  apply (keeps_dpllPinEventSend _ _).bind
  exact fun _ => keeps_forM fun _ _ => keeps_dpllPinEventSend _ _

theorem keeps_nsimDpllAnnounce (ndpll : NsimDpllDev) :
    Keeps pinFrame (nsimDpllAnnounce ndpll) := by
  apply (keeps_nsimDpllNtfWork _).bind
  exact fun _ => keeps_forM fun _ _ => keeps_dpllPinEventSend _ _

theorem keeps_nsimDpllGnssAndSysfs : Keeps pinFrame nsimDpllGnssAndSysfs := by
  apply keeps_mayRunOut.bind
  intro _
  apply keeps_mayFail.bind
  intro _
  exact keeps_mayRunOut.bind fun _ => keeps_mayFail

theorem keeps_nsimDpllInitPins (now : ℕ) (portList : List NsimDevPort) (ndpll ppsDpll eecDpll : Ptr) :
    Keeps pinFrame (nsimDpllInitPins now portList ndpll ppsDpll eecDpll) := by
  apply (keeps_nsimDpllPin _ _ _ _).bind
  intro gnssPin
  apply ((keeps_dpllPinUnregister _ _).bind fun _ => keeps_dpllPinPut _).unwind
  apply (keeps_nsimDpllExtPins _ _).bind
  intro extPins
  apply (keeps_nsimDpllCleanupExtPins _).unwind
  apply (keeps_nsimDpllPortPins _ _ _).bind
  intro portPins
  apply ((keeps_nsimDpllCleanupPortPins _).unwind keeps_nsimDpllGnssAndSysfs).bind
  intro _
  exact (keeps_nsimDpllAnnounce _).bind fun _ => keeps_pure _

theorem returns_nsimDpllPortPin (pinIdx : UInt32) (port : NsimDevPort) :
    Returns (nsimDpllPortPin ppsDpll pinIdx port) fun npin => npin.ns = port.ns := by
  apply returns_bind
  intro npin
  apply returns_bind
  intro s
  split
  · exact returns_goWrong
  · apply returns_bind
    intro pin
    apply returns_bind
    exact fun _ => returns_pure rfl

/-- One pin for each PF port, in the order of the ports. -/
theorem returns_nsimDpllPortPins (ports : List NsimDevPort) (pinIdx : UInt32)
    (portPins : List NsimDpllPin) :
    Returns (nsimDpllPortPins ppsDpll pinIdx portPins ports) fun pins =>
      pins.map NsimDpllPin.ns =
        portPins.map NsimDpllPin.ns ++ (ports.filter nsimDevPortIsPf).map NsimDevPort.ns := by
  induction ports generalizing pinIdx portPins with
  | nil => exact returns_pure (by simp)
  | cons port ports ih =>
    rw [nsimDpllPortPins]
    split
    · rename_i pf
      apply (returns_nsimDpllPortPin pinIdx port).unwind.bind
      intro npin own s
      apply wp_mono (ih _ _ s) _ fun _ _ => id
      intro pins _ all
      simpa [List.filter_cons_of_pos pf, own] using all
    · rename_i vf
      rw [List.filter_cons_of_neg vf]
      exact ih _ _

/-- What the new DPLL of a device holds. -/
theorem returns_nsimDpllInitPins (now : ℕ) (portList : List NsimDevPort)
    (ndpll ppsDpll eecDpll : Ptr) :
    Returns (nsimDpllInitPins now portList ndpll ppsDpll eecDpll) fun d =>
      d.addr = ndpll ∧ d.ppsDpll = ppsDpll ∧ d.eecDpll = eecDpll ∧ d.lock = NsimDpll.started now ∧
        d.portPins.map NsimDpllPin.ns = (portList.filter nsimDevPortIsPf).map NsimDevPort.ns := by
  apply returns_bind
  intro gnssPin
  apply Returns.unwind
  apply returns_bind
  intro extPins
  apply Returns.unwind
  apply (returns_nsimDpllPortPins _ _ _).bind
  intro portPins all
  apply returns_bind
  intro _
  apply returns_bind
  exact fun _ => returns_pure ⟨rfl, rfl, rfl, rfl, all⟩

/-- The new DPLL of a device has one pin for each of its PF ports. -/
theorem returns_nsimDpllInit (now : ℕ) (portList : List NsimDevPort) :
    Returns (nsimDpllInit now portList) fun d =>
      d.portPins.map NsimDpllPin.ns = (portList.filter nsimDevPortIsPf).map NsimDevPort.ns := by
  apply returns_bind
  intro ndpll
  apply returns_bind
  intro ppsDpll
  apply Returns.unwind
  apply returns_bind
  intro _
  apply Returns.unwind
  apply returns_bind
  intro eecDpll
  apply Returns.unwind
  apply returns_bind
  intro _
  apply Returns.unwind
  intro s
  apply wp_mono (returns_nsimDpllInitPins now portList ndpll ppsDpll eecDpll s) _ fun _ _ => id
  exact fun _ _ all => all.2.2.2.2

end Pins

/-! ## Setting up and tearing down -/

section InitExit

variable {s : KernelState} {T : DeviceTable} {bound : Ptr}

/-- What is known of a DPLL set up in a core that represented `T`. -/
structure Attached (T : DeviceTable) (bound : Ptr) (now : ℕ) (portList : List NsimDevPort)
    (d : NsimDpllDev) (t : KernelState) : Prop where
  addr : bound ≤ d.addr
  table : Represents t (T.attach d.addr d.ppsDpll d.eecDpll) (d.addr + 1)
  pps : 0 < (T ppsKey).refs → d.ppsDpll = (T ppsKey).addr
  eec : 0 < (T eecKey).refs → d.eecDpll = (T eecKey).addr
  lock : d.lock = NsimDpll.started now
  portPins : d.portPins.map NsimDpllPin.ns = (portList.filter nsimDevPortIsPf).map NsimDevPort.ns

theorem Represents.weaken {b : Ptr} (rep : Represents s T bound) (le : b ≤ bound) :
    Represents s T b :=
  ⟨rep.listed, rep.present, rep.fresh, le.trans rep.bound⟩

/-- Getting and registering a device, with the cleanups of a later failure: the common shape of the
two halves of `nsim_dpll_init`. -/
theorem wp_getAndRegister {α : Type} (key : DpllKey) {type : ℕ} {ndpll : Ptr} {m : Ptr → KernelM α}
    {Q : α → KernelState → Prop} (rep : Represents s T bound)
    (body : ∀ p t, nsimReg ndpll ∉ (T.get key p key).regs →
      (0 < (T key).refs → p = (T key).addr) →
      Represents t ((T.get key p).register key (nsimReg ndpll)) bound →
      wp (m p) Q
        (fun _ u => Represents u ((T.get key p).register key (nsimReg ndpll)) bound) t) :
    wp (do
        let dpll ← dpllDeviceGet key.clockId key.deviceIdx key.module
        unwind (dpllDevicePut dpll) do
          dpllDeviceRegister dpll type nsimDpllDeviceOps ndpll
          unwind (dpllDeviceUnregister dpll nsimDpllDeviceOps ndpll) (m dpll))
      Q (fun _ t => Represents t T bound) s := by
  rw [wp_bind]
  apply wp_mono (wp_dpllDeviceGet rep key) _ fun _ _ => id
  rintro p t ⟨got, addr⟩
  have positive : 0 < (T.get key p key).refs := by
    rw [get_self]
    exact Nat.succ_pos _
  have own : (T.get key p key).addr = p := by rw [get_self]
  apply wp_unwind_of (J := fun u => Represents u (T.get key p) bound)
  · rw [wp_bind]
    apply wp_mono (wp_dpllDeviceRegister got positive own) _ fun _ _ => id
    rintro _ t ⟨new, registered⟩
    apply wp_unwind_of (body p t new addr registered)
    intro u attached
    have own' : ((T.get key p).register key (nsimReg ndpll) key).addr = p := by
      rw [register_self, own]
    apply wp_mono (wp_dpllDeviceUnregister attached (by rw [register_self]; exact positive) own') _
      fun _ _ => False.elim
    intro _ v back
    have undone : ((T.get key p).register key (nsimReg ndpll)).unregister key (nsimReg ndpll) =
        T.get key p := unregister_register new
    rw [← undone]
    exact back
  · intro u got
    apply wp_mono (wp_dpllDevicePut got positive own) _ fun _ _ => False.elim
    exact fun _ v back => back.congr (put_get addr)

theorem wp_nsimDpllInit (rep : Represents s T bound) (now : ℕ) (portList : List NsimDevPort) :
    wp (nsimDpllInit now portList) (fun d t => Attached T bound now portList d t)
      (fun _ t => Represents t T bound) s := by
  unfold nsimDpllInit
  rw [wp_bind]
  apply wp_kzalloc
  · intro faults
    have grown : Represents { s with nextPtr := s.nextPtr + NSIM_DPLL_PARTS, faults } T
        (s.nextPtr + 1) :=
      ⟨rep.listed, rep.present, fun p d live => (rep.fresh p d live).trans_le (Nat.le_add_right _ _),
        Nat.add_le_add_left (by decide) _⟩
    apply wp_mono _ (fun _ _ => id) fun _ t (back : Represents t T (s.nextPtr + 1)) =>
      back.weaken (rep.bound.trans (Nat.le_succ _))
    apply wp_getAndRegister ppsKey grown
    intro pps t _ ppsAddr first
    apply wp_getAndRegister eecKey first
    intro eec t _ eecAddr second
    rw [register_other (by decide), get_other (by decide)] at eecAddr
    have kept := (keeps_nsimDpllInitPins now portList s.nextPtr pps eec).preserves
      (fun _ _ within rep => Represents.of_frame rep within) second
    have result := returns_nsimDpllInitPins now portList s.nextPtr pps eec t
    apply wp_mono (wp_and kept result) _ fun _ _ both => both.1
    rintro d u ⟨table, addr, rfl, rfl, lock, portPins⟩
    refine ⟨addr ▸ rep.bound, ?_, ppsAddr, eecAddr, lock, portPins⟩
    rw [DeviceTable.attach, addr]
    exact table
  · exact fun faults => rep.of_frame ⟨fun _ => rfl, rfl, le_rfl⟩

theorem neverFails_nsimDpllExit (d : NsimDpllDev) : NeverFails (nsimDpllExit d) := by
  apply NeverFails.bind
  · apply neverFails_forM
    intro npin _
    apply (neverFails_dpllNetdevPinAssign _ _).bind
    intro _
    exact (neverFails_dpllPinUnregister _ _).bind fun _ => neverFails_dpllPinPut _
  · intro _
    apply NeverFails.bind
    · apply neverFails_forM
      intro epin _
      exact (neverFails_dpllPinUnregister _ _).bind fun _ => neverFails_dpllPinPut _
    · intro _
      apply (neverFails_dpllPinUnregister _ _).bind
      intro _
      apply (neverFails_dpllPinPut _).bind
      intro _
      apply (neverFails_dpllDeviceUnregister _ _).bind
      intro _
      apply (neverFails_dpllDevicePut _).bind
      intro _
      apply (neverFails_dpllDeviceUnregister _ _).bind
      exact fun _ => neverFails_dpllDevicePut _

/-- Tearing the DPLL of a device down takes its registrations and references back. -/
theorem wp_nsimDpllExit {d : NsimDpllDev} (rep : Represents s T bound)
    (pps : 0 < (T ppsKey).refs ∧ d.ppsDpll = (T ppsKey).addr)
    (eec : 0 < (T eecKey).refs ∧ d.eecDpll = (T eecKey).addr)
    {E : Errno → KernelState → Prop} :
    wp (nsimDpllExit d) (fun _ t => Represents t (T.detach d.addr) bound) E s := by
  have stable : ∀ s t, pinFrame.rel s t → Represents s T bound → Represents t T bound :=
    fun _ _ within rep => rep.of_frame within
  apply (neverFails_nsimDpllExit d).wp (E := fun _ _ => True)
  have drop : ∀ {Q : Unit → KernelState → Prop} {s : KernelState} {m : KernelM Unit}
      {rest : Unit → KernelM Unit}, Keeps pinFrame m → Represents s T bound →
      (∀ t, Represents t T bound → wp (rest ()) Q (fun _ _ => True) t) →
      wp (m >>= rest) Q (fun _ _ => True) s := by
    intro Q s m rest keeps rep after
    rw [wp_bind]
    exact wp_mono (keeps.preserves stable rep) (fun _ => after) fun _ _ _ => trivial
  unfold nsimDpllExit
  refine drop (keeps_nsimDpllCleanupPortPins _) rep fun s rep => ?_
  refine drop (keeps_nsimDpllCleanupExtPins _) rep fun s rep => ?_
  refine drop (keeps_dpllPinUnregister _ _) rep fun s rep => ?_
  refine drop (keeps_dpllPinPut _) rep fun s rep => ?_
  rw [wp_bind]
  apply wp_mono (wp_dpllDeviceUnregister rep eec.1 eec.2.symm) _ fun _ _ => False.elim
  intro _ s rep
  rw [wp_bind]
  apply wp_mono (wp_dpllDevicePut rep (by rw [unregister_self]; exact eec.1)
    (by rw [unregister_self]; exact eec.2.symm)) _ fun _ _ => False.elim
  intro _ s rep
  have ppsEntry : (((T.unregister eecKey ⟨nsimDpllDeviceOps, d.addr⟩).put eecKey) ppsKey) =
      T ppsKey := by
    rw [put_other (by decide), unregister_other (by decide)]
  rw [wp_bind]
  apply wp_mono (wp_dpllDeviceUnregister rep (by rw [ppsEntry]; exact pps.1)
    (by rw [ppsEntry]; exact pps.2.symm)) _ fun _ _ => False.elim
  intro _ s rep
  apply wp_mono (wp_dpllDevicePut rep (by rw [unregister_self, ppsEntry]; exact pps.1)
    (by rw [unregister_self, ppsEntry]; exact pps.2.symm)) _ fun _ _ => False.elim
  exact fun _ _ => id

end InitExit

end Netdevsim
