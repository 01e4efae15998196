import Netdevsim.Dpll.Holds

/-!
# Setting the DPLL of a device up in full

`nsim_dpll_init` adds the registrations of a DPLL and its items to what the core holds, or leaves
the core as it was, and `nsim_dpll_exit` takes them back from among those of the others.  Neither
goes wrong, the first as long as the ids of pins last.
-/

namespace Netdevsim

open Program Ledger

/-! ## What device operations leave alone -/

/-- All changes that leave the pins and the net devices as they are. -/
def deviceFrame : Frame KernelState := .of fun s => (s.pin, s.pinXa, s.pinXaId, s.netdev)

section DeviceFrame

variable {dpll : Ptr} {ops : DpllDeviceOps} {priv : Ptr}

theorem spares_of_sends {α : Type} {m : KernelM α} (sends : Keeps ntfFrame m) :
    Keeps deviceFrame m := by
  refine sends.mono ?_
  rintro s _ ⟨_, _, rfl⟩
  rfl

theorem spares_dpllDeviceLookup (clockId : UInt64) (deviceIdx : UInt32) (module : Ptr)
    (dplls : List Ptr) : Keeps deviceFrame (dpllDeviceLookup clockId deviceIdx module dplls) := by
  induction dplls with
  | nil => exact keeps_pure _
  | cons dpll dplls ih =>
    refine (spares_of_sends (sends_derefDevice dpll)).bind fun d => ?_
    split
    · exact keeps_pure _
    · exact ih

theorem spares_dpllDeviceAlloc (clockId : UInt64) (deviceIdx : UInt32) (module : Ptr) :
    Keeps deviceFrame (dpllDeviceAlloc clockId deviceIdx module) := by
  have alloc : Keeps deviceFrame (kzalloc 1) := fun _ => wp_kzalloc (fun _ => rfl) fun _ => rfl
  have insert : Keeps deviceFrame mayRunOut := fun _ => wp_mayRunOut (fun _ => rfl) fun _ => rfl
  refine alloc.bind fun dpll => insert.bind fun _ => keeps_get_bind fun s => ?_
  split
  · exact rfl
  · exact rfl

theorem spares_dpllDeviceGet (clockId : UInt64) (deviceIdx : UInt32) (module : Ptr) :
    Keeps deviceFrame (dpllDeviceGet clockId deviceIdx module) := by
  refine keeps_get.bind fun s => (spares_dpllDeviceLookup _ _ _ _).bind fun found => ?_
  split
  · refine (spares_of_sends (sends_derefDevice _)).bind fun d => ?_
    exact Keeps.bind (keeps_modify fun _ => rfl) fun _ => keeps_pure _
  · exact spares_dpllDeviceAlloc _ _ _

theorem spares_dpllDevicePut : Keeps deviceFrame (dpllDevicePut dpll) := by
  refine (spares_of_sends (sends_derefDevice dpll)).bind fun d => ?_
  split
  · exact keeps_modify fun _ => rfl
  · exact keeps_modify fun _ => rfl

theorem spares_dpllDeviceRegister {type : ℕ} :
    Keeps deviceFrame (dpllDeviceRegister dpll type ops priv) := by
  have add : Keeps deviceFrame mayRunOut := fun _ => wp_mayRunOut (fun _ => rfl) fun _ => rfl
  refine (keeps_failIf _).bind fun _ => (keeps_failIf _).bind fun _ => ?_
  refine (spares_of_sends (sends_derefDevice dpll)).bind fun d => (keeps_failIf _).bind fun _ => ?_
  refine add.bind fun _ => Keeps.bind (keeps_modify fun _ => rfl) fun _ => ?_
  split
  · exact Keeps.bind (keeps_modify fun _ => rfl) fun _ =>
      spares_of_sends (sends_dpllDeviceEventSend _ _)
  · exact keeps_pure _

theorem spares_dpllDeviceUnregister : Keeps deviceFrame (dpllDeviceUnregister dpll ops priv) := by
  refine (spares_of_sends (sends_dpllDeviceEventSend _ _)).bind fun _ => ?_
  refine (spares_of_sends (sends_derefDevice dpll)).bind fun d => ?_
  split
  · refine Keeps.bind (keeps_modify fun _ => rfl) fun _ => ?_
    split
    · exact keeps_modify fun _ => rfl
    · exact keeps_pure _
  · exact keeps_pure _

theorem pinIdFrame_of_deviceFrame {s t : KernelState} (within : deviceFrame.rel s t) :
    pinIdFrame.rel s t := by
  obtain ⟨pin, rest⟩ := Prod.mk.inj within
  obtain ⟨pinXa, rest⟩ := Prod.mk.inj rest
  obtain ⟨pinXaId, -⟩ := Prod.mk.inj rest
  show (t.pinXaId, t.pinXa.indices, t.hasPin) = (s.pinXaId, s.pinXa.indices, s.hasPin)
  unfold KernelState.hasPin
  rw [pin, pinXa, pinXaId]

end DeviceFrame

/-! ## Devices -/

section Devices

variable {s t : KernelState} {T : DeviceTable} {bound pps b dpll : Ptr} {nets : List Ptr}
  {items : PinLedger} {d : DpllDevice} {key : DpllKey}

/-- What an operation on devices does, and that it leaves the pins alone. -/
theorem twp_spares {α : Type} {m : KernelM α} {V : α → DeviceTable} {R : α → Prop}
    (holds : Holds s T bound pps nets b items) (completes : Completes m s)
    (spares : Keeps deviceFrame m)
    (sound : wp m (fun _ => RegistryInvariant) (fun _ => RegistryInvariant) s)
    (table : wp m (fun a t => Represents t (V a) bound ∧ R a) (fun _ t => Represents t T bound) s) :
    twp m (fun a t => Holds t (V a) bound pps nets b items ∧ R a ∧ pinIdFrame.rel s t)
      (fun _ t => Holds t T bound pps nets b items) s := by
  have pins : ∀ t, deviceFrame.rel s t → RegistryInvariant t → PinsHeld t pps nets items items := by
    intro t within inv
    obtain ⟨pin, rest⟩ := Prod.mk.inj within
    obtain ⟨pinXa, rest⟩ := Prod.mk.inj rest
    obtain ⟨-, netdev⟩ := Prod.mk.inj rest
    exact holds.pins.of_eq inv pin (fun _ => by rw [pinXa]) (netdev ▸ holds.pins.netdevs)
  refine completes.twp (wp_mono (wp_and (wp_and (spares s) sound) table) ?_ ?_)
  · rintro a t ⟨⟨within, inv⟩, table, result⟩
    exact ⟨⟨table, pins t within inv, holds.nodup, holds.below⟩, result,
      pinIdFrame_of_deviceFrame within⟩
  · rintro _ t ⟨⟨within, inv⟩, table⟩
    exact ⟨table, pins t within inv, holds.nodup, holds.below⟩

/-- The same for an operation that does not fail. -/
theorem twp_spares_neverFails {m : KernelM Unit} {V : DeviceTable}
    (holds : Holds s T bound pps nets b items) (completes : Completes m s)
    (spares : Keeps deviceFrame m)
    (sound : wp m (fun _ => RegistryInvariant) (fun _ => RegistryInvariant) s)
    (never : NeverFails m)
    (table : wp m (fun _ t => Represents t V bound) (fun _ _ => False) s) :
    twp m (fun _ t => Holds t V bound pps nets b items) (fun _ _ => False) s := by
  have done := twp_spares (V := fun _ => V) (R := fun _ => True) holds completes spares sound
    (wp_mono table (fun _ _ rep => ⟨rep, trivial⟩) fun _ _ => False.elim)
  exact completes.twp (never.wp (wp_mono (wp_of_twp done) (fun _ _ => And.left) fun _ _ => id))

/-- A device on which no pin is registered. -/
theorem Holds.isEmpty_pinRefs (holds : Holds s T bound pps nets b items)
    (live : s.device dpll = some d) (none : items = [] ∨ dpll ≠ pps) : d.pinRefs.isEmpty := by
  rw [isEmpty_iff_contents]
  intro q
  have inv := holds.pins.inv
  cases liveP : s.pin q with
  | none =>
    refine (inv.pinRefs dpll d live).contents_of_no_key ?_
    rw [KernelState.pinKey, liveP, Option.map_none]
  | some p =>
    rw [inv.agree dpll d live q p liveP, (holds.pins.pins q p liveP).refs]
    rcases none with rfl | other
    · exact ite_self _
    · exact if_neg other

theorem Represents.addr_ne (rep : Represents s T bound) (alive : PpsAt T pps)
    (other : 0 < (T key).refs ∧ (T key).addr = dpll) (differ : key ≠ ppsKey) : dpll ≠ pps := by
  rintro rfl
  obtain ⟨d, live⟩ := rep.live alive
  have pps := (rep.at_addr alive.1 (alive.2.symm ▸ live)).1
  have own := (rep.at_addr other.1 (other.2.symm ▸ live)).1
  exact differ (own.symm.trans pps)

theorem twp_dpllDeviceGet (holds : Holds s T bound pps nets b items) (key : DpllKey) :
    twp (dpllDeviceGet key.clockId key.deviceIdx key.module)
      (fun p t => Holds t (T.get key p) bound pps nets b items ∧
        (0 < (T key).refs → p = (T key).addr) ∧ pinIdFrame.rel s t)
      (fun _ t => Holds t T bound pps nets b items) s := by
  refine twp_spares holds (completes_dpllDeviceGet key fun q mem => ?_)
    (spares_dpllDeviceGet _ _ _) ((sound_dpllDeviceGet _ _ _).inv holds.pins.inv)
    (wp_dpllDeviceGet holds.table key)
  obtain ⟨e, entry, rfl⟩ := XArray.mem_values.1 mem
  obtain ⟨d, live, -⟩ := holds.table.listed e entry
  exact ⟨d, live⟩

theorem twp_dpllDeviceRegister {type : ℕ} {ndpll : Ptr}
    (holds : Holds s T bound pps nets b items) (alive : 0 < (T key).refs ∧ (T key).addr = dpll) :
    twp (dpllDeviceRegister dpll type nsimDpllDeviceOps ndpll)
      (fun _ t => Holds t (T.register key (nsimReg ndpll)) bound pps nets b items ∧
        nsimReg ndpll ∉ (T key).regs ∧ pinIdFrame.rel s t)
      (fun _ t => Holds t T bound pps nets b items) s := by
  obtain ⟨d, live⟩ := holds.table.live alive
  refine twp_spares holds (completes_dpllDeviceRegister live) spares_dpllDeviceRegister
    ((sound_dpllDeviceRegister _ _ _).inv holds.pins.inv) ?_
  exact wp_mono (wp_dpllDeviceRegister holds.table alive.1 alive.2) (fun _ _ both => both.symm)
    fun _ _ => id

theorem twp_dpllDeviceUnregister {ndpll : Ptr} (holds : Holds s T bound pps nets b items)
    (alive : 0 < (T key).refs ∧ (T key).addr = dpll) :
    twp (dpllDeviceUnregister dpll nsimDpllDeviceOps ndpll)
      (fun _ t => Holds t (T.unregister key (nsimReg ndpll)) bound pps nets b items)
      (fun _ _ => False) s := by
  obtain ⟨d, live⟩ := holds.table.live alive
  exact twp_spares_neverFails holds
    (completes_dpllDeviceUnregister live (holds.pins.inv.registered dpll d live).1)
    spares_dpllDeviceUnregister ((sound_dpllDeviceUnregister _ _).inv holds.pins.inv)
    (neverFails_dpllDeviceUnregister _ _) (wp_dpllDeviceUnregister holds.table alive.1 alive.2)

/-- The last reference to a device is put when no pin is registered on it. -/
theorem twp_dpllDevicePut (holds : Holds s T bound pps nets b items)
    (alive : 0 < (T key).refs ∧ (T key).addr = dpll)
    (unused : (T key).refs = 1 → items = [] ∨ dpll ≠ pps) :
    twp (dpllDevicePut dpll) (fun _ t => Holds t (T.put key) bound pps nets b items)
      (fun _ _ => False) s := by
  obtain ⟨d, live⟩ := holds.table.live alive
  refine twp_spares_neverFails holds (completes_dpllDevicePut live) spares_dpllDevicePut
    (sound_dpllDevicePut holds.pins.inv fun d' live' last => ?_) (neverFails_dpllDevicePut dpll)
    (wp_dpllDevicePut holds.table alive.1 alive.2)
  refine holds.isEmpty_pinRefs live' (unused ?_)
  rw [← (holds.table.at_addr alive.1 (alive.2.symm ▸ live')).2.1, last]

/-- Getting and registering a device, with the cleanups of a later failure. -/
theorem twp_getAndRegister {α : Type} (key : DpllKey) {type : ℕ} {ndpll : Ptr} {m : Ptr → KernelM α}
    {Q : α → KernelState → Prop} (holds : Holds s T bound pps nets b items)
    (spare : (T key).refs = 0 → items = [] ∨ (PpsAt T pps ∧ key ≠ ppsKey))
    (body : ∀ p t, (0 < (T key).refs → p = (T key).addr) →
      Holds t ((T.get key p).register key (nsimReg ndpll)) bound pps nets b items →
      pinIdFrame.rel s t →
      twp (m p) Q (fun _ u =>
        Holds u ((T.get key p).register key (nsimReg ndpll)) bound pps nets b items) t) :
    twp (do
        let dpll ← dpllDeviceGet key.clockId key.deviceIdx key.module
        unwind (dpllDevicePut dpll) do
          dpllDeviceRegister dpll type nsimDpllDeviceOps ndpll
          unwind (dpllDeviceUnregister dpll nsimDpllDeviceOps ndpll) (m dpll))
      Q (fun _ t => Holds t T bound pps nets b items) s := by
  rw [twp_bind]
  refine twp_mono (twp_dpllDeviceGet holds key) ?_ fun _ _ => id
  rintro p t ⟨got, addr, ids⟩
  have alive : 0 < (T.get key p key).refs ∧ (T.get key p key).addr = p := by
    rw [get_self]
    exact ⟨Nat.succ_pos _, rfl⟩
  refine twp_unwind_of (J := fun u => Holds u (T.get key p) bound pps nets b items) ?_ ?_
  · rw [twp_bind]
    refine twp_mono (twp_dpllDeviceRegister got alive) ?_ fun _ _ => id
    rintro _ u ⟨registered, new, ids'⟩
    refine twp_unwind_of (body p u addr registered (pinIdFrame.trans ids ids')) fun v attached => ?_
    have alive' : 0 < ((T.get key p).register key (nsimReg ndpll) key).refs ∧
        ((T.get key p).register key (nsimReg ndpll) key).addr = p := by
      rw [register_self]
      exact alive
    have undone : ((T.get key p).register key (nsimReg ndpll)).unregister key (nsimReg ndpll) =
        T.get key p := unregister_register new
    rw [← undone]
    exact twp_mono (twp_dpllDeviceUnregister attached alive') (fun _ _ => id)
      fun _ _ => False.elim
  · intro u got
    refine twp_mono (twp_dpllDevicePut got alive fun last => ?_) (fun _ v back => ?_)
      fun _ _ => False.elim
    · rw [get_self] at last
      refine (spare (Nat.succ.inj last)).imp_right fun ⟨found, differ⟩ => ?_
      have still : PpsAt (T.get key p) pps := by
        unfold PpsAt
        rw [get_other (Ne.symm differ)]
        exact found
      exact got.table.addr_ne still alive differ
    · exact ⟨back.table.congr (put_get addr), back.pins, back.nodup, back.below⟩

end Devices

/-! ## Notifications -/

section Notifications

variable {s : KernelState} {T : DeviceTable} {bound pps b dpll pin : Ptr} {nets : List Ptr}
  {items : PinLedger} {key : DpllKey} {cmd : DpllNtfCmd}

theorem twp_dpllDeviceEventSend (holds : Holds s T bound pps nets b items)
    (alive : 0 < (T key).refs ∧ (T key).addr = dpll) :
    twp (dpllDeviceEventSend cmd dpll) (fun _ t => Holds t T bound pps nets b items)
      (fun _ _ => False) s := by
  obtain ⟨d, live⟩ := holds.table.live alive
  refine (completes_dpllDeviceEventSend live (holds.pins.inv.registered dpll d live).1).twp ?_
  exact (neverFails_dpllDeviceEventSend cmd dpll).wp (wp_mono (sends_dpllDeviceEventSend cmd dpll s)
    (fun _ _ => holds.of_ntfFrame) fun _ _ => holds.of_ntfFrame)

theorem twp_dpllPinEventSend {pinKey : DpllPinKey} {reg : DpllPinRegistration}
    (holds : Holds s T bound pps nets b items) (item : ((pinKey, pin), reg) ∈ items) :
    twp (dpllPinEventSend cmd pin) (fun _ t => Holds t T bound pps nets b items)
      (fun _ _ => False) s := by
  obtain ⟨p, live, -⟩ := holds.pins.live_of_registered item
  exact twp_dpllPinEventSend_of_inv holds.pins.inv live fun _ => holds.of_ntfFrame

theorem twp_pinEventSends {α : Type} {xs : List α} {addr : α → Ptr}
    (holds : Holds s T bound pps nets b items)
    (there : ∀ x ∈ xs, ∃ pinKey reg, ((pinKey, addr x), reg) ∈ items) :
    twp (xs.forM fun x => dpllPinEventSend cmd (addr x))
      (fun _ t => Holds t T bound pps nets b items) (fun _ _ => False) s := by
  have loop := @twp_forM KernelState Errno α (fun _ _ => False) s xs
    (fun x => dpllPinEventSend cmd (addr x))
    (fun rest t => (∀ x ∈ rest, ∃ pinKey reg, ((pinKey, addr x), reg) ∈ items) ∧
      Holds t T bound pps nets b items) (fun x rest t both => ?_) ⟨there, holds⟩
  · exact twp_mono loop (fun _ _ => And.right) fun _ _ => id
  · obtain ⟨there, holds⟩ := both
    obtain ⟨pinKey, reg, item⟩ := there x List.mem_cons_self
    exact twp_mono (twp_dpllPinEventSend holds item)
      (fun _ u after => ⟨fun y mem => there y (List.mem_cons_of_mem _ mem), after⟩) fun _ _ => id

theorem twp_nsimDpllAnnounce {d : NsimDpllDev} {first : PinLedger}
    (holds : Holds s T bound d.ppsDpll nets b (first ++ d.items)) (alive : PpsAt T d.ppsDpll)
    (eec : 0 < (T eecKey).refs ∧ (T eecKey).addr = d.eecDpll) :
    twp (nsimDpllAnnounce d) (fun _ t => Holds t T bound d.ppsDpll nets b (first ++ d.items))
      (fun _ _ => False) s := by
  have own : ∀ {e}, e ∈ d.items → e ∈ first ++ d.items := List.mem_append_right _
  unfold nsimDpllAnnounce nsimDpllNtfWork
  rw [twp_bind, twp_bind]
  refine twp_mono (twp_dpllDeviceEventSend holds alive) (fun _ s holds => ?_) fun _ _ => id
  rw [twp_bind]
  refine twp_mono (twp_dpllDeviceEventSend holds eec) (fun _ s holds => ?_) fun _ _ => id
  rw [twp_bind]
  refine twp_mono (twp_dpllPinEventSend holds (own List.mem_cons_self)) (fun _ s holds => ?_)
    fun _ _ => id
  refine twp_mono (twp_pinEventSends holds fun epin mem => ?_) (fun _ s holds => ?_) fun _ _ => id
  · obtain ⟨i, found⟩ := List.mem_iff_getElem?.1 mem
    have item : extItem d.addr (epin, i) ∈ extItems d.addr d.extPins :=
      List.mem_map_of_mem (List.mk_mem_zipIdx_iff_getElem?.2 found)
    exact ⟨_, _, own (List.mem_cons_of_mem _ (List.mem_append_left _ item))⟩
  · refine twp_pinEventSends holds fun npin mem => ?_
    obtain ⟨j, found⟩ := List.mem_iff_getElem?.1 mem
    have item : portItem (npin, j) ∈ portItems d.portPins :=
      List.mem_map_of_mem (List.mk_mem_zipIdx_iff_getElem?.2 found)
    exact ⟨_, _, own (List.mem_cons_of_mem _ (List.mem_append_right _ item))⟩

end Notifications

/-! ## Setting up -/

/-- The pins that `nsim_dpll_init` asks for, in this order. -/
def nsimPinKeys (portList : List NsimDevPort) : List DpllPinKey :=
  gnssPinKey :: ((List.range NSIM_DPLL_NUM_EXT_PINS).map extPinKey ++
    (List.range (portList.filter nsimDevPortIsPf).length).map portPinKey)

section InitExit

variable {s : KernelState} {T : DeviceTable} {bound pps b ndpll eecDpll : Ptr} {nets : List Ptr}
  {first last : PinLedger} {d : NsimDpllDev} {now : ℕ} {portList : List NsimDevPort}

theorem total_nsimDpllGnssAndSysfs : Total nsimDpllGnssAndSysfs :=
  total_mayRunOut.bind fun _ => total_mayFail.bind fun _ => total_mayRunOut.bind fun _ =>
    total_mayFail

theorem sends_nsimDpllGnssAndSysfs : Keeps ntfFrame nsimDpllGnssAndSysfs := by
  have runOut : Keeps ntfFrame mayRunOut := fun s =>
    wp_mayRunOut (fun faults => ⟨s.sent, faults, rfl⟩) fun faults => ⟨s.sent, faults, rfl⟩
  have fail : Keeps ntfFrame mayFail := by
    refine sends_fault.bind ?_
    rintro (_ | e)
    · exact keeps_pure _
    · exact keeps_throw _
  exact runOut.bind fun _ => fail.bind fun _ => runOut.bind fun _ => fail

/-- The GNSS device and the sysfs file do not concern the core. -/
theorem twp_nsimDpllGnssAndSysfs {items : PinLedger} (holds : Holds s T bound pps nets b items) :
    twp nsimDpllGnssAndSysfs (fun _ t => Holds t T bound pps nets b items)
      (fun _ t => Holds t T bound pps nets b items) s :=
  (total_nsimDpllGnssAndSysfs s).twp
    (wp_mono (sends_nsimDpllGnssAndSysfs s) (fun _ _ => holds.of_ntfFrame)
      fun _ _ => holds.of_ntfFrame)

/-- The pins of a DPLL, or what was there before. -/
theorem twp_nsimDpllInitPins (now : ℕ)
    (holds : Holds s T (ndpll + NSIM_DPLL_PARTS) pps nets b first) (alive : PpsAt T pps)
    (eec : 0 < (T eecKey).refs ∧ (T eecKey).addr = eecDpll)
    (fresh : b ≤ gnssPinPriv ndpll)
    (present : ∀ port ∈ portList, nsimDevPortIsPf port → port.ns ∈ nets)
    (lasts : s.pinIdsLast (nsimPinKeys portList)) :
    twp (nsimDpllInitPins now portList ndpll pps eecDpll)
      (fun d t => d.extPins.length = NSIM_DPLL_NUM_EXT_PINS ∧ ∃ bound,
        ndpll + NSIM_DPLL_PARTS ≤ bound ∧ Holds t T bound pps nets bound (first ++ d.items))
      (fun _ t => Holds t T (ndpll + NSIM_DPLL_PARTS) pps nets b first) s := by
  unfold nsimDpllInitPins
  rw [twp_bind]
  refine twp_mono (twp_nsimDpllPin holds alive fresh lasts) (fun gnssPin s got => ?_) fun _ _ => id
  obtain ⟨withGnss, lasts⟩ := got
  refine twp_unwind_of (J := fun t => Holds t T (ndpll + NSIM_DPLL_PARTS) pps nets
    (extPinPriv ndpll 0) (first ++ [gnssItem ndpll gnssPin])) ?_ fun t failed => ?_
  · rw [twp_bind]
    have start : Holds s T (ndpll + NSIM_DPLL_PARTS) pps nets (extPinPriv ndpll 0)
        (first ++ [gnssItem ndpll gnssPin] ++ extItems ndpll []) := by
      rw [extItems, List.zipIdx_nil, List.map_nil, List.append_nil]
      exact withGnss
    rw [List.range_eq_range', List.range_eq_range'] at lasts
    refine twp_mono (twp_nsimDpllExtPins alive start withGnss.below lasts)
      (fun extPins s got => ?_) fun _ _ => id
    obtain ⟨four, withExt, lasts⟩ := got
    have room : extPinPriv ndpll extPins.length = ndpll + NSIM_DPLL_PARTS := by
      rw [four]
      rfl
    refine twp_unwind_of (J := fun t => Holds t T (ndpll + NSIM_DPLL_PARTS) pps nets
      (extPinPriv ndpll extPins.length)
      (first ++ [gnssItem ndpll gnssPin] ++ extItems ndpll extPins)) ?_ fun t failed => ?_
    · rw [twp_bind]
      have start : Holds s T (ndpll + NSIM_DPLL_PARTS) pps nets (ndpll + NSIM_DPLL_PARTS)
          (first ++ [gnssItem ndpll gnssPin] ++ extItems ndpll extPins ++ portItems []) := by
        rw [portItems, List.zipIdx_nil, List.map_nil, List.append_nil]
        exact room ▸ withExt
      refine twp_mono (twp_nsimDpllPortPins alive start le_rfl withExt.below
        (fun _ mem => absurd mem List.not_mem_nil) present lasts) (fun portPins s got => ?_)
        fun _ _ => id
      obtain ⟨assigned, bound, le, withPorts⟩ := got
      rw [twp_bind]
      refine twp_unwind_of (J := fun t => Holds t T bound pps nets bound (first ++
        [gnssItem ndpll gnssPin] ++ extItems ndpll extPins ++ portItems portPins)) ?_
        fun t failed => ?_
      · refine twp_mono (twp_nsimDpllGnssAndSysfs withPorts) (fun _ s withPorts => ?_)
          fun _ _ => id
        let dev : NsimDpllDev := ⟨ndpll, NSIM_DPLL_CLOCK_ID, pps, eecDpll, gnssPin, extPins,
          portPins, NsimDpll.started now⟩
        have all : first ++ [gnssItem ndpll gnssPin] ++ extItems ndpll extPins ++
            portItems portPins = first ++ dev.items := by simp [NsimDpllDev.items, dev]
        rw [all] at withPorts
        rw [twp_bind]
        refine twp_mono (twp_nsimDpllAnnounce (d := dev) withPorts alive eec) (fun _ u held => ?_)
          fun _ _ => False.elim
        exact ⟨four, bound, le, held⟩
      · rw [← List.append_nil (_ ++ portItems portPins)] at failed
        refine twp_mono (twp_nsimDpllCleanupPortPins alive assigned failed) (fun _ u left => ?_)
          fun _ _ => False.elim
        rw [List.append_nil] at left
        exact (left.below_of withExt.below).weaken le
    · rw [← List.append_nil (_ ++ extItems ndpll extPins)] at failed
      refine twp_mono (twp_nsimDpllCleanupExtPins alive failed) (fun _ u left => ?_)
        fun _ _ => False.elim
      rw [List.append_nil] at left
      exact left.below_of withGnss.below
  · rw [← List.append_nil (first ++ _)] at failed
    refine twp_mono (twp_dropGnssPin alive failed) (fun _ u left => ?_) fun _ _ => False.elim
    rw [List.append_nil] at left
    exact left.below_of holds.below

/-- As long as nothing is held, it does not matter where the PPS device would be. -/
theorem Holds.move (holds : Holds s T bound pps nets b first) {pps' : Ptr}
    (same : first = [] ∨ pps' = pps) : Holds s T bound pps' nets b first := by
  rcases same with rfl | rfl
  · exact ⟨holds.table, holds.pins.of_nil, holds.nodup, holds.below⟩
  · exact holds

/-- `nsim_dpll_init` adds a DPLL to what the core holds, or leaves the core as it was. -/
theorem twp_nsimDpllInit (now : ℕ) (holds : Holds s T bound pps nets bound first)
    (idle : (T ppsKey).refs = 0 → first = [])
    (ppsAddr : 0 < (T ppsKey).refs → (T ppsKey).addr = pps)
    (present : ∀ port ∈ portList, nsimDevPortIsPf port → port.ns ∈ nets)
    (lasts : s.pinIdsLast (nsimPinKeys portList)) :
    twp (nsimDpllInit now portList)
      (fun d t => d.extPins.length = NSIM_DPLL_NUM_EXT_PINS ∧ ∃ bound',
        Holds t (T.attach d.addr d.ppsDpll d.eecDpll) bound' d.ppsDpll nets bound'
          (first ++ d.items))
      (fun _ t => Holds t T bound pps nets bound first) s := by
  have next := holds.table.bound
  unfold nsimDpllInit
  rw [twp_bind]
  refine (total_kzalloc NSIM_DPLL_PARTS s).twp (wp_kzalloc (fun faults => ?_) fun faults =>
    holds.of_ntfFrame ⟨_, faults, rfl⟩)
  have grown := holds.grown NSIM_DPLL_PARTS faults
  refine twp_mono (twp_getAndRegister ppsKey grown (fun none => .inl (idle none)) ?_)
    (fun _ _ => id) fun _ t back => back.weaken (next.trans (Nat.le_add_right _ _))
  intro p t addr withPps ids
  have same : first = [] ∨ p = pps := by
    rcases Nat.eq_zero_or_pos (T ppsKey).refs with none | some
    · exact .inl (idle none)
    · exact .inr ((addr some).trans (ppsAddr some))
  have alive : PpsAt ((T.get ppsKey p).register ppsKey (nsimReg s.nextPtr)) p := by
    unfold PpsAt
    rw [register_self, get_self]
    exact ⟨Nat.succ_pos _, rfl⟩
  refine twp_mono (twp_getAndRegister eecKey (withPps.move same)
    (fun _ => .inr ⟨alive, by decide⟩) ?_) (fun _ _ => id) fun _ u back =>
      back.move (same.imp_right Eq.symm)
  intro e u _ withEec ids'
  have attached : ((((T.get ppsKey p).register ppsKey (nsimReg s.nextPtr)).get eecKey e).register
      eecKey (nsimReg s.nextPtr)) = T.attach s.nextPtr p e := rfl
  rw [attached] at withEec ⊢
  have alive' : PpsAt (T.attach s.nextPtr p e) p := by
    unfold PpsAt DeviceTable.attach
    rw [register_other (by decide), get_other (by decide)]
    exact alive
  have eec : 0 < (T.attach s.nextPtr p e eecKey).refs ∧
      (T.attach s.nextPtr p e eecKey).addr = e := by
    unfold DeviceTable.attach
    rw [register_self, get_self]
    exact ⟨Nat.succ_pos _, rfl⟩
  have lasts' : u.pinIdsLast (nsimPinKeys portList) :=
    (pinIdsLast_of_frame (pinIdFrame.trans ids ids')).trans lasts
  have pins := twp_nsimDpllInitPins now withEec alive' eec
    (next.trans (Nat.le_succ _)) present lasts'
  have fields := returns_nsimDpllInitPins now portList s.nextPtr p e u
  refine (completes_of_twp pins).twp (wp_mono (wp_and (wp_of_twp pins) fields) ?_
    fun _ _ both => both.1)
  rintro d v ⟨⟨four, bound', -, held⟩, own, rfl, rfl, -, -⟩
  rw [← own] at held
  exact ⟨four, bound', held⟩

/-- `nsim_dpll_exit` takes a DPLL away from what the core holds. -/
theorem twp_nsimDpllExit
    (holds : Holds s T bound d.ppsDpll nets b (first ++ d.items ++ last))
    (alive : PpsAt T d.ppsDpll) (eec : 0 < (T eecKey).refs ∧ (T eecKey).addr = d.eecDpll)
    (present : ∀ npin ∈ d.portPins, npin.ns ∈ nets)
    (only : (T ppsKey).refs = 1 → first ++ last = []) :
    twp (nsimDpllExit d)
      (fun _ t => Holds t (T.detach d.addr) bound d.ppsDpll nets b (first ++ last))
      (fun _ _ => False) s := by
  unfold nsimDpllExit
  have ports : first ++ d.items ++ last = first ++ [gnssItem d.addr d.gnssPin] ++
      extItems d.addr d.extPins ++ portItems d.portPins ++ last := by
    simp [NsimDpllDev.items]
  rw [ports] at holds
  rw [twp_bind]
  refine twp_mono (twp_nsimDpllCleanupPortPins alive present holds) (fun _ s holds => ?_)
    fun _ _ => id
  rw [twp_bind]
  refine twp_mono (twp_nsimDpllCleanupExtPins alive holds) (fun _ s holds => ?_) fun _ _ => id
  have drop := twp_dropGnssPin alive holds
  rw [twp_bind] at drop ⊢
  refine twp_mono drop (fun _ s put => ?_) fun _ _ => id
  rw [twp_bind]
  refine twp_mono put (fun _ s holds => ?_) fun _ _ => id
  rw [twp_bind]
  refine twp_mono (twp_dpllDeviceUnregister holds eec) (fun _ s holds => ?_) fun _ _ => id
  have unregistered : 0 < (T.unregister eecKey (nsimReg d.addr) eecKey).refs ∧
      (T.unregister eecKey (nsimReg d.addr) eecKey).addr = d.eecDpll := by
    rw [unregister_self]
    exact eec
  have pps₁ : PpsAt (T.unregister eecKey (nsimReg d.addr)) d.ppsDpll := by
    unfold PpsAt
    rw [unregister_other (by decide)]
    exact alive
  have apart := holds.table.addr_ne pps₁ unregistered (by decide)
  rw [twp_bind]
  refine twp_mono (twp_dpllDevicePut holds unregistered fun _ => .inr apart) (fun _ s holds => ?_)
    fun _ _ => id
  have pps₂ : PpsAt ((T.unregister eecKey (nsimReg d.addr)).put eecKey) d.ppsDpll := by
    unfold PpsAt
    rw [put_other (by decide)]
    exact pps₁
  rw [twp_bind]
  refine twp_mono (twp_dpllDeviceUnregister holds pps₂) (fun _ s holds => ?_) fun _ _ => id
  have pps₃ : PpsAt (((T.unregister eecKey (nsimReg d.addr)).put eecKey).unregister ppsKey
      (nsimReg d.addr)) d.ppsDpll := by
    unfold PpsAt
    rw [unregister_self]
    exact pps₂
  refine twp_dpllDevicePut holds pps₃ fun one => ?_
  rw [unregister_self, put_other (by decide), unregister_other (by decide)] at one
  exact .inl (only one)

end InitExit

end Netdevsim
