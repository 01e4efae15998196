import Netdevsim.Phc.Bus
import Netdevsim.Phc.Sound

/-!
# PHC sharing is reference counting

`Accounted w held`: the references to PHCs are those of the PF ports and the ones in `held`, which
the running code holds, and the PHC of a port carries the logical id of its bus device.  Every
program of the bus keeps the accounts, whether it returns or fails, and `phcInvariant_reachable`
follows.
-/

namespace Netdevsim.Phc

open Program List

/-- The references to PHCs are those of the ports and `held`. -/
structure Accounted (w : PhcWorld) (held : List Ptr) : Prop where
  sound : Sound w.table (w.ports.map (·.phc) ++ held) []
  owners : ∀ port ∈ w.ports, ∀ o, w.table.phc port.phc = some o →
    o.logicalClkId = port.busDev.logicalClkId

/-- All changes made on behalf of a device: the devices and the ports of the others stay as they
are, and new PHCs are such that `new`. -/
def devFrame (busDev : NsimBusDev) (new : Int32 → Ptr → Prop) : Frame PhcWorld where
  rel w t := t.busDevs = w.busDevs ∧ t.drvdata = w.drvdata ∧
    (∀ port : PfPort, port.busDev ≠ busDev → (port ∈ t.ports ↔ port ∈ w.ports)) ∧
    From new w.table t.table ∧ w.table.nextPtr ≤ t.table.nextPtr
  refl _ := ⟨rfl, rfl, fun _ _ => Iff.rfl, .refl new _, le_rfl⟩
  trans := fun ⟨devs, bound, ports, phcs, next⟩ ⟨devs', bound', ports', phcs', next'⟩ =>
    ⟨devs'.trans devs, bound'.trans bound,
      fun port other => (ports' port other).trans (ports port other), phcs.trans phcs',
      next.trans next'⟩

section Basic

variable {w : PhcWorld} {held : List Ptr} {phc : Ptr} {busDev : NsimBusDev}
  {new : Int32 → Ptr → Prop} {E : Errno → PhcWorld → Prop}

theorem wp_fault {Q : Option Errno → PhcWorld → Prop} (any : ∀ f faults, Q f { w with faults }) :
    wp fault Q E w := by
  unfold fault
  rw [wp_bind, wp_get]
  cases faults : w.faults with
  | nil =>
    rw [wp_pure]
    exact any none w.faults
  | cons f fs => exact any f fs

theorem wp_mayFail {Q : Unit → PhcWorld → Prop} (ok : ∀ faults, Q () { w with faults })
    (error : ∀ e faults, E e { w with faults }) : wp mayFail Q E w := by
  unfold mayFail
  rw [wp_bind]
  apply wp_fault
  rintro (_ | e) faults
  · exact ok faults
  · exact error e faults

@[simp] theorem wp_modifyTable {f : PhcTable → PhcTable} {Q : Unit → PhcWorld → Prop} :
    wp (modifyTable f) Q E w ↔ Q () { w with table := f w.table } := Iff.rfl

/-- The faults to come do not matter. -/
theorem Accounted.faults (h : Accounted w held) (faults : List (Option Errno)) :
    Accounted { w with faults } held := ⟨h.sound, h.owners⟩

/-- A table in which the PHCs have not changed owners. -/
theorem Accounted.of_table (h : Accounted w held) {t : PhcTable} {held' : List Ptr}
    (sound : Sound t (w.ports.map (·.phc) ++ held') []) (phcs : From (fun _ _ => False) w.table t) :
    Accounted { w with table := t } held' := by
  refine ⟨sound, fun port mem o' found => ?_⟩
  obtain ⟨o, before, id, -⟩ | absurd := phcs _ _ found
  · rw [id]
    exact h.owners port mem o before
  · exact absurd.elim

theorem keeps_fault : Keeps (devFrame busDev new) fault :=
  fun w => wp_fault fun _ _ => (devFrame busDev new).refl w

theorem keeps_mayFail : Keeps (devFrame busDev new) mayFail :=
  fun w => wp_mayFail (fun _ => (devFrame busDev new).refl w) fun _ _ => (devFrame busDev new).refl w

theorem keeps_modifyTable {f : PhcTable → PhcTable}
    (within : ∀ t, From new t (f t) ∧ t.nextPtr ≤ (f t).nextPtr) :
    Keeps (devFrame busDev new) (modifyTable f) :=
  fun w => ⟨rfl, rfl, fun _ _ => Iff.rfl, within w.table⟩

end Basic

/-! ## PHCs -/

section Phcs

variable {w : PhcWorld} {held : List Ptr} {phc : Ptr} {busDev : NsimBusDev}
  {new : Int32 → Ptr → Prop} {E : Errno → PhcWorld → Prop}

theorem nextPtr_release (t : PhcTable) (phc : Ptr) (interrupted : Bool) :
    (t.mockPhcRelease phc interrupted).nextPtr = t.nextPtr := by
  unfold PhcTable.mockPhcRelease
  dsimp only
  split_ifs <;> rfl

theorem keeps_mockPhcRelease (phc : Ptr) :
    Keeps (devFrame busDev new) (mockPhcRelease phc) := by
  apply keeps_fault.bind
  intro interrupted
  apply keeps_modifyTable
  exact fun t => ⟨from_release _, (nextPtr_release t phc _).ge⟩

/-- `mock_phc_release` drops a reference that is held. -/
theorem wp_mockPhcRelease (h : Accounted w (phc :: held)) :
    wp (mockPhcRelease phc) (fun _ t => Accounted t held) E w := by
  unfold mockPhcRelease
  rw [wp_bind]
  apply wp_fault
  intro interrupted faults
  rw [wp_modifyTable]
  have sound := (h.sound.perm List.perm_middle).release interrupted.isSome
  exact (h.faults faults).of_table sound (from_release _)

theorem keeps_mockPhcCreate {dev : Ptr} {id : Int32} (isNew : new id dev) :
    Keeps (devFrame busDev new) (mockPhcCreate dev id) := by
  apply keeps_mayFail.bind
  intro _
  apply keeps_get_bind
  intro w
  have rest : Keeps (devFrame busDev new) (do
      modifyTable (·.register dev id)
      let interrupted ← fault
      unwind (modifyTable (·.mockPhcDestroy w.table.nextPtr interrupted.isSome)) mayFail
      return w.table.nextPtr) := by
    apply Keeps.bind (keeps_modifyTable fun t => ⟨from_register isNew, Nat.le_succ _⟩)
    intro _
    apply keeps_fault.bind
    intro interrupted
    apply Keeps.bind _ fun _ => keeps_pure _
    exact (keeps_modifyTable fun t => ⟨from_destroy _, le_rfl⟩).unwind keeps_mayFail
  exact rest w

/-- `mock_phc_create` makes a PHC to which the caller has the only reference. -/
theorem wp_mockPhcCreate (h : Accounted w held) {dev : Ptr} {id : Int32}
    (unshared : id ≠ -1 → ∀ p o, w.table.phc p = some o → o.logicalClkId ≠ id) :
    wp (mockPhcCreate dev id)
      (fun phc t => Accounted t (phc :: held) ∧
        ∃ o, t.table.phc phc = some o ∧ o.logicalClkId = id)
      (fun _ t => Accounted t held) w := by
  have fresh := h.sound.fresh_not_held
  have registered : ∀ faults, Accounted
      { w with table := w.table.register dev id, faults } (w.table.nextPtr :: held) := by
    intro faults
    refine ⟨(h.sound.register dev unshared).perm List.perm_middle.symm, ?_⟩
    intro port mem o' found
    have away : port.phc ≠ w.table.nextPtr := by
      intro same
      exact fresh (List.mem_append_left _ (same ▸ List.mem_map_of_mem mem))
    exact h.owners port mem o' (by simpa [PhcTable.register, away] using found)
  unfold mockPhcCreate
  rw [wp_bind]
  apply wp_mayFail (fun faults => ?_) fun _ faults => h.faults faults
  rw [wp_bind, wp_get, wp_bind, wp_modifyTable, wp_bind]
  apply wp_fault
  intro interrupted faults
  rw [wp_bind, wp_unwind]
  apply wp_mayFail
  · intro faults
    refine ⟨registered faults, ⟨id, 1, dev, 0⟩, ?_, rfl⟩
    simp [PhcTable.register]
  · intro e faults
    rw [wp_modifyTable]
    have sound := (registered faults).sound.perm List.perm_middle
    exact (registered faults).of_table (sound.discard fresh _) (from_destroy _)

theorem keeps_lookupPhc (id : Int32) : Keeps (devFrame busDev new) (lookupPhc id) := by
  unfold lookupPhc
  split_ifs
  · exact keeps_get.bind fun _ => keeps_pure _
  · exact keeps_pure _

theorem keeps_shareOrCreatePhc (isNew : new busDev.logicalClkId busDev.addr) :
    Keeps (devFrame busDev new) (shareOrCreatePhc busDev) := by
  apply (keeps_lookupPhc _).bind
  rintro (_ | phc | _)
  · exact keeps_mockPhcCreate isNew
  · exact (keeps_modifyTable fun t => ⟨from_krefGet, le_rfl⟩).bind fun _ => keeps_pure _
  · exact keeps_goWrong

/-- The caller gets a reference to a PHC with the logical id of the device. -/
theorem wp_shareOrCreatePhc (h : Accounted w held) :
    wp (shareOrCreatePhc busDev)
      (fun phc t => Accounted t (phc :: held) ∧
        ∃ o, t.table.phc phc = some o ∧ o.logicalClkId = busDev.logicalClkId)
      (fun _ t => Accounted t held) w := by
  unfold shareOrCreatePhc lookupPhc
  rw [wp_bind]
  by_cases unshared : busDev.logicalClkId = -1
  · rw [if_neg (not_not.2 unshared), wp_pure]
    exact wp_mockPhcCreate h fun shared => absurd unshared shared
  · rw [if_pos unshared, wp_bind, wp_get, wp_pure]
    cases found : (w.table.getPtpClockByLogicalClkId busDev.logicalClkId).2 with
    | none => exact wp_mockPhcCreate h fun _ p o => h.sound.not_found found
    | some dev =>
      cases dev with
      | vclock => exact wp_goWrong
      | mock phc =>
        obtain ⟨o, live, id⟩ := h.sound.found found
        have shared : phc ∈ w.ports.map (·.phc) ++ held :=
          (h.sound.held_or_dying live).resolve_right List.not_mem_nil
        have sound := (h.sound.krefGet shared).perm List.perm_middle.symm
        refine ⟨h.of_table sound from_krefGet, ?_⟩
        refine ⟨{ o with ref := o.ref + 1 }, ?_, id⟩
        show (w.table.krefGet phc).phc phc = _
        rw [PhcTable.krefGet, Sound.modify_self, live]
        rfl

theorem keeps_nsimInitNetdevsim (isNew : new busDev.logicalClkId busDev.addr) :
    Keeps (devFrame busDev new) (nsimInitNetdevsim busDev) := by
  apply (keeps_shareOrCreatePhc isNew).bind
  intro phc
  exact ((keeps_mockPhcRelease phc).unwind keeps_mayFail).bind fun _ => keeps_pure _

/-- So does the new net device. -/
theorem wp_nsimInitNetdevsim (h : Accounted w held) :
    wp (nsimInitNetdevsim busDev)
      (fun phc t => Accounted t (phc :: held) ∧
        ∃ o, t.table.phc phc = some o ∧ o.logicalClkId = busDev.logicalClkId)
      (fun _ t => Accounted t held) w := by
  unfold nsimInitNetdevsim
  rw [wp_bind]
  apply wp_mono (wp_shareOrCreatePhc h) _ fun _ _ => id
  rintro phc t ⟨accounted, live⟩
  rw [wp_bind, wp_unwind]
  apply wp_mayFail
  · exact fun faults => ⟨accounted.faults faults, live⟩
  · exact fun _ faults => wp_mockPhcRelease (accounted.faults faults)

end Phcs

/-! ## Ports -/

/-- The device has no ports. -/
def NoPorts (busDev : NsimBusDev) (w : PhcWorld) : Prop := ∀ port ∈ w.ports, port.busDev ≠ busDev

section Ports

variable {w : PhcWorld} {held : List Ptr} {busDev : NsimBusDev} {new : Int32 → Ptr → Prop}
  {E : Errno → PhcWorld → Prop}

theorem keeps_nsimDevPortAdd (isNew : new busDev.logicalClkId busDev.addr) (portIndex : UInt32) :
    Keeps (devFrame busDev new) (_nsimDevPortAdd busDev portIndex) := by
  apply keeps_mayFail.bind
  intro _
  apply Keeps.bind
  · exact keeps_mayFail.bind fun _ => keeps_nsimInitNetdevsim isNew
  · intro phc
    apply keeps_modify
    refine fun w => ⟨rfl, rfl, fun port other => ?_, .refl _ _, le_rfl⟩
    rw [List.mem_cons, or_iff_right]
    rintro rfl
    exact other rfl

theorem wp_nsimDevPortAdd (h : Accounted w held) (portIndex : UInt32) :
    wp (_nsimDevPortAdd busDev portIndex) (fun _ t => Accounted t held)
      (fun _ t => Accounted t held) w := by
  unfold _nsimDevPortAdd nsimCreate
  rw [wp_bind]
  apply wp_mayFail (fun faults => ?_) fun _ faults => h.faults faults
  rw [wp_bind, wp_bind]
  apply wp_mayFail (fun faults => ?_) fun _ faults => h.faults faults
  apply wp_mono (wp_nsimInitNetdevsim (h.faults faults)) _ fun _ _ => id
  rintro phc t ⟨accounted, o, live, id⟩
  rw [wp_modify]
  refine ⟨accounted.sound.perm List.perm_middle, fun port mem o' found => ?_⟩
  rcases List.mem_cons.1 mem with rfl | mem
  · obtain rfl := Option.some.inj (live.symm.trans found)
    exact id
  · exact accounted.owners port mem o' found

theorem keeps_nsimDevPortDel {port : PfPort} (mine : port.busDev = busDev) :
    Keeps (devFrame busDev new) (_nsimDevPortDel port) := by
  apply Keeps.bind _ fun _ => keeps_mockPhcRelease _
  apply keeps_modify
  refine fun w => ⟨rfl, rfl, fun other away => ?_, .refl _ _, le_rfl⟩
  apply List.mem_erase_of_ne
  rintro rfl
  exact away mine

/-- Deleting a port drops its reference. -/
theorem wp_nsimDevPortDel (h : Accounted w held) {port : PfPort} (mem : port ∈ w.ports) :
    wp (_nsimDevPortDel port) (fun _ t => Accounted t held ∧ t.ports = w.ports.erase port) E w := by
  have dropped : Accounted { w with ports := w.ports.erase port } (port.phc :: held) := by
    refine ⟨h.sound.perm ?_, fun other mem => h.owners other (List.mem_of_mem_erase mem)⟩
    calc w.ports.map (·.phc) ++ held
        ~ (port :: w.ports.erase port).map (·.phc) ++ held :=
          ((List.perm_cons_erase mem).map _).append_right _
      _ ~ (w.ports.erase port).map (·.phc) ++ port.phc :: held := List.perm_middle.symm
  unfold _nsimDevPortDel mockPhcRelease
  rw [wp_bind, wp_modify, wp_bind]
  apply wp_fault
  intro interrupted faults
  rw [wp_modifyTable]
  have sound := (dropped.sound.perm List.perm_middle).release interrupted.isSome
  exact ⟨(dropped.faults faults).of_table sound (from_release _), rfl⟩

theorem keeps_nsimDevPortDelAll :
    Keeps (devFrame busDev new) (nsimDevPortDelAll busDev) := by
  apply keeps_get.bind
  intro w
  apply keeps_forM
  intro port mem
  exact keeps_nsimDevPortDel (by simpa using (List.mem_filter.1 mem).2)

/-- The device has no ports left. -/
theorem wp_nsimDevPortDelAll (h : Accounted w held) :
    wp (nsimDevPortDelAll busDev) (fun _ t => Accounted t held ∧ NoPorts busDev t) E w := by
  have loop : ∀ (mine others : List PfPort) (w : PhcWorld), Accounted w held →
      w.ports.Perm (mine ++ others) →
      wp (mine.forM _nsimDevPortDel) (fun _ t => Accounted t held ∧ t.ports.Perm others) E w := by
    intro mine others
    induction mine with
    | nil => exact fun w h perm => ⟨h, perm⟩
    | cons port mine ih =>
      intro w h perm
      show (_nsimDevPortDel port >>= fun _ => mine.forM _nsimDevPortDel).wp _ _ _
      rw [wp_bind]
      apply wp_mono (wp_nsimDevPortDel h (perm.mem_iff.2 List.mem_cons_self)) _ fun _ _ => id
      rintro _ t ⟨accounted, ports⟩
      refine ih t accounted ?_
      rw [ports]
      simpa using perm.erase port
  unfold nsimDevPortDelAll
  rw [wp_bind, wp_get]
  have split := (List.filter_append_perm (·.busDev = busDev) w.ports).symm
  apply wp_mono (loop _ _ w h split) _ fun _ _ => id
  rintro _ t ⟨accounted, perm⟩
  refine ⟨accounted, fun port mem => ?_⟩
  simpa using (List.mem_filter.1 (perm.mem_iff.1 mem)).2

theorem keeps_nsimDevPortAddAll (isNew : new busDev.logicalClkId busDev.addr) (portCount : UInt32) :
    Keeps (devFrame busDev new) (nsimDevPortAddAll busDev portCount) :=
  keeps_nsimDevPortDelAll.unwind (keeps_forM fun _ _ => keeps_nsimDevPortAdd isNew _)

theorem wp_nsimDevPortAddAll (h : Accounted w held) (portCount : UInt32) :
    wp (nsimDevPortAddAll busDev portCount) (fun _ t => Accounted t held)
      (fun _ t => Accounted t held ∧ NoPorts busDev t) w := by
  apply wp_unwind_of (J := fun t => Accounted t held)
  · exact wp_forM (I := fun t => Accounted t held) (fun _ _ _ h => wp_nsimDevPortAdd h _) h
  · exact fun t ht => wp_nsimDevPortDelAll ht

theorem keeps_nsimDrvProbe (isNew : new busDev.logicalClkId busDev.addr) (portCount : UInt32) :
    Keeps (devFrame busDev new) (nsimDrvProbe busDev portCount) := by
  apply keeps_mayFail.bind
  intro _
  apply (keeps_nsimDevPortAddAll isNew portCount).bind
  exact fun _ => keeps_nsimDevPortDelAll.unwind keeps_mayFail

/-- A probe that fails leaves no ports. -/
theorem wp_nsimDrvProbe (h : Accounted w held) (none_yet : NoPorts busDev w) (portCount : UInt32) :
    wp (nsimDrvProbe busDev portCount) (fun _ t => Accounted t held)
      (fun _ t => Accounted t held ∧ NoPorts busDev t) w := by
  unfold nsimDrvProbe
  rw [wp_bind]
  apply wp_mayFail (fun faults => ?_) fun _ faults => ⟨h.faults faults, none_yet⟩
  rw [wp_bind]
  apply wp_mono (wp_nsimDevPortAddAll (h.faults faults) portCount) _ fun _ _ => id
  intro _ t accounted
  rw [wp_unwind]
  apply wp_mayFail
  · exact fun faults => accounted.faults faults
  · exact fun _ faults => wp_nsimDevPortDelAll (accounted.faults faults)

end Ports

/-! ## Runs -/

/-- What holds between the operations on the bus. -/
structure PhcInvariant (w : PhcWorld) : Prop where
  accounted : Accounted w []
  /-- Ports are on registered devices that the driver is bound to. -/
  ports : ∀ port ∈ w.ports, port.busDev ∈ w.busDevs ∧ w.drvdata port.busDev.addr = true
  addrs : (w.busDevs.map (·.addr)).Nodup
  old : ∀ busDev ∈ w.busDevs, busDev.addr < w.table.nextPtr

section Step

variable {w t : PhcWorld} {busDev : NsimBusDev} {held : List Ptr} {new : Int32 → Ptr → Prop}

theorem phcInvariant_loaded (stray : Ptr → Int32) : PhcInvariant (.loaded stray) where
  accounted := ⟨sound_empty stray, by simp [PhcWorld.loaded]⟩
  ports := by simp [PhcWorld.loaded]
  addrs := List.nodup_nil
  old := by simp [PhcWorld.loaded]

theorem PhcInvariant.faults (h : PhcInvariant w) (faults : List (Option Errno)) :
    PhcInvariant { w with faults } := ⟨h.accounted.faults faults, h.ports, h.addrs, h.old⟩

theorem PhcInvariant.addr_inj (h : PhcInvariant w) {d d' : NsimBusDev} (mem : d ∈ w.busDevs)
    (mem' : d' ∈ w.busDevs) (same : d.addr = d'.addr) : d = d' :=
  List.inj_on_of_nodup_map h.addrs mem mem' same

/-- A change on behalf of a bound device, if the accounts are right afterwards. -/
theorem PhcInvariant.of_devFrame (h : PhcInvariant w) (mem : busDev ∈ w.busDevs)
    (bound : w.drvdata busDev.addr = true) (accounted : Accounted t [])
    (frame : (devFrame busDev new).rel w t) : PhcInvariant t := by
  obtain ⟨devs, drvdata, others, -, next⟩ := frame
  refine ⟨accounted, fun port mem' => ?_, devs ▸ h.addrs, fun d hd => ?_⟩
  · rw [devs, drvdata]
    by_cases mine : port.busDev = busDev
    · rw [mine]
      exact ⟨mem, bound⟩
    · exact h.ports port ((others port mine).1 mem')
  · rw [devs] at hd
    exact (h.old d hd).trans_le next

theorem PhcWorld.busDev_mem {id : UInt32} (found : w.busDev id = some busDev) :
    busDev ∈ w.busDevs := List.mem_of_find?_eq_some found

/-- An operation on the ports of a device. -/
theorem wp_onBound (h : PhcInvariant w) {id : UInt32} {m : NsimBusDev → PhcM Unit}
    (keeps : ∀ d, Keeps (devFrame d fun _ _ => True) (m d))
    (accounts : ∀ d, wp (m d) (fun _ t => Accounted t []) (fun _ t => Accounted t []) w) :
    wp (onBound id m) (fun _ => PhcInvariant) (fun _ => PhcInvariant) w := by
  unfold onBound
  rw [wp_bind, wp_get]
  cases found : w.busDev id with
  | none => exact h
  | some d =>
    by_cases bound : w.drvdata d.addr = true
    · simp only [if_pos bound]
      apply wp_mono (wp_and (accounts d) (keeps d w))
      · exact fun _ t both => h.of_devFrame (w.busDev_mem found) bound both.1 both.2
      · exact fun _ t both => h.of_devFrame (w.busDev_mem found) bound both.1 both.2
    · simp only [if_neg bound]
      exact wp_goWrong

theorem keeps_nsimDrvPortAdd (isNew : new busDev.logicalClkId busDev.addr) (portIndex : UInt32) :
    Keeps (devFrame busDev new) (nsimDrvPortAdd busDev portIndex) :=
  keeps_get.bind fun _ => (keeps_failIf _).bind fun _ => keeps_nsimDevPortAdd isNew portIndex

theorem wp_nsimDrvPortAdd (h : Accounted w held) (portIndex : UInt32) :
    wp (nsimDrvPortAdd busDev portIndex) (fun _ t => Accounted t held)
      (fun _ t => Accounted t held) w := by
  unfold nsimDrvPortAdd
  rw [wp_bind, wp_get, wp_bind, wp_failIf]
  exact ⟨fun _ => h, fun _ => wp_nsimDevPortAdd h portIndex⟩

theorem keeps_nsimDrvPortDel (d : NsimBusDev) (portIndex : UInt32) :
    Keeps (devFrame d new) (nsimDrvPortDel d portIndex) := by
  apply keeps_get.bind
  intro w
  cases found : _nsimDevPortLookup w d portIndex with
  | none => exact keeps_throw _
  | some port =>
    have mine := List.find?_some found
    exact keeps_nsimDevPortDel (by simpa using (of_decide_eq_true mine).1)

theorem wp_nsimDrvPortDel (h : Accounted w held) (portIndex : UInt32) :
    wp (nsimDrvPortDel busDev portIndex) (fun _ t => Accounted t held)
      (fun _ t => Accounted t held) w := by
  unfold nsimDrvPortDel
  rw [wp_bind, wp_get]
  cases found : _nsimDevPortLookup w busDev portIndex with
  | none => exact h
  | some port =>
    have mem : port ∈ w.ports := List.mem_of_find?_eq_some found
    exact wp_mono (wp_nsimDevPortDel h mem) (fun _ _ => And.left) fun _ _ => id

/-- A device is deleted: its ports go first. -/
theorem wp_nsimBusDevDel (h : PhcInvariant w) (mem : busDev ∈ w.busDevs)
    {E : Errno → PhcWorld → Prop} :
    wp (nsimBusDevDel busDev) (fun _ t => PhcInvariant t ∧ From (fun _ _ => False) w.table t.table ∧
      t.busDevs = w.busDevs.erase busDev ∧
      ∀ port, port ∈ t.ports ↔ port ∈ w.ports ∧ port.busDev ≠ busDev) E w := by
  have finish : ∀ t, Accounted t [] → NoPorts busDev t →
      (devFrame busDev fun _ _ => False).rel w t →
      let u := { t with
        drvdata := Function.update t.drvdata busDev.addr false
        busDevs := t.busDevs.erase busDev }
      PhcInvariant u ∧ From (fun _ _ => False) w.table u.table ∧
        u.busDevs = w.busDevs.erase busDev ∧
        ∀ port, port ∈ u.ports ↔ port ∈ w.ports ∧ port.busDev ≠ busDev := by
    rintro t accounted gone ⟨devs, drvdata, others, phcs, next⟩
    have left : ∀ port, port ∈ t.ports ↔ port ∈ w.ports ∧ port.busDev ≠ busDev := by
      intro port
      constructor
      · exact fun mem => ⟨(others port (gone port mem)).1 mem, gone port mem⟩
      · exact fun ⟨mem, other⟩ => (others port other).2 mem
    refine ⟨⟨⟨accounted.sound, accounted.owners⟩, fun port mem' => ?_, ?_, fun d hd => ?_⟩, phcs,
      by rw [← devs], left⟩
    · obtain ⟨before, other⟩ := (left port).1 mem'
      obtain ⟨registered, bound⟩ := h.ports port before
      have away : port.busDev.addr ≠ busDev.addr := fun same =>
        other (h.addr_inj registered mem same)
      simp only [devs, drvdata]
      rw [Function.update_of_ne away]
      exact ⟨(List.mem_erase_of_ne other).2 registered, bound⟩
    · simp only [devs]
      exact h.addrs.sublist (List.erase_sublist.map _)
    · simp only [devs] at hd
      exact (h.old d (List.mem_of_mem_erase hd)).trans_le next
  unfold nsimBusDevDel nsimBusRemove
  rw [wp_bind, wp_bind, wp_get]
  by_cases bound : w.drvdata busDev.addr = true
  · rw [if_pos bound]
    have frame : Keeps (devFrame busDev fun _ _ => False) (nsimDevPortDelAll busDev) :=
      keeps_nsimDevPortDelAll
    have emptied : wp (nsimDevPortDelAll busDev)
        (fun _ t => Accounted t [] ∧ NoPorts busDev t) (fun _ _ => False) w :=
      wp_nsimDevPortDelAll h.accounted
    apply wp_mono (wp_and emptied (frame w))
    · exact fun _ t both => finish t both.1.1 both.1.2 both.2
    · exact fun _ _ both => both.1.elim
  · rw [if_neg bound, wp_pure]
    refine finish w h.accounted (fun port mem' mine => bound ?_) ((devFrame busDev _).refl w)
    rw [← mine]
    exact (h.ports port mem').2

/-- A device is created: the driver may fail to bind, and then the device has no ports. -/
theorem wp_nsimBusDevNew (h : PhcInvariant w) (id : UInt32) (logicalClkId : Int32)
    (portCount : UInt32) :
    wp (nsimBusDevNew id logicalClkId portCount)
      (fun _ t => PhcInvariant t ∧ (∀ d ∈ w.busDevs, d ∈ t.busDevs) ∧
        From (fun _ parent => ∃ d ∈ t.busDevs, d.addr = parent) w.table t.table)
      (fun _ t => PhcInvariant t ∧ t.busDevs = w.busDevs ∧ t.table = w.table) w := by
  unfold nsimBusDevNew
  rw [wp_bind]
  apply wp_mayFail (fun faults => ?_) fun _ faults => ⟨h.faults faults, rfl, rfl⟩
  rw [wp_bind, wp_get, wp_bind, wp_failIf]
  refine ⟨fun _ => ⟨h.faults faults, rfl, rfl⟩, fun _ => ?_⟩
  rw [wp_bind]
  apply wp_mayFail (fun faults => ?_) fun _ faults => ⟨h.faults faults, rfl, rfl⟩
  set d : NsimBusDev := ⟨w.table.nextPtr, id, logicalClkId⟩ with hd
  rw [wp_bind, wp_modify, wp_bind, wp_attempt]
  set registered : PhcWorld :=
    { w with
      table := { w.table with nextPtr := w.table.nextPtr + 1 }
      busDevs := w.busDevs ++ [d]
      faults } with hregistered
  have newAddr : ∀ e ∈ w.busDevs, e.addr ≠ d.addr := fun e mem => (h.old e mem).ne
  have accounted : Accounted registered [] := by
    refine ⟨h.accounted.sound.of_class (fun _ => Iff.rfl) h.accounted.sound.nodup
      (Nat.le_succ _) ?_, h.accounted.owners⟩
    exact fun v p mem => (h.accounted.sound.vclockOld v p mem).trans (Nat.lt_succ_self _)
  have none_yet : NoPorts d registered := by
    intro port mem mine
    have before := (h.ports port mem).1
    rw [mine] at before
    exact newAddr d before rfl
  have isNew : ∃ e ∈ registered.busDevs, e.addr = d.addr :=
    ⟨d, List.mem_append_right _ (List.mem_singleton_self d), rfl⟩
  have addrs : (registered.busDevs.map (·.addr)).Nodup := by
    rw [List.map_append, List.nodup_append]
    refine ⟨h.addrs, List.nodup_singleton _, ?_⟩
    rintro a ha b hb rfl
    obtain ⟨e, mem, rfl⟩ := List.mem_map.1 ha
    exact newAddr e mem (List.mem_singleton.1 hb)
  have finish : ∀ (bound : Bool) (t : PhcWorld), Accounted t [] →
      (bound = false → NoPorts d t) →
      (devFrame d fun _ parent => ∃ e ∈ registered.busDevs, e.addr = parent).rel registered t →
      let u := { t with drvdata := Function.update t.drvdata d.addr bound }
      PhcInvariant u ∧ (∀ e ∈ w.busDevs, e ∈ u.busDevs) ∧
        From (fun _ parent => ∃ e ∈ u.busDevs, e.addr = parent) w.table u.table := by
    rintro bound t accounted gone ⟨devs, drvdata, others, phcs, next⟩
    refine ⟨⟨⟨accounted.sound, accounted.owners⟩, fun port mem => ?_, ?_, fun e he => ?_⟩,
      fun e mem => ?_, ?_⟩
    · simp only [devs, drvdata]
      by_cases mine : port.busDev = d
      · rw [mine, Function.update_self]
        refine ⟨List.mem_append_right _ (List.mem_singleton_self d), ?_⟩
        cases bound with
        | true => rfl
        | false => exact absurd mine (gone rfl port mem)
      · obtain ⟨mem, bound⟩ := h.ports port ((others port mine).1 mem)
        rw [Function.update_of_ne (newAddr _ mem)]
        exact ⟨List.mem_append_left _ mem, bound⟩
    · simp only [devs]
      exact addrs
    · simp only [devs] at he
      have older : e.addr < registered.table.nextPtr := by
        rcases List.mem_append.1 he with before | this
        · exact (h.old e before).trans (Nat.lt_succ_self _)
        · rw [List.mem_singleton.1 this]
          exact Nat.lt_succ_self _
      exact older.trans_le next
    · simp only [devs]
      exact List.mem_append_left _ mem
    · simp only [devs]
      exact phcs
  have frame : Keeps (devFrame d fun _ parent => ∃ e ∈ registered.busDevs, e.addr = parent)
      (nsimDrvProbe d portCount) := keeps_nsimDrvProbe isNew portCount
  apply wp_mono (wp_and (wp_nsimDrvProbe accounted none_yet portCount) (frame registered))
  · exact fun _ t both => finish true t both.1 (fun absurd => by cases absurd) both.2
  · exact fun _ t both => finish false t both.1.1 (fun _ => both.1.2) both.2

theorem wp_delDeviceStore (h : PhcInvariant w) (id : UInt32) :
    wp (delDeviceStore id) (fun _ => PhcInvariant) (fun _ => PhcInvariant) w := by
  unfold delDeviceStore
  rw [wp_bind, wp_get]
  cases found : w.busDev id with
  | none => exact h
  | some d =>
    apply wp_mono (wp_nsimBusDevDel h (w.busDev_mem found))
    · exact fun _ _ => And.left
    · exact fun _ _ kept => kept

/-- Writing the number of virtual clocks does not touch the accounts. -/
theorem wp_nVclocksStore (h : PhcInvariant w) (phc : Ptr) (buf : Bytes) (attempts : List Bool) :
    wp (nVclocksStore phc buf attempts) (fun _ => PhcInvariant) (fun _ => PhcInvariant) w := by
  unfold nVclocksStore
  rw [wp_bind]
  apply wp_fault
  intro interrupted faults
  rw [wp_bind, wp_get]
  have stored := h.accounted.sound.nVclocksStore phc interrupted.isSome buf attempts
  generalize w.table.nVclocksStore phc interrupted.isSome buf attempts = stored' at stored
  obtain ⟨table, err⟩ := stored'
  obtain ⟨sound, phcs, next⟩ := stored
  have after : PhcInvariant { w with table, faults } :=
    ⟨(h.accounted.faults faults).of_table sound phcs, h.ports, h.addrs,
      fun d mem => (h.old d mem).trans_le next⟩
  cases err with
  | none => exact after
  | some e => exact after

/-- Every operation keeps the invariant, however it ends. -/
theorem phcInvariant_step {a : List (Option Errno) × PhcOp} (h : PhcInvariant w)
    (step : phcSystem.step w a t) : PhcInvariant t := by
  obtain ⟨faults, op⟩ := a
  obtain ⟨result, run⟩ := step
  have start := h.faults faults
  refine holds_of_wp (I := PhcInvariant) ?_ run
  cases op with
  | newDevice id logicalClkId portCount =>
    exact wp_mono (wp_nsimBusDevNew start id logicalClkId portCount) (fun _ _ => And.left)
      fun _ _ => And.left
  | delDevice id => exact wp_delDeviceStore start id
  | newPort id portIndex =>
    exact wp_onBound start (fun _ => keeps_nsimDrvPortAdd trivial portIndex) fun _ =>
      wp_nsimDrvPortAdd start.accounted portIndex
  | delPort id portIndex =>
    exact wp_onBound start (fun d => keeps_nsimDrvPortDel d portIndex) fun _ =>
      wp_nsimDrvPortDel start.accounted portIndex
  | nVclocks phc buf attempts => exact wp_nVclocksStore start phc buf attempts

theorem phcInvariant_reachable (h : phcSystem.Reachable w) : PhcInvariant w := by
  refine h.induct (fun w init => ?_) fun w a t _ => phcInvariant_step
  obtain ⟨stray, rfl⟩ := init
  exact phcInvariant_loaded stray

end Step

/-! ## Runs without virtual clocks -/

/-- The operations of a run that writes no `n_vclocks`. -/
def PhcOp.NoVclocks : PhcOp → Prop
  | .nVclocks _ _ _ => False
  | _ => True

/-- The bus, without writes to `n_vclocks`. -/
def plainPhcSystem : TransitionSystem PhcWorld (List (Option Errno) × PhcOp) :=
  phcSystem.guard fun _ a => a.2.NoVclocks

/-- PHC sharing is exactly reference counted: at most one live PHC has a logical id other than -1;
the PHC of every PF port is live and carries the logical id of its bus device; the count of a live
PHC is the number of ports whose PHC it is, and at least 1; ports whose devices have the same id
other than -1 have the same PHC. -/
theorem phc_sharing_counts {w : PhcWorld} (h : plainPhcSystem.Reachable w) :
    (∀ p q o o', w.table.phc p = some o → w.table.phc q = some o' →
      o.logicalClkId = o'.logicalClkId → o.logicalClkId ≠ -1 → p = q) ∧
    (∀ port ∈ w.ports, port.busDev ∈ w.busDevs ∧
      ∃ o, w.table.phc port.phc = some o ∧ o.logicalClkId = port.busDev.logicalClkId) ∧
    (∀ p o, w.table.phc p = some o → o.ref = (w.ports.map (·.phc)).count p ∧ 1 ≤ o.ref) ∧
    (∀ port ∈ w.ports, ∀ port' ∈ w.ports,
      port.busDev.logicalClkId = port'.busDev.logicalClkId → port.busDev.logicalClkId ≠ -1 →
      port.phc = port'.phc) := by
  have inv := phcInvariant_reachable h.of_guard
  obtain ⟨sound, owners⟩ := inv.accounted
  rw [List.append_nil] at sound
  have live : ∀ port ∈ w.ports,
      ∃ o, w.table.phc port.phc = some o ∧ o.logicalClkId = port.busDev.logicalClkId := by
    intro port mem
    obtain ⟨o, found, -⟩ := sound.live (List.mem_map_of_mem mem)
    exact ⟨o, found, owners port mem o found⟩
  refine ⟨sound.unique, fun port mem => ⟨(inv.ports port mem).1, live port mem⟩,
    fun p o => sound.ref_eq, fun port mem port' mem' same shared => ?_⟩
  obtain ⟨o, found, id⟩ := live port mem
  obtain ⟨o', found', id'⟩ := live port' mem'
  refine sound.unique _ _ o o' found found' ?_ ?_
  · rw [id, id', same]
  · rwa [id]

/-! ## Given runs -/

/-- Run the operations one after the other. -/
def runOps : List (List (Option Errno) × PhcOp) → PhcWorld → Option PhcWorld
  | [], w => some w
  | a :: as, w =>
    match a.2.program.exec { w with faults := a.1 } with
    | none => none
    | some (_, t) => runOps as t

theorem runOps_eq_follow (as : List (List (Option Errno) × PhcOp)) (w : PhcWorld) :
    runOps as w = TransitionSystem.follow
      (fun w a => (a.2.program.exec { w with faults := a.1 }).map Prod.snd) as w := by
  induction as generalizing w with
  | nil => rfl
  | cons a as ih =>
    rw [runOps, TransitionSystem.follow]
    cases a.2.program.exec { w with faults := a.1 } with
    | none => rfl
    | some out => exact ih out.2

/-- The end of a given run, if it passes the test. -/
theorem exists_of_runOps {C : PhcWorld → List (Option Errno) × PhcOp → Prop} {w : PhcWorld}
    (as : List (List (Option Errno) × PhcOp)) (test : PhcWorld → Bool)
    (start : (phcSystem.guard C).Reachable w) (all : ∀ a ∈ as, ∀ w, C w a)
    (passes : (runOps as w).any test = true) : ∃ t, (phcSystem.guard C).Reachable t ∧ test t := by
  rw [runOps_eq_follow] at passes
  refine start.exists_of_follow as test (fun a mem w t next => ?_) passes
  obtain ⟨out, run, rfl⟩ := Option.map_eq_some_iff.1 next
  exact ⟨⟨out.1, run⟩, all a mem w⟩

/-- Two devices with one port each that share the logical id 7. -/
def twoDevices : List (List (Option Errno) × PhcOp) :=
  [([], .newDevice 0 7 1), ([], .newDevice 1 7 1)]

/-- Their ports have the same PHC. -/
theorem phc_sharing_counts_twoDevices :
    ∃ w : PhcWorld, w.ports.length = 2 ∧ ∀ port ∈ w.ports, ∀ port' ∈ w.ports,
      port.busDev.logicalClkId = port'.busDev.logicalClkId → port.busDev.logicalClkId ≠ -1 →
      port.phc = port'.phc := by
  have start : plainPhcSystem.Reachable (.loaded fun _ => 0) := .init ⟨fun _ => 0, rfl⟩
  obtain ⟨w, reachable, two⟩ := exists_of_runOps twoDevices (·.ports.length = 2) start
    (by simp [twoDevices, PhcOp.NoVclocks]) (by decide +kernel)
  exact ⟨w, of_decide_eq_true two, (phc_sharing_counts reachable).2.2.2⟩

end Netdevsim.Phc
