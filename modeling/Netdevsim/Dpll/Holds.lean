import Netdevsim.Dpll.Attach
import Netdevsim.Dpll.PinLedger

/-!
# What a DPLL holds in the core

A `struct nsim_dpll` takes a reference to each of its pins and registers it on the PPS DPLL: the
GNSS pin, the external pins and a pin for each PF port.  These are its items.  The parts of
`nsim_dpll_init` add them to what the core holds, or leave the core as it was, and the cleanups take
them back in any order; none of them goes wrong as long as the ids of pins last.
-/

namespace Netdevsim

open Program Ledger

/-! ## Items -/

/-- The key of a pin of the driver. -/
def nsimPinKey (pinIdx : UInt32) : DpllPinKey := ⟨NSIM_DPLL_CLOCK_ID, pinIdx, THIS_MODULE⟩

def gnssPinKey : DpllPinKey := nsimPinKey NSIM_DPLL_GNSS_PIN_IDX

def extPinKey (i : ℕ) : DpllPinKey := nsimPinKey (NSIM_DPLL_EXT_PIN_BASE + UInt32.ofNat i)

def portPinKey (j : ℕ) : DpllPinKey :=
  nsimPinKey (NSIM_DPLL_EXT_PIN_BASE + UInt32.ofNat NSIM_DPLL_NUM_EXT_PINS + UInt32.ofNat j)

def gnssItem (ndpll gnssPin : Ptr) : (DpllPinKey × Ptr) × DpllPinRegistration :=
  ((gnssPinKey, gnssPin), ⟨nsimDpllGnssPinOps, gnssPinPriv ndpll, 0⟩)

def extItem (ndpll : Ptr) (epin : Ptr × ℕ) : (DpllPinKey × Ptr) × DpllPinRegistration :=
  ((extPinKey epin.2, epin.1), ⟨nsimDpllGnssPinOps, extPinPriv ndpll epin.2, 0⟩)

def portItem (npin : NsimDpllPin × ℕ) : (DpllPinKey × Ptr) × DpllPinRegistration :=
  ((portPinKey npin.2, npin.1.pin), ⟨nsimDpllRclkPinOps, npin.1.addr, 0⟩)

def extItems (ndpll : Ptr) (extPins : List Ptr) : PinLedger := extPins.zipIdx.map (extItem ndpll)

def portItems (portPins : List NsimDpllPin) : PinLedger := portPins.zipIdx.map portItem

/-- What a DPLL holds. -/
def NsimDpllDev.items (d : NsimDpllDev) : PinLedger :=
  gnssItem d.addr d.gnssPin :: (extItems d.addr d.extPins ++ portItems d.portPins)

/-! ## The core and the items -/

/-- The core has the devices of the table, and pins for the items, each registered by private data
at an address below `b`. -/
structure Holds (s : KernelState) (T : DeviceTable) (bound pps : Ptr) (nets : List Ptr) (b : Ptr)
    (items : PinLedger) : Prop where
  table : Represents s T bound
  pins : PinsHeld s pps nets items items
  nodup : items.Nodup
  below : ∀ e ∈ items, e.2.priv < b

/-- The PPS device is there, at the given address. -/
def PpsAt (T : DeviceTable) (pps : Ptr) : Prop := 0 < (T ppsKey).refs ∧ (T ppsKey).addr = pps

section Pins

variable {s t : KernelState} {T : DeviceTable} {bound pps b ndpll pin : Ptr} {nets : List Ptr}
  {items first last : PinLedger} {key : DpllPinKey} {keys : List DpllPinKey} {ops : DpllPinOps}
  {priv : Ptr}

theorem Represents.live (rep : Represents s T bound) {key : DpllKey} {p : Ptr}
    (alive : 0 < (T key).refs ∧ (T key).addr = p) : ∃ d, s.device p = some d := by
  obtain ⟨e, -, addr, -, d, live, -⟩ := rep.present key alive.1
  rw [addr, alive.2] at live
  exact ⟨d, live⟩

/-- What an operation on pins does, and that it leaves the devices alone. -/
theorem twp_table {α : Type} {m : KernelM α} {Q : α → KernelState → Prop}
    {E : Errno → KernelState → Prop} (keeps : Keeps pinFrame m) (table : Represents s T bound)
    (h : twp m Q E s) :
    twp m (fun a t => Represents t T bound ∧ Q a t) (fun e t => Represents t T bound ∧ E e t) s :=
  (completes_of_twp h).twp
    (wp_and (keeps.preserves (fun _ _ within rep => Represents.of_frame rep within) table)
      (wp_of_twp h))

theorem Holds.of_ntfFrame (holds : Holds s T bound pps nets b items) (within : ntfFrame.rel s t) :
    Holds t T bound pps nets b items :=
  ⟨holds.table.of_frame (pinFrame_of_ntfFrame _ _ within), holds.pins.of_ntfFrame within,
    holds.nodup, holds.below⟩

/-- Getting and registering a pin adds an item, or nothing changes. -/
theorem twp_nsimDpllPin {pinIdx : UInt32} {props : DpllPinProperties}
    (holds : Holds s T bound pps nets b items) (alive : PpsAt T pps) (fresh : b ≤ priv)
    (lasts : s.pinIdsLast (nsimPinKey pinIdx :: keys)) :
    twp (nsimDpllPin pps pinIdx props ops priv)
      (fun pin t => Holds t T bound pps nets (priv + 1)
        (items ++ [((nsimPinKey pinIdx, pin), ⟨ops, priv, 0⟩)]) ∧ t.pinIdsLast keys)
      (fun _ t => Holds t T bound pps nets b items) s := by
  have new : ∀ pin, ((nsimPinKey pinIdx, pin), ⟨ops, priv, 0⟩) ∉ items := fun pin mem =>
    absurd (holds.below _ mem) (not_lt.2 fresh)
  unfold nsimDpllPin
  rw [twp_bind]
  have get := twp_table (keeps_dpllPinGet _ _ _ _) holds.table
    (twp_dpllPinGet holds.pins lasts ⟨ops, priv, 0⟩ props)
  refine twp_mono get (fun pin t got => ?_) fun _ t failed =>
    ⟨failed.1, failed.2, holds.nodup, holds.below⟩
  obtain ⟨table, pins, lasts⟩ := got
  obtain ⟨d, liveD⟩ := table.live alive
  obtain ⟨p, liveP, key⟩ := pins.present (nsimPinKey pinIdx) pin (by simp [entriesAt_enter])
  rw [← key] at new
  have register := twp_table (keeps_dpllPinRegister _ _) table
    (twp_dpllPinRegister pins liveD liveP (new pin))
  rw [twp_bind, twp_unwind]
  refine twp_mono register (fun _ u done => ?_) fun _ u failed => ?_
  · obtain ⟨table, pins, within⟩ := done
    rw [key] at pins new
    refine ⟨⟨table, pins, ?_, fun e mem => ?_⟩, (pinIdsLast_of_frame within).trans lasts⟩
    · exact List.nodup_append.2 ⟨holds.nodup, List.nodup_singleton _,
        fun e mem e' mem' same => new pin (List.mem_singleton.1 mem' ▸ same ▸ mem)⟩
    · rcases List.mem_append.1 mem with old | own
      · exact (holds.below e old).trans (Nat.lt_succ_of_le fresh)
      · rw [List.mem_singleton.1 own]
        exact Nat.lt_succ_self _
  · rw [key] at new
    have put := twp_table (keeps_dpllPinPut pin) failed.1
      (twp_dpllPinPut failed.2 (List.mem_append_right _ (List.mem_singleton_self _))
        (by rw [erase_enter (new pin)]; exact id))
    refine twp_mono put (fun _ v back => ?_) fun _ _ both => both.2.elim
    rw [erase_enter (new pin)] at back
    exact ⟨back.1, back.2, holds.nodup, holds.below⟩

/-- Unregistering and putting a pin takes an item back. -/
theorem twp_dropPin (holds : Holds s T bound pps nets b items) (alive : PpsAt T pps)
    (item : ((key, pin), ⟨ops, priv, 0⟩) ∈ items) :
    twp (do
        dpllPinUnregister pps pin ops priv
        dpllPinPut pin)
      (fun _ t => Holds t T bound pps nets b (items.erase ((key, pin), ⟨ops, priv, 0⟩)))
      (fun _ _ => False) s := by
  obtain ⟨d, liveD⟩ := holds.table.live alive
  rw [twp_bind]
  have unregister := twp_table (keeps_dpllPinUnregister ops priv) holds.table
    (twp_dpllPinUnregister holds.pins liveD item)
  refine twp_mono unregister (fun _ t done => ?_) fun _ _ both => both.2.elim
  have put := twp_table (keeps_dpllPinPut pin) done.1 (twp_dpllPinPut done.2 item id)
  refine twp_mono put (fun _ u left => ?_) fun _ _ both => both.2.elim
  exact ⟨left.1, left.2, holds.nodup.erase _,
    fun e mem => holds.below e (List.mem_of_mem_erase mem)⟩

/-- Net devices may be assigned pins. -/
theorem twp_dpllNetdevPinAssign (holds : Holds s T bound pps nets b items) {ns : Ptr}
    (present : ns ∈ nets) (dpllPin : Ptr) :
    twp (dpllNetdevPinAssign ns dpllPin)
      (fun _ t => Holds t T bound pps nets b items ∧ pinIdFrame.rel s t) (fun _ _ => False) s := by
  obtain ⟨dev, live⟩ := holds.pins.netdevs ns present
  unfold dpllNetdevPinAssign
  rw [twp_bind, twp_get, live, twp_modify]
  refine ⟨⟨holds.table.of_frame ⟨fun _ => rfl, rfl, le_rfl⟩, ?_, holds.nodup, holds.below⟩, rfl⟩
  exact holds.pins.of_eq (holds.pins.inv.of_eq rfl rfl rfl rfl le_rfl) rfl (fun _ => rfl)
    fun n mem => exists_update (holds.pins.netdevs n mem)

/-! ## The cleanups -/

/-- A loop that takes an item back in each round. -/
theorem twp_dropAll {α : Type} {xs : List α} {g : α → KernelM Unit}
    {item : α → (DpllPinKey × Ptr) × DpllPinRegistration}
    (drop : ∀ x ∈ xs, ∀ s items, Holds s T bound pps nets b items → item x ∈ items →
      twp (g x) (fun _ t => Holds t T bound pps nets b (items.erase (item x))) (fun _ _ => False) s)
    (holds : Holds s T bound pps nets b items) (there : ∀ x ∈ xs, item x ∈ items)
    (nodup : (xs.map item).Nodup) :
    twp (xs.forM g) (fun _ t => Holds t T bound pps nets b (items.diff (xs.map item)))
      (fun _ _ => False) s := by
  induction xs generalizing s items with
  | nil => exact holds
  | cons x xs ih =>
    obtain ⟨head, tail⟩ := List.nodup_cons.1 nodup
    show twp (g x >>= fun _ => xs.forM g) _ _ _
    rw [twp_bind, List.map_cons, List.diff_cons]
    refine twp_mono (drop x List.mem_cons_self s items holds (there x List.mem_cons_self))
      (fun _ t after => ?_) fun _ _ => id
    refine ih (fun y mem => drop y (List.mem_cons_of_mem _ mem)) after (fun y mem => ?_) tail
    have differ : item y ≠ item x := fun same => head (same ▸ List.mem_map_of_mem mem)
    exact (List.mem_erase_of_ne differ).2 (there y (List.mem_cons_of_mem _ mem))

/-- A loop that takes back all items between others, in any order. -/
theorem twp_dropMiddle {α : Type} {xs : List α} {g : α → KernelM Unit} {middle : PinLedger}
    {item : α → (DpllPinKey × Ptr) × DpllPinRegistration}
    (drop : ∀ x ∈ xs, ∀ s items, Holds s T bound pps nets b items → item x ∈ items →
      twp (g x) (fun _ t => Holds t T bound pps nets b (items.erase (item x))) (fun _ _ => False) s)
    (perm : (xs.map item).Perm middle)
    (holds : Holds s T bound pps nets b (first ++ middle ++ last)) :
    twp (xs.forM g) (fun _ t => Holds t T bound pps nets b (first ++ last))
      (fun _ _ => False) s := by
  obtain ⟨front, -, -⟩ := List.nodup_append.1 holds.nodup
  have nodup := perm.nodup_iff.2 (List.nodup_append.1 front).2.1
  rw [← diff_middle holds.nodup fun _ => perm.mem_iff]
  refine twp_dropAll drop holds (fun x mem => ?_) nodup
  exact List.mem_append_left _
    (List.mem_append_right _ (perm.mem_iff.1 (List.mem_map_of_mem mem)))

theorem twp_nsimDpllCleanupExtPins {extPins : List Ptr} (alive : PpsAt T pps)
    (holds : Holds s T bound pps nets b (first ++ extItems ndpll extPins ++ last)) :
    twp (nsimDpllCleanupExtPins ndpll pps extPins)
      (fun _ t => Holds t T bound pps nets b (first ++ last)) (fun _ _ => False) s := by
  have perm : (extPins.zipIdx.reverse.map (extItem ndpll)).Perm (extItems ndpll extPins) := by
    rw [List.map_reverse]
    exact List.reverse_perm _
  refine twp_dropMiddle ?_ perm holds
  rintro ⟨epin, i⟩ _ s items holds there
  exact twp_dropPin holds alive there

theorem twp_nsimDpllCleanupPortPins {portPins : List NsimDpllPin} (alive : PpsAt T pps)
    (present : ∀ npin ∈ portPins, npin.ns ∈ nets)
    (holds : Holds s T bound pps nets b (first ++ portItems portPins ++ last)) :
    twp (nsimDpllCleanupPortPins pps portPins)
      (fun _ t => Holds t T bound pps nets b (first ++ last)) (fun _ _ => False) s := by
  have indexed : nsimDpllCleanupPortPins pps portPins =
      (portPins.zipIdx.forM fun npin => do
        dpllNetdevPinClear npin.1.ns
        dpllPinUnregister pps npin.1.pin nsimDpllRclkPinOps npin.1.addr
        dpllPinPut npin.1.pin) := by
    unfold nsimDpllCleanupPortPins
    conv_lhs => rw [← List.zipIdx_map_fst 0 portPins]
    exact List.forM_map
  rw [indexed]
  have perm : (portPins.zipIdx.map portItem).Perm (portItems portPins) := List.Perm.refl _
  refine twp_dropMiddle ?_ perm holds
  rintro ⟨npin, j⟩ mem s items holds there
  rw [twp_bind]
  have own : npin ∈ portPins := List.fst_mem_of_mem_zipIdx mem
  refine twp_mono (twp_dpllNetdevPinAssign holds (present npin own) 0) (fun _ t after => ?_)
    fun _ _ => id
  exact twp_dropPin after.1 alive there

theorem twp_dropGnssPin {gnssPin : Ptr} (alive : PpsAt T pps)
    (holds : Holds s T bound pps nets b (first ++ [gnssItem ndpll gnssPin] ++ last)) :
    twp (do
        dpllPinUnregister pps gnssPin nsimDpllGnssPinOps (gnssPinPriv ndpll)
        dpllPinPut gnssPin)
      (fun _ t => Holds t T bound pps nets b (first ++ last)) (fun _ _ => False) s := by
  have there : gnssItem ndpll gnssPin ∈ first ++ [gnssItem ndpll gnssPin] ++ last := by simp
  rw [← diff_middle holds.nodup fun _ => Iff.rfl, List.diff_cons, List.diff_nil]
  exact twp_dropPin holds alive there

/-! ## The loops -/

theorem Holds.below_of (holds : Holds s T bound pps nets b items) {b' : Ptr}
    (below : ∀ e ∈ items, e.2.priv < b') : Holds s T bound pps nets b' items :=
  ⟨holds.table, holds.pins, holds.nodup, below⟩

theorem Holds.weaken (holds : Holds s T bound pps nets b items) {bound' : Ptr}
    (le : bound' ≤ bound) : Holds s T bound' pps nets b items :=
  ⟨holds.table.weaken le, holds.pins, holds.nodup, holds.below⟩

/-- Addresses that were handed out. -/
theorem Holds.grown (holds : Holds s T bound pps nets b items) (size : ℕ)
    (faults : List (Option Errno)) :
    Holds { s with nextPtr := s.nextPtr + size, faults } T (s.nextPtr + size) pps nets b items where
  table := ⟨holds.table.listed, holds.table.present,
    fun p d live => (holds.table.fresh p d live).trans_le (Nat.le_add_right _ _), le_rfl⟩
  pins := holds.pins.of_eq (holds.pins.inv.grown size faults) rfl (fun _ => rfl)
    holds.pins.netdevs
  nodup := holds.nodup
  below := holds.below

theorem extItems_append (ndpll : Ptr) (extPins : List Ptr) (epin : Ptr) :
    extItems ndpll (extPins ++ [epin]) =
      extItems ndpll extPins ++ [extItem ndpll (epin, extPins.length)] := by
  simp [extItems, List.zipIdx_append]

theorem portItems_append (portPins : List NsimDpllPin) (npin : NsimDpllPin) :
    portItems (portPins ++ [npin]) = portItems portPins ++ [portItem (npin, portPins.length)] := by
  simp [portItems, List.zipIdx_append]

theorem twp_nsimDpllExtPins {labels : List Bytes} {extPins : List Ptr} (alive : PpsAt T pps)
    (holds : Holds s T bound pps nets (extPinPriv ndpll extPins.length)
      (first ++ extItems ndpll extPins))
    (below : ∀ e ∈ first, e.2.priv < b)
    (lasts : s.pinIdsLast ((List.range' extPins.length labels.length).map extPinKey ++ keys)) :
    twp (nsimDpllExtPins ndpll pps extPins labels)
      (fun pins t => pins.length = extPins.length + labels.length ∧
        Holds t T bound pps nets (extPinPriv ndpll pins.length) (first ++ extItems ndpll pins) ∧
        t.pinIdsLast keys)
      (fun _ t => Holds t T bound pps nets b first) s := by
  induction labels generalizing extPins s with
  | nil => exact ⟨rfl, holds, lasts⟩
  | cons label labels ih =>
    rw [nsimDpllExtPins, twp_bind]
    refine twp_mono (twp_unwind_of (twp_nsimDpllPin holds alive le_rfl lasts)
      (I := fun t => Holds t T bound pps nets b first) fun t failed => ?_) (fun epin t got => ?_)
      fun _ _ => id
    · rw [← List.append_nil (first ++ extItems ndpll extPins)] at failed
      refine twp_mono (twp_nsimDpllCleanupExtPins alive failed) (fun _ u left => ?_)
        fun _ _ => False.elim
      rw [List.append_nil] at left
      exact left.below_of below
    · obtain ⟨after, lasts⟩ := got
      have length : (extPins ++ [epin]).length = extPins.length + 1 := by simp
      refine twp_mono (@ih t (extPins ++ [epin]) ?_ ?_) (fun pins u done => ?_)
        fun _ _ => id
      · rw [extItems_append, ← List.append_assoc, length]
        exact after
      · rw [length]
        exact lasts
      · refine ⟨?_, done.2⟩
        rw [done.1, length, List.length_cons]
        omega

theorem twp_nsimDpllPortPin {port : NsimDevPort} {j : ℕ} (alive : PpsAt T pps)
    (holds : Holds s T bound pps nets bound items) (present : port.ns ∈ nets)
    (lasts : s.pinIdsLast (portPinKey j :: keys)) :
    twp (nsimDpllPortPin pps
        (NSIM_DPLL_EXT_PIN_BASE + UInt32.ofNat NSIM_DPLL_NUM_EXT_PINS + UInt32.ofNat j) port)
      (fun npin t => npin.ns = port.ns ∧ bound ≤ npin.addr ∧
        Holds t T (npin.addr + 1) pps nets (npin.addr + 1) (items ++ [portItem (npin, j)]) ∧
        t.pinIdsLast keys)
      (fun _ t => Holds t T bound pps nets bound items) s := by
  have next := holds.table.bound
  unfold nsimDpllPortPin
  rw [twp_bind]
  refine (total_kzalloc 1 s).twp (wp_kzalloc (fun faults => ?_) fun faults => ?_)
  · have grown := holds.grown 1 faults
    obtain ⟨netdev, live⟩ := grown.pins.netdevs port.ns present
    rw [twp_bind, twp_get, live]
    dsimp only
    rw [twp_bind]
    refine twp_mono (twp_nsimDpllPin grown alive next lasts) (fun pin t got => ?_)
      fun _ t failed => failed.weaken (next.trans (Nat.le_succ _))
    rw [twp_bind]
    refine twp_mono (twp_dpllNetdevPinAssign got.1 present pin) (fun _ u done => ?_)
      fun _ _ => False.elim
    exact ⟨rfl, next, done.1, (pinIdsLast_of_frame done.2).trans got.2⟩
  · exact holds.of_ntfFrame ⟨_, faults, rfl⟩

theorem twp_nsimDpllPortPins {ports : List NsimDevPort} {portPins : List NsimDpllPin}
    {bound₀ : Ptr} (alive : PpsAt T pps)
    (holds : Holds s T bound pps nets bound (first ++ portItems portPins)) (le : bound₀ ≤ bound)
    (below : ∀ e ∈ first, e.2.priv < b) (assigned : ∀ npin ∈ portPins, npin.ns ∈ nets)
    (present : ∀ port ∈ ports, nsimDevPortIsPf port → port.ns ∈ nets)
    (lasts : s.pinIdsLast
      ((List.range' portPins.length (ports.filter nsimDevPortIsPf).length).map portPinKey)) :
    twp (nsimDpllPortPins pps (NSIM_DPLL_EXT_PIN_BASE + UInt32.ofNat NSIM_DPLL_NUM_EXT_PINS +
        UInt32.ofNat portPins.length) portPins ports)
      (fun pins t => (∀ npin ∈ pins, npin.ns ∈ nets) ∧
        ∃ bound', bound₀ ≤ bound' ∧ Holds t T bound' pps nets bound' (first ++ portItems pins))
      (fun _ t => Holds t T bound₀ pps nets b first) s := by
  induction ports generalizing portPins s bound with
  | nil => exact ⟨assigned, bound, le, holds⟩
  | cons port ports ih =>
    have rest : ∀ p ∈ ports, nsimDevPortIsPf p → p.ns ∈ nets := fun p mem =>
      present p (List.mem_cons_of_mem _ mem)
    rw [nsimDpllPortPins]
    split
    · rename_i pf
      rw [List.filter_cons_of_pos pf, List.length_cons, List.range'_succ, List.map_cons] at lasts
      rw [twp_bind]
      refine twp_mono (twp_unwind_of
        (twp_nsimDpllPortPin alive holds (present port List.mem_cons_self pf) lasts)
        (I := fun t => Holds t T bound₀ pps nets b first) fun t failed => ?_)
        (fun npin t got => ?_) fun _ _ => id
      · rw [← List.append_nil (first ++ portItems portPins)] at failed
        refine twp_mono (twp_nsimDpllCleanupPortPins alive assigned failed) (fun _ u left => ?_)
          fun _ _ => False.elim
        rw [List.append_nil] at left
        exact (left.below_of below).weaken le
      · obtain ⟨own, above, after, lasts⟩ := got
        have length : (portPins ++ [npin]).length = portPins.length + 1 := by simp
        have assigned' : ∀ p ∈ portPins ++ [npin], p.ns ∈ nets := by
          intro p mem
          rcases List.mem_append.1 mem with old | new
          · exact assigned p old
          · rw [List.mem_singleton.1 new, own]
            exact present port List.mem_cons_self pf
        rw [List.append_assoc, ← portItems_append] at after
        rw [← length] at lasts
        have next := ih after (le.trans (above.trans (Nat.le_succ _))) assigned' rest lasts
        rwa [length, UInt32.ofNat_add, ← UInt32.add_assoc] at next
    · rename_i vf
      rw [List.filter_cons_of_neg vf] at lasts
      exact ih holds le assigned rest lasts

end Pins

end Netdevsim
