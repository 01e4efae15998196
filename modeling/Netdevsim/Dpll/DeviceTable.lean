import Netdevsim.Dpll.PinFrame

/-!
# The devices of the core as a table

Abstractly the core is a table that gives, for each clock id, device index and module, the device's
address, how many references there are to it and by whom it is registered.  A core that represents
a table goes on to do so: each operation on a device is the obvious update of the table, and the
operations on pins leave the table alone.
-/

namespace Netdevsim

open Program

/-! ## The table -/

/-- What identifies a device for its users. -/
structure DpllKey where
  clockId : UInt64
  deviceIdx : UInt32
  module : Ptr
  deriving DecidableEq, Repr

def DpllDevice.key (d : DpllDevice) : DpllKey := ⟨d.clockId, d.deviceIdx, d.module⟩

/-- The device of a key.  Without references there is none, and the other two fields mean
nothing. -/
structure DeviceEntry where
  addr : Ptr
  refs : ℕ
  regs : List DpllDeviceRegistration
  deriving DecidableEq, Repr

abbrev DeviceTable := DpllKey → DeviceEntry

/-- The core has exactly the devices of the table, and hands out addresses from `bound` on. -/
structure Represents (s : KernelState) (T : DeviceTable) (bound : Ptr) : Prop where
  /-- Every device in the array is the one of its key. -/
  listed : ∀ e ∈ s.deviceXa.entries, ∃ d, s.device e.value = some d ∧ d.id = e.index ∧
    0 < (T d.key).refs ∧ (T d.key).addr = e.value
  /-- Every device of the table is in the array, marked if it is registered. -/
  present : ∀ key, 0 < (T key).refs → ∃ e ∈ s.deviceXa.entries, e.value = (T key).addr ∧
    (e.mark ↔ (T key).regs ≠ []) ∧ ∃ d, s.device e.value = some d ∧ d.key = key ∧
      d.refcount = (T key).refs ∧ d.registrationList = (T key).regs
  fresh : ∀ p d, s.device p = some d → p < s.nextPtr
  bound : bound ≤ s.nextPtr

/-- The table after the device of a key got one reference more, at the given address if it is
new. -/
def DeviceTable.get (T : DeviceTable) (key : DpllKey) (addr : Ptr) : DeviceTable :=
  Function.update T key
    ⟨addr, (T key).refs + 1, if (T key).refs = 0 then [] else (T key).regs⟩

def DeviceTable.put (T : DeviceTable) (key : DpllKey) : DeviceTable :=
  Function.update T key ⟨(T key).addr, (T key).refs - 1, (T key).regs⟩

def DeviceTable.register (T : DeviceTable) (key : DpllKey) (reg : DpllDeviceRegistration) :
    DeviceTable :=
  Function.update T key ⟨(T key).addr, (T key).refs, (T key).regs ++ [reg]⟩

def DeviceTable.unregister (T : DeviceTable) (key : DpllKey) (reg : DpllDeviceRegistration) :
    DeviceTable :=
  Function.update T key ⟨(T key).addr, (T key).refs, (T key).regs.erase reg⟩

/-- The tables differ at most in what is written for keys without a device. -/
def DeviceTable.Same (T T' : DeviceTable) : Prop :=
  ∀ key, T' key = T key ∨ ((T key).refs = 0 ∧ (T' key).refs = 0)

namespace Represents

variable {s t : KernelState} {T T' : DeviceTable} {bound : Ptr}

theorem of_frame (rep : Represents s T bound) (within : pinFrame.rel s t) :
    Represents t T bound := by
  obtain ⟨device, deviceXa, next⟩ := within
  have same : ∀ p d, s.device p = some d → ∃ d', t.device p = some d' ∧ d'.bare = d.bare := by
    intro p d live
    have := device p
    rw [live, Option.map_some, Option.map_eq_some_iff] at this
    exact this
  refine ⟨?_, ?_, ?_, rep.bound.trans next⟩
  · rw [deviceXa]
    intro e mem
    obtain ⟨d, live, id, rest⟩ := rep.listed e mem
    obtain ⟨d', live', bare⟩ := same _ d live
    have key : d'.key = d.key := by
      rw [show d'.key = d'.bare.key from rfl, bare]
      rfl
    refine ⟨d', live', (congrArg DpllDevice.id bare).trans id, ?_⟩
    rw [key]
    exact rest
  · rw [deviceXa]
    intro key positive
    obtain ⟨e, mem, addr, mark, d, live, dkey, refs, regs⟩ := rep.present key positive
    obtain ⟨d', live', bare⟩ := same _ d live
    refine ⟨e, mem, addr, mark, d', live', ?_, (congrArg DpllDevice.refcount bare).trans refs,
      (congrArg DpllDevice.registrationList bare).trans regs⟩
    rw [← dkey, show d'.key = d'.bare.key from rfl, bare]
    rfl
  · intro p d' live'
    have back := (device p).symm
    rw [live', Option.map_some, Option.map_eq_some_iff] at back
    obtain ⟨d, live, -⟩ := back
    exact (rep.fresh p d live).trans_le next

theorem congr (rep : Represents s T bound) (same : T.Same T') : Represents s T' bound := by
  refine ⟨?_, ?_, rep.fresh, rep.bound⟩
  · intro e mem
    obtain ⟨d, live, id, positive, addr⟩ := rep.listed e mem
    rcases same d.key with eq | ⟨zero, -⟩
    · rw [← eq] at positive addr
      exact ⟨d, live, id, positive, addr⟩
    · omega
  · intro key positive
    rcases same key with eq | ⟨-, zero⟩
    · rw [eq] at positive ⊢
      exact rep.present key positive
    · omega

/-- The entry of a device's address is at the device's id. -/
theorem index_eq (rep : Represents s T bound) {e : XEntry Ptr} {d : DpllDevice}
    (mem : e ∈ s.deviceXa.entries) (live : s.device e.value = some d) : e.index = d.id := by
  obtain ⟨d', live', id, -⟩ := rep.listed e mem
  rw [live] at live'
  cases live'
  exact id.symm

/-- Devices with different keys have different addresses and different ids. -/
theorem apart {e e' : XEntry Ptr} {d d' : DpllDevice}
    (mem : e ∈ s.deviceXa.entries) (live : s.device e.value = some d)
    (mem' : e' ∈ s.deviceXa.entries) (live' : s.device e'.value = some d')
    (differ : d.key ≠ d'.key) : e.value ≠ e'.value ∧ e.index ≠ e'.index := by
  constructor
  · intro same
    rw [same, live'] at live
    cases live
    exact differ rfl
  · intro same
    rw [XArray.ext_index mem mem' same, live'] at live
    cases live
    exact differ rfl

/-- The entry of a live device of the table. -/
theorem entry (rep : Represents s T bound) {d : DpllDevice} {p : Ptr}
    (positive : 0 < (T d.key).refs) (addr : (T d.key).addr = p) :
    ∃ e ∈ s.deviceXa.entries, e.value = p ∧ (e.mark ↔ (T d.key).regs ≠ []) := by
  obtain ⟨e, mem, value, mark, -⟩ := rep.present d.key positive
  exact ⟨e, mem, value.trans addr, mark⟩

/-- A change of the device of a key, mark included, that keeps its identity. -/
theorem change (rep : Represents s T bound) {d : DpllDevice} (d' : DpllDevice) {p : Ptr}
    (positive : 0 < (T d.key).refs) (addr : (T d.key).addr = p) (live : s.device p = some d)
    (id : d'.id = d.id) (key : d'.key = d.key) (refs : 0 < d'.refcount) (mark : Bool)
    (marked : mark ↔ d'.registrationList ≠ []) :
    Represents { s with
        device := Function.update s.device p (some d')
        deviceXa := s.deviceXa.setMark d.id mark }
      (Function.update T d.key ⟨p, d'.refcount, d'.registrationList⟩) bound := by
  obtain ⟨own, ownMem, rfl, -⟩ := rep.entry positive addr
  have ownIndex := rep.index_eq ownMem live
  have setOwn : ∀ e ∈ s.deviceXa.entries, e.value = own.value → e.index = d.id := by
    intro e mem value
    rw [← value] at live
    exact rep.index_eq mem live
  refine ⟨?_, ?_, ?_, rep.bound⟩
  · intro e mem
    obtain ⟨e₀, mem₀, rfl⟩ := XArray.mem_setMark.1 mem
    obtain ⟨d₀, live₀, id₀, positive₀, addr₀⟩ := rep.listed e₀ mem₀
    have value : (if e₀.index = d.id then { e₀ with mark } else e₀).value = e₀.value := by
      split <;> rfl
    have index : (if e₀.index = d.id then { e₀ with mark } else e₀).index = e₀.index := by
      split <;> rfl
    rw [value, index]
    show ∃ d₁, Function.update s.device own.value (some d') e₀.value = some d₁ ∧ _
    by_cases here : e₀.value = own.value
    · rw [here, Function.update_self]
      refine ⟨d', rfl, id.trans (setOwn e₀ mem₀ here).symm, ?_⟩
      rw [key, Function.update_self]
      exact ⟨refs, rfl⟩
    · rw [Function.update_of_ne here]
      refine ⟨d₀, live₀, id₀, ?_⟩
      rw [Function.update_of_ne]
      · exact ⟨positive₀, addr₀⟩
      · intro same
        rw [same, addr] at addr₀
        exact here addr₀.symm
  · intro other
    by_cases own' : other = d.key
    · subst own'
      rw [Function.update_self]
      intro _
      refine ⟨{ own with mark }, ?_, rfl, marked, d', ?_, key, rfl, rfl⟩
      · refine XArray.mem_setMark.2 ⟨own, ownMem, ?_⟩
        rw [if_pos ownIndex]
      · exact Function.update_self ..
    · rw [Function.update_of_ne own']
      intro positive₀
      obtain ⟨e, mem, value, mark, d₀, live₀, key₀, refs₀, regs₀⟩ := rep.present other positive₀
      obtain ⟨valueNe, indexNe⟩ := apart mem live₀ ownMem live (by rw [key₀]; exact own')
      refine ⟨e, ?_, value, mark, d₀, ?_, key₀, refs₀, regs₀⟩
      · refine XArray.mem_setMark.2 ⟨e, mem, ?_⟩
        rw [if_neg (by rw [← ownIndex]; exact indexNe)]
      · exact (Function.update_of_ne valueNe ..).trans live₀
  · intro p d₀ live₀
    by_cases here : p = own.value
    · subst here
      exact rep.fresh _ _ live
    · exact rep.fresh p d₀ ((Function.update_of_ne here ..).symm.trans live₀)

/-- The device of a key goes away. -/
theorem remove (rep : Represents s T bound) {d : DpllDevice} {p : Ptr}
    (positive : 0 < (T d.key).refs) (addr : (T d.key).addr = p) (live : s.device p = some d) :
    Represents { s with
        deviceXa := s.deviceXa.erase d.id
        device := Function.update s.device p none }
      (Function.update T d.key ⟨p, 0, (T d.key).regs⟩) bound := by
  obtain ⟨own, ownMem, rfl, -⟩ := rep.entry positive addr
  have ownIndex := rep.index_eq ownMem live
  refine ⟨?_, ?_, ?_, rep.bound⟩
  · intro e mem
    obtain ⟨mem, index⟩ := XArray.mem_erase.1 mem
    obtain ⟨d₀, live₀, id₀, positive₀, addr₀⟩ := rep.listed e mem
    have differ : e.value ≠ own.value := by
      intro same
      rw [same, live] at live₀
      cases live₀
      exact index id₀.symm
    refine ⟨d₀, (Function.update_of_ne differ ..).trans live₀, id₀, ?_⟩
    rw [Function.update_of_ne]
    · exact ⟨positive₀, addr₀⟩
    · intro same
      rw [same, addr] at addr₀
      exact differ addr₀.symm
  · intro other
    by_cases own' : other = d.key
    · subst own'
      rw [Function.update_self]
      exact fun none => absurd none (lt_irrefl 0)
    · rw [Function.update_of_ne own']
      intro positive₀
      obtain ⟨e, mem, value, mark, d₀, live₀, key₀, rest⟩ := rep.present other positive₀
      obtain ⟨valueNe, indexNe⟩ := apart mem live₀ ownMem live (by rw [key₀]; exact own')
      refine ⟨e, XArray.mem_erase.2 ⟨mem, by rw [← ownIndex]; exact indexNe⟩, value, mark, d₀, ?_,
        key₀, rest⟩
      exact (Function.update_of_ne valueNe ..).trans live₀
  · intro p d₀ live₀
    by_cases here : p = own.value
    · subst here
      exact rep.fresh _ _ live
    · exact rep.fresh p d₀ ((Function.update_of_ne here ..).symm.trans live₀)

/-- A new device at a free id and an unused address. -/
theorem insert (rep : Represents s T bound) (d : DpllDevice) {p : Ptr} (cursor : XArray.Cursor)
    (absent : (T d.key).refs = 0) (handedOut : p < s.nextPtr) (unused : s.device p = none)
    (free : ∀ e ∈ s.deviceXa.entries, e.index ≠ d.id) (refs : 0 < d.refcount)
    (unregistered : d.registrationList = []) :
    Represents { s with
        deviceXa := s.deviceXa.store d.id p
        deviceXaId := cursor
        device := Function.update s.device p (some d) }
      (Function.update T d.key ⟨p, d.refcount, d.registrationList⟩) bound := by
  have valueNe : ∀ {e : XEntry Ptr} {d₀ : DpllDevice}, s.device e.value = some d₀ →
      e.value ≠ p := by
    intro e d₀ live same
    rw [same, unused] at live
    cases live
  refine ⟨?_, ?_, ?_, rep.bound⟩
  · intro e mem
    rcases XArray.mem_store.1 mem with rfl | ⟨mem, -⟩
    · refine ⟨d, Function.update_self .., rfl, ?_⟩
      rw [Function.update_self]
      exact ⟨refs, rfl⟩
    · obtain ⟨d₀, live₀, id₀, positive₀, addr₀⟩ := rep.listed e mem
      refine ⟨d₀, (Function.update_of_ne (valueNe live₀) ..).trans live₀, id₀, ?_⟩
      rw [Function.update_of_ne]
      · exact ⟨positive₀, addr₀⟩
      · intro same
        rw [same] at positive₀
        omega
  · intro other
    by_cases own' : other = d.key
    · subst own'
      rw [Function.update_self]
      intro _
      refine ⟨⟨d.id, p, false⟩, XArray.mem_store.2 (.inl rfl), rfl, ?_, d, Function.update_self ..,
        rfl, rfl, rfl⟩
      simp [unregistered]
    · rw [Function.update_of_ne own']
      intro positive₀
      obtain ⟨e, mem, value, mark, d₀, live₀, rest⟩ := rep.present other positive₀
      refine ⟨e, XArray.mem_store.2 (.inr ⟨mem, free e mem⟩), value, mark, d₀, ?_, rest⟩
      exact (Function.update_of_ne (valueNe live₀) ..).trans live₀
  · intro q d₀ live₀
    by_cases here : q = p
    · exact here ▸ handedOut
    · exact rep.fresh q d₀ ((Function.update_of_ne here ..).symm.trans live₀)

/-- What is at the address of a device of the table. -/
theorem at_addr (rep : Represents s T bound) {key : DpllKey} {d : DpllDevice}
    (positive : 0 < (T key).refs) (live : s.device (T key).addr = some d) :
    d.key = key ∧ d.refcount = (T key).refs ∧ d.registrationList = (T key).regs := by
  obtain ⟨e, _, addr, _, d', live', rest⟩ := rep.present key positive
  rw [addr, live] at live'
  cases live'
  exact rest

/-- A change of the device of a key that need not be marked differently. -/
theorem change' (rep : Represents s T bound) {d : DpllDevice} (d' : DpllDevice) {p : Ptr}
    (positive : 0 < (T d.key).refs) (addr : (T d.key).addr = p) (live : s.device p = some d)
    (id : d'.id = d.id) (key : d'.key = d.key) (refs : 0 < d'.refcount)
    (registered : d'.registrationList ≠ [] ↔ d.registrationList ≠ []) :
    Represents { s with device := Function.update s.device p (some d') }
      (Function.update T d.key ⟨p, d'.refcount, d'.registrationList⟩) bound := by
  obtain ⟨e, mem, value, mark⟩ := rep.entry positive addr
  have index := rep.index_eq mem (value ▸ live)
  have regs := (rep.at_addr positive (addr ▸ live)).2.2
  rw [← regs, ← registered] at mark
  have changed := rep.change d' positive addr live id key refs _ mark
  rw [← index, XArray.setMark_eq_self mem] at changed
  exact changed

end Represents

/-! ## The operations -/

section Operations

variable {s : KernelState} {T : DeviceTable} {bound : Ptr} {key : DpllKey} {dpll : Ptr}

/-- The search finds an address of a device with the key, if there is one. -/
theorem wp_dpllDeviceLookup {dplls : List Ptr} {Q : Option Ptr → KernelState → Prop}
    {E : Errno → KernelState → Prop}
    (found : ∀ p ∈ dplls, ∀ d, s.device p = some d → d.key = key → Q (some p) s)
    (missing : (∀ p ∈ dplls, ∀ d, s.device p = some d → d.key ≠ key) → Q none s) :
    wp (dpllDeviceLookup key.clockId key.deviceIdx key.module dplls) Q E s := by
  induction dplls with
  | nil => exact missing fun p mem => absurd mem List.not_mem_nil
  | cons p dplls ih =>
    rw [dpllDeviceLookup, wp_bind, wp_derefDevice]
    intro d live
    split
    · rename_i hit
      apply found p List.mem_cons_self d live
      obtain ⟨clockId, deviceIdx, module⟩ := hit
      rw [DpllDevice.key, clockId, deviceIdx, module]
    · rename_i miss
      apply ih fun q mem => found q (List.mem_cons_of_mem _ mem)
      intro others
      apply missing
      intro q mem d' live'
      rcases List.mem_cons.1 mem with rfl | mem
      · rw [live] at live'
        cases live'
        rintro rfl
        exact miss ⟨rfl, rfl, rfl⟩
      · exact others q mem d' live'

/-- An allocation fails, or lists a new device with one reference at a free index. -/
theorem wp_dpllDeviceAlloc_of {Q : Ptr → KernelState → Prop} {E : Errno → KernelState → Prop}
    (made : ∀ id deviceXaId faults, (∀ e ∈ s.deviceXa.entries, e.index ≠ id) →
      id ≤ XA_LIMIT_32B_MAX → Q s.nextPtr { s with
        nextPtr := s.nextPtr + 1
        faults
        deviceXa := s.deviceXa.store id s.nextPtr
        deviceXaId
        device := Function.update s.device s.nextPtr (some
          ⟨id, key.deviceIdx, key.clockId, key.module, 0, .empty, 1, []⟩) })
    (failed : ∀ e size faults, E e { s with nextPtr := s.nextPtr + size, faults }) :
    wp (dpllDeviceAlloc key.clockId key.deviceIdx key.module) Q E s := by
  unfold dpllDeviceAlloc
  rw [wp_bind]
  refine wp_kzalloc (fun faults => ?_) (failed _ 0)
  rw [wp_bind]
  refine wp_mayRunOut (fun faults => ?_) (failed _ 1)
  rw [wp_bind, wp_get]
  dsimp only
  split
  · exact failed _ 1 faults
  · rename_i alloc
    obtain ⟨free, rfl⟩ := XArray.allocCyclic_eq_some alloc
    exact made _ _ faults free (XArray.allocCyclic_le alloc)

/-- Getting a device counts a reference to the listed one with the key, or allocates it. -/
theorem wp_dpllDeviceGet_of {Q : Ptr → KernelState → Prop} {E : Errno → KernelState → Prop}
    (found : ∀ p ∈ s.deviceXa.values, ∀ d, s.device p = some d → d.key = key → Q p { s with
      device := Function.update s.device p (some { d with refcount := d.refcount + 1 }) })
    (missing : (∀ p ∈ s.deviceXa.values, ∀ d, s.device p = some d → d.key ≠ key) →
      wp (dpllDeviceAlloc key.clockId key.deviceIdx key.module) Q E s) :
    wp (dpllDeviceGet key.clockId key.deviceIdx key.module) Q E s := by
  unfold dpllDeviceGet
  rw [wp_bind, wp_get, wp_bind]
  refine wp_dpllDeviceLookup (fun p listed d live own => ?_) missing
  rw [wp_bind, wp_derefDevice]
  intro d' live'
  rw [live] at live'
  cases live'
  exact found p listed d live own

/-- Getting a device without references allocates it. -/
theorem wp_dpllDeviceAlloc (rep : Represents s T bound) (absent : (T key).refs = 0) :
    wp (dpllDeviceAlloc key.clockId key.deviceIdx key.module)
      (fun p t => Represents t (T.get key p) bound) (fun _ t => Represents t T bound) s := by
  have grown : ∀ size faults, Represents { s with nextPtr := s.nextPtr + size, faults } T bound :=
    fun size faults => rep.of_frame ⟨fun _ => rfl, rfl, Nat.le_add_right _ _⟩
  have unused : s.device s.nextPtr = none := by
    cases live : s.device s.nextPtr with
    | none => rfl
    | some d => exact absurd (rep.fresh _ d live) (lt_irrefl _)
  refine wp_dpllDeviceAlloc_of (fun id deviceXaId faults free _ => ?_) fun _ => grown
  have inserted := (grown 1 faults).insert
    ⟨id, key.deviceIdx, key.clockId, key.module, 0, .empty, 1, []⟩ deviceXaId absent
    (Nat.lt_succ_self _) unused free Nat.one_pos rfl
  rw [DeviceTable.get, if_pos absent, absent]
  exact inserted

theorem wp_dpllDeviceGet (rep : Represents s T bound) (key : DpllKey) :
    wp (dpllDeviceGet key.clockId key.deviceIdx key.module)
      (fun p t => Represents t (T.get key p) bound ∧ (0 < (T key).refs → p = (T key).addr))
      (fun _ t => Represents t T bound) s := by
  apply wp_dpllDeviceGet_of
  · intro p listed d live dkey
    obtain ⟨e, mem, rfl⟩ := XArray.mem_values.1 listed
    obtain ⟨d', live', -, positive, addr⟩ := rep.listed e mem
    rw [live] at live'
    cases live'
    subst dkey
    have := (rep.at_addr positive (addr ▸ live)).2
    have changed := rep.change' { d with refcount := d.refcount + 1 } positive addr live
      rfl rfl (Nat.succ_pos _) Iff.rfl
    refine ⟨?_, fun _ => addr.symm⟩
    rw [DeviceTable.get, if_neg positive.ne', ← this.1, ← this.2]
    exact changed
  · intro others
    have absent : (T key).refs = 0 := by
      by_contra nonzero
      obtain ⟨e, mem, -, -, d, live, dkey, -⟩ := rep.present key (Nat.pos_of_ne_zero nonzero)
      exact others e.value (XArray.mem_values.2 ⟨e, mem, rfl⟩) d live dkey
    apply wp_mono (wp_dpllDeviceAlloc rep absent) _ fun _ _ => id
    intro p t got
    exact ⟨got, fun positive => absurd absent positive.ne'⟩

theorem wp_dpllDevicePut (rep : Represents s T bound) (positive : 0 < (T key).refs)
    (addr : (T key).addr = dpll) :
    wp (dpllDevicePut dpll) (fun _ t => Represents t (T.put key) bound) (fun _ _ => False) s := by
  unfold dpllDevicePut
  rw [wp_bind, wp_derefDevice]
  intro d live
  obtain ⟨rfl, refs, regs⟩ := rep.at_addr positive (addr ▸ live)
  split
  · rename_i last
    rw [wp_modify, DeviceTable.put, ← refs, last]
    simp only [addr]
    exact rep.remove positive addr live
  · rename_i more
    rw [wp_setDevice, DeviceTable.put, ← refs]
    simp only [addr, ← regs]
    exact rep.change' { d with refcount := d.refcount - 1 } positive addr live rfl rfl
      (by show 0 < d.refcount - 1; omega) Iff.rfl

/-- A registration that passes the checks. -/
structure MayRegister (s : KernelState) (dpll : Ptr) (type : ℕ) (reg : DpllDeviceRegistration)
    (d : DpllDevice) : Prop where
  valid : ¬(reg.ops.addr = 0 ∨ ¬reg.ops.modeGet ∨ ¬reg.ops.lockStatusGet)
  known : ¬(type < DPLL_TYPE_PPS ∨ DPLL_TYPE_MAX < type)
  live : s.device dpll = some d
  new : reg ∉ d.registrationList

/-- A registration fails, or is added to those of the device, of which the first marks and
announces it. -/
theorem wp_dpllDeviceRegister_of {type : ℕ} {ops : DpllDeviceOps} {priv : Ptr}
    {Q : Unit → KernelState → Prop} {E : Errno → KernelState → Prop}
    (refused : ∀ e faults, E e { s with faults })
    (first : ∀ d faults, MayRegister s dpll type ⟨ops, priv⟩ d → faults <:+ s.faults →
      d.registrationList = [] → wp (dpllDeviceEventSend .create dpll) Q E { s with
        faults
        device := Function.update s.device dpll (some { d with
          type, registrationList := d.registrationList ++ [⟨ops, priv⟩] })
        deviceXa := s.deviceXa.setMark d.id true })
    (more : ∀ d faults, MayRegister s dpll type ⟨ops, priv⟩ d → faults <:+ s.faults →
      d.registrationList ≠ [] → Q () { s with
        faults
        device := Function.update s.device dpll (some { d with
          type, registrationList := d.registrationList ++ [⟨ops, priv⟩] }) }) :
    wp (dpllDeviceRegister dpll type ops priv) Q E s := by
  unfold dpllDeviceRegister
  rw [wp_bind, wp_failIf]
  refine ⟨fun _ => refused _ s.faults, fun valid => ?_⟩
  rw [wp_bind, wp_failIf]
  refine ⟨fun _ => refused _ s.faults, fun known => ?_⟩
  rw [wp_bind, wp_derefDevice]
  intro d live
  rw [wp_bind, wp_failIf]
  refine ⟨fun _ => refused _ s.faults, fun new => ?_⟩
  rw [wp_bind]
  refine wp_mayRunOut_suffix (fun faults suffix => ?_) (refused _)
  rw [wp_bind, wp_setDevice]
  split
  · rename_i only
    rw [wp_bind, wp_modify]
    exact first d faults ⟨valid, known, live, new⟩ suffix only
  · rename_i others
    exact more d faults ⟨valid, known, live, new⟩ suffix others

/-- A registration that succeeds is new. -/
theorem wp_dpllDeviceRegister {type : ℕ} {ops : DpllDeviceOps} {priv : Ptr}
    (rep : Represents s T bound) (positive : 0 < (T key).refs) (addr : (T key).addr = dpll) :
    wp (dpllDeviceRegister dpll type ops priv)
      (fun _ t => ⟨ops, priv⟩ ∉ (T key).regs ∧ Represents t (T.register key ⟨ops, priv⟩) bound)
      (fun _ t => Represents t T bound) s := by
  have keep : ∀ faults, Represents { s with faults } T bound := fun faults =>
    rep.of_frame ⟨fun _ => rfl, rfl, le_rfl⟩
  refine wp_dpllDeviceRegister_of (fun _ => keep) (fun d faults may _ _ => ?_)
    fun d faults may _ more => ?_
  all_goals
    obtain ⟨rfl, refs, regs⟩ := rep.at_addr positive (addr ▸ may.live)
    have new : ⟨ops, priv⟩ ∉ (T d.key).regs := regs ▸ may.new
    have table : T.register d.key ⟨ops, priv⟩ =
        Function.update T d.key ⟨dpll, d.refcount, d.registrationList ++ [⟨ops, priv⟩]⟩ := by
      rw [DeviceTable.register, refs, regs, addr]
    rw [table]
  · have changed := (keep faults).change
        { d with type, registrationList := d.registrationList ++ [⟨ops, priv⟩] } positive addr
      may.live rfl rfl (refs ▸ positive) true (by simp)
    apply (neverFails_dpllDeviceEventSend .create dpll).wp
    exact wp_mono ((keeps_dpllDeviceEventSend .create dpll).preserves (fun _ _ within rep =>
      Represents.of_frame rep within) changed) (fun _ t registered => ⟨new, registered⟩) fun _ _ => id
  · exact ⟨new, (keep faults).change'
        { d with type, registrationList := d.registrationList ++ [⟨ops, priv⟩] } positive addr
      may.live rfl rfl (refs ▸ positive) (by simp [more])⟩

theorem wp_dpllDeviceUnregister {ops : DpllDeviceOps} {priv : Ptr} (rep : Represents s T bound)
    (positive : 0 < (T key).refs) (addr : (T key).addr = dpll) :
    wp (dpllDeviceUnregister dpll ops priv)
      (fun _ t => Represents t (T.unregister key ⟨ops, priv⟩) bound) (fun _ _ => False) s := by
  unfold dpllDeviceUnregister
  rw [wp_bind]
  apply (neverFails_dpllDeviceEventSend .delete dpll).wp
  apply wp_mono ((keeps_dpllDeviceEventSend .delete dpll).preserves (fun _ _ within rep =>
    Represents.of_frame rep within) rep) _ fun _ _ => id
  intro _ t rep
  rw [wp_bind, wp_derefDevice]
  intro d live
  obtain ⟨rfl, refs, regs⟩ := rep.at_addr positive (addr ▸ live)
  have table : T.unregister d.key ⟨ops, priv⟩ =
      Function.update T d.key ⟨dpll, d.refcount, d.registrationList.erase ⟨ops, priv⟩⟩ := by
    rw [DeviceTable.unregister, refs, regs, addr]
  rw [table]
  split
  · rename_i registered
    dsimp only
    rw [wp_bind, wp_setDevice]
    split
    · rename_i last
      rw [wp_modify]
      exact rep.change
        { d with registrationList := d.registrationList.erase ⟨ops, priv⟩ } positive addr
        live rfl rfl (refs ▸ positive) false (by simp [last])
    · rename_i more
      exact rep.change'
        { d with registrationList := d.registrationList.erase ⟨ops, priv⟩ } positive addr
        live rfl rfl (refs ▸ positive)
        (iff_of_true more (List.ne_nil_of_mem registered))
  · rename_i other
    rw [wp_pure, List.erase_of_not_mem other, refs, regs, ← addr, Function.update_eq_self]
    exact rep

end Operations

end Netdevsim
