import Netdevsim.Kernel
import Netdevsim.Lib.BoundedMap
import Netdevsim.Lib.Runs
import Netdevsim.Lib.SlotMap

/-!
# Offloaded BPF maps

The device keeps an offloaded map in a table of two entries, whatever the map's own limit is.  A hash
map starts with an empty table.  An array map starts with a full one, and its keys stay.
-/

namespace Netdevsim

/-- The entries of the table (`ARRAY_SIZE(nmap->entry)`). -/
abbrev NSIM_BPF_MAX_KEYS : ℕ := 2

def BPF_ANY : UInt64 := 0
def BPF_NOEXIST : UInt64 := 1
def BPF_EXIST : UInt64 := 2

/-! ## Data -/

/-- The type of a map, `BPF_MAP_TYPE_*`. -/
inductive BpfMapType where
  | hash | array | other
  deriving DecidableEq, Repr

/-- `struct bpf_map`: what the driver reads of it. -/
structure BpfMap where
  mapType : BpfMapType
  keySize : UInt32
  valueSize : UInt32
  maxEntries : UInt32
  mapFlags : UInt32

abbrev BpfMap.Key (map : BpfMap) : Type := Vector UInt8 map.keySize.toNat
abbrev BpfMap.Value (map : BpfMap) : Type := Vector UInt8 map.valueSize.toNat

/-- `struct nsim_map_entry`: the contents of the memory that holds the key and of that which holds
the value, `none` for a NULL pointer. -/
structure NsimMapEntry (K V : Type) where
  key : Option K
  value : Option V
  deriving DecidableEq, Repr

/-- An entry after `memset`. -/
def NsimMapEntry.zero {K V : Type} : NsimMapEntry K V := ⟨none, none⟩

def NsimMapEntry.used {K V : Type} (e : NsimMapEntry K V) : Bool := e.key.isSome

/-- `struct nsim_bpf_bound_map`: its table. -/
abbrev NsimBpfBoundMap (K V : Type) : Type := Fin NSIM_BPF_MAX_KEYS → NsimMapEntry K V

/-- What the two `kmalloc` of an element return: memory with any contents, or `none`. -/
structure ElemMemory (K V : Type) where
  key : Option K
  value : Option V

/-! ## Operations -/

section Operations

variable {K V : Type} [DecidableEq K]

/-- `nsim_map_key_match`. -/
def nsimMapKeyMatch (e : NsimMapEntry K V) (key : K) : Bool := e.key = some key

/-- `nsim_map_key_find`, with `none` for `-ENOENT`. -/
def nsimMapKeyFind (nmap : NsimBpfBoundMap K V) (key : K) : Option (Fin NSIM_BPF_MAX_KEYS) :=
  Fin.find? fun i => nsimMapKeyMatch (nmap i) key

omit [DecidableEq K] in
/-- `nsim_map_alloc_elem`. -/
def nsimMapAllocElem (nmap : NsimBpfBoundMap K V) (idx : Fin NSIM_BPF_MAX_KEYS)
    (mem : ElemMemory K V) : Except Errno Unit × NsimBpfBoundMap K V :=
  match mem.key with
  | none => (.error .ENOMEM, Function.update nmap idx { nmap idx with key := none })
  | some key =>
    match mem.value with
    -- The key is freed again.
    | none => (.error .ENOMEM, Function.update nmap idx ⟨none, none⟩)
    | some value => (.ok (), Function.update nmap idx ⟨some key, some value⟩)

/-- Where `nsim_map_get_next_key` starts to search. -/
def nextKeyIdx (nmap : NsimBpfBoundMap K V) (key : Option K) : ℕ :=
  match key.bind (nsimMapKeyFind nmap) with
  | some idx => idx + 1
  | none => 0

/-- `nsim_map_get_next_key`. -/
def nsimMapGetNextKey (nmap : NsimBpfBoundMap K V) (key : Option K) : Except Errno K :=
  let next := Slots.nextUsed NsimMapEntry.used nmap (nextKeyIdx nmap key)
  match next.bind fun idx => (nmap idx).key with
  | some nextKey => .ok nextKey
  | none => .error .ENOENT

/-- `nsim_map_lookup_elem`: the value that is copied, `none` for a copy from NULL. -/
def nsimMapLookupElem (nmap : NsimBpfBoundMap K V) (key : K) : Except Errno (Option V) :=
  match nsimMapKeyFind nmap key with
  | some idx => .ok (nmap idx).value
  | none => .error .ENOENT

omit [DecidableEq K] in
/-- The two `memcpy` to the memory of an entry. -/
def copyElem (nmap : NsimBpfBoundMap K V) (idx : Fin NSIM_BPF_MAX_KEYS) (key : K) (value : V) :
    NsimBpfBoundMap K V :=
  Function.update nmap idx ⟨(nmap idx).key.map fun _ => key, (nmap idx).value.map fun _ => value⟩

/-- `nsim_map_update_elem`. -/
def nsimMapUpdateElem (nmap : NsimBpfBoundMap K V) (key : K) (value : V) (flags : UInt64)
    (mem : ElemMemory K V) : Except Errno Unit × NsimBpfBoundMap K V :=
  match nsimMapKeyFind nmap key with
  | some idx =>
    if flags = BPF_NOEXIST then (.error .EEXIST, nmap)
    else (.ok (), copyElem nmap idx key value)
  | none =>
    if flags = BPF_EXIST then (.error .ENOENT, nmap)
    else match Slots.firstFree NsimMapEntry.used nmap with
      | none => (.error .E2BIG, nmap)
      | some idx =>
        match nsimMapAllocElem nmap idx mem with
        | (.error e, nmap) => (.error e, nmap)
        | (.ok (), nmap) => (.ok (), copyElem nmap idx key value)

/-- `nsim_map_delete_elem`. -/
def nsimMapDeleteElem (type : BpfMapType) (nmap : NsimBpfBoundMap K V) (key : K) :
    Except Errno Unit × NsimBpfBoundMap K V :=
  if type = .array then (.error .EINVAL, nmap)
  else match nsimMapKeyFind nmap key with
    | some idx => (.ok (), Function.update nmap idx .zero)
    | none => (.error .ENOENT, nmap)

end Operations

/-- A 32-bit number stored at the start of a memory, as a little-endian machine stores it. -/
def storeU32 {n : ℕ} (x : UInt32) (mem : Vector UInt8 n) : Vector UInt8 n :=
  Vector.ofFn fun j => if j.val < 4 then (x >>> (8 * UInt32.ofNat j)).toUInt8 else mem[j]

/-- An element of a new array map: its index is the key, and the value is zeroed. -/
def nsimBpfArrayElem {map : BpfMap}
    (mem : Fin NSIM_BPF_MAX_KEYS → ElemMemory map.Key map.Value)
    (nmap : NsimBpfBoundMap map.Key map.Value) (i : Fin NSIM_BPF_MAX_KEYS) :
    Except Errno (NsimBpfBoundMap map.Key map.Value) :=
  match nsimMapAllocElem nmap i (mem i) with
  | (.error e, _) => .error e
  | (.ok (), nmap) => .ok (Function.update nmap i
      ⟨(nmap i).key.map (storeU32 (UInt32.ofNat i)),
        (nmap i).value.map fun _ => Vector.replicate _ 0⟩)

/-- `nsim_bpf_map_alloc`; `priv` says whether there is memory for the table, and `mem` what the
allocations of the elements return. -/
def nsimBpfMapAlloc (map : BpfMap) (priv : Bool)
    (mem : Fin NSIM_BPF_MAX_KEYS → ElemMemory map.Key map.Value) :
    Except Errno (NsimBpfBoundMap map.Key map.Value) :=
  if map.mapType ≠ .array ∧ map.mapType ≠ .hash then .error .EINVAL
  else if NSIM_BPF_MAX_KEYS < map.maxEntries.toNat then .error .ENOMEM
  else if map.mapFlags ≠ 0 then .error .EINVAL
  else if !priv then .error .ENOMEM
  else if map.mapType = .array then
    (List.finRange NSIM_BPF_MAX_KEYS).foldlM (nsimBpfArrayElem mem) fun _ => .zero
  else .ok fun _ => .zero

/-! ## What the map is for -/

/-- The update of a finite map with room for `cap` keys; `memory` says whether there is memory for
another element. -/
def absUpdateElem {K V : Type} [DecidableEq K] {cap : ℕ} (m : BoundedMap K V cap) (key : K)
    (value : V) (flags : UInt64) (memory : Bool) : Except Errno Unit × BoundedMap K V cap :=
  if present : key ∈ m.entries then
    if flags = BPF_NOEXIST then (.error .EEXIST, m) else (.ok (), m.set key value (.inl present))
  else if flags = BPF_EXIST then (.error .ENOENT, m)
  else if room : m.entries.keys.card < cap then
    if memory then (.ok (), m.set key value (.inr room)) else (.error .ENOMEM, m)
  else (.error .E2BIG, m)

/-- The deletion of a key; the keys of an array are fixed. -/
def absDeleteElem {K V : Type} [DecidableEq K] {cap : ℕ} (type : BpfMapType)
    (m : BoundedMap K V cap) (key : K) : Except Errno Unit × BoundedMap K V cap :=
  if type = .array then (.error .EINVAL, m)
  else if key ∈ m.entries then (.ok (), m.erase key)
  else (.error .ENOENT, m)

/-- The value of a key. -/
def absLookupElem {K V : Type} [DecidableEq K] {cap : ℕ} (m : BoundedMap K V cap)
    (key : K) : Except Errno V :=
  match m.entries.lookup key with
  | some value => .ok value
  | none => .error .ENOENT

/-- The key of an array for an index. -/
def BpfMap.indexKey (map : BpfMap) (i : ℕ) : map.Key :=
  storeU32 (UInt32.ofNat i) (Vector.replicate _ 0)

/-- The keys of a new map. -/
def BpfMap.firstKeys (map : BpfMap) : Finset map.Key :=
  if map.mapType = .array then (Finset.range map.maxEntries.toNat).image map.indexKey else ∅

theorem BpfMap.card_firstKeys (map : BpfMap) : map.firstKeys.card ≤ map.maxEntries.toNat := by
  unfold firstKeys
  split_ifs
  · exact Finset.card_image_le.trans_eq (Finset.card_range _)
  · simp

/-- A new map: an array has all its indices as keys, with zeroed values. -/
def BpfMap.new (map : BpfMap) : BoundedMap map.Key map.Value map.maxEntries.toNat :=
  .const map.firstKeys (Vector.replicate _ 0) map.card_firstKeys

/-! ## Runs -/

/-- A call to the map. -/
inductive BpfMapCall (K V : Type) where
  | update (key : K) (value : V) (flags : UInt64) (mem : ElemMemory K V)
  | lookup (key : K)
  | delete (key : K)
  | getNextKey (key : Option K)

/-- The table of a map, and beside it the finite map that it stands for. -/
structure BpfMapRun (map : BpfMap) where
  nmap : NsimBpfBoundMap map.Key map.Value
  abs : BoundedMap map.Key map.Value map.maxEntries.toNat

variable {map : BpfMap}

/-- Both elements of the memory were allocated. -/
def ElemMemory.both {K V : Type} (mem : ElemMemory K V) : Bool :=
  mem.key.isSome && mem.value.isSome

/-- A call is made to both. -/
def bpfMapStep (s : BpfMapRun map) : BpfMapCall map.Key map.Value → BpfMapRun map
  | .update key value flags mem =>
    ⟨(nsimMapUpdateElem s.nmap key value flags mem).2,
      (absUpdateElem s.abs key value flags mem.both).2⟩
  | .delete key =>
    ⟨(nsimMapDeleteElem map.mapType s.nmap key).2, (absDeleteElem map.mapType s.abs key).2⟩
  | .lookup _ | .getNextKey _ => s

/-- Every run of an accepted map. -/
def bpfMapSystem (map : BpfMap) :
    TransitionSystem (BpfMapRun map) (BpfMapCall map.Key map.Value) where
  init s := (∃ priv mem, nsimBpfMapAlloc map priv mem = .ok s.nmap) ∧ s.abs = map.new
  step s call t := t = bpfMapStep s call

/-- The two results are the same, and a table is left alone by a call that fails. -/
def SameResult {K V α : Type} {cap : ℕ} (nmap : NsimBpfBoundMap K V)
    (concrete : Except Errno α × NsimBpfBoundMap K V)
    (abstract : Except Errno α × BoundedMap K V cap) : Prop :=
  concrete.1 = abstract.1 ∧ ∀ e, concrete.1 = .error e → concrete.2 = nmap

/-- The results of a call are those of the finite map. -/
def AnswersLike (s : BpfMapRun map) : BpfMapCall map.Key map.Value → Prop
  | .update key value flags mem =>
    SameResult s.nmap (nsimMapUpdateElem s.nmap key value flags mem)
      (absUpdateElem s.abs key value flags mem.both)
  | .delete key =>
    SameResult s.nmap (nsimMapDeleteElem map.mapType s.nmap key)
      (absDeleteElem map.mapType s.abs key)
  | .lookup key => nsimMapLookupElem s.nmap key = (absLookupElem s.abs key).map some
  | .getNextKey key => ∀ next, nsimMapGetNextKey s.nmap key = .ok next → next ∈ s.abs.entries

/-- The keys that `nsim_map_get_next_key` returns when each one is asked for the next. -/
inductive IteratesTo {K V : Type} [DecidableEq K] (nmap : NsimBpfBoundMap K V) :
    Option K → List K → Prop
  | stop {key : Option K} : nsimMapGetNextKey nmap key = .error .ENOENT → IteratesTo nmap key []
  | next {key : Option K} {k : K} {ks : List K} : nsimMapGetNextKey nmap key = .ok k →
      IteratesTo nmap (some k) ks → IteratesTo nmap key (k :: ks)

/-- Iterating from no key yields every present key exactly once. -/
def IteratesOnce (s : BpfMapRun map) : Prop :=
  ∃ ks, IteratesTo s.nmap none ks ∧ ks.Nodup ∧ ∀ k, k ∈ ks ↔ k ∈ s.abs.entries

/-- The table has no room for another key when the map has none.  A call that inserts no key always
fits. -/
def InsertFits (s : BpfMapRun map) : BpfMapCall map.Key map.Value → Prop
  | .update key _ flags _ => nsimMapKeyFind s.nmap key = none → flags ≠ BPF_EXIST →
      map.maxEntries.toNat ≤ Slots.count NsimMapEntry.used s.nmap →
      Slots.count NsimMapEntry.used s.nmap = NSIM_BPF_MAX_KEYS
  | _ => True

/-- An array has as many elements as the table. -/
def ArrayFillsTable (map : BpfMap) : Prop :=
  map.mapType = .array → map.maxEntries.toNat = NSIM_BPF_MAX_KEYS

/-! ## The finite map of a table -/

section MapRepresents

variable {K V : Type} {nmap : NsimBpfBoundMap K V} {m : Finmap fun _ : K => V}
  {i : Fin NSIM_BPF_MAX_KEYS} {key : K} {value : V}

/-- The key and the value of an entry. -/
def NsimMapEntry.pair (e : NsimMapEntry K V) : Option (K × V) :=
  e.key.bind fun k => e.value.map fun v => (k, v)

theorem NsimMapEntry.pair_eq_some {e : NsimMapEntry K V} :
    e.pair = some (key, value) ↔ e.key = some key ∧ e.value = some value := by
  unfold pair
  cases e.key <;> cases e.value <;> simp

theorem pair_update (e : NsimMapEntry K V) :
    (fun j => (Function.update nmap i e j).pair) =
      Function.update (fun j => (nmap j).pair) i e.pair := by
  funext j
  by_cases at_j : j = i
  · rw [at_j, Function.update_self, Function.update_self]
  · rw [Function.update_of_ne at_j, Function.update_of_ne at_j]

variable [DecidableEq K]

/-- The entries in use are those of the map, each with memory for a key and for a value. -/
structure MapRepresents (nmap : NsimBpfBoundMap K V) (m : Finmap fun _ : K => V) : Prop where
  whole : ∀ i, (nmap i).key.isSome = (nmap i).value.isSome
  stores : Slots.Stores (fun i => (nmap i).pair) m

namespace MapRepresents

theorem used_eq (rep : MapRepresents nmap m) (i : Fin NSIM_BPF_MAX_KEYS) :
    (nmap i).used = (nmap i).pair.isSome := by
  have whole := rep.whole i
  cases e : nmap i with
  | mk k v =>
    rw [e] at whole
    unfold NsimMapEntry.used NsimMapEntry.pair
    cases k <;> cases v <;> simp_all

theorem pair_of_key (rep : MapRepresents nmap m) (own : (nmap i).key = some key) :
    ∃ value, (nmap i).pair = some (key, value) := by
  have whole := rep.whole i
  rw [own, Option.isSome_some] at whole
  obtain ⟨value, val⟩ := Option.isSome_iff_exists.1 whole.symm
  exact ⟨value, NsimMapEntry.pair_eq_some.2 ⟨own, val⟩⟩

theorem keyFind_eq_some (rep : MapRepresents nmap m) :
    nsimMapKeyFind nmap key = some i ↔ ∃ value, (nmap i).pair = some (key, value) := by
  constructor
  · intro find
    have own := Fin.eq_true_of_find?_eq_some find
    simp only [nsimMapKeyMatch, decide_eq_true_eq] at own
    exact rep.pair_of_key own
  · intro ⟨value, here⟩
    refine Fin.find?_eq_some_iff.2 ⟨?_, fun j lt => ?_⟩
    · simpa [nsimMapKeyMatch] using (NsimMapEntry.pair_eq_some.1 here).1
    · by_contra other
      simp only [nsimMapKeyMatch, Bool.not_eq_false, decide_eq_true_eq] at other
      obtain ⟨w, there⟩ := rep.pair_of_key other
      have same := rep.stores.distinct here there
      omega

theorem keyFind_eq_none (rep : MapRepresents nmap m) :
    nsimMapKeyFind nmap key = none ↔ key ∉ m := by
  rw [rep.stores.mem_iff]
  constructor
  · rintro find ⟨i, value, here⟩
    rw [rep.keyFind_eq_some.2 ⟨value, here⟩] at find
    cases find
  · intro absent
    cases find : nsimMapKeyFind nmap key with
    | none => rfl
    | some i => exact absurd ⟨i, rep.keyFind_eq_some.1 find⟩ absent

theorem count_eq (rep : MapRepresents nmap m) :
    Slots.count NsimMapEntry.used nmap = m.keys.card := by
  rw [rep.stores.card_keys]
  unfold Slots.count
  simp only [rep.used_eq]

/-! ### Changes of an entry -/

theorem write (rep : MapRepresents nmap m) (own : ∀ {k w}, (nmap i).pair = some (k, w) → k = key)
    (only : ∀ {j w}, (nmap j).pair = some (key, w) → j = i) :
    MapRepresents (Function.update nmap i ⟨some key, some value⟩) (m.insert key value) := by
  constructor
  · intro j
    by_cases at_j : j = i
    · rw [at_j, Function.update_self, Option.isSome_some, Option.isSome_some]
    · rw [Function.update_of_ne at_j]
      exact rep.whole j
  · rw [pair_update]
    exact rep.stores.insert own only

theorem clear (rep : MapRepresents nmap m) (here : (nmap i).pair = some (key, value)) :
    MapRepresents (Function.update nmap i .zero) (m.erase key) := by
  constructor
  · intro j
    by_cases at_j : j = i
    · rw [at_j, Function.update_self]
      rfl
    · rw [Function.update_of_ne at_j]
      exact rep.whole j
  · rw [pair_update]
    exact rep.stores.erase here

/-- The entry that holds the key gets another value. -/
theorem overwrite (rep : MapRepresents nmap m) {old : V} (here : (nmap i).pair = some (key, old)) :
    MapRepresents (copyElem nmap i key value) (m.insert key value) := by
  obtain ⟨own, val⟩ := NsimMapEntry.pair_eq_some.1 here
  unfold copyElem
  rw [own, val]
  refine rep.write (fun there => ?_) fun there => rep.stores.distinct there here
  rw [here] at there
  exact (Prod.mk.inj (Option.some.inj there)).1.symm

/-- A free entry takes a key that is not present. -/
theorem addElem (rep : MapRepresents nmap m) (absent : key ∉ m) (free : (nmap i).used = false)
    (k : K) (v : V) :
    MapRepresents (copyElem (Function.update nmap i ⟨some k, some v⟩) i key value)
      (m.insert key value) := by
  unfold copyElem
  rw [Function.update_self, Function.update_idem]
  refine rep.write (fun there => ?_) fun there => ?_
  · rw [rep.used_eq, there] at free
    cases free
  · exact absurd (rep.stores.mem_iff.2 ⟨_, _, there⟩) absent

/-- An element that could not be allocated leaves a free entry as it was. -/
theorem failElem (rep : MapRepresents nmap m) (free : (nmap i).used = false) :
    Function.update nmap i ⟨none, none⟩ = nmap := by
  have whole := rep.whole i
  rw [Function.update_eq_self_iff]
  unfold NsimMapEntry.used at free
  rw [free] at whole
  cases e : nmap i with
  | mk key value => simp_all

/-! ### Calls -/

variable {cap : ℕ} {abs : BoundedMap K V cap}

theorem lookupElem (rep : MapRepresents nmap abs.entries) :
    nsimMapLookupElem nmap key = (absLookupElem abs key).map some := by
  cases find : nsimMapKeyFind nmap key with
  | none =>
    have absent := Finmap.lookup_eq_none.2 (rep.keyFind_eq_none.1 find)
    simp only [nsimMapLookupElem, find, absLookupElem, absent]
    rfl
  | some i =>
    obtain ⟨value, here⟩ := rep.keyFind_eq_some.1 find
    have val := (NsimMapEntry.pair_eq_some.1 here).2
    simp only [nsimMapLookupElem, find, absLookupElem, rep.stores.lookup.2 ⟨i, here⟩, val]
    rfl

theorem deleteElem (rep : MapRepresents nmap abs.entries) (type : BpfMapType) (key : K) :
    SameResult nmap (nsimMapDeleteElem type nmap key) (absDeleteElem type abs key) ∧
      MapRepresents (nsimMapDeleteElem type nmap key).2 (absDeleteElem type abs key).2.entries := by
  unfold nsimMapDeleteElem absDeleteElem
  by_cases array : type = .array
  · rw [if_pos array, if_pos array]
    exact ⟨⟨rfl, fun _ _ => rfl⟩, rep⟩
  · rw [if_neg array, if_neg array]
    cases find : nsimMapKeyFind nmap key with
    | none =>
      rw [if_neg (rep.keyFind_eq_none.1 find)]
      exact ⟨⟨rfl, fun _ _ => rfl⟩, rep⟩
    | some i =>
      obtain ⟨value, here⟩ := rep.keyFind_eq_some.1 find
      rw [if_pos (rep.stores.mem_iff.2 ⟨i, value, here⟩)]
      exact ⟨⟨rfl, nofun⟩, rep.clear here⟩

variable {flags : UInt64} {mem : ElemMemory K V}

/-- The update of a key that is present. -/
theorem updateElem_present (rep : MapRepresents nmap abs.entries) (present : key ∈ abs.entries) :
    SameResult nmap (nsimMapUpdateElem nmap key value flags mem)
        (absUpdateElem abs key value flags mem.both) ∧
      MapRepresents (nsimMapUpdateElem nmap key value flags mem).2
        (absUpdateElem abs key value flags mem.both).2.entries := by
  obtain ⟨i, old, here⟩ := rep.stores.mem_iff.1 present
  simp only [nsimMapUpdateElem, rep.keyFind_eq_some.2 ⟨old, here⟩, absUpdateElem, present,
    ↓reduceDIte]
  by_cases noexist : flags = BPF_NOEXIST
  · simp only [noexist, ↓reduceIte]
    exact ⟨⟨rfl, fun _ _ => rfl⟩, rep⟩
  · simp only [noexist, ↓reduceIte]
    exact ⟨⟨rfl, nofun⟩, rep.overwrite here⟩

/-- The update of an absent key, when a free entry and room in the map go together. -/
theorem updateElem_absent (rep : MapRepresents nmap abs.entries) (absent : key ∉ abs.entries)
    (le : cap ≤ NSIM_BPF_MAX_KEYS)
    (fits : flags ≠ BPF_EXIST → cap ≤ Slots.count NsimMapEntry.used nmap →
      Slots.count NsimMapEntry.used nmap = NSIM_BPF_MAX_KEYS) :
    SameResult nmap (nsimMapUpdateElem nmap key value flags mem)
        (absUpdateElem abs key value flags mem.both) ∧
      MapRepresents (nsimMapUpdateElem nmap key value flags mem).2
        (absUpdateElem abs key value flags mem.both).2.entries := by
  simp only [nsimMapUpdateElem, rep.keyFind_eq_none.2 absent, absUpdateElem, absent, ↓reduceDIte]
  by_cases exist : flags = BPF_EXIST
  · simp only [exist, ↓reduceIte]
    exact ⟨⟨rfl, fun _ _ => rfl⟩, rep⟩
  simp only [exist, ↓reduceIte]
  have count := rep.count_eq
  cases first : Slots.firstFree NsimMapEntry.used nmap with
  | none =>
    have full := Slots.firstFree_eq_none_iff.1 first
    have noRoom : ¬abs.entries.keys.card < cap := by omega
    simp only [noRoom, ↓reduceDIte]
    exact ⟨⟨rfl, fun _ _ => rfl⟩, rep⟩
  | some i =>
    have notFull : Slots.count NsimMapEntry.used nmap ≠ NSIM_BPF_MAX_KEYS := by
      intro full
      rw [Slots.firstFree_eq_none_iff.2 full] at first
      cases first
    have room : abs.entries.keys.card < cap := by
      by_contra noRoom
      exact notFull (fits exist (by omega))
    have free := Slots.free_of_firstFree first
    simp only [room, ↓reduceDIte]
    obtain ⟨k, v⟩ := mem
    cases k with
    | none =>
      have same := rep.failElem free
      have own : (nmap i).key = none := by simpa [NsimMapEntry.used] using free
      have kept : Function.update nmap i { nmap i with key := none } = nmap := by
        rw [Function.update_eq_self_iff, ← own]
      simp only [nsimMapAllocElem, kept, ElemMemory.both]
      exact ⟨⟨rfl, fun _ _ => rfl⟩, rep⟩
    | some k =>
      cases v with
      | none =>
        simp only [nsimMapAllocElem, rep.failElem free, ElemMemory.both]
        exact ⟨⟨rfl, fun _ _ => rfl⟩, rep⟩
      | some v => exact ⟨⟨rfl, nofun⟩, rep.addElem absent free k v⟩

/-- A free entry takes a key for which the map has no room. -/
theorem updateElem_overfull (rep : MapRepresents nmap abs.entries) (absent : key ∉ abs.entries)
    (flag : flags ≠ BPF_EXIST) (full : cap ≤ Slots.count NsimMapEntry.used nmap)
    (notFull : Slots.count NsimMapEntry.used nmap ≠ NSIM_BPF_MAX_KEYS) :
    (nsimMapUpdateElem nmap key value flags mem).1 ≠
      (absUpdateElem abs key value flags mem.both).1 := by
  have noRoom : ¬abs.entries.keys.card < cap := by
    rw [← rep.count_eq]
    omega
  have le := Slots.count_le NsimMapEntry.used nmap
  obtain ⟨i, first⟩ := Slots.exists_firstFree (lt_of_le_of_ne le notFull)
  simp only [nsimMapUpdateElem, rep.keyFind_eq_none.2 absent, absUpdateElem, absent, noRoom,
    ↓reduceDIte, flag, ↓reduceIte, first]
  obtain ⟨k, v⟩ := mem
  cases k <;> cases v <;> simp [nsimMapAllocElem]

theorem mem_of_getNextKey (rep : MapRepresents nmap m) {cur : Option K} {next : K}
    (ok : nsimMapGetNextKey nmap cur = .ok next) : next ∈ m := by
  cases found : (Slots.nextUsed NsimMapEntry.used nmap (nextKeyIdx nmap cur)).bind
      fun idx => (nmap idx).key with
  | none =>
    simp only [nsimMapGetNextKey, found] at ok
    cases ok
  | some k =>
    simp only [nsimMapGetNextKey, found] at ok
    cases ok
    obtain ⟨i, -, own⟩ := Option.bind_eq_some_iff.1 found
    obtain ⟨value, here⟩ := rep.pair_of_key own
    exact rep.stores.mem_iff.2 ⟨i, value, here⟩

/-! ### Iteration -/

theorem nextUsed_eq (rep : MapRepresents nmap m) (s : ℕ) :
    Slots.nextUsed NsimMapEntry.used nmap s =
      Slots.nextUsed Option.isSome (fun i => (nmap i).pair) s := by
  unfold Slots.nextUsed
  simp only [rep.used_eq]

/-- Asking for the next key walks over the table. -/
theorem iteratesTo (rep : MapRepresents nmap m) {s : ℕ} {ks : List K}
    (walk : Slots.Walk (fun i => (nmap i).pair) s ks) :
    ∀ cur, nextKeyIdx nmap cur = s → IteratesTo nmap cur ks := by
  induction walk with
  | stop next =>
    rintro cur rfl
    rw [← rep.nextUsed_eq] at next
    refine .stop ?_
    simp only [nsimMapGetNextKey, next, Option.bind_none]
  | @next s i k v ks next here walk ih =>
    rintro cur rfl
    rw [← rep.nextUsed_eq] at next
    have own := (NsimMapEntry.pair_eq_some.1 here).1
    refine .next ?_ (ih (some k) ?_)
    · simp only [nsimMapGetNextKey, next, Option.bind_some, own]
    · simp only [nextKeyIdx, Option.bind_some, rep.keyFind_eq_some.2 ⟨v, here⟩]

theorem exists_iteratesTo (rep : MapRepresents nmap m) :
    ∃ ks, IteratesTo nmap none ks ∧ ks.Nodup ∧ ∀ k, k ∈ ks ↔ k ∈ m := by
  obtain ⟨ks, walk, nodup, mem⟩ := rep.stores.exists_walk 0
  refine ⟨ks, rep.iteratesTo walk none rfl, nodup, fun k => ?_⟩
  rw [mem, rep.stores.mem_iff]
  simp

end MapRepresents

theorem IteratesTo.unique {cur : Option K} {ks ks' : List K} (iter : IteratesTo nmap cur ks)
    (iter' : IteratesTo nmap cur ks') : ks = ks' := by
  induction iter generalizing ks' with
  | stop last =>
    cases iter' with
    | stop _ => rfl
    | next more _ =>
      rw [last] at more
      cases more
  | next more _ ih =>
    cases iter' with
    | stop last =>
      rw [last] at more
      cases more
    | next more' rest =>
      rw [more] at more'
      cases more'
      rw [ih rest]

end MapRepresents

/-! ## New maps -/

theorem storeU32_eq_of_four {n : ℕ} (four : n = 4) (x : UInt32) (mem mem' : Vector UInt8 n) :
    storeU32 x mem = storeU32 x mem' := by
  subst four
  unfold storeU32
  congr 1
  funext j
  rw [if_pos j.isLt, if_pos j.isLt]

theorem indexKey_inj (four : map.keySize = 4) {i j : Fin NSIM_BPF_MAX_KEYS}
    (same : map.indexKey i = map.indexKey j) : i = j := by
  have bound : 0 < map.keySize.toNat := by
    rw [four]
    decide
  have first := congrArg (fun key => key[0]) same
  simp only [BpfMap.indexKey, storeU32, Vector.getElem_ofFn, Nat.zero_lt_succ, ↓reduceIte] at first
  clear same
  revert i j
  decide

/-- The element of an index in a new array. -/
def IsNewElem (map : BpfMap) (e : NsimMapEntry map.Key map.Value) (i : Fin NSIM_BPF_MAX_KEYS) :
    Prop :=
  ∃ mem, e = ⟨some (storeU32 (UInt32.ofNat i) mem), some (Vector.replicate _ 0)⟩

theorem nsimBpfArrayElem_ok {mem : Fin NSIM_BPF_MAX_KEYS → ElemMemory map.Key map.Value}
    {nmap nmap' : NsimBpfBoundMap map.Key map.Value} {i : Fin NSIM_BPF_MAX_KEYS}
    (ok : nsimBpfArrayElem mem nmap i = .ok nmap') :
    IsNewElem map (nmap' i) i ∧ ∀ j ≠ i, nmap' j = nmap j := by
  cases key : (mem i).key with
  | none =>
    simp only [nsimBpfArrayElem, nsimMapAllocElem, key] at ok
    cases ok
  | some k =>
    cases value : (mem i).value with
    | none =>
      simp only [nsimBpfArrayElem, nsimMapAllocElem, key, value] at ok
      cases ok
    | some v =>
      simp only [nsimBpfArrayElem, nsimMapAllocElem, key, value] at ok
      cases ok
      refine ⟨⟨k, ?_⟩, fun j ne => ?_⟩
      · simp only [Function.update_self, Option.map_some]
      · rw [Function.update_of_ne ne, Function.update_of_ne ne]

/-- The loop over the elements of a new array. -/
theorem isNewElem_of_foldlM {mem : Fin NSIM_BPF_MAX_KEYS → ElemMemory map.Key map.Value}
    {l : List (Fin NSIM_BPF_MAX_KEYS)} {nmap nmap' : NsimBpfBoundMap map.Key map.Value}
    (ok : l.foldlM (nsimBpfArrayElem mem) nmap = .ok nmap') (i : Fin NSIM_BPF_MAX_KEYS) :
    (i ∈ l ∨ IsNewElem map (nmap i) i) → IsNewElem map (nmap' i) i := by
  induction l generalizing nmap with
  | nil =>
    cases ok
    simp
  | cons a l ih =>
    rw [List.foldlM_cons] at ok
    cases step : nsimBpfArrayElem mem nmap a with
    | error e =>
      rw [step] at ok
      cases ok
    | ok next =>
      rw [step] at ok
      obtain ⟨new, others⟩ := nsimBpfArrayElem_ok step
      intro here
      by_cases at_a : i = a
      · subst at_a
        exact ih ok (.inr new)
      · refine ih ok ?_
        rw [others i at_a]
        simpa [at_a] using here

/-- What an accepted map starts with. -/
theorem nsimBpfMapAlloc_ok {priv : Bool}
    {mem : Fin NSIM_BPF_MAX_KEYS → ElemMemory map.Key map.Value}
    {nmap : NsimBpfBoundMap map.Key map.Value} (ok : nsimBpfMapAlloc map priv mem = .ok nmap) :
    map.maxEntries.toNat ≤ NSIM_BPF_MAX_KEYS ∧
      ((map.mapType ≠ .array ∧ nmap = fun _ => .zero) ∨
        (map.mapType = .array ∧ ∀ i, IsNewElem map (nmap i) i)) := by
  unfold nsimBpfMapAlloc at ok
  split_ifs at ok with type size flags memory array
  · refine ⟨not_lt.1 size, .inr ⟨array, fun i => ?_⟩⟩
    exact isNewElem_of_foldlM ok i (.inl (List.mem_finRange i))
  · cases ok
    exact ⟨not_lt.1 size, .inl ⟨array, rfl⟩⟩

/-- A full array stands for the map with all indices of the table as keys. -/
theorem represents_array (four : map.keySize = 4) {nmap : NsimBpfBoundMap map.Key map.Value}
    (new : ∀ i, IsNewElem map (nmap i) i) {m : Finmap fun _ : map.Key => map.Value}
    (look : ∀ k v, m.lookup k = some v ↔
      ∃ i : Fin NSIM_BPF_MAX_KEYS, map.indexKey i = k ∧ v = Vector.replicate _ 0) :
    MapRepresents nmap m := by
  have size : map.keySize.toNat = 4 := by rw [four]; rfl
  have pair : ∀ i, nmap i = ⟨some (map.indexKey i), some (Vector.replicate _ 0)⟩ := by
    intro i
    obtain ⟨mem, eq⟩ := new i
    rw [eq, storeU32_eq_of_four size _ mem (Vector.replicate _ 0)]
    rfl
  constructor
  · intro i
    rw [pair i]
    rfl
  · constructor
    · intro i j k v w here there
      simp only [NsimMapEntry.pair_eq_some, pair, Option.some.injEq] at here there
      exact indexKey_inj four (here.1.trans there.1.symm)
    · intro k v
      simp only [look, NsimMapEntry.pair_eq_some, pair, Option.some.injEq, eq_comm (b := v)]

/-- The keys of a full table of an array. -/
def BpfMap.tableKeys (map : BpfMap) : Finset map.Key :=
  Finset.univ.image fun i : Fin NSIM_BPF_MAX_KEYS => map.indexKey i

theorem card_tableKeys (four : map.keySize = 4) : map.tableKeys.card = NSIM_BPF_MAX_KEYS := by
  unfold BpfMap.tableKeys
  rw [Finset.card_image_of_injective _ fun i j same => indexKey_inj four same, Finset.card_univ,
    Fintype.card_fin]

theorem firstKeys_eq_tableKeys (array : map.mapType = .array)
    (fills : map.maxEntries.toNat = NSIM_BPF_MAX_KEYS) : map.firstKeys = map.tableKeys := by
  ext k
  simp only [BpfMap.firstKeys, array, ↓reduceIte, fills, BpfMap.tableKeys, Finset.mem_image,
    Finset.mem_range, Finset.mem_univ, true_and]
  exact ⟨fun ⟨i, lt, same⟩ => ⟨⟨i, lt⟩, same⟩, fun ⟨i, same⟩ => ⟨i, i.isLt, same⟩⟩

theorem represents_tableKeys (four : map.keySize = 4)
    {nmap : NsimBpfBoundMap map.Key map.Value} (new : ∀ i, IsNewElem map (nmap i) i) {cap : ℕ}
    (room : map.tableKeys.card ≤ cap) :
    MapRepresents nmap (BoundedMap.const map.tableKeys (Vector.replicate _ 0) room).entries := by
  refine represents_array four new fun k v => ?_
  rw [BoundedMap.lookup_const]
  by_cases mem : k ∈ map.tableKeys
  · obtain ⟨i, -, same⟩ := Finset.mem_image.1 mem
    rw [if_pos mem, Option.some.injEq]
    exact ⟨fun eq => ⟨i, same, eq.symm⟩, fun ⟨_, _, eq⟩ => eq.symm⟩
  · rw [if_neg mem]
    refine ⟨nofun, fun ⟨i, same, _⟩ => ?_⟩
    exact absurd (Finset.mem_image.2 ⟨i, Finset.mem_univ i, same⟩) mem

/-- What `array_map_alloc_check` of the BPF core makes sure of before the driver is asked. -/
def ArrayAllocCheck (map : BpfMap) : Prop := map.mapType = .array → map.keySize = 4

theorem represents_init {s : BpfMapRun map} (check : ArrayAllocCheck map)
    (init : (bpfMapSystem map).init s) (fills : ArrayFillsTable map) :
    MapRepresents s.nmap s.abs.entries := by
  obtain ⟨⟨priv, mem, ok⟩, abs⟩ := init
  obtain ⟨-, ⟨hash, empty⟩ | ⟨array, new⟩⟩ := nsimBpfMapAlloc_ok ok
  · have none : map.new.entries = ∅ := by
      refine Finmap.ext_lookup fun k => ?_
      unfold BpfMap.new
      rw [BoundedMap.lookup_const, Finmap.lookup_empty, BpfMap.firstKeys, if_neg hash]
      rfl
    rw [abs, empty, none]
    exact ⟨fun _ => rfl, Slots.stores_empty fun _ => rfl⟩
  · have same := firstKeys_eq_tableKeys array (fills array)
    have room := map.card_firstKeys
    have rep := represents_tableKeys (check array) new (same ▸ room)
    rw [abs]
    unfold BpfMap.new
    simp only [same]
    exact rep

/-- A map starts with the right keys exactly when it is no array or has as many elements as the
table. -/
theorem iteratesOnce_init_iff {s : BpfMapRun map} (check : ArrayAllocCheck map)
    (init : (bpfMapSystem map).init s) : IteratesOnce s ↔ ArrayFillsTable map := by
  constructor
  · intro ⟨ks, iter, nodup, keys⟩ array
    obtain ⟨⟨priv, mem, ok⟩, abs⟩ := init
    obtain ⟨le, ⟨hash, -⟩ | ⟨-, new⟩⟩ := nsimBpfMapAlloc_ok ok
    · exact absurd array hash
    · have rep := represents_tableKeys (check array) new le_rfl
      obtain ⟨ks', iter', -, keys'⟩ := rep.exists_iteratesTo
      have sub : map.tableKeys ⊆ map.firstKeys := by
        intro k mem
        have there := (keys' k).2 (BoundedMap.mem_const.2 mem)
        rw [iter'.unique iter, keys, abs] at there
        exact BoundedMap.mem_const.1 there
      have card := (Finset.card_le_card sub).trans map.card_firstKeys
      rw [card_tableKeys (check array)] at card
      exact le_antisymm le card
  · intro fills
    exact (represents_init check init fills).exists_iteratesTo

/-! ## Whole runs -/

/-- The table stands for the finite map, and the map's limit is not above that of the table. -/
structure BpfMapSound (s : BpfMapRun map) : Prop where
  le : map.maxEntries.toNat ≤ NSIM_BPF_MAX_KEYS
  rep : MapRepresents s.nmap s.abs.entries

namespace BpfMapSound

variable {s : BpfMapRun map}

/-- A call that fits is answered as by the finite map, and leaves the table in step with it. -/
theorem step (sound : BpfMapSound s) {call : BpfMapCall map.Key map.Value}
    (fits : InsertFits s call) : AnswersLike s call ∧ BpfMapSound (bpfMapStep s call) := by
  cases call with
  | update key value flags mem =>
    have updated : SameResult s.nmap (nsimMapUpdateElem s.nmap key value flags mem)
          (absUpdateElem s.abs key value flags mem.both) ∧
        MapRepresents (nsimMapUpdateElem s.nmap key value flags mem).2
          (absUpdateElem s.abs key value flags mem.both).2.entries := by
      by_cases present : key ∈ s.abs.entries
      · exact sound.rep.updateElem_present present
      · exact sound.rep.updateElem_absent present sound.le
          (fits (sound.rep.keyFind_eq_none.2 present))
    exact ⟨updated.1, sound.le, updated.2⟩
  | delete key =>
    have deleted := sound.rep.deleteElem map.mapType key
    exact ⟨deleted.1, sound.le, deleted.2⟩
  | lookup key => exact ⟨sound.rep.lookupElem, sound⟩
  | getNextKey key => exact ⟨fun _ ok => sound.rep.mem_of_getNextKey ok, sound⟩

theorem answersLike_iff (sound : BpfMapSound s) (call : BpfMapCall map.Key map.Value) :
    AnswersLike s call ↔ InsertFits s call := by
  refine ⟨fun like => ?_, fun fits => (sound.step fits).1⟩
  cases call with
  | update key value flags mem =>
    intro absent flag full
    by_contra notFull
    exact sound.rep.updateElem_overfull (sound.rep.keyFind_eq_none.1 absent) flag full notFull like.1
  | delete key => trivial
  | lookup key => trivial
  | getNextKey key => trivial

end BpfMapSound

theorem bpfMapSound_reachable {s : BpfMapRun map} (check : ArrayAllocCheck map)
    (fills : ArrayFillsTable map) (reach : ((bpfMapSystem map).guard InsertFits).Reachable s) :
    BpfMapSound s := by
  refine TransitionSystem.Reachable.induct ?_ ?_ reach
  · intro s init
    obtain ⟨priv, mem, ok⟩ := init.1
    exact ⟨(nsimBpfMapAlloc_ok ok).1, represents_init check init fills⟩
  · rintro s call t - sound ⟨rfl, fits⟩
    exact (sound.step fits).2

/-- An accepted map starts as it should exactly when it is no array or fills the table.  If so, then
in every run without an insertion beyond the map's limit each call is answered as by the finite map,
exactly as long as it is no such insertion, and iterating yields each key once. -/
theorem bpf_map_refines (map : BpfMap) (check : ArrayAllocCheck map) :
    (∀ s, (bpfMapSystem map).init s → (IteratesOnce s ↔ ArrayFillsTable map)) ∧
      (ArrayFillsTable map → ∀ s, ((bpfMapSystem map).guard InsertFits).Reachable s →
        IteratesOnce s ∧ ∀ call, AnswersLike s call ↔ InsertFits s call) := by
  refine ⟨fun s init => iteratesOnce_init_iff check init, fun fills s reach => ?_⟩
  have sound := bpfMapSound_reachable check fills reach
  exact ⟨sound.rep.exists_iteratesTo, sound.answersLike_iff⟩

/-- A hash map for keys and values of one byte. -/
def byteMap (maxEntries : UInt32) : BpfMap := ⟨.hash, 1, 1, maxEntries, 0⟩

/-- A new such map. -/
def newByteMap (maxEntries : UInt32) : BpfMapRun (byteMap maxEntries) :=
  ⟨fun _ => .zero, (byteMap maxEntries).new⟩

/-- A key is inserted, and there is memory for it. -/
def insertByte (key : UInt8) : BpfMapCall (Vector UInt8 1) (Vector UInt8 1) :=
  .update #v[key] #v[0] BPF_ANY ⟨some #v[0], some #v[0]⟩

theorem init_newByteMap (maxEntries : UInt32) (le : maxEntries.toNat ≤ NSIM_BPF_MAX_KEYS) :
    (bpfMapSystem (byteMap maxEntries)).init (newByteMap maxEntries) := by
  refine ⟨⟨true, fun _ => ⟨none, none⟩, ?_⟩, rfl⟩
  have fits : ¬NSIM_BPF_MAX_KEYS < (byteMap maxEntries).maxEntries.toNat := not_lt.2 le
  simp only [nsimBpfMapAlloc, fits, ↓reduceIte]
  rfl

/-- The first insertion into a map of at least one entry. -/
theorem reachable_insertByte {maxEntries : UInt32} (pos : 0 < maxEntries.toNat)
    (le : maxEntries.toNat ≤ NSIM_BPF_MAX_KEYS) (key : UInt8) :
    ((bpfMapSystem (byteMap maxEntries)).guard InsertFits).Reachable
      (bpfMapStep (newByteMap maxEntries) (insertByte key)) := by
  refine .step (.init (init_newByteMap maxEntries le)) ⟨rfl, fun _ _ full => ?_⟩
  have none : Slots.count NsimMapEntry.used (newByteMap maxEntries).nmap = 0 :=
    Slots.count_eq_zero fun _ => rfl
  rw [none] at full
  exact absurd full (not_le.2 pos)

theorem bpf_map_refines_two :
    IteratesOnce (bpfMapStep (newByteMap 2) (insertByte 1)) ∧
      AnswersLike (bpfMapStep (newByteMap 2) (insertByte 1)) (insertByte 2) := by
  have refines := (bpf_map_refines (byteMap 2) nofun).2 nofun _
    (reachable_insertByte (by decide) (by decide) 1)
  exact ⟨refines.1, (refines.2 _).2 fun _ _ full => le_antisymm (Slots.count_le _ _) full⟩

/-- A second key goes into a map that has room for one. -/
theorem bpf_map_exceeds_limit : ∃ s : BpfMapRun (byteMap 1),
    (bpfMapSystem (byteMap 1)).Reachable s ∧ ¬AnswersLike s (insertByte 2) := by
  have reach := reachable_insertByte (show 0 < (1 : UInt32).toNat by decide) (by decide) 1
  have check : ArrayAllocCheck (byteMap 1) := nofun
  have fills : ArrayFillsTable (byteMap 1) := nofun
  have sound := bpfMapSound_reachable check fills reach
  refine ⟨_, reach.of_guard, fun like => ?_⟩
  have fits := (sound.answersLike_iff _).1 like (by decide) (by decide) (by decide)
  revert fits
  decide

end Netdevsim
