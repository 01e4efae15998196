import Mathlib.Algebra.BigOperators.Group.List.Basic
import Netdevsim.Fib.Routes
import Netdevsim.Lib.Runs
import Netdevsim.Lib.Total

/-!
# Nexthops

The nexthop objects that `fib.c` is notified of, how many entries each of them occupies, and the
counter of these entries.  The counter goes up one by one, up to the size of the resource, and every
failure takes back what was added.  So it is exact in every state, and an event that fails changes
nothing.
-/

namespace Netdevsim.Fib.Nexthops

open Program

/-! ## Data -/

/-- `struct nsim_nexthop`. -/
structure NsimNexthop where
  occ : ℕ
  id : UInt32
  isResilient : Bool
  deriving DecidableEq, Repr

/-- The weights of the nexthops of a group, which user space gives in one netlink attribute of less
than 2^16 bytes, eight for each nexthop. -/
structure NhGrp where
  weights : List UInt16
  size_lt : 8 * weights.length < 2 ^ 16

/-- The union of `struct nh_notifier_info`, by type. -/
inductive NhNotifierInfoType where
  | SINGLE
  | GRP (nhGrp : NhGrp)
  | RES_TABLE (numNhBuckets : UInt16)
  | RES_BUCKET (bucketIndex : UInt16)

/-- What is read of a `struct nh_notifier_info`. -/
structure NhNotifierInfo where
  id : UInt32
  type : NhNotifierInfoType

/-- `enum nexthop_event_type`. -/
inductive NexthopEventType where
  | DEL | REPLACE | RES_TABLE_PRE_REPLACE | BUCKET_REPLACE
  deriving DecidableEq, Repr

/-- What the kernel is told about nexthops in hardware. -/
inductive HwFlags where
  /-- `nexthop_set_hw_flags`. -/
  | nexthop (id : UInt32) (trap : Bool)
  /-- `nexthop_bucket_set_hw_flags`. -/
  | bucket (id : UInt32) (bucketIndex : ℕ) (trap : Bool)
  deriving DecidableEq, Repr

/-- The part of `struct nsim_fib_data` that nexthops use. -/
structure NexthopData where
  nexthops : NsimFibEntry
  nexthopHt : AList fun _ : UInt32 => NsimNexthop
  failResNexthopGroupReplace : Bool
  failNexthopBucketReplace : Bool
  /-- What the kernel was told so far. -/
  hwFlags : List HwFlags
  /-- Whether a warning was given. -/
  warned : Bool
  /-- What the coming calls that may fail return. -/
  faults : List (Option Errno)

abbrev NexthopM (α : Type) := Program NexthopData Refusal α

/-! ## Memory and the hash table -/

/-- The result of the next call that may fail. -/
def fault : NexthopM (Option Errno) := do
  let s ← get
  set { s with faults := s.faults.tail }
  return s.faults.headD none

/-- An allocation that may fail and whose address does not matter. -/
def mayRunOut : NexthopM Unit := do
  if (← fault).isSome then throw ⟨.ENOMEM, none⟩

/-- `rhashtable_insert_fast`, which may fail for any reason. -/
def rhashtableInsertFast (nexthop : NsimNexthop) : NexthopM Unit := do
  if let some e ← fault then throw ⟨e, some "Failed to insert nexthop"⟩
  let s ← get
  failIf (nexthop.id ∈ s.nexthopHt) ⟨.EEXIST, some "Failed to insert nexthop"⟩
  set { s with nexthopHt := s.nexthopHt.insert nexthop.id nexthop }

/-- `rhashtable_replace_fast`, which may fail for any reason. -/
def rhashtableReplaceFast (old nexthop : NsimNexthop) : NexthopM Unit := do
  if let some e ← fault then throw ⟨e, some "Failed to replace nexthop"⟩
  let s ← get
  failIf (s.nexthopHt.lookup nexthop.id ≠ some old) ⟨.ENOENT, some "Failed to replace nexthop"⟩
  set { s with nexthopHt := s.nexthopHt.insert nexthop.id nexthop }

/-! ## Counting -/

def NexthopData.setNum (s : NexthopData) (num : ℤ) : NexthopData :=
  { s with nexthops := ⟨s.nexthops.max, num⟩ }

/-- The loop of `nsim_nexthop_account`: `i` were added, and as many as given are left. -/
def accountLoop : ℕ → ℕ → NexthopM Unit
  | 0, _ => return ()
  | left + 1, i => do
    let s ← get
    -- atomic64_add_unless
    if s.nexthops.num = s.nexthops.max.toNat then
      set (s.setNum (s.nexthops.num - i))
      throw ⟨.ENOSPC, some "Exceeded number of supported nexthops"⟩
    else
      set (s.setNum (s.nexthops.num + 1))
      accountLoop left (i + 1)

/-- `nsim_nexthop_account`.  The counter is read as an unsigned number. -/
def nsimNexthopAccount (occ : ℕ) (add : Bool) : NexthopM Unit := do
  if add then accountLoop occ 0
  else
    let s ← get
    if s.nexthops.num % 2 ^ 64 < occ then
      set { s with warned := true }
      throw ⟨.EINVAL, none⟩
    else set (s.setNum (s.nexthops.num - occ))

/-- `nsim_nexthop_account` when its result is ignored. -/
def nsimNexthopDismiss (occ : ℕ) : NexthopM Unit := do
  let _ ← attempt (nsimNexthopAccount occ false)

/-! ## Nexthops -/

/-- The number of entries that `nsim_nexthop_create` determines, if the type is supported. -/
def NhNotifierInfoType.occ : NhNotifierInfoType → Option ℕ
  | .SINGLE => some 1
  | .GRP nhGrp => some (nhGrp.weights.map UInt16.toNat).sum
  | .RES_TABLE numNhBuckets => some numNhBuckets.toNat
  | .RES_BUCKET _ => none

def NhNotifierInfoType.isResilient : NhNotifierInfoType → Bool
  | .RES_TABLE _ => true
  | _ => false

/-- `nsim_nexthop_create`. -/
def nsimNexthopCreate (info : NhNotifierInfo) : NexthopM NsimNexthop := do
  mayRunOut
  match info.type.occ with
  | some occ => return ⟨occ, info.id, info.type.isResilient⟩
  | none => throw ⟨.EOPNOTSUPP, some "Unsupported nexthop type"⟩

/-- `nsim_nexthop_hw_flags_set`. -/
def nsimNexthopHwFlagsSet (nexthop : NsimNexthop) (trap : Bool) : NexthopM Unit :=
  modify fun s =>
    let buckets := if nexthop.isResilient then
      (List.range nexthop.occ).map fun i => .bucket nexthop.id i trap else []
    { s with hwFlags := s.hwFlags ++ .nexthop nexthop.id trap :: buckets }

/-- `nsim_nexthop_add`. -/
def nsimNexthopAdd (nexthop : NsimNexthop) : NexthopM Unit := do
  nsimNexthopAccount nexthop.occ true
  unwind (nsimNexthopDismiss nexthop.occ) (rhashtableInsertFast nexthop)
  nsimNexthopHwFlagsSet nexthop true

/-- `nsim_nexthop_replace`. -/
def nsimNexthopReplace (nexthop old : NsimNexthop) : NexthopM Unit := do
  nsimNexthopAccount nexthop.occ true
  unwind (nsimNexthopDismiss nexthop.occ) (rhashtableReplaceFast old nexthop)
  nsimNexthopHwFlagsSet nexthop true
  nsimNexthopDismiss old.occ

/-- `nsim_nexthop_insert`. -/
def nsimNexthopInsert (info : NhNotifierInfo) : NexthopM Unit := do
  let nexthop ← nsimNexthopCreate info
  match (← get).nexthopHt.lookup info.id with
  | none => nsimNexthopAdd nexthop
  | some old => nsimNexthopReplace nexthop old

/-- `nsim_nexthop_remove`. -/
def nsimNexthopRemove (info : NhNotifierInfo) : NexthopM Unit := do
  match (← get).nexthopHt.lookup info.id with
  | none => return ()
  | some nexthop =>
    modify fun s => { s with nexthopHt := s.nexthopHt.erase info.id }
    nsimNexthopDismiss nexthop.occ

/-- `nsim_nexthop_res_table_pre_replace`. -/
def nsimNexthopResTablePreReplace : NexthopM Unit := do
  failIf (← get).failResNexthopGroupReplace
    ⟨.EINVAL, some "Failed to replace a resilient nexthop group"⟩

/-- `nsim_nexthop_bucket_replace`. -/
def nsimNexthopBucketReplace (info : NhNotifierInfo) : NexthopM Unit := do
  failIf (← get).failNexthopBucketReplace ⟨.EINVAL, some "Failed to replace nexthop bucket"⟩
  if let .RES_BUCKET bucketIndex := info.type then
    modify fun s => { s with
      hwFlags := s.hwFlags ++ [.bucket info.id bucketIndex.toNat true] }

/-- `nsim_nexthop_event_nb`. -/
def nsimNexthopEventNb (event : NexthopEventType) (info : NhNotifierInfo) : NexthopM Unit :=
  match event with
  | .REPLACE => nsimNexthopInsert info
  | .DEL => nsimNexthopRemove info
  | .RES_TABLE_PRE_REPLACE => nsimNexthopResTablePreReplace
  | .BUCKET_REPLACE => nsimNexthopBucketReplace info

/-! ## The occupied entries -/

/-- The entries that the nexthops in a table occupy. -/
def occupied (ht : AList fun _ : UInt32 => NsimNexthop) : ℕ :=
  (ht.entries.map fun entry => entry.2.occ).sum

section Occupied

variable {ht : AList fun _ : UInt32 => NsimNexthop} {id : UInt32} {nexthop : NsimNexthop}

theorem occupied_insert_new (absent : ht.lookup id = none) :
    occupied (ht.insert id nexthop) = nexthop.occ + occupied ht := by
  rw [occupied, AList.entries_insert_of_notMem (AList.lookup_eq_none.1 absent)]
  rfl

theorem occupied_erase (present : ht.lookup id = some nexthop) :
    nexthop.occ + occupied (ht.erase id) = occupied ht := by
  have mem : id ∈ ht.entries.keys := AList.lookup_isSome.1 (by rw [present]; rfl)
  obtain ⟨found, before, after, -, entries, erased⟩ := List.exists_of_kerase mem
  have own : found ∈ ht.lookup id := by
    rw [AList.mem_lookup_iff, entries]
    exact List.mem_append_right _ List.mem_cons_self
  obtain rfl : nexthop = found := Option.some.inj (present.symm.trans own)
  have erase : (ht.erase id).entries = before ++ after := erased
  rw [occupied, occupied, erase, entries]
  simp only [List.map_append, List.map_cons, List.sum_append, List.sum_cons]
  omega

theorem occupied_insert_old {old : NsimNexthop} (present : ht.lookup id = some old) :
    occupied (ht.insert id nexthop) + old.occ = occupied ht + nexthop.occ := by
  have erase := occupied_erase present
  have insert : occupied (ht.insert id nexthop) = nexthop.occ + occupied (ht.erase id) := by
    rw [occupied, AList.entries_insert]
    rfl
  omega

/-- What an object occupies is small enough for the counter `i` of the loop. -/
theorem occ_lt {type : NhNotifierInfoType} {occ : ℕ} (determined : type.occ = some occ) :
    occ < 2 ^ 31 := by
  cases type with
  | SINGLE => cases determined; decide
  | GRP nhGrp =>
    cases determined
    have each : ∀ n ∈ nhGrp.weights.map UInt16.toNat, n ≤ 2 ^ 16 := by
      intro n mem
      obtain ⟨weight, -, rfl⟩ := List.mem_map.1 mem
      exact weight.toNat_lt.le
    have sum := List.sum_le_card_nsmul _ _ each
    have size := nhGrp.size_lt
    rw [List.length_map, smul_eq_mul] at sum
    omega
  | RES_TABLE numNhBuckets =>
    cases determined
    exact numNhBuckets.toNat_lt.trans (by decide)
  | RES_BUCKET => cases determined

end Occupied

/-! ## The invariant -/

/-- The counter is right, it fits the resource, and no warning was given. -/
structure Exact (s : NexthopData) : Prop where
  num_eq : s.nexthops.num = occupied s.nexthopHt
  le_max : s.nexthops.num ≤ s.nexthops.max.toNat
  quiet : s.warned = false

/-- Table and counter are the same. -/
def Unchanged (s t : NexthopData) : Prop := t.nexthopHt = s.nexthopHt ∧ t.nexthops = s.nexthops

section Rules

variable {s t : NexthopData} {nexthop old : NsimNexthop} {occ : ℕ}

@[simp] theorem twp_fault {Q : Option Errno → NexthopData → Prop}
    {E : Refusal → NexthopData → Prop} :
    twp fault Q E s ↔ Q (s.faults.headD none) { s with faults := s.faults.tail } := Iff.rfl

/-- The counter goes up all the way or comes back. -/
theorem twp_accountLoop (left i : ℕ) (fits : s.nexthops.num ≤ s.nexthops.max.toNat) :
    twp (accountLoop left i)
      (fun _ t => s.nexthops.num + left ≤ s.nexthops.max.toNat ∧
        t = s.setNum (s.nexthops.num + left))
      (fun _ t => t = s.setNum (s.nexthops.num - i)) s := by
  induction left generalizing s i with
  | zero => exact ⟨by simpa using fits, by rw [Nat.cast_zero, add_zero]; rfl⟩
  | succ left ih =>
    unfold accountLoop
    rw [twp_bind, twp_get]
    split
    · exact rfl
    · rename_i room
      rw [twp_bind, twp_set]
      have fits' : s.nexthops.num + 1 ≤ s.nexthops.max.toNat := by omega
      refine twp_mono (ih (s := s.setNum (s.nexthops.num + 1)) (i + 1) fits') ?_ ?_
      · rintro _ _ ⟨le, rfl⟩
        have le : s.nexthops.num + 1 + left ≤ s.nexthops.max.toNat := le
        refine ⟨by push_cast; omega, ?_⟩
        show s.setNum (s.nexthops.num + 1 + left) = _
        congr 1
        push_cast
        omega
      · rintro _ _ rfl
        show s.setNum (s.nexthops.num + 1 - (i + 1 : ℕ)) = _
        congr 1
        push_cast
        omega

/-- What was added may be subtracted. -/
theorem twp_nsimNexthopDismiss {Q : Unit → NexthopData → Prop} {E : Refusal → NexthopData → Prop}
    (le : (occ : ℤ) ≤ s.nexthops.num) (fits : s.nexthops.num ≤ s.nexthops.max.toNat)
    (ok : Q () (s.setNum (s.nexthops.num - occ))) : twp (nsimNexthopDismiss occ) Q E s := by
  have unsigned : s.nexthops.num % 2 ^ 64 = s.nexthops.num := by
    have lt := s.nexthops.max.toNat_lt
    omega
  unfold nsimNexthopDismiss nsimNexthopAccount
  rw [twp_bind, twp_attempt, if_neg Bool.false_ne_true, twp_bind, twp_get, unsigned,
    if_neg (by omega)]
  exact ok

theorem Exact.of_unchanged (exact : Exact s) (same : Unchanged s t) (quiet : t.warned = s.warned) :
    Exact t := by
  obtain ⟨ht, nexthops⟩ := same
  refine ⟨?_, ?_, quiet.trans exact.quiet⟩
  · rw [nexthops, ht]
    exact exact.num_eq
  · rw [nexthops]
    exact exact.le_max

/-- An event that fails. -/
def Failed (s t : NexthopData) : Prop := Exact t ∧ Unchanged s t

theorem Exact.failed (exact : Exact s) (ht : t.nexthopHt = s.nexthopHt)
    (nexthops : t.nexthops = s.nexthops) (quiet : t.warned = s.warned) : Failed s t :=
  ⟨exact.of_unchanged ⟨ht, nexthops⟩ quiet, ht, nexthops⟩

/-- Something is counted, or nothing happens. -/
theorem twp_nsimNexthopAccount (exact : Exact s) (occ : ℕ) :
    twp (nsimNexthopAccount occ true)
      (fun _ t => s.nexthops.num + occ ≤ s.nexthops.max.toNat ∧
        t = s.setNum (s.nexthops.num + occ))
      (fun _ t => Failed s t) s := by
  unfold nsimNexthopAccount
  rw [if_pos rfl]
  refine twp_mono (twp_accountLoop occ 0 exact.le_max) (fun _ _ => id) ?_
  rintro _ _ rfl
  refine exact.failed rfl ?_ rfl
  rw [Nat.cast_zero, sub_zero]
  rfl

/-- What was counted is subtracted again when the hash table operation fails. -/
theorem twp_undo (exact : Exact s) (room : s.nexthops.num + occ ≤ s.nexthops.max.toNat)
    (faults : List (Option Errno)) :
    twp (nsimNexthopDismiss occ) (fun _ t => Failed s t) (fun _ t => Failed s t)
      { s.setNum (s.nexthops.num + occ) with faults := faults } := by
  have nonneg : (0 : ℤ) ≤ s.nexthops.num := exact.num_eq ▸ Int.natCast_nonneg _
  refine twp_nsimNexthopDismiss ?_ room ?_
  · show (occ : ℤ) ≤ s.nexthops.num + occ
    omega
  · refine exact.failed rfl ?_ rfl
    show NsimFibEntry.mk s.nexthops.max (s.nexthops.num + occ - occ) = s.nexthops
    rw [add_sub_cancel_right]

/-- The nexthop is counted and put in the table, or nothing happens. -/
theorem twp_nsimNexthopAdd (exact : Exact s) (absent : s.nexthopHt.lookup nexthop.id = none) :
    twp (nsimNexthopAdd nexthop) (fun _ t => Exact t) (fun _ t => Failed s t) s := by
  unfold nsimNexthopAdd
  rw [twp_bind]
  refine twp_mono (twp_nsimNexthopAccount exact nexthop.occ) ?_ fun _ _ => id
  rintro _ _ ⟨room, rfl⟩
  rw [twp_bind, twp_unwind]
  unfold rhashtableInsertFast
  rw [twp_bind, twp_fault]
  split
  · exact twp_undo exact room _
  · simp only [twp_bind, twp_get, twp_failIf, twp_set]
    refine ⟨fun mem => absurd mem (AList.lookup_eq_none.1 absent), fun _ => ?_⟩
    refine ⟨?_, room, exact.quiet⟩
    show s.nexthops.num + nexthop.occ = (occupied (s.nexthopHt.insert nexthop.id nexthop) : ℤ)
    rw [occupied_insert_new absent, exact.num_eq]
    push_cast
    omega

/-- The nexthop takes the place of the old one, or nothing happens. -/
theorem twp_nsimNexthopReplace (exact : Exact s)
    (present : s.nexthopHt.lookup nexthop.id = some old) :
    twp (nsimNexthopReplace nexthop old) (fun _ t => Exact t) (fun _ t => Failed s t) s := by
  have replaced : occupied (s.nexthopHt.insert nexthop.id nexthop) + old.occ =
      occupied s.nexthopHt + nexthop.occ := occupied_insert_old present
  have num_eq := exact.num_eq
  unfold nsimNexthopReplace
  rw [twp_bind]
  refine twp_mono (twp_nsimNexthopAccount exact nexthop.occ) ?_ fun _ _ => id
  rintro _ _ ⟨room, rfl⟩
  rw [twp_bind, twp_unwind]
  unfold rhashtableReplaceFast
  rw [twp_bind, twp_fault]
  split
  · exact twp_undo exact room _
  · simp only [twp_bind, twp_get, twp_failIf, twp_set]
    refine ⟨fun other => absurd present other, fun _ => ?_⟩
    unfold nsimNexthopHwFlagsSet
    rw [twp_modify]
    refine twp_nsimNexthopDismiss ?_ room ⟨?_, ?_, exact.quiet⟩
    · show (old.occ : ℤ) ≤ s.nexthops.num + nexthop.occ
      omega
    · show s.nexthops.num + nexthop.occ - old.occ =
        (occupied (s.nexthopHt.insert nexthop.id nexthop) : ℤ)
      omega
    · show s.nexthops.num + nexthop.occ - old.occ ≤ (s.nexthops.max.toNat : ℤ)
      omega

theorem twp_nsimNexthopInsert (exact : Exact s) (info : NhNotifierInfo) :
    twp (nsimNexthopInsert info) (fun _ t => Exact t) (fun _ t => Failed s t) s := by
  have failed : ∀ faults, Failed s { s with faults := faults } := fun _ => exact.failed rfl rfl rfl
  unfold nsimNexthopInsert nsimNexthopCreate mayRunOut
  rw [twp_bind, twp_bind, twp_bind, twp_fault]
  split
  · exact failed _
  · rw [twp_pure]
    cases determined : info.type.occ with
    | none => exact failed _
    | some occ =>
      dsimp only
      rw [twp_pure, twp_bind, twp_get]
      cases at_id : s.nexthopHt.lookup info.id with
      | none => exact twp_nsimNexthopAdd (failed _).1 at_id
      | some old => exact twp_nsimNexthopReplace (failed _).1 at_id

theorem twp_nsimNexthopRemove (exact : Exact s) (info : NhNotifierInfo) :
    twp (nsimNexthopRemove info) (fun _ t => Exact t) (fun _ t => Failed s t) s := by
  have num_eq := exact.num_eq
  have le_max := exact.le_max
  unfold nsimNexthopRemove
  rw [twp_bind, twp_get]
  cases at_id : s.nexthopHt.lookup info.id with
  | none => exact exact
  | some nexthop =>
    have erased := occupied_erase at_id
    dsimp only
    rw [twp_bind, twp_modify]
    refine twp_nsimNexthopDismiss ?_ le_max ⟨?_, ?_, exact.quiet⟩
    · show (nexthop.occ : ℤ) ≤ s.nexthops.num
      omega
    · show s.nexthops.num - nexthop.occ = (occupied (s.nexthopHt.erase info.id) : ℤ)
      omega
    · show s.nexthops.num - nexthop.occ ≤ (s.nexthops.max.toNat : ℤ)
      omega

/-- Every event keeps the counter right, and one that fails changes nothing. -/
theorem twp_nsimNexthopEventNb (exact : Exact s) (event : NexthopEventType)
    (info : NhNotifierInfo) :
    twp (nsimNexthopEventNb event info) (fun _ t => Exact t) (fun _ t => Failed s t) s := by
  unfold nsimNexthopEventNb
  cases event with
  | REPLACE => exact twp_nsimNexthopInsert exact info
  | DEL => exact twp_nsimNexthopRemove exact info
  | RES_TABLE_PRE_REPLACE =>
    unfold nsimNexthopResTablePreReplace
    rw [twp_bind, twp_get, twp_failIf]
    exact ⟨fun _ => exact.failed rfl rfl rfl, fun _ => exact⟩
  | BUCKET_REPLACE =>
    unfold nsimNexthopBucketReplace
    rw [twp_bind, twp_get, twp_bind, twp_failIf]
    refine ⟨fun _ => exact.failed rfl rfl rfl, fun _ => ?_⟩
    split
    · exact exact.of_unchanged ⟨rfl, rfl⟩ rfl
    · exact exact

end Rules

/-! ## Runs -/

inductive NexthopAction where
  | event (event : NexthopEventType) (info : NhNotifierInfo) (faults : List (Option Errno))
  /-- The user writes `fail_res_nexthop_group_replace`. -/
  | failResNexthopGroupReplace (value : Bool)
  /-- The user writes `fail_nexthop_bucket_replace`. -/
  | failNexthopBucketReplace (value : Bool)

/-- The state after an action, whether it fails or not. -/
def NexthopData.next (s : NexthopData) : NexthopAction → Option NexthopData
  | .event event info faults =>
    ((nsimNexthopEventNb event info).exec { s with faults := faults }).map Prod.snd
  | .failResNexthopGroupReplace value => some { s with failResNexthopGroupReplace := value }
  | .failNexthopBucketReplace value => some { s with failNexthopBucketReplace := value }

/-- No nexthop is there. -/
def NexthopData.start (max : UInt64) : NexthopData where
  nexthops := ⟨max, 0⟩
  nexthopHt := ∅
  failResNexthopGroupReplace := false
  failNexthopBucketReplace := false
  hwFlags := []
  warned := false
  faults := []

/-- Events, under `nh_lock`, in any order. -/
def nexthopSystem : TransitionSystem NexthopData NexthopAction where
  init s := ∃ max, s = .start max
  step s a t := s.next a = some t

section Runs

variable {s t : NexthopData}

theorem exact_next (exact : Exact s) {a : NexthopAction} (next : s.next a = some t) : Exact t := by
  cases a with
  | event event info faults =>
    have start : Exact { s with faults := faults } := exact.of_unchanged ⟨rfl, rfl⟩ rfl
    have rule := twp_nsimNexthopEventNb start event info
    obtain ⟨⟨result, u⟩, run, rfl⟩ := Option.map_eq_some_iff.1 next
    unfold twp at rule
    rw [run] at rule
    cases result with
    | ok => exact rule
    | error => exact rule.1
  | failResNexthopGroupReplace | failNexthopBucketReplace =>
    obtain rfl := Option.some.inj next
    exact exact.of_unchanged ⟨rfl, rfl⟩ rfl

theorem exact_of_reachable (reachable : nexthopSystem.Reachable s) : Exact s := by
  refine TransitionSystem.Reachable.induct ?_ ?_ reachable
  · rintro _ ⟨max, rfl⟩
    exact ⟨rfl, Int.natCast_nonneg _, rfl⟩
  · intro s a t _ exact next
    exact exact_next exact next

/-- The counter of nexthops is the sum of what they occupy and fits the resource, there was no
warning, and an event, which always comes to an end, changes neither table nor counter when it
fails. -/
theorem nexthop_occupancy_exact (reachable : nexthopSystem.Reachable s) :
    s.nexthops.num = occupied s.nexthopHt ∧ s.nexthops.num ≤ s.nexthops.max.toNat ∧
      s.warned = false ∧
      ∀ event info faults, ∃ result t,
        (nsimNexthopEventNb event info).exec { s with faults := faults } = some (result, t) ∧
          (∀ e, result = .error e → t.nexthopHt = s.nexthopHt ∧ t.nexthops = s.nexthops) := by
  obtain ⟨num_eq, le_max, quiet⟩ := exact_of_reachable reachable
  refine ⟨num_eq, le_max, quiet, fun event info faults => ?_⟩
  have start : Exact { s with faults := faults } := ⟨num_eq, le_max, quiet⟩
  have rule := twp_nsimNexthopEventNb start event info
  obtain ⟨result, t, run⟩ := (completes_of_twp rule).exists
  refine ⟨result, t, run, ?_⟩
  rintro e rfl
  unfold twp at rule
  rw [run] at rule
  exact rule.2

/-- A group of two nexthops of the given weight. -/
def pair (weight : UInt16) : NhGrp := ⟨[weight, weight], by simp⟩

/-- A group does not fit next to a nexthop. -/
theorem nexthop_occupancy_exact_full : ∃ s, nexthopSystem.Reachable s ∧ s.nexthops.num = 5 ∧
    s.nexthops.num = occupied s.nexthopHt := by
  have start : nexthopSystem.Reachable (.start 8) := .init ⟨8, rfl⟩
  obtain ⟨s, reachable, test⟩ := start.exists_of_follow
    [.event .REPLACE ⟨1, .SINGLE⟩ [], .event .REPLACE ⟨2, .GRP (pair 2)⟩ [],
      .event .REPLACE ⟨2, .GRP (pair 2)⟩ [], .event .REPLACE ⟨3, .RES_TABLE 4⟩ [none, some .ENOMEM]]
    (fun s => s.nexthops.num = 5) (fun _ _ _ _ next => next) (by decide +kernel)
  exact ⟨s, reachable, of_decide_eq_true test, (nexthop_occupancy_exact reachable).1⟩

end Runs

end Netdevsim.Fib.Nexthops
