import Netdevsim.Fib.Sound

/-!
# What the operations do

For each operation of the route table, what it leaves when it succeeds and when it fails, and from
which faults it fails.  The two functions that insert a route follow one rule.
-/

namespace Netdevsim.Fib

open Program

/-! ## Allocations and the hash table -/

section Table

variable {s : NsimFibData} {E : Refusal → NsimFibData → Prop} {p old : ℕ} {r : NsimFibRt}
  {key : NsimFibRtKey}

theorem twp_kzalloc {Q : ℕ → NsimFibData → Prop}
    (ok : (s.faults.headD none).isSome = false →
      Q s.nextPtr { s with nextPtr := s.nextPtr + 1, faults := s.faults.tail })
    (error : (s.faults.headD none).isSome = true → ∀ e, E e { s with faults := s.faults.tail }) :
    twp kzalloc Q E s := by
  unfold kzalloc
  rw [twp_bind, twp_mayRunOut]
  split
  · rename_i fails
    exact error fails _
  · rename_i succeeds
    exact ok (Bool.not_eq_true _ ▸ succeeds)

/-- An insertion fails with a fault only. -/
theorem twp_rhashtableInsertFast {Q : Unit → NsimFibData → Prop}
    (absent : s.fibRtHt.lookup key = none)
    (ok : (s.faults.headD none).isSome = false →
      Q () { s with faults := s.faults.tail, fibRtHt := s.fibRtHt.insert key p })
    (error : (s.faults.headD none).isSome = true → ∀ e, E e { s with faults := s.faults.tail }) :
    twp (rhashtableInsertFast key p) Q E s := by
  unfold rhashtableInsertFast
  rw [twp_bind, twp_fault]
  cases fails : s.faults.headD none with
  | some e =>
    rw [fails] at error
    exact error rfl _
  | none =>
    rw [fails] at ok
    simp only [twp_bind, twp_get, twp_failIf, twp_set]
    exact ⟨fun mem => absurd mem (AList.lookup_eq_none.1 absent), fun _ => ok rfl⟩

/-- A replacement of what is there fails with a fault only. -/
theorem twp_rhashtableReplaceFast {Q : Unit → NsimFibData → Prop}
    (present : s.fibRtHt.lookup key = some old)
    (ok : (s.faults.headD none).isSome = false →
      Q () { s with faults := s.faults.tail, fibRtHt := s.fibRtHt.insert key p })
    (error : (s.faults.headD none).isSome = true → ∀ e, E e { s with faults := s.faults.tail }) :
    twp (rhashtableReplaceFast key old p) Q E s := by
  unfold rhashtableReplaceFast
  rw [twp_bind, twp_fault]
  cases fails : s.faults.headD none with
  | some e =>
    rw [fails] at error
    exact error rfl _
  | none =>
    rw [fails] at ok
    simp only [twp_bind, twp_get, twp_failIf, twp_set]
    exact ⟨fun other => absurd present other, fun _ => ok rfl⟩

theorem twp_rhashtableRemoveFast {Q : Unit → NsimFibData → Prop}
    (present : s.fibRtHt.lookup key = some p) :
    twp (rhashtableRemoveFast key p) Q E s ↔ Q () { s with fibRtHt := s.fibRtHt.erase key } := by
  unfold rhashtableRemoveFast
  rw [twp_modify, if_pos present]

end Table

/-! ## Inserting routes -/

/-- Whether an insertion fails before it counts: it is made to fail, or one of its `n` allocations
fails. -/
def NsimFibData.refuses (s : NsimFibData) (n : ℕ) : Bool :=
  s.failRouteOffload || anyFails n s.faults

/-- Whether the hash table operation after `n` allocations fails. -/
def NsimFibData.hashFails (s : NsimFibData) (n : ℕ) : Bool := ((s.faults.drop n).headD none).isSome

/-- The object is of the family. -/
def NsimFibRt.Of (r : NsimFibRt) (family : Family) : Prop := r.WellFormed ∧ r.key.family = family

section Insert

variable {family : Family} {hwFlagsSet : ℕ → Bool → FibM Unit} {destroy : ℕ → FibM Unit}
  {create : FibM ℕ} {s : NsimFibData} {r : NsimFibRt} {n : ℕ}

/-- Telling the kernel about an object changes nothing. -/
def SetsFlags (family : Family) (hwFlagsSet : ℕ → Bool → FibM Unit) : Prop :=
  ∀ s p trap r, s.rt p = some r → r.Of family →
    twp (hwFlagsSet p trap) (fun _ t => Unchanged s t) (fun _ _ => False) s

/-- The destruction of an object only takes the object away. -/
def Destroys (family : Family) (destroy : ℕ → FibM Unit) : Prop :=
  ∀ s p r, s.rt p = some r → r.Of family →
    twp (destroy p) (fun _ t => t = s.dropRt p) (fun _ _ => False) s

/-- The creation of an object makes `n` allocations. -/
def Creates (n : ℕ) (r : NsimFibRt) (create : FibM ℕ) : Prop :=
  ∀ s, (∀ p, s.nextPtr ≤ p → s.rt p = none) →
    twp create
      (fun p t => anyFails n s.faults = false ∧ p = s.nextPtr ∧
        t = { s with
          rt := Function.update s.rt s.nextPtr (some r), fibRtList := s.nextPtr :: s.fibRtList
          nextPtr := s.nextPtr + 1, faults := s.faults.drop n })
      (fun _ t => anyFails n s.faults = true ∧ Unchanged s t) s

/-- The state in which a new object is in the list but not in the table. -/
def NsimFibData.createRt (s : NsimFibData) (r : NsimFibRt) (n : ℕ) : NsimFibData :=
  { s with
    rt := Function.update s.rt s.nextPtr (some r), fibRtList := s.nextPtr :: s.fibRtList
    nextPtr := s.nextPtr + 1, faults := s.faults.drop n }

/-- Destroying the new object undoes its creation. -/
theorem unchanged_dropRt (sound : Sound s) {t : NsimFibData} (same : Unchanged (s.createRt r n) t) :
    Unchanged s (t.dropRt s.nextPtr) := by
  obtain ⟨next, faults, flags, le, rfl⟩ := same
  refine ⟨next, faults, flags, (Nat.le_succ _).trans le, ?_⟩
  have rt : Function.update (Function.update s.rt s.nextPtr (some r)) s.nextPtr none = s.rt := by
    rw [Function.update_idem, ← sound.fresh s.nextPtr le_rfl, Function.update_eq_self]
  unfold NsimFibData.dropRt NsimFibData.createRt
  simp [rt]

theorem twp_fibRtAdd (flags : SetsFlags family hwFlagsSet) (of : r.Of family)
    (absent : s.fibRtHt.lookup r.key = none) :
    twp (fibRtAdd family hwFlagsSet s.nextPtr)
      (fun _ t => s.hashFails n = false ∧ Unchanged (s.insertRt r) t)
      (fun _ t => s.hashFails n = true ∧ Unchanged ((s.uncount family).createRt r n) t)
      (s.createRt r n) := by
  have live : (s.createRt r n).rt s.nextPtr = some r := Function.update_self ..
  unfold fibRtAdd
  rw [twp_bind, twp_derefRt]
  refine ⟨r, live, ?_⟩
  rw [twp_bind, twp_unwind]
  refine twp_rhashtableInsertFast absent (fun succeeds => ?_) fun fails _ => ?_
  · refine twp_mono (flags _ _ true r live of) (fun _ t same => ⟨succeeds, ?_⟩) fun _ _ => False.elim
    exact Unchanged.trans ⟨_, _, _, le_rfl, rfl⟩ same
  · rw [twp_nsimFibAccount_false]
    exact ⟨fails, _, _, _, le_rfl, rfl⟩

theorem twp_fibRtReplace (flags : SetsFlags family hwFlagsSet) (destroys : Destroys family destroy)
    (sound : Sound s) (of : r.Of family) {old : ℕ} (present : s.fibRtHt.lookup r.key = some old) :
    twp (fibRtReplace family hwFlagsSet destroy s.nextPtr old)
      (fun _ t => s.hashFails n = false ∧
        Unchanged (((s.insertRt r).dropRt old).uncount family) t)
      (fun _ t => s.hashFails n = true ∧ Unchanged ((s.uncount family).createRt r n) t)
      (s.createRt r n) := by
  obtain ⟨r', live', key⟩ := sound.object _ _ present
  have of' : r'.Of family := ⟨sound.wellFormed _ _ live', key ▸ of.2⟩
  have apart : old ≠ s.nextPtr := (sound.lt_nextPtr live').ne
  unfold fibRtReplace
  rw [twp_bind, twp_nsimFibAccount_false, twp_bind, twp_derefRt]
  refine ⟨r, Function.update_self .., ?_⟩
  rw [twp_bind]
  refine twp_rhashtableReplaceFast present (fun succeeds => ?_) fun fails _ =>
    ⟨fails, _, _, _, le_rfl, rfl⟩
  rw [twp_bind]
  refine twp_mono (flags _ _ true r (Function.update_self ..) of) ?_ fun _ _ => False.elim
  rintro _ _ ⟨next, faults, told, le, rfl⟩
  rw [twp_bind]
  refine twp_mono (flags _ old false r' ((Function.update_of_ne apart ..).trans live') of') ?_
    fun _ _ => False.elim
  rintro _ _ ⟨next', faults', told', le', rfl⟩
  refine twp_mono (destroys _ old r' ((Function.update_of_ne apart ..).trans live') of') ?_
    fun _ _ => False.elim
  rintro _ _ rfl
  exact ⟨succeeds, next', faults', told', le.trans le', rfl⟩

/-- An insertion that is not refused puts the new object in the table, unless the hash table
operation fails.  The count goes down if that operation fails or if a route is replaced. -/
theorem twp_fibRtInsert (flags : SetsFlags family hwFlagsSet) (destroys : Destroys family destroy)
    (creates : Creates n r create) (sound : Sound s) (of : r.Of family) :
    twp (fibRtInsert r.key create destroy (fibRtAdd family hwFlagsSet)
        (fibRtReplace family hwFlagsSet destroy))
      (fun _ t => s.refuses n = false ∧ s.hashFails n = false ∧ Unchanged (s.programRt r) t)
      (fun _ t => if s.refuses n then Unchanged s t
        else s.hashFails n = true ∧ Unchanged (s.uncount family) t) s := by
  unfold fibRtInsert NsimFibData.refuses NsimFibData.programRt
  rw [twp_bind, twp_get, twp_bind, twp_failIf]
  refine ⟨fun fails => ?_, fun offloads => ?_⟩
  · rw [fails, Bool.true_or, if_pos rfl]
    exact .refl s
  · rw [Bool.eq_false_of_not_eq_true offloads, Bool.false_or, twp_bind]
    refine twp_mono (creates s sound.fresh) ?_ fun _ t ⟨fails, same⟩ => by rwa [if_pos fails]
    rintro _ _ ⟨succeeds, rfl, rfl⟩
    rw [twp_bind, twp_nsimFibRtLookup, twp_unwind]
    have undo : ∀ (e : Refusal) t, s.hashFails n = true ∧ Unchanged ((s.uncount family).createRt r n) t →
        twp (destroy s.nextPtr) (fun _ t => if anyFails n s.faults = true then Unchanged s t
          else s.hashFails n = true ∧ Unchanged (s.uncount family) t)
          (fun _ t => if anyFails n s.faults = true then Unchanged s t
            else s.hashFails n = true ∧ Unchanged (s.uncount family) t) t := by
      rintro e t ⟨fails, same⟩
      have gone := unchanged_dropRt (sound.uncount family) same
      obtain ⟨_, _, _, -, rfl⟩ := same
      refine twp_mono (destroys _ _ r (Function.update_self ..) of) ?_ fun _ _ => False.elim
      rintro _ _ rfl
      rw [succeeds, if_neg Bool.false_ne_true]
      exact ⟨fails, gone⟩
    rw [of.2]
    cases at_key : s.fibRtHt.lookup r.key with
    | none =>
      refine twp_mono (twp_fibRtAdd flags of at_key) ?_ undo
      exact fun _ t ⟨succeeds', same⟩ => ⟨succeeds, succeeds', same⟩
    | some old =>
      refine twp_mono (twp_fibRtReplace flags destroys sound of at_key) ?_ undo
      exact fun _ t ⟨succeeds', same⟩ => ⟨succeeds, succeeds', same⟩

end Insert

/-! ## IPv4 routes -/

section Inet

variable {s : NsimFibData} {E : Refusal → NsimFibData → Prop} {p : ℕ}

/-- The object that an event creates. -/
def FibEntryNotifierInfo.rt (fenInfo : FibEntryNotifierInfo) : NsimFibRt :=
  ⟨fenInfo.key, .inet ⟨fenInfo.fi, fenInfo.dscp, fenInfo.type⟩⟩

theorem of_rt (fenInfo : FibEntryNotifierInfo) : fenInfo.rt.Of .AF_INET := ⟨rfl, rfl⟩

theorem exists_inet {r : NsimFibRt} (of : r.Of .AF_INET) : ∃ rt, r = ⟨r.key, .inet rt⟩ := by
  obtain ⟨key, rt | rt⟩ := r
  · exact ⟨rt, rfl⟩
  · have same : Family.AF_INET6 = .AF_INET := of.1.1.symm.trans of.2
    cases same

theorem setsFlags_nsimFib4RtHwFlagsSet : SetsFlags .AF_INET nsimFib4RtHwFlagsSet := by
  intro s p trap r live of
  obtain ⟨rt, eq⟩ := exists_inet of
  rw [eq] at live
  unfold nsimFib4RtHwFlagsSet
  rw [twp_bind, twp_derefRt4 live]
  exact ⟨_, _, _, le_rfl, rfl⟩

theorem destroys_nsimFib4RtDestroy : Destroys .AF_INET nsimFib4RtDestroy := by
  intro s p r live of
  obtain ⟨rt, eq⟩ := exists_inet of
  rw [eq] at live
  unfold nsimFib4RtDestroy
  rw [twp_bind, twp_derefRt4 live]
  exact rfl

theorem creates_nsimFib4RtCreate (fenInfo : FibEntryNotifierInfo) :
    Creates 1 fenInfo.rt (nsimFib4RtCreate fenInfo) := by
  intro s _
  have one : anyFails 1 s.faults = (s.faults.headD none).isSome := by
    rw [anyFails_succ, anyFails, List.take_zero, List.any_nil, Bool.or_false]
  unfold nsimFib4RtCreate
  rw [twp_bind, one]
  refine twp_kzalloc (fun succeeds => ⟨succeeds, rfl, ?_⟩) fun fails _ =>
    ⟨fails, _, _, _, le_rfl, rfl⟩
  rw [List.drop_one]
  rfl

/-- What the insertion of an IPv4 route does. -/
theorem twp_nsimFib4RtInsert (sound : Sound s) (fenInfo : FibEntryNotifierInfo) :
    twp (nsimFib4RtInsert fenInfo)
      (fun _ t => s.refuses 1 = false ∧ s.hashFails 1 = false ∧ Unchanged (s.programRt fenInfo.rt) t)
      (fun _ t => if s.refuses 1 then Unchanged s t
        else s.hashFails 1 = true ∧ Unchanged (s.uncount .AF_INET) t) s := by
  have rule := twp_fibRtInsert setsFlags_nsimFib4RtHwFlagsSet destroys_nsimFib4RtDestroy
    (creates_nsimFib4RtCreate fenInfo) sound (of_rt fenInfo)
  exact rule

/-- The object under an IPv4 key is one of an IPv4 route. -/
theorem of_lookup {family : Family} {key : NsimFibRtKey} (sound : Sound s)
    (at_key : s.fibRtHt.lookup key = some p) (own : key.family = family) :
    ∃ r, s.rt p = some r ∧ r.key = key ∧ r.Of family := by
  obtain ⟨r, live, rfl⟩ := sound.object key p at_key
  exact ⟨r, live, rfl, sound.wellFormed p r live, own⟩

/-- The route with a key goes, if there is one. -/
def NsimFibData.removeKey (s : NsimFibData) (key : NsimFibRtKey) : NsimFibData :=
  match s.fibRtHt.lookup key with
  | none => s
  | some p => s.removeRt key p

theorem Sound.removeKey (sound : Sound s) (key : NsimFibRtKey) : Sound (s.removeKey key) := by
  unfold NsimFibData.removeKey
  cases at_key : s.fibRtHt.lookup key with
  | none => exact sound
  | some p => exact sound.removeRt at_key

@[simp] theorem fib_removeKey (s : NsimFibData) (key : NsimFibRtKey) :
    (s.removeKey key).fib = s.fib := by
  unfold NsimFibData.removeKey
  split <;> rfl

/-- What is left was there. -/
theorem of_lookup_removeKey {key key' : NsimFibRtKey}
    (at_key : (s.removeKey key).fibRtHt.lookup key' = some p) :
    s.fibRtHt.lookup key' = some p ∧ key' ≠ key := by
  unfold NsimFibData.removeKey at at_key
  cases here : s.fibRtHt.lookup key with
  | none =>
    rw [here] at at_key
    refine ⟨at_key, ?_⟩
    rintro rfl
    cases here.symm.trans at_key
  | some q =>
    rw [here] at at_key
    have left : (s.fibRtHt.erase key).lookup key' = some p := at_key
    have away : key' ≠ key := by
      rintro rfl
      rw [AList.lookup_erase] at left
      cases left
    rw [AList.lookup_erase_ne away] at left
    exact ⟨left, away⟩

theorem Sound.rt_removeKey_of_ne (sound : Sound s) {key key' : NsimFibRtKey}
    (at_key : s.fibRtHt.lookup key' = some p) (away : key' ≠ key) :
    (s.removeKey key).rt p = s.rt p := by
  unfold NsimFibData.removeKey
  cases here : s.fibRtHt.lookup key with
  | none => rfl
  | some q =>
    refine Function.update_of_ne ?_ ..
    rintro rfl
    exact away (sound.lookup_inj at_key here)

theorem twp_nsimFib4RtRemove (sound : Sound s) (fenInfo : FibEntryNotifierInfo) :
    twp (nsimFib4RtRemove fenInfo) (fun _ t => t = s.removeKey fenInfo.key)
      (fun _ _ => False) s := by
  unfold nsimFib4RtRemove NsimFibData.removeKey
  rw [twp_bind, twp_nsimFibRtLookup]
  cases at_key : s.fibRtHt.lookup fenInfo.key with
  | none => exact rfl
  | some p =>
    obtain ⟨r, live, key, of⟩ := of_lookup sound at_key rfl
    obtain ⟨rt, eq⟩ := exists_inet of
    have read : s.rt p = some ⟨r.key, .inet rt⟩ := by rw [live, ← eq]
    dsimp only
    rw [twp_bind, twp_derefRt4 read, key, twp_bind, twp_rhashtableRemoveFast at_key]
    exact twp_mono (destroys_nsimFib4RtDestroy _ p r live of) (fun _ _ gone => gone)
      fun _ _ => False.elim

end Inet

/-! ## Nexthops -/

section Nexthops

variable {s : NsimFibData} {E : Refusal → NsimFibData → Prop} {p : ℕ} {key : NsimFibRtKey}
  {rt : NsimFib6Rt} {flag : Fib6Info → Bool → FibM Unit} {told : Fib6Info → Bool → List HwFlags}

/-- The route without a nexthop, if it has it. -/
def NsimFib6Rt.del (rt : NsimFib6Rt) (nh : Fib6Info) : NsimFib6Rt :=
  if rt.nhList.any (·.ptr = nh.ptr) then ⟨rt.nhList.eraseP (·.ptr = nh.ptr), rt.nhs - 1⟩ else rt

/-- The nexthops are counted. -/
def NsimFib6Rt.Exact (rt : NsimFib6Rt) : Prop := rt.nhs = rt.nhList.length

theorem NsimFib6Rt.Exact.del (exact : rt.Exact) (nh : Fib6Info) : (rt.del nh).Exact := by
  unfold NsimFib6Rt.del
  split
  · rename_i found
    obtain ⟨nh', mem, same⟩ := List.any_eq_true.1 found
    have shorter := List.length_eraseP_of_mem (p := fun x => decide (x.ptr = nh.ptr)) mem same
    show rt.nhs - 1 = (rt.nhList.eraseP _).length
    rw [shorter, exact]
  · exact exact

theorem NsimFib6Rt.Exact.dels (exact : rt.Exact) (nhs : List Fib6Info) :
    (nhs.foldl NsimFib6Rt.del rt).Exact := by
  induction nhs generalizing rt with
  | nil => exact exact
  | cons nh nhs ih => exact ih (exact.del nh)

@[simp] theorem changeRt_changeRt {r r' : NsimFibRt} :
    (s.changeRt p r).changeRt p r' = s.changeRt p r' := by
  unfold NsimFibData.changeRt
  simp

theorem changeRt_self {r : NsimFibRt} (live : s.rt p = some r) : s.changeRt p r = s := by
  unfold NsimFibData.changeRt
  rw [← live, Function.update_eq_self]

theorem twp_nsimFib6RtNhDel {nh : Fib6Info} {Q : Unit → NsimFibData → Prop}
    (live : s.rt p = some ⟨key, .inet6 rt⟩) :
    twp (nsimFib6RtNhDel p nh) Q E s ↔ Q () (s.changeRt p ⟨key, .inet6 (rt.del nh)⟩) := by
  unfold nsimFib6RtNhDel NsimFib6Rt.del
  rw [twp_bind, twp_derefRt6 live]
  dsimp only
  by_cases found : (rt.nhList.any fun x => decide (x.ptr = nh.ptr)) = true
  · rw [if_pos found, if_pos found]
    exact Iff.rfl
  · rw [if_neg found, if_neg found, changeRt_self live]
    exact Iff.rfl

theorem twp_nsimFib6RtNhDels {nhs : List Fib6Info} (live : s.rt p = some ⟨key, .inet6 rt⟩) :
    twp (nhs.forM fun nh => nsimFib6RtNhDel p nh)
      (fun _ t => t = s.changeRt p ⟨key, .inet6 (nhs.foldl NsimFib6Rt.del rt)⟩)
      (fun _ _ => False) s := by
  induction nhs generalizing s rt with
  | nil => exact (changeRt_self live).symm
  | cons nh nhs ih =>
    show twp (nsimFib6RtNhDel p nh >>= fun _ => nhs.forM _) _ _ _
    rw [twp_bind, twp_nsimFib6RtNhDel live]
    have rest := @ih (s.changeRt p ⟨key, .inet6 (rt.del nh)⟩) (rt.del nh) (Function.update_self ..)
    rwa [changeRt_changeRt] at rest

/-- What is told the kernel about a nexthop. -/
def TellsNh (flag : Fib6Info → Bool → FibM Unit) (told : Fib6Info → Bool → List HwFlags) : Prop :=
  ∀ s nh trap, twp (flag nh trap) (fun _ t => t = { s with hwFlags := s.hwFlags ++ told nh trap })
    (fun _ _ => False) s

theorem twp_delAdded (flags : TellsNh flag told) {added : List Fib6Info}
    (live : s.rt p = some ⟨key, .inet6 rt⟩) :
    twp (added.forM fun nh => do
        flag nh false
        nsimFib6RtNhDel p nh)
      (fun _ t => ∃ flags, t = { s.changeRt p ⟨key, .inet6 (added.foldl NsimFib6Rt.del rt)⟩ with
        hwFlags := flags })
      (fun _ _ => False) s := by
  induction added generalizing s rt with
  | nil => exact ⟨s.hwFlags, (changeRt_self live).symm⟩
  | cons nh nhs ih =>
    show twp ((flag nh false >>= fun _ => nsimFib6RtNhDel p nh) >>= fun _ => nhs.forM _) _ _ _
    rw [twp_bind, twp_bind]
    refine twp_mono (flags s nh false) ?_ fun _ _ => False.elim
    rintro _ _ rfl
    rw [twp_nsimFib6RtNhDel (by exact live)]
    refine twp_mono (ih (by exact Function.update_self ..)) ?_ fun _ _ => False.elim
    rintro _ _ ⟨after, rfl⟩
    refine ⟨after, ?_⟩
    unfold NsimFibData.changeRt
    simp

/-- The nexthops are added, or the route is left with some nexthops. -/
theorem twp_nsimFib6RtNhAdds (flags : TellsNh flag told) {added nhs : List Fib6Info}
    (live : s.rt p = some ⟨key, .inet6 rt⟩) (exact : rt.Exact) :
    twp (nsimFib6RtNhAdds flag p added nhs)
      (fun _ t => anyFails nhs.length s.faults = false ∧ t =
        { s.changeRt p ⟨key, .inet6 ⟨rt.nhList ++ nhs, rt.nhs + nhs.length⟩⟩ with
          faults := s.faults.drop nhs.length
          hwFlags := s.hwFlags ++ nhs.flatMap fun nh => told nh true })
      (fun _ t => anyFails nhs.length s.faults = true ∧ ∃ rt' faults flags, NsimFib6Rt.Exact rt' ∧
        t = { s.changeRt p ⟨key, .inet6 rt'⟩ with faults := faults, hwFlags := flags }) s := by
  induction nhs generalizing s rt added with
  | nil =>
    refine ⟨rfl, ?_⟩
    have same := changeRt_self live
    simp only [List.append_nil, List.length_nil, Nat.add_zero, List.drop_zero, List.flatMap_nil]
    rw [same]
  | cons nh nhs ih =>
    unfold nsimFib6RtNhAdds nsimFib6RtNhAdd
    rw [twp_bind, twp_unwind, twp_bind, twp_mayRunOut, List.length_cons, anyFails_succ,
      drop_succ_tail]
    split
    · rename_i fails
      refine twp_mono (twp_delAdded flags (by exact live)) ?_ fun _ _ => False.elim
      rintro _ _ ⟨after, rfl⟩
      rw [fails, Bool.true_or]
      exact ⟨rfl, _, _, after, exact.dels added, rfl⟩
    · rename_i succeeds
      rw [Bool.eq_false_of_not_eq_true succeeds, Bool.false_or, twp_bind,
        twp_derefRt6 (by exact live), twp_setRt, twp_bind]
      refine twp_mono (flags _ nh true) ?_ fun _ _ => False.elim
      rintro _ _ rfl
      refine twp_mono (ih (by exact Function.update_self ..) ?_) ?_ ?_
      · unfold NsimFib6Rt.Exact at exact ⊢
        rw [List.length_append, List.length_singleton, exact]
      · rintro _ _ ⟨all, rfl⟩
        refine ⟨all, ?_⟩
        unfold NsimFibData.changeRt
        simp only [Function.update_idem, List.append_assoc, List.singleton_append,
          Nat.add_assoc, Nat.add_comm 1, List.flatMap_cons]
      · rintro _ _ ⟨fails, rt', faults, after, exact', rfl⟩
        refine ⟨fails, rt', faults, after, exact', ?_⟩
        unfold NsimFibData.changeRt
        simp only [Function.update_idem]

end Nexthops

/-! ## IPv6 routes -/

section Inet6

variable {s : NsimFibData} {E : Refusal → NsimFibData → Prop} {p : ℕ} {fib6Event : NsimFib6Event}

/-- The object that an event creates. -/
def NsimFib6Event.newRt (fib6Event : NsimFib6Event) : NsimFibRt :=
  ⟨fib6Event.rt.key, .inet6 ⟨fib6Event.rtArr, fib6Event.nrt6⟩⟩

theorem of_newRt (fib6Event : NsimFib6Event) : fib6Event.newRt.Of .AF_INET6 := ⟨⟨rfl, rfl⟩, rfl⟩

theorem exists_inet6 {r : NsimFibRt} (of : r.Of .AF_INET6) :
    ∃ rt, r = ⟨r.key, .inet6 rt⟩ ∧ rt.Exact := by
  obtain ⟨key, rt | rt⟩ := r
  · have same : Family.AF_INET = .AF_INET6 := Eq.trans (by exact of.1.symm) of.2
    cases same
  · exact ⟨rt, rfl, of.1.2⟩

theorem setsFlags_nsimFib6RtHwFlagsSet : SetsFlags .AF_INET6 nsimFib6RtHwFlagsSet := by
  intro s p trap r live of
  obtain ⟨rt, eq, -⟩ := exists_inet6 of
  have read : s.rt p = some ⟨r.key, .inet6 rt⟩ := by rw [live, ← eq]
  unfold nsimFib6RtHwFlagsSet
  rw [twp_bind, twp_derefRt6 read]
  refine twp_forM (I := fun _ => Unchanged s) (fun nh _ t same => ?_) (.refl s)
  exact same.trans ⟨_, _, _, le_rfl, rfl⟩

theorem destroys_nsimFib6RtDestroy : Destroys .AF_INET6 nsimFib6RtDestroy := by
  intro s p r live of
  obtain ⟨rt, eq, -⟩ := exists_inet6 of
  have read : s.rt p = some ⟨r.key, .inet6 rt⟩ := by rw [live, ← eq]
  unfold nsimFib6RtDestroy
  rw [twp_bind, twp_derefRt6 read, twp_bind]
  refine twp_mono (twp_nsimFib6RtNhDels read) ?_ fun _ _ => False.elim
  rintro _ _ rfl
  show _ = _
  unfold NsimFibData.changeRt NsimFibData.dropRt
  simp only [Function.update_idem]

theorem creates_nsimFib6RtCreate (fib6Event : NsimFib6Event) :
    Creates (fib6Event.nrt6 + 1) fib6Event.newRt (nsimFib6RtCreate fib6Event) := by
  intro s fresh
  unfold nsimFib6RtCreate
  rw [twp_bind, anyFails_succ, drop_succ_tail]
  refine twp_kzalloc (fun succeeds => ?_) fun fails _ => ?_
  · rw [succeeds, Bool.false_or, twp_bind]
    have silent : TellsNh (fun _ _ => return ()) fun _ _ => [] := fun s _ _ => by
      show s = _
      rw [List.append_nil]
    have live : Function.update s.rt s.nextPtr (some ⟨fib6Event.rt.key, .inet6 ⟨[], 0⟩⟩) s.nextPtr =
      some ⟨fib6Event.rt.key, .inet6 ⟨[], 0⟩⟩ := Function.update_self ..
    show twp (unwind _ _ >>= fun _ => pure s.nextPtr) _ _ _
    rw [twp_bind, twp_unwind]
    refine twp_mono (twp_nsimFib6RtNhAdds silent live rfl) ?_ ?_
    · rintro _ _ ⟨all, rfl⟩
      refine ⟨all, rfl, ?_⟩
      unfold NsimFibData.changeRt NsimFib6Event.newRt
      simp only [Function.update_idem, List.nil_append, Nat.zero_add, List.flatMap_eq_nil_iff.2,
        implies_true, List.append_nil]
      rfl
    · rintro _ _ ⟨fails, rt', faults, after, -, rfl⟩
      refine ⟨fails, _, faults, after, Nat.le_succ _, ?_⟩
      have gone : Function.update s.rt s.nextPtr none = s.rt := by
        rw [← fresh s.nextPtr le_rfl, Function.update_eq_self]
      unfold NsimFibData.changeRt
      simp [gone]
  · rw [fails, Bool.true_or]
    exact ⟨rfl, _, _, _, le_rfl, rfl⟩

/-- What the insertion of an IPv6 route does. -/
theorem twp_nsimFib6RtInsert (sound : Sound s) (fib6Event : NsimFib6Event) :
    twp (nsimFib6RtInsert fib6Event)
      (fun _ t => s.refuses (fib6Event.nrt6 + 1) = false ∧
        s.hashFails (fib6Event.nrt6 + 1) = false ∧ Unchanged (s.programRt fib6Event.newRt) t)
      (fun _ t => if s.refuses (fib6Event.nrt6 + 1) then Unchanged s t
        else s.hashFails (fib6Event.nrt6 + 1) = true ∧ Unchanged (s.uncount .AF_INET6) t) s := by
  have rule := twp_fibRtInsert setsFlags_nsimFib6RtHwFlagsSet destroys_nsimFib6RtDestroy
    (creates_nsimFib6RtCreate fib6Event) sound (of_newRt fib6Event)
  exact rule

/-- A nexthop is added to the route there is, and more than one failing leaves some nexthops. -/
theorem twp_nsimFib6RtAppend (sound : Sound s) (fib6Event : NsimFib6Event) :
    twp (nsimFib6RtAppend fib6Event)
      (fun _ t => ∃ p rt, s.fibRtHt.lookup fib6Event.rt.key = some p ∧
        s.rt p = some ⟨fib6Event.rt.key, .inet6 rt⟩ ∧ rt.Exact ∧
        Unchanged (s.changeRt p ⟨fib6Event.rt.key,
          .inet6 ⟨rt.nhList ++ fib6Event.rtArr, rt.nhs + fib6Event.nrt6⟩⟩) t)
      (fun _ t => ((s.failRouteOffload = true ∨ s.fibRtHt.lookup fib6Event.rt.key = none) ∧
          Unchanged s t) ∨
        anyFails fib6Event.nrt6 s.faults = true ∧ ∃ p rt rt',
          s.rt p = some ⟨fib6Event.rt.key, .inet6 rt⟩ ∧ rt'.Exact ∧
            Unchanged (s.changeRt p ⟨fib6Event.rt.key, .inet6 rt'⟩) t) s := by
  unfold nsimFib6RtAppend
  rw [twp_bind, twp_get, twp_bind, twp_failIf]
  refine ⟨fun fails => .inl ⟨.inl fails, .refl s⟩, fun _ => ?_⟩
  rw [twp_bind, twp_nsimFibRtLookup]
  cases at_key : s.fibRtHt.lookup fib6Event.rt.key with
  | none => exact .inl ⟨.inr rfl, .refl s⟩
  | some p =>
    obtain ⟨r, live, key, of⟩ := of_lookup sound at_key rfl
    obtain ⟨rt, eq, exact⟩ := exists_inet6 of
    have read : s.rt p = some ⟨fib6Event.rt.key, .inet6 rt⟩ := by rw [live, ← key, ← eq]
    have tells : TellsNh (fun nh trap => hwFlagsSet (.trap nh trap))
        fun nh trap => [.trap nh trap] := fun _ _ _ => rfl
    refine twp_mono (twp_nsimFib6RtNhAdds tells read exact) ?_ ?_
    · rintro _ _ ⟨-, rfl⟩
      exact ⟨p, rt, rfl, read, exact, _, _, _, le_rfl, rfl⟩
    · rintro _ _ ⟨fails, rt', faults, flags, exact', rfl⟩
      exact .inr ⟨fails, p, rt, rt', read, exact', _, _, _, le_rfl, rfl⟩

/-- The deletion of nexthops: the route goes if as many are deleted as it has. -/
theorem twp_nsimFib6RtRemove (sound : Sound s) (fib6Event : NsimFib6Event) :
    twp (nsimFib6RtRemove fib6Event)
      (fun _ t => (s.fibRtHt.lookup fib6Event.rt.key = none ∧ t = s) ∨
        ∃ p rt, s.fibRtHt.lookup fib6Event.rt.key = some p ∧
          s.rt p = some ⟨fib6Event.rt.key, .inet6 rt⟩ ∧ rt.Exact ∧
          t = if fib6Event.nrt6 = rt.nhs then s.removeRt fib6Event.rt.key p
            else s.changeRt p
              ⟨fib6Event.rt.key, .inet6 (fib6Event.rtArr.foldl NsimFib6Rt.del rt)⟩)
      (fun _ _ => False) s := by
  unfold nsimFib6RtRemove
  rw [twp_bind, twp_nsimFibRtLookup]
  cases at_key : s.fibRtHt.lookup fib6Event.rt.key with
  | none => exact .inl ⟨rfl, rfl⟩
  | some p =>
    obtain ⟨r, live, key, of⟩ := of_lookup sound at_key rfl
    obtain ⟨rt, eq, exact⟩ := exists_inet6 of
    have read : s.rt p = some ⟨fib6Event.rt.key, .inet6 rt⟩ := by rw [live, ← key, ← eq]
    dsimp only
    rw [twp_bind, twp_derefRt6 read]
    by_cases all : fib6Event.nrt6 = rt.nhs
    · dsimp only
      rw [if_neg (not_not.2 all), twp_bind, twp_rhashtableRemoveFast at_key]
      refine twp_mono (destroys_nsimFib6RtDestroy _ p r live of) ?_ fun _ _ => False.elim
      rintro _ _ rfl
      exact .inr ⟨p, rt, rfl, read, exact, by rw [if_pos all]; rfl⟩
    · dsimp only
      rw [if_pos all]
      refine twp_mono (twp_nsimFib6RtNhDels read) ?_ fun _ _ => False.elim
      rintro _ _ rfl
      exact .inr ⟨p, rt, rfl, read, exact, by rw [if_neg all]⟩

end Inet6

end Netdevsim.Fib
