import Netdevsim.Fib.Routes
import Netdevsim.Lib.Total

/-!
# List and hash table

Whenever `fib_lock` is free, `fib_rt_list` and `fib_rt_ht` have the same route objects, no two with
the same key.  Each operation is described by what it does to the table, and none reads a route
object that is not there, whatever fails.
-/

namespace Netdevsim.Fib

open Program

/-! ## The invariant -/

/-- The family of the key is that of the object, and nexthops are counted. -/
def NsimFibRt.WellFormed (r : NsimFibRt) : Prop :=
  match r.data with
  | .inet _ => r.key.family = .AF_INET
  | .inet6 rt => r.key.family = .AF_INET6 ∧ rt.nhs = rt.nhList.length

/-- List and hash table have the same objects, each under its key. -/
structure Sound (s : NsimFibData) : Prop where
  nodup : s.fibRtList.Nodup
  listed : ∀ p, p ∈ s.fibRtList ↔ ∃ key, s.fibRtHt.lookup key = some p
  object : ∀ key p, s.fibRtHt.lookup key = some p → ∃ r, s.rt p = some r ∧ r.key = key
  wellFormed : ∀ p r, s.rt p = some r → r.WellFormed
  fresh : ∀ p, s.nextPtr ≤ p → s.rt p = none

/-! ## Rules -/

section Rules

variable {s : NsimFibData} {E : Refusal → NsimFibData → Prop} {p : ℕ} {r : NsimFibRt}

@[simp] theorem twp_fault {Q : Option Errno → NsimFibData → Prop} :
    twp fault Q E s ↔ Q (s.faults.headD none) { s with faults := s.faults.tail } := Iff.rfl

@[simp] theorem twp_derefRt {Q : NsimFibRt → NsimFibData → Prop} :
    twp (derefRt p) Q E s ↔ ∃ r, s.rt p = some r ∧ Q r s := by
  unfold derefRt
  rw [twp_bind, twp_get]
  cases s.rt p with
  | none => simp [twp, goWrong, exec]
  | some r => simp

theorem twp_derefRt4 {Q : NsimFibRtKey × NsimFib4Rt → NsimFibData → Prop} {key : NsimFibRtKey}
    {rt : NsimFib4Rt} (live : s.rt p = some ⟨key, .inet rt⟩) :
    twp (derefRt4 p) Q E s ↔ Q (key, rt) s := by
  unfold derefRt4
  rw [twp_bind, twp_derefRt]
  constructor
  · rintro ⟨r, here, rest⟩
    rw [live] at here
    cases here
    exact rest
  · exact fun rest => ⟨_, live, rest⟩

theorem twp_derefRt6 {Q : NsimFibRtKey × NsimFib6Rt → NsimFibData → Prop} {key : NsimFibRtKey}
    {rt : NsimFib6Rt} (live : s.rt p = some ⟨key, .inet6 rt⟩) :
    twp (derefRt6 p) Q E s ↔ Q (key, rt) s := by
  unfold derefRt6
  rw [twp_bind, twp_derefRt]
  constructor
  · rintro ⟨r, here, rest⟩
    rw [live] at here
    cases here
    exact rest
  · exact fun rest => ⟨_, live, rest⟩

@[simp] theorem twp_setRt {Q : Unit → NsimFibData → Prop} :
    twp (setRt p r) Q E s ↔ Q () { s with rt := Function.update s.rt p (some r) } := Iff.rfl

@[simp] theorem twp_kfree {Q : Unit → NsimFibData → Prop} :
    twp (kfree p) Q E s ↔ Q () { s with rt := Function.update s.rt p none } := Iff.rfl

@[simp] theorem twp_nsimFibRtFini {Q : Unit → NsimFibData → Prop} :
    twp (nsimFibRtFini p) Q E s ↔ Q () { s with fibRtList := s.fibRtList.erase p } := Iff.rfl

@[simp] theorem twp_hwFlagsSet {flags : HwFlags} {Q : Unit → NsimFibData → Prop} :
    twp (hwFlagsSet flags) Q E s ↔ Q () { s with hwFlags := s.hwFlags ++ [flags] } := Iff.rfl

@[simp] theorem twp_nsimFibRtLookup {key : NsimFibRtKey} {Q : Option ℕ → NsimFibData → Prop} :
    twp (nsimFibRtLookup key) Q E s ↔ Q (s.fibRtHt.lookup key) s := Iff.rfl

theorem twp_mayRunOut {Q : Unit → NsimFibData → Prop} :
    twp mayRunOut Q E s ↔
      if (s.faults.headD none).isSome then E ⟨.ENOMEM, none⟩ { s with faults := s.faults.tail }
      else Q () { s with faults := s.faults.tail } := by
  unfold mayRunOut
  rw [twp_bind, twp_fault]
  split <;> simp

/-- The counter of a family goes down. -/
def NsimFibData.uncount (s : NsimFibData) (family : Family) : NsimFibData :=
  s.setFib family (atomic64DecIfPositive (s.fib family).num)

@[simp] theorem twp_nsimFibAccount_false {family : Family} {extack : Option String}
    {Q : Unit → NsimFibData → Prop} :
    twp (nsimFibAccount family false extack) Q E s ↔ Q () (s.uncount family) := Iff.rfl

/-- Nothing changed but the memory not yet handed out, the faults to come and what the kernel was
told. -/
def Unchanged (s t : NsimFibData) : Prop :=
  ∃ next faults flags, s.nextPtr ≤ next ∧
    t = { s with nextPtr := next, faults := faults, hwFlags := flags }

theorem Unchanged.refl (s : NsimFibData) : Unchanged s s := ⟨_, _, _, le_rfl, rfl⟩

theorem Unchanged.trans {s t u : NsimFibData} (first : Unchanged s t) (second : Unchanged t u) :
    Unchanged s u := by
  obtain ⟨_, _, _, le, rfl⟩ := first
  obtain ⟨_, _, _, le', rfl⟩ := second
  exact ⟨_, _, _, le.trans le', rfl⟩

/-- Whether one of the next `n` calls that may fail does. -/
def anyFails (n : ℕ) (faults : List (Option Errno)) : Bool := (faults.take n).any Option.isSome

theorem anyFails_succ {n : ℕ} {faults : List (Option Errno)} :
    anyFails (n + 1) faults = ((faults.headD none).isSome || anyFails n faults.tail) := by
  cases faults with
  | nil => simp [anyFails]
  | cons f faults => simp [anyFails]

theorem drop_succ_tail {n : ℕ} {faults : List (Option Errno)} :
    faults.drop (n + 1) = faults.tail.drop n := by
  rw [List.drop_tail]

end Rules

/-! ## What happens to the table -/

/-- A new object in list and table. -/
def NsimFibData.insertRt (s : NsimFibData) (r : NsimFibRt) : NsimFibData :=
  { s with
    rt := Function.update s.rt s.nextPtr (some r)
    fibRtList := s.nextPtr :: s.fibRtList
    fibRtHt := s.fibRtHt.insert r.key s.nextPtr
    nextPtr := s.nextPtr + 1 }

/-- An object changes. -/
def NsimFibData.changeRt (s : NsimFibData) (p : ℕ) (r : NsimFibRt) : NsimFibData :=
  { s with rt := Function.update s.rt p (some r) }

@[simp] theorem NsimFibData.rt_changeRt (s : NsimFibData) (p : ℕ) (r : NsimFibRt) :
    (s.changeRt p r).rt = Function.update s.rt p (some r) := rfl

/-- An object goes. -/
def NsimFibData.dropRt (s : NsimFibData) (p : ℕ) : NsimFibData :=
  { s with rt := Function.update s.rt p none, fibRtList := s.fibRtList.erase p }

/-- An object goes from list and table. -/
def NsimFibData.removeRt (s : NsimFibData) (key : NsimFibRtKey) (p : ℕ) : NsimFibData :=
  { s.dropRt p with fibRtHt := s.fibRtHt.erase key }

@[simp] theorem NsimFibData.rt_insertRt (s : NsimFibData) (r : NsimFibRt) :
    (s.insertRt r).rt = Function.update s.rt s.nextPtr (some r) := rfl

@[simp] theorem NsimFibData.rt_removeRt (s : NsimFibData) (key : NsimFibRtKey) (p : ℕ) :
    (s.removeRt key p).rt = Function.update s.rt p none := rfl

/-- An object is inserted, in place of the one with its key if there is one. -/
def NsimFibData.programRt (s : NsimFibData) (r : NsimFibRt) : NsimFibData :=
  match s.fibRtHt.lookup r.key with
  | none => s.insertRt r
  | some old => ((s.insertRt r).dropRt old).uncount r.key.family

namespace Sound

variable {s t : NsimFibData} {p : ℕ} {r : NsimFibRt} {key : NsimFibRtKey}

theorem of_eq (sound : Sound s) (list : t.fibRtList = s.fibRtList) (ht : t.fibRtHt = s.fibRtHt)
    (rt : t.rt = s.rt) (next : s.nextPtr ≤ t.nextPtr) : Sound t := by
  refine ⟨list ▸ sound.nodup, fun p => ?_, fun key p => ?_, fun p r => ?_, fun p below => ?_⟩
  · rw [list, ht]
    exact sound.listed p
  · rw [ht, rt]
    exact sound.object key p
  · rw [rt]
    exact sound.wellFormed p r
  · rw [rt]
    exact sound.fresh p (next.trans below)

theorem unchanged (sound : Sound s) (same : Unchanged s t) : Sound t := by
  obtain ⟨_, _, _, le, rfl⟩ := same
  exact sound.of_eq rfl rfl rfl le

theorem uncount (sound : Sound s) (family : Family) : Sound (s.uncount family) :=
  sound.of_eq rfl rfl rfl le_rfl

/-- No two objects have the same key. -/
theorem unique (sound : Sound s) {q : ℕ} (mem : p ∈ s.fibRtList) (mem' : q ∈ s.fibRtList)
    {r r' : NsimFibRt} (live : s.rt p = some r) (live' : s.rt q = some r') (same : r.key = r'.key) :
    p = q := by
  obtain ⟨key, at_p⟩ := (sound.listed p).1 mem
  obtain ⟨key', at_q⟩ := (sound.listed q).1 mem'
  obtain ⟨_, here, rfl⟩ := sound.object key p at_p
  obtain ⟨_, there, rfl⟩ := sound.object key' q at_q
  rw [live] at here
  rw [live'] at there
  cases here
  cases there
  rw [same, at_q] at at_p
  exact (Option.some.inj at_p).symm

theorem lookup_inj (sound : Sound s) {key' : NsimFibRtKey} (at_key : s.fibRtHt.lookup key = some p)
    (at_key' : s.fibRtHt.lookup key' = some p) : key = key' := by
  obtain ⟨r, live, rfl⟩ := sound.object key p at_key
  obtain ⟨r', live', rfl⟩ := sound.object key' p at_key'
  rw [live] at live'
  cases live'
  rfl

theorem lt_nextPtr (sound : Sound s) (live : s.rt p = some r) : p < s.nextPtr := by
  by_contra above
  rw [sound.fresh p (not_lt.1 above)] at live
  cases live

/-- The data of an object may change. -/
theorem changeRt (sound : Sound s) {r' : NsimFibRt} (live : s.rt p = some r)
    (key : r'.key = r.key) (wellFormed : r'.WellFormed) : Sound (s.changeRt p r') := by
  have next := sound.lt_nextPtr live
  refine ⟨sound.nodup, sound.listed, fun k q at_k => ?_, fun q r₀ live₀ => ?_, fun q below => ?_⟩
  · obtain ⟨r₀, live₀, key₀⟩ := sound.object k q at_k
    by_cases here : q = p
    · subst here
      rw [live] at live₀
      cases live₀
      exact ⟨r', Function.update_self .., key.trans key₀⟩
    · exact ⟨r₀, (Function.update_of_ne here ..).trans live₀, key₀⟩
  · by_cases here : q = p
    · subst here
      rw [NsimFibData.rt_changeRt, Function.update_self] at live₀
      cases live₀
      exact wellFormed
    · rw [NsimFibData.rt_changeRt, Function.update_of_ne here] at live₀
      exact sound.wellFormed q r₀ live₀
  · have away : q ≠ p := (next.trans_le below).ne'
    rw [NsimFibData.rt_changeRt, Function.update_of_ne away]
    exact sound.fresh q below

theorem insertRt (sound : Sound s) (new : s.fibRtHt.lookup r.key = none)
    (wellFormed : r.WellFormed) : Sound (s.insertRt r) := by
  have unused := sound.fresh s.nextPtr le_rfl
  have notListed : s.nextPtr ∉ s.fibRtList := by
    intro mem
    obtain ⟨key, at_key⟩ := (sound.listed _).1 mem
    obtain ⟨r', live, -⟩ := sound.object key _ at_key
    rw [unused] at live
    cases live
  refine ⟨List.nodup_cons.2 ⟨notListed, sound.nodup⟩, fun p => ?_, fun key p at_key => ?_,
    fun p r' live => ?_, fun p below => ?_⟩
  · rw [NsimFibData.insertRt, List.mem_cons, sound.listed]
    constructor
    · rintro (rfl | ⟨key, at_key⟩)
      · exact ⟨r.key, AList.lookup_insert _⟩
      · refine ⟨key, ?_⟩
        rw [AList.lookup_insert_ne, at_key]
        rintro rfl
        rw [new] at at_key
        cases at_key
    · rintro ⟨key, at_key⟩
      by_cases here : key = r.key
      · subst here
        rw [AList.lookup_insert] at at_key
        exact .inl (Option.some.inj at_key).symm
      · rw [AList.lookup_insert_ne here] at at_key
        exact .inr ⟨key, at_key⟩
  · by_cases here : key = r.key
    · subst here
      rw [NsimFibData.insertRt, AList.lookup_insert] at at_key
      cases at_key
      exact ⟨r, Function.update_self .., rfl⟩
    · rw [NsimFibData.insertRt, AList.lookup_insert_ne here] at at_key
      obtain ⟨r', live, key'⟩ := sound.object key p at_key
      have away : p ≠ s.nextPtr := (sound.lt_nextPtr live).ne
      exact ⟨r', (Function.update_of_ne away ..).trans live, key'⟩
  · by_cases here : p = s.nextPtr
    · subst here
      rw [NsimFibData.rt_insertRt, Function.update_self] at live
      cases live
      exact wellFormed
    · rw [NsimFibData.rt_insertRt, Function.update_of_ne here] at live
      exact sound.wellFormed p r' live
  · have above : s.nextPtr + 1 ≤ p := below
    rw [NsimFibData.rt_insertRt, Function.update_of_ne (by omega)]
    exact sound.fresh p (by omega)

theorem removeRt (sound : Sound s) (at_key : s.fibRtHt.lookup key = some p) :
    Sound (s.removeRt key p) := by
  have other : ∀ {key' q}, s.fibRtHt.lookup key' = some q → (key' ≠ key ↔ q ≠ p) := by
    intro key' q at_key'
    constructor
    · rintro away rfl
      exact away (sound.lookup_inj at_key' at_key)
    · rintro away rfl
      rw [at_key] at at_key'
      exact away (Option.some.inj at_key').symm
  have kept : ∀ key' q, (s.fibRtHt.erase key).lookup key' = some q ↔
      s.fibRtHt.lookup key' = some q ∧ q ≠ p := by
    intro key' q
    by_cases here : key' = key
    · subst here
      rw [AList.lookup_erase]
      constructor
      · nofun
      · rintro ⟨at_key', away⟩
        exact absurd rfl ((other at_key').2 away)
    · rw [AList.lookup_erase_ne here]
      exact ⟨fun at_key' => ⟨at_key', (other at_key').1 here⟩, And.left⟩
  refine ⟨sound.nodup.erase p, fun q => ?_, fun key' q at_key' => ?_, fun q r live => ?_,
    fun q below => ?_⟩
  · show q ∈ s.fibRtList.erase p ↔ ∃ key', (s.fibRtHt.erase key).lookup key' = some q
    rw [sound.nodup.mem_erase_iff, sound.listed]
    constructor
    · rintro ⟨away, key', at_key'⟩
      exact ⟨key', (kept key' q).2 ⟨at_key', away⟩⟩
    · rintro ⟨key', at_key'⟩
      obtain ⟨at_key', away⟩ := (kept key' q).1 at_key'
      exact ⟨away, key', at_key'⟩
  · obtain ⟨at_key', away⟩ := (kept key' q).1 at_key'
    obtain ⟨r, live, key''⟩ := sound.object key' q at_key'
    exact ⟨r, (Function.update_of_ne away ..).trans live, key''⟩
  · by_cases here : q = p
    · subst here
      rw [NsimFibData.rt_removeRt, Function.update_self] at live
      cases live
    · rw [NsimFibData.rt_removeRt, Function.update_of_ne here] at live
      exact sound.wellFormed q r live
  · by_cases here : q = p
    · subst here
      exact Function.update_self ..
    · rw [NsimFibData.rt_removeRt, Function.update_of_ne here]
      exact sound.fresh q below

/-- Replacing an object is removing it and inserting the new one. -/
theorem insertRt_dropRt (sound : Sound s) (at_key : s.fibRtHt.lookup r.key = some p) :
    (s.insertRt r).dropRt p = (s.removeRt r.key p).insertRt r := by
  obtain ⟨r', live, -⟩ := sound.object _ _ at_key
  have away : p ≠ s.nextPtr := (sound.lt_nextPtr live).ne
  unfold NsimFibData.insertRt NsimFibData.removeRt NsimFibData.dropRt
  simp only [NsimFibData.mk.injEq, true_and]
  refine ⟨?_, ?_, Function.update_comm away.symm .., trivial⟩
  · refine AList.ext ?_
    rw [AList.entries_insert, AList.entries_insert_of_notMem]
    · rfl
    · exact fun mem => (AList.mem_erase.1 mem).1 rfl
  · exact List.erase_cons_tail (by simpa using away.symm)

theorem programRt (sound : Sound s) (wellFormed : r.WellFormed) : Sound (s.programRt r) := by
  unfold NsimFibData.programRt
  cases at_key : s.fibRtHt.lookup r.key with
  | none => exact sound.insertRt at_key wellFormed
  | some p =>
    dsimp only
    rw [sound.insertRt_dropRt at_key]
    refine ((sound.removeRt at_key).insertRt ?_ wellFormed).uncount _
    exact AList.lookup_erase ..

theorem rt_programRt_self (sound : Sound s) (r : NsimFibRt) :
    (s.programRt r).rt s.nextPtr = some r := by
  unfold NsimFibData.programRt
  cases at_key : s.fibRtHt.lookup r.key with
  | none => exact Function.update_self ..
  | some p =>
    obtain ⟨_, live, -⟩ := sound.object _ p at_key
    refine (Function.update_of_ne (sound.lt_nextPtr live).ne' ..).trans ?_
    exact Function.update_self ..

theorem rt_programRt_of_ne (sound : Sound s) {r r' : NsimFibRt} (live : s.rt p = some r')
    (away : s.fibRtHt.lookup r.key ≠ some p) : (s.programRt r).rt p = s.rt p := by
  unfold NsimFibData.programRt
  cases at_key : s.fibRtHt.lookup r.key with
  | none => exact Function.update_of_ne (sound.lt_nextPtr live).ne ..
  | some q =>
    have other : p ≠ q := by
      rintro rfl
      exact away at_key
    refine (Function.update_of_ne other ..).trans ?_
    exact Function.update_of_ne (sound.lt_nextPtr live).ne ..

end Sound

theorem NsimFibData.fibRtHt_programRt (s : NsimFibData) (r : NsimFibRt) :
    (s.programRt r).fibRtHt = s.fibRtHt.insert r.key s.nextPtr := by
  unfold NsimFibData.programRt
  split <;> rfl

end Netdevsim.Fib
