import Netdevsim.Kernel
import Netdevsim.Lib.Runs
import Netdevsim.Lib.Slots

/-!
# MACsec offload

A port has a table of SecYs, and each SecY has a table of receive channels.  An entry is found by its
SCI, the identifier of its secure channel, whether or not its slot is in use: that a free slot is all
zeroes keeps it from being found, unless the SCI looked for is 0 as well.
-/

namespace Netdevsim

abbrev NSIM_MACSEC_MAX_SECY_COUNT : ℕ := 3
abbrev NSIM_MACSEC_MAX_RXSC_COUNT : ℕ := 1

/-! ## Data -/

/-- `struct nsim_rxsc`. -/
structure NsimRxsc where
  sci : UInt64
  used : Bool
  deriving DecidableEq

/-- `struct nsim_secy`. -/
structure NsimSecy where
  sci : UInt64
  nsimRxsc : Fin NSIM_MACSEC_MAX_RXSC_COUNT → NsimRxsc
  nsimRxscCount : UInt8
  used : Bool
  deriving DecidableEq

/-- `struct nsim_macsec`. -/
structure NsimMacsec where
  nsimSecy : Fin NSIM_MACSEC_MAX_SECY_COUNT → NsimSecy
  nsimSecyCount : UInt8

/-- A slot after `memset`. -/
def NsimRxsc.zero : NsimRxsc := ⟨0, false⟩

/-- A slot after `memset`. -/
def NsimSecy.zero : NsimSecy := ⟨0, fun _ => .zero, 0, false⟩

/-- The tables of a new port. -/
def NsimMacsec.empty : NsimMacsec := ⟨fun _ => .zero, 0⟩

def NsimMacsec.setSecy (m : NsimMacsec) (idx : Fin NSIM_MACSEC_MAX_SECY_COUNT) (secy : NsimSecy) :
    NsimMacsec :=
  { m with nsimSecy := Function.update m.nsimSecy idx secy }

def NsimSecy.setRxsc (secy : NsimSecy) (idx : Fin NSIM_MACSEC_MAX_RXSC_COUNT) (rxsc : NsimRxsc) :
    NsimSecy :=
  { secy with nsimRxsc := Function.update secy.nsimRxsc idx rxsc }

/-! ## Operations

A result `none` stands for an access outside of a table. -/

/-- `nsim_macsec_find_secy`. -/
def nsimMacsecFindSecy (m : NsimMacsec) (sci : UInt64) :
    Option (Fin NSIM_MACSEC_MAX_SECY_COUNT) :=
  Fin.find? fun i => (m.nsimSecy i).sci = sci

/-- `nsim_macsec_find_rxsc`. -/
def nsimMacsecFindRxsc (secy : NsimSecy) (sci : UInt64) :
    Option (Fin NSIM_MACSEC_MAX_RXSC_COUNT) :=
  Fin.find? fun i => (secy.nsimRxsc i).sci = sci

/-- `nsim_macsec_add_secy`. -/
def nsimMacsecAddSecy (m : NsimMacsec) (sci : UInt64) : Except Errno NsimMacsec :=
  if m.nsimSecyCount.toNat = NSIM_MACSEC_MAX_SECY_COUNT then .error .ENOSPC
  else match Slots.firstFree NsimSecy.used m.nsimSecy with
    | none => .error .ENOSPC
    | some idx =>
      let secy := m.nsimSecy idx
      .ok { m.setSecy idx { secy with used := true, nsimRxscCount := 0, sci } with
        nsimSecyCount := m.nsimSecyCount + 1 }

/-- `nsim_macsec_upd_secy`. -/
def nsimMacsecUpdSecy (m : NsimMacsec) (sci : UInt64) : Except Errno NsimMacsec :=
  match nsimMacsecFindSecy m sci with
  | none => .error .ENOENT
  | some _ => .ok m

/-- `nsim_macsec_del_secy`. -/
def nsimMacsecDelSecy (m : NsimMacsec) (sci : UInt64) : Except Errno NsimMacsec :=
  match nsimMacsecFindSecy m sci with
  | none => .error .ENOENT
  | some idx => .ok { m.setSecy idx .zero with nsimSecyCount := m.nsimSecyCount - 1 }

/-- `nsim_macsec_add_rxsc`.  When no slot is free there is a message, but no return. -/
def nsimMacsecAddRxsc (m : NsimMacsec) (secySci sci : UInt64) : Option (Except Errno NsimMacsec) :=
  match nsimMacsecFindSecy m secySci with
  | none => some (.error .ENOENT)
  | some i =>
    let secy := m.nsimSecy i
    if secy.nsimRxscCount.toNat = NSIM_MACSEC_MAX_RXSC_COUNT then some (.error .ENOSPC)
    else match Slots.firstFree NsimRxsc.used secy.nsimRxsc with
      | none => none
      | some idx =>
        some (.ok (m.setSecy i { secy.setRxsc idx ⟨sci, true⟩ with
          nsimRxscCount := secy.nsimRxscCount + 1 }))

/-- `nsim_macsec_upd_rxsc`. -/
def nsimMacsecUpdRxsc (m : NsimMacsec) (secySci sci : UInt64) : Except Errno NsimMacsec :=
  match nsimMacsecFindSecy m secySci with
  | none => .error .ENOENT
  | some i =>
    match nsimMacsecFindRxsc (m.nsimSecy i) sci with
    | none => .error .ENOENT
    | some _ => .ok m

/-- `nsim_macsec_del_rxsc`. -/
def nsimMacsecDelRxsc (m : NsimMacsec) (secySci sci : UInt64) : Except Errno NsimMacsec :=
  match nsimMacsecFindSecy m secySci with
  | none => .error .ENOENT
  | some i =>
    let secy := m.nsimSecy i
    match nsimMacsecFindRxsc secy sci with
    | none => .error .ENOENT
    | some idx => .ok (m.setSecy i { secy.setRxsc idx .zero with
        nsimRxscCount := secy.nsimRxscCount - 1 })

/-! ## Callers -/

inductive MacsecCall where
  | addSecy (sci : UInt64)
  | updSecy (sci : UInt64)
  | delSecy (sci : UInt64)
  | addRxsc (secySci sci : UInt64)
  | updRxsc (secySci sci : UInt64)
  | delRxsc (secySci sci : UInt64)
  deriving DecidableEq, Repr

def macsecCall (m : NsimMacsec) : MacsecCall → Option (Except Errno NsimMacsec)
  | .addSecy sci => some (nsimMacsecAddSecy m sci)
  | .updSecy sci => some (nsimMacsecUpdSecy m sci)
  | .delSecy sci => some (nsimMacsecDelSecy m sci)
  | .addRxsc secySci sci => nsimMacsecAddRxsc m secySci sci
  | .updRxsc secySci sci => some (nsimMacsecUpdRxsc m secySci sci)
  | .delRxsc secySci sci => some (nsimMacsecDelRxsc m secySci sci)

/-- The SCI of the SecY that the call looks up. -/
def MacsecCall.looksUp : MacsecCall → Option UInt64
  | .addSecy _ => none
  | .updSecy sci | .delSecy sci => some sci
  | .addRxsc secySci _ | .updRxsc secySci _ | .delRxsc secySci _ => some secySci

/-- The tables, and what the callers have added and not deleted. -/
structure MacsecPort where
  macsec : NsimMacsec
  secys : UInt64 → Bool
  rxscs : UInt64 → UInt64 → Bool

/-- An SCI is added only while it is not present, and updated or deleted only while it is. -/
def MacsecPort.Allows (s : MacsecPort) : MacsecCall → Prop
  | .addSecy sci => s.secys sci = false
  | .updSecy sci | .delSecy sci => s.secys sci = true
  | .addRxsc secySci sci => s.rxscs secySci sci = false
  | .updRxsc secySci sci | .delRxsc secySci sci => s.rxscs secySci sci = true

instance (s : MacsecPort) (call : MacsecCall) : Decidable (s.Allows call) := by
  cases call <;> exact inferInstanceAs (Decidable (_ = _))

/-- What is present after a call that succeeded.  The receive channels of a SecY go with it. -/
def MacsecPort.after (s : MacsecPort) (macsec : NsimMacsec) : MacsecCall → MacsecPort
  | .addSecy sci => ⟨macsec, Function.update s.secys sci true,
      Function.update s.rxscs sci fun _ => false⟩
  | .delSecy sci => ⟨macsec, Function.update s.secys sci false,
      Function.update s.rxscs sci fun _ => false⟩
  | .addRxsc secySci sci => { s with
      macsec, rxscs := Function.update s.rxscs secySci (Function.update (s.rxscs secySci) sci true) }
  | .delRxsc secySci sci => { s with
      macsec, rxscs := Function.update s.rxscs secySci (Function.update (s.rxscs secySci) sci false) }
  | .updSecy _ | .updRxsc .. => { s with macsec }

def macsecStep (s : MacsecPort) (call : MacsecCall) : Option MacsecPort :=
  if s.Allows call then
    (macsecCall s.macsec call).map fun
      | .error _ => s
      | .ok macsec => s.after macsec call
  else none

/-- All runs of calls on a new port. -/
def macsecSystem : TransitionSystem MacsecPort MacsecCall where
  init s := s = ⟨.empty, fun _ => false, fun _ _ => false⟩
  step s call t := macsecStep s call = some t

/-- Every free slot lies behind the slot that holds the SCI 0. -/
def NsimMacsec.FreeBehindZero (m : NsimMacsec) : Prop :=
  ∀ i, (m.nsimSecy i).used = false → ∃ j < i, (m.nsimSecy j).used = true ∧ (m.nsimSecy j).sci = 0

/-- The SecY with the SCI 0 is not looked up while a free slot could be found in its place. -/
def NoZeroSlotInFront (s : MacsecPort) (call : MacsecCall) : Prop :=
  call.looksUp = some 0 → s.macsec.FreeBehindZero

/-! ## The tables -/

def NsimMacsec.Holds (m : NsimMacsec) (sci : UInt64) : Prop :=
  Slots.Holds NsimSecy.used NsimSecy.sci m.nsimSecy sci

def NsimSecy.Holds (secy : NsimSecy) (sci : UInt64) : Prop :=
  Slots.Holds NsimRxsc.used NsimRxsc.sci secy.nsimRxsc sci

/-- The receive channels are counted, no two have the same SCI, and what is free is zeroed. -/
structure RxscSound (secy : NsimSecy) : Prop where
  counted : secy.nsimRxscCount.toNat = Slots.count NsimRxsc.used secy.nsimRxsc
  distinct : Slots.Distinct NsimRxsc.used NsimRxsc.sci secy.nsimRxsc
  zeroed : ∀ i, (secy.nsimRxsc i).used = false → secy.nsimRxsc i = .zero

structure SecySound (m : NsimMacsec) : Prop where
  counted : m.nsimSecyCount.toNat = Slots.count NsimSecy.used m.nsimSecy
  distinct : Slots.Distinct NsimSecy.used NsimSecy.sci m.nsimSecy
  zeroed : ∀ i, (m.nsimSecy i).used = false → m.nsimSecy i = .zero
  rxscs : ∀ i, RxscSound (m.nsimSecy i)

section Tables

variable {m : NsimMacsec} {secy : NsimSecy} {sci : UInt64} {i : Fin NSIM_MACSEC_MAX_SECY_COUNT}
  {j : Fin NSIM_MACSEC_MAX_RXSC_COUNT}

theorem toNat_count_add8 {c : UInt8} {n : ℕ} (room : c.toNat < n) (small : n < 256) :
    (c + 1).toNat = c.toNat + 1 := by
  have one : (1 : UInt8).toNat = 1 := rfl
  rw [UInt8.toNat_add, one]
  omega

theorem toNat_count_sub8 {c : UInt8} (some : 0 < c.toNat) : (c - 1).toNat = c.toNat - 1 := by
  have one : (1 : UInt8).toNat = 1 := rfl
  have lt := c.toNat_lt
  rw [UInt8.toNat_sub, one]
  omega

theorem rxscSound_zero : RxscSound .zero where
  counted := (Slots.count_eq_zero fun _ => rfl).symm
  distinct := Slots.distinct_of_free fun _ => rfl
  zeroed _ _ := rfl

theorem secySound_empty : SecySound .empty where
  counted := (Slots.count_eq_zero fun _ => rfl).symm
  distinct := Slots.distinct_of_free fun _ => rfl
  zeroed _ _ := rfl
  rxscs _ := rxscSound_zero

theorem sci_of_findSecy (found : nsimMacsecFindSecy m sci = some i) : (m.nsimSecy i).sci = sci := by
  simpa using Fin.eq_true_of_find?_eq_some found

theorem exists_findSecy (here : (m.nsimSecy i).sci = sci) :
    ∃ k, nsimMacsecFindSecy m sci = some k :=
  Option.isSome_iff_exists.1 (Fin.isSome_find?_iff.2 ⟨i, by simpa using here⟩)

theorem exists_findRxsc (here : (secy.nsimRxsc j).sci = sci) :
    ∃ k, nsimMacsecFindRxsc secy sci = some k :=
  Option.isSome_iff_exists.1 (Fin.isSome_find?_iff.2 ⟨j, by simpa using here⟩)

/-- What is found is in use, unless it is a free slot in the place of the SCI 0. -/
theorem SecySound.used_of_find (sound : SecySound m) (zero : sci = 0 → m.FreeBehindZero)
    (found : nsimMacsecFindSecy m sci = some i) : (m.nsimSecy i).used = true := by
  by_contra free
  rw [Bool.not_eq_true] at free
  have own := sci_of_findSecy found
  rw [sound.zeroed i free] at own
  obtain ⟨j, lt, -, sciJ⟩ := zero own.symm i free
  have before := Fin.eq_false_of_find?_eq_some_of_lt found j lt
  rw [sciJ, ← own] at before
  simp [NsimSecy.zero] at before

/-- The slot that holds an SCI is the one that is found. -/
theorem SecySound.find_of_holds (sound : SecySound m) (zero : sci = 0 → m.FreeBehindZero)
    (holds : m.Holds sci) : ∃ i, nsimMacsecFindSecy m sci = some i ∧ (m.nsimSecy i).used = true ∧
      (m.nsimSecy i).sci = sci := by
  obtain ⟨k, -, own⟩ := holds
  obtain ⟨i, found⟩ := exists_findSecy own
  exact ⟨i, found, sound.used_of_find zero found, sci_of_findSecy found⟩

/-- With a single slot, a receive channel that is present is found. -/
theorem find_of_holdsRxsc (holds : secy.Holds sci) : ∃ j, nsimMacsecFindRxsc secy sci = some j ∧
    (secy.nsimRxsc j).used = true ∧ (secy.nsimRxsc j).sci = sci := by
  obtain ⟨k, used, own⟩ := holds
  obtain ⟨j, found⟩ := exists_findRxsc own
  obtain rfl : k = j := Subsingleton.elim k j
  exact ⟨k, found, used, own⟩

/-- Looking up the SCI 0 finds no free slot exactly when these lie behind it. -/
theorem SecySound.freeBehindZero (sound : SecySound m)
    (used : ∀ i, nsimMacsecFindSecy m 0 = some i → (m.nsimSecy i).used = true) :
    m.FreeBehindZero := by
  intro i free
  have own : (m.nsimSecy i).sci = 0 := by
    rw [sound.zeroed i free]
    rfl
  obtain ⟨j, found⟩ := exists_findSecy own
  refine ⟨j, ?_, used j found, sci_of_findSecy found⟩
  have ne : j ≠ i := by
    rintro rfl
    rw [used j found] at free
    cases free
  refine lt_of_le_of_ne (not_lt.1 fun lt => ?_) ne
  have before := Fin.eq_false_of_find?_eq_some_of_lt found i lt
  simp [own] at before

/-- A change of a SecY that keeps its SCI. -/
theorem SecySound.setSecy (sound : SecySound m) (used : secy.used = (m.nsimSecy i).used)
    (own : secy.sci = (m.nsimSecy i).sci) (inUse : (m.nsimSecy i).used = true)
    (rxsc : RxscSound secy) : SecySound (m.setSecy i secy) := by
  constructor
  · exact sound.counted.trans (Slots.count_update_of_same used).symm
  · exact sound.distinct.update_of_same used own
  · intro j free
    by_cases here : j = i
    · subst here
      simp [NsimMacsec.setSecy, used, inUse] at free
    · simp only [NsimMacsec.setSecy, Function.update_of_ne here] at free ⊢
      exact sound.zeroed j free
  · intro j
    by_cases here : j = i
    · subst here
      simpa [NsimMacsec.setSecy] using rxsc
    · simp only [NsimMacsec.setSecy, Function.update_of_ne here]
      exact sound.rxscs j

end Tables

/-! ## Steps -/

/-- A SecY with the SCI is there, and it has the receive channel. -/
def NsimMacsec.HoldsRxsc (m : NsimMacsec) (secySci sci : UInt64) : Prop :=
  ∃ i, (m.nsimSecy i).used = true ∧ (m.nsimSecy i).sci = secySci ∧ (m.nsimSecy i).Holds sci

/-- The tables are sound and hold what the callers think is present. -/
structure MacsecSound (s : MacsecPort) : Prop where
  tables : SecySound s.macsec
  secys : ∀ sci, s.secys sci = true ↔ s.macsec.Holds sci
  rxscs : ∀ secySci sci, s.rxscs secySci sci = true ↔ s.macsec.HoldsRxsc secySci sci

section Steps

variable {s : MacsecPort} {m m' : NsimMacsec} {sci secySci : UInt64}
  {i : Fin NSIM_MACSEC_MAX_SECY_COUNT} {secy : NsimSecy}

theorem SecySound.holdsRxsc_iff (sound : SecySound m) (sci : UInt64)
    (used : (m.nsimSecy i).used = true) :
    m.HoldsRxsc (m.nsimSecy i).sci sci ↔ (m.nsimSecy i).Holds sci := by
  constructor
  · rintro ⟨j, usedJ, own, holds⟩
    obtain rfl := sound.distinct usedJ used own
    exact holds
  · exact fun holds => ⟨i, used, rfl, holds⟩

/-- What another SecY has does not change. -/
theorem holdsRxsc_setSecy_of_ne (before : (m.nsimSecy i).used = true → (m.nsimSecy i).sci ≠ secySci)
    (after : secy.used = true → secy.sci ≠ secySci) :
    (m.setSecy i secy).HoldsRxsc secySci sci ↔ m.HoldsRxsc secySci sci := by
  constructor
  · rintro ⟨j, used, own, holds⟩
    by_cases here : j = i
    · subst here
      simp only [NsimMacsec.setSecy, Function.update_self] at used own
      exact absurd own (after used)
    · simp only [NsimMacsec.setSecy, Function.update_of_ne here] at used own holds
      exact ⟨j, used, own, holds⟩
  · rintro ⟨j, used, own, holds⟩
    have away : j ≠ i := by
      rintro rfl
      exact before used own
    refine ⟨j, ?_, ?_, ?_⟩ <;> simpa [NsimMacsec.setSecy, away]

theorem not_holds_zero : ¬NsimSecy.zero.Holds sci := by
  rintro ⟨j, used, -⟩
  cases used

/-- A SecY without receive channels. -/
def NsimSecy.new (sci : UInt64) : NsimSecy := { NsimSecy.zero with used := true, sci }

theorem SecySound.addSecy_ok (sound : SecySound m) (ok : nsimMacsecAddSecy m sci = .ok m') :
    ∃ i, (m.nsimSecy i).used = false ∧
      m' = { m.setSecy i (.new sci) with nsimSecyCount := m.nsimSecyCount + 1 } := by
  unfold nsimMacsecAddSecy at ok
  split_ifs at ok with full
  split at ok
  · cases ok
  rename_i i first
  have free := Slots.free_of_firstFree first
  cases ok
  refine ⟨i, free, ?_⟩
  rw [sound.zeroed i free]
  rfl

theorem SecySound.add (sound : SecySound m) (free : (m.nsimSecy i).used = false)
    (absent : ¬m.Holds sci) :
    SecySound { m.setSecy i (.new sci) with nsimSecyCount := m.nsimSecyCount + 1 } := by
  have more : Slots.count NsimSecy.used (Function.update m.nsimSecy i (.new sci)) =
      Slots.count NsimSecy.used m.nsimSecy + 1 := Slots.count_update_of_free free rfl
  have room := Slots.count_le NsimSecy.used (Function.update m.nsimSecy i (.new sci))
  have counted := sound.counted
  constructor
  · exact (toNat_count_add8 (n := NSIM_MACSEC_MAX_SECY_COUNT) (by omega) (by decide)).trans
      (counted ▸ more.symm)
  · exact sound.distinct.update_of_new fun _ => absent
  · intro j freeJ
    by_cases here : j = i
    · subst here
      simp [NsimMacsec.setSecy, NsimSecy.new] at freeJ
    · simp only [NsimMacsec.setSecy, Function.update_of_ne here] at freeJ ⊢
      exact sound.zeroed j freeJ
  · intro j
    by_cases here : j = i
    · subst here
      simp only [NsimMacsec.setSecy, Function.update_self]
      exact ⟨rxscSound_zero.counted, rxscSound_zero.distinct, rxscSound_zero.zeroed⟩
    · simp only [NsimMacsec.setSecy, Function.update_of_ne here]
      exact sound.rxscs j

theorem SecySound.remove (sound : SecySound m) (used : (m.nsimSecy i).used = true) :
    SecySound { m.setSecy i .zero with nsimSecyCount := m.nsimSecyCount - 1 } := by
  have fewer : Slots.count NsimSecy.used (Function.update m.nsimSecy i .zero) + 1 =
      Slots.count NsimSecy.used m.nsimSecy := Slots.count_update_of_used used rfl
  have counted := sound.counted
  constructor
  · refine (toNat_count_sub8 (by omega)).trans ?_
    simp only [NsimMacsec.setSecy]
    omega
  · exact sound.distinct.update_of_new fun inUse => absurd inUse Bool.false_ne_true
  · intro j freeJ
    by_cases here : j = i
    · subst here
      simp [NsimMacsec.setSecy]
    · simp only [NsimMacsec.setSecy, Function.update_of_ne here] at freeJ ⊢
      exact sound.zeroed j freeJ
  · intro j
    by_cases here : j = i
    · subst here
      simpa [NsimMacsec.setSecy] using rxscSound_zero
    · simp only [NsimMacsec.setSecy, Function.update_of_ne here]
      exact sound.rxscs j

theorem macsecSound_addSecy (sound : MacsecSound s) (new : s.secys sci = false)
    (ok : nsimMacsecAddSecy s.macsec sci = .ok m') : MacsecSound (s.after m' (.addSecy sci)) := by
  obtain ⟨i, free, rfl⟩ := sound.tables.addSecy_ok ok
  have absent : ¬s.macsec.Holds sci := by
    rw [← sound.secys, new]
    exact Bool.false_ne_true
  refine ⟨sound.tables.add free absent, fun k => ?_, fun k rx => ?_⟩
  · have holds := Slots.holds_update_iff (i := i) (x := NsimSecy.new sci) (k := k)
      sound.tables.distinct
    simp only [MacsecPort.after, NsimMacsec.Holds, NsimMacsec.setSecy, holds, free]
    by_cases same : k = sci
    · simp [same, NsimSecy.new]
    · simpa [same, Ne.symm same, NsimSecy.new, NsimMacsec.Holds] using sound.secys k
  · simp only [MacsecPort.after]
    by_cases same : k = sci
    · subst same
      simp only [Function.update_self, Bool.false_eq_true, false_iff]
      rintro ⟨j, used, own, holds⟩
      by_cases here : j = i
      · subst here
        simp only [NsimMacsec.setSecy, Function.update_self] at holds
        exact not_holds_zero holds
      · simp only [NsimMacsec.setSecy, Function.update_of_ne here] at used own
        exact absent ⟨j, used, own⟩
    · rw [Function.update_of_ne same]
      refine (sound.rxscs k rx).trans (Iff.symm (holdsRxsc_setSecy_of_ne ?_ ?_))
      · intro used
        rw [free] at used
        cases used
      · exact fun _ => Ne.symm same

theorem macsecSound_delSecy (sound : MacsecSound s) (used : (s.macsec.nsimSecy i).used = true)
    (own : (s.macsec.nsimSecy i).sci = sci) :
    MacsecSound (s.after { s.macsec.setSecy i .zero with
      nsimSecyCount := s.macsec.nsimSecyCount - 1 } (.delSecy sci)) := by
  refine ⟨sound.tables.remove used, fun k => ?_, fun k rx => ?_⟩
  · have holds := Slots.holds_update_iff (i := i) (x := NsimSecy.zero) (k := k)
      sound.tables.distinct
    simp only [MacsecPort.after, NsimMacsec.Holds, NsimMacsec.setSecy, holds, used, own]
    by_cases same : k = sci
    · simp [same, NsimSecy.zero]
    · simpa [same, Ne.symm same, NsimSecy.zero, NsimMacsec.Holds] using sound.secys k
  · simp only [MacsecPort.after]
    by_cases same : k = sci
    · subst same
      simp only [Function.update_self, Bool.false_eq_true, false_iff]
      rintro ⟨j, usedJ, ownJ, -⟩
      by_cases here : j = i
      · subst here
        simp [NsimMacsec.setSecy, NsimSecy.zero] at usedJ
      · simp only [NsimMacsec.setSecy, Function.update_of_ne here] at usedJ ownJ
        exact here (sound.tables.distinct usedJ used (ownJ.trans own.symm))
    · rw [Function.update_of_ne same]
      refine (sound.rxscs k rx).trans (Iff.symm (holdsRxsc_setSecy_of_ne ?_ ?_))
      · exact fun _ own' => same (own'.symm.trans own)
      · exact fun inUse => absurd inUse Bool.false_ne_true

theorem RxscSound.add (sound : RxscSound secy) {j : Fin NSIM_MACSEC_MAX_RXSC_COUNT}
    (free : (secy.nsimRxsc j).used = false) (absent : ¬secy.Holds sci) :
    RxscSound { secy.setRxsc j ⟨sci, true⟩ with nsimRxscCount := secy.nsimRxscCount + 1 } := by
  have more : Slots.count NsimRxsc.used (Function.update secy.nsimRxsc j ⟨sci, true⟩) =
      Slots.count NsimRxsc.used secy.nsimRxsc + 1 := Slots.count_update_of_free free rfl
  have room := Slots.count_le NsimRxsc.used (Function.update secy.nsimRxsc j ⟨sci, true⟩)
  have counted := sound.counted
  constructor
  · exact (toNat_count_add8 (n := NSIM_MACSEC_MAX_RXSC_COUNT) (by omega) (by decide)).trans
      (counted ▸ more.symm)
  · exact sound.distinct.update_of_new fun _ => absent
  · intro k freeK
    by_cases here : k = j
    · subst here
      simp [NsimSecy.setRxsc] at freeK
    · simp only [NsimSecy.setRxsc, Function.update_of_ne here] at freeK ⊢
      exact sound.zeroed k freeK

theorem RxscSound.remove (sound : RxscSound secy) {j : Fin NSIM_MACSEC_MAX_RXSC_COUNT}
    (used : (secy.nsimRxsc j).used = true) :
    RxscSound { secy.setRxsc j .zero with nsimRxscCount := secy.nsimRxscCount - 1 } := by
  have fewer : Slots.count NsimRxsc.used (Function.update secy.nsimRxsc j .zero) + 1 =
      Slots.count NsimRxsc.used secy.nsimRxsc := Slots.count_update_of_used used rfl
  have counted := sound.counted
  constructor
  · refine (toNat_count_sub8 (by omega)).trans ?_
    simp only [NsimSecy.setRxsc]
    omega
  · exact sound.distinct.update_of_new fun inUse => absurd inUse Bool.false_ne_true
  · intro k freeK
    by_cases here : k = j
    · subst here
      simp [NsimSecy.setRxsc]
    · simp only [NsimSecy.setRxsc, Function.update_of_ne here] at freeK ⊢
      exact sound.zeroed k freeK

/-- A change of the receive channels of the SecY that was found. -/
theorem MacsecSound.setRxscs (sound : MacsecSound s) (used : (s.macsec.nsimSecy i).used = true)
    (own : (s.macsec.nsimSecy i).sci = secySci) (rxsc : RxscSound secy) (sameUsed : secy.used = true)
    (sameOwn : secy.sci = secySci) {present : UInt64 → Bool}
    (holds : ∀ sci, present sci = true ↔ secy.Holds sci) :
    MacsecSound { s with
      macsec := s.macsec.setSecy i secy, rxscs := Function.update s.rxscs secySci present } := by
  have tables : SecySound (s.macsec.setSecy i secy) :=
    sound.tables.setSecy (sameUsed.trans used.symm) (sameOwn.trans own.symm) used rxsc
  have here : (s.macsec.setSecy i secy).nsimSecy i = secy := Function.update_self ..
  refine ⟨tables, fun k => ?_, fun k rx => ?_⟩
  · have both := Slots.holds_update_iff (i := i) (x := secy) (k := k) sound.tables.distinct
    rw [sound.secys]
    simp only [NsimMacsec.Holds, NsimMacsec.setSecy, both, used, own, sameUsed, sameOwn, true_and]
    by_cases same : secySci = k
    · simp only [same, true_or, iff_true]
      exact ⟨i, used, own.trans same⟩
    · simp only [same, not_false_eq_true, and_true, false_or]
  · by_cases same : k = secySci
    · subst same
      have inSlot := tables.holdsRxsc_iff (i := i) rx (by rw [here]; exact sameUsed)
      rw [here, sameOwn] at inSlot
      simp only [inSlot, Function.update_self]
      exact holds rx
    · simp only [Function.update_of_ne same]
      refine (sound.rxscs k rx).trans (Iff.symm (holdsRxsc_setSecy_of_ne ?_ ?_))
      · exact fun _ own' => same (own'.symm.trans own)
      · exact fun _ own' => same (own'.symm.trans sameOwn)

/-- The receive channels of the SecY that was found are those that are present. -/
theorem MacsecSound.present_iff (sound : MacsecSound s) (sci : UInt64)
    (used : (s.macsec.nsimSecy i).used = true) (own : (s.macsec.nsimSecy i).sci = secySci) :
    s.rxscs secySci sci = true ↔ (s.macsec.nsimSecy i).Holds sci := by
  rw [sound.rxscs, ← own]
  exact sound.tables.holdsRxsc_iff sci used

theorem macsecSound_addRxsc (sound : MacsecSound s) (new : s.rxscs secySci sci = false)
    (zero : secySci = 0 → s.macsec.FreeBehindZero)
    (ok : nsimMacsecAddRxsc s.macsec secySci sci = some (.ok m')) :
    MacsecSound (s.after m' (.addRxsc secySci sci)) := by
  unfold nsimMacsecAddRxsc at ok
  split at ok
  · cases ok
  rename_i i found
  have used := sound.tables.used_of_find zero found
  have own := sci_of_findSecy found
  dsimp only at ok
  split_ifs at ok with full
  · cases ok
  split at ok
  · cases ok
  rename_i j first
  cases ok
  have absent : ¬(s.macsec.nsimSecy i).Holds sci := by
    rw [← sound.present_iff sci used own, new]
    exact Bool.false_ne_true
  have rxsc := sound.tables.rxscs i
  refine sound.setRxscs used own (rxsc.add (Slots.free_of_firstFree first) absent) used own ?_
  intro k
  have both := Slots.holds_update_iff (i := j) (x := (⟨sci, true⟩ : NsimRxsc)) (k := k) rxsc.distinct
  have before := sound.present_iff k used own
  simp only [NsimSecy.Holds, NsimSecy.setRxsc, both, Slots.free_of_firstFree first] at before ⊢
  by_cases same : k = sci
  · simp [same]
  · simpa [same, Ne.symm same] using before

theorem macsecSound_delRxsc (sound : MacsecSound s) (used : (s.macsec.nsimSecy i).used = true)
    (own : (s.macsec.nsimSecy i).sci = secySci) {j : Fin NSIM_MACSEC_MAX_RXSC_COUNT}
    (usedJ : ((s.macsec.nsimSecy i).nsimRxsc j).used = true)
    (ownJ : ((s.macsec.nsimSecy i).nsimRxsc j).sci = sci) :
    MacsecSound (s.after (s.macsec.setSecy i { (s.macsec.nsimSecy i).setRxsc j .zero with
      nsimRxscCount := (s.macsec.nsimSecy i).nsimRxscCount - 1 }) (.delRxsc secySci sci)) := by
  have rxsc := sound.tables.rxscs i
  refine sound.setRxscs used own (rxsc.remove usedJ) used own ?_
  intro k
  have both := Slots.holds_update_iff (i := j) (x := NsimRxsc.zero) (k := k) rxsc.distinct
  have before := sound.present_iff k used own
  simp only [NsimSecy.Holds, NsimSecy.setRxsc, both, usedJ, ownJ] at before ⊢
  by_cases same : k = sci
  · simp [same, NsimRxsc.zero]
  · simpa [same, Ne.symm same, NsimRxsc.zero] using before

end Steps

/-! ## Calls act on their slots -/

/-- The counts are those of the slots in use. -/
structure TablesCount (m : NsimMacsec) : Prop where
  secys : m.nsimSecyCount.toNat = Slots.count NsimSecy.used m.nsimSecy
  rxscs : ∀ i, (m.nsimSecy i).nsimRxscCount.toNat =
    Slots.count NsimRxsc.used (m.nsimSecy i).nsimRxsc

/-- The slot that is found is in use and holds the SCI. -/
def NsimMacsec.FoundAt (m : NsimMacsec) (sci : UInt64) (i : Fin NSIM_MACSEC_MAX_SECY_COUNT) : Prop :=
  nsimMacsecFindSecy m sci = some i ∧ (m.nsimSecy i).used = true ∧ (m.nsimSecy i).sci = sci

def NsimSecy.FoundAt (secy : NsimSecy) (sci : UInt64) (j : Fin NSIM_MACSEC_MAX_RXSC_COUNT) : Prop :=
  nsimMacsecFindRxsc secy sci = some j ∧ (secy.nsimRxsc j).used = true ∧ (secy.nsimRxsc j).sci = sci

/-- An update or deletion acts on the slot in use that holds the SCI, a deleted SCI is in no slot in
use afterwards, and a receive channel is added within the table of a SecY in use. -/
def ActsOnSlot (m : NsimMacsec) : MacsecCall → Prop
  | .addSecy _ => True
  | .updSecy sci => ∃ i, m.FoundAt sci i ∧ nsimMacsecUpdSecy m sci = .ok m
  | .delSecy sci => ∃ i, m.FoundAt sci i ∧ ∃ m', nsimMacsecDelSecy m sci = .ok m' ∧
      m'.nsimSecy = Function.update m.nsimSecy i .zero ∧ ¬m'.Holds sci
  | .addRxsc secySci sci => (∀ i, nsimMacsecFindSecy m secySci = some i → m.FoundAt secySci i) ∧
      nsimMacsecAddRxsc m secySci sci ≠ none
  | .updRxsc secySci sci => ∃ i j, m.FoundAt secySci i ∧ (m.nsimSecy i).FoundAt sci j ∧
      nsimMacsecUpdRxsc m secySci sci = .ok m
  | .delRxsc secySci sci => ∃ i j, m.FoundAt secySci i ∧ (m.nsimSecy i).FoundAt sci j ∧
      ∃ m', nsimMacsecDelRxsc m secySci sci = .ok m' ∧
        (m'.nsimSecy i).nsimRxsc = Function.update (m.nsimSecy i).nsimRxsc j .zero ∧
        ¬(m'.nsimSecy i).Holds sci

section Calls

variable {s t : MacsecPort} {call : MacsecCall} {sci secySci : UInt64}

theorem MacsecSound.foundSecy (sound : MacsecSound s) (zero : sci = 0 → s.macsec.FreeBehindZero)
    (present : s.secys sci = true) : ∃ i, s.macsec.FoundAt sci i :=
  sound.tables.find_of_holds zero ((sound.secys sci).1 present)

theorem MacsecSound.foundRxsc (sound : MacsecSound s)
    (zero : secySci = 0 → s.macsec.FreeBehindZero) (present : s.rxscs secySci sci = true) :
    ∃ i j, s.macsec.FoundAt secySci i ∧ (s.macsec.nsimSecy i).FoundAt sci j := by
  obtain ⟨k, used, own, holds⟩ := (sound.rxscs secySci sci).1 present
  obtain ⟨i, found, usedI, ownI⟩ := sound.tables.find_of_holds zero ⟨k, used, own⟩
  obtain rfl := sound.tables.distinct used usedI (own.trans ownI.symm)
  obtain ⟨j, foundJ⟩ := find_of_holdsRxsc holds
  exact ⟨k, j, ⟨found, used, own⟩, foundJ⟩

/-- A receive channel is added within the table. -/
theorem SecySound.addRxsc_ne_none {m : NsimMacsec} (sound : SecySound m) :
    nsimMacsecAddRxsc m secySci sci ≠ none := by
  unfold nsimMacsecAddRxsc
  split
  · simp
  rename_i i _
  dsimp only
  split_ifs with full
  · simp
  split
  · rename_i none
    rw [Slots.firstFree_eq_none_iff, ← (sound.rxscs i).counted] at none
    exact absurd none full
  · simp

theorem MacsecSound.actsOnSlot (sound : MacsecSound s) (allowed : s.Allows call)
    (zero : NoZeroSlotInFront s call) : ActsOnSlot s.macsec call := by
  cases call with
  | addSecy sci => trivial
  | updSecy sci =>
    obtain ⟨i, found⟩ := sound.foundSecy (fun z => zero (congrArg some z)) allowed
    exact ⟨i, found, by simp only [nsimMacsecUpdSecy, found.1]⟩
  | delSecy sci =>
    obtain ⟨i, found⟩ := sound.foundSecy (fun z => zero (congrArg some z)) allowed
    refine ⟨i, found, _, by simp only [nsimMacsecDelSecy, found.1]; rfl, rfl, ?_⟩
    have after := (macsecSound_delSecy sound found.2.1 found.2.2).secys sci
    simp only [MacsecPort.after, Function.update_self, Bool.false_eq_true, false_iff] at after
    exact after
  | addRxsc secySci sci =>
    refine ⟨fun i found => ⟨found, ?_, sci_of_findSecy found⟩, sound.tables.addRxsc_ne_none⟩
    exact sound.tables.used_of_find (fun z => zero (congrArg some z)) found
  | updRxsc secySci sci =>
    obtain ⟨i, j, found, foundJ⟩ := sound.foundRxsc (fun z => zero (congrArg some z)) allowed
    exact ⟨i, j, found, foundJ, by simp only [nsimMacsecUpdRxsc, found.1, foundJ.1]⟩
  | delRxsc secySci sci =>
    obtain ⟨i, j, found, foundJ⟩ := sound.foundRxsc (fun z => zero (congrArg some z)) allowed
    refine ⟨i, j, found, foundJ, _, by simp only [nsimMacsecDelRxsc, found.1, foundJ.1]; rfl, ?_, ?_⟩
    · simp [NsimMacsec.setSecy, NsimSecy.setRxsc]
    · rintro ⟨k, used, own⟩
      obtain rfl : k = j := Subsingleton.elim k j
      simp [NsimMacsec.setSecy, NsimSecy.setRxsc, NsimRxsc.zero] at used

/-- A call that acts on its slot does not look up the SCI 0 in front of it. -/
theorem MacsecSound.noZeroSlotInFront (sound : MacsecSound s) (acts : ActsOnSlot s.macsec call) :
    NoZeroSlotInFront s call := by
  intro looksUp
  refine sound.tables.freeBehindZero fun i found => ?_
  cases call <;> simp only [MacsecCall.looksUp, Option.some_inj, reduceCtorEq] at looksUp <;>
    subst looksUp
  case addRxsc => exact (acts.1 i found).2.1
  case updSecy | delSecy =>
    obtain ⟨j, found', -⟩ := acts
    obtain rfl := Option.some.inj (found.symm.trans found'.1)
    exact found'.2.1
  case updRxsc | delRxsc =>
    obtain ⟨j, -, found', -⟩ := acts
    obtain rfl := Option.some.inj (found.symm.trans found'.1)
    exact found'.2.1

theorem macsecSound_step (sound : MacsecSound s) (zero : NoZeroSlotInFront s call)
    (step : macsecStep s call = some t) : MacsecSound t := by
  unfold macsecStep at step
  split_ifs at step with allowed
  obtain ⟨result, ran, rfl⟩ := Option.map_eq_some_iff.1 step
  cases result with
  | error e => exact sound
  | ok m =>
    have acts := sound.actsOnSlot allowed zero
    cases call with
    | addSecy sci => exact macsecSound_addSecy sound allowed (Option.some.inj ran)
    | updSecy sci =>
      obtain ⟨i, found, same⟩ := acts
      obtain rfl : s.macsec = m := Except.ok.inj (same.symm.trans (Option.some.inj ran))
      exact sound
    | delSecy sci =>
      obtain ⟨i, found, -⟩ := acts
      simp only [macsecCall, nsimMacsecDelSecy, found.1, Option.some_inj, Except.ok.injEq] at ran
      subst ran
      exact macsecSound_delSecy sound found.2.1 found.2.2
    | addRxsc secySci sci =>
      exact macsecSound_addRxsc sound allowed (fun z => zero (congrArg some z)) ran
    | updRxsc secySci sci =>
      obtain ⟨i, j, -, -, same⟩ := acts
      obtain rfl : s.macsec = m := Except.ok.inj (same.symm.trans (Option.some.inj ran))
      exact sound
    | delRxsc secySci sci =>
      obtain ⟨i, j, found, foundJ, -⟩ := acts
      simp only [macsecCall, nsimMacsecDelRxsc, found.1, foundJ.1, Option.some_inj,
        Except.ok.injEq] at ran
      subst ran
      exact macsecSound_delRxsc sound found.2.1 found.2.2 foundJ.2.1 foundJ.2.2

theorem macsecSound_reachable
    (reach : (macsecSystem.guard NoZeroSlotInFront).Reachable s) : MacsecSound s := by
  refine TransitionSystem.Reachable.induct ?_ ?_ reach
  · rintro _ rfl
    refine ⟨secySound_empty, fun sci => ?_, fun secySci sci => ?_⟩
    · simp [NsimMacsec.Holds, Slots.Holds, NsimMacsec.empty, NsimSecy.zero]
    · simp [NsimMacsec.HoldsRxsc, NsimMacsec.empty, NsimSecy.zero]
  · intro s call t _ sound step
    exact macsecSound_step sound step.2 step.1

end Calls

/-- As long as the SCI 0 is not looked up while a free slot could be found in its place, the counts
are right, and the calls that act on their slots are those that do not look it up so either. -/
theorem macsec_tables_track (s : MacsecPort)
    (reach : (macsecSystem.guard NoZeroSlotInFront).Reachable s) :
    TablesCount s.macsec ∧
      ∀ call, s.Allows call → (ActsOnSlot s.macsec call ↔ NoZeroSlotInFront s call) := by
  have sound := macsecSound_reachable reach
  refine ⟨⟨sound.tables.counted, fun i => (sound.tables.rxscs i).counted⟩, fun call allowed => ?_⟩
  exact ⟨sound.noZeroSlotInFront, sound.actsOnSlot allowed⟩

/-- A port to which nothing was added yet. -/
def newMacsecPort : MacsecPort := ⟨.empty, fun _ => false, fun _ _ => false⟩

/-- A SecY with a receive channel, and another one that is deleted again. -/
def twoSecys : List MacsecCall := [.addSecy 5, .addRxsc 5 0, .addSecy 6, .delSecy 6]

theorem macsec_tables_track_two : ∃ s, TablesCount s.macsec ∧
    (ActsOnSlot s.macsec (.delRxsc 5 0) ↔ NoZeroSlotInFront s (.delRxsc 5 0)) ∧
    s.macsec.nsimSecyCount = 1 := by
  have never : ∀ call ∈ twoSecys, call.looksUp ≠ some 0 := by decide
  have start : (macsecSystem.guard NoZeroSlotInFront).Reachable newMacsecPort := .init rfl
  obtain ⟨s, reach, test⟩ := start.exists_of_follow twoSecys
    (fun s => s.macsec.nsimSecyCount = 1 ∧ s.Allows (.delRxsc 5 0))
    (fun call mem s t step => ⟨step, fun zero => absurd zero (never call mem)⟩) (by decide)
  simp only [decide_eq_true_eq] at test
  obtain ⟨counts, acts⟩ := macsec_tables_track s reach
  exact ⟨s, counts, acts _ test.2, test.1⟩

/-- The SecY with the SCI 0 is deleted while the slot in front of its own is free: that slot is freed
once more, and its own stays in use without being counted. -/
theorem macsec_loses_count : ∃ s, macsecSystem.Reachable s ∧ ¬TablesCount s.macsec := by
  have start : macsecSystem.Reachable newMacsecPort := .init rfl
  obtain ⟨s, reach, test⟩ := start.exists_of_follow
    [.addSecy 5, .addSecy 0, .delSecy 5, .delSecy 0]
    (fun s => s.macsec.nsimSecyCount.toNat ≠ Slots.count NsimSecy.used s.macsec.nsimSecy)
    (fun _ _ _ _ => id) (by decide)
  simp only [decide_eq_true_eq] at test
  exact ⟨s, reach, fun counts => test counts.secys⟩

end Netdevsim
