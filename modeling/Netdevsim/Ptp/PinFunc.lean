import Netdevsim.Lib.Runs
import Netdevsim.Ptp.StepEffect

/-!
# Pin functions are exclusive

`ptp_set_pinfunc` keeps that no two pins have the same function and channel (`Exclusive`), whatever
the driver accepts.  It is taken as a program that works on the pins and the driver in place
(`setPinfunc`), so that what a call leaves behind when it fails is seen.
-/

namespace Netdevsim

/-! ## The table -/

/-- The pin with another function. -/
def PtpPinDesc.assign (func chan : UInt32) (p : PtpPinDesc) : PtpPinDesc :=
  { p with func := func, chan := chan }

/-- No two pins hold the same function and channel. -/
def Exclusive (pins : List PtpPinDesc) : Prop :=
  ∀ (i j : ℕ) (p q : PtpPinDesc), pins[i]? = some p → pins[j]? = some q → p.func ≠ PTP_PF_NONE →
    p.func = q.func → p.chan = q.chan → i = j

/-- The pin holds just this function and channel. -/
def PinHolds (pins : List PtpPinDesc) (pin : ℕ) (func chan : UInt32) : Prop :=
  ∃ p, pins[pin]? = some p ∧ p.func = func ∧ p.chan = chan

section Table

variable {pins : List PtpPinDesc} {func chan : UInt32}

/-- The first pin with the function and channel. -/
def firstWith (pins : List PtpPinDesc) (func chan : UInt32) : Option ℕ :=
  pins.findIdx? fun p => p.func = func ∧ p.chan = chan

theorem firstWith_holds {i : ℕ} (found : firstWith pins func chan = some i) :
    PinHolds pins i func chan := by
  obtain ⟨bound, holds, -⟩ := List.findIdx?_eq_some_iff_getElem.1 found
  exact ⟨pins[i], List.getElem?_eq_getElem bound, by simpa using holds⟩

theorem exists_firstWith {i : ℕ} (holds : PinHolds pins i func chan) :
    ∃ j, firstWith pins func chan = some j := by
  obtain ⟨p, at_i, sameFunc, sameChan⟩ := holds
  cases found : firstWith pins func chan with
  | some j => exact ⟨j, rfl⟩
  | none =>
    have absent := List.findIdx?_eq_none_iff.1 found p (List.mem_of_getElem? at_i)
    simp [sameFunc, sameChan] at absent

/-- The table after the pin at `first` gave up its function. -/
def giveUp (pins : List PtpPinDesc) : Option ℕ → List PtpPinDesc
  | some i => pins.modify i (PtpPinDesc.assign PTP_PF_NONE 0)
  | none => pins

theorem getElem?_giveUp (first : Option ℕ) (j : ℕ) :
    (giveUp pins first)[j]? = (pins[j]?).map fun p =>
      if first = some j then p.assign PTP_PF_NONE 0 else p := by
  cases first with
  | none => simp [giveUp]
  | some i =>
    rw [giveUp, List.getElem?_modify, Option.map_eq_map]
    simp only [Option.some.injEq]

theorem set_eq_modify {p : PtpPinDesc} {n : ℕ} (at_n : pins[n]? = some p)
    (f : PtpPinDesc → PtpPinDesc) : pins.set n (f p) = pins.modify n f := by
  refine List.ext_getElem? fun j => ?_
  rw [List.getElem?_modify, List.getElem?_set]
  by_cases same : n = j
  · subst same
    obtain ⟨bound, rfl⟩ := List.getElem?_eq_some_iff.1 at_n
    simp [bound]
  · simp [same]

/-- Where each pin of the new table comes from. -/
theorem getElem?_setPinfunc (first : Option ℕ) (n j : ℕ) :
    ((giveUp pins first).modify n (PtpPinDesc.assign func chan))[j]? =
      (pins[j]?).map fun p =>
        if n = j then p.assign func chan
        else if first = some j then p.assign PTP_PF_NONE 0
        else p := by
  rw [List.getElem?_modify, getElem?_giveUp, Option.map_eq_map, Option.map_map]
  congr 1
  funext p
  by_cases same : n = j
  · by_cases gave : first = some j <;> simp [same, gave, PtpPinDesc.assign]
  · simp [same]

/-- A pin of the new table with a function is the assigned one, or had it before and was not the
first with the function that is assigned. -/
theorem setPinfunc_cases {first : Option ℕ} {n j : ℕ} {q : PtpPinDesc}
    (at_j : ((giveUp pins first).modify n (PtpPinDesc.assign func chan))[j]? = some q)
    (used : q.func ≠ PTP_PF_NONE) :
    j = n ∧ q.func = func ∧ q.chan = chan ∨ first ≠ some j ∧ pins[j]? = some q := by
  rw [getElem?_setPinfunc] at at_j
  obtain ⟨p, old, new⟩ := Option.map_eq_some_iff.1 at_j
  split_ifs at new with same gave
  · subst new
    exact .inl ⟨same.symm, rfl, rfl⟩
  · subst new
    exact absurd rfl used
  · subst new
    exact .inr ⟨gave, old⟩

/-- An assignment keeps the table exclusive: the pin that had the function first gives it up, and by
the invariant no other pin had it. -/
theorem exclusive_setPinfunc (exclusive : Exclusive pins) (n : ℕ) :
    Exclusive ((giveUp pins (firstWith pins func chan)).modify n
      (PtpPinDesc.assign func chan)) := by
  have first_of : ∀ j q, pins[j]? = some q → q.func = func → q.chan = chan → q.func ≠ PTP_PF_NONE →
      firstWith pins func chan = some j := by
    intro j q at_j sameFunc sameChan used
    obtain ⟨i, found⟩ := exists_firstWith ⟨q, at_j, sameFunc, sameChan⟩
    obtain ⟨p, at_i, func_i, chan_i⟩ := firstWith_holds found
    have same : j = i := exclusive j i q p at_j at_i used (sameFunc.trans func_i.symm)
      (sameChan.trans chan_i.symm)
    exact same ▸ found
  intro i j p q at_i at_j used sameFunc sameChan
  have used' : q.func ≠ PTP_PF_NONE := sameFunc ▸ used
  rcases setPinfunc_cases at_i used with ⟨rfl, func_i, chan_i⟩ | ⟨other_i, old_i⟩
  · rcases setPinfunc_cases at_j used' with ⟨rfl, -, -⟩ | ⟨other_j, old_j⟩
    · rfl
    · exact absurd (first_of j q old_j (sameFunc.symm.trans func_i) (sameChan.symm.trans chan_i)
        used') other_j
  · rcases setPinfunc_cases at_j used' with ⟨rfl, func_j, chan_j⟩ | ⟨other_j, old_j⟩
    · exact absurd (first_of i p old_i (sameFunc.trans func_j) (sameChan.trans chan_j) used) other_i
    · exact exclusive i j p q old_i old_j used sameFunc sameChan

end Table

/-! ## The call in place -/

section InPlace

variable {δ : Type} (ops : PinDriver δ)

/-- The pin that had the function gives it up. -/
def releasePin (func chan : UInt32) (s : List PtpPinDesc × δ) :
    Option ℕ → List PtpPinDesc × δ
  | some i => (s.1.modify i (PtpPinDesc.assign PTP_PF_NONE 0), ptpDisablePinfunc ops s.2 func chan)
  | none => s

/-- The pin gets the function in place of the one it had. -/
def takePin (pin : ℕ) (func chan : UInt32) (s : List PtpPinDesc × δ) : List PtpPinDesc × δ :=
  match s.1[pin]? with
  | none => s
  | some p =>
    (s.1.modify pin (PtpPinDesc.assign func chan), ptpDisablePinfunc ops s.2 p.func p.chan)

/-- `ptp_set_pinfunc`: its result, and the pins and the driver as it leaves them. -/
def setPinfunc (s : List PtpPinDesc × δ) (pin func chan : UInt32) :
    Except Errno Unit × (List PtpPinDesc × δ) :=
  let pin₁ := firstWith s.1 func chan
  if pin₁ = some pin.toNat then (.ok (), s)
  else if !pinfuncAllowed ops func chan then (.error .EINVAL, s)
  else if ops.verify s.2 pin func chan then (.error .EOPNOTSUPP, s)
  else (.ok (), takePin ops pin.toNat func chan (releasePin ops func chan s pin₁))

theorem fst_releasePin (func chan : UInt32) (s : List PtpPinDesc × δ) (first : Option ℕ) :
    (releasePin ops func chan s first).1 = giveUp s.1 first := by
  cases first <;> rfl

theorem fst_takePin (pin : ℕ) (func chan : UInt32) (s : List PtpPinDesc × δ) :
    (takePin ops pin func chan s).1 = s.1.modify pin (PtpPinDesc.assign func chan) := by
  unfold takePin
  split
  · rename_i outside
    exact (List.modify_eq_self (List.getElem?_eq_none_iff.1 outside)).symm
  · rfl

/-- The call in place does what `ptpSetPinfunc` says. -/
theorem setPinfunc_ok_iff (pins : List PtpPinDesc) (d : δ) (pin func chan : UInt32)
    (t : List PtpPinDesc × δ) : ptpSetPinfunc ops pins d pin func chan = .ok t ↔
      setPinfunc ops (pins, d) pin func chan = (.ok (), t) := by
  have first : (pins.findIdx? fun p => p.func = func ∧ p.chan = chan) =
      firstWith pins func chan := rfl
  unfold ptpSetPinfunc setPinfunc
  dsimp only
  rw [first]
  generalize firstWith pins func chan = pin₁
  split_ifs with same allowed refused
  · simp
  · simp
  · simp
  · have gave : (fun p : PtpPinDesc => { p with func := PTP_PF_NONE, chan := 0 }) =
        PtpPinDesc.assign PTP_PF_NONE 0 := rfl
    cases pin₁ with
    | none =>
      dsimp only [releasePin]
      unfold takePin
      cases at_pin : pins[pin.toNat]? with
      | none => simp only [Except.ok.injEq, Prod.mk.injEq, true_and]
      | some p =>
        have taken := set_eq_modify at_pin (PtpPinDesc.assign func chan)
        simp only [← taken, Except.ok.injEq, Prod.mk.injEq, true_and]
        rfl
    | some i =>
      dsimp only [releasePin]
      rw [gave]
      unfold takePin
      cases at_pin : (pins.modify i (PtpPinDesc.assign PTP_PF_NONE 0))[pin.toNat]? with
      | none => simp only [Except.ok.injEq, Prod.mk.injEq, true_and]
      | some p =>
        have taken := set_eq_modify at_pin (PtpPinDesc.assign func chan)
        simp only [← taken, Except.ok.injEq, Prod.mk.injEq, true_and]
        rfl

/-- What a call does to the table. -/
theorem setPinfunc_table {s t : List PtpPinDesc × δ} {pin func chan : UInt32}
    {result : Except Errno Unit} (call : setPinfunc ops s pin func chan = (result, t)) :
    (t = s ∧ (result = .ok () → firstWith s.1 func chan = some pin.toNat)) ∨
      firstWith s.1 func chan ≠ some pin.toNat ∧ result = .ok () ∧
        t.1 = (giveUp s.1 (firstWith s.1 func chan)).modify pin.toNat
          (PtpPinDesc.assign func chan) := by
  unfold setPinfunc at call
  dsimp only at call
  split_ifs at call with same allowed refused
  · cases call
    exact .inl ⟨rfl, fun _ => same⟩
  · cases call
    exact .inl ⟨rfl, nofun⟩
  · cases call
    exact .inl ⟨rfl, nofun⟩
  · cases call
    exact .inr ⟨same, rfl, by rw [fst_takePin, fst_releasePin]⟩

end InPlace

/-! ## Runs of calls -/

/-- A call of `ptp_set_pinfunc`, with the driver as it is at that time. -/
structure PinCall (δ : Type) where
  ops : PinDriver δ
  driver : δ
  pin : UInt32
  func : UInt32
  chan : UInt32

/-- The result of a call and the table it leaves. -/
def PinCall.run {δ : Type} (c : PinCall δ) (pins : List PtpPinDesc) :
    Except Errno Unit × List PtpPinDesc :=
  let (result, s) := setPinfunc c.ops (pins, c.driver) c.pin c.func c.chan
  (result, s.1)

/-- Calls for pins of the table, from any exclusive table on. -/
def pinfuncSystem (δ : Type) : TransitionSystem (List PtpPinDesc) (PinCall δ) where
  init := Exclusive
  step pins c pins' := c.pin.toNat < pins.length ∧ (c.run pins).2 = pins'

section Runs

variable {δ : Type} {pins : List PtpPinDesc}

theorem run_table (c : PinCall δ) (pins : List PtpPinDesc) :
    ((c.run pins).2 = pins ∧
        ((c.run pins).1 = .ok () → firstWith pins c.func c.chan = some c.pin.toNat)) ∨
      firstWith pins c.func c.chan ≠ some c.pin.toNat ∧ (c.run pins).1 = .ok () ∧
        (c.run pins).2 = (giveUp pins (firstWith pins c.func c.chan)).modify c.pin.toNat
          (PtpPinDesc.assign c.func c.chan) := by
  rcases setPinfunc_table c.ops (rfl : setPinfunc c.ops (pins, c.driver) c.pin c.func c.chan = _)
    with ⟨same, first⟩ | changed
  · exact .inl ⟨congrArg Prod.fst same, first⟩
  · exact .inr changed

theorem exclusive_run (c : PinCall δ) (exclusive : Exclusive pins) : Exclusive (c.run pins).2 := by
  rcases run_table c pins with ⟨same, -⟩ | ⟨-, -, table⟩
  · rw [same]
    exact exclusive
  · rw [table]
    exact exclusive_setPinfunc exclusive c.pin.toNat

theorem exclusive_reachable (reach : (pinfuncSystem δ).Reachable pins) : Exclusive pins := by
  refine reach.induct (fun s init => init) ?_
  rintro s c t - exclusive ⟨-, rfl⟩
  exact exclusive_run c exclusive

/-- In every table that calls reach from an exclusive one the functions are exclusive.  A call that
succeeds leaves the pin with the function it asked for, and all other pins that had another one as
they were; a call that fails leaves the table as it was. -/
theorem pin_functions_exclusive (reach : (pinfuncSystem δ).Reachable pins) :
    Exclusive pins ∧ ∀ c : PinCall δ, c.pin.toNat < pins.length →
      ((c.run pins).1 = .ok () →
        PinHolds (c.run pins).2 c.pin.toNat c.func c.chan ∧
          ∀ (j : ℕ) (p : PtpPinDesc), j ≠ c.pin.toNat → pins[j]? = some p →
            ¬(p.func = c.func ∧ p.chan = c.chan) → (c.run pins).2[j]? = some p) ∧
      ∀ e, (c.run pins).1 = .error e → (c.run pins).2 = pins := by
  refine ⟨exclusive_reachable reach, fun c inside => ?_⟩
  rcases run_table c pins with ⟨same, first⟩ | ⟨-, ok, table⟩
  · refine ⟨fun ok => ?_, fun e error => same⟩
    rw [same]
    exact ⟨firstWith_holds (first ok), fun j p _ at_j _ => at_j⟩
  · refine ⟨fun _ => ?_, fun e error => nomatch ok.symm.trans error⟩
    rw [table]
    constructor
    · obtain ⟨p, at_pin⟩ : ∃ p, pins[c.pin.toNat]? = some p := ⟨_, List.getElem?_eq_getElem inside⟩
      refine ⟨p.assign c.func c.chan, ?_, rfl, rfl⟩
      rw [getElem?_setPinfunc, at_pin, Option.map_some, if_pos rfl]
    · intro j p other at_j differs
      have kept : firstWith pins c.func c.chan ≠ some j := by
        intro found
        obtain ⟨q, at_j', holds⟩ := firstWith_holds found
        rw [at_j] at at_j'
        exact differs (Option.some.inj at_j' ▸ holds)
      rw [getElem?_setPinfunc, at_j, Option.map_some, if_neg (Ne.symm other), if_neg kept]

end Runs

/-! ## The clock -/

theorem exclusive_mockPhcPins : Exclusive mockPhcPins := by
  have first : ∀ i p, mockPhcPins[i]? = some p → p.func ≠ PTP_PF_NONE → i = 0 := by
    intro i p at_i used
    cases i with
    | zero => rfl
    | succ i =>
      obtain ⟨name, -, rfl⟩ := List.mem_map.1 (List.mem_of_getElem? at_i)
      exact absurd rfl used
  intro i j p q at_i at_j used same _
  rw [first i p at_i used, first j q at_j (same ▸ used)]

/-- The external timestamps move from the first pin of the mock PHC to the second. -/
theorem pin_functions_exclusive_mock :
    let c : PinCall MockPhc :=
      ⟨mockPinDriver ⟨0, 0⟩, mockPhcCreate ⟨0, 0⟩, 1, PTP_PF_EXTTS, 0⟩
    PinHolds (c.run mockPhcPins).2 1 PTP_PF_EXTTS 0 :=
  (((pin_functions_exclusive (.init exclusive_mockPhcPins)).2 _ (by decide)).1 rfl).1

/-- The pins stay, or move as a call of `ptp_set_pinfunc` moves them. -/
def PinsMove (ptp ptp' : PtpClock) : Prop :=
  ptp'.pinConfig = ptp.pinConfig ∨ ∃ c : PinCall MockPhc,
    c.pin.toNat < ptp.pinConfig.length ∧ (c.run ptp.pinConfig).2 = ptp'.pinConfig

/-- Whatever reaches the clock moves its pins only by `ptp_set_pinfunc`. -/
theorem pinsMove_ptpStep (ptp : PtpClock) (clk : Clocks) (interrupted : Bool) (call : PtpCall) :
    PinsMove ptp (ptpStep ptp clk interrupted call).1 := by
  have effect := @ptpStep_effect ptp clk interrupted call
  generalize (ptpStep ptp clk interrupted call).1 = ptp' at effect
  cases effect with
  | driver phc => exact .inl rfl
  | dial tx phc freq _ => exact .inl rfl
  | pinfunc pin func chan inside ok =>
    obtain ⟨_, _, set, rfl⟩ := exists_of_setPinfunc ok
    refine .inr ⟨⟨mockPinDriver clk, ptp.phc, pin, func, chan⟩, inside, ?_⟩
    simp only [PinCall.run, (setPinfunc_ok_iff _ _ _ _ _ _ _).1 set]
  | nVclocks buf attempts _ =>
    obtain ⟨_, _, _, eq⟩ := @nVclocksStore_changes ptp interrupted buf attempts
    exact .inl (by rw [eq])
  | maxVclocks allocated buf _ =>
    obtain ⟨_, _, eq⟩ := @maxVclocksStore_changes ptp interrupted allocated buf
    exact .inl (by rw [eq])

/-- The pins of the clock have their functions for themselves, whatever reaches it. -/
theorem exclusive_ptpStep {ptp : PtpClock} (exclusive : Exclusive ptp.pinConfig) (clk : Clocks)
    (interrupted : Bool) (call : PtpCall) :
    Exclusive (ptpStep ptp clk interrupted call).1.pinConfig := by
  rcases pinsMove_ptpStep ptp clk interrupted call with same | ⟨c, -, table⟩
  · rw [same]
    exact exclusive
  · rw [← table]
    exact exclusive_run c exclusive

end Netdevsim
