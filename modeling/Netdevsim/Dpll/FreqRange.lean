import Netdevsim.Dpll.AllOrNone

/-!
# Which frequencies reach the drivers

A frequency has 64 bits, and the check of it looks at 32 of them.  Whether a frequency outside of
the ranges of a pin is set therefore depends on its lower half.
-/

namespace Netdevsim

open Program

variable {δ : Type}

/-- The frequency lies in one of the ranges of the pin. -/
def DpllPinProperties.InRange (prop : DpllPinProperties) (freq : UInt64) : Prop :=
  ∃ range ∈ prop.freqSupported, range.1 ≤ freq ∧ freq ≤ range.2

theorem dpllPinIsFreqSupported_iff {prop : DpllPinProperties} {freq : UInt32} :
    dpllPinIsFreqSupported prop freq = true ↔ prop.InRange freq.toUInt64 := by
  simp [dpllPinIsFreqSupported, DpllPinProperties.InRange]

/-- The request ends.  The frequency is given to a driver only if it lies in a range, and one that
does is not refused as unsupported. -/
def OnlySupported (ops : Ptr → PinCallbacks δ) (s : NlState δ) (pin : Ptr) (p : DpllPin)
    (freq : UInt64) : Prop :=
  ∃ r t, (dpllPinFreqSet ops pin freq).exec s = some (r, t) ∧
    ((∃ args, .frequencySet args freq ∈ t.calls) → p.prop.InRange freq) ∧
    (p.prop.InRange freq → ¬(r = .error .EINVAL ∧
      t.extack = ⟨some "frequency is not supported by the device", some (.frequency freq)⟩))

/-- A frequency that passes the check is set: all callbacks are there, and the first device answers
that it has another one. -/
def SetsFrequency (ops : Ptr → PinCallbacks δ) (s : NlState δ) (pin : Ptr) (p : DpllPin)
    (freq : UInt64) : Prop :=
  (∀ ref ∈ p.dpllRefs.values, pinFrequency.HasCallbacks ops ref) ∧
    ∃ old, pinFrequency.reads ops s.kernel s.driver pin p = some (.ok old) ∧ freq ≠ old

/-- The lower half of the frequency is in a range exactly if the whole is, or the frequency is in
none and would not be set anyway. -/
def JudgedByLowerHalf (ops : Ptr → PinCallbacks δ) (s : NlState δ) (pin : Ptr) (p : DpllPin)
    (freq : UInt64) : Prop :=
  (p.prop.InRange freq.toUInt32.toUInt64 ↔ p.prop.InRange freq) ∨
    (¬p.prop.InRange freq ∧ ¬SetsFrequency ops s pin p freq)

section Check

variable {ops : Ptr → PinCallbacks δ} {k : KernelState} {driver : δ} {pin : Ptr} {p : DpllPin}
  {faults : List (Option Errno)} {freq : UInt64}

/-- A frequency that the check refuses reaches no driver. -/
theorem onlySupported_refused {s : NlState δ} (live : s.kernel.pin pin = some p)
    (fresh : s.calls = []) (refused : ¬p.prop.InRange freq.toUInt32.toUInt64) :
    OnlySupported ops s pin p freq ↔ ¬p.prop.InRange freq := by
  have unsupported : (pinFrequency : PinSetting δ UInt64).supported p.prop freq = false := by
    rw [← dpllPinIsFreqSupported_iff] at refused
    exact Bool.eq_false_of_not_eq_true refused
  have run := PinSetting.exec_set_unsupported ops live unsupported
  constructor
  · rintro ⟨r, t, there, -, accepted⟩ inRange
    rw [dpllPinFreqSet, run] at there
    cases there
    exact accepted inRange ⟨rfl, rfl⟩
  · intro outside
    refine ⟨_, _, run, ?_, fun inRange => absurd inRange outside⟩
    rintro ⟨args, mem⟩
    rw [show _ = [] from fresh] at mem
    cases mem

/-- A request that gives the frequency to no driver and reports no attribute. -/
theorem onlySupported_of_unset {s t : NlState δ} {r : Except Errno Unit}
    (run : (dpllPinFreqSet ops pin freq).exec s = some (r, t))
    (unset : ∀ args, .frequencySet args freq ∉ t.calls) (silent : t.extack.badAttr = none) :
    OnlySupported ops s pin p freq := by
  refine ⟨r, t, run, fun ⟨args, mem⟩ => absurd mem (unset args), fun _ ⟨_, reported⟩ => ?_⟩
  rw [reported] at silent
  cases silent

/-- A frequency that the check lets through reaches a driver unless it is not set anyway. -/
theorem onlySupported_accepted {s : NlState δ} (inv : RegistryInvariant s.kernel)
    (live : s.kernel.pin pin = some p) (ready : OnDevices s.kernel p) (fresh : s.calls = [])
    (silent : s.extack.badAttr = none) (accepted : p.prop.InRange freq.toUInt32.toUInt64) :
    OnlySupported ops s pin p freq ↔ (p.prop.InRange freq ∨ ¬SetsFrequency ops s pin p freq) := by
  have supported : (pinFrequency : PinSetting δ UInt64).supported p.prop freq = true :=
    dpllPinIsFreqSupported_iff.2 accepted
  by_cases has : ∀ ref ∈ p.dpllRefs.values, pinFrequency.HasCallbacks ops ref
  swap
  · have run := PinSetting.exec_set_noCallback live ready supported has
    refine iff_of_true (onlySupported_of_unset run (fun args mem => ?_) silent)
      (.inr fun sets => has sets.1)
    rw [show _ = [] from fresh] at mem
    cases mem
  obtain ⟨args, answer, reads, -, run⟩ := PinSetting.exec_set_reads freq inv live ready supported has
  cases answer with
  | error e =>
    refine iff_of_true (onlySupported_of_unset run (fun args mem => ?_) silent) (.inr ?_)
    · simp [fresh, pinFrequency] at mem
    · rintro ⟨-, old, there, -⟩
      rw [reads] at there
      cases there
  | ok old =>
    have sets : SetsFrequency ops s pin p freq ↔ freq ≠ old := by
      refine ⟨fun ⟨_, old', there, ne⟩ => ?_, fun ne => ⟨has, old, reads, ne⟩⟩
      rw [reads] at there
      cases there
      exact ne
    dsimp only at run
    rw [sets]
    by_cases same : freq = old
    · rw [if_neg (not_not.2 same)] at run
      refine iff_of_true (onlySupported_of_unset run (fun args mem => ?_) silent)
        (.inr (not_not.2 same))
      simp [fresh, pinFrequency] at mem
    · rw [if_pos same] at run
      obtain ⟨r, t, args, loop, called, kept⟩ := PinSetting.exec_setLoop_calls
        (s := { s with calls := s.calls ++ [pinFrequency.getCall args] }) freq old inv live ready
        (settable_of_ready inv live ready has)
      rw [loop] at run
      constructor
      · rintro ⟨r', t', there, onlyInRange, -⟩
        rw [dpllPinFreqSet, run] at there
        cases there
        exact .inl (onlyInRange ⟨args, called⟩)
      · rintro (inRange | unset)
        · refine ⟨r, t, run, fun _ => inRange, fun _ ⟨_, reported⟩ => ?_⟩
          rw [reported, show _ = none from silent] at kept
          cases kept
        · exact absurd same unset

end Check

/-- In every state that calls of the core lead to, and whatever the drivers answer, only supported
frequencies reach them exactly if the frequency is judged by its lower half. -/
theorem only_supported_frequencies_iff (k : KernelState)
    (reach : (registrySystem.guard fun s a => PutsUnregistered s a.1).Reachable k) {pin : Ptr}
    {p : DpllPin} (live : k.pin pin = some p) (ready : OnDevices k p)
    (ops : Ptr → PinCallbacks δ) (faults : List (Option Errno)) (driver : δ) (freq : UInt64) :
    OnlySupported ops (.start k faults driver) pin p freq ↔
      JudgedByLowerHalf ops (.start k faults driver) pin p freq := by
  have inv := (registryInvariant_reachable reach).withFaults faults
  have ready' : OnDevices (NlState.start k faults driver).kernel p :=
    ⟨ready.nonempty, ready.regs, ready.devices⟩
  unfold JudgedByLowerHalf
  by_cases lower : p.prop.InRange freq.toUInt32.toUInt64
  · rw [onlySupported_accepted inv live ready' rfl rfl lower]
    tauto
  · rw [onlySupported_refused (s := .start k faults driver) live rfl lower]
    tauto

/-- A frequency in the range reaches the drivers. -/
theorem only_supported_frequencies_one : ∃ k p, k.pin 18 = some p ∧
    OnlySupported (fun _ => pinValuesOps) (.start k [] outOfStep) 18 p 1 := by
  obtain ⟨k, p, reach, live, ready, -, ranges, -⟩ := exists_onTwoDevices
  have judged := only_supported_frequencies_iff k reach live ready (fun _ => pinValuesOps) []
    outOfStep 1
  have inRange : p.prop.InRange 1 := by
    unfold DpllPinProperties.InRange
    rw [ranges]
    decide
  exact ⟨k, p, live, judged.2 (.inl (iff_of_true inRange inRange))⟩

/-- The frequency `2 ^ 32 + 2` has the lower half 2, which is in the range up to 10. -/
theorem not_only_supported_frequencies : ∃ k p,
    (registrySystem.guard fun s a => PutsUnregistered s a.1).Reachable k ∧ k.pin 18 = some p ∧
      OnDevices k p ∧
      ¬OnlySupported (fun _ => pinValuesOps) (.start k [] outOfStep) 18 p 4294967298 := by
  obtain ⟨k, p, reach, live, ready, -, ranges, reads⟩ := exists_onTwoDevices
  refine ⟨k, p, reach, live, ready, fun only => ?_⟩
  have inv := (registryInvariant_reachable reach).withFaults []
  have ready' : OnDevices (NlState.start k [] outOfStep).kernel p :=
    ⟨ready.nonempty, ready.regs, ready.devices⟩
  have lower : p.prop.InRange (4294967298 : UInt64).toUInt32.toUInt64 := by
    unfold DpllPinProperties.InRange
    rw [ranges]
    decide
  have outside : ¬p.prop.InRange 4294967298 := by
    unfold DpllPinProperties.InRange
    rw [ranges]
    decide
  rcases (onlySupported_accepted inv live ready' rfl rfl lower).1 only with inRange | unset
  · exact outside inRange
  · exact unset ⟨hasCallbacks_pinValuesOps ready, 1, reads, by decide⟩

end Netdevsim
