import Netdevsim.Dpll.TwoSided
import Netdevsim.Lib.Ledger

/-!
# The registrations behind a reference

A reference counts its registrations and lists them.  A registration that is already known only
raises the count, and deleting it strikes it off the list at once, so the two agree only as long as
no registration is made a second time before it is taken back.
-/

namespace Netdevsim

open Program Ledger

/-! ## Counts and lists -/

/-- What a reference says that counts each of its registrations once. -/
def Registrations.of (regs : List DpllPinRegistration) : Option Registrations :=
  if regs = [] then none else some ⟨regs, regs.length⟩

section Of

variable {regs : List DpllPinRegistration} {reg : DpllPinRegistration} {r : Registrations}

theorem Registrations.of_nil : Registrations.of [] = none := if_pos rfl

theorem Registrations.of_eq_some_iff :
    Registrations.of regs = some r ↔ r.registrationList = regs ∧ r.refcount = regs.length ∧
      regs ≠ [] := by
  unfold Registrations.of
  split_ifs with empty
  · simp [empty]
  · constructor
    · intro some
      cases some
      exact ⟨rfl, rfl, empty⟩
    · rintro ⟨rfl, count, -⟩
      rw [← count]

theorem Registrations.of_eq_none_iff : Registrations.of regs = none ↔ regs = [] := by
  unfold Registrations.of
  split_ifs with empty <;> simp [empty]

/-- A new registration is appended and counted. -/
theorem Registrations.add_of (new : reg ∉ regs) :
    some (Registrations.add reg (Registrations.of regs)) = Registrations.of (regs ++ [reg]) := by
  symm
  rw [Registrations.of_eq_some_iff]
  by_cases empty : regs = []
  · subst empty
    rw [Registrations.of_nil]
    exact ⟨rfl, rfl, by simp⟩
  · have before : Registrations.of regs = some ⟨regs, regs.length⟩ := if_neg empty
    have add : Registrations.add reg (some ⟨regs, regs.length⟩) =
        ⟨regs ++ [reg], regs.length + 1⟩ := if_neg new
    rw [before, add]
    exact ⟨rfl, by simp, by simp⟩

/-- A registration that is known is struck off and no longer counted. -/
theorem Registrations.drop_of (known : reg ∈ regs) :
    (Registrations.of regs).bind (Registrations.drop reg) = Registrations.of (regs.erase reg) := by
  have some : Registrations.of regs = some ⟨regs, regs.length⟩ :=
    if_neg (List.ne_nil_of_mem known)
  have length := List.length_erase_of_mem known
  rw [some, Option.bind_some, Registrations.drop_of_mem known]
  unfold Registrations.of
  by_cases last : regs.length = 1
  · rw [if_pos last, if_pos (List.length_eq_zero_iff.1 (by omega))]
  · have more : regs.erase reg ≠ [] := by
      intro empty
      rw [empty, List.length_nil] at length
      have := List.length_pos_of_mem known
      omega
    rw [if_neg last, if_neg more, length]

end Of

/-! ## Registering and unregistering -/

/-- The core, and the registrations made and not taken back: on which device, of which pin, and
what was registered. -/
structure Registering where
  kernel : KernelState
  outstanding : List ((Ptr × Ptr) × DpllPinRegistration)

/-- A call of `dpll_pin_register` or of `dpll_pin_unregister`. -/
inductive RegistrationCall where
  | register (dpll pin : Ptr) (ops : DpllPinOps) (priv : Ptr)
  | unregister (dpll pin : Ptr) (ops : DpllPinOps) (priv : Ptr)

/-- Registrations that succeed, and for each of them at most one call that takes it back. -/
def RegistrationStep (s : Registering) (faults : List (Option Errno)) (t : Registering) :
    RegistrationCall → Prop
  | .register dpll pin ops priv => ∃ kernel,
      (dpllPinRegister dpll pin ops priv).exec { s.kernel with faults } = some (.ok (), kernel) ∧
        t = ⟨kernel, s.outstanding ++ [((dpll, pin), ⟨ops, priv, 0⟩)]⟩
  | .unregister dpll pin ops priv => ((dpll, pin), ⟨ops, priv, 0⟩) ∈ s.outstanding ∧
      ∃ result kernel,
        (dpllPinUnregister dpll pin ops priv).exec { s.kernel with faults } =
          some (result, kernel) ∧
        t = ⟨kernel, s.outstanding.erase ((dpll, pin), ⟨ops, priv, 0⟩)⟩

/-- The runs from any core in which no pin is registered. -/
def registrationSystem : TransitionSystem Registering (RegistrationCall × List (Option Errno)) where
  init s := (registrySystem.guard fun s a => PutsUnregistered s a.1).Reachable s.kernel ∧
    (∀ dpll d, s.kernel.device dpll = some d → d.pinRefs.isEmpty) ∧
    (∀ pin p, s.kernel.pin pin = some p → p.parentRefs.isEmpty) ∧ s.outstanding = []
  step s a t := RegistrationStep s a.2 t a.1

/-- What is registered is not yet registered. -/
def RegistersNew (s : Registering) : RegistrationCall → Prop
  | .register dpll pin ops priv => ((dpll, pin), ⟨ops, priv, 0⟩) ∉ s.outstanding
  | .unregister _ _ _ _ => True

/-- The references are those of the outstanding registrations. -/
structure Counted (s : Registering) : Prop where
  sound : RegistryInvariant s.kernel
  live : ∀ dpll pin reg, ((dpll, pin), reg) ∈ s.outstanding →
    (∃ d, s.kernel.device dpll = some d) ∧ ∃ p, s.kernel.pin pin = some p
  counted : ∀ dpll d pin, s.kernel.device dpll = some d →
    contents d.pinRefs pin = Registrations.of (entriesAt s.outstanding (dpll, pin))
  orphans : ∀ pin p, s.kernel.pin pin = some p → p.parentRefs.isEmpty

section Steps

variable {s : Registering} {kernel : KernelState} {dpll pin : Ptr} {d : DpllDevice} {p : DpllPin}
  {reg : DpllPinRegistration}

theorem Counted.of_ntfFrame (counted : Counted s) (within : ntfFrame.rel s.kernel kernel) :
    Counted ⟨kernel, s.outstanding⟩ := by
  have sound := counted.sound.of_ntfFrame within
  obtain ⟨_, _, rfl⟩ := within
  exact ⟨sound, counted.live, counted.counted, counted.orphans⟩

/-- A change of the references of a device and a pin to each other, entered in the list. -/
theorem Counted.withRefs (counted : Counted s) (liveD : s.kernel.device dpll = some d)
    (liveP : s.kernel.pin pin = some p) {pinRefs dpllRefs : XArray DpllPinRef}
    {outstanding : List ((Ptr × Ptr) × DpllPinRegistration)} {regs : List DpllPinRegistration}
    (sound : RegistryInvariant (s.kernel.withRefs dpll pin d p pinRefs dpllRefs))
    (pins : contents pinRefs = Function.update (contents d.pinRefs) pin (Registrations.of regs))
    (entries : entriesAt outstanding =
      Function.update (entriesAt s.outstanding) (dpll, pin) regs) :
    Counted ⟨s.kernel.withRefs dpll pin d p pinRefs dpllRefs, outstanding⟩ := by
  refine ⟨sound, fun b q r mem => ?_, ?_, ?_⟩
  · have both : (∃ d₀, s.kernel.device b = some d₀) ∧ ∃ p₀, s.kernel.pin q = some p₀ := by
      by_cases here : (b, q) = (dpll, pin)
      · cases here
        exact ⟨⟨d, liveD⟩, p, liveP⟩
      · have entered := mem_entriesAt.2 mem
        rw [entries, Function.update_of_ne here] at entered
        exact counted.live b q r (mem_entriesAt.1 entered)
    exact ⟨exists_update both.1, exists_update both.2⟩
  · have away : ∀ b d₀ q, s.kernel.device b = some d₀ → (b, q) ≠ (dpll, pin) →
        contents d₀.pinRefs q = Registrations.of (entriesAt outstanding (b, q)) := by
      intro b d₀ q live other
      rw [entries, Function.update_of_ne other]
      exact counted.counted b d₀ q live
    have all : ∀ b d₀, Function.update s.kernel.device dpll (some { d with pinRefs }) b = some d₀ →
        ∀ q, contents d₀.pinRefs q = Registrations.of (entriesAt outstanding (b, q)) := by
      refine forall_update.2 ⟨fun q => ?_, fun b d₀ other live q => ?_⟩
      · rw [pins]
        by_cases same : q = pin
        · rw [same, Function.update_self, entries, Function.update_self]
        · rw [Function.update_of_ne same]
          exact away dpll d q liveD fun both => same (congrArg Prod.snd both)
      · exact away b d₀ q live fun both => other (congrArg Prod.fst both)
    exact fun b d₀ q live => all b d₀ live q
  · exact forall_update.2 ⟨counted.orphans pin p liveP, fun q p₀ _ => counted.orphans q p₀⟩

theorem Counted.registered (counted : Counted s) (liveD : s.kernel.device dpll = some d)
    (liveP : s.kernel.pin pin = some p) (free : Free d.pinRefs pin p.pinIdx.toNat)
    (new : ((dpll, pin), reg) ∉ s.outstanding) :
    Counted ⟨s.kernel.registered dpll pin d p reg, s.outstanding ++ [((dpll, pin), reg)]⟩ := by
  have pins := contents_addRef (counted.sound.pinRefs dpll d liveD) (pinKey_of_live liveP) free reg
  rw [counted.counted dpll d pin liveD,
    Registrations.add_of fun known => new (mem_entriesAt.1 known)] at pins
  exact counted.withRefs liveD liveP (counted.sound.registered_pin liveD liveP free) pins
    (entriesAt_enter _ _ _)

theorem Counted.unregistered (counted : Counted s) (liveD : s.kernel.device dpll = some d)
    (liveP : s.kernel.pin pin = some p) (known : ((dpll, pin), reg) ∈ s.outstanding) :
    Counted ⟨s.kernel.unregistered dpll pin d p reg,
      s.outstanding.erase ((dpll, pin), reg)⟩ := by
  have pins := contents_dpllXaRefDel (counted.sound.pinRefs dpll d liveD) pin reg
  rw [counted.counted dpll d pin liveD, Registrations.drop_of (mem_entriesAt.2 known)] at pins
  exact counted.withRefs liveD liveP (counted.sound.unregistered_pin liveD liveP) pins
    (entriesAt_erase _ _ _)

theorem counted_register {ops : DpllPinOps} {priv : Ptr} (counted : Counted s)
    (new : ((dpll, pin), ⟨ops, priv, 0⟩) ∉ s.outstanding) :
    wp (dpllPinRegister dpll pin ops priv)
      (fun _ t => Counted ⟨t, s.outstanding ++ [((dpll, pin), ⟨ops, priv, 0⟩)]⟩)
      (fun _ _ => True) s.kernel := by
  refine wp_dpllPinRegister_of counted.sound (fun d p liveD liveP free faults _ => ?_)
    fun _ _ => trivial
  have after := counted.registered liveD liveP free new
  refine wp_mono (sends_dpllPinEventSend .create pin _) (fun _ t within => ?_) fun _ _ _ => trivial
  refine after.of_ntfFrame (ntfFrame.trans ?_ within)
  exact ⟨_, faults, rfl⟩

theorem counted_unregister {ops : DpllPinOps} {priv : Ptr} (counted : Counted s)
    (known : ((dpll, pin), ⟨ops, priv, 0⟩) ∈ s.outstanding) :
    wp (dpllPinUnregister dpll pin ops priv)
      (fun _ t => Counted ⟨t, s.outstanding.erase ((dpll, pin), ⟨ops, priv, 0⟩)⟩)
      (fun _ _ => False) s.kernel := by
  refine (neverFails_dpllPinUnregister ops priv).wp (E := fun _ _ => True) ?_
  unfold dpllPinUnregister
  rw [wp_bind, wp_derefDevice]
  intro d liveD
  rw [wp_bind, wp_derefPin]
  intro p liveP
  have nonempty : ¬d.pinRefs.isEmpty := by
    intro empty
    have none := isEmpty_iff_contents.1 empty pin
    rw [counted.counted dpll d pin liveD, Registrations.of_eq_none_iff] at none
    exact List.ne_nil_of_mem (mem_entriesAt.2 known) none
  rw [if_pos ⟨nonempty, counted.orphans pin p liveP⟩, wp_bind]
  refine wp_mono (sends_dpllPinEventSend .delete pin _) (fun _ t within => ?_) fun _ _ _ => trivial
  have before := counted.of_ntfFrame within
  exact wp_dpllPinUnregisterRefs before.sound fun _ _ liveD liveP =>
    before.unregistered liveD liveP known

end Steps

/-! ## Runs -/

theorem counted_reachable {s : Registering}
    (h : (registrationSystem.guard fun s a => RegistersNew s a.1).Reachable s) : Counted s := by
  refine h.induct (fun s init => ?_) fun s a t _ counted step => ?_
  · obtain ⟨reachable, empty, orphans, outstanding⟩ := init
    refine ⟨registryInvariant_reachable reachable, ?_, fun dpll d pin live => ?_, orphans⟩
    · rw [outstanding]
      exact fun _ _ _ mem => absurd mem List.not_mem_nil
    · rw [outstanding, isEmpty_iff_contents.1 (empty dpll d live) pin]
      rfl
  · obtain ⟨step, new⟩ := step
    obtain ⟨call, faults⟩ := a
    have start : Counted ⟨{ s.kernel with faults }, s.outstanding⟩ :=
      counted.of_ntfFrame ⟨_, faults, rfl⟩
    cases call with
    | register dpll pin ops priv =>
      obtain ⟨kernel, run, rfl⟩ := step
      exact exec_ok_of_wp (counted_register start new) run
    | unregister dpll pin ops priv =>
      obtain ⟨known, result, kernel, run, rfl⟩ := step
      have after := counted_unregister start known
      exact holds_of_wp (I := fun t => Counted ⟨t, _⟩)
        (wp_mono after (fun _ _ => id) fun _ _ => False.elim) run

/-- The reference counts each of its registrations once, and it has one. -/
def DpllPinRef.Exact (ref : DpllPinRef) : Prop :=
  ref.refcount = ref.registrationList.length ∧ 1 ≤ ref.refcount ∧
    dpllPinRegistrationFirst ref ≠ none

/-- Every reference of a live object counts its registrations, and a device and a pin whose
registrations have all been taken back have no reference to each other. -/
def CountsRegistrations (s : Registering) : Prop :=
  (∀ dpll d, s.kernel.device dpll = some d → ∀ e ∈ d.pinRefs.entries, e.value.Exact) ∧
    (∀ pin p, s.kernel.pin pin = some p →
      ∀ e ∈ p.dpllRefs.entries ++ p.parentRefs.entries, e.value.Exact) ∧
    ∀ dpll d pin p, s.kernel.device dpll = some d → s.kernel.pin pin = some p →
      (∀ reg, ((dpll, pin), reg) ∉ s.outstanding) →
      (∀ e ∈ d.pinRefs.entries, e.value.target ≠ pin) ∧
        ∀ e ∈ p.dpllRefs.entries, e.value.target ≠ dpll

theorem exact_of_registrations {ref : DpllPinRef} {regs : List DpllPinRegistration}
    (counts : some ref.registrations = Registrations.of regs) : ref.Exact := by
  obtain ⟨list, count, nonempty⟩ := Registrations.of_eq_some_iff.1 counts.symm
  have length : ref.refcount = ref.registrationList.length := count.trans (by rw [← list]; rfl)
  have some : ref.registrationList ≠ [] := fun none => nonempty (list.symm.trans none)
  refine ⟨length, ?_, fun none => some (List.head?_eq_none_iff.1 none)⟩
  rw [length]
  exact List.length_pos_of_ne_nil some

theorem Counted.countsRegistrations {s : Registering} (counted : Counted s) :
    CountsRegistrations s := by
  have sound := counted.sound
  have counts : ∀ dpll d, s.kernel.device dpll = some d → ∀ pin p, s.kernel.pin pin = some p →
      contents p.dpllRefs dpll = Registrations.of (entriesAt s.outstanding (dpll, pin)) :=
    fun dpll d live pin p live' =>
      (sound.agree dpll d live pin p live').symm.trans (counted.counted dpll d pin live)
  refine ⟨fun dpll d live e mem => ?_, fun pin p live e mem => ?_,
    fun dpll d pin p liveD liveP none => ?_⟩
  · have here := (sound.pinRefs dpll d live).contents_of_mem mem
    rw [counted.counted dpll d _ live] at here
    exact exact_of_registrations here.symm
  · rcases List.mem_append.1 mem with mem | mem
    · have key := (sound.dpllRefs pin p live e mem).1
      obtain ⟨d, liveD, -⟩ := Option.map_eq_some_iff.1 key
      have here := (sound.dpllRefs pin p live).contents_of_mem mem
      rw [counts _ d liveD pin p live] at here
      exact exact_of_registrations here.symm
    · exact absurd mem (XArray.isEmpty_iff.1 (counted.orphans pin p live) e)
  · have nothing : Registrations.of (entriesAt s.outstanding (dpll, pin)) = Option.none := by
      rw [Registrations.of_eq_none_iff, List.eq_nil_iff_forall_not_mem]
      exact fun reg entered => none reg (mem_entriesAt.1 entered)
    exact ⟨contents_eq_none_iff.1 ((counted.counted dpll d pin liveD).trans nothing),
      contents_eq_none_iff.1 ((counts dpll d liveD pin p liveP).trans nothing)⟩

/-- As long as nothing is registered that is registered already, every reference counts its
registrations, and it goes with the last of them. -/
theorem references_count_registrations (s : Registering)
    (h : (registrationSystem.guard fun s a => RegistersNew s a.1).Reachable s) :
    CountsRegistrations s :=
  (counted_reachable h).countsRegistrations

/-! ## Given runs -/

/-- The state after a call that succeeds. -/
def afterRegistration (s : Registering) (a : RegistrationCall × List (Option Errno)) :
    Option Registering :=
  match a.1 with
  | .register dpll pin ops priv =>
    match (dpllPinRegister dpll pin ops priv).exec { s.kernel with faults := a.2 } with
    | some (.ok (), kernel) => some ⟨kernel, s.outstanding ++ [((dpll, pin), ⟨ops, priv, 0⟩)]⟩
    | _ => none
  | .unregister dpll pin ops priv =>
    if ((dpll, pin), ⟨ops, priv, 0⟩) ∈ s.outstanding then
      ((dpllPinUnregister dpll pin ops priv).exec { s.kernel with faults := a.2 }).map fun t =>
        ⟨t.2, s.outstanding.erase ((dpll, pin), ⟨ops, priv, 0⟩)⟩
    else none

theorem step_of_afterRegistration {s t : Registering} {a : RegistrationCall × List (Option Errno)}
    (next : afterRegistration s a = some t) : registrationSystem.step s a t := by
  obtain ⟨call, faults⟩ := a
  cases call with
  | register dpll pin ops priv =>
    simp only [afterRegistration] at next
    split at next
    · rename_i kernel run
      exact ⟨kernel, run, (Option.some.inj next).symm⟩
    · cases next
  | unregister dpll pin ops priv =>
    simp only [afterRegistration] at next
    split at next
    · rename_i known
      obtain ⟨⟨result, kernel⟩, run, rfl⟩ := Option.map_eq_some_iff.1 next
      exact ⟨known, result, kernel, run, rfl⟩
    · cases next

/-- Whether no object has references, read off the objects in the arrays. -/
def noReferences (s : KernelState) : Bool :=
  (s.deviceXa.values.all fun dpll => (s.device dpll).all (·.pinRefs.isEmpty)) &&
    s.pinXa.values.all fun pin => (s.pin pin).all (·.parentRefs.isEmpty)

theorem init_of_noReferences {s : KernelState}
    (h : (registrySystem.guard fun s a => PutsUnregistered s a.1).Reachable s)
    (none : noReferences s = true) : registrationSystem.init ⟨s, []⟩ := by
  have sound := registryInvariant_reachable h
  obtain ⟨devices, pins⟩ := Bool.and_eq_true_iff.1 none
  exact ⟨h, fun _ _ => sound.forall_device devices, fun _ _ => sound.forall_pin pins, rfl⟩

section Given

variable {C : Registering → RegistrationCall × List (Option Errno) → Prop}
  [∀ s a, Decidable (C s a)]

/-- One device and one pin, at the addresses 16 and 17, then the calls. -/
def afterRegistrations (C : Registering → RegistrationCall × List (Option Errno) → Prop)
    [∀ s a, Decidable (C s a)] (calls : List RegistrationCall) (test : Registering → Bool) : Bool :=
  (TransitionSystem.follow afterCall (onePin.take 2) .loaded).any fun s =>
    noReferences s && (TransitionSystem.follow
      (fun s a => if C s a then afterRegistration s a else none) (calls.map (·, [])) ⟨s, []⟩).any
        test

theorem exists_of_afterRegistrations (calls : List RegistrationCall) (test : Registering → Bool)
    (passes : afterRegistrations C calls test = true) :
    ∃ s, (registrationSystem.guard C).Reachable s ∧ test s = true := by
  obtain ⟨s, reachable, both⟩ := exists_reachable_of_follow _ _
    (fun a mem s => by fin_cases mem <;> trivial) passes
  obtain ⟨none, follows⟩ := Bool.and_eq_true_iff.1 both
  have start : (registrationSystem.guard C).Reachable ⟨s, []⟩ :=
    .init (init_of_noReferences reachable none)
  refine start.exists_of_follow _ test (fun a _ s t next => ?_) follows
  split at next
  · rename_i allowed
    exact ⟨step_of_afterRegistration next, allowed⟩
  · cases next

end Given

/-- The reference at index 0 of the device at the address 16. -/
def Registering.firstRef (s : Registering) : Option DpllPinRef :=
  (s.kernel.device 16).bind fun d => d.pinRefs.load 0

instance (s : Registering) : DecidablePred (RegistersNew s)
  | .register .. => inferInstanceAs (Decidable (_ ∉ _))
  | .unregister .. => instDecidableTrue

/-- Two registrations of one pin, one of them taken back. -/
theorem references_count_registrations_two : ∃ s : Registering,
    s.firstRef = some ⟨17, [⟨plainPinOps, 4, 0⟩], 1⟩ ∧ CountsRegistrations s := by
  obtain ⟨s, reachable, ref⟩ :=
    exists_of_afterRegistrations (C := fun s a => RegistersNew s a.1)
      [.register 16 17 plainPinOps 3, .register 16 17 plainPinOps 4,
        .unregister 16 17 plainPinOps 3]
      (fun s => s.firstRef = some ⟨17, [⟨plainPinOps, 4, 0⟩], 1⟩) (by decide +kernel)
  exact ⟨s, of_decide_eq_true ref, references_count_registrations s reachable⟩

/-- A second registration of the same kind is counted and not listed.  The first call that takes one
back leaves an empty list, and the second leaves the reference there. -/
theorem not_references_count_registrations :
    (∃ s, registrationSystem.Reachable s ∧
      s.firstRef = some ⟨17, [⟨plainPinOps, 3, 0⟩], 2⟩) ∧
    (∃ s, registrationSystem.Reachable s ∧ s.outstanding = [] ∧ s.firstRef = some ⟨17, [], 1⟩) ∧
    ¬∀ s, registrationSystem.Reachable s → CountsRegistrations s := by
  have twice : ∃ s, registrationSystem.Reachable s ∧
      s.firstRef = some ⟨17, [⟨plainPinOps, 3, 0⟩], 2⟩ := by
    obtain ⟨s, reachable, ref⟩ := exists_of_afterRegistrations (C := fun _ _ => True)
      [.register 16 17 plainPinOps 3, .register 16 17 plainPinOps 3]
      (fun s => s.firstRef = some ⟨17, [⟨plainPinOps, 3, 0⟩], 2⟩) (by decide +kernel)
    exact ⟨s, reachable.of_guard, of_decide_eq_true ref⟩
  have left : ∃ s, registrationSystem.Reachable s ∧ s.outstanding = [] ∧
      s.firstRef = some ⟨17, [], 1⟩ := by
    obtain ⟨s, reachable, both⟩ := exists_of_afterRegistrations (C := fun _ _ => True)
      [.register 16 17 plainPinOps 3, .register 16 17 plainPinOps 3,
        .unregister 16 17 plainPinOps 3, .unregister 16 17 plainPinOps 3]
      (fun s => s.outstanding = [] ∧ s.firstRef = some ⟨17, [], 1⟩) (by decide +kernel)
    exact ⟨s, reachable.of_guard, of_decide_eq_true both⟩
  refine ⟨twice, left, fun all => ?_⟩
  obtain ⟨s, reachable, ref⟩ := twice
  obtain ⟨d, live, load⟩ := Option.bind_eq_some_iff.1 ref
  obtain ⟨e, mem, -, value⟩ := XArray.load_eq_some_iff.1 load
  have exact' := (all s reachable).1 16 d live e mem
  rw [value] at exact'
  exact absurd exact'.1 (by decide)

end Netdevsim
