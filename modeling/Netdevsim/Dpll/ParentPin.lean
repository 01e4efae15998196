import Netdevsim.Dpll.PinSet
import Netdevsim.Dpll.OnPin

/-!
# The state of a pin on a parent pin

A request names a parent pin by its id, and the references of a pin to its parents are kept by the
index that a driver gave the parent.  The two lead to the same parent as long as no other parent of
the pin has that index.
-/

namespace Netdevsim

open Program

variable {δ : Type}

/-- The registrations of a pin on a parent pin. -/
def DpllPin.parentRegs (p : DpllPin) (parent : Ptr) : List DpllPinRegistration :=
  match contents p.parentRefs parent with
  | some r => r.registrationList
  | none => []

/-- The state of the pin may be changed. -/
def DpllPin.CanChangeState (p : DpllPin) : Prop :=
  DPLL_PIN_CAPABILITIES_STATE_CAN_CHANGE &&& p.prop.capabilities ≠ 0

instance (p : DpllPin) : Decidable p.CanChangeState := inferInstanceAs (Decidable (_ ≠ _))

/-- There is no pin with the id, or the pin has no parent with that pin's index. -/
def NoParentAt (k : KernelState) (p : DpllPin) (id : UInt32) : Prop :=
  k.pinXa.load id.toNat = none ∨
    ∃ parent par, k.pinXa.load id.toNat = some parent ∧ k.pin parent = some par ∧
      p.parentRefs.load par.pinIdx.toNat = none

/-- A nest names a parent pin and a state. -/
def Names (nest : List PinParentAttr) (id state : UInt32) : Prop :=
  (nlaParseNested nest).parentId = some id ∧ (nlaParseNested nest).state = some state

section Serve

variable {ops : Ptr → PinCallbacks δ} {s : NlState δ} {k : KernelState} {pin parent : Ptr}
  {p par : DpllPin} {nest : List PinParentAttr} {id state : UInt32} {ref : DpllPinRef}

theorem dpllPinParentPinSet_eq (ops : Ptr → PinCallbacks δ) (names : Names nest id state)
    (pin : Ptr) :
    dpllPinParentPinSet ops pin nest = dpllPinOnPinStateSet ops pin id state := by
  unfold dpllPinParentPinSet
  simp only [names.1, names.2, ifGiven]

theorem exec_needCapability (live : s.kernel.pin pin = some p) (capability : UInt64)
    (text : String) : (needCapability pin capability text).exec s =
      if capability &&& p.prop.capabilities = 0 then
        some (.error .EOPNOTSUPP, { s with extack := { s.extack with msg := some text } })
      else some (.ok (), s) := by
  unfold needCapability
  rw [exec_bind_of_ok (exec_onKernel_of_read (exec_derefPin live))]
  split_ifs <;> rfl

/-- A pin whose state cannot be changed. -/
theorem exec_stateSet_incapable (ops : Ptr → PinCallbacks δ) (id state : UInt32)
    (live : s.kernel.pin pin = some p) (incapable : ¬p.CanChangeState) :
    (dpllPinOnPinStateSet ops pin id state).exec s = some (.error .EOPNOTSUPP,
      { s with extack := { s.extack with msg := some "state changing is not allowed" } }) := by
  unfold dpllPinOnPinStateSet
  rw [exec_bind, exec_needCapability live, if_pos (not_not.1 incapable)]

theorem exec_stateSet_capable (live : s.kernel.pin pin = some p) (capable : p.CanChangeState) :
    (dpllPinOnPinStateSet ops pin id state).exec s =
      (match s.kernel.pinXa.load id.toNat with
      | none => throw .EINVAL
      | some parent => do
        let p ← onKernel (derefPin pin)
        let par ← onKernel (derefPin parent)
        match p.parentRefs.load par.pinIdx.toNat with
        | none => throw .EINVAL
        | some parentRef =>
          par.dpllRefs.values.forM (stateOnPinSet ops pin parent parentRef state)
          _dpllPinChangeNtf pin : NlM δ Unit).exec s := by
  unfold dpllPinOnPinStateSet
  rw [exec_bind, exec_needCapability live, if_neg capable]
  rfl

/-- A pin without a parent at the index. -/
theorem exec_stateSet_noParent (live : s.kernel.pin pin = some p) (capable : p.CanChangeState)
    (noParent : NoParentAt s.kernel p id) :
    (dpllPinOnPinStateSet ops pin id state).exec s = some (.error .EINVAL, s) := by
  rw [exec_stateSet_capable live capable]
  rcases noParent with none | ⟨parent, par, load, livePar, none⟩
  · rw [none]
    rfl
  · rw [load]
    dsimp only
    rw [exec_bind_of_ok (exec_onKernel_of_read (exec_derefPin live)),
      exec_bind_of_ok (exec_onKernel_of_read (exec_derefPin livePar)), none]
    rfl

/-- The reference to a parent that the pin is registered on. -/
theorem load_of_parentRegs (inv : RegistryInvariant k) (live : k.pin pin = some p)
    (livePar : k.pin parent = some par) (registered : p.parentRegs parent ≠ []) :
    ∃ ref, p.parentRefs.load par.pinIdx.toNat = some ref ∧
      ref.registrationList = p.parentRegs parent := by
  have keyed := inv.parentRefs pin p live
  unfold DpllPin.parentRegs at registered ⊢
  cases known : contents p.parentRefs parent with
  | none =>
    rw [known] at registered
    exact absurd rfl registered
  | some r =>
    obtain ⟨e, mem, value⟩ := keyed.contents_eq_some_iff.1 known
    have index := (keyed e mem).1
    rw [value, pinKey_of_live livePar, Option.some.injEq] at index
    refine ⟨e.value, XArray.load_eq_some_iff.2 ⟨e, mem, index.symm, rfl⟩, ?_⟩
    rw [value]

theorem keeps_calls_onKernel {α : Type} (m : KernelM α) :
    Keeps (Frame.of NlState.calls) (onKernel m : NlM δ α) := by
  intro s
  unfold wp
  rw [exec_onKernel]
  cases m.exec s.kernel with
  | none => trivial
  | some out =>
    obtain ⟨result, k⟩ := out
    cases result <;> rfl

/-- A part of the core that only reads, and that may go wrong. -/
theorem wp_onKernel_of_read {α : Type} {m : KernelM α} {Q : α → NlState δ → Prop}
    {E : Errno → NlState δ → Prop} (reads : wp m (fun _ t => t = s.kernel) (fun _ _ => False) s.kernel)
    (rest : ∀ a, Q a s) : wp (onKernel m) Q E s := by
  unfold wp at reads ⊢
  rw [exec_onKernel]
  cases run : m.exec s.kernel with
  | none => trivial
  | some out =>
    obtain ⟨result, t⟩ := out
    rw [run] at reads
    cases result with
    | ok a =>
      obtain rfl : t = s.kernel := reads
      exact rest a
    | error e => exact reads.elim

theorem reads_dpllPinPrivAt (xa : XArray DpllPinRef) (index : ℕ) :
    wp (dpllPinPrivAt xa index) (fun _ t => t = k) (fun _ _ => False) k := by
  unfold dpllPinPrivAt
  split
  · rfl
  · split
    · rfl
    · trivial

theorem reads_dpllPinOnDpllPriv (dpll pin : Ptr) :
    wp (dpllPinOnDpllPriv dpll pin) (fun _ t => t = k) (fun _ _ => False) k := by
  unfold dpllPinOnDpllPriv
  rw [wp_bind, wp_derefDevice]
  intro d _
  rw [wp_bind, wp_derefPin]
  exact fun p _ => reads_dpllPinPrivAt ..

/-- The private data of the first registration on the parent. -/
theorem exec_dpllPinOnPinPriv (live : k.pin pin = some p) (livePar : k.pin parent = some par)
    (load : p.parentRefs.load par.pinIdx.toNat = some ref) {reg : DpllPinRegistration}
    (first : dpllPinRegistrationFirst ref = some reg) :
    (dpllPinOnPinPriv parent pin).exec k = some (.ok reg.priv, k) := by
  unfold dpllPinOnPinPriv
  rw [exec_bind, exec_derefPin live]
  dsimp only
  rw [exec_bind, exec_derefPin livePar]
  dsimp only
  unfold dpllPinPrivAt
  rw [load]
  dsimp only
  rw [first]
  rfl

/-- The calls that set the state of the pin on its parent. -/
def ActsOn (pin parent : Ptr) (p : DpllPin) (state : UInt32) (call : PinOpsCall) : Prop :=
  ∃ reg ∈ p.parentRegs parent, ∃ parentPriv,
    call = .stateOnPinSet ⟨pin, reg.priv, parent, parentPriv⟩ state

/-- The state is set for one device of the parent. -/
theorem wp_stateOnPinSet (live : s.kernel.pin pin = some p)
    (livePar : s.kernel.pin parent = some par)
    (load : p.parentRefs.load par.pinIdx.toNat = some ref)
    (regs : ref.registrationList = p.parentRegs parent) (dpllRef : DpllPinRef) :
    wp (stateOnPinSet ops pin parent ref state dpllRef)
      (fun _ t => t.kernel = s.kernel ∧ ∃ calls, t.calls = s.calls ++ calls ∧
        ∀ call ∈ calls, ActsOn pin parent p state call)
      (fun _ t => t.kernel = s.kernel ∧ ∃ calls, t.calls = s.calls ++ calls ∧
        ∀ call ∈ calls, ActsOn pin parent p state call) s := by
  unfold stateOnPinSet
  cases first : dpllPinRegistrationFirst ref with
  | none =>
    have wrong : (onKernel (dpllPinOps ref) : NlM δ DpllPinOps).exec s = none := by
      rw [exec_onKernel, dpllPinOps, first]
      rfl
    rw [wp_bind]
    unfold wp
    rw [wrong]
    trivial
  | some reg =>
    have mem : reg ∈ p.parentRegs parent := by
      rw [← regs]
      exact List.mem_of_mem_head? first
    rw [wp_bind, wp_of_exec (exec_onKernel_of_read (exec_dpllPinOps first))]
    split
    · exact ⟨rfl, [], (List.append_nil _).symm, nofun⟩
    · rw [wp_bind, wp_of_exec (exec_onKernel_of_read
        (exec_dpllPinOnPinPriv live livePar load first)), wp_bind]
      refine wp_onKernel_of_read (reads_dpllPinOnDpllPriv ..) fun parentPriv => ?_
      rw [wp_of_run (exec_callDriver ..)]
      have acts : ∀ call ∈ [PinOpsCall.stateOnPinSet ⟨pin, reg.priv, parent, parentPriv⟩ state],
          ActsOn pin parent p state call := by
        intro call single
        exact ⟨reg, mem, parentPriv, List.mem_singleton.1 single⟩
      rename_i setter _
      cases (setter ⟨pin, reg.priv, parent, parentPriv⟩ state s.driver).1
      · exact ⟨rfl, _, rfl, acts⟩
      · exact ⟨rfl, _, rfl, acts⟩

/-- The state is set for each device of the parent. -/
theorem wp_forM_stateOnPinSet (live : s.kernel.pin pin = some p)
    (livePar : s.kernel.pin parent = some par)
    (load : p.parentRefs.load par.pinIdx.toNat = some ref)
    (regs : ref.registrationList = p.parentRegs parent) (dpllRefs : List DpllPinRef) :
    wp (dpllRefs.forM (stateOnPinSet ops pin parent ref state))
      (fun _ t => ∃ calls, t.calls = s.calls ++ calls ∧
        ∀ call ∈ calls, ActsOn pin parent p state call)
      (fun _ t => ∃ calls, t.calls = s.calls ++ calls ∧
        ∀ call ∈ calls, ActsOn pin parent p state call) s := by
  induction dpllRefs generalizing s with
  | nil => exact ⟨[], (List.append_nil _).symm, nofun⟩
  | cons dpllRef rest ih =>
    show wp (stateOnPinSet ops pin parent ref state dpllRef >>= fun _ =>
      rest.forM (stateOnPinSet ops pin parent ref state)) _ _ s
    rw [wp_bind]
    refine wp_mono (wp_stateOnPinSet live livePar load regs dpllRef) ?_ fun _ _ h => h.2
    rintro _ t ⟨kernel, calls, log, acts⟩
    refine wp_mono (ih (kernel ▸ live) (kernel ▸ livePar)) ?_ ?_
    all_goals
      rintro _ u ⟨more, log', acts'⟩
      refine ⟨calls ++ more, by rw [log', log, List.append_assoc], fun call mem => ?_⟩
      exact (List.mem_append.1 mem).elim (acts call) (acts' call)

/-- A pin that is registered on the parent. -/
theorem wp_stateSet_registered (ops : Ptr → PinCallbacks δ) (state : UInt32)
    (inv : RegistryInvariant s.kernel) (live : s.kernel.pin pin = some p)
    (capable : p.CanChangeState) (named : s.kernel.pinXa.load id.toNat = some parent)
    (registered : p.parentRegs parent ≠ []) :
    wp (dpllPinOnPinStateSet ops pin id state)
      (fun _ t => ∃ calls, t.calls = s.calls ++ calls ∧
        ∀ call ∈ calls, ActsOn pin parent p state call)
      (fun _ t => ∃ calls, t.calls = s.calls ++ calls ∧
        ∀ call ∈ calls, ActsOn pin parent p state call) s := by
  unfold wp
  rw [exec_stateSet_capable live capable, named]
  show wp (onKernel (derefPin pin) >>= _) _ _ s
  rw [wp_bind, wp_of_exec (exec_onKernel_of_read (exec_derefPin live)), wp_bind]
  cases livePar : s.kernel.pin parent with
  | none =>
    have wrong : (onKernel (derefPin parent) : NlM δ DpllPin).exec s = none := by
      rw [exec_onKernel, exec_derefPin_of_freed livePar]
      rfl
    unfold wp
    rw [wrong]
    trivial
  | some par =>
    rw [wp_of_exec (exec_onKernel_of_read (exec_derefPin livePar))]
    obtain ⟨ref, load, regs⟩ := load_of_parentRegs inv live livePar registered
    rw [load]
    dsimp only
    rw [wp_bind]
    refine wp_mono (wp_forM_stateOnPinSet live livePar load regs _) ?_ fun _ _ acts => acts
    intro _ t acts
    have same : wp (_dpllPinChangeNtf pin) (fun _ u => u.calls = t.calls)
        (fun _ u => u.calls = t.calls) t := keeps_calls_onKernel _ t
    exact wp_mono same (fun _ _ same => by rwa [same]) fun _ _ same => by rwa [same]

end Serve

/-- In every state that calls of the core lead to, a nest that names a parent pin by its id is
refused if the pin cannot change its state, and if the pin has no parent with the index of the named
one.  If the pin is registered on the named parent, then each call is for that parent and has the
private data of a registration on it. -/
theorem parent_pin_acts_on_registered (k : KernelState)
    (reach : (registrySystem.guard fun s a => PutsUnregistered s a.1).Reachable k)
    (s : NlState δ) (serving : ntfFrame.rel k s.kernel) {pin : Ptr} {p : DpllPin}
    (live : k.pin pin = some p) (ops : Ptr → PinCallbacks δ) {nest : List PinParentAttr}
    {id state : UInt32} (names : Names nest id state) :
    (¬p.CanChangeState → ∃ t, (dpllPinParentPinSet ops pin nest).exec s =
        some (.error .EOPNOTSUPP, t) ∧ t.calls = s.calls) ∧
      (p.CanChangeState → NoParentAt k p id →
        (dpllPinParentPinSet ops pin nest).exec s = some (.error .EINVAL, s)) ∧
      (p.CanChangeState → ∀ parent, k.pinXa.load id.toNat = some parent →
        p.parentRegs parent ≠ [] → ∀ r t,
          (dpllPinParentPinSet ops pin nest).exec s = some (r, t) →
          ∃ calls, t.calls = s.calls ++ calls ∧ ∀ call ∈ calls, ActsOn pin parent p state call) := by
  have inv := (registryInvariant_reachable reach).of_ntfFrame serving
  obtain ⟨sent, faults, same⟩ := serving
  have live' : s.kernel.pin pin = some p := by
    rw [same]
    exact live
  rw [dpllPinParentPinSet_eq ops names]
  refine ⟨fun incapable => ⟨_, exec_stateSet_incapable ops id state live' incapable, rfl⟩, ?_, ?_⟩
  · intro capable noParent
    refine exec_stateSet_noParent live' capable ?_
    rw [same]
    exact noParent
  · intro capable parent named registered r t run
    have named' : s.kernel.pinXa.load id.toNat = some parent := by
      rw [same]
      exact named
    have acts := wp_stateSet_registered ops state inv live' capable named' registered
    rw [wp_of_run run] at acts
    cases r with
    | ok a => exact acts
    | error e => exact acts

/-! ## Two parents with one index -/

/-- A driver that accepts each state of a pin on its parent. -/
def obedientOps : PinCallbacks Unit :=
  ⟨none, none, none, none, none, none, some fun _ _ d => (.ok (), d), none, none, none, none, none,
    none, none⟩

/-- A pin whose state can be changed. -/
def switchablePin : DpllPinProperties :=
  ⟨none, none, none, DPLL_PIN_TYPE_GNSS, DPLL_PIN_CAPABILITIES_STATE_CAN_CHANGE, [], (0, 0)⟩

/-- Two modules have a device and a multiplexer each, at the addresses 16 and 18, and 17 and 19.
Both multiplexers have the index 0.  The pin at 20 is registered on the one at 18. -/
def twoMultiplexers : List (DpllCall × List (Option Errno)) :=
  [(.deviceGet 0 0 1, []), (.deviceGet 1 0 2, []), (.pinGet 0 0 1 muxPin, []),
    (.pinGet 1 0 2 muxPin, []), (.pinGet 0 1 1 switchablePin, []),
    (.deviceRegister 16 DPLL_TYPE_PPS ⟨3, true, true⟩ 5, []),
    (.deviceRegister 17 DPLL_TYPE_PPS ⟨3, true, true⟩ 6, []),
    (.pinRegister 16 18 plainPinOps 3, []), (.pinRegister 17 19 plainPinOps 4, []),
    (.pinOnPinRegister 18 20 onPinOps 7, [])]

/-- The nest that names the parent with an id, and the state 1. -/
def nestFor (id : UInt32) : List PinParentAttr := [.parentId id, .state 1]

/-- What is returned by a request for a pin, and whether a callback was called. -/
def servedNest (k : KernelState) (pin : Ptr) (id : UInt32) : Option (Except Errno Unit × Bool) :=
  ((dpllPinParentPinSet (fun _ => obedientOps) pin (nestFor id)).exec (.start k [] ())).map
    fun out => (out.1, out.2.calls ≠ [])

/-- The pin at 20 is on the parent with the id 0 and not on that with the id 1.  Naming either of
them leads to a call. -/
def twoMultiplexersTest (k : KernelState) : Bool :=
  (k.pin 20).any (fun p => p.CanChangeState ∧ p.parentRegs 18 ≠ [] ∧ p.parentRegs 19 = []) &&
    (k.pin 18).any (fun p => ¬p.CanChangeState ∧ p.parentRegs 19 = []) &&
    (k.pinXa.load 0 = some 18 ∧ k.pinXa.load 1 = some 19) &&
    servedNest k 20 0 = some (.ok (), true) && servedNest k 20 1 = some (.ok (), true)

theorem exists_twoMultiplexers : ∃ k p q,
    (registrySystem.guard fun s a => PutsUnregistered s a.1).Reachable k ∧
      (k.pin 20 = some p ∧ p.CanChangeState ∧ p.parentRegs 18 ≠ [] ∧ p.parentRegs 19 = []) ∧
      (k.pin 18 = some q ∧ ¬q.CanChangeState ∧ q.parentRegs 19 = []) ∧
      (k.pinXa.load 0 = some 18 ∧ k.pinXa.load 1 = some 19) ∧
      servedNest k 20 0 = some (.ok (), true) ∧ servedNest k 20 1 = some (.ok (), true) := by
  obtain ⟨k, reach, test⟩ := exists_reachable_of_follow twoMultiplexers twoMultiplexersTest
    (fun a mem s => by fin_cases mem <;> trivial) (by decide +kernel)
  simp only [twoMultiplexersTest, Option.any_eq_true, Bool.and_eq_true, decide_eq_true_eq] at test
  obtain ⟨⟨⟨⟨⟨p, live, child⟩, q, liveQ, mux⟩, ids⟩, first⟩, second⟩ := test
  exact ⟨k, p, q, reach, ⟨live, child⟩, ⟨liveQ, mux⟩, ids, first, second⟩

theorem exists_run_of_servedNest {k : KernelState} {pin : Ptr} {id : UInt32}
    {r : Except Errno Unit} {called : Bool} (served : servedNest k pin id = some (r, called)) :
    ∃ t, (dpllPinParentPinSet (fun _ => obedientOps) pin (nestFor id)).exec (.start k [] ()) =
      some (r, t) ∧ (called = true ↔ t.calls ≠ []) := by
  obtain ⟨⟨r', t⟩, run, same⟩ := Option.map_eq_some_iff.1 served
  obtain ⟨rfl, rfl⟩ := Prod.mk.inj same
  exact ⟨t, run, decide_eq_true_iff⟩

/-- The pin acts on the parent that it is registered on. -/
theorem parent_pin_acts_on_registered_one : ∃ k p t, k.pin 20 = some p ∧
    (dpllPinParentPinSet (fun _ => obedientOps) 20 (nestFor 0)).exec (.start k [] ()) =
      some (.ok (), t) ∧ t.calls ≠ [] ∧ ∀ call ∈ t.calls, ActsOn 20 18 p 1 call := by
  obtain ⟨k, p, q, reach, ⟨live, capable, registered, -⟩, -, ⟨named, -⟩, served, -⟩ :=
    exists_twoMultiplexers
  obtain ⟨t, run, called⟩ := exists_run_of_servedNest served
  have names : Names (nestFor 0) 0 1 := ⟨rfl, rfl⟩
  have acts := parent_pin_acts_on_registered k reach (.start k [] ()) ⟨_, _, rfl⟩ live
    (fun _ => obedientOps) names
  obtain ⟨calls, log, each⟩ := acts.2.2 capable 18 named registered _ t run
  refine ⟨k, p, t, live, run, called.1 rfl, fun call mem => each call ?_⟩
  rw [log] at mem
  exact mem

/-- A call is made for a parent that the pin is not registered on, and a pin that cannot change its
state is refused with another error than `EINVAL`. -/
theorem parent_pin_acts_on_another : ∃ k p q,
    (registrySystem.guard fun s a => PutsUnregistered s a.1).Reachable k ∧
      k.pin 20 = some p ∧ k.pin 18 = some q ∧ k.pinXa.load 1 = some 19 ∧
      (p.parentRegs 19 = [] ∧ ∃ t,
        (dpllPinParentPinSet (fun _ => obedientOps) 20 (nestFor 1)).exec (.start k [] ()) =
          some (.ok (), t) ∧ t.calls ≠ []) ∧
      q.parentRegs 19 = [] ∧ ∃ t,
        (dpllPinParentPinSet (fun _ => obedientOps) 18 (nestFor 1)).exec (.start k [] ()) =
          some (.error .EOPNOTSUPP, t) := by
  obtain ⟨k, p, q, reach, ⟨live, -, -, other⟩, ⟨liveQ, incapable, otherQ⟩, ⟨-, named⟩, -, served⟩ :=
    exists_twoMultiplexers
  obtain ⟨t, run, called⟩ := exists_run_of_servedNest served
  have names : Names (nestFor 1) 1 1 := ⟨rfl, rfl⟩
  have refused : (dpllPinOnPinStateSet (fun _ => obedientOps) 18 1 1).exec (.start k [] ()) = _ :=
    exec_stateSet_incapable _ 1 1 liveQ incapable
  rw [← dpllPinParentPinSet_eq _ names] at refused
  exact ⟨k, p, q, reach, live, liveQ, named, ⟨other, t, run, called.1 rfl⟩, otherQ, _, refused⟩

end Netdevsim
