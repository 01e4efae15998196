import Netdevsim.Dev.Lifecycle

/-!
# The pins of the ports

`nsim_dpll_init` makes a pin for each PF port there is when the device is probed.  Ports added or
deleted later are not told to the DPLL, so pins and PF ports go on to correspond exactly as long as
no PF port is added or deleted.
-/

namespace Netdevsim

open Program

/-- The pins of the PF ports and the PF ports of a device with WPC correspond: each PF port has
exactly one pin and each pin belongs to a PF port. -/
def PinsMatch (dev : NsimDev) : Prop :=
  ∃ d, dev.dpll = some d ∧
    (d.portPins.map NsimDpllPin.ns).Perm (dev.pfPorts.map NsimDevPort.ns) ∧
    (dev.pfPorts.map NsimDevPort.ns).Nodup

/-! ## When a port is not added -/

/-- None of the next `n` calls that may fail does. -/
def NoFault (n : ℕ) (s : KernelState) : Prop := ∀ f ∈ s.faults.take n, f = none

instance (n : ℕ) (s : KernelState) : Decidable (NoFault n s) := inferInstanceAs (Decidable (∀ _ ∈ _, _))

/-- What makes `__nsim_dev_port_add` of a PF port fail: the index is registered, the net device
would have no queues, or one of the five calls that may fail does. -/
def AddFails (w : NsimWorld) (portIndex : UInt32) : Prop :=
  portIndex ∈ w.dev.devlinkPorts ∨ w.dev.busDev.numQueues = 0 ∨ ¬NoFault 5 w.kernel

/-- What makes `nsim_drv_port_add` of a PF port fail. -/
def NewPortRefused (w : NsimWorld) (portIndex : UInt32) : Prop :=
  (_nsimDevPortLookup w.dev .PF portIndex).isSome ∨ AddFails w portIndex

section Faults

variable {s : KernelState} {n size : ℕ} {w : NsimWorld} {portIndex : UInt32}

theorem noFault_succ :
    NoFault (n + 1) s ↔
      s.faults.headD none = none ∧ NoFault n { s with faults := s.faults.tail } := by
  unfold NoFault
  cases faults : s.faults with
  | nil => simp
  | cons f fs => simp

theorem wp_fault_count :
    wp fault (fun f t => (NoFault (n + 1) s ↔ f = none ∧ NoFault n t))
      (fun _ _ => ¬NoFault (n + 1) s) s :=
  wp_fault_iff.2 noFault_succ

theorem wp_mayFail_count :
    wp mayFail (fun _ t => (NoFault (n + 1) s ↔ NoFault n t))
      (fun _ _ => ¬NoFault (n + 1) s) s := by
  unfold mayFail
  rw [wp_bind]
  apply wp_mono wp_fault_count _ fun _ _ => id
  rintro (_ | e) t count
  · exact count.trans (and_iff_right rfl)
  · exact fun all => Option.some_ne_none _ (count.1 all).1

theorem wp_mayRunOut_count :
    wp mayRunOut (fun _ t => (NoFault (n + 1) s ↔ NoFault n t))
      (fun _ _ => ¬NoFault (n + 1) s) s := by
  unfold mayRunOut
  rw [wp_bind]
  apply wp_mono wp_fault_count _ fun _ _ => id
  rintro (_ | e) t count
  · exact count.trans (and_iff_right rfl)
  · exact fun all => Option.some_ne_none _ (count.1 all).1

theorem wp_kzalloc_count :
    wp (kzalloc size) (fun _ t => (NoFault (n + 1) s ↔ NoFault n t))
      (fun _ _ => ¬NoFault (n + 1) s) s := by
  unfold kzalloc
  rw [wp_bind]
  exact wp_mono wp_mayRunOut_count (fun _ _ count => count) fun _ _ => id

/-- A PF port is added unless there is a reason not to. -/
theorem wp_nsimDevPortAdd_iff :
    wp (_nsimDevPortAdd .PF portIndex) (fun _ _ => ¬AddFails w portIndex)
      (fun _ _ => AddFails w portIndex) w := by
  unfold _nsimDevPortAdd
  rw [wp_bind, wp_getDev, wp_bind, wp_failIf]
  refine ⟨fun vf => absurd vf.1 (by decide), fun _ => ?_⟩
  rw [wp_bind, wp_inKernel]
  apply wp_mono (wp_mayRunOut_count (n := 4)) _ fun _ _ some => .inr (.inr some)
  intro _ k₁ count₁
  dsimp only
  unfold devlPortRegister
  rw [wp_bind, wp_bind, wp_getDev, wp_bind, wp_failIf]
  refine ⟨fun registered => .inl registered, fun unregistered => ?_⟩
  rw [wp_bind, wp_inKernel]
  apply wp_mono (wp_mayRunOut_count (n := 3)) _ fun _ _ some => .inr (.inr (count₁.not.2 some))
  intro _ k₂ count₂
  rw [wp_modifyDev]
  apply wp_unwind_of (J := fun _ => AddFails w portIndex)
  · rw [wp_bind, wp_inKernel]
    have count₂ := count₁.trans count₂
    apply wp_mono (wp_mayFail_count (n := 2)) _ fun _ _ some => .inr (.inr (count₂.not.2 some))
    intro _ k₃ count₃
    have count₃ := count₂.trans count₃
    unfold nsimCreate
    rw [wp_bind, wp_bind, wp_getDev, wp_bind, wp_failIf]
    refine ⟨fun none => .inr (.inl none), fun queues => ?_⟩
    rw [wp_bind, wp_inKernel]
    apply wp_mono (wp_kzalloc_count (n := 1)) _ fun _ _ some => .inr (.inr (count₃.not.2 some))
    intro ns k₄ count₄
    have count₄ := count₃.trans count₄
    rw [wp_bind, wp_inKernel]
    apply wp_mono (wp_mayFail_count (n := 0)) _ fun _ _ some => .inr (.inr (count₄.not.2 some))
    intro _ k₅ count₅
    have count₅ := count₄.trans count₅
    rintro (registered | none | some)
    · exact unregistered registered
    · exact queues none
    · exact some (count₅.2 fun f mem => by simp at mem)
  · exact fun _ fails => fails

/-- Adding a PF port changes the device exactly when it is not refused. -/
theorem wp_nsimDrvPortAdd_iff :
    wp (nsimDrvPortAdd .PF portIndex)
      (fun _ t => ¬NewPortRefused w portIndex ∧ ∃ ns, PortAdded ⟨portIndex, .PF, ns⟩ w t)
      (fun _ t => NewPortRefused w portIndex ∧ t.dev = w.dev) w := by
  unfold nsimDrvPortAdd
  rw [wp_bind, wp_getDev, wp_bind, wp_failIf]
  refine ⟨fun found => ⟨.inl found, rfl⟩, fun missing => ?_⟩
  apply wp_mono (wp_and wp_nsimDevPortAdd_iff wp_nsimDevPortAdd)
  · rintro _ t ⟨allowed, added⟩
    exact ⟨not_or.2 ⟨missing, allowed⟩, added⟩
  · rintro _ t ⟨fails, kept⟩
    exact ⟨.inr fails, kept.2⟩

theorem wp_nsimDrvPortDel :
    wp (nsimDrvPortDel .PF portIndex)
      (fun _ t => ∃ port, _nsimDevPortLookup w.dev .PF portIndex = some port ∧
        t.dev = w.dev.delPort port)
      (fun _ t => _nsimDevPortLookup w.dev .PF portIndex = none ∧ t.dev = w.dev) w := by
  unfold nsimDrvPortDel
  rw [wp_bind, wp_getDev]
  cases lookup : _nsimDevPortLookup w.dev .PF portIndex with
  | none => exact ⟨rfl, rfl⟩
  | some port =>
    apply wp_mono wp_nsimDevPortDel _ fun _ _ => id
    exact fun _ t deleted => ⟨port, rfl, deleted.2⟩

end Faults

/-! ## What an operation does to the correspondence -/

/-- No PF port is added or deleted: adding one is refused, and what is deleted is not there or a VF
port. -/
def KeepsPfPorts (w : NsimWorld) : NsimOp → Prop
  | .newPort portIndex => NewPortRefused w portIndex
  | .delPort portIndex =>
    ∀ port, _nsimDevPortLookup w.dev .PF portIndex = some port → nsimDevPortIsVf port
  | _ => True

section Operations

variable {w t : NsimWorld} {dev dev' : NsimDev} {port : NsimDevPort} {portIndex : UInt32}

theorem PinsMatch.congr (pins : PinsMatch dev) (dpll : dev'.dpll = dev.dpll)
    (pf : dev'.pfPorts = dev.pfPorts) : PinsMatch dev' := by
  obtain ⟨d, some, perm, nodup⟩ := pins
  refine ⟨d, dpll.trans some, ?_, ?_⟩ <;> rw [pf] <;> assumption

/-- With the same pins there must be as many PF ports. -/
theorem PinsMatch.length_eq (pins : PinsMatch dev) (pins' : PinsMatch dev')
    (dpll : dev'.dpll = dev.dpll) : dev'.pfPorts.length = dev.pfPorts.length := by
  obtain ⟨d, some, perm, -⟩ := pins
  obtain ⟨d', some', perm', -⟩ := pins'
  rw [dpll, some] at some'
  cases some'
  simpa using (perm'.symm.trans perm).length_eq

theorem pfPorts_addPort (pf : nsimDevPortIsPf port) :
    (dev.addPort port).pfPorts = port :: dev.pfPorts := List.filter_cons_of_pos pf

theorem pfPorts_delPort : (dev.delPort port).pfPorts = dev.pfPorts.erase port :=
  List.erase_filter.symm

theorem nsimDevPortIsVf_iff : nsimDevPortIsVf port ↔ ¬nsimDevPortIsPf port := by
  unfold nsimDevPortIsVf nsimDevPortIsPf
  cases port.portType <;> decide

theorem pinsMatch_newPort (pins : PinsMatch w.dev) :
    wp (nsimDrvPortAdd .PF portIndex)
      (fun _ t => (PinsMatch t.dev ↔ KeepsPfPorts w (.newPort portIndex)))
      (fun _ t => (PinsMatch t.dev ↔ KeepsPfPorts w (.newPort portIndex))) w := by
  apply wp_mono wp_nsimDrvPortAdd_iff
  · rintro _ t ⟨allowed, ns, -, added, -, -⟩
    refine iff_of_false ?_ allowed
    intro pins'
    rw [added] at pins'
    have same := pins.length_eq pins' rfl
    rw [pfPorts_addPort rfl, List.length_cons] at same
    omega
  · rintro _ t ⟨refused, same⟩
    exact iff_of_true (same ▸ pins) refused

theorem pinsMatch_delPort (pins : PinsMatch w.dev) :
    wp (nsimDrvPortDel .PF portIndex)
      (fun _ t => (PinsMatch t.dev ↔ KeepsPfPorts w (.delPort portIndex)))
      (fun _ t => (PinsMatch t.dev ↔ KeepsPfPorts w (.delPort portIndex))) w := by
  apply wp_mono wp_nsimDrvPortDel
  · rintro _ t ⟨port, found, deleted⟩
    rw [deleted]
    by_cases pf : nsimDevPortIsPf port
    · have listed : port ∈ w.dev.pfPorts :=
        List.mem_filter.2 ⟨List.mem_of_find?_eq_some found, pf⟩
      refine iff_of_false ?_ fun vf => nsimDevPortIsVf_iff.1 (vf port found) pf
      intro pins'
      have same := pins.length_eq pins' rfl
      rw [pfPorts_delPort, List.length_erase_of_mem listed] at same
      have := List.length_pos_of_mem listed
      omega
    · refine iff_of_true (pins.congr rfl ?_) ?_
      · rw [pfPorts_delPort]
        exact List.erase_of_not_mem fun mem => pf (List.mem_filter.1 mem).2
      · intro other found'
        rw [found] at found'
        cases found'
        exact nsimDevPortIsVf_iff.2 pf
  · rintro _ t ⟨missing, same⟩
    refine iff_of_true (same ▸ pins) ?_
    intro port found
    rw [missing] at found
    cases found

/-- The pins go on to correspond to the PF ports exactly if no PF port is added or deleted. -/
theorem pinsMatch_program {op : NsimOp} (pins : PinsMatch w.dev)
    (bound : ∀ now, op ≠ .probe now) (stays : op ≠ .remove) (up : op ≠ .reload) :
    wp op.program (fun _ t => (PinsMatch t.dev ↔ KeepsPfPorts w op))
      (fun _ t => (PinsMatch t.dev ↔ KeepsPfPorts w op)) w := by
  have vfs : ∀ {m : DevM Unit}, Keeps vfFrame m →
      wp m (fun _ t => (PinsMatch t.dev ↔ True)) (fun _ t => (PinsMatch t.dev ↔ True)) w := by
    intro m keeps
    apply keeps.preserves (P := fun t => (PinsMatch t.dev ↔ True)) _ (iff_true_intro pins)
    intro s t within before
    exact iff_true_intro ((before.2 trivial).congr (congrArg NsimDev.dpll within.1.2 :) within.2)
  cases op with
  | probe now => exact absurd rfl (bound now)
  | remove => exact absurd rfl stays
  | newPort portIndex => exact pinsMatch_newPort pins
  | delPort portIndex => exact pinsMatch_delPort pins
  | sriovNumvfs numVfs => exact vfs (keeps_nsimDrvConfigureVfs numVfs)
  | maxVfs val => exact vfs (keeps_nsimBusDevMaxVfsWrite val)
  | eswitchMode mode => exact vfs (keeps_nsimDevlinkEswitchModeSet mode)
  | reload => exact absurd rfl up
  | dontAllowReload val => exact iff_true_intro pins
  | failReload val => exact iff_true_intro pins

/-- Probing a device with WPC makes a pin for each of its ports. -/
theorem pinsMatch_probe {now : ℕ} {busDev : NsimBusDev} (blank : w.dev = .blank busDev) :
    wp (nsimDrvProbe now) (fun _ t => t.dev.busDev.wpc = true → PinsMatch t.dev)
      (fun _ _ => True) w := by
  have any : PinStable fun _ => True := fun _ _ _ _ => trivial
  have init := fun ports k (_ : True) => returns_nsimDpllInit now ports k
  apply wp_mono (wp_nsimDrvProbe any init blank trivial) _ fun _ _ _ => trivial
  rintro _ t ⟨ports, dpll, probed⟩
  rw [probed.dev]
  intro wpc
  obtain ⟨d, rfl, pins⟩ := probed.wpc wpc
  obtain ⟨_, ok⟩ := probed.pf
  refine ⟨d, rfl, List.Perm.of_eq pins, ?_⟩
  exact ok.nodup.sublist (List.filter_sublist.map _)

end Operations

/-! ## Every run -/

/-- A device that is not reloaded. -/
def pinSystem : TransitionSystem NsimSystem (KernelState × NsimOp) :=
  nsimDevSystem.guard fun _ a => a.2 ≠ .reload

section Runs

variable {s t : NsimSystem} {a : KernelState × NsimOp}

/-- A bound device that stays bound ran the program of an operation between probing and
removing. -/
theorem program_of_step (bound : s.bound = true) (step : pinSystem.step s a t)
    (bound' : t.bound = true) :
    (∀ now, a.2 ≠ .probe now) ∧ a.2 ≠ .remove ∧ a.2 ≠ .reload ∧
      ∃ result, a.2.program.exec ⟨a.1, s.world.dev⟩ = some (result, t.world) := by
  obtain ⟨⟨-, driver, result, run, after⟩, up⟩ := step
  have other := driver.1 bound
  rw [start_of_ne_probe other] at run
  refine ⟨other, ?_, up, result, run⟩
  intro remove
  rw [after, remove] at bound'
  cases bound'

theorem pinsMatch_step_iff (bound : s.bound = true) (pins : PinsMatch s.world.dev)
    (step : pinSystem.step s a t) (bound' : t.bound = true) :
    PinsMatch t.world.dev ↔ KeepsPfPorts ⟨a.1, s.world.dev⟩ a.2 := by
  obtain ⟨other, stays, up, result, run⟩ := program_of_step bound step bound'
  have old : PinsMatch (⟨a.1, s.world.dev⟩ : NsimWorld).dev := pins
  exact holds_of_wp (I := fun t => (PinsMatch t.dev ↔ KeepsPfPorts ⟨a.1, s.world.dev⟩ a.2))
    (pinsMatch_program old other stays up) run

/-- Whether a device has WPC does not change while it is bound. -/
theorem wpc_step (bound : s.bound = true) (step : pinSystem.step s a t)
    (bound' : t.bound = true) : t.world.dev.busDev.wpc = s.world.dev.busDev.wpc := by
  obtain ⟨other, stays, up, result, run⟩ := program_of_step bound step bound'
  have within := holds_of_wp (I := portFrame.rel ⟨a.1, s.world.dev⟩)
    (keeps_program other stays up _) run
  exact (congrArg (·.busDev.wpc) within.2 :)

/-- A device that was not bound is bound by probing it. -/
theorem pinsMatch_probe_step (unbound : s.bound = false) (step : pinSystem.step s a t)
    (bound' : t.bound = true) (wpc : t.world.dev.busDev.wpc = true) :
    PinsMatch t.world.dev := by
  obtain ⟨⟨-, driver, result, run, after⟩, -⟩ := step
  obtain ⟨now, probe⟩ := exists_probe_of_unbound driver unbound
  rw [probe] at run after
  cases result with
  | error e => exact absurd (after.symm.trans bound') Bool.false_ne_true
  | ok _ => exact exec_ok_of_wp (pinsMatch_probe rfl) run wpc

/-- The operation of a device with WPC keeps its PF ports. -/
def PinCondition (s : NsimSystem) (a : KernelState × NsimOp) : Prop :=
  s.bound = true → s.world.dev.busDev.wpc = true → KeepsPfPorts ⟨a.1, s.world.dev⟩ a.2

/-- In every run in which no PF port of a device with WPC is added or deleted behind probing, pins
and PF ports correspond, and the first operation that does add or delete one ends that. -/
theorem port_pins_match (s : NsimSystem) :
    ((pinSystem.guard PinCondition).Reachable s → s.bound = true →
      s.world.dev.busDev.wpc = true → PinsMatch s.world.dev) ∧
    ∀ a t, s.bound = true → PinsMatch s.world.dev → pinSystem.step s a t → t.bound = true →
      (PinsMatch t.world.dev ↔ KeepsPfPorts ⟨a.1, s.world.dev⟩ a.2) := by
  refine ⟨?_, fun a t bound pins step bound' => pinsMatch_step_iff bound pins step bound'⟩
  intro run
  refine TransitionSystem.Reachable.induct (P := fun s => s.bound = true →
    s.world.dev.busDev.wpc = true → PinsMatch s.world.dev) ?_ ?_ run
  · intro s unbound bound
    exact absurd (unbound.symm.trans bound) (by decide)
  · rintro s a t - inv ⟨step, condition⟩ bound' wpc
    cases bound : s.bound with
    | false => exact pinsMatch_probe_step bound step bound' wpc
    | true =>
      rw [wpc_step bound step bound'] at wpc
      exact (pinsMatch_step_iff bound (inv bound wpc) step bound').2 (condition bound wpc)

end Runs

/-- A device with WPC and one port that was probed and then put into switchdev mode. -/
theorem port_pins_match_switchdev : ∃ s, (pinSystem.guard PinCondition).Reachable s ∧
    s.bound = true ∧ s.world.dev.busDev.wpc = true ∧ s.world.dev.eswMode = .SWITCHDEV ∧
      PinsMatch s.world.dev := by
  have runs : (nsimDrvProbe 0).passes (nsimDevlinkEswitchModeSet .SWITCHDEV |>.passes fun w =>
      w.dev.busDev.wpc = true ∧ w.dev.eswMode = .SWITCHDEV)
      ⟨.loaded, .blank ⟨1, 1, true, 0, 0⟩⟩ := by
    decide +kernel
  obtain ⟨_, w, probed, ok⟩ := exists_of_passes runs
  obtain ⟨_, t, set, ok⟩ := exists_of_passes ok
  obtain ⟨wpc, mode⟩ := of_decide_eq_true ok
  have start : (pinSystem.guard PinCondition).Reachable
      ⟨⟨.loaded, .blank ⟨1, 1, true, 0, 0⟩⟩, false⟩ := .init rfl
  have bound : (pinSystem.guard PinCondition).Reachable ⟨w, true⟩ := by
    apply start.step (a := (.loaded, .probe 0))
    exact ⟨⟨probe_step probed, NsimOp.noConfusion⟩, fun bound => absurd bound Bool.false_ne_true⟩
  have switched : (pinSystem.guard PinCondition).Reachable ⟨t, true⟩ := by
    apply bound.step (a := (w.kernel, .eswitchMode .SWITCHDEV))
    exact ⟨⟨driver_step (fun _ => NsimOp.noConfusion) set rfl, NsimOp.noConfusion⟩,
      fun _ _ => trivial⟩
  exact ⟨⟨t, true⟩, switched, rfl, wpc, mode, (port_pins_match _).1 switched rfl wpc⟩

/-- A port added to a device with WPC and one port gets no pin. -/
theorem new_port_gets_no_pin : ¬ ∀ s, pinSystem.Reachable s → s.bound = true →
    s.world.dev.busDev.wpc = true → PinsMatch s.world.dev := by
  have runs : (nsimDrvProbe 0).passes (nsimDrvPortAdd .PF 1 |>.passes fun w =>
      w.dev.busDev.wpc = true ∧
        w.dev.dpll.map (fun d => d.portPins.length) ≠ some w.dev.pfPorts.length)
      ⟨.loaded, .blank ⟨1, 1, true, 0, 0⟩⟩ := by
    decide +kernel
  obtain ⟨_, w, probed, ok⟩ := exists_of_passes runs
  obtain ⟨_, t, added, ok⟩ := exists_of_passes ok
  obtain ⟨wpc, differ⟩ := of_decide_eq_true ok
  have start : pinSystem.Reachable ⟨⟨.loaded, .blank ⟨1, 1, true, 0, 0⟩⟩, false⟩ := .init rfl
  have bound : pinSystem.Reachable ⟨w, true⟩ :=
    start.step ⟨probe_step probed, NsimOp.noConfusion⟩
  have longer : pinSystem.Reachable ⟨t, true⟩ :=
    bound.step (a := (w.kernel, .newPort 1))
      ⟨driver_step (fun _ => NsimOp.noConfusion) added rfl, NsimOp.noConfusion⟩
  intro always
  obtain ⟨d, some, perm, -⟩ := always _ longer rfl wpc
  apply differ
  rw [some, Option.map_some]
  simpa using perm.length_eq

end Netdevsim
