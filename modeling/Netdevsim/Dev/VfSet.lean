import Netdevsim.Dev.Reload
import Netdevsim.Dev.VfPorts

/-!
# The ports of the VFs

In switchdev mode each VF has its port, in legacy mode none has.  `nsim_drv_port_del` looks for an
index only and deletes a VF port as readily as a PF port; whatever else is done to a device that is
up keeps the ports of the VFs.
-/

namespace Netdevsim

open Program

/-- In switchdev mode the VF ports are those of the VFs `0, …, num_vfs - 1`, each once; in legacy
mode there are none. -/
def VfPortsExact (dev : NsimDev) : Prop :=
  match dev.eswMode with
  | .LEGACY => dev.vfPorts = []
  | .SWITCHDEV => dev.vfIndices.Nodup ∧ ∀ i, i ∈ dev.vfIndices ↔ i < dev.busDev.numVfs

/-- In switchdev mode `del_port` is not given the index of the port of a VF. -/
def SparesVfPorts (dev : NsimDev) : NsimOp → Prop
  | .delPort portIndex => dev.eswMode = .SWITCHDEV →
      dev.busDev.numVfs ≤ nsimDevPortIndexToVfIndex portIndex
  | _ => True

/-! ## Every run -/

section Runs

variable {w : NsimWorld} {dev dev' : NsimDev} {op : NsimOp} {s t : NsimSystem}
  {a : KernelState × NsimOp}

theorem VfPortsExact.sound (exact : VfPortsExact dev) (ports : PortsRegistered dev) :
    VfPortsSound dev := by
  unfold VfPortsExact at exact
  cases mode : dev.eswMode with
  | LEGACY =>
    rw [mode] at exact
    refine ⟨ports, fun _ => exact, fun i mem => ?_⟩
    rw [NsimDev.vfIndices, exact] at mem
    exact absurd mem List.not_mem_nil
  | SWITCHDEV =>
    rw [mode] at exact
    exact ⟨ports, fun legacy => absurd (mode.symm.trans legacy) (by decide), fun i => (exact.2 i).1⟩

theorem vfPortsExact_of_sound (sound : VfPortsSound dev)
    (all : dev.eswMode = .SWITCHDEV → ∀ i < dev.busDev.numVfs, i ∈ dev.vfIndices) :
    VfPortsExact dev := by
  unfold VfPortsExact
  cases mode : dev.eswMode with
  | LEGACY => exact sound.legacy mode
  | SWITCHDEV =>
    exact ⟨nodup_vfIndices sound.ports, fun i => ⟨sound.within i, all mode i⟩⟩

/-- A device that is up keeps the ports of its VFs unless it is asked to delete one. -/
theorem VfDone.exact (exact : VfPortsExact dev) (ports : PortsRegistered dev)
    (up : dev.reloadFailed = false) (spares : SparesVfPorts dev op) {t : NsimWorld}
    (done : VfDone op dev t) : VfPortsExact t.dev := by
  have sound := exact.sound ports
  refine vfPortsExact_of_sound (done.sound sound) fun mode i lt => ?_
  unfold VfPortsExact at exact
  cases done.1 with
  | kept same mode' vfs =>
    rw [← mode', mode] at exact
    rw [NsimDev.vfIndices, same]
    exact (exact.2 i).2 (vfs ▸ lt)
  | cleared none off =>
    rcases off with legacy | zero
    · exact absurd (mode.symm.trans legacy) (by decide)
    · rw [zero] at lt
      exact absurd lt UInt32.not_lt_zero
  | built indices mode' =>
    rw [indices]
    exact mem_vfRange.2 lt
  | deleted mem asked less mode' vfs =>
    rw [asked] at spares
    have inside := sound.within _ (List.mem_map_of_mem mem)
    exact absurd inside (UInt32.not_lt.2 (spares (mode'.symm.trans mode)))
  | forgotten failed none mode' vfs => exact absurd (up.symm.trans failed) (by decide)

/-- `del_port` with the index of a VF port deletes it. -/
theorem wp_delPort_vf {port : NsimDevPort} (ports : PortsRegistered w.dev)
    (mem : port ∈ w.dev.portList) {E : Errno → NsimWorld → Prop} :
    wp (nsimDrvPortDel .PF port.portIndex) (fun _ t => t.dev = w.dev.delPort port) E w := by
  apply wp_mono wp_nsimDrvPortDel
  · rintro _ t ⟨other, found, deleted⟩
    obtain ⟨listed, same⟩ := of_lookup found
    rw [deleted, ports.eq_of_index listed mem same]
  · rintro e t ⟨missing, -⟩
    unfold _nsimDevPortLookup at missing
    have none := List.find?_eq_none.1 missing port mem
    exact absurd (decide_eq_true rfl) none

theorem not_exact_delPort {port : NsimDevPort} (exact : VfPortsExact dev)
    (ports : PortsRegistered dev) (mem : port ∈ dev.vfPorts) :
    ¬VfPortsExact (dev.delPort port) := by
  intro exact'
  have switchdev : dev.eswMode = .SWITCHDEV := by
    cases mode : dev.eswMode with
    | SWITCHDEV => rfl
    | LEGACY =>
      rw [(exact.sound ports).legacy mode] at mem
      exact absurd mem List.not_mem_nil
  have inside := (exact.sound ports).within _ (List.mem_map_of_mem mem)
  unfold VfPortsExact at exact'
  rw [show (dev.delPort port).eswMode = .SWITCHDEV from switchdev] at exact'
  have left := (exact'.2 _).2 inside
  rw [NsimDev.vfIndices, vfPorts_delPort] at left
  obtain ⟨other, kept, same⟩ := List.mem_map.1 left
  have nodup : dev.vfPorts.Nodup := ports.list_nodup.filter _
  obtain ⟨differ, kept⟩ := nodup.mem_erase_iff.1 kept
  exact differ (ports.eq_of_index (mem_vfPorts.1 kept).1 (mem_vfPorts.1 mem).1
    (nsimDevPortIndexToVfIndex_inj.1 same))

theorem sparesVfPorts_delPort {portIndex : UInt32} (exact : VfPortsExact dev)
    (ports : PortsRegistered dev) :
    SparesVfPorts dev (.delPort portIndex) ↔ ∀ port ∈ dev.vfPorts, port.portIndex ≠ portIndex := by
  have sound := exact.sound ports
  constructor
  · rintro spares port mem rfl
    have switchdev : dev.eswMode = .SWITCHDEV := by
      cases mode : dev.eswMode with
      | SWITCHDEV => rfl
      | LEGACY =>
        rw [sound.legacy mode] at mem
        exact absurd mem List.not_mem_nil
    exact absurd (sound.within _ (List.mem_map_of_mem mem)) (UInt32.not_lt.2 (spares switchdev))
  · intro spared switchdev
    unfold VfPortsExact at exact
    rw [switchdev] at exact
    by_contra inside
    obtain ⟨port, mem, same⟩ := List.mem_map.1 ((exact.2 _).2 (UInt32.not_le.1 inside))
    exact spared port mem (nsimDevPortIndexToVfIndex_inj.1 same)

/-- An operation on a device that is up keeps the ports of the VFs, and creates or removes PF ports
only, exactly when it is not a `del_port` with the index of a VF port. -/
theorem wp_program_exact (exact : VfPortsExact w.dev) (ports : PortsRegistered w.dev)
    (up : w.dev.reloadFailed = false) (bound : ∀ now, op ≠ .probe now) (stays : op ≠ .remove) :
    wp op.program
      (fun _ t => VfPortsExact t.dev ∧ OnlyPfPorts op w.dev t.dev ↔ SparesVfPorts w.dev op)
      (fun _ t => VfPortsExact t.dev ∧ OnlyPfPorts op w.dev t.dev ↔ SparesVfPorts w.dev op) w := by
  have sound := exact.sound ports
  by_cases spares : SparesVfPorts w.dev op
  · have kept := wp_program_vfs sound bound stays
    have only : wp op.program (fun _ t => OnlyPfPorts op w.dev t.dev)
        (fun _ t => OnlyPfPorts op w.dev t.dev) w := by
      cases op with
      | newPort portIndex =>
        exact wp_mono (wp_newPort sound) (fun _ _ => And.right) fun _ _ => And.right
      | delPort portIndex =>
        have spared := (sparesVfPorts_delPort exact ports).1 spares
        exact wp_mono (wp_delPort sound) (fun _ _ done => done.2 spared) fun _ _ => And.right
      | _ => exact wp_true
    have both := wp_and kept only
    apply wp_mono both
    · exact fun _ t done => iff_of_true ⟨done.1.exact exact ports up spares, done.2⟩ spares
    · exact fun _ t done => iff_of_true ⟨done.1.exact exact ports up spares, done.2⟩ spares
  · cases op with
    | delPort portIndex =>
      have hit := mt (sparesVfPorts_delPort exact ports).2 spares
      obtain ⟨port, mem, rfl⟩ : ∃ port ∈ w.dev.vfPorts, port.portIndex = portIndex := by
        simpa using hit
      apply wp_mono (wp_delPort_vf ports (mem_vfPorts.1 mem).1 (E := fun _ _ => False))
      · intro _ t deleted
        refine iff_of_false (fun both => ?_) spares
        rw [deleted] at both
        exact not_exact_delPort exact ports mem both.1
      · exact fun _ _ => False.elim
    | _ => exact absurd trivial spares

/-- A device no reload of which fails. -/
def vfSystem : TransitionSystem NsimSystem (KernelState × NsimOp) where
  init := nsimDevSystem.init
  step s a t := nsimDevSystem.step s a t ∧ t.world.dev.reloadFailed = false

/-- A `del_port` of a device with a driver is not given the index of a VF port. -/
def VfCondition (s : NsimSystem) (a : KernelState × NsimOp) : Prop :=
  s.bound = true → SparesVfPorts s.world.dev a.2

/-- What is known of a device with a driver. -/
structure VfInvariant (dev : NsimDev) : Prop where
  exact : VfPortsExact dev
  ports : PortsRegistered dev
  up : dev.reloadFailed = false

/-- A probed device has no VF ports and is in legacy mode. -/
theorem vfInvariant_probe {now : ℕ} {busDev : NsimBusDev} {kernel : KernelState}
    (run : (nsimDrvProbe now).exec ⟨kernel, .blank busDev⟩ = some (.ok (), w)) :
    VfInvariant w.dev := by
  obtain ⟨ports, dpll, probed⟩ := exec_ok_of_wp (wp_nsimDrvProbe_any rfl) run
  obtain ⟨bound, ok⟩ := probed.pf
  rw [probed.dev]
  refine ⟨?_, ?_, rfl⟩
  · refine List.filter_eq_nil_iff.2 fun port mem vf => ?_
    exact nsimDevPortIsVf_iff.1 vf (ok.mem_pf mem)
  · refine ⟨ok.portIndex_nodup, fun port mem => ?_⟩
    exact List.mem_toFinset.2 (List.mem_map_of_mem mem)

/-- What a step from a device with a driver ran. -/
theorem program_of_bound (bound : s.bound = true) (step : nsimDevSystem.step s a t) :
    (∀ now, a.2 ≠ .probe now) ∧ (t.bound = true → a.2 ≠ .remove) ∧
      ∃ result, a.2.program.exec ⟨a.1, s.world.dev⟩ = some (result, t.world) := by
  obtain ⟨-, driver, result, run, after⟩ := step
  have other := driver.1 bound
  rw [start_of_ne_probe other] at run
  refine ⟨other, ?_, result, run⟩
  intro bound' remove
  rw [after, remove] at bound'
  cases bound'

/-- A device that was not bound is bound by probing it. -/
theorem vfInvariant_bind (unbound : s.bound = false) (step : nsimDevSystem.step s a t)
    (bound' : t.bound = true) : VfInvariant t.world.dev := by
  obtain ⟨-, driver, result, run, after⟩ := step
  obtain ⟨now, probe⟩ := exists_probe_of_unbound driver unbound
  rw [probe] at run after
  cases result with
  | error e => exact absurd (after.symm.trans bound') Bool.false_ne_true
  | ok _ => exact vfInvariant_probe run

/-- A step of a device that keeps its driver. -/
theorem vfStep_iff (inv : VfInvariant s.world.dev) (bound : s.bound = true)
    (step : vfSystem.step s a t) (bound' : t.bound = true) :
    PortsRegistered t.world.dev ∧
      (VfPortsExact t.world.dev ∧ OnlyPfPorts a.2 s.world.dev t.world.dev ↔
        SparesVfPorts s.world.dev a.2) := by
  obtain ⟨other, stays, result, run⟩ := program_of_bound bound step.1
  have old : VfInvariant (⟨a.1, s.world.dev⟩ : NsimWorld).dev := inv
  have sound := old.exact.sound old.ports
  have done := wp_program_vfs sound other (stays bound')
  have exact := wp_program_exact old.exact old.ports old.up other (stays bound')
  exact ⟨(holds_of_wp done run).2, holds_of_wp
    (I := fun t => (VfPortsExact t.dev ∧ OnlyPfPorts a.2 s.world.dev t.dev ↔
      SparesVfPorts s.world.dev a.2)) exact run⟩

theorem vfInvariant_reachable (run : (vfSystem.guard VfCondition).Reachable s) :
    s.bound = true → VfInvariant s.world.dev := by
  refine TransitionSystem.Reachable.induct (P := fun s => s.bound = true → VfInvariant s.world.dev)
    ?_ ?_ run
  · intro s unbound bound
    exact absurd (unbound.symm.trans bound) (by decide)
  · rintro s a t - inv ⟨step, condition⟩ bound'
    cases bound : s.bound with
    | false => exact vfInvariant_bind bound step.1 bound'
    | true =>
      obtain ⟨ports, exact⟩ := vfStep_iff (inv bound) bound step bound'
      exact ⟨(exact.2 (condition bound)).1, ports, step.2⟩

/-- In every run in which `del_port` is not given the index of a VF port, each VF has its port in
switchdev mode and none in legacy mode; and of every step from a state of such a run, that this goes
on and that `new_port` and `del_port` create and remove PF ports only is the case exactly when the
step is of that kind. -/
theorem vf_ports_exact (s : NsimSystem) (run : (vfSystem.guard VfCondition).Reachable s)
    (bound : s.bound = true) :
    VfPortsExact s.world.dev ∧
    ∀ a t, vfSystem.step s a t → t.bound = true →
      (VfPortsExact t.world.dev ∧ OnlyPfPorts a.2 s.world.dev t.world.dev ↔
        SparesVfPorts s.world.dev a.2) := by
  refine ⟨(vfInvariant_reachable run bound).exact, ?_⟩
  intro a t step bound'
  exact (vfStep_iff (vfInvariant_reachable run bound) bound step bound').2

end Runs

/-- A device with one port that was put into switchdev mode and then given two VFs. -/
theorem vf_ports_exact_two_vfs : ∃ s, (vfSystem.guard VfCondition).Reachable s ∧
    s.bound = true ∧ s.world.dev.eswMode = .SWITCHDEV ∧ s.world.dev.vfIndices = [1, 0] ∧
      VfPortsExact s.world.dev := by
  have runs : (nsimDrvProbe 0).passes (fun w => w.dev.reloadFailed = false ∧
      (nsimDevlinkEswitchModeSet .SWITCHDEV).passes (fun w => w.dev.reloadFailed = false ∧
        (nsimDrvConfigureVfs 2).passes (fun w => w.dev.reloadFailed = false ∧
          w.dev.eswMode = .SWITCHDEV ∧ w.dev.vfIndices = [1, 0]) w) w)
      ⟨.loaded, .blank ⟨1, 1, false, 4, 0⟩⟩ := by
    decide +kernel
  obtain ⟨_, w₁, probed, ok⟩ := exists_of_passes runs
  obtain ⟨up₁, ok⟩ := of_decide_eq_true ok
  obtain ⟨_, w₂, set, ok⟩ := exists_of_passes ok
  obtain ⟨up₂, ok⟩ := of_decide_eq_true ok
  obtain ⟨_, w₃, configured, ok⟩ := exists_of_passes ok
  obtain ⟨up₃, mode, indices⟩ := of_decide_eq_true ok
  have start : (vfSystem.guard VfCondition).Reachable
      ⟨⟨.loaded, .blank ⟨1, 1, false, 4, 0⟩⟩, false⟩ := .init rfl
  have bound : (vfSystem.guard VfCondition).Reachable ⟨w₁, true⟩ := by
    apply start.step (a := (.loaded, .probe 0))
    exact ⟨⟨probe_step probed, up₁⟩, fun bound => absurd bound Bool.false_ne_true⟩
  have switched : (vfSystem.guard VfCondition).Reachable ⟨w₂, true⟩ := by
    apply bound.step (a := (w₁.kernel, .eswitchMode .SWITCHDEV))
    exact ⟨⟨driver_step (fun _ => NsimOp.noConfusion) set rfl, up₂⟩, fun _ => trivial⟩
  have given : (vfSystem.guard VfCondition).Reachable ⟨w₃, true⟩ := by
    apply switched.step (a := (w₂.kernel, .sriovNumvfs 2))
    exact ⟨⟨driver_step (fun _ => NsimOp.noConfusion) configured rfl, up₃⟩, fun _ => trivial⟩
  exact ⟨⟨w₃, true⟩, given, rfl, mode, indices, (vf_ports_exact _ given rfl).1⟩

/-- In switchdev mode `del_port` with the index 128 deletes the port of the first VF. -/
theorem del_port_deletes_vf_port : ¬ ∀ s, vfSystem.Reachable s → s.bound = true →
    VfPortsExact s.world.dev := by
  have runs : (nsimDrvProbe 0).passes (fun w => w.dev.reloadFailed = false ∧
      (nsimDevlinkEswitchModeSet .SWITCHDEV).passes (fun w => w.dev.reloadFailed = false ∧
        (nsimDrvConfigureVfs 1).passes (fun w => w.dev.reloadFailed = false ∧
          (nsimDrvPortDel .PF 128).passes (fun w => w.dev.reloadFailed = false ∧
            w.dev.eswMode = .SWITCHDEV ∧ w.dev.busDev.numVfs = 1 ∧ w.dev.vfIndices = []) w) w) w)
      ⟨.loaded, .blank ⟨1, 1, false, 4, 0⟩⟩ := by
    decide +kernel
  obtain ⟨_, w₁, probed, ok⟩ := exists_of_passes runs
  obtain ⟨up₁, ok⟩ := of_decide_eq_true ok
  obtain ⟨_, w₂, set, ok⟩ := exists_of_passes ok
  obtain ⟨up₂, ok⟩ := of_decide_eq_true ok
  obtain ⟨_, w₃, configured, ok⟩ := exists_of_passes ok
  obtain ⟨up₃, ok⟩ := of_decide_eq_true ok
  obtain ⟨_, w₄, deleted, ok⟩ := exists_of_passes ok
  obtain ⟨up₄, mode, vfs, indices⟩ := of_decide_eq_true ok
  have start : vfSystem.Reachable ⟨⟨.loaded, .blank ⟨1, 1, false, 4, 0⟩⟩, false⟩ := .init rfl
  have bound : vfSystem.Reachable ⟨w₁, true⟩ := start.step ⟨probe_step probed, up₁⟩
  have switched : vfSystem.Reachable ⟨w₂, true⟩ :=
    bound.step (a := (w₁.kernel, .eswitchMode .SWITCHDEV))
      ⟨driver_step (fun _ => NsimOp.noConfusion) set rfl, up₂⟩
  have given : vfSystem.Reachable ⟨w₃, true⟩ :=
    switched.step (a := (w₂.kernel, .sriovNumvfs 1))
      ⟨driver_step (fun _ => NsimOp.noConfusion) configured rfl, up₃⟩
  have without : vfSystem.Reachable ⟨w₄, true⟩ :=
    given.step (a := (w₃.kernel, .delPort 128))
      ⟨driver_step (fun _ => NsimOp.noConfusion) deleted rfl, up₄⟩
  intro always
  have exact := always _ without rfl
  unfold VfPortsExact at exact
  rw [mode, indices, vfs] at exact
  exact absurd ((exact.2 0).2 (by decide)) List.not_mem_nil

end Netdevsim
