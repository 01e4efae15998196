import Netdevsim.Dev.Lifecycle

/-!
# What a reload rebuilds

A reload takes the DPLL down and does not set it up again, and a port that was added while the
previous reload had failed is forgotten but stays registered.  Otherwise a reload that succeeds
leaves the components live that probing sets up.
-/

namespace Netdevsim

open Program

/-- The components of a device that are live. -/
structure LiveComponents where
  subsystems : Finset Component
  ports : List (UInt32 × NsimDevPortType)
  devlinkPorts : Finset UInt32
  dpll : Bool
  deriving DecidableEq

def NsimDev.liveComponents (dev : NsimDev) : LiveComponents :=
  ⟨dev.live, dev.portList.map NsimDevPort.key, dev.devlinkPorts, dev.dpll.isSome⟩

/-- The ports that `devlink` still has when the old instance is down. -/
def NsimDev.leftover (dev : NsimDev) : Finset UInt32 :=
  if dev.reloadFailed then dev.devlinkPorts else dev.devlinkPorts \ portIndices dev.portList

/-! ## The invariant -/

/-- What is live tells whether the last reload failed. -/
structure ReloadInvariant (dev : NsimDev) : Prop where
  live : dev.live = if dev.reloadFailed then baseComponents else allComponents
  dpll : dev.reloadFailed = true → dev.dpll = none

section Reload

variable {w t : NsimWorld} {dev dev' : NsimDev}

theorem ReloadInvariant.of_core (inv : ReloadInvariant dev)
    (same : dev'.core = dev.core) : ReloadInvariant dev' := by
  have live : dev'.live = dev.live := (congrArg NsimDev.live same :)
  have dpll : dev'.dpll = dev.dpll := (congrArg NsimDev.dpll same :)
  have failed : dev'.reloadFailed = dev.reloadFailed := (congrArg NsimDev.reloadFailed same :)
  refine ⟨?_, ?_⟩
  · rw [live, failed]
    exact inv.live
  · rw [dpll, failed]
    exact inv.dpll

/-- The device between the two halves of a reload of `dev`. -/
structure Down (dev dev' : NsimDev) : Prop where
  live : dev'.live = baseComponents
  dpll : dev'.dpll = none
  portCount : dev'.busDev.portCount = dev.busDev.portCount
  leftover : dev.busDev.numVfs = 0 → dev'.devlinkPorts = dev.leftover

theorem down_of_failed (inv : ReloadInvariant dev) (failed : dev.reloadFailed = true) :
    Down dev dev := by
  have live := inv.live
  rw [if_pos failed] at live
  refine ⟨live, inv.dpll failed, rfl, fun _ => ?_⟩
  rw [NsimDev.leftover, if_pos failed]

theorem down_of_destroyed (inv : ReloadInvariant dev) (up : dev.reloadFailed = false)
    (same : dev'.core = dev.destroyed.core)
    (exact : dev.busDev.numVfs = 0 → dev' = dev.destroyed) : Down dev dev' := by
  have all := inv.live
  rw [up, if_neg (by decide)] at all
  have live : dev'.live = dev.live \ reloadedComponents := (congrArg NsimDev.live same :)
  refine ⟨?_, (congrArg NsimDev.dpll same :), (congrArg (·.busDev.portCount) same :), ?_⟩
  · rw [live, all]
    decide
  · intro none
    rw [exact none, NsimDev.leftover, up, if_neg (by decide)]
    rfl

theorem wp_nsimDevReloadDown (inv : ReloadInvariant w.dev) :
    wp nsimDevReloadDown (fun _ t => Down w.dev t.dev) (fun _ t => t = w) w := by
  refine wp_nsimDevReloadDown_of rfl (down_of_failed inv) fun up => ?_
  have any : PinStable fun _ => True := fun _ _ _ _ => trivial
  apply wp_mono (wp_nsimDevReloadDestroy any any up trivial (fun _ _ _ _ => wp_true)
    fun _ _ _ => trivial) _ fun _ _ => id
  rintro _ t ⟨-, same, exact⟩
  exact down_of_destroyed inv up same exact

/-- A reload of a device that was `dev` before succeeded. -/
structure Reloaded (dev dev' : NsimDev) : Prop where
  live : dev'.live = allComponents
  dpll : dev'.dpll = none
  reloadFailed : dev'.reloadFailed = false
  ports : ∃ registered bound, PfPorts dev.busDev.portCount.toNat registered bound dev'.portList ∧
    dev'.devlinkPorts = registered ∪ portIndices dev'.portList ∧
    (dev.busDev.numVfs = 0 → registered = dev.leftover)

theorem wp_nsimDevReloadUp (down : Down dev w.dev) :
    wp nsimDevReloadUp (fun _ t => Reloaded dev { t.dev with reloadFailed := false })
      (fun _ t => t.dev.live = baseComponents ∧ t.dev.dpll = none) w := by
  unfold nsimDevReloadUp
  rw [wp_bind, wp_getDev, wp_bind, wp_failIf]
  refine ⟨fun _ => ⟨down.live, down.dpll⟩, fun _ => ?_⟩
  apply wp_mono (wp_nsimDevReloadCreate down.live)
  · rintro _ t ⟨ports, bound, ok, rebuilt⟩
    rw [rebuilt]
    rw [down.portCount] at ok
    exact ⟨rfl, down.dpll, rfl, _, bound, ok, rfl, down.leftover⟩
  · rintro _ t same
    rw [same]
    exact ⟨down.live, down.dpll⟩

/-- A reload keeps the invariant, and one that succeeds rebuilds the device without its DPLL. -/
theorem wp_devlinkReload (inv : ReloadInvariant w.dev) :
    wp devlinkReload (fun _ t => Reloaded w.dev t.dev) (fun _ t => ReloadInvariant t.dev) w := by
  unfold devlinkReload
  rw [wp_bind]
  apply wp_mono (wp_nsimDevReloadDown inv)
  · intro _ t down
    rw [wp_bind, wp_unwind]
    apply wp_mono (wp_nsimDevReloadUp down)
    · exact fun _ _ rebuilt => rebuilt
    · rintro _ u ⟨live, dpll⟩
      rw [wp_modifyDev]
      exact ⟨live, fun _ => dpll⟩
  · rintro _ t rfl
    exact inv

theorem Reloaded.invariant (rebuilt : Reloaded dev dev') : ReloadInvariant dev' := by
  refine ⟨?_, fun failed => ?_⟩
  · rw [rebuilt.reloadFailed, rebuilt.live]
    rfl
  · rw [rebuilt.reloadFailed] at failed
    cases failed

end Reload

/-! ## Every run -/

section Runs

variable {s t : NsimSystem}

/-- What each operation of a device with a driver keeps. -/
theorem wp_program_reloadInvariant {w : NsimWorld} {op : NsimOp} (inv : ReloadInvariant w.dev)
    (bound : ∀ now, op ≠ .probe now) (stays : op ≠ .remove) :
    wp op.program (fun _ t => ReloadInvariant t.dev) (fun _ t => ReloadInvariant t.dev) w := by
  by_cases reload : op = .reload
  · rw [reload]
    exact wp_mono (wp_devlinkReload inv) (fun _ _ => Reloaded.invariant) fun _ _ => id
  · apply (keeps_program bound stays reload).preserves (P := fun t => ReloadInvariant t.dev) _ inv
    exact fun _ _ within inv => inv.of_core within.2

/-- What probing leads to, of any kernel. -/
theorem wp_nsimDrvProbe_any {w : NsimWorld} {now : ℕ} {busDev : NsimBusDev}
    (blank : w.dev = .blank busDev) :
    wp (nsimDrvProbe now)
      (fun _ t => ∃ ports dpll, Probed busDev (fun _ => True) (fun _ _ _ => True) ports dpll t)
      (fun _ _ => True) w := by
  have any : PinStable fun _ => True := fun _ _ _ _ => trivial
  apply wp_mono (wp_nsimDrvProbe any (fun _ _ _ => wp_true) blank trivial) (fun _ _ => id)
  exact fun _ _ _ => trivial

theorem reloadInvariant_step {a : KernelState × NsimOp}
    (inv : s.bound = true → ReloadInvariant s.world.dev) (step : nsimDevSystem.step s a t) :
    t.bound = true → ReloadInvariant t.world.dev := by
  obtain ⟨kernel, op⟩ := a
  obtain ⟨-, driver, result, run, bound⟩ := step
  intro stays
  rw [bound] at stays
  by_cases probe : ∃ now, op = .probe now
  · obtain ⟨now, rfl⟩ := probe
    cases result with
    | error e => cases stays
    | ok _ =>
      obtain ⟨ports, dpll, probed⟩ := exec_ok_of_wp (wp_nsimDrvProbe_any rfl) run
      rw [probed.dev]
      exact ⟨rfl, fun failed => by cases failed⟩
  · have other : ∀ now, op ≠ .probe now := fun now same => probe ⟨now, same⟩
    have remains : op ≠ .remove := by
      rintro rfl
      cases stays
    rw [start_of_ne_probe other] at run
    have old : ReloadInvariant (⟨kernel, s.world.dev⟩ : NsimWorld).dev := inv (driver.2 other)
    exact holds_of_wp (I := fun t => ReloadInvariant t.dev)
      (wp_program_reloadInvariant old other remains) run

theorem reloadInvariant_reachable (run : nsimDevSystem.Reachable s) :
    s.bound = true → ReloadInvariant s.world.dev := by
  refine TransitionSystem.Reachable.induct
    (P := fun s => s.bound = true → ReloadInvariant s.world.dev) ?_ ?_ run
  · intro s unbound bound
    exact absurd (unbound.symm.trans bound) (by decide)
  · exact fun s a t _ inv step => reloadInvariant_step inv step

end Runs

/-! ## Reloading and probing -/

theorem union_eq_right_iff_of_disjoint {A B : Finset UInt32} (apart : Disjoint A B) :
    A ∪ B = B ↔ A = ∅ := by
  rw [Finset.union_eq_right]
  constructor
  · intro within
    exact (Finset.disjoint_self_iff_empty A).1 (apart.mono_right within)
  · rintro rfl
    exact Finset.empty_subset B

/-- A reload rebuilds what a probe builds exactly when there is no DPLL and no port was left behind
in `devlink`. -/
theorem reload_rebuilds_probed (s : NsimSystem) (run : nsimDevSystem.Reachable s)
    (bound : s.bound = true) (noVfs : s.world.dev.busDev.numVfs = 0) {kernel : KernelState}
    {t : NsimWorld}
    (reloaded : devlinkReload.exec ⟨kernel, s.world.dev⟩ = some (.ok (), t))
    {kernel' : KernelState} {now : ℕ} {u : NsimWorld}
    (probed : (nsimDrvProbe now).exec ⟨kernel', .blank s.world.dev.busDev⟩ = some (.ok (), u)) :
    t.dev.liveComponents = u.dev.liveComponents ↔
      s.world.dev.busDev.wpc = false ∧ s.world.dev.leftover = ∅ := by
  have inv := reloadInvariant_reachable run bound
  obtain ⟨live, dpll, -, registered, _, ok, devlink, left⟩ :=
    exec_ok_of_wp (wp_devlinkReload (w := ⟨kernel, s.world.dev⟩) inv) reloaded
  obtain ⟨ports, dpll', fresh⟩ := exec_ok_of_wp (wp_nsimDrvProbe_any rfl) probed
  obtain ⟨_, ok'⟩ := fresh.pf
  have indices : portIndices ports = portIndices t.dev.portList := by
    rw [ok'.portIndices, ok.portIndices]
  have isSome : dpll'.isSome = s.world.dev.busDev.wpc := by
    cases wpc : s.world.dev.busDev.wpc with
    | false => rw [(fresh.plain wpc).1, Option.isSome_none]
    | true =>
      obtain ⟨d, some, -⟩ := fresh.wpc wpc
      rw [some, Option.isSome_some]
  rw [NsimDev.liveComponents, NsimDev.liveComponents, fresh.dev, live, dpll, devlink, ok.keys,
    left noVfs]
  show LiveComponents.mk allComponents _ _ false =
    ⟨allComponents, ports.map NsimDevPort.key, portIndices ports, dpll'.isSome⟩ ↔ _
  rw [ok'.keys, indices, isSome, LiveComponents.mk.injEq]
  have apart := ok.disjoint
  rw [left noVfs] at apart
  constructor
  · rintro ⟨-, -, same, wpc⟩
    exact ⟨wpc.symm, (union_eq_right_iff_of_disjoint apart).1 same⟩
  · rintro ⟨wpc, none⟩
    exact ⟨rfl, rfl, (union_eq_right_iff_of_disjoint apart).2 none, wpc.symm⟩

/-- Without WPC a reload of a device with two ports rebuilds it. -/
theorem reload_rebuilds_probed_plain : ∃ (s : NsimSystem) (t : NsimWorld),
    nsimDevSystem.Reachable s ∧ devlinkReload.exec s.world = some (.ok (), t) ∧
      t.dev.liveComponents = s.world.dev.liveComponents := by
  have runs : (nsimDrvProbe 0).passes (fun w => w.dev.busDev = ⟨2, 1, false, 0, 0⟩ ∧
      w.dev.leftover = ∅ ∧ devlinkReload.passes (fun _ => true) w)
      ⟨.loaded, .blank ⟨2, 1, false, 0, 0⟩⟩ := by
    decide +kernel
  obtain ⟨_, w, probed, ok⟩ := exists_of_passes runs
  obtain ⟨busDev, none, reloads⟩ := of_decide_eq_true ok
  obtain ⟨_, t, reloaded, -⟩ := exists_of_passes reloads
  have noVfs : w.dev.busDev.numVfs = 0 := by rw [busDev]
  have plain : w.dev.busDev.wpc = false := by rw [busDev]
  rw [← busDev] at probed
  exact ⟨⟨w, true⟩, t, reachable_probed probed, reloaded,
    (reload_rebuilds_probed ⟨w, true⟩ (reachable_probed probed) rfl noVfs reloaded probed).2
      ⟨plain, none⟩⟩

/-- After a reload a device with WPC and one port has no DPLL. -/
theorem reload_loses_the_dpll :
    ¬ ∀ (s : NsimSystem) (kernel kernel' : KernelState) (now : ℕ) (t u : NsimWorld),
      nsimDevSystem.Reachable s → s.bound = true → s.world.dev.busDev.numVfs = 0 →
      devlinkReload.exec ⟨kernel, s.world.dev⟩ = some (.ok (), t) →
      (nsimDrvProbe now).exec ⟨kernel', .blank s.world.dev.busDev⟩ = some (.ok (), u) →
      t.dev.liveComponents = u.dev.liveComponents := by
  have runs : (nsimDrvProbe 0).passes (fun w => w.dev.busDev = ⟨1, 1, true, 0, 0⟩ ∧
      devlinkReload.passes (fun t => t.dev.dpll.isSome ≠ w.dev.dpll.isSome) w)
      ⟨.loaded, .blank ⟨1, 1, true, 0, 0⟩⟩ := by
    decide +kernel
  obtain ⟨_, w, probed, ok⟩ := exists_of_passes runs
  obtain ⟨busDev, reloads⟩ := of_decide_eq_true ok
  obtain ⟨_, t, reloaded, differ⟩ := exists_of_passes reloads
  have noVfs : w.dev.busDev.numVfs = 0 := by rw [busDev]
  rw [← busDev] at probed
  intro always
  have same := always ⟨w, true⟩ w.kernel .loaded 0 t w (reachable_probed probed) rfl noVfs reloaded
    probed
  exact of_decide_eq_true differ (congrArg LiveComponents.dpll same)

end Netdevsim
