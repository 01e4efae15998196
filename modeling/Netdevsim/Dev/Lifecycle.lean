import Netdevsim.Dev.Ports
import Netdevsim.Dpll.Attach

/-!
# Probing, removing and reloading a device

What a device looks like after it was probed, and after each half of a reload, and what is then
known of the kernel, given what is known of it before and what `nsim_dpll_init` and `nsim_dpll_exit`
make of that.
-/

namespace Netdevsim

open Program

/-! ## Subsystems -/

/-- The subsystems that a reload leaves alone. -/
def baseComponents : Finset Component := {.devlink, .resources, .params, .debugfs, .bpf}

/-- The subsystems that a reload takes down. -/
def reloadedComponents : Finset Component :=
  {.dummyRegion, .traps, .fib, .health, .psample, .hwstats, .takeSnapshot}

def allComponents : Finset Component := baseComponents ∪ reloadedComponents

/-- The device with other subsystems live. -/
def NsimDev.withLive (dev : NsimDev) (live : Finset Component) : NsimDev := { dev with live }

/-- What is known of the kernel survives operations on pins and notifications. -/
def PinStable (R : KernelState → Prop) : Prop := ∀ s t, pinFrame.rel s t → R s → R t

/-- The device is `dev` but for the subsystems, of which `live` are live. -/
structure Stage (dev : NsimDev) (live : Finset Component) (R : KernelState → Prop)
    (w : NsimWorld) : Prop where
  dev : w.dev = dev.withLive live
  kernel : R w.kernel

section Subsystems

variable {dev : NsimDev} {live live' : Finset Component} {R : KernelState → Prop} {w : NsimWorld}
  {Q : Unit → NsimWorld → Prop} {m : DevM Unit}

theorem wp_inKernel_stage (stable : PinStable R) {call : KernelM Unit} (keeps : Keeps pinFrame call)
    (stage : Stage dev live R w) :
    wp (inKernel call) (fun _ => Stage dev live R) (fun _ => Stage dev live R) w := by
  rw [wp_inKernel]
  apply wp_mono (keeps.preserves stable stage.kernel)
  · exact fun _ _ kernel => ⟨stage.dev, kernel⟩
  · exact fun _ _ kernel => ⟨stage.dev, kernel⟩

theorem wp_initComponent (stable : PinStable R) (c : Component) (stage : Stage dev live R w) :
    wp (initComponent c) (fun _ => Stage dev (insert c live) R) (fun _ => Stage dev live R) w := by
  unfold initComponent
  rw [wp_bind]
  apply wp_mono (wp_inKernel_stage stable keeps_mayFail stage) _ fun _ _ => id
  rintro _ t ⟨same, kernel⟩
  rw [wp_modifyDev]
  refine ⟨?_, kernel⟩
  rw [same]
  rfl

/-- A step of a constructor whose later failure is unwound. -/
theorem wp_setUp {init exit : DevM Unit} (stage : Stage dev live R w)
    (up : ∀ w, Stage dev live R w →
      wp init (fun _ => Stage dev live' R) (fun _ => Stage dev live R) w)
    (down : ∀ w, Stage dev live' R w →
      wp exit (fun _ => Stage dev live R) (fun _ => Stage dev live R) w)
    (body : ∀ t, Stage dev live' R t → wp m Q (fun _ => Stage dev live' R) t) :
    wp (do init; unwind exit m) Q (fun _ => Stage dev live R) w := by
  rw [wp_bind]
  apply wp_mono (up w stage) _ fun _ _ => id
  intro _ t reached
  exact wp_unwind_of (body t reached) down

/-- Setting one subsystem up, in a constructor. -/
theorem wp_component (stable : PinStable R) (c : Component) (new : c ∉ live)
    (stage : Stage dev live R w)
    (body : ∀ t, Stage dev (insert c live) R t → wp m Q (fun _ => Stage dev (insert c live) R) t) :
    wp (do initComponent c; unwind (exitComponent c) m) Q (fun _ => Stage dev live R) w := by
  apply wp_setUp stage (fun _ => wp_initComponent stable c) _ body
  rintro t ⟨same, kernel⟩
  refine ⟨?_, kernel⟩
  dsimp only
  rw [same]
  show dev.withLive ((insert c live).erase c) = _
  rw [Finset.erase_insert new]

/-- Setting debugfs up, in a constructor. -/
theorem wp_debugfs (stable : PinStable R) (new : .debugfs ∉ live) (new' : .takeSnapshot ∉ live)
    (stage : Stage dev live R w)
    (body : ∀ t, Stage dev (insert .takeSnapshot (insert .debugfs live)) R t →
      wp m Q (fun _ => Stage dev (insert .takeSnapshot (insert .debugfs live)) R) t) :
    wp (do nsimDevDebugfsInit; unwind nsimDevDebugfsExit m) Q (fun _ => Stage dev live R) w := by
  apply wp_setUp stage _ _ body
  · intro t before
    unfold nsimDevDebugfsInit
    rw [wp_bind]
    apply wp_mono (wp_initComponent stable .debugfs before) _ fun _ _ => id
    rintro _ u ⟨same, kernel⟩
    refine ⟨?_, kernel⟩
    dsimp only
    rw [same]
    rfl
  · rintro t ⟨same, kernel⟩
    refine ⟨?_, kernel⟩
    dsimp only
    rw [same]
    show dev.withLive
      (((insert Component.takeSnapshot (insert .debugfs live)).erase .debugfs).erase
        .takeSnapshot) = _
    rw [Finset.erase_right_comm, Finset.erase_insert, Finset.erase_insert new]
    rw [Finset.mem_insert, not_or]
    exact ⟨by decide, new'⟩

end Subsystems

/-! ## Probing -/

section Probe

variable {R : KernelState → Prop} {S : List NsimDevPort → NsimDpllDev → KernelState → Prop}
  {now : ℕ} {busDev : NsimBusDev} {w : NsimWorld} {ports : List NsimDevPort}

/-- A device that was probed. -/
def NsimDev.probed (busDev : NsimBusDev) (ports : List NsimDevPort) (dpll : Option NsimDpllDev) :
    NsimDev :=
  ⟨busDev, allComponents, ports, dpll, .LEGACY, false, false, portIndices ports, false⟩

/-- What probing leads to, given what `nsim_dpll_init` does. -/
structure Probed (busDev : NsimBusDev) (R : KernelState → Prop)
    (S : List NsimDevPort → NsimDpllDev → KernelState → Prop) (ports : List NsimDevPort)
    (dpll : Option NsimDpllDev) (t : NsimWorld) : Prop where
  dev : t.dev = .probed busDev ports dpll
  pf : ∃ bound, PfPorts busDev.portCount.toNat ∅ bound ports
  plain : busDev.wpc = false → dpll = none ∧ R t.kernel
  wpc : busDev.wpc = true → ∃ d, dpll = some d ∧ S ports d t.kernel

/-- The last part of probing, which needs no cleanup of its own but for the ports. -/
theorem wp_probePorts (stable : PinStable R)
    (init : ∀ ports k, R k → wp (nsimDpllInit now ports) (fun d => S ports d) (fun _ => R) k)
    (stage : Stage (.blank busDev) allComponents R w) :
    wp (do
        let dev ← getDev
        nsimDevPortAddAll dev.busDev.portCount
        unwind nsimDevPortDelAll (probeDpll now)
        modifyDev fun dev => { dev with eswMode := .LEGACY })
      (fun _ t => ∃ ports dpll, Probed busDev R S ports dpll t)
      (fun _ => Stage (.blank busDev) allComponents R) w := by
  obtain ⟨same, kernel⟩ := stage
  rw [wp_bind, wp_getDev, wp_bind]
  apply wp_mono (wp_nsimDevPortAddAll (by rw [same]; rfl))
  · rintro _ t ⟨kept, ports, ok, added⟩
    have known : R t.kernel := stable _ _ kept kernel
    rw [same] at ok added
    rw [wp_bind]
    apply wp_mono (Q := fun _ t => ∃ dpll, Probed busDev R S ports dpll t)
      (E := fun _ => Stage (.blank busDev) allComponents R) _ _ fun _ _ => id
    · apply wp_unwind_of
        (J := fun t => t.dev = (NsimDev.blank busDev |>.withLive allComponents |>.withPorts ports) ∧
          R t.kernel)
      · unfold probeDpll
        rw [wp_bind, wp_getDev, added]
        split
        · rename_i wpc
          rw [wp_bind, wp_inKernel]
          apply wp_mono (init ports t.kernel known)
          · intro d kernel' attached
            rw [wp_modifyDev]
            refine ⟨some d, ?_, ⟨_, ok⟩, ?_, fun _ => ⟨d, rfl, attached⟩⟩
            · dsimp only
              rw [added]
              rfl
            · intro plain
              exact absurd (plain.symm.trans wpc) (by decide)
          · exact fun _ _ kernel' => ⟨added, kernel'⟩
        · rename_i plain
          refine ⟨none, ?_, ⟨_, ok⟩, fun _ => ⟨rfl, known⟩, fun wpc => absurd wpc plain⟩
          rw [added]
          rfl
      · rintro u ⟨same', kernel'⟩
        apply wp_mono wp_nsimDevPortDelAll _ fun _ _ => id
        rintro _ v ⟨kept', deleted⟩
        refine ⟨?_, stable _ _ kept' kernel'⟩
        rw [deleted, same', noPorts_withPorts rfl ok.disjoint]
    · rintro _ u ⟨dpll, probed⟩
      rw [wp_modifyDev]
      refine ⟨ports, dpll, ?_, probed.pf, probed.plain, probed.wpc⟩
      rw [probed.dev]
      rfl
  · rintro _ t ⟨kept, back⟩
    exact ⟨back.trans same, stable _ _ kept kernel⟩

/-- A probe that fails leaves nothing behind. -/
theorem wp_nsimDrvProbe (stable : PinStable R)
    (init : ∀ ports k, R k → wp (nsimDpllInit now ports) (fun d => S ports d) (fun _ => R) k)
    (blank : w.dev = .blank busDev) (kernel : R w.kernel) :
    wp (nsimDrvProbe now) (fun _ t => ∃ ports dpll, Probed busDev R S ports dpll t)
      (fun _ t => t.dev = .blank busDev ∧ R t.kernel) w := by
  have start : Stage (.blank busDev) ∅ R w := ⟨blank, kernel⟩
  apply wp_mono (E := fun _ => Stage (.blank busDev) ∅ R) _ (fun _ _ => id) fun _ _ back =>
    ⟨back.dev, back.kernel⟩
  unfold nsimDrvProbe
  rw [wp_bind]
  apply wp_mono (wp_inKernel_stage stable keeps_mayRunOut start) _ fun _ _ => id
  intro _ w start
  rw [wp_bind]
  apply wp_mono (wp_inKernel_stage stable keeps_mayRunOut start) _ fun _ _ => id
  intro _ w start
  refine wp_component stable .devlink (by decide) start fun w stage => ?_
  refine wp_component stable .resources (by decide) stage fun w stage => ?_
  refine wp_component stable .params (by decide) stage fun w stage => ?_
  refine wp_component stable .dummyRegion (by decide) stage fun w stage => ?_
  refine wp_component stable .traps (by decide) stage fun w stage => ?_
  refine wp_debugfs stable (by decide) (by decide) stage fun w stage => ?_
  refine wp_component stable .fib (by decide) stage fun w stage => ?_
  refine wp_component stable .health (by decide) stage fun w stage => ?_
  refine wp_component stable .bpf (by decide) stage fun w stage => ?_
  refine wp_component stable .psample (by decide) stage fun w stage => ?_
  refine wp_component stable .hwstats (by decide) stage fun w stage => ?_
  have all : insert Component.hwstats (insert .psample (insert .bpf (insert .health (insert .fib
      (insert .takeSnapshot (insert .debugfs (insert .traps (insert .dummyRegion (insert .params
        (insert .resources (insert .devlink ∅))))))))))) = allComponents := by
    decide
  rw [all] at stage ⊢
  exact wp_probePorts stable init stage

end Probe

/-! ## Reloading -/

section Reload

variable {R R' : KernelState → Prop} {w : NsimWorld}

/-- The device after `nsim_dev_reload_destroy`, without VFs. -/
def NsimDev.destroyed (dev : NsimDev) : NsimDev :=
  { dev.noPorts with live := dev.live \ reloadedComponents, dpll := none }

/-- What is left of the subsystems behind the calls that take them down one by one. -/
def takenDown (live : Finset Component) : Finset Component :=
  (((((live.erase .hwstats).erase .psample).erase .health).erase .fib).erase .traps).erase
    .dummyRegion

theorem sdiff_reloadedComponents (live : Finset Component) :
    live \ reloadedComponents = takenDown (live.erase .takeSnapshot) := by
  simp only [reloadedComponents, takenDown, Finset.sdiff_insert, Finset.sdiff_singleton_eq_erase]

/-- A `nsim_dev_reload_create` that fails leaves the device as it was but for ports it had
forgotten. -/
theorem wp_nsimDevReloadCreate (down : w.dev.live = baseComponents) :
    wp nsimDevReloadCreate
      (fun _ t => ∃ ports bound, PfPorts w.dev.busDev.portCount.toNat w.dev.devlinkPorts bound ports ∧
        t.dev = (w.dev.withPorts ports).withLive allComponents)
      (fun _ t => t.dev = { w.dev with portList := [] }) w := by
  have any : PinStable fun _ => True := fun _ _ _ _ => trivial
  have start : Stage { w.dev with portList := [] } baseComponents (fun _ => True)
      ⟨w.kernel, { w.dev with portList := [] }⟩ := by
    refine ⟨?_, trivial⟩
    rw [← down]
    rfl
  apply wp_mono (E := fun _ => Stage { w.dev with portList := [] } baseComponents fun _ => True) _
    (fun _ _ => id)
  · rintro _ t ⟨same, -⟩
    rw [same, ← down]
    rfl
  unfold nsimDevReloadCreate
  rw [wp_bind, wp_modifyDev]
  refine wp_component any .dummyRegion (by decide) start fun w stage => ?_
  refine wp_component any .traps (by decide) stage fun w stage => ?_
  refine wp_component any .fib (by decide) stage fun w stage => ?_
  refine wp_component any .health (by decide) stage fun w stage => ?_
  refine wp_component any .psample (by decide) stage fun w stage => ?_
  refine wp_component any .hwstats (by decide) stage fun w stage => ?_
  obtain ⟨same, -⟩ := stage
  rw [wp_bind, wp_getDev, wp_bind]
  apply wp_mono (wp_nsimDevPortAddAll (by rw [same]; rfl))
  · rintro _ t ⟨-, ports, ok, added⟩
    rw [same] at ok added
    refine ⟨ports, _, ok, ?_⟩
    show NsimDev.withLive t.dev (insert .takeSnapshot t.dev.live) = _
    have all : insert Component.takeSnapshot (insert .hwstats (insert .psample (insert .health
        (insert .fib (insert .traps (insert .dummyRegion baseComponents)))))) = allComponents := by
      decide
    rw [added, ← all]
    rfl
  · rintro _ t ⟨-, back⟩
    exact ⟨back.trans same, trivial⟩

theorem neverFails_nsimDevReloadDestroy : NeverFails nsimDevReloadDestroy := by
  have exitComponent : ∀ c, NeverFails (exitComponent c) := fun _ => neverFails_modifyDev _
  have exitDpll : NeverFails exitDpll := by
    apply neverFails_getDev.bind
    intro dev
    cases dev.dpll with
    | none => exact neverFails_pure _
    | some d =>
      apply (neverFails_inKernel (neverFails_nsimDpllExit d)).bind
      exact fun _ => neverFails_modifyDev _
  apply neverFails_getDev.bind
  intro dev
  split
  · exact neverFails_pure _
  · apply (exitComponent .takeSnapshot).bind
    intro _
    apply neverFails_dropVfs.bind
    intro _
    apply exitDpll.bind
    intro _
    apply (neverFails_getDev.bind fun _ => neverFails_delPorts _).bind
    exact fun _ _ => trivial

theorem neverFails_nsimDrvRemove : NeverFails nsimDrvRemove :=
  neverFails_nsimDevReloadDestroy.bind fun _ _ => trivial

/-- What `nsim_dpll_exit` makes of the kernel, if there is a DPLL. -/
theorem wp_exitDpll
    (exit : ∀ d, w.dev.dpll = some d → wp (nsimDpllExit d) (fun _ => R') (fun _ _ => True) w.kernel)
    (keep : w.dev.dpll = none → R' w.kernel) :
    wp exitDpll (fun _ t => R' t.kernel ∧ t.dev = { w.dev with dpll := none })
      (fun _ _ => True) w := by
  unfold exitDpll
  rw [wp_bind, wp_getDev]
  cases dpll : w.dev.dpll with
  | none =>
    refine ⟨keep dpll, ?_⟩
    rw [← dpll]
  | some d =>
    dsimp only
    rw [wp_bind, wp_inKernel]
    apply wp_mono (exit d dpll) _ fun _ _ _ => trivial
    exact fun _ _ kernel => ⟨kernel, rfl⟩

/-- What `nsim_dev_reload_down` does: nothing if the device does not allow it, or after a failed
reload. -/
theorem wp_nsimDevReloadDown_of {Q : Unit → NsimWorld → Prop} {E : Errno → NsimWorld → Prop}
    (refused : E .EOPNOTSUPP w) (failed : w.dev.reloadFailed = true → Q () w)
    (up : w.dev.reloadFailed = false → wp nsimDevReloadDestroy Q E w) :
    wp nsimDevReloadDown Q E w := by
  unfold nsimDevReloadDown
  rw [wp_bind, wp_getDev, wp_bind, wp_failIf]
  refine ⟨fun _ => refused, fun _ => ?_⟩
  cases last : w.dev.reloadFailed with
  | true =>
    unfold nsimDevReloadDestroy
    rw [wp_bind, wp_getDev, last, if_pos rfl]
    exact failed last
  | false => exact up last

/-- What `nsim_dev_reload_destroy` makes of a device that is up, and of the kernel, given what
`nsim_dpll_exit` does. -/
theorem wp_nsimDevReloadDestroy (stable : PinStable R) (stable' : PinStable R')
    (up : w.dev.reloadFailed = false) (kernel : R w.kernel)
    (exit : ∀ d k, w.dev.dpll = some d → R k →
      wp (nsimDpllExit d) (fun _ => R') (fun _ _ => True) k)
    (keep : w.dev.dpll = none → ∀ k, R k → R' k) {E : Errno → NsimWorld → Prop} :
    wp nsimDevReloadDestroy
      (fun _ t => R' t.kernel ∧ t.dev.core = w.dev.destroyed.core ∧
        (w.dev.busDev.numVfs = 0 → t.dev = w.dev.destroyed)) E w := by
  apply neverFails_nsimDevReloadDestroy.wp (E := fun _ _ => True)
  unfold nsimDevReloadDestroy
  rw [wp_bind, wp_getDev, up, if_neg (by decide), wp_bind]
  unfold removeTakeSnapshot exitComponent
  rw [wp_modifyDev, wp_bind]
  apply wp_mono wp_dropVfs _ fun _ _ => id
  rintro _ t ⟨⟨kept, rest⟩, noVfs⟩
  have known : R t.kernel := stable _ _ kept kernel
  have dpll : t.dev.dpll = w.dev.dpll := (congrArg NsimDev.dpll rest :)
  rw [wp_bind]
  apply wp_mono (wp_exitDpll (fun d some => exit d _ (dpll ▸ some) known)
    fun none => keep (dpll ▸ none) _ known) _ fun _ _ => id
  rintro _ u ⟨kernel', gone⟩
  rw [wp_bind]
  apply wp_mono wp_nsimDevPortDelAll _ fun _ _ => id
  rintro _ v ⟨kept', deleted⟩
  show R' v.kernel ∧ (v.dev.withLive (takenDown v.dev.live)).core = _ ∧
    (_ → v.dev.withLive (takenDown v.dev.live) = _)
  rw [deleted, gone, NsimDev.destroyed, sdiff_reloadedComponents]
  refine ⟨stable' _ _ kept' kernel', ?_, ?_⟩
  · exact congrArg (fun dev : NsimDev => { dev.withLive (takenDown dev.live) with dpll := none }) rest
  · intro none
    rw [noVfs none]
    rfl

end Reload

end Netdevsim
