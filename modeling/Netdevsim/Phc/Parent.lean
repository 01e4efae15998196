import Netdevsim.Phc.Sharing

/-!
# A PHC and its parent device

The clock of a mock PHC is a child of the device whose port was the first to need the PHC, while the
PHC lives until the last port that shares it is gone.  So the parents of all PHCs stay registered as
long as no device is deleted while a port of another device has a PHC whose parent it is
(`KeepsParents`), and the deletion of such a device leaves an orphan.
-/

namespace Netdevsim.Phc

open Program

/-- The parent of every live PHC is registered on the bus. -/
def ParentsRegistered (w : PhcWorld) : Prop :=
  ∀ p o, w.table.phc p = some o → ∃ d ∈ w.busDevs, d.addr = o.parent

/-- The operation deletes no device that is the parent of the PHC of another device's port. -/
def KeepsParents (w : PhcWorld) : PhcOp → Prop
  | .delDevice id => ∀ d, w.busDev id = some d → ∀ port ∈ w.ports, port.busDev ≠ d →
      ∀ o, w.table.phc port.phc = some o → o.parent ≠ d.addr
  | _ => True

section Step

variable {w t : PhcWorld} {busDev : NsimBusDev}

theorem ParentsRegistered.of_from (h : ParentsRegistered w)
    (devs : ∀ d ∈ w.busDevs, d ∈ t.busDevs)
    (phcs : From (fun _ parent => ∃ d ∈ t.busDevs, d.addr = parent) w.table t.table) :
    ParentsRegistered t := by
  intro p o' found
  obtain ⟨o, before, -, parent⟩ | isNew := phcs p o' found
  · obtain ⟨d, mem, addr⟩ := h p o before
    exact ⟨d, devs d mem, by rw [addr, parent]⟩
  · exact isNew

/-- Changes on behalf of a registered device. -/
theorem ParentsRegistered.of_devFrame (h : ParentsRegistered w) (mem : busDev ∈ w.busDevs)
    (frame : (devFrame busDev fun _ parent => parent = busDev.addr).rel w t) :
    ParentsRegistered t := by
  obtain ⟨devs, -, -, phcs, -⟩ := frame
  refine h.of_from (fun d mem => by rwa [devs]) fun p o' found => ?_
  refine (phcs p o' found).imp_right fun parent => ⟨busDev, by rwa [devs], parent.symm⟩

theorem wp_onBound_parents (h : ParentsRegistered w) {id : UInt32} {m : NsimBusDev → PhcM Unit}
    (keeps : ∀ d, Keeps (devFrame d fun _ parent => parent = d.addr) (m d)) :
    wp (onBound id m) (fun _ => ParentsRegistered) (fun _ => ParentsRegistered) w := by
  unfold onBound
  rw [wp_bind, wp_get]
  cases found : w.busDev id with
  | none => exact h
  | some d =>
    by_cases bound : w.drvdata d.addr = true
    · simp only [if_pos bound]
      apply wp_mono (keeps d w)
      · exact fun _ t frame => h.of_devFrame (w.busDev_mem found) frame
      · exact fun _ t frame => h.of_devFrame (w.busDev_mem found) frame
    · simp only [if_neg bound]
      exact wp_goWrong

/-- After the deletion of a device the parents are registered if and only if no port of another
device has a PHC whose parent it was. -/
theorem parentsRegistered_delete_iff (inv : PhcInvariant w) (h : ParentsRegistered w)
    (after : PhcInvariant t) (mem : busDev ∈ w.busDevs)
    (phcs : From (fun _ _ => False) w.table t.table) (devs : t.busDevs = w.busDevs.erase busDev)
    (ports : ∀ port, port ∈ t.ports ↔ port ∈ w.ports ∧ port.busDev ≠ busDev) :
    ParentsRegistered t ↔ ∀ port ∈ w.ports, port.busDev ≠ busDev →
      ∀ o, w.table.phc port.phc = some o → o.parent ≠ busDev.addr := by
  have distinct : w.busDevs.Nodup := inv.addrs.of_map _
  have sound := after.accounted.sound
  rw [List.append_nil] at sound
  constructor
  · intro registered port here other o found parent
    have kept : port ∈ t.ports := (ports port).2 ⟨here, other⟩
    obtain ⟨o', live, -⟩ := sound.live (List.mem_map_of_mem kept)
    obtain ⟨o₁, before, -, same⟩ | absurd := phcs _ _ live
    · obtain rfl := Option.some.inj (found.symm.trans before)
      obtain ⟨d, left, addr⟩ := registered _ _ live
      rw [devs] at left
      have gone : d = busDev :=
        inv.addr_inj (List.mem_of_mem_erase left) mem (by rw [addr, same, parent])
      rw [gone] at left
      exact distinct.not_mem_erase left
    · exact absurd
  · intro keeps p o' live
    obtain ⟨o, before, -, same⟩ | absurd := phcs p o' live
    · obtain ⟨d, registered, addr⟩ := h p o before
      refine ⟨d, ?_, by rw [addr, same]⟩
      rw [devs]
      refine (List.mem_erase_of_ne ?_).2 registered
      rintro rfl
      -- A live PHC has a port, and the ports that are left are those of the other devices.
      obtain ⟨port, kept, rfl⟩ := List.mem_map.1
        ((sound.held_or_dying live).resolve_right List.not_mem_nil)
      obtain ⟨here, other⟩ := (ports port).1 kept
      exact keeps port here other o before addr.symm
    · exact absurd.elim

/-- A step keeps the parents registered if and only if it deletes no device that is the parent of
the PHC of another device's port. -/
theorem parentsRegistered_step_iff {a : List (Option Errno) × PhcOp} (inv : PhcInvariant w)
    (h : ParentsRegistered w) (step : plainPhcSystem.step w a t) :
    ParentsRegistered t ↔ KeepsParents w a.2 := by
  have after := phcInvariant_step inv step.1
  obtain ⟨faults, op⟩ := a
  obtain ⟨⟨result, run⟩, plain⟩ := step
  have start := inv.faults faults
  have same : ParentsRegistered { w with faults } := h
  cases op with
  | delDevice id =>
    have deleted : wp (delDeviceStore id)
        (fun _ t => PhcInvariant t → (ParentsRegistered t ↔ KeepsParents w (.delDevice id)))
        (fun _ t => PhcInvariant t → (ParentsRegistered t ↔ KeepsParents w (.delDevice id)))
        { w with faults } := by
      unfold delDeviceStore
      rw [wp_bind, wp_get]
      cases found : PhcWorld.busDev { w with faults } id with
      | none =>
        have vacuous : KeepsParents w (.delDevice id) := by
          intro d here
          have there : PhcWorld.busDev { w with faults } id = some d := here
          rw [found] at there
          cases there
        exact fun _ => iff_of_true same vacuous
      | some d =>
        have here : w.busDev id = some d := found
        apply wp_mono (wp_nsimBusDevDel start (PhcWorld.busDev_mem found))
        · rintro _ t ⟨-, phcs, devs, ports⟩ after
          rw [parentsRegistered_delete_iff inv h after (w.busDev_mem here) phcs devs ports]
          constructor
          · intro keeps d' there
            obtain rfl := Option.some.inj (here.symm.trans there)
            exact keeps
          · exact fun keeps => keeps d here
        · exact fun _ _ kept => kept
    exact holds_of_wp (I := fun t => PhcInvariant t →
      (ParentsRegistered t ↔ KeepsParents w (.delDevice id))) deleted run after
  | newDevice id logicalClkId portCount =>
    refine iff_of_true (holds_of_wp (I := ParentsRegistered) ?_ run) trivial
    apply wp_mono (wp_nsimBusDevNew start id logicalClkId portCount)
    · exact fun _ t made => same.of_from made.2.1 made.2.2
    · rintro _ t ⟨-, devs, table⟩ p o found
      rw [table] at found
      rw [devs]
      exact h p o found
  | newPort id portIndex =>
    refine iff_of_true (holds_of_wp (I := ParentsRegistered) ?_ run) trivial
    exact wp_onBound_parents same fun d => keeps_nsimDrvPortAdd rfl portIndex
  | delPort id portIndex =>
    refine iff_of_true (holds_of_wp (I := ParentsRegistered) ?_ run) trivial
    exact wp_onBound_parents same fun d => keeps_nsimDrvPortDel d portIndex
  | nVclocks phc buf attempts => exact plain.elim

end Step

/-! ## Runs -/

/-- No PHC outlives its parent in the runs that delete no device while the port of another device
has a PHC whose parent it is, and the deletion of such a device leaves a PHC without its parent. -/
theorem phc_within_parent (w : PhcWorld) :
    ((phcSystem.guard fun w a => a.2.NoVclocks ∧ KeepsParents w a.2).Reachable w →
      ParentsRegistered w) ∧
    ∀ a t, plainPhcSystem.Reachable w → ParentsRegistered w → plainPhcSystem.step w a t →
      (ParentsRegistered t ↔ KeepsParents w a.2) := by
  refine ⟨fun h => ?_, fun a t reachable h step => ?_⟩
  · refine h.induct (fun w init => ?_) fun w a t reachable h step => ?_
    · obtain ⟨stray, rfl⟩ := init
      intro p o found
      cases found
    · obtain ⟨step, plain, keeps⟩ := step
      have inv := phcInvariant_reachable reachable.of_guard
      exact (parentsRegistered_step_iff inv h ⟨step, plain⟩).2 keeps
  · exact parentsRegistered_step_iff (phcInvariant_reachable reachable.of_guard) h step

/-- While both devices are there, so is the parent of their PHC. -/
theorem phc_within_parent_twoDevices :
    ∃ w : PhcWorld, w.ports.length = 2 ∧ ParentsRegistered w := by
  have start : (phcSystem.guard fun w a => a.2.NoVclocks ∧ KeepsParents w a.2).Reachable
      (.loaded fun _ => 0) := .init ⟨fun _ => 0, rfl⟩
  obtain ⟨w, reachable, two⟩ := exists_of_runOps twoDevices (·.ports.length = 2) start
    (by simp [twoDevices, PhcOp.NoVclocks, KeepsParents]) (by decide +kernel)
  exact ⟨w, of_decide_eq_true two, (phc_within_parent w).1 reachable⟩

/-- The PHC of a port is an orphan. -/
def hasOrphan (w : PhcWorld) : Bool :=
  w.ports.any fun port => (w.table.phc port.phc).any fun o => !w.busDevs.any (·.addr = o.parent)

theorem not_parentsRegistered_of_hasOrphan {w : PhcWorld} (orphan : hasOrphan w = true) :
    ¬ParentsRegistered w := by
  intro registered
  obtain ⟨port, -, orphan⟩ := List.any_eq_true.1 orphan
  cases found : w.table.phc port.phc with
  | none => simp [found] at orphan
  | some o =>
    obtain ⟨d, mem, addr⟩ := registered _ _ found
    simp only [found, Option.any_some, Bool.not_eq_true', List.any_eq_false,
      decide_eq_true_eq] at orphan
    exact orphan d mem addr

/-- Two devices share a PHC, and the one that came first is deleted. -/
theorem phc_outlives_parent : ¬∀ w, plainPhcSystem.Reachable w → ParentsRegistered w := by
  intro always
  have start : plainPhcSystem.Reachable (.loaded fun _ => 0) := .init ⟨fun _ => 0, rfl⟩
  obtain ⟨w, reachable, orphan⟩ := exists_of_runOps (twoDevices ++ [([], .delDevice 0)]) hasOrphan
    start (by simp [twoDevices, PhcOp.NoVclocks]) (by decide +kernel)
  exact not_parentsRegistered_of_hasOrphan orphan (always w reachable)

end Netdevsim.Phc
