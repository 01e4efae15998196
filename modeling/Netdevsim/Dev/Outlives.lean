import Netdevsim.Dev.PortLog
import Netdevsim.Dev.Reload

/-!
# Ports that outlive their device

While a reload has failed, ports can still be added.  `nsim_dev_reload_destroy` then does nothing,
so that neither the next reload nor the removal of the device deletes them: the reload forgets them
when it initialises the list again, and the removal leaves them behind.  There is no other way to
lose a port.
-/

namespace Netdevsim.Ports

open Program Lifetimes

/-- All that was created and not yet destroyed is held by a port on the list. -/
def NoneLost (w : PortWorld) : Prop :=
  ∃ L, live w.log = some L ∧ ∀ r ∈ L, ∃ port ∈ w.dev.portList, r ∈ resources port

/-- All that was created was destroyed, exactly once. -/
def AllDestroyed (w : PortWorld) : Prop :=
  live w.log = some ∅ ∧ ∀ r, w.log.count (.create r) = w.log.count (.destroy r)

/-- While a driver is bound no port is lost, and when it is not all ports have been destroyed. -/
def AccountedFor (s : PortSystem) : Prop :=
  (s.bound = true → NoneLost s.world) ∧ (s.bound = false → AllDestroyed s.world)

/-- After a reload that failed there is no port on the list when the list is initialised again or
the device is removed. -/
def ForgetsNone (dev : NsimDev) : PortOp → Prop
  | .reload => dev.reloadFailed = true → dev.dontAllowReload = false → dev.failReload = false →
      dev.portList = []
  | .remove => dev.reloadFailed = true → dev.portList = []
  | _ => True

instance (dev : NsimDev) (op : PortOp) : Decidable (ForgetsNone dev op) := by
  cases op <;> unfold ForgetsNone <;> infer_instance

/-! ## What each operation loses -/

/-- The operation initialises the list without having deleted the ports on it. -/
def Forgets (dev : NsimDev) (op : PortOp) : Prop :=
  op = .reload ∧ dev.reloadFailed = true ∧ dev.dontAllowReload = false ∧ dev.failReload = false

instance (dev : NsimDev) (op : PortOp) : Decidable (Forgets dev op) :=
  inferInstanceAs (Decidable (_ ∧ _))

/-- What is lost after the operation. -/
def lostBy (op : PortOp) (dev : NsimDev) (lost : Finset PortResource) : Finset PortResource :=
  if Forgets dev op then held dev.portList ∪ lost else lost

section Operations

variable {lost : Finset PortResource} {w : PortWorld} {op : PortOp} {E : Errno → PortWorld → Prop}

/-- A device that is up has deleted its ports after `nsim_dev_reload_destroy`. -/
theorem wp_reloadDestroy_up (sound : VfPortsSound w.dev) (books : OnBooks (Books lost) w)
    (up : w.dev.reloadFailed = false) :
    wp nsimDevReloadDestroy (fun _ t => OnBooks (Books lost) t ∧ t.dev.portList = []) E w := by
  have down := erases_nsimDevReloadDestroy.transfer (s := w)
    (wp_nsimDevReloadDestroy_vfs sound up (E := fun _ _ => False))
  apply wp_mono (wp_and (keepsBooks_nsimDevReloadDestroy.inv books) down)
  · exact fun _ t both => ⟨both.1, both.2.1⟩
  · exact fun _ _ both => both.2.elim

theorem reloadDestroy_failed (failed : w.dev.reloadFailed = true) {Q : Unit → PortWorld → Prop}
    (rest : Q () w) : wp nsimDevReloadDestroy Q E w := by
  unfold nsimDevReloadDestroy
  rw [wp_bind, wp_getDev, if_pos failed]
  exact rest

theorem wp_reloadUp (books : OnBooks (Books lost) w) :
    wp nsimDevReloadUp
      (fun _ => OnBooks (Books (if w.dev.failReload then lost else held w.dev.portList ∪ lost)))
      (fun _ => OnBooks (Books (if w.dev.failReload then lost else held w.dev.portList ∪ lost))) w := by
  unfold nsimDevReloadUp
  rw [wp_bind, wp_getDev, wp_bind, wp_failIf]
  refine ⟨fun fails => ?_, fun succeeds => ?_⟩
  · rw [if_pos fails]
    exact books
  · rw [if_neg succeeds]
    exact wp_nsimDevReloadCreate books

/-- Only the reload after one that failed loses anything. -/
theorem wp_reload_books (sound : VfPortsSound w.dev) (books : OnBooks (Books lost) w) :
    wp devlinkReload (fun _ => OnBooks (Books (lostBy .reload w.dev lost)))
      (fun _ => OnBooks (Books (lostBy .reload w.dev lost))) w := by
  have marked : ∀ (failed : Bool) (t : PortWorld) (lost : Finset PortResource),
      OnBooks (Books lost) t → OnBooks (Books lost) { t with
        world := ⟨t.world.kernel, { t.dev with reloadFailed := failed }⟩ } :=
    fun failed t lost books => Books.congr books rfl rfl
  unfold devlinkReload nsimDevReloadDown
  rw [wp_bind, wp_bind, wp_getDev, wp_bind, wp_failIf]
  refine ⟨fun refused => ?_, fun allowed => ?_⟩
  · rw [lostBy, if_neg fun forgets => by simp [forgets.2.2.1] at refused]
    exact books
  have allowed : w.dev.dontAllowReload = false := by simpa using allowed
  cases failed : w.dev.reloadFailed with
  | true =>
    apply reloadDestroy_failed failed
    rw [wp_bind, wp_unwind]
    have same : (if w.dev.failReload then lost else held w.dev.portList ∪ lost) =
        lostBy .reload w.dev lost := by
      by_cases fails : w.dev.failReload = true
      · rw [if_pos fails, lostBy, if_neg fun forgets => by simp [forgets.2.2.2] at fails]
      · rw [if_neg fails, lostBy, if_pos ⟨rfl, failed, allowed, by simpa using fails⟩]
    have up := wp_reloadUp books
    rw [same] at up
    exact wp_mono up (fun _ t books => marked false t _ books) fun _ t books => marked true t _ books
  | false =>
    apply wp_mono (wp_reloadDestroy_up sound books failed) _ fun _ _ => id
    rintro _ t ⟨books, none⟩
    rw [wp_bind, wp_unwind]
    have same : (if t.dev.failReload then lost else held t.dev.portList ∪ lost) =
        lostBy .reload w.dev lost := by
      have keeps : lostBy .reload w.dev lost = lost :=
        if_neg fun forgets => absurd (failed.symm.trans forgets.2.1) (by decide)
      rw [none, keeps]
      simp [held]
    have up := wp_reloadUp books
    rw [same] at up
    exact wp_mono up (fun _ t books => marked false t _ books) fun _ t books => marked true t _ books

theorem wp_program_books (sound : VfPortsSound w.dev) (books : OnBooks (Books lost) w)
    (bound : ∀ now, op ≠ .probe now) :
    wp op.program (fun _ => OnBooks (Books (lostBy op w.dev lost)))
      (fun _ => OnBooks (Books (lostBy op w.dev lost))) w := by
  by_cases reload : op = .reload
  · rw [reload]
    exact wp_reload_books sound books
  rw [lostBy, if_neg fun forgets => reload forgets.1]
  cases op with
  | probe now => exact absurd rfl (bound now)
  | remove => exact keepsBooks_nsimDrvRemove.inv books
  | newPort portIndex => exact (keepsBooks_nsimDrvPortAdd _ _).inv books
  | delPort portIndex => exact (keepsBooks_nsimDrvPortDel _ _).inv books
  | sriovNumvfs numVfs => exact (keepsBooks_nsimDrvConfigureVfs _).inv books
  | maxVfs ppos buf => exact (keepsBooks_nsimBusDevMaxVfsWrite _ _).inv books
  | eswitchMode mode => exact (keepsBooks_nsimDevlinkEswitchModeSet _).inv books
  | reload => exact absurd rfl reload
  | dontAllowReload val => exact Books.congr books rfl rfl
  | failReload val => exact Books.congr books rfl rfl

end Operations

/-! ## Every run -/

section Runs

variable {w : PortWorld} {op : PortOp} {s t : PortSystem} {a : Surroundings × PortOp}

/-- What is done to the VF ports keeps them sound. -/
theorem wp_erased_sound {v : NsimWorld} (sound : VfPortsSound v.dev)
    (bound : ∀ now, op ≠ .probe now) (stays : op ≠ .remove) :
    wp op.erased (fun _ t => VfPortsSound t.dev) (fun _ t => VfPortsSound t.dev) v := by
  have device : ∀ op' : NsimOp, (∀ now, op' ≠ .probe now) → op' ≠ .remove →
      wp op'.program (fun _ t => VfPortsSound t.dev) (fun _ t => VfPortsSound t.dev) v := by
    intro op' bound' stays'
    exact wp_mono (wp_program_vfs sound bound' stays') (fun _ _ => VfDone.sound sound)
      fun _ _ => VfDone.sound sound
  cases op with
  | probe now => exact absurd rfl (bound now)
  | remove => exact absurd rfl stays
  | newPort portIndex => exact device (.newPort portIndex) (by simp) (by simp)
  | delPort portIndex => exact device (.delPort portIndex) (by simp) (by simp)
  | sriovNumvfs numVfs => exact device (.sriovNumvfs numVfs) (by simp) (by simp)
  | eswitchMode mode => exact device (.eswitchMode mode) (by simp) (by simp)
  | reload => exact device .reload (by simp) (by simp)
  | dontAllowReload val => exact device (.dontAllowReload val) (by simp) (by simp)
  | failReload val => exact device (.failReload val) (by simp) (by simp)
  | maxVfs ppos buf =>
    show wp (parseMaxVfs ppos buf (inKernel mayFail) Netdevsim.nsimBusDevMaxVfsWrite) _ _ v
    unfold parseMaxVfs
    split
    · exact sound
    rw [wp_bind, wp_failIf]
    refine ⟨fun _ => sound, fun _ => ?_⟩
    rw [wp_bind, wp_inKernel]
    apply wp_mono wp_true _ fun _ _ _ => sound
    intro _ kernel _
    cases kstrtouint buf 10 with
    | error e => exact sound
    | ok val =>
      have done : wp (Netdevsim.nsimBusDevMaxVfsWrite val) (fun _ => VfDone (.maxVfs val) v.dev)
          (fun _ => VfDone (.maxVfs val) v.dev) ⟨kernel, v.dev⟩ := wp_maxVfs sound
      exact wp_mono done (fun _ _ => VfDone.sound sound) fun _ _ => VfDone.sound sound

/-- The removal of a device deletes the ports on its list unless its last reload failed. -/
theorem wp_remove_list (sound : VfPortsSound w.dev) {E : Errno → PortWorld → Prop} :
    wp nsimDrvRemove
      (fun _ t => t.dev.portList = if w.dev.reloadFailed then w.dev.portList else []) E w := by
  unfold nsimDrvRemove
  rw [wp_bind]
  have rest : ∀ t : PortWorld, t.dev.portList =
      (if w.dev.reloadFailed then w.dev.portList else []) →
      wp (do
        onDevice nsimBpfDevExit
        onDevice nsimDevDebugfsExit
        onDevice devlParamsUnregister
        onDevice devlResourcesUnregister
        onDevice devlUnregister
        setVfconfigs []) (fun _ t => t.dev.portList =
          if w.dev.reloadFailed then w.dev.portList else []) E t := fun _ list => list
  by_cases failed : w.dev.reloadFailed = true
  · apply reloadDestroy_failed failed
    refine rest w ?_
    rw [if_pos failed]
  · have up : w.dev.reloadFailed = false := by simpa using failed
    have down := erases_nsimDevReloadDestroy.transfer (s := w)
      (wp_nsimDevReloadDestroy_vfs sound up (E := fun _ _ => False))
    apply wp_mono down _ fun _ _ => False.elim
    rintro _ t ⟨none, -⟩
    refine rest t ?_
    rw [if_neg failed]
    exact none

/-- What is known of a device with a driver. -/
structure PortInvariant (w : PortWorld) : Prop where
  sound : VfPortsSound w.dev
  books : OnBooks (Books ∅) w

theorem PortInvariant.noneLost (inv : PortInvariant w) : NoneLost w := by
  refine ⟨_, inv.books.live, fun r mem => ?_⟩
  rw [Finset.union_empty] at mem
  exact mem_held.1 mem

theorem allDestroyed_of_books (books : OnBooks (Books ∅) w) (none : w.dev.portList = []) :
    AllDestroyed w := by
  have live : Lifetimes.live w.log = some ∅ := by
    rw [books.live, none]
    rfl
  exact ⟨live, count_create_of_none_live live⟩

theorem list_nil_of_allDestroyed (books : OnBooks (Books ∅) w) (all : AllDestroyed w) :
    w.dev.portList = [] := by
  have live := books.live
  rw [all.1, Finset.union_empty] at live
  exact held_eq_empty_iff.1 (Option.some.inj live).symm

theorem PortOp.start_of_ne_probe (bound : ∀ now, op ≠ .probe now) (w : PortWorld) :
    op.start w = w := by
  cases op with
  | probe now => exact absurd rfl (bound now)
  | _ => rfl

/-- Probing leads to a device with all its ports in the books, or leaves none. -/
theorem wp_probe {now : ℕ} {busDev : NsimBusDev} (blank : w.dev = .blank busDev)
    (new : w.log = []) :
    wp (nsimDrvProbe now) (fun _ => PortInvariant)
      (fun _ t => OnBooks (Books ∅) t ∧ t.dev = .blank busDev) w := by
  have books : OnBooks (Books ∅) w := by
    rw [OnBooks, blank, new]
    exact ⟨portsRegistered_nil rfl, rfl, by simp⟩
  have any : PinStable fun _ => True := fun _ _ _ _ => trivial
  have device := (erases_nsimDrvProbe now).transfer (s := w)
    (wp_nsimDrvProbe any (fun _ _ _ => wp_true) blank trivial)
  apply wp_mono (wp_and ((keepsBooks_nsimDrvProbe now).inv books) device)
  · rintro _ t ⟨books, ports, dpll, probed⟩
    obtain ⟨bound, ok⟩ := probed.pf
    have dev : t.dev = .probed busDev ports dpll := probed.dev
    have none : t.dev.vfPorts = [] := by
      rw [dev]
      refine List.filter_eq_nil_iff.2 fun port mem vf => ?_
      exact nsimDevPortIsVf_iff.1 vf (ok.mem_pf mem)
    refine ⟨⟨Books.ports books, fun _ => none, fun i mem => ?_⟩, books⟩
    rw [NsimDev.vfIndices, none] at mem
    exact absurd mem List.not_mem_nil
  · exact fun _ t both => ⟨both.1, both.2.1⟩

/-- A step of a device without a driver. -/
theorem accountedFor_probe (unbound : s.bound = false) (step : portSystem.step s a t) :
    (t.bound = true → PortInvariant t.world) ∧ AccountedFor t := by
  obtain ⟨-, driver, result, run, after⟩ := step
  obtain ⟨now, probe⟩ := exists_probe_of_unbound driver unbound
  rw [probe] at run after
  have outcome : wp (nsimDrvProbe now) _ _ ((PortOp.probe now).start (s.world.within a.1)) :=
    wp_probe rfl rfl
  cases result with
  | ok _ =>
    have inv := exec_ok_of_wp outcome run
    have bound' : t.bound = true := after
    refine ⟨fun _ => inv, fun _ => inv.noneLost, fun unbound' => ?_⟩
    exact absurd (bound'.symm.trans unbound') (by decide)
  | error e =>
    obtain ⟨books, blank⟩ := exec_error_of_wp outcome run
    have unbound' : t.bound = false := after
    refine ⟨fun bound => absurd (unbound'.symm.trans bound) (by decide), fun bound => ?_, fun _ => ?_⟩
    · exact absurd (unbound'.symm.trans bound) (by decide)
    · refine allDestroyed_of_books books ?_
      rw [blank]
      rfl

/-- Where the ports on the list were forgotten, they are lost. -/
theorem not_noneLost_of_forgotten {ports : List NsimDevPort} (some : ports ≠ [])
    (books : OnBooks (Books (held ports ∪ ∅)) w) : ¬NoneLost w := by
  rintro ⟨L, live, owned⟩
  rw [books.live, Finset.union_empty] at live
  obtain rfl := Option.some.inj live
  obtain ⟨port, mem⟩ := List.exists_mem_of_ne_nil ports some
  have lost : (⟨.devlinkPort, port.portIndex, port.portType⟩ : PortResource) ∈ held ports :=
    mem_held.2 ⟨port, mem, devlinkPort_mem_resources port⟩
  obtain ⟨other, listed, mine⟩ := owned _ (Finset.mem_union_right _ lost)
  exact (books.apart _ (Finset.mem_union_left _ lost)).2 other listed (index_of_mem_resources mine).symm

/-- A step of a device with a driver: it keeps the books if it forgets no port, and otherwise a port
is lost. -/
theorem accountedFor_step (inv : PortInvariant s.world) (bound : s.bound = true)
    (step : portSystem.step s a t) :
    (ForgetsNone s.world.dev a.2 → t.bound = true → PortInvariant t.world) ∧
      (AccountedFor t ↔ ForgetsNone s.world.dev a.2) := by
  obtain ⟨-, driver, result, run, after⟩ := step
  have other := driver.1 bound
  rw [PortOp.start_of_ne_probe other] at run
  have sound : VfPortsSound (s.world.within a.1).dev := inv.sound
  have books : OnBooks (Books ∅) (s.world.within a.1) := inv.books
  have kept : OnBooks (Books (lostBy a.2 s.world.dev ∅)) t.world :=
    holds_of_wp (wp_program_books (w := s.world.within a.1) sound books other) run
  by_cases remove : a.2 = .remove
  · have unbound : t.bound = false := by
      rw [after, remove]
      rfl
    rw [remove] at run kept ⊢
    have books' : OnBooks (Books ∅) t.world := by
      rw [lostBy, if_neg fun forgets => PortOp.noConfusion forgets.1] at kept
      exact kept
    have list : t.world.dev.portList =
        if s.world.dev.reloadFailed then s.world.dev.portList else [] :=
      holds_of_wp (I := fun t : PortWorld => t.dev.portList =
        if s.world.dev.reloadFailed then s.world.dev.portList else []) (wp_remove_list sound) run
    have off : ¬t.bound = true := by simp [unbound]
    refine ⟨fun _ bound => absurd bound off, fun accounted failed => ?_, fun none => ?_⟩
    · have empty := list_nil_of_allDestroyed books' (accounted.2 unbound)
      rw [list, if_pos failed] at empty
      exact empty
    · refine ⟨fun bound => absurd bound off, fun _ => allDestroyed_of_books books' ?_⟩
      rw [list]
      split
      · exact none (by assumption)
      · rfl
  have stays : t.bound = true := by
    rw [after]
    cases op : a.2 with
    | probe now => exact absurd op (other now)
    | remove => exact absurd op remove
    | _ => rfl
  have sound' : VfPortsSound t.world.dev :=
    holds_of_wp (I := fun t : NsimWorld => VfPortsSound t.dev)
      (wp_erased_sound sound other remove) ((erases_program a.2).exec run)
  by_cases forgets : Forgets s.world.dev a.2 ∧ s.world.dev.portList ≠ []
  · obtain ⟨⟨reload, failed, allowed, succeeds⟩, some⟩ := forgets
    rw [lostBy, if_pos ⟨reload, failed, allowed, succeeds⟩] at kept
    have forgetful : ¬ForgetsNone s.world.dev a.2 := by
      rw [reload]
      exact fun none => some (none failed allowed succeeds)
    refine ⟨fun none => absurd none forgetful, iff_of_false (fun accounted => ?_) forgetful⟩
    exact not_noneLost_of_forgotten some kept (accounted.1 stays)
  · have none : lostBy a.2 s.world.dev ∅ = ∅ := by
      unfold lostBy
      split
      · rename_i hit
        have empty : s.world.dev.portList = [] := not_not.1 fun some => forgets ⟨hit, some⟩
        rw [empty]
        rfl
      · rfl
    rw [none] at kept
    have inv' : PortInvariant t.world := ⟨sound', kept⟩
    refine ⟨fun _ _ => inv', iff_of_true ⟨fun _ => inv'.noneLost, fun unbound => ?_⟩ ?_⟩
    · exact absurd (stays.symm.trans unbound) (by decide)
    · cases op : a.2 with
      | remove => exact absurd op remove
      | reload =>
        intro failed allowed succeeds
        exact not_not.1 fun some => forgets ⟨⟨op, failed, allowed, succeeds⟩, some⟩
      | _ => trivial

/-- A step of a device with a driver forgets no port. -/
def PortCondition (s : PortSystem) (a : Surroundings × PortOp) : Prop :=
  s.bound = true → ForgetsNone s.world.dev a.2

instance (s : PortSystem) (a : Surroundings × PortOp) : Decidable (PortCondition s a) :=
  inferInstanceAs (Decidable (_ → _))

theorem portInvariant_reachable (run : (portSystem.guard PortCondition).Reachable s) :
    (s.bound = true → PortInvariant s.world) ∧ AccountedFor s := by
  refine TransitionSystem.Reachable.induct
    (P := fun s => (s.bound = true → PortInvariant s.world) ∧ AccountedFor s) ?_ ?_ run
  · rintro s ⟨unbound, new, -⟩
    have off : ¬s.bound = true := by simp [unbound]
    refine ⟨fun bound => absurd bound off, fun bound => absurd bound off, fun _ => ?_⟩
    rw [AllDestroyed, new]
    exact ⟨rfl, fun _ => rfl⟩
  · rintro s a t - inv ⟨step, condition⟩
    cases bound : s.bound with
    | false => exact accountedFor_probe bound step
    | true =>
      obtain ⟨kept, accounted⟩ := accountedFor_step (inv.1 bound) bound step
      exact ⟨kept (condition bound), accounted.2 (condition bound)⟩

/-- In every run in which no reload after one that failed initialises the list, and no device is
removed after a reload that failed, while there are ports on the list, no port is lost while a
driver is bound and all ports have been destroyed when the driver is gone; and the first step of the
other kind loses a port. -/
theorem ports_accounted_for (s : PortSystem) (run : (portSystem.guard PortCondition).Reachable s) :
    AccountedFor s ∧
    ∀ a t, s.bound = true → portSystem.step s a t →
      (AccountedFor t ↔ ForgetsNone s.world.dev a.2) := by
  refine ⟨(portInvariant_reachable run).2, ?_⟩
  intro a t bound step
  exact (accountedFor_step ((portInvariant_reachable run).1 bound) bound step).2

/-- A reload fails and is repeated, a port is added and the device is removed. -/
theorem ports_accounted_for_retry : ∃ s a t, (portSystem.guard PortCondition).Reachable s ∧
    s.bound = true ∧ s.world.dev.portList.length = 2 ∧ portSystem.step s a t ∧ t.bound = false ∧
      t.world.log.length = 18 ∧ AccountedFor s ∧ AccountedFor t := by
  obtain ⟨s, reachable, test⟩ := reachable_of_advance PortCondition
    [.probe 0, .failReload true, .reload, .failReload false, .reload, .newPort 3]
    (fun s => s.bound ∧ s.world.dev.portList.length = 2 ∧ s.world.dev.reloadFailed = false ∧
      (s.advance PortCondition .remove).any fun t => !t.bound ∧ t.world.log.length = 18)
    (by decide +kernel)
  obtain ⟨bound, ports, up, removed⟩ := of_decide_eq_true test
  obtain ⟨t, next, last⟩ := (Option.any_eq_true _ _).1 removed
  obtain ⟨unbound, length⟩ := of_decide_eq_true last
  obtain ⟨step, -⟩ := step_of_advance PortCondition next
  have kept := ((ports_accounted_for s reachable).2 _ t bound step).2 fun failed =>
    absurd (up.symm.trans failed) (by decide)
  exact ⟨s, _, t, reachable, bound, ports, step, by simpa using unbound, length,
    (ports_accounted_for s reachable).1, kept⟩

/-- A port that is added after a failed reload is still there when the device has been removed. -/
theorem port_outlives_device : ¬ ∀ s, portSystem.Reachable s → AccountedFor s := by
  intro always
  obtain ⟨s, reachable, test⟩ := reachable_of_advance (fun _ _ => True)
    [.probe 0, .failReload true, .reload, .newPort 1, .remove]
    (fun s => !s.bound ∧ live s.world.log ≠ some ∅) (by decide +kernel)
  obtain ⟨unbound, left⟩ := of_decide_eq_true test
  exact left ((always s reachable.of_guard).2 (by simpa using unbound)).1

end Runs

end Netdevsim.Ports
