import Netdevsim.Dev.Lifecycle
import Netdevsim.Dpll.LockState

/-!
# Netlink and sysfs

All devices with WPC use the one clock id of the driver, so they share one PPS and one EEC device,
and netlink asks the device that registered first.  It therefore agrees with the sysfs attributes of
all of them exactly when they all show the same.
-/

namespace Netdevsim

open Program

/-! ## The shared devices -/

/-- The core has exactly the registrations and references of the given DPLLs. -/
structure Shared (kernel : KernelState) (dplls : List NsimDpllDev) (T : DeviceTable) (bound : Ptr) :
    Prop where
  rep : Represents kernel T bound
  refs : ∀ key ∈ [ppsKey, eecKey], (T key).refs = dplls.length
  regs : ∀ key ∈ [ppsKey, eecKey], dplls ≠ [] →
    (T key).regs = dplls.map fun d => nsimReg d.addr
  pps : ∀ d ∈ dplls, d.ppsDpll = (T ppsKey).addr
  eec : ∀ d ∈ dplls, d.eecDpll = (T eecKey).addr
  below : ∀ d ∈ dplls, d.addr < bound
  nodup : (dplls.map NsimDpllDev.addr).Nodup

section Shared

variable {kernel kernel' : KernelState} {dplls l₁ l₂ : List NsimDpllDev} {T : DeviceTable}
  {bound now : ℕ} {d d' : NsimDpllDev} {portList : List NsimDevPort}

theorem ppsKey_ne_eecKey : ppsKey ≠ eecKey := by decide

theorem attach_pps {ndpll pps eec : Ptr} : T.attach ndpll pps eec ppsKey =
    ⟨pps, (T ppsKey).refs + 1,
      (if (T ppsKey).refs = 0 then [] else (T ppsKey).regs) ++ [nsimReg ndpll]⟩ := by
  rw [DeviceTable.attach, register_other ppsKey_ne_eecKey, get_other ppsKey_ne_eecKey,
    register_self, get_self]

theorem attach_eec {ndpll pps eec : Ptr} : T.attach ndpll pps eec eecKey =
    ⟨eec, (T eecKey).refs + 1,
      (if (T eecKey).refs = 0 then [] else (T eecKey).regs) ++ [nsimReg ndpll]⟩ := by
  rw [DeviceTable.attach, register_self, get_self, register_other ppsKey_ne_eecKey.symm,
    get_other ppsKey_ne_eecKey.symm]

theorem detach_pps {ndpll : Ptr} : T.detach ndpll ppsKey =
    ⟨(T ppsKey).addr, (T ppsKey).refs - 1, (T ppsKey).regs.erase (nsimReg ndpll)⟩ := by
  rw [DeviceTable.detach, put_self, unregister_self, put_other ppsKey_ne_eecKey,
    unregister_other ppsKey_ne_eecKey]

theorem detach_eec {ndpll : Ptr} : T.detach ndpll eecKey =
    ⟨(T eecKey).addr, (T eecKey).refs - 1, (T eecKey).regs.erase (nsimReg ndpll)⟩ := by
  rw [DeviceTable.detach, put_other ppsKey_ne_eecKey.symm,
    unregister_other ppsKey_ne_eecKey.symm, put_self, unregister_self]

/-- One more DPLL registers behind the others. -/
theorem Shared.attach (shared : Shared kernel dplls T bound)
    (attached : Attached T bound now portList d kernel') :
    Shared kernel' (dplls ++ [d]) (T.attach d.addr d.ppsDpll d.eecDpll) (d.addr + 1) := by
  have nonempty : ∀ {d'}, d' ∈ dplls → ∀ key ∈ [ppsKey, eecKey], 0 < (T key).refs := by
    intro d' mem key either
    rw [shared.refs key either]
    exact List.length_pos_of_mem mem
  have regs : ∀ key ∈ [ppsKey, eecKey],
      (if (T key).refs = 0 then [] else (T key).regs) ++ [nsimReg d.addr] =
        (dplls ++ [d]).map fun d => nsimReg d.addr := by
    intro key either
    rw [List.map_append, shared.refs key either]
    split
    · rename_i zero
      rw [List.length_eq_zero_iff.1 zero]
      rfl
    · rename_i some
      rw [shared.regs key either fun none => some (none ▸ rfl)]
      rfl
  refine ⟨attached.table, ?_, ?_, ?_, ?_, ?_, ?_⟩
  · rintro key (_ | ⟨_, _ | ⟨_, _ | _⟩⟩)
    · rw [attach_pps, shared.refs ppsKey (by decide), List.length_append, List.length_singleton]
    · rw [attach_eec, shared.refs eecKey (by decide), List.length_append, List.length_singleton]
  · rintro key (_ | ⟨_, _ | ⟨_, _ | _⟩⟩) -
    · rw [attach_pps, regs ppsKey (by decide)]
    · rw [attach_eec, regs eecKey (by decide)]
  · intro d' mem
    rw [attach_pps]
    rcases List.mem_append.1 mem with old | new
    · rw [shared.pps d' old, ← attached.pps (nonempty old ppsKey (by decide))]
    · rw [List.mem_singleton.1 new]
  · intro d' mem
    rw [attach_eec]
    rcases List.mem_append.1 mem with old | new
    · rw [shared.eec d' old, ← attached.eec (nonempty old eecKey (by decide))]
    · rw [List.mem_singleton.1 new]
  · intro d' mem
    rcases List.mem_append.1 mem with old | new
    · exact (shared.below d' old).trans_le (attached.addr.trans (Nat.le_succ _))
    · rw [List.mem_singleton.1 new]
      exact Nat.lt_succ_self _
  · rw [List.map_append, List.nodup_append]
    refine ⟨shared.nodup, List.nodup_singleton _, ?_⟩
    intro addr old addr' new same
    obtain ⟨d', mem, rfl⟩ := List.mem_map.1 old
    rw [List.map_singleton, List.mem_singleton] at new
    exact (shared.below d' mem).not_ge ((same.trans new) ▸ attached.addr)

theorem erase_nsimReg (nodup : ((l₁ ++ d :: l₂).map NsimDpllDev.addr).Nodup) :
    ((l₁ ++ d :: l₂).map fun d => nsimReg d.addr).erase (nsimReg d.addr) =
      (l₁ ++ l₂).map fun d => nsimReg d.addr := by
  have other : nsimReg d.addr ∉ l₁.map fun d => nsimReg d.addr := by
    intro mem
    obtain ⟨d', mem, same⟩ := List.mem_map.1 mem
    rw [List.map_append, List.nodup_append] at nodup
    have addr : d'.addr = d.addr := congrArg DpllDeviceRegistration.priv same
    exact nodup.2.2 _ (List.mem_map_of_mem mem) _ List.mem_cons_self addr
  rw [List.map_append, List.erase_append_right _ other, List.map_cons, List.erase_cons_head,
    List.map_append]

/-- A DPLL that goes away takes its own registrations with it. -/
theorem Shared.detach (shared : Shared kernel (l₁ ++ d :: l₂) T bound)
    (rep : Represents kernel' (T.detach d.addr) bound) :
    Shared kernel' (l₁ ++ l₂) (T.detach d.addr) bound := by
  have mem : ∀ {d'}, d' ∈ l₁ ++ l₂ → d' ∈ l₁ ++ d :: l₂ := by
    intro d' mem
    rcases List.mem_append.1 mem with left | right
    · exact List.mem_append_left _ left
    · exact List.mem_append_right _ (List.mem_cons_of_mem _ right)
  have regs : ∀ key ∈ [ppsKey, eecKey], (T key).regs.erase (nsimReg d.addr) =
      (l₁ ++ l₂).map fun d => nsimReg d.addr := by
    intro key either
    rw [shared.regs key either (by simp), erase_nsimReg shared.nodup]
  have refs : ∀ key ∈ [ppsKey, eecKey], (T key).refs - 1 = (l₁ ++ l₂).length := by
    intro key either
    rw [shared.refs key either]
    simp
  refine ⟨rep, ?_, ?_, ?_, ?_, fun d' old => shared.below d' (mem old), ?_⟩
  · rintro key (_ | ⟨_, _ | ⟨_, _ | _⟩⟩)
    · rw [detach_pps, refs ppsKey (by decide)]
    · rw [detach_eec, refs eecKey (by decide)]
  · rintro key (_ | ⟨_, _ | ⟨_, _ | _⟩⟩) -
    · rw [detach_pps, regs ppsKey (by decide)]
    · rw [detach_eec, regs eecKey (by decide)]
  · intro d' old
    rw [detach_pps]
    exact shared.pps d' (mem old)
  · intro d' old
    rw [detach_eec]
    exact shared.eec d' (mem old)
  · have fewer := (List.Sublist.refl l₁).append (List.sublist_cons_self d l₂)
    exact (fewer.map _).nodup shared.nodup

/-- What happens to pins and what is not part of the core's devices does not matter. -/
theorem Shared.of_frame (shared : Shared kernel dplls T bound)
    (within : pinFrame.rel kernel kernel') : Shared kernel' dplls T bound :=
  ⟨shared.rep.of_frame within, shared.refs, shared.regs, shared.pps, shared.eec, shared.below,
    shared.nodup⟩

/-- What happens inside a DPLL does not matter. -/
theorem Shared.of_lock (shared : Shared kernel (l₁ ++ d :: l₂) T bound) (lock : NsimDpll) :
    Shared kernel (l₁ ++ { d with lock } :: l₂) T bound := by
  have mem : ∀ {P : NsimDpllDev → Prop}, (∀ d' ∈ l₁ ++ d :: l₂, P d') → P { d with lock } →
      ∀ d' ∈ l₁ ++ { d with lock } :: l₂, P d' := by
    intro P all own d' mem
    rcases List.mem_append.1 mem with left | right
    · exact all d' (List.mem_append_left _ left)
    · rcases List.mem_cons.1 right with rfl | right
      · exact own
      · exact all d' (List.mem_append_right _ (List.mem_cons_of_mem _ right))
  have here : d ∈ l₁ ++ d :: l₂ := List.mem_append_right _ List.mem_cons_self
  refine ⟨shared.rep, ?_, ?_, mem shared.pps (shared.pps d here), mem shared.eec (shared.eec d here),
    mem shared.below (shared.below d here), ?_⟩
  · intro key either
    rw [shared.refs key either]
    simp
  · intro key either _
    rw [shared.regs key either (by simp)]
    simp
  · have same := shared.nodup
    simp only [List.map_append, List.map_cons] at same ⊢
    exact same

end Shared

/-! ## What netlink reports -/

/-- `dpll_msg_add_lock_status`, which adds the status that the driver's callback returns. -/
def dpllMsgAddLockStatus (lockStatusGet : DpllDeviceOps → Ptr → KernelM DpllLockStatus)
    (dpll : Ptr) : KernelM DpllLockStatus := do
  let ops ← dpllDeviceOps dpll
  let priv ← dpllPriv dpll
  lockStatusGet ops priv

/-- `nsim_dpll_lock_status_get`, which reads the `struct nsim_dpll` at `priv`. -/
def nsimDpllLockStatusGet (dplls : List NsimDpllDev) (priv : Ptr) : KernelM DpllLockStatus :=
  match dplls.find? (·.addr = priv) with
  | some d => return d.lock.lockStatus
  | none => goWrong

/-- The call through the table of callbacks, of which this driver has one. -/
def callLockStatusGet (dplls : List NsimDpllDev) (ops : DpllDeviceOps) (priv : Ptr) :
    KernelM DpllLockStatus :=
  if ops = nsimDpllDeviceOps then nsimDpllLockStatusGet dplls priv else goWrong

/-- The lock status that netlink reports of a device. -/
def netlinkLockStatus (kernel : KernelState) (dplls : List NsimDpllDev) (dpll : Ptr) :
    Option DpllLockStatus :=
  match (dpllMsgAddLockStatus (callLockStatusGet dplls) dpll).exec kernel with
  | some (.ok status, _) => some status
  | _ => none

section Netlink

variable {kernel : KernelState} {dplls : List NsimDpllDev} {T : DeviceTable} {bound dpll : Ptr}
  {first : NsimDpllDev}

theorem exec_dpllDeviceRegistrationFirst {d : DpllDevice} {reg : DpllDeviceRegistration}
    {rest : List DpllDeviceRegistration} (live : kernel.device dpll = some d)
    (regs : d.registrationList = reg :: rest) :
    (dpllDeviceRegistrationFirst dpll).exec kernel = some (.ok reg, kernel) := by
  have deref : (derefDevice dpll).exec kernel = some (.ok d, kernel) := by
    unfold derefDevice
    rw [exec_bind, show (get : KernelM KernelState).exec kernel = some (.ok kernel, kernel) from rfl]
    dsimp only
    rw [live]
    rfl
  unfold dpllDeviceRegistrationFirst
  rw [exec_bind, deref]
  dsimp only
  rw [regs]
  rfl

theorem netlinkLockStatus_of_first {d : DpllDevice} {rest : List DpllDeviceRegistration}
    (live : kernel.device dpll = some d) (regs : d.registrationList = nsimReg first.addr :: rest)
    (found : dplls.find? (·.addr = first.addr) = some first) :
    netlinkLockStatus kernel dplls dpll = some first.lock.lockStatus := by
  have reg := exec_dpllDeviceRegistrationFirst live regs
  have run : (dpllMsgAddLockStatus (callLockStatusGet dplls) dpll).exec kernel =
      some (.ok first.lock.lockStatus, kernel) := by
    unfold dpllMsgAddLockStatus dpllDeviceOps dpllPriv
    rw [exec_bind, exec_bind, reg]
    show (_ >>= _ : KernelM _).exec kernel = _
    rw [exec_bind, exec_bind, reg]
    show (callLockStatusGet dplls nsimDpllDeviceOps first.addr).exec kernel = _
    unfold callLockStatusGet nsimDpllLockStatusGet
    rw [if_pos rfl, found]
    rfl
  unfold netlinkLockStatus
  rw [run]

/-- Netlink reports of both devices what the DPLL that registered first has. -/
theorem netlinkLockStatus_shared {rest : List NsimDpllDev}
    (shared : Shared kernel (first :: rest) T bound) (key : DpllKey)
    (either : key ∈ [ppsKey, eecKey]) :
    netlinkLockStatus kernel (first :: rest) (T key).addr = some first.lock.lockStatus := by
  have positive : 0 < (T key).refs := by
    rw [shared.refs key either]
    exact Nat.succ_pos _
  obtain ⟨e, -, addr, -, d, live, -, -, regs⟩ := shared.rep.present key positive
  rw [addr] at live
  rw [shared.regs key either (List.cons_ne_nil _ _)] at regs
  exact netlinkLockStatus_of_first live regs (List.find?_cons_of_pos (by simp))

end Netlink

/-! ## Devices that come and go -/

/-- All devices with WPC, in the order in which they were created, and the kernel they are in. -/
structure WpcSystem where
  kernel : KernelState
  live : List NsimDev

def WpcSystem.dplls (s : WpcSystem) : List NsimDpllDev := s.live.filterMap NsimDev.dpll

/-- What happens to the devices: one is created, the `i`th is deleted, or something happens to the
DPLL of the `i`th. -/
inductive WpcOp where
  | create (busDev : NsimBusDev) (now : ℕ)
  | delete (i : ℕ)
  | lock (i : ℕ) (t : Instant) (event : DpllEvent)

/-- The kernel before an operation whose calls that may fail do so as `faults` says. -/
def KernelState.withFaults (kernel : KernelState) (faults : List (Option Errno)) : KernelState :=
  { kernel with faults }

/-- What the kernel does when something happens to a DPLL: only the queued work has to do with
it. -/
def onDpllEvent (d : NsimDpllDev) : DpllEvent → KernelM Unit
  | .ntfWork => nsimDpllNtfWork d
  | _ => pure ()

/-- One step. -/
def WpcStep (s : WpcSystem) (faults : List (Option Errno)) (t : WpcSystem) : WpcOp → Prop
  | .create busDev now => busDev.wpc = true ∧ ∃ result w,
      (nsimDrvProbe now).exec ⟨s.kernel.withFaults faults, .blank busDev⟩ = some (result, w) ∧
        t = ⟨w.kernel, match result with
          | .ok _ => s.live ++ [w.dev]
          | .error _ => s.live⟩
  | .delete i => ∃ l₁ dev l₂ result w, s.live = l₁ ++ dev :: l₂ ∧ l₁.length = i ∧
      nsimDrvRemove.exec ⟨s.kernel.withFaults faults, dev⟩ = some (result, w) ∧
        t = ⟨w.kernel, l₁ ++ l₂⟩
  | .lock i instant event => ∃ l₁ dev l₂ d lock result kernel, s.live = l₁ ++ dev :: l₂ ∧
      l₁.length = i ∧ dev.dpll = some d ∧ DpllStep d.lock instant lock event ∧
        (onDpllEvent d event).exec (s.kernel.withFaults faults) = some (result, kernel) ∧
          t = ⟨kernel, l₁ ++ { dev with dpll := some { d with lock } } :: l₂⟩

/-- The runs from a core without devices. -/
def wpcSystem : TransitionSystem WpcSystem (List (Option Errno) × WpcOp) where
  init s := s.live = [] ∧ s.kernel.device = (fun _ => none) ∧ s.kernel.deviceXa = .empty
  step s a t := WpcStep s a.1 t a.2

/-- What holds of every reachable state. -/
structure WpcInvariant (s : WpcSystem) : Prop where
  up : ∀ dev ∈ s.live, dev.reloadFailed = false ∧ dev.dpll.isSome
  shared : ∃ T bound, Shared s.kernel s.dplls T bound

section Invariant

variable {s t : WpcSystem} {faults : List (Option Errno)}

theorem wpcInvariant_init (init : wpcSystem.init s) : WpcInvariant s := by
  obtain ⟨live, device, deviceXa⟩ := init
  have none : s.dplls = [] := by rw [WpcSystem.dplls, live, List.filterMap_nil]
  refine ⟨?_, fun _ => ⟨0, 0, []⟩, 0, ?_⟩
  · rw [live]
    exact fun dev mem => absurd mem List.not_mem_nil
  · rw [none]
    refine ⟨⟨?_, ?_, ?_, Nat.zero_le _⟩, fun _ _ => rfl, fun _ _ empty => absurd rfl empty, ?_, ?_,
      ?_, List.nodup_nil⟩
    · rw [deviceXa]
      exact fun e mem => absurd mem List.not_mem_nil
    · exact fun key positive => absurd positive (lt_irrefl 0)
    · intro p d some
      rw [device] at some
      cases some
    all_goals exact fun d mem => absurd mem List.not_mem_nil

theorem pinFrame_faults (kernel : KernelState) (faults : List (Option Errno)) :
    pinFrame.rel kernel (kernel.withFaults faults) := ⟨fun _ => rfl, rfl, le_rfl⟩

theorem pinStable_represents (T : DeviceTable) (bound : Ptr) :
    PinStable fun k => Represents k T bound := fun _ _ within rep => rep.of_frame within

/-- Creating a device adds a DPLL that has just started, or nothing. -/
theorem create_cases {busDev : NsimBusDev} {now : ℕ} {T : DeviceTable} {bound : Ptr}
    (shared : Shared s.kernel s.dplls T bound) (step : WpcStep s faults t (.create busDev now)) :
    (Represents t.kernel T bound ∧ t.live = s.live) ∨
      ∃ dev d ports, t.live = s.live ++ [dev] ∧ dev.dpll = some d ∧ dev.reloadFailed = false ∧
        Attached T bound now ports d t.kernel := by
  obtain ⟨wpc, result, w, run, rfl⟩ := step
  have known := shared.rep.of_frame (pinFrame_faults s.kernel faults)
  have spec := wp_nsimDrvProbe (w := ⟨s.kernel.withFaults faults, .blank busDev⟩)
    (pinStable_represents T bound)
    (fun ports k rep => wp_nsimDpllInit (s := k) rep now ports) rfl known
  cases result with
  | error e => exact .inl ⟨(exec_error_of_wp spec run).2, rfl⟩
  | ok _ =>
    obtain ⟨ports, dpll, probed⟩ := exec_ok_of_wp spec run
    obtain ⟨d, rfl, attached⟩ := probed.wpc wpc
    refine .inr ⟨w.dev, d, ports, rfl, ?_, ?_, attached⟩
    · rw [probed.dev]
      rfl
    · rw [probed.dev]
      rfl

theorem wpcInvariant_create {busDev : NsimBusDev} {now : ℕ} (inv : WpcInvariant s)
    (step : WpcStep s faults t (.create busDev now)) : WpcInvariant t := by
  obtain ⟨up, T, bound, shared⟩ := inv
  rcases create_cases shared step with ⟨rep, live⟩ | ⟨dev, d, ports, live, has, running, attached⟩
  · have dplls : t.dplls = s.dplls := congrArg (List.filterMap NsimDev.dpll) live
    refine ⟨live ▸ up, T, bound, ?_⟩
    rw [dplls]
    exact ⟨rep, shared.refs, shared.regs, shared.pps, shared.eec, shared.below, shared.nodup⟩
  · refine ⟨?_, T.attach d.addr d.ppsDpll d.eecDpll, d.addr + 1, ?_⟩
    · intro other mem
      rw [live] at mem
      rcases List.mem_append.1 mem with old | new
      · exact up other old
      · rw [List.mem_singleton.1 new]
        exact ⟨running, Option.isSome_iff_exists.2 ⟨d, has⟩⟩
    · rw [WpcSystem.dplls, live, List.filterMap_append, List.filterMap_cons_some has]
      exact shared.attach attached

theorem wpcInvariant_delete {i : ℕ} (inv : WpcInvariant s)
    (step : WpcStep s faults t (.delete i)) : WpcInvariant t := by
  obtain ⟨up, T, bound, shared⟩ := inv
  obtain ⟨l₁, dev, l₂, result, w, live, -, run, rfl⟩ := step
  have known := shared.of_frame (pinFrame_faults s.kernel faults)
  obtain ⟨running, isSome⟩ := up dev (live ▸ List.mem_append_right _ List.mem_cons_self)
  obtain ⟨d, has⟩ := Option.isSome_iff_exists.1 isSome
  have dplls : s.dplls = l₁.filterMap NsimDev.dpll ++ d :: l₂.filterMap NsimDev.dpll := by
    rw [WpcSystem.dplls, live, List.filterMap_append, List.filterMap_cons_some has]
  rw [dplls] at known
  have mem : d ∈ l₁.filterMap NsimDev.dpll ++ d :: l₂.filterMap NsimDev.dpll :=
    List.mem_append_right _ List.mem_cons_self
  have positive : ∀ key ∈ [ppsKey, eecKey], 0 < (T key).refs := by
    intro key either
    rw [known.refs key either]
    exact List.length_pos_of_mem mem
  have exit : ∀ d' k, dev.dpll = some d' → Represents k T bound →
      wp (nsimDpllExit d') (fun _ k => Represents k (T.detach d.addr) bound) (fun _ _ => True) k := by
    intro d' k same rep
    rw [has] at same
    cases same
    exact wp_nsimDpllExit rep ⟨positive ppsKey (by decide), known.pps d mem⟩
      ⟨positive eecKey (by decide), known.eec d mem⟩
  have spec : wp nsimDrvRemove (fun _ t => Represents t.kernel (T.detach d.addr) bound)
      (fun _ t => Represents t.kernel (T.detach d.addr) bound)
      ⟨s.kernel.withFaults faults, dev⟩ := by
    unfold nsimDrvRemove
    rw [wp_bind]
    apply wp_mono (wp_nsimDevReloadDestroy (pinStable_represents T bound)
      (pinStable_represents _ bound) running known.rep exit
      fun gone => absurd (has.symm.trans gone) (Option.some_ne_none d)) _ fun _ _ => id
    exact fun _ t after => after.1
  have rep := holds_of_wp (I := fun t => Represents t.kernel (T.detach d.addr) bound) spec run
  refine ⟨?_, T.detach d.addr, bound, ?_⟩
  · intro other mem
    apply up other
    rw [live]
    rcases List.mem_append.1 mem with left | right
    · exact List.mem_append_left _ left
    · exact List.mem_append_right _ (List.mem_cons_of_mem _ right)
  · unfold WpcSystem.dplls
    rw [List.filterMap_append]
    exact known.detach rep

theorem wpcInvariant_lock {i : ℕ} {instant : Instant} {event : DpllEvent} (inv : WpcInvariant s)
    (step : WpcStep s faults t (.lock i instant event)) : WpcInvariant t := by
  obtain ⟨up, T, bound, shared⟩ := inv
  obtain ⟨l₁, dev, l₂, d, lock, result, kernel, live, -, some, -, run, rfl⟩ := step
  have quiet : Keeps pinFrame (onDpllEvent d event) := by
    cases event with
    | ntfWork => exact keeps_nsimDpllNtfWork d
    | _ => exact keeps_pure ()
  have within := holds_of_wp (I := pinFrame.rel (s.kernel.withFaults faults)) (quiet _) run
  have known := (shared.of_frame (pinFrame_faults s.kernel faults)).of_frame within
  have dplls : s.dplls = l₁.filterMap NsimDev.dpll ++ d :: l₂.filterMap NsimDev.dpll := by
    rw [WpcSystem.dplls, live, List.filterMap_append, List.filterMap_cons_some some]
  refine ⟨?_, T, bound, ?_⟩
  · intro other mem
    rcases List.mem_append.1 mem with left | right
    · exact up other (live ▸ List.mem_append_left _ left)
    · rcases List.mem_cons.1 right with rfl | right
      · exact ⟨(up dev (live ▸ List.mem_append_right _ List.mem_cons_self)).1, rfl⟩
      · exact up other (live ▸ List.mem_append_right _ (List.mem_cons_of_mem _ right))
  · unfold WpcSystem.dplls
    rw [List.filterMap_append]
    rw [dplls] at known
    exact known.of_lock lock

theorem wpcInvariant_reachable (run : wpcSystem.Reachable s) : WpcInvariant s := by
  refine TransitionSystem.Reachable.induct (fun s => wpcInvariant_init) ?_ run
  rintro s ⟨faults, op⟩ t - inv step
  cases op with
  | create busDev now => exact wpcInvariant_create inv step
  | delete i => exact wpcInvariant_delete inv step
  | lock i instant event => exact wpcInvariant_lock inv step

end Invariant

/-! ## Agreement -/

/-- Netlink reports of both devices of every live DPLL what its sysfs attribute shows. -/
def Agree (s : WpcSystem) : Prop :=
  ∀ d ∈ s.dplls, netlinkLockStatus s.kernel s.dplls d.ppsDpll = some d.lock.lockStatus ∧
    netlinkLockStatus s.kernel s.dplls d.eecDpll = some d.lock.lockStatus

/-- All live DPLLs show the same. -/
def SameStatus (s : WpcSystem) : Prop :=
  ∀ d ∈ s.dplls, ∀ d' ∈ s.dplls, d.lock.lockStatus = d'.lock.lockStatus

theorem agree_iff_sameStatus {s : WpcSystem} (inv : WpcInvariant s) : Agree s ↔ SameStatus s := by
  obtain ⟨-, T, bound, shared⟩ := inv
  unfold Agree SameStatus
  cases dplls : s.dplls with
  | nil =>
    apply iff_of_true
    · exact fun d mem => absurd mem List.not_mem_nil
    · exact fun d mem => absurd mem List.not_mem_nil
  | cons first rest =>
    rw [dplls] at shared
    have pps := netlinkLockStatus_shared shared ppsKey (by decide)
    have eec := netlinkLockStatus_shared shared eecKey (by decide)
    constructor
    · intro agree
      have same : ∀ d ∈ first :: rest, first.lock.lockStatus = d.lock.lockStatus := by
        intro d mem
        have own := (agree d mem).1
        rw [shared.pps d mem, pps] at own
        exact Option.some.inj own
      exact fun d mem d' mem' => (same d mem).symm.trans (same d' mem')
    · intro same d mem
      rw [shared.pps d mem, shared.eec d mem, pps, eec, same first List.mem_cons_self d mem]
      exact ⟨rfl, rfl⟩

/-- The step does not make live DPLLs show different things: a device is created only while all
show that they are locked, as a new one does, and only the DPLL of a lone device changes what it
shows. -/
def KeepsAgreement (s : WpcSystem) (a : List (Option Errno) × WpcOp) : Prop :=
  match a.2 with
  | .create _ _ => ∀ d ∈ s.dplls, d.lock.lockStatus = .LOCKED_HO_ACQ
  | .delete _ => True
  | .lock i instant event => s.live.length = 1 ∨ ∀ dev d lock, s.live[i]? = some dev →
      dev.dpll = some d → DpllStep d.lock instant lock event → lock.lockStatus = d.lock.lockStatus

theorem sameStatus_create {s t : WpcSystem} {faults : List (Option Errno)} {busDev : NsimBusDev}
    {now : ℕ} (inv : WpcInvariant s) (same : SameStatus s)
    (step : WpcStep s faults t (.create busDev now))
    (locked : ∀ d ∈ s.dplls, d.lock.lockStatus = .LOCKED_HO_ACQ) : SameStatus t := by
  obtain ⟨-, T, bound, shared⟩ := inv
  rcases create_cases shared step with ⟨-, live⟩ | ⟨dev, d, ports, live, has, -, attached⟩
  · have dplls : t.dplls = s.dplls := congrArg (List.filterMap NsimDev.dpll) live
    unfold SameStatus
    rw [dplls]
    exact same
  · have all : ∀ d' ∈ t.dplls, d'.lock.lockStatus = .LOCKED_HO_ACQ := by
      intro d' mem
      rw [WpcSystem.dplls, live, List.filterMap_append, List.filterMap_cons_some has] at mem
      rcases List.mem_append.1 mem with old | new
      · exact locked d' old
      · rw [List.mem_singleton.1 new, attached.lock]
        rfl
    exact fun d' mem d'' mem' => (all d' mem).trans (all d'' mem').symm

theorem sameStatus_lock {s t : WpcSystem} {faults : List (Option Errno)} {i : ℕ}
    {instant : Instant} {event : DpllEvent} (same : SameStatus s)
    (step : WpcStep s faults t (.lock i instant event))
    (agrees : KeepsAgreement s (faults, .lock i instant event)) : SameStatus t := by
  obtain ⟨l₁, dev, l₂, d, lock, result, kernel, live, index, has, changed, -, rfl⟩ := step
  have dplls : s.dplls = l₁.filterMap NsimDev.dpll ++ d :: l₂.filterMap NsimDev.dpll := by
    rw [WpcSystem.dplls, live, List.filterMap_append, List.filterMap_cons_some has]
  unfold SameStatus WpcSystem.dplls
  rw [List.filterMap_append]
  show ∀ a ∈ _ ++ { d with lock } :: l₂.filterMap NsimDev.dpll, ∀ b ∈ _ ++ { d with lock } :: _, _
  rcases agrees with lone | keeps
  · rw [live, List.length_append, List.length_cons] at lone
    have none₁ : l₁ = [] := List.length_eq_zero_iff.1 (by omega)
    have none₂ : l₂ = [] := List.length_eq_zero_iff.1 (by omega)
    rw [none₁, none₂]
    intro a memA b memB
    rw [List.mem_singleton.1 memA, List.mem_singleton.1 memB]
  · have there : s.live[i]? = some dev := by
      rw [live, ← index, List.getElem?_append_right le_rfl, Nat.sub_self]
      rfl
    have kept := keeps dev d lock there has changed
    have status : ∀ a ∈ l₁.filterMap NsimDev.dpll ++ { d with lock } :: l₂.filterMap NsimDev.dpll,
        ∃ a' ∈ s.dplls, a.lock.lockStatus = a'.lock.lockStatus := by
      intro a mem
      rw [dplls]
      rcases List.mem_append.1 mem with left | right
      · exact ⟨a, List.mem_append_left _ left, rfl⟩
      · rcases List.mem_cons.1 right with rfl | right
        · exact ⟨d, List.mem_append_right _ List.mem_cons_self, kept⟩
        · exact ⟨a, List.mem_append_right _ (List.mem_cons_of_mem _ right), rfl⟩
    intro a memA b memB
    obtain ⟨a', memA', sameA⟩ := status a memA
    obtain ⟨b', memB', sameB⟩ := status b memB
    exact sameA.trans ((same a' memA' b' memB').trans sameB.symm)

theorem sameStatus_step {s t : WpcSystem} {a : List (Option Errno) × WpcOp} (inv : WpcInvariant s)
    (same : SameStatus s) (step : wpcSystem.step s a t) (agrees : KeepsAgreement s a) :
    SameStatus t := by
  obtain ⟨faults, op⟩ := a
  cases op with
  | create busDev now => exact sameStatus_create inv same step agrees
  | delete i =>
    obtain ⟨l₁, dev, l₂, result, w, live, -, -, rfl⟩ := step
    have fewer : (l₁ ++ l₂).Sublist s.live :=
      live ▸ (List.Sublist.refl l₁).append (List.sublist_cons_self dev l₂)
    have mem := fun d => (fewer.filterMap NsimDev.dpll).mem (a := d)
    exact fun d memD d' memD' => same d (mem d memD) d' (mem d' memD')
  | lock i instant event => exact sameStatus_lock same step agrees

/-- Sysfs and netlink agree in every run in which no step makes two live DPLLs show different
things, and at any reachable state exactly if all live DPLLs show the same. -/
theorem netlink_agrees_with_sysfs (s : WpcSystem) :
    ((wpcSystem.guard KeepsAgreement).Reachable s → Agree s) ∧
      (wpcSystem.Reachable s → (Agree s ↔ SameStatus s)) := by
  have exact : wpcSystem.Reachable s → (Agree s ↔ SameStatus s) :=
    fun run => agree_iff_sameStatus (wpcInvariant_reachable run)
  refine ⟨?_, exact⟩
  intro run
  apply (exact run.of_guard).2
  refine TransitionSystem.Reachable.induct ?_ ?_ run
  · rintro s ⟨live, -, -⟩ d mem
    rw [WpcSystem.dplls, live] at mem
    exact absurd mem List.not_mem_nil
  · rintro s a t reached same ⟨step, agrees⟩
    exact sameStatus_step (wpcInvariant_reachable reached.of_guard) same step agrees

/-- A device with WPC and one port. -/
def wpcBusDev : NsimBusDev := ⟨1, 1, true, 0, 0⟩

/-- The DPLL is locked, and is in holdover after a write of `holdover` to its attribute. -/
def canHoldOver (d : NsimDpllDev) : Bool :=
  d.lock.lockStatus = .LOCKED_HO_ACQ ∧
    (nsimDpllLockStatusStore d.lock 0 (ascii "holdover")).1.lockStatus = .HOLDOVER

/-- The label of that write to the `i`th device. -/
def writeHoldover (i : ℕ) : List (Option Errno) × WpcOp :=
  ([], .lock i ⟨0, ⟨0, 0⟩⟩ (.sysfsWrite (ascii "holdover")))

/-- A lone device in holdover. -/
theorem netlink_agrees_with_sysfs_alone : ∃ s, (wpcSystem.guard KeepsAgreement).Reachable s ∧
    s.dplls.map (·.lock.lockStatus) = [.HOLDOVER] ∧ Agree s := by
  have runs : (nsimDrvProbe 0).passes (fun w => w.dev.dpll.any canHoldOver)
      ⟨KernelState.loaded.withFaults [], .blank wpcBusDev⟩ := by
    decide +kernel
  obtain ⟨_, w, probed, ok⟩ := exists_of_passes runs
  obtain ⟨d, has, ok⟩ := (Option.any_eq_true ..).1 ok
  obtain ⟨-, holds⟩ := of_decide_eq_true ok
  have start : (wpcSystem.guard KeepsAgreement).Reachable ⟨.loaded, []⟩ := .init ⟨rfl, rfl, rfl⟩
  have created : (wpcSystem.guard KeepsAgreement).Reachable ⟨w.kernel, [w.dev]⟩ := by
    apply start.step (a := ([], .create wpcBusDev 0))
    exact ⟨⟨rfl, .ok (), w, probed, rfl⟩, fun d mem => absurd mem List.not_mem_nil⟩
  have written : (wpcSystem.guard KeepsAgreement).Reachable ⟨w.kernel.withFaults [], [{ w.dev with
      dpll := some { d with lock := (nsimDpllLockStatusStore d.lock 0 (ascii "holdover")).1 } }]⟩ := by
    apply created.step (a := writeHoldover 0)
    exact ⟨⟨[], w.dev, [], d, _, .ok (), _, rfl, rfl, has, rfl, rfl, rfl⟩, .inl rfl⟩
  exact ⟨_, written, congrArg (fun status => [status]) holds, (netlink_agrees_with_sysfs _).1 written⟩

/-- The second device goes into holdover, and netlink goes on to report the status of the first. -/
theorem netlink_reports_the_first_device : ¬ ∀ s, wpcSystem.Reachable s → Agree s := by
  have runs : (nsimDrvProbe 0).passes (fun w => w.dev.dpll.any canHoldOver ∧
      (nsimDrvProbe 0).passes (fun w => w.dev.dpll.any canHoldOver)
        ⟨w.kernel.withFaults [], .blank wpcBusDev⟩)
      ⟨KernelState.loaded.withFaults [], .blank wpcBusDev⟩ := by
    decide +kernel
  obtain ⟨_, w, probed, ok⟩ := exists_of_passes runs
  obtain ⟨ok, runs'⟩ := of_decide_eq_true ok
  obtain ⟨_, w', probed', ok'⟩ := exists_of_passes runs'
  obtain ⟨d, has, ok⟩ := (Option.any_eq_true ..).1 ok
  obtain ⟨d', has', ok'⟩ := (Option.any_eq_true ..).1 ok'
  obtain ⟨locked, -⟩ := of_decide_eq_true ok
  obtain ⟨-, holds⟩ := of_decide_eq_true ok'
  have start : wpcSystem.Reachable ⟨.loaded, []⟩ := .init ⟨rfl, rfl, rfl⟩
  have first : wpcSystem.Reachable ⟨w.kernel, [w.dev]⟩ := by
    apply start.step (a := ([], .create wpcBusDev 0))
    exact ⟨rfl, .ok (), w, probed, rfl⟩
  have second : wpcSystem.Reachable ⟨w'.kernel, [w.dev, w'.dev]⟩ := by
    apply first.step (a := ([], .create wpcBusDev 0))
    exact ⟨rfl, .ok (), w', probed', rfl⟩
  have written : wpcSystem.Reachable ⟨w'.kernel.withFaults [], [w.dev, { w'.dev with
      dpll := some { d' with lock := (nsimDpllLockStatusStore d'.lock 0 (ascii "holdover")).1 } }]⟩ := by
    apply second.step (a := writeHoldover 1)
    exact ⟨[w.dev], w'.dev, [], d', _, .ok (), _, rfl, rfl, has', rfl, rfl, rfl⟩
  intro always
  have same := (agree_iff_sameStatus (wpcInvariant_reachable written)).1 (always _ written)
  have differ := same d (by simp [WpcSystem.dplls, has]) _
    (by simp only [WpcSystem.dplls, has, List.filterMap_cons]; exact .tail _ (.head _))
  rw [locked, holds] at differ
  cases differ

end Netdevsim
