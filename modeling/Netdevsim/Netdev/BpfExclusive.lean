import Netdevsim.Netdev.BpfOffload

/-!
# Classifiers, XDP programs, the MTU and the features of a port

The offload of a port is shared by TC and XDP, and each side only knows its own programs.  What is
offloaded also limits the other settings of the port: with a program in the driver the MTU is at
most `NSIM_XDP_MAX_MTU`, and hardware TC cannot be turned off under an offloaded classifier.  The
checks for this stand in different operations, each with its own view of the state.  Over all runs
they keep the two sides apart (`bpf_offload_exclusive`), so that a port that is taken down gives its
programs up, unless a file turned down the side that has to take them back (`bpf_taken_down`).
-/

namespace Netdevsim

/-! ## The MTU, the features and the end of a port -/

/-- `nsim_change_mtu`. -/
def nsimChangeMtu (ns : NsimBpfPort) (newMtu : Int32) : Except Errno NsimBpfPort :=
  if ns.xdpProg.isSome ∧ (NSIM_XDP_MAX_MTU : ℤ) < newMtu.toInt then .error .EBUSY
  else .ok { ns with mtu := newMtu.toUInt32 }

/-- `nsim_bpf_disable_tc`. -/
def nsimBpfDisableTc (ns : NsimBpfPort) : Except Errno Unit :=
  if ns.bpfOffloaded.isSome ∧ ¬nsimXdpOffloadActive ns then .error .EBUSY else .ok ()

/-- `nsim_set_features`, for `NETIF_F_HW_TC` as it is and as it shall be. -/
def nsimSetFeatures (ns : NsimBpfPort) (hwTc features : Bool) : Except Errno Unit :=
  if hwTc ∧ ¬features then nsimBpfDisableTc ns else .ok ()

/-- `nsim_bpf_uninit`: which of its three warnings are given. -/
def nsimBpfUninit (ns : NsimBpfPort) : Bool × Bool × Bool :=
  (ns.xdpProg.isSome, ns.xdpHwProg.isSome, ns.bpfOffloaded.isSome)

/-! ## Requests to the ports of a device -/

/-- A device, and the ports on which hardware TC is on. -/
structure BpfWorld (ι : Type) where
  dev : NsimBpfDev ι
  hwTc : ι → Bool

/-- What a port may be asked for. -/
inductive BpfOp (ι : Type) where
  | tc (i : ι) (clsBpf : TcClsBpfOffload)
  | xdp (i : ι) (bpf : NetdevBpf)
  | changeMtu (i : ι) (newMtu : Int32)
  | setFeatures (i : ι) (hwTc : Bool)
  | switches (i : ι) (tcAccept tcNonBoundAccept xdpdrvAccept xdpoffloadAccept : Bool)

section World

variable {ι : Type} [DecidableEq ι] (progs : ℕ → BpfProg)

/-- The port that is asked. -/
def BpfOp.port : BpfOp ι → ι
  | .tc i _ | .xdp i _ | .changeMtu i _ | .setFeatures i _ | .switches i .. => i

def NsimBpfDev.setPort (dev : NsimBpfDev ι) (i : ι) (ns : NsimBpfPort) : NsimBpfDev ι :=
  { dev with ports := Function.update dev.ports i ns }

/-- The world after a request, and whether the driver warned of a bad offload state. -/
def BpfWorld.step (w : BpfWorld ι) : BpfOp ι → BpfWorld ι × Bool
  | .tc i clsBpf =>
    match nsimBpfSetupTcBlockCb progs w.dev i clsBpf with
    | .error _ => (w, false)
    | .ok (dev, warned) => ({ w with dev }, warned)
  | .xdp i bpf =>
    match nsimBpf progs w.dev i bpf with
    | .error _ => (w, false)
    | .ok (dev, warned) => ({ w with dev }, warned)
  | .changeMtu i newMtu =>
    match nsimChangeMtu (w.dev.ports i) newMtu with
    | .error _ => (w, false)
    | .ok ns => ({ w with dev := w.dev.setPort i ns }, false)
  | .setFeatures i hwTc =>
    match nsimSetFeatures (w.dev.ports i) (w.hwTc i) hwTc with
    | .error _ => (w, false)
    | .ok () => ({ w with hwTc := Function.update w.hwTc i hwTc }, false)
  | .switches i bpfTcAccept bpfTcNonBoundAccept bpfXdpdrvAccept bpfXdpoffloadAccept =>
    ({ w with dev := w.dev.setPort i { w.dev.ports i with
        bpfTcAccept, bpfTcNonBoundAccept, bpfXdpdrvAccept, bpfXdpoffloadAccept } }, false)

/-- What the core keeps to: classifiers come through TC and only where hardware TC is on, the
programs of XDP are no classifiers, and no MTU is negative. -/
def FromCore (classifier : ℕ → Bool) (w : BpfWorld ι) : BpfOp ι → Prop
  | .tc i clsBpf => (clsBpf.canOffload = true → w.hwTc i = true) ∧
      (∀ p, clsBpf.prog = some p → classifier p = true) ∧
      ∀ p, clsBpf.oldprog = some p → classifier p = true
  | .xdp _ bpf => ∀ p, bpf.prog = some p → classifier p = false
  | .changeMtu _ newMtu => 0 ≤ newMtu.toInt
  | .setFeatures .. | .switches .. => True

/-- All runs of requests to a device on which nothing is loaded. -/
def bpfWorldSystem : TransitionSystem (BpfWorld ι) (BpfOp ι) where
  init w := ∀ i, (w.dev.ports i).bpfOffloaded = none ∧ (w.dev.ports i).bpfOffloadedId = 0 ∧
    (w.dev.ports i).xdpProg = none ∧ (w.dev.ports i).xdpHwProg = none
  step w op w' := (w.step progs op).1 = w'

/-! ## What the checks let through -/

section Checks

variable {progs} {ns : NsimBpfPort} {prog : Option ℕ} {oldprog : Bool}

theorem of_nsimBpfTcChecks {clsBpf : TcClsBpfOffload}
    (checks : nsimBpfTcChecks progs ns clsBpf = .ok (some (prog, oldprog))) :
    clsBpf.canOffload = true ∧ prog = clsBpf.prog ∧ oldprog = ns.bpfOffloaded.isSome ∧
      (ns.bpfOffloaded = none ∨ ns.bpfOffloaded = clsBpf.oldprog) := by
  unfold nsimBpfTcChecks at checks
  split_ifs at checks with _ can _ _ _ _ other _ used
  · cases checks
  · obtain ⟨rfl, rfl⟩ := Prod.mk.inj (Option.some.inj (Except.ok.inj checks))
    have unused : ns.bpfOffloaded = none := by simpa using used
    exact ⟨by simpa using can, rfl, by simp [unused], .inl unused⟩
  · obtain ⟨rfl, rfl⟩ := Prod.mk.inj (Option.some.inj (Except.ok.inj checks))
    have same : ns.bpfOffloaded = clsBpf.oldprog := by simpa using other
    exact ⟨by simpa using can, rfl, by rw [same], .inr same⟩

theorem of_nsimSetupProgHwChecks {bpf : NetdevBpf}
    (checks : nsimSetupProgHwChecks progs bpf = .ok ()) {p : ℕ} (here : bpf.prog = some p) :
    bpfProgIsOffloaded (progs p) = true ∧ (progs p).xlated = true := by
  unfold nsimSetupProgHwChecks at checks
  rw [here] at checks
  simp only at checks
  split_ifs at checks with bound xlated
  exact ⟨by simpa using bound, by simpa using xlated⟩

theorem of_nsimSetupProgChecks {bpf : NetdevBpf}
    (checks : nsimSetupProgChecks progs ns bpf = .ok ()) :
    (∀ p, bpf.prog = some p → (progs p).offload = false) ∧ ns.mtu.toNat ≤ NSIM_XDP_MAX_MTU := by
  unfold nsimSetupProgChecks at checks
  split_ifs at checks with bound large
  refine ⟨fun p here => ?_, by omega⟩
  simpa [here] using bound

/-- The checks of XDP in the driver. -/
theorem nsimXdpChecks_drv {bpf : NetdevBpf} (drv : bpf.hw = false)
    {load : Option (Option ℕ × Bool)} (checks : nsimXdpChecks progs ns bpf = .ok load) :
    load = none ∧ nsimSetupProgChecks progs ns bpf = .ok () := by
  unfold nsimXdpChecks at checks
  simp only [drv, Bool.false_eq_true, ↓reduceIte, not_false_eq_true, true_and, false_and] at checks
  cases first : nsimSetupProgChecks progs ns bpf with
  | error e => simp [first] at checks
  | ok _ =>
    rw [first] at checks
    simp only at checks
    split_ifs at checks
    exact ⟨(Except.ok.inj checks).symm, rfl⟩

theorem of_nsimXdpOffloadChecks {bpf : NetdevBpf} {load : Option (Option ℕ × Bool)}
    (checks : nsimXdpOffloadChecks ns bpf = .ok load) :
    load = none ∧ ns.xdpHwProg = none ∧ bpf.prog = none ∨
      load = some (bpf.prog, ns.xdpHwProg.isSome) ∧
        (ns.xdpHwProg = none → ns.bpfOffloaded = none) := by
  unfold nsimXdpOffloadChecks nsimXdpOffloadActive at checks
  split_ifs at checks with nothing busy
  · have inactive : ns.xdpHwProg = none := by simpa using nothing.1
    exact .inl ⟨(Except.ok.inj checks).symm, inactive, nothing.2⟩
  · refine .inr ⟨(Except.ok.inj checks).symm, fun inactive => ?_⟩
    -- without a program to attach there was nothing to do, so there is one
    by_contra used
    have program : bpf.prog ≠ none := fun none => nothing ⟨by simp [inactive], none⟩
    exact busy ⟨by simp [inactive], Option.isSome_iff_ne_none.2 program,
      Option.isSome_iff_ne_none.2 used⟩

/-- The checks of offloaded XDP. -/
theorem nsimXdpChecks_hw {bpf : NetdevBpf} (hw : bpf.hw = true)
    {load : Option (Option ℕ × Bool)} (checks : nsimXdpChecks progs ns bpf = .ok load) :
    nsimSetupProgHwChecks progs bpf = .ok () ∧ nsimXdpOffloadChecks ns bpf = .ok load := by
  unfold nsimXdpChecks at checks
  simp only [hw, ↓reduceIte, not_true_eq_false, false_and, true_and] at checks
  cases first : nsimSetupProgHwChecks progs bpf with
  | error e => simp [first] at checks
  | ok _ =>
    rw [first] at checks
    simp only at checks
    split_ifs at checks
    exact ⟨rfl, checks⟩

theorem nsimSetFeatures_busy_iff {hwTc : Bool} :
    nsimSetFeatures ns hwTc false = .error .EBUSY ↔
      hwTc = true ∧ ns.bpfOffloaded.isSome = true ∧ ns.xdpHwProg = none := by
  unfold nsimSetFeatures nsimBpfDisableTc nsimXdpOffloadActive
  cases hwTc with
  | false => simp
  | true => cases ns.bpfOffloaded <;> cases ns.xdpHwProg <;> simp

theorem nsimXdpOffloadChecks_busy_iff (q : ℕ) :
    nsimXdpOffloadChecks ns ⟨true, some q⟩ = .error (.EBUSY, "TC program is already loaded") ↔
      ns.bpfOffloaded.isSome = true ∧ ns.xdpHwProg = none := by
  unfold nsimXdpOffloadChecks nsimXdpOffloadActive
  cases ns.bpfOffloaded <;> cases ns.xdpHwProg <;> simp

end Checks

/-! ## The two sides are kept apart -/

/-- What every port keeps: XDP and TC do not share the offload, what XDP offloads was made for the
device, a program in the driver was not and has a small MTU, and the id in the file is right. -/
structure PortSound (classifier : ℕ → Bool) (ns : NsimBpfPort) (hwTc : Bool) : Prop where
  xdp : ∀ p, ns.xdpHwProg = some p → ns.bpfOffloaded = some p ∧ classifier p = false ∧
    bpfProgIsOffloaded (progs p) = true ∧ (progs p).xlated = true
  tc : ns.xdpHwProg = none → ∀ p, ns.bpfOffloaded = some p → classifier p = true ∧ hwTc = true
  drv : ∀ p, ns.xdpProg = some p →
    (progs p).offload = false ∧ ns.mtu.toNat ≤ NSIM_XDP_MAX_MTU
  id : ns.bpfOffloadedId = ns.bpfOffloaded.elim 0 fun p => (progs p).id

section Steps

variable {progs} {classifier : ℕ → Bool} {dev : NsimBpfDev ι} {w : BpfWorld ι} {i j : ι}

theorem port_nsimBpfOffload (prog : Option ℕ) (oldprog : Bool) :
    (nsimBpfOffload progs dev i prog oldprog).1.ports j = if j = i then
      { dev.ports i with bpfOffloaded := prog, bpfOffloadedId := prog.elim 0 fun p => (progs p).id }
      else dev.ports j := by
  unfold nsimBpfOffload
  by_cases here : j = i
  · subst here
    cases prog <;> simp
  · simp [here]

theorem port_xdpAttachmentSetup (bpf : NetdevBpf) :
    (xdpAttachmentSetup dev i bpf).ports j = if j = i then
      if bpf.hw then { dev.ports i with xdpHwProg := bpf.prog }
      else { dev.ports i with xdpProg := bpf.prog }
      else dev.ports j := by
  unfold xdpAttachmentSetup
  by_cases here : j = i
  · subst here
    simp
  · simp [here]

/-- A request of TC: either nothing is loaded, or the driver and TC agree on what was. -/
theorem tc_cases (progs : ℕ → BpfProg) (w : BpfWorld ι) (i : ι) (clsBpf : TcClsBpfOffload) :
    w.step progs (.tc i clsBpf) = (w, false) ∨
      (∃ dev, w.step progs (.tc i clsBpf) = (⟨dev, w.hwTc⟩, false) ∧
        dev = (nsimBpfOffload progs w.dev i clsBpf.prog (w.dev.ports i).bpfOffloaded.isSome).1) ∧
      clsBpf.canOffload = true ∧
      ((w.dev.ports i).bpfOffloaded = none ∨ (w.dev.ports i).bpfOffloaded = clsBpf.oldprog) := by
  simp only [BpfWorld.step, nsimBpfSetupTcBlockCb]
  cases checks : nsimBpfTcChecks progs (w.dev.ports i) clsBpf with
  | error e => exact .inl rfl
  | ok verdict =>
    cases verdict with
    | none => exact .inl rfl
    | some load =>
      obtain ⟨can, program, old, agree⟩ := of_nsimBpfTcChecks checks
      refine .inr ⟨⟨_, ?_, rfl⟩, can, agree⟩
      simp [program, old, nsimBpfOffload]

theorem portSound_tc {clsBpf : TcClsBpfOffload}
    (sound : PortSound progs classifier (w.dev.ports i) (w.hwTc i))
    (core : FromCore classifier w (.tc i clsBpf)) :
    PortSound progs classifier ((w.step progs (.tc i clsBpf)).1.dev.ports i) (w.hwTc i) := by
  obtain ⟨on, new, old⟩ := core
  rcases tc_cases progs w i clsBpf with same | ⟨⟨dev, next, rfl⟩, can, agree⟩
  · rw [same]
    exact sound
  rw [next]
  simp only [port_nsimBpfOffload, ↓reduceIte]
  -- an XDP program is no classifier, so none was offloaded
  have inactive : (w.dev.ports i).xdpHwProg = none := by
    by_contra active
    obtain ⟨p, here⟩ := Option.ne_none_iff_exists'.1 active
    obtain ⟨offloaded, other, -⟩ := sound.xdp p here
    rcases agree with unused | same
    · rw [offloaded] at unused
      cases unused
    · rw [old p (same.symm.trans offloaded)] at other
      cases other
  exact ⟨fun p here => absurd (inactive.symm.trans here) (by simp),
    fun _ p here => ⟨new p here, on can⟩, sound.drv, rfl⟩

/-- A request of XDP to the driver changes no offload. -/
theorem xdp_drv_cases (progs : ℕ → BpfProg) (w : BpfWorld ι) (i : ι) {bpf : NetdevBpf} (drv : bpf.hw = false) :
    w.step progs (.xdp i bpf) = (w, false) ∨
      w.step progs (.xdp i bpf) = (⟨xdpAttachmentSetup w.dev i bpf, w.hwTc⟩, false) ∧
        nsimSetupProgChecks progs (w.dev.ports i) bpf = .ok () := by
  simp only [BpfWorld.step, nsimBpf]
  cases checks : nsimXdpChecks progs (w.dev.ports i) bpf with
  | error e => exact .inl rfl
  | ok load =>
    obtain ⟨rfl, passed⟩ := nsimXdpChecks_drv drv checks
    exact .inr ⟨rfl, passed⟩

/-- A request to offload an XDP program: either nothing is offloaded, or the driver and XDP agree
on what was. -/
theorem xdp_hw_cases (progs : ℕ → BpfProg) (w : BpfWorld ι) (i : ι) {bpf : NetdevBpf} (hw : bpf.hw = true)
    (active : ∀ p, (w.dev.ports i).xdpHwProg = some p → (w.dev.ports i).bpfOffloaded = some p) :
    w.step progs (.xdp i bpf) = (w, false) ∨
      (w.step progs (.xdp i bpf) = (⟨xdpAttachmentSetup w.dev i bpf, w.hwTc⟩, false) ∧
        (w.dev.ports i).xdpHwProg = none ∧ bpf.prog = none) ∨
      ∃ oldprog, w.step progs (.xdp i bpf) =
          (⟨xdpAttachmentSetup (nsimBpfOffload progs w.dev i bpf.prog oldprog).1 i bpf, w.hwTc⟩,
            false) ∧
        nsimSetupProgHwChecks progs bpf = .ok () := by
  simp only [BpfWorld.step, nsimBpf]
  cases checks : nsimXdpChecks progs (w.dev.ports i) bpf with
  | error e => exact .inl rfl
  | ok load =>
    obtain ⟨passed, offload⟩ := nsimXdpChecks_hw hw checks
    rcases of_nsimXdpOffloadChecks offload with ⟨rfl, nothing⟩ | ⟨rfl, unused⟩
    · exact .inr (.inl ⟨rfl, nothing⟩)
    · refine .inr (.inr ⟨(w.dev.ports i).xdpHwProg.isSome, ?_, passed⟩)
      have agree : (w.dev.ports i).bpfOffloaded.isSome = (w.dev.ports i).xdpHwProg.isSome := by
        cases here : (w.dev.ports i).xdpHwProg with
        | none => rw [unused here]
        | some p => rw [active p here]
      simp [nsimBpfOffload, agree]

theorem portSound_xdp {bpf : NetdevBpf}
    (sound : PortSound progs classifier (w.dev.ports i) (w.hwTc i))
    (core : FromCore classifier w (.xdp i bpf)) :
    PortSound progs classifier ((w.step progs (.xdp i bpf)).1.dev.ports i) (w.hwTc i) := by
  cases kind : bpf.hw with
  | false =>
    rcases xdp_drv_cases progs w i kind with same | ⟨next, passed⟩
    · rw [same]
      exact sound
    rw [next]
    simp only [port_xdpAttachmentSetup, ↓reduceIte, kind, Bool.false_eq_true]
    obtain ⟨unbound, small⟩ := of_nsimSetupProgChecks passed
    exact ⟨sound.xdp, sound.tc, fun p here => ⟨unbound p here, small⟩, sound.id⟩
  | true =>
    rcases xdp_hw_cases progs w i kind fun p here => (sound.xdp p here).1 with
      same | ⟨next, inactive, nothing⟩ | ⟨oldprog, next, passed⟩
    · rw [same]
      exact sound
    · rw [next]
      simp only [port_xdpAttachmentSetup, ↓reduceIte, kind, nothing]
      exact ⟨nofun, fun _ => sound.tc inactive, sound.drv, sound.id⟩
    · rw [next]
      simp only [port_xdpAttachmentSetup, ↓reduceIte, kind, port_nsimBpfOffload]
      exact ⟨fun p here => ⟨here, core p here, of_nsimSetupProgHwChecks passed here⟩,
        fun none p here => absurd (none.symm.trans here) (by simp), sound.drv, rfl⟩

theorem portSound_changeMtu {newMtu : Int32}
    (sound : PortSound progs classifier (w.dev.ports i) (w.hwTc i))
    (core : FromCore classifier w (.changeMtu i newMtu)) :
    PortSound progs classifier ((w.step progs (.changeMtu i newMtu)).1.dev.ports i) (w.hwTc i) := by
  simp only [BpfWorld.step]
  cases change : nsimChangeMtu (w.dev.ports i) newMtu with
  | error e => exact sound
  | ok ns =>
  unfold nsimChangeMtu at change
  split_ifs at change with refused
  obtain rfl := Except.ok.inj change
  simp only [NsimBpfDev.setPort, Function.update_self]
  refine ⟨sound.xdp, sound.tc, fun p here => ⟨(sound.drv p here).1, ?_⟩, sound.id⟩
  have small : newMtu.toInt ≤ (NSIM_XDP_MAX_MTU : ℤ) := by
    by_contra large
    exact refused ⟨Option.isSome_iff_exists.2 ⟨p, here⟩, by omega⟩
  -- the MTU is not negative, so it is the same number without a sign
  have nonneg : 0 ≤ newMtu.toInt := core
  show newMtu.toUInt32.toNat ≤ NSIM_XDP_MAX_MTU
  have same : newMtu.toInt = newMtu.toUInt32.toNat := by
    have := BitVec.toInt_eq_toNat_cond newMtu.toBitVec
    change newMtu.toInt = _ at this
    change newMtu.toInt = (newMtu.toBitVec.toNat : ℤ)
    split_ifs at this
    · exact this
    · have := newMtu.toBitVec.isLt
      omega
  omega

theorem portSound_setFeatures {hwTc : Bool}
    (sound : PortSound progs classifier (w.dev.ports i) (w.hwTc i)) :
    PortSound progs classifier (w.dev.ports i) ((w.step progs (.setFeatures i hwTc)).1.hwTc i) := by
  simp only [BpfWorld.step]
  cases change : nsimSetFeatures (w.dev.ports i) (w.hwTc i) hwTc with
  | error e => exact sound
  | ok _ =>
  unfold nsimSetFeatures nsimBpfDisableTc nsimXdpOffloadActive at change
  simp only [Function.update_self]
  split_ifs at change with off busy
  · refine ⟨sound.xdp, fun inactive p here => ?_, sound.drv, sound.id⟩
    exact absurd ⟨by simp [here], by simp [inactive]⟩ busy
  · refine ⟨sound.xdp, fun inactive p here => ?_, sound.drv, sound.id⟩
    obtain ⟨kind, on⟩ := sound.tc inactive p here
    exact ⟨kind, by simpa [on] using off⟩

/-- A request is about one port. -/
theorem step_elsewhere (w : BpfWorld ι) {op : BpfOp ι} (away : j ≠ op.port) :
    (w.step progs op).1.dev.ports j = w.dev.ports j ∧ (w.step progs op).1.hwTc j = w.hwTc j := by
  cases op with
  | tc i clsBpf =>
    rcases tc_cases progs w i clsBpf with same | ⟨⟨_, next, rfl⟩, -⟩
    · simp only [same, and_self]
    · rw [next]
      refine ⟨(port_nsimBpfOffload clsBpf.prog (w.dev.ports i).bpfOffloaded.isSome).trans ?_, rfl⟩
      exact if_neg away
  | xdp i bpf =>
    simp only [BpfWorld.step, nsimBpf]
    cases nsimXdpChecks progs (w.dev.ports i) bpf with
    | error e => exact ⟨rfl, rfl⟩
    | ok load =>
      cases load with
      | none => exact ⟨(port_xdpAttachmentSetup bpf).trans (if_neg away), rfl⟩
      | some load =>
        refine ⟨(port_xdpAttachmentSetup bpf).trans ((if_neg away).trans ?_), rfl⟩
        exact (port_nsimBpfOffload ..).trans (if_neg away)
  | changeMtu i newMtu =>
    simp only [BpfWorld.step]
    cases nsimChangeMtu (w.dev.ports i) newMtu with
    | error e => exact ⟨rfl, rfl⟩
    | ok ns => exact ⟨Function.update_of_ne away .., rfl⟩
  | setFeatures i hwTc =>
    simp only [BpfWorld.step]
    cases nsimSetFeatures (w.dev.ports i) (w.hwTc i) hwTc with
    | error e => exact ⟨rfl, rfl⟩
    | ok _ => exact ⟨rfl, Function.update_of_ne away ..⟩
  | switches i _ _ _ _ => exact ⟨Function.update_of_ne away .., rfl⟩

theorem portSound_step (sound : ∀ j, PortSound progs classifier (w.dev.ports j) (w.hwTc j))
    {op : BpfOp ι} (core : FromCore classifier w op) (j : ι) :
    PortSound progs classifier ((w.step progs op).1.dev.ports j) ((w.step progs op).1.hwTc j) := by
  by_cases here : j = op.port
  swap
  · rw [(step_elsewhere w here).1, (step_elsewhere w here).2]
    exact sound j
  subst here
  cases op with
  | tc i clsBpf =>
    have kept : (w.step progs (.tc i clsBpf)).1.hwTc = w.hwTc := by
      rcases tc_cases progs w i clsBpf with same | ⟨⟨_, next, -⟩, -⟩
      · rw [same]
      · rw [next]
    rw [kept]
    exact portSound_tc (sound i) core
  | xdp i bpf =>
    have kept : (w.step progs (.xdp i bpf)).1.hwTc = w.hwTc := by
      simp only [BpfWorld.step]
      cases nsimBpf progs w.dev i bpf <;> rfl
    rw [kept]
    exact portSound_xdp (sound i) core
  | changeMtu i newMtu =>
    have kept : (w.step progs (.changeMtu i newMtu)).1.hwTc = w.hwTc := by
      simp only [BpfWorld.step]
      cases nsimChangeMtu (w.dev.ports i) newMtu <;> rfl
    rw [kept]
    exact portSound_changeMtu (sound i) core
  | setFeatures i hwTc =>
    have kept : (w.step progs (.setFeatures i hwTc)).1.dev = w.dev := by
      simp only [BpfWorld.step]
      cases nsimSetFeatures (w.dev.ports i) (w.hwTc i) hwTc <;> rfl
    rw [kept]
    exact portSound_setFeatures (sound i)
  | switches i _ _ _ _ =>
    simp only [BpfWorld.step, NsimBpfDev.setPort, BpfOp.port, Function.update_self]
    exact ⟨(sound i).xdp, (sound i).tc, (sound i).drv, (sound i).id⟩

theorem portSound_of_reachable
    (reach : ((bpfWorldSystem progs).guard (FromCore classifier)).Reachable w) (j : ι) :
    PortSound progs classifier (w.dev.ports j) (w.hwTc j) := by
  refine TransitionSystem.Reachable.induct
    (P := fun w => ∀ j, PortSound progs classifier (w.dev.ports j) (w.hwTc j)) ?_ ?_ reach j
  · intro w start j
    obtain ⟨offloaded, id, drv, hw⟩ := start j
    refine ⟨fun p here => ?_, fun _ p here => ?_, fun p here => ?_, by rw [id, offloaded]; rfl⟩
    · cases hw.symm.trans here
    · cases offloaded.symm.trans here
    · cases drv.symm.trans here
  · rintro w op _ _ sound ⟨rfl, core⟩ j
    exact portSound_step sound core j

/-- No request that the core sends makes the driver warn. -/
theorem step_warns_not (sound : ∀ j, PortSound progs classifier (w.dev.ports j) (w.hwTc j))
    (op : BpfOp ι) : (w.step progs op).2 = false := by
  cases op with
  | tc i clsBpf =>
    rcases tc_cases progs w i clsBpf with same | ⟨⟨_, next, -⟩, -⟩
    · rw [same]
    · rw [next]
  | xdp i bpf =>
    cases kind : bpf.hw with
    | false =>
      rcases xdp_drv_cases progs w i kind with same | ⟨next, -⟩
      · rw [same]
      · rw [next]
    | true =>
      rcases xdp_hw_cases progs w i kind fun p here => ((sound i).xdp p here).1 with
        same | ⟨next, -⟩ | ⟨_, next, -⟩
      · rw [same]
      · rw [next]
      · rw [next]
  | changeMtu i newMtu =>
    simp only [BpfWorld.step]
    cases nsimChangeMtu (w.dev.ports i) newMtu <;> rfl
  | setFeatures i hwTc =>
    simp only [BpfWorld.step]
    cases nsimSetFeatures (w.dev.ports i) (w.hwTc i) hwTc <;> rfl
  | switches i _ _ _ _ => rfl

end Steps

section Exclusive

variable {progs} {classifier : ℕ → Bool} {w : BpfWorld ι}

/-- In every run: what XDP offloads is what the port runs; otherwise the port runs a classifier at
most, and hardware TC is on; a port with a program in the driver has a small MTU; hardware TC can be
turned off if and only if no classifier is offloaded, and XDP finds the port busy if and only if one
is; and the driver never warns of a bad offload state. -/
theorem bpf_offload_exclusive
    (reach : ((bpfWorldSystem progs).guard (FromCore classifier)).Reachable w) (i : ι) :
    (∀ p, (w.dev.ports i).xdpHwProg = some p →
      (w.dev.ports i).bpfOffloaded = some p ∧ classifier p = false) ∧
    ((w.dev.ports i).xdpHwProg = none → ∀ p, (w.dev.ports i).bpfOffloaded = some p →
      classifier p = true ∧ w.hwTc i = true) ∧
    ((w.dev.ports i).xdpProg.isSome = true → (w.dev.ports i).mtu.toNat ≤ NSIM_XDP_MAX_MTU) ∧
    (nsimSetFeatures (w.dev.ports i) (w.hwTc i) false = .error .EBUSY ↔
      ∃ p, (w.dev.ports i).bpfOffloaded = some p ∧ classifier p = true) ∧
    (∀ q, nsimXdpOffloadChecks (w.dev.ports i) ⟨true, some q⟩ =
        .error (.EBUSY, "TC program is already loaded") ↔
      ∃ p, (w.dev.ports i).bpfOffloaded = some p ∧ classifier p = true) ∧
    ∀ op, (w.step progs op).2 = false := by
  have sound := portSound_of_reachable reach i
  -- a classifier is offloaded exactly when the offload is used and XDP does not use it
  have used : (∃ p, (w.dev.ports i).bpfOffloaded = some p ∧ classifier p = true) ↔
      (w.dev.ports i).bpfOffloaded.isSome = true ∧ (w.dev.ports i).xdpHwProg = none := by
    constructor
    · rintro ⟨p, here, kind⟩
      refine ⟨by simp [here], ?_⟩
      by_contra active
      obtain ⟨q, hw⟩ := Option.ne_none_iff_exists'.1 active
      obtain ⟨same, other, -⟩ := sound.xdp q hw
      rw [Option.some.inj (here.symm.trans same), other] at kind
      cases kind
    · rintro ⟨some, inactive⟩
      obtain ⟨p, here⟩ := Option.isSome_iff_exists.1 some
      exact ⟨p, here, (sound.tc inactive p here).1⟩
  refine ⟨fun p here => ⟨(sound.xdp p here).1, (sound.xdp p here).2.1⟩, sound.tc,
    fun attached => ?_, ?_, fun q => ?_, step_warns_not (portSound_of_reachable reach)⟩
  · obtain ⟨p, here⟩ := Option.isSome_iff_exists.1 attached
    exact (sound.drv p here).2
  · rw [used, nsimSetFeatures_busy_iff]
    refine ⟨And.right, fun both => ⟨?_, both⟩⟩
    obtain ⟨p, here⟩ := Option.isSome_iff_exists.1 both.1
    exact (sound.tc both.2 p here).2
  · rw [used, nsimXdpOffloadChecks_busy_iff]

/-! ## Taking a port down -/

/-- The filter whose program a port runs is destroyed. -/
def BpfWorld.destroyFilter (progs : ℕ → BpfProg) (w : BpfWorld ι) (i : ι) : BpfWorld ι :=
  if (w.dev.ports i).bpfOffloaded.isSome ∧ ¬nsimXdpOffloadActive (w.dev.ports i) then
    (w.step progs (.tc i ⟨true, w.hwTc i, true, true, none, (w.dev.ports i).bpfOffloaded⟩)).1
  else w

/-- XDP is detached from the driver. -/
def BpfWorld.detachDrv (progs : ℕ → BpfProg) (w : BpfWorld ι) (i : ι) : BpfWorld ι :=
  if (w.dev.ports i).xdpProg.isSome then (w.step progs (.xdp i ⟨false, none⟩)).1 else w

/-- XDP is detached from the offload. -/
def BpfWorld.detachHw (progs : ℕ → BpfProg) (w : BpfWorld ι) (i : ι) : BpfWorld ι :=
  if (w.dev.ports i).xdpHwProg.isSome then (w.step progs (.xdp i ⟨true, none⟩)).1 else w

/-- What the core asks for, in this order, before it unregisters a port. -/
def BpfWorld.takeDown (progs : ℕ → BpfProg) (w : BpfWorld ι) (i : ι) : BpfWorld ι :=
  ((w.destroyFilter progs i).detachDrv progs i).detachHw progs i

/-- A port after its filter was destroyed. -/
def NsimBpfPort.unfiltered (ns : NsimBpfPort) : NsimBpfPort :=
  if ns.xdpHwProg = none ∧ ns.bpfOffloaded.isSome = true ∧ ns.bpfTcAccept = true then
    { ns with bpfOffloaded := none, bpfOffloadedId := 0 }
  else ns

/-- A port after XDP was detached from its driver. -/
def NsimBpfPort.undriven (ns : NsimBpfPort) : NsimBpfPort :=
  if ns.xdpProg.isSome = true ∧ ns.bpfXdpdrvAccept = true then { ns with xdpProg := none } else ns

/-- A port after XDP was detached from its offload. -/
def NsimBpfPort.unloaded (ns : NsimBpfPort) : NsimBpfPort :=
  if ns.xdpHwProg.isSome = true ∧ ns.bpfXdpoffloadAccept = true then
    { ns with bpfOffloaded := none, bpfOffloadedId := 0, xdpHwProg := none }
  else ns

theorem nsimBpfUninit_unloaded (ns : NsimBpfPort)
    (active : ns.xdpHwProg.isSome = true → ns.bpfOffloaded.isSome = true) :
    nsimBpfUninit ns.unfiltered.undriven.unloaded =
      (ns.xdpProg.isSome && !ns.bpfXdpdrvAccept, ns.xdpHwProg.isSome && !ns.bpfXdpoffloadAccept,
        ns.bpfOffloaded.isSome &&
          !if ns.xdpHwProg.isSome then ns.bpfXdpoffloadAccept else ns.bpfTcAccept) := by
  obtain ⟨offloaded, id, drv, hw, tcAccept, unbound, drvAccept, hwAccept, mtu⟩ := ns
  unfold NsimBpfPort.unfiltered NsimBpfPort.undriven NsimBpfPort.unloaded nsimBpfUninit
  cases hw with
  | some q =>
    obtain ⟨p, rfl⟩ := Option.isSome_iff_exists.1 (active rfl)
    cases drv <;> cases drvAccept <;> cases hwAccept <;> rfl
  | none => cases drv <;> cases drvAccept <;> cases offloaded <;> cases tcAccept <;> rfl

variable {i : ι}

theorem port_destroyFilter (on : (w.dev.ports i).xdpHwProg = none →
    (w.dev.ports i).bpfOffloaded.isSome = true → w.hwTc i = true) :
    (w.destroyFilter progs i).dev.ports i = (w.dev.ports i).unfiltered := by
  unfold BpfWorld.destroyFilter NsimBpfPort.unfiltered nsimXdpOffloadActive
  by_cases runs : (w.dev.ports i).xdpHwProg = none ∧ (w.dev.ports i).bpfOffloaded.isSome = true
  · obtain ⟨inactive, used⟩ := runs
    have on := on inactive used
    simp only [inactive, used, true_and, Option.isSome_none, Bool.false_eq_true, not_false_eq_true,
      ↓reduceIte, BpfWorld.step, nsimBpfSetupTcBlockCb]
    cases accept : (w.dev.ports i).bpfTcAccept with
    | false => simp [nsimBpfTcChecks, on, accept]
    | true => simp [nsimBpfTcChecks, on, accept, port_nsimBpfOffload, inactive]
  · have skipped : ¬((w.dev.ports i).bpfOffloaded.isSome = true ∧
        ¬(w.dev.ports i).xdpHwProg.isSome = true) := by
      rintro ⟨used, inactive⟩
      exact runs ⟨by simpa using inactive, used⟩
    rw [if_neg skipped, if_neg fun all => runs ⟨all.1, all.2.1⟩]

theorem port_detachDrv (small : (w.dev.ports i).xdpProg.isSome = true →
    (w.dev.ports i).mtu.toNat ≤ NSIM_XDP_MAX_MTU) :
    (w.detachDrv progs i).dev.ports i = (w.dev.ports i).undriven := by
  unfold BpfWorld.detachDrv NsimBpfPort.undriven
  by_cases attached : (w.dev.ports i).xdpProg.isSome = true
  · -- the MTU is checked here too, and is small
    have checked : nsimSetupProgChecks progs (w.dev.ports i) ⟨false, none⟩ = .ok () := by
      simp [nsimSetupProgChecks, not_lt.2 (small attached)]
    simp only [attached, ↓reduceIte, true_and, BpfWorld.step, nsimBpf]
    cases accept : (w.dev.ports i).bpfXdpdrvAccept with
    | false => simp [nsimXdpChecks, checked, accept]
    | true => simp [nsimXdpChecks, checked, accept, port_xdpAttachmentSetup]
  · rw [if_neg attached, if_neg fun both => attached both.1]

theorem port_detachHw (w : BpfWorld ι) (i : ι) :
    (w.detachHw progs i).dev.ports i = (w.dev.ports i).unloaded := by
  unfold BpfWorld.detachHw NsimBpfPort.unloaded
  by_cases active : (w.dev.ports i).xdpHwProg.isSome = true
  · simp only [active, ↓reduceIte, true_and, BpfWorld.step, nsimBpf]
    cases accept : (w.dev.ports i).bpfXdpoffloadAccept with
    | false => simp [nsimXdpChecks, nsimSetupProgHwChecks, accept]
    | true =>
      simp [nsimXdpChecks, nsimSetupProgHwChecks, nsimXdpOffloadChecks, nsimXdpOffloadActive,
        accept, active, port_xdpAttachmentSetup, port_nsimBpfOffload]
  · rw [if_neg active, if_neg fun both => active both.1]

/-- A port that is taken down after any run still has a program exactly where a file turned down
the side that would have to take it back: the driver warns of just these. -/
theorem bpf_taken_down
    (reach : ((bpfWorldSystem progs).guard (FromCore classifier)).Reachable w) (i : ι) :
    nsimBpfUninit ((w.takeDown progs i).dev.ports i) =
      ((w.dev.ports i).xdpProg.isSome && !(w.dev.ports i).bpfXdpdrvAccept,
        (w.dev.ports i).xdpHwProg.isSome && !(w.dev.ports i).bpfXdpoffloadAccept,
        (w.dev.ports i).bpfOffloaded.isSome && !if (w.dev.ports i).xdpHwProg.isSome then
          (w.dev.ports i).bpfXdpoffloadAccept else (w.dev.ports i).bpfTcAccept) := by
  have sound := portSound_of_reachable reach i
  have filter : (w.destroyFilter progs i).dev.ports i = (w.dev.ports i).unfiltered := by
    refine port_destroyFilter fun inactive used => ?_
    obtain ⟨p, here⟩ := Option.isSome_iff_exists.1 used
    exact (sound.tc inactive p here).2
  have drv : ((w.destroyFilter progs i).detachDrv progs i).dev.ports i =
      (w.dev.ports i).unfiltered.undriven := by
    rw [← filter]
    refine port_detachDrv fun attached => ?_
    -- destroying the filter left the program in the driver and the MTU alone
    have same : (w.dev.ports i).unfiltered.xdpProg = (w.dev.ports i).xdpProg ∧
        (w.dev.ports i).unfiltered.mtu = (w.dev.ports i).mtu := by
      unfold NsimBpfPort.unfiltered
      split_ifs <;> exact ⟨rfl, rfl⟩
    rw [filter, same.1] at attached
    obtain ⟨p, here⟩ := Option.isSome_iff_exists.1 attached
    rw [filter, same.2]
    exact (sound.drv p here).2
  unfold BpfWorld.takeDown
  rw [port_detachHw, drv]
  refine nsimBpfUninit_unloaded _ fun active => ?_
  obtain ⟨p, here⟩ := Option.isSome_iff_exists.1 active
  rw [(sound.xdp p here).1]
  rfl

end Exclusive

end World

/-- The program 1 is a classifier and 3 an XDP program for the driver, all others are bound. -/
def mixedProg (p : ℕ) : BpfProg := if p = 3 then ⟨false, false, 3, false⟩ else boundProg p

/-- The world after XDP attached a program to the driver and another to the offload of the first
port, and the file of the offload was turned off. -/
def attachedTwice : BpfWorld (Fin 2) :=
  let w := (BpfWorld.step mixedProg ⟨twoPorts, fun _ => false⟩ (.xdp 0 ⟨false, some 3⟩)).1
  let w := (w.step mixedProg (.xdp 0 ⟨true, some 7⟩)).1
  (w.step mixedProg (.switches 0 true false true false)).1

theorem reachable_attachedTwice : ((bpfWorldSystem mixedProg).guard
    (FromCore fun p => p == 1)).Reachable attachedTwice := by
  have start : ((bpfWorldSystem mixedProg).guard (FromCore fun p => p == 1)).Reachable
      ⟨twoPorts, fun _ => false⟩ := .init fun _ => ⟨rfl, rfl, rfl, rfl⟩
  have core (w : BpfWorld (Fin 2)) (hw : Bool) (q : ℕ) (xdp : (q == 1) = false) :
      FromCore (fun p => p == 1) w (.xdp 0 ⟨hw, some q⟩) := by
    intro p here
    cases here
    exact xdp
  have drv := start.step (a := .xdp 0 ⟨false, some 3⟩) ⟨rfl, core _ false 3 rfl⟩
  have hw := drv.step (a := .xdp 0 ⟨true, some 7⟩) ⟨rfl, core _ true 7 rfl⟩
  exact hw.step (a := .switches 0 true false true false) ⟨rfl, trivial⟩

theorem bpf_offload_exclusive_of_two :
    (attachedTwice.dev.ports 0).bpfOffloaded = some 7 ∧
      (attachedTwice.dev.ports 0).mtu.toNat ≤ NSIM_XDP_MAX_MTU := by
  have exclusive := bpf_offload_exclusive reachable_attachedTwice 0
  exact ⟨(exclusive.1 7 (by decide)).1, exclusive.2.2.1 (by decide)⟩

theorem bpf_taken_down_of_two :
    nsimBpfUninit ((attachedTwice.takeDown mixedProg 0).dev.ports 0) = (false, true, true) :=
  (bpf_taken_down reachable_attachedTwice 0).trans (by decide)

end Netdevsim
