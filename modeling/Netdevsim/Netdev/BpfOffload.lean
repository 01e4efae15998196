import Netdevsim.Kernel
import Netdevsim.Lib.Runs

/-!
# Offloaded BPF programs

Each port of a device runs at most one offloaded program, attached through the TC classifier or
through XDP.  A program bound to the device has a flag that says that it is loaded, which is cleared
when a port gives the program up and set when a port takes it.  The flag is right as long as no port
gives up a program that another port still runs.
-/

namespace Netdevsim

def NSIM_XDP_MAX_MTU : ℕ := 4000

/-! ## Data -/

/-- What the driver reads of a `struct bpf_prog`: whether `aux->offload` is there, whether the
program is bound for offload, its id, and whether its state is `"xlated"`. -/
structure BpfProg where
  offload : Bool
  offloadRequested : Bool
  id : UInt32
  xlated : Bool

/-- `bpf_prog_is_offloaded`. -/
def bpfProgIsOffloaded (prog : BpfProg) : Bool := prog.offloadRequested

/-- The part of a `struct netdevsim` that is about BPF.  Programs are given by their addresses, and
`none` is `NULL`. -/
structure NsimBpfPort where
  bpfOffloaded : Option ℕ
  bpfOffloadedId : UInt32
  xdpProg : Option ℕ
  xdpHwProg : Option ℕ
  bpfTcAccept : Bool
  bpfTcNonBoundAccept : Bool
  bpfXdpdrvAccept : Bool
  bpfXdpoffloadAccept : Bool
  mtu : UInt32

/-- A device with the ports `ι`, and the flags `is_loaded` of the programs bound to it. -/
structure NsimBpfDev (ι : Type) where
  ports : ι → NsimBpfPort
  isLoaded : ℕ → Bool

/-- `struct tc_cls_bpf_offload`, with the answer of `tc_cls_can_offload_and_chain0`. -/
structure TcClsBpfOffload where
  clsbpf : Bool
  canOffload : Bool
  protocolAll : Bool
  commandOffload : Bool
  prog : Option ℕ
  oldprog : Option ℕ

/-- `struct netdev_bpf`, for `XDP_SETUP_PROG` and, with `hw`, for `XDP_SETUP_PROG_HW`. -/
structure NetdevBpf where
  hw : Bool
  prog : Option ℕ

/-- An error, with the message for the user if there is one. -/
abbrev BpfError := Errno × Option String

section Device

variable {ι : Type} [DecidableEq ι] (progs : ℕ → BpfProg)

/-! ## Loading -/

/-- `nsim_xdp_offload_active`. -/
def nsimXdpOffloadActive (ns : NsimBpfPort) : Bool := ns.xdpHwProg.isSome

/-- `nsim_prog_set_loaded`. -/
def nsimProgSetLoaded (isLoaded : ℕ → Bool) (prog : Option ℕ) (loaded : Bool) : ℕ → Bool :=
  match prog with
  | none => isLoaded
  | some p => if bpfProgIsOffloaded (progs p) then Function.update isLoaded p loaded else isLoaded

/-- `nsim_bpf_offload`, and whether it warns of a bad offload state. -/
def nsimBpfOffload (dev : NsimBpfDev ι) (i : ι) (prog : Option ℕ) (oldprog : Bool) :
    NsimBpfDev ι × Bool :=
  let ns := dev.ports i
  let isLoaded := nsimProgSetLoaded progs dev.isLoaded ns.bpfOffloaded false
  let bpfOffloadedId := match prog with
    | some p => (progs p).id
    | none => 0
  ({ ports := Function.update dev.ports i { ns with bpfOffloaded := prog, bpfOffloadedId }
     isLoaded := nsimProgSetLoaded progs isLoaded prog true },
    ns.bpfOffloaded.isSome ≠ oldprog)

/-! ## Requests

Each request is first checked.  When it is accepted, the checks give the program to load, if one is
to be loaded, and whether another one is thought to be loaded already. -/

/-- The checks of `nsim_bpf_setup_tc_block_cb`. -/
def nsimBpfTcChecks (ns : NsimBpfPort) (clsBpf : TcClsBpfOffload) :
    Except BpfError (Option (Option ℕ × Bool)) :=
  if ¬clsBpf.clsbpf then .error (.EOPNOTSUPP, "only offload of BPF classifiers supported")
  else if ¬clsBpf.canOffload then .error (.EOPNOTSUPP, none)
  else if ¬clsBpf.protocolAll then
    .error (.EOPNOTSUPP, "only ETH_P_ALL supported as filter protocol")
  else if ¬ns.bpfTcAccept then
    .error (.EOPNOTSUPP, "netdevsim configured to reject BPF TC offload")
  else if clsBpf.prog.any (fun p => ¬(progs p).offload) ∧ ¬ns.bpfTcNonBoundAccept then
    .error (.EOPNOTSUPP, "netdevsim configured to reject unbound programs")
  else if ¬clsBpf.commandOffload then .error (.EOPNOTSUPP, none)
  else if ns.bpfOffloaded ≠ clsBpf.oldprog then
    if clsBpf.prog = none then .ok none
    else if ns.bpfOffloaded.isSome then
      .error (.EBUSY, "driver and netdev offload states mismatch")
    else .ok (some (clsBpf.prog, false))
  else .ok (some (clsBpf.prog, clsBpf.oldprog.isSome))

/-- `nsim_bpf_setup_tc_block_cb`. -/
def nsimBpfSetupTcBlockCb (dev : NsimBpfDev ι) (i : ι) (clsBpf : TcClsBpfOffload) :
    Except BpfError (NsimBpfDev ι × Bool) :=
  match nsimBpfTcChecks progs (dev.ports i) clsBpf with
  | .error e => .error e
  | .ok none => .ok (dev, false)
  | .ok (some (prog, oldprog)) => .ok (nsimBpfOffload progs dev i prog oldprog)

/-- `nsim_setup_prog_checks`. -/
def nsimSetupProgChecks (ns : NsimBpfPort) (bpf : NetdevBpf) : Except BpfError Unit :=
  if bpf.prog.any fun p => (progs p).offload then
    .error (.EINVAL, "attempt to load offloaded prog to drv")
  else if NSIM_XDP_MAX_MTU < ns.mtu.toNat then .error (.EINVAL, "MTU too large w/ XDP enabled")
  else .ok ()

/-- `nsim_setup_prog_hw_checks`. -/
def nsimSetupProgHwChecks (bpf : NetdevBpf) : Except BpfError Unit :=
  match bpf.prog with
  | none => .ok ()
  | some p =>
    if ¬bpfProgIsOffloaded (progs p) then .error (.EINVAL, "xdpoffload of non-bound program")
    else if ¬(progs p).xlated then .error (.EINVAL, "offloading program in bad state")
    else .ok ()

/-- The checks of `nsim_xdp_offload_prog`. -/
def nsimXdpOffloadChecks (ns : NsimBpfPort) (bpf : NetdevBpf) :
    Except BpfError (Option (Option ℕ × Bool)) :=
  if ¬nsimXdpOffloadActive ns ∧ bpf.prog = none then .ok none
  else if ¬nsimXdpOffloadActive ns ∧ bpf.prog.isSome ∧ ns.bpfOffloaded.isSome then
    .error (.EBUSY, "TC program is already loaded")
  else .ok (some (bpf.prog, nsimXdpOffloadActive ns))

/-- The checks of `nsim_bpf` and of `nsim_xdp_set_prog` for both commands.  Only the program of
`XDP_SETUP_PROG_HW` is offloaded. -/
def nsimXdpChecks (ns : NsimBpfPort) (bpf : NetdevBpf) :
    Except BpfError (Option (Option ℕ × Bool)) :=
  match if bpf.hw then nsimSetupProgHwChecks progs bpf else nsimSetupProgChecks progs ns bpf with
  | .error e => .error e
  | .ok () =>
    if ¬bpf.hw ∧ ¬ns.bpfXdpdrvAccept then .error (.EOPNOTSUPP, "driver XDP disabled in DebugFS")
    else if bpf.hw ∧ ¬ns.bpfXdpoffloadAccept then
      .error (.EOPNOTSUPP, "XDP offload disabled in DebugFS")
    else if bpf.hw then nsimXdpOffloadChecks ns bpf
    else .ok none

/-- `xdp_attachment_setup`, on the attachment that the command is about. -/
def xdpAttachmentSetup (dev : NsimBpfDev ι) (i : ι) (bpf : NetdevBpf) : NsimBpfDev ι :=
  let ns := dev.ports i
  { dev with
    ports := Function.update dev.ports i
      (if bpf.hw then { ns with xdpHwProg := bpf.prog } else { ns with xdpProg := bpf.prog }) }

/-- `nsim_bpf` for the two commands that set up a program. -/
def nsimBpf (dev : NsimBpfDev ι) (i : ι) (bpf : NetdevBpf) :
    Except BpfError (NsimBpfDev ι × Bool) :=
  match nsimXdpChecks progs (dev.ports i) bpf with
  | .error e => .error e
  | .ok none => .ok (xdpAttachmentSetup dev i bpf, false)
  | .ok (some (prog, oldprog)) =>
    let (dev, warned) := nsimBpfOffload progs dev i prog oldprog
    .ok (xdpAttachmentSetup dev i bpf, warned)

/-- `nsim_bpf_destroy_prog`: whether it warns that the program is still bound. -/
def nsimBpfDestroyProg (dev : NsimBpfDev ι) (p : ℕ) : Bool := dev.isLoaded p

/-! ## Runs -/

/-- What a port is asked for.  The switches of a port and its MTU may be set in between. -/
inductive BpfRequest where
  | tc (clsBpf : TcClsBpfOffload)
  | xdp (bpf : NetdevBpf)
  | configure (tcAccept tcNonBoundAccept xdpdrvAccept xdpoffloadAccept : Bool) (mtu : UInt32)

/-- The checks of a request. -/
def BpfRequest.checks (ns : NsimBpfPort) :
    BpfRequest → Except BpfError (Option (Option ℕ × Bool))
  | .tc clsBpf => nsimBpfTcChecks progs ns clsBpf
  | .xdp bpf => nsimXdpChecks progs ns bpf
  | .configure .. => .ok none

/-- The device after a request to a port. -/
def bpfStep (dev : NsimBpfDev ι) (call : ι × BpfRequest) : NsimBpfDev ι :=
  match call.2 with
  | .tc clsBpf =>
    match nsimBpfSetupTcBlockCb progs dev call.1 clsBpf with
    | .error _ => dev
    | .ok (dev, _) => dev
  | .xdp bpf =>
    match nsimBpf progs dev call.1 bpf with
    | .error _ => dev
    | .ok (dev, _) => dev
  | .configure bpfTcAccept bpfTcNonBoundAccept bpfXdpdrvAccept bpfXdpoffloadAccept mtu =>
    { dev with
      ports := Function.update dev.ports call.1 { dev.ports call.1 with
        bpfTcAccept, bpfTcNonBoundAccept, bpfXdpdrvAccept, bpfXdpoffloadAccept, mtu } }

/-- All runs of requests to a device on which nothing is loaded. -/
def bpfSystem : TransitionSystem (NsimBpfDev ι) (ι × BpfRequest) where
  init dev := (∀ i, (dev.ports i).bpfOffloaded = none) ∧ ∀ p, dev.isLoaded p = false
  step dev call dev' := bpfStep progs dev call = dev'

/-- The flag of every bound program says whether a port runs it. -/
def LoadedExactly (dev : NsimBpfDev ι) : Prop :=
  ∀ p, bpfProgIsOffloaded (progs p) = true →
    (dev.isLoaded p = true ↔ ∃ i, (dev.ports i).bpfOffloaded = some p)

/-- A bound program that the port gives up by the request is run by no other port. -/
def GivesUpUnshared (dev : NsimBpfDev ι) (call : ι × BpfRequest) : Prop :=
  ∀ p prog oldprog, (dev.ports call.1).bpfOffloaded = some p →
    bpfProgIsOffloaded (progs p) = true →
      call.2.checks progs (dev.ports call.1) = .ok (some (prog, oldprog)) → prog ≠ some p →
        ∀ j, j ≠ call.1 → (dev.ports j).bpfOffloaded ≠ some p

section Steps

variable {dev : NsimBpfDev ι} {i : ι} {call : ι × BpfRequest} {p : ℕ}

/-- The flag of a bound program after a port took a program: set if it is that one, cleared if it is
the one that was given up. -/
theorem isLoaded_nsimBpfOffload (bound : bpfProgIsOffloaded (progs p) = true) (prog : Option ℕ)
    (oldprog : Bool) : (nsimBpfOffload progs dev i prog oldprog).1.isLoaded p =
      if prog = some p then true
      else if (dev.ports i).bpfOffloaded = some p then false
      else dev.isLoaded p := by
  have set : ∀ (isLoaded : ℕ → Bool) (q : Option ℕ) (v : Bool),
      nsimProgSetLoaded progs isLoaded q v p = if q = some p then v else isLoaded p := by
    intro isLoaded q v
    unfold nsimProgSetLoaded
    cases q with
    | none => rfl
    | some q =>
      by_cases same : q = p
      · subst same
        simp [bound]
      · simp only [Option.some_inj, same, ↓reduceIte]
        split_ifs
        · exact Function.update_of_ne (Ne.symm same) ..
        · rfl
  unfold nsimBpfOffload
  simp only [set]

/-- What the ports run and the flags after a request. -/
inductive BpfEffect (dev : NsimBpfDev ι) (call : ι × BpfRequest) : NsimBpfDev ι → Prop where
  /-- No program is loaded or given up. -/
  | same {dev' : NsimBpfDev ι}
      (nothing : ∀ prog oldprog, call.2.checks progs (dev.ports call.1) ≠ .ok (some (prog, oldprog)))
      (ports : ∀ j, (dev'.ports j).bpfOffloaded = (dev.ports j).bpfOffloaded)
      (isLoaded : dev'.isLoaded = dev.isLoaded) : BpfEffect dev call dev'
  | offloads {dev' : NsimBpfDev ι} {prog : Option ℕ} {oldprog : Bool}
      (checks : call.2.checks progs (dev.ports call.1) = .ok (some (prog, oldprog)))
      (here : (dev'.ports call.1).bpfOffloaded = prog)
      (others : ∀ j, j ≠ call.1 → (dev'.ports j).bpfOffloaded = (dev.ports j).bpfOffloaded)
      (isLoaded : dev'.isLoaded = (nsimBpfOffload progs dev call.1 prog oldprog).1.isLoaded) :
      BpfEffect dev call dev'

theorem bpfOffloaded_xdpAttachmentSetup (bpf : NetdevBpf) (j : ι) :
    ((xdpAttachmentSetup dev i bpf).ports j).bpfOffloaded = (dev.ports j).bpfOffloaded := by
  unfold xdpAttachmentSetup
  by_cases here : j = i
  · subst here
    cases bpf.hw <;> simp
  · simp [here]

theorem bpfEffect_bpfStep (dev : NsimBpfDev ι) (call : ι × BpfRequest) :
    BpfEffect progs dev call (bpfStep progs dev call) := by
  obtain ⟨i, request⟩ := call
  cases request with
  | tc clsBpf =>
    simp only [bpfStep, nsimBpfSetupTcBlockCb]
    cases checks : nsimBpfTcChecks progs (dev.ports i) clsBpf with
    | error e => exact .same (by simp [BpfRequest.checks, checks]) (fun _ => rfl) rfl
    | ok verdict =>
      cases verdict with
      | none => exact .same (by simp [BpfRequest.checks, checks]) (fun _ => rfl) rfl
      | some load =>
        refine .offloads checks ?_ (fun j away => ?_) rfl
        · simp [nsimBpfOffload]
        · simp [nsimBpfOffload, away]
  | xdp bpf =>
    simp only [bpfStep, nsimBpf]
    cases checks : nsimXdpChecks progs (dev.ports i) bpf with
    | error e => exact .same (by simp [BpfRequest.checks, checks]) (fun _ => rfl) rfl
    | ok verdict =>
      cases verdict with
      | none =>
        exact .same (by simp [BpfRequest.checks, checks])
          (fun j => bpfOffloaded_xdpAttachmentSetup bpf j) rfl
      | some load =>
        refine .offloads checks ?_ (fun j away => ?_) rfl
        · rw [bpfOffloaded_xdpAttachmentSetup]
          simp [nsimBpfOffload]
        · rw [bpfOffloaded_xdpAttachmentSetup]
          simp [nsimBpfOffload, away]
  | configure _ _ _ _ _ =>
    refine .same (by simp [BpfRequest.checks]) (fun j => ?_) rfl
    simp only [bpfStep]
    by_cases here : j = i
    · subst here
      simp
    · simp [here]

/-- From a state in which the flags are right, they stay so exactly when no port gives up a program
that another port still runs. -/
theorem loadedExactly_bpfStep_iff (exact : LoadedExactly progs dev) :
    LoadedExactly progs (bpfStep progs dev call) ↔ GivesUpUnshared progs dev call := by
  have effect := bpfEffect_bpfStep progs dev call
  generalize bpfStep progs dev call = dev' at effect
  cases effect with
  | same nothing ports isLoaded =>
    constructor
    · intro _ p prog oldprog _ _ checks
      exact absurd checks (nothing prog oldprog)
    · intro _ p bound
      simp only [isLoaded, ports]
      exact exact p bound
  | @offloads prog oldprog checks here others isLoaded =>
    constructor
    · intro exact' p prog' oldprog' old bound checks' new j away running
      obtain ⟨rfl, rfl⟩ : prog = prog' ∧ oldprog = oldprog' := by
        simpa using checks.symm.trans checks'
      have loaded := (exact' p bound).2 ⟨j, (others j away).trans running⟩
      rw [isLoaded, isLoaded_nsimBpfOffload progs bound, if_neg new, if_pos old] at loaded
      cases loaded
    · intro unshared p bound
      rw [isLoaded, isLoaded_nsimBpfOffload progs bound]
      by_cases new : prog = some p
      · simp only [new, ↓reduceIte, true_iff]
        exact ⟨call.1, here.trans new⟩
      rw [if_neg new]
      by_cases old : (dev.ports call.1).bpfOffloaded = some p
      · simp only [old, ↓reduceIte, Bool.false_eq_true, false_iff]
        rintro ⟨j, running⟩
        by_cases own : j = call.1
        · subst own
          exact new (here.symm.trans running)
        · rw [others j own] at running
          exact unshared p prog oldprog old bound checks new j own running
      · rw [if_neg old, exact p bound]
        constructor
        · rintro ⟨j, running⟩
          have away : j ≠ call.1 := by
            rintro rfl
            exact old running
          exact ⟨j, (others j away).trans running⟩
        · rintro ⟨j, running⟩
          have away : j ≠ call.1 := by
            rintro rfl
            exact new (here.symm.trans running)
          exact ⟨j, (others j away).symm.trans running⟩

theorem loadedExactly_reachable
    (reach : ((bpfSystem progs).guard (GivesUpUnshared progs)).Reachable dev) :
    LoadedExactly progs dev := by
  refine TransitionSystem.Reachable.induct ?_ ?_ reach
  · intro dev init p _
    simp [init.1, init.2]
  · rintro dev call _ _ exact ⟨rfl, unshared⟩
    exact (loadedExactly_bpfStep_iff progs exact).2 unshared

end Steps

/-- As long as no port gives up a program that another port still runs, the flags are right, so that
destroying a bound program warns exactly when a port runs it; and a request that does give up such a
program makes a flag wrong. -/
theorem loaded_flag_exact (dev : NsimBpfDev ι)
    (reach : ((bpfSystem progs).guard (GivesUpUnshared progs)).Reachable dev) :
    LoadedExactly progs dev ∧
      (∀ p, bpfProgIsOffloaded (progs p) = true → (nsimBpfDestroyProg dev p = true ↔
        ∃ i, (dev.ports i).bpfOffloaded = some p)) ∧
      ∀ call, LoadedExactly progs (bpfStep progs dev call) ↔ GivesUpUnshared progs dev call := by
  have exact := loadedExactly_reachable progs reach
  exact ⟨exact, exact, fun call => loadedExactly_bpfStep_iff progs exact⟩

end Device

/-- A port on which nothing is loaded, with the switches as they are at first. -/
def newBpfPort : NsimBpfPort := ⟨none, 0, none, none, true, false, true, true, 1500⟩

/-- A device with two ports, and nothing loaded. -/
def twoPorts : NsimBpfDev (Fin 2) := ⟨fun _ => newBpfPort, fun _ => false⟩

/-- Every program is bound. -/
def boundProg (_ : ℕ) : BpfProg := ⟨true, true, 1, true⟩

theorem init_twoPorts : (bpfSystem (ι := Fin 2) boundProg).init twoPorts :=
  ⟨fun _ => rfl, fun _ => rfl⟩

/-- Attach a program to a port by XDP, or detach the one that is there. -/
def xdpHw (i : Fin 2) (prog : Option ℕ) : Fin 2 × BpfRequest := (i, .xdp ⟨true, prog⟩)

theorem loaded_flag_exact_one : ∃ dev : NsimBpfDev (Fin 2),
    LoadedExactly boundProg dev ∧ dev.isLoaded 7 = true := by
  have start : ((bpfSystem boundProg).guard (GivesUpUnshared boundProg)).Reachable twoPorts :=
    .init init_twoPorts
  have reach := start.step (a := xdpHw 0 (some 7)) ⟨rfl, fun p prog oldprog old => by cases old⟩
  exact ⟨_, (loaded_flag_exact boundProg _ reach).1, by decide⟩

/-- A program is attached to both ports and detached from the first. -/
theorem loaded_flag_not_exact : ∃ dev : NsimBpfDev (Fin 2),
    (bpfSystem boundProg).Reachable dev ∧ ¬LoadedExactly boundProg dev := by
  have sound : ∀ call ∈ [xdpHw 0 (some 7), xdpHw 1 (some 7), xdpHw 0 none], ∀ dev dev',
      some (bpfStep boundProg dev call) = some dev' → (bpfSystem boundProg).step dev call dev' :=
    fun _ _ _ _ => Option.some.inj
  obtain ⟨dev, reach, test⟩ := (TransitionSystem.Reachable.init init_twoPorts).exists_of_follow
    _ (fun dev => dev.isLoaded 7 = false ∧ (dev.ports 1).bpfOffloaded = some 7) sound (by decide)
  simp only [decide_eq_true_eq] at test
  refine ⟨dev, reach, fun exact => ?_⟩
  have loaded := (exact 7 rfl).2 ⟨1, test.2⟩
  rw [test.1] at loaded
  cases loaded

end Netdevsim
