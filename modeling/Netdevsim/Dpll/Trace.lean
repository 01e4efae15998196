import Netdevsim.Dpll.View
import Netdevsim.Lib.Runs

/-!
# Devices leave no trace

Devices with WPC come and go in any order, and any step of `nsim_dpll_init` may fail.  The registry
shows what the devices contributed whose DPLL was set up and not torn down, until the running id of
pins starts over: then `dpll_pin_get` hands out `ERR_PTR(1)` and leaves an id behind.
-/

namespace Netdevsim

open Program

/-! ## The system -/

/-- A device with WPC whose DPLL is set up, and the ports it had then. -/
structure WpcDev where
  dpll : NsimDpllDev
  portList : List NsimDevPort

/-- The core and the devices with WPC whose DPLL is set up. -/
structure WpcRegistry where
  kernel : KernelState
  devs : List WpcDev

/-- A call of `nsim_dpll_init` or of `nsim_dpll_exit`, with what fails in it and the net devices
there are. -/
inductive WpcCall where
  | init (now : ℕ) (portList : List NsimDevPort) (faults : List (Option Errno))
      (netdev : Ptr → Option Netdev)
  | exit (i : ℕ) (faults : List (Option Errno)) (netdev : Ptr → Option Netdev)

/-- Who may be called: a device whose PF ports have their net devices. -/
def WpcCall.Allowed (s : WpcRegistry) : WpcCall → Prop
  | .init _ portList _ netdev =>
    ∀ port ∈ portList, nsimDevPortIsPf port → ∃ dev, netdev port.ns = some dev
  | .exit i _ netdev =>
    ∃ w, s.devs[i]? = some w ∧ ∀ npin ∈ w.dpll.portPins, ∃ dev, netdev npin.ns = some dev

/-- What a call leads to: nothing when it goes wrong. -/
def WpcRegistry.next (s : WpcRegistry) : WpcCall → Option WpcRegistry
  | .init now portList faults netdev =>
    match (nsimDpllInit now portList).exec { s.kernel with faults, netdev } with
    | none => none
    | some (.ok dpll, kernel) => some ⟨kernel, s.devs ++ [⟨dpll, portList⟩]⟩
    | some (.error _, kernel) => some ⟨kernel, s.devs⟩
  | .exit i faults netdev => do
    let w ← s.devs[i]?
    let (_, kernel) ← (nsimDpllExit w.dpll).exec { s.kernel with faults, netdev }
    return ⟨kernel, s.devs.eraseIdx i⟩

/-- All runs from a core without objects, wherever its running ids stand.  There is no state after
a call that goes wrong. -/
def wpcRegistrySystem : TransitionSystem (Option WpcRegistry) WpcCall where
  init x := ∃ s, x = some s ∧ s.devs = [] ∧ s.kernel.device = (fun _ => none) ∧
    s.kernel.deviceXa = .empty ∧ s.kernel.pin = (fun _ => none) ∧ s.kernel.pinXa = .empty ∧
    KernelState.loaded.nextPtr ≤ s.kernel.nextPtr
  step x call y := ∃ s, x = some s ∧ call.Allowed s ∧ y = s.next call

/-- Nothing went wrong, the registry shows exactly what the devices contributed, and each of them
has its external pins and a pin for each of its PF ports. -/
def LeavesNoTrace (x : Option WpcRegistry) : Prop :=
  ∃ s, x = some s ∧ s.kernel.view = contributed (s.devs.map WpcDev.dpll) ∧
    ∀ w ∈ s.devs, w.dpll.extPins.length = NSIM_DPLL_NUM_EXT_PINS ∧
      w.dpll.portPins.map NsimDpllPin.ns =
        (w.portList.filter nsimDevPortIsPf).map NsimDevPort.ns

/-- The running id of pins does not start over while the pins that are missing are allocated. -/
def PinIdsLast (x : Option WpcRegistry) : WpcCall → Prop
  | .init _ portList _ _ => ∀ s, x = some s → s.kernel.pinIdsLast (nsimPinKeys portList)
  | .exit _ _ _ => True

/-! ## The invariant -/

/-- The core holds what the devices contributed. -/
structure HoldsDevs (s : WpcRegistry) : Prop where
  held : ∃ T bound b, HoldsDplls s.kernel (s.devs.map WpcDev.dpll) T bound b
  pins : ∀ w ∈ s.devs, w.dpll.extPins.length = NSIM_DPLL_NUM_EXT_PINS ∧
    w.dpll.portPins.map NsimDpllPin.ns = (w.portList.filter nsimDevPortIsPf).map NsimDevPort.ns

section Steps

variable {s : WpcRegistry} {kernel : KernelState} {dplls l₁ l₂ : List NsimDpllDev}
  {T : DeviceTable} {bound b pps : Ptr} {nets : List Ptr} {items : PinLedger}
  {portList : List NsimDevPort} {d : NsimDpllDev} {faults : List (Option Errno)}
  {netdev : Ptr → Option Netdev}

/-- What fails in a call and which net devices there are is not part of the registry. -/
theorem Holds.withNetdevs (holds : Holds kernel T bound pps [] b items)
    (present : ∀ ns ∈ nets, ∃ dev, netdev ns = some dev) :
    Holds { kernel with faults, netdev } T bound pps nets b items :=
  ⟨holds.table.of_frame ⟨fun _ => rfl, rfl, le_rfl⟩,
    holds.pins.of_eq (holds.pins.inv.of_eq rfl rfl rfl rfl le_rfl) rfl (fun _ => rfl) present,
    holds.nodup, holds.below⟩

theorem Holds.noNetdevs (holds : Holds kernel T bound pps nets b items) :
    Holds kernel T bound pps [] b items :=
  ⟨holds.table, holds.pins.of_eq holds.pins.inv rfl (fun _ => rfl)
    fun _ mem => absurd mem List.not_mem_nil, holds.nodup, holds.below⟩

/-- A DPLL more is held, or nothing changes. -/
theorem HoldsDplls.init (now : ℕ) (faults : List (Option Errno))
    (held : HoldsDplls kernel dplls T bound b)
    (present : ∀ port ∈ portList, nsimDevPortIsPf port → ∃ dev, netdev port.ns = some dev)
    (lasts : kernel.pinIdsLast (nsimPinKeys portList)) :
    twp (nsimDpllInit now portList)
      (fun d t => (d.extPins.length = NSIM_DPLL_NUM_EXT_PINS ∧ d.portPins.map NsimDpllPin.ns =
          (portList.filter nsimDevPortIsPf).map NsimDevPort.ns) ∧
        ∃ T bound b, HoldsDplls t (dplls ++ [d]) T bound b)
      (fun _ t => ∃ T bound b, HoldsDplls t dplls T bound b) { kernel with faults, netdev } := by
  have frame : pinFrame.rel kernel { kernel with faults, netdev } := ⟨fun _ => rfl, rfl, le_rfl⟩
  have start : Holds { kernel with faults, netdev } T b (T ppsKey).addr
      ((portList.filter nsimDevPortIsPf).map NsimDevPort.ns) b
      (dplls.flatMap NsimDpllDev.items) := by
    refine held.holds.withNetdevs fun ns mem => ?_
    obtain ⟨port, own, rfl⟩ := List.mem_map.1 mem
    obtain ⟨listed, pf⟩ := List.mem_filter.1 own
    exact present port listed pf
  have idle : (T ppsKey).refs = 0 → dplls.flatMap NsimDpllDev.items = [] := by
    intro none
    rw [held.refs_eq (.inl rfl), List.length_eq_zero_iff] at none
    rw [none, List.flatMap_nil]
  have done := twp_nsimDpllInit now start idle (fun _ => rfl)
    (fun port mem pf => List.mem_map_of_mem (List.mem_filter.2 ⟨mem, pf⟩)) lasts
  have table := wp_nsimDpllInit (held.shared.of_frame frame).rep now portList
  refine (completes_of_twp done).twp (wp_mono (wp_and (wp_of_twp done) table) ?_ ?_)
  · rintro d t ⟨⟨four, bound', holds⟩, attached⟩
    have shared := held.shared.attach attached
    refine ⟨⟨four, attached.portPins⟩, _, _, bound', shared, ?_, fun key pps eec => ?_⟩
    · rw [List.flatMap_append, List.flatMap_singleton, attach_pps]
      exact holds.noNetdevs
    · rw [DeviceTable.attach, register_other eec, get_other eec, register_other pps, get_other pps]
      exact held.others key pps eec
  · rintro _ t ⟨holds, rep⟩
    have shared := held.shared
    exact ⟨T, bound, b, ⟨rep, shared.refs, shared.regs, shared.pps, shared.eec, shared.below,
      shared.nodup⟩, holds.noNetdevs, held.others⟩

/-- A DPLL less is held. -/
theorem HoldsDplls.exit (faults : List (Option Errno))
    (held : HoldsDplls kernel (l₁ ++ d :: l₂) T bound b)
    (present : ∀ npin ∈ d.portPins, ∃ dev, netdev npin.ns = some dev) :
    twp (nsimDpllExit d) (fun _ t => ∃ T bound b, HoldsDplls t (l₁ ++ l₂) T bound b)
      (fun _ _ => False) { kernel with faults, netdev } := by
  have frame : pinFrame.rel kernel { kernel with faults, netdev } := ⟨fun _ => rfl, rfl, le_rfl⟩
  have own : d ∈ l₁ ++ d :: l₂ := List.mem_append_right _ List.mem_cons_self
  have pps := held.shared.pps d own
  have eec := held.shared.eec d own
  have refs : ∀ key, key = ppsKey ∨ key = eecKey → 0 < (T key).refs := fun key either => by
    rw [held.refs_eq either]
    exact List.length_pos_of_mem own
  have items : (l₁ ++ d :: l₂).flatMap NsimDpllDev.items =
      l₁.flatMap NsimDpllDev.items ++ d.items ++ l₂.flatMap NsimDpllDev.items := by simp
  have start : Holds { kernel with faults, netdev } T b d.ppsDpll
      (d.portPins.map NsimDpllPin.ns) b
      (l₁.flatMap NsimDpllDev.items ++ d.items ++ l₂.flatMap NsimDpllDev.items) := by
    rw [← items, pps]
    refine held.holds.withNetdevs fun ns mem => ?_
    obtain ⟨npin, listed, rfl⟩ := List.mem_map.1 mem
    exact present npin listed
  have done := twp_nsimDpllExit start ⟨refs ppsKey (.inl rfl), pps.symm⟩
    ⟨refs eecKey (.inr rfl), eec.symm⟩ (fun _ => List.mem_map_of_mem) fun one => by
      rw [held.refs_eq (.inl rfl), List.length_append, List.length_cons] at one
      have left : l₁ = [] := List.length_eq_zero_iff.1 (by omega)
      have right : l₂ = [] := List.length_eq_zero_iff.1 (by omega)
      rw [left, right]
      rfl
  have table := wp_nsimDpllExit (E := fun _ _ => True) (held.shared.of_frame frame).rep
    ⟨refs ppsKey (.inl rfl), pps⟩ ⟨refs eecKey (.inr rfl), eec⟩
  refine (completes_of_twp done).twp (wp_mono (wp_and (wp_of_twp done) table) ?_
    fun _ _ both => both.1)
  rintro _ t ⟨holds, rep⟩
  refine ⟨_, bound, b, held.shared.detach rep, ?_, fun key pps eec => ?_⟩
  · rw [List.flatMap_append, detach_pps, ← pps]
    exact holds.noNetdevs
  · rw [DeviceTable.detach, put_other pps, unregister_other pps, put_other eec,
      unregister_other eec]
    exact held.others key pps eec

end Steps

/-! ## Runs -/

theorem holdsDevs_init {s : WpcRegistry} (devs : s.devs = [])
    (device : s.kernel.device = fun _ => none) (deviceXa : s.kernel.deviceXa = .empty)
    (pin : s.kernel.pin = fun _ => none) (pinXa : s.kernel.pinXa = .empty) : HoldsDevs s := by
  have noDevice : ∀ {p d}, s.kernel.device p ≠ some d := fun {p d} => by simp [device]
  have noPin : ∀ {p d}, s.kernel.pin p ≠ some d := fun {p d} => by simp [pin]
  have inv : RegistryInvariant s.kernel :=
    registryInvariant_reachable (.init ⟨device, deviceXa, pin, pinXa⟩)
  have table : Represents s.kernel (fun _ => ⟨0, 0, []⟩) 0 := by
    refine ⟨?_, fun _ none => absurd none (lt_irrefl 0), fun _ _ live => absurd live noDevice,
      Nat.zero_le _⟩
    rw [deviceXa]
    exact fun _ mem => absurd mem List.not_mem_nil
  refine ⟨⟨fun _ => ⟨0, 0, []⟩, 0, 0, ?_⟩, fun w mem => ?_⟩
  · rw [devs]
    refine ⟨⟨table, fun _ _ => rfl, fun _ _ some => absurd rfl some, ?_, ?_, ?_, .nil⟩, ?_,
      fun _ _ _ => rfl⟩
    · exact fun _ mem => absurd mem List.not_mem_nil
    · exact fun _ mem => absurd mem List.not_mem_nil
    · exact fun _ mem => absurd mem List.not_mem_nil
    · refine ⟨table, ⟨inv, ?_, fun _ _ live => absurd live noPin, fun _ _ some => absurd rfl some,
        fun _ _ => rfl, fun _ _ _ _ live => absurd live noPin, ?_⟩, .nil, ?_⟩
      · rw [pinXa]
        exact fun _ _ none => nomatch none
      · exact fun _ mem => absurd mem List.not_mem_nil
      · exact fun _ mem => absurd mem List.not_mem_nil
  · rw [devs] at mem
    exact absurd mem List.not_mem_nil

/-- What a run of the program leads to. -/
theorem WpcRegistry.next_init_ok {s : WpcRegistry} {now : ℕ} {portList : List NsimDevPort}
    {faults : List (Option Errno)} {netdev : Ptr → Option Netdev} {d : NsimDpllDev}
    {kernel : KernelState}
    (run : (nsimDpllInit now portList).exec { s.kernel with faults, netdev } =
      some (.ok d, kernel)) :
    s.next (.init now portList faults netdev) = some ⟨kernel, s.devs ++ [⟨d, portList⟩]⟩ := by
  simp only [WpcRegistry.next, run]

theorem WpcRegistry.next_init_error {s : WpcRegistry} {now : ℕ} {portList : List NsimDevPort}
    {faults : List (Option Errno)} {netdev : Ptr → Option Netdev} {e : Errno}
    {kernel : KernelState}
    (run : (nsimDpllInit now portList).exec { s.kernel with faults, netdev } =
      some (.error e, kernel)) :
    s.next (.init now portList faults netdev) = some ⟨kernel, s.devs⟩ := by
  simp only [WpcRegistry.next, run]

theorem WpcRegistry.next_exit {s : WpcRegistry} {i : ℕ} {faults : List (Option Errno)}
    {netdev : Ptr → Option Netdev} {w : WpcDev} {kernel : KernelState}
    {result : Except Errno Unit} (found : s.devs[i]? = some w)
    (run : (nsimDpllExit w.dpll).exec { s.kernel with faults, netdev } = some (result, kernel)) :
    s.next (.exit i faults netdev) = some ⟨kernel, s.devs.eraseIdx i⟩ := by
  simp only [WpcRegistry.next, found, run, Option.bind_eq_bind, Option.bind_some, pure]

theorem holdsDevs_next {s : WpcRegistry} {call : WpcCall} (held : HoldsDevs s)
    (allowed : call.Allowed s) (lasts : PinIdsLast (some s) call) :
    ∃ t, s.next call = some t ∧ HoldsDevs t := by
  obtain ⟨⟨T, bound, b, dplls⟩, pins⟩ := held
  cases call with
  | init now portList faults netdev =>
    have done := dplls.init now faults allowed (lasts s rfl)
    unfold twp at done
    split at done
    · exact done.elim
    · rename_i d kernel run
      refine ⟨_, WpcRegistry.next_init_ok run, ?_, fun w mem => ?_⟩
      · rw [List.map_append]
        exact done.2
      · rcases List.mem_append.1 mem with old | new
        · exact pins w old
        · rw [List.mem_singleton.1 new]
          exact done.1
    · rename_i e kernel run
      exact ⟨_, WpcRegistry.next_init_error run, done, pins⟩
  | exit i faults netdev =>
    obtain ⟨w, found, present⟩ := allowed
    have split : s.devs = s.devs.take i ++ w :: s.devs.drop (i + 1) := by
      obtain ⟨lt, here⟩ := List.getElem?_eq_some_iff.1 found
      rw [← here, List.getElem_cons_drop, List.take_append_drop]
    have rest : s.devs.eraseIdx i = s.devs.take i ++ s.devs.drop (i + 1) :=
      List.eraseIdx_eq_take_drop_succ ..
    rw [split, List.map_append, List.map_cons] at dplls
    have done := dplls.exit faults present
    unfold twp at done
    split at done
    · exact done.elim
    · rename_i kernel run
      refine ⟨_, WpcRegistry.next_exit found run, ?_, fun w mem => ?_⟩
      · rw [rest, List.map_append]
        exact done
      · exact pins w (List.mem_of_mem_eraseIdx mem)
    · exact done.elim

/-- In runs in which the running id of pins does not start over while pins are allocated. -/
theorem holdsDevs_reachable {x : Option WpcRegistry}
    (reachable : (wpcRegistrySystem.guard PinIdsLast).Reachable x) :
    ∃ s, x = some s ∧ HoldsDevs s := by
  refine TransitionSystem.Reachable.induct (P := fun x => ∃ s, x = some s ∧ HoldsDevs s) ?_ ?_
    reachable
  · rintro _ ⟨s, rfl, devs, device, deviceXa, pin, pinXa, -⟩
    exact ⟨s, rfl, holdsDevs_init devs device deviceXa pin pinXa⟩
  · rintro _ call _ - ⟨s, rfl, held⟩ ⟨⟨s', same, allowed, rfl⟩, lasts⟩
    cases same
    exact holdsDevs_next held allowed lasts

theorem HoldsDevs.view_eq {s : WpcRegistry} (held : HoldsDevs s) :
    s.kernel.view = contributed (s.devs.map WpcDev.dpll) := by
  obtain ⟨T, bound, b, dplls⟩ := held.held
  exact dplls.view_eq

/-- At all times the registry shows what the devices contributed whose DPLL is set up, nothing when
there are none, and a call that sets up or tears down nothing leaves it as it was. -/
theorem wpc_leaves_no_trace (x : Option WpcRegistry)
    (reachable : (wpcRegistrySystem.guard PinIdsLast).Reachable x) :
    LeavesNoTrace x ∧ contributed [] = RegistryView.empty ∧
      ∀ s call t, x = some s → (wpcRegistrySystem.guard PinIdsLast).step x call (some t) →
        t.devs = s.devs → t.kernel.view = s.kernel.view := by
  refine ⟨?_, contributed_nil, fun s call t present step same => ?_⟩
  · obtain ⟨s, rfl, held⟩ := holdsDevs_reachable reachable
    exact ⟨s, rfl, held.view_eq, held.pins⟩
  · obtain ⟨s', here, before⟩ := holdsDevs_reachable reachable
    obtain ⟨t', there, after⟩ := holdsDevs_reachable (reachable.step step)
    obtain rfl := Option.some.inj (present.symm.trans here)
    cases there
    rw [after.view_eq, before.view_eq, same]

instance (o : Option Netdev) : Decidable (∃ dev, o = some dev) :=
  decidable_of_iff (o.isSome = true) Option.isSome_iff_exists

/-- A call that is allowed and for which the pin ids last, and what it leads to. -/
def afterWpcCall (x : Option WpcRegistry) : WpcCall → Option (Option WpcRegistry)
  | .init now portList faults netdev => x.bind fun s =>
    if (∀ port ∈ portList, nsimDevPortIsPf port → ∃ dev, netdev port.ns = some dev) ∧
        s.kernel.pinIdsLast (nsimPinKeys portList) then
      some (s.next (.init now portList faults netdev))
    else none
  | .exit i faults netdev => x.bind fun s => s.devs[i]?.bind fun w =>
    if ∀ npin ∈ w.dpll.portPins, ∃ dev, netdev npin.ns = some dev then
      some (s.next (.exit i faults netdev))
    else none

theorem step_of_afterWpcCall {x y : Option WpcRegistry} {call : WpcCall}
    (next : afterWpcCall x call = some y) :
    (wpcRegistrySystem.guard PinIdsLast).step x call y := by
  cases call with
  | init now portList faults netdev =>
    obtain ⟨s, rfl, found⟩ := Option.bind_eq_some_iff.1 next
    split at found
    · rename_i both
      refine ⟨⟨s, rfl, both.1, (Option.some.inj found).symm⟩, ?_⟩
      intro _ same
      cases same
      exact both.2
    · cases found
  | exit i faults netdev =>
    obtain ⟨s, rfl, device⟩ := Option.bind_eq_some_iff.1 next
    obtain ⟨w, found, last⟩ := Option.bind_eq_some_iff.1 device
    split at last
    · rename_i present
      exact ⟨⟨s, rfl, ⟨w, found, present⟩, (Option.some.inj last).symm⟩, trivial⟩
    · cases last

/-- A device without ports and one with a port come, and the first goes. -/
def comeAndGo : List WpcCall :=
  [.init 0 [] [] fun _ => none,
    .init 0 [⟨0, .PF, 1⟩] [] fun _ => some ⟨[], 1, 0⟩,
    .exit 0 [] fun _ => none]

/-- A device whose DPLL fails when its PPS and EEC device are registered. -/
def failing : WpcCall := .init 0 [] (List.replicate 10 none ++ [some .ENOMEM]) fun _ => none

/-- The second device is left, and nothing of a third one that cannot be set up. -/
theorem wpc_leaves_no_trace_comeAndGo :
    ∃ s t, s.devs.length = 1 ∧ LeavesNoTrace (some s) ∧ s.next failing = some t ∧
      t.kernel.view = s.kernel.view := by
  have start : (wpcRegistrySystem.guard PinIdsLast).Reachable (some ⟨.loaded, []⟩) :=
    .init ⟨_, rfl, rfl, rfl, rfl, rfl, rfl, le_rfl⟩
  obtain ⟨x, reachable, passes⟩ := start.exists_of_follow comeAndGo
    (fun x => x.any fun s => s.devs.length = 1 ∧ s.kernel.pinIdsLast (nsimPinKeys []) ∧
      ((nsimDpllInit 0 []).exec { s.kernel with
        faults := List.replicate 10 none ++ [some .ENOMEM], netdev := fun _ => none }).any
          fun after => !after.1.isOk)
    (fun _ _ _ _ => step_of_afterWpcCall) (by decide +kernel)
  obtain ⟨s, rfl, test⟩ := (Option.any_eq_true _ _).1 passes
  obtain ⟨one, lasts, fails⟩ := of_decide_eq_true test
  obtain ⟨⟨result, kernel⟩, run, failed⟩ := (Option.any_eq_true _ _).1 fails
  cases result with
  | ok d => cases failed
  | error e =>
    have next : s.next failing = some ⟨kernel, s.devs⟩ := WpcRegistry.next_init_error run
    have step : (wpcRegistrySystem.guard PinIdsLast).step (some s) failing
        (some ⟨kernel, s.devs⟩) := by
      refine ⟨⟨s, rfl, fun _ mem => absurd mem List.not_mem_nil, next.symm⟩, ?_⟩
      intro _ same
      cases same
      exact lasts
    exact ⟨s, _, one, (wpc_leaves_no_trace _ reachable).1, next,
      (wpc_leaves_no_trace _ reachable).2.2 s failing _ rfl step rfl⟩

/-- When the running id of pins starts over, setting up a device goes wrong. -/
theorem wpc_init_goes_wrong_pinIdsOver :
    ¬∀ x, wpcRegistrySystem.Reachable x → LeavesNoTrace x := by
  intro always
  have start : wpcRegistrySystem.Reachable (some ⟨pinIdsOver, []⟩) :=
    .init ⟨_, rfl, rfl, rfl, rfl, rfl, rfl, le_rfl⟩
  have wrong : WpcRegistry.next ⟨pinIdsOver, []⟩ (.init 0 [] [] fun _ => none) = none := by
    decide +kernel
  have step : wpcRegistrySystem.step (some ⟨pinIdsOver, []⟩) (.init 0 [] [] fun _ => none) none :=
    ⟨_, rfl, fun _ mem => absurd mem List.not_mem_nil, wrong.symm⟩
  obtain ⟨s, none, -⟩ := always none (start.step step)
  cases none

end Netdevsim
