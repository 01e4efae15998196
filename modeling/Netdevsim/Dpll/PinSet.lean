import Netdevsim.Dpll.Netlink
import Netdevsim.Dpll.OnPin

/-!
# Setting a value on all devices of a pin

A request that passes the checks reads the value of the first device and, unless that is the
requested one, sets the value device by device.  When a device fails, those before it get the value
that was read from the first.
-/

namespace Netdevsim

open Program

variable {δ α : Type}

/-! ## Calls of the core and of the drivers -/

section Rules

variable {s : NlState δ}

theorem exec_onKernel (m : KernelM α) (s : NlState δ) : (onKernel m).exec s =
    (m.exec s.kernel).map fun out => (out.1, { s with kernel := out.2 }) := rfl

/-- A part of the core that only reads. -/
theorem exec_onKernel_of_read {m : KernelM α} {a : α}
    (run : m.exec s.kernel = some (.ok a, s.kernel)) :
    (onKernel m).exec s = some (.ok a, s) := by
  rw [exec_onKernel, run]
  rfl

theorem exec_callDriver (call : PinOpsCall) (callback : δ → Except Errno α × δ) (s : NlState δ) :
    (callDriver call callback).exec s = some ((callback s.driver).1,
      { s with driver := (callback s.driver).2, calls := s.calls ++ [call] }) := by
  have reads : (get : NlM δ (NlState δ)).exec s = some (.ok s, s) := rfl
  unfold callDriver
  rw [exec_bind_of_ok reads, exec_bind]
  cases (callback s.driver).1 <;> rfl

theorem exec_nlSetErrMsg (msg : String) (s : NlState δ) : (nlSetErrMsg msg).exec s =
    some (.ok (), { s with extack := { s.extack with msg := some msg } }) := rfl

theorem exec_readDriver (call : PinOpsCall) (callback : δ → Except Errno α) (s : NlState δ) :
    (readDriver call callback).exec s =
      some (callback s.driver, { s with calls := s.calls ++ [call] }) :=
  exec_callDriver ..

end Rules

/-! ## The devices of a pin -/

/-- The callbacks of the first registration of a reference. -/
def DpllPinRef.callbacks (ops : Ptr → PinCallbacks δ) (ref : DpllPinRef) : Option (PinCallbacks δ) :=
  (dpllPinRegistrationFirst ref).map fun reg => ops reg.ops.addr

/-- The arguments of a callback for a pin on a device. -/
def KernelState.pinArgs (k : KernelState) (dpll pin : Ptr) : Option PinArgs :=
  match (dpllPinArgs dpll pin).exec k with
  | some (.ok args, _) => some args
  | _ => none

/-- The pin is registered on one or more devices, which are registered themselves. -/
structure OnDevices (k : KernelState) (p : DpllPin) : Prop where
  nonempty : p.dpllRefs.values ≠ []
  regs : ∀ ref ∈ p.dpllRefs.values, ref.registrationList ≠ []
  devices : ∀ ref ∈ p.dpllRefs.values, ∃ d, k.device ref.target = some d ∧ d.registrationList ≠ []

section Devices

variable {k : KernelState} {pin dpll : Ptr} {p : DpllPin} {ref : DpllPinRef}

theorem exec_dpllPinOps {reg : DpllPinRegistration}
    (first : dpllPinRegistrationFirst ref = some reg) :
    (dpllPinOps ref).exec k = some (.ok reg.ops, k) := by
  unfold dpllPinOps
  rw [first]
  rfl

/-- A device and a pin on it name their private data. -/
theorem exec_dpllPinArgs (inv : RegistryInvariant k) (live : k.pin pin = some p)
    (ready : OnDevices k p) (mem : ref ∈ p.dpllRefs.values) :
    ∃ args, (dpllPinArgs ref.target pin).exec k = some (.ok args, k) ∧ args.pin = pin ∧
      args.parent = ref.target := by
  obtain ⟨d, liveD, regsD⟩ := ready.devices ref mem
  obtain ⟨e, memE, rfl⟩ := XArray.mem_values.1 mem
  have same := inv.agree _ d liveD pin p live
  rw [(inv.dpllRefs pin p live).contents_of_mem memE] at same
  -- The reference of the device to the pin is at the index of the pin.
  obtain ⟨e', memE', value⟩ := ((inv.pinRefs _ d liveD).contents_eq_some_iff).1 same
  have at' := (inv.pinRefs _ d liveD e' memE').1
  rw [value, pinKey_of_live live, Option.some.injEq] at at'
  have load : d.pinRefs.load p.pinIdx.toNat = some e'.value := by
    rw [at']
    exact XArray.load_eq_some_iff.2 ⟨e', memE', rfl, rfl⟩
  have regs := ready.regs _ mem
  obtain ⟨reg, tail, list⟩ := List.exists_cons_of_ne_nil regs
  obtain ⟨regD, tailD, listD⟩ := List.exists_cons_of_ne_nil regsD
  have priv : (dpllPinOnDpllPriv e.value.target pin).exec k = some (.ok reg.priv, k) := by
    show (derefDevice e.value.target >>= fun d => derefPin pin >>= fun p =>
      dpllPinPrivAt d.pinRefs p.pinIdx.toNat).exec k = _
    rw [exec_bind_of_ok (exec_derefDevice liveD), exec_bind_of_ok (exec_derefPin live)]
    unfold dpllPinPrivAt
    rw [load]
    have first : dpllPinRegistrationFirst e'.value = some reg := by
      rw [value]
      show e.value.registrationList.head? = some reg
      rw [list]
      rfl
    dsimp only
    rw [first]
    rfl
  have privD : (dpllPriv e.value.target).exec k = some (.ok regD.priv, k) := by
    unfold dpllPriv dpllDeviceRegistrationFirst
    rw [exec_bind, exec_bind_of_ok (exec_derefDevice liveD), listD]
    rfl
  refine ⟨⟨pin, reg.priv, e.value.target, regD.priv⟩, ?_, rfl, rfl⟩
  unfold dpllPinArgs
  rw [exec_bind, priv]
  dsimp only
  rw [exec_bind, privD]
  rfl

theorem exists_pinArgs (inv : RegistryInvariant k) (live : k.pin pin = some p)
    (ready : OnDevices k p) (mem : ref ∈ p.dpllRefs.values) :
    ∃ args, k.pinArgs ref.target pin = some args ∧
      (dpllPinArgs ref.target pin).exec k = some (.ok args, k) ∧ args.pin = pin ∧
      args.parent = ref.target := by
  obtain ⟨args, run, own, target⟩ := exec_dpllPinArgs inv live ready mem
  refine ⟨args, ?_, run, own, target⟩
  unfold KernelState.pinArgs
  rw [run]

end Devices

section

variable {s : NlState δ} {pin : Ptr} {p : DpllPin}

theorem exec_changeNtf (inv : RegistryInvariant s.kernel) (live : s.kernel.pin pin = some p) :
    ∃ t, (_dpllPinChangeNtf pin).exec s = some (.ok (), t) ∧ t.driver = s.driver ∧
      t.extack = s.extack ∧ t.calls = s.calls := by
  have complete : Completes (dpllPinEventSend .change pin) s.kernel :=
    completes_dpllPinEventSend live (inv.parents live) (inv.targets live)
  obtain ⟨result, k, run⟩ := complete.exists
  cases result with
  | ok u => exact ⟨{ s with kernel := k }, by rw [_dpllPinChangeNtf, exec_onKernel, run]; rfl,
      rfl, rfl, rfl⟩
  | error e => exact (exec_error_of_wp (neverFails_dpllPinEventSend .change pin s.kernel) run).elim

end

/-! ## One device -/

/-- A loop whose body does nothing. -/
theorem exec_forM_of_idle {β : Type} {xs : List β} {g : β → NlM δ PUnit} {s : NlState δ}
    (idle : ∀ x ∈ xs, (g x).exec s = some (.ok (), s)) : (xs.forM g).exec s = some (.ok (), s) := by
  induction xs with
  | nil => rfl
  | cons x xs ih =>
    show (g x >>= fun _ => xs.forM g).exec s = _
    rw [exec_bind_of_ok (idle x List.mem_cons_self)]
    exact ih fun y mem => idle y (List.mem_cons_of_mem _ mem)

namespace PinSetting

variable (S : PinSetting δ α) (ops : Ptr → PinCallbacks δ)

/-- Both callbacks for the pin on a device are there. -/
def HasCallbacks (ref : DpllPinRef) : Prop :=
  ∃ cb, ref.callbacks ops = some cb ∧ (S.setter cb).isSome ∧ (S.getter cb).isSome

/-- What the first device of a pin answers when it is asked for the value. -/
def reads (k : KernelState) (driver : δ) (pin : Ptr) (p : DpllPin) : Option (Except Errno α) := do
  let ref ← p.dpllRefs.values.head?
  let cb ← ref.callbacks ops
  let getter ← S.getter cb
  let args ← k.pinArgs ref.target pin
  return getter args driver

variable {S ops} {s : NlState δ} {k : KernelState} {pin : Ptr} {p : DpllPin} {ref : DpllPinRef}
  {args : PinArgs} {value old : α}

variable (S ops s) in
theorem exec_checkCallbacks (regs : ref.registrationList ≠ []) :
    (S.HasCallbacks ops ref → (S.checkCallbacks ops ref).exec s = some (.ok (), s)) ∧
      (¬S.HasCallbacks ops ref → (S.checkCallbacks ops ref).exec s = some (.error .EOPNOTSUPP,
        { s with extack := { s.extack with msg := some S.noCallback } })) := by
  obtain ⟨reg, tail, list⟩ := List.exists_cons_of_ne_nil regs
  have first : dpllPinRegistrationFirst ref = some reg := by
    unfold dpllPinRegistrationFirst
    rw [list]
    rfl
  have ops' : ref.callbacks ops = some (ops reg.ops.addr) := by
    unfold DpllPinRef.callbacks
    rw [first]
    rfl
  have has : S.HasCallbacks ops ref ↔
      (S.setter (ops reg.ops.addr)).isSome ∧ (S.getter (ops reg.ops.addr)).isSome := by
    unfold HasCallbacks
    rw [ops']
    simp
  unfold checkCallbacks
  rw [exec_bind_of_ok (exec_onKernel_of_read (exec_dpllPinOps first)), has]
  cases S.setter (ops reg.ops.addr) <;> cases S.getter (ops reg.ops.addr)
  · exact ⟨fun both => absurd both.1 nofun, fun _ => rfl⟩
  · exact ⟨fun both => absurd both.1 nofun, fun _ => rfl⟩
  · exact ⟨fun both => absurd both.2 nofun, fun _ => rfl⟩
  · exact ⟨fun _ => rfl, fun not => absurd ⟨rfl, rfl⟩ not⟩

/-- The callbacks are checked device by device. -/
theorem exec_forM_checkCallbacks {refs : List DpllPinRef}
    (regs : ∀ ref ∈ refs, ref.registrationList ≠ []) (missing : ¬∀ ref ∈ refs, S.HasCallbacks ops ref) :
    (refs.forM (S.checkCallbacks ops)).exec s = some (.error .EOPNOTSUPP,
      { s with extack := { s.extack with msg := some S.noCallback } }) := by
  induction refs with
  | nil => exact absurd (fun _ mem => absurd mem List.not_mem_nil) missing
  | cons ref refs ih =>
    have check := exec_checkCallbacks S ops s (regs ref List.mem_cons_self)
    show (S.checkCallbacks ops ref >>= fun _ => refs.forM (S.checkCallbacks ops)).exec s = _
    by_cases has : S.HasCallbacks ops ref
    · rw [exec_bind_of_ok (check.1 has)]
      refine ih (fun ref' mem => regs ref' (List.mem_cons_of_mem _ mem)) fun rest => missing ?_
      intro ref' mem
      rcases List.mem_cons.1 mem with rfl | mem
      · exact has
      · exact rest ref' mem
    · rw [exec_bind, check.2 has]

/-- The registration whose callbacks are called. -/
theorem exists_setter (has : S.HasCallbacks ops ref)
    (run : (dpllPinArgs ref.target pin).exec k = some (.ok args, k)) :
    ∃ addr setter, S.setter (ops addr) = some setter ∧
      ∀ s : NlState δ, s.kernel = k → ∀ value, (S.setOn ops pin value ref).exec s =
        some ((setter args value s.driver).1, { s with
          driver := (setter args value s.driver).2, calls := s.calls ++ [S.setCall args value] }) := by
  obtain ⟨cb, found, setter, -⟩ := has
  obtain ⟨reg, first, rfl⟩ := Option.map_eq_some_iff.1 found
  obtain ⟨setter, isSetter⟩ := Option.isSome_iff_exists.1 setter
  refine ⟨reg.ops.addr, setter, isSetter, ?_⟩
  rintro s rfl value
  unfold setOn
  rw [exec_bind_of_ok (exec_onKernel_of_read (exec_dpllPinOps first)),
    exec_bind_of_ok (exec_onKernel_of_read run), isSetter]
  exact exec_callDriver ..

theorem exists_getter (has : S.HasCallbacks ops ref)
    (run : (dpllPinArgs ref.target pin).exec k = some (.ok args, k)) :
    ∃ addr getter, S.getter (ops addr) = some getter ∧ ref.callbacks ops = some (ops addr) ∧
      ∀ s : NlState δ, s.kernel = k → (S.getFrom ops pin ref).exec s =
        some (getter args s.driver, { s with calls := s.calls ++ [S.getCall args] }) := by
  obtain ⟨cb, found, -, getter⟩ := has
  obtain ⟨reg, first, rfl⟩ := Option.map_eq_some_iff.1 found
  obtain ⟨getter, isGetter⟩ := Option.isSome_iff_exists.1 getter
  refine ⟨reg.ops.addr, getter, isGetter, found, ?_⟩
  rintro s rfl
  unfold getFrom
  rw [exec_bind_of_ok (exec_onKernel_of_read (exec_dpllPinOps first)),
    exec_bind_of_ok (exec_onKernel_of_read run), isGetter]
  exact exec_readDriver ..

/-! ## How a request goes on -/

variable [DecidableEq α]

variable (ops) in
theorem exec_set_unsupported (live : s.kernel.pin pin = some p)
    (unsupported : S.supported p.prop value = false) : (S.set ops pin value).exec s =
      some (.error .EINVAL, { s with extack := ⟨some S.notSupported, some (S.attr value)⟩ }) := by
  unfold set
  rw [exec_bind_of_ok (exec_onKernel_of_read (exec_derefPin live)), unsupported]
  rfl

/-- The check of the value is passed. -/
theorem exec_set_supported (live : s.kernel.pin pin = some p)
    (supported : S.supported p.prop value = true) : (S.set ops pin value).exec s =
      (p.dpllRefs.values.forM (S.checkCallbacks ops) >>= fun _ =>
        match p.dpllRefs.values.head? with
        | none => goWrong
        | some ref => do
          let old ← unwind (nlSetErrMsg S.noOldValue) (S.getFrom ops pin ref)
          if value ≠ old then
            S.setLoop ops pin value old [] p.dpllRefs.values
            _dpllPinChangeNtf pin : NlM δ Unit).exec s := by
  unfold set
  rw [exec_bind_of_ok (exec_onKernel_of_read (exec_derefPin live)), supported]
  rfl

theorem exec_set_noCallback (live : s.kernel.pin pin = some p) (ready : OnDevices s.kernel p)
    (supported : S.supported p.prop value = true)
    (missing : ¬∀ ref ∈ p.dpllRefs.values, S.HasCallbacks ops ref) :
    (S.set ops pin value).exec s = some (.error .EOPNOTSUPP,
      { s with extack := { s.extack with msg := some S.noCallback } }) := by
  rw [exec_set_supported live supported, exec_bind, exec_forM_checkCallbacks ready.regs missing]

/-- The first device is asked for its value. -/
theorem exec_set_reads (value : α) (inv : RegistryInvariant s.kernel) (live : s.kernel.pin pin = some p)
    (ready : OnDevices s.kernel p) (supported : S.supported p.prop value = true)
    (has : ∀ ref ∈ p.dpllRefs.values, S.HasCallbacks ops ref) :
    ∃ args answer, S.reads ops s.kernel s.driver pin p = some answer ∧
      (∃ ref addr getter, p.dpllRefs.values.head? = some ref ∧ args.parent = ref.target ∧
        S.getter (ops addr) = some getter ∧ answer = getter args s.driver) ∧
      (S.set ops pin value).exec s = match answer with
        | .error e => some (.error e, { s with
            extack := { s.extack with msg := some S.noOldValue }
            calls := s.calls ++ [S.getCall args] })
        | .ok old => (if value ≠ old then
            S.setLoop ops pin value old [] p.dpllRefs.values >>= fun _ => _dpllPinChangeNtf pin
          else return () : NlM δ Unit).exec { s with calls := s.calls ++ [S.getCall args] } := by
  obtain ⟨ref, tail, list⟩ := List.exists_cons_of_ne_nil ready.nonempty
  have mem : ref ∈ p.dpllRefs.values := by rw [list]; exact List.mem_cons_self
  obtain ⟨args, pure, run, -, target⟩ := exists_pinArgs inv live ready mem
  obtain ⟨addr, getter, isGetter, found, get⟩ := exists_getter (has ref mem) run
  refine ⟨args, getter args s.driver, ?_, ⟨ref, addr, getter, ?_, target, isGetter, rfl⟩, ?_⟩
  · simp only [reads, list, List.head?_cons, Option.bind_eq_bind, Option.bind_some, found, isGetter,
      pure]
    rfl
  · rw [list, List.head?_cons]
  · have check : (p.dpllRefs.values.forM (S.checkCallbacks ops)).exec s = some (.ok (), s) :=
      exec_forM_of_idle fun ref mem => (exec_checkCallbacks S ops s (ready.regs ref mem)).1 (has ref mem)
    rw [exec_set_supported live supported, exec_bind_of_ok check, list, List.head?_cons]
    dsimp only
    rw [exec_bind, exec_unwind, get s rfl]
    cases getter args s.driver with
    | error e => rfl
    | ok old => rfl

end PinSetting

/-- The callbacks of a device can be called. -/
structure Settable (S : PinSetting δ α) (ops : Ptr → PinCallbacks δ) (k : KernelState) (pin : Ptr)
    (ref : DpllPinRef) : Prop where
  has : S.HasCallbacks ops ref
  args : ∃ args, (dpllPinArgs ref.target pin).exec k = some (.ok args, k) ∧ args.pin = pin ∧
    args.parent = ref.target
  device : ∃ d, k.device ref.target = some d

theorem settable_of_ready {S : PinSetting δ α} {ops : Ptr → PinCallbacks δ} {k : KernelState}
    {pin : Ptr} {p : DpllPin} (inv : RegistryInvariant k) (live : k.pin pin = some p)
    (ready : OnDevices k p) (has : ∀ ref ∈ p.dpllRefs.values, S.HasCallbacks ops ref) :
    ∀ ref ∈ p.dpllRefs.values, Settable S ops k pin ref := by
  intro ref mem
  obtain ⟨d, liveD, -⟩ := ready.devices ref mem
  exact ⟨has ref mem, exec_dpllPinArgs inv live ready mem, d, liveD⟩

/-! ## Which calls are made -/

/-- Calls are only added to those made, and no attribute is reported. -/
def logFrame : Frame (NlState δ) where
  rel s t := s.calls <+: t.calls ∧ t.extack.badAttr = s.extack.badAttr
  refl _ := ⟨List.prefix_rfl, rfl⟩
  trans first second := ⟨first.1.trans second.1, second.2.trans first.2⟩

section Log

theorem keeps_onKernel (m : KernelM α) : Keeps logFrame (onKernel m : NlM δ α) := by
  intro s
  unfold wp
  rw [exec_onKernel]
  cases m.exec s.kernel with
  | none => trivial
  | some out =>
    obtain ⟨result, k⟩ := out
    cases result <;> exact logFrame.refl s

theorem keeps_callDriver (call : PinOpsCall) (callback : δ → Except Errno α × δ) :
    Keeps logFrame (callDriver call callback) := by
  intro s
  rw [wp_of_run (exec_callDriver ..)]
  cases (callback s.driver).1 <;> exact ⟨List.prefix_append .., rfl⟩

theorem keeps_nlSetErrMsg (msg : String) : Keeps logFrame (nlSetErrMsg msg : NlM δ Unit) :=
  keeps_modify fun _ => ⟨List.prefix_rfl, rfl⟩

theorem keeps_attempt {F : Frame (NlState δ)} {m : NlM δ α} (body : Keeps F m) :
    Keeps F (attempt m) := by
  intro s
  rw [wp_attempt]
  exact body s

variable {S : PinSetting δ α} {ops : Ptr → PinCallbacks δ} {pin : Ptr} {v old : α}

theorem keeps_setOn (ref : DpllPinRef) : Keeps logFrame (S.setOn ops pin v ref) := by
  refine (keeps_onKernel _).bind fun o => (keeps_onKernel _).bind fun args => ?_
  split
  · exact keeps_callDriver _ _
  · exact keeps_goWrong

theorem keeps_rollback (done : List DpllPinRef) : Keeps logFrame (S.rollback ops pin old done) := by
  refine keeps_forM fun ref _ => (keeps_attempt (keeps_setOn ref)).bind fun ok => ?_
  cases ok
  · exact keeps_nlSetErrMsg _
  · exact keeps_pure _

/-- What follows a failed set call. -/
theorem keeps_failed (done : List DpllPinRef) (ref : DpllPinRef) : Keeps logFrame (do
    let d ← onKernel (derefDevice ref.target)
    nlSetErrMsg (S.failed d.id)
    S.rollback ops pin old done) :=
  (keeps_onKernel _).bind fun _ => (keeps_nlSetErrMsg _).bind fun _ => keeps_rollback done

theorem keeps_setLoop (done refs : List DpllPinRef) :
    Keeps logFrame (S.setLoop ops pin v old done refs) := by
  induction refs generalizing done with
  | nil => exact keeps_pure _
  | cons ref refs ih =>
    exact ((keeps_failed done ref).unwind (keeps_setOn ref)).bind fun _ => ih _

end Log

namespace PinSetting

variable {S : PinSetting δ α} {ops : Ptr → PinCallbacks δ} {s : NlState δ} {pin : Ptr}
  {p : DpllPin} {ref : DpllPinRef} {v old : α}

/-- A set call, whatever the driver answers. -/
theorem exec_setOn (settable : Settable S ops s.kernel pin ref) (v : α) :
    ∃ r t args, (S.setOn ops pin v ref).exec s = some (r, t) ∧ t.kernel = s.kernel ∧
      t.calls = s.calls ++ [S.setCall args v] := by
  obtain ⟨args, run, -, -⟩ := settable.args
  obtain ⟨addr, setter, -, set⟩ := exists_setter settable.has run
  exact ⟨_, _, args, set s rfl v, rfl, rfl⟩

theorem completes_rollback (old : α) {done : List DpllPinRef}
    (settable : ∀ ref ∈ done, Settable S ops s.kernel pin ref) :
    ∃ t, (S.rollback ops pin old done).exec s = some (.ok (), t) ∧ t.kernel = s.kernel := by
  induction done generalizing s with
  | nil => exact ⟨s, rfl, rfl⟩
  | cons ref done ih =>
    obtain ⟨r, t, args, set, kernel, -⟩ := exec_setOn (settable ref List.mem_cons_self) old
    -- Whether the call fails decides about a message only.
    have tried : ∃ t', ((do
        if !(← attempt (S.setOn ops pin old ref)) then nlSetErrMsg S.rollbackFailed) :
          NlM δ Unit).exec s = some (.ok (), t') ∧ t'.kernel = s.kernel := by
      unfold attempt
      rw [exec_bind, exec_tryCatch, exec_bind, set]
      cases r
      · exact ⟨_, rfl, kernel⟩
      · exact ⟨_, rfl, kernel⟩
    obtain ⟨t', one, kernel'⟩ := tried
    obtain ⟨u, run, kernel''⟩ := ih (s := t')
      (fun ref' mem => kernel' ▸ settable ref' (List.mem_cons_of_mem _ mem))
    refine ⟨u, ?_, kernel''.trans kernel'⟩
    show ((do
      if !(← attempt (S.setOn ops pin old ref)) then nlSetErrMsg S.rollbackFailed) >>= fun _ =>
        S.rollback ops pin old done : NlM δ Unit).exec s = _
    rw [exec_bind_of_ok one]
    exact run

theorem completes_setLoop (v old : α) (done refs : List DpllPinRef)
    (settable : ∀ ref ∈ done ++ refs, Settable S ops s.kernel pin ref) :
    ∃ r t, (S.setLoop ops pin v old done refs).exec s = some (r, t) ∧ t.kernel = s.kernel := by
  induction refs generalizing s done with
  | nil => exact ⟨_, s, rfl, rfl⟩
  | cons ref refs ih =>
    have here : Settable S ops s.kernel pin ref := settable ref (by simp)
    obtain ⟨r, t, args, set, kernel, -⟩ := exec_setOn here v
    cases r with
    | ok a =>
      obtain ⟨r, u, run, kernel'⟩ := ih (s := t) (done ++ [ref]) (by simpa [kernel] using settable)
      refine ⟨r, u, ?_, kernel'.trans kernel⟩
      unfold setLoop
      rw [exec_bind, exec_unwind, set]
      exact run
    | error e =>
      obtain ⟨d, live⟩ := here.device
      obtain ⟨u, run, kernel'⟩ := completes_rollback
        (s := { t with extack := { t.extack with msg := some (S.failed d.id) } }) old
        (fun ref' mem => kernel ▸ settable ref' (List.mem_append_left _ mem))
      have message : (onKernel (derefDevice ref.target) : NlM δ DpllDevice).exec t =
          some (.ok d, t) := exec_onKernel_of_read (exec_derefDevice (kernel ▸ live))
      refine ⟨.error e, u, ?_, kernel'.trans kernel⟩
      unfold setLoop
      rw [exec_bind, exec_unwind, set]
      dsimp only
      rw [exec_bind, exec_bind, message]
      dsimp only
      rw [exec_bind, exec_nlSetErrMsg]
      dsimp only
      rw [run]
      rfl

/-- The first device's callback is called. -/
theorem setCall_of_setLoop (settable : Settable S ops s.kernel pin ref) (v old : α)
    (done refs : List DpllPinRef) : ∃ args,
      wp (S.setLoop ops pin v old done (ref :: refs)) (fun _ t => S.setCall args v ∈ t.calls)
        (fun _ t => S.setCall args v ∈ t.calls) s := by
  obtain ⟨r, t, args, set, -, calls⟩ := exec_setOn settable v
  have logged : S.setCall args v ∈ t.calls := by
    rw [calls]
    simp
  have stable : ∀ u u' : NlState δ, logFrame.rel u u' → S.setCall args v ∈ u.calls →
      S.setCall args v ∈ u'.calls := fun _ _ within mem => within.1.subset mem
  refine ⟨args, ?_⟩
  unfold setLoop
  rw [wp_bind, wp_unwind, wp_of_run set]
  -- What follows the first call only adds to the log.
  cases r with
  | ok a => exact (keeps_setLoop _ _).preserves stable logged
  | error e => exact (keeps_failed done ref).preserves stable logged

/-- The loop over one or more devices and the notification: the callback is called with the value,
and no attribute is reported. -/
theorem exec_setLoop_calls (v old : α) (inv : RegistryInvariant s.kernel)
    (live : s.kernel.pin pin = some p) (ready : OnDevices s.kernel p)
    (settable : ∀ ref ∈ p.dpllRefs.values, Settable S ops s.kernel pin ref) :
    ∃ r t args, (S.setLoop ops pin v old [] p.dpllRefs.values >>= fun _ =>
        _dpllPinChangeNtf pin).exec s = some (r, t) ∧ S.setCall args v ∈ t.calls ∧
      t.extack.badAttr = s.extack.badAttr := by
  obtain ⟨ref, tail, list⟩ := List.exists_cons_of_ne_nil ready.nonempty
  obtain ⟨args, logs⟩ := setCall_of_setLoop (settable ref (by rw [list]; simp)) v old [] tail
  rw [← list] at logs
  have frame : wp (S.setLoop ops pin v old [] p.dpllRefs.values) (fun _ => logFrame.rel s)
      (fun _ => logFrame.rel s) s := keeps_setLoop _ _ s
  obtain ⟨r, t, run, kernel⟩ := completes_setLoop v old [] p.dpllRefs.values settable
  rw [wp_of_run run] at logs frame
  cases r with
  | ok a =>
    obtain ⟨u, sent, -, extack, calls⟩ := exec_changeNtf (s := t) (kernel ▸ inv) (kernel ▸ live)
    exact ⟨_, u, args, by rw [exec_bind_of_ok run, sent], calls ▸ logs, extack ▸ frame.2⟩
  | error e => exact ⟨_, t, args, by rw [exec_bind, run], logs, frame.2⟩

end PinSetting

end Netdevsim
