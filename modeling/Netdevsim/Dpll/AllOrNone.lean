import Netdevsim.Dpll.PinSet

/-!
# A value is set on all devices or on none

The value of the first device stands for those of all when a request is ended early and when it is
rolled back.  So a request leaves the devices in step exactly if they were.
-/

namespace Netdevsim

open Program

variable {δ α : Type}

/-! ## Drivers that keep values -/

/-- Drivers that keep a value for each pin and each device of it.  A set call gives the value to the
device that it is for.  Only the call that `failing` counts down to fails, and it changes nothing. -/
structure KeepsValues (S : PinSetting δ α) (ops : Ptr → PinCallbacks δ) where
  value : δ → Ptr × Ptr → α
  failing : δ → Option (ℕ × Errno)
  get : ∀ {addr getter}, S.getter (ops addr) = some getter → ∀ {args driver v},
    getter args driver = .ok v → v = value driver (args.pin, args.parent)
  set : ∀ {addr setter}, S.setter (ops addr) = some setter → ∀ args v driver,
    (∀ e, failing driver ≠ some (0, e)) → (setter args v driver).1 = .ok () ∧
      value (setter args v driver).2 =
        Function.update (value driver) (args.pin, args.parent) v ∧
      failing (setter args v driver).2 = (failing driver).map fun f => (f.1 - 1, f.2)
  fail : ∀ {addr setter}, S.setter (ops addr) = some setter → ∀ args v {driver e},
    failing driver = some (0, e) → (setter args v driver).1 = .error e ∧
      value (setter args v driver).2 = value driver ∧ failing (setter args v driver).2 = none

/-- The values after one was set on some of the devices of a pin. -/
def setOnEach (values : Ptr × Ptr → α) (pin : Ptr) (refs : List DpllPinRef) (v : α) :
    Ptr × Ptr → α :=
  fun q => if q.1 = pin ∧ ∃ ref ∈ refs, ref.target = q.2 then v else values q

section SetOnEach

variable {values : Ptr × Ptr → α} {pin : Ptr} {ref : DpllPinRef} {refs : List DpllPinRef} {v : α}

theorem setOnEach_nil : setOnEach values pin [] v = values := by
  funext q
  simp [setOnEach]

theorem setOnEach_cons : setOnEach (Function.update values (pin, ref.target) v) pin refs v =
    setOnEach values pin (ref :: refs) v := by
  funext q
  obtain ⟨a, b⟩ := q
  unfold setOnEach
  by_cases own : a = pin
  · by_cases there : ∃ ref ∈ refs, ref.target = b
    · obtain ⟨ref', mem, same⟩ := there
      rw [if_pos ⟨own, ref', mem, same⟩, if_pos ⟨own, ref', List.mem_cons_of_mem _ mem, same⟩]
    · rw [if_neg fun both => there both.2]
      by_cases here : ref.target = b
      · subst own here
        rw [Function.update_self, if_pos ⟨rfl, ref, List.mem_cons_self, rfl⟩]
      · rw [Function.update_of_ne fun same => here (Prod.mk.inj same).2.symm, if_neg]
        rintro ⟨-, ref', mem, same⟩
        rcases List.mem_cons.1 mem with rfl | mem
        · exact here same
        · exact there ⟨ref', mem, same⟩
  · rw [if_neg fun both => own both.1, if_neg fun both => own both.1,
      Function.update_of_ne fun same => own (Prod.mk.inj same).1]

theorem setOnEach_of_mem (mem : ref ∈ refs) : setOnEach values pin refs v (pin, ref.target) = v :=
  if_pos ⟨rfl, ref, mem, rfl⟩

theorem setOnEach_of_not {q : Ptr} (away : ∀ ref ∈ refs, ref.target ≠ q) :
    setOnEach values pin refs v (pin, q) = values (pin, q) :=
  if_neg fun ⟨_, ref, mem, same⟩ => away ref mem same

end SetOnEach

namespace KeepsValues

variable {S : PinSetting δ α} {ops : Ptr → PinCallbacks δ} (F : KeepsValues S ops)
  {s : NlState δ} {pin : Ptr} {ref : DpllPinRef} {v old : α} {e : Errno}

/-- A set call that does not fail. -/
theorem setOn_ok (settable : Settable S ops s.kernel pin ref)
    (fine : ∀ e, F.failing s.driver ≠ some (0, e)) (v : α) :
    ∃ t, (S.setOn ops pin v ref).exec s = some (.ok (), t) ∧ t.kernel = s.kernel ∧
      F.value t.driver = Function.update (F.value s.driver) (pin, ref.target) v ∧
      F.failing t.driver = (F.failing s.driver).map fun f => (f.1 - 1, f.2) := by
  obtain ⟨args, run, own, target⟩ := settable.args
  obtain ⟨addr, setter, isSetter, set⟩ := PinSetting.exists_setter settable.has run
  obtain ⟨ok, value, failing⟩ := F.set isSetter args v s.driver fine
  rw [own, target] at value
  exact ⟨{ s with driver := (setter args v s.driver).2, calls := s.calls ++ [S.setCall args v] },
    by rw [set s rfl v, ok], rfl, value, failing⟩

/-- The set call that fails. -/
theorem setOn_error (settable : Settable S ops s.kernel pin ref)
    (now : F.failing s.driver = some (0, e)) (v : α) :
    ∃ t, (S.setOn ops pin v ref).exec s = some (.error e, t) ∧ t.kernel = s.kernel ∧
      F.value t.driver = F.value s.driver ∧ F.failing t.driver = none := by
  obtain ⟨args, run, own, target⟩ := settable.args
  obtain ⟨addr, setter, isSetter, set⟩ := PinSetting.exists_setter settable.has run
  obtain ⟨error, value, failing⟩ := F.fail isSetter args v now
  exact ⟨{ s with driver := (setter args v s.driver).2, calls := s.calls ++ [S.setCall args v] },
    by rw [set s rfl v, error], rfl, value, failing⟩

/-- The rollback sets the old value on the devices that were set. -/
theorem exec_rollback (old : α) {done : List DpllPinRef}
    (settable : ∀ ref ∈ done, Settable S ops s.kernel pin ref) (fine : F.failing s.driver = none) :
    ∃ t, (S.rollback ops pin old done).exec s = some (.ok (), t) ∧
      F.value t.driver = setOnEach (F.value s.driver) pin done old := by
  induction done generalizing s with
  | nil => exact ⟨s, rfl, setOnEach_nil.symm⟩
  | cons ref done ih =>
    obtain ⟨t, set, kernel, value, failing⟩ := F.setOn_ok (settable ref List.mem_cons_self)
      (by simp [fine]) old
    rw [fine] at failing
    obtain ⟨u, run, value'⟩ := ih (s := t)
      (fun ref' mem => kernel ▸ settable ref' (List.mem_cons_of_mem _ mem)) failing
    refine ⟨u, ?_, ?_⟩
    · show ((do
        if !(← attempt (S.setOn ops pin old ref)) then nlSetErrMsg S.rollbackFailed) >>= fun _ =>
          S.rollback ops pin old done : NlM δ Unit).exec s = _
      have tried : (attempt (S.setOn ops pin old ref)).exec s = some (.ok true, t) := by
        unfold attempt
        rw [exec_tryCatch, exec_bind, set]
        rfl
      rw [exec_bind, exec_bind, tried]
      exact run
    · rw [value', value, setOnEach_cons]

/-- The loop when no call in it fails. -/
theorem exec_setLoop_ok (v old : α) (done refs : List DpllPinRef)
    (settable : ∀ ref ∈ refs, Settable S ops s.kernel pin ref)
    (fine : ∀ n e, F.failing s.driver = some (n, e) → refs.length ≤ n) :
    ∃ t, (S.setLoop ops pin v old done refs).exec s = some (.ok (), t) ∧ t.kernel = s.kernel ∧
      F.value t.driver = setOnEach (F.value s.driver) pin refs v := by
  induction refs generalizing s done with
  | nil => exact ⟨s, rfl, rfl, setOnEach_nil.symm⟩
  | cons ref refs ih =>
    obtain ⟨t, set, kernel, value, failing⟩ := F.setOn_ok (settable ref List.mem_cons_self)
      (fun e now => absurd (fine 0 e now) (by simp)) v
    have later : ∀ n e, F.failing t.driver = some (n, e) → refs.length ≤ n := by
      intro n e soon
      rw [failing, Option.map_eq_some_iff] at soon
      obtain ⟨⟨m, e'⟩, before, same⟩ := soon
      have le := fine m e' before
      simp only [List.length_cons, Prod.mk.injEq] at le same
      omega
    obtain ⟨u, run, kernel', value'⟩ := ih (s := t) (done ++ [ref])
      (fun ref' mem => kernel ▸ settable ref' (List.mem_cons_of_mem _ mem)) later
    refine ⟨u, ?_, kernel'.trans kernel, ?_⟩
    · unfold PinSetting.setLoop
      rw [exec_bind, exec_unwind, set]
      exact run
    · rw [value', value, setOnEach_cons]

/-- The loop when the call for the device at an index fails. -/
theorem exec_setLoop_error (v old : α) (done refs : List DpllPinRef) {n : ℕ}
    (settable : ∀ ref ∈ done ++ refs, Settable S ops s.kernel pin ref)
    (soon : F.failing s.driver = some (n, e)) (lt : n < refs.length) :
    ∃ t, (S.setLoop ops pin v old done refs).exec s = some (.error e, t) ∧
      F.value t.driver = setOnEach (setOnEach (F.value s.driver) pin (refs.take n) v) pin
        (done ++ refs.take n) old := by
  induction refs generalizing s done n with
  | nil => exact absurd lt (by simp)
  | cons ref refs ih =>
    have mem : ref ∈ done ++ ref :: refs := by simp
    cases n with
    | zero =>
      obtain ⟨t, set, kernel, value, failing⟩ := F.setOn_error (settable ref mem) soon v
      obtain ⟨d, live⟩ := (settable ref mem).device
      -- The message of the failure does not concern the driver.
      obtain ⟨u, run, value'⟩ := F.exec_rollback
        (s := { t with extack := { t.extack with msg := some (S.failed d.id) } }) old
        (fun ref' mem' => kernel ▸ settable ref' (List.mem_append_left _ mem')) failing
      refine ⟨u, ?_, ?_⟩
      · have message : (onKernel (derefDevice ref.target) : NlM δ DpllDevice).exec t =
            some (.ok d, t) := exec_onKernel_of_read (exec_derefDevice (kernel ▸ live))
        unfold PinSetting.setLoop
        rw [exec_bind, exec_unwind, set]
        dsimp only
        rw [exec_bind, exec_bind, message]
        dsimp only
        rw [exec_bind, exec_nlSetErrMsg]
        dsimp only
        rw [run]
        rfl
      · rw [value', value]
        simp [setOnEach_nil]
    | succ n =>
      obtain ⟨t, set, kernel, value, failing⟩ := F.setOn_ok (settable ref mem)
        (by simp [soon]) v
      rw [soon] at failing
      obtain ⟨u, run, value'⟩ := ih (s := t) (n := n) (done ++ [ref])
        (by simpa [kernel] using settable) failing (by simpa using lt)
      refine ⟨u, ?_, ?_⟩
      · unfold PinSetting.setLoop
        rw [exec_bind, exec_unwind, set]
        exact run
      · rw [value', value, setOnEach_cons]
        simp

/-! ## All or none -/

variable {k : KernelState} {p : DpllPin}

/-- The request ends.  If it succeeds, all devices of the pin have the value, and if it fails, they
have the values that they had before. -/
def AllOrNone (m : NlM δ Unit) (s : NlState δ) (pin : Ptr) (p : DpllPin) (v : α) : Prop :=
  ∃ r t, m.exec s = some (r, t) ∧
    (r = .ok () → ∀ ref ∈ p.dpllRefs.values, F.value t.driver (pin, ref.target) = v) ∧
    ∀ e, r = .error e → ∀ ref ∈ p.dpllRefs.values,
      F.value t.driver (pin, ref.target) = F.value s.driver (pin, ref.target)

/-- If the first device is asked for its value and has the requested one, then all devices have it.
If it has another one, then it is also that of each device in front of the one that fails. -/
def FirstSpeaksForAll (s : NlState δ) (pin : Ptr) (p : DpllPin) (v : α) : Prop :=
  S.supported p.prop v = true → (∀ ref ∈ p.dpllRefs.values, S.HasCallbacks ops ref) →
    ∀ old, S.reads ops s.kernel s.driver pin p = some (.ok old) →
      (v = old → ∀ ref ∈ p.dpllRefs.values, F.value s.driver (pin, ref.target) = v) ∧
      (v ≠ old → ∀ n e, F.failing s.driver = some (n, e) → n < p.dpllRefs.values.length →
        ∀ ref ∈ p.dpllRefs.values.take n, F.value s.driver (pin, ref.target) = old)

/-- A request that fails before anything is set. -/
theorem allOrNone_of_unchanged {m : NlM δ Unit} {t : NlState δ}
    (run : m.exec s = some (.error e, t)) (same : t.driver = s.driver) :
    F.AllOrNone m s pin p v := by
  refine ⟨.error e, t, run, nofun, fun _ _ ref _ => ?_⟩
  rw [same]

/-- The loop over the devices sets all of them, or leaves them as they were, exactly if the devices
in front of the failing one had the old value. -/
theorem allOrNone_setLoop_iff (v old : α) (inv : RegistryInvariant s.kernel)
    (live : s.kernel.pin pin = some p)
    (settable : ∀ ref ∈ p.dpllRefs.values, Settable S ops s.kernel pin ref) :
    F.AllOrNone (S.setLoop ops pin v old [] p.dpllRefs.values >>= fun _ => _dpllPinChangeNtf pin)
        s pin p v ↔
      ∀ n e, F.failing s.driver = some (n, e) → n < p.dpllRefs.values.length →
        ∀ ref ∈ p.dpllRefs.values.take n, F.value s.driver (pin, ref.target) = old := by
  by_cases fails : ∃ n e, F.failing s.driver = some (n, e) ∧ n < p.dpllRefs.values.length
  · obtain ⟨n, e, soon, lt⟩ := fails
    obtain ⟨t, run, value⟩ := F.exec_setLoop_error v old [] p.dpllRefs.values settable soon lt
    rw [List.nil_append] at value
    have run' : (S.setLoop ops pin v old [] p.dpllRefs.values >>= fun _ =>
        _dpllPinChangeNtf pin).exec s = some (.error e, t) := by
      rw [exec_bind, run]
    constructor
    · rintro ⟨r, u, there, -, kept⟩ n' e' soon' lt' ref mem
      rw [soon] at soon'
      cases soon'
      rw [run'] at there
      cases there
      have same := kept e rfl ref (List.mem_of_mem_take mem)
      rw [value, setOnEach_of_mem mem] at same
      exact same.symm
    · intro first
      refine ⟨.error e, t, run', nofun, fun _ _ ref mem => ?_⟩
      rw [value]
      by_cases early : ∃ ref' ∈ p.dpllRefs.values.take n, ref'.target = ref.target
      · obtain ⟨ref', mem', same⟩ := early
        rw [← same, setOnEach_of_mem mem', first n e soon lt ref' mem']
      · have away : ∀ ref' ∈ p.dpllRefs.values.take n, ref'.target ≠ ref.target :=
          fun ref' mem' same => early ⟨ref', mem', same⟩
        rw [setOnEach_of_not away, setOnEach_of_not away]
  · have fine : ∀ n e, F.failing s.driver = some (n, e) → p.dpllRefs.values.length ≤ n := by
      intro n e soon
      by_contra lt
      exact fails ⟨n, e, soon, not_le.1 lt⟩
    obtain ⟨t, run, kernel, value⟩ := F.exec_setLoop_ok v old [] p.dpllRefs.values settable fine
    obtain ⟨u, sent, driver, -⟩ := exec_changeNtf (s := t) (kernel ▸ inv) (kernel ▸ live)
    refine iff_of_true ⟨.ok (), u, ?_, fun _ ref mem => ?_, nofun⟩ ?_
    · rw [exec_bind_of_ok run, sent]
    · rw [driver, value, setOnEach_of_mem mem]
    · intro n e soon lt
      exact absurd lt (not_lt.2 (fine n e soon))

/-- A request sets the value on all devices or on none exactly if the first device speaks for all. -/
theorem allOrNone_iff [DecidableEq α] (inv : RegistryInvariant s.kernel) (live : s.kernel.pin pin = some p)
    (ready : OnDevices s.kernel p) :
    F.AllOrNone (S.set ops pin v) s pin p v ↔ F.FirstSpeaksForAll s pin p v := by
  by_cases supported : S.supported p.prop v = true
  swap
  · have refused := PinSetting.exec_set_unsupported ops live (by simpa using supported)
    exact iff_of_true (F.allOrNone_of_unchanged refused rfl) fun yes => absurd yes supported
  by_cases has : ∀ ref ∈ p.dpllRefs.values, S.HasCallbacks ops ref
  swap
  · have refused := PinSetting.exec_set_noCallback live ready supported has
    exact iff_of_true (F.allOrNone_of_unchanged refused rfl) fun _ yes => absurd yes has
  obtain ⟨args, answer, reads, ⟨ref, addr, getter, head, target, isGetter, rfl⟩, run⟩ :=
    PinSetting.exec_set_reads v inv live ready supported has
  cases answer : getter args s.driver with
  | error e =>
    rw [answer] at run reads
    refine iff_of_true (F.allOrNone_of_unchanged run rfl) fun _ _ old there => ?_
    rw [reads] at there
    cases there
  | ok old =>
    rw [answer] at run reads
    have spoken : F.FirstSpeaksForAll s pin p v ↔
        (v = old → ∀ ref ∈ p.dpllRefs.values, F.value s.driver (pin, ref.target) = v) ∧
        (v ≠ old → ∀ n e, F.failing s.driver = some (n, e) → n < p.dpllRefs.values.length →
          ∀ ref ∈ p.dpllRefs.values.take n, F.value s.driver (pin, ref.target) = old) := by
      unfold FirstSpeaksForAll
      rw [reads]
      exact ⟨fun all => all supported has old rfl, fun both _ _ _ same => by cases same; exact both⟩
    rw [spoken]
    by_cases same : v = old
    · dsimp only at run
      rw [if_neg (not_not.2 same)] at run
      constructor
      · rintro ⟨r, t, there, ok, -⟩
        rw [run] at there
        cases there
        exact ⟨fun _ => ok rfl, fun ne => absurd same ne⟩
      · exact fun both => ⟨.ok (), _, run, fun _ => both.1 same, nofun⟩
    · dsimp only at run
      rw [if_pos same] at run
      have loop := F.allOrNone_setLoop_iff v old
        (s := { s with calls := s.calls ++ [S.getCall args] }) inv live
        (settable_of_ready inv live ready has)
      unfold AllOrNone at loop ⊢
      rw [run, loop]
      exact ⟨fun first => ⟨fun eq => absurd eq same, fun _ => first⟩, fun both => both.2 same⟩

end KeepsValues

/-- In every state that calls of the core lead to, a request to set the frequency or the phase
adjustment of a pin on registered devices sets the value on all of them or on none exactly if the
first device speaks for all. -/
theorem pin_values_all_or_none_iff (k : KernelState)
    (reach : (registrySystem.guard fun s a => PutsUnregistered s a.1).Reachable k) {pin : Ptr}
    {p : DpllPin} (live : k.pin pin = some p) (ready : OnDevices k p)
    (ops : Ptr → PinCallbacks δ) (frequencies : KeepsValues pinFrequency ops)
    (phaseAdjs : KeepsValues pinPhaseAdjust ops) (faults : List (Option Errno)) (driver : δ) :
    (∀ freq, frequencies.AllOrNone (dpllPinFreqSet ops pin freq) (.start k faults driver) pin p freq ↔
        frequencies.FirstSpeaksForAll (.start k faults driver) pin p freq) ∧
      ∀ phaseAdj,
        phaseAdjs.AllOrNone (dpllPinPhaseAdjSet ops pin phaseAdj) (.start k faults driver) pin p
            phaseAdj ↔
          phaseAdjs.FirstSpeaksForAll (.start k faults driver) pin p phaseAdj := by
  have inv := (registryInvariant_reachable reach).withFaults faults
  have ready' : OnDevices (NlState.start k faults driver).kernel p :=
    ⟨ready.nonempty, ready.regs, ready.devices⟩
  exact ⟨fun freq => frequencies.allOrNone_iff inv live ready',
    fun phaseAdj => phaseAdjs.allOrNone_iff inv live ready'⟩

/-! ## A pin on two devices -/

/-- The state of drivers that keep the frequency and the phase adjustment of each pin on each
device. -/
structure PinValues where
  freq : Ptr × Ptr → UInt64
  phaseAdj : Ptr × Ptr → Int32
  failing : Option (ℕ × Errno)

/-- A set call, which fails if the count has come to its end. -/
def PinValues.setCall (d stored : PinValues) : Except Errno Unit × PinValues :=
  match d.failing with
  | some (0, e) => (.error e, { d with failing := none })
  | f => (.ok (), { stored with failing := f.map fun f => (f.1 - 1, f.2) })

/-- The callbacks of such drivers. -/
def pinValuesOps : PinCallbacks PinValues where
  frequencySet := some fun args v d =>
    d.setCall { d with freq := Function.update d.freq (args.pin, args.parent) v }
  frequencyGet := some fun args d => .ok (d.freq (args.pin, args.parent))
  directionSet := none
  directionGet := none
  stateOnPinGet := none
  stateOnDpllGet := none
  stateOnPinSet := none
  stateOnDpllSet := none
  prioGet := none
  prioSet := none
  phaseOffsetGet := none
  phaseAdjustGet := some fun args d => .ok (d.phaseAdj (args.pin, args.parent))
  phaseAdjustSet := some fun args v d =>
    d.setCall { d with phaseAdj := Function.update d.phaseAdj (args.pin, args.parent) v }
  ffoGet := none

theorem setCall_ok {d : PinValues} (fine : ∀ e, d.failing ≠ some (0, e)) (stored : PinValues) :
    d.setCall stored =
      (.ok (), { stored with failing := d.failing.map fun f => (f.1 - 1, f.2) }) := by
  unfold PinValues.setCall
  split
  · rename_i e soon
    exact absurd soon (fine e)
  · rfl

theorem setCall_error {d : PinValues} {e : Errno} (now : d.failing = some (0, e))
    (stored : PinValues) : d.setCall stored = (.error e, { d with failing := none }) := by
  unfold PinValues.setCall
  rw [now]
  rfl

def keepsFrequencies : KeepsValues pinFrequency fun _ => pinValuesOps where
  value := PinValues.freq
  failing := PinValues.failing
  get := by
    rintro addr getter ⟨⟩ args driver v ⟨⟩
    rfl
  set := by
    rintro addr setter ⟨⟩ args v driver fine
    dsimp only
    rw [setCall_ok fine]
    exact ⟨rfl, rfl, rfl⟩
  fail := by
    rintro addr setter ⟨⟩ args v driver e now
    dsimp only
    rw [setCall_error now]
    exact ⟨rfl, rfl, rfl⟩

def keepsPhaseAdjs : KeepsValues pinPhaseAdjust fun _ => pinValuesOps where
  value := PinValues.phaseAdj
  failing := PinValues.failing
  get := by
    rintro addr getter ⟨⟩ args driver v ⟨⟩
    rfl
  set := by
    rintro addr setter ⟨⟩ args v driver fine
    dsimp only
    rw [setCall_ok fine]
    exact ⟨rfl, rfl, rfl⟩
  fail := by
    rintro addr setter ⟨⟩ args v driver e now
    dsimp only
    rw [setCall_error now]
    exact ⟨rfl, rfl, rfl⟩

/-- A pin with frequencies up to 10. -/
def tunablePin : DpllPinProperties :=
  ⟨none, none, none, DPLL_PIN_TYPE_GNSS, 0, [(0, 10)], (0, 10)⟩

/-- Two devices and a pin on both, at the addresses 16, 17 and 18. -/
def onTwoDevices : List (DpllCall × List (Option Errno)) :=
  [(.deviceGet 0 0 1, []), (.deviceGet 0 1 1, []), (.pinGet 0 0 1 tunablePin, []),
    (.deviceRegister 16 DPLL_TYPE_PPS ⟨3, true, true⟩ 5, []),
    (.deviceRegister 17 DPLL_TYPE_EEC ⟨3, true, true⟩ 6, []),
    (.pinRegister 16 18 plainPinOps 3, []), (.pinRegister 17 18 plainPinOps 3, [])]

/-- The test of a pin on registered devices. -/
def onDevices (k : KernelState) (p : DpllPin) : Bool :=
  p.dpllRefs.values ≠ [] && p.dpllRefs.values.all fun ref =>
    ref.registrationList ≠ [] && (k.device ref.target).any fun d => d.registrationList ≠ []

theorem onDevices_iff {k : KernelState} {p : DpllPin} : onDevices k p = true ↔ OnDevices k p := by
  unfold onDevices
  simp only [Bool.and_eq_true, decide_eq_true_eq, List.all_eq_true, Option.any_eq_true]
  exact ⟨fun h => ⟨h.1, fun ref mem => (h.2 ref mem).1, fun ref mem => (h.2 ref mem).2⟩,
    fun h => ⟨h.nonempty, fun ref mem => ⟨h.regs ref mem, h.devices ref mem⟩⟩⟩

/-- The device at 16 has the frequency 1, and that at 17 has 2. -/
def outOfStep : PinValues := ⟨fun q => if q.2 = 16 then 1 else 2, fun _ => 0, none⟩

/-- The pin is on both devices, and the first one answers with its frequency. -/
def twoDevicesTest (k : KernelState) : Bool :=
  (k.pin 18).any fun p => onDevices k p && (p.dpllRefs.values.any fun ref => ref.target = 17) &&
    p.prop.freqSupported = [(0, 10)] &&
    (pinFrequency.reads (fun _ => pinValuesOps) { k with faults := [] } outOfStep 18 p =
      some (.ok 1))

theorem exists_onTwoDevices : ∃ k p,
    (registrySystem.guard fun s a => PutsUnregistered s a.1).Reachable k ∧ k.pin 18 = some p ∧
      OnDevices k p ∧ (∃ ref ∈ p.dpllRefs.values, ref.target = 17) ∧
      p.prop.freqSupported = [(0, 10)] ∧
      pinFrequency.reads (fun _ => pinValuesOps) { k with faults := [] } outOfStep 18 p =
        some (.ok 1) := by
  obtain ⟨k, reach, test⟩ := exists_reachable_of_follow onTwoDevices twoDevicesTest
    (fun a mem s => by fin_cases mem <;> trivial) (by decide +kernel)
  simp only [twoDevicesTest, Option.any_eq_true, Bool.and_eq_true, onDevices_iff, List.any_eq_true,
    decide_eq_true_eq] at test
  obtain ⟨p, live, ⟨⟨ready, second⟩, ranges⟩, reads⟩ := test
  exact ⟨k, p, reach, live, ready, second, ranges, reads⟩

theorem hasCallbacks_pinValuesOps {p : DpllPin} {k : KernelState} (ready : OnDevices k p) :
    ∀ ref ∈ p.dpllRefs.values, pinFrequency.HasCallbacks (fun _ => pinValuesOps) ref := by
  intro ref mem
  obtain ⟨reg, tail, list⟩ := List.exists_cons_of_ne_nil (ready.regs ref mem)
  refine ⟨pinValuesOps, ?_, rfl, rfl⟩
  rw [DpllPinRef.callbacks, dpllPinRegistrationFirst, list]
  rfl

/-- Devices that are in step stay so. -/
theorem pin_values_all_or_none_two : ∃ k p, k.pin 18 = some p ∧ keepsFrequencies.AllOrNone
    (dpllPinFreqSet (fun _ => pinValuesOps) 18 1) (.start k [] ⟨fun _ => 1, fun _ => 0, none⟩) 18 p
    1 := by
  obtain ⟨k, p, reach, live, ready, -⟩ := exists_onTwoDevices
  have settles := pin_values_all_or_none_iff k reach live ready _ keepsFrequencies keepsPhaseAdjs []
    ⟨fun _ => 1, fun _ => 0, none⟩
  exact ⟨k, p, live, (settles.1 1).2 fun _ _ _ _ => ⟨fun _ _ _ => rfl, fun _ => nofun⟩⟩

/-- The first device has the requested frequency already, and so the second keeps another one. -/
theorem pin_values_not_all_or_none : ∃ k p,
    (registrySystem.guard fun s a => PutsUnregistered s a.1).Reachable k ∧ k.pin 18 = some p ∧
      OnDevices k p ∧ ¬keepsFrequencies.AllOrNone (dpllPinFreqSet (fun _ => pinValuesOps) 18 1)
        (.start k [] outOfStep) 18 p 1 := by
  obtain ⟨k, p, reach, live, ready, ⟨ref, mem, second⟩, ranges, reads⟩ := exists_onTwoDevices
  refine ⟨k, p, reach, live, ready, fun settles => ?_⟩
  have inv := (registryInvariant_reachable reach).withFaults []
  have ready' : OnDevices (NlState.start k [] outOfStep).kernel p :=
    ⟨ready.nonempty, ready.regs, ready.devices⟩
  have speaks := (keepsFrequencies.allOrNone_iff inv live ready').1 settles
  have supported : dpllPinIsFreqSupported p.prop 1 = true := by
    rw [dpllPinIsFreqSupported, ranges]
    decide
  have same := (speaks supported (hasCallbacks_pinValuesOps ready) 1 reads).1 rfl ref mem
  rw [second] at same
  have other : outOfStep.freq (18, 17) = 1 := same
  exact absurd other (by decide)

end Netdevsim
