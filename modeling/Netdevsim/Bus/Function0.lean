import Netdevsim.Bus.FakePci

/-!
# The functions of the fake PCI devices

No two entries of the list have the same address.  Next to each entry there is one with the function
0 as long as no function 0 is removed while other functions of its device are left.
-/

namespace Netdevsim.Bus

open Program

/-- The addresses of the fake devices, the newest first. -/
def FakePci.keys (s : FakePci) : List (UInt8 × UInt8 × UInt8) :=
  s.fakeDevicesList.map FakePciDevice.key

def PciAddr.key (addr : PciAddr) : UInt8 × UInt8 × UInt8 := (addr.bus, addr.device, addr.function)

/-- Where a device has any function, it has the function 0. -/
def Function0Rule (s : FakePci) : Prop :=
  ∀ bus device function, (bus, device, function) ∈ s.keys → function ≠ 0 → (bus, device, 0) ∈ s.keys

/-- The address is on the bus of the driver. -/
def OnBus (s : FakePci) (addr : PciAddr) : Prop :=
  (∃ root ∈ s.rootBus, (addr.domain.toNat : ℤ) = root.domainNr.toInt) ∧
    (addr.bus.toNat : ℤ) = s.pciBusNr.toInt

instance (s : FakePci) (addr : PciAddr) : Decidable (OnBus s addr) :=
  inferInstanceAs (Decidable (_ ∧ _))

/-- The operation does not remove the function 0 of a device that has other functions. -/
def KeepsFunction0 (s : FakePci) : FakePciOp → Prop
  | .create .. => True
  | .remove addr => addr.function = 0 → OnBus s addr →
      ∀ key ∈ s.keys, key.1 = addr.bus → key.2.1 = addr.device → key.2.2 = 0

instance (s : FakePci) (op : FakePciOp) : Decidable (KeepsFunction0 s op) :=
  match op with
  | .create .. => .isTrue trivial
  | .remove addr =>
    -- on the list only, and not for all keys there are
    have (key : UInt8 × UInt8 × UInt8) :
        Decidable (key.1 = addr.bus → key.2.1 = addr.device → key.2.2 = 0) :=
      @instDecidableForall _ _ inferInstance (@instDecidableForall _ _ inferInstance inferInstance)
    @instDecidableForall _ _ inferInstance
      (@instDecidableForall _ _ inferInstance (List.decidableBAll _ s.keys))

/-- The root bus is there, with the number that addresses are compared with. -/
def HasRootBus (s : FakePci) : Prop :=
  ∃ root, s.rootBus = some root ∧ (root.number.toNat : ℤ) = s.pciBusNr.toInt

/-- The list is all that is different. -/
def SameBus (s t : FakePci) : Prop := t = { s with fakeDevicesList := t.fakeDevicesList }

/-! ## What each operation does -/

section Operations

variable {s t : FakePci} {addr : PciAddr} {fault : Bool} {probed : List (Ptr × UInt8 × UInt8)}
  {bus device function : UInt8} {faults : FakePciFaults}

theorem findFakeDevice_eq_none :
    findFakeDevice s bus device function = none ↔ (bus, device, function) ∉ s.keys := by
  unfold findFakeDevice FakePci.keys
  rw [List.find?_eq_none, List.mem_map]
  simp

theorem of_findFakeDevice {dev : FakePciDevice}
    (found : findFakeDevice s bus device function = some dev) :
    dev ∈ s.fakeDevicesList ∧ dev.key = (bus, device, function) := by
  unfold findFakeDevice at found
  exact ⟨List.mem_of_find?_eq_some found, by simpa using List.find?_some found⟩

/-- Probing changes no address. -/
theorem key_fakePciProbe (pdev : Ptr) (dev : FakePciDevice) :
    (fakePciProbe bus pdev device function dev).key = dev.key := by
  unfold fakePciProbe
  split <;> rfl

theorem wp_pciRescanBus {root : PciBus} {Q : Unit → FakePci → Prop} {E : Failure → FakePci → Prop}
    (rest : ∀ t, SameBus s t → t.keys = s.keys → Q () t) : wp (pciRescanBus root probed) Q E s := by
  have keys : ∀ devs : List FakePciDevice, (probed.foldl (fun devs p =>
      devs.map (fakePciProbe root.number p.1 p.2.1 p.2.2)) devs).map FakePciDevice.key =
        devs.map FakePciDevice.key := by
    induction probed with
    | nil => exact fun _ => rfl
    | cons p probed ih =>
      intro devs
      rw [List.foldl_cons, ih, List.map_map]
      exact List.map_congr_left fun dev _ => key_fakePciProbe p.1 dev
  exact rest _ rfl (keys _)

theorem wp_checkAddr {Q : PciBus → FakePci → Prop} {E : Failure → FakePci → Prop}
    (ready : HasRootBus s)
    (rest : ∀ root, s.rootBus = some root → OnBus s addr → root.number = addr.bus → Q root s)
    (fails : ¬OnBus s addr → E (.errno .ENODEV) s) : wp (checkAddr addr) Q E s := by
  obtain ⟨root, present, number⟩ := ready
  unfold checkAddr derefRootBus
  rw [wp_bind, wp_bind, wp_get, present]
  dsimp only
  rw [wp_pure, wp_bind, wp_failIf]
  refine ⟨fun other => fails fun on => ?_, fun domain => ?_⟩
  · obtain ⟨⟨root', mem, same⟩, -⟩ := on
    rw [present] at mem
    obtain rfl := Option.some.inj mem
    exact other same
  rw [wp_bind, wp_get, wp_bind, wp_failIf]
  refine ⟨fun other => fails fun on => other on.2, fun busNr => ?_⟩
  have domain : (addr.domain.toNat : ℤ) = root.domainNr.toInt := not_not.1 domain
  have busNr : (addr.bus.toNat : ℤ) = s.pciBusNr.toInt := not_not.1 busNr
  refine rest root present ⟨⟨root, present, domain⟩, busNr⟩ ?_
  rw [← busNr] at number
  exact UInt8.toNat_inj.1 (Int.ofNat.inj number)

/-- A device is created with a new address, next to the function 0 of its device; or nothing
happens. -/
theorem wp_createFakePciDevice (ready : HasRootBus s) :
    wp (createFakePciDevice addr fault probed)
      (fun _ t => SameBus s t ∧ t.keys = addr.key :: s.keys ∧ addr.key ∉ s.keys ∧
        (addr.function ≠ 0 → (addr.bus, addr.device, 0) ∈ s.keys) ∧ OnBus s addr)
      (fun e t => (∃ errno, e = .errno errno) ∧ t = s) s := by
  unfold createFakePciDevice
  rw [wp_bind]
  refine wp_checkAddr ready (fun root _ on number => ?_) fun _ => ⟨⟨_, rfl⟩, rfl⟩
  rw [wp_bind, wp_get, wp_bind, wp_failIf]
  refine ⟨fun _ => ⟨⟨_, rfl⟩, rfl⟩, fun next => ?_⟩
  rw [wp_bind, wp_failIf]
  refine ⟨fun _ => ⟨⟨_, rfl⟩, rfl⟩, fun new => ?_⟩
  rw [wp_bind, wp_failIf]
  refine ⟨fun _ => ⟨⟨_, rfl⟩, rfl⟩, fun _ => ?_⟩
  rw [wp_bind, wp_set]
  refine wp_pciRescanBus fun t same keys => ⟨?_, ?_, ?_, ?_, on⟩
  · rw [SameBus] at same ⊢
    exact same
  · rw [keys]
    show (root.number, addr.device, addr.function) :: s.keys = _
    rw [number]
    rfl
  · exact findFakeDevice_eq_none.1 (by simpa using new)
  · intro other
    by_contra missing
    exact next ⟨other, findFakeDevice_eq_none.2 missing⟩

/-- The device of an address on the bus is removed, if there is one. -/
theorem wp_removeFakePciDevice (ready : HasRootBus s) (nodup : s.keys.Nodup) :
    wp (removeFakePciDevice addr)
      (fun _ t => SameBus s t ∧ t.keys = s.keys.erase addr.key ∧ addr.key ∈ s.keys ∧ OnBus s addr)
      (fun e t => (∃ errno, e = .errno errno) ∧ t = s ∧ (OnBus s addr → addr.key ∉ s.keys)) s := by
  unfold removeFakePciDevice
  rw [wp_bind]
  refine wp_checkAddr ready (fun root _ on _ => ?_) fun off => ⟨⟨_, rfl⟩, rfl, fun on => absurd on off⟩
  rw [wp_bind, wp_get]
  cases found : findFakeDevice s addr.bus addr.device addr.function with
  | none => exact ⟨⟨_, rfl⟩, rfl, fun _ => findFakeDevice_eq_none.1 found⟩
  | some dev =>
    obtain ⟨mem, key⟩ := of_findFakeDevice found
    have key : dev.key = addr.key := key
    have listed : addr.key ∈ s.keys := key ▸ List.mem_map_of_mem mem
    refine ⟨rfl, ?_, listed, on⟩
    have nodup' : s.fakeDevicesList.Nodup := nodup.of_map _
    show (s.fakeDevicesList.erase dev).map FakePciDevice.key = _
    rw [nodup'.erase_eq_filter, nodup.erase_eq_filter, FakePci.keys, List.filter_map]
    have same : ∀ other ∈ s.fakeDevicesList, (other != dev) =
        ((fun k => k != addr.key) ∘ FakePciDevice.key) other := by
      intro other mem'
      have inj : other = dev ↔ other.key = addr.key := by
        constructor
        · rintro rfl
          exact key
        · exact fun same => List.inj_on_of_nodup_map nodup mem' mem (same.trans key.symm)
      rw [Bool.eq_iff_iff, bne_iff_ne, Function.comp_apply, bne_iff_ne]
      exact not_congr inj
    rw [List.filter_congr same]

theorem SameBus.hasRootBus (same : SameBus s t) (ready : HasRootBus s) : HasRootBus t := by
  rw [HasRootBus, same]
  exact ready

/-- The number that `fakepci_init` settles on fits the bus. -/
theorem wp_choosePciBusNr {taken : ℕ → Bool} :
    wp (choosePciBusNr taken)
      (fun _ t => t = { s with pciBusNr := t.pciBusNr } ∧ 0 ≤ t.pciBusNr.toInt ∧
        t.pciBusNr.toInt ≤ 255)
      (fun e t => (∃ errno, e = .errno errno) ∧ t = { s with pciBusNr := t.pciBusNr }) s := by
  have free : 0 ≤ (findFreeBusNumber taken).toInt → (findFreeBusNumber taken).toInt ≤ 255 := by
    intro _
    unfold findFreeBusNumber
    split
    · rename_i n found
      have small := List.mem_range.1 (List.mem_of_find?_eq_some found)
      rw [Int32.toInt_ofNat_of_lt (by omega)]
      omega
    · decide
  unfold choosePciBusNr
  rw [wp_bind, wp_get]
  split
  · rename_i given
    rw [wp_failIf]
    refine ⟨fun _ => ⟨⟨_, rfl⟩, rfl⟩, fun small => ⟨rfl, ?_, ?_⟩⟩
    · exact Int32.le_iff_toInt_le.1 given
    · exact Int32.le_iff_toInt_le.1 (Int32.not_lt.1 small)
  · rw [wp_bind, wp_set, wp_failIf]
    refine ⟨fun _ => ⟨⟨_, rfl⟩, rfl⟩, fun found => ?_⟩
    have positive : 0 ≤ (findFreeBusNumber taken).toInt :=
      Int32.le_iff_toInt_le.1 (Int32.not_lt.1 found)
    exact ⟨rfl, positive, free positive⟩

end Operations

/-! ## Starting -/

section Starting

variable {s t : FakePci} {faults : FakePciFaults} {pciBusNr : Int32}

theorem wp_call {σ : Type} {s : σ} {outcome : Option Errno} {Q : Unit → σ → Prop}
    {E : Failure → σ → Prop} :
    wp (call outcome) Q E s ↔ (∀ e, outcome = some e → E (.errno e) s) ∧ (outcome = none → Q () s) := by
  unfold call
  cases outcome <;> simp

/-- How far `fakepci_init` got. -/
structure Started (faults : FakePciFaults) (t : FakePci) : Prop where
  ready : HasRootBus t
  driver : t.driver = true
  parentDev : t.parentDev = true

/-- With its root bus the driver has started but perhaps for the first fake device; without it there
are no fake devices. -/
theorem wp_fakepciInit :
    wp (fakepciInit faults)
      (fun _ t => Started faults t ∧ t.keys = [(UInt8.ofInt t.pciBusNr.toInt, 0, 0)])
      (fun e t => (∃ errno, e = .errno errno) ∧ t.keys = [] ∧ (t.rootBus = none ∨ Started faults t))
      (.loaded pciBusNr) := by
  unfold fakepciInit
  rw [wp_bind, wp_call]
  refine ⟨fun _ _ => ⟨⟨_, rfl⟩, rfl, .inl rfl⟩, fun _ => ?_⟩
  rw [wp_bind, wp_modify, wp_bind]
  apply wp_mono wp_choosePciBusNr
  · rintro _ t ⟨same, least, most⟩
    rw [wp_bind, wp_call]
    have none : t.rootBus = none := by rw [same]; rfl
    have empty : t.keys = [] := by rw [FakePci.keys, same]; rfl
    refine ⟨fun _ _ => ⟨⟨_, rfl⟩, empty, .inl none⟩, fun _ => ?_⟩
    rw [wp_bind, wp_modify]
    split
    · exact ⟨⟨_, rfl⟩, empty, .inl none⟩
    rename_i domainNr _
    rw [wp_bind, wp_modify, wp_bind, wp_get]
    dsimp only
    have small : t.pciBusNr.toInt.toNat < 256 := by omega
    have number : ((UInt8.ofNat t.pciBusNr.toInt.toNat).toNat : ℤ) = t.pciBusNr.toInt := by
      rw [UInt8.toNat_ofNat_of_lt' small]
      omega
    have start : Started faults { t with
        parentDev := true, rootBus := some ⟨UInt8.ofNat t.pciBusNr.toInt.toNat, domainNr⟩ } := by
      refine ⟨⟨_, rfl, number⟩, ?_, rfl⟩
      rw [same]
    apply wp_mono (wp_createFakePciDevice start.ready)
    · rintro _ u ⟨sameBus, keys, -⟩
      rw [SameBus] at sameBus
      refine ⟨⟨SameBus.hasRootBus sameBus start.ready, ?_, ?_⟩, ?_⟩
      · rw [sameBus]
        exact start.driver
      · rw [sameBus]
      · rw [keys]
        have nr : u.pciBusNr = t.pciBusNr := by rw [sameBus]
        rw [nr]
        exact congrArg _ empty
    · rintro e u ⟨errno, rfl⟩
      exact ⟨errno, empty, .inr start⟩
  · rintro e t ⟨errno, same⟩
    refine ⟨errno, ?_, .inl ?_⟩
    · rw [FakePci.keys, same]
      rfl
    · rw [same]
      rfl

end Starting

/-! ## Every run -/

/-- What is known of the fake PCI bus. -/
structure FakePciInvariant (s : FakePci) : Prop where
  ready : HasRootBus s
  nodup : s.keys.Nodup

section Runs

variable {s t : FakePci} {op : FakePciOp}

theorem fakePciInvariant_step (inv : FakePciInvariant s) (step : fakePciSystem.step s op t) :
    FakePciInvariant t := by
  obtain ⟨result, run⟩ := step
  have kept : wp op.program (fun _ => FakePciInvariant) (fun _ => FakePciInvariant) s := by
    cases op with
    | create addr fault probed =>
      apply wp_mono (wp_createFakePciDevice inv.ready)
      · rintro _ t ⟨same, keys, new, -⟩
        refine ⟨SameBus.hasRootBus same inv.ready, ?_⟩
        rw [keys]
        exact List.nodup_cons.2 ⟨new, inv.nodup⟩
      · rintro _ t ⟨-, rfl⟩
        exact inv
    | remove addr =>
      apply wp_mono (wp_removeFakePciDevice inv.ready inv.nodup)
      · rintro _ t ⟨same, keys, -⟩
        refine ⟨SameBus.hasRootBus same inv.ready, ?_⟩
        rw [keys]
        exact inv.nodup.erase _
      · rintro _ t ⟨-, rfl, -⟩
        exact inv
  exact holds_of_wp kept run

theorem fakePciInvariant_init (init : fakePciSystem.init s) :
    FakePciInvariant s ∧ Function0Rule s := by
  obtain ⟨pciBusNr, faults, run⟩ := init
  obtain ⟨started, keys⟩ := exec_ok_of_wp wp_fakepciInit run
  refine ⟨⟨started.ready, ?_⟩, ?_⟩
  · rw [keys]
    exact List.nodup_singleton _
  · intro bus device function mem other
    rw [keys, List.mem_singleton] at mem
    exact absurd (congrArg (fun k => k.2.2) mem) other

/-- The rule after a step from a state in which it holds. -/
theorem function0Rule_step (inv : FakePciInvariant s) (rule : Function0Rule s)
    (step : fakePciSystem.step s op t) : Function0Rule t ↔ KeepsFunction0 s op := by
  obtain ⟨result, run⟩ := step
  have effect : wp op.program (fun _ t => Function0Rule t ↔ KeepsFunction0 s op)
      (fun _ t => Function0Rule t ↔ KeepsFunction0 s op) s := by
    cases op with
    | create addr fault probed =>
      apply wp_mono (wp_createFakePciDevice inv.ready)
      · rintro _ t ⟨-, keys, -, next, -⟩
        refine iff_of_true (fun bus device function mem other => ?_) trivial
        rw [keys] at mem ⊢
        rcases List.mem_cons.1 mem with new | old
        · obtain ⟨rfl, rfl, rfl⟩ : bus = addr.bus ∧ device = addr.device ∧
            function = addr.function := by simpa [PciAddr.key] using new
          exact List.mem_cons_of_mem _ (next other)
        · exact List.mem_cons_of_mem _ (rule bus device function old other)
      · rintro _ t ⟨-, rfl⟩
        exact iff_of_true rule trivial
    | remove addr =>
      apply wp_mono (wp_removeFakePciDevice inv.ready inv.nodup)
      · rintro _ t ⟨-, keys, listed, on⟩
        constructor
        · rintro rule' zero - ⟨bus, device, function⟩ mem rfl rfl
          by_contra other
          have stays : (addr.bus, addr.device, function) ∈ t.keys := by
            rw [keys, inv.nodup.mem_erase_iff]
            refine ⟨fun same => other ?_, mem⟩
            exact (congrArg (fun k : UInt8 × UInt8 × UInt8 => k.2.2) same).trans zero
          have gone := rule' _ _ _ stays other
          rw [keys, inv.nodup.mem_erase_iff] at gone
          exact gone.1 (by rw [PciAddr.key, zero])
        · intro alone bus device function mem other
          rw [keys, inv.nodup.mem_erase_iff] at mem ⊢
          refine ⟨fun same => ?_, rule bus device function mem.2 other⟩
          obtain ⟨rfl, rfl, zero⟩ : bus = addr.bus ∧ device = addr.device ∧
            0 = addr.function := by simpa [PciAddr.key] using same
          exact other (alone zero.symm on _ mem.2 rfl rfl)
      · rintro _ t ⟨-, rfl, missing⟩
        refine iff_of_true rule ?_
        rintro zero on ⟨bus, device, function⟩ mem rfl rfl
        by_contra other
        have first := rule _ _ _ mem other
        rw [← zero] at first
        exact missing on first
  exact holds_of_wp (I := fun t => Function0Rule t ↔ KeepsFunction0 s op) effect run

theorem fakePciInvariant_reachable (run : fakePciSystem.Reachable s) : FakePciInvariant s :=
  TransitionSystem.Reachable.induct (fun _ init => (fakePciInvariant_init init).1)
    (fun _ _ _ _ inv step => fakePciInvariant_step inv step) run

/-- In every run no two fake devices have the same address.  In every run in which the function 0 of
a device is only removed as the last one, each device has its function 0; and the first step of the
other kind breaks that. -/
theorem function0_rule (s : FakePci) :
    (fakePciSystem.Reachable s → s.keys.Nodup) ∧
    ((fakePciSystem.guard KeepsFunction0).Reachable s → Function0Rule s) ∧
    ∀ op t, (fakePciSystem.guard KeepsFunction0).Reachable s → fakePciSystem.step s op t →
      (Function0Rule t ↔ KeepsFunction0 s op) := by
  have rule : (fakePciSystem.guard KeepsFunction0).Reachable s → Function0Rule s := by
    intro run
    refine TransitionSystem.Reachable.induct (M := fakePciSystem.guard KeepsFunction0)
      (fun _ init => (fakePciInvariant_init init).2) ?_ run
    intro s op t run rule step
    exact (function0Rule_step (fakePciInvariant_reachable run.of_guard) rule step.1).2 step.2
  refine ⟨fun run => (fakePciInvariant_reachable run).nodup, rule, ?_⟩
  intro op t run step
  exact function0Rule_step (fakePciInvariant_reachable run.of_guard) (rule run) step

/-- The state after a call, if it meets the condition. -/
def FakePci.advance (C : FakePci → FakePciOp → Prop) [∀ s op, Decidable (C s op)] (s : FakePci)
    (op : FakePciOp) : Option FakePci :=
  if C s op then (op.program.exec s).map Prod.snd else none

/-- Everything succeeds, and the root bus gets the domain 0. -/
def FakePciFaults.none : FakePciFaults := ⟨.none, fun _ => false, .none, some 0, false, []⟩

/-- The driver after `fakepci_init` with the bus number 32. -/
def FakePci.started : FakePci := ⟨32, true, true, some ⟨32, 0⟩, [⟨none, 32, 0, 0⟩]⟩

/-- A given run whose calls meet the condition. -/
theorem fakePci_exists_of_advance (C : FakePci → FakePciOp → Prop) [∀ s op, Decidable (C s op)]
    (ops : List FakePciOp) (test : FakePci → Bool)
    (passes : (TransitionSystem.follow (FakePci.advance C) ops .started).any test = true) :
    ∃ t, (fakePciSystem.guard C).Reachable t ∧ test t = true := by
  have start : (fakePciSystem.guard C).Reachable .started := .init ⟨32, .none, by decide⟩
  refine start.exists_of_follow ops test ?_ passes
  intro op _ s t next
  unfold FakePci.advance at next
  split at next
  · rename_i may
    obtain ⟨⟨result, u⟩, run, rfl⟩ := Option.map_eq_some_iff.1 next
    exact ⟨⟨result, run⟩, may⟩
  · cases next

/-- Two functions of a device are created, and removed in the other order. -/
theorem function0_rule_lastOut : ∃ s, (fakePciSystem.guard KeepsFunction0).Reachable s ∧
    s.keys = [(32, 1, 0), (32, 0, 0)] ∧ s.keys.Nodup ∧ Function0Rule s := by
  obtain ⟨s, reachable, test⟩ := fakePci_exists_of_advance KeepsFunction0
    [.create ⟨0, 32, 1, 0⟩ false [], .create ⟨0, 32, 1, 3⟩ false [], .remove ⟨0, 32, 1, 3⟩]
    (fun s => s.keys = [(32, 1, 0), (32, 0, 0)]) (by decide)
  exact ⟨s, reachable, of_decide_eq_true test, (function0_rule s).1 reachable.of_guard,
    (function0_rule s).2.1 reachable⟩

/-- The function 0 is removed first. -/
theorem function0_removed_first : ¬∀ s, fakePciSystem.Reachable s → Function0Rule s := by
  intro always
  obtain ⟨s, reachable, test⟩ := fakePci_exists_of_advance (fun _ _ => True)
    [.create ⟨0, 32, 1, 0⟩ false [], .create ⟨0, 32, 1, 3⟩ false [], .remove ⟨0, 32, 1, 0⟩]
    (fun s => (32, 1, 3) ∈ s.keys ∧ (32, 1, 0) ∉ s.keys) (by decide)
  obtain ⟨third, first⟩ := of_decide_eq_true test
  exact first (always s reachable.of_guard 32 1 3 third (by decide))

end Runs

end Netdevsim.Bus
