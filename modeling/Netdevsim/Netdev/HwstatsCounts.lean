import Netdevsim.Netdev.HwstatsSound

/-!
# What the hardware statistics count

For a device whose counters are on, what was added by the work is in the counters of the core, in the
entry of the device, or in the entry a handler just took off the list; reports and pushes move it and
neither lose nor repeat any of it (`hwstats_conserved`).  The entry counts if and only if the counters
of the core are on, unless `fail_next_enable` interferes with a handler that adds it
(`hwstats_agree`).
-/

namespace Netdevsim

open FirstMatch

/-! ## Sums of counters -/

namespace RtnlHwStats64

theorem add_def (a b : RtnlHwStats64) : a + b = ⟨a.rxPackets + b.rxPackets,
    a.txPackets + b.txPackets, a.rxBytes + b.rxBytes, a.txBytes + b.txBytes⟩ := rfl

theorem zero_def : (0 : RtnlHwStats64) = ⟨0, 0, 0, 0⟩ := rfl

@[simp] theorem add_zero (a : RtnlHwStats64) : a + 0 = a := by
  simp [add_def, zero_def]

@[simp] theorem zero_add (a : RtnlHwStats64) : 0 + a = a := by
  simp [add_def, zero_def]

theorem add_assoc (a b c : RtnlHwStats64) : a + b + c = a + (b + c) := by
  simp [add_def, UInt64.add_assoc]

theorem add_comm (a b : RtnlHwStats64) : a + b = b + a := by
  simp only [add_def]
  congr 1 <;> exact UInt64.add_comm _ _

theorem add_right_comm (a b c : RtnlHwStats64) : a + b + c = a + c + b := by
  rw [add_assoc, add_comm b, ← add_assoc]

end RtnlHwStats64

/-- The traffic of `n` runs of the work. -/
def traffic (n : ℕ) : RtnlHwStats64 where
  rxPackets := UInt64.ofNat n
  txPackets := UInt64.ofNat (2 * n)
  rxBytes := UInt64.ofNat (100 * n)
  txBytes := UInt64.ofNat (300 * n)

@[simp] theorem traffic_zero : traffic 0 = 0 := rfl

theorem traffic_succ (n : ℕ) : traffic (n + 1) = traffic n + trafficBump := by
  simp [traffic, trafficBump, RtnlHwStats64.add_def, Nat.mul_add, UInt64.ofNat_add]

/-! ## One device -/

namespace HwstatsWorld

/-- The entry for a device. -/
def entryOf (w : HwstatsWorld) : ℕ → Option NsimDevHwstatsNetdev := entry (·.netdev) w.l3List

/-- The entry for a device that a handler took off the list. -/
def flyingOf (w : HwstatsWorld) (p : ℕ) : Option NsimDevHwstatsNetdev :=
  w.inFlight.filter (·.netdev = p)

/-- The counters of the core, if they are on. -/
def xstats (w : HwstatsWorld) (p : ℕ) : Option RtnlHwStats64 :=
  (w.netdevs p).bind (·.offloadXstatsL3)

end HwstatsWorld

/-- The counters of an entry. -/
def statsOf (slot : Option NsimDevHwstatsNetdev) : RtnlHwStats64 := slot.elim 0 (·.stats)

/-- An entry counts only while the core does, and has nothing to report while it does not count. -/
def EntryOk (x : Option RtnlHwStats64) (slot : Option NsimDevHwstatsNetdev) : Prop :=
  ∀ h, slot = some h → (h.enabled = true → x.isSome = true) ∧ (h.enabled = false → h.stats = 0)

/-- The counters of the core and of the entries add up to the traffic of `n` runs of the work. -/
structure Balanced (x : Option RtnlHwStats64) (listed flying : Option NsimDevHwstatsNetdev)
    (n : ℕ) : Prop where
  entry : EntryOk x listed
  taken : EntryOk x flying
  sum : ∀ c, x = some c → c + statsOf listed + statsOf flying = traffic n

section Entry

variable {x : Option RtnlHwStats64} {slot flying : Option NsimDevHwstatsNetdev} {n : ℕ}

theorem entryOk_none : EntryOk x none := nofun

/-- Where the core does not count, an entry has nothing to report. -/
theorem EntryOk.off (ok : EntryOk none slot) {h : NsimDevHwstatsNetdev} (here : slot = some h) :
    h.enabled = false ∧ h.stats = 0 := by
  have facts := ok h here
  have off : h.enabled = false := by
    cases enabled : h.enabled with
    | false => rfl
    | true => exact absurd (facts.1 enabled) (by decide)
  exact ⟨off, facts.2 off⟩

theorem EntryOk.statsOf_none (ok : EntryOk none slot) : statsOf slot = 0 := by
  cases slot with
  | none => rfl
  | some h => exact (ok.off rfl).2

/-- The core is on: whatever counts may count. -/
theorem EntryOk.on (ok : EntryOk x slot) (c : RtnlHwStats64) : EntryOk (some c) slot :=
  fun h here => ⟨fun _ => rfl, (ok h here).2⟩

theorem entryOk_disable (slot : Option NsimDevHwstatsNetdev) :
    EntryOk x (slot.map (·.after .disable)) := by
  intro h here
  obtain ⟨g, -, rfl⟩ := Option.map_eq_some_iff.1 here
  exact ⟨nofun, fun _ => rfl⟩

@[simp] theorem stats_enable (h : NsimDevHwstatsNetdev) : h.enable.stats = h.stats := by
  unfold NsimDevHwstatsNetdev.enable
  split_ifs <;> rfl

theorem entryOk_enable (ok : EntryOk x slot) (c : RtnlHwStats64) :
    EntryOk (some c) (slot.map (·.after .enable)) := by
  intro h here
  obtain ⟨g, there, rfl⟩ := Option.map_eq_some_iff.1 here
  refine ⟨fun _ => rfl, fun off => ?_⟩
  have facts := ok g there
  show g.enable.stats = 0
  rw [stats_enable]
  refine facts.2 ?_
  change g.enable.enabled = false at off
  unfold NsimDevHwstatsNetdev.enable at off
  split_ifs at off
  exact off

theorem statsOf_enable (slot : Option NsimDevHwstatsNetdev) :
    statsOf (slot.map (·.after .enable)) = statsOf slot := by
  cases slot with
  | none => rfl
  | some h => exact stats_enable h

theorem statsOf_disable (slot : Option NsimDevHwstatsNetdev) :
    statsOf (slot.map (·.after .disable)) = 0 := by
  cases slot <;> rfl

theorem statsOf_reportDelta (slot : Option NsimDevHwstatsNetdev) :
    statsOf (slot.map (·.after .reportDelta)) = 0 := by
  cases slot <;> rfl

/-! ## What happens to one device -/

theorem balanced_off (slot : Option NsimDevHwstatsNetdev) (ok : EntryOk none flying) :
    Balanced none (slot.map (·.after .disable)) flying n :=
  ⟨entryOk_disable slot, ok, nofun⟩

/-- The work adds traffic to an entry that counts. -/
theorem Balanced.bump (balanced : Balanced x slot flying n) :
    Balanced x (slot.map (·.bump)) flying (if slot.any (·.enabled) then n + 1 else n) := by
  cases slot with
  | none => exact balanced
  | some h =>
    have facts := balanced.entry h rfl
    cases enabled : h.enabled with
    | false =>
      have same : h.bump = h := by
        unfold NsimDevHwstatsNetdev.bump
        rw [enabled]
        rfl
      simpa [same, enabled] using balanced
    | true =>
      have bumped : h.bump = { h with stats := h.stats + trafficBump } := by
        unfold NsimDevHwstatsNetdev.bump
        rw [if_pos enabled]
      rw [Option.map_some, bumped, Option.any_some, if_pos enabled]
      refine ⟨?_, balanced.taken, fun c on => ?_⟩
      · rintro g ⟨⟩
        exact ⟨fun _ => facts.1 enabled, fun off => absurd (enabled.symm.trans off) (by decide)⟩
      · have sum := balanced.sum c on
        show c + (h.stats + trafficBump) + statsOf flying = _
        rw [traffic_succ, ← sum, ← RtnlHwStats64.add_assoc, RtnlHwStats64.add_right_comm]
        rfl

/-- What is reported goes to the counters of the core. -/
theorem Balanced.report (balanced : Balanced x slot flying n) :
    Balanced (x.map (· + statsOf slot)) (slot.map (·.after .reportDelta)) flying n := by
  refine ⟨?_, ?_, ?_⟩
  · intro g here
    obtain ⟨h, there, rfl⟩ := Option.map_eq_some_iff.1 here
    refine ⟨fun on => ?_, fun _ => rfl⟩
    rw [Option.isSome_map]
    exact (balanced.entry h there).1 on
  · intro g here
    rw [Option.isSome_map]
    exact balanced.taken g here
  · intro c on
    obtain ⟨c₀, before, rfl⟩ := Option.map_eq_some_iff.1 on
    rw [statsOf_reportDelta, RtnlHwStats64.add_zero]
    exact balanced.sum c₀ before

/-- The counters are turned on, from zero. -/
theorem Balanced.turnOn (balanced : Balanced none slot none n) :
    Balanced (some 0) (slot.map (·.after .enable)) none 0 := by
  refine ⟨entryOk_enable balanced.entry 0, entryOk_none, ?_⟩
  rintro c ⟨⟩
  rw [statsOf_enable, balanced.entry.statsOf_none]
  rfl

/-- An entry that was to fail is not enabled. -/
theorem Balanced.refuse (balanced : Balanced none slot none n)
    (fails : slot.any (·.failEnable) = true) :
    Balanced none (slot.map (·.after .enable)) none 0 := by
  refine ⟨?_, entryOk_none, nofun⟩
  intro g here
  obtain ⟨h, rfl, rfl⟩ := Option.map_eq_some_iff.1 here
  obtain ⟨off, zero⟩ := balanced.entry.off rfl
  have kept : h.after .enable = { h with failEnable := false } := if_pos (by simpa using fails)
  rw [kept]
  exact ⟨fun on => absurd (off.symm.trans on) (by decide), fun _ => zero⟩

/-- The entry is taken off the list. -/
theorem Balanced.takeOff (balanced : Balanced x slot none n) : Balanced x none slot n :=
  ⟨entryOk_none, balanced.entry, fun c on => by
    have sum := balanced.sum c on
    rw [RtnlHwStats64.add_right_comm] at sum
    exact sum⟩

/-- What is left in the entry is pushed. -/
theorem Balanced.push (balanced : Balanced x slot flying n) :
    Balanced (x.map (· + statsOf flying)) slot none n := by
  refine ⟨?_, entryOk_none, ?_⟩
  · intro g here
    rw [Option.isSome_map]
    exact balanced.entry g here
  · intro c on
    obtain ⟨c₀, before, rfl⟩ := Option.map_eq_some_iff.1 on
    have sum := balanced.sum c₀ before
    rw [RtnlHwStats64.add_right_comm c₀]
    show c₀ + statsOf slot + statsOf flying + 0 = _
    rw [RtnlHwStats64.add_zero, sum]

/-- A new entry. -/
theorem Balanced.add (balanced : Balanced x none none n) (p : ℕ) :
    Balanced x (some ⟨p, 0, false, false⟩) none n :=
  ⟨fun _ here => by cases here; exact ⟨nofun, fun _ => rfl⟩, entryOk_none, balanced.sum⟩

end Entry

/-! ## All devices -/

/-- All devices are balanced. -/
def HwstatsCounted (w : HwstatsWorld) (ticks : ℕ → ℕ) : Prop :=
  ∀ p, Balanced (w.xstats p) (w.entryOf p) (w.flyingOf p) (ticks p)

section Views

variable {w w' : HwstatsWorld} {p : ℕ} {d : XstatsNetdev} {ticks : ℕ → ℕ}

/-- One device changes. -/
structure OneChanges (w w' : HwstatsWorld) (p : ℕ) (x : Option RtnlHwStats64)
    (listed flying : Option NsimDevHwstatsNetdev) : Prop where
  xstats : w'.xstats = Function.update w.xstats p x
  entryOf : w'.entryOf = Function.update w.entryOf p listed
  flyingOf : w'.flyingOf = Function.update w.flyingOf p flying

theorem OneChanges.counted {x : Option RtnlHwStats64} {listed flying : Option NsimDevHwstatsNetdev}
    {n : ℕ} (change : OneChanges w w' p x listed flying) (counted : HwstatsCounted w ticks)
    (balanced : Balanced x listed flying n) : HwstatsCounted w' (Function.update ticks p n) := by
  intro q
  rw [change.xstats, change.entryOf, change.flyingOf]
  by_cases same : q = p
  · subst same
    simpa using balanced
  · simpa [same] using counted q

/-- A device changes, and it is as many runs of the work as before. -/
theorem OneChanges.counted_same {x : Option RtnlHwStats64}
    {listed flying : Option NsimDevHwstatsNetdev} (change : OneChanges w w' p x listed flying)
    (counted : HwstatsCounted w ticks) (balanced : Balanced x listed flying (ticks p)) :
    HwstatsCounted w' ticks := by
  have result := change.counted counted balanced
  rwa [Function.update_eq_self] at result

theorem flyingOf_of_pending (idle : w.pending = none) : w.flyingOf = fun _ => none := by
  funext q
  unfold HwstatsWorld.flyingOf HwstatsWorld.inFlight
  rw [idle]
  rfl

theorem l3List_of_inactive (sound : HwstatsSound w) (inactive : ¬ w.active = true) :
    w.l3List = [] := List.map_eq_nil_iff.1 (sound.idle (by simpa using inactive)).1

theorem entryOf_of_inactive (sound : HwstatsSound w) (inactive : ¬ w.active = true) :
    w.entryOf = fun _ => none := by
  unfold HwstatsWorld.entryOf
  rw [l3List_of_inactive sound inactive]
  rfl

theorem entryOf_of_not_mem (new : p ∉ w.names) : w.entryOf p = none :=
  entry_eq_none_iff.2 fun _ mem same => new (same ▸ HwstatsSound.mem_names mem)

/-- The entry that is found by the index of a device. -/
theorem find_eq (sound : HwstatsSound w) (registered : p ∈ w.devices)
    (here : w.netdevs p = some d) : w.find d.ifindex = w.entryOf p :=
  find?_eq_entry (sound.hasIfindex_iff registered here)

theorem entryOf_event (sound : HwstatsSound w) (registered : p ∈ w.devices)
    (here : w.netdevs p = some d) (f : NsimDevHwstatsNetdev → NsimDevHwstatsNetdev)
    (keeps : ∀ h, (f h).netdev = h.netdev) :
    ({ w with l3List := modifyFirst (w.hasIfindex d.ifindex) f w.l3List } : HwstatsWorld).entryOf =
      Function.update w.entryOf p ((w.entryOf p).map f) := by
  show entry _ (modifyFirst _ f w.l3List) = _
  rw [modifyFirst_eq_map sound.nodup (sound.hasIfindex_iff registered here)]
  exact entry_map keeps

/-- An event changes the entry of its device. -/
theorem entryOf_notify (sound : HwstatsSound w) (registered : p ∈ w.devices)
    (here : w.netdevs p = some d) (event : XstatsEvent) :
    (w.notify d.ifindex (.offXstats event)).entryOf =
      Function.update w.entryOf p ((w.entryOf p).map (·.after event)) := by
  unfold HwstatsWorld.notify
  split_ifs with active
  · exact entryOf_event sound registered here _ fun h => h.netdev_after event
  · rw [entryOf_of_inactive sound active]
    exact (Function.update_eq_self p fun _ => none).symm

theorem xstats_notify (w : HwstatsWorld) (ifindex : Int32) (event : XstatsEvent) :
    (w.notify ifindex (.offXstats event)).xstats = w.xstats := by
  unfold HwstatsWorld.notify
  split_ifs <;> rfl

theorem xstats_change (w : HwstatsWorld) (p : ℕ) (f : XstatsNetdev → XstatsNetdev) :
    (w.change p f).xstats =
      Function.update w.xstats p ((w.netdevs p).bind fun d => (f d).offloadXstatsL3) := by
  funext q
  unfold HwstatsWorld.xstats
  rw [HwstatsWorld.netdevs_change]
  by_cases same : q = p
  · subst same
    rw [Function.update_self, Function.update_self]
    cases w.netdevs q <;> rfl
  · rw [Function.update_of_ne same, Function.update_of_ne same]

theorem xstats_setXstats (here : w.netdevs p = some d) (stats : Option RtnlHwStats64) :
    (w.setXstats p stats).xstats = Function.update w.xstats p stats := by
  unfold HwstatsWorld.setXstats
  rw [xstats_change, here]
  rfl

theorem xstats_pushDelta (w : HwstatsWorld) (p : ℕ) (stats : RtnlHwStats64) :
    (w.pushDelta p stats).xstats = Function.update w.xstats p ((w.xstats p).map (· + stats)) := by
  unfold HwstatsWorld.pushDelta
  rw [xstats_change]
  unfold HwstatsWorld.xstats
  cases w.netdevs p <;> rfl

theorem xstats_eq (here : w.netdevs p = some d) : w.xstats p = d.offloadXstatsL3 := by
  unfold HwstatsWorld.xstats
  rw [here]
  rfl

/-- A device is where it was, with the same index. -/
theorem SameRefs.here (same : SameRefs w w') (here : w.netdevs p = some d) :
    ∃ e, w'.netdevs p = some e ∧ e.ifindex = d.ifindex := by
  have outline := congrFun same.outline p
  rw [HwstatsSound.outline_eq here] at outline
  obtain ⟨e, there, parts⟩ := Option.map_eq_some_iff.1 outline
  exact ⟨e, there, congrArg Prod.fst parts⟩

theorem SameRefs.flyingOf (same : SameRefs w w') : w'.flyingOf = w.flyingOf := by
  funext q
  unfold HwstatsWorld.flyingOf
  rw [same.inFlight]

/-- An event after others. -/
theorem SameRefs.entryOf_notify (same : SameRefs w w') (sound : HwstatsSound w)
    (registered : p ∈ w.devices) (here : w.netdevs p = some d) (event : XstatsEvent) :
    (w'.notify d.ifindex (.offXstats event)).entryOf =
      Function.update w'.entryOf p ((w'.entryOf p).map (·.after event)) := by
  obtain ⟨e, there, index⟩ := same.here here
  rw [← index]
  exact Netdevsim.entryOf_notify (same.sound sound) (by rw [same.devices]; exact registered) there
    event

/-- The drivers are asked to refuse. -/
theorem refused_iff (sound : HwstatsSound w) (registered : p ∈ w.devices)
    (here : w.netdevs p = some d) :
    (w.active && !(w.eventResult d.ifindex .enable).isOk) =
      (w.entryOf p).any (·.failEnable) := by
  by_cases active : w.active = true
  · unfold HwstatsWorld.eventResult
    rw [find_eq sound registered here, active]
    cases w.entryOf p with
    | none => rfl
    | some h =>
      show (true && !h.enableResult.isOk) = h.failEnable
      unfold NsimDevHwstatsNetdev.enableResult
      cases h.failEnable <;> rfl
  · rw [entryOf_of_inactive sound active]
    simp [active]

end Views

/-! ## What the operations change -/

section Changes

variable {w : HwstatsWorld} {p : ℕ} {d : XstatsNetdev} {h : NsimDevHwstatsNetdev}

theorem flyingOf_update (idle : w.pending = none) :
    w.flyingOf = Function.update w.flyingOf p none := by
  rw [flyingOf_of_pending idle]
  exact (Function.update_eq_self p fun _ => none).symm

theorem entryOf_bump (w : HwstatsWorld) (p : ℕ) :
    w.nsimDevHwstatsTrafficBump.entryOf p = (w.entryOf p).map (·.bump) := by
  show (w.l3List.map _).find? _ = _
  rw [List.find?_map]
  congr 2
  funext h
  exact congrArg (fun q => decide (q = p)) h.netdev_bump

/-- The counters are turned on, unless the entry or another driver refuses. -/
theorem change_coreEnable (sound : HwstatsSound w) (idle : w.pending = none)
    (registered : p ∈ w.devices) (here : w.netdevs p = some d) (othersFail : Bool) :
    ∃ x listed, OneChanges w (w.coreEnable p d.ifindex othersFail) p x listed none ∧
      ((w.entryOf p).any (·.failEnable) = true ∧ x = none ∧
          listed = (w.entryOf p).map (·.after .enable) ∨
        x = none ∧ listed = ((w.entryOf p).map (·.after .enable)).map (·.after .disable) ∨
        ¬ (w.entryOf p).any (·.failEnable) = true ∧ x = some 0 ∧
          listed = (w.entryOf p).map (·.after .enable)) := by
  have first := SameRefs.setXstats w p (some 0)
  set u := (w.setXstats p (some 0)).notify d.ifindex (.offXstats .enable) with asked
  have same : SameRefs w u := first.trans (SameRefs.notify _ d.ifindex .enable)
  have entries : u.entryOf = Function.update w.entryOf p ((w.entryOf p).map (·.after .enable)) :=
    first.entryOf_notify sound registered here .enable
  have on : u.xstats = Function.update w.xstats p (some 0) := by
    rw [asked, xstats_notify, xstats_setXstats here]
  obtain ⟨e, there, -⟩ := same.here here
  have refused := refused_iff sound registered here
  unfold HwstatsWorld.coreEnable
  dsimp only
  rw [← asked, refused]
  split_ifs with fails others
  · refine ⟨none, _, ⟨?_, entries, ?_⟩, Or.inl ⟨fails, rfl, rfl⟩⟩
    · rw [xstats_setXstats there, on, Function.update_idem]
    · exact ((SameRefs.setXstats u p none).flyingOf.trans same.flyingOf).trans
        (flyingOf_update idle)
  · have told := SameRefs.notify u d.ifindex .disable
    obtain ⟨f, now, -⟩ := (same.trans told).here here
    refine ⟨none, _, ⟨?_, ?_, ?_⟩, Or.inr (Or.inl ⟨rfl, rfl⟩)⟩
    · rw [xstats_setXstats now, xstats_notify, on, Function.update_idem]
    · refine (same.entryOf_notify sound registered here .disable).trans ?_
      rw [entries, Function.update_idem, Function.update_self]
    · exact (((same.trans told).trans (SameRefs.setXstats _ p none)).flyingOf).trans
        (flyingOf_update idle)
  · exact ⟨some 0, _, ⟨on, entries, same.flyingOf.trans (flyingOf_update idle)⟩,
      Or.inr (Or.inr ⟨fails, rfl, rfl⟩)⟩

theorem change_coreDisable (sound : HwstatsSound w) (idle : w.pending = none)
    (registered : p ∈ w.devices) (here : w.netdevs p = some d) :
    OneChanges w (w.coreDisable p d.ifindex) p none ((w.entryOf p).map (·.after .disable)) none := by
  have told := SameRefs.notify w d.ifindex .disable
  obtain ⟨e, there, -⟩ := told.here here
  refine ⟨(xstats_setXstats there none).trans ?_, entryOf_notify sound registered here .disable,
    (SameRefs.coreDisable w p d.ifindex).flyingOf.trans (flyingOf_update idle)⟩
  rw [xstats_notify]

/-- What the drivers report for a device. -/
theorem report_stats (sound : HwstatsSound w) (registered : p ∈ w.devices)
    (here : w.netdevs p = some d) :
    (if w.active then w.eventReport d.ifindex .reportDelta ⟨false, 0⟩
      else (⟨false, 0⟩ : XstatsReport)).stats = statsOf (w.entryOf p) := by
  split_ifs with active
  · unfold HwstatsWorld.eventReport
    rw [find_eq sound registered here]
    cases w.entryOf p with
    | none => rfl
    | some h => exact RtnlHwStats64.zero_add h.stats
  · rw [entryOf_of_inactive sound active]
    rfl

theorem change_coreGetStats (sound : HwstatsSound w) (idle : w.pending = none)
    (registered : p ∈ w.devices) (here : w.netdevs p = some d) :
    OneChanges w (w.coreGetStats p d.ifindex) p
      (d.offloadXstatsL3.map (· + statsOf (w.entryOf p)))
      ((w.entryOf p).map (·.after .reportDelta)) none := by
  refine ⟨?_, entryOf_notify sound registered here .reportDelta,
    (SameRefs.coreGetStats w p d.ifindex).flyingOf.trans (flyingOf_update idle)⟩
  unfold HwstatsWorld.coreGetStats
  dsimp only
  rw [xstats_pushDelta, xstats_notify, report_stats sound registered here, xstats_eq here]

/-- References do not count. -/
theorem xstats_refs (w : HwstatsWorld) (p : ℕ) (f : ℕ → ℕ) :
    (w.change p fun d => { d with refs := f d.refs }).xstats = w.xstats := by
  rw [xstats_change]
  exact Function.update_eq_self p w.xstats

/-- A handler adds an entry for a device that has none. -/
theorem change_enableIfindex (sound : HwstatsSound w) (idle : w.pending = none) (ifindex : Int32)
    (allocated : Bool) :
    (w.nsimDevHwstatsEnableIfindex ifindex allocated).1 = w ∨
      ∃ p, w.entryOf p = none ∧
        (w.nsimDevHwstatsEnableIfindex ifindex allocated).1.pending = some (.enable p) ∧
        OneChanges w (w.nsimDevHwstatsEnableIfindex ifindex allocated).1 p (w.xstats p)
          (some ⟨p, 0, false, false⟩) none := by
  unfold HwstatsWorld.nsimDevHwstatsEnableIfindex
  split
  · exact Or.inl rfl
  · rename_i unfound
    split
    · exact Or.inl rfl
    · rename_i p found
      obtain ⟨registered, d, here, rfl⟩ := HwstatsSound.of_byIndex found
      dsimp only
      split_ifs with failed
      · exact Or.inl (HwstatsSound.devPut_devGet w p)
      · have missing : w.entryOf p = none := (find_eq sound registered here).symm.trans unfound
        refine Or.inr ⟨p, missing, rfl, ?_, ?_, ?_⟩
        · refine (xstats_refs w p (· + 1)).trans ?_
          exact (Function.update_eq_self p w.xstats).symm
        · show entry (·.netdev) (w.l3List ++ [(⟨p, 0, false, false⟩ : NsimDevHwstatsNetdev)]) = _
          exact entry_append fun h mem => entry_eq_none_iff.1 missing h mem
        · rw [← flyingOf_update idle, flyingOf_of_pending idle]
          rfl

theorem flyingOf_enable (pending : w.pending = some (.enable p)) : w.flyingOf = fun _ => none := by
  funext q
  unfold HwstatsWorld.flyingOf HwstatsWorld.inFlight
  rw [pending]
  rfl

/-- The new entry is enabled if the core counts. -/
theorem change_finishEnable (sound : HwstatsSound w) (pending : w.pending = some (.enable p)) :
    OneChanges w (w.finishEnable p) p (w.xstats p)
      (if (w.xstats p).isSome then (w.entryOf p).map (·.after .enable) else w.entryOf p) none := by
  have on : w.xstatsEnabled p = (w.xstats p).isSome := by
    unfold HwstatsWorld.xstatsEnabled HwstatsWorld.xstats
    cases w.netdevs p <;> rfl
  have flying : w.flyingOf = Function.update w.flyingOf p none := by
    rw [flyingOf_enable pending]
    exact (Function.update_eq_self p fun _ => none).symm
  have done : (w.finishEnable p).flyingOf = w.flyingOf := by
    rw [flyingOf_enable pending]
    refine flyingOf_of_pending ?_
    unfold HwstatsWorld.finishEnable
    split_ifs <;> rfl
  refine ⟨?_, ?_, done.trans flying⟩
  · rw [Function.update_eq_self]
    unfold HwstatsWorld.finishEnable
    split_ifs <;> rfl
  · unfold HwstatsWorld.finishEnable
    rw [on]
    split_ifs
    · have mapped := modifyFirst_eq_map (p := fun h => decide (h.netdev = p))
        (f := (·.enable)) sound.nodup fun h _ => decide_eq_true_iff
      refine (congrArg (entry (·.netdev)) mapped).trans ?_
      exact entry_map fun h => h.netdev_enable
    · exact (Function.update_eq_self p w.entryOf).symm

/-- The entry of a device is on its way out. -/
theorem flyingOf_disable (w : HwstatsWorld) (h : NsimDevHwstatsNetdev)
    (l : List NsimDevHwstatsNetdev) :
    ({ w with l3List := l, pending := some (.disable h) } : HwstatsWorld).flyingOf =
      Function.update (fun _ => none) h.netdev (some h) := by
  funext q
  show (some h).filter _ = _
  by_cases same : q = h.netdev
  · subst same
    simp
  · rw [Function.update_of_ne same]
    simpa using Ne.symm same

/-- A handler takes an entry off the list. -/
theorem change_disableIfindex (sound : HwstatsSound w) (idle : w.pending = none)
    (ifindex : Int32) :
    (w.nsimDevHwstatsDisableIfindex ifindex).1 = w ∨
      ∃ h, (w.nsimDevHwstatsDisableIfindex ifindex).1.pending = some (.disable h) ∧
        OneChanges w (w.nsimDevHwstatsDisableIfindex ifindex).1 h.netdev (w.xstats h.netdev) none
          (w.entryOf h.netdev) := by
  unfold HwstatsWorld.nsimDevHwstatsDisableIfindex
  split
  · exact Or.inl rfl
  · rename_i h found
    obtain ⟨mem, d, here, rfl⟩ := HwstatsSound.of_find found
    have registered := sound.listed _ (HwstatsSound.mem_names mem)
    have listed : w.entryOf h.netdev = some h :=
      (find_eq sound registered here).symm.trans found
    refine Or.inr ⟨h, rfl, ?_, ?_, ?_⟩
    · exact (Function.update_eq_self h.netdev w.xstats).symm
    · show entry _ (w.l3List.eraseP _) = _
      rw [eraseP_eq_filter sound.nodup (sound.hasIfindex_iff registered here)]
      exact entry_filter
    · rw [flyingOf_of_pending idle, listed]
      exact flyingOf_disable w h _

/-- What was counted goes to the core, if that still counts. -/
theorem change_finishDisable (pending : w.pending = some (.disable h)) :
    OneChanges w (w.finishDisable h) h.netdev ((w.xstats h.netdev).map (· + h.stats))
      (w.entryOf h.netdev) none := by
  refine ⟨?_, ?_, ?_⟩
  · unfold HwstatsWorld.finishDisable HwstatsWorld.nsimDevHwsdevFini HwstatsWorld.devPut
    dsimp only
    rw [xstats_refs _ _ (· - 1)]
    split_ifs with on
    · exact xstats_pushDelta _ h.netdev h.stats
    · have off : w.xstats h.netdev = none := by
        unfold HwstatsWorld.xstats
        cases here : w.netdevs h.netdev with
        | none => rfl
        | some d =>
          have counts : ¬ d.offloadXstatsL3.isSome = true := by
            simpa [HwstatsWorld.xstatsEnabled, here] using on
          simpa using counts
      show w.xstats = _
      rw [off, Option.map_none, ← off, Function.update_eq_self]
  · rw [Function.update_eq_self]
    unfold HwstatsWorld.finishDisable
    dsimp only
    split_ifs <;> rfl
  · have done : (w.finishDisable h).pending = none := by
      unfold HwstatsWorld.finishDisable
      dsimp only
      split_ifs <;> rfl
    rw [flyingOf_of_pending done]
    funext q
    by_cases same : q = h.netdev
    · rw [same, Function.update_self]
    · rw [Function.update_of_ne same]
      unfold HwstatsWorld.flyingOf HwstatsWorld.inFlight
      rw [pending]
      refine Eq.symm ?_
      simpa using Ne.symm same

theorem change_failIfindex (sound : HwstatsSound w) (ifindex : Int32) :
    (w.nsimDevHwstatsFailIfindex ifindex).1 = w ∨
      ∃ p, OneChanges w (w.nsimDevHwstatsFailIfindex ifindex).1 p (w.xstats p)
        ((w.entryOf p).map ({ · with failEnable := true })) (w.flyingOf p) := by
  unfold HwstatsWorld.nsimDevHwstatsFailIfindex
  split
  · exact Or.inl rfl
  · rename_i h found
    obtain ⟨mem, d, here, rfl⟩ := HwstatsSound.of_find found
    have registered := sound.listed _ (HwstatsSound.mem_names mem)
    exact Or.inr ⟨h.netdev, (Function.update_eq_self h.netdev w.xstats).symm,
      entryOf_event sound registered here _ fun _ => rfl,
      (Function.update_eq_self h.netdev w.flyingOf).symm⟩

/-- A new device has no counters. -/
theorem views_register (ifindex : Int32) (unused : w.netdevs p = none) :
    (w.registerNetdevice p ifindex).xstats = w.xstats ∧
      (w.registerNetdevice p ifindex).entryOf = w.entryOf ∧
      (w.registerNetdevice p ifindex).flyingOf = w.flyingOf ∧
      (w.registerNetdevice p ifindex).pending = w.pending := by
  have same : w.registerNetdevice p ifindex = { w with
      netdevs := Function.update w.netdevs p (some ⟨ifindex, 0, none⟩)
      devices := w.devices ++ [p] } := by
    unfold HwstatsWorld.registerNetdevice HwstatsWorld.notify
    exact ite_self _
  rw [same]
  refine ⟨?_, rfl, rfl, rfl⟩
  funext q
  unfold HwstatsWorld.xstats
  by_cases here : q = p
  · subst here
    simp [unused]
  · simp [here]

/-- A device that is freed has nothing here. -/
theorem change_free (sound : HwstatsSound w) (unlisted : p ∉ w.devices) :
    OneChanges w { w with netdevs := Function.update w.netdevs p none } p none none none := by
  have missing : w.entryOf p = none :=
    entryOf_of_not_mem fun mem => unlisted (sound.listed p mem)
  have landed : w.flyingOf p = none := by
    unfold HwstatsWorld.flyingOf
    cases flying : w.inFlight with
    | none => rfl
    | some h =>
      have away : h.netdev ≠ p := fun same => unlisted (same ▸ (sound.disabling h flying).1)
      simpa using away
  refine ⟨?_, ?_, ?_⟩
  · funext q
    unfold HwstatsWorld.xstats
    by_cases same : q = p <;> simp [same]
  · rw [← missing]
    exact (Function.update_eq_self p w.entryOf).symm
  · rw [← landed]
    exact (Function.update_eq_self p w.flyingOf).symm

/-- A device whose counters are off loses its entry. -/
theorem change_notify_unregister (sound : HwstatsSound w) (idle : w.pending = none)
    (registered : p ∈ w.devices) (here : w.netdevs p = some d) (off : w.xstats p = none) :
    OneChanges w (w.notify d.ifindex .unregister) p none none none := by
  have still : w.xstats = Function.update w.xstats p none := by
    rw [← off]
    exact (Function.update_eq_self p w.xstats).symm
  have gone : ∀ missing : w.entryOf p = none, OneChanges w w p none none none := by
    intro missing
    refine ⟨still, ?_, flyingOf_update idle⟩
    rw [← missing]
    exact (Function.update_eq_self p w.entryOf).symm
  unfold HwstatsWorld.notify
  split_ifs with active
  · show OneChanges w (w.nsimDevHwstatsEventUnregister d.ifindex) p none none none
    have matching := sound.hasIfindex_iff registered here
    unfold HwstatsWorld.nsimDevHwstatsEventUnregister
    split
    · rename_i unfound
      exact gone ((find_eq sound registered here).symm.trans unfound)
    · rename_i h found
      refine ⟨(xstats_refs _ h.netdev (· - 1)).trans still, ?_, flyingOf_update idle⟩
      show entry _ (w.l3List.eraseP _) = _
      rw [eraseP_eq_filter sound.nodup matching]
      exact entry_filter
  · exact gone (congrFun (entryOf_of_inactive sound active) p)

/-- A device that is unregistered has no counters and no entry. -/
theorem change_unregister (sound : HwstatsSound w) (idle : w.pending = none)
    (registered : p ∈ w.devices) (here : w.netdevs p = some d) :
    OneChanges w (w.unregisterNetdevice p d.ifindex) p none none none := by
  obtain ⟨u, same, listed, change, result⟩ : ∃ u, SameRefs w u ∧ ∃ listed,
      OneChanges w u p none listed none ∧ w.unregisterNetdevice p d.ifindex =
        { u.notify d.ifindex .unregister with devices := w.devices.erase p } := by
    unfold HwstatsWorld.unregisterNetdevice
    dsimp only
    split_ifs with on
    · refine ⟨_, SameRefs.coreDisable w p d.ifindex, _,
        change_coreDisable sound idle registered here, ?_⟩
      rw [HwstatsSound.coreDisable_devices, HwstatsSound.notify_unregister_devices]
    · refine ⟨w, SameRefs.refl w, w.entryOf p, ⟨?_, ?_, flyingOf_update idle⟩,
        HwstatsSound.notify_unregister_devices w _ _⟩
      · have off : w.xstats p = none := by
          have counts : ¬ d.offloadXstatsL3.isSome = true := by
            simpa [HwstatsWorld.xstatsEnabled, here] using on
          rw [xstats_eq here]
          simpa using counts
        rw [← off]
        exact (Function.update_eq_self p w.xstats).symm
      · exact (Function.update_eq_self p w.entryOf).symm
  obtain ⟨e, there, index⟩ := same.here here
  have off : u.xstats p = none := by
    rw [change.xstats, Function.update_self]
  have told := change_notify_unregister (same.sound sound) (same.pending.trans idle)
    (by rw [same.devices]; exact registered) there off
  rw [index] at told
  rw [result]
  refine ⟨told.xstats.trans ?_, told.entryOf.trans ?_, told.flyingOf.trans ?_⟩
  · rw [change.xstats, Function.update_idem]
  · rw [change.entryOf, Function.update_idem]
  · rw [change.flyingOf, Function.update_idem]

/-- The list is empty when the driver starts. -/
theorem views_init (notifier ddir l3Ddir : Option Errno) (sound : HwstatsSound w)
    (inactive : ¬ w.active = true) :
    ∃ b, (w.nsimDevHwstatsInit notifier ddir l3Ddir).1 = { w with active := b } := by
  have started : ({ w with l3List := [], active := true } : HwstatsWorld) =
      { w with active := true } := by
    rw [← l3List_of_inactive sound inactive]
  unfold HwstatsWorld.nsimDevHwstatsInit
  cases notifier with
  | some e => exact ⟨w.active, rfl⟩
  | none =>
    cases ddir with
    | some e => exact ⟨w.active, rfl⟩
    | none =>
      cases l3Ddir with
      | some e => exact ⟨w.active, rfl⟩
      | none => exact ⟨true, started⟩

end Changes

/-! ## Nothing is lost or counted twice -/

section Conserved

variable {w w' : HwstatsWorld} {p : ℕ} {ticks : ℕ → ℕ}

/-- The runs of the work in which the entry of a device counted, since the counters of the device
were turned on. -/
def countTicks (w : HwstatsWorld) (ticks : ℕ → ℕ) : HwstatsOp → ℕ → ℕ
  | .traffic => fun p => if (w.entryOf p).any (·.enabled) then ticks p + 1 else ticks p
  | .coreEnable p _ => Function.update ticks p 0
  | _ => ticks

theorem HwstatsCounted.idle (counted : HwstatsCounted w ticks) (idle : w.pending = none) (p : ℕ) :
    Balanced (w.xstats p) (w.entryOf p) none (ticks p) := by
  have balanced := counted p
  rwa [flyingOf_of_pending idle] at balanced

/-- A device without counters and without entries. -/
theorem balanced_none (n : ℕ) : Balanced none none none n := ⟨entryOk_none, entryOk_none, nofun⟩

theorem counted_finishEnable (sound : HwstatsSound w) (counted : HwstatsCounted w ticks)
    (pending : w.pending = some (.enable p)) : HwstatsCounted (w.finishEnable p) ticks := by
  refine (change_finishEnable sound pending).counted_same counted ?_
  have before := counted p
  rw [flyingOf_enable pending] at before
  cases on : w.xstats p with
  | none =>
    rw [on] at before
    exact before
  | some c =>
    rw [on] at before
    refine ⟨entryOk_enable before.entry c, entryOk_none, fun c' same => ?_⟩
    show c' + statsOf ((w.entryOf p).map (·.after .enable)) + _ = _
    rw [statsOf_enable]
    exact before.sum c' same

/-- An entry that is to fail counts as before. -/
theorem Balanced.fail {x : Option RtnlHwStats64} {slot flying : Option NsimDevHwstatsNetdev} {n : ℕ}
    (balanced : Balanced x slot flying n) :
    Balanced x (slot.map ({ · with failEnable := true })) flying n := by
  cases slot with
  | none => exact balanced
  | some h =>
    refine ⟨?_, balanced.taken, balanced.sum⟩
    rintro g ⟨⟩
    exact balanced.entry h rfl

theorem counted_doWrite {action : NsimDevHwstatsDo} {data : Bytes} {allocated : Bool}
    (sound : HwstatsSound w) (counted : HwstatsCounted w ticks)
    (rtnl : w.pending = none ∨ action = .NSIM_DEV_HWSTATS_DO_FAIL) :
    HwstatsCounted (w.nsimDevHwstatsDoWrite action data allocated).1 ticks := by
  unfold HwstatsWorld.nsimDevHwstatsDoWrite
  split
  · exact counted
  · rename_i ifindex parsed
    cases action with
    | NSIM_DEV_HWSTATS_DO_DISABLE =>
      have idle := rtnl.resolve_right nofun
      obtain same | ⟨h, -, change⟩ := change_disableIfindex sound idle ifindex
      · rw [show _ = w from same]
        exact counted
      · exact change.counted_same counted (counted.idle idle _).takeOff
    | NSIM_DEV_HWSTATS_DO_ENABLE =>
      have idle := rtnl.resolve_right nofun
      obtain same | ⟨p, missing, -, change⟩ := change_enableIfindex sound idle ifindex allocated
      · rw [show _ = w from same]
        exact counted
      · have before := counted.idle idle p
        rw [missing] at before
        exact change.counted_same counted (before.add p)
    | NSIM_DEV_HWSTATS_DO_FAIL =>
      obtain same | ⟨p, change⟩ := change_failIfindex sound ifindex
      · rw [show _ = w from same]
        exact counted
      · exact change.counted_same counted (counted p).fail

/-- What one step counts. -/
theorem counted_step {op : HwstatsOp} (sound : HwstatsSound w) (counted : HwstatsCounted w ticks)
    (step : w.step op = some w') (stays : op ≠ .exit) : HwstatsCounted w' (countTicks w ticks op) := by
  cases op with
  | registerNetdev p ifindex =>
    obtain ⟨⟨-, unused, -⟩, rfl⟩ := ite_eq_some step
    obtain ⟨xstats, entryOf, flyingOf, -⟩ := views_register ifindex unused
    intro q
    rw [xstats, entryOf, flyingOf]
    exact counted q
  | unregisterNetdev p =>
    obtain ⟨registered, idle, d, here, result⟩ := onDevice_eq_some step
    obtain rfl := Option.some.inj result
    exact (change_unregister sound idle registered here).counted_same counted (balanced_none _)
  | freeNetdev p =>
    obtain ⟨⟨unlisted, -⟩, rfl⟩ := ite_eq_some step
    exact (change_free sound unlisted).counted_same counted (balanced_none _)
  | coreEnable p othersFail =>
    obtain ⟨registered, idle, d, here, result⟩ := onDevice_eq_some step
    obtain ⟨off, rfl⟩ := ite_eq_some result
    have before := counted.idle idle p
    rw [xstats_eq here, off] at before
    obtain ⟨x, listed, change, ⟨fails, rfl, rfl⟩ | ⟨rfl, rfl⟩ | ⟨-, rfl, rfl⟩⟩ :=
      change_coreEnable sound idle registered here othersFail
    · exact change.counted counted (before.refuse fails)
    · exact change.counted counted (balanced_off _ entryOk_none)
    · exact change.counted counted before.turnOn
  | coreDisable p =>
    obtain ⟨registered, idle, d, here, result⟩ := onDevice_eq_some step
    obtain ⟨-, rfl⟩ := ite_eq_some result
    exact (change_coreDisable sound idle registered here).counted_same counted
      (balanced_off _ entryOk_none)
  | coreGetStats p =>
    obtain ⟨registered, idle, d, here, result⟩ := onDevice_eq_some step
    obtain ⟨-, rfl⟩ := ite_eq_some result
    have before := counted.idle idle p
    rw [xstats_eq here] at before
    exact (change_coreGetStats sound idle registered here).counted_same counted before.report
  | write action data allocated =>
    obtain ⟨⟨-, rtnl⟩, rfl⟩ := ite_eq_some step
    exact counted_doWrite sound counted rtnl
  | finish =>
    obtain ⟨p, pending, rfl⟩ | ⟨h, pending, rfl⟩ := finish_eq_some step
    · exact counted_finishEnable sound counted pending
    · have flying : w.flyingOf h.netdev = some h := by
        unfold HwstatsWorld.flyingOf HwstatsWorld.inFlight
        rw [pending]
        simp
      have before := counted h.netdev
      rw [flying] at before
      exact (change_finishDisable pending).counted_same counted before.push
  | traffic =>
    obtain ⟨-, rfl⟩ := ite_eq_some step
    intro p
    rw [entryOf_bump]
    exact (counted p).bump
  | init notifier ddir l3Ddir =>
    by_cases active : w.active = true
    · rw [show w.step (.init notifier ddir l3Ddir) = none from if_pos active] at step
      cases step
    · rw [show w.step (.init notifier ddir l3Ddir) =
        some (w.nsimDevHwstatsInit notifier ddir l3Ddir).1 from if_neg active] at step
      obtain ⟨b, result⟩ := views_init notifier ddir l3Ddir sound active
      obtain rfl := Option.some.inj step
      rw [result]
      exact counted
  | exit => exact absurd rfl stays

/-- Runs with the number of times the work counted. -/
def hwstatsHistory : TransitionSystem (HwstatsWorld × (ℕ → ℕ)) HwstatsOp where
  init s := hwstatsSystem.init s.1 ∧ s.2 = fun _ => 0
  step s op s' := hwstatsSystem.step s.1 op s'.1 ∧ s'.2 = countTicks s.1 s.2 op

/-- In every run that does not unload the driver, however the work, the file writes and the requests
of the core interleave: while the counters of a device are on, the counters of the core, those in the
entry of the device and those in the entry a handler is about to push add up to the traffic of
exactly the runs of the work in which the entry counted since the counters were turned on. -/
theorem hwstats_conserved {w : HwstatsWorld} {ticks : ℕ → ℕ}
    (reach : (hwstatsHistory.guard fun _ op => op ≠ .exit).Reachable (w, ticks)) {p : ℕ}
    {c : RtnlHwStats64} (on : w.xstats p = some c) :
    c + statsOf (w.entryOf p) + statsOf (w.flyingOf p) = traffic (ticks p) := by
  have all : HwstatsSound w ∧ HwstatsCounted w ticks := by
    refine TransitionSystem.Reachable.induct (M := hwstatsHistory.guard fun _ op => op ≠ .exit)
      (P := fun s => HwstatsSound s.1 ∧ HwstatsCounted s.1 s.2) ?_ ?_ reach
    · rintro ⟨w, ticks⟩ ⟨start, zero⟩
      refine ⟨sound_of_reachable (.init start), ?_⟩
      obtain rfl : w = ⟨fun _ => none, [], [], none, false⟩ := start
      exact fun p => balanced_none _
    · rintro ⟨w, ticks⟩ op ⟨w', ticks'⟩ - ⟨sound, counted⟩ ⟨⟨step, count⟩, stays⟩
      obtain rfl : ticks' = countTicks w ticks op := count
      exact ⟨hwstatsSound_step sound step, counted_step sound counted step stays⟩
  exact (all.2 p).sum c on

/-- A device counts three runs of the work, the core fetches the first two of them. -/
theorem hwstats_conserved_of_three : ∃ w ticks,
    (hwstatsHistory.guard fun _ op => op ≠ .exit).Reachable (w, ticks) ∧ ticks 0 = 3 ∧
      w.xstats 0 = some (traffic 2) ∧
      traffic 2 + statsOf (w.entryOf 0) + statsOf (w.flyingOf 0) = traffic 3 := by
  have start : (hwstatsHistory.guard fun _ op => op ≠ .exit).Reachable
      (⟨fun _ => none, [], [], none, false⟩, fun _ => 0) := .init ⟨rfl, rfl⟩
  obtain ⟨⟨w, ticks⟩, reach, test⟩ := start.exists_of_follow
    [.init none none none, .registerNetdev 0 1, .coreEnable 0 false,
      .write .NSIM_DEV_HWSTATS_DO_ENABLE (ascii "1") true, .finish, .traffic, .traffic,
      .coreGetStats 0, .traffic]
    (fun s => s.2 0 = 3 ∧ s.1.xstats 0 = some (traffic 2))
    (fun op mem s t (step : (s.1.step op).map (fun w => (w, countTicks s.1 s.2 op)) = some t) => by
      obtain ⟨w, next, rfl⟩ := Option.map_eq_some_iff.1 step
      refine ⟨⟨next, rfl⟩, ?_⟩
      rintro rfl
      simp at mem)
    (by decide)
  obtain ⟨three, on⟩ := of_decide_eq_true test
  refine ⟨w, ticks, reach, three, on, ?_⟩
  have conserved := hwstats_conserved reach on
  change ticks 0 = 3 at three
  rwa [three] at conserved

end Conserved

/-! ## Entries count while the core does -/

section Agreed

variable {w w' : HwstatsWorld} {p : ℕ} {x : Option RtnlHwStats64}
  {slot flying : Option NsimDevHwstatsNetdev}

/-- An entry counts if and only if the core does.  One that a handler is about to enable does not
count yet, and is not to fail. -/
def Follows (x : Option RtnlHwStats64) (slot : Option NsimDevHwstatsNetdev) (fresh : Prop) : Prop :=
  ∀ h, slot = some h → (fresh → h.enabled = false ∧ h.failEnable = false) ∧
    (¬ fresh → (h.enabled = true ↔ x.isSome = true))

/-- All entries count if and only if the core does. -/
def Agreed (w : HwstatsWorld) : Prop :=
  ∀ p, Follows (w.xstats p) (w.entryOf p) (w.pending = some (.enable p))

theorem follows_none (x : Option RtnlHwStats64) (fresh : Prop) : Follows x none fresh := nofun

theorem Agreed.idle (agreed : Agreed w) (idle : w.pending = none) {h : NsimDevHwstatsNetdev}
    (here : w.entryOf p = some h) : h.enabled = true ↔ (w.xstats p).isSome = true :=
  (agreed p h here).2 (by rw [idle]; exact nofun)

/-- A device changes, and no handler is about to enable another one that was not before. -/
theorem OneChanges.agreed (change : OneChanges w w' p x slot flying) (agreed : Agreed w)
    (others : ∀ q, q ≠ p → (w'.pending = some (.enable q) ↔ w.pending = some (.enable q)))
    (follows : Follows x slot (w'.pending = some (.enable p))) : Agreed w' := by
  intro q
  rw [change.xstats, change.entryOf]
  by_cases same : q = p
  · subst same
    rw [Function.update_self, Function.update_self]
    exact follows
  · rw [Function.update_of_ne same, Function.update_of_ne same, others q same]
    exact agreed q

/-- Between handlers. -/
theorem OneChanges.agreed_idle (change : OneChanges w w' p x slot flying) (agreed : Agreed w)
    (idle : w.pending = none) (idle' : w'.pending = none)
    (follows : ∀ h, slot = some h → (h.enabled = true ↔ x.isSome = true)) : Agreed w' := by
  refine change.agreed agreed (fun q _ => by rw [idle, idle']) fun h here => ⟨?_, fun _ => ?_⟩
  · rw [idle']
    exact nofun
  · exact follows h here

theorem enabled_enable {h : NsimDevHwstatsNetdev} (passes : h.failEnable = false) :
    h.enable.enabled = true := by
  have same : h.enable = { h with enabled := true } := if_neg (by simp [passes])
  rw [same]

theorem agreed_finishEnable (sound : HwstatsSound w) (agreed : Agreed w)
    (pending : w.pending = some (.enable p)) : Agreed (w.finishEnable p) := by
  have done : (w.finishEnable p).pending = none := by
    unfold HwstatsWorld.finishEnable
    split_ifs <;> rfl
  refine (change_finishEnable sound pending).agreed agreed ?_ fun h here => ⟨?_, fun _ => ?_⟩
  · intro q away
    rw [done, pending]
    simpa using Ne.symm away
  · rw [done]
    exact nofun
  · split_ifs at here with on
    · obtain ⟨g, there, rfl⟩ := Option.map_eq_some_iff.1 here
      have fresh := (agreed p g there).1 pending
      exact iff_of_true (enabled_enable fresh.2) on
    · have fresh := (agreed p h here).1 pending
      rw [fresh.1]
      exact iff_of_false nofun on

/-- `fail_next_enable` does not come between the two steps of a handler that adds an entry. -/
def Undisturbed (w : HwstatsWorld) : HwstatsOp → Prop
  | .write action _ _ =>
    action = .NSIM_DEV_HWSTATS_DO_FAIL → ∀ p, w.pending ≠ some (.enable p)
  | _ => True

theorem agreed_doWrite {action : NsimDevHwstatsDo} {data : Bytes} {allocated : Bool}
    (sound : HwstatsSound w) (agreed : Agreed w)
    (rtnl : w.pending = none ∨ action = .NSIM_DEV_HWSTATS_DO_FAIL)
    (undisturbed : action = .NSIM_DEV_HWSTATS_DO_FAIL → ∀ p, w.pending ≠ some (.enable p)) :
    Agreed (w.nsimDevHwstatsDoWrite action data allocated).1 := by
  unfold HwstatsWorld.nsimDevHwstatsDoWrite
  split
  · exact agreed
  · rename_i ifindex parsed
    cases action with
    | NSIM_DEV_HWSTATS_DO_DISABLE =>
      have idle := rtnl.resolve_right nofun
      obtain same | ⟨h, pending, change⟩ := change_disableIfindex sound idle ifindex
      · rw [show _ = w from same]
        exact agreed
      · refine change.agreed agreed (fun q _ => ?_) (follows_none _ _)
        rw [idle]
        refine iff_of_false (fun enabling => ?_) nofun
        cases pending.symm.trans enabling
    | NSIM_DEV_HWSTATS_DO_ENABLE =>
      have idle := rtnl.resolve_right nofun
      obtain same | ⟨p, -, pending, change⟩ := change_enableIfindex sound idle ifindex allocated
      · rw [show _ = w from same]
        exact agreed
      · refine change.agreed agreed (fun q away => ?_) fun h here => ⟨fun _ => ?_, fun stale => ?_⟩
        · rw [idle]
          refine iff_of_false (fun enabling => ?_) nofun
          cases pending.symm.trans enabling
          exact away rfl
        · cases here
          exact ⟨rfl, rfl⟩
        · exact absurd pending stale
    | NSIM_DEV_HWSTATS_DO_FAIL =>
      have calm := undisturbed rfl
      have pending : (w.nsimDevHwstatsFailIfindex ifindex).1.pending = w.pending :=
        (SameRefs.failIfindex w ifindex).pending
      obtain same | ⟨p, change⟩ := change_failIfindex sound ifindex
      · rw [show _ = w from same]
        exact agreed
      · refine change.agreed agreed (fun q _ => by rw [pending]) fun g here => ?_
        obtain ⟨h, there, rfl⟩ := Option.map_eq_some_iff.1 here
        rw [pending]
        exact ⟨fun fresh => absurd fresh (calm p), (agreed p h there).2⟩

theorem pending_unregister (w : HwstatsWorld) (p : ℕ) (ifindex : Int32) :
    (w.unregisterNetdevice p ifindex).pending = w.pending := by
  have event : ∀ u : HwstatsWorld, (u.notify ifindex .unregister).pending = u.pending := by
    intro u
    unfold HwstatsWorld.notify HwstatsWorld.nsimDevHwstatsEvent
      HwstatsWorld.nsimDevHwstatsEventUnregister
    split_ifs
    · dsimp only
      split <;> rfl
    · rfl
  unfold HwstatsWorld.unregisterNetdevice
  dsimp only
  rw [event]
  split_ifs
  · exact (SameRefs.coreDisable _ p ifindex).pending
  · rfl

theorem agreed_of_empty (empty : w.names = []) : Agreed w := by
  intro p
  have missing : w.entryOf p = none := entryOf_of_not_mem (by rw [empty]; exact List.not_mem_nil)
  rw [missing]
  exact follows_none _ _

theorem agreed_step {op : HwstatsOp} (sound : HwstatsSound w) (agreed : Agreed w)
    (step : w.step op = some w') (undisturbed : Undisturbed w op) : Agreed w' := by
  cases op with
  | registerNetdev p ifindex =>
    obtain ⟨⟨-, unused, -⟩, rfl⟩ := ite_eq_some step
    obtain ⟨xstats, entryOf, -, pending⟩ := views_register ifindex unused
    intro q
    rw [xstats, entryOf, pending]
    exact agreed q
  | unregisterNetdev p =>
    obtain ⟨registered, idle, d, here, result⟩ := onDevice_eq_some step
    obtain rfl := Option.some.inj result
    exact (change_unregister sound idle registered here).agreed_idle agreed idle
      ((pending_unregister w p d.ifindex).trans idle) nofun
  | freeNetdev p =>
    obtain ⟨⟨unlisted, -⟩, rfl⟩ := ite_eq_some step
    exact (change_free sound unlisted).agreed agreed (fun _ _ => Iff.rfl) (follows_none _ _)
  | coreEnable p othersFail =>
    obtain ⟨registered, idle, d, here, result⟩ := onDevice_eq_some step
    obtain ⟨off, rfl⟩ := ite_eq_some result
    have idle' := (SameRefs.coreEnable w p d.ifindex othersFail).pending.trans idle
    obtain ⟨x, listed, change, ⟨fails, rfl, rfl⟩ | ⟨rfl, rfl⟩ | ⟨passes, rfl, rfl⟩⟩ :=
      change_coreEnable sound idle registered here othersFail
    · refine change.agreed_idle agreed idle idle' fun g there => ?_
      obtain ⟨h, listed, rfl⟩ := Option.map_eq_some_iff.1 there
      have before := agreed.idle idle listed
      rw [xstats_eq here, off] at before
      rw [listed] at fails
      have kept : h.after .enable = { h with failEnable := false } := if_pos (by simpa using fails)
      rw [kept]
      exact before
    · refine change.agreed_idle agreed idle idle' fun g there => ?_
      obtain ⟨h, -, rfl⟩ := Option.map_eq_some_iff.1 there
      exact iff_of_false nofun nofun
    · refine change.agreed_idle agreed idle idle' fun g there => ?_
      obtain ⟨h, listed, rfl⟩ := Option.map_eq_some_iff.1 there
      rw [listed] at passes
      exact iff_of_true (enabled_enable (by simpa using passes)) rfl
  | coreDisable p =>
    obtain ⟨registered, idle, d, here, result⟩ := onDevice_eq_some step
    obtain ⟨-, rfl⟩ := ite_eq_some result
    refine (change_coreDisable sound idle registered here).agreed_idle agreed idle
      ((SameRefs.coreDisable w p d.ifindex).pending.trans idle) fun g there => ?_
    obtain ⟨h, -, rfl⟩ := Option.map_eq_some_iff.1 there
    exact iff_of_false nofun nofun
  | coreGetStats p =>
    obtain ⟨registered, idle, d, here, result⟩ := onDevice_eq_some step
    obtain ⟨-, rfl⟩ := ite_eq_some result
    refine (change_coreGetStats sound idle registered here).agreed_idle agreed idle
      ((SameRefs.coreGetStats w p d.ifindex).pending.trans idle) fun g there => ?_
    obtain ⟨h, listed, rfl⟩ := Option.map_eq_some_iff.1 there
    have before := agreed.idle idle listed
    rw [xstats_eq here] at before
    rw [Option.isSome_map]
    exact before
  | write action data allocated =>
    obtain ⟨⟨-, rtnl⟩, rfl⟩ := ite_eq_some step
    exact agreed_doWrite sound agreed rtnl undisturbed
  | finish =>
    obtain ⟨p, pending, rfl⟩ | ⟨h, pending, rfl⟩ := finish_eq_some step
    · exact agreed_finishEnable sound agreed pending
    · have done : (w.finishDisable h).pending = none := by
        unfold HwstatsWorld.finishDisable
        dsimp only
        split_ifs <;> rfl
      have still : ∀ q, w.pending ≠ some (.enable q) := by
        rw [pending]
        exact fun _ => nofun
      refine (change_finishDisable pending).agreed agreed (fun q _ => ?_)
        fun g there => ⟨?_, fun _ => ?_⟩
      · rw [done]
        exact iff_of_false nofun (still q)
      · rw [done]
        exact nofun
      · rw [Option.isSome_map]
        exact (agreed h.netdev g there).2 (still h.netdev)
  | traffic =>
    obtain ⟨-, rfl⟩ := ite_eq_some step
    intro p
    rw [entryOf_bump]
    intro g there
    obtain ⟨h, listed, rfl⟩ := Option.map_eq_some_iff.1 there
    have flags : h.bump.enabled = h.enabled ∧ h.bump.failEnable = h.failEnable := by
      unfold NsimDevHwstatsNetdev.bump
      split_ifs <;> exact ⟨rfl, rfl⟩
    rw [flags.1, flags.2]
    exact agreed p h listed
  | init notifier ddir l3Ddir =>
    by_cases active : w.active = true
    · rw [show w.step (.init notifier ddir l3Ddir) = none from if_pos active] at step
      cases step
    · rw [show w.step (.init notifier ddir l3Ddir) =
        some (w.nsimDevHwstatsInit notifier ddir l3Ddir).1 from if_neg active] at step
      obtain ⟨b, result⟩ := views_init notifier ddir l3Ddir sound active
      obtain rfl := Option.some.inj step
      rw [result]
      exact agreed
  | exit =>
    obtain ⟨⟨-, idle⟩, rfl⟩ := ite_eq_some step
    exact agreed_of_empty (sound.exit idle).2

/-- In every run in which `fail_next_enable` does not come between the two steps of a handler that
adds an entry: the driver reports that a device is counted if and only if the device was added and
the core counts it, unless a handler is just about to enable the entry. -/
theorem hwstats_agree {w : HwstatsWorld}
    (reach : (hwstatsSystem.guard Undisturbed).Reachable w) {p : ℕ} {d : XstatsNetdev}
    (registered : p ∈ w.devices) (here : w.netdevs p = some d)
    (done : w.pending ≠ some (.enable p)) (stats : RtnlHwStats64) :
    (w.eventReport d.ifindex .reportUsed ⟨false, stats⟩).used = true ↔
      p ∈ w.names ∧ d.offloadXstatsL3.isSome = true := by
  have agreed : HwstatsSound w ∧ Agreed w := by
    refine TransitionSystem.Reachable.induct (M := hwstatsSystem.guard Undisturbed)
      (P := fun w => HwstatsSound w ∧ Agreed w) ?_ ?_ reach
    · rintro w start
      refine ⟨sound_of_reachable (.init start), agreed_of_empty ?_⟩
      obtain rfl : w = ⟨fun _ => none, [], [], none, false⟩ := start
      rfl
    · rintro w op w' - ⟨sound, agreed⟩ ⟨step, undisturbed⟩
      exact ⟨hwstatsSound_step sound step, agreed_step sound agreed step undisturbed⟩
  unfold HwstatsWorld.eventReport
  rw [find_eq agreed.1 registered here]
  cases listed : w.entryOf p with
  | none =>
    have unlisted : p ∉ w.names := fun mem => by
      obtain ⟨h, mem, same⟩ := List.mem_map.1 mem
      exact entry_eq_none_iff.1 listed h mem same
    exact iff_of_false nofun fun both => unlisted both.1
  | some h =>
    have mem : p ∈ w.names := by
      obtain ⟨there, rfl⟩ := (entry_eq_some_iff agreed.1.nodup).1 listed
      exact HwstatsSound.mem_names there
    have follows := (agreed.2 p h listed).2 done
    rw [xstats_eq here] at follows
    have used : (h.report ⟨false, stats⟩ .reportUsed).used = h.enabled := by
      unfold NsimDevHwstatsNetdev.report
      cases h.enabled <;> rfl
    show (h.report ⟨false, stats⟩ .reportUsed).used = true ↔ _
    rw [used, follows]
    exact (and_iff_right mem).symm

/-- A device is counted that was added before the core counted it. -/
theorem hwstats_agree_of_one : ∃ w d, (hwstatsSystem.guard Undisturbed).Reachable w ∧
    w.netdevs 0 = some d ∧ (w.eventReport d.ifindex .reportUsed ⟨false, 0⟩).used = true := by
  obtain ⟨w, reach, test⟩ := TransitionSystem.Reachable.exists_of_follow
    (M := hwstatsSystem.guard Undisturbed) (.init rfl)
    [.init none none none, .registerNetdev 0 1,
      .write .NSIM_DEV_HWSTATS_DO_ENABLE (ascii "1") true, .finish, .coreEnable 0 false]
    (fun w => w.devices = [0] ∧ w.names = [0] ∧ w.pending = none ∧
      w.netdevs 0 = some ⟨1, 1, some 0⟩)
    (fun op mem s t (step : s.step op = some t) => by
      refine ⟨step, ?_⟩
      simp only [List.mem_cons, List.not_mem_nil, or_false] at mem
      rcases mem with rfl | rfl | rfl | rfl | rfl
      exacts [trivial, trivial, nofun, trivial, trivial])
    (by decide)
  obtain ⟨devices, names, idle, here⟩ := of_decide_eq_true test
  refine ⟨w, _, reach, here, ?_⟩
  refine (hwstats_agree reach ?_ here ?_ 0).2 ⟨?_, rfl⟩
  · rw [devices]
    exact List.mem_cons_self
  · rw [idle]
    exact nofun
  · rw [names]
    exact List.mem_cons_self

end Agreed

end Netdevsim
