import Netdevsim.Netdev.Hwstats

/-!
# References of the hardware statistics

Each entry of the list holds one reference to its network device, and a handler that took an entry
off the list holds it on until it is done.  In all runs there are no other references, so a device
that was unregistered has none and can be freed.
-/

namespace Netdevsim

open FirstMatch

namespace HwstatsWorld

/-- The network devices of the list. -/
def names (w : HwstatsWorld) : List ℕ := w.l3List.map (·.netdev)

/-- The entry a handler took off the list. -/
def inFlight (w : HwstatsWorld) : Option NsimDevHwstatsNetdev :=
  match w.pending with
  | some (.disable hwsdev) => some hwsdev
  | _ => none

/-- The references held to a network device. -/
def held (w : HwstatsWorld) (p : ℕ) : ℕ :=
  w.names.count p + if w.inFlight.any fun hwsdev => hwsdev.netdev = p then 1 else 0

/-- The index and the references of a network device. -/
def outline (w : HwstatsWorld) (p : ℕ) : Option (Int32 × ℕ) :=
  (w.netdevs p).map fun d => (d.ifindex, d.refs)

theorem netdevs_change (w : HwstatsWorld) (p : ℕ) (f : XstatsNetdev → XstatsNetdev) :
    (w.change p f).netdevs = Function.update w.netdevs p ((w.netdevs p).map f) := rfl

end HwstatsWorld

/-- The list has registered devices only, each once, and all references are accounted for. -/
structure HwstatsSound (w : HwstatsWorld) : Prop where
  nodup : w.names.Nodup
  listed : ∀ p ∈ w.names, p ∈ w.devices
  live : ∀ p ∈ w.devices, ∃ o, w.outline p = some o
  distinct : ∀ p ∈ w.devices, ∀ q ∈ w.devices, ∀ o o', w.outline p = some o →
    w.outline q = some o' → o.1 = o'.1 → p = q
  once : w.devices.Nodup
  refs : ∀ p o, w.outline p = some o → o.2 = w.held p
  enabling : ∀ p, w.pending = some (.enable p) → p ∈ w.names
  disabling : ∀ hwsdev, w.inFlight = some hwsdev →
    hwsdev.netdev ∈ w.devices ∧ hwsdev.netdev ∉ w.names
  idle : w.active = false → w.names = [] ∧ w.pending = none

/-- The worlds differ in counters and flags only. -/
structure SameRefs (w w' : HwstatsWorld) : Prop where
  names : w'.names = w.names
  devices : w'.devices = w.devices
  outline : w'.outline = w.outline
  pending : w'.pending = w.pending
  active : w'.active = w.active

namespace SameRefs

variable {w w' w'' : HwstatsWorld}

theorem refl (w : HwstatsWorld) : SameRefs w w := ⟨rfl, rfl, rfl, rfl, rfl⟩

theorem trans (first : SameRefs w w') (second : SameRefs w' w'') : SameRefs w w'' :=
  ⟨second.names.trans first.names, second.devices.trans first.devices,
    second.outline.trans first.outline, second.pending.trans first.pending,
    second.active.trans first.active⟩

theorem inFlight (same : SameRefs w w') : w'.inFlight = w.inFlight := by
  unfold HwstatsWorld.inFlight
  rw [same.pending]

theorem held (same : SameRefs w w') : w'.held = w.held := by
  funext p
  unfold HwstatsWorld.held
  rw [same.names, same.inFlight]

theorem sound (same : SameRefs w w') (sound : HwstatsSound w) : HwstatsSound w' where
  nodup := by rw [same.names]; exact sound.nodup
  listed := by rw [same.names, same.devices]; exact sound.listed
  live := by rw [same.devices, same.outline]; exact sound.live
  distinct := by rw [same.devices, same.outline]; exact sound.distinct
  once := by rw [same.devices]; exact sound.once
  refs := by rw [same.outline, same.held]; exact sound.refs
  enabling := by rw [same.pending, same.names]; exact sound.enabling
  disabling := by rw [same.inFlight, same.devices, same.names]; exact sound.disabling
  idle := by rw [same.active, same.names, same.pending]; exact sound.idle

/-- A change of a device that keeps its index and its references. -/
theorem change (w : HwstatsWorld) (p : ℕ) (f : XstatsNetdev → XstatsNetdev)
    (keeps : ∀ d, (f d).ifindex = d.ifindex ∧ (f d).refs = d.refs) : SameRefs w (w.change p f) := by
  refine ⟨rfl, rfl, ?_, rfl, rfl⟩
  funext q
  unfold HwstatsWorld.outline
  rw [HwstatsWorld.netdevs_change]
  by_cases same : q = p
  · subst same
    rw [Function.update_self, Option.map_map]
    congr 1
    funext d
    simp [(keeps d).1, (keeps d).2]
  · rw [Function.update_of_ne same]

/-- Entries change, but not the devices they are for. -/
theorem relist (w : HwstatsWorld) {l : List NsimDevHwstatsNetdev}
    (same : l.map (·.netdev) = w.names) : SameRefs w { w with l3List := l } :=
  ⟨same, rfl, rfl, rfl, rfl⟩

end SameRefs

/-! ## Operations that keep the references -/

theorem map_netdev_modifyFirst (p : NsimDevHwstatsNetdev → Bool)
    {f : NsimDevHwstatsNetdev → NsimDevHwstatsNetdev} (keeps : ∀ h, (f h).netdev = h.netdev)
    (l : List NsimDevHwstatsNetdev) :
    (modifyFirst p f l).map (·.netdev) = l.map (·.netdev) := by
  induction l with
  | nil => rfl
  | cons h l ih =>
    unfold modifyFirst
    split_ifs
    · simp [keeps]
    · simp [ih]

namespace NsimDevHwstatsNetdev

@[simp] theorem netdev_after (h : NsimDevHwstatsNetdev) (event : XstatsEvent) :
    (h.after event).netdev = h.netdev := by
  cases event <;> simp only [after, enable, disable, reported]
  split_ifs <;> rfl

@[simp] theorem netdev_enable (h : NsimDevHwstatsNetdev) : h.enable.netdev = h.netdev :=
  h.netdev_after .enable

@[simp] theorem netdev_bump (h : NsimDevHwstatsNetdev) : h.bump.netdev = h.netdev := by
  unfold bump
  split_ifs <;> rfl

end NsimDevHwstatsNetdev

namespace SameRefs

variable {w : HwstatsWorld} {p : ℕ} {ifindex : Int32}

theorem bump (w : HwstatsWorld) : SameRefs w w.nsimDevHwstatsTrafficBump :=
  relist w (by
    rw [List.map_map]
    exact List.map_congr_left fun h _ => h.netdev_bump)

theorem event (w : HwstatsWorld) (ifindex : Int32) (event : XstatsEvent) :
    SameRefs w (w.nsimDevHwstatsEventOffXstats ifindex event) :=
  relist w (map_netdev_modifyFirst _ (fun h => h.netdev_after event) _)

theorem notify (w : HwstatsWorld) (ifindex : Int32) (event : XstatsEvent) :
    SameRefs w (w.notify ifindex (.offXstats event)) := by
  unfold HwstatsWorld.notify
  split_ifs
  · exact SameRefs.event w ifindex event
  · exact refl w

theorem setXstats (w : HwstatsWorld) (p : ℕ) (stats : Option RtnlHwStats64) :
    SameRefs w (w.setXstats p stats) :=
  change w p _ fun _ => ⟨rfl, rfl⟩

theorem pushDelta (w : HwstatsWorld) (p : ℕ) (stats : RtnlHwStats64) :
    SameRefs w (w.pushDelta p stats) :=
  change w p _ fun _ => ⟨rfl, rfl⟩

theorem coreEnable (w : HwstatsWorld) (p : ℕ) (ifindex : Int32) (othersFail : Bool) :
    SameRefs w (w.coreEnable p ifindex othersFail) := by
  have asked := (setXstats w p (some 0)).trans (notify _ ifindex .enable)
  unfold HwstatsWorld.coreEnable
  dsimp only
  split_ifs
  · exact asked.trans (setXstats _ p none)
  · exact (asked.trans (notify _ ifindex .disable)).trans (setXstats _ p none)
  · exact asked

theorem coreDisable (w : HwstatsWorld) (p : ℕ) (ifindex : Int32) :
    SameRefs w (w.coreDisable p ifindex) :=
  (notify w ifindex .disable).trans (setXstats _ p none)

theorem coreGetStats (w : HwstatsWorld) (p : ℕ) (ifindex : Int32) :
    SameRefs w (w.coreGetStats p ifindex) :=
  (notify w ifindex .reportDelta).trans (pushDelta _ p _)

theorem failIfindex (w : HwstatsWorld) (ifindex : Int32) :
    SameRefs w (w.nsimDevHwstatsFailIfindex ifindex).1 := by
  unfold HwstatsWorld.nsimDevHwstatsFailIfindex
  split
  · exact refl w
  · exact relist w (map_netdev_modifyFirst _ (f := fun h => { h with failEnable := true })
      (fun _ => rfl) _)

end SameRefs

/-! ## Finding entries -/

namespace HwstatsSound

variable {w : HwstatsWorld} {p : ℕ} {d : XstatsNetdev}

theorem outline_eq (here : w.netdevs p = some d) : w.outline p = some (d.ifindex, d.refs) := by
  unfold HwstatsWorld.outline
  rw [here]
  rfl

/-- The entries with the index of a registered device are those for this device. -/
theorem hasIfindex_iff (sound : HwstatsSound w) (registered : p ∈ w.devices)
    (here : w.netdevs p = some d) :
    ∀ h ∈ w.l3List, w.hasIfindex d.ifindex h = true ↔ h.netdev = p := by
  intro h mem
  have other := sound.listed h.netdev (List.mem_map.2 ⟨h, mem, rfl⟩)
  unfold HwstatsWorld.hasIfindex
  rw [Option.any_eq_true]
  constructor
  · rintro ⟨e, there, same⟩
    exact sound.distinct h.netdev other p registered _ _ (outline_eq there) (outline_eq here)
      (by simpa using same)
  · rintro rfl
    exact ⟨d, here, by simp⟩

/-- The device with an index is registered and has it. -/
theorem of_byIndex {ifindex : Int32} (found : w.byIndex ifindex = some p) :
    p ∈ w.devices ∧ ∃ d, w.netdevs p = some d ∧ d.ifindex = ifindex := by
  refine ⟨List.mem_of_find?_eq_some found, ?_⟩
  have has := List.find?_some found
  obtain ⟨d, here, same⟩ := (Option.any_eq_true _ _).1 has
  exact ⟨d, here, by simpa using same⟩

/-- An entry that is found is one of the list, for a registered device with the index. -/
theorem of_find {ifindex : Int32} {h : NsimDevHwstatsNetdev} (found : w.find ifindex = some h) :
    h ∈ w.l3List ∧ ∃ d, w.netdevs h.netdev = some d ∧ d.ifindex = ifindex := by
  refine ⟨List.mem_of_find?_eq_some found, ?_⟩
  have has : w.hasIfindex ifindex h = true := List.find?_some found
  unfold HwstatsWorld.hasIfindex at has
  obtain ⟨d, here, same⟩ := (Option.any_eq_true _ _).1 has
  exact ⟨d, here, by simpa using same⟩

theorem mem_names {h : NsimDevHwstatsNetdev} (mem : h ∈ w.l3List) : h.netdev ∈ w.names :=
  List.mem_map.2 ⟨h, mem, rfl⟩

/-- Of the devices of the list each has one reference for its entry. -/
theorem count_names (sound : HwstatsSound w) (p : ℕ) :
    w.names.count p = if p ∈ w.names then 1 else 0 := by
  split_ifs with mem
  · exact List.count_eq_one_of_mem sound.nodup mem
  · exact List.count_eq_zero.2 mem

/-- The devices of the list without one of them. -/
theorem names_filter (p : ℕ) :
    (w.l3List.filter fun h => h.netdev ≠ p).map (·.netdev) = w.names.filter (· ≠ p) := by
  unfold HwstatsWorld.names
  rw [List.filter_map]
  rfl

theorem held_of_not_mem (sound : HwstatsSound w) (unlisted : p ∉ w.devices) : w.held p = 0 := by
  unfold HwstatsWorld.held
  rw [List.count_eq_zero.2 fun mem => unlisted (sound.listed p mem), Nat.zero_add]
  refine if_neg fun holds => ?_
  obtain ⟨h, flying, same⟩ := (Option.any_eq_true _ _).1 holds
  have registered := (sound.disabling h flying).1
  rw [of_decide_eq_true same] at registered
  exact unlisted registered

theorem held_of_idle {w : HwstatsWorld} (sound : HwstatsSound w) (idle : w.pending = none) (p : ℕ) :
    w.held p = if p ∈ w.names then 1 else 0 := by
  unfold HwstatsWorld.held HwstatsWorld.inFlight
  rw [sound.count_names, idle]
  rfl

/-! ## Devices come and go -/

theorem register {ifindex : Int32} (sound : HwstatsSound w) (unused : w.netdevs p = none)
    (fresh : w.byIndex ifindex = none) : HwstatsSound (w.registerNetdevice p ifindex) := by
  have same : w.registerNetdevice p ifindex = { w with
      netdevs := Function.update w.netdevs p (some ⟨ifindex, 0, none⟩)
      devices := w.devices ++ [p] } := by
    unfold HwstatsWorld.registerNetdevice HwstatsWorld.notify
    exact ite_self _
  have unlisted : p ∉ w.devices := by
    intro mem
    obtain ⟨o, live⟩ := sound.live p mem
    simp [HwstatsWorld.outline, unused] at live
  have outline : (w.registerNetdevice p ifindex).outline =
      Function.update w.outline p (some (ifindex, 0)) := by
    rw [same]
    funext q
    unfold HwstatsWorld.outline
    by_cases here : q = p <;> simp [here]
  have other : ∀ q ∈ w.devices, ∀ o, w.outline q = some o → o.1 ≠ ifindex := by
    intro q mem o live equal
    obtain ⟨d, there, rfl⟩ := Option.map_eq_some_iff.1 live
    have unfound := List.find?_eq_none.1 fresh q mem
    simp only [there, Option.any_some, decide_eq_true_eq] at unfound
    exact unfound equal
  constructor
  · rw [same]
    exact sound.nodup
  · rw [same]
    exact fun q mem => List.mem_append_left _ (sound.listed q mem)
  · rw [outline, same]
    intro q mem
    by_cases here : q = p
    · subst here
      exact ⟨_, Function.update_self ..⟩
    · rw [Function.update_of_ne here]
      exact sound.live q ((List.mem_append.1 mem).resolve_right (by simpa using here))
  · rw [outline, same]
    intro q mem r mem' o o' live live' equal
    have old : ∀ {q}, q ∈ w.devices ++ [p] → q ≠ p → q ∈ w.devices := fun mem away =>
      (List.mem_append.1 mem).resolve_right (by simpa using away)
    by_cases first : q = p <;> by_cases second : r = p
    · rw [first, second]
    · subst first
      rw [Function.update_self] at live
      rw [Function.update_of_ne second] at live'
      cases live
      exact absurd equal.symm (other r (old mem' second) o' live')
    · subst second
      rw [Function.update_self] at live'
      rw [Function.update_of_ne first] at live
      cases live'
      exact absurd equal (other q (old mem first) o live)
    · rw [Function.update_of_ne first] at live
      rw [Function.update_of_ne second] at live'
      exact sound.distinct q (old mem first) r (old mem' second) o o' live live' equal
  · rw [same]
    simpa [List.nodup_append] using ⟨sound.once, fun q mem same => unlisted (same ▸ mem)⟩
  · rw [outline]
    intro q o live
    have held : (w.registerNetdevice p ifindex).held q = w.held q := by
      rw [same]
      rfl
    rw [held]
    by_cases here : q = p
    · subst here
      rw [Function.update_self] at live
      cases live
      exact (sound.held_of_not_mem unlisted).symm
    · rw [Function.update_of_ne here] at live
      exact sound.refs q o live
  · rw [same]
    exact sound.enabling
  · rw [same]
    exact fun h flying => ⟨List.mem_append_left _ (sound.disabling h flying).1,
      (sound.disabling h flying).2⟩
  · rw [same]
    exact sound.idle

theorem free (sound : HwstatsSound w) (unlisted : p ∉ w.devices) :
    HwstatsSound { w with netdevs := Function.update w.netdevs p none } := by
  have outline : ({ w with netdevs := Function.update w.netdevs p none } : HwstatsWorld).outline =
      Function.update w.outline p none := by
    funext q
    unfold HwstatsWorld.outline
    by_cases here : q = p <;> simp [here]
  have away : ∀ {q}, q ∈ w.devices → q ≠ p := fun mem same => unlisted (same ▸ mem)
  refine ⟨sound.nodup, sound.listed, ?_, ?_, sound.once, ?_, sound.enabling, sound.disabling,
    sound.idle⟩
  · intro q mem
    rw [outline, Function.update_of_ne (away mem)]
    exact sound.live q mem
  · intro q mem r mem' o o' live live'
    rw [outline, Function.update_of_ne (away mem)] at live
    rw [outline, Function.update_of_ne (away mem')] at live'
    exact sound.distinct q mem r mem' o o' live live'
  · intro q o live
    rw [outline] at live
    by_cases here : q = p
    · subst here
      rw [Function.update_self] at live
      cases live
    · rw [Function.update_of_ne here] at live
      exact sound.refs q o live

/-! ## The file handlers -/

theorem outline_change (w : HwstatsWorld) (p : ℕ) (f : XstatsNetdev → XstatsNetdev) :
    (w.change p f).outline =
      Function.update w.outline p ((w.netdevs p).map fun d => ((f d).ifindex, (f d).refs)) := by
  funext q
  unfold HwstatsWorld.outline
  rw [HwstatsWorld.netdevs_change]
  by_cases here : q = p
  · subst here
    rw [Function.update_self, Function.update_self, Option.map_map]
    rfl
  · rw [Function.update_of_ne here, Function.update_of_ne here]

/-- Taking a reference and dropping it again. -/
theorem devPut_devGet (w : HwstatsWorld) (p : ℕ) : (w.devGet p).devPut p = w := by
  have same : (w.devGet p).devPut p = { w with netdevs := ((w.devGet p).devPut p).netdevs } := rfl
  rw [same]
  congr 1
  funext q
  unfold HwstatsWorld.devPut HwstatsWorld.devGet
  rw [HwstatsWorld.netdevs_change, HwstatsWorld.netdevs_change]
  by_cases here : q = p
  · subst here
    rw [Function.update_self, Function.update_self, Option.map_map]
    cases w.netdevs q <;> rfl
  · rw [Function.update_of_ne here, Function.update_of_ne here]

/-- The list is the one of registered devices whose indices and references are as before, but for
one device: this is what all handlers leave. -/
theorem of_one {w' : HwstatsWorld} (sound : HwstatsSound w) (refs : ℕ)
    (devices : w'.devices = w.devices)
    (outline : w'.outline = Function.update w.outline p (some (d.ifindex, refs)))
    (here : w.netdevs p = some d) (nodup : w'.names.Nodup)
    (listed : ∀ q ∈ w'.names, q ∈ w.devices) (counted : refs = w'.held p)
    (others : ∀ q, q ≠ p → w'.held q = w.held q)
    (enabling : ∀ q, w'.pending = some (.enable q) → q ∈ w'.names)
    (disabling : ∀ h, w'.inFlight = some h → h.netdev ∈ w.devices ∧ h.netdev ∉ w'.names)
    (idle : w'.active = false → w'.names = [] ∧ w'.pending = none) : HwstatsSound w' := by
  have index : ∀ q o, w'.outline q = some o → ∃ o₀, w.outline q = some o₀ ∧ o₀.1 = o.1 := by
    intro q o live
    rw [outline] at live
    by_cases same : q = p
    · subst same
      rw [Function.update_self] at live
      cases live
      exact ⟨_, outline_eq here, rfl⟩
    · rw [Function.update_of_ne same] at live
      exact ⟨o, live, rfl⟩
  refine ⟨nodup, by rw [devices]; exact listed, ?_, ?_, by rw [devices]; exact sound.once, ?_,
    enabling, by rw [devices]; exact disabling, idle⟩
  · rw [devices, outline]
    intro q mem
    by_cases same : q = p
    · subst same
      exact ⟨_, Function.update_self ..⟩
    · rw [Function.update_of_ne same]
      exact sound.live q mem
  · rw [devices]
    intro q mem r mem' o o' live live' equal
    obtain ⟨o₁, live₁, first⟩ := index q o live
    obtain ⟨o₂, live₂, second⟩ := index r o' live'
    exact sound.distinct q mem r mem' o₁ o₂ live₁ live₂ (first.trans (equal.trans second.symm))
  · intro q o live
    rw [outline] at live
    by_cases same : q = p
    · subst same
      rw [Function.update_self] at live
      cases live
      exact counted
    · rw [Function.update_of_ne same] at live
      rw [others q same]
      exact sound.refs q o live

/-- Where no handler is in progress, the references are the entries. -/
theorem held_eq {w' : HwstatsWorld} (idle : w'.inFlight = none) (nodup : w'.names.Nodup) (q : ℕ) :
    w'.held q = if q ∈ w'.names then 1 else 0 := by
  unfold HwstatsWorld.held
  rw [idle]
  show w'.names.count q + 0 = _
  split_ifs with mem
  · rw [List.count_eq_one_of_mem nodup mem]
  · rw [List.count_eq_zero.2 mem]

/-- An entry is added, with its reference. -/
theorem added (sound : HwstatsSound w) (active : w.active = true) (idle : w.pending = none)
    (registered : p ∈ w.devices) (here : w.netdevs p = some d) (new : p ∉ w.names) :
    HwstatsSound { w.devGet p with
      l3List := w.l3List ++ [⟨p, 0, false, false⟩]
      pending := some (.enable p) } := by
  set w' : HwstatsWorld := { w.devGet p with
    l3List := w.l3List ++ [⟨p, 0, false, false⟩]
    pending := some (.enable p) } with result
  have names : w'.names = w.names ++ [p] := by simp [result, HwstatsWorld.names]
  have nodup : w'.names.Nodup := by
    rw [names]
    simpa [List.nodup_append] using ⟨sound.nodup, fun q mem same => new (same ▸ mem)⟩
  have held : ∀ q, w'.held q = if q ∈ w'.names then 1 else 0 := fun q => held_eq rfl nodup q
  have before := fun q => sound.held_of_idle idle q
  have mem : p ∈ w'.names := by simp [names]
  refine of_one sound (p := p) (d := d) (d.refs + 1) rfl ?_ here nodup ?_ ?_ ?_ ?_ nofun ?_
  · exact (outline_change w p _).trans (by rw [here]; rfl)
  · intro q mem
    rw [names, List.mem_append, List.mem_singleton] at mem
    rcases mem with old | rfl
    · exact sound.listed q old
    · exact registered
  · have refs := sound.refs p _ (outline_eq here)
    rw [before, if_neg new] at refs
    rw [held, if_pos mem, show d.refs = 0 from refs]
  · intro q away
    rw [held, before, names]
    simp [away]
  · rintro q ⟨⟩
    exact mem
  · intro inactive
    exact absurd (active.symm.trans inactive) (by decide)

theorem enableIfindex (sound : HwstatsSound w) (active : w.active = true) (idle : w.pending = none)
    (ifindex : Int32) (allocated : Bool) :
    HwstatsSound (w.nsimDevHwstatsEnableIfindex ifindex allocated).1 := by
  unfold HwstatsWorld.nsimDevHwstatsEnableIfindex
  split
  · exact sound
  · rename_i unfound
    split
    · exact sound
    · rename_i p found
      obtain ⟨registered, d, here, rfl⟩ := of_byIndex found
      dsimp only
      split_ifs with failed
      · rw [devPut_devGet]
        exact sound
      · refine sound.added active idle registered here fun mem => ?_
        obtain ⟨h, listed, rfl⟩ := List.mem_map.1 mem
        have matching := (sound.hasIfindex_iff registered here h listed).2 rfl
        exact List.find?_eq_none.1 unfound h listed matching

/-- A handler is done that held no reference of its own. -/
theorem finishEnable (sound : HwstatsSound w) (pending : w.pending = some (.enable p)) :
    HwstatsSound (w.finishEnable p) := by
  have flying : w.inFlight = none := by
    unfold HwstatsWorld.inFlight
    rw [pending]
  have done : HwstatsSound { w with pending := none } := by
    have held : ({ w with pending := none } : HwstatsWorld).held = w.held := by
      funext q
      unfold HwstatsWorld.held
      rw [flying]
      rfl
    refine ⟨sound.nodup, sound.listed, sound.live, sound.distinct, sound.once, ?_, nofun, nofun,
      fun inactive => ⟨(sound.idle inactive).1, rfl⟩⟩
    rw [held]
    exact sound.refs
  unfold HwstatsWorld.finishEnable
  split_ifs
  · exact (SameRefs.relist { w with pending := none }
      (map_netdev_modifyFirst _ (fun h => h.netdev_enable) _)).sound done
  · exact done

/-- The list without the entries for a device. -/
theorem names_of_erased (sound : HwstatsSound w)
    (registered : p ∈ w.devices) (here : w.netdevs p = some d) (pending : Option HwstatsPending) :
    ({ w with
      l3List := w.l3List.eraseP (w.hasIfindex d.ifindex)
      pending } : HwstatsWorld).names = w.names.filter (· ≠ p) := by
  show (w.l3List.eraseP _).map _ = _
  rw [eraseP_eq_filter sound.nodup (sound.hasIfindex_iff registered here), names_filter]

theorem disableIfindex (sound : HwstatsSound w) (active : w.active = true) (idle : w.pending = none)
    (ifindex : Int32) : HwstatsSound (w.nsimDevHwstatsDisableIfindex ifindex).1 := by
  unfold HwstatsWorld.nsimDevHwstatsDisableIfindex
  split
  · exact sound
  · rename_i h found
    obtain ⟨mem, d, here, rfl⟩ := of_find found
    have listed := mem_names mem
    have registered := sound.listed _ listed
    set w' : HwstatsWorld := { w with
      l3List := w.l3List.eraseP (w.hasIfindex d.ifindex)
      pending := some (.disable h) } with result
    have names : w'.names = w.names.filter (· ≠ h.netdev) :=
      sound.names_of_erased registered here _
    have nodup : w'.names.Nodup := by
      rw [names]
      exact sound.nodup.filter _
    have gone : h.netdev ∉ w'.names := by simp [names]
    have held : w'.held = w.held := by
      funext q
      rw [sound.held_of_idle idle]
      unfold HwstatsWorld.held
      show w'.names.count q + (if decide (h.netdev = q) = true then 1 else 0) = _
      by_cases same : h.netdev = q
      · subst same
        rw [List.count_eq_zero.2 gone, if_pos listed]
        simp
      · rw [names, List.count_filter (by simpa using Ne.symm same), sound.count_names]
        simp [same]
    refine ⟨nodup, ?_, sound.live, sound.distinct, sound.once, ?_, nofun, ?_, ?_⟩
    · intro q mem
      rw [names] at mem
      exact sound.listed q (List.mem_filter.1 mem).1
    · rw [held]
      exact sound.refs
    · rintro g ⟨⟩
      exact ⟨registered, gone⟩
    · intro inactive
      exact absurd (active.symm.trans inactive) (by decide)

/-- A handler drops the reference of the entry it took off the list. -/
theorem finishDisable {h : NsimDevHwstatsNetdev} (sound : HwstatsSound w)
    (pending : w.pending = some (.disable h)) : HwstatsSound (w.finishDisable h) := by
  have flying : w.inFlight = some h := by
    unfold HwstatsWorld.inFlight
    rw [pending]
  obtain ⟨registered, unlisted⟩ := sound.disabling h flying
  obtain ⟨o, live⟩ := sound.live _ registered
  obtain ⟨d, here, rfl⟩ := Option.map_eq_some_iff.1 live
  have refs := sound.refs _ _ live
  have before : w.held h.netdev = 1 := by
    unfold HwstatsWorld.held
    rw [flying, List.count_eq_zero.2 unlisted]
    simp
  rw [before] at refs
  obtain ⟨u, same, result⟩ : ∃ u, SameRefs { w with pending := none } u ∧
      w.finishDisable h = u.devPut h.netdev := by
    unfold HwstatsWorld.finishDisable HwstatsWorld.nsimDevHwsdevFini
    dsimp only
    split_ifs
    · exact ⟨_, SameRefs.pushDelta _ _ _, rfl⟩
    · exact ⟨_, SameRefs.refl _, rfl⟩
  have outline : u.outline h.netdev = some (d.ifindex, d.refs) := by
    rw [same.outline]
    exact live
  obtain ⟨e, there, parts⟩ := Option.map_eq_some_iff.1 outline
  have names : (u.devPut h.netdev).names = w.names := same.names
  have idle : (u.devPut h.netdev).pending = none := same.pending
  have flown : (u.devPut h.netdev).inFlight = none := by
    unfold HwstatsWorld.inFlight
    rw [idle]
  have nodup : (u.devPut h.netdev).names.Nodup := by
    rw [names]
    exact sound.nodup
  have held := fun q => held_eq flown nodup q
  rw [result]
  refine of_one sound (p := h.netdev) (d := d) 0 same.devices ?_ here nodup ?_ ?_ ?_ ?_ ?_ ?_
  · refine (outline_change u h.netdev _).trans ?_
    rw [there, same.outline]
    obtain ⟨index, count⟩ := Prod.mk.inj parts
    have one : d.refs = 1 := refs
    simp only [Option.map_some, index, count, one]
    rfl
  · rw [names]
    exact sound.listed
  · rw [held, names, if_neg unlisted]
  · intro q away
    rw [held, names]
    unfold HwstatsWorld.held
    rw [flying, sound.count_names]
    simp [Ne.symm away]
  · rw [idle]
    exact nofun
  · rw [flown]
    exact nofun
  · rw [show (u.devPut h.netdev).active = w.active from same.active, names, idle]
    exact fun inactive => ⟨(sound.idle inactive).1, rfl⟩

/-- The entry for a device goes, with its reference. -/
theorem eventUnregister (sound : HwstatsSound w) (idle : w.pending = none)
    (registered : p ∈ w.devices) (here : w.netdevs p = some d) :
    HwstatsSound (w.nsimDevHwstatsEventUnregister d.ifindex) ∧
      (w.nsimDevHwstatsEventUnregister d.ifindex).names = w.names.filter (· ≠ p) ∧
      (w.nsimDevHwstatsEventUnregister d.ifindex).devices = w.devices ∧
      (w.nsimDevHwstatsEventUnregister d.ifindex).pending = none ∧
      (w.nsimDevHwstatsEventUnregister d.ifindex).active = w.active := by
  unfold HwstatsWorld.nsimDevHwstatsEventUnregister
  have matching := sound.hasIfindex_iff registered here
  split
  · rename_i unfound
    refine ⟨sound, ?_, rfl, idle, rfl⟩
    refine (List.filter_eq_self.2 fun q mem => ?_).symm
    obtain ⟨g, listed, rfl⟩ := List.mem_map.1 mem
    have missing := List.find?_eq_none.1 unfound g listed
    rw [matching g listed] at missing
    simpa using missing
  · rename_i h found
    obtain rfl : h.netdev = p :=
      (matching h (List.mem_of_find?_eq_some found)).1 (List.find?_some found)
    have listed := mem_names (List.mem_of_find?_eq_some found)
    dsimp only
    set w' : HwstatsWorld := { w with l3List := w.l3List.eraseP (w.hasIfindex d.ifindex) }
    have names : (w'.nsimDevHwsdevFini h).names = w.names.filter (· ≠ h.netdev) :=
      sound.names_of_erased registered here w.pending
    have nodup : (w'.nsimDevHwsdevFini h).names.Nodup := by
      rw [names]
      exact sound.nodup.filter _
    have flown : (w'.nsimDevHwsdevFini h).inFlight = none := by
      show w.inFlight = none
      unfold HwstatsWorld.inFlight
      rw [idle]
    have held := fun q => held_eq flown nodup q
    have before := fun q => sound.held_of_idle idle q
    have one : d.refs = 1 := by
      have refs := sound.refs _ _ (outline_eq here)
      rwa [before, if_pos listed] at refs
    refine ⟨of_one sound (p := h.netdev) (d := d) 0 rfl ?_ here nodup ?_ ?_ ?_ ?_ ?_ ?_, names,
      rfl, idle, rfl⟩
    · refine (outline_change w' h.netdev _).trans ?_
      rw [show w'.netdevs h.netdev = some d from here]
      simp only [Option.map_some, one]
      rfl
    · intro q mem
      rw [names] at mem
      exact sound.listed q (List.mem_filter.1 mem).1
    · rw [held, names]
      simp
    · intro q away
      rw [held, before, names]
      simp [away]
    · rw [show (w'.nsimDevHwsdevFini h).pending = none from idle]
      exact nofun
    · rw [flown]
      exact nofun
    · intro inactive
      rw [names, (sound.idle inactive).1]
      exact ⟨rfl, idle⟩

/-! ## Unregistering -/

/-- A device without an entry is unlisted. -/
theorem unlist (sound : HwstatsSound w) (idle : w.pending = none) (free : p ∉ w.names) :
    HwstatsSound { w with devices := w.devices.erase p } := by
  have old : ∀ {q}, q ∈ w.devices.erase p → q ∈ w.devices := fun mem => List.mem_of_mem_erase mem
  have flown : ∀ h, w.inFlight ≠ some h := by
    intro h
    unfold HwstatsWorld.inFlight
    rw [idle]
    exact nofun
  refine ⟨sound.nodup, fun q mem => ?_, fun q mem => sound.live q (old mem),
    fun q mem r mem' => sound.distinct q (old mem) r (old mem'), sound.once.erase p, sound.refs,
    sound.enabling, fun h flying => absurd flying (flown h), sound.idle⟩
  have away : q ≠ p := fun same => free (same ▸ mem)
  exact (List.mem_erase_of_ne away).2 (sound.listed q mem)

theorem coreDisable_devices (w : HwstatsWorld) (l : List ℕ) (ifindex : Int32) :
    ({ w with devices := l } : HwstatsWorld).coreDisable p ifindex =
      { w.coreDisable p ifindex with devices := l } := by
  unfold HwstatsWorld.coreDisable HwstatsWorld.notify
  by_cases active : w.active
  · rw [if_pos active, if_pos active]
    rfl
  · rw [if_neg active, if_neg active]
    rfl

theorem notify_unregister_devices (w : HwstatsWorld) (l : List ℕ) (ifindex : Int32) :
    ({ w with devices := l } : HwstatsWorld).notify ifindex .unregister =
      { w.notify ifindex .unregister with devices := l } := by
  have event : ({ w with devices := l } : HwstatsWorld).nsimDevHwstatsEventUnregister ifindex =
      { w.nsimDevHwstatsEventUnregister ifindex with devices := l } := by
    unfold HwstatsWorld.nsimDevHwstatsEventUnregister
    have same : ({ w with devices := l } : HwstatsWorld).find ifindex = w.find ifindex := rfl
    rw [same]
    cases w.find ifindex <;> rfl
  unfold HwstatsWorld.notify HwstatsWorld.nsimDevHwstatsEvent
  by_cases active : w.active
  · rw [if_pos active, if_pos active]
    exact event
  · rw [if_neg active, if_neg active]

/-- The drivers are told that a device goes away. -/
theorem notify_unregister (sound : HwstatsSound w) (idle : w.pending = none)
    (registered : p ∈ w.devices) (here : w.netdevs p = some d) :
    HwstatsSound (w.notify d.ifindex .unregister) ∧
      p ∉ (w.notify d.ifindex .unregister).names ∧
      (w.notify d.ifindex .unregister).devices = w.devices ∧
      (w.notify d.ifindex .unregister).pending = none := by
  unfold HwstatsWorld.notify
  split_ifs with active
  · obtain ⟨done, names, devices, pending, -⟩ := sound.eventUnregister idle registered here
    refine ⟨done, ?_, devices, pending⟩
    show p ∉ (w.nsimDevHwstatsEventUnregister d.ifindex).names
    rw [names]
    simp
  · refine ⟨sound, ?_, rfl, idle⟩
    rw [(sound.idle (by simpa using active)).1]
    simp

theorem unregister (sound : HwstatsSound w) (idle : w.pending = none) (registered : p ∈ w.devices)
    (here : w.netdevs p = some d) : HwstatsSound (w.unregisterNetdevice p d.ifindex) := by
  obtain ⟨u, same, index, result⟩ : ∃ u, SameRefs w u ∧ (∃ e, u.netdevs p = some e ∧
      e.ifindex = d.ifindex) ∧ w.unregisterNetdevice p d.ifindex =
        { u.notify d.ifindex .unregister with devices := w.devices.erase p } := by
    unfold HwstatsWorld.unregisterNetdevice
    dsimp only
    split_ifs
    · have same := SameRefs.coreDisable w p d.ifindex
      refine ⟨w.coreDisable p d.ifindex, same, ?_, ?_⟩
      · have outline := congrFun same.outline p
        rw [outline_eq here] at outline
        obtain ⟨e, there, parts⟩ := Option.map_eq_some_iff.1 outline
        exact ⟨e, there, congrArg Prod.fst parts⟩
      · rw [coreDisable_devices, notify_unregister_devices]
    · exact ⟨w, SameRefs.refl w, ⟨d, here, rfl⟩, notify_unregister_devices w _ _⟩
  obtain ⟨e, there, index⟩ := index
  have after := (same.sound sound).notify_unregister (same.pending.trans idle)
    (by rw [same.devices]; exact registered) there
  rw [index] at after
  obtain ⟨done, gone, devices, pending⟩ := after
  rw [result, ← same.devices, ← devices]
  exact done.unlist pending gone

/-- All devices are unregistered, as far as the driver hears it. -/
theorem foldl_unregister (devices : List ℕ) (sound : HwstatsSound w) (idle : w.pending = none)
    (registered : ∀ p ∈ devices, p ∈ w.devices) :
    let done := devices.foldl (fun w p =>
      (w.netdevs p).elim w fun d => w.nsimDevHwstatsEvent d.ifindex .unregister) w
    HwstatsSound done ∧ (∀ p ∈ done.names, p ∈ w.names ∧ p ∉ devices) ∧
      done.devices = w.devices ∧ done.pending = none := by
  induction devices generalizing w with
  | nil => exact ⟨sound, fun p mem => ⟨mem, List.not_mem_nil⟩, rfl, idle⟩
  | cons p devices ih =>
    obtain ⟨o, live⟩ := sound.live p (registered p List.mem_cons_self)
    obtain ⟨d, here, rfl⟩ := Option.map_eq_some_iff.1 live
    obtain ⟨next, names, listed, pending, -⟩ :=
      sound.eventUnregister idle (registered p List.mem_cons_self) here
    have rest := ih next pending fun q mem => by
      rw [listed]
      exact registered q (List.mem_cons_of_mem _ mem)
    intro done
    have result : done = devices.foldl (fun w p =>
        (w.netdevs p).elim w fun d => w.nsimDevHwstatsEvent d.ifindex .unregister)
        (w.nsimDevHwstatsEventUnregister d.ifindex) := by
      show List.foldl _ ((w.netdevs p).elim w _) devices = _
      rw [here]
      rfl
    rw [result]
    obtain ⟨sound', fewer, same, last⟩ := rest
    refine ⟨sound', fun q mem => ?_, same.trans listed, last⟩
    obtain ⟨before, away⟩ := fewer q mem
    rw [names, List.mem_filter] at before
    exact ⟨before.1, by simpa [away] using before.2⟩

theorem exit (sound : HwstatsSound w) (idle : w.pending = none) :
    HwstatsSound w.nsimDevHwstatsExit ∧ w.nsimDevHwstatsExit.names = [] := by
  obtain ⟨done, fewer, devices, pending⟩ :=
    foldl_unregister w.devices sound idle fun _ mem => mem
  set u := w.devices.foldl (fun w p =>
    (w.netdevs p).elim w fun d => w.nsimDevHwstatsEvent d.ifindex .unregister) w with told
  have empty : u.names = [] := by
    refine List.eq_nil_iff_forall_not_mem.2 fun p mem => ?_
    exact (fewer p mem).2 (sound.listed p (fewer p mem).1)
  have list : u.l3List = [] := List.map_eq_nil_iff.1 empty
  have result : w.nsimDevHwstatsExit = { u with l3List := [], active := false } := by
    unfold HwstatsWorld.nsimDevHwstatsExit HwstatsWorld.nsimDevHwsdevListWipe
    rw [← told]
    dsimp only
    rw [list]
    rfl
  rw [result]
  refine ⟨⟨List.nodup_nil, fun _ => nofun, done.live, done.distinct, done.once, ?_, ?_, ?_,
    fun _ => ⟨rfl, pending⟩⟩, rfl⟩
  · have held : ({ u with l3List := [], active := false } : HwstatsWorld).held = u.held := by
      funext q
      unfold HwstatsWorld.held
      rw [empty]
      rfl
    rw [held]
    exact done.refs
  · intro p enabling
    rw [pending] at enabling
    cases enabling
  · intro h flying
    have none : u.inFlight = none := by
      unfold HwstatsWorld.inFlight
      rw [pending]
    exact absurd (none.symm.trans flying) nofun

end HwstatsSound

/-! ## Every run -/

section Runs

variable {w w' : HwstatsWorld} {p : ℕ}

theorem onDevice_eq_some {f : XstatsNetdev → Option HwstatsWorld}
    (step : w.onDevice p f = some w') :
    p ∈ w.devices ∧ w.pending = none ∧ ∃ d, w.netdevs p = some d ∧ f d = some w' := by
  unfold HwstatsWorld.onDevice at step
  split_ifs at step with can
  exact ⟨can.1, can.2, Option.bind_eq_some_iff.1 step⟩

theorem ite_eq_some {α : Type*} {c : Prop} [Decidable c] {a b : α}
    (step : (if c then some a else none) = some b) : c ∧ a = b := by
  split_ifs at step with can
  exact ⟨can, Option.some.inj step⟩

theorem finish_eq_some (step : w.step .finish = some w') :
    (∃ p, w.pending = some (.enable p) ∧ w' = w.finishEnable p) ∨
      ∃ h, w.pending = some (.disable h) ∧ w' = w.finishDisable h := by
  unfold HwstatsWorld.step at step
  cases pending : w.pending with
  | none =>
    rw [pending] at step
    cases step
  | some handler =>
    rw [pending] at step
    cases handler with
    | enable p => exact Or.inl ⟨p, rfl, (Option.some.inj step).symm⟩
    | disable h => exact Or.inr ⟨h, rfl, (Option.some.inj step).symm⟩

/-- The handlers end up in one of the three operations, or change nothing. -/
theorem sound_doWrite {action : NsimDevHwstatsDo} {data : Bytes} {allocated : Bool}
    (sound : HwstatsSound w) (active : w.active = true)
    (rtnl : w.pending = none ∨ action = .NSIM_DEV_HWSTATS_DO_FAIL) :
    HwstatsSound (w.nsimDevHwstatsDoWrite action data allocated).1 := by
  unfold HwstatsWorld.nsimDevHwstatsDoWrite
  split
  · exact sound
  · rename_i ifindex parsed
    cases action with
    | NSIM_DEV_HWSTATS_DO_DISABLE =>
      exact sound.disableIfindex active (rtnl.resolve_right nofun) ifindex
    | NSIM_DEV_HWSTATS_DO_ENABLE =>
      exact sound.enableIfindex active (rtnl.resolve_right nofun) ifindex allocated
    | NSIM_DEV_HWSTATS_DO_FAIL => exact (SameRefs.failIfindex w ifindex).sound sound

theorem sound_init {notifier ddir l3Ddir : Option Errno} (sound : HwstatsSound w)
    (inactive : ¬ w.active = true) :
    HwstatsSound (w.nsimDevHwstatsInit notifier ddir l3Ddir).1 := by
  obtain ⟨empty, idle⟩ := sound.idle (by simpa using inactive)
  have list : w.l3List = [] := List.map_eq_nil_iff.1 empty
  have started : HwstatsSound { w with l3List := [], active := true } := by
    rw [← list]
    exact ⟨sound.nodup, sound.listed, sound.live, sound.distinct, sound.once, sound.refs,
      sound.enabling, sound.disabling, nofun⟩
  unfold HwstatsWorld.nsimDevHwstatsInit
  cases notifier with
  | some e => exact sound
  | none =>
    cases ddir with
    | some e => exact sound
    | none =>
      cases l3Ddir with
      | some e => exact sound
      | none => exact started

theorem hwstatsSound_step {op : HwstatsOp} (sound : HwstatsSound w) (step : w.step op = some w') :
    HwstatsSound w' := by
  cases op with
  | registerNetdev p ifindex =>
    obtain ⟨⟨-, unused, fresh⟩, rfl⟩ := ite_eq_some step
    exact sound.register unused fresh
  | unregisterNetdev p =>
    obtain ⟨registered, idle, d, here, result⟩ := onDevice_eq_some step
    obtain rfl := Option.some.inj result
    exact sound.unregister idle registered here
  | freeNetdev p =>
    obtain ⟨⟨unlisted, -⟩, rfl⟩ := ite_eq_some step
    exact sound.free unlisted
  | coreEnable p othersFail =>
    obtain ⟨-, -, d, -, result⟩ := onDevice_eq_some step
    obtain ⟨-, rfl⟩ := ite_eq_some result
    exact (SameRefs.coreEnable w p d.ifindex othersFail).sound sound
  | coreDisable p =>
    obtain ⟨-, -, d, -, result⟩ := onDevice_eq_some step
    obtain ⟨-, rfl⟩ := ite_eq_some result
    exact (SameRefs.coreDisable w p d.ifindex).sound sound
  | coreGetStats p =>
    obtain ⟨-, -, d, -, result⟩ := onDevice_eq_some step
    obtain ⟨-, rfl⟩ := ite_eq_some result
    exact (SameRefs.coreGetStats w p d.ifindex).sound sound
  | write action data allocated =>
    obtain ⟨⟨active, rtnl⟩, rfl⟩ := ite_eq_some step
    exact sound_doWrite sound active rtnl
  | finish =>
    obtain ⟨p, pending, rfl⟩ | ⟨h, pending, rfl⟩ := finish_eq_some step
    · exact sound.finishEnable pending
    · exact sound.finishDisable pending
  | traffic =>
    obtain ⟨-, rfl⟩ := ite_eq_some step
    exact (SameRefs.bump w).sound sound
  | init notifier ddir l3Ddir =>
    by_cases active : w.active = true
    · rw [show w.step (.init notifier ddir l3Ddir) = none from if_pos active] at step
      cases step
    · rw [show w.step (.init notifier ddir l3Ddir) =
        some (w.nsimDevHwstatsInit notifier ddir l3Ddir).1 from if_neg active] at step
      obtain rfl := Option.some.inj step
      exact sound_init sound active
  | exit =>
    obtain ⟨⟨-, idle⟩, rfl⟩ := ite_eq_some step
    exact (sound.exit idle).1

theorem sound_of_reachable (reach : hwstatsSystem.Reachable w) : HwstatsSound w := by
  refine TransitionSystem.Reachable.induct (P := HwstatsSound) (fun w start => ?_)
    (fun _ _ _ _ sound step => hwstatsSound_step sound step) reach
  subst start
  exact ⟨List.nodup_nil, fun _ => nofun, fun _ => nofun, fun _ => nofun, List.nodup_nil,
    fun _ _ => nofun, fun _ => nofun, fun _ => nofun, fun _ => ⟨rfl, rfl⟩⟩

/-- In every run, however file writes, events of the core and the work interleave: the list has
registered devices only, each at most once; a device has one reference if it has an entry, or if a
handler just took its entry off the list, and none otherwise; and there are no references once the
device is unregistered or the driver is gone. -/
theorem hwstats_references (reach : hwstatsSystem.Reachable w) :
    w.names.Nodup ∧ (∀ p ∈ w.names, p ∈ w.devices) ∧
      ∀ p d, w.netdevs p = some d →
        (d.refs = 1 ∧ (p ∈ w.names ∨ ∃ h, w.pending = some (.disable h) ∧ h.netdev = p) ∨
          d.refs = 0 ∧ p ∉ w.names ∧ ∀ h, w.pending = some (.disable h) → h.netdev ≠ p) ∧
        (p ∉ w.devices ∨ w.active = false → d.refs = 0) := by
  have sound := sound_of_reachable reach
  refine ⟨sound.nodup, sound.listed, fun p d here => ?_⟩
  have refs := sound.refs p _ (HwstatsSound.outline_eq here)
  have flying : ∀ h, w.inFlight = some h ↔ w.pending = some (.disable h) := by
    intro h
    unfold HwstatsWorld.inFlight
    split
    · rename_i g pending
      rw [pending]
      simp
    · rename_i other
      exact iff_of_false nofun (other h)
  constructor
  · by_cases listed : p ∈ w.names
    · have count : w.held p = 1 := by
        unfold HwstatsWorld.held
        rw [sound.count_names, if_pos listed, if_neg]
        intro holds
        obtain ⟨h, flown, same⟩ := (Option.any_eq_true _ _).1 holds
        exact (sound.disabling h flown).2 (of_decide_eq_true same ▸ listed)
      exact Or.inl ⟨refs.trans count, Or.inl listed⟩
    · by_cases flown : ∃ h, w.pending = some (.disable h) ∧ h.netdev = p
      · obtain ⟨h, pending, rfl⟩ := flown
        have count : w.held h.netdev = 1 := by
          unfold HwstatsWorld.held
          rw [sound.count_names, if_neg listed, (flying h).2 pending]
          simp
        exact Or.inl ⟨refs.trans count, Or.inr ⟨h, pending, rfl⟩⟩
      · have apart : ∀ h, w.pending = some (.disable h) → h.netdev ≠ p := fun h pending same =>
          flown ⟨h, pending, same⟩
        have count : w.held p = 0 := by
          unfold HwstatsWorld.held
          rw [sound.count_names, if_neg listed, if_neg]
          intro holds
          obtain ⟨h, flown, same⟩ := (Option.any_eq_true _ _).1 holds
          exact apart h ((flying h).1 flown) (of_decide_eq_true same)
        exact Or.inr ⟨refs.trans count, listed, apart⟩
  · rintro (unlisted | inactive)
    · exact refs.trans (sound.held_of_not_mem unlisted)
    · obtain ⟨empty, idle⟩ := sound.idle inactive
      rw [sound.held_of_idle idle, empty] at refs
      exact refs

/-- A device was added to the list. -/
theorem hwstats_references_of_one : ∃ w, hwstatsSystem.Reachable w ∧ w.names = [0] ∧
    ∀ d, w.netdevs 0 = some d → d.refs = 1 := by
  obtain ⟨w, reach, test⟩ := TransitionSystem.Reachable.exists_of_follow (M := hwstatsSystem)
    (.init rfl) [.init none none none, .registerNetdev 0 1,
      .write .NSIM_DEV_HWSTATS_DO_ENABLE (ascii "1") true, .finish]
    (fun w => w.names = [0]) (fun _ _ _ _ step => step) (by decide)
  have names : w.names = [0] := of_decide_eq_true test
  refine ⟨w, reach, names, fun d here => ?_⟩
  have counted := ((hwstats_references reach).2.2 0 d here).1
  rw [names] at counted
  simpa using counted

end Runs

end Netdevsim
