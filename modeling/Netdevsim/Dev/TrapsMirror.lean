import Netdevsim.Dev.Traps
import Netdevsim.Lib.FirstMatch

/-!
# The work reports what devlink wants

The table of the driver mirrors the actions devlink keeps, through registering, changing single traps
and groups, and unregistering after errors.  So a run of the work reports one packet for each running
port and each trap that devlink does not drop, in order, whatever happens to the ports and the cookie
meanwhile (`trap_reports_exact`).  The cookie is what was last written in hexadecimal, and is read
back in lower case (`fa_cookie_read_back`).
-/

namespace Netdevsim

open FirstMatch

namespace TrapsWorld

/-- The action of a trap in devlink. -/
def coreAction (w : TrapsWorld) (id : DevlinkTrapId) : DevlinkTrapAction :=
  ((w.items id).map (·.action)).getD .DROP

/-- The item the driver should have for a trap. -/
def mirror (w : TrapsWorld) (trap : DevlinkTrap) : NsimTrapItem :=
  ⟨some trap.id, w.coreAction trap.id⟩

/-- The traps whose packets are not dropped. -/
def active (w : TrapsWorld) (traps : List DevlinkTrap) : List DevlinkTrap :=
  traps.filter fun trap => w.coreAction trap.id ≠ .DROP

end TrapsWorld

/-- The port and the trap of an event. -/
def TrapEvent.place : TrapEvent → ℕ × Option DevlinkTrapId
  | .reported report => (report.inPort, report.trapCtx)
  | .noMemory inPort trapCtx => (inPort, trapCtx)

/-- The places of some traps at a port. -/
def placesAt (traps : List DevlinkTrap) (port : ℕ) : List (ℕ × Option DevlinkTrapId) :=
  traps.map fun trap => (port, some trap.id)

/-- What the work did is what it had to do so far. -/
structure WorkSound (w : TrapsWorld) (work : TrapWork) : Prop where
  ports : ∃ seen, seen ++ work.ports = w.portList ∧ work.reached.Sublist seen
  idle : work.current = none →
    work.log.map TrapEvent.place = work.reached.flatMap (placesAt (w.active nsimTrapsArr))
  busy : ∀ port rest, work.current = some (port, rest) → ∃ before done left,
    work.reached = before ++ [port] ∧ nsimTrapsArr = done ++ left ∧
      rest = left.map (fun trap => (trap, w.mirror trap)) ∧
      work.log.map TrapEvent.place =
        before.flatMap (placesAt (w.active nsimTrapsArr)) ++ placesAt (w.active done) port

/-- The driver mirrors devlink. -/
structure TrapsSound (w : TrapsWorld) : Prop where
  mirrors : ∀ data, w.trapData = some data → data.trapItemsArr = nsimTrapsArr.map w.mirror
  there : w.trapData.isSome = true → w.policers = true ∧ w.groups = true ∧ w.scheduled = true ∧
    ∀ trap ∈ nsimTrapsArr, (w.items trap.id).isSome = true
  gone : w.trapData = none → w.policers = false ∧ w.groups = false ∧ w.scheduled = false ∧
    w.work = none ∧ ∀ id, w.items id = none
  only : ∀ id, (∀ trap ∈ nsimTrapsArr, trap.id ≠ id) → w.items id = none
  working : ∀ work, w.work = some work → WorkSound w work

section Lookup

variable {w : TrapsWorld} {trap : DevlinkTrap}

theorem nodup_nsimTrapsArr : (nsimTrapsArr.map (·.id)).Nodup := by decide

/-- Traps of the driver are found. -/
theorem lookup_of_mem (mem : trap ∈ nsimTrapsArr) :
    ∃ i, TrapsWorld.nsimDevTrapItemLookup trap.id = some i := by
  unfold TrapsWorld.nsimDevTrapItemLookup
  rw [← Option.isSome_iff_exists, List.findIdx?_isSome, List.any_eq_true]
  exact ⟨trap, mem, by simp⟩

/-- The item of a trap changes, and no other. -/
theorem setItem_eq {i : ℕ} {data : NsimTrapData} {f : NsimTrapItem → NsimTrapItem}
    {g : DevlinkTrap → NsimTrapItem} (found : TrapsWorld.nsimDevTrapItemLookup trap.id = some i)
    (here : w.trapData = some data) (items : data.trapItemsArr = nsimTrapsArr.map g) :
    w.setItem i f = { w with trapData := some { data with
      trapItemsArr := nsimTrapsArr.map fun t => if t.id = trap.id then f (g t) else g t } } := by
  have moved : (nsimTrapsArr.map g).modify i f =
      nsimTrapsArr.map fun t => if t.id = trap.id then f (g t) else g t :=
    modify_findIdx? nodup_nsimTrapsArr (fun t _ => decide_eq_true_iff) found
  unfold TrapsWorld.setItem
  rw [here, Option.map_some, items, moved]

end Lookup

/-! ## Changing actions -/

section Actions

variable {w w' : TrapsWorld} {trap : DevlinkTrap} {item : DevlinkTrapItem}

/-- The worlds differ in counters, cookies and files only. -/
structure SameTraps (w w' : TrapsWorld) : Prop where
  actions : ∀ id, (w'.items id).map (·.action) = (w.items id).map (·.action)
  items : ∀ data', w'.trapData = some data' →
    ∃ data, w.trapData = some data ∧ data'.trapItemsArr = data.trapItemsArr
  gone : w'.trapData = none → w.trapData = none
  policers : w'.policers = w.policers
  groups : w'.groups = w.groups
  scheduled : w'.scheduled = w.scheduled

theorem SameTraps.isSome (same : SameTraps w w') (id : DevlinkTrapId) :
    (w'.items id).isSome = (w.items id).isSome := by
  rw [← Option.isSome_map (f := fun item : DevlinkTrapItem => item.action), same.actions id,
    Option.isSome_map]

theorem SameTraps.coreAction (same : SameTraps w w') : w'.coreAction = w.coreAction := by
  funext id
  unfold TrapsWorld.coreAction
  rw [same.actions]

theorem SameTraps.mirror (same : SameTraps w w') : w'.mirror = w.mirror := by
  funext trap
  unfold TrapsWorld.mirror
  rw [same.coreAction]

theorem SameTraps.active (same : SameTraps w w') : w'.active = w.active := by
  funext traps
  unfold TrapsWorld.active
  rw [same.coreAction]

theorem SameTraps.workSound (same : SameTraps w w') (ports : w'.portList = w.portList)
    {work : TrapWork} (sound : WorkSound w work) : WorkSound w' work := by
  refine ⟨?_, ?_, ?_⟩
  · rw [ports]
    exact sound.ports
  · rw [same.active]
    exact sound.idle
  · rw [same.active, same.mirror]
    exact sound.busy

theorem TrapsSound.frame (sound : TrapsSound w) (same : SameTraps w w')
    (working : ∀ work, w'.work = some work → WorkSound w' work)
    (idle : w.trapData = none → w'.work = none) : TrapsSound w' where
  mirrors := by
    rw [same.mirror]
    intro data' here
    obtain ⟨data, there, items⟩ := same.items data' here
    rw [items]
    exact sound.mirrors data there
  there := by
    intro here
    obtain ⟨data', some⟩ := Option.isSome_iff_exists.1 here
    obtain ⟨data, before, -⟩ := same.items data' some
    obtain ⟨policers, groups, scheduled, items⟩ := sound.there (by rw [before]; rfl)
    refine ⟨same.policers.trans policers, same.groups.trans groups,
      same.scheduled.trans scheduled, fun trap mem => ?_⟩
    rw [same.isSome]
    exact items trap mem
  gone := by
    intro none
    obtain ⟨policers, groups, scheduled, -, items⟩ := sound.gone (same.gone none)
    refine ⟨same.policers.trans policers, same.groups.trans groups,
      same.scheduled.trans scheduled, idle (same.gone none), fun id => ?_⟩
    have missing := same.isSome id
    rw [items id] at missing
    simpa using missing
  only := by
    intro id foreign
    have missing := same.isSome id
    rw [sound.only id foreign] at missing
    simpa using missing
  working := working

/-- The actions of devlink and of the driver change together. -/
theorem sound_setAction (sound : TrapsSound w) (idle : w.work = none) (mem : trap ∈ nsimTrapsArr)
    (here : w.items trap.id = some item) (action : DevlinkTrapAction) :
    TrapsSound (w.devlinkTrapActionSet trap item action) ∧
      (w.devlinkTrapActionSet trap item action).work = none := by
  obtain ⟨i, found⟩ := lookup_of_mem mem
  obtain ⟨data, some⟩ : ∃ data, w.trapData = some data := by
    cases none : w.trapData with
    | none =>
      have missing := (sound.gone none).2.2.2.2 trap.id
      rw [here] at missing
      cases missing
    | some data => exact ⟨data, rfl⟩
  have changed := setItem_eq (f := fun item => { item with action }) found some
    (sound.mirrors data some)
  unfold TrapsWorld.devlinkTrapActionSet
  split_ifs with kept
  · exact ⟨sound, idle⟩
  unfold TrapsWorld.nsimDevDevlinkTrapActionSet
  rw [found]
  dsimp only
  rw [changed]
  refine ⟨⟨?_, ?_, nofun, ?_, ?_⟩, idle⟩
  · rintro data' ⟨⟩
    refine List.map_congr_left fun t _ => ?_
    unfold TrapsWorld.mirror TrapsWorld.coreAction TrapsWorld.setCore
    by_cases same : t.id = trap.id
    · rw [if_pos same, same]
      simp
    · rw [if_neg same]
      simp [same]
  · intro _
    obtain ⟨policers, groups, scheduled, items⟩ := sound.there (by rw [some]; rfl)
    refine ⟨policers, groups, scheduled, fun t mem' => ?_⟩
    show (Function.update w.items trap.id _ t.id).isSome = true
    by_cases same : t.id = trap.id
    · rw [same]
      simp
    · rw [Function.update_of_ne same]
      exact items t mem'
  · intro id foreign
    show Function.update w.items trap.id _ id = none
    rw [Function.update_of_ne (Ne.symm (foreign trap mem))]
    exact sound.only id foreign
  · intro work working
    exact absurd (idle.symm.trans working) nofun

/-- Changing a group changes its traps one by one. -/
theorem sound_groupActionSet (sound : TrapsSound w) (idle : w.work = none)
    (group : DevlinkTrapGroupId) (action : DevlinkTrapAction) :
    TrapsSound (w.devlinkTrapGroupActionSet group action) ∧
      (w.devlinkTrapGroupActionSet group action).work = none := by
  unfold TrapsWorld.devlinkTrapGroupActionSet
  have mem : ∀ trap ∈ nsimTrapsArr.filter (·.initGroupId = group), trap ∈ nsimTrapsArr :=
    fun trap mem => (List.mem_filter.1 mem).1
  generalize nsimTrapsArr.filter (·.initGroupId = group) = traps at mem
  induction traps generalizing w with
  | nil => exact ⟨sound, idle⟩
  | cons trap traps ih =>
    rw [List.foldl_cons]
    have rest := fun t mem' => mem t (List.mem_cons_of_mem trap mem')
    cases here : w.items trap.id with
    | none => exact ih sound idle rest
    | some item =>
      obtain ⟨next, still⟩ := sound_setAction sound idle (mem trap List.mem_cons_self) here action
      exact ih next still rest

end Actions

/-! ## Registering -/

section Register

variable {w w' : TrapsWorld} {trap : DevlinkTrap} {data : NsimTrapData}
  {g : DevlinkTrap → NsimTrapItem} {traps : List DevlinkTrap} {faults : List (Option Errno)}

theorem register_one (mem : trap ∈ nsimTrapsArr) (here : w.trapData = some data)
    (items : data.trapItemsArr = nsimTrapsArr.map g) :
    w.devlinkTrapRegister trap none = ({ w with
      trapData := some { data with trapItemsArr := nsimTrapsArr.map fun t =>
        if t.id = trap.id then ⟨some trap.id, trap.initAction⟩ else g t }
      items := Function.update w.items trap.id (some ⟨trap.initAction, 0⟩) }, .ok ()) := by
  obtain ⟨i, found⟩ := lookup_of_mem mem
  unfold TrapsWorld.devlinkTrapRegister TrapsWorld.nsimDevDevlinkTrapInit
  dsimp only
  rw [found]
  dsimp only
  rw [setItem_eq found here items]
  rfl

/-- All traps are registered, with the actions they start with. -/
theorem register_ok (done : TrapsWorld.devlTrapsRegister traps faults w = (w', .ok ()))
    (sub : ∀ trap ∈ traps, trap ∈ nsimTrapsArr) (nodup : (traps.map (·.id)).Nodup)
    (here : w.trapData = some data) (items : data.trapItemsArr = nsimTrapsArr.map g) :
    ∃ data', w' = { w with trapData := some data', items := w'.items } ∧
      data'.trapItemsArr = nsimTrapsArr.map (fun t =>
        if t.id ∈ traps.map (·.id) then ⟨some t.id, t.initAction⟩ else g t) ∧
      (∀ trap ∈ traps, w'.items trap.id = some ⟨trap.initAction, 0⟩) ∧
      ∀ id, id ∉ traps.map (·.id) → w'.items id = w.items id := by
  induction traps generalizing w data g faults with
  | nil =>
    obtain rfl : w = w' := congrArg Prod.fst done
    refine ⟨data, by rw [← here], ?_, fun _ => nofun, fun _ _ => rfl⟩
    rw [items]
    exact List.map_congr_left fun t _ => (if_neg List.not_mem_nil).symm
  | cons trap traps ih =>
    rw [List.map_cons, List.nodup_cons] at nodup
    have mem := sub trap List.mem_cons_self
    unfold TrapsWorld.devlTrapsRegister at done
    cases fault : faults.headD none with
    | some e =>
      rw [fault] at done
      exact absurd (congrArg Prod.snd done) nofun
    | none =>
      rw [fault, register_one mem here items] at done
      dsimp only at done
      split at done
      · exact absurd (congrArg Prod.snd done) nofun
      · rename_i w₂ rest
        obtain rfl : w₂ = w' := congrArg Prod.fst done
        obtain ⟨data', result, items', registered, others⟩ :=
          ih (g := fun t => if t.id = trap.id then ⟨some trap.id, trap.initAction⟩ else g t)
            rest (fun t mem' => sub t (List.mem_cons_of_mem trap mem')) nodup.2 rfl rfl
        refine ⟨data', result, ?_, ?_, ?_⟩
        · rw [items']
          refine List.map_congr_left fun t _ => ?_
          rw [List.map_cons]
          by_cases later : t.id ∈ traps.map (·.id)
          · rw [if_pos later, if_pos (List.mem_cons_of_mem _ later)]
          · rw [if_neg later]
            by_cases same : t.id = trap.id
            · rw [if_pos same, if_pos (by rw [same]; exact List.mem_cons_self)]
              have one : t = trap :=
                List.inj_on_of_nodup_map nodup_nsimTrapsArr ‹t ∈ nsimTrapsArr› mem same
              rw [one]
            · rw [if_neg same, if_neg fun now => (List.mem_cons.1 now).elim same later]
        · intro t now
          rcases List.mem_cons.1 now with rfl | later
          · rw [others t.id nodup.1]
            exact Function.update_self ..
          · exact registered t later
        · intro id foreign
          rw [List.map_cons, List.mem_cons, not_or] at foreign
          rw [others id foreign.2]
          exact Function.update_of_ne foreign.1 ..

/-- After an error no trap is registered. -/
theorem register_error {e : Errno}
    (failed : TrapsWorld.devlTrapsRegister traps faults w = (w', .error e))
    (sub : ∀ trap ∈ traps, trap ∈ nsimTrapsArr) (nodup : (traps.map (·.id)).Nodup)
    (here : w.trapData = some data) (items : data.trapItemsArr = nsimTrapsArr.map g)
    (none : ∀ trap ∈ traps, w.items trap.id = none) :
    ∃ data', w' = { w with trapData := data' } := by
  induction traps generalizing w w' data g faults e with
  | nil => exact absurd (congrArg Prod.snd failed) nofun
  | cons trap traps ih =>
    rw [List.map_cons, List.nodup_cons] at nodup
    have mem := sub trap List.mem_cons_self
    unfold TrapsWorld.devlTrapsRegister at failed
    cases fault : faults.headD Option.none with
    | some e' =>
      rw [fault] at failed
      obtain rfl : w = w' := congrArg Prod.fst failed
      exact ⟨w.trapData, rfl⟩
    | none =>
      rw [fault, register_one mem here items] at failed
      dsimp only at failed
      split at failed
      · rename_i w₂ e' rest
        obtain ⟨same, -⟩ := Prod.mk.inj failed
        obtain rfl : w₂.setCore trap.id Option.none = w' := same
        have fresh : ∀ t ∈ traps, Function.update w.items trap.id (some ⟨trap.initAction, 0⟩) t.id =
            Option.none := by
          intro t later
          have other : t.id ≠ trap.id := fun same => nodup.1 (List.mem_map.2 ⟨t, later, same⟩)
          rw [Function.update_of_ne other]
          exact none t (List.mem_cons_of_mem trap later)
        obtain ⟨data', result⟩ :=
          ih (g := fun t => if t.id = trap.id then ⟨some trap.id, trap.initAction⟩ else g t) rest
            (fun t later => sub t (List.mem_cons_of_mem trap later)) nodup.2 rfl rfl fresh
        refine ⟨data', ?_⟩
        rw [result]
        unfold TrapsWorld.setCore
        dsimp only
        rw [Function.update_idem, ← none trap List.mem_cons_self, Function.update_eq_self]
      · exact absurd (congrArg Prod.snd failed) nofun

end Register

section Setup

variable {w : TrapsWorld}

/-- After any error the traps, groups and policers are gone, as they were before. -/
theorem trapsSound_init (sound : TrapsSound w) (none : w.trapData = none)
    (faults : TrapsWorld.InitFaults) : TrapsSound (w.nsimDevTrapsInit faults).1 := by
  obtain ⟨policers, groups, scheduled, idle, items⟩ := sound.gone none
  have undone : ∀ d, ({ w with groups := false, policers := false, trapData := d } : TrapsWorld) =
      { w with trapData := d } := by
    intro d
    cases w
    simp only at groups policers
    rw [groups, policers]
  have before : ({ w with trapData := Option.none } : TrapsWorld) = w := by
    rw [← none]
  unfold TrapsWorld.nsimDevTrapsInit
  split_ifs
  · exact sound
  · exact sound
  · exact sound
  dsimp only
  cases faults.policers with
  | some e =>
    dsimp only
    rw [before]
    exact sound
  | none =>
    cases faults.groups with
    | some e =>
      have result : ({ w with policers := false, trapData := Option.none } : TrapsWorld) = w := by
        rw [← policers, before]
      dsimp only
      rw [result]
      exact sound
    | none =>
      dsimp only
      split
      · rename_i w' e failed
        obtain ⟨data', rfl⟩ := register_error (g := fun _ => ⟨Option.none, .DROP⟩) failed
          (fun _ => id) nodup_nsimTrapsArr rfl rfl fun t _ => items t.id
        show TrapsSound { w with groups := false, policers := false, trapData := Option.none }
        rw [undone, before]
        exact sound
      · rename_i w' done
        obtain ⟨data', result, mirrors, registered, others⟩ :=
          register_ok (g := fun _ => ⟨Option.none, .DROP⟩) done (fun _ => id) nodup_nsimTrapsArr
            rfl rfl
        rw [result]
        refine ⟨?_, ?_, nofun, ?_, ?_⟩
        · rintro data'' ⟨⟩
          rw [mirrors]
          refine List.map_congr_left fun t mem => ?_
          rw [if_pos (List.mem_map.2 ⟨t, mem, rfl⟩)]
          unfold TrapsWorld.mirror TrapsWorld.coreAction
          dsimp only
          rw [registered t mem]
          rfl
        · refine fun _ => ⟨rfl, rfl, rfl, fun t mem => ?_⟩
          show (w'.items t.id).isSome = true
          rw [registered t mem]
          rfl
        · intro id foreign
          refine (others id fun mem => ?_).trans (items id)
          obtain ⟨t, there, same⟩ := List.mem_map.1 mem
          exact foreign t there same
        · intro work working
          exact absurd (idle.symm.trans working) nofun

theorem foldl_setCore (traps : List DevlinkTrap) (w : TrapsWorld) :
    traps.foldl (fun w trap => w.setCore trap.id none) w = { w with
      items := fun id => if id ∈ traps.map (·.id) then none else w.items id } := by
  induction traps generalizing w with
  | nil =>
    rw [List.foldl_nil]
    congr 1
  | cons trap traps ih =>
    rw [List.foldl_cons, ih]
    unfold TrapsWorld.setCore
    dsimp only
    congr 1
    funext id
    rw [List.map_cons]
    by_cases later : id ∈ traps.map (·.id)
    · rw [if_pos later, if_pos (List.mem_cons_of_mem _ later)]
    · rw [if_neg later]
      by_cases same : id = trap.id
      · rw [same, Function.update_self, if_pos List.mem_cons_self]
      · rw [Function.update_of_ne same, if_neg fun now => (List.mem_cons.1 now).elim same later]

theorem sound_exit (sound : TrapsSound w) (idle : w.work = none) :
    TrapsSound w.nsimDevTrapsExit := by
  unfold TrapsWorld.nsimDevTrapsExit TrapsWorld.devlTrapsUnregister
  dsimp only
  rw [foldl_setCore]
  have gone : ∀ id, (if id ∈ nsimTrapsArr.map (·.id) then none else w.items id) = none := by
    intro id
    split_ifs with mem
    · rfl
    · exact sound.only id fun t there same => mem (List.mem_map.2 ⟨t, there, same⟩)
  refine ⟨nofun, nofun, fun _ => ⟨rfl, rfl, rfl, idle, gone⟩, fun id _ => gone id, ?_⟩
  intro work working
  exact absurd (idle.symm.trans working) nofun

end Setup

/-! ## The work -/

section Work

variable {w w' : TrapsWorld} {work : TrapWork} {data : NsimTrapData}

/-- Where only the work, the ports and the cookie differ. -/
theorem SameTraps.of_eq (items : w'.items = w.items) (data : w'.trapData = w.trapData)
    (policers : w'.policers = w.policers) (groups : w'.groups = w.groups)
    (scheduled : w'.scheduled = w.scheduled) : SameTraps w w' := by
  refine ⟨fun id => by rw [items], fun data' here => ⟨data', ?_, rfl⟩, fun none => ?_, policers,
    groups, scheduled⟩
  · rw [← data]
    exact here
  · rw [← data]
    exact none

/-- A report changes a count. -/
theorem sameTraps_report (w : TrapsWorld) (trapCtx : Option DevlinkTrapId)
    (work : Option TrapWork) : SameTraps w { w.devlinkTrapReport trapCtx with work } := by
  cases trapCtx with
  | none => exact .of_eq rfl rfl rfl rfl rfl
  | some id =>
    refine ⟨fun id' => ?_, fun data' here => ⟨data', here, rfl⟩, fun gone => gone, rfl, rfl, rfl⟩
    show (Function.update w.items id _ id').map _ = _
    by_cases same : id' = id
    · subst same
      rw [Function.update_self, Option.map_map]
      rfl
    · rw [Function.update_of_ne same]

/-- Work is in progress only while the traps are there. -/
theorem TrapsSound.idle_of_gone (sound : TrapsSound w) (gone : w.trapData = none) :
    w.work = none := (sound.gone gone).2.2.2.1

theorem sound_startWork (sound : TrapsSound w) (scheduled : w.scheduled = true) :
    TrapsSound w.startWork := by
  refine sound.frame (.of_eq rfl rfl rfl rfl rfl) ?_ fun none => ?_
  · rintro work ⟨⟩
    refine ⟨⟨[], List.nil_append _, List.Sublist.refl _⟩, fun _ => rfl, fun _ _ => nofun⟩
  · have off := (sound.gone none).2.2.1
    exact absurd (scheduled.symm.trans off) (by decide)

theorem sound_workPort (sound : TrapsSound w) (working : w.work = some work)
    (here : w.trapData = some data) (next : w.workPort work data = some w') : TrapsSound w' := by
  have so := sound.working work working
  obtain ⟨seen, split, sub⟩ := so.ports
  unfold TrapsWorld.workPort at next
  split at next
  · rename_i port ports current left
    rw [left] at split
    have ahead : (seen ++ [port]) ++ ports = w.portList := by simpa using split
    dsimp only at next
    split_ifs at next with running
    · obtain rfl := Option.some.inj next
      refine sound.frame (.of_eq rfl rfl rfl rfl rfl) ?_ fun none => ?_
      · rintro work' ⟨⟩
        refine ⟨⟨seen ++ [port], ahead, sub.append (List.Sublist.refl _)⟩, nofun, ?_⟩
        rintro port' rest ⟨⟩
        refine ⟨work.reached, [], nsimTrapsArr, rfl, rfl, ?_, ?_⟩
        · rw [sound.mirrors data here]
          exact List.map_prod_left_eq_zip.symm
        · rw [so.idle current]
          exact (List.append_nil _).symm
      · exact absurd (here.symm.trans none) nofun
    · obtain rfl := Option.some.inj next
      refine sound.frame (.of_eq rfl rfl rfl rfl rfl) ?_ fun none => ?_
      · rintro work' ⟨⟩
        refine ⟨⟨seen ++ [port], ahead, sub.trans (List.sublist_append_left _ _)⟩, so.idle, so.busy⟩
      · exact absurd (here.symm.trans none) nofun
  · cases next

/-- A trap is active or it is not. -/
theorem TrapsWorld.active_append (w : TrapsWorld) (done : List DevlinkTrap) (trap : DevlinkTrap) :
    w.active (done ++ [trap]) =
      w.active done ++ if w.coreAction trap.id = .DROP then [] else [trap] := by
  unfold TrapsWorld.active
  rw [List.filter_append]
  by_cases drop : w.coreAction trap.id = .DROP <;> simp [drop]

/-- The trap that is left next, and what is done about it. -/
theorem WorkSound.next {port : ℕ} {trap : DevlinkTrap} {item : NsimTrapItem}
    {rest : List (DevlinkTrap × NsimTrapItem)} {events : List TrapEvent} (so : WorkSound w work)
    (current : work.current = some (port, (trap, item) :: rest))
    (places : events.map TrapEvent.place =
      if w.coreAction trap.id = .DROP then [] else [(port, some trap.id)]) :
    WorkSound w { work with current := some (port, rest), log := work.log ++ events } := by
  refine ⟨so.ports, nofun, ?_⟩
  rintro port' rest' ⟨⟩
  obtain ⟨before, done, left, reached, split, mirrored, log⟩ := so.busy _ _ current
  cases left with
  | nil => cases mirrored
  | cons t left =>
    obtain ⟨head, tail⟩ := List.cons.inj mirrored
    obtain ⟨rfl, -⟩ := Prod.mk.inj head
    refine ⟨before, done ++ [trap], left, reached, by simpa using split, tail, ?_⟩
    rw [List.map_append, log, places, w.active_append, List.append_assoc]
    congr 1
    unfold placesAt
    rw [List.map_append]
    split_ifs <;> rfl

theorem WorkSound.item_eq {port : ℕ} {trap : DevlinkTrap} {item : NsimTrapItem}
    {rest : List (DevlinkTrap × NsimTrapItem)} (so : WorkSound w work)
    (current : work.current = some (port, (trap, item) :: rest)) :
    trap ∈ nsimTrapsArr ∧ item = w.mirror trap := by
  obtain ⟨before, done, left, -, split, mirrored, -⟩ := so.busy _ _ current
  cases left with
  | nil => cases mirrored
  | cons t left =>
    obtain ⟨head, -⟩ := List.cons.inj mirrored
    obtain ⟨rfl, rfl⟩ := Prod.mk.inj head
    refine ⟨?_, rfl⟩
    rw [split]
    exact List.mem_append_right _ List.mem_cons_self

/-- The port is done. -/
theorem WorkSound.leave {port : ℕ} (so : WorkSound w work)
    (current : work.current = some (port, [])) : WorkSound w { work with current := none } := by
  obtain ⟨before, done, left, reached, split, mirrored, log⟩ := so.busy _ _ current
  obtain rfl : left = [] := List.map_eq_nil_iff.1 mirrored.symm
  rw [List.append_nil] at split
  refine ⟨so.ports, fun _ => ?_, nofun⟩
  show work.log.map _ = work.reached.flatMap _
  rw [log, reached, ← split, List.flatMap_append, List.flatMap_singleton]

/-- The work goes on. -/
theorem TrapsSound.goOn (sound : TrapsSound w) (same : SameTraps w w')
    (ports : w'.portList = w.portList) (there : w.trapData ≠ none) {work' : TrapWork}
    (working : w'.work = some work') (so : WorkSound w work') : TrapsSound w' := by
  refine sound.frame same (fun work'' next => ?_) fun gone => absurd gone there
  obtain rfl := Option.some.inj (working.symm.trans next)
  exact same.workSound ports so

theorem sound_workTrap {allocated : Bool} (sound : TrapsSound w) (working : w.work = some work)
    (next : w.workTrap work allocated = some w') : TrapsSound w' := by
  have so := sound.working work working
  have there : w.trapData ≠ none := fun gone => by
    have idle := sound.idle_of_gone gone
    exact absurd (working.symm.trans idle) nofun
  unfold TrapsWorld.workTrap at next
  split at next
  · rename_i port trap item rest current
    obtain ⟨-, rfl⟩ := so.item_eq current
    dsimp only at next
    generalize (if trap.metadataCap &&& DEVLINK_TRAP_METADATA_TYPE_F_FA_COOKIE ≠ 0 then w.faCookie
      else none) = faCookie at next
    split_ifs at next with dropped failed
    · obtain rfl := Option.some.inj next
      refine sound.goOn (.of_eq rfl rfl rfl rfl rfl) rfl there rfl ?_
      have none : ([] : List TrapEvent).map TrapEvent.place =
        if w.coreAction trap.id = .DROP then [] else [(port, some trap.id)] := (if_pos dropped).symm
      have done := so.next current none
      rw [List.append_nil] at done
      exact done
    · obtain rfl := Option.some.inj next
      refine sound.goOn (.of_eq rfl rfl rfl rfl rfl) rfl there rfl ?_
      have one : [TrapEvent.noMemory port (w.mirror trap).trapCtx].map TrapEvent.place =
        if w.coreAction trap.id = .DROP then [] else [(port, some trap.id)] := (if_neg dropped).symm
      exact so.next current one
    · obtain rfl := Option.some.inj next
      refine sound.goOn (sameTraps_report w _ _) ?_ there rfl ?_
      · rfl
      · have one : [TrapEvent.reported ⟨port, (w.mirror trap).trapCtx, faCookie⟩].map
              TrapEvent.place =
            if w.coreAction trap.id = .DROP then [] else [(port, some trap.id)] :=
          (if_neg dropped).symm
        exact so.next current one
  · rename_i port current
    obtain rfl := Option.some.inj next
    exact sound.goOn (.of_eq rfl rfl rfl rfl rfl) rfl there rfl (so.leave current)
  · cases next

end Work

/-! ## Every run -/

section Runs

variable {w w' : TrapsWorld}

theorem ite_some_eq_some {α : Type*} {c : Prop} [Decidable c] {a : Option α} {b : α}
    (step : (if c then a else none) = some b) : c ∧ a = some b := by
  split_ifs at step with can
  exact ⟨can, step⟩

/-- Only the ports, the cookie, its files and the flags change. -/
theorem TrapsSound.idle_frame (sound : TrapsSound w) (same : SameTraps w w')
    (idle : w'.work = none) : TrapsSound w' := by
  refine sound.frame same (fun work working => ?_) fun _ => idle
  exact absurd (idle.symm.trans working) nofun

theorem TrapsSound.keep (sound : TrapsSound w) (same : SameTraps w w')
    (ports : w'.portList = w.portList) (work : w'.work = w.work) : TrapsSound w' := by
  refine sound.frame same (fun work' working => ?_) fun gone => ?_
  · exact same.workSound ports (sound.working work' (work.symm.trans working))
  · exact work.trans (sound.idle_of_gone gone)

/-- A text is refused, or becomes the cookie. -/
theorem write_cases (w : TrapsWorld) (data : Bytes) (ppos : ℕ) (memdupUser : Option Errno)
    (allocated : Bool) :
    (∃ e, w.nsimDevTrapFaCookieWrite data ppos memdupUser allocated = (w, .error e)) ∨
      ∃ cookie, ppos = 0 ∧ TrapsWorld.cookieDigits data % 2 = 0 ∧
        Hex.hex2bin (TrapsWorld.cookieDigits data / 2) data = some cookie ∧
        w.nsimDevTrapFaCookieWrite data ppos memdupUser allocated =
          ({ w with faCookie := some cookie }, .ok data.length) := by
  unfold TrapsWorld.nsimDevTrapFaCookieWrite
  by_cases start : ppos ≠ 0
  · exact Or.inl ⟨_, if_pos start⟩
  by_cases odd : TrapsWorld.cookieDigits data % 2 ≠ 0
  · rw [if_neg start]
    exact Or.inl ⟨_, if_pos odd⟩
  rw [if_neg start, if_neg odd]
  cases memdupUser with
  | some e => exact Or.inl ⟨e, rfl⟩
  | none =>
    cases allocated with
    | false => exact Or.inl ⟨_, rfl⟩
    | true =>
      cases read : Hex.hex2bin (TrapsWorld.cookieDigits data / 2) data with
      | none =>
        exact Or.inl ⟨.EINVAL, rfl⟩
      | some cookie =>
        exact Or.inr ⟨cookie, not_not.1 start, not_not.1 odd, rfl, rfl⟩

theorem trapsSound_step {op : TrapsOp} (sound : TrapsSound w) (step : w.step op = some w') :
    TrapsSound w' := by
  cases op with
  | init faults =>
    obtain ⟨⟨gone, -⟩, result⟩ := ite_some_eq_some step
    obtain rfl := Option.some.inj result
    exact trapsSound_init sound gone faults
  | exit =>
    obtain ⟨⟨-, idle⟩, result⟩ := ite_some_eq_some step
    obtain rfl := Option.some.inj result
    exact sound_exit sound (Option.isNone_iff_eq_none.1 idle)
  | actionSet trap action =>
    obtain ⟨⟨mem, idle⟩, result⟩ := ite_some_eq_some step
    obtain ⟨item, here, rfl⟩ := Option.map_eq_some_iff.1 result
    exact (sound_setAction sound (Option.isNone_iff_eq_none.1 idle) mem here action).1
  | groupActionSet group action =>
    obtain ⟨idle, result⟩ := ite_some_eq_some step
    obtain rfl := Option.some.inj result
    exact (sound_groupActionSet sound (Option.isNone_iff_eq_none.1 idle) group action).1
  | policerCounterGet id =>
    obtain ⟨⟨-, -, idle⟩, result⟩ := ite_some_eq_some step
    obtain ⟨data, here, rfl⟩ := Option.map_eq_some_iff.1 result
    unfold TrapsWorld.nsimDevDevlinkTrapPolicerCounterGet
    split_ifs
    · exact sound
    · refine sound.idle_frame ⟨fun _ => rfl, ?_, nofun, rfl, rfl, rfl⟩
        (Option.isNone_iff_eq_none.1 idle)
      rintro data' ⟨⟩
      exact ⟨data, here, rfl⟩
  | dropCounterGet =>
    obtain ⟨idle, result⟩ := ite_some_eq_some step
    obtain ⟨data, here, rfl⟩ := Option.map_eq_some_iff.1 result
    unfold TrapsWorld.nsimDevDevlinkTrapDropCounterGet
    split_ifs
    · exact sound
    · refine sound.idle_frame ⟨fun _ => rfl, ?_, nofun, rfl, rfl, rfl⟩
        (Option.isNone_iff_eq_none.1 idle)
      rintro data' ⟨⟩
      exact ⟨data, here, rfl⟩
  | setFlags group policer policerCounter dropCounter =>
    obtain rfl := Option.some.inj step
    exact sound.keep (.of_eq rfl rfl rfl rfl rfl) rfl rfl
  | portAdd port =>
    obtain ⟨⟨-, idle⟩, result⟩ := ite_some_eq_some step
    obtain rfl := Option.some.inj result
    exact sound.idle_frame (.of_eq rfl rfl rfl rfl rfl) (Option.isNone_iff_eq_none.1 idle)
  | portDel port =>
    obtain ⟨idle, result⟩ := ite_some_eq_some step
    obtain rfl := Option.some.inj result
    exact sound.idle_frame (.of_eq rfl rfl rfl rfl rfl) (Option.isNone_iff_eq_none.1 idle)
  | setRunning port running =>
    obtain rfl := Option.some.inj step
    exact sound.keep (.of_eq rfl rfl rfl rfl rfl) rfl rfl
  | startWork =>
    obtain ⟨⟨scheduled, -⟩, result⟩ := ite_some_eq_some step
    obtain rfl := Option.some.inj result
    exact sound_startWork sound scheduled
  | workPort =>
    obtain ⟨work, working, rest⟩ := Option.bind_eq_some_iff.1 step
    obtain ⟨data, here, result⟩ := Option.bind_eq_some_iff.1 rest
    exact sound_workPort sound working here result
  | workTrap allocated =>
    obtain ⟨work, working, result⟩ := Option.bind_eq_some_iff.1 step
    exact sound_workTrap sound working result
  | endWork =>
    obtain ⟨work, working, rest⟩ := Option.bind_eq_some_iff.1 step
    obtain ⟨-, result⟩ := ite_some_eq_some rest
    obtain rfl := Option.some.inj result
    exact sound.idle_frame (.of_eq rfl rfl rfl rfl rfl) rfl
  | «open» fd =>
    obtain ⟨-, result⟩ := ite_some_eq_some step
    obtain rfl := Option.some.inj result
    exact sound.keep (.of_eq rfl rfl rfl rfl rfl) rfl rfl
  | close fd =>
    obtain rfl := Option.some.inj step
    exact sound.keep (.of_eq rfl rfl rfl rfl rfl) rfl rfl
  | llseek fd ppos =>
    obtain ⟨_, -, rfl⟩ := Option.map_eq_some_iff.1 step
    exact sound.keep (.of_eq rfl rfl rfl rfl rfl) rfl rfl
  | read fd count allocated =>
    obtain ⟨_, -, rfl⟩ := Option.map_eq_some_iff.1 step
    exact sound.keep (.of_eq rfl rfl rfl rfl rfl) rfl rfl
  | write fd data memdupUser allocated =>
    obtain ⟨-, rest⟩ := ite_some_eq_some step
    obtain ⟨ppos, -, rfl⟩ := Option.map_eq_some_iff.1 rest
    obtain ⟨e, refused⟩ | ⟨cookie, -, -, -, accepted⟩ :=
      write_cases w data ppos memdupUser allocated
    · rw [refused]
      exact sound
    · rw [accepted]
      exact sound.keep (.of_eq rfl rfl rfl rfl rfl) rfl rfl

theorem trapsSound_of_reachable (reach : trapsSystem.Reachable w) : TrapsSound w := by
  refine TransitionSystem.Reachable.induct (P := TrapsSound) (fun w start => ?_)
    (fun _ _ _ _ sound step => trapsSound_step sound step) reach
  subst start
  exact ⟨nofun, nofun, fun _ => ⟨rfl, rfl, rfl, rfl, fun _ => rfl⟩, fun _ _ => rfl, nofun⟩

/-- In every run, whatever fails while the traps are set up: either devlink has all traps, groups
and policers, the work is scheduled and the table of the driver has the actions of devlink; or
devlink has nothing of the driver and there is no work. -/
theorem traps_all_or_nothing (reach : trapsSystem.Reachable w) :
    (∀ data, w.trapData = some data → w.policers = true ∧ w.groups = true ∧ w.scheduled = true ∧
      (∀ trap ∈ nsimTrapsArr, (w.items trap.id).isSome = true) ∧
      data.trapItemsArr = nsimTrapsArr.map fun trap => ⟨some trap.id, w.coreAction trap.id⟩) ∧
    (w.trapData = none → w.policers = false ∧ w.groups = false ∧ w.scheduled = false ∧
      w.work = none ∧ ∀ id, w.items id = none) := by
  have sound := trapsSound_of_reachable reach
  refine ⟨fun data here => ?_, sound.gone⟩
  obtain ⟨policers, groups, scheduled, items⟩ := sound.there (by rw [here]; rfl)
  exact ⟨policers, groups, scheduled, items, sound.mirrors data here⟩

/-- The packets with a cookie are those of the two drops by a flow action. -/
theorem hasFaCookie_iff : ∀ trap ∈ nsimTrapsArr,
    trap.metadataCap &&& DEVLINK_TRAP_METADATA_TYPE_F_FA_COOKIE ≠ 0 ↔
      trap.id = .INGRESS_FLOW_ACTION_DROP ∨ trap.id = .EGRESS_FLOW_ACTION_DROP := by
  decide

/-- In every run, whatever happens to the ports and the cookie while the work goes on: between two
ports the work has reported, or lacked memory to report, one packet for each running port it came to
and each trap that devlink does not drop, in the order of the ports and of the traps, and no other;
and a packet carries the cookie of this moment if a flow action dropped it, and no cookie
otherwise. -/
theorem trap_reports_exact (reach : trapsSystem.Reachable w) {work : TrapWork}
    (working : w.work = some work) :
    (work.current = none → work.log.map TrapEvent.place = work.reached.flatMap fun port =>
      (nsimTrapsArr.filter fun trap => w.coreAction trap.id ≠ .DROP).map fun trap =>
        (port, some trap.id)) ∧
    work.reached.Sublist w.portList ∧
    ∀ port trap item rest, work.current = some (port, (trap, item) :: rest) →
      w.coreAction trap.id ≠ .DROP →
      ∃ w' work', w.step (.workTrap true) = some w' ∧ w'.work = some work' ∧
        work'.log = work.log ++ [.reported ⟨port, some trap.id,
          if trap.id = .INGRESS_FLOW_ACTION_DROP ∨ trap.id = .EGRESS_FLOW_ACTION_DROP then w.faCookie
          else none⟩] := by
  have so := (trapsSound_of_reachable reach).working work working
  obtain ⟨seen, split, sub⟩ := so.ports
  refine ⟨so.idle, ?_, ?_⟩
  · rw [← split]
    exact sub.trans (List.sublist_append_left _ _)
  · intro port trap item rest current kept
    obtain ⟨mem, rfl⟩ := so.item_eq current
    have cookie := hasFaCookie_iff trap mem
    have step : w.step (.workTrap true) = w.workTrap work true := by
      show w.work.bind _ = _
      rw [working]
      rfl
    have go : w.workTrap work true = some { w.devlinkTrapReport (some trap.id) with
        work := some { work with
          current := some (port, rest)
          log := work.log ++ [.reported ⟨port, some trap.id,
            if trap.metadataCap &&& DEVLINK_TRAP_METADATA_TYPE_F_FA_COOKIE ≠ 0 then w.faCookie
            else none⟩] } } := by
      unfold TrapsWorld.workTrap
      rw [current]
      exact if_neg kept
    refine ⟨_, _, step.trans go, rfl, ?_⟩
    simp only [cookie]

/-- A work that has come to its only running port, and is about to report the packet of a flow
action. -/
theorem trap_reports_exact_of_one : ∃ w work, trapsSystem.Reachable w ∧ w.work = some work ∧
    work.reached = [7] ∧ work.current = none ∧
      work.log.map TrapEvent.place = work.reached.flatMap fun port =>
        (nsimTrapsArr.filter fun trap => w.coreAction trap.id ≠ .DROP).map fun trap =>
          (port, some trap.id) := by
  obtain ⟨w, reach, test⟩ := TransitionSystem.Reachable.exists_of_follow (M := trapsSystem)
    (.init rfl) ([.init ⟨false, false, false, none, none, []⟩, .portAdd 7, .setRunning 7 true,
      .groupActionSet .ACL_DROPS .TRAP, .startWork, .workPort] ++
      List.replicate 15 (.workTrap true))
    (fun w => w.work.any fun work => work.reached = [7] ∧ work.current = none)
    (fun _ _ _ _ step => step) (by decide)
  obtain ⟨work, working, both⟩ := (Option.any_eq_true _ _).1 test
  obtain ⟨reached, current⟩ := of_decide_eq_true both
  exact ⟨w, work, reach, working, reached, current, (trap_reports_exact reach working).1 current⟩

theorem traps_all_or_nothing_of_failed : ∃ w, trapsSystem.Reachable w ∧ w.trapData = none ∧
    w.policers = false := by
  obtain ⟨w, reach, test⟩ := TransitionSystem.Reachable.exists_of_follow (M := trapsSystem)
    (.init rfl) [.init ⟨false, false, false, none, none, [none, none, some .ENOMEM]⟩]
    (fun w => w.trapData = none) (fun _ _ _ _ step => step) (by decide)
  have gone : w.trapData = none := of_decide_eq_true test
  exact ⟨w, reach, gone, ((traps_all_or_nothing reach).2 gone).1⟩

end Runs

/-! ## The file of the cookie -/

section Cookie

variable {w w' : TrapsWorld} {text : Option Bytes}

/-- The last text that was not refused. -/
def acceptedText (w : TrapsWorld) (text : Option Bytes) : TrapsOp → Option Bytes
  | .write fd data memdupUser allocated => (w.files fd).elim text fun ppos =>
    if (w.nsimDevTrapFaCookieWrite data ppos memdupUser allocated).2.isOk then some data else text
  | _ => text

/-- Runs with the last text that was not refused. -/
def cookieHistory : TransitionSystem (TrapsWorld × Option Bytes) TrapsOp where
  init s := trapsSystem.init s.1 ∧ s.2 = none
  step s op s' := trapsSystem.step s.1 op s'.1 ∧ s'.2 = acceptedText s.1 s.2 op

theorem cookieDigits_eq {data : Bytes} (fits : data.length < 2 ^ 64) (some : data ≠ []) :
    TrapsWorld.cookieDigits data = data.length - 1 := by
  have positive := List.length_pos_iff.2 some
  unfold TrapsWorld.cookieDigits
  omega

/-- The cookie is the one the last text stands for. -/
def HoldsText (w : TrapsWorld) (text : Option Bytes) : Prop :=
  (text = none → w.faCookie = none) ∧ ∀ data, text = some data →
    ∃ cookie, w.faCookie = some cookie ∧ Hex.bin2hex cookie = data.dropLast.map Hex.lower

theorem faCookie_register (traps : List DevlinkTrap) (faults : List (Option Errno))
    (w : TrapsWorld) : (TrapsWorld.devlTrapsRegister traps faults w).1.faCookie = w.faCookie := by
  induction traps generalizing w faults with
  | nil => rfl
  | cons trap traps ih =>
    have one : ∀ fault, (w.devlinkTrapRegister trap fault).1.faCookie = w.faCookie := by
      intro fault
      unfold TrapsWorld.devlinkTrapRegister TrapsWorld.nsimDevDevlinkTrapInit
      cases fault with
      | some e => rfl
      | none =>
        dsimp only
        cases TrapsWorld.nsimDevTrapItemLookup trap.id <;> rfl
    have first := one (faults.headD none)
    unfold TrapsWorld.devlTrapsRegister
    split
    · rename_i w₁ e failed
      rw [failed] at first
      exact first
    · rename_i w₁ done
      rw [done] at first
      have rest := ih faults.tail w₁
      split
      · rename_i w₂ e failed
        rw [failed] at rest
        exact rest.trans first
      · rename_i w₂ done'
        rw [done'] at rest
        exact rest.trans first

theorem faCookie_init (w : TrapsWorld) (faults : TrapsWorld.InitFaults) :
    (w.nsimDevTrapsInit faults).1.faCookie = w.faCookie := by
  unfold TrapsWorld.nsimDevTrapsInit
  split_ifs
  · rfl
  · rfl
  · rfl
  dsimp only
  cases faults.policers with
  | some e => rfl
  | none =>
    cases faults.groups with
    | some e => rfl
    | none =>
      dsimp only
      split
      · rename_i w' e failed
        have kept := congrArg (fun r => r.1.faCookie) failed
        exact kept.symm.trans (faCookie_register ..)
      · rename_i w' done
        have kept := congrArg (fun r => r.1.faCookie) done
        exact kept.symm.trans (faCookie_register ..)

theorem faCookie_actionSet (w : TrapsWorld) (trap : DevlinkTrap) (item : DevlinkTrapItem)
    (action : DevlinkTrapAction) : (w.devlinkTrapActionSet trap item action).faCookie = w.faCookie := by
  unfold TrapsWorld.devlinkTrapActionSet TrapsWorld.nsimDevDevlinkTrapActionSet
  split_ifs
  · rfl
  · cases TrapsWorld.nsimDevTrapItemLookup trap.id <;> rfl

theorem faCookie_groupActionSet (w : TrapsWorld) (group : DevlinkTrapGroupId)
    (action : DevlinkTrapAction) :
    (w.devlinkTrapGroupActionSet group action).faCookie = w.faCookie := by
  unfold TrapsWorld.devlinkTrapGroupActionSet
  generalize nsimTrapsArr.filter (·.initGroupId = group) = traps
  induction traps generalizing w with
  | nil => rfl
  | cons trap traps ih =>
    rw [List.foldl_cons, ih]
    cases w.items trap.id with
    | none => rfl
    | some item => exact faCookie_actionSet w trap item action

theorem faCookie_workTrap {work : TrapWork} {allocated : Bool}
    (next : w.workTrap work allocated = some w') : w'.faCookie = w.faCookie := by
  unfold TrapsWorld.workTrap at next
  split at next
  · rename_i port trap item rest current
    dsimp only at next
    generalize (if trap.metadataCap &&& DEVLINK_TRAP_METADATA_TYPE_F_FA_COOKIE ≠ 0 then w.faCookie
      else none) = faCookie at next
    split_ifs at next
    · obtain rfl := Option.some.inj next
      rfl
    · obtain rfl := Option.some.inj next
      rfl
    · obtain rfl := Option.some.inj next
      cases item.trapCtx <;> rfl
  · obtain rfl := Option.some.inj next
    rfl
  · cases next

/-- Nothing but a write changes the cookie. -/
theorem faCookie_frame {op : TrapsOp} (step : w.step op = some w')
    (reads : ∀ fd data memdupUser allocated, op ≠ .write fd data memdupUser allocated) :
    w'.faCookie = w.faCookie := by
  cases op with
  | init faults =>
    obtain ⟨-, result⟩ := ite_some_eq_some step
    obtain rfl := Option.some.inj result
    exact faCookie_init w faults
  | exit =>
    obtain ⟨-, result⟩ := ite_some_eq_some step
    obtain rfl := Option.some.inj result
    unfold TrapsWorld.nsimDevTrapsExit TrapsWorld.devlTrapsUnregister
    dsimp only
    rw [foldl_setCore]
  | actionSet trap action =>
    obtain ⟨-, result⟩ := ite_some_eq_some step
    obtain ⟨item, -, rfl⟩ := Option.map_eq_some_iff.1 result
    exact faCookie_actionSet w trap item action
  | groupActionSet group action =>
    obtain ⟨-, result⟩ := ite_some_eq_some step
    obtain rfl := Option.some.inj result
    exact faCookie_groupActionSet w group action
  | policerCounterGet id =>
    obtain ⟨-, result⟩ := ite_some_eq_some step
    obtain ⟨data, -, rfl⟩ := Option.map_eq_some_iff.1 result
    unfold TrapsWorld.nsimDevDevlinkTrapPolicerCounterGet
    split_ifs <;> rfl
  | dropCounterGet =>
    obtain ⟨-, result⟩ := ite_some_eq_some step
    obtain ⟨data, -, rfl⟩ := Option.map_eq_some_iff.1 result
    unfold TrapsWorld.nsimDevDevlinkTrapDropCounterGet
    split_ifs <;> rfl
  | setFlags group policer policerCounter dropCounter =>
    obtain rfl := Option.some.inj step
    rfl
  | portAdd port =>
    obtain ⟨-, result⟩ := ite_some_eq_some step
    obtain rfl := Option.some.inj result
    rfl
  | portDel port =>
    obtain ⟨-, result⟩ := ite_some_eq_some step
    obtain rfl := Option.some.inj result
    rfl
  | setRunning port running =>
    obtain rfl := Option.some.inj step
    rfl
  | startWork =>
    obtain ⟨-, result⟩ := ite_some_eq_some step
    obtain rfl := Option.some.inj result
    rfl
  | workPort =>
    obtain ⟨work, -, rest⟩ := Option.bind_eq_some_iff.1 step
    obtain ⟨data, -, result⟩ := Option.bind_eq_some_iff.1 rest
    unfold TrapsWorld.workPort at result
    split at result
    · dsimp only at result
      split_ifs at result
      · obtain rfl := Option.some.inj result
        rfl
      · obtain rfl := Option.some.inj result
        rfl
    · cases result
  | workTrap allocated =>
    obtain ⟨work, -, result⟩ := Option.bind_eq_some_iff.1 step
    exact faCookie_workTrap result
  | endWork =>
    obtain ⟨work, -, rest⟩ := Option.bind_eq_some_iff.1 step
    obtain ⟨-, result⟩ := ite_some_eq_some rest
    obtain rfl := Option.some.inj result
    rfl
  | «open» fd =>
    obtain ⟨-, result⟩ := ite_some_eq_some step
    obtain rfl := Option.some.inj result
    rfl
  | close fd =>
    obtain rfl := Option.some.inj step
    rfl
  | llseek fd ppos =>
    obtain ⟨_, -, rfl⟩ := Option.map_eq_some_iff.1 step
    rfl
  | read fd count allocated =>
    obtain ⟨_, -, rfl⟩ := Option.map_eq_some_iff.1 step
    rfl
  | write fd data memdupUser allocated => exact absurd rfl (reads fd data memdupUser allocated)

/-- A text that is accepted is the new one. -/
theorem holdsText_write {data : Bytes} {ppos : ℕ} {memdupUser : Option Errno} {allocated : Bool}
    (fits : data.length < 2 ^ 64) (holds : HoldsText w text) :
    HoldsText (w.nsimDevTrapFaCookieWrite data ppos memdupUser allocated).1
      (if (w.nsimDevTrapFaCookieWrite data ppos memdupUser allocated).2.isOk then some data
        else text) := by
  obtain ⟨e, refused⟩ | ⟨cookie, -, even, read, accepted⟩ :=
    write_cases w data ppos memdupUser allocated
  · rw [refused]
    exact holds
  · rw [accepted]
    refine ⟨nofun, ?_⟩
    rintro data' ⟨⟩
    refine ⟨cookie, rfl, ?_⟩
    have some : data ≠ [] := by
      rintro rfl
      exact absurd even (by decide)
    have digits := cookieDigits_eq fits some
    rw [Hex.bin2hex_of_hex2bin read, Nat.mul_div_cancel' (Nat.dvd_of_mod_eq_zero even), digits,
      List.dropLast_eq_take]

theorem holdsText_step {op : TrapsOp} (holds : HoldsText w text) (step : w.step op = some w') :
    HoldsText w' (acceptedText w text op) := by
  by_cases writes : ∃ fd data memdupUser allocated, op = .write fd data memdupUser allocated
  · obtain ⟨fd, data, memdupUser, allocated, rfl⟩ := writes
    obtain ⟨fits, rest⟩ := ite_some_eq_some step
    obtain ⟨ppos, here, rfl⟩ := Option.map_eq_some_iff.1 rest
    show HoldsText _ ((w.files fd).elim text _)
    rw [here]
    exact holdsText_write fits holds
  · have kept := faCookie_frame step fun fd data memdupUser allocated same =>
      writes ⟨fd, data, memdupUser, allocated, same⟩
    have same : acceptedText w text op = text := by
      cases op with
      | write fd data memdupUser allocated => exact absurd ⟨fd, data, memdupUser, allocated, rfl⟩ writes
      | _ => rfl
    rw [same]
    unfold HoldsText
    rw [kept]
    exact holds

/-- In every run, whoever reads and writes the file: a read is refused until a text was accepted,
and then gives the digits of the last accepted text in lower case, from the position of the reader
on; and a text is accepted if and only if it is written at the start of the file, has an odd length
and consists of digits up to its last byte, which may be anything. -/
theorem fa_cookie_read_back (reach : cookieHistory.Reachable (w, text)) :
    (∀ count ppos, w.nsimDevTrapFaCookieRead count ppos true =
      text.elim (ppos, .error .EINVAL) fun data =>
        (ppos + (((data.dropLast.map Hex.lower).drop ppos).take count).length,
          .ok (((data.dropLast.map Hex.lower).drop ppos).take count))) ∧
    ∀ data ppos, data.length < 2 ^ 64 →
      ((w.nsimDevTrapFaCookieWrite data ppos none true).2.isOk = true ↔
        ppos = 0 ∧ data.length % 2 = 1 ∧ ∀ c ∈ data.dropLast, (Hex.hexToBin c).isSome = true) := by
  have holds : HoldsText w text := by
    refine TransitionSystem.Reachable.induct (M := cookieHistory)
      (P := fun s => HoldsText s.1 s.2) ?_ ?_ reach
    · rintro ⟨w, text⟩ ⟨start, none⟩
      obtain rfl : text = Option.none := none
      obtain rfl : w = _ := start
      exact ⟨fun _ => rfl, nofun⟩
    · rintro ⟨w, text⟩ op ⟨w', text'⟩ - holds ⟨step, accepted⟩
      obtain rfl : text' = acceptedText w text op := accepted
      exact holdsText_step holds step
  constructor
  · intro count ppos
    unfold TrapsWorld.nsimDevTrapFaCookieRead
    cases text with
    | none =>
      rw [holds.1 rfl]
      rfl
    | some data =>
      obtain ⟨cookie, here, digits⟩ := holds.2 data rfl
      rw [here]
      dsimp only
      rw [digits]
      rfl
  · intro data ppos fits
    cases empty : data with
    | nil =>
      refine iff_of_false ?_ fun all => absurd all.2.1 (by decide)
      unfold TrapsWorld.nsimDevTrapFaCookieWrite
      split_ifs <;> exact nofun
    | cons b rest =>
      rw [← empty]
      have some : data ≠ [] := by rw [empty]; exact List.cons_ne_nil b rest
      have digits := cookieDigits_eq fits some
      have positive := List.length_pos_iff.2 some
      obtain ⟨e, refused⟩ | ⟨cookie, start, even, read, accepted⟩ := write_cases w data ppos none true
      · rw [refused]
        refine iff_of_false nofun ?_
        rintro ⟨rfl, odd, all⟩
        have whole : (Hex.hex2bin (TrapsWorld.cookieDigits data / 2) data).isSome = true := by
          rw [Hex.hex2bin_isSome_iff, digits]
          have twice : 2 * ((data.length - 1) / 2) = data.length - 1 := by omega
          rw [twice, ← List.dropLast_eq_take]
          exact ⟨Nat.sub_le _ _, all⟩
        obtain ⟨cookie, read⟩ := Option.isSome_iff_exists.1 whole
        unfold TrapsWorld.nsimDevTrapFaCookieWrite at refused
        rw [if_neg (by simp), if_neg (by rw [digits]; omega)] at refused
        simp [read] at refused
      · rw [accepted]
        rw [digits] at even read
        refine iff_of_true rfl ⟨start, by omega, ?_⟩
        have whole := (Hex.hex2bin_isSome_iff.1 (by rw [read]; rfl)).2
        have twice : 2 * ((data.length - 1) / 2) = data.length - 1 := by omega
        rwa [twice, ← List.dropLast_eq_take] at whole

/-- A cookie is written in upper case, and read in lower case. -/
theorem fa_cookie_read_back_of_one : ∃ w, cookieHistory.Reachable (w, some (ascii "0AFF ")) ∧
    w.nsimDevTrapFaCookieRead 10 1 true = (4, .ok (ascii "aff")) := by
  have start : cookieHistory.Reachable (⟨fun _ => none, false, false, none, false, none, [],
      fun _ => false, none, fun _ => none, false, false, false, false⟩, none) := .init ⟨rfl, rfl⟩
  obtain ⟨⟨w, text⟩, reach, test⟩ := start.exists_of_follow
    [.open 0, .write 0 (ascii "0AFF ") none true] (fun s => s.2 = some (ascii "0AFF "))
    (fun op _ s t (step : (s.1.step op).map (fun w => (w, acceptedText s.1 s.2 op)) = some t) => by
      obtain ⟨w, next, rfl⟩ := Option.map_eq_some_iff.1 step
      exact ⟨next, rfl⟩)
    (by decide)
  obtain rfl : text = some (ascii "0AFF ") := of_decide_eq_true test
  exact ⟨w, reach, (fa_cookie_read_back reach).1 10 1⟩

end Cookie

end Netdevsim
