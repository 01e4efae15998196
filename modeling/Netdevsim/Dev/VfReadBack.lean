import Netdevsim.Dev.VfConfigs
import Netdevsim.Lib.LastWrite

/-!
# Reading back the settings of VFs

Each of the setters assigns to some fields of one entry of `vfconfigs`, which `nsim_get_vf_config`
reads.  A field reads back as the last accepted call set it, as long as the rates are in the range
of the fields that store them: these have 16 bits, and the rates are given as `int`s.
-/

namespace Netdevsim.Ports

open Program LastWrite

/-! ## Settings -/

/-- The fields of a VF. -/
inductive VfField where
  | mac | vlan | qos | vlanProto | minTxRate | maxTxRate | spoofchk | rssQueryEn | trusted
  | linkState
  deriving DecidableEq, Repr

/-- The value of a field, as given to a setter and as returned by `nsim_get_vf_config`. -/
inductive VfValue where
  | bytes (b : Bytes) | flag (b : Bool) | number (n : ℤ)
  deriving DecidableEq, Repr

/-- The value of a field in the reply of `nsim_get_vf_config`. -/
def IflaVfInfo.value (ivi : IflaVfInfo) : VfField → VfValue
  | .mac => .bytes ivi.mac
  | .vlan => .number ivi.vlan.toNat
  | .qos => .number ivi.qos.toNat
  | .vlanProto => .number ivi.vlanProto.toNat
  | .minTxRate => .number ivi.minTxRate.toNat
  | .maxTxRate => .number ivi.maxTxRate.toNat
  | .spoofchk => .flag ivi.spoofchk
  | .rssQueryEn => .flag ivi.rssQueryEn
  | .trusted => .flag ivi.trusted
  | .linkState => .number ivi.linkstate.toNat

/-- The value that a call gives to a field. -/
def NdoSetVf.given : NdoSetVf → VfField → Option VfValue
  | .mac addr, .mac => some (.bytes addr.toList)
  | .vlan id _ _, .vlan => some (.number id.toNat)
  | .vlan _ qos _, .qos => some (.number qos.toNat)
  | .vlan _ _ vlanProto, .vlanProto => some (.number vlanProto.toNat)
  | .rate min _, .minTxRate => some (.number min.toInt)
  | .rate _ max, .maxTxRate => some (.number max.toInt)
  | .spoofchk val, .spoofchk => some (.flag val)
  | .rssQueryEn val, .rssQueryEn => some (.flag val)
  | .trust val, .trusted => some (.flag val)
  | .linkState state, .linkState => some (.number state.toInt)
  | _, _ => none

/-- What is read of a field of a VF, if the VF can be read. -/
def readVf (w : PortWorld) (vf : Int32) (field : VfField) : Option VfValue :=
  match (nsimGetVfConfig vf).exec w with
  | some (.ok ivi, _) => some (ivi.value field)
  | _ => none

/-- A call for a VF. -/
structure VfCall where
  vf : Int32
  set : NdoSetVf

/-- The value that a call gives to a field of a VF. -/
def VfCall.write (call : VfCall) : Write (Int32 × VfField) VfValue := fun (vf, field) =>
  if vf = call.vf then call.set.given field else none

/-! ## What the calls do -/

/-- The fields that a call assigns. -/
def NdoSetVf.assign : NdoSetVf → NsimVfConfig → NsimVfConfig
  | .mac addr, c => { c with vfMac := addr.toList }
  | .vlan id qos vlanProto, c => { c with vlan := id, qos := qos.toUInt16, vlanProto }
  | .rate min max, c =>
    { c with minTxRate := min.toUInt32.toUInt16, maxTxRate := max.toUInt32.toUInt16 }
  | .spoofchk val, c => { c with spoofchkEnabled := val }
  | .rssQueryEn val, c => { c with rssQueryEnabled := val }
  | .trust val, c => { c with trusted := val }
  | .linkState state, c => { c with linkState := state }

/-- The arguments, or the mode of the device, for which a call is refused for every VF. -/
def NdoSetVf.Refused (dev : NsimDev) : NdoSetVf → Prop
  | .mac addr => isMulticastEtherAddr addr
  | .vlan id qos _ => 4095 < id ∨ 7 < qos
  | .rate _ _ => dev.eswMode = .SWITCHDEV
  | .linkState state => state ≠ IFLA_VF_LINK_STATE_AUTO ∧ state ≠ IFLA_VF_LINK_STATE_ENABLE ∧
      state ≠ IFLA_VF_LINK_STATE_DISABLE
  | _ => False

/-- The rates of a call are in the range of the fields that store them. -/
def NdoSetVf.Fits : NdoSetVf → Prop
  | .rate min max => (0 ≤ min.toInt ∧ min.toInt < 2 ^ 16) ∧ 0 ≤ max.toInt ∧ max.toInt < 2 ^ 16
  | _ => True

/-- The VF is one of the device, with an entry that its number names. -/
def HasVf (w : PortWorld) (vf : Int32) : Prop :=
  vf.toUInt32 < w.dev.busDev.numVfs ∧ 0 ≤ vf.toInt ∧ vf.toInt < w.vfconfigs.length

/-- The world after an assignment to the entry of a VF. -/
def PortWorld.modifyVf (w : PortWorld) (vf : Int32) (f : NsimVfConfig → NsimVfConfig) : PortWorld :=
  { w with vfconfigs := w.vfconfigs.modify vf.toInt.toNat f }

section Calls

variable {w t : PortWorld} {vf : Int32} {set : NdoSetVf} {f : NsimVfConfig → NsimVfConfig}
  {refused : Prop} {_ : Decidable refused} {r : Except Errno Unit} {field : VfField}

theorem exec_vfconfigsIndex : (vfconfigsIndex vf).exec w =
    if 0 ≤ vf.toInt ∧ vf.toInt < w.vfconfigs.length then some (.ok vf.toInt.toNat, w)
    else none := by
  show (if _ then pure _ else goWrong : PortM ℕ).exec w = _
  split_ifs <;> rfl

/-- A call of a setter without conditions of its own. -/
theorem setVf_ends (run : (setVf vf refused f).exec w = some (r, t)) :
    (∃ e, r = .error e ∧ t = w ∧ (w.dev.busDev.numVfs ≤ vf.toUInt32 ∨ refused)) ∨
      r = .ok () ∧ HasVf w vf ∧ ¬refused ∧ t = w.modifyVf vf f := by
  change (failIf (w.dev.busDev.numVfs ≤ vf.toUInt32 ∨ refused) .EINVAL >>= fun _ =>
    modifyVfconfig vf f).exec w = _ at run
  rw [exec_failIf_bind] at run
  split_ifs at run with refuse
  · cases run
    exact .inl ⟨_, rfl, rfl, refuse⟩
  · obtain ⟨below, accepted⟩ := not_or.1 refuse
    change (vfconfigsIndex vf >>= fun index => _).exec w = _ at run
    rw [exec_bind, exec_vfconfigsIndex] at run
    split_ifs at run with inside
    · cases run
      exact .inr ⟨rfl, ⟨UInt32.not_le.1 below, inside⟩, accepted, rfl⟩

/-- A call that does not leave the array either fails and changes nothing, or assigns to the entry
of its VF. -/
theorem program_ends (run : (set.program vf).exec w = some (r, t)) :
    (∃ e, r = .error e ∧ t = w ∧ (w.dev.busDev.numVfs ≤ vf.toUInt32 ∨ set.Refused w.dev)) ∨
      r = .ok () ∧ HasVf w vf ∧ ¬set.Refused w.dev ∧ t = w.modifyVf vf set.assign := by
  cases set with
  | rate min max =>
    change (failIf (w.dev.eswMode = .SWITCHDEV) .EOPNOTSUPP >>= fun _ => setVf vf False _).exec w =
      _ at run
    rw [exec_failIf_bind] at run
    split_ifs at run with switchdev
    · cases run
      exact .inl ⟨_, rfl, rfl, .inr switchdev⟩
    · obtain ⟨e, error, world, refuse⟩ | ⟨ok, vf, -, world⟩ := setVf_ends run
      · exact .inl ⟨e, error, world, by tauto⟩
      · exact .inr ⟨ok, vf, switchdev, world⟩
  | _ => exact setVf_ends run

/-- What is read of a VF: the fields of its entry. -/
def NsimVfConfig.value (c : NsimVfConfig) : VfField → VfValue
  | .mac => .bytes c.vfMac
  | .vlan => .number c.vlan.toNat
  | .qos => .number c.qos.toNat
  | .vlanProto => .number c.vlanProto.toNat
  | .minTxRate => .number c.minTxRate.toNat
  | .maxTxRate => .number c.maxTxRate.toNat
  | .spoofchk => .flag c.spoofchkEnabled
  | .rssQueryEn => .flag c.rssQueryEnabled
  | .trusted => .flag c.trusted
  | .linkState => .number c.linkState.toUInt32.toNat

theorem exec_nsimGetVfConfig : (nsimGetVfConfig vf).exec w =
    if w.dev.busDev.numVfs ≤ vf.toUInt32 then some (.error .EINVAL, w)
    else if 0 ≤ vf.toInt ∧ vf.toInt < w.vfconfigs.length then
      let c := w.vfconfigs.getD vf.toInt.toNat .zero
      some (.ok {
        vf := vf.toUInt32
        mac := c.vfMac
        vlan := c.vlan.toUInt32
        qos := c.qos.toUInt32
        spoofchk := c.spoofchkEnabled
        linkstate := c.linkState.toUInt32
        minTxRate := c.minTxRate.toUInt32
        maxTxRate := c.maxTxRate.toUInt32
        rssQueryEn := c.rssQueryEnabled
        trusted := c.trusted
        vlanProto := c.vlanProto }, w)
    else none := by
  change (failIf (w.dev.busDev.numVfs ≤ vf.toUInt32) .EINVAL >>= fun _ =>
    (vfconfigsIndex vf >>= fun index => _) >>= fun c => _).exec w = _
  rw [exec_failIf_bind]
  split_ifs with refuse inside
  · rfl
  · change ((vfconfigsIndex vf >>= fun index => _) >>= fun c => _).exec w = _
    rw [exec_bind, exec_bind, exec_vfconfigsIndex, if_pos inside]
    rfl
  · change ((vfconfigsIndex vf >>= fun index => _) >>= fun c => _).exec w = _
    rw [exec_bind, exec_bind, exec_vfconfigsIndex, if_neg inside]

theorem readVf_of_hasVf (has : HasVf w vf) (field : VfField) : readVf w vf field =
    some ((w.vfconfigs.getD vf.toInt.toNat .zero).value field) := by
  obtain ⟨below, inside⟩ := has
  unfold readVf
  rw [exec_nsimGetVfConfig, if_neg (UInt32.not_le.2 below), if_pos inside]
  cases field <;> simp [IflaVfInfo.value, NsimVfConfig.value]

theorem readVf_eq_none (no : ¬HasVf w vf) (field : VfField) : readVf w vf field = none := by
  unfold readVf
  rw [exec_nsimGetVfConfig]
  split_ifs with refuse inside
  · rfl
  · exact absurd ⟨UInt32.not_le.1 refuse, inside⟩ no
  · rfl

/-- The states of a link that are accepted read back. -/
theorem linkState_of_accepted {state : Int32}
    (accepted : ¬(NdoSetVf.linkState state).Refused w.dev) :
    (state.toUInt32.toNat : ℤ) = state.toInt := by
  have known : state = 0 ∨ state = 1 ∨ state = 2 := by
    unfold NdoSetVf.Refused at accepted
    tauto
  obtain rfl | rfl | rfl := known <;> rfl

/-- A rate reads back when it is in the range of its field. -/
theorem rate_iff (rate : Int32) : (rate.toUInt32.toUInt16.toNat : ℤ) = rate.toInt ↔
    0 ≤ rate.toInt ∧ rate.toInt < 2 ^ 16 := by
  have signed : rate.toInt = (rate.toUInt32.toNat : ℤ).bmod (2 ^ 32) :=
    FixedWidth.toInt_toInt32 rate.toUInt32
  have lt := rate.toUInt32.toNat_lt
  rw [Int.bmod_def] at signed
  rw [UInt32.toNat_toUInt16]
  split_ifs at signed <;> omega

/-- An accepted call whose rates fit stores what it is given, and leaves the other fields. -/
theorem value_assign (accepted : ¬set.Refused w.dev) (fits : set.Fits) (c : NsimVfConfig)
    (field : VfField) :
    (set.assign c).value field = (set.given field).getD (c.value field) := by
  cases set with
  | linkState state =>
    have value := linkState_of_accepted accepted
    cases field <;> simp [NdoSetVf.assign, NdoSetVf.given, NsimVfConfig.value, value]
  | rate min max =>
    have minValue := (rate_iff min).2 fits.1
    have maxValue := (rate_iff max).2 fits.2
    cases field <;> simp only [NdoSetVf.assign, NdoSetVf.given, NsimVfConfig.value, minValue,
      maxValue, Option.getD]
  | _ => cases field <;> simp [NdoSetVf.assign, NdoSetVf.given, NsimVfConfig.value]

/-- A field that is not given keeps its value. -/
theorem value_assign_of_none (none' : set.given field = none) (c : NsimVfConfig) :
    (set.assign c).value field = c.value field := by
  cases set <;> cases field <;> first | rfl | cases none'

theorem hasVf_modifyVf {i : Int32} : HasVf (w.modifyVf i f) vf ↔ HasVf w vf := by
  unfold HasVf PortWorld.modifyVf
  simp only [List.length_modify]
  exact Iff.rfl

/-- What is read after an assignment to the entry of a VF. -/
theorem readVf_modifyVf {i : Int32} (has : HasVf w i) {g : VfValue → VfValue}
    (assigned : (f (w.vfconfigs.getD i.toInt.toNat .zero)).value field =
      g ((w.vfconfigs.getD i.toInt.toNat .zero).value field)) :
    readVf (w.modifyVf i f) vf field =
      (readVf w vf field).map fun old => if vf = i then g old else old := by
  by_cases hasVf : HasVf w vf
  · rw [readVf_of_hasVf hasVf, readVf_of_hasVf (hasVf_modifyVf.2 hasVf), Option.map_some]
    have inside : vf.toInt.toNat < w.vfconfigs.length := by
      have := hasVf.2
      omega
    by_cases same : vf = i
    · subst same
      rw [if_pos rfl, ← assigned]
      unfold PortWorld.modifyVf
      simp only [List.getD_eq_getElem?_getD, List.getElem?_modify_eq,
        List.getElem?_eq_getElem inside, Option.map_eq_map, Option.map_some, Option.getD_some]
    · have apart : i.toInt.toNat ≠ vf.toInt.toNat := by
        intro index
        have left := has.2
        have right := hasVf.2
        exact same (Int32.toInt_inj.1 (by omega))
      unfold PortWorld.modifyVf
      rw [List.getD_eq_getElem?_getD, List.getElem?_modify_ne _ _ apart,
        ← List.getD_eq_getElem?_getD, if_neg same]
  · rw [readVf_eq_none hasVf, readVf_eq_none fun has => hasVf (hasVf_modifyVf.1 has)]
    rfl

end Calls

/-! ## Runs -/

/-- A sequence of calls on a device: the world before and after it, and the calls that were
accepted, in order. -/
structure VfRun where
  start : PortWorld
  world : PortWorld
  accepted : List VfCall

/-- What a call does, and whether it is accepted. -/
def VfCall.run (call : VfCall) (w : PortWorld) : Option (Except Errno Unit × PortWorld) :=
  (call.set.program call.vf).exec w

/-- The run with the outcome of another call. -/
def VfRun.record (s : VfRun) (call : VfCall) : Except Errno Unit × PortWorld → VfRun
  | (.ok (), world) => { s with world, accepted := s.accepted ++ [call] }
  | (.error _, world) => { s with world }

def vfCallStep (s : VfRun) (call : VfCall) : Option VfRun :=
  (call.run s.world).map (s.record call)

/-- All sequences of calls, for any VFs and with any arguments, on any device. -/
def vfCallSystem : TransitionSystem VfRun VfCall where
  init s := s.world = s.start ∧ s.accepted = []
  step s call t := vfCallStep s call = some t

/-- The device and the number of its entries are those of the start, and a field of a VF is that of
the start, or what the last accepted call gave to it. -/
structure VfSound (s : VfRun) : Prop where
  dev : s.world.dev = s.start.dev
  length : s.world.vfconfigs.length = s.start.vfconfigs.length
  accepted : ∀ call ∈ s.accepted, HasVf s.start call.vf
  value : ∀ vf field, readVf s.world vf field = (readVf s.start vf field).map fun old =>
    (lastWrite (s.accepted.map VfCall.write) (vf, field)).getD old

/-- If the call is accepted, its rates are in the range of the fields that store them. -/
def VfCall.FitsIn (w : PortWorld) (call : VfCall) : Prop :=
  call.vf.toUInt32 < w.dev.busDev.numVfs → ¬call.set.Refused w.dev → call.set.Fits

/-- Every field of every VF reads as the last accepted call for it gave it, or as at the start.  A
refused call changes nothing, and an accepted one changes no other VF and no field that it is not
given. -/
structure ReadsBack (s : VfRun) : Prop where
  last : ∀ before call after field v, s.accepted = before ++ call :: after →
    call.set.given field = some v →
    (∀ later ∈ after, later.vf = call.vf → later.set.given field = none) →
    readVf s.world call.vf field = some v
  unset : ∀ vf field, (∀ call ∈ s.accepted, call.vf = vf → call.set.given field = none) →
    readVf s.world vf field = readVf s.start vf field
  refused : ∀ (call : VfCall) e w, call.run s.world = some (.error e, w) → w = s.world
  entry : ∀ (call : VfCall) w, call.run s.world = some (.ok (), w) →
    ∃ f, w = s.world.modifyVf call.vf f
  others : ∀ (call : VfCall) w, call.run s.world = some (.ok (), w) → ∀ vf field,
    (vf = call.vf → call.set.given field = none) → readVf w vf field = readVf s.world vf field

section Runs

variable {s t : VfRun} {call : VfCall}

theorem VfSound.hasVf_iff (sound : VfSound s) (vf : Int32) :
    HasVf s.world vf ↔ HasVf s.start vf := by
  unfold HasVf
  rw [sound.dev, sound.length]

theorem vfSound_init (init : vfCallSystem.init s) : VfSound s := by
  obtain ⟨world, accepted⟩ := init
  refine ⟨by rw [world], by rw [world], fun call mem => ?_, fun vf field => ?_⟩
  · rw [accepted] at mem
    cases mem
  · rw [world, accepted]
    exact Option.map_id'.symm

theorem vfSound_step (sound : VfSound s) (step : vfCallStep s call = some t)
    (fits : call.FitsIn s.world) : VfSound t := by
  obtain ⟨⟨r, w⟩, run, rfl⟩ := Option.map_eq_some_iff.1 step
  obtain ⟨e, rfl, rfl, -⟩ | ⟨rfl, has, accepted, rfl⟩ := program_ends run
  · exact sound
  · refine ⟨sound.dev, ?_, fun other mem => ?_, fun vf field => ?_⟩
    · exact (List.length_modify ..).trans sound.length
    · obtain old | new := List.mem_append.1 mem
      · exact sound.accepted other old
      · rw [List.mem_singleton.1 new]
        exact (sound.hasVf_iff call.vf).1 has
    · have stored := value_assign accepted (fits has.1 accepted)
      change readVf (s.world.modifyVf call.vf call.set.assign) vf field = _
      rw [readVf_modifyVf has (stored _ field), sound.value, Option.map_map]
      have recorded : (s.accepted ++ [call]).map VfCall.write =
          s.accepted.map VfCall.write ++ [call.write] := by simp
      refine congrArg (Option.map · (readVf s.start vf field)) (funext fun old => ?_)
      change _ = (lastWrite ((s.accepted ++ [call]).map VfCall.write) (vf, field)).getD old
      rw [recorded, getD_lastWrite_append]
      unfold VfCall.write
      dsimp only [Function.comp]
      split_ifs <;> rfl

/-- Calls for other VFs, or without a value for the field, write nothing to it. -/
theorem write_eq_none {calls : List VfCall} {vf : Int32} {field : VfField}
    (never : ∀ call ∈ calls, call.vf = vf → call.set.given field = none) :
    ∀ w ∈ calls.map VfCall.write, w (vf, field) = none := by
  intro w mem
  obtain ⟨call, accepted, rfl⟩ := List.mem_map.1 mem
  unfold VfCall.write
  dsimp only
  split_ifs with same
  · exact never call accepted same.symm
  · rfl

theorem VfSound.readsBack (sound : VfSound s) : ReadsBack s := by
  constructor
  · intro before call after field v accepted given later
    have write : call.write (call.vf, field) = some v := by
      simp [VfCall.write, given]
    have has := sound.accepted call (by simp [accepted])
    rw [sound.value, accepted, List.map_append, List.map_cons,
      lastWrite_eq_of_last write (write_eq_none later), readVf_of_hasVf has]
    rfl
  · intro vf field never
    rw [sound.value, lastWrite_eq_none (write_eq_none never)]
    exact Option.map_id'
  · intro call e w run
    obtain ⟨_, _, world, -⟩ | ⟨ok, -⟩ := program_ends run
    · exact world
    · cases ok
  · intro call w run
    obtain ⟨_, error, -⟩ | ⟨-, -, -, world⟩ := program_ends run
    · cases error
    · exact ⟨_, world⟩
  · intro call w run vf field apart
    obtain ⟨_, error, -⟩ | ⟨-, has, -, rfl⟩ := program_ends run
    · cases error
    · by_cases same : vf = call.vf
      · rw [readVf_modifyVf (g := id) has (value_assign_of_none (apart same) _)]
        simp
      · rw [readVf_modifyVf (g := fun _ => _) has rfl]
        simp only [if_neg same]
        exact Option.map_id'

/-- An accepted call whose rates do not fit does not read back. -/
theorem fitsIn_of_readsBack (step : vfCallStep s call = some t) (reads : ReadsBack t) :
    call.FitsIn s.world := by
  intro below accepted
  obtain ⟨⟨r, w⟩, run, rfl⟩ := Option.map_eq_some_iff.1 step
  obtain ⟨-, -, -, refuse⟩ | ⟨rfl, has, -, rfl⟩ := program_ends run
  · exact absurd refuse (not_or.2 ⟨UInt32.not_le.2 below, accepted⟩)
  · have stored : ∀ field v, call.set.given field = some v →
        (call.set.assign (s.world.vfconfigs.getD call.vf.toInt.toNat .zero)).value field = v := by
      intro field v given
      have read : readVf (s.world.modifyVf call.vf call.set.assign) call.vf field = some v :=
        reads.last s.accepted call [] field v rfl given (by simp)
      rw [readVf_modifyVf (g := fun _ => _) has rfl, readVf_of_hasVf has, Option.map_some,
        if_pos rfl] at read
      exact Option.some.inj read
    unfold NdoSetVf.Fits
    split
    · rename_i min max rate
      rw [rate] at stored
      have minRead := VfValue.number.inj (stored .minTxRate _ rfl)
      have maxRead := VfValue.number.inj (stored .maxTxRate _ rfl)
      exact ⟨(rate_iff min).1 minRead, (rate_iff max).1 maxRead⟩
    · trivial

end Runs

/-- With an entry for each VF, no call goes wrong. -/
theorem VfSound.step (sound : VfSound s) (entries : EntriesForVfs s.start) (call : VfCall) :
    ∃ t, vfCallStep s call = some t := by
  have now : EntriesForVfs s.world := by
    refine ⟨?_, ?_⟩
    · rw [sound.dev]
      exact entries.small
    · rw [sound.dev, sound.length]
      exact entries.entries
  obtain ⟨r, w, run⟩ := (now.set call.set call.vf).exists
  exact ⟨s.record call (r, w), Option.map_eq_some_iff.2 ⟨_, run, rfl⟩⟩

theorem vfSound_reachable
    (reach : (vfCallSystem.guard fun s call => call.FitsIn s.world).Reachable s) : VfSound s := by
  refine TransitionSystem.Reachable.induct
    (M := vfCallSystem.guard fun s call => call.FitsIn s.world) (fun _ => vfSound_init) ?_ reach
  intro s call t _ sound step
  exact vfSound_step sound step.1 step.2

/-- In a sequence of calls whose accepted rates are in the range of the fields that store them,
every setting reads back, and the next call keeps that up exactly when it is such a call too.  When
each VF has an entry, there is a next state for every call. -/
theorem vf_settings_readBack (s : VfRun)
    (reach : (vfCallSystem.guard fun s call => call.FitsIn s.world).Reachable s) :
    ReadsBack s ∧
      (∀ call t, vfCallSystem.step s call t → (ReadsBack t ↔ call.FitsIn s.world)) ∧
      (EntriesForVfs s.start → ∀ call, ∃ t, vfCallSystem.step s call t) := by
  have sound := vfSound_reachable reach
  refine ⟨sound.readsBack, fun call t step => ⟨fitsIn_of_readsBack step, fun fits => ?_⟩,
    sound.step⟩
  exact (vfSound_step sound step fits).readsBack

/-- A device with two VFs. -/
def twoVfs : PortWorld where
  world := ⟨.loaded, .blank ⟨1, 1, false, 4, 2⟩⟩
  vfconfigs := List.replicate 4 .zero
  log := []
  noPhc := []

/-- The start of a sequence of calls. -/
def VfRun.begin (w : PortWorld) : VfRun := ⟨w, w, []⟩

theorem init_begin (w : PortWorld) : vfCallSystem.init (.begin w) := ⟨rfl, rfl⟩

/-- The rates of one VF and the link of the other are set, a VLAN is refused, and the first VF gets
other rates. -/
theorem vf_settings_readBack_two : ∃ s, ReadsBack s ∧ s.accepted.length = 3 ∧
    readVf s.world 0 .minTxRate = some (.number 65535) ∧
    readVf s.world 1 .linkState = some (.number 2) ∧ readVf s.world 1 .vlan = some (.number 0) := by
  have sound : ∀ call ∈ [⟨0, .rate 10 20⟩, ⟨1, .linkState 2⟩, ⟨1, .vlan 4096 0 0⟩,
      (⟨0, .rate 65535 65535⟩ : VfCall)], ∀ s t, vfCallStep s call = some t →
        (vfCallSystem.guard fun s call => call.FitsIn s.world).step s call t := by
    intro call mem s t step
    refine ⟨step, fun _ _ => ?_⟩
    simp only [List.mem_cons, List.not_mem_nil, or_false] at mem
    obtain rfl | rfl | rfl | rfl := mem
    · exact ⟨by decide, by decide⟩
    · trivial
    · trivial
    · exact ⟨by decide, by decide⟩
  have start : (vfCallSystem.guard fun s call => call.FitsIn s.world).Reachable (.begin twoVfs) :=
    .init (init_begin _)
  obtain ⟨s, reach, test⟩ := start.exists_of_follow _
    (fun s => s.accepted.length = 3 ∧ readVf s.world 0 .minTxRate = some (.number 65535) ∧
      readVf s.world 1 .linkState = some (.number 2) ∧ readVf s.world 1 .vlan = some (.number 0))
    sound (by decide)
  simp only [decide_eq_true_eq] at test
  exact ⟨s, (vf_settings_readBack s reach).1, test⟩

/-- A rate of 65536 is accepted and does not read back. -/
theorem vf_rate_truncated : ¬∀ s, vfCallSystem.Reachable s → ReadsBack s := by
  intro always
  have entries : EntriesForVfs twoVfs := ⟨by decide, by decide⟩
  obtain ⟨t, step⟩ := (vfSound_init (init_begin twoVfs)).step entries ⟨0, .rate 65536 0⟩
  have reach : vfCallSystem.Reachable t :=
    (TransitionSystem.Reachable.init (init_begin twoVfs)).step step
  have legacy : twoVfs.dev.eswMode ≠ .SWITCHDEV := by decide
  have fits := fitsIn_of_readsBack step (always t reach) (by decide) legacy
  exact absurd fits.1.2 (by decide)

end Netdevsim.Ports
