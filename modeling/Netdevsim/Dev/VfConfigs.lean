import Netdevsim.Dev.PortLog
import Netdevsim.Lib.Total

/-!
# The VF configurations

The operations that read and change an entry of `vfconfigs`: those of a net device, which are given
the index of a VF as an `int`, and the setters of the rate of a port, which compute it from the
index of the port.  An access outside the array goes wrong.
-/

namespace Netdevsim.Ports

open Program

/-! ## Data -/

def ETH_ALEN : ℕ := 6

/-- A hardware address. -/
abbrev MacAddr := Vector UInt8 ETH_ALEN

/-- `is_multicast_ether_addr`. -/
def isMulticastEtherAddr (mac : MacAddr) : Prop := mac.toList.headD 0 &&& 1 ≠ 0

instance (mac : MacAddr) : Decidable (isMulticastEtherAddr mac) :=
  inferInstanceAs (Decidable (_ ≠ _))

def IFLA_VF_LINK_STATE_AUTO : Int32 := 0
def IFLA_VF_LINK_STATE_ENABLE : Int32 := 1
def IFLA_VF_LINK_STATE_DISABLE : Int32 := 2

/-- `struct ifla_vf_info`. -/
structure IflaVfInfo where
  vf : UInt32
  mac : Bytes
  vlan : UInt32
  qos : UInt32
  spoofchk : Bool
  linkstate : UInt32
  minTxRate : UInt32
  maxTxRate : UInt32
  rssQueryEn : Bool
  trusted : Bool
  vlanProto : UInt16
  deriving DecidableEq, Repr

/-! ## Accesses -/

/-- The place of `vfconfigs[i]`, if there is one. -/
def vfconfigsIndex (i : Int32) : PortM ℕ := do
  let w ← get
  if 0 ≤ i.toInt ∧ i.toInt < w.vfconfigs.length then pure i.toInt.toNat else goWrong

/-- The entry `vfconfigs[i]`. -/
def getVfconfig (i : Int32) : PortM NsimVfConfig := do
  let index ← vfconfigsIndex i
  return (← get).vfconfigs.getD index .zero

/-- An assignment to fields of `vfconfigs[i]`. -/
def modifyVfconfig (i : Int32) (f : NsimVfConfig → NsimVfConfig) : PortM Unit := do
  let index ← vfconfigsIndex i
  modify fun w => { w with vfconfigs := w.vfconfigs.modify index f }

/-- What the operations of a net device do with the VF `vf`: the comparison with the number of VFs
is one of unsigned numbers. -/
def setVf (vf : Int32) (refused : Prop) [Decidable refused] (f : NsimVfConfig → NsimVfConfig) :
    PortM Unit := do
  let dev ← getDev
  failIf (dev.busDev.numVfs ≤ vf.toUInt32 ∨ refused) .EINVAL
  modifyVfconfig vf f

/-! ## The operations of a net device -/

/-- `nsim_set_vf_mac`. -/
def nsimSetVfMac (vf : Int32) (mac : MacAddr) : PortM Unit :=
  setVf vf (isMulticastEtherAddr mac) fun c => { c with vfMac := mac.toList }

/-- `nsim_set_vf_vlan`. -/
def nsimSetVfVlan (vf : Int32) (vlan : UInt16) (qos : UInt8) (vlanProto : UInt16) : PortM Unit :=
  setVf vf (4095 < vlan ∨ 7 < qos) fun c => { c with vlan, qos := qos.toUInt16, vlanProto }

/-- `nsim_set_vf_rate`. -/
def nsimSetVfRate (vf : Int32) (min max : Int32) : PortM Unit := do
  let dev ← getDev
  failIf (dev.eswMode = .SWITCHDEV) .EOPNOTSUPP
  setVf vf False fun c => { c with
    minTxRate := min.toUInt32.toUInt16, maxTxRate := max.toUInt32.toUInt16 }

/-- `nsim_set_vf_spoofchk`. -/
def nsimSetVfSpoofchk (vf : Int32) (val : Bool) : PortM Unit :=
  setVf vf False fun c => { c with spoofchkEnabled := val }

/-- `nsim_set_vf_rss_query_en`. -/
def nsimSetVfRssQueryEn (vf : Int32) (val : Bool) : PortM Unit :=
  setVf vf False fun c => { c with rssQueryEnabled := val }

/-- `nsim_set_vf_trust`. -/
def nsimSetVfTrust (vf : Int32) (val : Bool) : PortM Unit :=
  setVf vf False fun c => { c with trusted := val }

/-- `nsim_set_vf_link_state`. -/
def nsimSetVfLinkState (vf : Int32) (state : Int32) : PortM Unit :=
  setVf vf (state ≠ IFLA_VF_LINK_STATE_AUTO ∧ state ≠ IFLA_VF_LINK_STATE_ENABLE ∧
    state ≠ IFLA_VF_LINK_STATE_DISABLE) fun c => { c with linkState := state }

/-- `nsim_get_vf_config`. -/
def nsimGetVfConfig (vf : Int32) : PortM IflaVfInfo := do
  let dev ← getDev
  failIf (dev.busDev.numVfs ≤ vf.toUInt32) .EINVAL
  let c ← getVfconfig vf
  return {
    vf := vf.toUInt32
    mac := c.vfMac
    vlan := c.vlan.toUInt32
    qos := c.qos.toUInt32
    spoofchk := c.spoofchkEnabled
    linkstate := c.linkState.toUInt32
    minTxRate := c.minTxRate.toUInt32
    maxTxRate := c.maxTxRate.toUInt32
    rssQueryEn := c.rssQueryEnabled
    trusted := c.trusted
    vlanProto := c.vlanProto }

/-- A call of one of the `ndo_set_vf` operations. -/
inductive NdoSetVf where
  | mac (addr : MacAddr) | vlan (id : UInt16) (qos : UInt8) (vlanProto : UInt16)
  | rate (min max : Int32) | spoofchk (val : Bool) | rssQueryEn (val : Bool) | trust (val : Bool)
  | linkState (state : Int32)

/-- What is run for the VF `vf`. -/
def NdoSetVf.program (vf : Int32) : NdoSetVf → PortM Unit
  | .mac addr => nsimSetVfMac vf addr
  | .vlan id qos vlanProto => nsimSetVfVlan vf id qos vlanProto
  | .rate min max => nsimSetVfRate vf min max
  | .spoofchk val => nsimSetVfSpoofchk vf val
  | .rssQueryEn val => nsimSetVfRssQueryEn vf val
  | .trust val => nsimSetVfTrust vf val
  | .linkState state => nsimSetVfLinkState vf state

/-! ## The setters of rates -/

def NSIM_LINK_SPEED_MAX : UInt64 := 5000
def NSIM_LINK_SPEED_UNIT : UInt64 := 125000

/-- `nsim_rate_bytes_to_units`. -/
def nsimRateBytesToUnits (rate : UInt64) : PortM UInt64 := do
  failIf (rate % NSIM_LINK_SPEED_UNIT ≠ 0) .EINVAL
  failIf (NSIM_LINK_SPEED_MAX < rate / NSIM_LINK_SPEED_UNIT) .EINVAL
  return rate / NSIM_LINK_SPEED_UNIT

/-- `nsim_leaf_tx_share_set`, for the port with the index `portIndex`. -/
def nsimLeafTxShareSet (portIndex : UInt32) (txShare : UInt64) : PortM Unit := do
  let units ← nsimRateBytesToUnits txShare
  modifyVfconfig (nsimDevPortIndexToVfIndex portIndex).toInt32 fun c =>
    { c with minTxRate := units.toUInt16 }

/-- `nsim_leaf_tx_max_set`. -/
def nsimLeafTxMaxSet (portIndex : UInt32) (txMax : UInt64) : PortM Unit := do
  let units ← nsimRateBytesToUnits txMax
  modifyVfconfig (nsimDevPortIndexToVfIndex portIndex).toInt32 fun c =>
    { c with maxTxRate := units.toUInt16 }

/-! ## Accesses within the array -/

section Accesses

variable {w : PortWorld} {i vf : Int32} {n : UInt32} {refused : Prop} [Decidable refused]
  {f : NsimVfConfig → NsimVfConfig}

/-- An `int` below an unsigned bound that is itself below `2 ^ 31` is not negative. -/
theorem toInt_of_toUInt32_lt (small : n.toNat < 2 ^ 31) (below : vf.toUInt32 < n) :
    vf.toInt = vf.toUInt32.toNat := by
  have lt : vf.toUInt32.toNat < n.toNat := UInt32.lt_iff_toNat_lt.1 below
  have whole : vf.toInt = vf.toUInt32.toBitVec.toInt := rfl
  have nat : vf.toUInt32.toNat = vf.toUInt32.toBitVec.toNat := rfl
  rw [whole, nat, BitVec.toInt_eq_toNat_of_lt]
  omega

/-- The VFs have entries, at places that an `int` can name. -/
structure EntriesForVfs (w : PortWorld) : Prop where
  small : w.dev.busDev.numVfs.toNat < 2 ^ 31
  entries : w.dev.busDev.numVfs.toNat ≤ w.vfconfigs.length

theorem EntriesForVfs.index (entries : EntriesForVfs w) (below : i.toUInt32 < w.dev.busDev.numVfs) :
    0 ≤ i.toInt ∧ i.toInt < w.vfconfigs.length := by
  have value := toInt_of_toUInt32_lt entries.small below
  have lt := UInt32.lt_iff_toNat_lt.1 below
  have all := entries.entries
  omega

theorem twp_vfconfigsIndex (inside : 0 ≤ i.toInt ∧ i.toInt < w.vfconfigs.length)
    {Q : ℕ → PortWorld → Prop} {E : Errno → PortWorld → Prop} (rest : Q i.toInt.toNat w) :
    twp (vfconfigsIndex i) Q E w := by
  unfold vfconfigsIndex
  rw [twp_bind, twp_get, if_pos inside]
  exact rest

theorem completes_modifyVfconfig (inside : 0 ≤ i.toInt ∧ i.toInt < w.vfconfigs.length) :
    Completes (modifyVfconfig i f) w := by
  unfold modifyVfconfig Completes
  rw [twp_bind]
  exact twp_vfconfigsIndex inside trivial

/-- An access goes wrong outside the array, and only there. -/
theorem completes_modifyVfconfig_iff :
    Completes (modifyVfconfig i f) w ↔ 0 ≤ i.toInt ∧ i.toInt < w.vfconfigs.length := by
  refine ⟨fun completes => ?_, completes_modifyVfconfig⟩
  by_contra outside
  have wrong : (modifyVfconfig i f).exec w = none := by
    unfold modifyVfconfig vfconfigsIndex
    rw [exec_bind]
    rw [exec_bind, show (get : PortM PortWorld).exec w = some (.ok w, w) from rfl]
    dsimp only
    rw [if_neg outside]
    rfl
  obtain ⟨result, t, run⟩ := completes.exists
  rw [wrong] at run
  cases run

theorem completes_setVf (entries : EntriesForVfs w) : Completes (setVf vf refused f) w := by
  unfold setVf Completes
  rw [twp_bind]
  show twp (failIf _ _ >>= _) _ _ w
  rw [twp_bind, twp_failIf]
  refine ⟨fun _ => trivial, fun accepted => ?_⟩
  obtain ⟨below, -⟩ := not_or.1 accepted
  exact completes_modifyVfconfig (entries.index (UInt32.not_le.1 below))

/-- Whatever VF is named, the operations stay within the array. -/
theorem EntriesForVfs.set (entries : EntriesForVfs w) (call : NdoSetVf) (vf : Int32) :
    Completes (call.program vf) w := by
  cases call with
  | rate min max =>
    unfold NdoSetVf.program nsimSetVfRate Completes
    rw [twp_bind]
    show twp (failIf _ _ >>= _) _ _ w
    rw [twp_bind, twp_failIf]
    exact ⟨fun _ => trivial, fun _ => completes_setVf entries⟩
  | _ => exact completes_setVf entries

theorem EntriesForVfs.get (entries : EntriesForVfs w) (vf : Int32) :
    Completes (nsimGetVfConfig vf) w := by
  unfold nsimGetVfConfig Completes
  rw [twp_bind]
  show twp (failIf _ _ >>= _) _ _ w
  rw [twp_bind, twp_failIf]
  refine ⟨fun _ => trivial, fun below => ?_⟩
  unfold getVfconfig
  rw [twp_bind, twp_bind]
  exact twp_vfconfigsIndex (entries.index (UInt32.not_le.1 below)) trivial

theorem completes_nsimRateBytesToUnits {rate : UInt64} {g : UInt64 → PortM Unit}
    (rest : ∀ units, Completes (g units) w) :
    Completes (nsimRateBytesToUnits rate >>= g) w := by
  unfold nsimRateBytesToUnits Completes
  rw [twp_bind, twp_bind, twp_failIf]
  refine ⟨fun _ => trivial, fun _ => ?_⟩
  rw [twp_bind, twp_failIf]
  exact ⟨fun _ => trivial, fun _ => rest _⟩

/-- The rates of a VF port are within the array as long as its VF exists. -/
theorem EntriesForVfs.rates (entries : EntriesForVfs w) {portIndex : UInt32}
    (exists' : nsimDevPortIndexToVfIndex portIndex < w.dev.busDev.numVfs) (rate : UInt64) :
    Completes (nsimLeafTxShareSet portIndex rate) w ∧
      Completes (nsimLeafTxMaxSet portIndex rate) w := by
  have index : 0 ≤ (nsimDevPortIndexToVfIndex portIndex).toInt32.toInt ∧
      (nsimDevPortIndexToVfIndex portIndex).toInt32.toInt < w.vfconfigs.length :=
    entries.index exists'
  refine ⟨?_, ?_⟩
  · exact completes_nsimRateBytesToUnits fun _ => completes_modifyVfconfig index
  · exact completes_nsimRateBytesToUnits fun _ => completes_modifyVfconfig index

end Accesses

end Netdevsim.Ports
