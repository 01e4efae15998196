import Netdevsim.Dpll.Core

/-!
# Netlink requests that set a pin

What a request changes of a pin is changed by callbacks of the drivers that registered the pin.  The
callbacks are given by the address of their table.  They work on a state of the drivers that the
core does not see: reading it leaves it as it is, and setting something may fail.
-/

namespace Netdevsim

/-! ## Drivers -/

/-- What a callback of `struct dpll_pin_ops` is called for: a pin and its device or its parent
pin. -/
structure PinArgs where
  pin : Ptr
  pinPriv : Ptr
  parent : Ptr
  parentPriv : Ptr
  deriving DecidableEq, Repr

/-- A callback that reads a value of the drivers' state. -/
abbrev Getter (δ α : Type) := PinArgs → δ → Except Errno α

/-- A callback that sets a value. -/
abbrev Setter (δ α : Type) := PinArgs → α → δ → Except Errno Unit × δ

/-- `struct dpll_pin_ops`: the callbacks that are there. -/
structure PinCallbacks (δ : Type) where
  frequencySet : Option (Setter δ UInt64)
  frequencyGet : Option (Getter δ UInt64)
  directionSet : Option (Setter δ UInt32)
  directionGet : Option (Getter δ UInt32)
  stateOnPinGet : Option (Getter δ UInt32)
  stateOnDpllGet : Option (Getter δ UInt32)
  stateOnPinSet : Option (Setter δ UInt32)
  stateOnDpllSet : Option (Setter δ UInt32)
  prioGet : Option (Getter δ UInt32)
  prioSet : Option (Setter δ UInt32)
  phaseOffsetGet : Option (Getter δ Int64)
  phaseAdjustGet : Option (Getter δ Int32)
  phaseAdjustSet : Option (Setter δ Int32)
  ffoGet : Option (Getter δ Int64)

/-- A call of one of the callbacks that a request to set a pin uses. -/
inductive PinOpsCall where
  | frequencyGet (args : PinArgs)
  | frequencySet (args : PinArgs) (freq : UInt64)
  | phaseAdjustGet (args : PinArgs)
  | phaseAdjustSet (args : PinArgs) (phaseAdj : Int32)
  | stateOnPinSet (args : PinArgs) (state : UInt32)
  | stateOnDpllSet (args : PinArgs) (state : UInt32)
  | prioSet (args : PinArgs) (prio : UInt32)
  | directionSet (args : PinArgs) (direction : UInt32)
  deriving DecidableEq, Repr

/-! ## Requests -/

/-- An attribute in a nest that names a parent. -/
inductive PinParentAttr where
  | parentId (id : UInt32)
  | direction (direction : UInt32)
  | prio (prio : UInt32)
  | state (state : UInt32)
  | other
  deriving DecidableEq, Repr

/-- An attribute of a request to set a pin. -/
inductive PinSetAttr where
  | frequency (freq : UInt64)
  | phaseAdjust (phaseAdj : Int32)
  | parentDevice (nest : List PinParentAttr)
  | parentPin (nest : List PinParentAttr)
  | other
  deriving DecidableEq, Repr

/-- The table that `nla_parse_nested` fills. -/
structure PinParentTb where
  parentId : Option UInt32
  direction : Option UInt32
  prio : Option UInt32
  state : Option UInt32
  deriving DecidableEq, Repr

/-- `nla_parse_nested`: the last attribute of a type counts. -/
def nlaParseNested (nest : List PinParentAttr) : PinParentTb :=
  nest.foldl (fun tb attr => match attr with
    | .parentId id => { tb with parentId := some id }
    | .direction direction => { tb with direction := some direction }
    | .prio prio => { tb with prio := some prio }
    | .state state => { tb with state := some state }
    | .other => tb) ⟨none, none, none, none⟩

/-- What is reported about a request: `struct netlink_ext_ack`. -/
structure Extack where
  msg : Option String
  badAttr : Option PinSetAttr
  deriving DecidableEq, Repr

/-- The state in which a request is served. -/
structure NlState (δ : Type) where
  kernel : KernelState
  driver : δ
  extack : Extack
  /-- The calls of callbacks so far. -/
  calls : List PinOpsCall

/-- The state in which a request arrives, with what fails in it. -/
def NlState.start {δ : Type} (kernel : KernelState) (faults : List (Option Errno)) (driver : δ) :
    NlState δ :=
  ⟨{ kernel with faults }, driver, ⟨none, none⟩, []⟩

abbrev NlM (δ α : Type) := Program (NlState δ) Errno α

open Program

section Requests

variable {δ α : Type}

/-- A part of the core that calls no callback whose result matters. -/
def onKernel (m : KernelM α) : NlM δ α := fun s =>
  (m.exec s.kernel).map fun out => (out.1, { s with kernel := out.2 })

/-- `NL_SET_ERR_MSG`, and `NL_SET_ERR_MSG_FMT`. -/
def nlSetErrMsg (msg : String) : NlM δ Unit :=
  modify fun s => { s with extack := { s.extack with msg := some msg } }

/-- `NL_SET_ERR_MSG_ATTR`. -/
def nlSetErrMsgAttr (attr : PinSetAttr) (msg : String) : NlM δ Unit :=
  modify fun s => { s with extack := ⟨some msg, some attr⟩ }

/-- A callback is called. -/
def callDriver (call : PinOpsCall) (callback : δ → Except Errno α × δ) : NlM δ α := do
  let s ← get
  set { s with driver := (callback s.driver).2, calls := s.calls ++ [call] }
  match (callback s.driver).1 with
  | .ok a => return a
  | .error e => throw e

/-- A callback that only reads is called. -/
def readDriver (call : PinOpsCall) (callback : δ → Except Errno α) : NlM δ α :=
  callDriver call fun d => (callback d, d)

/-- The arguments of a callback for a pin on a device. -/
def dpllPinArgs (dpll pin : Ptr) : KernelM PinArgs := do
  let pinPriv ← dpllPinOnDpllPriv dpll pin
  let priv ← dpllPriv dpll
  return ⟨pin, pinPriv, dpll, priv⟩

/-- `__dpll_pin_change_ntf`. -/
def _dpllPinChangeNtf (pin : Ptr) : NlM δ Unit := onKernel (dpllPinEventSend .change pin)

/-! ## Values of all devices at once -/

/-- A value that is set on all devices of a pin: the check of a new value, the callbacks, and the
texts of the errors. -/
structure PinSetting (δ α : Type) where
  supported : DpllPinProperties → α → Bool
  getter : PinCallbacks δ → Option (Getter δ α)
  setter : PinCallbacks δ → Option (Setter δ α)
  getCall : PinArgs → PinOpsCall
  setCall : PinArgs → α → PinOpsCall
  attr : α → PinSetAttr
  notSupported : String
  noCallback : String
  noOldValue : String
  failed : ℕ → String
  rollbackFailed : String

namespace PinSetting

variable (S : PinSetting δ α) (ops : Ptr → PinCallbacks δ)

/-- Both callbacks are there. -/
def checkCallbacks (ref : DpllPinRef) : NlM δ Unit := do
  let o ← onKernel (dpllPinOps ref)
  if (S.setter (ops o.addr)).isNone ∨ (S.getter (ops o.addr)).isNone then
    nlSetErrMsg S.noCallback
    throw .EOPNOTSUPP

/-- The value is set on one device. -/
def setOn (pin : Ptr) (value : α) (ref : DpllPinRef) : NlM δ Unit := do
  let o ← onKernel (dpllPinOps ref)
  let args ← onKernel (dpllPinArgs ref.target pin)
  match S.setter (ops o.addr) with
  | some setter => callDriver (S.setCall args value) (setter args value)
  | none => goWrong

/-- The value is read from one device. -/
def getFrom (pin : Ptr) (ref : DpllPinRef) : NlM δ α := do
  let o ← onKernel (dpllPinOps ref)
  let args ← onKernel (dpllPinArgs ref.target pin)
  match S.getter (ops o.addr) with
  | some getter => readDriver (S.getCall args) (getter args)
  | none => goWrong

/-- The loop after `rollback`, up to the device that failed. -/
def rollback (pin : Ptr) (old : α) (done : List DpllPinRef) : NlM δ Unit :=
  done.forM fun ref => do
    if !(← attempt (S.setOn ops pin old ref)) then nlSetErrMsg S.rollbackFailed

/-- The loop that sets the value on each device; it was set on those in `done` already. -/
def setLoop (pin : Ptr) (value old : α) (done : List DpllPinRef) : List DpllPinRef → NlM δ Unit
  | [] => return ()
  | ref :: rest => do
    let failed := do
      let d ← onKernel (derefDevice ref.target)
      nlSetErrMsg (S.failed d.id)
      S.rollback ops pin old done
    unwind failed (S.setOn ops pin value ref)
    setLoop pin value old (done ++ [ref]) rest

/-- The body of `dpll_pin_freq_set` and `dpll_pin_phase_adj_set`.  Without a device there is no
first reference to follow. -/
def set (pin : Ptr) (value : α) [DecidableEq α] : NlM δ Unit := do
  let p ← onKernel (derefPin pin)
  if !S.supported p.prop value then
    nlSetErrMsgAttr (S.attr value) S.notSupported
    throw .EINVAL
  p.dpllRefs.values.forM (S.checkCallbacks ops)
  match p.dpllRefs.values.head? with
  | none => goWrong
  | some ref =>
    let old ← unwind (nlSetErrMsg S.noOldValue) (S.getFrom ops pin ref)
    if value ≠ old then
      S.setLoop ops pin value old [] p.dpllRefs.values
      _dpllPinChangeNtf pin

end PinSetting

/-- `dpll_pin_is_freq_supported`, which takes 32 bits of the frequency. -/
def dpllPinIsFreqSupported (prop : DpllPinProperties) (freq : UInt32) : Bool :=
  prop.freqSupported.any fun range => range.1 ≤ freq.toUInt64 && freq.toUInt64 ≤ range.2

/-- The frequency. -/
def pinFrequency : PinSetting δ UInt64 where
  supported prop freq := dpllPinIsFreqSupported prop freq.toUInt32
  getter := PinCallbacks.frequencyGet
  setter := PinCallbacks.frequencySet
  getCall := .frequencyGet
  setCall := .frequencySet
  attr := .frequency
  notSupported := "frequency is not supported by the device"
  noCallback := "frequency set not supported by the device"
  noOldValue := "unable to get old frequency value"
  failed id := "frequency set failed for dpll_id:" ++ toString id
  rollbackFailed := "set frequency rollback failed"

/-- The phase adjustment. -/
def pinPhaseAdjust : PinSetting δ Int32 where
  supported prop phaseAdj := !(prop.phaseRange.2 < phaseAdj || phaseAdj < prop.phaseRange.1)
  getter := PinCallbacks.phaseAdjustGet
  setter := PinCallbacks.phaseAdjustSet
  getCall := .phaseAdjustGet
  setCall := .phaseAdjustSet
  attr := .phaseAdjust
  notSupported := "phase adjust value not supported"
  noCallback := "phase adjust not supported"
  noOldValue := "unable to get old phase adjust value"
  failed id := "phase adjust set failed for dpll_id:" ++ toString id
  rollbackFailed := "set phase adjust rollback failed"

variable (ops : Ptr → PinCallbacks δ)

/-- `dpll_pin_freq_set`. -/
def dpllPinFreqSet (pin : Ptr) (freq : UInt64) : NlM δ Unit := pinFrequency.set ops pin freq

/-- `dpll_pin_phase_adj_set`. -/
def dpllPinPhaseAdjSet (pin : Ptr) (phaseAdj : Int32) : NlM δ Unit :=
  pinPhaseAdjust.set ops pin phaseAdj

/-! ## A pin on one device -/

def DPLL_PIN_CAPABILITIES_DIRECTION_CAN_CHANGE : UInt64 := 1
def DPLL_PIN_CAPABILITIES_PRIORITY_CAN_CHANGE : UInt64 := 2
def DPLL_PIN_CAPABILITIES_STATE_CAN_CHANGE : UInt64 := 4

/-- The pin has a capability, or the request is refused with the text. -/
def needCapability (pin : Ptr) (capability : UInt64) (text : String) : NlM δ Unit := do
  let p ← onKernel (derefPin pin)
  if capability &&& p.prop.capabilities = 0 then
    nlSetErrMsg text
    throw .EOPNOTSUPP

/-- The body of `dpll_pin_state_set`, `dpll_pin_prio_set` and `dpll_pin_direction_set`. -/
def dpllPinSetOnDpll (capability : UInt64) (text : String)
    (setter : PinCallbacks δ → Option (Setter δ UInt32)) (call : PinArgs → UInt32 → PinOpsCall)
    (dpll pin : Ptr) (value : UInt32) : NlM δ Unit := do
  needCapability pin capability text
  let p ← onKernel (derefPin pin)
  let d ← onKernel (derefDevice dpll)
  match p.dpllRefs.load d.id with
  | none => goWrong
  | some ref =>
    let o ← onKernel (dpllPinOps ref)
    match setter (ops o.addr) with
    | none => throw .EOPNOTSUPP
    | some setter =>
      let args ← onKernel (dpllPinArgs dpll pin)
      callDriver (call args value) (setter args value)
      _dpllPinChangeNtf pin

/-- `dpll_pin_state_set`. -/
def dpllPinStateSet : Ptr → Ptr → UInt32 → NlM δ Unit :=
  dpllPinSetOnDpll ops DPLL_PIN_CAPABILITIES_STATE_CAN_CHANGE "state changing is not allowed"
    PinCallbacks.stateOnDpllSet .stateOnDpllSet

/-- `dpll_pin_prio_set`. -/
def dpllPinPrioSet : Ptr → Ptr → UInt32 → NlM δ Unit :=
  dpllPinSetOnDpll ops DPLL_PIN_CAPABILITIES_PRIORITY_CAN_CHANGE "prio changing is not allowed"
    PinCallbacks.prioSet .prioSet

/-- `dpll_pin_direction_set`. -/
def dpllPinDirectionSet : Ptr → Ptr → UInt32 → NlM δ Unit :=
  dpllPinSetOnDpll ops DPLL_PIN_CAPABILITIES_DIRECTION_CAN_CHANGE
    "direction changing is not allowed" PinCallbacks.directionSet .directionSet

/-! ## A pin on a parent pin -/

/-- The state is set on the parent pin, for one device of it. -/
def stateOnPinSet (pin parent : Ptr) (parentRef : DpllPinRef) (state : UInt32)
    (dpllRef : DpllPinRef) : NlM δ Unit := do
  let o ← onKernel (dpllPinOps parentRef)
  match (ops o.addr).stateOnPinSet with
  | none => throw .EOPNOTSUPP
  | some setter =>
    let pinPriv ← onKernel (dpllPinOnPinPriv parent pin)
    let parentPriv ← onKernel (dpllPinOnDpllPriv dpllRef.target parent)
    let args : PinArgs := ⟨pin, pinPriv, parent, parentPriv⟩
    callDriver (.stateOnPinSet args state) (setter args state)

/-- `dpll_pin_on_pin_state_set`. -/
def dpllPinOnPinStateSet (pin : Ptr) (parentIdx state : UInt32) : NlM δ Unit := do
  needCapability pin DPLL_PIN_CAPABILITIES_STATE_CAN_CHANGE "state changing is not allowed"
  let s ← get
  match s.kernel.pinXa.load parentIdx.toNat with
  | none => throw .EINVAL
  | some parent =>
    let p ← onKernel (derefPin pin)
    let par ← onKernel (derefPin parent)
    match p.parentRefs.load par.pinIdx.toNat with
    | none => throw .EINVAL
    | some parentRef =>
      par.dpllRefs.values.forM (stateOnPinSet ops pin parent parentRef state)
      _dpllPinChangeNtf pin

/-! ## Whole requests -/

/-- Part of a request that is served if it is there. -/
def ifGiven (value : Option UInt32) (serve : UInt32 → NlM δ Unit) : NlM δ Unit :=
  match value with
  | some value => serve value
  | none => return ()

/-- `dpll_pin_parent_device_set`. -/
def dpllPinParentDeviceSet (pin : Ptr) (nest : List PinParentAttr) : NlM δ Unit := do
  let tb := nlaParseNested nest
  match tb.parentId with
  | none =>
    nlSetErrMsg "device parent id expected"
    throw .EINVAL
  | some pdpllIdx =>
    let s ← get
    match s.kernel.deviceXa.load pdpllIdx.toNat with
    | none =>
      nlSetErrMsg "parent device not found"
      throw .EINVAL
    | some dpll =>
      let p ← onKernel (derefPin pin)
      let d ← onKernel (derefDevice dpll)
      if (p.dpllRefs.load d.id).isNone then
        nlSetErrMsg "pin not connected to given parent device"
        throw .EINVAL
      ifGiven tb.state (dpllPinStateSet ops dpll pin)
      ifGiven tb.prio (dpllPinPrioSet ops dpll pin)
      ifGiven tb.direction (dpllPinDirectionSet ops dpll pin)

/-- `dpll_pin_parent_pin_set`. -/
def dpllPinParentPinSet (pin : Ptr) (nest : List PinParentAttr) : NlM δ Unit := do
  let tb := nlaParseNested nest
  match tb.parentId with
  | none =>
    nlSetErrMsg "device parent id expected"
    throw .EINVAL
  | some ppinIdx => ifGiven tb.state (dpllPinOnPinStateSet ops pin ppinIdx)

/-- An attribute of a request is served. -/
def dpllPinSetAttr (pin : Ptr) : PinSetAttr → NlM δ Unit
  | .frequency freq => dpllPinFreqSet ops pin freq
  | .phaseAdjust phaseAdj => dpllPinPhaseAdjSet ops pin phaseAdj
  | .parentDevice nest => dpllPinParentDeviceSet ops pin nest
  | .parentPin nest => dpllPinParentPinSet ops pin nest
  | .other => return ()

/-- `dpll_pin_set_from_nlattr`. -/
def dpllPinSetFromNlattr (pin : Ptr) (attrs : List PinSetAttr) : NlM δ Unit :=
  attrs.forM (dpllPinSetAttr ops pin)

/-- `dpll_pin_pre_doit`, given the id of the request. -/
def dpllPinPreDoit (id : Option UInt32) : NlM δ Ptr := do
  match id with
  | none => throw .EINVAL
  | some id =>
    let s ← get
    match s.kernel.pinXa.load id.toNat with
    | some pin =>
      if ← onKernel (dpllPinAvailable pin) then
        return pin
      else
        nlSetErrMsg "pin not found"
        throw .ENODEV
    | none =>
      nlSetErrMsg "pin not found"
      throw .ENODEV

/-- A request to set a pin: `dpll_pin_pre_doit` and `dpll_nl_pin_set_doit`. -/
def dpllNlPinSetDoit (id : Option UInt32) (attrs : List PinSetAttr) : NlM δ Unit := do
  let pin ← dpllPinPreDoit id
  dpllPinSetFromNlattr ops pin attrs

end Requests

end Netdevsim
