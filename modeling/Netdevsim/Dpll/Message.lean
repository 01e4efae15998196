import Netdevsim.Dpll.IdGet
import Netdevsim.Lib.Writer

/-!
# Messages about devices and pins

What the core tells of a device or a pin is written attribute after attribute to a buffer of limited
size, and much of it is asked of the drivers.  A message has the attributes in a flat order: a nest
goes on to its end.  The sender, the sequence number and the flags are the same in all messages of a
dump and are left out.
-/

namespace Netdevsim

open Program Writing

/-! ## Buffers -/

/-- The types of attributes. -/
inductive NlaType where
  | DPLL_A_ID | DPLL_A_MODULE_NAME | DPLL_A_CLOCK_ID | DPLL_A_MODE | DPLL_A_MODE_SUPPORTED
  | DPLL_A_LOCK_STATUS | DPLL_A_LOCK_STATUS_ERROR | DPLL_A_TEMP | DPLL_A_TYPE
  | DPLL_A_PIN_ID | DPLL_A_PIN_PARENT_ID | DPLL_A_PIN_MODULE_NAME | DPLL_A_PIN_CLOCK_ID
  | DPLL_A_PIN_BOARD_LABEL | DPLL_A_PIN_PANEL_LABEL | DPLL_A_PIN_PACKAGE_LABEL | DPLL_A_PIN_TYPE
  | DPLL_A_PIN_DIRECTION | DPLL_A_PIN_FREQUENCY | DPLL_A_PIN_FREQUENCY_SUPPORTED
  | DPLL_A_PIN_FREQUENCY_MIN | DPLL_A_PIN_FREQUENCY_MAX | DPLL_A_PIN_PRIO | DPLL_A_PIN_STATE
  | DPLL_A_PIN_CAPABILITIES | DPLL_A_PIN_PARENT_DEVICE | DPLL_A_PIN_PARENT_PIN
  | DPLL_A_PIN_PHASE_ADJUST_MIN | DPLL_A_PIN_PHASE_ADJUST_MAX | DPLL_A_PIN_PHASE_ADJUST
  | DPLL_A_PIN_PHASE_OFFSET | DPLL_A_PIN_FRACTIONAL_FREQUENCY_OFFSET
  deriving DecidableEq, Repr

/-- The contents of an attribute. -/
inductive NlaData where
  | u32 (value : UInt32)
  | s32 (value : Int32)
  | u64 (value : UInt64)
  | s64 (value : Int64)
  | string (text : Bytes)
  deriving DecidableEq, Repr

/-- The length of the contents.  A string ends with a zero byte. -/
def NlaData.len : NlaData → ℕ
  | .u32 _ | .s32 _ => 4
  | .u64 _ | .s64 _ => 8
  | .string text => text.length + 1

inductive DpllCmd where
  | DPLL_CMD_DEVICE_GET | DPLL_CMD_PIN_GET
  deriving DecidableEq, Repr

/-- A part of a buffer: the start of a message, an attribute, the start of a nest, and the ends of
nests and messages. -/
inductive NlToken where
  | msg (cmd : DpllCmd)
  | attr (type : NlaType) (data : NlaData)
  | nest (type : NlaType)
  | nestEnd
  | msgEnd
  deriving DecidableEq, Repr

def NLMSG_HDRLEN : ℕ := 16
def GENL_HDRLEN : ℕ := 4
def NLA_HDRLEN : ℕ := 4

/-- `nla_total_size`: the length with the header, rounded up to a multiple of 4.  Attributes of 64
bits are not padded on machines that can read them anywhere. -/
def nlaTotalSize (payload : ℕ) : ℕ := (NLA_HDRLEN + payload + 3) / 4 * 4

def NlToken.size : NlToken → ℕ
  | .msg _ => NLMSG_HDRLEN + GENL_HDRLEN
  | .attr _ data => nlaTotalSize data.len
  | .nest _ => nlaTotalSize 0
  | .nestEnd | .msgEnd => 0

/-! ## Drivers -/

/-- What a callback of `struct dpll_device_ops` is called for. -/
structure DeviceArgs where
  dpll : Ptr
  dpllPriv : Ptr
  deriving DecidableEq, Repr

/-- `struct dpll_device_ops`: the callbacks that are there.  A build without errors of the lock
status has the error 0 in all of them. -/
structure DeviceCallbacks (δ : Type) where
  modeGet : Option (DeviceArgs → δ → Except Errno UInt32)
  lockStatusGet : Option (DeviceArgs → δ → Except Errno (UInt32 × UInt32))
  tempGet : Option (DeviceArgs → δ → Except Errno Int32)

/-- What is read while a message is written. -/
structure MsgEnv (δ : Type) where
  kernel : KernelState
  driver : δ

abbrev MsgM (δ α : Type) := Program (Writing (MsgEnv δ) NlToken) Errno α

/-- The drivers and modules that a message tells of. -/
structure MsgSource (δ : Type) where
  /-- The names of the modules. -/
  names : Ptr → Bytes
  devOps : Ptr → DeviceCallbacks δ
  pinOps : Ptr → PinCallbacks δ

section Messages

variable {δ α : Type}

/-- A part of the core that only reads. -/
def readKernel (m : KernelM α) : MsgM δ α := fun s => (m.exec s.env.kernel).map fun out => (out.1, s)

/-- A callback that reads is called. -/
def readCallback (callback : δ → Except Errno α) : MsgM δ α := fun s =>
  some (callback s.env.driver, s)

/-- `nla_put`. -/
def nlaPut (type : NlaType) (data : NlaData) : MsgM δ Unit :=
  put NlToken.size .EMSGSIZE (.attr type data)

/-- `nla_put_sint`. -/
def nlaPutSint (type : NlaType) (value : Int64) : MsgM δ Unit :=
  if value.toInt32.toInt64 = value then nlaPut type (.s32 value.toInt32) else nlaPut type (.s64 value)

/-- A string that is not written if it is not there. -/
def nlaPutString (type : NlaType) (text : Option Bytes) : MsgM δ Unit :=
  match text with
  | some text => nlaPut type (.string text)
  | none => pure ()

/-- `nla_nest_start`. -/
def nlaNestStart (type : NlaType) : MsgM δ Unit := put NlToken.size .EMSGSIZE (.nest type)

/-- `nla_nest_end`. -/
def nlaNestEnd : MsgM δ Unit := close .nestEnd

/-- `nla_nest_cancel`, given where the nest started. -/
def nlaNestCancel (start : ℕ) : MsgM δ Unit := trim start

/-- A nest, and what is done when something in it fails. -/
def nested (type : NlaType) (failed : ℕ → MsgM δ Unit) (body : MsgM δ Unit) : MsgM δ Unit :=
  bracket (nlaNestStart type) .nestEnd failed body

namespace MsgSource

variable (src : MsgSource δ)

/-! ### Devices -/

/-- `dpll_msg_add_dev_handle`. -/
def dpllMsgAddDevHandle (d : DpllDevice) : MsgM δ Unit :=
  nlaPut .DPLL_A_ID (.u32 (UInt32.ofNat d.id))

/-- A callback of a device that is called with the private data of its first registration. -/
def dpllMsgAddDevValue (getter : DeviceCallbacks δ → Option (DeviceArgs → δ → Except Errno α))
    (missing : MsgM δ Unit) (add : α → MsgM δ Unit) (dpll : Ptr) : MsgM δ Unit := do
  let o ← readKernel (dpllDeviceOps dpll)
  match getter (src.devOps o.addr) with
  | none => missing
  | some get =>
    let priv ← readKernel (dpllPriv dpll)
    let value ← readCallback (get ⟨dpll, priv⟩)
    add value

/-- `dpll_msg_add_mode`, which does not ask whether the callback is there. -/
def dpllMsgAddMode : Ptr → MsgM δ Unit :=
  dpllMsgAddDevValue src DeviceCallbacks.modeGet goWrong fun mode => nlaPut .DPLL_A_MODE (.u32 mode)

/-- `dpll_msg_add_mode_supported`. -/
def dpllMsgAddModeSupported : Ptr → MsgM δ Unit :=
  dpllMsgAddDevValue src DeviceCallbacks.modeGet goWrong fun mode =>
    nlaPut .DPLL_A_MODE_SUPPORTED (.u32 mode)

def DPLL_LOCK_STATUS_UNLOCKED : UInt32 := 1
def DPLL_LOCK_STATUS_HOLDOVER : UInt32 := 4

/-- `dpll_msg_add_lock_status`. -/
def dpllMsgAddLockStatus : Ptr → MsgM δ Unit :=
  dpllMsgAddDevValue src DeviceCallbacks.lockStatusGet goWrong fun (status, statusError) => do
    nlaPut .DPLL_A_LOCK_STATUS (.u32 status)
    if statusError ≠ 0 ∧
        (status = DPLL_LOCK_STATUS_UNLOCKED ∨ status = DPLL_LOCK_STATUS_HOLDOVER) then
      nlaPut .DPLL_A_LOCK_STATUS_ERROR (.u32 statusError)

/-- `dpll_msg_add_temp`. -/
def dpllMsgAddTemp : Ptr → MsgM δ Unit :=
  dpllMsgAddDevValue src DeviceCallbacks.tempGet (pure ()) fun temp => nlaPut .DPLL_A_TEMP (.s32 temp)

/-- `dpll_device_get_one`. -/
def dpllDeviceGetOne (dpll : Ptr) : MsgM δ Unit := do
  let d ← readKernel (derefDevice dpll)
  dpllMsgAddDevHandle d
  nlaPutString .DPLL_A_MODULE_NAME (moduleName src.names d.module)
  nlaPut .DPLL_A_CLOCK_ID (.u64 d.clockId)
  dpllMsgAddTemp src dpll
  dpllMsgAddLockStatus src dpll
  dpllMsgAddMode src dpll
  dpllMsgAddModeSupported src dpll
  nlaPut .DPLL_A_TYPE (.u32 (UInt32.ofNat d.type))

/-! ### Pins -/

/-- `dpll_msg_add_dev_parent_handle`. -/
def dpllMsgAddDevParentHandle (id : ℕ) : MsgM δ Unit :=
  nlaPut .DPLL_A_PIN_PARENT_ID (.u32 (UInt32.ofNat id))

/-- `dpll_msg_add_pin_handle`. -/
def dpllMsgAddPinHandle (p : DpllPin) : MsgM δ Unit :=
  nlaPut .DPLL_A_PIN_ID (.u32 (UInt32.ofNat p.id))

/-- A callback of a pin on a device. -/
def dpllMsgAddPinValue (getter : PinCallbacks δ → Option (Getter δ α)) (missing : MsgM δ Unit)
    (add : Except Errno α → MsgM δ Unit) (pin : Ptr) (ref : DpllPinRef) : MsgM δ Unit := do
  let o ← readKernel (dpllPinOps ref)
  match getter (src.pinOps o.addr) with
  | none => missing
  | some get =>
    let args ← readKernel (dpllPinArgs ref.target pin)
    let answer ← readCallback fun driver => .ok (get args driver)
    add answer

/-- What is written if the callback succeeds. -/
def ifOk (add : α → MsgM δ Unit) : Except Errno α → MsgM δ Unit
  | .ok value => add value
  | .error e => throw e

/-- `dpll_msg_add_pin_prio`. -/
def dpllMsgAddPinPrio : Ptr → DpllPinRef → MsgM δ Unit :=
  dpllMsgAddPinValue src PinCallbacks.prioGet (pure ()) <| ifOk fun prio =>
    nlaPut NlaType.DPLL_A_PIN_PRIO (.u32 prio)

/-- `dpll_msg_add_pin_on_dpll_state`. -/
def dpllMsgAddPinOnDpllState : Ptr → DpllPinRef → MsgM δ Unit :=
  dpllMsgAddPinValue src PinCallbacks.stateOnDpllGet (pure ()) <| ifOk fun state =>
    nlaPut .DPLL_A_PIN_STATE (.u32 state)

/-- `dpll_msg_add_pin_direction`, which does not ask whether the callback is there. -/
def dpllMsgAddPinDirection : Ptr → DpllPinRef → MsgM δ Unit :=
  dpllMsgAddPinValue src PinCallbacks.directionGet goWrong <| ifOk fun direction =>
    nlaPut .DPLL_A_PIN_DIRECTION (.u32 direction)

/-- `dpll_msg_add_pin_phase_adjust`. -/
def dpllMsgAddPinPhaseAdjust : Ptr → DpllPinRef → MsgM δ Unit :=
  dpllMsgAddPinValue src PinCallbacks.phaseAdjustGet (pure ()) <| ifOk fun phaseAdjust =>
    nlaPut .DPLL_A_PIN_PHASE_ADJUST (.s32 phaseAdjust)

/-- `dpll_msg_add_phase_offset`. -/
def dpllMsgAddPhaseOffset : Ptr → DpllPinRef → MsgM δ Unit :=
  dpllMsgAddPinValue src PinCallbacks.phaseOffsetGet (pure ()) <| ifOk fun phaseOffset =>
    nlaPut .DPLL_A_PIN_PHASE_OFFSET (.s64 phaseOffset)

/-- `dpll_msg_add_ffo`.  That there is no offset at the moment is no error. -/
def dpllMsgAddFfo : Ptr → DpllPinRef → MsgM δ Unit :=
  dpllMsgAddPinValue src PinCallbacks.ffoGet (pure ()) fun
    | .ok ffo => nlaPutSint .DPLL_A_PIN_FRACTIONAL_FREQUENCY_OFFSET ffo
    | .error .ENODATA => pure ()
    | .error e => throw e

/-- `dpll_msg_add_pin_freq`. -/
def dpllMsgAddPinFreq (p : DpllPin) : Ptr → DpllPinRef → MsgM δ Unit :=
  dpllMsgAddPinValue src PinCallbacks.frequencyGet (pure ()) <| ifOk fun freq => do
    nlaPut .DPLL_A_PIN_FREQUENCY (.u64 freq)
    p.prop.freqSupported.forM fun range =>
      nested .DPLL_A_PIN_FREQUENCY_SUPPORTED nlaNestCancel do
        nlaPut .DPLL_A_PIN_FREQUENCY_MIN (.u64 range.1)
        nlaPut .DPLL_A_PIN_FREQUENCY_MAX (.u64 range.2)

/-- `dpll_msg_add_pin_parents`. -/
def dpllMsgAddPinParents (pin : Ptr) (p : DpllPin) (dpllRef : DpllPinRef) : MsgM δ Unit :=
  p.parentRefs.values.forM fun ref => do
    let o ← readKernel (dpllPinOps ref)
    let parentPriv ← readKernel (dpllPinOnDpllPriv dpllRef.target ref.target)
    let pinPriv ← readKernel (dpllPinOnPinPriv ref.target pin)
    match (src.pinOps o.addr).stateOnPinGet with
    | none => goWrong
    | some get =>
      let state ← readCallback (get ⟨pin, pinPriv, ref.target, parentPriv⟩)
      let parent ← readKernel (derefPin ref.target)
      nested .DPLL_A_PIN_PARENT_PIN nlaNestCancel do
        dpllMsgAddDevParentHandle parent.id
        nlaPut .DPLL_A_PIN_STATE (.u32 state)

/-- `dpll_msg_add_pin_dplls`.  A nest in which something fails is ended, not cancelled. -/
def dpllMsgAddPinDplls (pin : Ptr) (p : DpllPin) : MsgM δ Unit :=
  p.dpllRefs.values.forM fun ref => do
    let d ← readKernel (derefDevice ref.target)
    nested .DPLL_A_PIN_PARENT_DEVICE (fun _ => nlaNestEnd) do
      dpllMsgAddDevParentHandle d.id
      dpllMsgAddPinOnDpllState src pin ref
      dpllMsgAddPinPrio src pin ref
      dpllMsgAddPinDirection src pin ref
      dpllMsgAddPhaseOffset src pin ref

/-- `dpll_cmd_pin_get_one`.  Without a device there is no first reference to follow. -/
def dpllCmdPinGetOne (pin : Ptr) : MsgM δ Unit := do
  let p ← readKernel (derefPin pin)
  dpllMsgAddPinHandle p
  nlaPutString .DPLL_A_PIN_MODULE_NAME (moduleName src.names p.module)
  nlaPut .DPLL_A_PIN_CLOCK_ID (.u64 p.clockId)
  nlaPutString .DPLL_A_PIN_BOARD_LABEL p.prop.boardLabel
  nlaPutString .DPLL_A_PIN_PANEL_LABEL p.prop.panelLabel
  nlaPutString .DPLL_A_PIN_PACKAGE_LABEL p.prop.packageLabel
  nlaPut .DPLL_A_PIN_TYPE (.u32 (UInt32.ofNat p.prop.type))
  nlaPut .DPLL_A_PIN_CAPABILITIES (.u32 p.prop.capabilities.toUInt32)
  match p.dpllRefs.values.head? with
  | none => goWrong
  | some ref =>
    dpllMsgAddPinFreq src p pin ref
    nlaPut .DPLL_A_PIN_PHASE_ADJUST_MIN (.s32 p.prop.phaseRange.1)
    nlaPut .DPLL_A_PIN_PHASE_ADJUST_MAX (.s32 p.prop.phaseRange.2)
    dpllMsgAddPinPhaseAdjust src pin ref
    dpllMsgAddFfo src pin ref
    if p.parentRefs.isEmpty then dpllMsgAddPinDplls src pin p
    else dpllMsgAddPinParents src pin p ref

end MsgSource

/-! ## What is written does not depend on the buffer -/

/-- The program writes the same to every buffer that has room for it. -/
abbrev SteadyMsg (m : MsgM δ α) : Prop := Steady NlToken.size .EMSGSIZE m

theorem exec_readKernel {m : KernelM α} {k : KernelState} {a : α}
    (read : m.exec k = some (.ok a, k)) (driver : δ) (cap : ℕ) (out : List NlToken) :
    (readKernel m : MsgM δ α).exec ⟨⟨k, driver⟩, cap, out⟩ =
      some (.ok a, ⟨⟨k, driver⟩, cap, out⟩) := by
  show (m.exec k).map _ = _
  rw [read]
  rfl

theorem steady_readKernel (m : KernelM α) : SteadyMsg (readKernel m : MsgM δ α) :=
  steady_read (fun env => (m.exec env.kernel).map Prod.fst) fun s => by
    show (m.exec s.env.kernel).map _ = _
    rw [Option.map_map]
    rfl

theorem steady_readCallback (callback : δ → Except Errno α) : SteadyMsg (readCallback callback) :=
  steady_read (fun env => some (callback env.driver)) fun _ => rfl

theorem steady_nlaPut {type : NlaType} {data : NlaData} :
    SteadyMsg (nlaPut type data : MsgM δ Unit) := steady_put _

theorem steady_nlaPutSint {type : NlaType} {value : Int64} :
    SteadyMsg (nlaPutSint type value : MsgM δ Unit) := by
  unfold nlaPutSint
  split <;> exact steady_nlaPut

theorem steady_nlaPutString {type : NlaType} {text : Option Bytes} :
    SteadyMsg (nlaPutString type text : MsgM δ Unit) := by
  unfold nlaPutString
  split
  · exact steady_nlaPut
  · exact steady_pure

theorem steady_nested {type : NlaType} {failed : ℕ → MsgM δ Unit} {body : MsgM δ Unit}
    (cleans : Cleans failed) (inside : SteadyMsg body) : SteadyMsg (nested type failed body) :=
  steady_bracket cleans rfl (steady_put _) inside

namespace MsgSource

variable (src : MsgSource δ)

theorem steady_dpllMsgAddDevValue
    {getter : DeviceCallbacks δ → Option (DeviceArgs → δ → Except Errno α)} {missing : MsgM δ Unit}
    {add : α → MsgM δ Unit} (absent : SteadyMsg missing)
    (present : ∀ value, SteadyMsg (add value)) (dpll : Ptr) :
    SteadyMsg (dpllMsgAddDevValue src getter missing add dpll) := by
  refine (steady_readKernel _).bind fun o => ?_
  split
  · exact absent
  · refine (steady_readKernel _).bind fun priv => ?_
    exact (steady_readCallback _).bind present

theorem steady_dpllMsgAddLockStatus (dpll : Ptr) : SteadyMsg (src.dpllMsgAddLockStatus dpll) := by
  refine steady_dpllMsgAddDevValue src steady_goWrong (fun value => ?_) dpll
  refine steady_nlaPut.bind fun _ => ?_
  split
  · exact steady_nlaPut
  · exact steady_pure

/-- The message about a device begins with its id. -/
theorem dpllDeviceGetOne_eq (dpll : Ptr) : ∃ tail : DpllDevice → MsgM δ Unit,
    src.dpllDeviceGetOne dpll = (readKernel (derefDevice dpll) >>= fun d =>
      nlaPut .DPLL_A_ID (.u32 (UInt32.ofNat d.id)) >>= fun _ => tail d) ∧
      ∀ d, SteadyMsg (tail d) := by
  refine ⟨_, rfl, fun d => ?_⟩
  refine steady_nlaPutString.bind fun _ => steady_nlaPut.bind fun _ => ?_
  refine (steady_dpllMsgAddDevValue src steady_pure (fun _ => steady_nlaPut) dpll).bind fun _ => ?_
  refine (steady_dpllMsgAddLockStatus src dpll).bind fun _ => ?_
  refine (steady_dpllMsgAddDevValue src steady_goWrong (fun _ => steady_nlaPut) dpll).bind fun _ => ?_
  refine (steady_dpllMsgAddDevValue src steady_goWrong (fun _ => steady_nlaPut) dpll).bind fun _ => ?_
  exact steady_nlaPut

theorem steady_dpllMsgAddPinValue {getter : PinCallbacks δ → Option (Getter δ α)}
    {missing : MsgM δ Unit} {add : Except Errno α → MsgM δ Unit} (absent : SteadyMsg missing)
    (present : ∀ answer, SteadyMsg (add answer)) (pin : Ptr) (ref : DpllPinRef) :
    SteadyMsg (dpllMsgAddPinValue src getter missing add pin ref) := by
  refine (steady_readKernel _).bind fun o => ?_
  split
  · exact absent
  · refine (steady_readKernel _).bind fun args => ?_
    exact (steady_readCallback _).bind present

theorem steady_ifOk {add : α → MsgM δ Unit} (present : ∀ value, SteadyMsg (add value))
    (answer : Except Errno α) : SteadyMsg (ifOk add answer) := by
  cases answer with
  | ok value => exact present value
  | error e => exact steady_throw e

/-- An attribute with a value that a callback returns. -/
theorem steady_pinAttr {getter : PinCallbacks δ → Option (Getter δ α)} {missing : MsgM δ Unit}
    (absent : SteadyMsg missing) (type : NlaType) (data : α → NlaData) (pin : Ptr) (ref : DpllPinRef) :
    SteadyMsg (dpllMsgAddPinValue src getter missing (ifOk fun value => nlaPut type (data value)) pin
      ref) :=
  steady_dpllMsgAddPinValue src absent (steady_ifOk fun _ => steady_nlaPut) pin ref

theorem steady_dpllMsgAddFfo (pin : Ptr) (ref : DpllPinRef) :
    SteadyMsg (src.dpllMsgAddFfo pin ref) := by
  refine steady_dpllMsgAddPinValue src steady_pure (fun answer => ?_) pin ref
  split
  · exact steady_nlaPutSint
  · exact steady_pure
  · exact steady_throw _

theorem steady_dpllMsgAddPinFreq (p : DpllPin) (pin : Ptr) (ref : DpllPinRef) :
    SteadyMsg (src.dpllMsgAddPinFreq p pin ref) := by
  refine steady_dpllMsgAddPinValue src steady_pure (steady_ifOk fun freq => ?_) pin ref
  refine steady_nlaPut.bind fun _ => steady_forM fun range _ => ?_
  exact steady_nested cleans_trim (steady_nlaPut.bind fun _ => steady_nlaPut)

theorem steady_dpllMsgAddPinParents (pin : Ptr) (p : DpllPin) (dpllRef : DpllPinRef) :
    SteadyMsg (src.dpllMsgAddPinParents pin p dpllRef) := by
  refine steady_forM fun ref _ => ?_
  refine (steady_readKernel _).bind fun o => (steady_readKernel _).bind fun parentPriv => ?_
  refine (steady_readKernel _).bind fun pinPriv => ?_
  split
  · exact steady_goWrong
  · refine (steady_readCallback _).bind fun state => (steady_readKernel _).bind fun parent => ?_
    exact steady_nested cleans_trim (steady_nlaPut.bind fun _ => steady_nlaPut)

theorem steady_dpllMsgAddPinDplls (pin : Ptr) (p : DpllPin) :
    SteadyMsg (src.dpllMsgAddPinDplls pin p) := by
  refine steady_forM fun ref _ => (steady_readKernel _).bind fun d => ?_
  refine steady_nested (cleans_close _) ?_
  refine steady_nlaPut.bind fun _ => ?_
  refine (steady_pinAttr src steady_pure _ _ pin ref).bind fun _ => ?_
  refine (steady_pinAttr src steady_pure _ _ pin ref).bind fun _ => ?_
  refine (steady_pinAttr src steady_goWrong _ _ pin ref).bind fun _ => ?_
  exact steady_pinAttr src steady_pure _ _ pin ref

/-- The message about a pin begins with its id. -/
theorem dpllCmdPinGetOne_eq (pin : Ptr) : ∃ tail : DpllPin → MsgM δ Unit,
    src.dpllCmdPinGetOne pin = (readKernel (derefPin pin) >>= fun p =>
      nlaPut .DPLL_A_PIN_ID (.u32 (UInt32.ofNat p.id)) >>= fun _ => tail p) ∧
      ∀ p, SteadyMsg (tail p) := by
  refine ⟨_, rfl, fun p => ?_⟩
  refine steady_nlaPutString.bind fun _ => steady_nlaPut.bind fun _ => ?_
  refine steady_nlaPutString.bind fun _ => steady_nlaPutString.bind fun _ => ?_
  refine steady_nlaPutString.bind fun _ => steady_nlaPut.bind fun _ => ?_
  refine steady_nlaPut.bind fun _ => ?_
  split
  · exact steady_goWrong
  · rename_i ref _
    refine (steady_dpllMsgAddPinFreq src p pin ref).bind fun _ => steady_nlaPut.bind fun _ => ?_
    refine steady_nlaPut.bind fun _ => ?_
    refine (steady_pinAttr src steady_pure _ _ pin ref).bind fun _ => ?_
    refine (steady_dpllMsgAddFfo src pin ref).bind fun _ => ?_
    split
    · exact steady_dpllMsgAddPinDplls src pin p
    · exact steady_dpllMsgAddPinParents src pin p ref

theorem steady_dpllDeviceGetOne (dpll : Ptr) : SteadyMsg (src.dpllDeviceGetOne dpll) := by
  obtain ⟨tail, same, steady⟩ := src.dpllDeviceGetOne_eq dpll
  rw [same]
  exact (steady_readKernel _).bind fun d => steady_nlaPut.bind fun _ => steady d

theorem steady_dpllCmdPinGetOne (pin : Ptr) : SteadyMsg (src.dpllCmdPinGetOne pin) := by
  obtain ⟨tail, same, steady⟩ := src.dpllCmdPinGetOne_eq pin
  rw [same]
  exact (steady_readKernel _).bind fun p => steady_nlaPut.bind fun _ => steady p

end MsgSource

end Messages

end Netdevsim
