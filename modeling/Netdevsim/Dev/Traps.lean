import Netdevsim.Kernel
import Netdevsim.Lib.Hex
import Netdevsim.Lib.Runs

/-!
# Packet traps

The driver registers 14 traps with devlink and keeps the action of each in a table of its own.  A
work goes over the running ports and reports one packet for each trap whose action is not to drop;
packets dropped by a flow action carry the cookie that was written to `trap_flow_action_cookie`.  The
work holds the lock of devlink but takes the lock of the cookie for each packet anew, and a port may
be started or stopped meanwhile, so it is many steps here.
-/

namespace Netdevsim

/-! ## What the core knows of traps -/

/-- `enum devlink_trap_action`. -/
inductive DevlinkTrapAction where
  | DROP | TRAP | MIRROR
  deriving DecidableEq, Repr

/-- `enum devlink_trap_type`. -/
inductive DevlinkTrapType where
  | DROP | EXCEPTION | CONTROL
  deriving DecidableEq, Repr

/-- The ids of traps: those of the driver, and others. -/
inductive DevlinkTrapId where
  | SMAC_MC | VLAN_TAG_MISMATCH | INGRESS_VLAN_FILTER | INGRESS_STP_FILTER | EMPTY_TX_LIST
  | PORT_LOOPBACK_FILTER | FID_MISS | BLACKHOLE_ROUTE | TTL_ERROR | TAIL_DROP
  | INGRESS_FLOW_ACTION_DROP | EGRESS_FLOW_ACTION_DROP | IGMP_QUERY | IGMP_V1_REPORT
  | other (id : UInt16)
  deriving DecidableEq, Repr

/-- The ids of groups of traps. -/
inductive DevlinkTrapGroupId where
  | L2_DROPS | L3_DROPS | L3_EXCEPTIONS | BUFFER_DROPS | ACL_DROPS | MC_SNOOPING
  deriving DecidableEq, Repr

def DEVLINK_TRAP_METADATA_TYPE_F_IN_PORT : UInt32 := 1
def DEVLINK_TRAP_METADATA_TYPE_F_FA_COOKIE : UInt32 := 2

/-- `struct devlink_trap`. -/
structure DevlinkTrap where
  type : DevlinkTrapType
  initAction : DevlinkTrapAction
  id : DevlinkTrapId
  initGroupId : DevlinkTrapGroupId
  metadataCap : UInt32
  deriving DecidableEq, Repr

/-- What the core keeps of a registered trap: its action and the packets that were reported. -/
structure DevlinkTrapItem where
  action : DevlinkTrapAction
  rxPackets : UInt64
  deriving DecidableEq, Repr

/-! ## The traps of the driver -/

/-- `NSIM_TRAP_METADATA`. -/
def NSIM_TRAP_METADATA : UInt32 := DEVLINK_TRAP_METADATA_TYPE_F_IN_PORT

/-- `NSIM_TRAP_DROP`. -/
def nsimTrapDrop (id : DevlinkTrapId) (group : DevlinkTrapGroupId) : DevlinkTrap :=
  ⟨.DROP, .DROP, id, group, NSIM_TRAP_METADATA⟩

/-- `NSIM_TRAP_DROP_EXT`. -/
def nsimTrapDropExt (id : DevlinkTrapId) (group : DevlinkTrapGroupId) (metadata : UInt32) :
    DevlinkTrap :=
  ⟨.DROP, .DROP, id, group, NSIM_TRAP_METADATA ||| metadata⟩

/-- `NSIM_TRAP_EXCEPTION` and `NSIM_TRAP_DRIVER_EXCEPTION`. -/
def nsimTrapException (id : DevlinkTrapId) (group : DevlinkTrapGroupId) : DevlinkTrap :=
  ⟨.EXCEPTION, .TRAP, id, group, NSIM_TRAP_METADATA⟩

/-- `NSIM_TRAP_CONTROL`. -/
def nsimTrapControl (id : DevlinkTrapId) (group : DevlinkTrapGroupId)
    (action : DevlinkTrapAction) : DevlinkTrap :=
  ⟨.CONTROL, action, id, group, NSIM_TRAP_METADATA⟩

/-- `nsim_traps_arr`. -/
def nsimTrapsArr : List DevlinkTrap := [
  nsimTrapDrop .SMAC_MC .L2_DROPS,
  nsimTrapDrop .VLAN_TAG_MISMATCH .L2_DROPS,
  nsimTrapDrop .INGRESS_VLAN_FILTER .L2_DROPS,
  nsimTrapDrop .INGRESS_STP_FILTER .L2_DROPS,
  nsimTrapDrop .EMPTY_TX_LIST .L2_DROPS,
  nsimTrapDrop .PORT_LOOPBACK_FILTER .L2_DROPS,
  nsimTrapException .FID_MISS .L2_DROPS,
  nsimTrapDrop .BLACKHOLE_ROUTE .L3_DROPS,
  nsimTrapException .TTL_ERROR .L3_EXCEPTIONS,
  nsimTrapDrop .TAIL_DROP .BUFFER_DROPS,
  nsimTrapDropExt .INGRESS_FLOW_ACTION_DROP .ACL_DROPS DEVLINK_TRAP_METADATA_TYPE_F_FA_COOKIE,
  nsimTrapDropExt .EGRESS_FLOW_ACTION_DROP .ACL_DROPS DEVLINK_TRAP_METADATA_TYPE_F_FA_COOKIE,
  nsimTrapControl .IGMP_QUERY .MC_SNOOPING .MIRROR,
  nsimTrapControl .IGMP_V1_REPORT .MC_SNOOPING .TRAP]

/-- The length of `nsim_trap_policers_arr`, whose ids are 1, 2 and 3. -/
def NSIM_TRAP_POLICERS : ℕ := 3

/-- `struct nsim_trap_item`, with the trap its context is for. -/
structure NsimTrapItem where
  trapCtx : Option DevlinkTrapId
  action : DevlinkTrapAction
  deriving DecidableEq, Repr

/-- `struct nsim_trap_data`. -/
structure NsimTrapData where
  trapItemsArr : List NsimTrapItem
  trapPolicersCntArr : List UInt64
  trapPktCnt : UInt64
  deriving DecidableEq, Repr

/-- A packet that was reported to devlink. -/
structure TrapReport where
  inPort : ℕ
  trapCtx : Option DevlinkTrapId
  faCookie : Option Bytes
  deriving DecidableEq, Repr

/-- What happened to a trap of a running port: a report, or there was no memory for a packet. -/
inductive TrapEvent where
  | reported (report : TrapReport)
  | noMemory (inPort : ℕ) (trapCtx : Option DevlinkTrapId)
  deriving DecidableEq, Repr

/-- A run of the work that holds the lock of devlink: the ports it has not come to, the port it is
at with the traps that are left, and what it did. -/
structure TrapWork where
  ports : List ℕ
  current : Option (ℕ × List (DevlinkTrap × NsimTrapItem))
  log : List TrapEvent
  /-- The running ports it came to. -/
  reached : List ℕ

/-- The traps of the core and of the driver, and the files of its cookie. -/
structure TrapsWorld where
  items : DevlinkTrapId → Option DevlinkTrapItem
  policers : Bool
  groups : Bool
  /-- `nsim_dev->trap_data`, while it is allocated. -/
  trapData : Option NsimTrapData
  scheduled : Bool
  work : Option TrapWork
  portList : List ℕ
  netifRunning : ℕ → Bool
  faCookie : Option Bytes
  /-- The open files of `trap_flow_action_cookie`, with their positions. -/
  files : ℕ → Option ℕ
  failTrapGroupSet : Bool
  failTrapPolicerSet : Bool
  failTrapPolicerCounterGet : Bool
  failTrapDropCounterGet : Bool

namespace TrapsWorld

variable (w : TrapsWorld)

/-! ## Requests of devlink -/

/-- `nsim_dev_trap_item_lookup`. -/
def nsimDevTrapItemLookup (id : DevlinkTrapId) : Option ℕ :=
  nsimTrapsArr.findIdx? fun trap => trap.id = id

/-- The item of a trap changes. -/
def setItem (i : ℕ) (f : NsimTrapItem → NsimTrapItem) : TrapsWorld :=
  { w with trapData := w.trapData.map fun data =>
      { data with trapItemsArr := data.trapItemsArr.modify i f } }

/-- `nsim_dev_devlink_trap_init`, with the item of the core as the context. -/
def nsimDevDevlinkTrapInit (trap : DevlinkTrap) : TrapsWorld × Except Errno Unit :=
  match nsimDevTrapItemLookup trap.id with
  | none => (w, .error .ENOENT)
  | some i => (w.setItem i fun _ => ⟨some trap.id, trap.initAction⟩, .ok ())

/-- `nsim_dev_devlink_trap_action_set`. -/
def nsimDevDevlinkTrapActionSet (id : DevlinkTrapId) (action : DevlinkTrapAction) :
    TrapsWorld × Except Errno Unit :=
  match nsimDevTrapItemLookup id with
  | none => (w, .error .ENOENT)
  | some i => (w.setItem i fun item => { item with action }, .ok ())

/-- `nsim_dev_devlink_trap_group_set`. -/
def nsimDevDevlinkTrapGroupSet : Except Errno Unit :=
  if w.failTrapGroupSet then .error .EINVAL else .ok ()

/-- `nsim_dev_devlink_trap_policer_set`. -/
def nsimDevDevlinkTrapPolicerSet : Except Errno Unit :=
  if w.failTrapPolicerSet then .error .EINVAL else .ok ()

/-- `nsim_dev_devlink_trap_policer_counter_get`. -/
def nsimDevDevlinkTrapPolicerCounterGet (data : NsimTrapData) (id : ℕ) :
    TrapsWorld × Except Errno UInt64 :=
  if w.failTrapPolicerCounterGet then (w, .error .EINVAL)
  else
    let cnt := data.trapPolicersCntArr.getD (id - 1) 0
    let data := { data with
      trapPolicersCntArr := data.trapPolicersCntArr.set (id - 1) (cnt + 1) }
    ({ w with trapData := some data }, .ok cnt)

/-- `nsim_dev_devlink_trap_drop_counter_get`. -/
def nsimDevDevlinkTrapDropCounterGet (data : NsimTrapData) : TrapsWorld × Except Errno UInt64 :=
  if w.failTrapDropCounterGet then (w, .error .EINVAL)
  else ({ w with trapData := some { data with trapPktCnt := data.trapPktCnt + 1 } },
    .ok data.trapPktCnt)

/-! ## The core -/

def setCore (id : DevlinkTrapId) (item : Option DevlinkTrapItem) : TrapsWorld :=
  { w with items := Function.update w.items id item }

/-- `devlink_trap_register`, where an allocation may fail. -/
def devlinkTrapRegister (trap : DevlinkTrap) (fault : Option Errno) :
    TrapsWorld × Except Errno Unit :=
  match fault with
  | some e => (w, .error e)
  | none => match w.nsimDevDevlinkTrapInit trap with
    | (w, .error e) => (w, .error e)
    | (w, .ok ()) => (w.setCore trap.id (some ⟨trap.initAction, 0⟩), .ok ())

/-- `devl_traps_register`: the traps that were registered are unregistered after an error. -/
def devlTrapsRegister : List DevlinkTrap → List (Option Errno) → TrapsWorld →
    TrapsWorld × Except Errno Unit
  | [], _, w => (w, .ok ())
  | trap :: traps, faults, w =>
    match w.devlinkTrapRegister trap (faults.headD none) with
    | (w, .error e) => (w, .error e)
    | (w, .ok ()) => match devlTrapsRegister traps faults.tail w with
      | (w, .error e) => (w.setCore trap.id none, .error e)
      | (w, .ok ()) => (w, .ok ())

/-- `devl_traps_unregister`. -/
def devlTrapsUnregister : TrapsWorld :=
  nsimTrapsArr.foldl (fun w trap => w.setCore trap.id none) w

/-- `devlink_trap_action_set`: only traps of packets that are dropped change. -/
def devlinkTrapActionSet (trap : DevlinkTrap) (item : DevlinkTrapItem)
    (action : DevlinkTrapAction) : TrapsWorld :=
  if item.action ≠ action ∧ trap.type ≠ .DROP then w
  else match w.nsimDevDevlinkTrapActionSet trap.id action with
    | (w, .error _) => w
    | (w, .ok ()) => w.setCore trap.id (some { item with action })

/-- `devlink_trap_group_set`: the action of all traps of a group. -/
def devlinkTrapGroupActionSet (group : DevlinkTrapGroupId) (action : DevlinkTrapAction) :
    TrapsWorld :=
  (nsimTrapsArr.filter (·.initGroupId = group)).foldl
    (fun w trap => (w.items trap.id).elim w fun item => w.devlinkTrapActionSet trap item action) w

/-- `devlink_trap_report`: the packet is counted. -/
def devlinkTrapReport (trapCtx : Option DevlinkTrapId) : TrapsWorld :=
  match trapCtx with
  | none => w
  | some id => w.setCore id ((w.items id).map fun item =>
      { item with rxPackets := item.rxPackets + 1 })

/-! ## Setting up -/

/-- What may fail in `nsim_dev_traps_init`. -/
structure InitFaults where
  trapData : Bool
  items : Bool
  policersCnt : Bool
  policers : Option Errno
  groups : Option Errno
  traps : List (Option Errno)

/-- `nsim_dev_traps_init`. -/
def nsimDevTrapsInit (faults : InitFaults) : TrapsWorld × Except Errno Unit :=
  if faults.trapData then (w, .error .ENOMEM)
  else if faults.items then (w, .error .ENOMEM)
  else if faults.policersCnt then (w, .error .ENOMEM)
  else
    let data := ⟨List.replicate nsimTrapsArr.length ⟨none, .DROP⟩,
      List.replicate NSIM_TRAP_POLICERS 0, 0⟩
    let w := { w with trapData := some data }
    match faults.policers with
    | some e => ({ w with trapData := none }, .error e)
    | none =>
      let w := { w with policers := true }
      match faults.groups with
      | some e => ({ w with policers := false, trapData := none }, .error e)
      | none =>
        let w := { w with groups := true }
        match w.devlTrapsRegister nsimTrapsArr faults.traps with
        | (w, .error e) =>
          ({ w with groups := false, policers := false, trapData := none }, .error e)
        | (w, .ok ()) => ({ w with scheduled := true }, .ok ())

/-- `nsim_dev_traps_exit`. -/
def nsimDevTrapsExit : TrapsWorld :=
  let w := { w with scheduled := false }
  let w := w.devlTrapsUnregister
  { w with groups := false, policers := false, trapData := none }

/-! ## The work -/

/-- `nsim_dev_trap_report_work` up to the loop: the lock of devlink is taken. -/
def startWork : TrapsWorld := { w with work := some ⟨w.portList, none, [], []⟩ }

/-- The next port of `nsim_dev_trap_report_work`. -/
def workPort (work : TrapWork) (data : NsimTrapData) : Option TrapsWorld :=
  match work.current, work.ports with
  | none, port :: ports =>
    let work := { work with ports }
    if w.netifRunning port then
      let work := { work with
        current := some (port, nsimTrapsArr.zip data.trapItemsArr)
        reached := work.reached ++ [port] }
      some { w with work := some work }
    else some { w with work := some work }
  | _, _ => none

/-- `nsim_dev_trap_report`: the next trap, for which the packet may not be allocated. -/
def workTrap (work : TrapWork) (allocated : Bool) : Option TrapsWorld :=
  match work.current with
  | some (port, (trap, nsimTrapItem) :: rest) =>
    let hasFaCookie := trap.metadataCap &&& DEVLINK_TRAP_METADATA_TYPE_F_FA_COOKIE ≠ 0
    let work := { work with current := some (port, rest) }
    if nsimTrapItem.action = .DROP then some { w with work := some work }
    else if !allocated then
      let work := { work with log := work.log ++ [.noMemory port nsimTrapItem.trapCtx] }
      some { w with work := some work }
    else
      let faCookie := if hasFaCookie then w.faCookie else none
      let report := ⟨port, nsimTrapItem.trapCtx, faCookie⟩
      let work := { work with log := work.log ++ [.reported report] }
      some { w.devlinkTrapReport nsimTrapItem.trapCtx with work := some work }
  | some (_, []) => some { w with work := some { work with current := none } }
  | none => none

/-! ## The file of the cookie -/

/-- `nsim_dev_trap_fa_cookie_read`, with the position afterwards. -/
def nsimDevTrapFaCookieRead (count ppos : ℕ) (allocated : Bool) : ℕ × Except Errno Bytes :=
  match w.faCookie with
  | none => (ppos, .error .EINVAL)
  | some cookie =>
    if !allocated then (ppos, .error .ENOMEM)
    else
      let data := ((Hex.bin2hex cookie).drop ppos).take count
      (ppos + data.length, .ok data)

/-- The digits of a cookie that is written: `count - 1`, a `size_t`. -/
def cookieDigits (data : Bytes) : ℕ := (data.length + (2 ^ 64 - 1)) % 2 ^ 64

/-- `nsim_dev_trap_fa_cookie_write`. -/
def nsimDevTrapFaCookieWrite (data : Bytes) (ppos : ℕ) (memdupUser : Option Errno)
    (allocated : Bool) : TrapsWorld × Except Errno ℕ :=
  if ppos ≠ 0 then (w, .error .EINVAL)
  else if cookieDigits data % 2 ≠ 0 then (w, .error .EINVAL)
  else match memdupUser with
    | some e => (w, .error e)
    | none =>
      if !allocated then (w, .error .ENOMEM)
      else match Hex.hex2bin (cookieDigits data / 2) data with
        | none => (w, .error .EINVAL)
        | some cookie => ({ w with faCookie := some cookie }, .ok data.length)

end TrapsWorld

/-! ## Runs -/

/-- What can happen. -/
inductive TrapsOp where
  | init (faults : TrapsWorld.InitFaults)
  | exit
  | actionSet (trap : DevlinkTrap) (action : DevlinkTrapAction)
  | groupActionSet (group : DevlinkTrapGroupId) (action : DevlinkTrapAction)
  | policerCounterGet (id : ℕ)
  | dropCounterGet
  | setFlags (group policer policerCounter dropCounter : Bool)
  | portAdd (port : ℕ)
  | portDel (port : ℕ)
  | setRunning (port : ℕ) (running : Bool)
  | startWork
  | workPort
  | workTrap (allocated : Bool)
  | endWork
  | open (fd : ℕ)
  | close (fd : ℕ)
  | llseek (fd ppos : ℕ)
  | read (fd count : ℕ) (allocated : Bool)
  | write (fd : ℕ) (data : Bytes) (memdupUser : Option Errno) (allocated : Bool)

namespace TrapsWorld

/-- One step; `none` where it can not be taken.  What holds the lock of devlink waits for the
work. -/
def step (w : TrapsWorld) : TrapsOp → Option TrapsWorld
  | .init faults =>
    if w.trapData = none ∧ w.work.isNone then some (w.nsimDevTrapsInit faults).1 else none
  | .exit => if w.trapData.isSome ∧ w.work.isNone then some w.nsimDevTrapsExit else none
  | .actionSet trap action =>
    if trap ∈ nsimTrapsArr ∧ w.work.isNone then
      (w.items trap.id).map fun item => w.devlinkTrapActionSet trap item action
    else none
  | .groupActionSet group action =>
    if w.work.isNone then some (w.devlinkTrapGroupActionSet group action) else none
  | .policerCounterGet id =>
    if 1 ≤ id ∧ id ≤ NSIM_TRAP_POLICERS ∧ w.work.isNone then
      w.trapData.map fun data => (w.nsimDevDevlinkTrapPolicerCounterGet data id).1
    else none
  | .dropCounterGet =>
    if w.work.isNone then
      w.trapData.map fun data => (w.nsimDevDevlinkTrapDropCounterGet data).1
    else none
  | .setFlags group policer policerCounter dropCounter => some { w with
      failTrapGroupSet := group
      failTrapPolicerSet := policer
      failTrapPolicerCounterGet := policerCounter
      failTrapDropCounterGet := dropCounter }
  | .portAdd port =>
    if port ∉ w.portList ∧ w.work.isNone then some { w with portList := port :: w.portList }
    else none
  | .portDel port => if w.work.isNone then some { w with portList := w.portList.erase port } else none
  | .setRunning port running => some { w with
      netifRunning := Function.update w.netifRunning port running }
  | .startWork => if w.scheduled ∧ w.work.isNone then some w.startWork else none
  | .workPort => w.work.bind fun work => w.trapData.bind fun data => w.workPort work data
  | .workTrap allocated => w.work.bind fun work => w.workTrap work allocated
  | .endWork => w.work.bind fun work =>
    if work.current.isNone ∧ work.ports = [] then some { w with work := none } else none
  | .open fd =>
    if w.files fd = none then some { w with files := Function.update w.files fd (some 0) } else none
  | .close fd => some { w with files := Function.update w.files fd none }
  | .llseek fd ppos => (w.files fd).map fun _ =>
    { w with files := Function.update w.files fd (some ppos) }
  | .read fd count allocated => (w.files fd).map fun ppos => { w with
      files := Function.update w.files fd (some (w.nsimDevTrapFaCookieRead count ppos allocated).1) }
  | .write fd data memdupUser allocated =>
    if data.length < 2 ^ 64 then (w.files fd).map fun ppos =>
      (w.nsimDevTrapFaCookieWrite data ppos memdupUser allocated).1
    else none

end TrapsWorld

/-- All runs, from a device without traps and without a cookie. -/
def trapsSystem : TransitionSystem TrapsWorld TrapsOp where
  init w := w = ⟨fun _ => none, false, false, none, false, none, [], fun _ => false, none,
    fun _ => none, false, false, false, false⟩
  step w op w' := w.step op = some w'

end Netdevsim
