import Netdevsim.Kernel
import Netdevsim.Lib.FirstMatch
import Netdevsim.Lib.Runs

/-!
# Hardware statistics

`nsim_dev->hwstats` is a list of network devices for which the simulated hardware counts traffic.
Users add and remove devices by their ifindex; the core turns the counting of a device on and off and
fetches what was counted through a notifier; a work adds traffic to the counters.  The file handlers
drop the lock of the list before they talk to the core, so they are two steps here, between which the
work and `fail_next_enable` may run.
-/

namespace Netdevsim

open FirstMatch

/-! ## Data -/

/-- `struct rtnl_hw_stats64`: the counters that are used. -/
@[ext]
structure RtnlHwStats64 where
  rxPackets : UInt64
  txPackets : UInt64
  rxBytes : UInt64
  txBytes : UInt64
  deriving DecidableEq, Repr

namespace RtnlHwStats64

instance : Zero RtnlHwStats64 := ⟨⟨0, 0, 0, 0⟩⟩

/-- `netdev_hw_stats64_add`. -/
instance : Add RtnlHwStats64 where
  add a b := ⟨a.rxPackets + b.rxPackets, a.txPackets + b.txPackets, a.rxBytes + b.rxBytes,
    a.txBytes + b.txBytes⟩

end RtnlHwStats64

/-- `struct nsim_dev_hwstats_netdev`, with the address of its network device. -/
structure NsimDevHwstatsNetdev where
  netdev : ℕ
  stats : RtnlHwStats64
  enabled : Bool
  failEnable : Bool
  deriving DecidableEq, Repr

/-- A network device: its index, the references to it from here, and the counters of the core if
they are turned on. -/
structure XstatsNetdev where
  ifindex : Int32
  refs : ℕ
  offloadXstatsL3 : Option RtnlHwStats64
  deriving DecidableEq, Repr

/-- A file handler that holds the rtnl lock and no longer the one of the list. -/
inductive HwstatsPending where
  | enable (netdev : ℕ)
  | disable (hwsdev : NsimDevHwstatsNetdev)
  deriving DecidableEq, Repr

/-- The network devices and `nsim_dev->hwstats`. -/
structure HwstatsWorld where
  /-- The network devices that are not freed. -/
  netdevs : ℕ → Option XstatsNetdev
  /-- Those that are registered in the namespace. -/
  devices : List ℕ
  l3List : List NsimDevHwstatsNetdev
  pending : Option HwstatsPending
  /-- Between `nsim_dev_hwstats_init` and `nsim_dev_hwstats_exit`. -/
  active : Bool

/-- The error a notifier returns. -/
inductive XstatsErrno where
  | ECANCELED
  deriving DecidableEq, Repr

/-- The events of the core. -/
inductive XstatsEvent where
  | enable | disable | reportUsed | reportDelta
  deriving DecidableEq, Repr

/-- The events `nsim_dev_hwstats_event` tells apart. -/
inductive NetdevEvent where
  | offXstats (event : XstatsEvent)
  | unregister
  | other
  deriving DecidableEq, Repr

/-- What an event is answered with: `info->report_used` and `info->report_delta`. -/
structure XstatsReport where
  used : Bool
  stats : RtnlHwStats64
  deriving DecidableEq, Repr

/-! ## One entry -/

/-- The traffic of one run of the work. -/
def trafficBump : RtnlHwStats64 := ⟨1, 2, 100, 300⟩

namespace NsimDevHwstatsNetdev

variable (hwsdev : NsimDevHwstatsNetdev)

/-- An entry in `nsim_dev_hwstats_traffic_bump`. -/
def bump : NsimDevHwstatsNetdev :=
  if hwsdev.enabled then { hwsdev with stats := hwsdev.stats + trafficBump } else hwsdev

/-- `nsim_dev_hwsdev_enable`: the entry afterwards. -/
def enable : NsimDevHwstatsNetdev :=
  if hwsdev.failEnable then { hwsdev with failEnable := false }
  else { hwsdev with enabled := true }

/-- `nsim_dev_hwsdev_enable`: what it returns. -/
def enableResult : Except XstatsErrno Unit :=
  if hwsdev.failEnable then .error .ECANCELED else .ok ()

/-- `nsim_dev_hwsdev_disable`. -/
def disable : NsimDevHwstatsNetdev := { hwsdev with enabled := false, stats := 0 }

/-- `nsim_dev_hwsdev_report_delta`: the entry afterwards. -/
def reported : NsimDevHwstatsNetdev := { hwsdev with stats := 0 }

/-- The entry after an event. -/
def after : XstatsEvent → NsimDevHwstatsNetdev
  | .enable => hwsdev.enable
  | .disable => hwsdev.disable
  | .reportUsed => hwsdev
  | .reportDelta => hwsdev.reported

/-- What an entry adds to a report: `nsim_dev_hwsdev_report_used` and
`netdev_offload_xstats_report_delta`. -/
def report (r : XstatsReport) : XstatsEvent → XstatsReport
  | .reportUsed => if hwsdev.enabled then { r with used := true } else r
  | .reportDelta => ⟨true, r.stats + hwsdev.stats⟩
  | _ => r

end NsimDevHwstatsNetdev

/-! ## The driver -/

namespace HwstatsWorld

variable (w : HwstatsWorld)

/-- The comparison made in `nsim_dev_hwslist_find_hwsdev`. -/
def hasIfindex (ifindex : Int32) (hwsdev : NsimDevHwstatsNetdev) : Bool :=
  (w.netdevs hwsdev.netdev).any fun d => d.ifindex = ifindex

/-- `nsim_dev_hwslist_find_hwsdev`. -/
def find (ifindex : Int32) : Option NsimDevHwstatsNetdev := w.l3List.find? (w.hasIfindex ifindex)

/-- The network device at an address changes. -/
def change (p : ℕ) (f : XstatsNetdev → XstatsNetdev) : HwstatsWorld :=
  { w with netdevs := Function.update w.netdevs p ((w.netdevs p).map f) }

/-- `dev_get_by_index` and `dev_put`: the references to a network device. -/
def devGet (p : ℕ) : HwstatsWorld := w.change p fun d => { d with refs := d.refs + 1 }
def devPut (p : ℕ) : HwstatsWorld := w.change p fun d => { d with refs := d.refs - 1 }

/-- `dev_get_by_index`: the registered device with an index. -/
def byIndex (ifindex : Int32) : Option ℕ :=
  w.devices.find? fun p => (w.netdevs p).any fun d => d.ifindex = ifindex

/-- `netdev_offload_xstats_enabled`. -/
def xstatsEnabled (p : ℕ) : Bool := (w.netdevs p).any fun d => d.offloadXstatsL3.isSome

/-- `nsim_dev_hwstats_traffic_bump`. -/
def nsimDevHwstatsTrafficBump : HwstatsWorld :=
  { w with l3List := w.l3List.map NsimDevHwstatsNetdev.bump }

/-- `nsim_dev_hwstats_event_off_xstats`: the list afterwards. -/
def nsimDevHwstatsEventOffXstats (ifindex : Int32) (event : XstatsEvent) : HwstatsWorld :=
  { w with l3List := modifyFirst (w.hasIfindex ifindex) (·.after event) w.l3List }

/-- `nsim_dev_hwstats_event_off_xstats`: what it returns. -/
def eventResult (ifindex : Int32) (event : XstatsEvent) : Except XstatsErrno Unit :=
  match event, w.find ifindex with
  | .enable, some hwsdev => hwsdev.enableResult
  | _, _ => .ok ()

/-- `nsim_dev_hwstats_event_off_xstats`: what it reports. -/
def eventReport (ifindex : Int32) (event : XstatsEvent) (r : XstatsReport) : XstatsReport :=
  (w.find ifindex).elim r fun hwsdev => hwsdev.report r event

/-- `nsim_dev_hwsdev_fini`. -/
def nsimDevHwsdevFini (hwsdev : NsimDevHwstatsNetdev) : HwstatsWorld := w.devPut hwsdev.netdev

/-- `__nsim_dev_hwstats_event_unregister`. -/
def nsimDevHwstatsEventUnregister (ifindex : Int32) : HwstatsWorld :=
  match w.find ifindex with
  | none => w
  | some hwsdev =>
    let w := { w with l3List := w.l3List.eraseP (w.hasIfindex ifindex) }
    w.nsimDevHwsdevFini hwsdev

/-- `nsim_dev_hwstats_event`, called by `nsim_dev_netdevice_event`. -/
def nsimDevHwstatsEvent (ifindex : Int32) : NetdevEvent → HwstatsWorld
  | .offXstats event => w.nsimDevHwstatsEventOffXstats ifindex event
  | .unregister => w.nsimDevHwstatsEventUnregister ifindex
  | .other => w

/-- `nsim_dev_hwstats_enable_ifindex` up to where it drops the lock of the list. -/
def nsimDevHwstatsEnableIfindex (ifindex : Int32) (allocated : Bool) :
    HwstatsWorld × Except Errno Unit :=
  match w.find ifindex with
  | some _ => (w, .ok ())
  | none => match w.byIndex ifindex with
    | none => (w, .error .ENODEV)
    | some netdev =>
      let w := w.devGet netdev
      if !allocated then (w.devPut netdev, .error .ENOMEM)
      else ({ w with
        l3List := w.l3List ++ [⟨netdev, 0, false, false⟩]
        pending := some (.enable netdev) }, .ok ())

/-- The rest of `nsim_dev_hwstats_enable_ifindex`: the entry is enabled if the core is. -/
def finishEnable (netdev : ℕ) : HwstatsWorld :=
  if w.xstatsEnabled netdev then { w with
    l3List := modifyFirst (·.netdev = netdev) (·.enable) w.l3List
    pending := none }
  else { w with pending := none }

/-- `nsim_dev_hwstats_disable_ifindex` up to where it drops the lock of the list. -/
def nsimDevHwstatsDisableIfindex (ifindex : Int32) : HwstatsWorld × Except Errno Unit :=
  match w.find ifindex with
  | none => (w, .error .ENOENT)
  | some hwsdev => ({ w with
      l3List := w.l3List.eraseP (w.hasIfindex ifindex)
      pending := some (.disable hwsdev) }, .ok ())

/-- `netdev_offload_xstats_push_delta`. -/
def pushDelta (p : ℕ) (stats : RtnlHwStats64) : HwstatsWorld :=
  w.change p fun d => { d with offloadXstatsL3 := d.offloadXstatsL3.map (· + stats) }

/-- The rest of `nsim_dev_hwstats_disable_ifindex`: what was counted goes to the core. -/
def finishDisable (hwsdev : NsimDevHwstatsNetdev) : HwstatsWorld :=
  let w := { w with pending := none }
  let w := if w.xstatsEnabled hwsdev.netdev then w.pushDelta hwsdev.netdev hwsdev.stats else w
  w.nsimDevHwsdevFini hwsdev

/-- `nsim_dev_hwstats_fail_ifindex`. -/
def nsimDevHwstatsFailIfindex (ifindex : Int32) : HwstatsWorld × Except Errno Unit :=
  match w.find ifindex with
  | none => (w, .error .ENOENT)
  | some _ => ({ w with
      l3List := modifyFirst (w.hasIfindex ifindex) ({ · with failEnable := true }) w.l3List }, .ok ())

/-- `nsim_dev_hwsdev_list_wipe`. -/
def nsimDevHwsdevListWipe : HwstatsWorld :=
  let hwsdevs := w.l3List
  hwsdevs.foldl nsimDevHwsdevFini { w with l3List := [] }

end HwstatsWorld

/-! ## The file handlers -/

/-- `_kstrtoull`, which takes no sign. -/
def kstrtoullDigits (s : Bytes) (base : ℕ) : Except Errno ℕ :=
  let (base, s) := parseIntegerFixupRadix base s
  let (value, digits, rest) := parseInteger base s 0 0
  if 2 ^ 64 ≤ value then .error .ERANGE
  else if digits = 0 then .error .EINVAL
  else if rest = [] ∨ rest = [10] then .ok value
  else .error .EINVAL

/-- `kstrtoll`. -/
def kstrtoll (buf : Bytes) (base : ℕ) : Except Errno ℤ :=
  match cstr buf with
  | 45 :: s => match kstrtoullDigits s base with
    | .error e => .error e
    | .ok value => if 2 ^ 63 < value then .error .ERANGE else .ok (-value)
  | _ => match kstrtoull buf base with
    | .error e => .error e
    | .ok value => if 2 ^ 63 ≤ value then .error .ERANGE else .ok value

/-- `kstrtoint`. -/
def kstrtoint (buf : Bytes) (base : ℕ) : Except Errno Int32 :=
  match kstrtoll buf base with
  | .error e => .error e
  | .ok value =>
    if -2 ^ 31 ≤ value ∧ value < 2 ^ 31 then .ok (Int32.ofInt value) else .error .ERANGE

/-- `kstrtoint_from_user`, which reads at most 34 bytes. -/
def kstrtointFromUser (data : Bytes) (base : ℕ) : Except Errno Int32 := kstrtoint (data.take 34) base

example : kstrtointFromUser (ascii "-0x10\n") 0 = .ok (-16) := by decide

/-- `enum nsim_dev_hwstats_do`. -/
inductive NsimDevHwstatsDo where
  | NSIM_DEV_HWSTATS_DO_DISABLE
  | NSIM_DEV_HWSTATS_DO_ENABLE
  | NSIM_DEV_HWSTATS_DO_FAIL
  deriving DecidableEq, Repr

/-- `nsim_dev_hwstats_do_write`, up to where the handler drops the lock of the list. -/
def HwstatsWorld.nsimDevHwstatsDoWrite (w : HwstatsWorld) (action : NsimDevHwstatsDo) (data : Bytes)
    (allocated : Bool) : HwstatsWorld × Except Errno ℕ :=
  match kstrtointFromUser data 0 with
  | .error e => (w, .error e)
  | .ok ifindex =>
    let (w, result) := match action with
      | .NSIM_DEV_HWSTATS_DO_DISABLE => w.nsimDevHwstatsDisableIfindex ifindex
      | .NSIM_DEV_HWSTATS_DO_ENABLE => w.nsimDevHwstatsEnableIfindex ifindex allocated
      | .NSIM_DEV_HWSTATS_DO_FAIL => w.nsimDevHwstatsFailIfindex ifindex
    (w, result.map fun _ => data.length)

/-! ## The core -/

namespace HwstatsWorld

variable (w : HwstatsWorld)

/-- The counters of a network device are turned on or off. -/
def setXstats (p : ℕ) (stats : Option RtnlHwStats64) : HwstatsWorld :=
  w.change p fun d => { d with offloadXstatsL3 := stats }

/-- `call_netdevice_notifiers_info`, as far as this driver hears it. -/
def notify (ifindex : Int32) (event : NetdevEvent) : HwstatsWorld :=
  if w.active then w.nsimDevHwstatsEvent ifindex event else w

/-- `netdev_offload_xstats_enable`: the counters are there before the drivers are asked, and gone if
one of them refuses, which those that did not are told. -/
def coreEnable (p : ℕ) (ifindex : Int32) (othersFail : Bool) : HwstatsWorld :=
  let refused := w.active && !(w.eventResult ifindex .enable).isOk
  let w := (w.setXstats p (some 0)).notify ifindex (.offXstats .enable)
  if refused then w.setXstats p none
  else if othersFail then (w.notify ifindex (.offXstats .disable)).setXstats p none
  else w

/-- `netdev_offload_xstats_disable`. -/
def coreDisable (p : ℕ) (ifindex : Int32) : HwstatsWorld :=
  (w.notify ifindex (.offXstats .disable)).setXstats p none

/-- `netdev_offload_xstats_get_stats`: what the drivers report is added to the counters. -/
def coreGetStats (p : ℕ) (ifindex : Int32) : HwstatsWorld :=
  let report := if w.active then w.eventReport ifindex .reportDelta ⟨false, 0⟩ else ⟨false, 0⟩
  (w.notify ifindex (.offXstats .reportDelta)).pushDelta p report.stats

/-- `unregister_netdevice`: the device is unlisted, its counters are turned off and the drivers are
told. -/
def unregisterNetdevice (p : ℕ) (ifindex : Int32) : HwstatsWorld :=
  let w := { w with devices := w.devices.erase p }
  let w := if w.xstatsEnabled p then w.coreDisable p ifindex else w
  w.notify ifindex .unregister

/-- `register_netdevice`: the device is listed, which the drivers are told. -/
def registerNetdevice (p : ℕ) (ifindex : Int32) : HwstatsWorld :=
  let w := { w with
    netdevs := Function.update w.netdevs p (some ⟨ifindex, 0, none⟩)
    devices := w.devices ++ [p] }
  w.notify ifindex .other

/-- `nsim_dev_hwstats_init`, where registering the notifier and creating the two directories may
fail. -/
def nsimDevHwstatsInit (notifier ddir l3Ddir : Option Errno) : HwstatsWorld × Except Errno Unit :=
  match notifier, ddir, l3Ddir with
  | some e, _, _ => (w, .error e)
  | none, some e, _ => (w, .error e)
  | none, none, some e => (w, .error e)
  | none, none, none => ({ w with l3List := [], active := true }, .ok ())

/-- `nsim_dev_hwstats_exit`: taking the notifier away unregisters all devices with it. -/
def nsimDevHwstatsExit : HwstatsWorld :=
  let w := w.devices.foldl (fun w p =>
    (w.netdevs p).elim w fun d => w.nsimDevHwstatsEvent d.ifindex .unregister) w
  { w.nsimDevHwsdevListWipe with active := false }

end HwstatsWorld

/-! ## Runs -/

/-- What can happen. -/
inductive HwstatsOp where
  | registerNetdev (p : ℕ) (ifindex : Int32)
  | unregisterNetdev (p : ℕ)
  | freeNetdev (p : ℕ)
  | coreEnable (p : ℕ) (othersFail : Bool)
  | coreDisable (p : ℕ)
  | coreGetStats (p : ℕ)
  | write (action : NsimDevHwstatsDo) (data : Bytes) (allocated : Bool)
  /-- A handler that holds the rtnl lock goes on. -/
  | finish
  | traffic
  | init (notifier ddir l3Ddir : Option Errno)
  | exit

namespace HwstatsWorld

/-- What the core does to a registered device, with the rtnl lock. -/
def onDevice (w : HwstatsWorld) (p : ℕ) (f : XstatsNetdev → Option HwstatsWorld) :
    Option HwstatsWorld :=
  if p ∈ w.devices ∧ w.pending = none then (w.netdevs p).bind f else none

/-- One step; `none` where it can not be taken. -/
def step (w : HwstatsWorld) : HwstatsOp → Option HwstatsWorld
  | .registerNetdev p ifindex =>
    if w.pending = none ∧ w.netdevs p = none ∧ w.byIndex ifindex = none then
      some (w.registerNetdevice p ifindex)
    else none
  | .unregisterNetdev p => w.onDevice p fun d => some (w.unregisterNetdevice p d.ifindex)
  | .freeNetdev p =>
    if p ∉ w.devices ∧ (w.netdevs p).any (·.refs = 0) then
      some { w with netdevs := Function.update w.netdevs p none }
    else none
  | .coreEnable p othersFail => w.onDevice p fun d =>
    if d.offloadXstatsL3 = none then some (w.coreEnable p d.ifindex othersFail) else none
  | .coreDisable p => w.onDevice p fun d =>
    if d.offloadXstatsL3.isSome then some (w.coreDisable p d.ifindex) else none
  | .coreGetStats p => w.onDevice p fun d =>
    if d.offloadXstatsL3.isSome then some (w.coreGetStats p d.ifindex) else none
  | .write action data allocated =>
    if w.active ∧ (w.pending = none ∨ action = .NSIM_DEV_HWSTATS_DO_FAIL) then
      some (w.nsimDevHwstatsDoWrite action data allocated).1
    else none
  | .finish =>
    match w.pending with
    | none => none
    | some (.enable netdev) => some (w.finishEnable netdev)
    | some (.disable hwsdev) => some (w.finishDisable hwsdev)
  | .traffic => if w.active then some w.nsimDevHwstatsTrafficBump else none
  | .init notifier ddir l3Ddir =>
    if w.active then none else some (w.nsimDevHwstatsInit notifier ddir l3Ddir).1
  | .exit => if w.active ∧ w.pending = none then some w.nsimDevHwstatsExit else none

end HwstatsWorld

/-- All runs, starting without network devices and before the driver is loaded. -/
def hwstatsSystem : TransitionSystem HwstatsWorld HwstatsOp where
  init w := w = ⟨fun _ => none, [], [], none, false⟩
  step w op w' := w.step op = some w'

end Netdevsim
