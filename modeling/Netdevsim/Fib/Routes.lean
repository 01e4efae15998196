import Mathlib.Data.List.AList
import Netdevsim.Kernel
import Netdevsim.Lib.Program

/-!
# The offloaded routes

What `fib.c` does with notifications about routes: the counting when one arrives, the queue, and the
processing of queued events, which programs routes.  A route object lives at an address that is
never reused, from its creation to its destruction; it is a member of `fib_rt_list` and, once
programmed, of the hash table.  Which allocations and hash table operations fail is read off a list
of faults, a missing fault being a success.
-/

namespace Netdevsim.Fib

open Program

/-! ## Data -/

/-- The address families whose routes are offloaded. -/
inductive Family where
  | AF_INET | AF_INET6
  deriving DecidableEq, Repr

/-- `struct nsim_fib_rt_key`, the address as a little-endian number. -/
structure NsimFibRtKey where
  addr : BitVec 128
  prefixLen : UInt8
  family : Family
  tbId : UInt32
  deriving DecidableEq, Repr

/-- What is read of a `struct fib_entry_notifier_info`. -/
structure FibEntryNotifierInfo where
  dst : UInt32
  dstLen : Int32
  fi : ℕ
  dscp : UInt8
  type : UInt8
  tbId : UInt32
  deriving DecidableEq, Repr

/-- `struct rt6key`. -/
structure Rt6Key where
  addr : BitVec 128
  plen : Int32
  deriving DecidableEq, Repr

/-- What is read of a `struct fib6_info`, and its address. -/
structure Fib6Info where
  ptr : ℕ
  fib6Dst : Rt6Key
  fib6Src : Rt6Key
  tb6Id : UInt32
  deriving DecidableEq, Repr

/-- `struct nsim_fib6_event`: the first of the nexthops it is about, and the others. -/
structure NsimFib6Event where
  rt : Fib6Info
  siblings : List Fib6Info
  deriving DecidableEq, Repr

def NsimFib6Event.rtArr (e : NsimFib6Event) : List Fib6Info := e.rt :: e.siblings

def NsimFib6Event.nrt6 (e : NsimFib6Event) : ℕ := e.rtArr.length

/-- `enum fib_event_type`, as far as it is told apart. -/
inductive FibEventType where
  | ENTRY_REPLACE | ENTRY_APPEND | ENTRY_DEL | RULE_ADD | RULE_DEL | other
  deriving DecidableEq, Repr

/-- `struct nsim_fib_event`, by family. -/
inductive NsimFibEvent where
  | inet (fenInfo : FibEntryNotifierInfo) (event : FibEventType)
  | inet6 (fib6Event : NsimFib6Event) (event : FibEventType)
  deriving DecidableEq, Repr

/-- `struct nsim_fib4_rt` without its common part. -/
structure NsimFib4Rt where
  fi : ℕ
  dscp : UInt8
  type : UInt8
  deriving DecidableEq, Repr

/-- `struct nsim_fib6_rt` without its common part. -/
structure NsimFib6Rt where
  nhList : List Fib6Info
  nhs : ℕ
  deriving DecidableEq, Repr

inductive NsimFibRtData where
  | inet (rt : NsimFib4Rt)
  | inet6 (rt : NsimFib6Rt)
  deriving DecidableEq, Repr

/-- A route object: `struct nsim_fib_rt` and what contains it. -/
structure NsimFibRt where
  key : NsimFibRtKey
  data : NsimFibRtData
  deriving DecidableEq, Repr

/-- `struct nsim_fib_entry`. -/
structure NsimFibEntry where
  max : UInt64
  num : ℤ
  deriving DecidableEq

/-- `struct nsim_per_fib_data`. -/
structure NsimPerFibData where
  fib : NsimFibEntry
  rules : NsimFibEntry
  deriving DecidableEq

/-- What the kernel is told about routes in hardware. -/
inductive HwFlags where
  /-- `fib_alias_hw_flags_set`. -/
  | alias (key : NsimFibRtKey) (rt : NsimFib4Rt) (trap offloadFailed : Bool)
  /-- `fib6_info_hw_flags_set`. -/
  | info (rt : Fib6Info) (trap offloadFailed : Bool)
  /-- The flag `trap` written directly. -/
  | trap (rt : Fib6Info) (trap : Bool)
  deriving DecidableEq, Repr

/-- The part of `struct nsim_fib_data` that routes use, and the memory. -/
structure NsimFibData where
  /-- `ipv4` and `ipv6`. -/
  perFib : Family → NsimPerFibData
  fibRtHt : AList fun _ : NsimFibRtKey => ℕ
  fibRtList : List ℕ
  fibEventQueue : List NsimFibEvent
  /-- The events `nsim_fib_event_work` has taken from the queue and not processed yet. -/
  working : List NsimFibEvent
  failRouteOffload : Bool
  failRouteDelete : Bool
  /-- Whether `fib_flush_work` is scheduled. -/
  flushScheduled : Bool
  /-- The route objects, by address. -/
  rt : ℕ → Option NsimFibRt
  /-- What the kernel was told so far. -/
  hwFlags : List HwFlags
  /-- The first address not yet handed out. -/
  nextPtr : ℕ
  /-- What the coming calls that may fail return. -/
  faults : List (Option Errno)

/-- An error, and the text for the user. -/
structure Refusal where
  errno : Errno
  extack : Option String
  deriving DecidableEq, Repr

abbrev FibM (α : Type) := Program NsimFibData Refusal α

/-! ## Memory and the hash table -/

/-- The result of the next call that may fail. -/
def fault : FibM (Option Errno) := do
  let s ← get
  set { s with faults := s.faults.tail }
  return s.faults.headD none

/-- An allocation that may fail and whose address does not matter. -/
def mayRunOut : FibM Unit := do
  if (← fault).isSome then throw ⟨.ENOMEM, none⟩

/-- The allocation of a route object. -/
def kzalloc : FibM ℕ := do
  mayRunOut
  let s ← get
  set { s with nextPtr := s.nextPtr + 1 }
  return s.nextPtr

def derefRt (p : ℕ) : FibM NsimFibRt := do
  match (← get).rt p with
  | some r => return r
  | none => goWrong

/-- A route object read as a `struct nsim_fib4_rt`. -/
def derefRt4 (p : ℕ) : FibM (NsimFibRtKey × NsimFib4Rt) := do
  match ← derefRt p with
  | ⟨key, .inet rt⟩ => return (key, rt)
  | _ => goWrong

/-- A route object read as a `struct nsim_fib6_rt`. -/
def derefRt6 (p : ℕ) : FibM (NsimFibRtKey × NsimFib6Rt) := do
  match ← derefRt p with
  | ⟨key, .inet6 rt⟩ => return (key, rt)
  | _ => goWrong

def setRt (p : ℕ) (r : NsimFibRt) : FibM Unit :=
  modify fun s => { s with rt := Function.update s.rt p (some r) }

def kfree (p : ℕ) : FibM Unit :=
  modify fun s => { s with rt := Function.update s.rt p none }

/-- `rhashtable_insert_fast`, which may fail for any reason. -/
def rhashtableInsertFast (key : NsimFibRtKey) (p : ℕ) : FibM Unit := do
  if let some e ← fault then throw ⟨e, none⟩
  let s ← get
  failIf (key ∈ s.fibRtHt) ⟨.EEXIST, none⟩
  set { s with fibRtHt := s.fibRtHt.insert key p }

/-- `rhashtable_replace_fast`, which may fail for any reason. -/
def rhashtableReplaceFast (key : NsimFibRtKey) (old p : ℕ) : FibM Unit := do
  if let some e ← fault then throw ⟨e, none⟩
  let s ← get
  failIf (s.fibRtHt.lookup key ≠ some old) ⟨.ENOENT, none⟩
  set { s with fibRtHt := s.fibRtHt.insert key p }

/-- `rhashtable_remove_fast`, which finds what is in the table and whose result no caller looks
at. -/
def rhashtableRemoveFast (key : NsimFibRtKey) (p : ℕ) : FibM Unit :=
  modify fun s =>
    if s.fibRtHt.lookup key = some p then { s with fibRtHt := s.fibRtHt.erase key } else s

/-! ## Counting -/

def NsimFibData.fib (s : NsimFibData) (family : Family) : NsimFibEntry := (s.perFib family).fib

def NsimFibData.setFib (s : NsimFibData) (family : Family) (num : ℤ) : NsimFibData :=
  { s with
    perFib := Function.update s.perFib family { s.perFib family with fib := ⟨(s.fib family).max, num⟩ } }

def NsimFibData.setRules (s : NsimFibData) (family : Family) (num : ℤ) : NsimFibData :=
  { s with
    perFib := Function.update s.perFib family
      { s.perFib family with rules := ⟨(s.perFib family).rules.max, num⟩ } }

/-- `atomic64_dec_if_positive`. -/
def atomic64DecIfPositive (num : ℤ) : ℤ := if 0 < num then num - 1 else num

/-- `nsim_fib_account`.  Its callers give the text for the user. -/
def nsimFibAccount (family : Family) (add : Bool) (extack : Option String) : FibM Unit := do
  let s ← get
  let entry := s.fib family
  if add then
    -- atomic64_add_unless
    failIf (entry.num = entry.max.toNat) ⟨.ENOSPC, extack⟩
    set (s.setFib family (entry.num + 1))
  else set (s.setFib family (atomic64DecIfPositive entry.num))

/-- `nsim_fib_rule_account`. -/
def nsimFibRuleAccount (family : Family) (add : Bool) : FibM Unit := do
  let s ← get
  let entry := (s.perFib family).rules
  if add then
    failIf (entry.num = entry.max.toNat)
      ⟨.ENOSPC, some "Exceeded number of supported fib rule entries"⟩
    set (s.setRules family (entry.num + 1))
  else set (s.setRules family (atomic64DecIfPositive entry.num))

/-! ## Route objects -/

/-- The key that `nsim_fib_rt_init` and `nsim_fib_rt_lookup` build for an IPv4 route. -/
def FibEntryNotifierInfo.key (fenInfo : FibEntryNotifierInfo) : NsimFibRtKey :=
  ⟨fenInfo.dst.toBitVec.setWidth 128, fenInfo.dstLen.toUInt32.toUInt8, .AF_INET, fenInfo.tbId⟩

/-- The key that is built for an IPv6 route. -/
def Fib6Info.key (rt : Fib6Info) : NsimFibRtKey :=
  ⟨rt.fib6Dst.addr, rt.fib6Dst.plen.toUInt32.toUInt8, .AF_INET6, rt.tb6Id⟩

/-- `nsim_fib_rt_init`. -/
def nsimFibRtInit (p : ℕ) (key : NsimFibRtKey) (data : NsimFibRtData) : FibM Unit :=
  modify fun s => { s with
    rt := Function.update s.rt p (some ⟨key, data⟩)
    fibRtList := p :: s.fibRtList }

/-- `nsim_fib_rt_fini`. -/
def nsimFibRtFini (p : ℕ) : FibM Unit :=
  modify fun s => { s with fibRtList := s.fibRtList.erase p }

/-- `nsim_fib_rt_lookup`. -/
def nsimFibRtLookup (key : NsimFibRtKey) : FibM (Option ℕ) :=
  return (← get).fibRtHt.lookup key

/-- Tell the kernel. -/
def hwFlagsSet (flags : HwFlags) : FibM Unit :=
  modify fun s => { s with hwFlags := s.hwFlags ++ [flags] }

/-! ## Inserting routes

The functions that insert routes of the two families differ in how a route object is created and
destroyed and in what the kernel is told about it. -/

/-- `nsim_fib4_rt_add` and `nsim_fib6_rt_add`. -/
def fibRtAdd (family : Family) (hwFlagsSet : ℕ → Bool → FibM Unit) (p : ℕ) : FibM Unit := do
  let r ← derefRt p
  unwind (nsimFibAccount family false none) (rhashtableInsertFast r.key p)
  hwFlagsSet p true

/-- `nsim_fib4_rt_replace` and `nsim_fib6_rt_replace`. -/
def fibRtReplace (family : Family) (hwFlagsSet : ℕ → Bool → FibM Unit) (destroy : ℕ → FibM Unit)
    (p old : ℕ) : FibM Unit := do
  nsimFibAccount family false none
  let r ← derefRt p
  rhashtableReplaceFast r.key old p
  hwFlagsSet p true
  hwFlagsSet old false
  destroy old

/-- `nsim_fib4_rt_insert` and `nsim_fib6_rt_insert`. -/
def fibRtInsert (key : NsimFibRtKey) (create : FibM ℕ) (destroy : ℕ → FibM Unit)
    (add : ℕ → FibM Unit) (replace : ℕ → ℕ → FibM Unit) : FibM Unit := do
  failIf (← get).failRouteOffload ⟨.EINVAL, none⟩
  let p ← create
  let old ← nsimFibRtLookup key
  unwind (destroy p) do
    match old with
    | none => add p
    | some old => replace p old

/-! ## IPv4 routes -/

/-- `nsim_fib4_rt_create`. -/
def nsimFib4RtCreate (fenInfo : FibEntryNotifierInfo) : FibM ℕ := do
  let p ← kzalloc
  nsimFibRtInit p fenInfo.key (.inet ⟨fenInfo.fi, fenInfo.dscp, fenInfo.type⟩)
  return p

/-- `nsim_fib4_rt_destroy`. -/
def nsimFib4RtDestroy (p : ℕ) : FibM Unit := do
  let _ ← derefRt4 p
  nsimFibRtFini p
  kfree p

/-- `nsim_fib4_rt_offload_failed_flag_set`. -/
def nsimFib4RtOffloadFailedFlagSet (fenInfo : FibEntryNotifierInfo) : FibM Unit :=
  hwFlagsSet (.alias fenInfo.key ⟨fenInfo.fi, fenInfo.dscp, fenInfo.type⟩ false true)

/-- `nsim_fib4_rt_hw_flags_set`. -/
def nsimFib4RtHwFlagsSet (p : ℕ) (trap : Bool) : FibM Unit := do
  let (key, rt) ← derefRt4 p
  hwFlagsSet (.alias key rt trap false)

/-- `nsim_fib4_rt_add`. -/
def nsimFib4RtAdd : ℕ → FibM Unit := fibRtAdd .AF_INET nsimFib4RtHwFlagsSet

/-- `nsim_fib4_rt_replace`. -/
def nsimFib4RtReplace : ℕ → ℕ → FibM Unit :=
  fibRtReplace .AF_INET nsimFib4RtHwFlagsSet nsimFib4RtDestroy

/-- `nsim_fib4_rt_insert`. -/
def nsimFib4RtInsert (fenInfo : FibEntryNotifierInfo) : FibM Unit :=
  fibRtInsert fenInfo.key (nsimFib4RtCreate fenInfo) nsimFib4RtDestroy nsimFib4RtAdd
    nsimFib4RtReplace

/-- `nsim_fib4_rt_remove`. -/
def nsimFib4RtRemove (fenInfo : FibEntryNotifierInfo) : FibM Unit := do
  if let some p ← nsimFibRtLookup fenInfo.key then
    let (key, _) ← derefRt4 p
    rhashtableRemoveFast key p
    nsimFib4RtDestroy p

/-- `nsim_fib4_event`. -/
def nsimFib4Event (fenInfo : FibEntryNotifierInfo) : FibEventType → FibM Unit
  | .ENTRY_REPLACE =>
    unwind (nsimFib4RtOffloadFailedFlagSet fenInfo) (nsimFib4RtInsert fenInfo)
  | .ENTRY_DEL => nsimFib4RtRemove fenInfo
  | _ => return ()

/-! ## IPv6 routes -/

/-- `nsim_fib6_rt_nh_add`. -/
def nsimFib6RtNhAdd (p : ℕ) (nh : Fib6Info) : FibM Unit := do
  mayRunOut
  let (key, rt) ← derefRt6 p
  setRt p ⟨key, .inet6 ⟨rt.nhList ++ [nh], rt.nhs + 1⟩⟩

/-- `nsim_fib6_rt_nh_del`, with the search of `nsim_fib6_rt_nh_find` by address. -/
def nsimFib6RtNhDel (p : ℕ) (nh : Fib6Info) : FibM Unit := do
  let (key, rt) ← derefRt6 p
  if rt.nhList.any (·.ptr = nh.ptr) then
    setRt p ⟨key, .inet6 ⟨rt.nhList.eraseP (·.ptr = nh.ptr), rt.nhs - 1⟩⟩

/-- The loops that add nexthops to a route.  When one fails the ones before it, given last one
first, are deleted again.  `flag` is what is told the kernel about a nexthop added or deleted. -/
def nsimFib6RtNhAdds (flag : Fib6Info → Bool → FibM Unit) (p : ℕ) (added : List Fib6Info) :
    List Fib6Info → FibM Unit
  | [] => return ()
  | nh :: rest => do
    let delAdded := added.forM fun nh => do
      flag nh false
      nsimFib6RtNhDel p nh
    unwind delAdded (nsimFib6RtNhAdd p nh)
    flag nh true
    nsimFib6RtNhAdds flag p (nh :: added) rest

/-- `nsim_fib6_rt_create`. -/
def nsimFib6RtCreate (fib6Event : NsimFib6Event) : FibM ℕ := do
  let p ← kzalloc
  nsimFibRtInit p fib6Event.rt.key (.inet6 ⟨[], 0⟩)
  unwind (do nsimFibRtFini p; kfree p)
    (nsimFib6RtNhAdds (fun _ _ => return ()) p [] fib6Event.rtArr)
  return p

/-- `nsim_fib6_rt_destroy`. -/
def nsimFib6RtDestroy (p : ℕ) : FibM Unit := do
  let (_, rt) ← derefRt6 p
  rt.nhList.forM fun nh => nsimFib6RtNhDel p nh
  nsimFibRtFini p
  kfree p

/-- `nsim_fib6_rt_append`. -/
def nsimFib6RtAppend (fib6Event : NsimFib6Event) : FibM Unit := do
  failIf (← get).failRouteOffload ⟨.EINVAL, none⟩
  match ← nsimFibRtLookup fib6Event.rt.key with
  | none => throw ⟨.EINVAL, none⟩
  | some p =>
    nsimFib6RtNhAdds (fun nh trap => hwFlagsSet (.trap nh trap)) p [] fib6Event.rtArr

/-- `nsim_fib6_rt_offload_failed_flag_set`. -/
def nsimFib6RtOffloadFailedFlagSet (fib6Event : NsimFib6Event) : FibM Unit :=
  fib6Event.rtArr.forM fun rt => hwFlagsSet (.info rt false true)

/-- `nsim_fib6_rt_hw_flags_set`. -/
def nsimFib6RtHwFlagsSet (p : ℕ) (trap : Bool) : FibM Unit := do
  let (_, rt) ← derefRt6 p
  rt.nhList.forM fun nh => hwFlagsSet (.info nh trap false)

/-- `nsim_fib6_rt_add`. -/
def nsimFib6RtAdd : ℕ → FibM Unit := fibRtAdd .AF_INET6 nsimFib6RtHwFlagsSet

/-- `nsim_fib6_rt_replace`. -/
def nsimFib6RtReplace : ℕ → ℕ → FibM Unit :=
  fibRtReplace .AF_INET6 nsimFib6RtHwFlagsSet nsimFib6RtDestroy

/-- `nsim_fib6_rt_insert`. -/
def nsimFib6RtInsert (fib6Event : NsimFib6Event) : FibM Unit :=
  fibRtInsert fib6Event.rt.key (nsimFib6RtCreate fib6Event) nsimFib6RtDestroy nsimFib6RtAdd
    nsimFib6RtReplace

/-- `nsim_fib6_rt_remove`.  A deletion of as many nexthops as the route has deletes the route. -/
def nsimFib6RtRemove (fib6Event : NsimFib6Event) : FibM Unit := do
  if let some p ← nsimFibRtLookup fib6Event.rt.key then
    let (key, rt) ← derefRt6 p
    if fib6Event.nrt6 ≠ rt.nhs then
      fib6Event.rtArr.forM fun nh => nsimFib6RtNhDel p nh
    else
      rhashtableRemoveFast key p
      nsimFib6RtDestroy p

/-- `nsim_fib6_event`.  Routes with a source prefix are not programmed. -/
def nsimFib6Event (fib6Event : NsimFib6Event) (event : FibEventType) : FibM Unit :=
  if fib6Event.rt.fib6Src.plen ≠ 0 then return ()
  else
    match event with
    | .ENTRY_REPLACE =>
      unwind (nsimFib6RtOffloadFailedFlagSet fib6Event) (nsimFib6RtInsert fib6Event)
    | .ENTRY_APPEND =>
      unwind (nsimFib6RtOffloadFailedFlagSet fib6Event) (nsimFib6RtAppend fib6Event)
    | .ENTRY_DEL => nsimFib6RtRemove fib6Event
    | _ => return ()

/-- The processing of an event, whose errors `nsim_fib_event` drops. -/
def NsimFibEvent.process : NsimFibEvent → FibM Unit
  | .inet fenInfo event => nsimFib4Event fenInfo event
  | .inet6 fib6Event event => nsimFib6Event fib6Event event

/-! ## Notifications -/

/-- `struct fib_notifier_info`, by family. -/
inductive FibNotifierInfo where
  | inet (fenInfo : FibEntryNotifierInfo)
  /-- The route notified and those of its siblings that are counted in `nsiblings`. -/
  | inet6 (rt : Fib6Info) (siblings : List Fib6Info)
  | other
  deriving DecidableEq, Repr

/-- What a notifier returns. -/
inductive Notify where
  | DONE
  | BAD (extack : Option String)
  | errno (e : Refusal)
  deriving DecidableEq, Repr

/-- The counting of `nsim_fib4_prepare_event` and `nsim_fib6_prepare_event`. -/
def prepareEvent (family : Family) : FibEventType → FibM Unit
  | .ENTRY_REPLACE =>
    nsimFibAccount family true (some "Exceeded number of supported fib entries")
  | .ENTRY_DEL => do
    failIf (← get).failRouteDelete ⟨.EINVAL, some "Failed to process route deletion"⟩
    nsimFibAccount family false none
  | _ => return ()

/-- `nsim_fib4_prepare_event`. -/
def nsimFib4PrepareEvent (fenInfo : FibEntryNotifierInfo) (event : FibEventType) :
    FibM NsimFibEvent := do
  prepareEvent .AF_INET event
  return .inet fenInfo event

/-- `nsim_fib6_prepare_event`, with `nsim_fib6_event_init`. -/
def nsimFib6PrepareEvent (rt : Fib6Info) (siblings : List Fib6Info) (event : FibEventType) :
    FibM NsimFibEvent := do
  -- rt_arr
  mayRunOut
  prepareEvent .AF_INET6 event
  return .inet6 ⟨rt, siblings⟩ event

/-- The allocation and preparation of a queued event.  Other families are ignored. -/
def newFibEvent (event : FibEventType) : FibNotifierInfo → FibM (Option NsimFibEvent)
  | .inet fenInfo => do
    mayRunOut
    return some (← nsimFib4PrepareEvent fenInfo event)
  | .inet6 rt siblings => do
    mayRunOut
    return some (← nsimFib6PrepareEvent rt siblings event)
  | .other => return none

/-- `nsim_fib_event_schedule_work`. -/
def nsimFibEventScheduleWork (info : FibNotifierInfo) (event : FibEventType) : FibM Notify :=
  tryCatch (do
      if let some e ← newFibEvent event info then
        modify fun s => { s with fibEventQueue := s.fibEventQueue ++ [e] }
      return .DONE)
    fun refusal => do
      if event = .ENTRY_DEL then modify fun s => { s with flushScheduled := true }
      return .BAD refusal.extack

/-- `nsim_fib_rule_event` and what the notifier makes of its error. -/
def notifyRule (info : FibNotifierInfo) (add : Bool) : FibM Notify :=
  tryCatch (do
      match info with
      | .inet _ => nsimFibRuleAccount .AF_INET add
      | .inet6 _ _ => nsimFibRuleAccount .AF_INET6 add
      | .other => pure ()
      return .DONE)
    fun refusal => return .errno refusal

/-- `nsim_fib_event_nb`. -/
def nsimFibEventNb (info : FibNotifierInfo) : FibEventType → FibM Notify
  | .RULE_ADD => notifyRule info true
  | .RULE_DEL => notifyRule info false
  | .other => return .DONE
  | event => nsimFibEventScheduleWork info event

/-! ## Work -/

/-- `nsim_fib4_rt_free`, `nsim_fib6_rt_free` and `nsim_fib_rt_free`. -/
def nsimFibRtFree (p : ℕ) : FibM Unit := do
  match (← derefRt p).data with
  | .inet _ =>
    nsimFib4RtHwFlagsSet p false
    nsimFibAccount .AF_INET false none
    nsimFib4RtDestroy p
  | .inet6 _ =>
    nsimFib6RtHwFlagsSet p false
    nsimFibAccount .AF_INET6 false none
    nsimFib6RtDestroy p

/-- The loop of `nsim_fib_flush_work` and `nsim_fib_dump_inconsistent`. -/
def flushRoutes : FibM Unit := do
  (← get).fibRtList.forM fun p => do
    let r ← derefRt p
    rhashtableRemoveFast r.key p
    nsimFibRtFree p

/-- `nsim_fib_dump_inconsistent` after the pending work. -/
def nsimFibDumpInconsistent : FibM Unit := do
  flushRoutes
  modify fun s => (s.setRules .AF_INET 0).setRules .AF_INET6 0

/-- The first part of `nsim_fib_event_work`: the queue is taken. -/
def takeEvents (s : NsimFibData) : NsimFibData :=
  { s with working := s.fibEventQueue, fibEventQueue := [] }

/-- One round of the loop of `nsim_fib_event_work`: the event, and whether its processing
succeeds. -/
def nextEvent : FibM (Option (NsimFibEvent × Bool)) := do
  match (← get).working with
  | [] => return none
  | e :: rest =>
    let ok ← attempt e.process
    modify fun s => { s with working := rest }
    return some (e, ok)

end Netdevsim.Fib
