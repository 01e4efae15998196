import Netdevsim.Fib.Events
import Netdevsim.Lib.Pending
import Netdevsim.Lib.Runs

/-!
# Notifications and work, interleaved

The state has, next to the data of `fib.c`, the kernel FIB that the notifications are about, and two
things that are only observed: what the FIB is as far as the processed events tell, and by which
event each key was last inserted.  No call goes wrong, and list and hash table always have the same
routes.
-/

namespace Netdevsim.Fib

open Program

/-! ## The kernel FIB -/

/-- A route of the kernel FIB of IPv6 is also told by its source prefix, if it has one. -/
abbrev Fib6Key := NsimFibRtKey × Option Rt6Key

def Fib6Info.fibKey (rt : Fib6Info) : Fib6Key :=
  (rt.key, if rt.fib6Src.plen = 0 then none else some rt.fib6Src)

/-- The nexthops of the routes of IPv6.  A route without nexthops is not there. -/
abbrev Fib6 := Fib6Key → List Fib6Info

/-- How an event changes the set of routes of a family. -/
def NsimFibEvent.change (family : Family) (e : NsimFibEvent) : Option (Change NsimFibRtKey) :=
  if e.family = family then
    match e.type with
    | .ENTRY_REPLACE => some (.add e.key)
    | .ENTRY_DEL => some (.del e.key)
    | _ => none
  else none

def changes (family : Family) (events : List NsimFibEvent) : List (Change NsimFibRtKey) :=
  events.filterMap (·.change family)

/-- An event changes the routes of IPv4. -/
def NsimFibEvent.install4 (e : NsimFibEvent) (fib : Finset NsimFibRtKey) : Finset NsimFibRtKey :=
  (e.change .AF_INET).toList.foldl Change.apply fib

/-- The nexthops without one of them. -/
def delNexthop (nhs : List Fib6Info) (nh : Fib6Info) : List Fib6Info :=
  nhs.eraseP (·.ptr = nh.ptr)

/-- An event changes the routes of IPv6. -/
def NsimFibEvent.install6 (fib : Fib6) : NsimFibEvent → Fib6
  | .inet _ _ => fib
  | .inet6 e event =>
    match event with
    | .ENTRY_REPLACE => Function.update fib e.rt.fibKey e.rtArr
    | .ENTRY_APPEND => Function.update fib e.rt.fibKey (fib e.rt.fibKey ++ e.rtArr)
    | .ENTRY_DEL => Function.update fib e.rt.fibKey (e.rtArr.foldl delNexthop (fib e.rt.fibKey))
    | _ => fib

/-- The change stays in the kernel FIB even if the event is refused: deletions, and multipath
routes, which are first added and only then notified. -/
def NsimFibEvent.stays (e : NsimFibEvent) : Bool := e.type = .ENTRY_DEL || 1 < e.nexthops.length

/-! ## The system -/

structure FibSystem where
  data : NsimFibData
  /-- The kernel FIB of IPv4. -/
  kernel4 : Finset NsimFibRtKey
  /-- The kernel FIB of IPv6. -/
  kernel6 : Fib6
  /-- The kernel FIB of IPv4 as far as the events processed so far tell. -/
  processed4 : Finset NsimFibRtKey
  /-- The address and the event of the last insertion of a route with the key that succeeded. -/
  inserted : NsimFibRtKey → Option (ℕ × NsimFibEvent)

inductive FibAction where
  /-- The kernel notifies. -/
  | notify (info : FibNotifierInfo) (event : FibEventType) (faults : List (Option Errno))
  /-- `nsim_fib_event_work` takes the queue. -/
  | take
  /-- `nsim_fib_event_work` processes an event. -/
  | next (faults : List (Option Errno))
  /-- `nsim_fib_flush_work`. -/
  | flush
  /-- The dump is restarted. -/
  | dump
  /-- The user writes `fail_route_offload`. -/
  | failRouteOffload (value : Bool)
  /-- The user writes `fail_route_delete`. -/
  | failRouteDelete (value : Bool)

namespace FibSystem

/-- The kernel FIB after a notification. -/
def notified (s : FibSystem) (info : FibNotifierInfo) (event : FibEventType) (accepted : Bool) :
    FibSystem :=
  match info.event event with
  | none => s
  | some (_, e) =>
    if accepted || e.stays then
      { s with kernel4 := e.install4 s.kernel4, kernel6 := e.install6 s.kernel6 }
    else s

/-- What is observed when an event is processed. -/
def told (s : FibSystem) (e : NsimFibEvent) (ok : Bool) : FibSystem :=
  { s with
    processed4 := e.install4 s.processed4
    inserted :=
      if ok = true ∧ e.type = .ENTRY_REPLACE ∧ ¬e.HasSource then
        Function.update s.inserted e.key (some (s.data.nextPtr, e))
      else s.inserted }

/-- When an action may happen.  The flush work waits for the event work, and holds `fib_lock`. -/
def Enabled (s : FibSystem) : FibAction → Prop
  | .take => s.data.working = []
  | .next _ => s.data.working ≠ []
  | .flush => s.data.flushScheduled = true ∧ s.data.working = []
  | .dump => s.data.working = [] ∧ s.data.fibEventQueue = []
  | _ => True

/-- The state after an action, unless it goes wrong. -/
def next (s : FibSystem) : FibAction → Option FibSystem
  | .notify info event faults =>
    match (nsimFibEventNb info event).exec { s.data with faults := faults } with
    | some (.ok result, data) => some { s.notified info event (result = .DONE) with data := data }
    | _ => none
  | .take => some { s with data := takeEvents s.data }
  | .next faults =>
    match nextEvent.exec { s.data with faults := faults } with
    | some (.ok (some (e, ok)), data) => some { s.told e ok with data := data }
    | _ => none
  | .flush =>
    match flushRoutes.exec { s.data with flushScheduled := false } with
    | some (.ok _, data) => some { s with data := data }
    | _ => none
  | .dump =>
    match nsimFibDumpInconsistent.exec s.data with
    | some (.ok _, data) => some { s with data := data }
    | _ => none
  | .failRouteOffload value => some { s with data := { s.data with failRouteOffload := value } }
  | .failRouteDelete value => some { s with data := { s.data with failRouteDelete := value } }

/-- Nothing is there yet. -/
def start (fibMax rulesMax : Family → UInt64) : FibSystem where
  data :=
    { perFib := fun family => ⟨⟨fibMax family, 0⟩, ⟨rulesMax family, 0⟩⟩
      fibRtHt := ∅, fibRtList := [], fibEventQueue := [], working := []
      failRouteOffload := false, failRouteDelete := false, flushScheduled := false
      rt := fun _ => none, hwFlags := [], nextPtr := 0, faults := [] }
  kernel4 := ∅
  kernel6 := fun _ => []
  processed4 := ∅
  inserted := fun _ => none

end FibSystem

instance (s : FibSystem) (a : FibAction) : Decidable (s.Enabled a) := by
  cases a <;> unfold FibSystem.Enabled <;> infer_instance

/-- The state after an action, if it may happen and meets the condition. -/
def FibSystem.advance (C : FibSystem → FibAction → Prop) [∀ s a, Decidable (C s a)]
    (s : FibSystem) (a : FibAction) : Option FibSystem :=
  if s.Enabled a ∧ C s a then s.next a else none

/-- Notifications, work and the user, interleaved in any order. -/
def fibSystem : TransitionSystem FibSystem FibAction where
  init s := ∃ fibMax rulesMax, s = FibSystem.start fibMax rulesMax
  step s a t := s.Enabled a ∧ s.next a = some t

/-! ## What a step does -/

section Steps

variable {s : FibSystem}

/-- A program that does not fail either leads on. -/
theorem exec_of_twp {σ ε α : Type} {m : Program σ ε α} {Q : α → σ → Prop} {u : σ}
    (rule : twp m Q (fun _ _ => False) u) : ∃ a v, m.exec u = some (.ok a, v) ∧ Q a v := by
  unfold twp at rule
  split at rule
  · exact rule.elim
  · exact ⟨_, _, by assumption, rule⟩
  · exact rule.elim

theorem Sound.setFaults {s : NsimFibData} (sound : Sound s) (faults : List (Option Errno)) :
    Sound { s with faults := faults } := sound.of_eq rfl rfl rfl le_rfl

/-- A notification leads on, and what it does. -/
theorem next_notify (s : FibSystem) (info : FibNotifierInfo) (event : FibEventType)
    (faults : List (Option Errno)) : ∃ result data,
    s.next (.notify info event faults) =
      some { s.notified info event (result = .DONE) with data := data } ∧
    Notified { s.data with faults := faults } info event result data := by
  obtain ⟨result, data, run, notified⟩ := exec_of_twp
    (twp_nsimFibEventNb (s := { s.data with faults := faults }) info event)
  refine ⟨result, data, ?_, notified⟩
  unfold FibSystem.next
  simp only [run]

/-- The processing of an event leads on, and what it does. -/
theorem next_next (sound : Sound s.data) (working : s.data.working ≠ [])
    (faults : List (Option Errno)) :
    ∃ e rest ok data, s.data.working = e :: rest ∧
      s.next (.next faults) = some { s.told e ok with data := { data with working := rest } } ∧
      Processed { s.data with faults := faults } e ok data := by
  obtain ⟨e, rest, taken⟩ := List.exists_cons_of_ne_nil working
  obtain ⟨_, _, run, ok, data, rfl, processed, rfl⟩ := exec_of_twp
    (twp_nextEvent (sound.setFaults faults) (by exact taken))
  refine ⟨e, rest, ok, data, taken, ?_, processed⟩
  unfold FibSystem.next
  simp only [run]

theorem next_flush (sound : Sound s.data) :
    ∃ data, s.next .flush = some { s with data := data } ∧ Sound data ∧ data.fibRtList = [] := by
  have start : Sound { s.data with flushScheduled := false } := sound.of_eq rfl rfl rfl le_rfl
  obtain ⟨_, data, run, sound, list⟩ := exec_of_twp (twp_flushRoutes start)
  refine ⟨data, ?_, sound, list⟩
  unfold FibSystem.next
  simp only [run]

theorem next_dump (sound : Sound s.data) :
    ∃ data, s.next .dump = some { s with data := data } ∧ Sound data ∧ data.fibRtList = [] := by
  obtain ⟨_, data, run, sound, list⟩ := exec_of_twp (twp_nsimFibDumpInconsistent sound)
  refine ⟨data, ?_, sound, list⟩
  unfold FibSystem.next
  simp only [run]

end Steps

/-! ## List and hash table -/

section Listed

variable {s t : FibSystem}

/-- The routes are those last inserted. -/
structure FibSystem.Listed (s : FibSystem) : Prop where
  sound : Sound s.data
  last : ∀ key p, s.data.fibRtHt.lookup key = some p → ∃ e, s.inserted key = some (p, e) ∧
    e.key = key ∧ (e.family = .AF_INET → s.data.rt p = some e.newRt)

/-- The routes may be taken away. -/
theorem FibSystem.Listed.of_empty {data : NsimFibData} (sound : Sound data)
    (list : data.fibRtList = []) : Listed { s with data := data } := by
  refine ⟨sound, fun key p at_key => ?_⟩
  have mem : p ∈ data.fibRtList := (sound.listed p).2 ⟨key, at_key⟩
  rw [list] at mem
  cases mem

theorem FibSystem.Listed.of_eq (listed : s.Listed) (ht : t.data.fibRtHt = s.data.fibRtHt)
    (list : t.data.fibRtList = s.data.fibRtList) (rt : t.data.rt = s.data.rt)
    (next : s.data.nextPtr ≤ t.data.nextPtr) (inserted : t.inserted = s.inserted) : t.Listed := by
  refine ⟨listed.sound.of_eq list ht rt next, ?_⟩
  rw [ht, rt, inserted]
  exact listed.last

theorem FibSystem.notified_inserted (s : FibSystem) (info : FibNotifierInfo) (event : FibEventType)
    (accepted : Bool) : (s.notified info event accepted).inserted = s.inserted := by
  unfold notified
  split
  · rfl
  · split <;> rfl

theorem listed_notify {info : FibNotifierInfo} {event : FibEventType} {result : Notify}
    {accepted : Bool} {faults : List (Option Errno)} {data : NsimFibData} (listed : s.Listed)
    (notified : Notified { s.data with faults := faults } info event result data) :
    FibSystem.Listed { s.notified info event accepted with data := data } := by
  have same := s.notified_inserted info event accepted
  cases notified with
  | queued _ queued =>
    obtain ⟨family, e, faults, own, accepted, rfl⟩ := queued
    rw [NsimFibData.announce_eq]
    exact listed.of_eq rfl rfl rfl le_rfl same
  | refused refused =>
    obtain ⟨_, _, _, _, _, _, rfl⟩ := refused
    exact listed.of_eq rfl rfl rfl le_rfl same
  | unrelated => exact listed.of_eq rfl rfl rfl le_rfl same

theorem listed_next {e : NsimFibEvent} {ok : Bool} {faults : List (Option Errno)}
    {rest : List NsimFibEvent} {data : NsimFibData} (listed : s.Listed)
    (processed : Processed { s.data with faults := faults } e ok data) :
    FibSystem.Listed { s.told e ok with data := { data with working := rest } } := by
  have before := listed.sound.setFaults faults
  have after := processed.sound before
  refine ⟨after.of_eq rfl rfl rfl le_rfl, fun key p at_key => ?_⟩
  by_cases insertion : ok = true ∧ e.type = .ENTRY_REPLACE ∧ ¬e.HasSource
  · have inserted : (s.told e ok).inserted =
        Function.update s.inserted e.key (some (s.data.nextPtr, e)) := if_pos insertion
    obtain ⟨at_e, live⟩ := processed.of_inserts before insertion.1 insertion.2.1 insertion.2.2
    by_cases here : key = e.key
    · subst here
      obtain rfl : s.data.nextPtr = p := Option.some.inj (at_e.symm.trans at_key)
      refine ⟨e, ?_, rfl, fun _ => live⟩
      show (s.told e ok).inserted e.key = _
      rw [inserted, Function.update_self]
    · obtain ⟨old, kept⟩ := processed.of_lookup before at_key fun _ => here
      obtain ⟨e', last, own, object⟩ := listed.last key p old
      refine ⟨e', ?_, own, fun inet => kept _ (e'.of_newRt.2.trans inet) (object inet)⟩
      show (s.told e ok).inserted key = _
      rw [inserted, Function.update_of_ne here, last]
  · obtain ⟨old, kept⟩ := processed.of_lookup before at_key fun works => absurd works insertion
    obtain ⟨e', last, own, object⟩ := listed.last key p old
    refine ⟨e', ?_, own, fun inet => kept _ (e'.of_newRt.2.trans inet) (object inet)⟩
    show (s.told e ok).inserted key = _
    rw [FibSystem.told, if_neg insertion, last]

theorem listed_start (fibMax rulesMax : Family → UInt64) :
    (FibSystem.start fibMax rulesMax).Listed := by
  have none : ∀ key, (FibSystem.start fibMax rulesMax).data.fibRtHt.lookup key = none := fun key =>
    AList.lookup_empty key
  refine ⟨⟨List.nodup_nil, fun p => ⟨nofun, ?_⟩, fun key p at_key => ?_, nofun, fun _ _ => rfl⟩,
    fun key p at_key => ?_⟩
  · rintro ⟨key, at_key⟩
    rw [none] at at_key
    cases at_key
  · rw [none] at at_key
    cases at_key
  · rw [none] at at_key
    cases at_key

/-- Every action that may happen leads on, and keeps list and table. -/
theorem next_listed (listed : s.Listed) {a : FibAction} (enabled : s.Enabled a) :
    ∃ t, s.next a = some t ∧ t.Listed := by
  cases a with
  | notify info event faults =>
    obtain ⟨result, data, next, notified⟩ := next_notify s info event faults
    exact ⟨_, next, listed_notify listed notified⟩
  | take => exact ⟨_, rfl, listed.of_eq rfl rfl rfl le_rfl rfl⟩
  | next faults =>
    obtain ⟨e, rest, ok, data, -, next, processed⟩ := next_next listed.sound enabled faults
    exact ⟨_, next, listed_next listed processed⟩
  | flush =>
    obtain ⟨data, next, sound, list⟩ := next_flush listed.sound
    exact ⟨_, next, .of_empty sound list⟩
  | dump =>
    obtain ⟨data, next, sound, list⟩ := next_dump listed.sound
    exact ⟨_, next, .of_empty sound list⟩
  | failRouteOffload value => exact ⟨_, rfl, listed.of_eq rfl rfl rfl le_rfl rfl⟩
  | failRouteDelete value => exact ⟨_, rfl, listed.of_eq rfl rfl rfl le_rfl rfl⟩

theorem listed_of_reachable (reachable : fibSystem.Reachable s) : s.Listed := by
  refine TransitionSystem.Reachable.induct ?_ ?_ reachable
  · rintro _ ⟨fibMax, rulesMax, rfl⟩
    exact listed_start fibMax rulesMax
  · rintro s a t _ listed ⟨enabled, next⟩
    obtain ⟨u, next', listed'⟩ := next_listed listed enabled
    obtain rfl : u = t := Option.some.inj (next'.symm.trans next)
    exact listed'

/-- An IPv4 route to a subnet of one octet. -/
def subnet (net : UInt32) : FibEntryNotifierInfo := ⟨net, 8, 0, 0, 1, 254⟩

/-- A given run of the system whose steps meet the condition. -/
theorem reachable_of_advance (C : FibSystem → FibAction → Prop) [∀ s a, Decidable (C s a)]
    (as : List FibAction) (test : FibSystem → Bool)
    (passes : (TransitionSystem.follow (FibSystem.advance C) as
      (FibSystem.start (fun _ => 2) fun _ => 2)).any test = true) :
    ∃ t, (fibSystem.guard C).Reachable t ∧ test t = true := by
  have start : (fibSystem.guard C).init (FibSystem.start (fun _ => 2) fun _ => 2) := ⟨_, _, rfl⟩
  refine TransitionSystem.Reachable.exists_of_follow (.init start) as test ?_ passes
  intro a _ s t next
  unfold FibSystem.advance at next
  split at next
  · rename_i may
    exact ⟨⟨may.1, next⟩, may.2⟩
  · cases next

end Listed

end Netdevsim.Fib
