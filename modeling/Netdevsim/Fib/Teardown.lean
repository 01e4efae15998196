import Netdevsim.Fib.Counting
import Netdevsim.Fib.Nexthops

/-!
# Taking the tables down

No route object is lost: in every state the objects that were allocated and not freed are those of
`fib_rt_list`.  So `nsim_fib_destroy`, which has to get along with whatever events are pending,
frees all of them, and its warnings are never given (`fib_destroyed`).  The nexthops are taken back
from their counter one by one, which ends at zero (`nexthops_destroyed`).
-/

namespace Netdevsim.Fib

open Program

/-! ## The code -/

/-- What `flush_work` waits for: a run of `nsim_fib_event_work` that has begun ends, and another one
takes what was queued since. -/
def flushEventWork : FibM Unit := do
  (← get).working.forM fun _ => do let _ ← nextEvent
  modify takeEvents
  (← get).working.forM fun _ => do let _ ← nextEvent

/-- The part of `nsim_fib_destroy` that is about routes, after the notifiers are gone.  The hash
table is visited in some order.  The result says which of the two warnings are given. -/
def nsimFibDestroy (order : (AList fun _ : NsimFibRtKey => ℕ) → List ℕ) : FibM (Bool × Bool) := do
  -- cancel_work_sync
  modify fun s => { s with flushScheduled := false }
  flushEventWork
  (order (← get).fibRtHt).forM nsimFibRtFree
  modify fun s => { s with fibRtHt := ∅ }
  let s ← get
  return (s.fibEventQueue ≠ [], s.fibRtList ≠ [])

/-! ## No object is lost -/

/-- Every object there is is in the list. -/
def AllListed (s : NsimFibData) : Prop := ∀ p r, s.rt p = some r → p ∈ s.fibRtList

section Kept

variable {s t : NsimFibData} {p : ℕ} {r : NsimFibRt} {e : NsimFibEvent} {ok : Bool}

theorem AllListed.of_eq (all : AllListed s) (rt : t.rt = s.rt) (list : t.fibRtList = s.fibRtList) :
    AllListed t := by
  intro p r live
  rw [list]
  exact all p r (rt ▸ live)

theorem AllListed.unchanged (all : AllListed s) (same : Unchanged s t) : AllListed t := by
  obtain ⟨_, _, _, _, rfl⟩ := same
  exact all.of_eq rfl rfl

theorem AllListed.dropRt (all : AllListed s) (p : ℕ) : AllListed (s.dropRt p) := by
  intro q r live
  have away : q ≠ p := by
    rintro rfl
    have gone : (s.dropRt q).rt q = none := Function.update_self ..
    cases gone.symm.trans live
  exact (List.mem_erase_of_ne away).2 (all q r ((Function.update_of_ne away ..).symm.trans live))

theorem AllListed.changeRt (all : AllListed s) (live : s.rt p = some r) (r' : NsimFibRt) :
    AllListed (s.changeRt p r') := by
  intro q r'' live'
  by_cases here : q = p
  · subst here
    exact all q r live
  · exact all q r'' ((Function.update_of_ne here ..).symm.trans live')

theorem AllListed.programRt (all : AllListed s) (r : NsimFibRt) : AllListed (s.programRt r) := by
  have inserted : AllListed (s.insertRt r) := by
    intro q r' live
    by_cases here : q = s.nextPtr
    · exact here ▸ List.mem_cons_self
    · exact List.mem_cons_of_mem _ (all q r' ((Function.update_of_ne here ..).symm.trans live))
  unfold NsimFibData.programRt
  split
  · exact inserted
  · exact (inserted.dropRt _).of_eq rfl rfl

theorem AllListed.removeKey (all : AllListed s) (key : NsimFibRtKey) :
    AllListed (s.removeKey key) := by
  unfold NsimFibData.removeKey
  split
  · exact all
  · exact (all.dropRt _).of_eq rfl rfl

theorem Processed.allListed (all : AllListed s) (processed : Processed s e ok t) :
    AllListed t := by
  cases processed with
  | inserted _ _ _ _ program => exact (all.programRt _).unchanged program
  | refused _ _ same => exact all.unchanged same
  | failed _ _ _ uncount => exact (all.of_eq (t := s.uncount e.family) rfl rfl).unchanged uncount
  | removed => exact all.removeKey e.key
  | extended _ _ live _ changed => exact (all.changeRt live _).unchanged changed
  | interrupted _ _ live _ changed => exact (all.changeRt live _).unchanged changed
  | missed _ _ same => exact all.unchanged same
  | shrunk _ _ live _ _ => exact all.changeRt live _
  | ignored => exact all

/-- A flush frees what it takes from the list. -/
theorem twp_flushRoutes_allListed (sound : Sound s) (all : AllListed s) :
    twp flushRoutes (fun _ t => AllListed t) (fun _ _ => False) s := by
  unfold flushRoutes
  rw [twp_bind, twp_get]
  refine twp_mono (twp_forM
    (I := fun rest t => Sound t ∧ t.fibRtList = rest ∧ AllListed t) ?_ ⟨sound, rfl, all⟩)
    (fun _ _ after => after.2.2) fun _ _ => id
  rintro p rest t ⟨sound, list, all⟩
  have mem : p ∈ t.fibRtList := by
    rw [list]
    exact List.mem_cons_self
  obtain ⟨key, at_key⟩ := (sound.listed p).1 mem
  obtain ⟨r, live, rfl⟩ := sound.object key p at_key
  rw [twp_bind, twp_derefRt]
  refine ⟨r, live, ?_⟩
  rw [twp_bind, twp_rhashtableRemoveFast at_key]
  refine twp_mono (twp_nsimFibRtFree (by exact live) (sound.wellFormed p r live)) ?_
    fun _ _ => False.elim
  rintro _ u same
  have removed : Sound ((t.removeRt r.key p).uncount r.key.family) :=
    (sound.removeRt at_key).uncount _
  have kept : AllListed ((t.removeRt r.key p).uncount r.key.family) :=
    (all.dropRt p).of_eq rfl rfl
  obtain ⟨_, _, _, le, rfl⟩ := same
  refine ⟨removed.of_eq rfl rfl rfl le, ?_, kept.of_eq rfl rfl⟩
  show t.fibRtList.erase p = rest
  rw [list, List.erase_cons_head]

end Kept

section Reachable

variable {s : FibSystem}

theorem allListed_next {t : FibSystem} {a : FibAction} (listed : s.Listed) (all : AllListed s.data)
    (enabled : s.Enabled a) (next : s.next a = some t) : AllListed t.data := by
  cases a with
  | notify info event faults =>
    obtain ⟨result, data, next', notified⟩ := next_notify s info event faults
    obtain rfl := Option.some.inj (next'.symm.trans next)
    cases notified with
    | queued _ queued =>
      obtain ⟨family, e, faults, own, accepted, rfl⟩ := queued
      rw [NsimFibData.announce_eq]
      exact all.of_eq rfl rfl
    | refused refused =>
      obtain ⟨_, _, _, _, _, _, rfl⟩ := refused
      exact all.of_eq rfl rfl
    | unrelated => exact all.of_eq rfl rfl
  | take =>
    obtain rfl := Option.some.inj next
    exact all.of_eq rfl rfl
  | next faults =>
    obtain ⟨e, rest, ok, data, -, next', processed⟩ := next_next listed.sound enabled faults
    obtain rfl := Option.some.inj (next'.symm.trans next)
    have before : AllListed { s.data with faults := faults } := all.of_eq rfl rfl
    exact (processed.allListed before).of_eq rfl rfl
  | flush =>
    have start : Sound { s.data with flushScheduled := false } :=
      listed.sound.of_eq rfl rfl rfl le_rfl
    obtain ⟨_, data, run, kept⟩ := exec_of_twp
      (twp_flushRoutes_allListed start (all.of_eq rfl rfl))
    simp only [FibSystem.next, run, Option.some_inj] at next
    subst next
    exact kept
  | dump =>
    have rule : twp nsimFibDumpInconsistent (fun _ t => AllListed t) (fun _ _ => False) s.data := by
      unfold nsimFibDumpInconsistent
      rw [twp_bind]
      refine twp_mono (twp_flushRoutes_allListed listed.sound all) ?_ fun _ _ => id
      exact fun _ _ kept => kept.of_eq rfl rfl
    obtain ⟨_, data, run, kept⟩ := exec_of_twp rule
    simp only [FibSystem.next, run, Option.some_inj] at next
    subst next
    exact kept
  | failRouteOffload value =>
    obtain rfl := Option.some.inj next
    exact all.of_eq rfl rfl
  | failRouteDelete value =>
    obtain rfl := Option.some.inj next
    exact all.of_eq rfl rfl

theorem allListed_of_reachable (reachable : fibSystem.Reachable s) : AllListed s.data := by
  refine TransitionSystem.Reachable.induct (P := fun s => AllListed s.data) ?_ ?_ reachable
  · rintro _ ⟨fibMax, rulesMax, rfl⟩
    exact nofun
  · rintro s a t reachable all ⟨enabled, next⟩
    exact allListed_next (listed_of_reachable reachable) all enabled next

end Reachable

/-! ## The end of the routes -/

section Destroy

variable {s : NsimFibData}

/-- All events that were taken are processed. -/
theorem twp_nextEvents (events : List NsimFibEvent) (sound : Sound s) (all : AllListed s)
    (working : s.working = events) :
    twp (events.forM fun _ => do let _ ← nextEvent)
      (fun _ t => Sound t ∧ AllListed t ∧ t.working = [] ∧ t.fibEventQueue = s.fibEventQueue)
      (fun _ _ => False) s := by
  refine twp_forM (I := fun rest t => Sound t ∧ AllListed t ∧ t.working = rest ∧
    t.fibEventQueue = s.fibEventQueue) ?_ ⟨sound, all, working, rfl⟩
  rintro e rest t ⟨sound, all, working, queue⟩
  rw [twp_bind]
  refine twp_mono (twp_nextEvent sound working) ?_ fun _ _ => id
  rintro _ _ ⟨ok, u, rfl, processed, rfl⟩
  exact ⟨(processed.sound sound).of_eq rfl rfl rfl le_rfl,
    (processed.allListed all).of_eq rfl rfl, rfl, processed.queue.1.trans queue⟩

theorem twp_flushEventWork (sound : Sound s) (all : AllListed s) :
    twp flushEventWork (fun _ t => Sound t ∧ AllListed t ∧ t.fibEventQueue = [])
      (fun _ _ => False) s := by
  unfold flushEventWork
  rw [twp_bind, twp_get, twp_bind]
  refine twp_mono (twp_nextEvents s.working sound all rfl) ?_ fun _ _ => id
  rintro _ t ⟨sound, all, -, -⟩
  rw [twp_bind, twp_modify, twp_bind, twp_get]
  have taken : Sound (takeEvents t) := sound.of_eq rfl rfl rfl le_rfl
  refine twp_mono (twp_nextEvents t.fibEventQueue taken (all.of_eq rfl rfl) rfl) ?_ fun _ _ => id
  exact fun _ u ⟨sound, all, _, queue⟩ => ⟨sound, all, queue⟩

/-- The objects still to be freed. -/
structure Freeing (rest : List ℕ) (s : NsimFibData) : Prop where
  nodup : rest.Nodup
  live : ∀ p ∈ rest, ∃ r, s.rt p = some r ∧ r.WellFormed
  only : ∀ p r, s.rt p = some r → p ∈ rest
  listed : s.fibRtList.Nodup ∧ ∀ p ∈ s.fibRtList, p ∈ rest
  queue : s.fibEventQueue = []

theorem twp_nsimFibRtFree_freeing {p : ℕ} {rest : List ℕ} (freeing : Freeing (p :: rest) s) :
    twp (nsimFibRtFree p) (fun _ t => Freeing rest t) (fun _ _ => False) s := by
  obtain ⟨r, live, wellFormed⟩ := freeing.live p List.mem_cons_self
  obtain ⟨new, nodup⟩ := List.nodup_cons.1 freeing.nodup
  have away {q : ℕ} (mem : q ∈ rest) : q ≠ p := fun same => new (same ▸ mem)
  refine twp_mono (twp_nsimFibRtFree live wellFormed) ?_ fun _ _ => id
  rintro _ _ ⟨_, _, _, _, rfl⟩
  refine ⟨nodup, fun q mem => ?_, fun q r' live' => ?_, ⟨freeing.listed.1.erase p, fun q mem => ?_⟩,
    freeing.queue⟩
  · obtain ⟨r', live', wellFormed'⟩ := freeing.live q (List.mem_cons_of_mem p mem)
    exact ⟨r', (Function.update_of_ne (away mem) ..).trans live', wellFormed'⟩
  · have other : q ≠ p := by
      rintro rfl
      have gone : Function.update s.rt q none q = none := Function.update_self ..
      cases gone.symm.trans live'
    have before : s.rt q = some r' := (Function.update_of_ne other ..).symm.trans live'
    exact List.mem_of_ne_of_mem other (freeing.only q r' before)
  · obtain ⟨other, mem⟩ := freeing.listed.1.mem_erase_iff.1 mem
    exact List.mem_of_ne_of_mem other (freeing.listed.2 q mem)

/-- Whatever the order, every object is visited once. -/
theorem freeing_of_sound {visited : List ℕ} (sound : Sound s) (all : AllListed s)
    (queue : s.fibEventQueue = []) (visits : visited.Perm (s.fibRtHt.entries.map Sigma.snd)) :
    Freeing visited s := by
  have mem_iff (p : ℕ) : p ∈ visited ↔ p ∈ s.fibRtList := by
    rw [visits.mem_iff, sound.listed, List.mem_map]
    constructor
    · rintro ⟨entry, mem, rfl⟩
      exact ⟨entry.1, AList.mem_lookup_iff.2 mem⟩
    · rintro ⟨key, at_key⟩
      exact ⟨⟨key, p⟩, AList.mem_lookup_iff.1 at_key, rfl⟩
  have nodup : visited.Nodup := by
    refine visits.nodup_iff.2 (List.Nodup.map_on ?_ s.fibRtHt.nodupKeys.nodup)
    rintro ⟨key, p⟩ mem ⟨key', q⟩ mem' (rfl : p = q)
    obtain rfl := sound.lookup_inj (AList.mem_lookup_iff.2 mem) (AList.mem_lookup_iff.2 mem')
    rfl
  refine ⟨nodup, fun p mem => ?_, fun p r live => (mem_iff p).2 (all p r live),
    ⟨sound.nodup, fun p mem => (mem_iff p).2 mem⟩, queue⟩
  obtain ⟨key, at_key⟩ := (sound.listed p).1 ((mem_iff p).1 mem)
  obtain ⟨r, live, -⟩ := sound.object key p at_key
  exact ⟨r, live, sound.wellFormed p r live⟩

variable {order : (AList fun _ : NsimFibRtKey => ℕ) → List ℕ}

theorem twp_nsimFibDestroy (visits : ∀ ht, (order ht).Perm (ht.entries.map Sigma.snd))
    (sound : Sound s) (all : AllListed s) :
    twp (nsimFibDestroy order) (fun warned t => warned = (false, false) ∧ ∀ p, t.rt p = none)
      (fun _ _ => False) s := by
  unfold nsimFibDestroy
  rw [twp_bind, twp_modify, twp_bind]
  have cancelled : Sound { s with flushScheduled := false } := sound.of_eq rfl rfl rfl le_rfl
  refine twp_mono (twp_flushEventWork cancelled (all.of_eq rfl rfl)) ?_ fun _ _ => id
  rintro _ t ⟨sound, all, queue⟩
  rw [twp_bind, twp_get, twp_bind]
  refine twp_mono (twp_forM (I := Freeing) (fun _ _ _ => twp_nsimFibRtFree_freeing)
    (freeing_of_sound sound all queue (visits t.fibRtHt))) ?_ fun _ _ => id
  intro _ u freed
  simp only [twp_bind, twp_modify, twp_get, twp_pure]
  refine ⟨?_, fun p => ?_⟩
  · have empty : u.fibRtList = [] := List.eq_nil_iff_forall_not_mem.2 fun p mem =>
      List.not_mem_nil (freed.listed.2 p mem)
    simp [freed.queue, empty]
  · cases live : u.rt p with
    | none => rfl
    | some r => exact absurd (freed.only p r live) List.not_mem_nil

/-- In every state, whatever failed before, the route objects that were allocated and not freed are
those of the list; and `nsim_fib_destroy`, whatever is pending and fails and in whatever order it
visits the table, does not go wrong, frees them all and gives no warning. -/
theorem fib_destroyed {s : FibSystem} (reachable : fibSystem.Reachable s)
    (visits : ∀ ht, (order ht).Perm (ht.entries.map Sigma.snd)) :
    (∀ p, (s.data.rt p).isSome = true ↔ p ∈ s.data.fibRtList) ∧
      ∀ faults, ∃ t, (nsimFibDestroy order).exec { s.data with faults := faults } =
        some (.ok (false, false), t) ∧ ∀ p, t.rt p = none := by
  have sound := (listed_of_reachable reachable).sound
  have all := allListed_of_reachable reachable
  refine ⟨fun p => ⟨fun live => ?_, fun mem => ?_⟩, fun faults => ?_⟩
  · obtain ⟨r, live⟩ := Option.isSome_iff_exists.1 live
    exact all p r live
  · obtain ⟨key, at_key⟩ := (sound.listed p).1 mem
    obtain ⟨r, live, -⟩ := sound.object key p at_key
    rw [live]
    rfl
  · obtain ⟨_, t, run, rfl, gone⟩ := exec_of_twp
      (twp_nsimFibDestroy visits (sound.setFaults faults) (all.of_eq rfl rfl))
    exact ⟨t, run, gone⟩

end Destroy

/-- A route is there, and the event of another one is pending. -/
theorem fib_destroyed_of_pending : ∃ s, fibSystem.Reachable s ∧ s.data.fibEventQueue.length = 1 ∧
    s.data.fibRtList = [0] ∧ ∃ t, (nsimFibDestroy fun ht => ht.entries.map Sigma.snd).exec
      { s.data with faults := [some .ENOMEM] } = some (.ok (false, false), t) := by
  obtain ⟨s, reachable, test⟩ := reachable_of_advance (fun _ _ => True)
    [.notify (.inet (subnet 10)) .ENTRY_REPLACE [], .take, .next [],
      .notify (.inet (subnet 11)) .ENTRY_REPLACE []]
    (fun s => s.data.fibEventQueue.length = 1 ∧ s.data.fibRtList = [0]) (by decide +kernel)
  obtain ⟨queue, list⟩ := of_decide_eq_true test
  have reachable := reachable.of_guard
  obtain ⟨t, run, -⟩ := (fib_destroyed reachable fun _ => .refl _).2 [some .ENOMEM]
  exact ⟨s, reachable, queue, list, t, run⟩

end Netdevsim.Fib

/-! ## The end of the nexthops -/

namespace Netdevsim.Fib.Nexthops

open Program

/-- `nsim_nexthop_free`. -/
def nsimNexthopFree (nexthop : NsimNexthop) : NexthopM Unit := do
  nsimNexthopHwFlagsSet nexthop false
  nsimNexthopDismiss nexthop.occ

/-- The part of `nsim_fib_destroy` that is about nexthops. -/
def nsimFibDestroy (order : (AList fun _ : UInt32 => NsimNexthop) → List NsimNexthop) :
    NexthopM Unit := do
  (order (← get).nexthopHt).forM nsimNexthopFree
  modify fun s => { s with nexthopHt := ∅ }

section Destroy

variable {s : NexthopData} {order : (AList fun _ : UInt32 => NsimNexthop) → List NsimNexthop}

/-- What the nexthops still to be freed occupy is counted. -/
structure Freeing (rest : List NsimNexthop) (s : NexthopData) : Prop where
  num_eq : s.nexthops.num = (rest.map NsimNexthop.occ).sum
  le_max : s.nexthops.num ≤ s.nexthops.max.toNat
  quiet : s.warned = false

theorem twp_nsimNexthopFree {nexthop : NsimNexthop} {rest : List NsimNexthop}
    (freeing : Freeing (nexthop :: rest) s) :
    twp (nsimNexthopFree nexthop) (fun _ t => Freeing rest t) (fun _ _ => False) s := by
  obtain ⟨num_eq, le_max, quiet⟩ := freeing
  rw [List.map_cons, List.sum_cons, Nat.cast_add] at num_eq
  unfold nsimNexthopFree nsimNexthopHwFlagsSet
  rw [twp_bind, twp_modify]
  refine twp_nsimNexthopDismiss ?_ le_max ⟨?_, ?_, quiet⟩
  · show (nexthop.occ : ℤ) ≤ s.nexthops.num
    omega
  · show s.nexthops.num - nexthop.occ = ((rest.map NsimNexthop.occ).sum : ℤ)
    omega
  · show s.nexthops.num - nexthop.occ ≤ (s.nexthops.max.toNat : ℤ)
    omega

/-- After any events, whatever failed, freeing the nexthops in any order brings the counter to zero
without a warning. -/
theorem nexthops_destroyed (reachable : nexthopSystem.Reachable s)
    (visits : ∀ ht, (order ht).Perm (ht.entries.map Sigma.snd)) :
    ∃ t, (nsimFibDestroy order).exec s = some (.ok (), t) ∧ t.nexthops.num = 0 ∧
      t.nexthopHt = ∅ ∧ t.warned = false := by
  have exact := exact_of_reachable reachable
  have start : Freeing (order s.nexthopHt) s := by
    refine ⟨exact.num_eq.trans ?_, exact.le_max, exact.quiet⟩
    rw [occupied, ((visits s.nexthopHt).map NsimNexthop.occ).sum_eq, List.map_map]
    rfl
  have rule : twp (nsimFibDestroy order)
      (fun _ t => t.nexthops.num = 0 ∧ t.nexthopHt = ∅ ∧ t.warned = false)
      (fun _ _ => False) s := by
    unfold nsimFibDestroy
    rw [twp_bind, twp_get, twp_bind]
    refine twp_mono (twp_forM (I := Freeing) (fun _ _ _ => twp_nsimNexthopFree) start) ?_
      fun _ _ => id
    exact fun _ t freed => ⟨freed.num_eq, rfl, freed.quiet⟩
  obtain ⟨_, t, run, freed⟩ := exec_of_twp rule
  exact ⟨t, run, freed⟩

end Destroy

/-- A nexthop and a group. -/
theorem nexthops_destroyed_of_two : ∃ s t, nexthopSystem.Reachable s ∧ s.nexthops.num = 5 ∧
    (nsimFibDestroy fun ht => ht.entries.map Sigma.snd).exec s = some (.ok (), t) ∧
      t.nexthops.num = 0 := by
  have start : nexthopSystem.Reachable (.start 8) := .init ⟨8, rfl⟩
  obtain ⟨s, reachable, test⟩ := start.exists_of_follow
    [.event .REPLACE ⟨1, .SINGLE⟩ [], .event .REPLACE ⟨2, .GRP (pair 2)⟩ []]
    (fun s => s.nexthops.num = 5) (fun _ _ _ _ next => next) (by decide +kernel)
  obtain ⟨t, run, zero, -⟩ := nexthops_destroyed reachable fun _ => .refl _
  exact ⟨s, t, reachable, of_decide_eq_true test, run, zero⟩

end Netdevsim.Fib.Nexthops
