import Netdevsim.Fib.Counting

/-!
# The occupancy of the IPv6 FIB

A multipath route is one route, which is built and taken apart nexthop by nexthop.  The programmed
nexthops together with the pending events always lead to those of the kernel.  The counter, however,
goes down with every deletion, also with one that leaves some nexthops, and it counts routes with a
source prefix, which are not programmed.  It is exact if neither happens.
-/

namespace Netdevsim.Fib

open Program

/-! ## Programmed nexthops -/

def NsimFibRt.nexthops (r : NsimFibRt) : List Fib6Info :=
  match r.data with
  | .inet _ => []
  | .inet6 rt => rt.nhList

/-- The nexthops of the route with a key, none if it is not there. -/
def NsimFibData.nexthopsOf (s : NsimFibData) (key : NsimFibRtKey) : List Fib6Info :=
  ((s.fibRtHt.lookup key).bind s.rt).elim [] NsimFibRt.nexthops

/-- The routes of IPv6 that are programmed. -/
def NsimFibData.programmed6 (s : NsimFibData) : Fib6
  | (key, none) => s.nexthopsOf key
  | (_, some _) => []

section Nexthops

variable {s t : NsimFibData} {r : NsimFibRt} {key : NsimFibRtKey} {p : ℕ}

theorem nexthopsOf_eq (at_key : s.fibRtHt.lookup key = some p) (live : s.rt p = some r) :
    s.nexthopsOf key = r.nexthops := by
  rw [NsimFibData.nexthopsOf, at_key, Option.bind_some, live]
  rfl

theorem nexthopsOf_of_none (absent : s.fibRtHt.lookup key = none) : s.nexthopsOf key = [] := by
  rw [NsimFibData.nexthopsOf, absent]
  rfl

theorem nexthopsOf_congr (same : Unchanged s t) : t.nexthopsOf = s.nexthopsOf := by
  obtain ⟨_, _, _, _, rfl⟩ := same
  rfl

theorem nexthopsOf_inet (sound : Sound s) (inet : key.family = .AF_INET) :
    s.nexthopsOf key = [] := by
  cases at_key : s.fibRtHt.lookup key with
  | none => exact nexthopsOf_of_none at_key
  | some p =>
    obtain ⟨r, live, -, of⟩ := of_lookup sound at_key inet
    obtain ⟨rt, eq⟩ := exists_inet of
    rw [nexthopsOf_eq at_key live, eq]
    rfl

theorem nexthopsOf_programRt (sound : Sound s) (r : NsimFibRt) :
    (s.programRt r).nexthopsOf = Function.update s.nexthopsOf r.key r.nexthops := by
  have table := s.fibRtHt_programRt r
  funext key
  by_cases here : key = r.key
  · subst here
    rw [Function.update_self]
    refine nexthopsOf_eq ?_ (sound.rt_programRt_self r)
    rw [table, AList.lookup_insert]
  · rw [Function.update_of_ne here]
    unfold NsimFibData.nexthopsOf
    rw [table, AList.lookup_insert_ne here]
    cases at_key : s.fibRtHt.lookup key with
    | none => rfl
    | some p =>
      obtain ⟨r', live, -⟩ := sound.object key p at_key
      rw [Option.bind_some, Option.bind_some, sound.rt_programRt_of_ne live]
      exact fun at_r => here (sound.lookup_inj at_key at_r)

theorem nexthopsOf_removeKey (sound : Sound s) (key : NsimFibRtKey) :
    (s.removeKey key).nexthopsOf = Function.update s.nexthopsOf key [] := by
  funext key'
  cases left : (s.removeKey key).fibRtHt.lookup key' with
  | none =>
    rw [nexthopsOf_of_none left]
    by_cases here : key' = key
    · rw [here, Function.update_self]
    · rw [Function.update_of_ne here]
      refine (nexthopsOf_of_none ?_).symm
      rw [AList.lookup_eq_none, fibRtHt_removeKey] at left
      exact AList.lookup_eq_none.2 fun mem => left ⟨here, mem⟩
  | some p =>
    obtain ⟨old, away⟩ := of_lookup_removeKey left
    obtain ⟨r, live, -⟩ := sound.object key' p old
    rw [Function.update_of_ne away, nexthopsOf_eq old live]
    exact nexthopsOf_eq left ((sound.rt_removeKey_of_ne old away).trans live)

theorem nexthopsOf_changeRt (sound : Sound s) (at_key : s.fibRtHt.lookup key = some p)
    (r : NsimFibRt) :
    (s.changeRt p r).nexthopsOf = Function.update s.nexthopsOf key r.nexthops := by
  funext key'
  by_cases here : key' = key
  · subst here
    rw [Function.update_self]
    exact nexthopsOf_eq (s := s.changeRt p r) at_key (Function.update_self ..)
  · rw [Function.update_of_ne here]
    unfold NsimFibData.nexthopsOf
    show ((s.fibRtHt.lookup key').bind (s.changeRt p r).rt).elim _ _ = _
    cases at_key' : s.fibRtHt.lookup key' with
    | none => rfl
    | some q =>
      have away : q ≠ p := by
        rintro rfl
        exact here (sound.lookup_inj at_key' at_key)
      rw [Option.bind_some, Option.bind_some, NsimFibData.rt_changeRt, Function.update_of_ne away]

theorem programmed6_update {nhs : List Fib6Info}
    (nexthopsOf : t.nexthopsOf = Function.update s.nexthopsOf key nhs) :
    t.programmed6 = Function.update s.programmed6 (key, none) nhs := by
  funext ⟨key', source⟩
  cases source with
  | none =>
    show t.nexthopsOf key' = _
    rw [nexthopsOf]
    by_cases here : key' = key
    · rw [here, Function.update_self, Function.update_self]
    · have away : ((key', none) : Fib6Key) ≠ (key, none) := by simpa using here
      rw [Function.update_of_ne here, Function.update_of_ne away]
      rfl
  | some source =>
    have away : ((key', some source) : Fib6Key) ≠ (key, none) := by simp
    rw [Function.update_of_ne away]
    rfl

/-- All nexthops are deleted when they are named. -/
theorem foldl_delNexthop {nhs named : List Fib6Info}
    (all : (nhs.map Fib6Info.ptr).Perm (named.map Fib6Info.ptr)) :
    named.foldl delNexthop nhs = [] := by
  induction named generalizing nhs with
  | nil => exact List.map_eq_nil_iff.1 (List.perm_nil.1 all)
  | cons nh named ih =>
    refine ih ?_
    have erase : (delNexthop nhs nh).map Fib6Info.ptr = (nhs.map Fib6Info.ptr).erase nh.ptr := by
      rw [List.erase_eq_eraseP', List.eraseP_map]
      rfl
    rw [erase]
    have rest := all.erase nh.ptr
    rwa [List.map_cons, List.erase_cons_head] at rest

end Nexthops

/-! ## Processing -/

section Processing

variable {s t : NsimFibData} {e : NsimFibEvent} {ok : Bool}

/-- What an event may presuppose: routes that are extended are there, and deletions name all
nexthops. -/
def NsimFibEvent.Whole (fib : Fib6) : NsimFibEvent → Prop
  | .inet _ _ => True
  | .inet6 e event => e.rt.fib6Src.plen = 0 ∧
    (event = .ENTRY_APPEND → fib e.rt.fibKey ≠ []) ∧
    (event = .ENTRY_DEL →
      ((fib e.rt.fibKey).map Fib6Info.ptr).Perm (e.rtArr.map Fib6Info.ptr))

theorem fibKey_eq {rt : Fib6Info} (plain : rt.fib6Src.plen = 0) : rt.fibKey = (rt.key, none) := by
  rw [Fib6Info.fibKey, if_pos plain]

theorem anyFails_nil (n : ℕ) : anyFails n [] = false := by
  unfold anyFails
  rw [List.take_nil, List.any_nil]

theorem programmed6_congr (same : t.nexthopsOf = s.nexthopsOf) :
    t.programmed6 = s.programmed6 := by
  funext ⟨key, source⟩
  cases source with
  | none => exact congrFun same key
  | some => rfl

/-- IPv4 events change no nexthops. -/
theorem Processed.nexthopsOf_inet {fenInfo : FibEntryNotifierInfo} {event : FibEventType}
    (processed : Processed s (.inet fenInfo event) ok t) (sound : Sound s) :
    t.nexthopsOf = s.nexthopsOf := by
  have nothing : Function.update s.nexthopsOf fenInfo.key [] = s.nexthopsOf := by
    rw [← Fib.nexthopsOf_inet sound (rfl : fenInfo.key.family = .AF_INET), Function.update_eq_self]
  have none : ∀ {p rt}, s.rt p ≠ some ⟨fenInfo.key, .inet6 rt⟩ := by
    intro p rt live
    have family : fenInfo.key.family = .AF_INET6 := (sound.wellFormed _ _ live).1
    cases family
  cases processed with
  | inserted _ _ _ _ program =>
    rw [nexthopsOf_congr program]
    exact (nexthopsOf_programRt sound fenInfo.rt).trans nothing
  | refused _ _ same | missed _ _ same => exact nexthopsOf_congr same
  | failed _ _ _ uncount =>
    rw [nexthopsOf_congr uncount]
    rfl
  | removed => exact (nexthopsOf_removeKey sound fenInfo.key).trans nothing
  | extended _ _ live | interrupted _ _ live | shrunk _ _ live => exact absurd live none
  | ignored => rfl

/-- The counter and the routes of IPv6 after the processing of an event when nothing fails. -/
theorem Processed.inet6 (processed : Processed s e ok t) (sound : Sound s) (calm : s.faults = [])
    (offloads : s.failRouteOffload = false) (whole : NsimFibEvent.Whole s.programmed6 e) :
    t.programmed6 = NsimFibEvent.install6 s.programmed6 e ∧
      t.routes .AF_INET6 =
        (e.change .AF_INET6).toList.foldl Change.apply (s.routes .AF_INET6) ∧
      t.fib .AF_INET6 =
        if e.change .AF_INET6 = some (.add e.key) ∧ e.key ∈ s.routes .AF_INET6 then
          (s.uncount .AF_INET6).fib .AF_INET6
        else s.fib .AF_INET6 := by
  cases e with
  | inet fenInfo event =>
    have away : Family.AF_INET6 ≠ .AF_INET := nofun
    obtain ⟨fib, routes⟩ := processed.of_ne away
    exact ⟨programmed6_congr (processed.nexthopsOf_inet sound), routes, fib⟩
  | inet6 fib6Event event =>
    obtain ⟨plain, appends, deletes⟩ := whole
    have fibKey := fibKey_eq plain
    have accepts : ∀ n, s.refuses n = false := fun n => by
      rw [NsimFibData.refuses, offloads, calm, anyFails_nil]
      rfl
    cases processed with
    | inserted _ replace _ _ program =>
      obtain rfl : event = .ENTRY_REPLACE := replace
      have nexthops := (nexthopsOf_congr program).trans (nexthopsOf_programRt sound fib6Event.newRt)
      refine ⟨?_, ?_, ?_⟩
      · refine (programmed6_update nexthops).trans ?_
        show _ = Function.update s.programmed6 fib6Event.rt.fibKey fib6Event.rtArr
        rw [fibKey]
        rfl
      · obtain ⟨_, _, _, _, rfl⟩ := program
        exact routes_programRt s fib6Event.newRt
      · obtain ⟨_, _, _, _, rfl⟩ := program
        refine (fib_programRt s fib6Event.newRt).trans (if_congr ?_ rfl rfl)
        exact ⟨fun mem => ⟨rfl, mem_routes.2 ⟨mem, rfl⟩⟩, fun both => (mem_routes.1 both.2).1⟩
    | refused _ refused => cases (accepts _).symm.trans refused
    | failed _ _ fails =>
      rw [NsimFibData.hashFails, calm, List.drop_nil] at fails
      cases fails
    | removed delete =>
      obtain rfl : event = .ENTRY_DEL := delete
      refine ⟨?_, routes_removeKey .., ?_⟩
      · refine (programmed6_update (nexthopsOf_removeKey sound fib6Event.rt.key)).trans ?_
        show _ = Function.update s.programmed6 fib6Event.rt.fibKey
          (fib6Event.rtArr.foldl delNexthop (s.programmed6 fib6Event.rt.fibKey))
        rw [foldl_delNexthop (deletes rfl), fibKey]
      · exact congrFun (fib_removeKey ..) .AF_INET6
    | extended append present live _ changed =>
      obtain rfl : event = .ENTRY_APPEND := append
      have nexthops := (nexthopsOf_congr changed).trans (nexthopsOf_changeRt sound present _)
      have before := nexthopsOf_eq present live
      refine ⟨?_, ?_, ?_⟩
      · refine (programmed6_update nexthops).trans ?_
        show _ = Function.update s.programmed6 fib6Event.rt.fibKey
          (s.programmed6 fib6Event.rt.fibKey ++ fib6Event.rtArr)
        rw [fibKey]
        show _ = Function.update s.programmed6 _ (s.nexthopsOf fib6Event.rt.key ++ _)
        rw [show s.nexthopsOf fib6Event.rt.key = _ from before]
        rfl
      · obtain ⟨_, _, _, _, rfl⟩ := changed
        rfl
      · obtain ⟨_, _, _, _, rfl⟩ := changed
        rfl
    | interrupted _ fails =>
      rw [calm, anyFails_nil] at fails
      cases fails
    | missed append misses _ =>
      obtain rfl : event = .ENTRY_APPEND := append
      obtain fails | absent := misses
      · cases offloads.symm.trans fails
      · have there := appends rfl
        rw [fibKey] at there
        exact absurd (nexthopsOf_of_none absent) there
    | shrunk delete present live exact some =>
      obtain rfl : event = .ENTRY_DEL := delete
      have all := (deletes rfl).length_eq
      rw [List.length_map, List.length_map, fibKey] at all
      have before : s.programmed6 (fib6Event.rt.key, none) = _ := nexthopsOf_eq present live
      rw [before] at all
      exact absurd (all.symm.trans exact.symm) some
    | ignored ignores =>
      obtain source | ⟨replace, delete, append⟩ := ignores
      · exact absurd plain source
      · have append := append rfl
        cases event with
        | ENTRY_REPLACE => exact absurd rfl replace
        | ENTRY_APPEND => exact absurd rfl append
        | ENTRY_DEL => exact absurd rfl delete
        | _ => exact ⟨rfl, rfl, rfl⟩

end Processing

/-! ## Notifications -/

section Notifications

variable {s t : FibSystem} {info : FibNotifierInfo} {event : FibEventType} {result : Notify}
  {data : NsimFibData}

/-- Routes that are extended are there, and only nexthops that are there are deleted. -/
def FibSystem.Consistent6 (s : FibSystem) (info : FibNotifierInfo) (event : FibEventType) : Prop :=
  match info with
  | .inet6 rt siblings =>
    (event = .ENTRY_APPEND → s.kernel6 rt.fibKey ≠ []) ∧
    (event = .ENTRY_DEL → ((rt :: siblings).map Fib6Info.ptr).Nodup ∧
      ∀ nh ∈ rt :: siblings, nh.ptr ∈ (s.kernel6 rt.fibKey).map Fib6Info.ptr)
  | _ => True

/-- IPv6 notifications that fit the kernel FIB, and event work, in which nothing fails. -/
def FibSystem.Calm6 (s : FibSystem) : FibAction → Prop
  | .notify info event faults => faults = [] ∧ s.Consistent6 info event
  | .take => True
  | .next faults => faults = []
  | _ => False

/-- Routes have no source prefix, multipath routes are not vetoed, and deletions are of all nexthops
of a route. -/
def FibSystem.Whole6 (s : FibSystem) : FibAction → Prop
  | .notify (.inet6 rt siblings) event _ =>
    (event = .ENTRY_REPLACE → rt.fib6Src.plen = 0 ∧
      (siblings = [] ∨ (s.data.fib .AF_INET6).num ≠ (s.data.fib .AF_INET6).max.toNat)) ∧
    (event = .ENTRY_DEL → (s.kernel6 rt.fibKey).length = siblings.length + 1)
  | _ => True

/-- The programmed routes and the pending events lead to the kernel FIB. -/
structure Leads (data : NsimFibData) (kernel6 : Fib6) : Prop where
  eq : data.pending.foldl NsimFibEvent.install6 data.programmed6 = kernel6
  ready : Ready NsimFibEvent.install6 NsimFibEvent.Whole data.programmed6 data.pending
  there : ∀ key, key ∈ data.leadsTo .AF_INET6 (data.routes .AF_INET6) ↔ kernel6 (key, none) ≠ []
  noSource : ∀ key source, kernel6 (key, some source) = []

/-- The counter is right for the programmed routes, which lead to the kernel FIB. -/
structure Exact6 (s : FibSystem) : Prop where
  listed : s.Listed
  counted : Counted s.data .AF_INET6 (s.data.routes .AF_INET6)
  leads : Leads s.data s.kernel6
  offloads : s.data.failRouteOffload = false
  deletes : s.data.failRouteDelete = false

theorem kernel6_notified {family : Family} {e : NsimFibEvent}
    (own : info.event event = some (family, e)) (accepted : Bool) :
    (s.notified info event accepted).kernel6 =
      if accepted || e.stays then NsimFibEvent.install6 s.kernel6 e else s.kernel6 := by
  unfold FibSystem.notified
  rw [own]
  dsimp only
  split <;> rfl

theorem install6_other {family : Family} {e : NsimFibEvent} {fib : Fib6}
    (own : info.event event = some (family, e)) (replace : event ≠ .ENTRY_REPLACE)
    (append : event ≠ .ENTRY_APPEND) (delete : event ≠ .ENTRY_DEL) : e.install6 fib = fib := by
  cases info with
  | inet => cases own; rfl
  | inet6 =>
    cases own
    cases event with
    | ENTRY_REPLACE => exact absurd rfl replace
    | ENTRY_APPEND => exact absurd rfl append
    | ENTRY_DEL => exact absurd rfl delete
    | _ => rfl
  | other => cases own

/-- An event that fits the kernel FIB may be queued. -/
theorem whole_of_consistent {rt : Fib6Info} {siblings : List Fib6Info} {faults : List (Option Errno)}
    (noSource : ∀ key source, s.kernel6 (key, some source) = [])
    (consistent : s.Consistent6 (.inet6 rt siblings) event)
    (whole6 : s.Whole6 (.notify (.inet6 rt siblings) event faults))
    (type : event = .ENTRY_REPLACE ∨ event = .ENTRY_APPEND ∨ event = .ENTRY_DEL) :
    NsimFibEvent.Whole s.kernel6 (.inet6 ⟨rt, siblings⟩ event) := by
  obtain ⟨appends, deletes⟩ := consistent
  obtain ⟨replaces, all⟩ := whole6
  have plain : s.kernel6 rt.fibKey ≠ [] → rt.fib6Src.plen = 0 := by
    intro there
    by_contra source
    rw [Fib6Info.fibKey, if_neg source] at there
    exact there (noSource ..)
  have named : event = .ENTRY_DEL →
      ((s.kernel6 rt.fibKey).map Fib6Info.ptr).Perm ((rt :: siblings).map Fib6Info.ptr) := by
    intro delete
    obtain ⟨nodup, mem⟩ := deletes delete
    have subset : (rt :: siblings).map Fib6Info.ptr ⊆ (s.kernel6 rt.fibKey).map Fib6Info.ptr := by
      intro ptr named
      obtain ⟨nh, member, rfl⟩ := List.mem_map.1 named
      exact mem nh member
    refine ((nodup.subperm subset).perm_of_length_le ?_).symm
    rw [List.length_map, List.length_map, all delete, List.length_cons]
  refine ⟨?_, appends, named⟩
  obtain replace | append | delete := type
  · exact (replaces replace).1
  · exact plain (appends append)
  · refine plain fun absent => ?_
    have length := all delete
    rw [absent] at length
    cases length

/-- The routes that are there, after an event that may be queued. -/
theorem there_install6 {R : Finset NsimFibRtKey} {fib : Fib6} {e : NsimFibEvent}
    (there : ∀ key, key ∈ R ↔ fib (key, none) ≠ []) (whole : e.Whole fib) (key : NsimFibRtKey) :
    key ∈ (e.change .AF_INET6).toList.foldl Change.apply R ↔ e.install6 fib (key, none) ≠ [] := by
  cases e with
  | inet fenInfo event => exact there key
  | inet6 fib6Event event =>
    obtain ⟨plain, appends, deletes⟩ := whole
    have fibKey := fibKey_eq plain
    have update : ∀ {nhs}, Function.update fib fib6Event.rt.fibKey nhs (key, none) =
        if key = fib6Event.rt.key then nhs else fib (key, none) := by
      intro nhs
      rw [fibKey, Function.update_apply]
      simp only [Prod.mk.injEq, and_true]
    cases event with
    | ENTRY_REPLACE =>
      show key ∈ insert fib6Event.rt.key R ↔ Function.update fib _ fib6Event.rtArr _ ≠ []
      rw [update, Finset.mem_insert, there]
      by_cases here : key = fib6Event.rt.key
      · simp [here, NsimFib6Event.rtArr]
      · simp [here]
    | ENTRY_APPEND =>
      show key ∈ R ↔ Function.update fib _ (fib fib6Event.rt.fibKey ++ fib6Event.rtArr) _ ≠ []
      rw [update, there]
      by_cases here : key = fib6Event.rt.key
      · have before := appends rfl
        rw [fibKey] at before
        simp [here, before, NsimFib6Event.rtArr]
      · simp [here]
    | ENTRY_DEL =>
      show key ∈ R.erase fib6Event.rt.key ↔ Function.update fib _ (fib6Event.rtArr.foldl _ _) _ ≠ []
      rw [update, Finset.mem_erase, there, foldl_delNexthop (deletes rfl)]
      by_cases here : key = fib6Event.rt.key
      · simp [here]
      · simp [here]
    | _ => exact there key

/-- The routes with a source prefix, after an event that may be queued. -/
theorem noSource_install6 {fib : Fib6} {e : NsimFibEvent}
    (noSource : ∀ key source, fib (key, some source) = []) (whole : e.Whole fib)
    (key : NsimFibRtKey) (source : Rt6Key) : e.install6 fib (key, some source) = [] := by
  cases e with
  | inet => exact noSource key source
  | inet6 fib6Event event =>
    have fibKey := fibKey_eq whole.1
    have update : ∀ nhs, Function.update fib fib6Event.rt.fibKey nhs (key, some source) = [] := by
      intro nhs
      rw [fibKey, Function.update_of_ne (by simp), noSource]
    cases event with
    | ENTRY_REPLACE | ENTRY_APPEND | ENTRY_DEL => exact update _
    | _ => exact noSource key source

/-- The data that is compared to the kernel FIB. -/
def SameRoutes (data data' : NsimFibData) : Prop :=
  data'.programmed6 = data.programmed6 ∧ data'.routes .AF_INET6 = data.routes .AF_INET6

namespace Leads

variable {data' : NsimFibData} {kernel6 : Fib6} {e : NsimFibEvent}

theorem of_eq (leads : Leads data kernel6) (same : SameRoutes data data')
    (pending : data'.pending = data.pending) : Leads data' kernel6 := by
  obtain ⟨programmed6, routes⟩ := same
  refine ⟨?_, ?_, ?_, leads.noSource⟩
  · rw [programmed6, pending]
    exact leads.eq
  · rw [programmed6, pending]
    exact leads.ready
  · unfold NsimFibData.leadsTo
    rw [routes, pending]
    exact leads.there

/-- An event is queued. -/
theorem concat (leads : Leads data kernel6) (whole : e.Whole kernel6)
    (same : SameRoutes data data') (pending : data'.pending = data.pending ++ [e]) :
    Leads data' (e.install6 kernel6) := by
  obtain ⟨programmed6, routes⟩ := same
  refine ⟨?_, ?_, ?_, noSource_install6 leads.noSource whole⟩
  · rw [programmed6, pending, List.foldl_append, leads.eq]
    rfl
  · rw [programmed6, pending, ready_concat, leads.eq]
    exact ⟨leads.ready, whole⟩
  · unfold NsimFibData.leadsTo
    rw [routes, pending, changes_concat, List.foldl_append]
    exact there_install6 leads.there whole

/-- An event is processed. -/
theorem next {events : List NsimFibEvent} (leads : Leads data kernel6)
    (pending : data.pending = e :: events) (pending' : data'.pending = events)
    (programmed6 : data'.programmed6 = e.install6 data.programmed6)
    (routes : data'.routes .AF_INET6 =
      (e.change .AF_INET6).toList.foldl Change.apply (data.routes .AF_INET6)) :
    Leads data' kernel6 := by
  have eq := leads.eq
  have ready := leads.ready
  have there := leads.there
  rw [pending] at eq ready
  unfold NsimFibData.leadsTo at there
  rw [pending, changes_cons, List.foldl_append] at there
  refine ⟨?_, ?_, ?_, leads.noSource⟩
  · rw [pending', programmed6]
    exact eq
  · rw [pending', programmed6]
    exact ready.2
  · unfold NsimFibData.leadsTo
    rw [pending', routes]
    exact there

end Leads

/-- What the kernel has of IPv6 after a notification that is not queued. -/
theorem kernel6_of_refused {family : Family} {e : NsimFibEvent}
    (own : info.event event = some (family, e)) (vetoes : s.data.Vetoes family event)
    (whole6 : s.Whole6 (.notify info event [])) (deletes : s.data.failRouteDelete = false) :
    (s.notified info event false).kernel6 = s.kernel6 := by
  rw [kernel6_notified own]
  obtain ⟨rfl, full⟩ | ⟨-, fails⟩ := vetoes
  · cases info with
    | inet => cases own; exact ite_self _
    | inet6 rt siblings =>
      cases own
      obtain ⟨-, rfl | room⟩ := whole6.1 rfl
      · exact if_neg Bool.false_ne_true
      · exact absurd full room
    | other => cases own
  · cases deletes.symm.trans fails

theorem exact6_notify (exact6 : Exact6 s) (consistent : s.Consistent6 info event)
    (whole6 : s.Whole6 (.notify info event []))
    (notified : Notified { s.data with faults := [] } info event result data) :
    Exact6 { s.notified info event (result = .DONE) with data := data } := by
  have before := exact6.leads
  have counted : Counted { s.data with faults := [] } .AF_INET6 (s.data.routes .AF_INET6) :=
    exact6.counted.of_eq rfl rfl
  obtain ⟨ht, rt, -, offloads, deletes⟩ := notified.routes
  have routes : data.routes .AF_INET6 = s.data.routes .AF_INET6 := by
    unfold NsimFibData.routes
    rw [ht]
  have same : SameRoutes s.data data := by
    refine ⟨programmed6_congr (s := s.data) ?_, routes⟩
    unfold NsimFibData.nexthopsOf
    rw [ht, rt]
  have whole : ∀ family e, info.event event = some (family, e) →
      event = .ENTRY_REPLACE ∨ event = .ENTRY_APPEND ∨ event = .ENTRY_DEL → e.Whole s.kernel6 := by
    intro family e own type
    cases info with
    | inet => cases own; trivial
    | inet6 rt siblings =>
      cases own
      exact whole_of_consistent before.noSource consistent whole6 type
    | other => cases own
  have finds : ∀ e, info.event event = some (.AF_INET6, e) → event = .ENTRY_DEL →
      e.key ∈ s.data.leadsTo .AF_INET6 (s.data.routes .AF_INET6) := by
    rintro e own rfl
    cases info with
    | inet6 rt siblings =>
      cases own
      obtain ⟨plain, -, named⟩ := whole _ _ rfl (.inr (.inr rfl))
      rw [before.there]
      intro absent
      have named := (named rfl).length_eq
      rw [fibKey_eq plain] at named
      rw [show s.kernel6 (rt.key, none) = [] from absent] at named
      cases named
    | inet | other => cases own
  have counted := counted.notify notified finds
  rw [← routes] at counted
  refine ⟨listed_notify exact6.listed notified, counted, ?_, offloads.trans exact6.offloads,
    deletes.trans exact6.deletes⟩
  show Leads data (s.notified info event (result = .DONE)).kernel6
  obtain ⟨pending, refused⟩ | ⟨rfl, family, e, own, route, -, pending⟩ := notified.pending
  · have kept : (s.notified info event (result = .DONE)).kernel6 = s.kernel6 := by
      cases own : info.event event with
      | none =>
        unfold FibSystem.notified
        rw [own]
      | some out =>
        obtain ⟨family, e⟩ := out
        obtain ⟨rejected, why⟩ | ⟨replace, append, delete⟩ := refused family e own
        · rw [decide_eq_false rejected]
          exact kernel6_of_refused own (why rfl) whole6 exact6.deletes
        · rw [kernel6_notified own, install6_other own replace append delete, ite_self]
    rw [kept]
    exact before.of_eq same pending
  · rw [kernel6_notified own, decide_eq_true rfl, Bool.true_or, if_pos rfl]
    exact before.concat (whole family e own route) same pending

theorem exact6_next {e : NsimFibEvent} {rest : List NsimFibEvent} {ok : Bool}
    (exact6 : Exact6 s) (working : s.data.working = e :: rest)
    (processed : Processed { s.data with faults := [] } e ok data) :
    Exact6 { s.told e ok with data := { data with working := rest } } := by
  obtain ⟨queue, offloads, deletes⟩ := processed.queue
  have leads := exact6.leads
  have pending : s.data.pending = e :: (rest ++ s.data.fibEventQueue) := by
    rw [NsimFibData.pending, working]
    rfl
  have pending' : NsimFibData.pending { data with working := rest } =
      rest ++ s.data.fibEventQueue := by
    show rest ++ data.fibEventQueue = _
    rw [queue]
  have whole : e.Whole s.data.programmed6 := by
    have ready := leads.ready
    rw [pending] at ready
    exact ready.1
  obtain ⟨programmed6, routes, fib⟩ := processed.inet6 (exact6.listed.sound.setFaults []) rfl
    exact6.offloads whole
  have counted := (exact6.counted.next working queue fib).1
  have after : (e.change .AF_INET6).toList.foldl Change.apply (s.data.routes .AF_INET6) =
      data.routes .AF_INET6 := routes.symm
  rw [after] at counted
  exact ⟨listed_next exact6.listed processed, counted,
    leads.next pending pending' programmed6 routes, offloads.trans exact6.offloads,
    deletes.trans exact6.deletes⟩

theorem exact6_start (fibMax rulesMax : Family → UInt64) :
    Exact6 (FibSystem.start fibMax rulesMax) := by
  have empty : (FibSystem.start fibMax rulesMax).data.programmed6 = fun _ => [] := by
    funext ⟨key, source⟩
    cases source <;> rfl
  refine ⟨listed_start .., ⟨.empty, Int.natCast_nonneg _⟩, ⟨empty, trivial, fun key => ?_,
    fun _ _ => rfl⟩, rfl, rfl⟩
  exact ⟨fun mem => absurd mem (Finset.notMem_empty key), fun there => absurd rfl there⟩

theorem exact6_of_reachable
    (reachable : (fibSystem.guard fun s a => s.Calm6 a ∧ s.Whole6 a).Reachable s) : Exact6 s := by
  refine TransitionSystem.Reachable.induct ?_ ?_ reachable
  · rintro _ ⟨fibMax, rulesMax, rfl⟩
    exact exact6_start fibMax rulesMax
  · rintro s a t _ exact6 ⟨⟨enabled, next⟩, calm6, whole6⟩
    cases a with
    | notify info event faults =>
      obtain ⟨rfl, consistent⟩ := calm6
      obtain ⟨result, data, next', notified⟩ := next_notify s info event []
      obtain rfl := Option.some.inj (next'.symm.trans next)
      exact exact6_notify exact6 consistent whole6 notified
    | take =>
      obtain rfl := Option.some.inj next
      have pending : (takeEvents s.data).pending = s.data.pending := by
        unfold NsimFibData.pending takeEvents
        rw [show s.data.working = [] from enabled, List.append_nil, List.nil_append]
      exact ⟨exact6.listed.of_eq rfl rfl rfl le_rfl rfl, exact6.counted.of_eq rfl pending,
        exact6.leads.of_eq ⟨rfl, rfl⟩ pending, exact6.offloads, exact6.deletes⟩
    | next faults =>
      obtain rfl : faults = [] := calm6
      obtain ⟨e, rest, ok, data, working, next', processed⟩ :=
        next_next exact6.listed.sound enabled []
      obtain rfl := Option.some.inj (next'.symm.trans next)
      exact exact6_next exact6 working processed
    | flush | dump | failRouteOffload | failRouteDelete => exact calm6.elim

end Notifications

/-! ## Runs -/

section Runs

variable {s : FibSystem}

/-- Drained of events, the occupancy of the IPv6 FIB is exact, and the routes have the nexthops not
deleted yet, if deletions are of whole routes, multipath routes are not vetoed and no route has a
source prefix. -/
theorem ipv6_occupancy_exact
    (reachable : (fibSystem.guard fun s a => s.Calm6 a ∧ s.Whole6 a).Reachable s)
    (drained : s.data.pending = []) :
    (s.data.fib .AF_INET6).num = (s.data.routes .AF_INET6).card ∧
      (∀ key, key ∈ s.data.routes .AF_INET6 ↔ s.kernel6 (key, none) ≠ []) ∧
      ∀ key p rt, s.data.fibRtHt.lookup key = some p → s.data.rt p = some ⟨key, .inet6 rt⟩ →
        rt.nhs = rt.nhList.length ∧ rt.nhList = s.kernel6 (key, none) := by
  have exact6 := exact6_of_reachable reachable
  have tally := exact6.counted.tally
  have eq := exact6.leads.eq
  have there := exact6.leads.there
  unfold NsimFibData.leadsTo at there
  rw [drained] at tally eq there
  refine ⟨tally.exact, there, fun key p rt at_key live => ⟨?_, ?_⟩⟩
  · exact (exact6.listed.sound.wellFormed p _ live).2
  · rw [← eq]
    exact (nexthopsOf_eq at_key live).symm

/-- A nexthop of a route. -/
def nexthop (ptr : ℕ) : Fib6Info := ⟨ptr, ⟨0x20010db8, 64⟩, ⟨0, 0⟩, 254⟩

instance (s : FibSystem) (info : FibNotifierInfo) (event : FibEventType) :
    Decidable (s.Consistent6 info event) :=
  match info with
  | .inet6 .. => inferInstanceAs (Decidable (_ ∧ _))
  | .inet _ | .other => .isTrue trivial

instance (s : FibSystem) (a : FibAction) : Decidable (s.Calm6 a) :=
  match a with
  | .notify .. => inferInstanceAs (Decidable (_ ∧ _))
  | .take => .isTrue trivial
  | .next _ => inferInstanceAs (Decidable (_ = _))
  | .flush | .dump | .failRouteOffload _ | .failRouteDelete _ => .isFalse id

instance (s : FibSystem) (a : FibAction) : Decidable (s.Whole6 a) := by
  unfold FibSystem.Whole6
  split <;> infer_instance

/-- A route is extended, and another one is deleted. -/
theorem ipv6_occupancy_exact_extended :
    ∃ s, (fibSystem.guard fun s a => s.Calm6 a ∧ s.Whole6 a).Reachable s ∧
      s.data.pending = [] ∧ (s.data.fib .AF_INET6).num = (s.data.routes .AF_INET6).card := by
  obtain ⟨s, reachable, test⟩ := reachable_of_advance (fun s a => s.Calm6 a ∧ s.Whole6 a)
    [.notify (.inet6 (nexthop 0) [nexthop 1]) .ENTRY_REPLACE [], .take, .next [],
      .notify (.inet6 (nexthop 2) []) .ENTRY_APPEND [],
      .notify (.inet6 (nexthop 0) [nexthop 2, nexthop 1]) .ENTRY_DEL [],
      .notify (.inet6 (nexthop 3) []) .ENTRY_REPLACE [], .take, .next [], .next [], .next []]
    (fun s => s.data.pending = []) (by decide +kernel)
  have drained := of_decide_eq_true test
  exact ⟨s, reachable, drained, (ipv6_occupancy_exact reachable drained).1⟩

/-- When one of two nexthops is deleted the route stays but is not counted any more. -/
theorem ipv6_occupancy_of_shrunk : ∃ s, (fibSystem.guard FibSystem.Calm6).Reachable s ∧
    s.data.pending = [] ∧ (s.data.fib .AF_INET6).num = 0 ∧ (s.data.routes .AF_INET6).card = 1 := by
  obtain ⟨s, reachable, test⟩ := reachable_of_advance FibSystem.Calm6
    [.notify (.inet6 (nexthop 0) [nexthop 1]) .ENTRY_REPLACE [], .take, .next [],
      .notify (.inet6 (nexthop 1) []) .ENTRY_DEL [], .take, .next []]
    (fun s => s.data.pending = [] ∧ (s.data.fib .AF_INET6).num = 0 ∧
      (s.data.routes .AF_INET6).card = 1) (by decide +kernel)
  exact ⟨s, reachable, of_decide_eq_true test⟩

end Runs

end Netdevsim.Fib
