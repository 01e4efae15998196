import Netdevsim.Fib.System
import Mathlib.Data.Finset.Image

/-!
# Counters and programmed routes

How notifications and the processing of events change the counter and the programmed routes of a
family.  The counter goes up and down when events are announced, so it is compared to a set of
routes together with the events that are pending.
-/

namespace Netdevsim.Fib

open Program

/-! ## Views -/

/-- The routes of a family in `fib_rt_ht`. -/
def NsimFibData.routes (s : NsimFibData) (family : Family) : Finset NsimFibRtKey :=
  {key ∈ s.fibRtHt.keys.toFinset | key.family = family}

/-- The events that were announced and not processed yet. -/
def NsimFibData.pending (s : NsimFibData) : List NsimFibEvent := s.working ++ s.fibEventQueue

section Views

variable {s : NsimFibData} {family family' : Family} {key : NsimFibRtKey}

theorem mem_routes : key ∈ s.routes family ↔ key ∈ s.fibRtHt ∧ key.family = family := by
  simp [NsimFibData.routes, AList.mem_keys]

theorem fibRtHt_removeKey (s : NsimFibData) (key : NsimFibRtKey) :
    ∀ key', key' ∈ (s.removeKey key).fibRtHt ↔ key' ≠ key ∧ key' ∈ s.fibRtHt := by
  intro key'
  unfold NsimFibData.removeKey
  cases at_key : s.fibRtHt.lookup key with
  | none =>
    refine ⟨fun mem => ⟨?_, mem⟩, And.right⟩
    rintro rfl
    exact AList.lookup_eq_none.1 at_key mem
  | some p => exact AList.mem_erase

theorem routes_programRt (s : NsimFibData) (r : NsimFibRt) :
    (s.programRt r).routes r.key.family = insert r.key (s.routes r.key.family) := by
  ext key
  rw [mem_routes, s.fibRtHt_programRt, AList.mem_insert, Finset.mem_insert, mem_routes]
  constructor
  · rintro ⟨rfl | old, family⟩
    · exact .inl rfl
    · exact .inr ⟨old, family⟩
  · rintro (rfl | ⟨old, family⟩)
    · exact ⟨.inl rfl, rfl⟩
    · exact ⟨.inr old, family⟩

theorem routes_programRt_ne (r : NsimFibRt) (away : r.key.family ≠ family) :
    (s.programRt r).routes family = s.routes family := by
  ext key
  rw [mem_routes, s.fibRtHt_programRt, AList.mem_insert, mem_routes]
  constructor
  · rintro ⟨rfl | old, own⟩
    · exact absurd own away
    · exact ⟨old, own⟩
  · exact fun ⟨old, own⟩ => ⟨.inr old, own⟩

theorem routes_removeKey (s : NsimFibData) (key : NsimFibRtKey) (family : Family) :
    (s.removeKey key).routes family = (s.routes family).erase key := by
  ext key'
  rw [mem_routes, fibRtHt_removeKey, Finset.mem_erase, mem_routes, and_assoc]

theorem fib_setFib_self (s : NsimFibData) (family : Family) (num : ℤ) :
    (s.setFib family num).fib family = ⟨(s.fib family).max, num⟩ := by
  show (Function.update s.perFib family _ family).fib = _
  rw [Function.update_self]

theorem fib_setFib_ne (num : ℤ) (away : family' ≠ family) :
    (s.setFib family num).fib family' = s.fib family' := by
  show (Function.update s.perFib family _ family').fib = _
  rw [Function.update_of_ne away]
  rfl

theorem fib_uncount_self (s : NsimFibData) (family : Family) :
    (s.uncount family).fib family =
      ⟨(s.fib family).max, atomic64DecIfPositive (s.fib family).num⟩ :=
  fib_setFib_self s family _

theorem fib_uncount_ne (away : family' ≠ family) : (s.uncount family).fib family' = s.fib family' :=
  fib_setFib_ne _ away

theorem fib_announce_ne (event : FibEventType) (away : family' ≠ family) :
    (s.announce family event).fib family' = s.fib family' := by
  cases event with
  | ENTRY_REPLACE => exact fib_setFib_ne _ away
  | ENTRY_DEL => exact fib_uncount_ne away
  | _ => rfl

/-- The counter of a route goes down when the route is replaced. -/
theorem fib_programRt (s : NsimFibData) (r : NsimFibRt) :
    (s.programRt r).fib r.key.family =
      if r.key ∈ s.fibRtHt then (s.uncount r.key.family).fib r.key.family
      else s.fib r.key.family := by
  unfold NsimFibData.programRt
  cases at_key : s.fibRtHt.lookup r.key with
  | none => exact (if_neg (AList.lookup_eq_none.1 at_key)).symm
  | some p =>
    have mem : r.key ∈ s.fibRtHt := AList.lookup_isSome.1 (by rw [at_key]; rfl)
    exact (if_pos mem).symm

theorem fib_programRt_ne (r : NsimFibRt) (away : family ≠ r.key.family) :
    (s.programRt r).fib family = s.fib family := by
  unfold NsimFibData.programRt
  split
  · rfl
  · exact fib_uncount_ne away

end Views

/-! ## Processing -/

section Processing

variable {s t : NsimFibData} {e : NsimFibEvent} {ok : Bool} {family : Family}

/-- Counter and routes of another family stay. -/
theorem Processed.of_ne (processed : Processed s e ok t) (away : family ≠ e.family) :
    t.fib family = s.fib family ∧ t.routes family = s.routes family := by
  have key : e.newRt.key.family ≠ family := by
    rw [e.key_newRt, e.family_key]
    exact away.symm
  cases processed with
  | inserted _ _ _ _ program =>
    obtain ⟨_, _, _, _, rfl⟩ := program
    exact ⟨fib_programRt_ne _ key.symm, routes_programRt_ne _ key⟩
  | failed _ _ _ uncount =>
    obtain ⟨_, _, _, _, rfl⟩ := uncount
    exact ⟨fib_uncount_ne away, rfl⟩
  | removed =>
    refine ⟨?_, ?_⟩
    · rw [fib_removeKey]
    · rw [routes_removeKey, Finset.erase_eq_of_notMem]
      exact fun mem => away ((mem_routes.1 mem).2.symm.trans e.family_key)
  | refused _ _ same | missed _ _ same =>
    obtain ⟨_, _, _, _, rfl⟩ := same
    exact ⟨rfl, rfl⟩
  | extended _ _ _ _ change | interrupted _ _ _ _ change =>
    obtain ⟨_, _, _, _, rfl⟩ := change
    exact ⟨rfl, rfl⟩
  | shrunk | ignored => exact ⟨rfl, rfl⟩

/-- The queue and the knobs stay. -/
theorem Processed.queue (processed : Processed s e ok t) :
    t.fibEventQueue = s.fibEventQueue ∧ t.failRouteOffload = s.failRouteOffload ∧
      t.failRouteDelete = s.failRouteDelete := by
  cases processed with
  | inserted _ _ _ _ program =>
    obtain ⟨_, _, _, _, rfl⟩ := program
    unfold NsimFibData.programRt
    split <;> exact ⟨rfl, rfl, rfl⟩
  | removed =>
    unfold NsimFibData.removeKey
    split <;> exact ⟨rfl, rfl, rfl⟩
  | failed _ _ _ same | refused _ _ same | missed _ _ same | extended _ _ _ _ same
  | interrupted _ _ _ _ same =>
    obtain ⟨_, _, _, _, rfl⟩ := same
    exact ⟨rfl, rfl, rfl⟩
  | shrunk | ignored => exact ⟨rfl, rfl, rfl⟩

end Processing

/-! ## Pending events -/

section Pending

variable {family : Family} {e : NsimFibEvent} {events : List NsimFibEvent}

theorem changes_cons :
    changes family (e :: events) = (e.change family).toList ++ changes family events := by
  unfold changes
  cases change : e.change family with
  | none => rw [List.filterMap_cons_none change]; rfl
  | some c => rw [List.filterMap_cons_some change]; rfl

theorem changes_concat :
    changes family (events ++ [e]) = changes family events ++ (e.change family).toList := by
  unfold changes
  rw [List.filterMap_append]
  cases change : e.change family with
  | none => rw [List.filterMap_cons_none change]; rfl
  | some c => rw [List.filterMap_cons_some change]; rfl

theorem change_replace (own : e.family = family) (replace : e.type = .ENTRY_REPLACE) :
    e.change family = some (.add e.key) := by
  rw [NsimFibEvent.change, if_pos own, replace]

theorem change_del (own : e.family = family) (delete : e.type = .ENTRY_DEL) :
    e.change family = some (.del e.key) := by
  rw [NsimFibEvent.change, if_pos own, delete]

theorem change_of_ne (away : e.family ≠ family) : e.change family = none := if_neg away

theorem change_other (replace : e.type ≠ .ENTRY_REPLACE) (delete : e.type ≠ .ENTRY_DEL) :
    e.change family = none := by
  unfold NsimFibEvent.change
  split
  · cases type : e.type with
    | ENTRY_REPLACE => exact absurd type replace
    | ENTRY_DEL => exact absurd type delete
    | _ => rfl
  · rfl

theorem eq_of_change {c : Change NsimFibRtKey} (change : e.change family = some c) :
    c = .add e.key ∧ e.type = .ENTRY_REPLACE ∨ c = .del e.key ∧ e.type = .ENTRY_DEL := by
  unfold NsimFibEvent.change at change
  split at change
  · cases type : e.type with
    | ENTRY_REPLACE =>
      rw [type] at change
      cases change
      exact .inl ⟨rfl, rfl⟩
    | ENTRY_DEL =>
      rw [type] at change
      cases change
      exact .inr ⟨rfl, rfl⟩
    | _ =>
      rw [type] at change
      cases change
  · cases change

/-- What the pending events add to the counter. -/
theorem balance_changes (events : List NsimFibEvent) :
    Change.balance (changes family events) =
      events.countP (fun e => e.family = family ∧ e.type = .ENTRY_REPLACE) -
        events.countP (fun e => e.family = family ∧ e.type = .ENTRY_DEL) := by
  induction events with
  | nil => rfl
  | cons e events ih =>
    rw [changes_cons, Change.balance_append, ih, List.countP_cons, List.countP_cons]
    by_cases own : e.family = family
    · cases type : e.type with
      | ENTRY_REPLACE => simp [change_replace own type, own, Change.weight]; omega
      | ENTRY_DEL => simp [change_del own type, own, Change.weight]; omega
      | _ => simp [NsimFibEvent.change, own, type]
    · simp [change_of_ne own, own]

end Pending

/-! ## Notifications -/

/-- The counter of a family is right for a set of routes and the pending events. -/
structure Counted (s : NsimFibData) (family : Family) (R : Finset NsimFibRtKey) : Prop where
  tally : Tally (s.fib family).num R (changes family s.pending)
  le_max : (s.fib family).num ≤ (s.fib family).max.toNat

section Notifications

variable {s t : NsimFibData} {family : Family} {R : Finset NsimFibRtKey} {info : FibNotifierInfo}
  {event : FibEventType} {result : Notify}

theorem family_type_of_event {e : NsimFibEvent} (own : info.event event = some (family, e)) :
    e.family = family ∧ e.type = event := by
  cases info <;> cases own <;> exact ⟨rfl, rfl⟩

/-- What the pending events lead to. -/
def NsimFibData.leadsTo (s : NsimFibData) (family : Family) (R : Finset NsimFibRtKey) :
    Finset NsimFibRtKey :=
  (changes family s.pending).foldl Change.apply R

theorem Counted.of_eq (counted : Counted s family R) (fib : t.fib family = s.fib family)
    (pending : t.pending = s.pending) : Counted t family R := by
  refine ⟨?_, ?_⟩
  · rw [fib, pending]
    exact counted.tally
  · rw [fib]
    exact counted.le_max

/-- A notification keeps the counter right, if deletions are of routes that will be there. -/
theorem Counted.notify (counted : Counted s family R) (notified : Notified s info event result t)
    (finds : ∀ e, info.event event = some (family, e) → event = .ENTRY_DEL →
      e.key ∈ s.leadsTo family R) : Counted t family R := by
  cases notified with
  | refused refused =>
    obtain ⟨_, _, _, _, _, _, rfl⟩ := refused
    exact counted.of_eq rfl rfl
  | unrelated _ same => exact counted.of_eq (same family) rfl
  | queued _ queued =>
    obtain ⟨family', e, faults, own, accepted, rfl⟩ := queued
    obtain ⟨rfl, rfl⟩ := family_type_of_event own
    have fib : ∀ family, NsimFibData.fib { s.announce e.family e.type with
        fibEventQueue := s.fibEventQueue ++ [e], faults := faults } family =
          (s.announce e.family e.type).fib family := fun _ => rfl
    have pending : NsimFibData.pending { s.announce e.family e.type with
        fibEventQueue := s.fibEventQueue ++ [e], faults := faults } = s.pending ++ [e] := by
      rw [s.announce_eq]
      exact (List.append_assoc ..).symm
    have keeps : e.change family = none → (s.announce e.family e.type).fib family = s.fib family →
        Counted { s.announce e.family e.type with
          fibEventQueue := s.fibEventQueue ++ [e], faults := faults } family R := by
      intro change same
      refine ⟨?_, ?_⟩
      · rw [fib, pending, changes_concat, change, same]
        simpa using counted.tally
      · rw [fib, same]
        exact counted.le_max
    by_cases here : e.family = family
    · subst here
      cases type : e.type with
      | ENTRY_REPLACE =>
        have room : (s.fib e.family).num ≠ (s.fib e.family).max.toNat := fun full =>
          accepted (.inl ⟨type, full⟩)
        have more : (s.announce e.family .ENTRY_REPLACE).fib e.family =
            ⟨(s.fib e.family).max, (s.fib e.family).num + 1⟩ := fib_setFib_self ..
        have le := counted.le_max
        rw [type] at fib pending
        refine ⟨?_, ?_⟩
        · rw [fib, pending, changes_concat, change_replace rfl type, more]
          exact counted.tally.announce_add e.key
        · rw [fib, more]
          show (s.fib e.family).num + 1 ≤ ((s.fib e.family).max.toNat : ℤ)
          omega
      | ENTRY_DEL =>
        have mem := finds e own type
        have pos := counted.tally.pos_of_mem mem
        have less : (s.announce e.family .ENTRY_DEL).fib e.family =
            ⟨(s.fib e.family).max, (s.fib e.family).num - 1⟩ := by
          refine (fib_uncount_self s e.family).trans ?_
          rw [atomic64DecIfPositive, if_pos pos]
        have le := counted.le_max
        rw [type] at fib pending
        refine ⟨?_, ?_⟩
        · rw [fib, pending, changes_concat, change_del rfl type, less]
          exact counted.tally.announce_del mem
        · rw [fib, less]
          show (s.fib e.family).num - 1 ≤ ((s.fib e.family).max.toNat : ℤ)
          omega
      | _ =>
        rw [type] at keeps
        refine keeps (change_other ?_ ?_) rfl
        all_goals rw [type]; decide
    · exact keeps (change_of_ne here) (fib_announce_ne _ (Ne.symm here))

/-- An event is processed: the counter has to go down if a route is replaced that is in the set. -/
theorem Counted.next {e : NsimFibEvent} {rest : List NsimFibEvent} (counted : Counted s family R)
    (working : s.working = e :: rest) (queue : t.fibEventQueue = s.fibEventQueue)
    (fib : t.fib family =
      if e.change family = some (.add e.key) ∧ e.key ∈ R then (s.uncount family).fib family
      else s.fib family) :
    Counted { t with working := rest } family ((e.change family).toList.foldl Change.apply R) ∧
      NsimFibData.leadsTo { t with working := rest } family
        ((e.change family).toList.foldl Change.apply R) = s.leadsTo family R := by
  have before : s.pending = e :: (rest ++ s.fibEventQueue) := by
    rw [NsimFibData.pending, working]
    rfl
  have after : NsimFibData.pending { t with working := rest } = rest ++ s.fibEventQueue := by
    show rest ++ t.fibEventQueue = _
    rw [queue]
  have tally := counted.tally
  have le := counted.le_max
  rw [before, changes_cons] at tally
  have keeps : ∀ {R'}, t.fib family = s.fib family →
      Tally (s.fib family).num R' (changes family (rest ++ s.fibEventQueue)) →
      Counted { t with working := rest } family R' := by
    intro R' same tally'
    refine ⟨?_, ?_⟩
    · rw [after]
      show Tally (t.fib family).num _ _
      rwa [same]
    · show (t.fib family).num ≤ ((t.fib family).max.toNat : ℤ)
      rwa [same]
  refine ⟨?_, ?_⟩
  · cases change : e.change family with
    | none =>
      rw [change] at tally fib
      exact keeps (fib.trans (if_neg nofun)) tally
    | some c =>
      rw [change] at tally fib
      obtain ⟨rfl, -⟩ | ⟨rfl, -⟩ := eq_of_change change
      · by_cases old : e.key ∈ R
        · rw [if_pos ⟨rfl, old⟩, fib_uncount_self] at fib
          obtain ⟨pos, tally⟩ := tally.add_old old
          have same : Change.apply R (.add e.key) = R := Finset.insert_eq_of_mem old
          rw [Option.toList_some, List.foldl_cons, List.foldl_nil, same]
          rw [atomic64DecIfPositive, if_pos pos] at fib
          refine ⟨?_, ?_⟩
          · rw [after]
            show Tally (t.fib family).num _ _
            rwa [fib]
          · show (t.fib family).num ≤ ((t.fib family).max.toNat : ℤ)
            rw [fib]
            show (s.fib family).num - 1 ≤ ((s.fib family).max.toNat : ℤ)
            omega
        · exact keeps (fib.trans (if_neg fun both => old both.2)) (tally.add_new old)
      · exact keeps (fib.trans (if_neg nofun)) tally.del_old.2
  · rw [NsimFibData.leadsTo, NsimFibData.leadsTo, before, after, changes_cons, List.foldl_append]

/-- What a notification adds to the pending events. -/
theorem Notified.pending (notified : Notified s info event result t) :
    t.pending = s.pending ∧
        (∀ family e, info.event event = some (family, e) →
          result ≠ .DONE ∧ (s.faults = [] → s.Vetoes family event) ∨
            event ≠ .ENTRY_REPLACE ∧ event ≠ .ENTRY_APPEND ∧ event ≠ .ENTRY_DEL) ∨
      result = .DONE ∧ ∃ family e, info.event event = some (family, e) ∧
        (event = .ENTRY_REPLACE ∨ event = .ENTRY_APPEND ∨ event = .ENTRY_DEL) ∧
        ¬s.Vetoes family event ∧ t.pending = s.pending ++ [e] := by
  cases notified with
  | refused refused =>
    obtain ⟨family, e, _, _, own, why, rfl⟩ := refused
    refine .inl ⟨rfl, fun family' e' own' => .inl ⟨nofun, ?_⟩⟩
    cases own.symm.trans own'
    exact why
  | unrelated other same =>
    refine .inl ⟨rfl, fun family e own => .inr ?_⟩
    obtain rfl | other := other
    · cases own
    · exact other
  | queued route queued =>
    obtain ⟨family, e, faults, own, accepted, rfl⟩ := queued
    refine .inr ⟨rfl, family, e, own, route, accepted, ?_⟩
    rw [s.announce_eq]
    exact (List.append_assoc ..).symm

/-- A notification changes no route. -/
theorem Notified.routes (notified : Notified s info event result t) :
    t.fibRtHt = s.fibRtHt ∧ t.rt = s.rt ∧ t.working = s.working ∧
      t.failRouteOffload = s.failRouteOffload ∧ t.failRouteDelete = s.failRouteDelete := by
  cases notified with
  | refused refused =>
    obtain ⟨_, _, _, _, _, _, rfl⟩ := refused
    exact ⟨rfl, rfl, rfl, rfl, rfl⟩
  | unrelated => exact ⟨rfl, rfl, rfl, rfl, rfl⟩
  | queued _ queued =>
    obtain ⟨_, _, _, _, _, rfl⟩ := queued
    rw [s.announce_eq]
    exact ⟨rfl, rfl, rfl, rfl, rfl⟩

end Notifications

end Netdevsim.Fib
