import Netdevsim.Fib.Counting

/-!
# The occupancy of the IPv4 FIB

As long as nothing fails the counter of IPv4 routes is exact.  When insertions may fail it is exact
only if each failure meets the treatment of the count on its exit: a hash table operation that fails
gives back the count of the event, the other failures do not.
-/

namespace Netdevsim.Fib

open Program

/-! ## Processing -/

section Inet

variable {s t : NsimFibData} {e : NsimFibEvent} {ok : Bool}

/-- What the processing of an IPv4 event does to counter and routes. -/
theorem Processed.inet (processed : Processed s e ok t) (sound : Sound s)
    (own : e.family = .AF_INET) :
    (e.type = .ENTRY_REPLACE ∧
      (s.refuses 1 = false ∧ s.hashFails 1 = false ∧
          t.routes .AF_INET = insert e.key (s.routes .AF_INET) ∧
          t.fib .AF_INET = (if e.key ∈ s.routes .AF_INET then (s.uncount .AF_INET).fib .AF_INET
            else s.fib .AF_INET) ∨
        s.refuses 1 = true ∧ t.routes .AF_INET = s.routes .AF_INET ∧
          t.fib .AF_INET = s.fib .AF_INET ∨
        s.refuses 1 = false ∧ s.hashFails 1 = true ∧ t.routes .AF_INET = s.routes .AF_INET ∧
          t.fib .AF_INET = (s.uncount .AF_INET).fib .AF_INET)) ∨
    (e.type = .ENTRY_DEL ∧ t.routes .AF_INET = (s.routes .AF_INET).erase e.key ∧
      t.fib .AF_INET = s.fib .AF_INET) ∨
    (e.change .AF_INET = none ∧ t.routes .AF_INET = s.routes .AF_INET ∧
      t.fib .AF_INET = s.fib .AF_INET) := by
  obtain ⟨fenInfo, event, rfl⟩ : ∃ fenInfo event, e = .inet fenInfo event := by
    cases e with
    | inet fenInfo event => exact ⟨fenInfo, event, rfl⟩
    | inet6 => cases own
  have none : ∀ {p rt}, s.rt p ≠ some ⟨fenInfo.key, .inet6 rt⟩ := by
    intro p rt live
    have family : fenInfo.key.family = .AF_INET6 := (sound.wellFormed _ _ live).1
    cases family
  cases processed with
  | inserted _ replace accepted works program =>
    refine .inl ⟨replace, .inl ⟨accepted, works, ?_⟩⟩
    obtain ⟨_, _, _, _, rfl⟩ := program
    refine ⟨routes_programRt s fenInfo.rt, (fib_programRt s fenInfo.rt).trans ?_⟩
    have mem : fenInfo.rt.key ∈ s.fibRtHt ↔ fenInfo.key ∈ s.routes .AF_INET := by
      rw [mem_routes]
      exact ⟨fun mem => ⟨mem, rfl⟩, And.left⟩
    exact if_congr mem rfl rfl
  | refused replace refused same =>
    obtain ⟨_, _, _, _, rfl⟩ := same
    exact .inl ⟨replace, .inr (.inl ⟨refused, rfl, rfl⟩)⟩
  | failed replace accepted fails uncount =>
    obtain ⟨_, _, _, _, rfl⟩ := uncount
    exact .inl ⟨replace, .inr (.inr ⟨accepted, fails, rfl, rfl⟩)⟩
  | removed delete =>
    refine .inr (.inl ⟨delete, routes_removeKey .., ?_⟩)
    rw [fib_removeKey]
  | extended _ _ live | interrupted _ _ live | shrunk _ _ live => exact absurd live none
  | missed append _ same =>
    obtain ⟨_, _, _, _, rfl⟩ := same
    refine .inr (.inr ⟨change_other ?_ ?_, rfl, rfl⟩)
    all_goals rw [append]; decide
  | ignored ignores =>
    obtain source | ⟨replace, delete, -⟩ := ignores
    · exact source.elim
    · exact .inr (.inr ⟨change_other replace delete, rfl, rfl⟩)

end Inet

/-! ## Notifications -/

section Notifications

variable {s : FibSystem} {R : Finset NsimFibRtKey} {info : FibNotifierInfo} {event : FibEventType}
  {result : Notify} {data : NsimFibData}

/-- Only routes that are there are deleted. -/
def FibSystem.Consistent4 (s : FibSystem) (info : FibNotifierInfo) (event : FibEventType) : Prop :=
  match info with
  | .inet fenInfo => event = .ENTRY_DEL → fenInfo.key ∈ s.kernel4
  | _ => True

instance (s : FibSystem) (info : FibNotifierInfo) (event : FibEventType) :
    Decidable (s.Consistent4 info event) := by
  cases info <;> unfold FibSystem.Consistent4 <;> infer_instance

/-- The counter is right for a set of routes, and the pending events lead from it to the kernel
FIB. -/
structure Accounted (s : FibSystem) (R : Finset NsimFibRtKey) : Prop where
  counted : Counted s.data .AF_INET R
  leads : s.data.leadsTo .AF_INET R = s.kernel4
  deletes : s.data.failRouteDelete = false

theorem install4_of_none {e : NsimFibEvent} (none : e.change .AF_INET = none)
    (fib : Finset NsimFibRtKey) : e.install4 fib = fib := by
  rw [NsimFibEvent.install4, none]
  rfl

theorem kernel4_notified {family : Family} {e : NsimFibEvent}
    (own : info.event event = some (family, e)) (accepted : Bool) :
    (s.notified info event accepted).kernel4 =
      if accepted || e.stays then e.install4 s.kernel4 else s.kernel4 := by
  unfold FibSystem.notified
  rw [own]
  dsimp only
  split <;> rfl

/-- A refused notification leaves the kernel FIB as it is. -/
theorem kernel4_of_refused {family : Family} {e : NsimFibEvent}
    (own : info.event event = some (family, e)) (vetoes : s.data.Vetoes family event)
    (deletes : s.data.failRouteDelete = false) :
    (s.notified info event false).kernel4 = s.kernel4 := by
  obtain ⟨rfl, rfl⟩ := family_type_of_event own
  rw [kernel4_notified own]
  obtain ⟨replace, -⟩ | ⟨-, fails⟩ := vetoes
  · cases e with
    | inet fenInfo event =>
      obtain rfl : event = .ENTRY_REPLACE := replace
      exact if_neg Bool.false_ne_true
    | inet6 fib6Event event =>
      have none : (NsimFibEvent.inet6 fib6Event event).change .AF_INET = none := rfl
      rw [install4_of_none none, ite_self]
  · rw [deletes] at fails
    cases fails

theorem Accounted.notify (accounted : Accounted s R) (consistent : s.Consistent4 info event)
    (notified : Notified { s.data with faults := [] } info event result data) :
    Accounted { s.notified info event (result = .DONE) with data := data } R := by
  have counted : Counted { s.data with faults := [] } .AF_INET R := accounted.counted.of_eq rfl rfl
  obtain ⟨-, -, -, -, deletes⟩ := notified.routes
  refine ⟨counted.notify notified ?_, ?_, deletes.trans accounted.deletes⟩
  · rintro e own rfl
    cases info with
    | inet fenInfo =>
      cases own
      have mem := consistent rfl
      rw [← accounted.leads] at mem
      exact mem
    | inet6 | other => cases own
  · show data.leadsTo .AF_INET R = (s.notified info event (result = .DONE)).kernel4
    obtain ⟨pending, refused⟩ | ⟨rfl, family, e, own, -, -, pending⟩ := notified.pending
    · have same : data.leadsTo .AF_INET R = s.kernel4 := by
        rw [← accounted.leads, NsimFibData.leadsTo, pending]
        rfl
      rw [same]
      cases own : info.event event with
      | none =>
        unfold FibSystem.notified
        rw [own]
      | some out =>
        obtain ⟨family, e⟩ := out
        obtain ⟨rejected, why⟩ | ⟨replace, -, delete⟩ := refused family e own
        · rw [decide_eq_false rejected]
          exact (kernel4_of_refused own (why rfl) accounted.deletes).symm
        · obtain ⟨rfl, rfl⟩ := family_type_of_event own
          rw [kernel4_notified own, install4_of_none (change_other replace delete), ite_self]
    · rw [kernel4_notified own, decide_eq_true rfl, Bool.true_or, if_pos rfl,
        NsimFibData.leadsTo, pending, changes_concat, List.foldl_append, ← accounted.leads]
      rfl

/-- The work takes the queue. -/
theorem Accounted.take (accounted : Accounted s R) (idle : s.data.working = []) :
    Accounted { s with data := takeEvents s.data } R := by
  have pending : (takeEvents s.data).pending = s.data.pending := by
    unfold NsimFibData.pending takeEvents
    rw [idle, List.append_nil, List.nil_append]
  refine ⟨accounted.counted.of_eq rfl pending, ?_, accounted.deletes⟩
  have leads := accounted.leads
  unfold NsimFibData.leadsTo at leads ⊢
  rwa [pending]

/-- An event is processed: the counter has to go down if a route is replaced that is in the set. -/
theorem Accounted.next {e : NsimFibEvent} {rest : List NsimFibEvent} {ok : Bool}
    (accounted : Accounted s R) (working : s.data.working = e :: rest)
    (queue : data.fibEventQueue = s.data.fibEventQueue)
    (deletes : data.failRouteDelete = s.data.failRouteDelete)
    (fib : data.fib .AF_INET =
      if e.change .AF_INET = some (.add e.key) ∧ e.key ∈ R then
        (s.data.uncount .AF_INET).fib .AF_INET
      else s.data.fib .AF_INET) :
    Accounted { s.told e ok with data := { data with working := rest } } (e.install4 R) := by
  obtain ⟨counted, leads⟩ := accounted.counted.next working queue fib
  exact ⟨counted, leads.trans accounted.leads, deletes.trans accounted.deletes⟩

theorem accounted_start (fibMax rulesMax : Family → UInt64) :
    Accounted (FibSystem.start fibMax rulesMax) ∅ :=
  ⟨⟨.empty, Int.natCast_nonneg _⟩, rfl, rfl⟩

end Notifications

/-! ## As long as nothing fails -/

section Calm

variable {s t : FibSystem}

/-- Notifications that fit the kernel FIB, and event work, in which nothing fails. -/
def FibSystem.Calm (s : FibSystem) : FibAction → Prop
  | .notify info event faults => faults = [] ∧ s.Consistent4 info event
  | .take => True
  | .next faults => faults = []
  | _ => False

instance (s : FibSystem) (a : FibAction) : Decidable (s.Calm a) :=
  match a with
  | .notify .. => inferInstanceAs (Decidable (_ ∧ _))
  | .take => .isTrue trivial
  | .next _ => inferInstanceAs (Decidable (_ = _))
  | .flush | .dump | .failRouteOffload _ | .failRouteDelete _ => .isFalse id

/-- The counter is right for the programmed routes. -/
structure Exact4 (s : FibSystem) : Prop where
  listed : s.Listed
  accounted : Accounted s (s.data.routes .AF_INET)
  offloads : s.data.failRouteOffload = false

theorem exact4_next {e : NsimFibEvent} {rest : List NsimFibEvent} {ok : Bool} {data : NsimFibData}
    (exact4 : Exact4 s) (working : s.data.working = e :: rest)
    (processed : Processed { s.data with faults := [] } e ok data) :
    Exact4 { s.told e ok with data := { data with working := rest } } := by
  obtain ⟨queue, offloads, deletes⟩ := processed.queue
  refine ⟨listed_next exact4.listed processed, ?_, offloads.trans exact4.offloads⟩
  have accepts : NsimFibData.refuses { s.data with faults := [] } 1 = false := by
    rw [NsimFibData.refuses, exact4.offloads]
    rfl
  have step : data.routes .AF_INET = e.install4 (s.data.routes .AF_INET) ∧
      data.fib .AF_INET =
        if e.change .AF_INET = some (.add e.key) ∧ e.key ∈ s.data.routes .AF_INET then
          (s.data.uncount .AF_INET).fib .AF_INET
        else s.data.fib .AF_INET := by
    by_cases own : e.family = .AF_INET
    · obtain ⟨replace, inserted | ⟨refused, -⟩ | ⟨-, fails, -⟩⟩ | ⟨delete, routes, fib⟩ |
          ⟨none, routes, fib⟩ := processed.inet (exact4.listed.sound.setFaults _) own
      · obtain ⟨-, -, routes, fib⟩ := inserted
        rw [NsimFibEvent.install4, change_replace own replace]
        refine ⟨routes, fib.trans (if_congr ?_ rfl rfl)⟩
        exact ⟨fun mem => ⟨rfl, mem⟩, And.right⟩
      · rw [accepts] at refused
        cases refused
      · cases fails
      · rw [NsimFibEvent.install4, change_del own delete]
        exact ⟨routes, fib.trans (if_neg nofun).symm⟩
      · rw [install4_of_none none, none]
        exact ⟨routes, fib.trans (if_neg nofun).symm⟩
    · obtain ⟨fib, routes⟩ := processed.of_ne (Ne.symm own)
      rw [install4_of_none (change_of_ne own), change_of_ne own]
      exact ⟨routes, fib.trans (if_neg nofun).symm⟩
  have after : Accounted { s.told e ok with data := { data with working := rest } } (e.install4 _) :=
    exact4.accounted.next working queue deletes step.2
  rw [← step.1] at after
  exact after

theorem exact4_of_reachable (reachable : (fibSystem.guard FibSystem.Calm).Reachable s) :
    Exact4 s := by
  refine TransitionSystem.Reachable.induct ?_ ?_ reachable
  · rintro _ ⟨fibMax, rulesMax, rfl⟩
    exact ⟨listed_start .., accounted_start .., rfl⟩
  · rintro s a t _ exact4 ⟨⟨enabled, next⟩, calm⟩
    cases a with
    | notify info event faults =>
      obtain ⟨rfl, consistent⟩ := calm
      obtain ⟨result, data, next', notified⟩ := next_notify s info event []
      obtain rfl := Option.some.inj (next'.symm.trans next)
      obtain ⟨ht, -, -, offloads, -⟩ := notified.routes
      have after := exact4.accounted.notify consistent notified
      have routes : data.routes .AF_INET = s.data.routes .AF_INET := by
        unfold NsimFibData.routes
        rw [ht]
      refine ⟨listed_notify exact4.listed notified, ?_, offloads.trans exact4.offloads⟩
      rw [← routes] at after
      exact after
    | take =>
      obtain rfl := Option.some.inj next
      have listed := exact4.listed
      exact ⟨listed.of_eq rfl rfl rfl le_rfl rfl, exact4.accounted.take enabled, exact4.offloads⟩
    | next faults =>
      obtain rfl : faults = [] := calm
      obtain ⟨e, rest, ok, data, working, next', processed⟩ :=
        next_next exact4.listed.sound enabled []
      obtain rfl := Option.some.inj (next'.symm.trans next)
      exact exact4_next exact4 working processed
    | flush | dump | failRouteOffload | failRouteDelete => exact calm.elim

/-- The notification of a route is answered with a veto. -/
def FibSystem.Vetoed (s : FibSystem) (info : FibNotifierInfo) (event : FibEventType) : Prop :=
  ∃ extack data, (nsimFibEventNb info event).exec { s.data with faults := [] } =
    some (.ok (.BAD extack), data)

/-- A replacement is vetoed if and only if the FIB is full. -/
theorem vetoed_iff (s : FibSystem) (fenInfo : FibEntryNotifierInfo) :
    s.Vetoed (.inet fenInfo) .ENTRY_REPLACE ↔
      (s.data.fib .AF_INET).num = (s.data.fib .AF_INET).max.toNat := by
  obtain ⟨result, data, run, notified⟩ := exec_of_twp
    (twp_nsimFibEventNb (s := { s.data with faults := [] }) (.inet fenInfo) .ENTRY_REPLACE)
  have full : NsimFibData.Vetoes { s.data with faults := [] } .AF_INET .ENTRY_REPLACE ↔
      (s.data.fib .AF_INET).num = (s.data.fib .AF_INET).max.toNat := by
    constructor
    · rintro (⟨-, full⟩ | ⟨other, -⟩)
      · exact full
      · cases other
    · exact fun full => .inl ⟨rfl, full⟩
  rw [← full]
  obtain ⟨-, refused⟩ | ⟨rfl, family, e, own, -, accepted, -⟩ := notified.pending
  · obtain ⟨rejected, why⟩ | ⟨other, -⟩ := refused _ _ rfl
    · refine ⟨fun _ => why rfl, fun _ => ?_⟩
      cases notified with
      | refused => exact ⟨_, _, run⟩
      | queued => exact absurd rfl rejected
      | unrelated other =>
        obtain other | ⟨other, -⟩ := other
        · cases other
        · exact absurd rfl other
    · exact absurd rfl other
  · cases own
    refine ⟨?_, fun vetoes => absurd vetoes accepted⟩
    rintro ⟨extack, data', run'⟩
    cases run.symm.trans run'

/-- The number of pending events of a type for a family. -/
def NsimFibData.pendingOf (s : NsimFibData) (family : Family) (type : FibEventType) : ℕ :=
  s.pending.countP fun e => e.family = family ∧ e.type = type

/-- The occupancy of the IPv4 FIB is exact when nothing fails. -/
theorem ipv4_occupancy_exact (reachable : (fibSystem.guard FibSystem.Calm).Reachable s) :
    (s.data.fib .AF_INET).num = (s.data.routes .AF_INET).card +
        s.data.pendingOf .AF_INET .ENTRY_REPLACE - s.data.pendingOf .AF_INET .ENTRY_DEL ∧
      0 ≤ (s.data.fib .AF_INET).num ∧
      (s.data.fib .AF_INET).num ≤ (s.data.fib .AF_INET).max.toNat ∧
      (∀ fenInfo, s.Vetoed (.inet fenInfo) .ENTRY_REPLACE ↔
        (s.data.fib .AF_INET).num = (s.data.fib .AF_INET).max.toNat) ∧
      (s.data.pending = [] → (s.data.fib .AF_INET).num = (s.data.routes .AF_INET).card) := by
  have counted := (exact4_of_reachable reachable).accounted.counted
  have tally := counted.tally
  refine ⟨?_, tally.nonneg, counted.le_max, vetoed_iff s, fun drained => ?_⟩
  · rw [tally.num_eq, balance_changes, add_sub_assoc]
    rfl
  · rw [drained] at tally
    exact tally.exact

/-- A route is replaced while its deletion waits. -/
theorem ipv4_occupancy_exact_replacing :
    ∃ s, (fibSystem.guard FibSystem.Calm).Reachable s ∧
      s.data.pendingOf .AF_INET .ENTRY_REPLACE = 2 ∧ s.data.pendingOf .AF_INET .ENTRY_DEL = 1 ∧
      0 ≤ (s.data.fib .AF_INET).num := by
  obtain ⟨s, reachable, test⟩ := reachable_of_advance FibSystem.Calm
    [.notify (.inet (subnet 10)) .ENTRY_REPLACE [], .take, .next [],
      .notify (.inet (subnet 10)) .ENTRY_REPLACE [], .notify (.inet (subnet 10)) .ENTRY_DEL [],
      .notify (.inet (subnet 11)) .ENTRY_REPLACE []]
    (fun s => s.data.pendingOf .AF_INET .ENTRY_REPLACE = 2 ∧
      s.data.pendingOf .AF_INET .ENTRY_DEL = 1) (by decide +kernel)
  obtain ⟨replaces, deletes⟩ := of_decide_eq_true test
  exact ⟨s, reachable, replaces, deletes, (ipv4_occupancy_exact reachable).2.1⟩

end Calm

/-! ## When insertions fail -/

section Injected

variable {s : FibSystem}

/-- Notifications that fit the kernel FIB, and event work in which anything may fail, insertions
also because the user wants them to. -/
def FibSystem.Injects (s : FibSystem) : FibAction → Prop
  | .notify info event faults => faults = [] ∧ s.Consistent4 info event
  | .take | .next _ | .failRouteOffload _ => True
  | _ => False

instance (s : FibSystem) (a : FibAction) : Decidable (s.Injects a) :=
  match a with
  | .notify .. => inferInstanceAs (Decidable (_ ∧ _))
  | .take | .next _ | .failRouteOffload _ => .isTrue trivial
  | .flush | .dump | .failRouteDelete _ => .isFalse id

/-- The failures of the insertion of a route give the count back if and only if they should: the
hash table operation does not fail for a route that the kernel has newly, and for one that the
kernel replaces only it fails, unless the route is programmed. -/
def FibSystem.Balances (s : FibSystem) (faults : List (Option Errno)) (key : NsimFibRtKey) : Prop :=
  let data := { s.data with faults := faults }
  if key ∈ s.processed4 then
    data.refuses 1 = false ∧ (key ∈ s.data.fibRtHt ∨ data.hashFails 1 = true)
  else data.refuses 1 = true ∨ data.hashFails 1 = false

instance (s : FibSystem) (faults : List (Option Errno)) (key : NsimFibRtKey) :
    Decidable (s.Balances faults key) := by
  unfold FibSystem.Balances
  infer_instance

/-- All insertions balance. -/
def FibSystem.Balanced (s : FibSystem) : FibAction → Prop
  | .next faults => ∀ e ∈ s.data.working.head?, e.family = .AF_INET → e.type = .ENTRY_REPLACE →
    s.Balances faults e.key
  | _ => True

instance (s : FibSystem) (a : FibAction) : Decidable (s.Balanced a) :=
  match a with
  | .next faults =>
    inferInstanceAs (Decidable (∀ e ∈ s.data.working.head?, e.family = .AF_INET →
      e.type = .ENTRY_REPLACE → s.Balances faults e.key))
  | .notify .. | .take | .flush | .dump | .failRouteOffload _ | .failRouteDelete _ =>
    .isTrue trivial

/-- The counter is right for the routes that the processed events tell of. -/
structure Balanced4 (s : FibSystem) : Prop where
  listed : s.Listed
  accounted : Accounted s s.processed4
  subset : s.data.routes .AF_INET ⊆ s.processed4

theorem balanced4_next {e : NsimFibEvent} {rest : List NsimFibEvent} {ok : Bool}
    {faults : List (Option Errno)} {data : NsimFibData} (balanced4 : Balanced4 s)
    (working : s.data.working = e :: rest)
    (balances : e.family = .AF_INET → e.type = .ENTRY_REPLACE → s.Balances faults e.key)
    (processed : Processed { s.data with faults := faults } e ok data) :
    Balanced4 { s.told e ok with data := { data with working := rest } } := by
  obtain ⟨queue, -, deletes⟩ := processed.queue
  have subset := balanced4.subset
  have step : data.routes .AF_INET ⊆ e.install4 s.processed4 ∧
      data.fib .AF_INET =
        if e.change .AF_INET = some (.add e.key) ∧ e.key ∈ s.processed4 then
          (s.data.uncount .AF_INET).fib .AF_INET
        else s.data.fib .AF_INET := by
    by_cases own : e.family = .AF_INET
    · obtain ⟨replace, outcome⟩ | ⟨delete, routes, fib⟩ | ⟨none, routes, fib⟩ :=
        processed.inet (balanced4.listed.sound.setFaults faults) own
      · have balance := balances own replace
        have add : e.install4 s.processed4 = insert e.key s.processed4 := by
          rw [NsimFibEvent.install4, change_replace own replace]
          rfl
        rw [add, change_replace own replace]
        unfold FibSystem.Balances at balance
        by_cases old : e.key ∈ s.processed4
        · rw [if_pos ⟨rfl, old⟩]
          rw [if_pos old] at balance
          obtain ⟨-, works, routes, fib⟩ | ⟨refused, -⟩ | ⟨-, -, routes, fib⟩ := outcome
          · have mem : e.key ∈ s.data.routes .AF_INET := by
              refine mem_routes.2 ⟨balance.2.resolve_right ?_, e.family_key.trans own⟩
              rw [works]
              exact Bool.false_ne_true
            exact ⟨routes ▸ Finset.insert_subset_insert _ subset, fib.trans (if_pos mem)⟩
          · cases balance.1.symm.trans refused
          · exact ⟨routes ▸ subset.trans (Finset.subset_insert ..), fib⟩
        · rw [if_neg fun both => old both.2]
          rw [if_neg old] at balance
          obtain ⟨-, -, routes, fib⟩ | ⟨-, routes, fib⟩ | ⟨accepted, fails, -⟩ := outcome
          · exact ⟨routes ▸ Finset.insert_subset_insert _ subset,
              fib.trans (if_neg fun mem => old (subset mem))⟩
          · exact ⟨routes ▸ subset.trans (Finset.subset_insert ..), fib⟩
          · obtain refused | works := balance
            · cases accepted.symm.trans refused
            · cases fails.symm.trans works
      · rw [NsimFibEvent.install4, change_del own delete]
        exact ⟨routes ▸ Finset.erase_subset_erase _ subset, fib.trans (if_neg nofun).symm⟩
      · rw [install4_of_none none, none]
        exact ⟨routes ▸ subset, fib.trans (if_neg nofun).symm⟩
    · obtain ⟨fib, routes⟩ := processed.of_ne (Ne.symm own)
      rw [install4_of_none (change_of_ne own), change_of_ne own]
      exact ⟨routes ▸ subset, fib.trans (if_neg nofun).symm⟩
  exact ⟨listed_next balanced4.listed processed,
    balanced4.accounted.next working queue deletes step.2, step.1⟩

theorem balanced4_of_reachable
    (reachable : (fibSystem.guard fun s a => s.Injects a ∧ s.Balanced a).Reachable s) :
    Balanced4 s := by
  refine TransitionSystem.Reachable.induct ?_ ?_ reachable
  · rintro _ ⟨fibMax, rulesMax, rfl⟩
    exact ⟨listed_start .., accounted_start .., Finset.empty_subset _⟩
  · rintro s a t _ balanced4 ⟨⟨enabled, next⟩, injects, balanced⟩
    have listed := balanced4.listed
    cases a with
    | notify info event faults =>
      obtain ⟨rfl, consistent⟩ := injects
      obtain ⟨result, data, next', notified⟩ := next_notify s info event []
      obtain rfl := Option.some.inj (next'.symm.trans next)
      obtain ⟨ht, -, -, -, -⟩ := notified.routes
      have routes : data.routes .AF_INET = s.data.routes .AF_INET := by
        unfold NsimFibData.routes
        rw [ht]
      have processed4 : (s.notified info event (result = .DONE)).processed4 = s.processed4 := by
        unfold FibSystem.notified
        split
        · rfl
        · split <;> rfl
      refine ⟨listed_notify listed notified, ?_, ?_⟩
      · have after := balanced4.accounted.notify consistent notified
        rw [← processed4] at after
        exact after
      · show data.routes .AF_INET ⊆ (s.notified info event (result = .DONE)).processed4
        rw [routes, processed4]
        exact balanced4.subset
    | take =>
      obtain rfl := Option.some.inj next
      exact ⟨listed.of_eq rfl rfl rfl le_rfl rfl, balanced4.accounted.take enabled,
        balanced4.subset⟩
    | next faults =>
      obtain ⟨e, rest, ok, data, working, next', processed⟩ :=
        next_next listed.sound enabled faults
      obtain rfl := Option.some.inj (next'.symm.trans next)
      refine balanced4_next balanced4 working (balanced e ?_) processed
      rw [working]
      rfl
    | failRouteOffload value =>
      obtain rfl := Option.some.inj next
      have accounted := balanced4.accounted
      exact ⟨listed.of_eq rfl rfl rfl le_rfl rfl,
        ⟨accounted.counted.of_eq rfl rfl, accounted.leads, accounted.deletes⟩, balanced4.subset⟩
    | flush | dump | failRouteDelete => exact injects.elim

/-- The occupancy of the IPv4 FIB survives failures that balance: nothing is left once all routes
are deleted. -/
theorem ipv4_occupancy_balanced
    (reachable : (fibSystem.guard fun s a => s.Injects a ∧ s.Balanced a).Reachable s) :
    (s.data.fib .AF_INET).num = s.processed4.card + s.data.pendingOf .AF_INET .ENTRY_REPLACE -
        s.data.pendingOf .AF_INET .ENTRY_DEL ∧
      (s.data.pending = [] → (s.data.fib .AF_INET).num = s.kernel4.card) ∧
      (s.data.pending = [] → s.kernel4 = ∅ → (s.data.fib .AF_INET).num = 0) := by
  have accounted := (balanced4_of_reachable reachable).accounted
  have tally := accounted.counted.tally
  have exact : s.data.pending = [] → (s.data.fib .AF_INET).num = s.kernel4.card := by
    intro drained
    have leads := accounted.leads
    rw [NsimFibData.leadsTo, drained] at leads
    rw [drained] at tally
    rw [← leads]
    exact tally.exact
  refine ⟨?_, exact, fun drained gone => ?_⟩
  · rw [tally.num_eq, balance_changes, add_sub_assoc]
    rfl
  · rw [exact drained, gone]
    rfl

/-- A route whose insertion fails twice, differently, is deleted. -/
theorem ipv4_occupancy_balanced_failing :
    ∃ s, (fibSystem.guard fun s a => s.Injects a ∧ s.Balanced a).Reachable s ∧
      s.data.pending = [] ∧ s.kernel4 = ∅ ∧ (s.data.fib .AF_INET).num = 0 := by
  obtain ⟨s, reachable, test⟩ := reachable_of_advance (fun s a => s.Injects a ∧ s.Balanced a)
    [.notify (.inet (subnet 10)) .ENTRY_REPLACE [], .take, .failRouteOffload true, .next [],
      .failRouteOffload false, .notify (.inet (subnet 10)) .ENTRY_REPLACE [], .take,
      .next [none, some .ENOMEM], .notify (.inet (subnet 10)) .ENTRY_DEL [], .take, .next []]
    (fun s => s.data.pending = [] ∧ s.kernel4 = ∅) (by decide +kernel)
  obtain ⟨drained, gone⟩ := of_decide_eq_true test
  exact ⟨s, reachable, drained, gone, (ipv4_occupancy_balanced reachable).2.2 drained gone⟩

/-- When the replacement of a programmed route is made to fail its count is leaked. -/
theorem ipv4_occupancy_leaks : ∃ s, (fibSystem.guard FibSystem.Injects).Reachable s ∧
    s.data.pending = [] ∧ s.kernel4 = ∅ ∧ (s.data.fib .AF_INET).num = 1 := by
  obtain ⟨s, reachable, test⟩ := reachable_of_advance FibSystem.Injects
    [.notify (.inet (subnet 10)) .ENTRY_REPLACE [], .take, .next [], .failRouteOffload true,
      .notify (.inet (subnet 10)) .ENTRY_REPLACE [], .notify (.inet (subnet 10)) .ENTRY_DEL [],
      .take, .next [], .next []]
    (fun s => s.data.pending = [] ∧ s.kernel4 = ∅ ∧ (s.data.fib .AF_INET).num = 1)
    (by decide +kernel)
  exact ⟨s, reachable, of_decide_eq_true test⟩

end Injected

end Netdevsim.Fib
