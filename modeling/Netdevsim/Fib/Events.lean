import Netdevsim.Fib.Effects

/-!
# What notifications and events do

A notification about a route is counted and queued, or refused.  `Processed` lists what the
processing of a queued event does to the routes, and everything proved of the processing is proved
by going through it.
-/

namespace Netdevsim.Fib

open Program

/-! ## Notifications -/

section Notifications

variable {s : NsimFibData}

/-- The event that a notification is about, and its family. -/
def FibNotifierInfo.event (info : FibNotifierInfo) (event : FibEventType) :
    Option (Family × NsimFibEvent) :=
  match info with
  | .inet fenInfo => some (.AF_INET, .inet fenInfo event)
  | .inet6 rt siblings => some (.AF_INET6, .inet6 ⟨rt, siblings⟩ event)
  | .other => none

/-- The counter when an event is announced. -/
def NsimFibData.announce (s : NsimFibData) (family : Family) : FibEventType → NsimFibData
  | .ENTRY_REPLACE => s.setFib family ((s.fib family).num + 1)
  | .ENTRY_DEL => s.uncount family
  | _ => s

theorem NsimFibData.announce_eq (s : NsimFibData) (family : Family) (event : FibEventType) :
    s.announce family event = { s with perFib := (s.announce family event).perFib } := by
  cases event <;> rfl

/-- Why an event is refused when no allocation fails. -/
def NsimFibData.Vetoes (s : NsimFibData) (family : Family) (event : FibEventType) : Prop :=
  (event = .ENTRY_REPLACE ∧ (s.fib family).num = (s.fib family).max.toNat) ∨
    (event = .ENTRY_DEL ∧ s.failRouteDelete = true)

/-- The event of a notification is counted and queued. -/
def NsimFibData.Queued (s : NsimFibData) (info : FibNotifierInfo) (event : FibEventType)
    (t : NsimFibData) : Prop :=
  ∃ family e faults, info.event event = some (family, e) ∧ ¬s.Vetoes family event ∧
    t = { s.announce family event with
      fibEventQueue := s.fibEventQueue ++ [e], faults := faults }

/-- The event of a notification is refused. -/
def NsimFibData.Refused (s : NsimFibData) (info : FibNotifierInfo) (event : FibEventType)
    (t : NsimFibData) : Prop :=
  ∃ family e faults flush, info.event event = some (family, e) ∧
    (s.faults = [] → s.Vetoes family event) ∧
    t = { s with flushScheduled := flush, faults := faults }

theorem twp_prepareEvent (family : Family) (event : FibEventType) :
    twp (prepareEvent family event)
      (fun _ t => ¬s.Vetoes family event ∧ t = s.announce family event)
      (fun _ t => s.Vetoes family event ∧ t = s) s := by
  unfold prepareEvent NsimFibData.announce NsimFibData.Vetoes
  cases event with
  | ENTRY_REPLACE =>
    unfold nsimFibAccount
    rw [twp_bind, twp_get]
    dsimp only
    rw [if_pos rfl, twp_bind, twp_failIf]
    refine ⟨fun full => ⟨.inl ⟨rfl, full⟩, rfl⟩, fun room => ⟨?_, rfl⟩⟩
    rintro (⟨-, full⟩ | ⟨other, -⟩)
    · exact room full
    · cases other
  | ENTRY_DEL =>
    rw [twp_bind, twp_get, twp_bind, twp_failIf]
    refine ⟨fun fails => ⟨.inr ⟨rfl, fails⟩, rfl⟩, fun works => ⟨?_, rfl⟩⟩
    rintro (⟨other, -⟩ | ⟨-, fails⟩)
    · cases other
    · exact works fails
  | _ =>
    refine ⟨?_, rfl⟩
    rintro (⟨other, -⟩ | ⟨other, -⟩) <;> cases other

/-- The counter of a family goes up or down, or the event is refused; any faults left stay. -/
theorem twp_prepareEvent_faults (faults : List (Option Errno)) (family : Family)
    (event : FibEventType) :
    twp (prepareEvent family event)
      (fun _ t => ¬s.Vetoes family event ∧ t = { s.announce family event with faults := faults })
      (fun _ t => s.Vetoes family event ∧ t = { s with faults := faults })
      { s with faults := faults } := by
  refine twp_mono (twp_prepareEvent family event) ?_ ?_
  · rintro _ _ ⟨accepted, rfl⟩
    refine ⟨accepted, ?_⟩
    cases event <;> rfl
  · exact fun _ _ refused => refused

theorem twp_newFibEvent (info : FibNotifierInfo) (event : FibEventType) :
    twp (newFibEvent event info)
      (fun o t => (o = none ∧ info = .other ∧ t = s) ∨
        ∃ family e faults, o = some e ∧ info.event event = some (family, e) ∧
          ¬s.Vetoes family event ∧ t = { s.announce family event with faults := faults })
      (fun _ t => ∃ family e faults, info.event event = some (family, e) ∧
        (s.faults = [] → s.Vetoes family event) ∧ t = { s with faults := faults }) s := by
  have works : ∀ {faults : List (Option Errno)}, (faults.headD none).isSome = true → faults ≠ [] := by
    rintro _ fails rfl
    cases fails
  cases info with
  | inet fenInfo =>
    unfold newFibEvent nsimFib4PrepareEvent
    rw [twp_bind, twp_mayRunOut]
    split
    · rename_i fails
      exact ⟨_, _, _, rfl, fun none => absurd none (works fails), rfl⟩
    · rw [twp_bind, twp_bind]
      refine twp_mono (twp_prepareEvent_faults _ _ _) ?_ ?_
      · rintro _ _ ⟨accepted, rfl⟩
        exact .inr ⟨_, _, _, rfl, rfl, accepted, rfl⟩
      · rintro _ _ ⟨refused, rfl⟩
        exact ⟨_, _, _, rfl, fun _ => refused, rfl⟩
  | inet6 rt siblings =>
    unfold newFibEvent nsimFib6PrepareEvent
    rw [twp_bind, twp_mayRunOut]
    split
    · rename_i fails
      exact ⟨_, _, _, rfl, fun none => absurd none (works fails), rfl⟩
    · rw [twp_bind, twp_bind, twp_mayRunOut]
      split
      · rename_i fails
        refine ⟨_, _, _, rfl, fun none => ?_, rfl⟩
        rw [none] at fails
        cases fails
      · rw [twp_bind]
        refine twp_mono (twp_prepareEvent_faults (s := s) _ _ _) ?_ ?_
        · rintro _ _ ⟨accepted, rfl⟩
          exact .inr ⟨_, _, _, rfl, rfl, accepted, rfl⟩
        · rintro _ _ ⟨refused, rfl⟩
          exact ⟨_, _, _, rfl, fun _ => refused, rfl⟩
  | other => exact .inl ⟨rfl, rfl, rfl⟩

/-- A notification about a route is queued and counted, or refused, or about no route. -/
theorem twp_nsimFibEventScheduleWork (info : FibNotifierInfo) (event : FibEventType) :
    twp (nsimFibEventScheduleWork info event)
      (fun r t => (r = .DONE ∧ (s.Queued info event t ∨ info = .other ∧ t = s)) ∨
        ((∃ extack, r = .BAD extack) ∧ s.Refused info event t))
      (fun _ _ => False) s := by
  unfold nsimFibEventScheduleWork
  rw [twp_tryCatch, twp_bind]
  refine twp_mono (twp_newFibEvent info event) ?_ ?_
  · rintro _ _ (⟨rfl, other, rfl⟩ | ⟨family, e, faults, rfl, own, accepted, rfl⟩)
    · exact .inl ⟨rfl, .inr ⟨other, rfl⟩⟩
    · refine .inl ⟨rfl, .inl ⟨family, e, faults, own, accepted, ?_⟩⟩
      have queue : (s.announce family event).fibEventQueue = s.fibEventQueue := by
        cases event <;> rfl
      show { s.announce family event with
        fibEventQueue := (s.announce family event).fibEventQueue ++ [e], faults := faults } = _
      rw [queue]
  · rintro refusal _ ⟨family, e, faults, own, why, rfl⟩
    dsimp only
    split
    · exact .inr ⟨⟨_, rfl⟩, family, e, faults, true, own, why, rfl⟩
    · exact .inr ⟨⟨_, rfl⟩, family, e, faults, s.flushScheduled, own, why, rfl⟩

/-- A notification about a rule. -/
theorem twp_notifyRule (info : FibNotifierInfo) (add : Bool) :
    twp (notifyRule info add)
      (fun _ t => ∃ perFib, (∀ family, (perFib family).fib = s.fib family) ∧
        t = { s with perFib := perFib })
      (fun _ _ => False) s := by
  have rules : ∀ family num, ∃ perFib : Family → NsimPerFibData,
      (∀ family, (perFib family).fib = s.fib family) ∧
        s.setRules family num = { s with perFib := perFib } := by
    intro family num
    refine ⟨_, fun other => ?_, rfl⟩
    by_cases here : other = family
    · subst here
      rw [Function.update_self]
      rfl
    · rw [Function.update_of_ne here]
      rfl
  have counts : ∀ family, twp (nsimFibRuleAccount family add)
      (fun _ t => ∃ perFib, (∀ family, (perFib family).fib = s.fib family) ∧
        t = { s with perFib := perFib }) (fun _ t => t = s) s := by
    intro family
    unfold nsimFibRuleAccount
    rw [twp_bind, twp_get]
    dsimp only
    split
    · rw [twp_bind, twp_failIf]
      exact ⟨fun _ => rfl, fun _ => rules family _⟩
    · exact rules family _
  have same : ∃ perFib : Family → NsimPerFibData, (∀ family, (perFib family).fib = s.fib family) ∧
      s = { s with perFib := perFib } := ⟨s.perFib, fun _ => rfl, rfl⟩
  unfold notifyRule
  rw [twp_tryCatch]
  cases info with
  | other => exact same
  | _ =>
    dsimp only
    rw [twp_bind]
    refine twp_mono (counts _) (fun _ _ => id) ?_
    rintro _ _ rfl
    exact same

/-- What a notification does. -/
inductive Notified (s : NsimFibData) (info : FibNotifierInfo) (event : FibEventType) :
    Notify → NsimFibData → Prop where
  | queued {t} (route : event = .ENTRY_REPLACE ∨ event = .ENTRY_APPEND ∨ event = .ENTRY_DEL)
      (queued : s.Queued info event t) : Notified s info event .DONE t
  | refused {t extack} (refused : s.Refused info event t) : Notified s info event (.BAD extack) t
  | unrelated {result perFib}
      (other : info = .other ∨
        event ≠ .ENTRY_REPLACE ∧ event ≠ .ENTRY_APPEND ∧ event ≠ .ENTRY_DEL)
      (same : ∀ family, (perFib family).fib = s.fib family) :
      Notified s info event result { s with perFib := perFib }

theorem twp_nsimFibEventNb (info : FibNotifierInfo) (event : FibEventType) :
    twp (nsimFibEventNb info event) (Notified s info event) (fun _ _ => False) s := by
  have schedules : (event = .ENTRY_REPLACE ∨ event = .ENTRY_APPEND ∨ event = .ENTRY_DEL) →
      twp (nsimFibEventScheduleWork info event) (Notified s info event)
        (fun _ _ => False) s := by
    intro route
    refine twp_mono (twp_nsimFibEventScheduleWork info event) ?_ fun _ _ => id
    rintro _ t (⟨rfl, queued | ⟨rfl, rfl⟩⟩ | ⟨⟨_, rfl⟩, refused⟩)
    · exact .queued route queued
    · exact .unrelated (.inl rfl) fun _ => rfl
    · exact .refused refused
  have rules : ∀ add, (event ≠ .ENTRY_REPLACE ∧ event ≠ .ENTRY_APPEND ∧ event ≠ .ENTRY_DEL) →
      twp (notifyRule info add) (Notified s info event) (fun _ _ => False) s := by
    intro add other
    refine twp_mono (twp_notifyRule info add) ?_ fun _ _ => id
    rintro _ _ ⟨perFib, same, rfl⟩
    exact .unrelated (.inr other) same
  unfold nsimFibEventNb
  cases event with
  | RULE_ADD => exact rules true ⟨nofun, nofun, nofun⟩
  | RULE_DEL => exact rules false ⟨nofun, nofun, nofun⟩
  | other => exact .unrelated (.inr ⟨nofun, nofun, nofun⟩) fun _ => rfl
  | ENTRY_REPLACE => exact schedules (.inl rfl)
  | ENTRY_APPEND => exact schedules (.inr (.inl rfl))
  | ENTRY_DEL => exact schedules (.inr (.inr rfl))

end Notifications

/-! ## Processing -/

section Processing

variable {s : NsimFibData}

def NsimFibEvent.family : NsimFibEvent → Family
  | .inet _ _ => .AF_INET
  | .inet6 _ _ => .AF_INET6

def NsimFibEvent.type : NsimFibEvent → FibEventType
  | .inet _ event | .inet6 _ event => event

def NsimFibEvent.key : NsimFibEvent → NsimFibRtKey
  | .inet fenInfo _ => fenInfo.key
  | .inet6 fib6Event _ => fib6Event.rt.key

/-- The object that an insertion creates. -/
def NsimFibEvent.newRt : NsimFibEvent → NsimFibRt
  | .inet fenInfo _ => fenInfo.rt
  | .inet6 fib6Event _ => fib6Event.newRt

/-- The number of allocations of an insertion. -/
def NsimFibEvent.allocs : NsimFibEvent → ℕ
  | .inet _ _ => 1
  | .inet6 fib6Event _ => fib6Event.nrt6 + 1

/-- The nexthops of an IPv6 event. -/
def NsimFibEvent.nexthops : NsimFibEvent → List Fib6Info
  | .inet _ _ => []
  | .inet6 fib6Event _ => fib6Event.rtArr

/-- The event is about a route with a source prefix. -/
def NsimFibEvent.HasSource : NsimFibEvent → Prop
  | .inet _ _ => False
  | .inet6 fib6Event _ => fib6Event.rt.fib6Src.plen ≠ 0

instance NsimFibEvent.decidableHasSource : DecidablePred NsimFibEvent.HasSource
  | .inet _ _ => .isFalse id
  | .inet6 e _ => inferInstanceAs (Decidable (e.rt.fib6Src.plen ≠ 0))

@[simp] theorem NsimFibEvent.key_newRt (e : NsimFibEvent) : e.newRt.key = e.key := by
  cases e <;> rfl

theorem NsimFibEvent.of_newRt (e : NsimFibEvent) : e.newRt.Of e.family := by
  cases e with
  | inet fenInfo _ => exact of_rt fenInfo
  | inet6 fib6Event _ => exact Fib.of_newRt fib6Event

theorem NsimFibEvent.family_key (e : NsimFibEvent) : e.key.family = e.family := by
  cases e <;> rfl

/-- What the processing of an event does to the routes, and whether it succeeds. -/
inductive Processed (s : NsimFibData) (e : NsimFibEvent) : Bool → NsimFibData → Prop where
  | inserted {t} (plain : ¬e.HasSource) (replace : e.type = .ENTRY_REPLACE)
      (accepted : s.refuses e.allocs = false) (works : s.hashFails e.allocs = false)
      (program : Unchanged (s.programRt e.newRt) t) :
      Processed s e true t
  | refused {t} (replace : e.type = .ENTRY_REPLACE) (refused : s.refuses e.allocs = true)
      (same : Unchanged s t) : Processed s e false t
  | failed {t} (replace : e.type = .ENTRY_REPLACE) (accepted : s.refuses e.allocs = false)
      (fails : s.hashFails e.allocs = true) (uncount : Unchanged (s.uncount e.family) t) :
      Processed s e false t
  /-- A route that is removed does not have other nexthops than those deleted. -/
  | removed (delete : e.type = .ENTRY_DEL)
      (all : ∀ p rt, s.fibRtHt.lookup e.key = some p → s.rt p = some ⟨e.key, .inet6 rt⟩ →
        rt.nhs = e.nexthops.length) : Processed s e true (s.removeKey e.key)
  | extended {t p rt} (append : e.type = .ENTRY_APPEND) (present : s.fibRtHt.lookup e.key = some p)
      (live : s.rt p = some ⟨e.key, .inet6 rt⟩) (exact : rt.Exact)
      (change : Unchanged (s.changeRt p
        ⟨e.key, .inet6 ⟨rt.nhList ++ e.nexthops, rt.nhs + e.nexthops.length⟩⟩) t) :
      Processed s e true t
  | interrupted {t p rt rt'} (append : e.type = .ENTRY_APPEND)
      (fails : anyFails e.nexthops.length s.faults = true)
      (live : s.rt p = some ⟨e.key, .inet6 rt⟩) (exact : rt'.Exact)
      (change : Unchanged (s.changeRt p ⟨e.key, .inet6 rt'⟩) t) : Processed s e false t
  | missed {t} (append : e.type = .ENTRY_APPEND)
      (misses : s.failRouteOffload = true ∨ s.fibRtHt.lookup e.key = none) (same : Unchanged s t) :
      Processed s e false t
  | shrunk {p rt} (delete : e.type = .ENTRY_DEL) (present : s.fibRtHt.lookup e.key = some p)
      (live : s.rt p = some ⟨e.key, .inet6 rt⟩) (exact : rt.Exact)
      (some : e.nexthops.length ≠ rt.nhs) :
      Processed s e true
        (s.changeRt p ⟨e.key, .inet6 (e.nexthops.foldl NsimFib6Rt.del rt)⟩)
  | ignored (ignores : e.HasSource ∨ e.type ≠ .ENTRY_REPLACE ∧ e.type ≠ .ENTRY_DEL ∧
      (e.family = .AF_INET6 → e.type ≠ .ENTRY_APPEND)) : Processed s e true s

theorem Unchanged.hwFlagsSet {t : NsimFibData} (same : Unchanged s t) (flags : HwFlags) :
    Unchanged s { t with hwFlags := t.hwFlags ++ [flags] } :=
  same.trans ⟨_, _, _, le_rfl, rfl⟩

/-- What is told the kernel afterwards does not matter. -/
theorem Processed.trans {e : NsimFibEvent} {t u : NsimFibData} (first : Processed s e false t)
    (second : Unchanged t u) : Processed s e false u := by
  cases first with
  | refused replace refused same => exact .refused replace refused (same.trans second)
  | failed replace accepted fails uncount =>
    exact .failed replace accepted fails (uncount.trans second)
  | interrupted append fails live exact change =>
    exact .interrupted append fails live exact (change.trans second)
  | missed append misses same => exact .missed append misses (same.trans second)

/-- The rule for all insertions. -/
theorem processed_insert {e : NsimFibEvent} {m : FibM Unit} (plain : ¬e.HasSource)
    (replace : e.type = .ENTRY_REPLACE)
    (inserts : twp m
      (fun _ t => s.refuses e.allocs = false ∧ s.hashFails e.allocs = false ∧
        Unchanged (s.programRt e.newRt) t)
      (fun _ t => if s.refuses e.allocs then Unchanged s t
        else s.hashFails e.allocs = true ∧ Unchanged (s.uncount e.family) t) s) :
    twp m (fun _ t => Processed s e true t) (fun _ t => Processed s e false t) s := by
  refine twp_mono inserts ?_ fun _ t error => ?_
  · exact fun _ t ⟨accepted, works, program⟩ => .inserted plain replace accepted works program
  · split at error
    · rename_i refused
      exact .refused replace refused error
    · rename_i accepted
      exact .failed replace (Bool.eq_false_of_not_eq_true accepted) error.1 error.2

theorem twp_nsimFib4Event (sound : Sound s) (fenInfo : FibEntryNotifierInfo)
    (event : FibEventType) :
    twp (nsimFib4Event fenInfo event) (fun _ t => Processed s (.inet fenInfo event) true t)
      (fun _ t => Processed s (.inet fenInfo event) false t) s := by
  unfold nsimFib4Event
  cases event with
  | ENTRY_REPLACE =>
    dsimp only
    rw [twp_unwind]
    have inserts := processed_insert (e := .inet fenInfo .ENTRY_REPLACE) id rfl
      (twp_nsimFib4RtInsert sound fenInfo)
    refine twp_mono inserts (fun _ _ => id) ?_
    exact fun _ t processed => processed.trans ⟨_, _, _, le_rfl, rfl⟩
  | ENTRY_DEL =>
    refine twp_mono (twp_nsimFib4RtRemove sound fenInfo) ?_ fun _ _ => False.elim
    rintro _ _ rfl
    refine .removed rfl fun p rt present live => ?_
    have family : fenInfo.key.family = .AF_INET6 := (sound.wellFormed _ _ live).1
    cases family
  | _ => exact .ignored (.inr ⟨nofun, nofun, nofun⟩)

theorem twp_nsimFib6Event (sound : Sound s) (fib6Event : NsimFib6Event) (event : FibEventType) :
    twp (nsimFib6Event fib6Event event) (fun _ t => Processed s (.inet6 fib6Event event) true t)
      (fun _ t => Processed s (.inet6 fib6Event event) false t) s := by
  have told : ∀ t, Processed s (.inet6 fib6Event event) false t →
      twp (nsimFib6RtOffloadFailedFlagSet fib6Event)
        (fun _ t => Processed s (.inet6 fib6Event event) false t)
        (fun _ t => Processed s (.inet6 fib6Event event) false t) t := by
    intro t processed
    refine twp_forM (I := fun _ => Processed s (.inet6 fib6Event event) false) ?_ processed
    exact fun _ _ _ processed => processed.trans ⟨_, _, _, le_rfl, rfl⟩
  unfold nsimFib6Event
  split
  · rename_i source
    exact .ignored (.inl source)
  · rename_i plain
    cases event with
    | ENTRY_REPLACE =>
      dsimp only
      rw [twp_unwind]
      have inserts := processed_insert (e := .inet6 fib6Event .ENTRY_REPLACE) plain rfl
        (twp_nsimFib6RtInsert sound fib6Event)
      exact twp_mono inserts (fun _ _ => id) fun _ => told
    | ENTRY_APPEND =>
      dsimp only
      rw [twp_unwind]
      refine twp_mono (twp_nsimFib6RtAppend sound fib6Event) ?_ fun _ t error => told t ?_
      · rintro _ _ ⟨p, rt, present, live, exact, change⟩
        exact .extended rfl present live exact change
      · obtain ⟨misses, same⟩ | ⟨fails, p, rt, rt', live, exact, change⟩ := error
        · exact .missed rfl misses same
        · exact .interrupted rfl fails live exact change
    | ENTRY_DEL =>
      refine twp_mono (twp_nsimFib6RtRemove sound fib6Event) ?_ fun _ _ => False.elim
      rintro _ t (⟨absent, rfl⟩ | ⟨p, rt, present, live, exact, rfl⟩)
      · have same : t.removeKey fib6Event.rt.key = t := by
          rw [NsimFibData.removeKey, absent]
        have removed : Processed t (.inet6 fib6Event .ENTRY_DEL) true
            (t.removeKey fib6Event.rt.key) := by
          refine .removed rfl fun p rt present _ => ?_
          cases absent.symm.trans present
        rwa [same] at removed
      · split
        · rename_i all
          have gone : s.removeRt fib6Event.rt.key p = s.removeKey fib6Event.rt.key := by
            rw [NsimFibData.removeKey, present]
          rw [gone]
          refine .removed rfl fun q rt' there live' => ?_
          obtain rfl : p = q := Option.some.inj (present.symm.trans there)
          rw [live] at live'
          cases live'
          exact all.symm
        · rename_i some
          exact .shrunk rfl present live exact some
    | _ => exact .ignored (.inr ⟨nofun, nofun, nofun⟩)

theorem twp_process (sound : Sound s) (e : NsimFibEvent) :
    twp e.process (fun _ t => Processed s e true t) (fun _ t => Processed s e false t) s := by
  cases e with
  | inet fenInfo event => exact twp_nsimFib4Event sound fenInfo event
  | inet6 fib6Event event => exact twp_nsimFib6Event sound fib6Event event

variable {e : NsimFibEvent} {ok : Bool} {t : NsimFibData}

theorem Processed.sound (sound : Sound s) (processed : Processed s e ok t) : Sound t := by
  have change : ∀ {p : ℕ} {rt rt' : NsimFib6Rt}, s.rt p = some ⟨e.key, .inet6 rt⟩ → rt'.Exact →
      Sound (s.changeRt p ⟨e.key, .inet6 rt'⟩) := fun live exact =>
    sound.changeRt live rfl ⟨(sound.wellFormed _ _ live).1, exact⟩
  cases processed with
  | inserted _ _ _ _ program => exact (sound.programRt e.of_newRt.1).unchanged program
  | refused _ _ same => exact sound.unchanged same
  | failed _ _ _ uncount => exact (sound.uncount _).unchanged uncount
  | removed => exact sound.removeKey e.key
  | extended _ _ live exact changed =>
    refine (change live ?_).unchanged changed
    unfold NsimFib6Rt.Exact at exact ⊢
    rw [List.length_append, exact]
  | interrupted _ _ live exact changed => exact (change live exact).unchanged changed
  | missed _ _ same => exact sound.unchanged same
  | shrunk _ _ live exact _ => exact change live (exact.dels _)
  | ignored => exact sound

/-- An insertion that succeeds leaves the new object in the table. -/
theorem Processed.of_inserts (sound : Sound s) (processed : Processed s e ok t) (works : ok = true)
    (replace : e.type = .ENTRY_REPLACE) (plain : ¬e.HasSource) :
    t.fibRtHt.lookup e.key = some s.nextPtr ∧ t.rt s.nextPtr = some e.newRt := by
  cases processed with
  | inserted _ _ _ _ program =>
    obtain ⟨_, _, _, _, rfl⟩ := program
    have at_key := s.fibRtHt_programRt e.newRt
    have live := sound.rt_programRt_self e.newRt
    rw [NsimFibEvent.key_newRt] at at_key
    refine ⟨?_, live⟩
    show (s.programRt e.newRt).fibRtHt.lookup e.key = _
    rw [at_key, AList.lookup_insert]
  | refused | failed | interrupted | missed => cases works
  | removed other | extended other | shrunk other => cases replace.symm.trans other
  | ignored ignores =>
    obtain source | ⟨other, -⟩ := ignores
    · exact absurd source plain
    · exact absurd replace other

/-- What else is in the table was there, and IPv4 routes do not change. -/
theorem Processed.of_lookup (sound : Sound s) (processed : Processed s e ok t) {key : NsimFibRtKey}
    {p : ℕ} (at_key : t.fibRtHt.lookup key = some p)
    (other : ok = true ∧ e.type = .ENTRY_REPLACE ∧ ¬e.HasSource → key ≠ e.key) :
    s.fibRtHt.lookup key = some p ∧
      ∀ r : NsimFibRt, r.key.family = .AF_INET → s.rt p = some r → t.rt p = some r := by
  have change : ∀ {q : ℕ} {rt : NsimFib6Rt} {r : NsimFibRt}, s.rt q = some ⟨e.key, .inet6 rt⟩ →
      ∀ r' : NsimFibRt, r'.key.family = .AF_INET → s.rt p = some r' →
        (s.changeRt q r).rt p = some r' := by
    intro q rt r live r' inet live'
    have away : p ≠ q := by
      rintro rfl
      rw [live] at live'
      cases live'
      have family : e.key.family = .AF_INET6 := (sound.wellFormed _ _ live).1
      cases inet.symm.trans family
    rw [NsimFibData.rt_changeRt, Function.update_of_ne away, live']
  cases processed with
  | inserted plain replace _ _ program =>
    have away := other ⟨rfl, replace, plain⟩
    obtain ⟨_, _, _, _, rfl⟩ := program
    have table := s.fibRtHt_programRt e.newRt
    rw [NsimFibEvent.key_newRt] at table
    have old : s.fibRtHt.lookup key = some p := by
      rw [← AList.lookup_insert_ne away, ← table]
      exact at_key
    refine ⟨old, fun r _ live => ?_⟩
    refine (sound.rt_programRt_of_ne live fun at_e => ?_).trans live
    rw [NsimFibEvent.key_newRt] at at_e
    exact away (sound.lookup_inj old at_e)
  | refused _ _ same | missed _ _ same =>
    obtain ⟨_, _, _, _, rfl⟩ := same
    exact ⟨at_key, fun _ _ live => live⟩
  | failed _ _ _ uncount =>
    obtain ⟨_, _, _, _, rfl⟩ := uncount
    exact ⟨at_key, fun _ _ live => live⟩
  | removed =>
    obtain ⟨old, away⟩ := of_lookup_removeKey at_key
    exact ⟨old, fun r _ live => (sound.rt_removeKey_of_ne old away).trans live⟩
  | extended _ _ live _ changed =>
    obtain ⟨_, _, _, _, rfl⟩ := changed
    exact ⟨at_key, change live⟩
  | interrupted _ _ live _ changed =>
    obtain ⟨_, _, _, _, rfl⟩ := changed
    exact ⟨at_key, change live⟩
  | shrunk _ _ live _ _ => exact ⟨at_key, change live⟩
  | ignored => exact ⟨at_key, fun _ _ live => live⟩

end Processing

/-! ## Work -/

section Work

variable {s : NsimFibData}

theorem twp_nextEvent {e : NsimFibEvent} {rest : List NsimFibEvent} (sound : Sound s)
    (working : s.working = e :: rest) :
    twp nextEvent
      (fun o t => ∃ ok u, o = some (e, ok) ∧ Processed s e ok u ∧ t = { u with working := rest })
      (fun _ _ => False) s := by
  unfold nextEvent
  rw [twp_bind, twp_get, working]
  dsimp only
  rw [twp_bind, twp_attempt]
  refine twp_mono (twp_process sound e) ?_ ?_
  · exact fun _ t processed => ⟨true, t, rfl, processed, rfl⟩
  · exact fun _ t processed => ⟨false, t, rfl, processed, rfl⟩

theorem twp_nsimFibRtFree {p : ℕ} {r : NsimFibRt} (live : s.rt p = some r)
    (wellFormed : r.WellFormed) :
    twp (nsimFibRtFree p) (fun _ t => Unchanged ((s.uncount r.key.family).dropRt p) t)
      (fun _ _ => False) s := by
  have frees : ∀ {family : Family} {flagsSet : ℕ → Bool → FibM Unit} {destroy : ℕ → FibM Unit},
      SetsFlags family flagsSet → Destroys family destroy → r.Of family →
      twp (do flagsSet p false; nsimFibAccount family false none; destroy p)
        (fun _ t => Unchanged ((s.uncount family).dropRt p) t) (fun _ _ => False) s := by
    intro family flagsSet destroy flags destroys of
    rw [twp_bind]
    refine twp_mono (flags s p false r live of) ?_ fun _ _ => False.elim
    rintro _ _ ⟨next, faults, told, le, rfl⟩
    rw [twp_bind, twp_nsimFibAccount_false]
    refine twp_mono (destroys _ p r live of) ?_ fun _ _ => False.elim
    rintro _ _ rfl
    exact ⟨next, faults, told, le, rfl⟩
  unfold nsimFibRtFree
  rw [twp_bind, twp_derefRt]
  refine ⟨r, live, ?_⟩
  obtain ⟨key, rt | rt⟩ := r
  · have family : key.family = .AF_INET := wellFormed
    dsimp only
    rw [family]
    exact frees setsFlags_nsimFib4RtHwFlagsSet destroys_nsimFib4RtDestroy ⟨wellFormed, family⟩
  · have family : key.family = .AF_INET6 := wellFormed.1
    dsimp only
    rw [family]
    exact frees setsFlags_nsimFib6RtHwFlagsSet destroys_nsimFib6RtDestroy ⟨wellFormed, family⟩

/-- All routes go, one after the other. -/
theorem twp_flushRoutes (sound : Sound s) :
    twp flushRoutes (fun _ t => Sound t ∧ t.fibRtList = []) (fun _ _ => False) s := by
  unfold flushRoutes
  rw [twp_bind, twp_get]
  refine twp_forM (I := fun rest t => Sound t ∧ t.fibRtList = rest) ?_ ⟨sound, rfl⟩
  rintro p rest t ⟨sound, list⟩
  have mem : p ∈ t.fibRtList := by
    rw [list]
    exact List.mem_cons_self
  obtain ⟨key, at_key⟩ := (sound.listed p).1 mem
  obtain ⟨r, live, rfl⟩ := sound.object key p at_key
  rw [twp_bind, twp_derefRt]
  refine ⟨r, live, ?_⟩
  rw [twp_bind, twp_rhashtableRemoveFast at_key]
  refine twp_mono (twp_nsimFibRtFree (by exact live) (sound.wellFormed p r live)) ?_
    fun _ _ => False.elim
  rintro _ u same
  have removed : Sound ((t.removeRt r.key p).uncount r.key.family) :=
    (sound.removeRt at_key).uncount _
  obtain ⟨_, _, _, le, rfl⟩ := same
  refine ⟨removed.of_eq rfl rfl rfl le, ?_⟩
  show t.fibRtList.erase p = rest
  rw [list, List.erase_cons_head]

theorem twp_nsimFibDumpInconsistent (sound : Sound s) :
    twp nsimFibDumpInconsistent (fun _ t => Sound t ∧ t.fibRtList = []) (fun _ _ => False) s := by
  unfold nsimFibDumpInconsistent
  rw [twp_bind]
  refine twp_mono (twp_flushRoutes sound) ?_ fun _ _ => False.elim
  rintro _ t ⟨sound, list⟩
  exact ⟨sound.of_eq rfl rfl rfl le_rfl, list⟩

end Work

end Netdevsim.Fib
