import Netdevsim.Ptp.Extts

/-!
# No TAI second is skipped

The callback moves its timer from the previous expiry, not from the present.  What keeps it from
skipping a second is a bound on the expiry: it is at most `wakeBound` after the start of the first
unreported second.  Callbacks at most `L` late then always run before that second is over, as long
as `L + wakeBound D < 1 s`.
-/

namespace Netdevsim

/-- The latest expiry within the first unreported second, for the delay `D`: the wake-up aimed at
the delayed edge, or one idle poll. -/
def wakeBound (D : ℕ) : ℕ := max (D + NSEC_PER_MSEC) (100 * NSEC_PER_MSEC)

/-- A driver with its past: the time of the last call, the TAI second in which EXTTS was enabled
and the seconds of the emitted events, oldest first. -/
structure EdgeHistory where
  phc : MockPhc
  now : ℕ
  enabledIn : Option ℕ
  emitted : List ℕ

/-- The history after one call. -/
def EdgeHistory.next (h : EdgeHistory) (clk : Clocks) (op : PhcOp) : EdgeHistory where
  phc := (phcStep h.phc clk op).1
  now := clk.mono.toNat
  enabledIn := if op.enablesExtts then some (clk.tai.toNat / NSEC_PER_SEC) else h.enabledIn
  emitted := match (phcStep h.phc clk op).2 with
    | .event _ => h.emitted ++ [clk.tai.toNat / NSEC_PER_SEC]
    | _ => h.emitted

/-- The call happens in time: callbacks run at or after the expiry, and no call finds a callback
more than `L` overdue. -/
def InTime (L : ℕ) (h : EdgeHistory) (clk : Clocks) (op : PhcOp) : Prop :=
  h.now ≤ clk.mono.toNat ∧
    (∀ expires, h.phc.exttsTimer = some expires → clk.mono.toNat ≤ expires + L) ∧
    (op = .exttsTimer → ∃ expires, h.phc.exttsTimer = some expires ∧ expires ≤ clk.mono.toNat)

/-- EXTTS is enabled once, with the delay `D`, and neither switched nor given a delay later. -/
def EnabledOnce (D : ℕ) (h : EdgeHistory) (op : PhcOp) : Prop :=
  match h.enabledIn with
  | none => op.enablesExtts → h.phc.delay = D
  | some _ => op.concernsExtts → op = .exttsTimer

/-- Runs of a driver from its creation in which CLOCK_TAI stays `c` ahead of CLOCK_MONOTONIC, every
callback is at most `L` late, and EXTTS is enabled once with the delay `D`. -/
def edgeSystem (c : ℤ) (L D : ℕ) : TransitionSystem EdgeHistory (Clocks × PhcOp) where
  init h := ∃ clk : Clocks, (clk.tai.toNat : ℤ) = clk.mono.toNat + c ∧
    h = ⟨mockPhcCreate clk, clk.mono.toNat, none, []⟩
  step h call h' := (call.1.tai.toNat : ℤ) = call.1.mono.toNat + c ∧ InTime L h call.1 call.2 ∧
    EnabledOnce D h call.2 ∧ h' = h.next call.1 call.2

/-- Before EXTTS is enabled the timer polls every 100 ms. -/
structure Polling (h : EdgeHistory) : Prop where
  disabled : h.phc.exttsEnabled = false
  silent : h.emitted = []
  timer : ∃ expires, h.phc.exttsTimer = some expires ∧ expires ≤ h.now + 100 * NSEC_PER_MSEC

/-- Since EXTTS was enabled in the second `s`, `n` seconds were reported without a gap, the present
is at most one second further, and the timer expires soon enough to report that one. -/
structure Reporting (c : ℤ) (D s n : ℕ) (h : EdgeHistory) : Prop where
  enabled : h.phc.exttsEnabled
  delay : h.phc.delay = D
  last : h.phc.lastExttsSec.toNat = s + n
  emitted : h.emitted = List.range' (s + 1) n
  present : ((s + n : ℕ) : ℤ) * NSEC_PER_SEC ≤ h.now + c ∧
    h.now + c < ((s + n + 2 : ℕ) : ℤ) * NSEC_PER_SEC
  timer : ∃ expires : ℕ, h.phc.exttsTimer = some expires ∧
    expires + c ≤ ((s + n + 1 : ℕ) : ℤ) * NSEC_PER_SEC + wakeBound D

/-- The invariant of the runs. -/
def EdgeInvariant (c : ℤ) (D : ℕ) (h : EdgeHistory) : Prop :=
  match h.enabledIn with
  | none => Polling h
  | some s => ∃ n, Reporting c D s n h

section Step

variable {c : ℤ} {L D s n : ℕ} {h : EdgeHistory} {clk : Clocks} {op : PhcOp}

theorem EdgeHistory.next_emitted_of_silent
    (silent : ∀ e, (phcStep h.phc clk op).2 ≠ .event e) : (h.next clk op).emitted = h.emitted := by
  unfold EdgeHistory.next
  cases out : (phcStep h.phc clk op).2 with
  | event e => exact absurd out (silent e)
  | _ => rfl

/-- A call that leaves the polling state and the timer alone. -/
theorem Polling.keep (polling : Polling h) (later : h.now ≤ clk.mono.toNat)
    (silent : ∀ e, (phcStep h.phc clk op).2 ≠ .event e)
    (switch : (phcStep h.phc clk op).1.exttsEnabled = false)
    (timer : (phcStep h.phc clk op).1.exttsTimer = h.phc.exttsTimer) :
    Polling (h.next clk op) where
  disabled := switch
  silent := (EdgeHistory.next_emitted_of_silent silent).trans polling.silent
  timer := by
    obtain ⟨expires, armed, soon⟩ := polling.timer
    exact ⟨expires, timer.trans armed, soon.trans (Nat.add_le_add_right later _)⟩

/-- The callback of the disabled input polls on. -/
theorem Polling.timerStep (polling : Polling h) (inTime : InTime L h clk .exttsTimer) :
    Polling (h.next clk .exttsTimer) := by
  obtain ⟨-, -, due⟩ := inTime
  obtain ⟨expires, armed, due⟩ := due rfl
  obtain ⟨emits, -, switch, -, timer⟩ := exttsTimer_wake h.phc clk
  have state := phcStep_exttsTimer_state h.phc clk
  have event := phcStep_exttsTimer_event h.phc clk
  simp only [wake, polling.disabled, Bool.not_false, if_true] at emits timer
  have silent : ∀ e, (phcStep h.phc clk .exttsTimer).2 ≠ .event e := by
    intro e out
    have := event.1 ⟨e, out⟩
    rw [emits] at this
    cases this
  refine ⟨?_, (EdgeHistory.next_emitted_of_silent silent).trans polling.silent, ?_⟩
  · show (phcStep h.phc clk .exttsTimer).1.exttsEnabled = false
    rw [state, switch, polling.disabled]
  · refine ⟨hrtimerForwardNow expires clk.mono.toNat (100 * NSEC_PER_MSEC), ?_,
      hrtimerForwardNow_le due (by decide)⟩
    show (phcStep h.phc clk .exttsTimer).1.exttsTimer = _
    rw [state, timer, armed]
    rfl

/-- Enabling takes the poll over: its expiry is at most 100 ms into the next second. -/
theorem Polling.enable (polling : Polling h) (rate : (clk.tai.toNat : ℤ) = clk.mono.toNat + c)
    (later : h.now ≤ clk.mono.toNat) (delay : h.phc.delay = D) {index : UInt32}
    (accepted : index < N_EXT_TS) :
    Reporting c D (clk.tai.toNat / NSEC_PER_SEC) 0 (h.next clk (.enable (.extts index) true)) := by
  have cases := phcStep_enable_extts h.phc clk index true
  rcases cases with ⟨refused, -⟩ | ⟨-, switch, last, sameDelay, timer⟩
  · exact absurd refused (UInt32.not_le.2 accepted)
  obtain ⟨expires, armed, soon⟩ := polling.timer
  have split := Nat.div_add_mod clk.tai.toNat NSEC_PER_SEC
  have late := Nat.mod_lt clk.tai.toNat (show 0 < NSEC_PER_SEC by decide)
  refine ⟨switch, ?_, ?_, ?_, ?_, expires, timer.trans armed, ?_⟩
  · show (phcStep h.phc clk (.enable (.extts index) true)).1.delay = D
    rw [← delay]
    unfold MockPhc.delay
    rw [sameDelay]
  · rw [Nat.add_zero, ← toNat_taiSec]
    exact congrArg UInt64.toNat last
  · exact (EdgeHistory.next_emitted_of_silent
      (phcStep_enable_extts_output h.phc clk index true)).trans polling.silent
  · show _ ≤ (clk.mono.toNat : ℤ) + c ∧ (clk.mono.toNat : ℤ) + c < _
    rw [← rate]
    unfold NSEC_PER_SEC at *
    omega
  · have bound : 100 * NSEC_PER_MSEC ≤ wakeBound D := le_max_right _ _
    unfold NSEC_PER_SEC NSEC_PER_MSEC at *
    omega

/-- Before EXTTS is enabled. -/
theorem edgeInvariant_polling (rate : (clk.tai.toNat : ℤ) = clk.mono.toNat + c)
    (inTime : InTime L h clk op) (polling : Polling h) (off : h.enabledIn = none)
    (once : EnabledOnce D h op) : EdgeInvariant c D (h.next clk op) := by
  have later := inTime.1
  have quiet : op.enablesExtts = false → Polling (h.next clk op) →
      EdgeInvariant c D (h.next clk op) := by
    intro asks polling
    have : (h.next clk op).enabledIn = none := by
      simp only [EdgeHistory.next, asks]
      exact off
    unfold EdgeInvariant
    rw [this]
    exact polling
  cases concerns : op.concernsExtts with
  | false =>
    obtain ⟨switch, -, -, timer, silent⟩ := phcStep_extts_of_not_concerns h.phc clk concerns
    refine quiet ?_ (polling.keep later silent (switch.trans polling.disabled) timer)
    cases op with
    | enable rq on =>
      cases rq with
      | extts index => cases concerns
      | _ => rfl
    | _ => rfl
  | true =>
    cases op with
    | enable rq on =>
      cases rq with
      | extts index =>
        have silent := phcStep_enable_extts_output h.phc clk index on
        cases asks : PhcOp.enablesExtts (.enable (.extts index) on) with
        | true =>
          have accepted := asks
          simp only [PhcOp.enablesExtts, Bool.and_eq_true, decide_eq_true_eq] at accepted
          obtain ⟨rfl, accepted⟩ := accepted
          unfold EnabledOnce at once
          rw [off] at once
          unfold EdgeInvariant
          rw [show (h.next clk (.enable (.extts index) true)).enabledIn =
            some (clk.tai.toNat / NSEC_PER_SEC) by simp only [EdgeHistory.next, asks, if_true]]
          exact ⟨0, polling.enable rate later (once asks) accepted⟩
        | false =>
          refine quiet asks ?_
          rcases phcStep_enable_extts h.phc clk index on with
            ⟨-, same⟩ | ⟨accepted, switch, -, -, timer⟩
          · refine polling.keep later silent ?_ ?_
            · rw [same, polling.disabled]
            · rw [same]
          · simp only [PhcOp.enablesExtts, Bool.and_eq_false_iff, decide_eq_false_iff_not,
              accepted, not_true, or_false] at asks
            exact polling.keep later silent (switch.trans asks) timer
      | _ => cases concerns
    | exttsDelayMsStore buf =>
      refine quiet rfl ?_
      have silent := phcStep_delayStore_output h.phc clk buf
      rcases phcStep_delayStore h.phc clk buf with same | ⟨switch, -, -, timer⟩
      · refine polling.keep later silent ?_ ?_
        · rw [same, polling.disabled]
        · rw [same]
      · rw [polling.disabled] at timer
        exact polling.keep later silent (switch.trans polling.disabled) timer
    | exttsTimer => exact quiet rfl (polling.timerStep inTime)
    | _ => cases concerns

/-- The present of a call made in time is in the first unreported second or the one before. -/
theorem Reporting.presentAt (reporting : Reporting c D s n h)
    (slow : L + wakeBound D < NSEC_PER_SEC) (rate : (clk.tai.toNat : ℤ) = clk.mono.toNat + c)
    (inTime : InTime L h clk op) :
    (s + n) * NSEC_PER_SEC ≤ clk.tai.toNat ∧ clk.tai.toNat < (s + n + 2) * NSEC_PER_SEC := by
  obtain ⟨later, deadline, -⟩ := inTime
  obtain ⟨expires, armed, soon⟩ := reporting.timer
  have := deadline expires armed
  have := reporting.present.1
  push_cast at *
  unfold NSEC_PER_SEC at *
  omega

/-- Calls other than the callback only let time pass. -/
theorem Reporting.keep (reporting : Reporting c D s n h)
    (slow : L + wakeBound D < NSEC_PER_SEC) (rate : (clk.tai.toNat : ℤ) = clk.mono.toNat + c)
    (inTime : InTime L h clk op) (other : op.concernsExtts = false) :
    Reporting c D s n (h.next clk op) := by
  obtain ⟨switch, last, delay, timer, silent⟩ := phcStep_extts_of_not_concerns h.phc clk other
  obtain ⟨lo, hi⟩ := reporting.presentAt slow rate inTime
  obtain ⟨expires, armed, soon⟩ := reporting.timer
  refine ⟨switch.trans reporting.enabled, ?_, ?_, ?_, ?_, expires, timer.trans armed, soon⟩
  · show (phcStep h.phc clk op).1.delay = D
    rw [← reporting.delay]
    unfold MockPhc.delay
    rw [delay]
  · show (phcStep h.phc clk op).1.lastExttsSec.toNat = s + n
    rw [last, reporting.last]
  · exact (EdgeHistory.next_emitted_of_silent silent).trans reporting.emitted
  · show _ ≤ (clk.mono.toNat : ℤ) + c ∧ (clk.mono.toNat : ℤ) + c < _
    rw [← rate]
    exact ⟨by exact_mod_cast lo, by exact_mod_cast hi⟩

/-- Where `wake` sends the timer from a second that is reported or due. -/
theorem wake_interval_le {tai : ℕ} (lo : (s + n) * NSEC_PER_SEC ≤ tai)
    (hi : tai < (s + n + 2) * NSEC_PER_SEC) :
    let decision := wake true (s + n) D tai
    0 < decision.interval ∧
      (decision.emits = false → decision.lastSec = s + n ∧
        tai + decision.interval ≤ (s + n + 1) * NSEC_PER_SEC + wakeBound D) ∧
      (decision.emits = true → decision.lastSec = s + n + 1 ∧ tai / NSEC_PER_SEC = s + n + 1 ∧
        tai + decision.interval ≤ (s + n + 2) * NSEC_PER_SEC + wakeBound D) := by
  have bound : D + NSEC_PER_MSEC ≤ wakeBound D := le_max_left _ _
  have split := Nat.div_add_mod tai NSEC_PER_SEC
  have late := Nat.mod_lt tai (show 0 < NSEC_PER_SEC by decide)
  have slack : 0 < NSEC_PER_MSEC := by decide
  have second : tai / NSEC_PER_SEC = s + n ∨ tai / NSEC_PER_SEC = s + n + 1 := by
    have lo' := (Nat.le_div_iff_mul_le (by decide)).2 lo
    have hi' := (Nat.div_lt_iff_lt_mul (by decide)).2 hi
    omega
  simp only [wake, Bool.not_true, Bool.false_eq_true, if_false]
  rcases second with same | due
  · -- The second is already reported: aim for the next one.
    rw [if_pos same]
    rw [same] at split
    refine ⟨Nat.add_pos_right _ slack, fun _ => ⟨rfl, ?_⟩, fun emits => by cases emits⟩
    simp only
    unfold NSEC_PER_SEC at *
    omega
  · rw [if_neg (by omega)]
    rw [due] at split
    split_ifs with early
    · -- The delay has not passed yet: aim for its end.
      refine ⟨Nat.sub_pos_of_lt early, fun _ => ⟨rfl, ?_⟩, fun emits => by cases emits⟩
      simp only
      unfold NSEC_PER_SEC at *
      omega
    · refine ⟨Nat.add_pos_right _ slack, (fun silent => by cases silent), fun _ => ⟨due, due, ?_⟩⟩
      simp only
      unfold NSEC_PER_SEC at *
      omega

/-- The callback reports the due second, or moves the timer within reach of it. -/
theorem Reporting.timerStep (reporting : Reporting c D s n h)
    (slow : L + wakeBound D < NSEC_PER_SEC) (rate : (clk.tai.toNat : ℤ) = clk.mono.toNat + c)
    (inTime : InTime L h clk .exttsTimer) :
    ∃ n', Reporting c D s n' (h.next clk .exttsTimer) := by
  obtain ⟨lo, hi⟩ := reporting.presentAt slow rate inTime
  obtain ⟨positive, waits, reports⟩ := wake_interval_le (D := D) lo hi
  obtain ⟨emits, last, switch, delay, timer⟩ := exttsTimer_wake h.phc clk
  have state := phcStep_exttsTimer_state h.phc clk
  have event := phcStep_exttsTimer_event h.phc clk
  obtain ⟨expires, armed, due⟩ := inTime.2.2 rfl
  rw [reporting.enabled, reporting.last, reporting.delay] at emits last timer
  have forward := hrtimerForwardNow_le due positive
  have switch' : (h.next clk .exttsTimer).phc.exttsEnabled := by
    show (phcStep h.phc clk .exttsTimer).1.exttsEnabled
    rw [state, switch, reporting.enabled]
  have delay' : (h.next clk .exttsTimer).phc.delay = D := by
    show (phcStep h.phc clk .exttsTimer).1.delay = D
    rw [← reporting.delay, state]
    unfold MockPhc.delay
    rw [delay]
  have last' : (h.next clk .exttsTimer).phc.lastExttsSec.toNat =
      (wake true (s + n) D clk.tai.toNat).lastSec := by
    show (phcStep h.phc clk .exttsTimer).1.lastExttsSec.toNat = _
    rw [state, last]
  have timer' : (h.next clk .exttsTimer).phc.exttsTimer =
      some (hrtimerForwardNow expires clk.mono.toNat (wake true (s + n) D clk.tai.toNat).interval) := by
    show (phcStep h.phc clk .exttsTimer).1.exttsTimer = _
    rw [state, timer, armed]
    rfl
  have now' : ((h.next clk .exttsTimer).now : ℤ) + c = clk.tai.toNat := rate.symm
  cases emitting : (wake true (s + n) D clk.tai.toNat).emits with
  | false =>
    obtain ⟨sec, soon⟩ := waits emitting
    have silent : ∀ e, (phcStep h.phc clk .exttsTimer).2 ≠ .event e := by
      intro e out
      have := event.1 ⟨e, out⟩
      rw [emits, emitting] at this
      cases this
    refine ⟨n, switch', delay', last'.trans sec,
      (EdgeHistory.next_emitted_of_silent silent).trans reporting.emitted, ?_, _, timer', ?_⟩
    · rw [now']
      exact ⟨by exact_mod_cast lo, by exact_mod_cast hi⟩
    · have : (clk.tai.toNat : ℤ) + (wake true (s + n) D clk.tai.toNat).interval ≤
          ((s + n + 1 : ℕ) : ℤ) * NSEC_PER_SEC + wakeBound D := by exact_mod_cast soon
      omega
  | true =>
    obtain ⟨sec, present, soon⟩ := reports emitting
    obtain ⟨e, out⟩ := event.2 (emits.trans emitting)
    have grown : (h.next clk .exttsTimer).emitted = List.range' (s + 1) (n + 1) := by
      unfold EdgeHistory.next
      simp only [out]
      rw [reporting.emitted, present, List.range'_concat]
      congr 2
      omega
    have reached := (Nat.le_div_iff_mul_le (by decide)).1 present.ge
    refine ⟨n + 1, switch', delay', last'.trans sec, grown, ?_, _, timer', ?_⟩
    · rw [now']
      refine ⟨by exact_mod_cast reached, ?_⟩
      have : (s + n + 2) * NSEC_PER_SEC ≤ (s + (n + 1) + 2) * NSEC_PER_SEC :=
        Nat.mul_le_mul_right _ (by omega)
      exact_mod_cast hi.trans_le this
    · have : (clk.tai.toNat : ℤ) + (wake true (s + n) D clk.tai.toNat).interval ≤
          ((s + (n + 1) + 1 : ℕ) : ℤ) * NSEC_PER_SEC + wakeBound D := by exact_mod_cast soon
      omega

theorem edgeInvariant_step (slow : L + wakeBound D < NSEC_PER_SEC)
    (rate : (clk.tai.toNat : ℤ) = clk.mono.toNat + c) (inTime : InTime L h clk op)
    (once : EnabledOnce D h op) (inv : EdgeInvariant c D h) : EdgeInvariant c D (h.next clk op) := by
  unfold EdgeInvariant at inv
  cases enabledIn : h.enabledIn with
  | none =>
    rw [enabledIn] at inv
    exact edgeInvariant_polling rate inTime inv enabledIn once
  | some s =>
    rw [enabledIn] at inv
    obtain ⟨n, reporting⟩ := inv
    unfold EnabledOnce at once
    rw [enabledIn] at once
    have still : op.enablesExtts = false → (h.next clk op).enabledIn = some s := by
      intro asks
      simp only [EdgeHistory.next, asks]
      exact enabledIn
    unfold EdgeInvariant
    cases concerns : op.concernsExtts with
    | false =>
      have asks : op.enablesExtts = false := by
        cases op with
        | enable rq on =>
          cases rq with
          | extts index => cases concerns
          | _ => rfl
        | _ => rfl
      rw [still asks]
      exact ⟨n, reporting.keep slow rate inTime concerns⟩
    | true =>
      have timer := once concerns
      subst timer
      rw [still rfl]
      exact reporting.timerStep slow rate inTime

end Step

/-- With EXTTS enabled once in the second `s`, the reported seconds are `s + 1`, `s + 2`, … without
a gap, and every second before the present one is reported. -/
theorem no_second_skipped (c : ℤ) (L D : ℕ)
    (slow : L + max (D + NSEC_PER_MSEC) (100 * NSEC_PER_MSEC) < NSEC_PER_SEC) (h : EdgeHistory)
    (run : (edgeSystem c L D).Reachable h) (s : ℕ) (enabled : h.enabledIn = some s) :
    ∃ n, h.emitted = List.range' (s + 1) n ∧
      ((s + n : ℕ) : ℤ) ≤ (h.now + c) / NSEC_PER_SEC ∧
      (h.now + c) / NSEC_PER_SEC ≤ ((s + n + 1 : ℕ) : ℤ) := by
  have inv : EdgeInvariant c D h := by
    refine run.induct ?_ ?_
    · rintro _ ⟨clk, -, rfl⟩
      exact ⟨rfl, rfl, _, rfl, le_refl _⟩
    · rintro h ⟨clk, op⟩ _ - inv ⟨rate, inTime, once, rfl⟩
      exact edgeInvariant_step slow rate inTime once inv
  unfold EdgeInvariant at inv
  rw [enabled] at inv
  obtain ⟨n, reporting⟩ := inv
  obtain ⟨lo, hi⟩ := reporting.present
  refine ⟨n, reporting.emitted, Int.le_ediv_of_mul_le (by decide) lo, ?_⟩
  have : (h.now + c) / NSEC_PER_SEC < ((s + n + 2 : ℕ) : ℤ) := Int.ediv_lt_of_lt_mul (by decide) hi
  push_cast at this ⊢
  omega

/-- A call is in time for a timer with a known expiry. -/
theorem inTime_of_expiry {L expires : ℕ} {h : EdgeHistory} {clk : Clocks} {op : PhcOp}
    (armed : h.phc.exttsTimer = some expires) (later : h.now ≤ clk.mono.toNat)
    (deadline : clk.mono.toNat ≤ expires + L)
    (due : op = .exttsTimer → expires ≤ clk.mono.toNat) : InTime L h clk op := by
  refine ⟨later, fun e eq => ?_, fun timer => ⟨expires, armed, due timer⟩⟩
  rw [armed] at eq
  injection eq with eq
  exact eq ▸ deadline

/-- A clock created at the time 0. -/
def freshEdges : EdgeHistory := ⟨mockPhcCreate ⟨0, 0⟩, 0, none, []⟩

/-- Enabled after 50 ms, with callbacks at 100 ms and at 1001 ms. -/
def punctualEdges : EdgeHistory :=
  ((freshEdges.next ⟨50000000, 50000000⟩ (.enable (.extts 0) true)).next ⟨100000000, 100000000⟩
    .exttsTimer).next ⟨1001000000, 1001000000⟩ .exttsTimer

theorem punctualEdges_reachable : (edgeSystem 0 0 0).Reachable punctualEdges := by
  have created : (edgeSystem 0 0 0).Reachable freshEdges := .init ⟨⟨0, 0⟩, rfl, rfl⟩
  have enabled := created.step (a := (⟨50000000, 50000000⟩, .enable (.extts 0) true))
    ⟨rfl, inTime_of_expiry (show _ = some 100000000 by decide) (by decide) (by decide)
      (fun timer => by cases timer), fun _ => by decide, rfl⟩
  have polled := enabled.step (a := (⟨100000000, 100000000⟩, .exttsTimer))
    ⟨rfl, inTime_of_expiry (show _ = some 100000000 by decide) (by decide) (by decide)
      (fun _ => by decide), fun _ => rfl, rfl⟩
  exact polled.step (a := (⟨1001000000, 1001000000⟩, .exttsTimer))
    ⟨rfl, inTime_of_expiry (show _ = some 1001000000 by decide) (by decide) (by decide)
      (fun _ => by decide), fun _ => rfl, rfl⟩

theorem no_second_skipped_punctualEdges :
    punctualEdges.emitted = [1] ∧ ∃ n, punctualEdges.emitted = List.range' 1 n ∧
      ((0 + n : ℕ) : ℤ) ≤ (punctualEdges.now + 0) / NSEC_PER_SEC ∧
      (punctualEdges.now + 0) / NSEC_PER_SEC ≤ ((0 + n + 1 : ℕ) : ℤ) :=
  ⟨by decide, no_second_skipped 0 0 0 (by decide) punctualEdges punctualEdges_reachable 0
    (by decide)⟩

end Netdevsim
