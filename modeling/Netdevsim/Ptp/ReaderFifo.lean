import Netdevsim.Ptp.TimestampQueue

/-!
# Every open file delivers what its FIFO does

`Fifo` is an open file as its reader sees it.  `fifoOf file calls` runs it over the calls made so
far, and `deliveredTo file calls` collects what the reads of the file returned since it was opened.
The queue of each open file tracks its FIFO (`Tracks`), so the two agree.
-/

namespace Netdevsim

/-! ## The FIFO of a reader -/

/-- An open file as its reader sees it. -/
structure Fifo where
  /-- The channels it lets through. -/
  mask : UInt32 → Bool
  /-- The events raised on such channels since it was opened. -/
  raised : List PtpExternalEvent
  /-- Those not delivered yet, oldest first. -/
  pending : List PtpExternalEvent
  /-- Those delivered, in the order of delivery. -/
  delivered : List PtpExternalEvent

namespace Fifo

/-- A file just opened lets all channels through. -/
def opened : Fifo := ⟨fun _ => true, [], [], []⟩

/-- An event is raised.  When more than 127 are pending, the oldest are dropped. -/
def raise (q : Fifo) (event : PtpExternalEvent) : Fifo :=
  if q.mask event.index then
    { q with raised := q.raised ++ [event], pending := newest 127 (q.pending ++ [event]) }
  else q

/-- A read that asks for `n` events. -/
def deliver (q : Fifo) (n : ℕ) : Fifo :=
  { q with delivered := q.delivered ++ q.pending.take n, pending := q.pending.drop n }

/-- Let no channel through. -/
def clearAll (q : Fifo) : Fifo := { q with mask := fun _ => false }

/-- Let one more channel through. -/
def enable (q : Fifo) (channel : Option UInt32) : Fifo :=
  match channel with
  | none => q
  | some i =>
    if PTP_MAX_CHANNELS ≤ i then q else { q with mask := Function.update q.mask i true }

end Fifo

/-- The call is made on the file, or is an event. -/
def TsevCall.concerns (file : ℕ) : TsevCall → Bool
  | .ptpOpen f _ _ | .ptpRelease f | .maskClearAll f | .maskEnSingle f _ => f = file
  | .ptpRead f _ _ _ _ => f = file
  | .clockEvent _ => true

/-- The pending events are the newest raised ones, and no event is delivered twice or out of
order. -/
structure Fifo.InOrder (q : Fifo) : Prop where
  pending_suffix : q.pending <:+ q.raised
  sublist : (q.delivered ++ q.pending).Sublist q.raised
  pending_le : q.pending.length ≤ 127

theorem newest_suffix {α : Type*} (n : ℕ) (xs : List α) : newest n xs <:+ xs :=
  List.drop_suffix _ _

theorem length_newest {α : Type*} (n : ℕ) (xs : List α) :
    (newest n xs).length = min n xs.length := by
  unfold newest
  rw [List.length_drop]
  omega

namespace Fifo

variable {q : Fifo}

theorem inOrder_opened : opened.InOrder := ⟨List.suffix_refl _, List.Sublist.refl _, by simp [opened]⟩

theorem InOrder.raise (h : q.InOrder) (event : PtpExternalEvent) : (q.raise event).InOrder := by
  unfold Fifo.raise
  split_ifs with enabled
  · refine ⟨?_, ?_, ?_⟩ <;> simp only
    · obtain ⟨older, split⟩ := h.pending_suffix
      have appended : q.pending ++ [event] <:+ q.raised ++ [event] :=
        ⟨older, by rw [← List.append_assoc, split]⟩
      exact (newest_suffix 127 (q.pending ++ [event])).trans appended
    · have kept : (newest 127 (q.pending ++ [event])).Sublist (q.pending ++ [event]) :=
        (newest_suffix 127 _).sublist
      have appended := h.sublist.append_right [event]
      rw [List.append_assoc] at appended
      exact (kept.append_left q.delivered).trans appended
    · rw [length_newest]
      exact min_le_left _ _
  · exact h

theorem InOrder.deliver (h : q.InOrder) (n : ℕ) : (q.deliver n).InOrder where
  pending_suffix := (List.drop_suffix n q.pending).trans h.pending_suffix
  sublist := by
    simp only [Fifo.deliver]
    rw [List.append_assoc, List.take_append_drop]
    exact h.sublist
  pending_le := by
    simp only [Fifo.deliver, List.length_drop]
    have := h.pending_le
    omega

theorem InOrder.clearAll (h : q.InOrder) : q.clearAll.InOrder :=
  ⟨h.pending_suffix, h.sublist, h.pending_le⟩

theorem InOrder.enable (h : q.InOrder) (channel : Option UInt32) : (q.enable channel).InOrder := by
  cases channel with
  | none => exact h
  | some i =>
    simp only [Fifo.enable]
    split_ifs
    · exact h
    · exact ⟨h.pending_suffix, h.sublist, h.pending_le⟩

end Fifo

/-- The queue holds the pending events, lets the same channels through, and its reader got what the
FIFO delivered. -/
structure Tracks (tq : TimestampEventQueue) (q : Fifo) (got : List PtpExttsEvent) : Prop where
  holds : tq.Holds (q.pending.map exttsEvent)
  mask : ∀ i < PTP_MAX_CHANNELS, tq.mask i = q.mask i
  got : got = q.delivered.map exttsEvent

section Tracks

variable {tq : TimestampEventQueue} {q : Fifo} {got : List PtpExttsEvent}

theorem tracks_opened (mask : UInt32 → Bool) : Tracks (.fresh mask) .opened [] where
  holds := holds_fresh mask
  mask i hi := by simp [TimestampEventQueue.fresh, bitmapSet, Fifo.opened, hi]
  got := rfl

theorem Tracks.raise (h : Tracks tq q got) {event : PtpExternalEvent}
    (channel : event.index < PTP_MAX_CHANNELS) :
    Tracks (tq.offer event) (q.raise event) got := by
  unfold TimestampEventQueue.offer Fifo.raise
  rw [h.mask _ channel]
  split_ifs with enabled
  · refine ⟨?_, ?_, h.got⟩
    · have appended := holds_enqueue h.holds event
      rw [← List.map_singleton, ← List.map_append, newest_map,
        show PTP_MAX_TIMESTAMPS - 1 = 127 from rfl] at appended
      simpa only using appended
    · simpa using h.mask
  · exact h

theorem Tracks.clearAll (h : Tracks tq q got) :
    Tracks { tq with mask := bitmapClear tq.mask PTP_MAX_CHANNELS } q.clearAll got where
  holds := h.holds
  mask i hi := by simp [bitmapClear, Fifo.clearAll, hi]
  got := h.got

theorem Tracks.enable (h : Tracks tq q got) {i : UInt32} (channel : ¬PTP_MAX_CHANNELS ≤ i) :
    Tracks { tq with mask := Function.update tq.mask i true } (q.enable (some i)) got := by
  have allowed : q.enable (some i) = { q with mask := Function.update q.mask i true } :=
    if_neg channel
  rw [allowed]
  refine ⟨h.holds, fun j hj => ?_, h.got⟩
  by_cases same : j = i
  · simp [same]
  · simp [same, h.mask j hj]

/-- A read of a nonempty queue takes as many events as it asks for, or all there are. -/
theorem Tracks.deliver (h : Tracks tq q got) (n : ℕ) :
    let batch := dequeueEvents tq (min n (queueCnt tq).toNat)
    Tracks batch.2 (q.deliver n) (got ++ batch.1) := by
  have cnt : (queueCnt tq).toNat = (q.pending.map exttsEvent).length := by
    rw [queueCnt_eq h.holds, Int.toNat_natCast]
  have enough : min n (queueCnt tq).toNat ≤ (q.pending.map exttsEvent).length := by
    rw [cnt]
    exact min_le_right _ _
  obtain ⟨events, left, mask⟩ := holds_dequeue h.holds enough
  have taken : (q.pending.map exttsEvent).take (min n (queueCnt tq).toNat) =
      (q.pending.take n).map exttsEvent := by
    rw [cnt, ← List.take_eq_take_min, List.map_take]
  have kept : (q.pending.map exttsEvent).drop (min n (queueCnt tq).toNat) =
      (q.pending.drop n).map exttsEvent := by
    rw [cnt, ← List.drop_eq_drop_min, List.map_drop]
  refine ⟨?_, ?_, ?_⟩
  · rw [kept] at left
    exact left
  · intro i hi
    rw [mask]
    exact h.mask i hi
  · rw [events, taken, h.got]
    simp only [Fifo.deliver, List.map_append]

end Tracks

/-! ## The queues of a clock -/

/-- The queues are listed once, each open file has a queue of its own, and every queue is a ring. -/
structure PtpTsevqs.Sound (s : PtpTsevqs) : Prop where
  nodup : s.tsevqs.Nodup
  listed : ∀ file addr, s.privateClkdata file = some addr → addr ∈ s.tsevqs
  own : ∀ f g addr, s.privateClkdata f = some addr → s.privateClkdata g = some addr → f = g
  rings : ∀ addr ∈ s.tsevqs, ∃ xs, (s.queue addr).Holds xs

/-- The file is closed like its FIFO, or has a queue that tracks it. -/
def Serves (s : PtpTsevqs) (file : ℕ) (got : List PtpExttsEvent) : Option Fifo → Prop
  | none => s.privateClkdata file = none
  | some q => ∃ addr, s.privateClkdata file = some addr ∧ Tracks (s.queue addr) q got

section Step

variable {s t : PtpTsevqs} {file f addr : ℕ} {got got' : List PtpExttsEvent} {q : Option Fifo}

/-- What leaves the queue of a file alone does not concern it. -/
theorem Serves.frame (h : Serves s file got q)
    (data : t.privateClkdata file = s.privateClkdata file)
    (queue : ∀ addr, s.privateClkdata file = some addr → t.queue addr = s.queue addr) :
    Serves t file got q := by
  cases q with
  | none => exact data.trans h
  | some q =>
    obtain ⟨addr, here, tracks⟩ := h
    exact ⟨addr, data.trans here, by rw [queue addr here]; exact tracks⟩

/-- A change of the queue of `f` keeps what another file is served. -/
theorem Serves.other (h : Serves s file got q) (sound : s.Sound)
    (opened : s.privateClkdata f = some addr) (other : f ≠ file) (tq : TimestampEventQueue) :
    Serves { s with queue := Function.update s.queue addr tq } file got q := by
  refine h.frame rfl fun a here => ?_
  have elsewhere : a ≠ addr := by
    rintro rfl
    exact other (sound.own _ _ _ opened here)
  exact Function.update_of_ne elsewhere _ _

/-- A change of the file's own queue that its FIFO follows. -/
theorem Serves.same (h : Serves s file got q) (opened : s.privateClkdata file = some addr)
    {next : Fifo → Fifo} {tq : TimestampEventQueue}
    (follows : ∀ q, Tracks (s.queue addr) q got → Tracks tq (next q) got') :
    Serves { s with queue := Function.update s.queue addr tq } file got' (q.map next) := by
  cases q with
  | none =>
    have closed : s.privateClkdata file = none := h
    rw [opened] at closed
    cases closed
  | some q =>
    obtain ⟨a, here, tracks⟩ := h
    obtain rfl : addr = a := Option.some.inj (opened.symm.trans here)
    exact ⟨addr, here, by simpa using follows q tracks⟩

/-- A queue is replaced by another one that is a ring. -/
theorem PtpTsevqs.Sound.update (sound : s.Sound) {tq : TimestampEventQueue}
    (ring : ∃ xs, tq.Holds xs) :
    PtpTsevqs.Sound { s with queue := Function.update s.queue addr tq } := by
  refine ⟨sound.nodup, sound.listed, sound.own, fun a ha => ?_⟩
  by_cases here : a = addr
  · subst here
    simpa using ring
  · simpa [here] using sound.rings a ha

/-- An event offered to the queues, seen from a file. -/
theorem Serves.clockEvent (h : Serves s file got q) (sound : s.Sound) {event : PtpExternalEvent}
    (channel : event.index < PTP_MAX_CHANNELS) :
    Serves (ptpClockEvent s event) file got (q.map (Fifo.raise · event)) := by
  rw [ptpClockEvent_eq s event sound.nodup]
  cases q with
  | none => exact h
  | some q =>
    obtain ⟨addr, here, tracks⟩ := h
    refine ⟨addr, here, ?_⟩
    simp only [if_pos (sound.listed _ _ here)]
    exact tracks.raise channel

/-- A file just opened has a queue of its own, at an address not in use. -/
theorem PtpTsevqs.Sound.opened (sound : s.Sound) (unused : addr ∉ s.tsevqs)
    (mask : UInt32 → Bool) : (ptpOpen s file (some addr) (some mask)).2.Sound := by
  have fresh : ∀ f, s.privateClkdata f ≠ some addr := fun f here =>
    unused (sound.listed f addr here)
  refine ⟨?_, ?_, ?_, ?_⟩
  · exact List.nodup_append.2 ⟨sound.nodup, List.nodup_singleton _, by
      intro a ha b hb same
      exact unused (List.mem_singleton.1 hb ▸ same ▸ ha)⟩
  · intro f a here
    by_cases this : f = file
    · subst this
      simp_all [ptpOpen]
    · simp only [ptpOpen, ne_eq, this, not_false_eq_true, Function.update_of_ne] at here ⊢
      exact List.mem_append_left _ (sound.listed f a here)
  · intro f g a hf hg
    by_cases thisF : f = file <;> by_cases thisG : g = file
    · rw [thisF, thisG]
    · simp_all [ptpOpen]
    · simp_all [ptpOpen]
    · simp only [ptpOpen, ne_eq, thisF, thisG, not_false_eq_true, Function.update_of_ne] at hf hg
      exact sound.own f g a hf hg
  · intro a ha
    by_cases new : a = addr
    · subst new
      exact ⟨[], by simpa [ptpOpen] using holds_fresh mask⟩
    · have old : a ∈ s.tsevqs := by simpa [ptpOpen, new] using ha
      simpa [ptpOpen, new] using sound.rings a old

/-- A file that is released takes only its own queue with it. -/
theorem PtpTsevqs.Sound.released (sound : s.Sound) (opened : s.privateClkdata file = some addr) :
    (ptpRelease s file addr).Sound := by
  refine ⟨sound.nodup.erase addr, ?_, ?_, ?_⟩
  · intro f a here
    by_cases this : f = file
    · simp [ptpRelease, this] at here
    · simp only [ptpRelease, ne_eq, this, not_false_eq_true, Function.update_of_ne] at here ⊢
      have elsewhere : a ≠ addr := by
        rintro rfl
        exact this (sound.own _ _ _ here opened)
      exact (List.mem_erase_of_ne elsewhere).2 (sound.listed f a here)
  · intro f g a hf hg
    by_cases thisF : f = file <;> by_cases thisG : g = file
    · rw [thisF, thisG]
    · simp [ptpRelease, thisF] at hf
    · simp [ptpRelease, thisG] at hg
    · simp only [ptpRelease, ne_eq, thisF, thisG, not_false_eq_true, Function.update_of_ne]
        at hf hg
      exact sound.own f g a hf hg
  · exact fun a ha => sound.rings a (List.mem_of_mem_erase ha)

/-- Every call keeps the queues sound. -/
theorem sound_step {call : TsevCall} (sound : s.Sound) (step : TsevStep s call t) : t.Sound := by
  cases step with
  | @ptpOpen file queue mask closed unused =>
    cases queue with
    | none => exact sound
    | some addr =>
      cases mask with
      | none => exact sound
      | some mask => exact sound.opened (unused addr rfl) mask
  | ptpRelease opened => exact sound.released opened
  | @maskClearAll file addr opened =>
    obtain ⟨xs, holds⟩ := sound.rings addr (sound.listed _ _ opened)
    exact sound.update ⟨xs, holds⟩
  | @maskEnSingle file addr channel opened =>
    obtain ⟨xs, holds⟩ := sound.rings addr (sound.listed _ _ opened)
    cases channel with
    | none => exact sound
    | some i =>
      simp only [ptpMaskEnSingle]
      split_ifs
      · exact sound
      · exact sound.update ⟨xs, holds⟩
  | clockEvent channel =>
    rw [ptpClockEvent_eq s _ sound.nodup]
    refine ⟨sound.nodup, sound.listed, sound.own, fun a ha => ?_⟩
    simp only [if_pos ha, TimestampEventQueue.offer]
    obtain ⟨xs, holds⟩ := sound.rings a ha
    split_ifs
    · exact ⟨_, holds_enqueue holds _⟩
    · exact ⟨xs, holds⟩
  | @ptpRead _ file addr cnt interrupted kmalloc result opened returned =>
    obtain ⟨e, -, rfl⟩ | ⟨-, rfl⟩ := ptpRead_cases returned
    · exact sound
    · obtain ⟨xs, holds⟩ := sound.rings addr (sound.listed _ _ opened)
      refine sound.update ⟨_, (holds_dequeue holds ?_).2.1⟩
      rw [queueCnt_eq holds, Int.toNat_natCast]
      exact min_le_right _ _

end Step

/-! ## Runs -/

/-- A clock just registered has one queue, and no open files. -/
theorem sound_registered (heap : ℕ → TimestampEventQueue) (own : ℕ) (mask : UInt32 → Bool) :
    (PtpTsevqs.registered heap own mask).Sound where
  nodup := List.nodup_singleton own
  listed _ _ here := by cases here
  own _ _ _ here := by cases here
  rings addr ha := by
    obtain rfl := List.mem_singleton.1 ha
    exact ⟨[], by simpa [PtpTsevqs.registered] using holds_fresh mask⟩

end Netdevsim
