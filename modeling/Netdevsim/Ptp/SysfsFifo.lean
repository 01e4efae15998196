import Netdevsim.Ptp.ReaderFifo

/-!
# The sysfs fifo delivers events

`extts_fifo_show` takes the oldest event from the first queue of a clock, which is the clock's own,
and prints it.  To its reader the attribute is a `Fifo` that lets all channels through and delivers
one event at a time.  A read that finds the queue empty ought to return no bytes, but returns the
number of queues, left in `cnt` by the check that there is one.  So the attribute delivers events
and nothing else in exactly the runs that never read it while its queue is empty.
-/

namespace Netdevsim

open FixedWidth

/-! ## The attribute -/

def PAGE_SIZE : ℕ := 4096

/-- A number in decimal, as `%u` prints it. -/
def decimal (n : ℕ) : Bytes := (Nat.toDigits 10 n).map fun c => UInt8.ofNat c.toNat

/-- A signed number in decimal, as `%lld` prints it. -/
def signedDecimal (n : ℤ) : Bytes := if n < 0 then 45 :: decimal n.natAbs else decimal n.natAbs

/-- The text of the format `"%u %lld %u\n"`. -/
def fifoText (index : ℕ) (sec : ℤ) (nsec : ℕ) : Bytes :=
  decimal index ++ 32 :: (signedDecimal sec ++ 32 :: (decimal nsec ++ [10]))

/-- `sysfs_emit`: the text and a null byte go to the start of the page, cut to its size. -/
def sysfsEmit (page text : Bytes) : ℤ × Bytes :=
  let text := text.take (PAGE_SIZE - 1)
  (text.length, text ++ 0 :: page.drop (text.length + 1))

/-- `extts_fifo_show`: what it returns, the page it leaves and the queues. -/
def exttsFifoShow (s : PtpTsevqs) (page : Bytes) : ℤ × Bytes × PtpTsevqs :=
  let cnt : ℤ := s.tsevqs.length
  match s.tsevqs with
  | [] => (cnt, page, s)
  | queue :: _ =>
    let qcnt := queueCnt (s.queue queue)
    -- an empty queue leaves `cnt`, which still is the number of queues
    if qcnt = 0 then (cnt, page, s)
    else
      let event := (s.queue queue).buf (s.queue queue).head
      let s := s.modify queue fun queue =>
        { queue with head := (queue.head + 1) % PTP_MAX_TIMESTAMPS }
      let (cnt, page) :=
        sysfsEmit page (fifoText event.index.toNat event.sec.toInt event.nsec.toNat)
      (cnt, page, s)

/-! ## Calls -/

/-- A call on the clock or a read of its fifo: the page it is given, what it returns and the page
it leaves. -/
inductive FifoCall where
  | call (call : TsevCall)
  | fifoShow (page : Bytes) (cnt : ℤ) (page' : Bytes)

inductive FifoStep : PtpTsevqs → FifoCall → PtpTsevqs → Prop where
  | call {s t call} (step : TsevStep s call t) : FifoStep s (.call call) t
  | fifoShow {s t page cnt page'} (shown : exttsFifoShow s page = (cnt, page', t)) :
      FifoStep s (.fifoShow page cnt page') t

/-- A clock and its fifo from the registration on. -/
def fifoSystem : TransitionSystem PtpTsevqs FifoCall where
  init := tsevSystem.init
  step := FifoStep

/-! ## The fifo as its reader sees it -/

/-- One call, as far as it concerns the fifo. -/
def sysfsFifoStep (q : Fifo) : FifoCall → Fifo
  | .call (.clockEvent event) => q.raise event
  | .call _ => q
  | .fifoShow _ _ _ => q.deliver 1

/-- The fifo after some calls, all channels let through. -/
def sysfsFifo (calls : List FifoCall) : Fifo := calls.foldl sysfsFifoStep .opened

/-- The event a call raises. -/
def FifoCall.raises : FifoCall → Option PtpExternalEvent
  | .call (.clockEvent event) => some event
  | _ => none

/-- The time stamp of an event, in nanoseconds, or its offset. -/
def PtpExternalEvent.ns : PtpExternalEvent → ℤ
  | extts _ timestamp => timestamp.toNat
  | extoff _ offset => offset.toInt

/-- A read returns the text of the event and nothing else, or no bytes if there is no event. -/
def ShowsOldest (event : Option PtpExternalEvent) (cnt : ℤ) (page : Bytes) : Prop :=
  match event with
  | none => cnt = 0
  | some event => ∃ (sec : ℤ) (nsec : ℕ),
      nsec < NSEC_PER_SEC ∧ sec * NSEC_PER_SEC + nsec = event.ns ∧
      cnt = (fifoText event.index.toNat sec nsec).length ∧
      page.take cnt.toNat = fifoText event.index.toNat sec nsec

/-- Each read returns the oldest event still in the queue, and no event is delivered twice or out of
order. -/
structure DeliversEvents (calls : List FifoCall) : Prop where
  shows : ∀ before page cnt page' after, calls = before ++ .fifoShow page cnt page' :: after →
    ShowsOldest (sysfsFifo before).pending.head? cnt page'
  inOrder : ((sysfsFifo calls).delivered ++ (sysfsFifo calls).pending).Sublist
    (calls.filterMap FifoCall.raises)

/-- No read finds the queue empty. -/
def NeverEmpty (calls : List FifoCall) : Prop :=
  ∀ before page cnt page' after, calls = before ++ .fifoShow page cnt page' :: after →
    (sysfsFifo before).pending ≠ []

/-! ## The text of an event -/

section Text

theorem length_decimal_le {n e : ℕ} (pos : 0 < e) (lt : n < 10 ^ e) : (decimal n).length ≤ e := by
  rw [decimal, List.length_map]
  exact Nat.toDigits_length 10 n e pos lt

/-- The text of an entry fits in a page. -/
theorem length_fifoText_lt (event : PtpExttsEvent) :
    (fifoText event.index.toNat event.sec.toInt event.nsec.toNat).length < PAGE_SIZE := by
  have index := length_decimal_le (n := event.index.toNat) (e := 10) (by omega)
    (by have := event.index.toNat_lt; omega)
  have nsec := length_decimal_le (n := event.nsec.toNat) (e := 10) (by omega)
    (by have := event.nsec.toNat_lt; omega)
  have sec := length_decimal_le (n := event.sec.toInt.natAbs) (e := 20) (by omega)
    (by have := event.sec.toInt_lt; have := event.sec.le_toInt; omega)
  have signed : (signedDecimal event.sec.toInt).length ≤ 21 := by
    unfold signedDecimal
    split_ifs
    · rw [List.length_cons]
      omega
    · omega
  simp only [fifoText, List.length_append, List.length_cons, List.length_nil]
  unfold PAGE_SIZE
  omega

/-- A text shorter than a page is printed whole. -/
theorem sysfsEmit_eq (page : Bytes) {text : Bytes} (short : text.length < PAGE_SIZE) :
    sysfsEmit page text = ((text.length : ℤ), text ++ 0 :: page.drop (text.length + 1)) := by
  have whole : text.take (PAGE_SIZE - 1) = text := List.take_of_length_le (by omega)
  simp only [sysfsEmit, whole]

/-- An entry stands for the nanoseconds of its event, and is normalized. -/
theorem exttsEvent_split (event : PtpExternalEvent) :
    (exttsEvent event).nsec.toNat < NSEC_PER_SEC ∧
      (exttsEvent event).sec.toInt * NSEC_PER_SEC + (exttsEvent event).nsec.toNat = event.ns := by
  cases event with
  | extts index timestamp =>
    refine ⟨?_, exttsEvent_ns index timestamp⟩
    simp only [exttsEvent, UInt64.toNat_toUInt32, UInt64.toNat_mod]
    have second : (UInt64.ofNat NSEC_PER_SEC).toNat = NSEC_PER_SEC := rfl
    rw [second]
    unfold NSEC_PER_SEC
    omega
  | extoff index offset =>
    obtain ⟨nonneg, lt⟩ := nsToTimespec64_normalized offset
    have nsec : ((nsToTimespec64 offset).tvNsec.toUInt64.toUInt32.toNat : ℤ) =
        (nsToTimespec64 offset).tvNsec.toInt := by
      have whole := Int64.toNat_toUInt64_of_le (Int64.le_iff_toInt_le.2 nonneg)
      rw [UInt64.toNat_toUInt32, whole, Int64.toNatClampNeg]
      unfold NSEC_PER_SEC at lt
      omega
    have total := ns_nsToTimespec64 offset
    unfold Timespec64.ns at total
    simp only [exttsEvent, PtpExternalEvent.ns]
    refine ⟨by omega, by rw [nsec]; exact total⟩

@[simp] theorem index_exttsEvent (event : PtpExternalEvent) :
    (exttsEvent event).index = event.index := by
  cases event <;> rfl

end Text

/-! ## The first queue -/

/-- The first queue is the clock's own: no file has it, and it tracks the fifo. -/
structure FirstQueue (s : PtpTsevqs) (own : ℕ) (q : Fifo) : Prop where
  sound : s.Sound
  first : s.tsevqs.head? = some own
  unshared : ∀ file, s.privateClkdata file ≠ some own
  tracks : Tracks (s.queue own) q (q.delivered.map exttsEvent)

section Step

variable {s t : PtpTsevqs} {own : ℕ} {q : Fifo}

@[simp] theorem Fifo.delivered_raise (q : Fifo) (event : PtpExternalEvent) :
    (q.raise event).delivered = q.delivered := by
  unfold Fifo.raise
  split_ifs <;> rfl

theorem firstQueue_registered (heap : ℕ → TimestampEventQueue) (own : ℕ) (mask : UInt32 → Bool) :
    FirstQueue (.registered heap own mask) own .opened where
  sound := sound_registered heap own mask
  first := rfl
  unshared _ here := by cases here
  tracks := by simpa [PtpTsevqs.registered, Fifo.opened] using tracks_opened mask

/-- The queue of a file is not the first one. -/
theorem FirstQueue.ne (h : FirstQueue s own q) {file addr : ℕ}
    (opened : s.privateClkdata file = some addr) : own ≠ addr := by
  rintro rfl
  exact h.unshared file opened

theorem FirstQueue.mem (h : FirstQueue s own q) : own ∈ s.tsevqs :=
  List.mem_of_mem_head? h.first

/-- A change of the queue of a file is none of the first one. -/
theorem FirstQueue.other (h : FirstQueue s own q) {file addr : ℕ}
    (opened : s.privateClkdata file = some addr) {tq : TimestampEventQueue}
    (sound : PtpTsevqs.Sound { s with queue := Function.update s.queue addr tq }) :
    FirstQueue { s with queue := Function.update s.queue addr tq } own q where
  sound := sound
  first := h.first
  unshared := h.unshared
  tracks := by
    show Tracks (Function.update s.queue addr tq own) q _
    rw [Function.update_of_ne (h.ne opened)]
    exact h.tracks

/-- The queue of a file just opened comes behind the first one. -/
theorem FirstQueue.opened (h : FirstQueue s own q) {file addr : ℕ} (unused : addr ∉ s.tsevqs)
    (mask : UInt32 → Bool) : FirstQueue (ptpOpen s file (some addr) (some mask)).2 own q := by
  have elsewhere : own ≠ addr := fun same => unused (same ▸ h.mem)
  refine ⟨h.sound.opened unused mask, ?_, ?_, ?_⟩
  · show (s.tsevqs ++ [addr]).head? = some own
    rw [List.head?_append, h.first, Option.some_or]
  · intro f
    show Function.update s.privateClkdata file (some addr) f ≠ some own
    by_cases this : f = file
    · rw [this, Function.update_self]
      exact fun same => elsewhere (Option.some.inj same).symm
    · rw [Function.update_of_ne this]
      exact h.unshared f
  · show Tracks (Function.update s.queue addr (.fresh mask) own) q _
    rw [Function.update_of_ne elsewhere]
    exact h.tracks

/-- The first queue is not a file's, and stays when one is released. -/
theorem FirstQueue.released (h : FirstQueue s own q) {file addr : ℕ}
    (opened : s.privateClkdata file = some addr) : FirstQueue (ptpRelease s file addr) own q := by
  refine ⟨h.sound.released opened, ?_, ?_, h.tracks⟩
  · obtain ⟨rest, list⟩ := List.head?_eq_some_iff.1 h.first
    show (s.tsevqs.erase addr).head? = some own
    rw [list, List.erase_cons_tail (by simpa using h.ne opened), List.head?_cons]
  · intro f
    show Function.update s.privateClkdata file none f ≠ some own
    by_cases this : f = file
    · rw [this, Function.update_self]
      exact nofun
    · rw [Function.update_of_ne this]
      exact h.unshared f

/-- Every call on the clock does to its first queue what it does to the fifo. -/
theorem FirstQueue.call (h : FirstQueue s own q) {call : TsevCall} (step : TsevStep s call t) :
    FirstQueue t own (sysfsFifoStep q (.call call)) := by
  have sound := sound_step h.sound step
  cases step with
  | @ptpOpen file queue mask closed unused =>
    cases queue with
    | none => exact h
    | some addr =>
      cases mask with
      | none => exact h
      | some mask => exact h.opened (unused addr rfl) mask
  | ptpRelease opened => exact h.released opened
  | maskClearAll opened => exact h.other opened sound
  | @maskEnSingle file addr channel opened =>
    cases channel with
    | none => exact h
    | some i =>
      simp only [ptpMaskEnSingle] at sound ⊢
      split_ifs at sound ⊢
      · exact h
      · exact h.other opened sound
  | clockEvent channel =>
    rw [ptpClockEvent_eq s _ h.sound.nodup] at sound ⊢
    refine ⟨sound, h.first, h.unshared, ?_⟩
    simp only [if_pos h.mem, sysfsFifoStep, Fifo.delivered_raise]
    exact h.tracks.raise channel
  | ptpRead opened returned =>
    obtain ⟨e, -, rfl⟩ | ⟨-, rfl⟩ := ptpRead_cases returned
    · exact h
    · exact h.other opened sound

/-- A read of an empty queue returns the number of queues. -/
theorem FirstQueue.show_empty (h : FirstQueue s own q) (empty : q.pending = []) (page : Bytes) :
    exttsFifoShow s page = ((s.tsevqs.length : ℤ), page, s) := by
  obtain ⟨rest, list⟩ := List.head?_eq_some_iff.1 h.first
  have holds := h.tracks.holds
  rw [empty] at holds
  have none : queueCnt (s.queue own) = 0 := queueCnt_eq holds
  simp [exttsFifoShow, list, none]

/-- A read takes the oldest event from the queue and prints it. -/
theorem FirstQueue.show_oldest (h : FirstQueue s own q) {event : PtpExternalEvent}
    {rest : List PtpExternalEvent} (pending : q.pending = event :: rest) (page : Bytes) :
    ∃ tq, Tracks tq (q.deliver 1) ((q.deliver 1).delivered.map exttsEvent) ∧
      exttsFifoShow s page =
        let text := fifoText event.index.toNat (exttsEvent event).sec.toInt
          (exttsEvent event).nsec.toNat
        ((text.length : ℤ), text ++ 0 :: page.drop (text.length + 1),
          { s with queue := Function.update s.queue own tq }) := by
  obtain ⟨others, list⟩ := List.head?_eq_some_iff.1 h.first
  have holds := h.tracks.holds
  rw [pending, List.map_cons] at holds
  have some : queueCnt (s.queue own) = rest.length + 1 := by simpa using queueCnt_eq holds
  have oldest := (Ring.Holds.behead holds).1
  refine ⟨{ s.queue own with head := ((s.queue own).head + 1) % PTP_MAX_TIMESTAMPS }, ?_, ?_⟩
  · have taken := h.tracks.deliver 1
    rw [some, show min 1 (rest.length + 1 : ℤ).toNat = 1 by omega] at taken
    exact ⟨taken.holds, taken.mask, rfl⟩
  · unfold exttsFifoShow
    simp only [list]
    rw [if_neg (by omega), oldest, sysfsEmit_eq page (length_fifoText_lt _), index_exttsEvent]
    simp only [PtpTsevqs.modify, list]

/-- A read of the fifo does to the first queue what it does to the fifo. -/
theorem FirstQueue.fifoShow (h : FirstQueue s own q) {page page' : Bytes} {cnt : ℤ}
    (shown : exttsFifoShow s page = (cnt, page', t)) : FirstQueue t own (q.deliver 1) := by
  cases pending : q.pending with
  | nil =>
    rw [h.show_empty pending page, Prod.mk.injEq, Prod.mk.injEq] at shown
    obtain ⟨-, -, rfl⟩ := shown
    have same : q.deliver 1 = q := by
      unfold Fifo.deliver
      rw [pending]
      cases q
      simp_all
    rw [same]
    exact h
  | cons event rest =>
    obtain ⟨tq, tracks, eq⟩ := h.show_oldest pending page
    rw [eq] at shown
    obtain ⟨-, left⟩ := Prod.mk.inj shown
    obtain ⟨-, rfl⟩ := Prod.mk.inj left
    refine ⟨h.sound.update ⟨_, tracks.holds⟩, h.first, h.unshared, ?_⟩
    show Tracks (Function.update s.queue own tq own) _ _
    rw [Function.update_self]
    exact tracks

/-- What a read returns, from what is pending. -/
theorem FirstQueue.showsOldest_iff (h : FirstQueue s own q) {page page' : Bytes} {cnt : ℤ}
    (shown : exttsFifoShow s page = (cnt, page', t)) :
    ShowsOldest q.pending.head? cnt page' ↔ q.pending ≠ [] := by
  cases pending : q.pending with
  | nil =>
    rw [h.show_empty pending page] at shown
    obtain ⟨rfl, -⟩ := Prod.mk.inj shown
    have some : s.tsevqs ≠ [] := List.ne_nil_of_mem h.mem
    simp [ShowsOldest, some]
  | cons event rest =>
    obtain ⟨tq, -, eq⟩ := h.show_oldest pending page
    rw [eq] at shown
    obtain ⟨rfl, left⟩ := Prod.mk.inj shown
    obtain ⟨rfl, -⟩ := Prod.mk.inj left
    obtain ⟨normalized, total⟩ := exttsEvent_split event
    refine iff_of_true ⟨_, _, normalized, total, rfl, ?_⟩ (List.cons_ne_nil _ _)
    rw [Int.toNat_natCast, List.take_left]

end Step

/-! ## Runs -/

/-- After any calls the first queue tracks the fifo. -/
theorem run_firstQueue {s t : PtpTsevqs} {calls : List FifoCall} (init : fifoSystem.init s)
    (run : fifoSystem.Run s calls t) : ∃ own, FirstQueue t own (sysfsFifo calls) := by
  induction run with
  | nil =>
    obtain ⟨heap, own, mask, rfl⟩ := init
    exact ⟨own, firstQueue_registered heap own mask⟩
  | snoc run step ih =>
    obtain ⟨own, first⟩ := ih
    refine ⟨own, ?_⟩
    rw [sysfsFifo, List.foldl_append]
    cases step with
    | call step => exact first.call step
    | fifoShow shown => exact first.fifoShow shown

/-- The fifo lets every event through, and is in order. -/
theorem sysfsFifo_inOrder (calls : List FifoCall) :
    (sysfsFifo calls).InOrder ∧ (sysfsFifo calls).mask = (fun _ => true) ∧
      (sysfsFifo calls).raised = calls.filterMap FifoCall.raises := by
  induction calls using List.reverseRecOn with
  | nil => exact ⟨Fifo.inOrder_opened, rfl, rfl⟩
  | append_singleton calls call ih =>
    obtain ⟨inOrder, mask, raised⟩ := ih
    have last : sysfsFifo (calls ++ [call]) = sysfsFifoStep (sysfsFifo calls) call := by
      rw [sysfsFifo, List.foldl_append]
      rfl
    rw [last, List.filterMap_append]
    cases call with
    | fifoShow page cnt page' =>
      exact ⟨inOrder.deliver 1, mask, raised.trans (List.append_nil _).symm⟩
    | call call =>
      cases call with
      | clockEvent event =>
        refine ⟨inOrder.raise event, ?_, ?_⟩
        · simp only [sysfsFifoStep, Fifo.raise, mask, if_true]
        · simp only [sysfsFifoStep, Fifo.raise, mask, if_true, raised]
          rfl
      | _ => exact ⟨inOrder, mask, raised.trans (List.append_nil _).symm⟩

/-- The attribute delivers the events raised on the clock and nothing else, in the order they were
raised, in exactly the runs in which no read finds the first queue empty. -/
theorem sysfs_fifo_iff {s t : PtpTsevqs} {calls : List FifoCall} (init : fifoSystem.init s)
    (run : fifoSystem.Run s calls t) : DeliversEvents calls ↔ NeverEmpty calls := by
  have each : ∀ before page cnt page' after, calls = before ++ .fifoShow page cnt page' :: after →
      (ShowsOldest (sysfsFifo before).pending.head? cnt page' ↔
        (sysfsFifo before).pending ≠ []) := by
    intro before page cnt page' after split
    subst split
    obtain ⟨u, v, start, step⟩ := run.cut
    obtain ⟨own, first⟩ := run_firstQueue init start
    cases step with
    | fifoShow shown => exact first.showsOldest_iff shown
  constructor
  · intro delivers before page cnt page' after split
    exact (each before page cnt page' after split).1
      (delivers.shows before page cnt page' after split)
  · intro never
    obtain ⟨inOrder, -, raised⟩ := sysfsFifo_inOrder calls
    refine ⟨fun before page cnt page' after split => ?_, raised ▸ inOrder.sublist⟩
    exact (each before page cnt page' after split).2 (never before page cnt page' after split)

/-- A clock just registered. -/
def quietClock : PtpTsevqs := .registered (fun _ => .fresh fun _ => false) 0 fun _ => false

/-- An event is raised and the fifo is read. -/
def oneShow : List FifoCall :=
  [.call (.clockEvent (.extts 0 1500000000)),
    .fifoShow [] 14 (fifoText 0 1 500000000 ++ [0])]

theorem neverEmpty_oneShow : NeverEmpty oneShow := by
  intro before page cnt page' after split
  match before with
  | [] => cases (List.cons.inj split).1
  | [_] =>
    obtain ⟨rfl, -⟩ := List.cons.inj split
    decide
  | _ :: _ :: rest => simp [oneShow] at split

/-- The read gets the event. -/
theorem sysfs_fifo_iff_oneShow : DeliversEvents oneShow := by
  have raises : FifoStep quietClock (.call (.clockEvent (.extts 0 1500000000)))
      (ptpClockEvent quietClock (.extts 0 1500000000)) := .call (.clockEvent (by decide))
  obtain ⟨t, shown⟩ : ∃ t, exttsFifoShow (ptpClockEvent quietClock (.extts 0 1500000000)) [] =
      (14, fifoText 0 1 500000000 ++ [0], t) := ⟨_, rfl⟩
  have run : fifoSystem.Run quietClock oneShow t :=
    (TransitionSystem.Run.nil.snoc raises).snoc (.fifoShow shown)
  exact (sysfs_fifo_iff ⟨_, 0, _, rfl⟩ run).2 neverEmpty_oneShow

/-- The fifo of a clock just registered returns a byte, the page unwritten. -/
theorem sysfs_fifo_not_empty :
    ∃ s t calls, fifoSystem.init s ∧ fifoSystem.Run s calls t ∧ ¬DeliversEvents calls := by
  have init : fifoSystem.init quietClock := ⟨_, 0, _, rfl⟩
  have run : fifoSystem.Run quietClock [.fifoShow [0] 1 [0]] quietClock :=
    TransitionSystem.Run.nil.snoc (.fifoShow rfl)
  refine ⟨_, _, _, init, run, fun delivers => ?_⟩
  have none : (1 : ℤ) = 0 := delivers.shows [] [0] 1 [0] [] rfl
  omega

end Netdevsim
