import Netdevsim.Netdev.Ipsec

/-!
# Transmitting

A packet given to a port for transmission is handed on to the peer of the port or dropped.  When the
sender asked for a hardware timestamp, a copy is handed on instead and the packet itself is used to
report the time.  Every buffer must be given away in the end: freed, or handed on to the peer.
-/

namespace Netdevsim

/-! ## Data -/

/-- A `struct sk_buff`: the one that a call was given, or the copy that the call made of it. -/
structure Skb where
  call : ℕ
  copy : Bool
  deriving DecidableEq, Repr

/-- What is done with buffers. -/
inductive SkbEvent where
  | freed (skb : Skb)
  /-- Taken by `netif_rx` for the peer, with the time of reception. -/
  | handedOn (skb : Skb) (hwtstamp : Int64)
  /-- The time of transmission was reported to the sender. -/
  | stamped (skb : Skb) (hwtstamp : Int64)
  deriving DecidableEq, Repr

/-- The event gives the buffer away. -/
def SkbEvent.Ends (skb : Skb) : SkbEvent → Bool
  | .freed other => other = skb
  | .handedOn other _ => other = skb
  | .stamped .. => false

/-- A call of `nsim_start_xmit`: what it reads of the packet, of the port and of its peer, and what
the functions that it calls return. -/
structure XmitCall where
  len : UInt32
  secPath : Option SecPath
  /-- `SKBTX_HW_TSTAMP`. -/
  hwTstamp : Bool
  states : ℕ → XfrmState
  ipsec : NsimIpsec
  /-- The time of the port's clock, if it has one. -/
  clock : Option Timespec64
  /-- The peer, with the time of its clock, if it has one. -/
  peer : Option (Option Timespec64)
  /-- `skb_copy` has memory. -/
  copied : Bool
  /-- `skb_orphan_frags` fails. -/
  orphanFragsFails : Bool
  /-- `is_skb_forwardable`. -/
  forwardable : Bool
  /-- `netif_rx` does not drop the packet. -/
  received : Bool
  /-- What the variables `tx_ts` and `rx_ts` hold before they are written. -/
  stack : Timespec64 × Timespec64

/-- The port, and what happened to the buffers so far. -/
structure XmitState where
  ipsec : NsimIpsec
  txPackets : UInt64
  txBytes : UInt64
  txDropped : UInt64
  /-- The number of calls. -/
  calls : ℕ
  /-- The buffers passed in and the copies made. -/
  made : List Skb
  events : List SkbEvent

def XmitState.init : XmitState := ⟨.empty, 0, 0, 0, 0, [], []⟩

/-! ## The function -/

/-- A buffer is there from now on. -/
def XmitState.make (s : XmitState) (skb : Skb) : XmitState := { s with made := s.made ++ [skb] }

def XmitState.emit (s : XmitState) (e : SkbEvent) : XmitState := { s with events := s.events ++ [e] }

/-- `out_drop_cnt`. -/
def XmitState.dropCnt (s : XmitState) : XmitState := { s with txDropped := s.txDropped + 1 }

/-- `out_drop_free`. -/
def XmitState.dropFree (s : XmitState) (skb : Skb) : XmitState := (s.emit (.freed skb)).dropCnt

/-- The packet was transmitted. -/
def XmitState.count (s : XmitState) (len : UInt32) : XmitState :=
  { s with txPackets := s.txPackets + 1, txBytes := s.txBytes + len.toUInt64 }

/-- The rest of `nsim_start_xmit`, with a peer: `skb` is handed on.  A packet that is not taken for
lack of memory or by its shape is freed, and `netif_rx` frees what it drops; the packet that is to be
stamped is not looked at then. -/
def XmitState.inject (s : XmitState) (c : XmitCall) (orig skb : Skb) (txTs rxTs : Timespec64) :
    XmitState :=
  if c.orphanFragsFails ∨ ¬c.forwardable then (s.emit (.freed skb)).dropCnt
  else if ¬c.received then (s.emit (.freed skb)).dropCnt
  else
    let s := s.emit (.handedOn skb (timespec64ToKtime rxTs))
    let s := if c.hwTstamp then
        (s.emit (.stamped orig (timespec64ToKtime txTs))).emit (.freed orig)
      else s
    s.count c.len

/-- `nsim_start_xmit`.  `none` stands for following the `NULL` pointer that `skb_copy` returns when
there is no memory. -/
def nsimStartXmit (s : XmitState) (c : XmitCall) : Option XmitState :=
  let orig : Skb := ⟨s.calls, false⟩
  let s := { s with calls := s.calls + 1 }.make orig
  let (ok, ipsec) := nsimIpsecTx c.ipsec c.states c.secPath
  let s := { s with ipsec }
  if ¬ok then some (s.dropFree orig)
  else match c.peer with
    | none => some (s.dropFree orig)
    | some peerClock =>
      let txTs := c.clock.getD c.stack.1
      let rxTs := peerClock.getD c.stack.2
      if c.hwTstamp then
        if ¬c.copied then none
        else
          let skb : Skb := { orig with copy := true }
          some ((s.make skb).inject c orig skb txTs rxTs)
      else some (s.inject c orig orig txTs rxTs)

/-- The calls one after the other. -/
def xmitAll (calls : List XmitCall) : Option XmitState :=
  TransitionSystem.follow nsimStartXmit calls .init

/-! ## Conservation -/

/-- The times that a buffer was given away. -/
def XmitState.ends (s : XmitState) (skb : Skb) : ℕ := s.events.countP (·.Ends skb)

/-- The calls follow no `NULL` pointer, give each buffer away exactly once, and count each packet as
transmitted or as dropped. -/
def Conserves (calls : List XmitCall) : Prop :=
  ∃ s, xmitAll calls = some s ∧ (∀ skb ∈ s.made, s.ends skb = 1) ∧
    s.txPackets + s.txDropped = UInt64.ofNat calls.length

/-- No copy is needed, or it is made and handed on. -/
def XmitCall.CopyHandedOn (c : XmitCall) : Prop :=
  (nsimIpsecTx c.ipsec c.states c.secPath).1 = true → c.peer.isSome → c.hwTstamp = true →
    c.copied = true ∧ c.orphanFragsFails = false ∧ c.forwardable = true ∧ c.received = true

/-! ## One call -/

/-- A call that came back: the buffers that there are since, and what was done. -/
structure Transmits (s t : XmitState) (new : List Skb) (done : List SkbEvent) : Prop where
  calls : t.calls = s.calls + 1
  made : t.made = s.made ++ new
  events : t.events = s.events ++ done
  own : ∀ skb ∈ new, skb.call = s.calls
  only : ∀ skb, skb.call ≠ s.calls → done.countP (·.Ends skb) = 0
  counted : t.txPackets + t.txDropped = s.txPackets + s.txDropped + 1

/-- How a call ends. -/
inductive XmitEnd (s : XmitState) (c : XmitCall) : Option XmitState → Prop where
  /-- Every buffer is given away. -/
  | clean {t : XmitState} {new : List Skb} {done : List SkbEvent} (handedOn : c.CopyHandedOn)
      (transmits : Transmits s t new done) (once : ∀ skb ∈ new, done.countP (·.Ends skb) = 1) :
      XmitEnd s c (some t)
  /-- The copy was dropped, and the packet is left. -/
  | leaks {t : XmitState} {new : List Skb} {done : List SkbEvent} (dropped : ¬c.CopyHandedOn)
      (transmits : Transmits s t new done) (given : ⟨s.calls, false⟩ ∈ new)
      (never : done.countP (·.Ends ⟨s.calls, false⟩) = 0) : XmitEnd s c (some t)
  /-- There is no copy. -/
  | crashes (noCopy : ¬c.CopyHandedOn) : XmitEnd s c none

section Call

variable {s t : XmitState} {c : XmitCall}

theorem count_packet (packets dropped : UInt64) : packets + 1 + dropped = packets + dropped + 1 := by
  rw [UInt64.add_assoc, UInt64.add_comm 1, ← UInt64.add_assoc]

theorem count_drop (packets dropped : UInt64) : packets + (dropped + 1) = packets + dropped + 1 :=
  (UInt64.add_assoc ..).symm

/-- A call that makes no copy gives its only buffer away at once. -/
theorem xmitEnd_single {e : SkbEvent} (handedOn : c.CopyHandedOn)
    (ends : ∀ skb, e.Ends skb = decide ((⟨s.calls, false⟩ : Skb) = skb))
    (calls : t.calls = s.calls + 1) (made : t.made = s.made ++ [⟨s.calls, false⟩])
    (events : t.events = s.events ++ [e])
    (counted : t.txPackets + t.txDropped = s.txPackets + s.txDropped + 1) :
    XmitEnd s c (some t) := by
  refine .clean handedOn ⟨calls, made, events, by simp, ?_, counted⟩ (by simp [ends])
  intro skb other
  have ne : ¬(⟨s.calls, false⟩ : Skb) = skb := by
    rintro rfl
    exact other rfl
  simp [ends, ne]

/-- What happens to the packet itself when no time stamp was asked for. -/
theorem xmitEnd_inject_plain (plain : c.hwTstamp = false) (calls : t.calls = s.calls + 1)
    (made : t.made = s.made ++ [⟨s.calls, false⟩]) (events : t.events = s.events)
    (packets : t.txPackets = s.txPackets) (dropped : t.txDropped = s.txDropped)
    (txTs rxTs : Timespec64) :
    XmitEnd s c (some (t.inject c ⟨s.calls, false⟩ ⟨s.calls, false⟩ txTs rxTs)) := by
  have handedOn : c.CopyHandedOn := by
    intro _ _ stamp
    rw [plain] at stamp
    cases stamp
  have isDropped : (t.emit (.freed ⟨s.calls, false⟩)).dropCnt.txPackets +
      (t.emit (.freed ⟨s.calls, false⟩)).dropCnt.txDropped = s.txPackets + s.txDropped + 1 := by
    rw [← packets, ← dropped]
    exact count_drop _ _
  unfold XmitState.inject
  by_cases refused : c.orphanFragsFails = true ∨ ¬c.forwardable = true
  · rw [if_pos refused]
    exact xmitEnd_single handedOn (e := .freed _) (fun _ => rfl) calls made
      (congrArg (· ++ [_]) events) isDropped
  rw [if_neg refused]
  by_cases lost : ¬c.received = true
  · rw [if_pos lost]
    exact xmitEnd_single handedOn (e := .freed _) (fun _ => rfl) calls made
      (congrArg (· ++ [_]) events) isDropped
  rw [if_neg lost]
  simp only [plain, Bool.false_eq_true, ↓reduceIte]
  refine xmitEnd_single handedOn (e := .handedOn _ (timespec64ToKtime rxTs)) (fun _ => rfl) calls
    made (congrArg (· ++ [_]) events) ?_
  rw [← packets, ← dropped]
  exact count_packet _ _

/-- What happens to the copy and to the packet when a time stamp was asked for. -/
theorem xmitEnd_inject_copy (passes : (nsimIpsecTx c.ipsec c.states c.secPath).1 = true)
    (peer : c.peer.isSome) (stamp : c.hwTstamp = true) (copied : c.copied = true)
    (calls : t.calls = s.calls + 1) (made : t.made = s.made ++ [⟨s.calls, false⟩, ⟨s.calls, true⟩])
    (events : t.events = s.events) (packets : t.txPackets = s.txPackets)
    (dropped : t.txDropped = s.txDropped) (txTs rxTs : Timespec64) :
    XmitEnd s c (some (t.inject c ⟨s.calls, false⟩ ⟨s.calls, true⟩ txTs rxTs)) := by
  have own : ∀ skb ∈ ([⟨s.calls, false⟩, ⟨s.calls, true⟩] : List Skb), skb.call = s.calls := by simp
  have apart : ∀ skb : Skb, skb.call ≠ s.calls → ∀ copy, ¬(⟨s.calls, copy⟩ : Skb) = skb := by
    rintro skb other copy rfl
    exact other rfl
  have leaks (notHandedOn : ¬c.CopyHandedOn) :
      XmitEnd s c (some (t.emit (.freed ⟨s.calls, true⟩)).dropCnt) := by
    have transmits : Transmits s (t.emit (.freed ⟨s.calls, true⟩)).dropCnt
        [⟨s.calls, false⟩, ⟨s.calls, true⟩] [.freed ⟨s.calls, true⟩] := by
      refine ⟨calls, made, congrArg (· ++ [_]) events, own, fun skb other => ?_, ?_⟩
      · simp [SkbEvent.Ends, apart skb other]
      · rw [← packets, ← dropped]
        exact count_drop _ _
    exact .leaks notHandedOn transmits (by simp) (by simp [SkbEvent.Ends])
  unfold XmitState.inject
  by_cases refused : c.orphanFragsFails = true ∨ ¬c.forwardable = true
  · rw [if_pos refused]
    refine leaks fun handedOn => ?_
    obtain ⟨-, frags, forwardable, -⟩ := handedOn passes peer stamp
    simp [frags, forwardable] at refused
  rw [if_neg refused]
  by_cases lost : ¬c.received = true
  · rw [if_pos lost]
    exact leaks fun handedOn => lost (handedOn passes peer stamp).2.2.2
  rw [if_neg lost]
  simp only [stamp, ↓reduceIte]
  have handedOn : c.CopyHandedOn := by
    intro _ _ _
    simp only [not_or, Bool.not_eq_true, Bool.not_eq_false] at refused lost
    exact ⟨copied, refused.1, refused.2, lost⟩
  have sent : (((t.emit (.handedOn ⟨s.calls, true⟩ (timespec64ToKtime rxTs))).emit
      (.stamped ⟨s.calls, false⟩ (timespec64ToKtime txTs))).emit
        (.freed ⟨s.calls, false⟩)).events = s.events ++
          [.handedOn ⟨s.calls, true⟩ (timespec64ToKtime rxTs),
            .stamped ⟨s.calls, false⟩ (timespec64ToKtime txTs), .freed ⟨s.calls, false⟩] := by
    simp [XmitState.emit, events]
  refine .clean handedOn ⟨calls, made, sent, own, fun skb other => ?_, ?_⟩ ?_
  · simp [SkbEvent.Ends, apart skb other]
  · rw [← packets, ← dropped]
    exact count_packet _ _
  · simp [SkbEvent.Ends]

theorem xmitEnd_nsimStartXmit (s : XmitState) (c : XmitCall) :
    XmitEnd s c (nsimStartXmit s c) := by
  unfold nsimStartXmit
  cases passes : (nsimIpsecTx c.ipsec c.states c.secPath).1 with
  | false =>
    have handedOn : c.CopyHandedOn := by
      intro passes'
      rw [passes] at passes'
      cases passes'
    simp only [passes, Bool.false_eq_true, not_false_eq_true, ↓reduceIte]
    exact xmitEnd_single handedOn (e := .freed _) (fun _ => rfl) rfl rfl rfl (count_drop _ _)
  | true =>
    simp only [passes, not_true_eq_false, ↓reduceIte]
    cases peer : c.peer with
    | none =>
      have handedOn : c.CopyHandedOn := by
        intro _ some
        rw [peer] at some
        cases some
      exact xmitEnd_single handedOn (e := .freed _) (fun _ => rfl) rfl rfl rfl (count_drop _ _)
    | some peerClock =>
      have peered : c.peer.isSome := by rw [peer]; rfl
      cases stamp : c.hwTstamp with
      | false =>
        simp only [Bool.false_eq_true, ↓reduceIte]
        refine xmitEnd_inject_plain stamp ?_ ?_ ?_ ?_ ?_ _ _ <;> rfl
      | true =>
        cases copied : c.copied with
        | false =>
          refine .crashes fun handedOn => ?_
          have copied' := (handedOn passes peered stamp).1
          rw [copied] at copied'
          cases copied'
        | true =>
          simp only [not_true_eq_false, ↓reduceIte]
          refine xmitEnd_inject_copy passes peered stamp copied ?_ ?_ ?_ ?_ ?_ _ _
          · rfl
          · exact List.append_assoc ..
          · rfl
          · rfl
          · rfl

end Call

/-! ## Runs -/

/-- Every buffer so far was given away once, and every call counted. -/
structure TxSettled (s : XmitState) : Prop where
  once : ∀ skb ∈ s.made, s.ends skb = 1
  past : ∀ skb ∈ s.made, skb.call < s.calls
  unseen : ∀ skb : Skb, s.calls ≤ skb.call → s.ends skb = 0
  counted : s.txPackets + s.txDropped = UInt64.ofNat s.calls

/-- A buffer was left. -/
def Leaked (s : XmitState) : Prop := ∃ skb ∈ s.made, s.ends skb = 0 ∧ skb.call < s.calls

section Runs

variable {s t : XmitState} {c : XmitCall} {calls : List XmitCall} {new : List Skb}
  {done : List SkbEvent}

theorem settled_init : TxSettled .init := ⟨by simp [XmitState.init], by simp [XmitState.init],
  fun _ _ => rfl, rfl⟩

namespace Transmits

theorem ends (transmits : Transmits s t new done) (skb : Skb) :
    t.ends skb = s.ends skb + done.countP (·.Ends skb) := by
  unfold XmitState.ends
  rw [transmits.events, List.countP_append]

theorem ends_of_ne (transmits : Transmits s t new done) {skb : Skb} (other : skb.call ≠ s.calls) :
    t.ends skb = s.ends skb := by
  rw [transmits.ends, transmits.only skb other, Nat.add_zero]

theorem mem (transmits : Transmits s t new done) {skb : Skb} :
    skb ∈ t.made ↔ skb ∈ s.made ∨ skb ∈ new := by
  rw [transmits.made, List.mem_append]

theorem settled (transmits : Transmits s t new done)
    (once : ∀ skb ∈ new, done.countP (·.Ends skb) = 1) (settled : TxSettled s) : TxSettled t where
  once skb mem := by
    rcases transmits.mem.1 mem with old | mine
    · rw [transmits.ends_of_ne (settled.past skb old).ne]
      exact settled.once skb old
    · rw [transmits.ends, settled.unseen skb (transmits.own skb mine).ge, once skb mine]
  past skb mem := by
    rw [transmits.calls]
    rcases transmits.mem.1 mem with old | mine
    · exact (settled.past skb old).trans (Nat.lt_succ_self _)
    · rw [transmits.own skb mine]
      exact Nat.lt_succ_self _
  unseen skb later := by
    rw [transmits.calls] at later
    rw [transmits.ends_of_ne (by omega)]
    exact settled.unseen skb (by omega)
  counted := by
    rw [transmits.counted, settled.counted, transmits.calls, UInt64.ofNat_add]
    rfl

/-- Later calls leave the buffers of earlier calls alone. -/
theorem leaked (transmits : Transmits s t new done) (leaked : Leaked s) : Leaked t := by
  obtain ⟨skb, mem, never, past⟩ := leaked
  refine ⟨skb, transmits.mem.2 (.inl mem), ?_, ?_⟩
  · rw [transmits.ends_of_ne past.ne]
    exact never
  · rw [transmits.calls]
    omega

end Transmits

theorem XmitEnd.transmits (ended : XmitEnd s c (some t)) : ∃ new done, Transmits s t new done := by
  cases ended with
  | clean _ transmits _ => exact ⟨_, _, transmits⟩
  | leaks _ transmits _ _ => exact ⟨_, _, transmits⟩

theorem leaked_follow (leaked : Leaked s)
    (run : TransitionSystem.follow nsimStartXmit calls s = some t) : Leaked t := by
  induction calls generalizing s with
  | nil =>
    obtain rfl := Option.some.inj run
    exact leaked
  | cons c calls ih =>
    obtain ⟨u, first, rest⟩ := Option.bind_eq_some_iff.1 run
    obtain ⟨new, done, transmits⟩ := (first ▸ xmitEnd_nsimStartXmit s c).transmits
    exact ih (transmits.leaked leaked) rest

/-- When every copy is handed on, nothing is left. -/
theorem settled_follow (settled : TxSettled s) (handedOn : ∀ c ∈ calls, c.CopyHandedOn) :
    ∃ t, TransitionSystem.follow nsimStartXmit calls s = some t ∧ TxSettled t ∧
      t.calls = s.calls + calls.length := by
  induction calls generalizing s with
  | nil => exact ⟨s, rfl, settled, rfl⟩
  | cons c calls ih =>
    rw [List.forall_mem_cons] at handedOn
    have ended := xmitEnd_nsimStartXmit s c
    generalize first : nsimStartXmit s c = result at ended
    cases ended with
    | clean _ transmits once =>
      obtain ⟨t, run, settledT, callsT⟩ := ih (transmits.settled once settled) handedOn.2
      refine ⟨t, by rw [TransitionSystem.follow, first]; exact run, settledT, ?_⟩
      rw [callsT, transmits.calls, List.length_cons]
      omega
    | leaks dropped _ _ _ => exact absurd handedOn.1 dropped
    | crashes noCopy => exact absurd handedOn.1 noCopy

/-- When a copy is not handed on, a buffer is left, if there was one at all. -/
theorem handedOn_of_follow (settled : TxSettled s)
    (run : TransitionSystem.follow nsimStartXmit calls s = some t)
    (once : ∀ skb ∈ t.made, t.ends skb = 1) : ∀ c ∈ calls, c.CopyHandedOn := by
  induction calls generalizing s with
  | nil => simp
  | cons c calls ih =>
    obtain ⟨u, first, rest⟩ := Option.bind_eq_some_iff.1 run
    have ended := first ▸ xmitEnd_nsimStartXmit s c
    rw [List.forall_mem_cons]
    cases ended with
    | clean handedOn transmits once => exact ⟨handedOn, ih (transmits.settled once settled) rest⟩
    | leaks dropped transmits given never =>
      have leaked : Leaked u := by
        refine ⟨_, transmits.mem.2 (.inr given), ?_, ?_⟩
        · rw [transmits.ends, settled.unseen _ le_rfl, never]
        · rw [transmits.calls]
          exact Nat.lt_succ_self _
      obtain ⟨skb, mem, none, -⟩ := leaked_follow leaked rest
      rw [once skb mem] at none
      cases none

end Runs

/-- The calls conserve the buffers exactly when each call that needs a copy makes it and hands it
on. -/
theorem xmit_conserves_iff (calls : List XmitCall) :
    Conserves calls ↔ ∀ c ∈ calls, c.CopyHandedOn := by
  constructor
  · rintro ⟨t, run, once, -⟩
    exact handedOn_of_follow settled_init run once
  · intro handedOn
    obtain ⟨t, run, settled, count⟩ := settled_follow settled_init handedOn
    refine ⟨t, run, settled.once, ?_⟩
    rw [settled.counted, count]
    simp [XmitState.init]

/-- A packet to be stamped that `netif_rx` drops. -/
def stampedAndDropped : XmitCall where
  len := 60
  secPath := none
  hwTstamp := true
  states _ := espState
  ipsec := .empty
  clock := none
  peer := some none
  copied := true
  orphanFragsFails := false
  forwardable := true
  received := false
  stack := (⟨0, 0⟩, ⟨0, 0⟩)

theorem xmit_not_conserves : ¬Conserves [stampedAndDropped] := by
  rintro ⟨t, run, once, -⟩
  obtain rfl : _ = t := Option.some.inj run
  have left := once ⟨0, false⟩ (by decide)
  revert left
  decide

end Netdevsim
