import Netdevsim.Dpll.NmeaBatch
import Netdevsim.Dpll.UbxReplies

/-!
# Several UBX frames in one write

A write of several UBX frames does what the first one asks for, with the length of the whole write,
and nothing for the others.  It is compared with one write for each frame, all at the same time.
-/

namespace Netdevsim

/-! ## What is compared -/

/-- The part of the state that is compared, with all timers. -/
structure GnssState where
  signalBlocked : Bool
  gnssGpsFix : UInt8
  lockStatus : DpllLockStatus
  ntfTimer : Hrtimer
  holdoverTimer : Hrtimer
  ubxTimer : Hrtimer
  ubxNavEnabled : Bool
  deriving DecidableEq

def NsimDpll.gnss (d : NsimDpll) : GnssState where
  signalBlocked := d.signalBlocked
  gnssGpsFix := d.gnssGpsFix
  lockStatus := d.lockStatus
  ntfTimer := d.ntfTimer
  holdoverTimer := d.holdoverTimer
  ubxTimer := d.ubxTimer
  ubxNavEnabled := d.ubxNavEnabled

/-- One write of the frames leaves the same state and inserts the same bytes as a write for each of
them. -/
def FramesAlike (d : NsimDpll) (now : ℕ) (real : Timespec64) (frames : List UbxFrame) : Prop :=
  ∃ d₁ r₁ d₂ r₂,
    nsimGnssWriteRaw d now real (frames.flatMap UbxFrame.bytes) = some (d₁, r₁) ∧
      writeEach now real d (frames.map UbxFrame.bytes) = some (d₂, r₂) ∧
        d₁.gnss = d₂.gnss ∧ r₁.flatten = r₂.flatten

/-! ## When the outcome is the same -/

/-- The frame is answered in a write of its own. -/
def UbxFrame.AnsweredAlone (f : UbxFrame) : Prop :=
  UbxAnswers f.cls f.id (UBX_OVERHEAD + f.payload.length)

instance (f : UbxFrame) : Decidable f.AnsweredAlone :=
  inferInstanceAs (Decidable (UbxAnswers _ _ _))

/-- Two readings of CFG-VALSET have the same effect: both values of INFIL_NCNOTHRS are zero or both
are not, or the state is the one of the value that only one of them has. -/
def ValuesAlike (d : NsimDpll) (now : ℕ) : Option UInt8 → Option UInt8 → Prop
  | some val, some val' => 0 < val ↔ 0 < val'
  | some val, none => Asked d val ∧ TimerAsked d now val
  | none, some val => Asked d val ∧ TimerAsked d now val
  | none, none => True

/-- A frame has the same effect read from `buf` and from `buf'`. -/
def EffectsAlike (d : NsimDpll) (now : ℕ) (cls id : UInt8) (buf buf' : Bytes) : Prop :=
  (cls = UBX_CLASS_CFG → id = UBX_CFG_MSG →
    (AsksNav buf ↔ AsksNav buf') ∨ d.ubxNavEnabled = true) ∧
  (cls = UBX_CLASS_CFG → id = UBX_CFG_VALSET →
    ValuesAlike d now (firstFive (itemsIn buf)) (firstFive (itemsIn buf')))

/-- The first frame gets a reply with what follows it, and just one frame gets a reply alone: one of
the same class and id, and with the same effect.  Or there is no reply in either way. -/
def OneAnswers (d : NsimDpll) (now : ℕ) (f : UbxFrame) (others : List UbxFrame) : Prop :=
  let batch := (f :: others).flatMap UbxFrame.bytes
  let alone := (f :: others).filter fun g => g.AnsweredAlone
  if UbxAnswers f.cls f.id batch.length then
    ∃ g, alone = [g] ∧ g.cls = f.cls ∧ g.id = f.id ∧ EffectsAlike d now f.cls f.id batch g.bytes
  else alone = []

section Batch

variable {d : NsimDpll} {now : ℕ} {real : Timespec64} {cls id : UInt8} {buf buf' : Bytes}

/-! ## Effects -/

/-- Without a reply there is no effect. -/
theorem ubxEffect_silent (silent : ¬UbxAnswers cls id buf.length) :
    ubxEffect d now cls id buf = d := by
  unfold ubxEffect
  split_ifs with nav msg asks valset
  · refine absurd ?_ silent
    unfold UbxAnswers
    rw [nav.1, if_neg (by decide), if_neg (by decide)]
    trivial
  · refine absurd ?_ silent
    unfold UbxAnswers
    rw [msg.1, msg.2, if_neg (by decide), if_pos rfl]
    exact .inl ⟨rfl, asks.1⟩
  · rfl
  · have short : ¬UBX_HDR_LEN + UBX_CFG_VALSET_HDR_LEN + 5 ≤ buf.length := by
      intro long
      refine silent ?_
      unfold UbxAnswers
      rw [valset.1, valset.2, if_neg (by decide), if_pos rfl]
      exact .inr (.inl ⟨rfl, long⟩)
    rw [firstFive_itemsIn short]
    rfl
  · rfl

theorem gnss_startUbxNav : (startUbxNav d now).gnss = d.gnss ↔ d.ubxNavEnabled = true := by
  unfold startUbxNav
  cases enabled : d.ubxNavEnabled with
  | true => simp
  | false =>
    refine iff_of_false (fun same => ?_) (by simp)
    have := congrArg GnssState.ubxNavEnabled same
    simp [NsimDpll.gnss, enabled] at this

theorem asked_congr_gnss (now : ℕ) {d' : NsimDpll} (same : d.gnss = d'.gnss) (val : UInt8) :
    (Asked d val ↔ Asked d' val) ∧ (TimerAsked d now val ↔ TimerAsked d' now val) := by
  simp only [NsimDpll.gnss, GnssState.mk.injEq] at same
  simp only [Asked, TimerAsked, same, and_self]

/-- A value has no effect exactly if the state is the one it asks for. -/
theorem gnss_applyInfil (val : UInt8) :
    (applyInfil d now val).gnss = d.gnss ↔ Asked d val ∧ TimerAsked d now val := by
  constructor
  · intro same
    obtain ⟨asked, timer⟩ := asked_congr_gnss now same val
    have after := applyInfil_asked d now val
    exact ⟨asked.1 after.1, timer.1 after.2⟩
  · rintro ⟨asked, timer⟩
    unfold Asked at asked
    unfold TimerAsked at timer
    unfold applyInfil
    split_ifs at * with blocks
    · rw [nsimDpllEnterHoldover_eq]
      simp [NsimDpll.gnss, asked, timer]
    · rw [nsimDpllEnterLocked_eq]
      simp [NsimDpll.gnss, asked, timer]

theorem gnss_afterRead (read read' : Option UInt8) :
    (afterRead d now read).gnss = (afterRead d now read').gnss ↔ ValuesAlike d now read read' := by
  cases read with
  | some val =>
    cases read' with
    | some val' =>
      constructor
      · intro same
        have asked := (applyInfil_asked d now val).1
        exact asked_sign ((asked_congr_gnss now same val).1.1 asked)
          (applyInfil_asked d now val').1
      · intro sign
        simp only [afterRead, applyInfil, show (0 < val ↔ 0 < val') from sign]
    | none => exact gnss_applyInfil val
  | none =>
    cases read' with
    | some val' => exact eq_comm.trans (gnss_applyInfil val')
    | none => exact iff_of_true rfl trivial

/-- The effect of a frame from two buffers. -/
theorem gnss_ubxEffect : (ubxEffect d now cls id buf).gnss = (ubxEffect d now cls id buf').gnss ↔
    EffectsAlike d now cls id buf buf' := by
  have nav : ¬UBX_CLASS_CFG = UBX_CLASS_NAV := by decide
  have apart : ¬UBX_CFG_VALSET = UBX_CFG_MSG := by decide
  unfold ubxEffect EffectsAlike
  by_cases msg : cls = UBX_CLASS_CFG ∧ id = UBX_CFG_MSG
  · obtain ⟨rfl, rfl⟩ := msg
    simp only [nav, false_and, if_false, and_self, if_true, forall_const, Ne.symm apart,
      false_imp_iff, and_true]
    by_cases asks : AsksNav buf <;> by_cases asks' : AsksNav buf'
    · simp [asks, asks']
    · simp [asks, asks', gnss_startUbxNav]
    · rw [if_neg asks, if_pos asks', eq_comm, gnss_startUbxNav]
      simp [asks, asks']
    · simp [asks, asks']
  · by_cases valset : cls = UBX_CLASS_CFG ∧ id = UBX_CFG_VALSET
    · obtain ⟨rfl, rfl⟩ := valset
      simp only [nav, apart, false_and, and_false, if_false, and_self, if_true, forall_const,
        false_imp_iff, true_and]
      exact gnss_afterRead _ _
    · rw [if_neg msg, if_neg valset, if_neg msg, if_neg valset]
      exact iff_of_true rfl ⟨fun cfg isMsg => absurd ⟨cfg, isMsg⟩ msg,
        fun cfg isValset => absurd ⟨cfg, isValset⟩ valset⟩

/-! ## Replies -/

theorem pollLength_ack : pollLength UBX_CLASS_ACK id = none := by
  have mon : ¬UBX_CLASS_ACK = UBX_CLASS_MON := by decide
  have nav : ¬UBX_CLASS_ACK = UBX_CLASS_NAV := by decide
  simp only [pollLength, mon, nav, false_and, if_false]

/-- Replies are told apart by what they reply to. -/
theorem isReply_inj {fix fix' cls' id' : UInt8} {reply : UbxFrame} (first : IsReply fix cls id reply)
    (second : IsReply fix' cls' id' reply) : cls = cls' ∧ id = id' := by
  unfold IsReply at first second
  cases poll : pollLength cls id with
  | some len =>
    rw [poll] at first
    cases poll' : pollLength cls' id' with
    | some len' =>
      rw [poll'] at second
      exact ⟨first.1.symm.trans second.1, first.2.1.symm.trans second.2.1⟩
    | none =>
      rw [poll'] at second
      rw [← first.1, second.1, pollLength_ack] at poll
      cases poll
  | none =>
    rw [poll] at first
    cases poll' : pollLength cls' id' with
    | some len' =>
      rw [poll'] at second
      rw [← second.1, first.1, pollLength_ack] at poll'
      cases poll'
    | none =>
      rw [poll'] at second
      have same := first.2.2.symm.trans second.2.2
      simp only [List.cons.injEq, and_true] at same
      exact same

theorem flatten_replies (replies : List UbxFrame) :
    parse (replies.map UbxFrame.bytes).flatten = replies.map UbxFrame.parsed := by
  rw [← parse_flatMap, List.flatMap_def]

/-- Only the frames that get a reply matter. -/
theorem writeEach_filter (frames : List UbxFrame) (d : NsimDpll) :
    writeEach now real d (frames.map UbxFrame.bytes) =
      writeEach now real d ((frames.filter fun g => g.AnsweredAlone).map UbxFrame.bytes) := by
  induction frames generalizing d with
  | nil => rfl
  | cons f frames ih =>
    by_cases answers : f.AnsweredAlone
    · rw [List.filter_cons_of_pos (by simpa using answers)]
      simp only [List.map_cons, writeEach, ih]
    · rw [List.filter_cons_of_neg (by simpa using answers), ← ih]
      have silent : ¬UbxAnswers f.cls f.id f.bytes.length := by
        rw [length_bytes]
        exact answers
      rw [List.map_cons, writeEach, nsimGnssWriteRaw_alone, ubxEffect_silent silent,
        if_neg (show ¬UbxAnswers f.cls f.id (UBX_OVERHEAD + f.payload.length) from answers)]
      simp

/-- Frames that each get a reply get as many replies. -/
theorem writeEach_answered (frames : List UbxFrame) (answered : ∀ f ∈ frames, f.AnsweredAlone)
    (d : NsimDpll) : ∃ d', ∃ replies : List UbxFrame, writeEach now real d (frames.map UbxFrame.bytes) =
      some (d', replies.map UbxFrame.bytes) ∧ replies.length = frames.length := by
  induction frames generalizing d with
  | nil => exact ⟨d, [], rfl, rfl⟩
  | cons f frames ih =>
    obtain ⟨reply, one, -⟩ := exists_inserted real d.gnssGpsFix f.cls f.id
    obtain ⟨d', replies, writes, length⟩ :=
      ih (fun g mem => answered g (List.mem_cons_of_mem _ mem)) (ubxEffect d now f.cls f.id f.bytes)
    refine ⟨d', reply :: replies, ?_, by rw [List.length_cons, length, List.length_cons]⟩
    have answers : UbxAnswers f.cls f.id (UBX_OVERHEAD + f.payload.length) :=
      answered f List.mem_cons_self
    rw [List.map_cons, writeEach, nsimGnssWriteRaw_alone, if_pos answers, one]
    simp only [Option.bind_some, writes, Option.map_some, List.map_cons, List.singleton_append]

/-! ## Batches -/

/-- The outcome of the batch and of the single writes. -/
theorem framesAlike_iff {frames : List UbxFrame} {r₁ r₂ : NsimDpll × List Bytes}
    (batch : nsimGnssWriteRaw d now real (frames.flatMap UbxFrame.bytes) = some r₁)
    (each : writeEach now real d (frames.map UbxFrame.bytes) = some r₂) :
    FramesAlike d now real frames ↔ r₁.1.gnss = r₂.1.gnss ∧ r₁.2.flatten = r₂.2.flatten := by
  unfold FramesAlike
  rw [batch, each]
  constructor
  · rintro ⟨d₁, s₁, d₂, s₂, eq₁, eq₂, same⟩
    cases eq₁
    cases eq₂
    exact same
  · intro same
    exact ⟨_, _, _, _, rfl, rfl, same⟩

/-- The same bytes are as many replies. -/
theorem length_of_flatten {replies replies' : List UbxFrame}
    (same : (replies.map UbxFrame.bytes).flatten = (replies'.map UbxFrame.bytes).flatten) :
    replies.length = replies'.length := by
  have parsed := congrArg parse same
  rw [flatten_replies, flatten_replies] at parsed
  simpa using congrArg List.length parsed

theorem bytes_injective {f g : UbxFrame} (same : f.bytes = g.bytes) : f = g := by
  have parsed := flatten_replies [f]
  rw [List.map_singleton, same, ← List.map_singleton, flatten_replies] at parsed
  obtain ⟨cls, id, payload, fits⟩ := f
  obtain ⟨cls', id', payload', fits'⟩ := g
  simp only [List.map_singleton, UbxFrame.parsed, List.cons.injEq, ParsedFrame.mk.injEq] at parsed
  obtain ⟨⟨rfl, rfl, rfl, -⟩, -⟩ := parsed
  rfl

/-- Without a reply to the batch, no frame may get one alone. -/
theorem framesAlike_of_silent {f : UbxFrame} {others : List UbxFrame}
    (silent : ¬UbxAnswers f.cls f.id ((f :: others).flatMap UbxFrame.bytes).length) :
    FramesAlike d now real (f :: others) ↔
      ((f :: others).filter fun g => g.AnsweredAlone) = [] := by
  have batch := @nsimGnssWriteRaw_frame d now real f (others.flatMap UbxFrame.bytes)
  rw [← List.flatMap_cons, if_neg silent, ubxEffect_silent silent] at batch
  obtain ⟨d', replies, each, length⟩ := @writeEach_answered now real
    ((f :: others).filter fun g => g.AnsweredAlone)
    (fun g mem => by simpa using List.of_mem_filter mem) d
  rw [framesAlike_iff batch ((writeEach_filter _ _).trans each)]
  constructor
  · rintro ⟨-, same⟩
    have none := @length_of_flatten [] _ same
    exact List.length_eq_zero_iff.1 (length.symm.trans none.symm)
  · intro none
    rw [none] at each length
    obtain rfl := List.length_eq_zero_iff.1 length
    cases each
    exact ⟨rfl, rfl⟩

/-- With a reply to the batch, just one frame may get a reply alone, and it must be the same. -/
theorem framesAlike_of_answers {f : UbxFrame} {others : List UbxFrame}
    (answers : UbxAnswers f.cls f.id ((f :: others).flatMap UbxFrame.bytes).length) :
    FramesAlike d now real (f :: others) ↔
      ∃ g, ((f :: others).filter fun g => g.AnsweredAlone) = [g] ∧ g.cls = f.cls ∧ g.id = f.id ∧
        EffectsAlike d now f.cls f.id ((f :: others).flatMap UbxFrame.bytes) g.bytes := by
  obtain ⟨reply, one, asked⟩ := exists_inserted real d.gnssGpsFix f.cls f.id
  have batch := @nsimGnssWriteRaw_frame d now real f (others.flatMap UbxFrame.bytes)
  rw [← List.flatMap_cons, if_pos answers, one] at batch
  by_cases single : ∃ g, ((f :: others).filter fun g => g.AnsweredAlone) = [g]
  · obtain ⟨g, alone⟩ := single
    have answered : UbxAnswers g.cls g.id (UBX_OVERHEAD + g.payload.length) := by
      have mem : g ∈ (f :: others).filter fun g => g.AnsweredAlone := by
        rw [alone]
        exact List.mem_singleton_self g
      have kept : g.AnsweredAlone := by simpa using List.of_mem_filter mem
      exact kept
    obtain ⟨reply', one', asked'⟩ := exists_inserted real d.gnssGpsFix g.cls g.id
    have each : writeEach now real d ((f :: others).map UbxFrame.bytes) =
        some (ubxEffect d now g.cls g.id g.bytes, [reply'.bytes]) := by
      rw [writeEach_filter, alone, List.map_singleton, writeEach, nsimGnssWriteRaw_alone,
        if_pos answered, one']
      rfl
    rw [framesAlike_iff batch each, alone]
    constructor
    · rintro ⟨effect, same⟩
      have replies := bytes_injective (by simpa using same)
      obtain ⟨sameCls, sameId⟩ := isReply_inj asked (replies ▸ asked')
      rw [← sameCls, ← sameId] at effect
      exact ⟨g, rfl, sameCls.symm, sameId.symm, gnss_ubxEffect.1 effect⟩
    · rintro ⟨_, eq, sameCls, sameId, effect⟩
      obtain rfl := List.singleton_inj.1 eq
      rw [sameCls, sameId] at one' ⊢
      rw [one] at one'
      exact ⟨gnss_ubxEffect.2 effect, congrArg List.flatten one'⟩
  · obtain ⟨d', replies, each, length⟩ := @writeEach_answered now real
      ((f :: others).filter fun g => g.AnsweredAlone)
      (fun g mem => by simpa using List.of_mem_filter mem) d
    rw [framesAlike_iff batch ((writeEach_filter _ _).trans each)]
    refine iff_of_false (fun alike => single ?_) fun both => single ?_
    · have count := @length_of_flatten [reply] _ alike.2
      exact List.length_eq_one_iff.1 (length.symm.trans count.symm)
    · obtain ⟨g, alone, -⟩ := both
      exact ⟨g, alone⟩

/-- A batch of frames has the effect of its frames exactly if there is one reply in both ways, to the
same message and with the same effect, or none. -/
theorem ubx_batch_iff (d : NsimDpll) (now : ℕ) (real : Timespec64) (f : UbxFrame)
    (others : List UbxFrame) :
    FramesAlike d now real (f :: others) ↔ OneAnswers d now f others := by
  unfold OneAnswers
  dsimp only
  split_ifs with answers
  · exact framesAlike_of_answers answers
  · exact framesAlike_of_silent answers

/-- CFG-MSG for NAV-STATUS and NAV-CLOCK. -/
def cfgMsgNav : List UbxFrame :=
  [⟨UBX_CLASS_CFG, UBX_CFG_MSG, [UBX_CLASS_NAV, UBX_NAV_STATUS, 1], by decide⟩,
    ⟨UBX_CLASS_CFG, UBX_CFG_MSG, [UBX_CLASS_NAV, UBX_NAV_CLOCK, 1], by decide⟩]

/-- Of two configurations in one write only the first is acknowledged. -/
theorem ubx_batch_drops : ¬∀ d now real frames, frames ≠ [] → FramesAlike d now real frames := by
  intro always
  have alike := always (NsimDpll.started 0) 1 ⟨0, 0⟩ cfgMsgNav (List.cons_ne_nil _ _)
  obtain ⟨g, alone, -⟩ := (framesAlike_of_answers (by decide)).1 alike
  have one := congrArg List.length alone
  rw [List.length_singleton] at one
  exact absurd one (by decide)

end Batch

end Netdevsim
