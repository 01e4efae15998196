import Netdevsim.Dpll.CfgValset
import Netdevsim.Dpll.UbxFraming

/-!
# The replies to UBX frames

What a write of UBX frames does, by the class and the id of the first of them and by the length of
the write (`nsimGnssWriteRaw_frame`), and which frames get a reply (`UbxAnswers`).
-/

namespace Netdevsim

/-! ## Replies -/

/-- The length of the payload of the reply to a poll.  The driver takes every frame of these classes
and ids for a poll. -/
def pollLength (cls id : UInt8) : Option ℕ :=
  if cls = UBX_CLASS_MON ∧ id = UBX_MON_VER then some UBX_MON_VER_PAYLOAD_LEN
  else if cls = UBX_CLASS_MON ∧ id = UBX_MON_HW then some UBX_MON_HW_LEN
  else if cls = UBX_CLASS_NAV ∧ id = UBX_NAV_STATUS then some UBX_NAV_STATUS_LEN
  else if cls = UBX_CLASS_NAV ∧ id = UBX_NAV_CLOCK then some UBX_NAV_CLOCK_LEN
  else none

/-- The frame that a poll asks for, with the fix in NAV-STATUS, or the acknowledgement of any other
frame. -/
def IsReply (gpsFix cls id : UInt8) (reply : UbxFrame) : Prop :=
  match pollLength cls id with
  | some len => reply.cls = cls ∧ reply.id = id ∧ reply.payload.length = len ∧
      (cls = UBX_CLASS_NAV → id = UBX_NAV_STATUS → reply.payload[4]? = some gpsFix)
  | none => reply.cls = UBX_CLASS_ACK ∧ reply.id = UBX_ACK_ACK ∧ reply.payload = [cls, id]

/-- What is built in reply to a frame. -/
def ubxReply (real : Timespec64) (gpsFix cls id : UInt8) : Except Errno Bytes :=
  if cls = UBX_CLASS_MON ∧ id = UBX_MON_VER then ubxBuildMonVer UBX_RESP_LEN
  else if cls = UBX_CLASS_MON ∧ id = UBX_MON_HW then ubxBuildMonHw UBX_RESP_LEN
  else if cls = UBX_CLASS_NAV ∧ id = UBX_NAV_STATUS then ubxBuildNavStatus UBX_RESP_LEN real gpsFix
  else if cls = UBX_CLASS_NAV ∧ id = UBX_NAV_CLOCK then ubxBuildNavClock UBX_RESP_LEN real gpsFix
  else ubxBuildAck UBX_RESP_LEN cls id

section Replies

variable {cls id : UInt8} {payload : Bytes} {built : Except Errno Bytes}

theorem exists_built (len : ℕ) (frame : built = ubxBuildFrame UBX_RESP_LEN cls id payload)
    (length : payload.length = len) (fits : len ≤ UBX_MON_VER_PAYLOAD_LEN) :
    ∃ reply : UbxFrame, built = .ok reply.bytes ∧ reply.cls = cls ∧ reply.id = id ∧
      reply.payload = payload := by
  have room : ¬UBX_RESP_LEN < UBX_OVERHEAD + payload.length := by
    unfold UBX_RESP_LEN
    omega
  have short : UBX_MON_VER_PAYLOAD_LEN < 2 ^ 16 := by decide
  refine ⟨⟨cls, id, payload, by omega⟩, ?_, rfl, rfl, rfl⟩
  rw [frame, ubxBuildFrame_eq, if_neg room]
  rfl

/-- Whatever is built fits the buffer, and is the reply asked for. -/
theorem exists_ubxReply (real : Timespec64) (gpsFix cls id : UInt8) :
    ∃ reply : UbxFrame, ubxReply real gpsFix cls id = .ok reply.bytes ∧
      IsReply gpsFix cls id reply := by
  unfold ubxReply IsReply pollLength
  split_ifs with ver hw status clock
  · obtain ⟨rfl, rfl⟩ := ver
    obtain ⟨reply, built, sameCls, sameId, payload⟩ :=
      exists_built UBX_MON_VER_PAYLOAD_LEN (rfl : ubxBuildMonVer UBX_RESP_LEN = _) rfl (by decide)
    exact ⟨reply, built, sameCls, sameId, payload ▸ rfl, fun nav => absurd nav (by decide)⟩
  · obtain ⟨rfl, rfl⟩ := hw
    obtain ⟨reply, built, sameCls, sameId, payload⟩ :=
      exists_built UBX_MON_HW_LEN (rfl : ubxBuildMonHw UBX_RESP_LEN = _) rfl (by decide)
    exact ⟨reply, built, sameCls, sameId, payload ▸ rfl, fun nav => absurd nav (by decide)⟩
  · obtain ⟨rfl, rfl⟩ := status
    obtain ⟨reply, built, sameCls, sameId, payload⟩ :=
      exists_built UBX_NAV_STATUS_LEN (rfl : ubxBuildNavStatus UBX_RESP_LEN real gpsFix = _) rfl
        (by decide)
    exact ⟨reply, built, sameCls, sameId, payload ▸ rfl, fun _ _ => payload ▸ rfl⟩
  · obtain ⟨rfl, rfl⟩ := clock
    obtain ⟨reply, built, sameCls, sameId, payload⟩ :=
      exists_built UBX_NAV_CLOCK_LEN (rfl : ubxBuildNavClock UBX_RESP_LEN real gpsFix = _) rfl
        (by decide)
    exact ⟨reply, built, sameCls, sameId, payload ▸ rfl, fun _ other => absurd other (by decide)⟩
  · exact exists_built 2 rfl rfl (by decide)

end Replies

/-! ## What a write of frames does -/

/-- A frame gets a reply in a write of `count` bytes. -/
def UbxAnswers (cls id : UInt8) (count : ℕ) : Prop :=
  if cls = UBX_CLASS_MON then id = UBX_MON_VER ∨ id = UBX_MON_HW
  else if cls = UBX_CLASS_CFG then
    id = UBX_CFG_MSG ∧ UBX_HDR_LEN + 3 ≤ count ∨
      id = UBX_CFG_VALSET ∧ UBX_HDR_LEN + UBX_CFG_VALSET_HDR_LEN + 5 ≤ count ∨ id = UBX_CFG_CFG
  else True

instance (cls id : UInt8) (count : ℕ) : Decidable (UbxAnswers cls id count) :=
  inferInstanceAs (Decidable (ite _ _ _))

/-- CFG-MSG asks for NAV-STATUS or NAV-CLOCK. -/
def AsksNav (buf : Bytes) : Prop :=
  UBX_HDR_LEN + 3 ≤ buf.length ∧ buf[UBX_HDR_LEN]? = some UBX_CLASS_NAV ∧
    (buf[UBX_HDR_LEN + 1]? = some UBX_NAV_STATUS ∨ buf[UBX_HDR_LEN + 1]? = some UBX_NAV_CLOCK)

instance (buf : Bytes) : Decidable (AsksNav buf) := inferInstanceAs (Decidable (_ ∧ _))

/-- What CFG-VALSET takes for items: all up to the last two bytes of the write. -/
def itemsIn (buf : Bytes) : Bytes :=
  (buf.drop (UBX_HDR_LEN + UBX_CFG_VALSET_HDR_LEN)).take
    (buf.length - UBX_CK_LEN - (UBX_HDR_LEN + UBX_CFG_VALSET_HDR_LEN))

/-- The state after a write that starts with a frame of this class and id. -/
def ubxEffect (d : NsimDpll) (now : ℕ) (cls id : UInt8) (buf : Bytes) : NsimDpll :=
  if cls = UBX_CLASS_NAV ∧ (id = UBX_NAV_STATUS ∨ id = UBX_NAV_CLOCK) then startUbxNav d now
  else if cls = UBX_CLASS_CFG ∧ id = UBX_CFG_MSG then
    if AsksNav buf then startUbxNav d now else d
  else if cls = UBX_CLASS_CFG ∧ id = UBX_CFG_VALSET then afterRead d now (firstFive (itemsIn buf))
  else d

section Write

variable {d : NsimDpll} {now : ℕ} {real : Timespec64} {buf : Bytes} {cls id : UInt8}

theorem frameInfil_eq (long : UBX_HDR_LEN + UBX_CFG_VALSET_HDR_LEN + 5 ≤ buf.length) :
    frameInfil buf = some (firstFive (itemsIn buf)) := by
  have loop := valsetInfil_eq_firstFive (buf.take (UBX_HDR_LEN + UBX_CFG_VALSET_HDR_LEN))
    (itemsIn buf) (buf.drop (buf.length - UBX_CK_LEN)) (buf.length + 1)
  have ten : UBX_HDR_LEN + UBX_CFG_VALSET_HDR_LEN = 10 := rfl
  have two : UBX_CK_LEN = 2 := rfl
  have items : (itemsIn buf).length = buf.length - 12 := by
    simp only [itemsIn, List.length_take, List.length_drop]
    omega
  have header : (buf.take (UBX_HDR_LEN + UBX_CFG_VALSET_HDR_LEN)).length = 10 := by
    rw [List.length_take]
    omega
  have whole : buf.take (UBX_HDR_LEN + UBX_CFG_VALSET_HDR_LEN) ++ itemsIn buf ++
      buf.drop (buf.length - UBX_CK_LEN) = buf := by
    have behind : buf.drop (buf.length - UBX_CK_LEN) =
        (buf.drop (UBX_HDR_LEN + UBX_CFG_VALSET_HDR_LEN)).drop
          (buf.length - UBX_CK_LEN - (UBX_HDR_LEN + UBX_CFG_VALSET_HDR_LEN)) := by
      rw [List.drop_drop]
      congr 1
      omega
    rw [behind, itemsIn, List.append_assoc, List.take_append_drop, List.take_append_drop]
  rw [whole, List.length_append, header, items] at loop
  unfold frameInfil
  rw [← loop (by omega)]
  congr 1
  omega

/-- CFG frames with too few bytes for an item read nothing. -/
theorem firstFive_itemsIn (short : ¬UBX_HDR_LEN + UBX_CFG_VALSET_HDR_LEN + 5 ≤ buf.length) :
    firstFive (itemsIn buf) = none := by
  refine firstFive_short ?_
  have ten : UBX_HDR_LEN + UBX_CFG_VALSET_HDR_LEN = 10 := rfl
  have two : UBX_CK_LEN = 2 := rfl
  simp only [itemsIn, List.length_take, List.length_drop]
  omega

/-- CFG-MSG reads the class and the id of a message, if the write is long enough. -/
theorem ubxCfg_msg : ubxCfg d now UBX_CLASS_CFG UBX_CFG_MSG buf =
    some (if AsksNav buf then startUbxNav d now else d,
      if UBX_HDR_LEN + 3 ≤ buf.length then
        inserted (ubxBuildAck UBX_RESP_LEN UBX_CLASS_CFG UBX_CFG_MSG) else []) := by
  unfold ubxCfg
  by_cases long : UBX_HDR_LEN + 3 ≤ buf.length
  · obtain ⟨msgCls, read₀⟩ := exists_read buf UBX_HDR_LEN (by omega)
    obtain ⟨msgId, read₁⟩ := exists_read buf (UBX_HDR_LEN + 1) (by omega)
    have asks : AsksNav buf ↔
        msgCls = UBX_CLASS_NAV ∧ (msgId = UBX_NAV_STATUS ∨ msgId = UBX_NAV_CLOCK) := by
      unfold AsksNav
      rw [read₀, read₁]
      simp only [long, true_and, Option.some.injEq]
    dsimp only
    rw [if_pos ⟨rfl, long⟩, if_pos long, read₀, read₁]
    simp only [asks]
    rfl
  · have asks : ¬AsksNav buf := fun asks => long asks.1
    dsimp only
    rw [if_neg fun msg => long msg.2, if_neg fun valset => absurd valset.1 (by decide),
      if_neg (by decide), if_neg long, if_neg asks]
    rfl

/-- CFG-VALSET reads the items, if there is room for one. -/
theorem ubxCfg_valset : ubxCfg d now UBX_CLASS_CFG UBX_CFG_VALSET buf =
    some (afterRead d now (firstFive (itemsIn buf)),
      if UBX_HDR_LEN + UBX_CFG_VALSET_HDR_LEN + 5 ≤ buf.length then
        inserted (ubxBuildAck UBX_RESP_LEN UBX_CLASS_CFG UBX_CFG_VALSET) else []) := by
  unfold ubxCfg
  dsimp only
  rw [if_neg fun msg => absurd msg.1 (by decide)]
  by_cases long : UBX_HDR_LEN + UBX_CFG_VALSET_HDR_LEN + 5 ≤ buf.length
  · have scan := frameInfil_eq long
    unfold frameInfil at scan
    rw [if_pos ⟨rfl, long⟩, if_pos long, scan]
    cases firstFive (itemsIn buf) <;> rfl
  · rw [if_neg fun valset => long valset.2, if_neg (by decide), if_neg long,
      firstFive_itemsIn long]
    rfl

theorem ubxCfg_other (msg : id ≠ UBX_CFG_MSG) (valset : id ≠ UBX_CFG_VALSET) :
    ubxCfg d now UBX_CLASS_CFG id buf =
      some (d, if id = UBX_CFG_CFG then inserted (ubxBuildAck UBX_RESP_LEN UBX_CLASS_CFG id)
        else []) := by
  unfold ubxCfg
  dsimp only
  rw [if_neg fun both => msg both.1, if_neg fun both => valset both.1]
  split <;> rfl

theorem ubxMon_eq : ubxMon d id =
    (d, if id = UBX_MON_VER ∨ id = UBX_MON_HW then
      inserted (ubxReply real d.gnssGpsFix UBX_CLASS_MON id) else []) := by
  unfold ubxMon ubxReply
  by_cases ver : id = UBX_MON_VER
  · simp only [ver, true_and, true_or, if_true]
  · by_cases hw : id = UBX_MON_HW
    · simp only [hw, true_and, or_true, if_true, if_neg (show UBX_MON_HW ≠ UBX_MON_VER by decide)]
    · simp only [ver, hw, or_self, if_false]

theorem ubxNav_eq : ubxNav d now real UBX_CLASS_NAV id =
    (if id = UBX_NAV_STATUS ∨ id = UBX_NAV_CLOCK then startUbxNav d now else d,
      inserted (ubxReply real d.gnssGpsFix UBX_CLASS_NAV id)) := by
  have fix : (startUbxNav d now).gnssGpsFix = d.gnssGpsFix := by
    unfold startUbxNav
    split <;> rfl
  have reply : ubxReply real d.gnssGpsFix UBX_CLASS_NAV id =
      if id = UBX_NAV_STATUS then ubxBuildNavStatus UBX_RESP_LEN real d.gnssGpsFix
      else if id = UBX_NAV_CLOCK then ubxBuildNavClock UBX_RESP_LEN real d.gnssGpsFix
      else ubxBuildAck UBX_RESP_LEN UBX_CLASS_NAV id := by
    unfold ubxReply
    rw [if_neg fun mon => absurd mon.1 (by decide), if_neg fun mon => absurd mon.1 (by decide)]
    simp only [true_and]
  rw [reply]
  unfold ubxNav
  by_cases status : id = UBX_NAV_STATUS
  · simp only [status, true_or, if_true, fix]
  · by_cases clock : id = UBX_NAV_CLOCK
    · have other : UBX_NAV_CLOCK ≠ UBX_NAV_STATUS := by decide
      simp only [clock, or_true, if_true, fix, if_neg other]
    · simp only [status, clock, or_self, if_false]

/-- The switch over the class, in terms of what is answered. -/
theorem ubxFrame_eq : ubxFrame d now real cls id buf =
    some (ubxEffect d now cls id buf, if UbxAnswers cls id buf.length then
      inserted (ubxReply real d.gnssGpsFix cls id) else []) := by
  unfold ubxFrame ubxEffect UbxAnswers
  by_cases mon : cls = UBX_CLASS_MON
  · subst mon
    rw [if_pos rfl, if_neg fun nav => absurd nav.1 (by decide),
      if_neg fun cfg => absurd cfg.1 (by decide), if_neg fun cfg => absurd cfg.1 (by decide),
      ubxMon_eq]
    rfl
  · by_cases cfg : cls = UBX_CLASS_CFG
    · subst cfg
      have ack : ubxReply real d.gnssGpsFix UBX_CLASS_CFG id =
          ubxBuildAck UBX_RESP_LEN UBX_CLASS_CFG id := rfl
      rw [if_neg mon, if_pos rfl, if_neg fun nav => absurd nav.1 (by decide), ack]
      simp only [if_neg mon, if_true, true_and]
      by_cases msg : id = UBX_CFG_MSG
      · subst msg
        rw [ubxCfg_msg, if_pos rfl]
        simp [show UBX_CFG_MSG ≠ UBX_CFG_VALSET by decide, show UBX_CFG_MSG ≠ UBX_CFG_CFG by decide]
      · by_cases valset : id = UBX_CFG_VALSET
        · subst valset
          rw [ubxCfg_valset, if_neg msg, if_pos rfl]
          simp [msg, show UBX_CFG_VALSET ≠ UBX_CFG_CFG by decide]
        · rw [ubxCfg_other msg valset]
          simp [msg, valset]
    · rw [if_neg mon, if_neg cfg]
      simp only [if_neg mon, if_neg cfg, if_true]
      by_cases nav : cls = UBX_CLASS_NAV
      · subst nav
        rw [if_pos rfl, ubxNav_eq]
        simp [cfg]
      · have ack : ubxReply real d.gnssGpsFix cls id = ubxBuildAck UBX_RESP_LEN cls id := by
          simp [ubxReply, mon, nav]
        rw [if_neg nav, ack]
        simp [cfg, nav]

/-- A write of frames: the first one decides, with the length of the write. -/
theorem nsimGnssWriteRaw_frame (f : UbxFrame) (rest : Bytes) :
    nsimGnssWriteRaw d now real (f.bytes ++ rest) =
      some (ubxEffect d now f.cls f.id (f.bytes ++ rest),
        if UbxAnswers f.cls f.id (f.bytes ++ rest).length then
          inserted (ubxReply real d.gnssGpsFix f.cls f.id) else []) := by
  have header : HasHeader (f.bytes ++ rest) f.cls f.id := ⟨rfl, rfl, rfl, rfl⟩
  have long : UBX_HDR_LEN ≤ (f.bytes ++ rest).length := by
    unfold UBX_HDR_LEN
    rw [List.length_append, length_bytes]
    omega
  rw [nsimGnssWriteRaw_of_header long header, ubxFrame_eq]

/-- A frame that is answered in a write of its own is answered in any write it starts. -/
theorem UbxAnswers.mono {count count' : ℕ} (answers : UbxAnswers cls id count)
    (le : count ≤ count') : UbxAnswers cls id count' := by
  unfold UbxAnswers at *
  split_ifs at * with mon cfg
  · exact answers
  · rcases answers with ⟨msg, long⟩ | ⟨valset, long⟩ | save
    · exact .inl ⟨msg, long.trans le⟩
    · exact .inr (.inl ⟨valset, long.trans le⟩)
    · exact .inr (.inr save)

/-- A write of one frame. -/
theorem nsimGnssWriteRaw_alone (f : UbxFrame) :
    nsimGnssWriteRaw d now real f.bytes =
      some (ubxEffect d now f.cls f.id f.bytes,
        if UbxAnswers f.cls f.id (UBX_OVERHEAD + f.payload.length) then
          inserted (ubxReply real d.gnssGpsFix f.cls f.id) else []) := by
  have write := @nsimGnssWriteRaw_frame d now real f []
  rw [List.append_nil] at write
  rw [write, length_bytes, UBX_OVERHEAD, UBX_HDR_LEN, UBX_CK_LEN]

/-- What is inserted for a frame that is answered is the reply asked for. -/
theorem exists_inserted (real : Timespec64) (gpsFix cls id : UInt8) :
    ∃ reply : UbxFrame, inserted (ubxReply real gpsFix cls id) = [reply.bytes] ∧
      IsReply gpsFix cls id reply := by
  obtain ⟨reply, built, asked⟩ := exists_ubxReply real gpsFix cls id
  refine ⟨reply, ?_, asked⟩
  have some : reply.bytes.length ≠ 0 := by
    rw [length_bytes]
    omega
  rw [built, inserted, if_neg some]

/-! ## Frames that are answered -/

/-- A write of the frame inserts just the reply asked for. -/
def AnsweredOnce (d : NsimDpll) (now : ℕ) (real : Timespec64) (f : UbxFrame) : Prop :=
  ∃ d' reply, nsimGnssWriteRaw d now real f.bytes = some (d', [UbxFrame.bytes reply]) ∧
    IsReply d.gnssGpsFix f.cls f.id reply

theorem not_answeredOnce {f : UbxFrame}
    (silent : ¬UbxAnswers f.cls f.id (UBX_OVERHEAD + f.payload.length)) :
    ¬AnsweredOnce d now real f := by
  rintro ⟨d', reply, write, -⟩
  rw [nsimGnssWriteRaw_alone, if_neg silent] at write
  cases congrArg (Option.map Prod.snd) write

/-- A frame is answered exactly if it is a MON poll for the version or the hardware, a configuration
of messages with a payload, one of values with an item, or a save, or of a class that is neither
MON nor CFG. -/
theorem ubx_answered_iff (d : NsimDpll) (now : ℕ) (real : Timespec64) (f : UbxFrame) :
    AnsweredOnce d now real f ↔ UbxAnswers f.cls f.id (UBX_OVERHEAD + f.payload.length) := by
  constructor
  · intro answered
    by_contra silent
    exact not_answeredOnce silent answered
  · intro answers
    obtain ⟨reply, one, asked⟩ := exists_inserted real d.gnssGpsFix f.cls f.id
    have write := @nsimGnssWriteRaw_alone d now real f
    rw [if_pos answers, one] at write
    exact ⟨_, reply, write, asked⟩

/-- A poll of the measurement rate gets no reply. -/
theorem ubx_cfg_rate_unanswered : ¬∀ d now real f, AnsweredOnce d now real f := by
  intro always
  have answered := always (NsimDpll.started 0) 1 ⟨0, 0⟩ ⟨UBX_CLASS_CFG, 0x08, [], by decide⟩
  exact not_answeredOnce (by decide) answered

end Write

end Netdevsim
