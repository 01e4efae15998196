import Netdevsim.Dpll.UbxReplies

/-!
# Sizes and bounds of a GNSS write

`nsim_gnss_write_raw` once more, with its positions as `size_t`: a sum that wraps or a difference
below zero is `none`, as is a read outside of the buffer and a loop that does not end.  Below `2 ^ 32`
bytes nothing of that happens.
-/

namespace Netdevsim

/-! ## Sizes -/

/-- A sum of type `size_t`. -/
def sizeAdd (a b : ℕ) : Option ℕ := if a + b < 2 ^ 64 then some (a + b) else none

/-- A difference of type `size_t`. -/
def sizeSub (a b : ℕ) : Option ℕ := if b ≤ a then some (a - b) else none

theorem sizeAdd_eq {a b : ℕ} (fits : a + b < 2 ^ 64) : sizeAdd a b = some (a + b) := if_pos fits

theorem sizeSub_eq {a b : ℕ} (le : b ≤ a) : sizeSub a b = some (a - b) := if_pos le

/-! ## The functions with sizes -/

/-- The inner loop of `nsim_parse_gga_fix` from index `i` on. -/
def ggaQualityFieldSized (buf : Bytes) : (fuel i commas : ℕ) → Option (Option UInt8)
  | 0, _, _ => none
  | fuel + 1, i, commas =>
    if i < buf.length then do
      let c ← buf[i]?
      if c = 42 ∨ c = 36 then return none
      else if c = 44 then
        if commas + 1 = 5 then do
          let next ← sizeAdd i 1
          if buf.length ≤ next then return none
          else do
            let q ← buf[next]?
            if q < 48 ∨ 57 < q then return none else return some (q - 48)
        else do
          let i ← sizeAdd i 1
          ggaQualityFieldSized buf fuel i (commas + 1)
      else do
        let i ← sizeAdd i 1
        ggaQualityFieldSized buf fuel i commas
    else some none

/-- The outer loop of `nsim_parse_gga_fix` from index `p` on. -/
def ggaQualitySized (buf : Bytes) : (fuel p : ℕ) → Option (Option UInt8)
  | 0, _ => none
  | fuel + 1, p => do
    let ahead ← sizeAdd p 10
    if ahead < buf.length then do
      let c ← buf[p]?
      if c ≠ 36 then do
        let p ← sizeAdd p 1
        ggaQualitySized buf fuel p
      else do
        let fields ← sizeAdd p 7
        if buf.length < fields then return none
        else do
          let tag ← readBytes buf (p + 3) 4
          if tag ≠ ascii "GGA," then do
            let p ← sizeAdd p 1
            ggaQualitySized buf fuel p
          else ggaQualityFieldSized buf (buf.length + 1) fields 0
    else some none

/-- `nsim_parse_gga_fix`. -/
def nsimParseGgaFixSized (d : NsimDpll) (now : ℕ) (buf : Bytes) : Option NsimDpll := do
  match ← ggaQualitySized buf (buf.length + 1) 0 with
  | none => return d
  | some quality => return nsimApplyGgaFix d now quality

/-- The loop over the items of CFG-VALSET.  The pointer `kv` moves along with `pos`. -/
def valsetInfilSized (buf : Bytes) (kvEnd : ℕ) : (fuel kv pos : ℕ) → Option (Option UInt8)
  | 0, _, _ => none
  | fuel + 1, kv, pos => do
    let ahead ← sizeAdd pos 4
    if ahead < kvEnd then do
      let k₀ ← buf[kv]?
      let k₁ ← buf[kv + 1]?
      let k₂ ← buf[kv + 2]?
      let k₃ ← buf[kv + 3]?
      let key := k₀.toUInt32 ||| (k₁.toUInt32 <<< 8) ||| (k₂.toUInt32 <<< 16) |||
        (k₃.toUInt32 <<< 24)
      let kv := kv + 4
      let pos ← sizeAdd pos 4
      if key = UBX_CFGKEY_INFIL_NCNOTHRS ∧ pos < kvEnd then do
        let val ← buf[kv]?
        let _ ← sizeAdd pos 1
        return some val
      else do
        let pos ← sizeAdd pos 1
        valsetInfilSized buf kvEnd fuel (kv + 1) pos
    else some none

/-- The `UBX_CLASS_CFG` case of `nsim_gnss_write_raw`. -/
def ubxCfgSized (d : NsimDpll) (now : ℕ) (cls id : UInt8) (buf : Bytes) :
    Option (NsimDpll × List Bytes) :=
  let ack := inserted (ubxBuildAck UBX_RESP_LEN cls id)
  if id = UBX_CFG_MSG ∧ UBX_HDR_LEN + 3 ≤ buf.length then do
    let msgCls ← buf[UBX_HDR_LEN]?
    let msgId ← buf[UBX_HDR_LEN + 1]?
    let nav := msgCls = UBX_CLASS_NAV ∧ (msgId = UBX_NAV_STATUS ∨ msgId = UBX_NAV_CLOCK)
    return (if nav then startUbxNav d now else d, ack)
  else if id = UBX_CFG_VALSET ∧ UBX_HDR_LEN + UBX_CFG_VALSET_HDR_LEN + 5 ≤ buf.length then do
    let kvEnd ← sizeSub buf.length UBX_CK_LEN
    match ← valsetInfilSized buf kvEnd (buf.length + 1) (UBX_HDR_LEN + UBX_CFG_VALSET_HDR_LEN)
        (UBX_HDR_LEN + UBX_CFG_VALSET_HDR_LEN) with
    | some val => return (applyInfil d now val, ack)
    | none => return (d, ack)
  else if id = UBX_CFG_CFG then return (d, ack)
  else return (d, [])

/-- The switch of `nsim_gnss_write_raw`. -/
def ubxFrameSized (d : NsimDpll) (now : ℕ) (real : Timespec64) (cls id : UInt8) (buf : Bytes) :
    Option (NsimDpll × List Bytes) :=
  if cls = UBX_CLASS_MON then some (ubxMon d id)
  else if cls = UBX_CLASS_CFG then ubxCfgSized d now cls id buf
  else if cls = UBX_CLASS_NAV then some (ubxNav d now real cls id)
  else some (d, inserted (ubxBuildAck UBX_RESP_LEN cls id))

/-- `nsim_gnss_write_raw`. -/
def nsimGnssWriteRawSized (d : NsimDpll) (now : ℕ) (real : Timespec64) (buf : Bytes) :
    Option (NsimDpll × List Bytes) :=
  if buf.length = 0 then some (d, [])
  else do
    let first ← buf[0]?
    if first = 36 then
      if d.signalBlocked then return (d, [buf])
      else
        let d ← nsimParseGgaFixSized d now buf
        return (d, [buf])
    else if buf.length < UBX_HDR_LEN then return (d, [])
    else
      let sync ← buf[1]?
      if first ≠ UBX_SYNC1 ∨ sync ≠ UBX_SYNC2 then return (d, [])
      else
        let cls ← buf[2]?
        let id ← buf[3]?
        ubxFrameSized d now real cls id buf

/-! ## No size wraps -/

section Sized

variable {buf : Bytes}

theorem ggaQualityFieldSized_eq (small : buf.length < 2 ^ 32) (fuel i commas : ℕ) :
    ggaQualityFieldSized buf fuel i commas = ggaQualityField buf fuel i commas := by
  induction fuel generalizing i commas with
  | zero => rfl
  | succ fuel ih =>
    unfold ggaQualityFieldSized ggaQualityField
    by_cases inside : i < buf.length
    · have next : sizeAdd i 1 = some (i + 1) := sizeAdd_eq (by omega)
      simp only [inside, if_true, next, Option.bind_eq_bind, Option.bind_some, ih]
    · simp only [inside, if_false]

/-- As long as a position is no larger than the count, what is looked ahead does not wrap. -/
theorem ggaQualitySized_eq (small : buf.length < 2 ^ 32) (fuel p : ℕ) (within : p ≤ buf.length) :
    ggaQualitySized buf fuel p = ggaQuality buf fuel p := by
  induction fuel generalizing p with
  | zero => rfl
  | succ fuel ih =>
    have ahead : sizeAdd p 10 = some (p + 10) := sizeAdd_eq (by omega)
    have fields : sizeAdd p 7 = some (p + 7) := sizeAdd_eq (by omega)
    have next : sizeAdd p 1 = some (p + 1) := sizeAdd_eq (by omega)
    unfold ggaQualitySized ggaQuality
    by_cases inside : p + 10 < buf.length
    · have rest := ih (p + 1) (by omega)
      simp only [inside, if_true, ahead, fields, next, Option.bind_eq_bind, Option.bind_some, rest,
        ggaQualityFieldSized_eq small]
    · simp only [inside, if_false, ahead, Option.bind_eq_bind, Option.bind_some]

/-- The pointer and the position stay equal, and the position within the items. -/
theorem valsetInfilSized_eq {kvEnd : ℕ} (small : kvEnd < 2 ^ 32) (fuel pos : ℕ)
    (within : pos ≤ kvEnd) :
    valsetInfilSized buf kvEnd fuel pos pos = valsetInfil buf kvEnd fuel pos := by
  induction fuel generalizing pos with
  | zero => rfl
  | succ fuel ih =>
    have ahead : sizeAdd pos 4 = some (pos + 4) := sizeAdd_eq (by omega)
    have next : sizeAdd (pos + 4) 1 = some (pos + 5) := sizeAdd_eq (by omega)
    unfold valsetInfilSized valsetInfil
    by_cases inside : pos + 4 < kvEnd
    · have rest := ih (pos + 5) (by omega)
      simp only [inside, if_true, ahead, next, Option.bind_eq_bind, Option.bind_some, rest]
    · simp only [inside, if_false, ahead, Option.bind_eq_bind, Option.bind_some]

variable (d : NsimDpll) (now : ℕ) (real : Timespec64)

theorem nsimParseGgaFixSized_eq (small : buf.length < 2 ^ 32) :
    nsimParseGgaFixSized d now buf = nsimParseGgaFix d now buf := by
  have quality := ggaQualitySized_eq small (buf.length + 1) 0 (Nat.zero_le _)
  unfold nsimParseGgaFixSized nsimParseGgaFix
  exact congrArg (· >>= _) quality

theorem ubxCfgSized_eq (small : buf.length < 2 ^ 32) (cls id : UInt8) :
    ubxCfgSized d now cls id buf = ubxCfg d now cls id buf := by
  unfold ubxCfgSized ubxCfg
  by_cases valset : id = UBX_CFG_VALSET ∧ UBX_HDR_LEN + UBX_CFG_VALSET_HDR_LEN + 5 ≤ buf.length
  · have ten : UBX_HDR_LEN + UBX_CFG_VALSET_HDR_LEN = 10 := rfl
    have two : UBX_CK_LEN = 2 := rfl
    have kvEnd : sizeSub buf.length UBX_CK_LEN = some (buf.length - UBX_CK_LEN) :=
      sizeSub_eq (by omega)
    have loop := @valsetInfilSized_eq buf (buf.length - UBX_CK_LEN) (by omega) (buf.length + 1)
      (UBX_HDR_LEN + UBX_CFG_VALSET_HDR_LEN) (by omega)
    refine if_congr Iff.rfl rfl (if_congr Iff.rfl ?_ rfl)
    rw [kvEnd]
    exact congrArg (· >>= _) loop
  · simp only [if_neg valset]

theorem nsimGnssWriteRawSized_eq (small : buf.length < 2 ^ 32) :
    nsimGnssWriteRawSized d now real buf = nsimGnssWriteRaw d now real buf := by
  unfold nsimGnssWriteRawSized nsimGnssWriteRaw ubxFrameSized ubxFrame
  simp only [nsimParseGgaFixSized_eq d now small, ubxCfgSized_eq d now small]

/-! ## Replies fit the buffer -/

variable {d} in
/-- What a write inserts is its own bytes, if it is NMEA, or a reply to the frame. -/
theorem nsimGnssWriteRaw_replies {d' : NsimDpll} {replies : List Bytes}
    (ok : nsimGnssWriteRaw d now real buf = some (d', replies)) :
    replies = [] ∨ buf[0]? = some 36 ∧ replies = [buf] ∨
      ∃ cls id, replies = inserted (ubxReply real d.gnssGpsFix cls id) := by
  obtain ⟨-, dropped⟩ | ⟨nmea, passed, -⟩ | ⟨cls, id, -, frame⟩ := nsimGnssWriteRaw_cases ok
  · exact .inl dropped
  · exact .inr (.inl ⟨nmea, passed⟩)
  · rw [ubxFrame_eq] at frame
    cases frame
    by_cases answers : UbxAnswers cls id buf.length
    · rw [if_pos answers]
      exact .inr (.inr ⟨cls, id, rfl⟩)
    · rw [if_neg answers]
      exact .inl rfl

theorem pollLength_le {cls id : UInt8} {len : ℕ} (poll : pollLength cls id = some len) :
    len ≤ UBX_MON_VER_PAYLOAD_LEN := by
  unfold pollLength at poll
  split_ifs at poll
  all_goals
    cases poll
    decide

/-- A reply is no longer than the buffer it is built in. -/
theorem length_inserted (gpsFix cls id : UInt8) :
    ∀ reply ∈ inserted (ubxReply real gpsFix cls id), reply.length ≤ UBX_RESP_LEN := by
  intro reply mem
  obtain ⟨frame, one, asked⟩ := exists_inserted real gpsFix cls id
  rw [one, List.mem_singleton] at mem
  have payload : frame.payload.length ≤ UBX_MON_VER_PAYLOAD_LEN := by
    unfold IsReply at asked
    cases poll : pollLength cls id with
    | some len =>
      rw [poll] at asked
      exact asked.2.2.1.trans_le (pollLength_le poll)
    | none =>
      rw [poll] at asked
      rw [asked.2.2]
      exact (by decide : 2 ≤ UBX_MON_VER_PAYLOAD_LEN)
  rw [mem, length_bytes]
  exact Nat.add_le_add_left payload 8

/-- A write of any buffer reads inside it and returns, with no reply longer than its buffer.  Below
`2 ^ 32` bytes no sum or difference of sizes wraps on the way. -/
theorem gnss_write_in_bounds (d : NsimDpll) (now : ℕ) (real : Timespec64) (buf : Bytes) :
    (∃ d' replies, nsimGnssWriteRaw d now real buf = some (d', replies) ∧
      ∀ reply ∈ replies, reply.length ≤ UBX_RESP_LEN ∨ buf[0]? = some 36 ∧ reply = buf) ∧
    (buf.length < 2 ^ 32 →
      nsimGnssWriteRawSized d now real buf = nsimGnssWriteRaw d now real buf) := by
  obtain ⟨⟨d', replies⟩, write⟩ := nsimGnssWriteRaw_total d now real buf
  refine ⟨⟨d', replies, write, ?_⟩, nsimGnssWriteRawSized_eq d now real⟩
  intro reply mem
  rcases nsimGnssWriteRaw_replies now real write with none | ⟨nmea, echo⟩ | ⟨cls, id, reply⟩
  · rw [none] at mem
    cases mem
  · rw [echo, List.mem_singleton] at mem
    exact .inr ⟨nmea, mem⟩
  · subst reply
    exact .inl (length_inserted real _ cls id _ mem)

end Sized

end Netdevsim
