import Netdevsim.Dpll.Nsim
import Netdevsim.Lib.LittleEndian

/-!
# Configuration items in CFG-VALSET

The payload of a CFG-VALSET frame is a header and a list of items, each a key and a value whose
width the key names.  The driver reads it in steps of five bytes, as if every value were one byte
long (`firstFive`), so it sees the key it looks for only where it falls on such a step.
-/

namespace Netdevsim

/-! ## The format -/

/-- The bytes of the value of a key, which its bits 30..28 name. -/
def cfgValueWidth (key : UInt32) : Option ℕ :=
  match (key >>> 28 &&& 7).toNat with
  | 1 | 2 => some 1
  | 3 => some 2
  | 4 => some 4
  | 5 => some 8
  | _ => none

/-- A key with a value of its width. -/
structure CfgItem where
  key : UInt32
  value : Bytes
  width : cfgValueWidth key = some value.length

/-- The bytes of an item, the key in little-endian order. -/
def CfgItem.bytes (item : CfgItem) : Bytes := ubxPutLe32 item.key ++ item.value

/-- The items of a payload, one after the other. -/
def itemBytes (items : List CfgItem) : Bytes := items.flatMap CfgItem.bytes

/-- The complete CFG-VALSET frame with these items. -/
def valsetFrame (header : Vector UInt8 UBX_CFG_VALSET_HDR_LEN) (items : List CfgItem) : Bytes :=
  completeFrame UBX_CLASS_CFG UBX_CFG_VALSET (header.toList ++ itemBytes items)

/-- The value that the items give to INFIL_NCNOTHRS. -/
def infilValue (items : List CfgItem) : Option UInt8 :=
  (items.find? (·.key = UBX_CFGKEY_INFIL_NCNOTHRS)).bind (·.value.head?)

/-! ## Steps of five bytes -/

/-- The little-endian word in four bytes. -/
def ubxGetLe32 (k₀ k₁ k₂ k₃ : UInt8) : UInt32 :=
  k₀.toUInt32 ||| (k₁.toUInt32 <<< 8) ||| (k₂.toUInt32 <<< 16) ||| (k₃.toUInt32 <<< 24)

/-- The value given to INFIL_NCNOTHRS by bytes read in steps of five: four of the key and one of the
value. -/
def firstFive : Bytes → Option UInt8
  | k₀ :: k₁ :: k₂ :: k₃ :: val :: rest =>
    if ubxGetLe32 k₀ k₁ k₂ k₃ = UBX_CFGKEY_INFIL_NCNOTHRS then some val else firstFive rest
  | _ => none

/-- The word in the bytes that `ubx_put_le32` writes. -/
theorem ubxGetLe32_put (val : UInt32) :
    ubxGetLe32 val.toUInt8 (val >>> 8).toUInt8 (val >>> 16).toUInt8 (val >>> 24).toUInt8 = val :=
  LittleEndian.word_bytes val

theorem length_lt_five {bytes : Bytes}
    (short : ∀ k₀ k₁ k₂ k₃ val rest, bytes = k₀ :: k₁ :: k₂ :: k₃ :: val :: rest → False) :
    bytes.length < 5 := by
  by_contra long
  match bytes with
  | k₀ :: k₁ :: k₂ :: k₃ :: val :: rest => exact short _ _ _ _ _ _ rfl
  | [] | [_] | [_, _] | [_, _, _] | [_, _, _, _] => simp at long

theorem firstFive_short {bytes : Bytes} (short : bytes.length < 5) : firstFive bytes = none := by
  refine firstFive.eq_2 bytes ?_
  rintro k₀ k₁ k₂ k₃ val rest rfl
  simp only [List.length_cons] at short
  omega

/-- The loop over a buffer reads its items in steps of five bytes. -/
theorem valsetInfil_eq_firstFive (before bytes after : Bytes) (fuel : ℕ)
    (enough : bytes.length < fuel) :
    valsetInfil (before ++ bytes ++ after) (before ++ bytes).length fuel before.length =
      some (firstFive bytes) := by
  induction bytes using firstFive.induct generalizing before fuel with
  | case1 k₀ k₁ k₂ k₃ val rest found =>
    obtain ⟨fuel, rfl⟩ := Nat.exists_eq_add_one_of_ne_zero (Nat.ne_zero_of_lt enough)
    unfold valsetInfil
    unfold ubxGetLe32 at found
    simp [firstFive, ubxGetLe32, found]
  | case2 k₀ k₁ k₂ k₃ val rest other ih =>
    obtain ⟨fuel, rfl⟩ := Nat.exists_eq_add_one_of_ne_zero (Nat.ne_zero_of_lt enough)
    have next := ih (before ++ [k₀, k₁, k₂, k₃, val]) fuel (by simp at enough; omega)
    simp only [List.append_assoc, List.cons_append, List.nil_append, List.length_append,
      List.length_cons, List.length_nil] at next
    unfold valsetInfil
    unfold ubxGetLe32 at other
    simp [firstFive, ubxGetLe32, other]
    exact next
  | case3 bytes short =>
    obtain ⟨fuel, rfl⟩ := Nat.exists_eq_add_one_of_ne_zero (Nat.ne_zero_of_lt enough)
    have few := length_lt_five short
    unfold valsetInfil
    rw [if_neg (by rw [List.length_append]; omega), firstFive_short few]

/-- An item with a one-byte value takes one step. -/
theorem firstFive_item {item : CfgItem} {val : UInt8} (oneByte : item.value = [val]) (rest : Bytes) :
    firstFive (item.bytes ++ rest) =
      if item.key = UBX_CFGKEY_INFIL_NCNOTHRS then some val else firstFive rest := by
  unfold CfgItem.bytes ubxPutLe32
  simp only [oneByte, List.cons_append, List.nil_append, firstFive, ubxGetLe32_put]

/-- Items with one-byte values up to the key are read as they are. -/
theorem firstFive_itemBytes {items : List CfgItem}
    (oneByte : ∀ item ∈ items.takeWhile (·.key ≠ UBX_CFGKEY_INFIL_NCNOTHRS), item.value.length = 1) :
    firstFive (itemBytes items) = infilValue items := by
  induction items with
  | nil => rfl
  | cons item items ih =>
    have bytes : itemBytes (item :: items) = item.bytes ++ itemBytes items := List.flatMap_cons
    by_cases found : item.key = UBX_CFGKEY_INFIL_NCNOTHRS
    · have width : item.value.length = 1 := by
        have named := item.width
        rw [found] at named
        exact (Option.some.inj named).symm
      obtain ⟨val, value⟩ := List.length_eq_one_iff.1 width
      rw [bytes, firstFive_item value, if_pos found]
      simp [infilValue, found, value]
    · rw [List.takeWhile_cons_of_pos (by simpa using found)] at oneByte
      obtain ⟨val, value⟩ := List.length_eq_one_iff.1 (oneByte item List.mem_cons_self)
      rw [bytes, firstFive_item value, if_neg found,
        ih fun item mem => oneByte item (List.mem_cons_of_mem _ mem)]
      simp [infilValue, found]

/-! ## What a write is to leave -/

/-- The signal, the fix and the lock status are as a value of INFIL_NCNOTHRS asks: blocked and in
holdover for a positive one, locked for zero. -/
def Asked (d : NsimDpll) (val : UInt8) : Prop :=
  if 0 < val then d.signalBlocked = true ∧ d.gnssGpsFix = 0 ∧ d.lockStatus = .HOLDOVER
  else d.signalBlocked = false ∧ d.gnssGpsFix = 3 ∧ d.lockStatus = .LOCKED_HO_ACQ

/-- The holdover timer is as entering the state at `now` leaves it. -/
def TimerAsked (d : NsimDpll) (now : ℕ) (val : UInt8) : Prop :=
  d.holdoverTimer =
    if 0 < val then some (now + NSIM_DPLL_HOLDOVER_TIMEOUT_SEC * NSEC_PER_SEC) else none

/-- The write took `d` to `d'` as the value in the items asks, if there is one. -/
def DecodedAs (d : NsimDpll) (now : ℕ) (d' : NsimDpll) : Option UInt8 → Prop
  | some val => Asked d' val ∧ TimerAsked d' now val
  | none => d'.signalBlocked = d.signalBlocked ∧ d'.gnssGpsFix = d.gnssGpsFix ∧
      d'.lockStatus = d.lockStatus

/-- A write of the complete frame with these items decodes them key by key. -/
def DecodesItems (d : NsimDpll) (now : ℕ) (real : Timespec64)
    (header : Vector UInt8 UBX_CFG_VALSET_HDR_LEN) (items : List CfgItem) : Prop :=
  ∃ d' replies, nsimGnssWriteRaw d now real (valsetFrame header items) = some (d', replies) ∧
    DecodedAs d now d' (infilValue items)

/-- The value read in steps of five bytes is as good as the one asked for: both are zero or both are
not, or the state is the one of the value that only one of them has. -/
def ReadsAlike (d : NsimDpll) (now : ℕ) : (asked read : Option UInt8) → Prop
  | some val, some val' => 0 < val ↔ 0 < val'
  | some val, none => Asked d val ∧ TimerAsked d now val
  | none, some val' => Asked d val'
  | none, none => True

instance (d : NsimDpll) (val : UInt8) : Decidable (Asked d val) := by
  unfold Asked
  infer_instance

instance (d : NsimDpll) (now : ℕ) (val : UInt8) : Decidable (TimerAsked d now val) :=
  inferInstanceAs (Decidable (_ = _))

/-! ## The write -/

section Write

variable {d d' : NsimDpll} {now : ℕ} {real : Timespec64} {val : UInt8}

/-- The end of a payload stands between the header of the frame with the rest of the payload and the
checksum. -/
theorem completeFrame_split (cls id : UInt8) (front back : Bytes) :
    ∃ before after : Bytes, before.length = UBX_HDR_LEN + front.length ∧ after.length = UBX_CK_LEN ∧
      completeFrame cls id (front ++ back) = before ++ back ++ after := by
  let size := (front ++ back).length
  let body := cls :: id :: UInt8.ofNat size :: UInt8.ofNat (size / 256) :: (front ++ back)
  refine ⟨UBX_SYNC1 :: UBX_SYNC2 :: cls :: id :: UInt8.ofNat size :: UInt8.ofNat (size / 256) :: front,
    [(ubxChecksum body).1, (ubxChecksum body).2], ?_, rfl, ?_⟩
  · simp only [List.length_cons, UBX_HDR_LEN]
    omega
  · simp only [completeFrame, List.cons_append, List.append_assoc]
    rfl

/-- A CFG-VALSET frame sets what its items, read in steps of five bytes, give to INFIL_NCNOTHRS. -/
theorem nsimGnssWriteRaw_valsetFrame (header : Vector UInt8 UBX_CFG_VALSET_HDR_LEN) (bytes : Bytes) :
    ∃ replies, nsimGnssWriteRaw d now real
        (completeFrame UBX_CLASS_CFG UBX_CFG_VALSET (header.toList ++ bytes)) =
      some (afterRead d now (firstFive bytes), replies) := by
  let frame := completeFrame UBX_CLASS_CFG UBX_CFG_VALSET (header.toList ++ bytes)
  have length : frame.length = 12 + bytes.length := by
    rw [length_completeFrame, List.length_append, Vector.length_toList]
    unfold UBX_OVERHEAD UBX_HDR_LEN UBX_CK_LEN UBX_CFG_VALSET_HDR_LEN
    omega
  obtain ⟨before, after, tenBytes, twoBytes, split⟩ :=
    completeFrame_split UBX_CLASS_CFG UBX_CFG_VALSET header.toList bytes
  rw [Vector.length_toList] at tenBytes
  show ∃ replies, nsimGnssWriteRaw d now real frame = _
  by_cases item : UBX_HDR_LEN + UBX_CFG_VALSET_HDR_LEN + 5 ≤ frame.length
  · have scan : frameInfil frame = some (firstFive bytes) := by
      have loop := valsetInfil_eq_firstFive before bytes after (frame.length + 1) (by omega)
      rw [← split, tenBytes, List.length_append, tenBytes] at loop
      unfold frameInfil
      rw [show frame.length - UBX_CK_LEN = UBX_HDR_LEN + UBX_CFG_VALSET_HDR_LEN + bytes.length by
        unfold UBX_CK_LEN UBX_HDR_LEN UBX_CFG_VALSET_HDR_LEN
        omega]
      exact loop
    exact ⟨_, nsimGnssWriteRaw_isValset ⟨item, rfl, rfl, rfl, rfl⟩ scan⟩
  · -- too short for an item, and not acknowledged
    unfold UBX_HDR_LEN UBX_CFG_VALSET_HDR_LEN at item
    rw [firstFive_short (by omega)]
    refine ⟨[], ?_⟩
    have header : HasHeader frame UBX_CLASS_CFG UBX_CFG_VALSET := ⟨rfl, rfl, rfl, rfl⟩
    rw [nsimGnssWriteRaw_of_header (by unfold UBX_HDR_LEN; omega) header]
    unfold ubxFrame ubxCfg
    rw [if_neg (by decide), if_pos rfl]
    dsimp only
    rw [if_neg (fun msg => absurd msg.1 (by decide)), if_neg (fun valset => item valset.2),
      if_neg (by decide)]
    rfl

theorem applyInfil_asked (d : NsimDpll) (now : ℕ) (val : UInt8) :
    Asked (applyInfil d now val) val ∧ TimerAsked (applyInfil d now val) now val := by
  unfold Asked TimerAsked applyInfil
  split_ifs
  · rw [nsimDpllEnterHoldover_eq]
    simp
  · rw [nsimDpllEnterLocked_eq]
    simp

/-- Only the sign of a value matters. -/
theorem asked_congr {val' : UInt8} (same : 0 < val ↔ 0 < val') : Asked d val ↔ Asked d val' := by
  unfold Asked
  simp only [same]

theorem timerAsked_congr {val' : UInt8} (same : 0 < val ↔ 0 < val') :
    TimerAsked d now val ↔ TimerAsked d now val' := by
  unfold TimerAsked
  simp only [same]

/-- Values of different sign ask for different states. -/
theorem asked_sign {val' : UInt8} (asked : Asked d val) (asked' : Asked d val') :
    0 < val ↔ 0 < val' := by
  unfold Asked at asked asked'
  split_ifs at asked asked' with first second second
  · exact iff_of_true first second
  · exact absurd (asked.1.symm.trans asked'.1) (by decide)
  · exact absurd (asked.1.symm.trans asked'.1) (by decide)
  · exact iff_of_false first second

theorem decodedAs_none (asked : Asked d' val) : DecodedAs d now d' none ↔ Asked d val := by
  unfold DecodedAs Asked at *
  split_ifs at asked ⊢
  all_goals
    rw [asked.1, asked.2.1, asked.2.2]
    simp only [eq_comm]

theorem decodesItems_iff_decodedAs {header : Vector UInt8 UBX_CFG_VALSET_HDR_LEN}
    {items : List CfgItem} : DecodesItems d now real header items ↔
      DecodedAs d now (afterRead d now (firstFive (itemBytes items))) (infilValue items) := by
  obtain ⟨replies, write⟩ := @nsimGnssWriteRaw_valsetFrame d now real header (itemBytes items)
  unfold DecodesItems valsetFrame
  rw [write]
  constructor
  · rintro ⟨d', _, ok, decoded⟩
    injection ok with eq
    injection eq with state
    exact state ▸ decoded
  · intro decoded
    exact ⟨_, _, rfl, decoded⟩

/-- Frames whose items have one-byte values up to the key are decoded. -/
theorem decodesItems_of_oneByte {header : Vector UInt8 UBX_CFG_VALSET_HDR_LEN} {items : List CfgItem}
    (oneByte : ∀ item ∈ items.takeWhile (·.key ≠ UBX_CFGKEY_INFIL_NCNOTHRS), item.value.length = 1) :
    DecodesItems d now real header items := by
  rw [decodesItems_iff_decodedAs, firstFive_itemBytes oneByte]
  cases infilValue items with
  | some val => exact applyInfil_asked d now val
  | none => exact ⟨rfl, rfl, rfl⟩

/-- What the write leaves is what the items ask exactly if steps of five bytes read them alike. -/
theorem decodes_items_iff (d : NsimDpll) (now : ℕ) (real : Timespec64)
    (header : Vector UInt8 UBX_CFG_VALSET_HDR_LEN) (items : List CfgItem) :
    DecodesItems d now real header items ↔
      ReadsAlike d now (infilValue items) (firstFive (itemBytes items)) := by
  rw [decodesItems_iff_decodedAs]
  cases infilValue items with
  | some val =>
    cases firstFive (itemBytes items) with
    | some val' =>
      obtain ⟨asked, timer⟩ := applyInfil_asked d now val'
      constructor
      · intro decoded
        exact asked_sign decoded.1 asked
      · intro same
        exact ⟨(asked_congr same).2 asked, (timerAsked_congr same).2 timer⟩
    | none => exact Iff.rfl
  | none =>
    cases firstFive (itemBytes items) with
    | some val' => exact decodedAs_none (applyInfil_asked d now val').1
    | none => exact iff_of_true ⟨rfl, rfl, rfl⟩ trivial

/-- The rate of measurements, 1000 ms in two bytes, and then the threshold. -/
def rateAndThreshold : List CfgItem :=
  [⟨0x30210001, [0xE8, 0x03], by decide⟩, ⟨UBX_CFGKEY_INFIL_NCNOTHRS, [50], by decide⟩]

/-- The key after a two-byte value is missed. -/
theorem valset_misses_key : ¬∀ d now real header items, items ≠ [] →
    items.countP (·.key = UBX_CFGKEY_INFIL_NCNOTHRS) ≤ 1 → DecodesItems d now real header items := by
  intro always
  have decoded := decodesItems_iff_decodedAs.1
    (always (NsimDpll.started 0) 1 ⟨0, 0⟩ #v[0, 1, 0, 0] rateAndThreshold (by decide) (by decide))
  have asked : Asked (NsimDpll.started 0) 50 := decoded.1
  exact absurd asked (by decide)

end Write

end Netdevsim
