import Netdevsim.Dpll.Ubx
import Netdevsim.Lib.FixedWidth
import Netdevsim.Lib.Framing
import Netdevsim.Lib.Store

/-!
# UBX frames, written and read back

`ubx_build_frame` with the buffer it writes to (`ubxBuildFrameIn`), and the parser that the tests of
the driver read its replies with (`parseFrom`).  What is built are complete frames, and the parser
gets them back.
-/

namespace Netdevsim

open Store

/-! ## The builder and its buffer -/

/-- The `memcpy` of the payload.  The payload is the memory at a pointer, `none` for `NULL`. -/
def copyPayload (buf : Bytes) (payload : Option Bytes) (payloadLen : UInt16) : Bytes :=
  match payload with
  | some memory =>
    if 0 < payloadLen then storeFrom buf UBX_HDR_LEN (memory.take payloadLen.toNat) else buf
  | none => buf

/-- `ubx_build_frame`: what it returns and what it leaves in the buffer. -/
def ubxBuildFrameIn (buf : Bytes) (bufsz : UInt64) (cls id : UInt8) (payload : Option Bytes)
    (payloadLen : UInt16) : Except Errno ℕ × Bytes :=
  let total := UBX_OVERHEAD + payloadLen.toNat
  -- the size is compared as an `int`
  if bufsz.toUInt32.toInt32.toInt < total then (.error .ENOSPC, buf)
  else
    let buf := storeFrom buf 0
      [UBX_SYNC1, UBX_SYNC2, cls, id, payloadLen.toUInt8, (payloadLen >>> 8).toUInt8]
    let buf := copyPayload buf payload payloadLen
    let ck := ubxChecksum ((buf.drop 2).take (4 + payloadLen.toNat))
    (.ok total, storeFrom buf (UBX_HDR_LEN + payloadLen.toNat) [ck.1, ck.2])

/-- The pointer leads to these bytes, or is `NULL` if there are none. -/
def PointsTo (payload : Option Bytes) (bytes : Bytes) : Prop :=
  match payload with
  | some memory => bytes <+: memory
  | none => bytes = []

section Builder

variable {buf bytes : Bytes} {bufsz : UInt64} {cls id : UInt8} {payload : Option Bytes}
  {payloadLen : UInt16}

theorem copyPayload_append {header old after : Bytes} (points : PointsTo payload bytes)
    (len : bytes.length = payloadLen.toNat) (six : header.length = UBX_HDR_LEN)
    (same : old.length = bytes.length) :
    copyPayload (header ++ (old ++ after)) payload payloadLen = header ++ (bytes ++ after) := by
  cases payload with
  | none =>
    obtain rfl : bytes = [] := points
    obtain rfl := List.length_eq_zero_iff.1 same
    rfl
  | some memory =>
    obtain ⟨more, rfl⟩ := points
    unfold copyPayload
    dsimp only
    by_cases some : 0 < payloadLen
    · rw [if_pos some, ← len, List.take_left, ← six]
      exact storeFrom_append header old _ bytes same
    · have none : bytes.length = 0 := by
        rw [UInt16.lt_iff_toNat_lt, UInt16.toNat_zero] at some
        omega
      rw [none] at same
      obtain rfl := List.length_eq_zero_iff.1 none
      obtain rfl := List.length_eq_zero_iff.1 same
      rw [if_neg some]

/-- Below `2 ^ 31` a size is the same as an `int`. -/
theorem toInt_size (small : bufsz.toNat < 2 ^ 31) : bufsz.toUInt32.toInt32.toInt = bufsz.toNat := by
  have word : bufsz.toUInt32.toNat = bufsz.toNat := by
    rw [UInt64.toNat_toUInt32]
    exact Nat.mod_eq_of_lt (by omega)
  rw [FixedWidth.toInt_toInt32, word, Int.bmod_eq_iff (by decide)]
  omega

theorem length_high (payloadLen : UInt16) :
    (payloadLen >>> 8).toUInt8 = UInt8.ofNat (payloadLen.toNat / 256) := by
  rw [← UInt8.toNat_inj, UInt16.toNat_toUInt8, UInt16.toNat_shiftRight, UInt8.toNat_ofNat',
    Nat.shiftRight_eq_div_pow]
  rfl

/-- A buffer that is large enough gets the complete frame, and keeps what is behind it. -/
theorem ubxBuildFrameIn_ok (points : PointsTo payload bytes) (len : bytes.length = payloadLen.toNat)
    (fits : UBX_OVERHEAD + payloadLen.toNat ≤ buf.length)
    (enough : (UBX_OVERHEAD + payloadLen.toNat : ℕ) ≤ bufsz.toUInt32.toInt32.toInt) :
    ubxBuildFrameIn buf bufsz cls id payload payloadLen =
      (.ok (UBX_OVERHEAD + payloadLen.toNat), completeFrame cls id bytes ++
        buf.drop (UBX_OVERHEAD + payloadLen.toNat)) := by
  let header := [UBX_SYNC1, UBX_SYNC2, cls, id, payloadLen.toUInt8, (payloadLen >>> 8).toUInt8]
  let body := cls :: id :: UInt8.ofNat bytes.length :: UInt8.ofNat (bytes.length / 256) :: bytes
  have overhead : UBX_OVERHEAD = 8 := rfl
  obtain ⟨b₀, b₁, b₂, tail, rfl, six, mid, two⟩ : ∃ b₀ b₁ b₂ tail : Bytes,
      buf = b₀ ++ (b₁ ++ (b₂ ++ tail)) ∧ b₀.length = 6 ∧ b₁.length = bytes.length ∧
        b₂.length = 2 := by
    refine ⟨buf.take 6, (buf.drop 6).take bytes.length, ((buf.drop 6).drop bytes.length).take 2,
      ((buf.drop 6).drop bytes.length).drop 2, ?_, ?_, ?_, ?_⟩
    · rw [List.take_append_drop, List.take_append_drop, List.take_append_drop]
    all_goals
      simp only [List.length_take, List.length_drop]
      omega
  have stored : storeFrom (b₀ ++ (b₁ ++ (b₂ ++ tail))) 0 header =
      header ++ (b₁ ++ (b₂ ++ tail)) := storeFrom_append [] b₀ _ header six
  have copied : copyPayload (header ++ (b₁ ++ (b₂ ++ tail))) payload payloadLen =
      header ++ (bytes ++ (b₂ ++ tail)) := copyPayload_append points len rfl mid
  have start : header ++ (bytes ++ (b₂ ++ tail)) =
      [UBX_SYNC1, UBX_SYNC2] ++ (body ++ (b₂ ++ tail)) := by
    have low : payloadLen.toUInt8 = UInt8.ofNat bytes.length := len ▸ rfl
    have high : (payloadLen >>> 8).toUInt8 = UInt8.ofNat (bytes.length / 256) :=
      len ▸ length_high payloadLen
    simp only [header, body, low, high, List.cons_append, List.nil_append]
  have sum : (([UBX_SYNC1, UBX_SYNC2] ++ (body ++ (b₂ ++ tail))).drop 2).take
      (4 + payloadLen.toNat) = body := by
    have size : body.length = 4 + payloadLen.toNat := by
      simp only [body, List.length_cons]
      omega
    rw [← size]
    exact List.take_left
  have kept : (b₀ ++ (b₁ ++ (b₂ ++ tail))).drop (UBX_OVERHEAD + payloadLen.toNat) = tail := by
    have size : UBX_OVERHEAD + payloadLen.toNat = (b₀ ++ (b₁ ++ b₂)).length := by
      simp only [List.length_append]
      omega
    have front : b₀ ++ (b₁ ++ (b₂ ++ tail)) = b₀ ++ (b₁ ++ b₂) ++ tail := by
      simp only [List.append_assoc]
    rw [size, front]
    exact List.drop_left
  have last := storeFrom_append ([UBX_SYNC1, UBX_SYNC2] ++ body) b₂ tail
    [(ubxChecksum body).1, (ubxChecksum body).2] two
  have at' : ([UBX_SYNC1, UBX_SYNC2] ++ body).length = UBX_HDR_LEN + payloadLen.toNat := by
    simp only [body, List.length_append, List.length_cons, List.length_nil, UBX_HDR_LEN]
    omega
  rw [at', List.append_assoc] at last
  unfold ubxBuildFrameIn
  dsimp only
  rw [if_neg (by omega), stored, copied, start, sum, last, kept]
  simp only [completeFrame, body, List.cons_append, List.nil_append, List.append_assoc]

/-- A size that is too small as an `int` is refused, and the buffer stays as it was. -/
theorem ubxBuildFrameIn_error
    (small : bufsz.toUInt32.toInt32.toInt < (UBX_OVERHEAD + payloadLen.toNat : ℕ)) :
    ubxBuildFrameIn buf bufsz cls id payload payloadLen = (.error .ENOSPC, buf) := if_pos small

end Builder

/-! ## The checksum -/

/-- The 8-bit Fletcher checksum: the sum of the bytes and the sum of its partial sums. -/
def fletcher8 (data : Bytes) : ℕ × ℕ :=
  ((data.map UInt8.toNat).sum % 256,
    ((List.range data.length).map fun k => ((data.take (k + 1)).map UInt8.toNat).sum).sum % 256)

/-- `ubx_checksum` computes the Fletcher checksum. -/
theorem ubxChecksum_eq (data : Bytes) :
    ((ubxChecksum data).1.toNat, (ubxChecksum data).2.toNat) = fletcher8 data := by
  induction data using List.reverseRecOn with
  | nil => rfl
  | append_singleton data x ih =>
    have next : ubxChecksum (data ++ [x]) =
        ((ubxChecksum data).1 + x, (ubxChecksum data).2 + ((ubxChecksum data).1 + x)) := by
      rw [ubxChecksum, List.foldl_append]
      rfl
    have earlier : ((List.range data.length).map fun k =>
          (((data ++ [x]).take (k + 1)).map UInt8.toNat).sum) =
        (List.range data.length).map fun k => ((data.take (k + 1)).map UInt8.toNat).sum := by
      refine List.map_congr_left fun k mem => ?_
      rw [List.take_append_of_le_length (List.mem_range.1 mem)]
    have whole : (data ++ [x]).take (data.length + 1) = data ++ [x] :=
      List.take_of_length_le (by simp)
    obtain ⟨sumA, sumB⟩ := Prod.mk.inj ih
    rw [next]
    simp only [fletcher8, List.length_append, List.length_singleton, List.range_succ,
      List.map_append, List.map_singleton, List.sum_append, List.sum_singleton, earlier, whole,
      UInt8.toNat_add, sumA, sumB, Prod.mk.injEq]
    omega

/-! ## The parser of the tests -/

/-- A message, of a length that fits the length field of its frame. -/
structure UbxFrame where
  cls : UInt8
  id : UInt8
  payload : Bytes
  fits : payload.length < 2 ^ 16

def UbxFrame.bytes (f : UbxFrame) : Bytes := completeFrame f.cls f.id f.payload

/-- What the parser returns of a frame. -/
structure ParsedFrame where
  cls : UInt8
  id : UInt8
  payload : Bytes
  len : ℕ
  deriving DecidableEq, Repr

def UbxFrame.parsed (f : UbxFrame) : ParsedFrame := ⟨f.cls, f.id, f.payload, f.payload.length⟩

/-- `parse` of the tests, from the index `i` on. -/
def parseFrom (data : Bytes) : (fuel i : ℕ) → List ParsedFrame
  | 0, _ => []
  | fuel + 1, i =>
    if i + 8 ≤ data.length then
      if data[i]? = some UBX_SYNC1 ∧ data[i + 1]? = some UBX_SYNC2 then
        let plen := (data.getD (i + 4) 0).toNat ||| (data.getD (i + 5) 0).toNat <<< 8
        if i + (6 + plen + 2) ≤ data.length then
          ⟨data.getD (i + 2) 0, data.getD (i + 3) 0, (data.drop (i + 6)).take plen, plen⟩ ::
            parseFrom data fuel (i + (6 + plen + 2))
        else parseFrom data fuel (i + 1)
      else parseFrom data fuel (i + 1)
    else []

/-- `parse` of the tests. -/
def parse (data : Bytes) : List ParsedFrame := parseFrom data (data.length + 1) 0

/-- The length in a frame. -/
def frameLength (bytes : Bytes) : ℕ := (bytes.getD 4 0).toNat ||| (bytes.getD 5 0).toNat <<< 8

/-- The frame at the start of the bytes. -/
def ubxDecode (bytes : Bytes) : Option (ParsedFrame × Bytes) :=
  let plen := frameLength bytes
  if (bytes[0]? = some UBX_SYNC1 ∧ bytes[1]? = some UBX_SYNC2) ∧ 6 + plen + 2 ≤ bytes.length then
    some (⟨bytes.getD 2 0, bytes.getD 3 0, (bytes.drop 6).take plen, plen⟩,
      bytes.drop (6 + plen + 2))
  else none

section Parser

theorem frameLength_put {n : ℕ} (small : n < 2 ^ 16) :
    (UInt8.ofNat n).toNat ||| (UInt8.ofNat (n / 256)).toNat <<< 8 = n := by
  have low : (UInt8.ofNat n).toNat < 2 ^ 8 := UInt8.toNat_lt _
  rw [Nat.or_comm, ← Nat.shiftLeft_add_eq_or_of_lt low, Nat.shiftLeft_eq, UInt8.toNat_ofNat',
    UInt8.toNat_ofNat']
  omega

theorem frameLength_bytes (f : UbxFrame) (rest : Bytes) :
    frameLength (f.bytes ++ rest) = f.payload.length := frameLength_put f.fits

theorem length_bytes (f : UbxFrame) : f.bytes.length = 8 + f.payload.length :=
  length_completeFrame f.cls f.id f.payload

/-- A complete frame is read back whatever follows it. -/
theorem ubxDecode_bytes (f : UbxFrame) (rest : Bytes) :
    ubxDecode (f.bytes ++ rest) = some (f.parsed, rest) := by
  have length := frameLength_bytes f rest
  have size := length_bytes f
  have whole : (f.bytes ++ rest).drop (6 + f.payload.length + 2) = rest := by
    rw [show 6 + f.payload.length + 2 = f.bytes.length by omega]
    exact List.drop_left
  have payload : ((f.bytes ++ rest).drop 6).take f.payload.length = f.payload := by
    have behind : (f.bytes ++ rest).drop 6 =
        f.payload ++ (f.bytes.drop (6 + f.payload.length) ++ rest) := by
      simp [UbxFrame.bytes, completeFrame, ← List.drop_drop]
    rw [behind]
    exact List.take_left
  unfold ubxDecode
  rw [length]
  dsimp only
  rw [if_pos ⟨⟨rfl, rfl⟩, by rw [List.length_append]; omega⟩, payload, whole]
  rfl

/-- Frames as a code. -/
def ubxCode : Framing.Code UbxFrame UInt8 ParsedFrame where
  encode := UbxFrame.bytes
  meaning := UbxFrame.parsed
  decode := ubxDecode
  encode_ne_nil _ := List.cons_ne_nil _ _
  decode_encode := ubxDecode_bytes

theorem ubxDecode_short {bytes : Bytes} (short : bytes.length < 8) : ubxDecode bytes = none := by
  unfold ubxDecode
  dsimp only
  rw [if_neg fun frame => ?_]
  have := frame.2
  omega

/-- The parser finds the frames one after the other. -/
theorem parseFrom_eq (before rest : Bytes) (fuel : ℕ) :
    parseFrom (before ++ rest) fuel before.length = Framing.scan ubxDecode fuel rest := by
  induction fuel generalizing before rest with
  | zero => rfl
  | succ fuel ih =>
    have size : (before ++ rest).length = before.length + rest.length := List.length_append
    have at' : ∀ k, (before ++ rest)[before.length + k]? = rest[k]? := fun k => by
      rw [List.getElem?_append_right (by omega), Nat.add_sub_cancel_left]
    have read : ∀ k, (before ++ rest).getD (before.length + k) 0 = rest.getD k 0 := fun k => by
      rw [List.getD_eq_getElem?_getD, List.getD_eq_getElem?_getD, at']
    by_cases long : 8 ≤ rest.length
    · have skip : parseFrom (before ++ rest) fuel (before.length + 1) =
          Framing.scan ubxDecode fuel (rest.drop 1) := by
        have moved := ih (before ++ rest.take 1) (rest.drop 1)
        have one : (before ++ rest.take 1).length = before.length + 1 := by
          rw [List.length_append, List.length_take]
          omega
        rwa [List.append_assoc, List.take_append_drop, one] at moved
      obtain ⟨x, xs, rfl⟩ := List.exists_cons_of_length_pos (by omega : 0 < rest.length)
      rw [parseFrom, if_pos (by omega), Framing.scan, ubxDecode]
      have zero := at' 0
      rw [Nat.add_zero] at zero
      rw [zero, at' 1, read 2, read 3, read 4, read 5, List.drop_length_add_append]
      have length : ((x :: xs).getD 4 0).toNat ||| ((x :: xs).getD 5 0).toNat <<< 8 =
          frameLength (x :: xs) := rfl
      dsimp only
      rw [length]
      by_cases sync : (x :: xs)[0]? = some UBX_SYNC1 ∧ (x :: xs)[1]? = some UBX_SYNC2
      · rw [if_pos sync]
        generalize frameLength (x :: xs) = plen
        by_cases complete : 6 + plen + 2 ≤ (x :: xs).length
        · have moved := ih (before ++ (x :: xs).take (6 + plen + 2)) ((x :: xs).drop (6 + plen + 2))
          have behind : (before ++ (x :: xs).take (6 + plen + 2)).length =
              before.length + (6 + plen + 2) := by
            rw [List.length_append, List.length_take]
            omega
          rw [List.append_assoc, List.take_append_drop, behind] at moved
          rw [if_pos (by omega), if_pos ⟨sync, complete⟩, moved]
        · rw [if_neg (by omega), if_neg fun frame => complete frame.2]
          exact skip
      · rw [if_neg sync, if_neg fun frame => sync frame.1]
        exact skip
    · rw [parseFrom, if_neg (by omega), Framing.scan_eq_nil]
      intro rest' suffix
      have := suffix.length_le
      exact ubxDecode_short (by omega)

/-- The parser gets back the frames of a stream. -/
theorem parse_flatMap (frames : List UbxFrame) :
    parse (frames.flatMap UbxFrame.bytes) = frames.map UbxFrame.parsed := by
  have scanned := parseFrom_eq [] (frames.flatMap UbxFrame.bytes)
    ((frames.flatMap UbxFrame.bytes).length + 1)
  exact scanned.trans (ubxCode.scan_flatMap frames _ (Nat.lt_succ_self _))

end Parser

/-! ## Frames built and parsed -/

/-- A call of `ubx_build_frame`, with a buffer of the given size. -/
structure BuildCall where
  frame : UbxFrame
  payload : Option Bytes
  buf : Bytes
  bufsz : UInt64
  points : PointsTo payload frame.payload
  size : buf.length = bufsz.toNat

namespace BuildCall

def built (c : BuildCall) : Except Errno ℕ × Bytes :=
  ubxBuildFrameIn c.buf c.bufsz c.frame.cls c.frame.id c.payload
    (UInt16.ofNat c.frame.payload.length)

/-- The part of the buffer that the returned length covers. -/
def output (c : BuildCall) : Bytes :=
  match c.built with
  | (.ok total, buf) => buf.take total
  | (.error _, _) => []

variable (c : BuildCall)

theorem payloadLen : (UInt16.ofNat c.frame.payload.length).toNat = c.frame.payload.length := by
  rw [UInt16.toNat_ofNat']
  exact Nat.mod_eq_of_lt c.frame.fits

/-- A size is never less than what it is as an `int`. -/
theorem toInt_le_size : c.bufsz.toUInt32.toInt32.toInt ≤ c.bufsz.toNat := by
  have word : c.bufsz.toUInt32.toNat ≤ c.bufsz.toNat := by
    rw [UInt64.toNat_toUInt32]
    exact Nat.mod_le _ _
  have short := c.bufsz.toUInt32.toNat_lt
  rw [FixedWidth.toInt_toInt32, Int.bmod_def]
  split_ifs <;> omega

theorem built_error (small : c.bufsz.toUInt32.toInt32.toInt <
    (UBX_OVERHEAD + c.frame.payload.length : ℕ)) : c.built = (.error .ENOSPC, c.buf) := by
  refine ubxBuildFrameIn_error ?_
  rw [c.payloadLen]
  exact small

theorem built_ok (enough : (UBX_OVERHEAD + c.frame.payload.length : ℕ) ≤
    c.bufsz.toUInt32.toInt32.toInt) :
    c.built = (.ok (UBX_OVERHEAD + c.frame.payload.length),
      c.frame.bytes ++ c.buf.drop (UBX_OVERHEAD + c.frame.payload.length)) := by
  have len := c.payloadLen
  have fits := c.toInt_le_size
  have size := c.size
  unfold built
  rw [ubxBuildFrameIn_ok c.points len.symm (by omega) (by omega), len]
  rfl

/-- Into a buffer that is large enough goes the frame. -/
theorem output_eq (enough : UBX_OVERHEAD + c.frame.payload.length ≤ c.bufsz.toNat)
    (small : c.bufsz.toNat < 2 ^ 31) : c.output = c.frame.bytes := by
  have int := toInt_size small
  have length : UBX_OVERHEAD + c.frame.payload.length = c.frame.bytes.length :=
    (length_bytes c.frame).symm
  unfold output
  rw [c.built_ok (by omega)]
  dsimp only
  rw [length]
  exact List.take_left

end BuildCall

/-- What the checksum of a frame is over. -/
def UbxFrame.summed (f : UbxFrame) : Bytes :=
  f.cls :: f.id :: UInt8.ofNat f.payload.length :: UInt8.ofNat (f.payload.length / 256) :: f.payload

theorem UbxFrame.bytes_eq (f : UbxFrame) :
    f.bytes = [UBX_SYNC1, UBX_SYNC2] ++ f.summed ++
      [(ubxChecksum f.summed).1, (ubxChecksum f.summed).2] := rfl

/-- Frames that are built and sent one after the other come out of the parser as they went in, each
with its Fletcher checksum at the end.  A frame is refused exactly if the size of the buffer is too
small as an `int`, which is the size itself below `2 ^ 31`.  A frame that is refused leaves the buffer
as it was, and any other overwrites just as much as it is long. -/
theorem ubx_framing_round_trip :
    (∀ calls : List BuildCall,
      (∀ c ∈ calls, UBX_OVERHEAD + c.frame.payload.length ≤ c.bufsz.toNat ∧
        c.bufsz.toNat < 2 ^ 31) →
      parse (calls.flatMap BuildCall.output) = calls.map (·.frame.parsed) ∧
      ∀ c ∈ calls, ∃ ckA ckB,
        c.output = [UBX_SYNC1, UBX_SYNC2] ++ c.frame.summed ++ [ckA, ckB] ∧
        (ckA.toNat, ckB.toNat) = fletcher8 c.frame.summed) ∧
    ∀ c : BuildCall,
      (c.built = (.error .ENOSPC, c.buf) ↔
        c.bufsz.toUInt32.toInt32.toInt < (UBX_OVERHEAD + c.frame.payload.length : ℕ)) ∧
      (c.bufsz.toNat < 2 ^ 31 → c.bufsz.toUInt32.toInt32.toInt = c.bufsz.toNat) ∧
      (c.built ≠ (.error .ENOSPC, c.buf) →
        c.built = (.ok (UBX_OVERHEAD + c.frame.payload.length),
          c.frame.bytes ++ c.buf.drop (UBX_OVERHEAD + c.frame.payload.length)) ∧
        UBX_OVERHEAD + c.frame.payload.length ≤ c.buf.length) := by
  constructor
  · intro calls large
    have sent : ∀ c ∈ calls, c.output = c.frame.bytes := fun c mem =>
      c.output_eq (large c mem).1 (large c mem).2
    constructor
    · have stream : calls.flatMap BuildCall.output =
          (calls.map BuildCall.frame).flatMap UbxFrame.bytes := by
        rw [List.flatMap_map]
        exact List.flatMap_congr sent
      rw [stream, parse_flatMap, List.map_map]
      rfl
    · intro c mem
      exact ⟨_, _, (sent c mem).trans c.frame.bytes_eq, ubxChecksum_eq _⟩
  · intro c
    by_cases small : c.bufsz.toUInt32.toInt32.toInt < (UBX_OVERHEAD + c.frame.payload.length : ℕ)
    · have refused := c.built_error small
      exact ⟨⟨fun _ => small, fun _ => refused⟩, toInt_size, fun other => absurd refused other⟩
    · have done := c.built_ok (not_lt.1 small)
      have size := c.size
      have fits := c.toInt_le_size
      have sent : c.built ≠ (.error .ENOSPC, c.buf) := by
        rw [done]
        exact fun eq => nomatch congrArg Prod.fst eq
      exact ⟨⟨fun refused => absurd refused sent, fun less => absurd less small⟩, toInt_size,
        fun _ => ⟨done, by omega⟩⟩

/-- A frame without payload, and one whose payload looks like the start of another. -/
theorem ubx_framing_round_trip_two :
    let calls : List BuildCall :=
      [⟨⟨0x0A, 0x04, [], by decide⟩, none, List.replicate 8 0, 8, rfl, rfl⟩,
        ⟨⟨0x06, 0x01, [0xB5, 0x62], by decide⟩, some [0xB5, 0x62], List.replicate 78 0, 78,
          List.prefix_rfl, rfl⟩]
    parse (calls.flatMap BuildCall.output) =
      [⟨0x0A, 0x04, [], 0⟩, ⟨0x06, 0x01, [0xB5, 0x62], 2⟩] := by
  intro calls
  have large : ∀ c ∈ calls, UBX_OVERHEAD + c.frame.payload.length ≤ c.bufsz.toNat ∧
      c.bufsz.toNat < 2 ^ 31 := by
    simp only [calls, List.forall_mem_cons]
    decide
  exact (ubx_framing_round_trip.1 calls large).1

/-- Into a buffer of `2 ^ 31` bytes no frame is built, not even one without payload. -/
theorem ubx_build_frame_refused :
    ¬∀ c : BuildCall, c.built = (.error .ENOSPC, c.buf) ↔
      c.bufsz.toNat < UBX_OVERHEAD + c.frame.payload.length := by
  intro claim
  let c : BuildCall := ⟨⟨UBX_CLASS_MON, UBX_MON_VER, [], by decide⟩, none,
    List.replicate (2 ^ 31) 0, UInt64.ofNat (2 ^ 31), rfl, List.length_replicate⟩
  have small := (claim c).1 (c.built_error (by decide))
  exact absurd small (by decide)

end Netdevsim
