import Netdevsim.Bus.NewDevice
import Netdevsim.ScanWords

/-!
# What is read of a line

A line written to `new_device` consists of the digits of an id and of up to five more words.  The
driver reads the word of the PCI address into a buffer of 32 bytes without a limit, and reads the
address and the numbers with `sscanf`, which leaves what it cannot read: text behind an address or a
number is not looked at, a prefix `0x` is skipped, large numbers wrap and a field that is no number
counts as omitted, with all behind it.
-/

namespace Netdevsim.Bus

/-! ## The text of a line -/

/-- The digits of the id. -/
def idDigits (buf : Bytes) : Bytes := (skipSpaces (cstr buf)).takeWhile (isDigitOf 10)

def behindId (buf : Bytes) : Bytes := (skipSpaces (cstr buf)).dropWhile (isDigitOf 10)

/-- The text from a field on. -/
def fromField (buf : Bytes) (k : ℕ) : Bytes := afterWord^[k] (behindId buf)

/-- The words behind the id: the PCI address, the id of the clock, the numbers of ports and queues
and `wpc`.  A field that the line omits is empty. -/
def lineField (buf : Bytes) (k : ℕ) : Bytes := nextWord (fromField buf k)

/-- The word of the PCI address, or its default. -/
def addrWord (buf : Bytes) : Bytes :=
  if lineField buf 0 = [] then defaultPciAddr else lineField buf 0

/-- The field is a number that the variable has, or is omitted. -/
def IntText (w : Bytes) : Prop := w ≠ [] → ∃ v : Int32, intNumeral w = some v.toInt

def NatText (w : Bytes) : Prop := w ≠ [] → ∃ v : UInt32, numeral 10 w = some v.toNat

/-- The word has no prefix `0x`, and at most one character behind its full stop. -/
def PlainAddr (w : Bytes) : Prop :=
  (∀ c ∈ w, tolower c ≠ 120) ∧ (w.dropWhile (· ≠ 46)).length ≤ 2

/-- The word is the address in the form `dddd:bb:dd.f`, of whose parts leading zeros may be left
out. -/
def AddrText (w : Bytes) (addr : PciAddr) : Prop :=
  ∃ d b v f : Bytes, w = d ++ 58 :: (b ++ 58 :: (v ++ 46 :: f)) ∧
    (d.length ≤ 4 ∧ numeral 16 d = some addr.domain.toNat) ∧
    (b.length ≤ 2 ∧ numeral 16 b = some addr.bus.toNat) ∧
    (v.length ≤ 2 ∧ numeral 16 v = some addr.device.toNat) ∧
    f.length ≤ 1 ∧ numeral 16 f = some addr.function.toNat

/-- The word begins with the parts of an address as `sscanf` takes them, of these values. -/
def ReadAsAddr (w : Bytes) (domain bus device function : ℕ) : Prop :=
  ∃ d b v f rest : Bytes, w = d ++ 58 :: (b ++ 58 :: (v ++ 46 :: (f ++ rest))) ∧
    HexField 4 d domain ∧ HexField 2 b bus ∧ HexField 2 v device ∧ HexField 1 f function

/-- The word begins with parts of an address that are within their ranges. -/
def BeginsWithAddr (w : Bytes) : Prop :=
  ∃ domain bus device function, ReadAsAddr w domain bus device function ∧ device ≤ 31 ∧
    function ≤ 7

/-- The line has no id or one that is too big, or its address is not one. -/
def RefusedLine (buf : Bytes) : Prop :=
  idDigits buf = [] ∨ INT_MAX < digitsValue 10 (idDigits buf) % 2 ^ 32 ∨
    ¬BeginsWithAddr (addrWord buf)

/-! ## The values of a line -/

/-- The value of a field: the default if the line omits it, else what is written. -/
def IntField (w : Bytes) (default v : Int32) : Prop :=
  if w = [] then v = default else intNumeral w = some v.toInt

def NatField (w : Bytes) (default v : UInt32) : Prop :=
  if w = [] then v = default else numeral 10 w = some v.toNat

/-- Each value is that of its field. -/
structure FieldsRead (buf : Bytes) (line : NewDeviceLine) : Prop where
  busStr : line.busStr = addrWord buf
  clk : IntField (lineField buf 1) (-1) line.clkLogicalId
  ports : NatField (lineField buf 2) 1 line.portCount
  queues : NatField (lineField buf 3) 1 line.numQueues
  wpc : NatField (lineField buf 4) 0 line.wpc

/-- The line passes the parsing, with these values and this address. -/
structure Passes (buf : Bytes) (line : NewDeviceLine) (addr : PciAddr) : Prop where
  values : newDeviceValues buf = some line
  id : line.id.toNat ≤ INT_MAX
  addr : parsePciAddress line.busStr = .ok addr

/-- The word of the address fits in its buffer, with the zero behind it.  If the line passes, its
values are those of its fields, and the address is the one that is written. -/
structure ParsedExactly (buf : Bytes) : Prop where
  fits : ∀ line, newDeviceValues buf = some line → line.busStr.length ≤ 31
  fields : ∀ line addr, Passes buf line addr → FieldsRead buf line
  text : ∀ line addr, Passes buf line addr → lineField buf 0 ≠ [] →
    AddrText (lineField buf 0) addr
  default : ∀ line addr, Passes buf line addr → lineField buf 0 = [] → addr = ⟨0, 0, 1, 0⟩
  range : ∀ line addr, Passes buf line addr →
    addr.bus.toNat ≤ 255 ∧ addr.device.toNat ≤ 31 ∧ addr.function.toNat ≤ 7

/-- No number of the line has more digits than `sscanf` takes, its second word fits in the buffer,
and, unless the line is refused, the address is plain and the other fields are numbers. -/
structure ExactLine (buf : Bytes) : Prop where
  idShort : (idDigits buf).length ≤ INT_MAX
  short : ∀ k, (lineField buf k).length ≤ INT_MAX
  word : idDigits buf ≠ [] → (lineField buf 0).length ≤ 31
  addr : ¬RefusedLine buf → PlainAddr (lineField buf 0)
  clk : ¬RefusedLine buf → IntText (lineField buf 1)
  counts : ¬RefusedLine buf → ∀ k, 2 ≤ k → k ≤ 4 → NatText (lineField buf k)

/-! ## Fields -/

/-- The part of the format behind the address. -/
def numberFields : List ScanDirective := [.space, .int, .space, .u, .space, .u, .space, .u]

section Fields

variable {buf s : Bytes} {line : NewDeviceLine} {addr : PciAddr} {k : ℕ}
  {format : List ScanDirective}

theorem noDigit_behindId : NoDigit 10 (behindId buf) := by
  intro c first
  have head := List.head?_dropWhile_not (isDigitOf 10) (skipSpaces (cstr buf))
  unfold behindId at first
  rw [first] at head
  exact head

theorem fromField_succ (buf : Bytes) (k : ℕ) :
    fromField buf (k + 1) = afterWord (fromField buf k) := Function.iterate_succ_apply' ..

/-- Behind an omitted field there is none. -/
theorem lineField_of_le {j : ℕ} (none' : lineField buf k = []) (le : k ≤ j) :
    lineField buf j = [] := by
  induction j, le using Nat.le_induction with
  | base => exact none'
  | succ j _ ih =>
    have nothing : afterWord (fromField buf j) = [] := by
      unfold afterWord
      rw [skipSpaces_of_nextWord ih]
      rfl
    unfold lineField
    rw [fromField_succ, nothing]
    rfl

theorem vsscanf_id (id : idDigits buf ≠ []) (short : (idDigits buf).length ≤ INT_MAX) :
    sscanf buf (.u :: format) =
      .uint (UInt32.ofNat (digitsValue 10 (idDigits buf))) :: vsscanf format (behindId buf) := by
  have digits : ∀ c ∈ idDigits buf, isDigitOf 10 c = true := fun c mem =>
    List.mem_takeWhile_imp mem
  refine vsscanf_uint List.takeWhile_append_dropWhile.symm (numeral_of_digits id digits) ?_
    (by decide) short (.inr noDigit_behindId)
  rw [parseIntegerFixupRadix_ten]

theorem newDeviceValues_of_noId (none' : idDigits buf = []) : newDeviceValues buf = none := by
  have no : NoDigit 10 (skipSpaces (cstr buf)) := by
    have all : idDigits buf ++ behindId buf = skipSpaces (cstr buf) :=
      List.takeWhile_append_dropWhile
    rw [none', List.nil_append] at all
    rw [← all]
    exact noDigit_behindId
  have scan : sscanf buf newDeviceFormat = [] := vsscanf_noDigit no
  unfold newDeviceValues
  rw [scan]

theorem id_of_values (values : newDeviceValues buf = some line) : idDigits buf ≠ [] := by
  intro none'
  rw [newDeviceValues_of_noId none'] at values
  cases values

/-- Whatever the numbers are: a line with an id has that id, and the address is its second word, as
far as `%s` goes. -/
theorem newDeviceValues_of_id (id : idDigits buf ≠ []) (short : (idDigits buf).length ≤ INT_MAX) :
    ∃ line, newDeviceValues buf = some line ∧
      line.id = UInt32.ofNat (digitsValue 10 (idDigits buf)) ∧
        line.busStr = (addrWord buf).take SHRT_MAX := by
  have scan : sscanf buf newDeviceFormat = .uint _ :: vsscanf (.space :: .str :: numberFields)
      (behindId buf) := vsscanf_id id short
  have first : nextWord (behindId buf) = lineField buf 0 := rfl
  by_cases word : lineField buf 0 = []
  · have short' : defaultPciAddr = defaultPciAddr.take SHRT_MAX := by decide
    rw [vsscanf_end .str (by decide) (first.trans word)] at scan
    unfold newDeviceValues addrWord
    rw [scan, if_pos word]
    exact ⟨_, rfl, rfl, short'⟩
  · rw [vsscanf_str (first ▸ word), first] at scan
    unfold newDeviceValues addrWord
    rw [scan, if_neg word]
    -- the numbers, up to the first that cannot be read
    generalize (skipSpaces (behindId buf)).drop _ = s
    unfold numberFields
    obtain clk | ⟨clk, s₁, scan₁⟩ := vsscanf_int_cases [.space, .u, .space, .u, .space, .u] s
    · rw [clk]
      exact ⟨_, rfl, rfl, rfl⟩
    obtain ports | ⟨ports, s₂, scan₂⟩ := vsscanf_u_cases [.space, .u, .space, .u] s₁
    · rw [scan₁, ports]
      exact ⟨_, rfl, rfl, rfl⟩
    obtain queues | ⟨queues, s₃, scan₃⟩ := vsscanf_u_cases [.space, .u] s₂
    · rw [scan₁, scan₂, queues]
      exact ⟨_, rfl, rfl, rfl⟩
    obtain wpc | ⟨wpc, s₄, scan₄⟩ := vsscanf_u_cases [] s₃
    · rw [scan₁, scan₂, scan₃, wpc]
      exact ⟨_, rfl, rfl, rfl⟩
    · rw [scan₁, scan₂, scan₃, scan₄, vsscanf_nil]
      exact ⟨_, rfl, rfl, rfl⟩

/-- Behind an omitted field all have their defaults. -/
theorem natField_of_le {j : ℕ} {d : UInt32} (none' : lineField buf k = []) (le : k ≤ j) :
    NatField (lineField buf j) d d := by
  unfold NatField
  rw [if_pos (lineField_of_le none' le)]

theorem natField_of_numeral {w : Bytes} {d v : UInt32} (word : w ≠ [])
    (value : numeral 10 w = some v.toNat) : NatField w d v := by
  unfold NatField
  rw [if_neg word]
  exact value

theorem intField_of_le {j : ℕ} {d : Int32} (none' : lineField buf k = []) (le : k ≤ j) :
    IntField (lineField buf j) d d := by
  unfold IntField
  rw [if_pos (lineField_of_le none' le)]

theorem intField_of_numeral {w : Bytes} {d v : Int32} (word : w ≠ [])
    (value : intNumeral w = some v.toInt) : IntField w d v := by
  unfold IntField
  rw [if_neg word]
  exact value

/-- A field that is a number, or is omitted. -/
theorem vsscanf_count (format : List ScanDirective) (exact : NatText (lineField buf k))
    (short : (lineField buf k).length ≤ INT_MAX) :
    lineField buf k = [] ∧ vsscanf (.space :: .u :: format) (fromField buf k) = [] ∨
      ∃ v : UInt32, lineField buf k ≠ [] ∧ numeral 10 (lineField buf k) = some v.toNat ∧
        vsscanf (.space :: .u :: format) (fromField buf k) =
          .uint v :: vsscanf format (fromField buf (k + 1)) := by
  by_cases word : lineField buf k = []
  · exact .inl ⟨word, vsscanf_end .u (by decide) word⟩
  · obtain ⟨v, value⟩ := exact word
    refine .inr ⟨v, word, value, ?_⟩
    rw [vsscanf_u value short, UInt32.ofNat_toNat, fromField_succ]

theorem vsscanf_clk (format : List ScanDirective) (exact : IntText (lineField buf k))
    (short : (lineField buf k).length ≤ INT_MAX) :
    lineField buf k = [] ∧ vsscanf (.space :: .int :: format) (fromField buf k) = [] ∨
      ∃ v : Int32, lineField buf k ≠ [] ∧ intNumeral (lineField buf k) = some v.toInt ∧
        vsscanf (.space :: .int :: format) (fromField buf k) =
          .int v :: vsscanf format (fromField buf (k + 1)) := by
  by_cases word : lineField buf k = []
  · exact .inl ⟨word, vsscanf_end .int (by decide) word⟩
  · obtain ⟨v, value⟩ := exact word
    refine .inr ⟨v, word, value, ?_⟩
    rw [vsscanf_int value short, Int32.ofInt_toInt, fromField_succ]

/-- The values of a line whose fields are numbers, or are omitted. -/
theorem fieldsRead_of_exact (id : idDigits buf ≠ []) (idShort : (idDigits buf).length ≤ INT_MAX)
    (short : ∀ k, (lineField buf k).length ≤ INT_MAX)
    (word : (lineField buf 0).length ≤ SHRT_MAX) (clk : IntText (lineField buf 1))
    (counts : ∀ k, 2 ≤ k → k ≤ 4 → NatText (lineField buf k)) :
    ∃ line, newDeviceValues buf = some line ∧ FieldsRead buf line := by
  have scan : sscanf buf newDeviceFormat = .uint _ :: vsscanf (.space :: .str :: numberFields)
      (fromField buf 0) := vsscanf_id id idShort
  by_cases addr : lineField buf 0 = []
  · rw [vsscanf_end .str (by decide) addr] at scan
    unfold newDeviceValues
    rw [scan]
    exact ⟨_, rfl, (if_pos addr).symm, intField_of_le addr (by decide),
      natField_of_le addr (by decide), natField_of_le addr (by decide),
      natField_of_le addr (by decide)⟩
  have busStr : lineField buf 0 = addrWord buf := (if_neg addr).symm
  rw [vsscanf_str_of_le addr word, ← fromField_succ] at scan
  change sscanf buf newDeviceFormat = .uint _ :: .str (lineField buf 0) :: _ at scan
  unfold newDeviceValues
  rw [scan]
  unfold numberFields
  obtain ⟨none₁, scan₁⟩ | ⟨v₁, word₁, value₁, scan₁⟩ :=
    vsscanf_clk [.space, .u, .space, .u, .space, .u] clk (short 1)
  · rw [scan₁]
    exact ⟨_, rfl, busStr, intField_of_le none₁ le_rfl, natField_of_le none₁ (by decide),
      natField_of_le none₁ (by decide), natField_of_le none₁ (by decide)⟩
  have field₁ := @intField_of_numeral _ (-1) _ word₁ value₁
  rw [scan₁]
  obtain ⟨none₂, scan₂⟩ | ⟨v₂, word₂, value₂, scan₂⟩ :=
    vsscanf_count [.space, .u, .space, .u] (counts 2 (by decide) (by decide)) (short 2)
  · rw [scan₂]
    exact ⟨_, rfl, busStr, field₁, natField_of_le none₂ le_rfl, natField_of_le none₂ (by decide),
      natField_of_le none₂ (by decide)⟩
  have field₂ := @natField_of_numeral _ 1 _ word₂ value₂
  rw [scan₂]
  obtain ⟨none₃, scan₃⟩ | ⟨v₃, word₃, value₃, scan₃⟩ :=
    vsscanf_count [.space, .u] (counts 3 (by decide) (by decide)) (short 3)
  · rw [scan₃]
    exact ⟨_, rfl, busStr, field₁, field₂, natField_of_le none₃ le_rfl,
      natField_of_le none₃ (by decide)⟩
  have field₃ := @natField_of_numeral _ 1 _ word₃ value₃
  rw [scan₃]
  obtain ⟨none₄, scan₄⟩ | ⟨v₄, word₄, value₄, scan₄⟩ :=
    vsscanf_count [] (counts 4 (by decide) (by decide)) (short 4)
  · rw [scan₄]
    exact ⟨_, rfl, busStr, field₁, field₂, field₃, natField_of_le none₄ le_rfl⟩
  · rw [scan₄, vsscanf_nil]
    exact ⟨_, rfl, busStr, field₁, field₂, field₃, natField_of_numeral word₄ value₄⟩

end Fields

/-! ## The address -/

section Address

variable {w : Bytes} {addr : PciAddr}

theorem noStop_of_numeral {base n : ℕ} {d : Bytes} (value : numeral base d = some n) :
    ∀ c ∈ d, c ≠ 46 := by
  rintro c mem rfl
  obtain ⟨-, digits, -⟩ := numeral_eq_some value
  obtain ⟨_, found, -⟩ := digitValue_of_isDigitOf (digits _ mem)
  cases found

/-- The full stop of an address is the only one up to its end. -/
theorem dropWhile_addr {d b v f : Bytes} {i j k : ℕ} (hd : numeral 16 d = some i)
    (hb : numeral 16 b = some j) (hv : numeral 16 v = some k) :
    (d ++ 58 :: (b ++ 58 :: (v ++ 46 :: f))).dropWhile (· ≠ 46) = 46 :: f := by
  have skip {x rest : Bytes} {n : ℕ} (value : numeral 16 x = some n) :
      (x ++ rest).dropWhile (· ≠ 46) = rest.dropWhile (· ≠ 46) :=
    List.dropWhile_append_of_pos fun c mem => by simpa using noStop_of_numeral value c mem
  rw [skip hd, List.dropWhile_cons_of_pos (by decide), skip hb,
    List.dropWhile_cons_of_pos (by decide), skip hv, List.dropWhile_cons_of_neg (by decide)]

theorem toNat_toUInt16_ofNat {n : ℕ} (small : n < 16 ^ 4) :
    (UInt32.ofNat n).toUInt16.toNat = n := by
  rw [UInt32.toNat_toUInt16, UInt32.toNat_ofNat_of_lt' (small.trans (by decide))]
  exact Nat.mod_eq_of_lt small

theorem toNat_toUInt8_ofNat {n : ℕ} (small : n < 16 ^ 2) :
    (UInt32.ofNat n).toUInt8.toNat = n := by
  rw [UInt32.toNat_toUInt8, UInt32.toNat_ofNat_of_lt' (small.trans (by decide))]
  exact Nat.mod_eq_of_lt small

/-- The address with these parts. -/
def addrOf (domain bus device function : ℕ) : PciAddr :=
  ⟨(UInt32.ofNat domain).toUInt16, (UInt32.ofNat bus).toUInt8, (UInt32.ofNat device).toUInt8,
    (UInt32.ofNat function).toUInt8⟩

/-- The check of the parts. -/
theorem range_iff {j k l : ℕ} (bus : j < 16 ^ 2) (device : k < 16 ^ 2) (function : l < 16 ^ 1) :
    (255 < UInt32.ofNat j ∨ 31 < UInt32.ofNat k ∨ 7 < UInt32.ofNat l) ↔ 31 < k ∨ 7 < l := by
  have toNat {n : ℕ} (small : n < 16 ^ 2) : (UInt32.ofNat n).toNat = n :=
    UInt32.toNat_ofNat_of_lt' (small.trans (by decide))
  simp only [UInt32.lt_iff_toNat_lt, toNat bus, toNat device,
    toNat (function.trans (by decide)), UInt32.reduceToNat]
  omega

/-- A separator ends a field. -/
theorem stops_at {c : UInt8} (separator : c = 58 ∨ c = 46) (x rest : Bytes) :
    NoDigit 16 (c :: rest) ∧ ∀ c' ∈ (c :: rest).head?, x = [48] → tolower c' ≠ 120 := by
  obtain rfl | rfl := separator
  · exact ⟨fun c first => by cases first; rfl, fun c first _ => by cases first; decide⟩
  · exact ⟨fun c first => by cases first; rfl, fun c first _ => by cases first; decide⟩

/-- What the parts of an address in front of a word are parsed to. -/
theorem parsePciAddress_of_read {i j k l : ℕ} (whole : cstr w = w)
    (noBlank : ∀ c ∈ w, isspace c = false) (read : ReadAsAddr w i j k l) (device : k ≤ 31)
    (function : l ≤ 7) : parsePciAddress w = .ok (addrOf i j k l) := by
  obtain ⟨d, b, v, f, rest, rfl, hd, hb, hv, hf⟩ := read
  have full : f.length = 1 := Nat.le_antisymm hf.1 hf.length_pos
  have inDomain : ∀ c ∈ d, isspace c = false := fun c mem => noBlank c (by simp [mem])
  have inBus : ∀ c ∈ b, isspace c = false := fun c mem => noBlank c (by simp [mem])
  have inDevice : ∀ c ∈ v, isspace c = false := fun c mem => noBlank c (by simp [mem])
  have inFunction : ∀ c ∈ f, isspace c = false := fun c mem => noBlank c (by simp [mem])
  unfold parsePciAddress sscanf pciAddrFormat
  rw [whole, vsscanf_hexField _ inDomain hd (.inr (stops_at (.inl rfl) _ _)), vsscanf_char,
    vsscanf_hexField _ inBus hb (.inr (stops_at (.inl rfl) _ _)), vsscanf_char,
    vsscanf_hexField _ inDevice hv (.inr (stops_at (.inr rfl) _ _)), vsscanf_char,
    vsscanf_hexField _ inFunction hf (.inl full), vsscanf_nil]
  refine if_neg ?_
  rw [range_iff hb.lt hv.lt hf.lt]
  omega

/-- A word that is taken for an address begins with its parts. -/
theorem read_of_parse (whole : cstr w = w) (noBlank : ∀ c ∈ w, isspace c = false)
    (ok : parsePciAddress w = .ok addr) : ∃ i j k l, ReadAsAddr w i j k l ∧ k ≤ 31 ∧ l ≤ 7 ∧
      addr = addrOf i j k l := by
  unfold parsePciAddress sscanf pciAddrFormat at ok
  rw [whole] at ok
  clear whole
  obtain none' | ⟨d, r₁, i, rfl, hd, scan⟩ := vsscanf_hexField_cases [.char 58, .uint 16 2,
    .char 58, .uint 16 2, .char 46, .uint 16 1] 4 (by decide) noBlank
  · rw [none'] at ok
    cases ok
  rw [scan] at ok
  have noBlank₁ : ∀ c ∈ r₁, isspace c = false := fun c mem => noBlank c (by simp [mem])
  obtain none' | ⟨b, r₂, j, rfl, hb, scan⟩ := vsscanf_char_hexField_cases [.char 58, .uint 16 2,
    .char 46, .uint 16 1] 58 2 (by decide) noBlank₁
  · rw [none'] at ok
    cases ok
  rw [scan] at ok
  have noBlank₂ : ∀ c ∈ r₂, isspace c = false := fun c mem => noBlank c (by simp [mem])
  obtain none' | ⟨v, r₃, k, rfl, hv, scan⟩ := vsscanf_char_hexField_cases [.char 46, .uint 16 1]
    58 2 (by decide) noBlank₂
  · rw [none'] at ok
    cases ok
  rw [scan] at ok
  have noBlank₃ : ∀ c ∈ r₃, isspace c = false := fun c mem => noBlank c (by simp [mem])
  obtain none' | ⟨f, rest, l, rfl, hf, scan⟩ := vsscanf_char_hexField_cases [] 46 1 (by decide)
    noBlank₃
  · rw [none'] at ok
    cases ok
  rw [scan, vsscanf_nil] at ok
  dsimp only at ok
  split_ifs at ok with range
  cases ok
  rw [range_iff hb.lt hv.lt hf.lt] at range
  exact ⟨i, j, k, l, ⟨d, b, v, f, rest, rfl, hd, hb, hv, hf⟩, by omega, by omega, rfl⟩

theorem exists_parse_iff (whole : cstr w = w) (noBlank : ∀ c ∈ w, isspace c = false) :
    (∃ addr, parsePciAddress w = .ok addr) ↔ BeginsWithAddr w := by
  constructor
  · rintro ⟨addr, ok⟩
    obtain ⟨i, j, k, l, read, device, function, -⟩ := read_of_parse whole noBlank ok
    exact ⟨i, j, k, l, read, device, function⟩
  · rintro ⟨i, j, k, l, read, device, function⟩
    exact ⟨_, parsePciAddress_of_read whole noBlank read device function⟩

/-- A plain word that is taken for an address is the text of that address. -/
theorem addrText_of_parse (whole : cstr w = w) (noBlank : ∀ c ∈ w, isspace c = false)
    (plain : PlainAddr w) (ok : parsePciAddress w = .ok addr) : AddrText w addr := by
  obtain ⟨noX, stop⟩ := plain
  obtain ⟨i, j, k, l, ⟨d, b, v, f, rest, rfl, hd, hb, hv, hf⟩, -, -, rfl⟩ :=
    read_of_parse whole noBlank ok
  have domain := hd.numeral_of_noX fun c mem => noX c (by simp [mem])
  have bus := hb.numeral_of_noX fun c mem => noX c (by simp [mem])
  have device := hv.numeral_of_noX fun c mem => noX c (by simp [mem])
  have function := hf.numeral_of_noX fun c mem => noX c (by simp [mem])
  -- nothing is left behind the function
  rw [dropWhile_addr domain bus device] at stop
  have nonempty := hf.length_pos
  obtain rfl : rest = [] := by
    rw [← List.length_eq_zero_iff]
    simp only [List.length_cons, List.length_append] at stop
    omega
  rw [List.append_nil]
  unfold addrOf
  refine ⟨d, b, v, f, rfl, ⟨hd.1, ?_⟩, ⟨hb.1, ?_⟩, ⟨hv.1, ?_⟩, hf.1, ?_⟩
  · rw [domain, toNat_toUInt16_ofNat hd.lt]
  · rw [bus, toNat_toUInt8_ofNat hb.lt]
  · rw [device, toNat_toUInt8_ofNat hv.lt]
  · rw [function, toNat_toUInt8_ofNat (hf.lt.trans (by decide))]

/-- The text of an address is plain. -/
theorem AddrText.plain (text : AddrText w addr) : PlainAddr w := by
  obtain ⟨d, b, v, f, rfl, ⟨-, hd⟩, ⟨-, hb⟩, ⟨-, hv⟩, fFits, hf⟩ := text
  have noX {x : Bytes} {n : ℕ} (value : numeral 16 x = some n) : ∀ c ∈ x, tolower c ≠ 120 := by
    intro c mem
    obtain ⟨-, digits, -⟩ := numeral_eq_some value
    exact tolower_of_digit (digits c mem)
  refine ⟨fun c mem => ?_, ?_⟩
  · simp only [List.mem_append, List.mem_cons] at mem
    obtain mem | rfl | mem | rfl | mem | rfl | mem := mem
    · exact noX hd c mem
    · decide
    · exact noX hb c mem
    · decide
    · exact noX hv c mem
    · decide
    · exact noX hf c mem
  · rw [dropWhile_addr hd hb hv, List.length_cons]
    omega

/-- What is taken for an address is within the ranges of its parts. -/
theorem range_of_parse (ok : parsePciAddress w = .ok addr) :
    addr.bus.toNat ≤ 255 ∧ addr.device.toNat ≤ 31 ∧ addr.function.toNat ≤ 7 := by
  unfold parsePciAddress at ok
  split at ok
  · split_ifs at ok with range
    cases ok
    simp only [not_or, UInt32.not_lt, UInt32.le_iff_toNat_le, UInt32.reduceToNat] at range
    obtain ⟨-, device, function⟩ := range
    simp only [UInt32.toNat_toUInt8]
    omega
  · cases ok

end Address

/-! ## Lines -/

section Lines

variable {buf : Bytes} {line : NewDeviceLine} {addr : PciAddr} {k : ℕ}

theorem fromField_sublist (buf : Bytes) (k : ℕ) : (fromField buf k).Sublist (cstr buf) := by
  induction k with
  | zero => exact (List.dropWhile_sublist _).trans (List.dropWhile_sublist _)
  | succ k ih =>
    rw [fromField_succ]
    exact ((List.dropWhile_sublist _).trans (List.dropWhile_sublist _)).trans ih

theorem lineField_sublist (buf : Bytes) (k : ℕ) : (lineField buf k).Sublist (cstr buf) :=
  ((List.takeWhile_sublist _).trans (List.dropWhile_sublist _)).trans (fromField_sublist buf k)

theorem cstr_lineField (buf : Bytes) (k : ℕ) : cstr (lineField buf k) = lineField buf k := by
  refine List.takeWhile_eq_self_iff.2 fun c mem => ?_
  have inLine : c ∈ buf.takeWhile (· ≠ 0) := (lineField_sublist buf k).subset mem
  have nonzero := List.mem_takeWhile_imp inLine
  exact nonzero

theorem noBlank_lineField (buf : Bytes) (k : ℕ) : ∀ c ∈ lineField buf k, isspace c = false := by
  intro c mem
  simpa using List.mem_takeWhile_imp mem

theorem exists_parse_addrWord_iff :
    (∃ addr, parsePciAddress (addrWord buf) = .ok addr) ↔ BeginsWithAddr (addrWord buf) := by
  have noBlank : defaultPciAddr.all (!isspace ·) = true := by decide
  unfold addrWord
  split_ifs
  · exact exists_parse_iff (by decide) fun c mem => by simpa using List.all_eq_true.1 noBlank c mem
  · exact exists_parse_iff (cstr_lineField buf 0) (noBlank_lineField buf 0)

theorem length_addrWord (short : (lineField buf 0).length ≤ 31) : (addrWord buf).length ≤ 31 := by
  unfold addrWord
  split_ifs
  · decide
  · exact short

/-- The id and the address of a line whose second word is not too long. -/
theorem newDeviceValues_of_word (id : idDigits buf ≠ [])
    (idShort : (idDigits buf).length ≤ INT_MAX) (word : (lineField buf 0).length ≤ 31) :
    ∃ line, newDeviceValues buf = some line ∧
      line.id.toNat = digitsValue 10 (idDigits buf) % 2 ^ 32 ∧ line.busStr = addrWord buf := by
  obtain ⟨line, values, id, busStr⟩ := newDeviceValues_of_id id idShort
  refine ⟨line, values, by rw [id, UInt32.toNat_ofNat'], ?_⟩
  rw [busStr, List.take_of_length_le ((length_addrWord word).trans (by decide))]

/-- A line that passes is not refused. -/
theorem Passes.notRefused (passes : Passes buf line addr)
    (idShort : (idDigits buf).length ≤ INT_MAX) (word : (lineField buf 0).length ≤ 31) :
    idDigits buf ≠ [] ∧ line.busStr = addrWord buf ∧ ¬RefusedLine buf := by
  have id := id_of_values passes.values
  obtain ⟨line', values, value, busStr⟩ := newDeviceValues_of_word id idShort word
  obtain rfl : line' = line := Option.some.inj (values.symm.trans passes.values)
  refine ⟨id, busStr, ?_⟩
  rintro (none' | big | wrong)
  · exact id none'
  · have small := passes.id
    omega
  · exact wrong (exists_parse_addrWord_iff.1 ⟨addr, busStr ▸ passes.addr⟩)

theorem exists_passes (idShort : (idDigits buf).length ≤ INT_MAX)
    (word : (lineField buf 0).length ≤ 31) (taken : ¬RefusedLine buf) :
    ∃ line addr, Passes buf line addr := by
  have id : idDigits buf ≠ [] := fun none' => taken (.inl none')
  obtain ⟨line, values, value, busStr⟩ := newDeviceValues_of_word id idShort word
  have small : line.id.toNat ≤ INT_MAX := by
    rw [value]
    exact not_lt.1 fun big => taken (.inr (.inl big))
  have begins : BeginsWithAddr (addrWord buf) := not_not.1 fun wrong => taken (.inr (.inr wrong))
  obtain ⟨addr, address⟩ := exists_parse_addrWord_iff.2 begins
  exact ⟨line, addr, values, small, busStr ▸ address⟩

theorem parsedExactly_of_exact (exact : ExactLine buf) : ParsedExactly buf := by
  have read {line : NewDeviceLine} {addr : PciAddr} (passes : Passes buf line addr) :=
    passes.notRefused exact.idShort (exact.word (id_of_values passes.values))
  constructor
  · intro line values
    have id := id_of_values values
    obtain ⟨line', values', -, busStr⟩ := newDeviceValues_of_word id exact.idShort (exact.word id)
    obtain rfl : line' = line := Option.some.inj (values'.symm.trans values)
    rw [busStr]
    exact length_addrWord (exact.word id)
  · intro line addr passes
    obtain ⟨id, -, taken⟩ := read passes
    obtain ⟨line', values, fields⟩ := fieldsRead_of_exact id exact.idShort exact.short
      ((exact.word id).trans (by decide)) (exact.clk taken) (exact.counts taken)
    obtain rfl : line' = line := Option.some.inj (values.symm.trans passes.values)
    exact fields
  · intro line addr passes word
    obtain ⟨-, busStr, taken⟩ := read passes
    have address := passes.addr
    rw [busStr, addrWord, if_neg word] at address
    exact addrText_of_parse (cstr_lineField buf 0) (noBlank_lineField buf 0) (exact.addr taken)
      address
  · intro line addr passes none'
    obtain ⟨-, busStr, -⟩ := read passes
    have address := passes.addr
    have known : parsePciAddress defaultPciAddr = .ok ⟨0, 0, 1, 0⟩ := by decide
    rw [busStr, addrWord, if_pos none', known] at address
    exact (Except.ok.inj address).symm
  · intro line addr passes
    exact range_of_parse passes.addr

theorem exact_of_parsedExactly (length : buf.length ≤ INT_MAX) (parsed : ParsedExactly buf) :
    ExactLine buf := by
  have inLine {w : Bytes} (part : w.Sublist (cstr buf)) : w.length ≤ INT_MAX :=
    (part.length_le.trans (List.takeWhile_sublist _).length_le).trans length
  have idShort : (idDigits buf).length ≤ INT_MAX :=
    inLine ((List.takeWhile_sublist _).trans (List.dropWhile_sublist _))
  have word (id : idDigits buf ≠ []) : (lineField buf 0).length ≤ 31 := by
    obtain ⟨line, values, -, busStr⟩ := newDeviceValues_of_id id idShort
    have fits := parsed.fits line values
    by_cases none' : lineField buf 0 = []
    · rw [none']
      exact Nat.zero_le _
    · rw [busStr, addrWord, if_neg none', List.length_take] at fits
      unfold SHRT_MAX at fits
      omega
  have passes (taken : ¬RefusedLine buf) : ∃ line addr, Passes buf line addr :=
    exists_passes idShort (word fun none' => taken (.inl none')) taken
  refine ⟨idShort, fun k => inLine (lineField_sublist buf k), word, fun taken => ?_,
    fun taken some => ?_, fun taken k least most some => ?_⟩
  · obtain ⟨line, addr, passes⟩ := passes taken
    by_cases none' : lineField buf 0 = []
    · rw [none']
      exact ⟨by simp, by simp⟩
    · exact (parsed.text line addr passes none').plain
  · obtain ⟨line, addr, passes⟩ := passes taken
    have field := (parsed.fields line addr passes).clk
    unfold IntField at field
    rw [if_neg some] at field
    exact ⟨_, field⟩
  · obtain ⟨line, addr, passes⟩ := passes taken
    have fields := parsed.fields line addr passes
    have written {k : ℕ} {d v : UInt32} (field : NatField (lineField buf k) d v)
        (some : lineField buf k ≠ []) : ∃ v : UInt32, numeral 10 (lineField buf k) =
          Option.some v.toNat := by
      unfold NatField at field
      rw [if_neg some] at field
      exact ⟨_, field⟩
    obtain rfl | rfl | rfl : k = 2 ∨ k = 3 ∨ k = 4 := by omega
    · exact written fields.ports some
    · exact written fields.queues some
    · exact written fields.wpc some

end Lines

/-- A line is parsed exactly if it is written exactly; lines of up to 2 GiB, only then. -/
theorem new_device_line_exact (buf : Bytes) : (ExactLine buf → ParsedExactly buf) ∧
    (buf.length ≤ INT_MAX → ParsedExactly buf → ExactLine buf) :=
  ⟨parsedExactly_of_exact, exact_of_parsedExactly⟩

/-- The word of the address is longer than its buffer, and taken for an address. -/
theorem new_device_line_too_long : ¬∀ buf, ParsedExactly buf := by
  intro exact
  have values : newDeviceValues (ascii "1 0000:00:01.0-of-the-first-domain") =
      some ⟨1, ascii "0000:00:01.0-of-the-first-domain", -1, 1, 1, 0⟩ := by decide
  exact absurd ((exact _).fits _ values) (by decide)

end Netdevsim.Bus
