import Mathlib.Data.List.DropRight
import Netdevsim.Scanf

/-!
# Words and numerals

What `vsscanf` reads of a text, in terms of the words and numerals in it.  A conversion of a number
takes the digits in front and leaves what is behind them, so a word that is a numeral is read as its
value, and any other word at most in part.
-/

namespace Netdevsim

/-! ## Definitions -/

/-- The first word of a text. -/
def nextWord (s : Bytes) : Bytes := (skipSpaces s).takeWhile (!isspace ·)

/-- What is behind the first word. -/
def afterWord (s : Bytes) : Bytes := (skipSpaces s).dropWhile (!isspace ·)

/-- The value of a string of digits. -/
def digitsValue (base : ℕ) (w : Bytes) : ℕ :=
  w.foldl (fun value c => value * base + (digitValue c).getD 0) 0

/-- The number that is written as a string of digits. -/
def numeral (base : ℕ) (w : Bytes) : Option ℕ :=
  if !w.isEmpty && w.all (isDigitOf base) then some (digitsValue base w) else none

/-- The integer that is written in decimal, with a sign if it is negative. -/
def intNumeral : Bytes → Option ℤ
  | 45 :: w => (numeral 10 w).map fun n : ℕ => -(n : ℤ)
  | w => (numeral 10 w).map fun n : ℕ => (n : ℤ)

/-- No digit stands at the start. -/
def NoDigit (base : ℕ) (s : Bytes) : Prop := ∀ c ∈ s.head?, isDigitOf base c = false

/-- A hexadecimal field and its value: at most `width` characters, which are a numeral, or the
prefix `0x` with any digits behind it. -/
def HexField (width : ℕ) (x : Bytes) (n : ℕ) : Prop :=
  x.length ≤ width ∧ (numeral 16 x = some n ∨ ∃ p digits, x = 48 :: p :: digits ∧
    tolower p = 120 ∧ (∀ c ∈ digits, isDigitOf 16 c = true) ∧ digitsValue 16 digits = n)

/-! ## Digits -/

section Digits

variable {base width : ℕ} {w rest s : Bytes} {value digits n : ℕ} {c : UInt8}

theorem digitValue_of_isDigitOf (digit : isDigitOf base c = true) :
    ∃ d, digitValue c = some d ∧ d < base := by
  unfold isDigitOf at digit
  cases found : digitValue c with
  | none => simp [found] at digit
  | some d => exact ⟨d, rfl, by simpa [found] using digit⟩

theorem parseInteger_digits (all : ∀ c ∈ w, isDigitOf base c = true) :
    parseInteger base (w ++ rest) value digits =
      parseInteger base rest
        (w.foldl (fun value c => value * base + (digitValue c).getD 0) value)
        (digits + w.length) := by
  induction w generalizing value digits with
  | nil => rfl
  | cons c w ih =>
    obtain ⟨d, found, lt⟩ := digitValue_of_isDigitOf (all c List.mem_cons_self)
    rw [List.cons_append, parseInteger, found]
    dsimp only
    rw [if_pos lt, ih fun c mem => all c (List.mem_cons_of_mem _ mem), List.foldl_cons, found,
      List.length_cons]
    congr 1
    omega

theorem parseInteger_noDigit (no : NoDigit base s) :
    parseInteger base s value digits = (value, digits, s) := by
  cases s with
  | nil => rfl
  | cons c s =>
    have none' := no c rfl
    unfold isDigitOf at none'
    unfold parseInteger
    cases found : digitValue c with
    | none => rfl
    | some d =>
      rw [found] at none'
      exact if_neg (by simpa using none')

/-- What is parsed of the characters that a field takes: the digits in front. -/
theorem parseInteger_take (all : ∀ c ∈ w, isDigitOf base c = true) (fits : w.length ≤ width)
    (stop : w.length = width ∨ NoDigit base rest) :
    parseInteger base ((w ++ rest).take width) 0 0 =
      (digitsValue base w, w.length, rest.take (width - w.length)) := by
  have behind : NoDigit base (rest.take (width - w.length)) := by
    obtain full | no := stop
    · rw [full, Nat.sub_self]
      intro c first
      cases first
    · cases rest with
      | nil =>
        rw [List.take_nil]
        exact no
      | cons c rest =>
        cases room : width - w.length with
        | zero =>
          intro c first
          cases first
        | succ k => exact no
  rw [List.take_append, List.take_of_length_le fits, parseInteger_digits all,
    parseInteger_noDigit behind, Nat.zero_add]
  rfl

/-- A number is the digits in front, as many as the field takes. -/
theorem simpleStrntoull_digits (plain : (parseIntegerFixupRadix base (w ++ rest)).2 = w ++ rest)
    (all : ∀ c ∈ w, isDigitOf base c = true) (positive : 0 < width) (fits : w.length ≤ width)
    (stop : w.length = width ∨ NoDigit base rest) :
    simpleStrntoull (w ++ rest) width base = (digitsValue base w, rest) := by
  unfold simpleStrntoull
  rw [plain]
  dsimp only
  rw [Nat.sub_self, if_pos positive, Nat.sub_zero, parseInteger_take all fits stop]
  dsimp only
  rw [List.drop_left]

end Digits

/-! ## Words -/

section Words

variable {base : ℕ} {s : Bytes} {n : ℕ} {c : UInt8} {format : List ScanDirective}

theorem isspace_of_digit (digit : isDigitOf base c = true) : isspace c = false := by
  obtain ⟨d, found, -⟩ := digitValue_of_isDigitOf digit
  by_contra blank
  have known : c = 9 ∨ c = 10 ∨ c = 11 ∨ c = 12 ∨ c = 13 ∨ c = 32 ∨ c = 160 := by
    simp only [isspace, Bool.not_eq_false, Bool.or_eq_true, Bool.and_eq_true, decide_eq_true_eq,
      UInt8.le_iff_toNat_le, ← UInt8.toNat_inj] at blank ⊢
    simp only [UInt8.reduceToNat] at blank ⊢
    omega
  obtain rfl | rfl | rfl | rfl | rfl | rfl | rfl := known <;> cases found

theorem nextWord_append_afterWord (s : Bytes) : nextWord s ++ afterWord s = skipSpaces s :=
  List.takeWhile_append_dropWhile

theorem skipSpaces_skipSpaces (s : Bytes) : skipSpaces (skipSpaces s) = skipSpaces s :=
  List.dropWhile_idempotent _ _

theorem head_skipSpaces (first : c ∈ (skipSpaces s).head?) : isspace c = false := by
  have head := List.head?_dropWhile_not isspace s
  unfold skipSpaces at first
  rw [first] at head
  exact head

theorem skipSpaces_of_nextWord (none' : nextWord s = []) : skipSpaces s = [] := by
  cases rest : skipSpaces s with
  | nil => rfl
  | cons c rest' =>
    have blank : isspace c = false := head_skipSpaces (by rw [rest]; rfl)
    unfold nextWord at none'
    rw [rest, List.takeWhile_cons_of_pos (by simpa using blank)] at none'
    cases none'

theorem head_afterWord (first : c ∈ (afterWord s).head?) : isspace c = true := by
  have head := List.head?_dropWhile_not (!isspace ·) (skipSpaces s)
  unfold afterWord at first
  rw [first] at head
  simpa using head

/-- No number goes on behind a word. -/
theorem noDigit_afterWord : NoDigit base (afterWord s) := by
  intro c first
  by_contra digit
  have digit' : isDigitOf base c = true := by simpa using digit
  have blank := head_afterWord first
  rw [isspace_of_digit digit'] at blank
  cases blank

theorem numeral_eq_some (some : numeral base s = some n) :
    s ≠ [] ∧ (∀ c ∈ s, isDigitOf base c = true) ∧ digitsValue base s = n := by
  unfold numeral at some
  split_ifs at some with digits
  obtain ⟨nonempty, all⟩ : s ≠ [] ∧ ∀ c ∈ s, isDigitOf base c = true := by simpa using digits
  exact ⟨nonempty, all, Option.some.inj some⟩

theorem numeral_of_digits (nonempty : s ≠ []) (digits : ∀ c ∈ s, isDigitOf base c = true) :
    numeral base s = some (digitsValue base s) :=
  if_pos (by simpa using ⟨nonempty, digits⟩)

theorem scanNumber_of_digit {signed : Bool} {rest : Bytes} (text : skipSpaces s = c :: rest)
    (digit : isDigitOf base c = true) : scanNumber base signed s = some (c :: rest) := by
  have sign : c ≠ 45 := by
    rintro rfl
    obtain ⟨d, found, -⟩ := digitValue_of_isDigitOf digit
    cases found
  unfold scanNumber
  rw [text]
  split
  · rename_i same
    exact absurd (List.cons.inj same).1 sign
  · rename_i same
    cases same
    rw [if_pos digit]
  · rename_i same
    cases same

/-! ## Conversions -/

theorem vsscanf_nil (s : Bytes) : vsscanf [] s = [] := rfl

theorem vsscanf_space (format : List ScanDirective) (s : Bytes) :
    vsscanf (.space :: format) s = vsscanf format (skipSpaces s) := rfl

theorem vsscanf_uint_eq (base width : ℕ) (format : List ScanDirective) (s : Bytes) :
    vsscanf (.uint base width :: format) s = (scanNumber base false s).elim [] fun str =>
      .uint (UInt32.ofNat (simpleStrntoull str width base).1) ::
        vsscanf format (simpleStrntoull str width base).2 := by
  cases s with
  | nil => rfl
  | cons c s =>
    rw [vsscanf]
    · cases scanNumber base false (c :: s) <;> rfl
    · intro empty
      cases empty

theorem vsscanf_int_eq (format : List ScanDirective) (s : Bytes) :
    vsscanf (.int :: format) s = (scanNumber 10 true s).elim [] fun str =>
      .int (Int32.ofInt (simpleStrntoll str INT_MAX 10).1) ::
        vsscanf format (simpleStrntoll str INT_MAX 10).2 := by
  cases s with
  | nil => rfl
  | cons c s =>
    rw [vsscanf]
    · cases scanNumber 10 true (c :: s) <;> rfl
    · intro empty
      cases empty

/-- No conversion is made at the end of the text. -/
theorem vsscanf_end (d : ScanDirective) (space : d ≠ .space) (none' : nextWord s = []) :
    vsscanf (.space :: d :: format) s = [] := by
  rw [vsscanf_space, skipSpaces_of_nextWord none']
  cases d with
  | space => exact absurd rfl space
  | _ => rfl

/-- `%s` takes a word, as far as the width of the field goes. -/
theorem vsscanf_str (word : nextWord s ≠ []) : vsscanf (.space :: .str :: format) s =
    .str ((nextWord s).take SHRT_MAX) ::
      vsscanf format ((skipSpaces s).drop ((nextWord s).take SHRT_MAX).length) := by
  have token : ((skipSpaces s).take SHRT_MAX).takeWhile (!isspace ·) =
      (nextWord s).take SHRT_MAX := List.take_takeWhile.symm
  cases text : skipSpaces s with
  | nil =>
    unfold nextWord at word
    rw [text] at word
    exact absurd rfl word
  | cons c rest =>
    have again : skipSpaces (c :: rest) = c :: rest := by
      rw [← text, skipSpaces_skipSpaces]
    have taken : vsscanf (.str :: format) (c :: rest) =
        .str (((skipSpaces (c :: rest)).take SHRT_MAX).takeWhile (!isspace ·)) ::
          vsscanf format ((skipSpaces (c :: rest)).drop
            (((skipSpaces (c :: rest)).take SHRT_MAX).takeWhile (!isspace ·)).length) := rfl
    rw [text] at token
    rw [vsscanf_space, text, taken, again, token]

/-- A word that fits is taken whole. -/
theorem vsscanf_str_of_le (word : nextWord s ≠ []) (short : (nextWord s).length ≤ SHRT_MAX) :
    vsscanf (.space :: .str :: format) s = .str (nextWord s) :: vsscanf format (afterWord s) := by
  rw [vsscanf_str word, List.take_of_length_le short, ← nextWord_append_afterWord, List.drop_left]

/-- Without digits there is no number. -/
theorem vsscanf_noDigit {width : ℕ} (no : NoDigit base (skipSpaces s)) :
    vsscanf (.uint base width :: format) s = [] := by
  have scan : scanNumber base false s = none := by
    unfold scanNumber
    split
    · rfl
    · rename_i text
      rw [text] at no
      exact if_neg (by simp [no _ rfl])
    · rfl
  rw [vsscanf_uint_eq, scan]
  rfl

/-- A number takes the digits in front, as far as the width of the field goes. -/
theorem vsscanf_uint {width : ℕ} {w rest : Bytes} (text : skipSpaces s = w ++ rest)
    (value : numeral base w = some n)
    (plain : (parseIntegerFixupRadix base (w ++ rest)).2 = w ++ rest) (positive : 0 < width)
    (fits : w.length ≤ width) (stop : w.length = width ∨ NoDigit base rest) :
    vsscanf (.uint base width :: format) s =
      .uint (UInt32.ofNat n) :: vsscanf format rest := by
  obtain ⟨nonempty, digits, rfl⟩ := numeral_eq_some value
  have parsed := simpleStrntoull_digits plain digits positive fits stop
  cases w with
  | nil => exact absurd rfl nonempty
  | cons c w =>
    have scan : scanNumber base false s = some (c :: (w ++ rest)) :=
      scanNumber_of_digit text (digits c List.mem_cons_self)
    rw [vsscanf_uint_eq, scan, Option.elim_some, ← List.cons_append, parsed]

/-- `%u` takes a numeral whole. -/
theorem vsscanf_u (value : numeral 10 (nextWord s) = some n)
    (short : (nextWord s).length ≤ INT_MAX) : vsscanf (.space :: .u :: format) s =
      .uint (UInt32.ofNat n) :: vsscanf format (afterWord s) := by
  rw [vsscanf_space]
  refine vsscanf_uint ?_ value ?_ (by decide) short (.inr noDigit_afterWord)
  · rw [skipSpaces_skipSpaces, nextWord_append_afterWord]
  · rw [parseIntegerFixupRadix_ten]

theorem simpleStrntoll_digits {w rest : Bytes} (digits : ∀ c ∈ w, isDigitOf 10 c = true)
    (nonempty : w ≠ []) (short : w.length ≤ INT_MAX) (stop : NoDigit 10 rest) :
    simpleStrntoll (w ++ rest) INT_MAX 10 = ((digitsValue 10 w : ℤ), rest) := by
  have parsed : simpleStrntoull (w ++ rest) INT_MAX 10 = (digitsValue 10 w, rest) :=
    simpleStrntoull_digits (by rw [parseIntegerFixupRadix_ten]) digits (by decide) short (.inr stop)
  unfold simpleStrntoll
  split
  · rename_i same
    cases w with
    | nil => exact absurd rfl nonempty
    | cons c w =>
      obtain ⟨d, found, -⟩ := digitValue_of_isDigitOf (digits c List.mem_cons_self)
      obtain ⟨rfl, -⟩ := List.cons.inj same
      cases found
  · rw [parsed]

theorem simpleStrntoll_minus {w rest : Bytes} (digits : ∀ c ∈ w, isDigitOf 10 c = true)
    (short : w.length < INT_MAX) (stop : NoDigit 10 rest) :
    simpleStrntoll (45 :: (w ++ rest)) INT_MAX 10 = (-(digitsValue 10 w : ℤ), rest) := by
  have parsed : simpleStrntoull (w ++ rest) (INT_MAX - 1) 10 = (digitsValue 10 w, rest) :=
    simpleStrntoull_digits (by rw [parseIntegerFixupRadix_ten]) digits (by decide)
      (Nat.le_sub_one_of_lt short) (.inr stop)
  unfold simpleStrntoll
  split
  · rename_i same
    obtain ⟨-, rfl⟩ := List.cons.inj same
    rw [if_pos (by decide), parsed]
  · rename_i other
    exact absurd rfl (other _)

/-- `%d` takes a numeral whole, with its sign. -/
theorem vsscanf_int {z : ℤ} (value : intNumeral (nextWord s) = some z)
    (short : (nextWord s).length ≤ INT_MAX) : vsscanf (.space :: .int :: format) s =
      .int (Int32.ofInt z) :: vsscanf format (afterWord s) := by
  have text := nextWord_append_afterWord s
  have again : skipSpaces (skipSpaces s) = skipSpaces s := skipSpaces_skipSpaces s
  generalize nextWord s = word at value short text
  have scanned : ∃ str, scanNumber 10 true (skipSpaces s) = some str ∧
      simpleStrntoll str INT_MAX 10 = (z, afterWord s) := by
    unfold intNumeral at value
    split at value
    · rename_i w
      obtain ⟨n, number, rfl⟩ := Option.map_eq_some_iff.1 value
      obtain ⟨nonempty, digits, rfl⟩ := numeral_eq_some number
      have shorter : w.length < INT_MAX := short
      refine ⟨_, ?_, simpleStrntoll_minus digits shorter noDigit_afterWord⟩
      cases w with
      | nil => exact absurd rfl nonempty
      | cons c w =>
        unfold scanNumber
        rw [again, ← text]
        exact if_pos (by simpa using digits c List.mem_cons_self)
    · obtain ⟨n, number, rfl⟩ := Option.map_eq_some_iff.1 value
      obtain ⟨nonempty, digits, rfl⟩ := numeral_eq_some number
      refine ⟨_, ?_, simpleStrntoll_digits digits nonempty short noDigit_afterWord⟩
      cases word with
      | nil => exact absurd rfl nonempty
      | cons c w =>
        exact scanNumber_of_digit (again.trans text.symm) (digits c List.mem_cons_self)
  obtain ⟨str, scan, parsed⟩ := scanned
  rw [vsscanf_space, vsscanf_int_eq, scan, Option.elim_some, parsed]

theorem vsscanf_char (format : List ScanDirective) (c : UInt8) (s : Bytes) :
    vsscanf (.char c :: format) (c :: s) = vsscanf format s := if_pos rfl

/-- A character of the format stands at the start, or the scan ends. -/
theorem vsscanf_char_cases (format : List ScanDirective) (c : UInt8) (s : Bytes) :
    vsscanf (.char c :: format) s = [] ∨
      ∃ rest, s = c :: rest ∧ vsscanf (.char c :: format) s = vsscanf format rest := by
  cases s with
  | nil => exact .inl rfl
  | cons d s =>
    by_cases same : c = d
    · subst same
      exact .inr ⟨s, rfl, vsscanf_char format c s⟩
    · exact .inl (if_neg same)

/-- A conversion of a number is made or ends the scan. -/
theorem vsscanf_u_cases (format : List ScanDirective) (s : Bytes) :
    vsscanf (.space :: .u :: format) s = [] ∨
      ∃ v rest, vsscanf (.space :: .u :: format) s = .uint v :: vsscanf format rest := by
  unfold ScanDirective.u
  rw [vsscanf_space, vsscanf_uint_eq]
  cases scanNumber 10 false (skipSpaces s) with
  | none => exact .inl rfl
  | some str => exact .inr ⟨_, _, rfl⟩

theorem vsscanf_int_cases (format : List ScanDirective) (s : Bytes) :
    vsscanf (.space :: .int :: format) s = [] ∨
      ∃ v rest, vsscanf (.space :: .int :: format) s = .int v :: vsscanf format rest := by
  rw [vsscanf_space, vsscanf_int_eq]
  cases scanNumber 10 true (skipSpaces s) with
  | none => exact .inl rfl
  | some str => exact .inr ⟨_, _, rfl⟩

end Words

/-! ## Hexadecimal fields -/

section Hex

variable {base width : ℕ} {w rest s : Bytes} {n : ℕ} {format : List ScanDirective}

theorem digitsValue_lt (digits : ∀ c ∈ w, isDigitOf base c = true) :
    digitsValue base w < base ^ w.length := by
  induction w using List.reverseRecOn with
  | nil => exact Nat.one_pos
  | append_singleton w c ih =>
    obtain ⟨d, found, lt⟩ := digitValue_of_isDigitOf (digits c (by simp))
    have before := ih fun c mem => digits c (List.mem_append_left _ mem)
    unfold digitsValue at before ⊢
    rw [List.foldl_append, List.foldl_cons, List.foldl_nil, found, Option.getD_some,
      List.length_append, List.length_singleton, pow_succ]
    exact Nat.lt_of_lt_of_le (Nat.add_lt_add_left lt _)
      ((Nat.succ_mul _ _).symm.trans_le (Nat.mul_le_mul_right _ before))

theorem numeral_lt (value : numeral base w = some n) : n < base ^ w.length := by
  obtain ⟨-, digits, rfl⟩ := numeral_eq_some value
  exact digitsValue_lt digits

/-- The digits at the start of a text, as many as a field takes. -/
theorem exists_digits (base width : ℕ) (s : Bytes) : ∃ w rest, s = w ++ rest ∧
    (∀ c ∈ w, isDigitOf base c = true) ∧ w.length ≤ width ∧
      (w.length = width ∨ NoDigit base rest) := by
  induction width generalizing s with
  | zero => exact ⟨[], s, rfl, by simp, le_rfl, .inl rfl⟩
  | succ width ih =>
    have none' (no : NoDigit base s) : ∃ w rest, s = w ++ rest ∧
        (∀ c ∈ w, isDigitOf base c = true) ∧ w.length ≤ width + 1 ∧
          (w.length = width + 1 ∨ NoDigit base rest) :=
      ⟨[], s, rfl, by simp, Nat.zero_le _, .inr no⟩
    cases s with
    | nil => exact none' fun c first => by cases first
    | cons c s =>
      by_cases digit : isDigitOf base c = true
      · obtain ⟨w, rest, rfl, digits, fits, stop⟩ := ih s
        refine ⟨c :: w, rest, rfl, ?_, Nat.succ_le_succ fits, by simpa using stop⟩
        simpa [digit] using digits
      · refine none' fun c' first => ?_
        obtain rfl : c = c' := by simpa using first
        simpa using digit

theorem tolower_of_digit {c : UInt8} (digit : isDigitOf base c = true) : tolower c ≠ 120 := by
  intro x
  obtain ⟨d, found, -⟩ := digitValue_of_isDigitOf digit
  unfold digitValue at found
  split_ifs at found with decimal hex
  · have known : c = 48 ∨ c = 49 ∨ c = 50 ∨ c = 51 ∨ c = 52 ∨ c = 53 ∨ c = 54 ∨ c = 55 ∨ c = 56 ∨
        c = 57 := by
      simp only [UInt8.le_iff_toNat_le, ← UInt8.toNat_inj, UInt8.reduceToNat] at decimal ⊢
      omega
    obtain rfl | rfl | rfl | rfl | rfl | rfl | rfl | rfl | rfl | rfl := known <;> cases x
  · rw [x] at hex
    exact absurd hex.2 (by decide)

/-- Without the letter x there is no prefix. -/
theorem parseIntegerFixupRadix_plain (noX : ∀ c rest, s = 48 :: c :: rest → tolower c ≠ 120) :
    (parseIntegerFixupRadix 16 s).2 = s := by
  have sixteen : ∀ b, (if (16 : ℕ) ≠ 0 then 16 else b) = 16 := fun b => if_pos (by decide)
  unfold parseIntegerFixupRadix
  simp only [sixteen]
  split
  · rename_i c rest
    exact if_neg fun hex => noX c rest rfl hex.2
  · rfl

theorem parseIntegerFixupRadix_hex {p : UInt8} (x : tolower p = 120) (rest : Bytes) :
    (parseIntegerFixupRadix 16 (48 :: p :: rest)).2 = rest := if_pos ⟨rfl, x⟩

/-- A prefix counts among the characters of the field. -/
theorem simpleStrntoull_hex {p : UInt8} (x : tolower p = 120)
    (all : ∀ c ∈ w, isDigitOf 16 c = true) (fits : w.length + 2 ≤ width)
    (stop : w.length + 2 = width ∨ NoDigit 16 rest) :
    simpleStrntoull (48 :: p :: (w ++ rest)) width 16 = (digitsValue 16 w, rest) := by
  have taken : (48 :: p :: (w ++ rest)).length - (w ++ rest).length = 2 := by
    rw [List.length_cons, List.length_cons]
    omega
  unfold simpleStrntoull
  rw [parseIntegerFixupRadix_hex x]
  dsimp only
  rw [taken]
  by_cases more : 2 < width
  · rw [if_pos more, parseInteger_take all (by omega) (stop.imp_left (by omega))]
    dsimp only
    rw [List.drop_left]
  · obtain rfl : width = 2 := by omega
    obtain rfl : w = [] := by
      rw [← List.length_eq_zero_iff]
      omega
    rfl

/-- The value of a field that is full, or whose text does not go on. -/
theorem HexField.value (field : HexField width w n)
    (stop : w.length = width ∨ NoDigit 16 rest ∧ ∀ c ∈ rest.head?, w = [48] → tolower c ≠ 120) :
    simpleStrntoull (w ++ rest) width 16 = (n, rest) := by
  obtain ⟨fits, number | ⟨p, digits, rfl, x, all, rfl⟩⟩ := field
  · obtain ⟨nonempty, digits, rfl⟩ := numeral_eq_some number
    have positive : 0 < w.length := List.length_pos_iff.2 nonempty
    by_cases plain : (parseIntegerFixupRadix 16 (w ++ rest)).2 = w ++ rest
    · exact simpleStrntoull_digits plain digits (by omega) fits (stop.imp_right And.left)
    -- a zero that fills its field, and the letter x behind it
    · obtain ⟨c, rest', text, x⟩ : ∃ c rest', w ++ rest = 48 :: c :: rest' ∧ tolower c = 120 := by
        by_contra none'
        refine plain (parseIntegerFixupRadix_plain fun c rest' text x => none' ⟨c, rest', text, x⟩)
      cases w with
      | nil => exact absurd rfl nonempty
      | cons z w =>
        obtain ⟨rfl, behind⟩ := List.cons.inj text
        cases w with
        | nil =>
          obtain rfl : rest = c :: rest' := behind
          obtain full | ⟨-, noX⟩ := stop
          · obtain rfl : 1 = width := full
            have taken : (48 :: c :: rest').length - rest'.length = 2 := by
              rw [List.length_cons, List.length_cons]
              omega
            unfold simpleStrntoull
            rw [List.singleton_append, parseIntegerFixupRadix_hex x]
            dsimp only
            rw [taken]
            rfl
          · exact absurd x (noX c rfl rfl)
        | cons d w =>
          obtain ⟨rfl, -⟩ := List.cons.inj behind
          exact absurd x (tolower_of_digit (digits d (by simp)))
  · exact simpleStrntoull_hex x all fits (stop.imp_right And.left)

/-- A field at the start of a text with a digit in front. -/
theorem exists_hexField {c : UInt8} (digit : isDigitOf 16 c = true) (positive : 0 < width)
    (s : Bytes) : ∃ w rest n, c :: s = w ++ rest ∧ HexField width w n ∧
      (w.length = width ∨ NoDigit 16 rest ∧ ∀ c ∈ rest.head?, w = [48] → tolower c ≠ 120) := by
  by_cases hex : 1 < width ∧ c = 48 ∧ ∃ p rest, s = p :: rest ∧ tolower p = 120
  · obtain ⟨wide, rfl, p, s, rfl, x⟩ := hex
    obtain ⟨w, rest, rfl, digits, fits, stop⟩ := exists_digits 16 (width - 2) s
    refine ⟨48 :: p :: w, rest, _, rfl, ⟨?_, .inr ⟨p, w, rfl, x, digits, rfl⟩⟩, ?_⟩
    · rw [List.length_cons, List.length_cons]
      omega
    · obtain full | no := stop
      · left
        rw [List.length_cons, List.length_cons]
        omega
      · refine .inr ⟨no, fun c _ zero => ?_⟩
        cases zero
  · obtain ⟨w, rest, text, digits, fits, stop⟩ := exists_digits 16 width (c :: s)
    have nonempty : w ≠ [] := by
      rintro rfl
      obtain zero | no := stop
      · exact positive.ne zero
      · rw [List.nil_append] at text
        have := no c (by rw [← text]; rfl)
        rw [digit] at this
        cases this
    refine ⟨w, rest, _, text, ⟨fits, .inl (numeral_of_digits nonempty digits)⟩, ?_⟩
    obtain full | no := stop
    · exact .inl full
    by_cases full : w.length = width
    · exact .inl full
    refine .inr ⟨no, ?_⟩
    rintro p first rfl x
    cases rest with
    | nil => cases first
    | cons p' rest =>
      cases first
      rw [List.length_singleton] at full fits
      obtain ⟨zero, rfl⟩ := List.cons.inj text
      exact hex ⟨by omega, zero, p, rest, rfl, x⟩

/-- A hexadecimal field of a text without blanks. -/
theorem vsscanf_hexField (format : List ScanDirective) (noBlank : ∀ c ∈ w, isspace c = false)
    (field : HexField width w n)
    (stop : w.length = width ∨ NoDigit 16 rest ∧ ∀ c ∈ rest.head?, w = [48] → tolower c ≠ 120) :
    vsscanf (.uint 16 width :: format) (w ++ rest) =
      .uint (UInt32.ofNat n) :: vsscanf format rest := by
  have first : ∃ c w', w = c :: w' ∧ isDigitOf 16 c = true := by
    obtain ⟨-, number | ⟨p, digits, rfl, -⟩⟩ := field
    · obtain ⟨nonempty, digits, -⟩ := numeral_eq_some number
      cases w with
      | nil => exact absurd rfl nonempty
      | cons c w => exact ⟨c, w, rfl, digits c List.mem_cons_self⟩
    · exact ⟨48, _, rfl, by decide⟩
  obtain ⟨c, w', rfl, digit⟩ := first
  have word : skipSpaces (c :: w' ++ rest) = c :: w' ++ rest :=
    List.dropWhile_cons_of_neg (by simp [noBlank c List.mem_cons_self])
  have scan : scanNumber 16 false (c :: w' ++ rest) = some (c :: w' ++ rest) :=
    scanNumber_of_digit word digit
  rw [vsscanf_uint_eq, scan, Option.elim_some, field.value stop]

/-- The scan goes on behind such a field, or ends. -/
theorem vsscanf_hexField_cases (format : List ScanDirective) (width : ℕ) (positive : 0 < width)
    (noBlank : ∀ c ∈ s, isspace c = false) :
    vsscanf (.uint 16 width :: format) s = [] ∨ ∃ w rest n, s = w ++ rest ∧ HexField width w n ∧
      vsscanf (.uint 16 width :: format) s = .uint (UInt32.ofNat n) :: vsscanf format rest := by
  cases s with
  | nil => exact .inl rfl
  | cons c s =>
    by_cases digit : isDigitOf 16 c = true
    · obtain ⟨w, rest, n, text, field, stop⟩ := exists_hexField digit positive s
      rw [text] at noBlank ⊢
      have inField : ∀ c ∈ w, isspace c = false :=
        fun c mem => noBlank c (List.mem_append_left _ mem)
      exact .inr ⟨w, rest, n, rfl, field, vsscanf_hexField format inField field stop⟩
    · left
      have word : skipSpaces (c :: s) = c :: s :=
        List.dropWhile_cons_of_neg (by simp [noBlank c List.mem_cons_self])
      refine vsscanf_noDigit fun c' first => ?_
      rw [word] at first
      obtain rfl : c = c' := by simpa using first
      simpa using digit

/-- The same behind a separator. -/
theorem vsscanf_char_hexField_cases (format : List ScanDirective) (c : UInt8) (width : ℕ)
    (positive : 0 < width) (noBlank : ∀ c ∈ s, isspace c = false) :
    vsscanf (.char c :: .uint 16 width :: format) s = [] ∨ ∃ w rest n, s = c :: (w ++ rest) ∧
      HexField width w n ∧ vsscanf (.char c :: .uint 16 width :: format) s =
        .uint (UInt32.ofNat n) :: vsscanf format rest := by
  obtain none' | ⟨s, rfl, behind⟩ := vsscanf_char_cases (.uint 16 width :: format) c s
  · exact .inl none'
  rw [behind]
  obtain none' | ⟨w, rest, n, rfl, field, scan⟩ := vsscanf_hexField_cases format width positive
    fun c mem => noBlank c (List.mem_cons_of_mem _ mem)
  · exact .inl none'
  · exact .inr ⟨w, rest, n, rfl, field, scan⟩

theorem HexField.length_pos (field : HexField width w n) : 0 < w.length := by
  obtain ⟨-, number | ⟨p, digits, rfl, -⟩⟩ := field
  · exact List.length_pos_iff.2 (numeral_eq_some number).1
  · exact Nat.succ_pos _

theorem HexField.lt (field : HexField width w n) : n < 16 ^ width := by
  obtain ⟨fits, number | ⟨p, digits, rfl, -, all, rfl⟩⟩ := field
  · exact (numeral_lt number).trans_le (Nat.pow_le_pow_right (by decide) fits)
  · rw [List.length_cons, List.length_cons] at fits
    exact (digitsValue_lt all).trans_le (Nat.pow_le_pow_right (by decide) (by omega))

/-- Without the letter x a field is a numeral. -/
theorem HexField.numeral_of_noX (field : HexField width w n) (noX : ∀ c ∈ w, tolower c ≠ 120) :
    numeral 16 w = some n := by
  obtain ⟨-, number | ⟨p, digits, rfl, x, -⟩⟩ := field
  · exact number
  · exact absurd x (noX p (by simp))

end Hex

end Netdevsim
