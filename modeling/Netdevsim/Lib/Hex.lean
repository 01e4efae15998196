import Mathlib.Tactic

/-!
# Bytes in hexadecimal

`bin2hex` writes each byte as two digits in lower case, `hex2bin` reads digits of either case.
Reading back what was written gives the bytes (`hex2bin_bin2hex`); writing what was read gives the
digits in lower case (`bin2hex_of_hex2bin`).
-/

namespace Hex

/-- The value of a digit. -/
def hexToBin (c : UInt8) : Option UInt8 :=
  if 48 ≤ c ∧ c ≤ 57 then some (c - 48)
  else if 65 ≤ c ∧ c ≤ 70 then some (c - 55)
  else if 97 ≤ c ∧ c ≤ 102 then some (c - 87)
  else none

/-- The digit of a value. -/
def hexAsc (v : UInt8) : UInt8 := if v < 10 then v + 48 else v + 87

/-- A digit in lower case. -/
def lower (c : UInt8) : UInt8 := if 65 ≤ c ∧ c ≤ 70 then c + 32 else c

/-- The first `n` bytes written in a text. -/
def hex2bin : ℕ → List UInt8 → Option (List UInt8)
  | 0, _ => some []
  | n + 1, hi :: lo :: text =>
    match hexToBin hi, hexToBin lo with
    | some h, some l => (hex2bin n text).map fun bytes => (h <<< 4 ||| l) :: bytes
    | _, _ => none
  | _ + 1, _ => none

def bin2hex : List UInt8 → List UInt8
  | [] => []
  | b :: bytes => hexAsc (b >>> 4) :: hexAsc (b &&& 15) :: bin2hex bytes

/-! ## Single digits -/

/-- What holds of the 256 bytes, seen one by one. -/
theorem each_byte : ∀ i : Fin 256, let b := UInt8.ofFin i
    hexToBin (hexAsc (b >>> 4)) = some (b >>> 4) ∧ hexToBin (hexAsc (b &&& 15)) = some (b &&& 15) ∧
    (b >>> 4) <<< 4 ||| (b &&& 15) = b ∧
    ((hexToBin b).all fun v : UInt8 => v &&& 15 = v ∧ v >>> 4 = 0 ∧ hexAsc v = lower b) = true ∧
    (b &&& 15 = b → (b <<< 4) >>> 4 = b ∧ b <<< 4 &&& 15 = 0) := by
  decide +kernel

theorem hexToBin_hexAsc_high (b : UInt8) : hexToBin (hexAsc (b >>> 4)) = some (b >>> 4) :=
  (each_byte b.toFin).1

theorem hexToBin_hexAsc_low (b : UInt8) : hexToBin (hexAsc (b &&& 15)) = some (b &&& 15) :=
  (each_byte b.toFin).2.1

theorem join_halves (b : UInt8) : (b >>> 4) <<< 4 ||| (b &&& 15) = b :=
  (each_byte b.toFin).2.2.1

/-- A digit has a value below 16, and is the digit of this value up to its case. -/
theorem of_hexToBin {c v : UInt8} (digit : hexToBin c = some v) :
    v &&& 15 = v ∧ v >>> 4 = 0 ∧ hexAsc v = lower c := by
  obtain ⟨-, -, -, all, -⟩ := each_byte c.toFin
  rw [UInt8.ofFin_toFin, digit, Option.all_some] at all
  exact of_decide_eq_true all

/-- The two halves of a byte can be told apart. -/
theorem split_halves {h l : UInt8} (high : h &&& 15 = h) (low : l &&& 15 = l) (none : l >>> 4 = 0) :
    (h <<< 4 ||| l) >>> 4 = h ∧ (h <<< 4 ||| l) &&& 15 = l := by
  have back := (each_byte h.toFin).2.2.2.2 high
  rw [UInt8.ofFin_toFin] at back
  constructor
  · rw [UInt8.shiftRight_or, back.1, none, UInt8.or_zero]
  · have distrib : (h <<< 4 ||| l) &&& (15 : UInt8) = (h <<< 4 &&& 15) ||| (l &&& 15) := by
      rw [← UInt8.toNat_inj]
      simp only [UInt8.toNat_and, UInt8.toNat_or]
      exact Nat.and_or_distrib_right _ _ _
    rw [distrib, back.2, low, UInt8.zero_or]

/-! ## Texts -/

theorem length_bin2hex (bytes : List UInt8) : (bin2hex bytes).length = 2 * bytes.length := by
  induction bytes with
  | nil => rfl
  | cons b bytes ih =>
    simp only [bin2hex, List.length_cons, ih]
    omega

theorem length_of_hex2bin {n : ℕ} {text bytes : List UInt8} (read : hex2bin n text = some bytes) :
    bytes.length = n := by
  induction n generalizing text bytes with
  | zero =>
    obtain rfl := Option.some.inj read
    rfl
  | succ n ih =>
    match text with
    | [] => cases read
    | [_] => cases read
    | hi :: lo :: text =>
      simp only [hex2bin] at read
      split at read
      · obtain ⟨rest, tail, rfl⟩ := Option.map_eq_some_iff.1 read
        rw [List.length_cons, ih tail]
      · cases read

/-- What is written is read back. -/
theorem hex2bin_bin2hex (bytes rest : List UInt8) :
    hex2bin bytes.length (bin2hex bytes ++ rest) = some bytes := by
  induction bytes with
  | nil => rfl
  | cons b bytes ih =>
    simp only [bin2hex, List.cons_append, List.length_cons, hex2bin, hexToBin_hexAsc_high,
      hexToBin_hexAsc_low, ih, Option.map_some, join_halves]

/-- What is read is what is written, in lower case. -/
theorem bin2hex_of_hex2bin {n : ℕ} {text bytes : List UInt8} (read : hex2bin n text = some bytes) :
    bin2hex bytes = (text.take (2 * n)).map lower := by
  induction n generalizing text bytes with
  | zero =>
    obtain rfl := Option.some.inj read
    rfl
  | succ n ih =>
    match text with
    | [] => cases read
    | [_] => cases read
    | hi :: lo :: text =>
      simp only [hex2bin] at read
      split at read
      · rename_i h l first second
        obtain ⟨rest, tail, rfl⟩ := Option.map_eq_some_iff.1 read
        obtain ⟨high, -, upper⟩ := of_hexToBin first
        obtain ⟨low, none, below⟩ := of_hexToBin second
        obtain ⟨top, bottom⟩ := split_halves high low none
        rw [bin2hex, top, bottom, upper, below, ih tail]
        rfl
      · cases read

/-- A text is read if and only if it is long enough and begins with digits. -/
theorem hex2bin_isSome_iff {n : ℕ} {text : List UInt8} : (hex2bin n text).isSome = true ↔
    2 * n ≤ text.length ∧ ∀ c ∈ text.take (2 * n), (hexToBin c).isSome = true := by
  induction n generalizing text with
  | zero => simp [hex2bin]
  | succ n ih =>
    match text with
    | [] => simp [hex2bin]
    | [_] =>
      refine iff_of_false (by simp [hex2bin]) fun both => ?_
      have long := both.1
      simp only [List.length_cons, List.length_nil] at long
      omega
    | hi :: lo :: text =>
      have double : 2 * (n + 1) = 2 * n + 1 + 1 := by omega
      rw [double, List.take_succ_cons, List.take_succ_cons, List.forall_mem_cons,
        List.forall_mem_cons, List.length_cons, List.length_cons]
      cases first : hexToBin hi with
      | none => simp [hex2bin, first]
      | some h =>
        cases second : hexToBin lo with
        | none => simp [hex2bin, first, second]
        | some l =>
          simp only [hex2bin, first, second, Option.isSome_map, ih, Option.isSome_some, true_and,
            Nat.add_le_add_iff_right]

end Hex
