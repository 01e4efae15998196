import Mathlib.Tactic

/-!
# Frames in a stream

A `Code` writes each message as a frame that can be read back whatever follows it.  A reader that
looks for frames one after the other, moving on by one symbol where none starts, then finds in the
concatenation of some frames exactly the messages they were made of.
-/

namespace Framing

variable {α β γ : Type*}

/-- A way to write messages as frames, and to read off the frame at the start of a stream what it
says, together with what is behind it. -/
structure Code (α β γ : Type*) where
  encode : α → List β
  meaning : α → γ
  decode : List β → Option (γ × List β)
  encode_ne_nil : ∀ a, encode a ≠ []
  decode_encode : ∀ a rest, decode (encode a ++ rest) = some (meaning a, rest)

/-- What the frames of a stream say. -/
def scan (decode : List β → Option (γ × List β)) : (fuel : ℕ) → List β → List γ
  | 0, _ => []
  | _ + 1, [] => []
  | fuel + 1, x :: xs =>
    match decode (x :: xs) with
    | some (a, rest) => a :: scan decode fuel rest
    | none => scan decode fuel xs

/-- A stream in which no frame starts. -/
theorem scan_eq_nil {decode : List β → Option (γ × List β)} (fuel : ℕ) (stream : List β)
    (none : ∀ rest, rest <:+ stream → decode rest = none) : scan decode fuel stream = [] := by
  induction fuel generalizing stream with
  | zero => rfl
  | succ fuel ih =>
    cases stream with
    | nil => rfl
    | cons x xs =>
      rw [scan, none _ (List.suffix_refl _)]
      exact ih xs fun rest suffix => none rest (suffix.trans (List.suffix_cons x xs))

namespace Code

variable (code : Code α β γ)

/-- The frame at the start of a stream is the first that is found. -/
theorem scan_encode (fuel : ℕ) (a : α) (rest : List β) :
    scan code.decode (fuel + 1) (code.encode a ++ rest) =
      code.meaning a :: scan code.decode fuel rest := by
  have read := code.decode_encode a rest
  cases stream : code.encode a ++ rest with
  | nil => exact absurd (List.append_eq_nil_iff.1 stream).1 (code.encode_ne_nil a)
  | cons x xs =>
    rw [stream] at read
    rw [scan, read]

/-- Reading frames back gives what was written. -/
theorem scan_flatMap (messages : List α) (fuel : ℕ)
    (enough : (messages.flatMap code.encode).length < fuel) :
    scan code.decode fuel (messages.flatMap code.encode) = messages.map code.meaning := by
  induction messages generalizing fuel with
  | nil =>
    cases fuel with
    | zero => simp at enough
    | succ fuel => rfl
  | cons a messages ih =>
    obtain ⟨fuel, rfl⟩ := Nat.exists_eq_add_one_of_ne_zero (Nat.ne_zero_of_lt enough)
    have nonempty := List.length_pos_iff.2 (code.encode_ne_nil a)
    rw [List.flatMap_cons, List.length_append] at enough
    rw [List.flatMap_cons, code.scan_encode, ih fuel (by omega), List.map_cons]

end Code

end Framing
