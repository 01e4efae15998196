import Netdevsim.Lib.FixedWidth

/-!
# The kernel helpers the drivers call

Error numbers, the parsing of numbers and keywords written to sysfs files, `timespec64` and the
expiry times of high resolution timers.  A string written to a sysfs file arrives terminated by a
zero byte; `cstr` is the part before it.
-/

namespace Netdevsim

open FixedWidth

/-- The (negated) error codes returned by the modelled functions. -/
inductive Errno where
  | EPERM | ENOENT | E2BIG | ENOMEM | EFAULT | EBUSY | EEXIST | ENODEV | EINVAL | ENOTTY | ENOSPC
  | ERANGE | ENODATA | EMSGSIZE | EOPNOTSUPP | ERESTARTSYS
  deriving DecidableEq, Repr

/-! ## Strings written by the user -/

abbrev Bytes := List UInt8

/-- The C string held by a buffer: the bytes before the first zero byte. -/
def cstr (buf : Bytes) : Bytes := buf.takeWhile (· ≠ 0)

/-- The bytes of an ASCII text. -/
def ascii (s : String) : Bytes := s.toList.map fun c => UInt8.ofNat c.toNat

/-- `sysfs_streq`: equal up to one trailing newline. -/
def sysfsStreq (s₁ s₂ : Bytes) : Bool :=
  let a := cstr s₁
  let b := cstr s₂
  a == b || a ++ [10] == b || a == b ++ [10]

/-- `_tolower`. -/
def tolower (c : UInt8) : UInt8 := c ||| 0x20

/-- The value of a digit of `_parse_integer`, letters in either case. -/
def digitValue (c : UInt8) : Option ℕ :=
  if 48 ≤ c ∧ c ≤ 57 then some (c.toNat - 48)
  else if 97 ≤ tolower c ∧ tolower c ≤ 102 then some ((tolower c).toNat - 97 + 10)
  else none

/-- `_parse_integer`: the value of the longest prefix of digits below `base`, the number of digits
and the rest of the string.  The value is exact; the overflow flag is `2 ^ 64 ≤ value`. -/
def parseInteger (base : ℕ) : Bytes → ℕ → ℕ → ℕ × ℕ × Bytes
  | [], value, digits => (value, digits, [])
  | c :: s, value, digits =>
    match digitValue c with
    | some d => if d < base then parseInteger base s (value * base + d) (digits + 1)
        else (value, digits, c :: s)
    | none => (value, digits, c :: s)

/-- `_parse_integer_fixup_radix`: the base named by the prefix when `base` is 0. -/
def parseIntegerFixupRadix (base : ℕ) (s : Bytes) : ℕ × Bytes :=
  let base :=
    if base ≠ 0 then base
    else match s with
      | 48 :: x :: d :: _ => if tolower x = 120 ∧ (digitValue d).isSome then 16 else 8
      | 48 :: _ => 8
      | _ => 10
  match s with
  | 48 :: x :: rest => (base, if base = 16 ∧ tolower x = 120 then rest else s)
  | _ => (base, s)

theorem parseIntegerFixupRadix_ten (s : Bytes) : parseIntegerFixupRadix 10 s = (10, s) := by
  have ten : ∀ b, (if (10 : ℕ) ≠ 0 then 10 else b) = 10 := fun b => if_pos (by decide)
  unfold parseIntegerFixupRadix
  simp only [ten]
  split
  · rw [if_neg fun hex => absurd hex.1 (by decide)]
  · rfl

/-- `kstrtoull`. -/
def kstrtoull (buf : Bytes) (base : ℕ) : Except Errno ℕ :=
  let s := match cstr buf with
    | 43 :: s => s
    | s => s
  let (base, s) := parseIntegerFixupRadix base s
  let (value, digits, rest) := parseInteger base s 0 0
  if 2 ^ 64 ≤ value then .error .ERANGE
  else if digits = 0 then .error .EINVAL
  else if rest = [] ∨ rest = [10] then .ok value
  else .error .EINVAL

/-- `kstrtouint`, and `kstrtou32`. -/
def kstrtouint (buf : Bytes) (base : ℕ) : Except Errno UInt32 :=
  match kstrtoull buf base with
  | .error e => .error e
  | .ok value => if value < 2 ^ 32 then .ok (UInt32.ofNat value) else .error .ERANGE

example : kstrtouint (ascii "0x1F\n") 0 = .ok 31 := by decide
example : kstrtouint (ascii "12 ") 0 = .error .EINVAL := by decide

/-! ## Time -/

def NSEC_PER_MSEC : ℕ := 1000000
def NSEC_PER_SEC : ℕ := 1000000000

/-- `struct timespec64`. -/
structure Timespec64 where
  tvSec : Int64
  tvNsec : Int64
  deriving DecidableEq, Repr

/-- The nanoseconds a `timespec64` stands for. -/
def Timespec64.ns (ts : Timespec64) : ℤ := ts.tvSec.toInt * NSEC_PER_SEC + ts.tvNsec.toInt

/-- `KTIME_SEC_MAX`, the whole seconds below `KTIME_MAX`. -/
def KTIME_SEC_MAX : Int64 := 9223372036

/-- `timespec64_to_ns`, saturating at both ends. -/
def timespec64ToNs (ts : Timespec64) : Int64 :=
  if KTIME_SEC_MAX ≤ ts.tvSec then Int64.maxValue
  else if ts.tvSec ≤ -KTIME_SEC_MAX then Int64.minValue
  else ts.tvSec * 1000000000 + ts.tvNsec

/-- `timespec64_to_ktime`, saturating at the upper end only. -/
def timespec64ToKtime (ts : Timespec64) : Int64 :=
  if KTIME_SEC_MAX ≤ ts.tvSec then Int64.maxValue else ts.tvSec * 1000000000 + ts.tvNsec

/-- `ns_to_timespec64`: the seconds round down, so that the nanoseconds are never negative. -/
def nsToTimespec64 (ns : Int64) : Timespec64 :=
  ⟨Int64.ofInt (ns.toInt / NSEC_PER_SEC), Int64.ofInt (ns.toInt % NSEC_PER_SEC)⟩

/-- Splitting a nanosecond count in seconds and nanoseconds loses nothing. -/
theorem ns_nsToTimespec64 (ns : Int64) : (nsToTimespec64 ns).ns = ns.toInt := by
  have h := fits64_toInt ns
  unfold Fits64 at h
  unfold Timespec64.ns nsToTimespec64
  rw [toInt_ofInt_of_fits, toInt_ofInt_of_fits]
  · simp only [NSEC_PER_SEC]
    omega
  all_goals
    simp only [Fits64, NSEC_PER_SEC]
    omega

theorem nsToTimespec64_normalized (ns : Int64) :
    0 ≤ (nsToTimespec64 ns).tvNsec.toInt ∧ (nsToTimespec64 ns).tvNsec.toInt < NSEC_PER_SEC := by
  unfold nsToTimespec64
  rw [toInt_ofInt_of_fits]
  · simp only [NSEC_PER_SEC]
    omega
  · simp only [Fits64, NSEC_PER_SEC]
    omega

/-! ## High resolution timers

A timer is `none` while it is not queued and `some e` while it is queued to expire at the monotonic
time `e`. -/

abbrev Hrtimer := Option ℕ

/-- `hrtimer_start` with `HRTIMER_MODE_REL`: (re)queue the timer. -/
def hrtimerStart (now delta : ℕ) : Hrtimer := some (now + delta)

/-- `hrtimer_forward_now`, called with the timer's last expiry at the time `now`: the first
`expires + k * interval` with `1 ≤ k` later than `now`.  The interval is at least the resolution. -/
def hrtimerForwardNow (expires now interval : ℕ) : ℕ :=
  if now < expires then expires
  else expires + ((now - expires) / max interval 1 + 1) * max interval 1

theorem lt_hrtimerForwardNow (expires now interval : ℕ) :
    now < hrtimerForwardNow expires now interval := by
  unfold hrtimerForwardNow
  split_ifs with early
  · exact early
  · have := Nat.lt_div_mul_add (a := now - expires) (b := max interval 1) (by omega)
    rw [Nat.succ_mul]
    omega

/-- A callback that ran at or after its expiry is requeued at most one interval from now. -/
theorem hrtimerForwardNow_le {expires now interval : ℕ} (due : expires ≤ now)
    (positive : 0 < interval) : hrtimerForwardNow expires now interval ≤ now + interval := by
  unfold hrtimerForwardNow
  rw [if_neg (by omega), Nat.max_eq_left (by omega), Nat.succ_mul]
  have := Nat.div_mul_le_self (now - expires) interval
  omega

/-- The new expiry is the first of the `expires + k * interval`, `1 ≤ k`, later than `now`. -/
theorem hrtimerForwardNow_first {expires now interval : ℕ} (due : expires ≤ now)
    (positive : 0 < interval) :
    (∃ k, 1 ≤ k ∧ hrtimerForwardNow expires now interval = expires + k * interval) ∧
      ∀ k, 1 ≤ k → now < expires + k * interval →
        hrtimerForwardNow expires now interval ≤ expires + k * interval := by
  unfold hrtimerForwardNow
  rw [if_neg (by omega), Nat.max_eq_left (by omega)]
  refine ⟨⟨_, Nat.le_add_left 1 _, rfl⟩, fun k _ late => ?_⟩
  have : (now - expires) / interval < k := by
    rw [Nat.div_lt_iff_lt_mul positive]
    omega
  exact Nat.add_le_add_left (Nat.mul_le_mul_right _ this) _

end Netdevsim
