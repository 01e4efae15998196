import Netdevsim.Lib.Program
import Netdevsim.Ptp.Clock

/-!
# PTP_SYS_OFFSET of the shim

The shim answers `PTP_SYS_OFFSET` itself, with the virtual clock in the place of CLOCK_REALTIME.  It
takes the samples of the kernel in the order of the kernel, but it stores them in the caller's
structure one by one, and clears the reserved word of every entry that it stores.  The kernel works
on a copy that it returns only in the end.
-/

namespace Netdevsim.Shim

open Program

/-! ## Data -/

/-- `struct ptp_clock_time`. -/
structure PtpClockTime where
  sec : Int64
  nsec : UInt32
  reserved : UInt32
  deriving DecidableEq, Repr

/-- The number of entries of `ts` in `struct ptp_sys_offset`. -/
abbrev PTP_SYS_OFFSET_TS : ℕ := 2 * 25 + 1

/-- `struct ptp_sys_offset`. -/
structure PtpSysOffset where
  nSamples : UInt32
  rsv : Fin 3 → UInt32
  ts : Fin PTP_SYS_OFFSET_TS → PtpClockTime

/-- The caller's structure, and the state of whatever the clocks depend on. -/
structure ShimWorld (ρ : Type) where
  env : ρ
  sysoff : PtpSysOffset

abbrev ShimM (ρ α : Type) := Program (ShimWorld ρ) Errno α

/-- `clock_gettime` of a clock: its value or the error, and what the clocks depend on afterwards. -/
abbrev ClockGettime (ρ : Type) := Int32 → ρ → Except Errno Timespec64 × ρ

/-- The variables of the shim. -/
structure VrtShim where
  vrtActive : Bool
  vrtFd : Int32
  vrtClk : Int32

def CLOCKFD : UInt32 := 3

/-- `FD_TO_CLOCKID`. -/
def fdToClockid (fd : Int32) : Int32 := (~~~fd.toUInt32 <<< 3 ||| CLOCKFD).toInt32

/-! ## The shim -/

section Shim

variable {ρ : Type}

/-- A call of `clock_gettime`. -/
def clockGettime (gettime : ClockGettime ρ) (clk : Int32) : ShimM ρ Timespec64 := fun w =>
  some ((gettime clk w.env).1, { w with env := (gettime clk w.env).2 })

/-- `ts_to_ptp`. -/
def tsToPtp (ts : Timespec64) : PtpClockTime := ⟨ts.tvSec, ts.tvNsec.toUInt64.toUInt32, 0⟩

/-- `read_vrt`. -/
def readVrt (shim : VrtShim) (gettime : ClockGettime ρ) : ShimM ρ Timespec64 :=
  clockGettime gettime shim.vrtClk

/-- `read_phc_fd`. -/
def readPhcFd (gettime : ClockGettime ρ) (fd : Int32) : ShimM ρ Timespec64 :=
  clockGettime gettime (fdToClockid fd)

/-- An assignment to `sysoff->ts[i]`. -/
def storeTs (i : ℕ) (pct : PtpClockTime) : ShimM ρ Unit :=
  if h : i < PTP_SYS_OFFSET_TS then
    modify fun w => { w with sysoff := { w.sysoff with
      ts := Function.update w.sysoff.ts ⟨i, h⟩ pct } }
  else goWrong

/-- The loop of `fake_sys_offset`, from `i` on. -/
def fakeSamples (shim : VrtShim) (gettime : ClockGettime ρ) (fd : Int32) :
    (left i : ℕ) → ShimM ρ Unit
  | 0, _ => pure ()
  | left + 1, i => do
    let ts ← readVrt shim gettime
    storeTs (2 * i) (tsToPtp ts)
    let ts ← readPhcFd gettime fd
    storeTs (2 * i + 1) (tsToPtp ts)
    fakeSamples shim gettime fd left (i + 1)

/-- `fake_sys_offset`, given a structure. -/
def fakeSysOffset (shim : VrtShim) (gettime : ClockGettime ρ) (fd : Int32) : ShimM ρ Unit := do
  let n := (← get).sysoff.nSamples
  failIf (PTP_MAX_SAMPLES < n) .EINVAL
  fakeSamples shim gettime fd n.toNat 0
  let ts ← readVrt shim gettime
  storeTs (2 * n.toNat) (tsToPtp ts)

/-- The requests that `ioctl` tells apart, the second version of each with the first. -/
inductive Request where
  | sysOffset | sysOffsetExtended | sysOffsetPrecise | other
  deriving DecidableEq, Repr

/-- `ioctl`, given what the shim answers to the other two requests and what the C library does with
a request. -/
def ioctl (shim : VrtShim) (gettime : ClockGettime ρ)
    (fakeSysOffsetExtended fakeSysOffsetPrecise : Int32 → ShimM ρ Unit)
    (realIoctl : Int32 → Request → ShimM ρ Unit) (fd : Int32) (request : Request) : ShimM ρ Unit :=
  if shim.vrtActive ∧ 0 ≤ fd ∧ fd ≠ shim.vrtFd then
    match request with
    | .sysOffset => fakeSysOffset shim gettime fd
    | .sysOffsetExtended => fakeSysOffsetExtended fd
    | .sysOffsetPrecise => fakeSysOffsetPrecise fd
    | .other => realIoctl fd .other
  else realIoctl fd request

/-! ## The kernel -/

/-- The assignments to `pct->sec` and `pct->nsec`. -/
def PtpClockTime.setTime (pct : PtpClockTime) (ts : Timespec64) : PtpClockTime :=
  { pct with sec := ts.tvSec, nsec := ts.tvNsec.toUInt64.toUInt32 }

/-- These assignments, where `pct` is the address of an entry of the kernel's copy. -/
def PtpSysOffset.setTime (sysoff : PtpSysOffset) (pct : ℕ) (ts : Timespec64) :
    ShimM ρ PtpSysOffset :=
  if h : pct < PTP_SYS_OFFSET_TS then
    return { sysoff with
      ts := Function.update sysoff.ts ⟨pct, h⟩ ((sysoff.ts ⟨pct, h⟩).setTime ts) }
  else goWrong

/-- The loop of `ptp_ioctl` for `PTP_SYS_OFFSET`. -/
def kernelSamples (getReal gettime64 : ShimM ρ Timespec64) :
    (left : ℕ) → PtpSysOffset → (pct : ℕ) → ShimM ρ (PtpSysOffset × ℕ)
  | 0, sysoff, pct => return (sysoff, pct)
  | left + 1, sysoff, pct => do
    let ts ← getReal
    let sysoff ← sysoff.setTime pct ts
    let ts ← gettime64
    let sysoff ← sysoff.setTime (pct + 1) ts
    kernelSamples getReal gettime64 left sysoff (pct + 2)

/-- `ptp_ioctl` of `PTP_SYS_OFFSET`.  `getReal` stands for `ktime_get_real_ts64`, which cannot fail;
what is put in its place may. -/
def kernelSysOffset (getReal gettime64 : ShimM ρ Timespec64) : ShimM ρ Unit := do
  let sysoff := (← get).sysoff
  failIf (PTP_MAX_SAMPLES < sysoff.nSamples) .EINVAL
  let copy ← kernelSamples getReal gettime64 sysoff.nSamples.toNat sysoff 0
  let ts ← getReal
  let sysoff ← copy.1.setTime copy.2 ts
  modify fun w => { w with sysoff }

end Shim

/-! ## Samples -/

section Samples

variable {ρ : Type}

/-- The values of `m` reads, the first of which has the number `j`, up to the first that fails, with
the outcome and what the clocks depend on afterwards. -/
def takeSamples (read : ℕ → ρ → Except Errno Timespec64 × ρ) :
    (j m : ℕ) → ρ → List Timespec64 × Except Errno Unit × ρ
  | _, 0, env => ([], .ok (), env)
  | j, m + 1, env =>
    match read j env with
    | (.error e, env) => ([], .error e, env)
    | (.ok ts, env) =>
      let rest := takeSamples read (j + 1) m env
      (ts :: rest.1, rest.2)

/-- The reads in turn: the system clock, the PHC, the system clock and so on. -/
def inTurn (sys phc : ρ → Except Errno Timespec64 × ρ) (j : ℕ) : ρ → Except Errno Timespec64 × ρ :=
  if j % 2 = 0 then sys else phc

/-- The entries with samples stored from the index `j` on. -/
def storeSamples (entry : PtpClockTime → Timespec64 → PtpClockTime)
    (ts : Fin PTP_SYS_OFFSET_TS → PtpClockTime) (j : ℕ) (samples : List Timespec64) :
    Fin PTP_SYS_OFFSET_TS → PtpClockTime := fun i =>
  if j ≤ i then (samples[i - j]?).elim (ts i) (entry (ts i)) else ts i

variable {entry : PtpClockTime → Timespec64 → PtpClockTime}
  {read : ℕ → ρ → Except Errno Timespec64 × ρ} {j m : ℕ} {env : ρ} {samples : List Timespec64}
  {ts : Fin PTP_SYS_OFFSET_TS → PtpClockTime}

theorem storeSamples_nil : storeSamples entry ts j [] = ts := by
  funext i
  simp [storeSamples]

/-- The first of the samples is stored, then the others. -/
theorem storeSamples_cons (inside : j < PTP_SYS_OFFSET_TS) (v : Timespec64) :
    storeSamples entry (Function.update ts ⟨j, inside⟩ (entry (ts ⟨j, inside⟩) v)) (j + 1) samples =
      storeSamples entry ts j (v :: samples) := by
  funext i
  unfold storeSamples
  by_cases first : (i : ℕ) = j
  · have same : i = ⟨j, inside⟩ := Fin.ext first
    subst same
    simp
  · have apart : i ≠ ⟨j, inside⟩ := fun same => first (congrArg Fin.val same)
    rw [Function.update_of_ne apart]
    by_cases after : j ≤ i
    · rw [if_pos after, if_pos (by omega), show (i : ℕ) - j = i - (j + 1) + 1 by omega,
        List.getElem?_cons_succ]
    · rw [if_neg after, if_neg (by omega)]

theorem takeSamples_error {e : Errno} (fails : (read j env).1 = .error e) :
    takeSamples read j (m + 1) env = ([], .error e, (read j env).2) := by
  unfold takeSamples
  cases result : read j env with
  | mk r env' =>
    obtain rfl : r = .error e := by simpa [result] using fails
    rfl

theorem takeSamples_ok {v : Timespec64} (ok : (read j env).1 = .ok v) :
    takeSamples read j (m + 1) env =
      (v :: (takeSamples read (j + 1) m (read j env).2).1,
        (takeSamples read (j + 1) m (read j env).2).2) := by
  rw [takeSamples]
  cases result : read j env with
  | mk r env' =>
    obtain rfl : r = .ok v := by simpa [result] using ok
    rfl

/-- When no read fails, there are as many samples as reads. -/
theorem length_takeSamples (ok : (takeSamples read j m env).2.1 = .ok ()) :
    (takeSamples read j m env).1.length = m := by
  induction m generalizing j env with
  | zero => rfl
  | succ m ih =>
    cases result : (read j env).1 with
    | error e =>
      rw [takeSamples_error result] at ok
      cases ok
    | ok v =>
      rw [takeSamples_ok result] at ok ⊢
      rw [List.length_cons, ih ok]

end Samples

/-! ## What the caller gets -/

section Outcome

variable {ρ : Type} {shim : VrtShim} {gettime : ClockGettime ρ} {fd clk : Int32} {w : ShimWorld ρ}
  {read : ℕ → ρ → Except Errno Timespec64 × ρ} {j m : ℕ}

/-- The samples, stored in the caller's structure from the entry `j` on. -/
def storedInPlace (w : ShimWorld ρ) (j : ℕ) (out : List Timespec64 × Except Errno Unit × ρ) :
    Option (Except Errno Unit × ShimWorld ρ) :=
  some (out.2.1, ⟨out.2.2, { w.sysoff with
    ts := storeSamples (fun _ => tsToPtp) w.sysoff.ts j out.1 }⟩)

/-- The samples, returned with the rest of the kernel's copy, or the structure as it was. -/
def storedInCopy (w : ShimWorld ρ) (copy : PtpSysOffset) (j : ℕ)
    (out : List Timespec64 × Except Errno Unit × ρ) :
    Option (Except Errno Unit × ShimWorld ρ) :=
  some (out.2.1, ⟨out.2.2, if out.2.1.toBool then
    { copy with ts := storeSamples PtpClockTime.setTime copy.ts j out.1 } else w.sysoff⟩)

theorem exec_clockGettime_error {β : Type} {f : Timespec64 → ShimM ρ β} {e : Errno}
    (fails : (gettime clk w.env).1 = .error e) : (clockGettime gettime clk >>= f).exec w =
      some (.error e, { w with env := (gettime clk w.env).2 }) := by
  have read : (clockGettime gettime clk).exec w =
      some (.error e, { w with env := (gettime clk w.env).2 }) := by
    rw [← fails]
    rfl
  rw [exec_bind, read]

theorem exec_clockGettime_ok {β : Type} {f : Timespec64 → ShimM ρ β} {ts : Timespec64}
    (ok : (gettime clk w.env).1 = .ok ts) : (clockGettime gettime clk >>= f).exec w =
      (f ts).exec { w with env := (gettime clk w.env).2 } := by
  have read : (clockGettime gettime clk).exec w =
      some (.ok ts, { w with env := (gettime clk w.env).2 }) := by
    rw [← ok]
    rfl
  exact exec_bind_of_ok read

/-- A sample, stored by the shim, and the others behind it. -/
theorem exec_storeTs_bind (inside : j < PTP_SYS_OFFSET_TS) (turn : read j = gettime clk)
    {rest : ShimM ρ Unit} (others : ∀ t : ShimWorld ρ,
      rest.exec t = storedInPlace t (j + 1) (takeSamples read (j + 1) m t.env)) :
    (clockGettime gettime clk >>= fun ts => storeTs j (tsToPtp ts) >>= fun _ => rest).exec w =
      storedInPlace w j (takeSamples read j (m + 1) w.env) := by
  cases result : (gettime clk w.env).1 with
  | error e =>
    rw [exec_clockGettime_error result, takeSamples_error (turn ▸ result), turn]
    unfold storedInPlace
    rw [storeSamples_nil]
  | ok ts =>
    rw [exec_clockGettime_ok result, takeSamples_ok (turn ▸ result), turn]
    unfold storeTs
    rw [dif_pos inside]
    refine (others _).trans ?_
    unfold storedInPlace
    dsimp only
    rw [← storeSamples_cons inside ts]

/-- A sample, stored in the kernel's copy, and the others behind it. -/
theorem exec_setTime_bind (inside : j < PTP_SYS_OFFSET_TS) (turn : read j = gettime clk)
    {copy : PtpSysOffset} {rest : PtpSysOffset → ShimM ρ Unit}
    (others : ∀ copy env, (rest copy).exec ⟨env, w.sysoff⟩ =
      storedInCopy ⟨env, w.sysoff⟩ copy (j + 1) (takeSamples read (j + 1) m env)) :
    (clockGettime gettime clk >>= fun ts => copy.setTime j ts >>= rest).exec w =
      storedInCopy w copy j (takeSamples read j (m + 1) w.env) := by
  cases result : (gettime clk w.env).1 with
  | error e =>
    rw [exec_clockGettime_error result, takeSamples_error (turn ▸ result), turn]
    rfl
  | ok ts =>
    rw [exec_clockGettime_ok result, takeSamples_ok (turn ▸ result), turn]
    unfold PtpSysOffset.setTime
    rw [dif_pos inside]
    refine (others _ _).trans ?_
    unfold storedInCopy
    dsimp only
    rw [← storeSamples_cons inside ts]

/-- The reads of the shim, in its order. -/
def shimReads (shim : VrtShim) (gettime : ClockGettime ρ) (fd : Int32) :
    ℕ → ρ → Except Errno Timespec64 × ρ :=
  inTurn (gettime shim.vrtClk) (gettime (fdToClockid fd))

theorem shimReads_even (i : ℕ) : shimReads shim gettime fd (2 * i) = gettime shim.vrtClk :=
  if_pos (by omega)

theorem shimReads_odd (i : ℕ) : shimReads shim gettime fd (2 * i + 1) = gettime (fdToClockid fd) :=
  if_neg (by omega)

theorem inside_ts (le : j ≤ 50) : j < PTP_SYS_OFFSET_TS := Nat.lt_succ_of_le le

/-- The loop of the shim from `i` on, with the last sample. -/
theorem exec_fakeSamples {left i n : ℕ} (all : i + left = n) (fits : n ≤ 25) (w : ShimWorld ρ) :
    (fakeSamples shim gettime fd left i >>= fun _ => readVrt shim gettime >>= fun ts =>
      storeTs (2 * n) (tsToPtp ts)).exec w =
      storedInPlace w (2 * i) (takeSamples (shimReads shim gettime fd) (2 * i) (2 * left + 1)
        w.env) := by
  induction left generalizing i w with
  | zero =>
    obtain rfl : i = n := all
    have last : (fun ts => storeTs (2 * i) (tsToPtp ts) : Timespec64 → ShimM ρ Unit) =
        fun ts => storeTs (2 * i) (tsToPtp ts) >>= fun _ => pure () :=
      funext fun _ => (bind_pure _).symm
    change (clockGettime gettime shim.vrtClk >>= fun ts =>
      storeTs (2 * i) (tsToPtp ts)).exec w = _
    rw [last]
    refine exec_storeTs_bind (inside_ts (by omega)) (shimReads_even i) fun t => ?_
    unfold storedInPlace takeSamples
    rw [storeSamples_nil]
    rfl
  | succ left ih =>
    simp only [fakeSamples, bind_assoc]
    refine exec_storeTs_bind (inside_ts (by omega)) (shimReads_even i) fun t => ?_
    refine exec_storeTs_bind (inside_ts (by omega)) (shimReads_odd i) fun u => ?_
    exact ih (i := i + 1) (by omega) u

/-- The loop of the kernel from the entry `2 * i` on, with the last sample. -/
theorem exec_kernelSamples {left i : ℕ} (fits : i + left ≤ 25) (copy : PtpSysOffset)
    (w : ShimWorld ρ) :
    (kernelSamples (readVrt shim gettime) (readPhcFd gettime fd) left copy (2 * i) >>= fun last =>
      readVrt shim gettime >>= fun ts => last.1.setTime last.2 ts >>= fun sysoff =>
        modify fun w => { w with sysoff }).exec w =
      storedInCopy w copy (2 * i) (takeSamples (shimReads shim gettime fd) (2 * i) (2 * left + 1)
        w.env) := by
  induction left generalizing i copy w with
  | zero =>
    change (clockGettime gettime shim.vrtClk >>= fun ts =>
      copy.setTime (2 * i) ts >>= fun sysoff => modify fun w => { w with sysoff }).exec w = _
    refine exec_setTime_bind (inside_ts (by omega)) (shimReads_even i) fun copy env => ?_
    unfold storedInCopy takeSamples
    rw [storeSamples_nil]
    rfl
  | succ left ih =>
    simp only [kernelSamples, bind_assoc]
    refine exec_setTime_bind (inside_ts (by omega)) (shimReads_even i) fun copy env => ?_
    refine exec_setTime_bind (inside_ts (by omega)) (shimReads_odd i) fun copy env => ?_
    exact ih (i := i + 1) (by omega) copy _

/-- The samples that are taken for the caller's structure. -/
def samples (shim : VrtShim) (gettime : ClockGettime ρ) (fd : Int32) (w : ShimWorld ρ) :
    List Timespec64 × Except Errno Unit × ρ :=
  takeSamples (shimReads shim gettime fd) 0 (2 * w.sysoff.nSamples.toNat + 1) w.env

/-- The number of samples is too large. -/
theorem exec_fakeSysOffset_of_gt (large : PTP_MAX_SAMPLES < w.sysoff.nSamples) :
    (fakeSysOffset shim gettime fd).exec w = some (.error .EINVAL, w) := by
  change (failIf _ _ >>= fun _ => _ : ShimM ρ Unit).exec w = _
  rw [exec_failIf_bind, if_pos large]

theorem exec_kernelSysOffset_of_gt (large : PTP_MAX_SAMPLES < w.sysoff.nSamples) :
    (kernelSysOffset (readVrt shim gettime) (readPhcFd gettime fd)).exec w =
      some (.error .EINVAL, w) := by
  change (failIf _ _ >>= fun _ => _ : ShimM ρ Unit).exec w = _
  rw [exec_failIf_bind, if_pos large]

/-- What the shim does with a number of samples that it takes. -/
theorem exec_fakeSysOffset (small : ¬PTP_MAX_SAMPLES < w.sysoff.nSamples) :
    (fakeSysOffset shim gettime fd).exec w =
      storedInPlace w 0 (samples shim gettime fd w) := by
  have fits : w.sysoff.nSamples.toNat ≤ 25 := UInt32.le_iff_toNat_le.1 (UInt32.not_lt.1 small)
  change (failIf _ _ >>= fun _ => _ : ShimM ρ Unit).exec w = _
  rw [exec_failIf_bind, if_neg small]
  exact exec_fakeSamples (Nat.zero_add _) fits w

/-- What the kernel does with such a number. -/
theorem exec_kernelSysOffset (small : ¬PTP_MAX_SAMPLES < w.sysoff.nSamples) :
    (kernelSysOffset (readVrt shim gettime) (readPhcFd gettime fd)).exec w =
      storedInCopy w w.sysoff 0 (samples shim gettime fd w) := by
  have fits : w.sysoff.nSamples.toNat ≤ 25 := UInt32.le_iff_toNat_le.1 (UInt32.not_lt.1 small)
  change (failIf _ _ >>= fun _ => _ : ShimM ρ Unit).exec w = _
  rw [exec_failIf_bind, if_neg small]
  exact exec_kernelSamples (i := 0) (by omega) w.sysoff w

end Outcome

/-! ## The shim and the kernel -/

/-- The caller gets what the kernel gives it with the virtual clock in the place of CLOCK_REALTIME:
an error for too many samples, the samples in the order in which they were taken, and the structure
as it was if a clock cannot be read.  Nothing is stored outside of the structure. -/
structure GivesAsKernel {ρ : Type} (shim : VrtShim) (gettime : ClockGettime ρ) (fd : Int32)
    (w : ShimWorld ρ) : Prop where
  same : (fakeSysOffset shim gettime fd).exec w =
    (kernelSysOffset (readVrt shim gettime) (readPhcFd gettime fd)).exec w
  answered : shim.vrtActive = true → 0 ≤ fd → fd ≠ shim.vrtFd → ∀ extended precise realIoctl,
    ioctl shim gettime extended precise realIoctl fd .sysOffset = fakeSysOffset shim gettime fd
  inside : ∃ r t, (fakeSysOffset shim gettime fd).exec w = some (r, t)
  refused : PTP_MAX_SAMPLES < w.sysoff.nSamples →
    (fakeSysOffset shim gettime fd).exec w = some (.error .EINVAL, w)
  sampled : ∀ t, (fakeSysOffset shim gettime fd).exec w = some (.ok (), t) →
    ∀ i : Fin PTP_SYS_OFFSET_TS, (i : ℕ) ≤ 2 * w.sysoff.nSamples.toNat →
      ∃ ts, (samples shim gettime fd w).1[(i : ℕ)]? = some ts ∧
        (t.sysoff.ts i).sec = ts.tvSec ∧ (t.sysoff.ts i).nsec = ts.tvNsec.toUInt64.toUInt32
  unchanged : ∀ e t, (fakeSysOffset shim gettime fd).exec w = some (.error e, t) →
    t.sysoff = w.sysoff

/-- The reserved words of the entries for the samples are clear, or, if a clock cannot be read, the
entries for the samples before that have these samples already. -/
def LosesNothing {ρ : Type} (shim : VrtShim) (gettime : ClockGettime ρ) (fd : Int32)
    (w : ShimWorld ρ) : Prop :=
  if (samples shim gettime fd w).2.1.toBool then
    ∀ i : Fin PTP_SYS_OFFSET_TS, (i : ℕ) ≤ 2 * w.sysoff.nSamples.toNat →
      (w.sysoff.ts i).reserved = 0
  else ∀ (i : Fin PTP_SYS_OFFSET_TS) ts, (samples shim gettime fd w).1[(i : ℕ)]? = some ts →
    w.sysoff.ts i = tsToPtp ts

section Compare

variable {ρ : Type} {shim : VrtShim} {gettime : ClockGettime ρ} {fd : Int32} {w : ShimWorld ρ}
  {out : List Timespec64 × Except Errno Unit × ρ}

theorem storeSamples_zero (entry : PtpClockTime → Timespec64 → PtpClockTime)
    (ts : Fin PTP_SYS_OFFSET_TS → PtpClockTime) (l : List Timespec64) (i : Fin PTP_SYS_OFFSET_TS) :
    storeSamples entry ts 0 l i = (l[(i : ℕ)]?).elim (ts i) (entry (ts i)) := by
  simp [storeSamples]

theorem tsToPtp_eq_setTime_iff (pct : PtpClockTime) (ts : Timespec64) :
    tsToPtp ts = pct.setTime ts ↔ pct.reserved = 0 := by
  unfold tsToPtp PtpClockTime.setTime
  rw [PtpClockTime.mk.injEq]
  tauto

/-- The stores of the shim and of the kernel agree where the reserved words are clear. -/
theorem storedInPlace_eq_iff_of_ok (ok : out.2.1.toBool = true) :
    storedInPlace w 0 out = storedInCopy w w.sysoff 0 out ↔
      ∀ (i : Fin PTP_SYS_OFFSET_TS) ts, out.1[(i : ℕ)]? = some ts →
        (w.sysoff.ts i).reserved = 0 := by
  have entries : storedInPlace w 0 out = storedInCopy w w.sysoff 0 out ↔
      storeSamples (fun _ => tsToPtp) w.sysoff.ts 0 out.1 =
        storeSamples PtpClockTime.setTime w.sysoff.ts 0 out.1 := by
    unfold storedInPlace storedInCopy
    rw [if_pos ok]
    simp
  rw [entries, funext_iff]
  refine forall_congr' fun i => ?_
  rw [storeSamples_zero, storeSamples_zero]
  cases out.1[(i : ℕ)]? with
  | none => simp
  | some ts => simp [tsToPtp_eq_setTime_iff]

/-- After a failed read they agree where nothing new was stored. -/
theorem storedInPlace_eq_iff_of_error (error : out.2.1.toBool = false) :
    storedInPlace w 0 out = storedInCopy w w.sysoff 0 out ↔
      ∀ (i : Fin PTP_SYS_OFFSET_TS) ts, out.1[(i : ℕ)]? = some ts → w.sysoff.ts i = tsToPtp ts := by
  have entries : storedInPlace w 0 out = storedInCopy w w.sysoff 0 out ↔
      storeSamples (fun _ => tsToPtp) w.sysoff.ts 0 out.1 = w.sysoff.ts := by
    unfold storedInPlace storedInCopy
    rw [if_neg (by simp [error])]
    cases w with
    | mk env sysoff =>
      cases sysoff with
      | mk n rsv ts => simp
  rw [entries, funext_iff]
  refine forall_congr' fun i => ?_
  rw [storeSamples_zero]
  cases out.1[(i : ℕ)]? with
  | none => simp
  | some ts => simp [eq_comm]

theorem storedInCopy_ok {copy : PtpSysOffset} {t : ShimWorld ρ} {j : ℕ}
    (run : storedInCopy w copy j out = some (.ok (), t)) : out.2.1.toBool = true ∧
      t.sysoff.ts = storeSamples PtpClockTime.setTime copy.ts j out.1 := by
  obtain ⟨outcome, world⟩ := Prod.mk.inj (Option.some.inj run)
  have ok : out.2.1.toBool = true := by
    rw [outcome]
    rfl
  rw [← world, if_pos ok]
  exact ⟨ok, rfl⟩

theorem storedInCopy_error {copy : PtpSysOffset} {t : ShimWorld ρ} {j : ℕ} {e : Errno}
    (run : storedInCopy w copy j out = some (.error e, t)) : t.sysoff = w.sysoff := by
  obtain ⟨outcome, world⟩ := Prod.mk.inj (Option.some.inj run)
  have error : ¬out.2.1.toBool = true := by
    rw [outcome]
    exact Bool.false_ne_true
  rw [← world, if_neg error]

/-- With enough samples taken, each entry has its own. -/
theorem exists_sample (ok : (samples shim gettime fd w).2.1.toBool = true) {i : ℕ}
    (le : i ≤ 2 * w.sysoff.nSamples.toNat) : ∃ ts, (samples shim gettime fd w).1[i]? = some ts := by
  have all : (samples shim gettime fd w).2.1 = .ok () := by
    cases outcome : (samples shim gettime fd w).2.1 with
    | ok => rfl
    | error e =>
      rw [outcome] at ok
      cases ok
  have length : (samples shim gettime fd w).1.length = 2 * w.sysoff.nSamples.toNat + 1 :=
    length_takeSamples all
  exact ⟨_, List.getElem?_eq_getElem (by omega)⟩

/-- There is no entry behind the last sample. -/
theorem length_takeSamples_le (read : ℕ → ρ → Except Errno Timespec64 × ρ) (j m : ℕ) (env : ρ) :
    (takeSamples read j m env).1.length ≤ m := by
  induction m generalizing j env with
  | zero => exact le_rfl
  | succ m ih =>
    cases result : (read j env).1 with
    | error e =>
      rw [takeSamples_error result]
      exact Nat.zero_le _
    | ok v =>
      rw [takeSamples_ok result, List.length_cons]
      exact Nat.succ_le_succ (ih _ _)

theorem losesNothing_iff (small : ¬PTP_MAX_SAMPLES < w.sysoff.nSamples) :
    (fakeSysOffset shim gettime fd).exec w =
        (kernelSysOffset (readVrt shim gettime) (readPhcFd gettime fd)).exec w ↔
      LosesNothing shim gettime fd w := by
  rw [exec_fakeSysOffset small, exec_kernelSysOffset small]
  unfold LosesNothing
  split_ifs with ok
  · rw [storedInPlace_eq_iff_of_ok ok]
    constructor
    · intro clear i le
      obtain ⟨ts, sample⟩ := exists_sample ok le
      exact clear i ts sample
    · intro clear i ts sample
      obtain ⟨inside, -⟩ := List.getElem?_eq_some_iff.1 sample
      have le : (samples shim gettime fd w).1.length ≤ 2 * w.sysoff.nSamples.toNat + 1 :=
        length_takeSamples_le ..
      exact clear i (by omega)
  · exact storedInPlace_eq_iff_of_error (by simpa using ok)

end Compare

/-- The shim gives what the kernel gives exactly when it refuses the request or loses nothing. -/
theorem fakeSysOffset_asKernel_iff {ρ : Type} (shim : VrtShim) (gettime : ClockGettime ρ)
    (fd : Int32) (w : ShimWorld ρ) : GivesAsKernel shim gettime fd w ↔
      (w.sysoff.nSamples ≤ PTP_MAX_SAMPLES → LosesNothing shim gettime fd w) := by
  constructor
  · intro gives small
    exact (losesNothing_iff (UInt32.not_lt.2 small)).1 gives.same
  · intro loses
    have answered : shim.vrtActive = true → 0 ≤ fd → fd ≠ shim.vrtFd →
        ∀ extended precise realIoctl, ioctl shim gettime extended precise realIoctl fd .sysOffset =
          fakeSysOffset shim gettime fd := by
      intro active valid other extended precise realIoctl
      unfold ioctl
      rw [if_pos ⟨active, valid, other⟩]
    by_cases large : PTP_MAX_SAMPLES < w.sysoff.nSamples
    · have refused : (fakeSysOffset shim gettime fd).exec w = some (.error .EINVAL, w) :=
        exec_fakeSysOffset_of_gt large
      refine ⟨?_, answered, ⟨_, _, refused⟩, fun _ => refused, fun t run => ?_, fun e t run => ?_⟩
      · rw [refused, exec_kernelSysOffset_of_gt large]
      · rw [refused] at run
        cases run
      · rw [refused] at run
        cases run
        rfl
    · have same := (losesNothing_iff large).2 (loses (UInt32.not_lt.1 large))
      have kernel : (kernelSysOffset (readVrt shim gettime) (readPhcFd gettime fd)).exec w =
          storedInCopy w w.sysoff 0 (samples shim gettime fd w) := exec_kernelSysOffset large
      refine ⟨same, answered, ⟨_, _, exec_fakeSysOffset large⟩, fun more => absurd more large,
        fun t run i le => ?_, fun e t run => ?_⟩
      · rw [same, kernel] at run
        obtain ⟨ok, entries⟩ := storedInCopy_ok run
        obtain ⟨ts, sample⟩ := exists_sample ok le
        refine ⟨ts, sample, ?_⟩
        rw [entries, storeSamples_zero, sample]
        exact ⟨rfl, rfl⟩
      · rw [same, kernel] at run
        exact storedInCopy_error run

/-- A PHC that cannot be read, and a virtual clock that shows one second. -/
def lostPhc : ClockGettime Unit := fun clk _ =>
  (if clk = fdToClockid 3 then .ok ⟨1, 0⟩ else .error .ENODEV, ())

/-- A request of one sample, in a structure with no more in it. -/
def oneSample : ShimWorld Unit := ⟨(), 1, fun _ => 0, fun _ => ⟨0, 0, 0⟩⟩

/-- The first sample stays in the caller's structure when the second cannot be taken. -/
theorem fakeSysOffset_partial : ¬∀ (ρ : Type) (shim : VrtShim) (gettime : ClockGettime ρ) fd w,
    GivesAsKernel shim gettime fd w := by
  intro gives
  have kept := (gives Unit ⟨true, 3, fdToClockid 3⟩ lostPhc 4 oneSample).unchanged _ _
    (exec_fakeSysOffset (by decide))
  have first := congrArg (fun sysoff : PtpSysOffset => (sysoff.ts 0).sec) kept
  revert first
  decide

end Netdevsim.Shim
