import Netdevsim.Dpll.Ubx

/-!
# The lock state of the emulated DPLL

`NsimDpll` is the part of `struct nsim_dpll` that the GNSS device, the sysfs attribute and the
timers work on.  Three writers set it: NMEA sentences (`nsimParseGgaFix`), UBX configuration
(`nsimGnssWriteRaw`) and the `lock_status` attribute (`nsimDpllLockStatusStore`).  Reads of the
user's buffer go through `buf[i]?`; a read outside of it, or a loop that does not end, is `none`.
-/

namespace Netdevsim

/-- `enum dpll_lock_status`. -/
inductive DpllLockStatus where
  | UNLOCKED | LOCKED | LOCKED_HO_ACQ | HOLDOVER
  deriving DecidableEq, Repr

/-- `struct nsim_dpll`: the lock state, its timers and the notification work. -/
structure NsimDpll where
  lockStatus : DpllLockStatus
  /-- `ntf_work` is queued. -/
  ntfWork : Bool
  ntfTimer : Hrtimer
  holdoverTimer : Hrtimer
  ubxTimer : Hrtimer
  ubxNavEnabled : Bool
  signalBlocked : Bool
  gnssGpsFix : UInt8
  deriving DecidableEq, Repr

def NSIM_DPLL_HOLDOVER_TIMEOUT_SEC : ℕ := 30

/-- The lock state after `nsim_dpll_init` succeeded; `ntf_timer` was started at `now`. -/
def NsimDpll.started (now : ℕ) : NsimDpll where
  lockStatus := .LOCKED_HO_ACQ
  ntfWork := false
  ntfTimer := hrtimerStart now NSEC_PER_SEC
  holdoverTimer := none
  ubxTimer := none
  ubxNavEnabled := false
  signalBlocked := false
  gnssGpsFix := 3

/-! ## Lock status -/

/-- `nsim_dpll_set_lock_status`. -/
def nsimDpllSetLockStatus (d : NsimDpll) (status : DpllLockStatus) : NsimDpll :=
  if d.lockStatus = status then d else { d with lockStatus := status, ntfWork := true }

/-- `nsim_dpll_holdover_timer_cb`.  The timer has left the queue and is not restarted. -/
def nsimDpllHoldoverTimerCb (d : NsimDpll) : NsimDpll :=
  let d := { d with holdoverTimer := none }
  if d.lockStatus = .HOLDOVER ∧ (d.gnssGpsFix = 0 ∨ d.signalBlocked) then
    nsimDpllSetLockStatus d .UNLOCKED
  else d

/-- `nsim_dpll_enter_holdover`. -/
def nsimDpllEnterHoldover (d : NsimDpll) (now : ℕ) : NsimDpll :=
  let d := if d.lockStatus ≠ .HOLDOVER then nsimDpllSetLockStatus d .HOLDOVER else d
  { d with holdoverTimer := hrtimerStart now (NSIM_DPLL_HOLDOVER_TIMEOUT_SEC * NSEC_PER_SEC) }

/-- `nsim_dpll_enter_locked`. -/
def nsimDpllEnterLocked (d : NsimDpll) : NsimDpll :=
  let d := { d with holdoverTimer := none }
  if d.lockStatus ≠ .LOCKED_HO_ACQ then nsimDpllSetLockStatus d .LOCKED_HO_ACQ else d

/-! ## The sysfs attribute -/

/-- `nsim_dpll_lock_status_show`. -/
def nsimDpllLockStatusShow (d : NsimDpll) : String :=
  match d.lockStatus with
  | .LOCKED_HO_ACQ => "locked\n"
  | .HOLDOVER => "holdover\n"
  | .UNLOCKED => "freerun\n"
  | .LOCKED => "unknown\n"

/-- The status named by what was written. -/
def parseLockStatus (buf : Bytes) : Except Errno DpllLockStatus :=
  if sysfsStreq buf (ascii "locked") then .ok .LOCKED_HO_ACQ
  else if sysfsStreq buf (ascii "holdover") then .ok .HOLDOVER
  else if sysfsStreq buf (ascii "freerun") then .ok .UNLOCKED
  else .error .EINVAL

/-- `nsim_dpll_lock_status_store`. -/
def nsimDpllLockStatusStore (d : NsimDpll) (now : ℕ) (buf : Bytes) : NsimDpll × Option Errno :=
  match parseLockStatus buf with
  | .error e => (d, some e)
  | .ok newStatus =>
    -- While the signal is lost the kernel owns the lock status.
    if d.signalBlocked ∨ d.gnssGpsFix = 0 then (d, none)
    else if newStatus = .HOLDOVER then (nsimDpllEnterHoldover d now, none)
    else if newStatus = .LOCKED_HO_ACQ then (nsimDpllEnterLocked d, none)
    else (nsimDpllSetLockStatus { d with holdoverTimer := none } newStatus, none)

/-! ## The periodic timers -/

/-- `nsim_dpll_ntf_timer_cb`. -/
def nsimDpllNtfTimerCb (d : NsimDpll) (now : ℕ) : NsimDpll :=
  { d with
    ntfWork := true
    ntfTimer := d.ntfTimer.map fun expires => hrtimerForwardNow expires now NSEC_PER_SEC }

/-- The bytes `gnss_insert_raw` adds to the read side for a frame that was built. -/
def inserted : Except Errno Bytes → List Bytes
  | .ok frame => if frame.length = 0 then [] else [frame]
  | .error _ => []

/-- `nsim_ubx_timer_cb`, and the frames it inserts. -/
def nsimUbxTimerCb (d : NsimDpll) (now : ℕ) (real : Timespec64) : NsimDpll × List Bytes :=
  if !d.ubxNavEnabled then ({ d with ubxTimer := none }, [])
  else
    let size := UBX_OVERHEAD + UBX_NAV_CLOCK_LEN
    ({ d with
      ubxTimer := d.ubxTimer.map fun expires => hrtimerForwardNow expires now NSEC_PER_SEC },
      inserted (ubxBuildNavStatus size real d.gnssGpsFix) ++
        inserted (ubxBuildNavClock size real d.gnssGpsFix))

/-! ## NMEA -/

/-- The bytes `buf[i], …, buf[i + n - 1]`. -/
def readBytes (buf : Bytes) (i n : ℕ) : Option Bytes :=
  if i + n ≤ buf.length then some ((buf.drop i).take n) else none

/-- The inner loop of `nsim_parse_gga_fix` from index `i` on: the digit of the fix quality, if the
sentence has one. -/
def ggaQualityField (buf : Bytes) : (fuel i commas : ℕ) → Option (Option UInt8)
  | 0, _, _ => none
  | fuel + 1, i, commas =>
    if i < buf.length then do
      let c ← buf[i]?
      if c = 42 ∨ c = 36 then return none
      else if c = 44 then
        if commas + 1 = 5 then
          if buf.length ≤ i + 1 then return none
          else do
            let q ← buf[i + 1]?
            if q < 48 ∨ 57 < q then return none else return some (q - 48)
        else ggaQualityField buf fuel (i + 1) (commas + 1)
      else ggaQualityField buf fuel (i + 1) commas
    else some none

/-- The outer loop of `nsim_parse_gga_fix` from index `p` on, which ends at the first GGA
sentence. -/
def ggaQuality (buf : Bytes) : (fuel p : ℕ) → Option (Option UInt8)
  | 0, _ => none
  | fuel + 1, p =>
    if p + 10 < buf.length then do
      let c ← buf[p]?
      if c ≠ 36 then ggaQuality buf fuel (p + 1)
      else if buf.length < p + 7 then return none
      else do
        let tag ← readBytes buf (p + 3) 4
        if tag ≠ ascii "GGA," then ggaQuality buf fuel (p + 1)
        else ggaQualityField buf (buf.length + 1) (p + 7) 0
    else some none

/-- `nsim_gga_quality_to_gps_fix`. -/
def nsimGgaQualityToGpsFix (quality : UInt8) : UInt8 :=
  if quality = 0 then 0 else if quality = 6 then 1 else 3

/-- What `nsim_parse_gga_fix` does with the quality it found. -/
def nsimApplyGgaFix (d : NsimDpll) (now : ℕ) (quality : UInt8) : NsimDpll :=
  let oldFix := d.gnssGpsFix
  let newFix := nsimGgaQualityToGpsFix quality
  let d := { d with gnssGpsFix := newFix }
  if d.signalBlocked then d
  else if newFix = 0 ∧ oldFix ≠ 0 then nsimDpllEnterHoldover d now
  else if newFix ≠ 0 ∧ (oldFix = 0 ∨ d.lockStatus ≠ .LOCKED_HO_ACQ) then nsimDpllEnterLocked d
  else d

/-- `nsim_parse_gga_fix`. -/
def nsimParseGgaFix (d : NsimDpll) (now : ℕ) (buf : Bytes) : Option NsimDpll := do
  match ← ggaQuality buf (buf.length + 1) 0 with
  | none => return d
  | some quality => return nsimApplyGgaFix d now quality

/-! ## The GNSS device -/

/-- Start the periodic UBX output, unless it is on. -/
def startUbxNav (d : NsimDpll) (now : ℕ) : NsimDpll :=
  if d.ubxNavEnabled then d
  else { d with ubxNavEnabled := true, ubxTimer := hrtimerStart now NSEC_PER_SEC }

/-- `nsim_gnss_open`. -/
def nsimGnssOpen (d : NsimDpll) (now : ℕ) : NsimDpll := startUbxNav d now

/-- `nsim_gnss_close`. -/
def nsimGnssClose (d : NsimDpll) : NsimDpll := { d with ubxNavEnabled := false, ubxTimer := none }

/-- The value CFG-VALSET gives to INFIL_NCNOTHRS: the loop over the items from index `pos` on, which
takes every item for five bytes long and ends at the first with the key. -/
def valsetInfil (buf : Bytes) (kvEnd : ℕ) : (fuel pos : ℕ) → Option (Option UInt8)
  | 0, _ => none
  | fuel + 1, pos =>
    if pos + 4 < kvEnd then do
      let k₀ ← buf[pos]?
      let k₁ ← buf[pos + 1]?
      let k₂ ← buf[pos + 2]?
      let k₃ ← buf[pos + 3]?
      let key := k₀.toUInt32 ||| (k₁.toUInt32 <<< 8) ||| (k₂.toUInt32 <<< 16) |||
        (k₃.toUInt32 <<< 24)
      if key = UBX_CFGKEY_INFIL_NCNOTHRS ∧ pos + 4 < kvEnd then do
        let val ← buf[pos + 4]?
        return some val
      else valsetInfil buf kvEnd fuel (pos + 5)
    else some none

/-- What CFG-VALSET does with the value of INFIL_NCNOTHRS. -/
def applyInfil (d : NsimDpll) (now : ℕ) (val : UInt8) : NsimDpll :=
  if 0 < val then nsimDpllEnterHoldover { d with signalBlocked := true, gnssGpsFix := 0 } now
  else nsimDpllEnterLocked { d with signalBlocked := false, gnssGpsFix := 3 }

/-- The size of the reply buffer `resp`. -/
def UBX_RESP_LEN : ℕ := UBX_OVERHEAD + UBX_MON_VER_PAYLOAD_LEN

/-- The `UBX_CLASS_CFG` case of `nsim_gnss_write_raw`. -/
def ubxCfg (d : NsimDpll) (now : ℕ) (cls id : UInt8) (buf : Bytes) :
    Option (NsimDpll × List Bytes) :=
  let ack := inserted (ubxBuildAck UBX_RESP_LEN cls id)
  if id = UBX_CFG_MSG ∧ UBX_HDR_LEN + 3 ≤ buf.length then do
    let msgCls ← buf[UBX_HDR_LEN]?
    let msgId ← buf[UBX_HDR_LEN + 1]?
    let nav := msgCls = UBX_CLASS_NAV ∧ (msgId = UBX_NAV_STATUS ∨ msgId = UBX_NAV_CLOCK)
    return (if nav then startUbxNav d now else d, ack)
  else if id = UBX_CFG_VALSET ∧ UBX_HDR_LEN + UBX_CFG_VALSET_HDR_LEN + 5 ≤ buf.length then do
    match ← valsetInfil buf (buf.length - UBX_CK_LEN) (buf.length + 1)
        (UBX_HDR_LEN + UBX_CFG_VALSET_HDR_LEN) with
    | some val => return (applyInfil d now val, ack)
    | none => return (d, ack)
  else if id = UBX_CFG_CFG then return (d, ack)
  else return (d, [])

/-- The `UBX_CLASS_MON` case of `nsim_gnss_write_raw`. -/
def ubxMon (d : NsimDpll) (id : UInt8) : NsimDpll × List Bytes :=
  if id = UBX_MON_VER then (d, inserted (ubxBuildMonVer UBX_RESP_LEN))
  else if id = UBX_MON_HW then (d, inserted (ubxBuildMonHw UBX_RESP_LEN))
  else (d, [])

/-- The `UBX_CLASS_NAV` case of `nsim_gnss_write_raw`. -/
def ubxNav (d : NsimDpll) (now : ℕ) (real : Timespec64) (cls id : UInt8) : NsimDpll × List Bytes :=
  if id = UBX_NAV_STATUS ∨ id = UBX_NAV_CLOCK then
    let d := startUbxNav d now
    let reply := if id = UBX_NAV_STATUS then ubxBuildNavStatus UBX_RESP_LEN real d.gnssGpsFix
      else ubxBuildNavClock UBX_RESP_LEN real d.gnssGpsFix
    (d, inserted reply)
  else (d, inserted (ubxBuildAck UBX_RESP_LEN cls id))

/-- The switch of `nsim_gnss_write_raw` over the class of a UBX frame. -/
def ubxFrame (d : NsimDpll) (now : ℕ) (real : Timespec64) (cls id : UInt8) (buf : Bytes) :
    Option (NsimDpll × List Bytes) :=
  if cls = UBX_CLASS_MON then some (ubxMon d id)
  else if cls = UBX_CLASS_CFG then ubxCfg d now cls id buf
  else if cls = UBX_CLASS_NAV then some (ubxNav d now real cls id)
  else some (d, inserted (ubxBuildAck UBX_RESP_LEN cls id))

/-- `nsim_gnss_write_raw`: the new state and what is inserted on the read side.  It always returns
`count`. -/
def nsimGnssWriteRaw (d : NsimDpll) (now : ℕ) (real : Timespec64) (buf : Bytes) :
    Option (NsimDpll × List Bytes) :=
  if buf.length = 0 then some (d, [])
  else do
    let first ← buf[0]?
    if first = 36 then
      if d.signalBlocked then return (d, [buf])
      else
        let d ← nsimParseGgaFix d now buf
        return (d, [buf])
    else if buf.length < UBX_HDR_LEN then return (d, [])
    else
      let sync ← buf[1]?
      if first ≠ UBX_SYNC1 ∨ sync ≠ UBX_SYNC2 then return (d, [])
      else
        let cls ← buf[2]?
        let id ← buf[3]?
        ubxFrame d now real cls id buf

/-! ## What the lock status functions set -/

section LockStatus

variable (d : NsimDpll) (now : ℕ) (status : DpllLockStatus)

@[simp] theorem setLockStatus_lockStatus :
    (nsimDpllSetLockStatus d status).lockStatus = status := by
  unfold nsimDpllSetLockStatus
  split_ifs with same
  · exact same
  · rfl

@[simp] theorem setLockStatus_holdoverTimer :
    (nsimDpllSetLockStatus d status).holdoverTimer = d.holdoverTimer := by
  unfold nsimDpllSetLockStatus
  split_ifs <;> rfl

@[simp] theorem setLockStatus_gnssGpsFix :
    (nsimDpllSetLockStatus d status).gnssGpsFix = d.gnssGpsFix := by
  unfold nsimDpllSetLockStatus
  split_ifs <;> rfl

@[simp] theorem setLockStatus_signalBlocked :
    (nsimDpllSetLockStatus d status).signalBlocked = d.signalBlocked := by
  unfold nsimDpllSetLockStatus
  split_ifs <;> rfl

@[simp] theorem setLockStatus_ntfTimer :
    (nsimDpllSetLockStatus d status).ntfTimer = d.ntfTimer := by
  unfold nsimDpllSetLockStatus
  split_ifs <;> rfl

@[simp] theorem setLockStatus_ubxTimer :
    (nsimDpllSetLockStatus d status).ubxTimer = d.ubxTimer := by
  unfold nsimDpllSetLockStatus
  split_ifs <;> rfl

@[simp] theorem setLockStatus_ubxNavEnabled :
    (nsimDpllSetLockStatus d status).ubxNavEnabled = d.ubxNavEnabled := by
  unfold nsimDpllSetLockStatus
  split_ifs <;> rfl

/-- Entering holdover always arms the timer anew. -/
theorem nsimDpllEnterHoldover_eq :
    nsimDpllEnterHoldover d now =
      { nsimDpllSetLockStatus d .HOLDOVER with
        holdoverTimer := some (now + NSIM_DPLL_HOLDOVER_TIMEOUT_SEC * NSEC_PER_SEC) } := by
  unfold nsimDpllEnterHoldover hrtimerStart
  by_cases same : d.lockStatus = .HOLDOVER
  · simp [nsimDpllSetLockStatus, same]
  · simp [same]

/-- Entering the locked state disarms the timer. -/
theorem nsimDpllEnterLocked_eq :
    nsimDpllEnterLocked d =
      { nsimDpllSetLockStatus d .LOCKED_HO_ACQ with holdoverTimer := none } := by
  unfold nsimDpllEnterLocked nsimDpllSetLockStatus
  by_cases same : d.lockStatus = .LOCKED_HO_ACQ <;> simp [same]

end LockStatus

/-! ## What a write does -/

/-- The buffer holds a CFG-VALSET frame long enough for an item. -/
def IsValset (buf : Bytes) : Prop :=
  UBX_HDR_LEN + UBX_CFG_VALSET_HDR_LEN + 5 ≤ buf.length ∧ buf[0]? = some UBX_SYNC1 ∧
    buf[1]? = some UBX_SYNC2 ∧ buf[2]? = some UBX_CLASS_CFG ∧ buf[3]? = some UBX_CFG_VALSET

instance (buf : Bytes) : Decidable (IsValset buf) := inferInstanceAs (Decidable (_ ∧ _))

/-- The value a CFG-VALSET frame gives to INFIL_NCNOTHRS. -/
def frameInfil (buf : Bytes) : Option (Option UInt8) :=
  valsetInfil buf (buf.length - UBX_CK_LEN) (buf.length + 1) (UBX_HDR_LEN + UBX_CFG_VALSET_HDR_LEN)

/-- The state after CFG-VALSET read this. -/
def afterRead (d : NsimDpll) (now : ℕ) : Option UInt8 → NsimDpll
  | some val => applyInfil d now val
  | none => d

/-- The buffer starts with the header of a frame. -/
def HasHeader (buf : Bytes) (cls id : UInt8) : Prop :=
  buf[0]? = some UBX_SYNC1 ∧ buf[1]? = some UBX_SYNC2 ∧ buf[2]? = some cls ∧ buf[3]? = some id

section Write

variable {d d' : NsimDpll} {now : ℕ} {real : Timespec64} {buf : Bytes} {replies : List Bytes}
  {cls id : UInt8}

/-- A write that is long enough for the header of a frame is handled as that frame. -/
theorem nsimGnssWriteRaw_of_header (long : UBX_HDR_LEN ≤ buf.length)
    (header : HasHeader buf cls id) :
    nsimGnssWriteRaw d now real buf = ubxFrame d now real cls id buf := by
  obtain ⟨sync₁, sync₂, clsAt, idAt⟩ := header
  have six : UBX_HDR_LEN = 6 := rfl
  unfold nsimGnssWriteRaw
  rw [if_neg (by omega), sync₁, sync₂, clsAt, idAt]
  simp only [Option.bind_eq_bind, Option.bind_some]
  rw [if_neg (by decide), if_neg (by omega), if_neg (by decide)]

/-- A write is dropped, passed on as NMEA and parsed unless the signal is blocked, or handled as a
frame. -/
theorem nsimGnssWriteRaw_cases (ok : nsimGnssWriteRaw d now real buf = some (d', replies)) :
    d' = d ∧ replies = [] ∨
      buf[0]? = some 36 ∧ replies = [buf] ∧
        (d.signalBlocked = true ∧ d' = d ∨
          d.signalBlocked = false ∧ nsimParseGgaFix d now buf = some d') ∨
      ∃ cls id, HasHeader buf cls id ∧ ubxFrame d now real cls id buf = some (d', replies) := by
  unfold nsimGnssWriteRaw at ok
  split at ok
  · cases ok
    exact .inl ⟨rfl, rfl⟩
  · obtain ⟨first, firstAt, ok⟩ := Option.bind_eq_some_iff.1 ok
    split at ok
    · rename_i nmea
      cases blocked : d.signalBlocked with
      | true =>
        rw [if_pos blocked] at ok
        cases ok
        exact .inr (.inl ⟨nmea ▸ firstAt, rfl, .inl ⟨rfl, rfl⟩⟩)
      | false =>
        rw [if_neg (by simp [blocked])] at ok
        obtain ⟨parsed, parse, ok⟩ := Option.bind_eq_some_iff.1 ok
        cases ok
        exact .inr (.inl ⟨nmea ▸ firstAt, rfl, .inr ⟨rfl, parse⟩⟩)
    · split at ok
      · cases ok
        exact .inl ⟨rfl, rfl⟩
      · obtain ⟨sync, syncAt, ok⟩ := Option.bind_eq_some_iff.1 ok
        split at ok
        · cases ok
          exact .inl ⟨rfl, rfl⟩
        · rename_i synced
          obtain ⟨isSync₁, isSync₂⟩ := not_or.1 synced
          obtain ⟨cls, clsAt, ok⟩ := Option.bind_eq_some_iff.1 ok
          obtain ⟨id, idAt, ok⟩ := Option.bind_eq_some_iff.1 ok
          rw [not_not.1 isSync₁] at firstAt
          rw [not_not.1 isSync₂] at syncAt
          exact .inr (.inr ⟨cls, id, ⟨firstAt, syncAt, clsAt, idAt⟩, ok⟩)

/-- A write of a CFG-VALSET frame has the effect of what it read, and is acknowledged. -/
theorem nsimGnssWriteRaw_isValset {read : Option UInt8} (valset : IsValset buf)
    (found : frameInfil buf = some read) :
    nsimGnssWriteRaw d now real buf = some (afterRead d now read,
      inserted (ubxBuildAck UBX_RESP_LEN UBX_CLASS_CFG UBX_CFG_VALSET)) := by
  obtain ⟨long, header⟩ := valset
  rw [nsimGnssWriteRaw_of_header (by omega) header]
  unfold ubxFrame ubxCfg
  rw [if_neg (by decide), if_pos rfl]
  dsimp only
  rw [if_neg (fun msg => absurd msg.1 (by decide)), if_pos ⟨rfl, long⟩]
  unfold frameInfil at found
  rw [found, Option.bind_eq_bind, Option.bind_some]
  cases read <;> rfl

/-- What can become of the lock state in a write of `buf`. -/
inductive WriteEffect (d : NsimDpll) (now : ℕ) (buf : Bytes) : NsimDpll → Prop where
  | unchanged : WriteEffect d now buf d
  | ubxNav : WriteEffect d now buf (startUbxNav d now)
  | gga (quality : UInt8) (unblocked : d.signalBlocked = false) (nmea : buf[0]? = some 36)
      (found : ggaQuality buf (buf.length + 1) 0 = some (some quality)) :
      WriteEffect d now buf (nsimApplyGgaFix d now quality)
  | infil (val : UInt8) (valset : IsValset buf) (found : frameInfil buf = some (some val)) :
      WriteEffect d now buf (applyInfil d now val)

theorem writeEffect_parse (unblocked : d.signalBlocked = false) (nmea : buf[0]? = some 36)
    (ok : nsimParseGgaFix d now buf = some d') : WriteEffect d now buf d' := by
  unfold nsimParseGgaFix at ok
  obtain ⟨_ | quality, found, eq⟩ := Option.bind_eq_some_iff.1 ok
  · injection eq with eq
    exact eq ▸ .unchanged
  · injection eq with eq
    exact eq ▸ .gga quality unblocked nmea found

theorem writeEffect_ubxCfg {id : UInt8} (sync₁ : buf[0]? = some UBX_SYNC1)
    (sync₂ : buf[1]? = some UBX_SYNC2) (cls : buf[2]? = some UBX_CLASS_CFG)
    (idAt : buf[3]? = some id) (ok : ubxCfg d now UBX_CLASS_CFG id buf = some (d', replies)) :
    WriteEffect d now buf d' := by
  unfold ubxCfg at ok
  simp only at ok
  split at ok
  · obtain ⟨msgCls, -, ok⟩ := Option.bind_eq_some_iff.1 ok
    obtain ⟨msgId, -, eq⟩ := Option.bind_eq_some_iff.1 ok
    injection eq with eq
    injection eq with eq
    subst eq
    split
    · exact .ubxNav
    · exact .unchanged
  · split at ok
    · rename_i valset
      obtain ⟨_ | val, found, eq⟩ := Option.bind_eq_some_iff.1 ok
      · injection eq with eq
        injection eq with eq
        exact eq ▸ .unchanged
      · injection eq with eq
        injection eq with eq
        exact eq ▸ .infil val ⟨valset.2, sync₁, sync₂, cls, valset.1 ▸ idAt⟩ found
    · split at ok <;> injection ok with eq <;> injection eq with eq <;> exact eq ▸ .unchanged

theorem writeEffect_ubxFrame {cls id : UInt8} (sync₁ : buf[0]? = some UBX_SYNC1)
    (sync₂ : buf[1]? = some UBX_SYNC2) (clsAt : buf[2]? = some cls) (idAt : buf[3]? = some id)
    (ok : ubxFrame d now real cls id buf = some (d', replies)) : WriteEffect d now buf d' := by
  unfold ubxFrame at ok
  split at ok
  · injection ok with eq
    have state : (ubxMon d id).1 = d := by
      unfold ubxMon
      split_ifs <;> rfl
    rw [show d' = (ubxMon d id).1 from (congrArg Prod.fst eq).symm, state]
    exact .unchanged
  · split at ok
    · rename_i cfg
      subst cfg
      exact writeEffect_ubxCfg sync₁ sync₂ clsAt idAt ok
    · split at ok
      · injection ok with eq
        rw [show d' = (ubxNav d now real cls id).1 from (congrArg Prod.fst eq).symm]
        unfold ubxNav
        split
        · exact .ubxNav
        · exact .unchanged
      · injection ok with eq
        injection eq with eq
        exact eq ▸ .unchanged

/-- A write changes the lock state through a GGA sentence, while the signal is not blocked, or
through INFIL_NCNOTHRS, and otherwise at most starts the UBX output. -/
theorem nsimGnssWriteRaw_effect (ok : nsimGnssWriteRaw d now real buf = some (d', replies)) :
    WriteEffect d now buf d' := by
  obtain ⟨rfl, -⟩ | ⟨nmea, -, ⟨-, rfl⟩ | ⟨unblocked, parse⟩⟩ |
    ⟨cls, id, ⟨sync₁, sync₂, clsAt, idAt⟩, frame⟩ := nsimGnssWriteRaw_cases ok
  · exact .unchanged
  · exact .unchanged
  · exact writeEffect_parse unblocked nmea parse
  · exact writeEffect_ubxFrame sync₁ sync₂ clsAt idAt frame

/-- A write leaves the notification timer alone. -/
theorem nsimGnssWriteRaw_ntfTimer (ok : nsimGnssWriteRaw d now real buf = some (d', replies)) :
    d'.ntfTimer = d.ntfTimer := by
  cases nsimGnssWriteRaw_effect ok with
  | unchanged => rfl
  | ubxNav =>
    unfold startUbxNav
    split <;> rfl
  | gga quality _ _ _ =>
    unfold nsimApplyGgaFix
    simp only [nsimDpllEnterHoldover_eq, nsimDpllEnterLocked_eq]
    split_ifs <;> simp
  | infil val _ _ =>
    unfold applyInfil
    simp only [nsimDpllEnterHoldover_eq, nsimDpllEnterLocked_eq]
    split_ifs <;> simp

end Write

/-! ## Reads stay in the buffer and loops end -/

section Bounds

theorem exists_read (buf : Bytes) (i : ℕ) (inside : i < buf.length) : ∃ c, buf[i]? = some c :=
  ⟨buf[i], List.getElem?_eq_getElem inside⟩

theorem ggaQualityField_total (buf : Bytes) (fuel i : ℕ) (enough : buf.length - i < fuel) (commas : ℕ) :
    ∃ r, ggaQualityField buf fuel i commas = some r := by
  induction fuel generalizing i commas with
  | zero => omega
  | succ fuel ih =>
    unfold ggaQualityField
    by_cases inside : i < buf.length
    · obtain ⟨c, read⟩ := exists_read buf i inside
      rw [if_pos inside, read, Option.bind_eq_bind, Option.bind_some]
      by_cases ends : c = 42 ∨ c = 36
      · rw [if_pos ends]
        exact ⟨_, rfl⟩
      · rw [if_neg ends]
        by_cases comma : c = 44
        · rw [if_pos comma]
          by_cases fifth : commas + 1 = 5
          · rw [if_pos fifth]
            by_cases last : buf.length ≤ i + 1
            · rw [if_pos last]
              exact ⟨_, rfl⟩
            · obtain ⟨q, read⟩ := exists_read buf (i + 1) (not_le.1 last)
              rw [if_neg last, read, Option.bind_some]
              split <;> exact ⟨_, rfl⟩
          · rw [if_neg fifth]
            exact ih _ (by omega) _
        · rw [if_neg comma]
          exact ih _ (by omega) _
    · rw [if_neg inside]
      exact ⟨_, rfl⟩

theorem ggaQuality_total (buf : Bytes) (fuel p : ℕ) (enough : buf.length - p < fuel) :
    ∃ r, ggaQuality buf fuel p = some r := by
  induction fuel generalizing p with
  | zero => omega
  | succ fuel ih =>
    unfold ggaQuality
    by_cases inside : p + 10 < buf.length
    · obtain ⟨c, read⟩ := exists_read buf p (by omega)
      rw [if_pos inside, read, Option.bind_eq_bind, Option.bind_some]
      by_cases dollar : c = 36
      · have tag : readBytes buf (p + 3) 4 = some ((buf.drop (p + 3)).take 4) :=
          if_pos (by omega)
        rw [if_neg (not_not.2 dollar), if_neg (by omega), tag, Option.bind_eq_bind,
          Option.bind_some]
        by_cases gga : (buf.drop (p + 3)).take 4 = ascii "GGA,"
        · rw [if_neg (not_not.2 gga)]
          exact ggaQualityField_total buf _ _ (by omega) 0
        · rw [if_pos gga]
          exact ih _ (by omega)
      · rw [if_pos dollar]
        exact ih _ (by omega)
    · rw [if_neg inside]
      exact ⟨_, rfl⟩

theorem valsetInfil_total (buf : Bytes) (kvEnd fuel pos : ℕ) (within : kvEnd ≤ buf.length)
    (enough : kvEnd - pos < fuel) : ∃ r, valsetInfil buf kvEnd fuel pos = some r := by
  induction fuel generalizing pos with
  | zero => omega
  | succ fuel ih =>
    unfold valsetInfil
    by_cases inside : pos + 4 < kvEnd
    · obtain ⟨k₀, read₀⟩ := exists_read buf pos (by omega)
      obtain ⟨k₁, read₁⟩ := exists_read buf (pos + 1) (by omega)
      obtain ⟨k₂, read₂⟩ := exists_read buf (pos + 2) (by omega)
      obtain ⟨k₃, read₃⟩ := exists_read buf (pos + 3) (by omega)
      obtain ⟨val, read₄⟩ := exists_read buf (pos + 4) (by omega)
      rw [if_pos inside, read₀, read₁, read₂, read₃, read₄]
      simp only [Option.bind_eq_bind, Option.bind_some]
      split
      · exact ⟨_, rfl⟩
      · exact ih _ (by omega)
    · rw [if_neg inside]
      exact ⟨_, rfl⟩

variable (d : NsimDpll) (now : ℕ) (real : Timespec64)

theorem nsimParseGgaFix_total (buf : Bytes) : ∃ d', nsimParseGgaFix d now buf = some d' := by
  obtain ⟨r, found⟩ := ggaQuality_total buf (buf.length + 1) 0 (by omega)
  unfold nsimParseGgaFix
  rw [found, Option.bind_eq_bind, Option.bind_some]
  cases r <;> exact ⟨_, rfl⟩

theorem ubxFrame_total (cls id : UInt8) (buf : Bytes) : ∃ r, ubxFrame d now real cls id buf = some r := by
  unfold ubxFrame ubxCfg
  split
  · exact ⟨_, rfl⟩
  split
  · simp only
    by_cases msg : id = UBX_CFG_MSG ∧ UBX_HDR_LEN + 3 ≤ buf.length
    · obtain ⟨msgCls, read₀⟩ := exists_read buf UBX_HDR_LEN (by omega)
      obtain ⟨msgId, read₁⟩ := exists_read buf (UBX_HDR_LEN + 1) (by omega)
      rw [if_pos msg, read₀, read₁]
      exact ⟨_, rfl⟩
    · rw [if_neg msg]
      split
      · obtain ⟨r, found⟩ := valsetInfil_total buf (buf.length - UBX_CK_LEN) (buf.length + 1)
          (UBX_HDR_LEN + UBX_CFG_VALSET_HDR_LEN) (by omega) (by omega)
        rw [found, Option.bind_eq_bind, Option.bind_some]
        cases r <;> exact ⟨_, rfl⟩
      · split <;> exact ⟨_, rfl⟩
  · split <;> exact ⟨_, rfl⟩

/-- A write of any buffer reads inside it, and returns. -/
theorem nsimGnssWriteRaw_total (buf : Bytes) :
    ∃ r, nsimGnssWriteRaw d now real buf = some r := by
  unfold nsimGnssWriteRaw
  by_cases empty : buf.length = 0
  · rw [if_pos empty]
    exact ⟨_, rfl⟩
  · obtain ⟨first, read₀⟩ := exists_read buf 0 (by omega)
    rw [if_neg empty, read₀, Option.bind_eq_bind, Option.bind_some]
    by_cases nmea : first = 36
    · rw [if_pos nmea]
      split
      · exact ⟨_, rfl⟩
      · obtain ⟨d', parse⟩ := nsimParseGgaFix_total d now buf
        rw [parse]
        exact ⟨_, rfl⟩
    · rw [if_neg nmea]
      by_cases short : buf.length < UBX_HDR_LEN
      · rw [if_pos short]
        exact ⟨_, rfl⟩
      · have header : 6 ≤ buf.length := not_lt.1 short
        obtain ⟨sync, read₁⟩ := exists_read buf 1 (by omega)
        obtain ⟨cls, read₂⟩ := exists_read buf 2 (by omega)
        obtain ⟨id, read₃⟩ := exists_read buf 3 (by omega)
        rw [if_neg short, read₁, Option.bind_some, read₂, read₃]
        split
        · exact ⟨_, rfl⟩
        · exact ubxFrame_total d now real cls id buf

end Bounds

end Netdevsim
