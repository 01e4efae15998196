import Netdevsim.Kernel

/-!
# UBX frames

The binary protocol of the simulated u-blox receiver: how a frame is built (`ubxBuildFrame`) and the
replies the driver sends.  The receiver's time of week comes from CLOCK_REALTIME, which every reply
that needs it takes as an argument.
-/

namespace Netdevsim

def UBX_SYNC1 : UInt8 := 0xB5
def UBX_SYNC2 : UInt8 := 0x62
def UBX_HDR_LEN : ℕ := 6
def UBX_CK_LEN : ℕ := 2
def UBX_OVERHEAD : ℕ := UBX_HDR_LEN + UBX_CK_LEN

def UBX_CLASS_NAV : UInt8 := 0x01
def UBX_CLASS_ACK : UInt8 := 0x05
def UBX_CLASS_CFG : UInt8 := 0x06
def UBX_CLASS_MON : UInt8 := 0x0A

def UBX_NAV_STATUS : UInt8 := 0x03
def UBX_NAV_CLOCK : UInt8 := 0x22
def UBX_ACK_ACK : UInt8 := 0x01
def UBX_CFG_MSG : UInt8 := 0x01
def UBX_CFG_CFG : UInt8 := 0x09
def UBX_CFG_VALSET : UInt8 := 0x8A
def UBX_MON_VER : UInt8 := 0x04
def UBX_MON_HW : UInt8 := 0x09

def UBX_CFG_VALSET_HDR_LEN : ℕ := 4
def UBX_CFGKEY_INFIL_NCNOTHRS : UInt32 := 0x201100aa

def UBX_NAV_STATUS_LEN : ℕ := 16
def UBX_NAV_CLOCK_LEN : ℕ := 20
def UBX_MON_HW_LEN : ℕ := 60
def UBX_MON_VER_SW_LEN : ℕ := 30
def UBX_MON_VER_HW_LEN : ℕ := 10
def UBX_MON_VER_EXT_LEN : ℕ := 30
def UBX_MON_VER_PAYLOAD_LEN : ℕ := UBX_MON_VER_SW_LEN + UBX_MON_VER_HW_LEN + UBX_MON_VER_EXT_LEN

def UBX_GPS_EPOCH_UNIX : UInt64 := 315964800
def UBX_LEAP_SECONDS : UInt64 := 18
def UBX_SECS_PER_WEEK : UInt64 := 604800

/-- `ubx_checksum`: the two running sums, modulo 256. -/
def ubxChecksum (data : Bytes) : UInt8 × UInt8 :=
  data.foldl (fun (a, b) byte => (a + byte, b + (a + byte))) (0, 0)

/-- `ubx_put_le32`. -/
def ubxPutLe32 (val : UInt32) : Bytes :=
  [val.toUInt8, (val >>> 8).toUInt8, (val >>> 16).toUInt8, (val >>> 24).toUInt8]

/-- `ubx_build_frame` into a buffer of `bufsz` bytes: the bytes written. -/
def ubxBuildFrame (bufsz : ℕ) (cls id : UInt8) (payload : Bytes) : Except Errno Bytes :=
  if bufsz < UBX_OVERHEAD + payload.length then .error .ENOSPC
  else
    let body := cls :: id :: UInt8.ofNat payload.length :: UInt8.ofNat (payload.length / 256) ::
      payload
    let (ckA, ckB) := ubxChecksum body
    .ok (UBX_SYNC1 :: UBX_SYNC2 :: body ++ [ckA, ckB])

/-- `ubx_get_itow`: the GPS time of week in milliseconds. -/
def ubxGetItow (real : Timespec64) : UInt32 :=
  let gpsSecs := real.tvSec.toUInt64 + UBX_LEAP_SECONDS - UBX_GPS_EPOCH_UNIX
  (gpsSecs % UBX_SECS_PER_WEEK).toUInt32 * 1000 + (real.tvNsec / 1000000).toUInt64.toUInt32

/-- `strscpy` into a zeroed field of `size` bytes. -/
def strscpy (s : Bytes) (size : ℕ) : Bytes :=
  let kept := s.take (size - 1)
  kept ++ List.replicate (size - kept.length) 0

/-- `ubx_build_mon_ver`. -/
def ubxBuildMonVer (bufsz : ℕ) : Except Errno Bytes :=
  ubxBuildFrame bufsz UBX_CLASS_MON UBX_MON_VER
    (strscpy (ascii "SIM 1.00 (000000)") UBX_MON_VER_SW_LEN ++
      strscpy (ascii "00190000") UBX_MON_VER_HW_LEN ++
      strscpy (ascii "PROTVER=29.20") UBX_MON_VER_EXT_LEN)

/-- `ubx_build_mon_hw`: a healthy antenna. -/
def ubxBuildMonHw (bufsz : ℕ) : Except Errno Bytes :=
  ubxBuildFrame bufsz UBX_CLASS_MON UBX_MON_HW
    (((List.replicate UBX_MON_HW_LEN 0).set 20 2).set 21 2)

/-- `ubx_build_ack`. -/
def ubxBuildAck (bufsz : ℕ) (ackedCls ackedId : UInt8) : Except Errno Bytes :=
  ubxBuildFrame bufsz UBX_CLASS_ACK UBX_ACK_ACK [ackedCls, ackedId]

/-- `ubx_build_nav_status`. -/
def ubxBuildNavStatus (bufsz : ℕ) (real : Timespec64) (gpsFix : UInt8) : Except Errno Bytes :=
  ubxBuildFrame bufsz UBX_CLASS_NAV UBX_NAV_STATUS
    (ubxPutLe32 (ubxGetItow real) ++ [gpsFix, if 2 ≤ gpsFix then 0x0D else 0x00, 0x00, 0x08] ++
      ubxPutLe32 1000 ++ ubxPutLe32 60000)

/-- `ubx_build_nav_clock`. -/
def ubxBuildNavClock (bufsz : ℕ) (real : Timespec64) (gpsFix : UInt8) : Except Errno Bytes :=
  ubxBuildFrame bufsz UBX_CLASS_NAV UBX_NAV_CLOCK
    (ubxPutLe32 (ubxGetItow real) ++ ubxPutLe32 0 ++ ubxPutLe32 0 ++
      ubxPutLe32 (if 2 ≤ gpsFix then 10 else 999999) ++ ubxPutLe32 10)

/-- The bytes of the complete frame of a message. -/
def completeFrame (cls id : UInt8) (payload : Bytes) : Bytes :=
  let body := cls :: id :: UInt8.ofNat payload.length :: UInt8.ofNat (payload.length / 256) :: payload
  UBX_SYNC1 :: UBX_SYNC2 :: body ++ [(ubxChecksum body).1, (ubxChecksum body).2]

/-- What is built is the complete frame, if it fits. -/
theorem ubxBuildFrame_eq (bufsz : ℕ) (cls id : UInt8) (payload : Bytes) :
    ubxBuildFrame bufsz cls id payload =
      if bufsz < UBX_OVERHEAD + payload.length then .error .ENOSPC
      else .ok (completeFrame cls id payload) := rfl

theorem length_completeFrame (cls id : UInt8) (payload : Bytes) :
    (completeFrame cls id payload).length = UBX_OVERHEAD + payload.length := by
  simp [completeFrame, UBX_OVERHEAD, UBX_HDR_LEN, UBX_CK_LEN]
  omega

/-- A frame is as long as its payload and the overhead. -/
theorem length_ubxBuildFrame {bufsz : ℕ} {cls id : UInt8} {payload frame : Bytes}
    (ok : ubxBuildFrame bufsz cls id payload = .ok frame) :
    frame.length = UBX_OVERHEAD + payload.length ∧ frame.length ≤ bufsz := by
  rw [ubxBuildFrame_eq] at ok
  split_ifs at ok with short
  injection ok with eq
  rw [← eq, length_completeFrame]
  exact ⟨rfl, by omega⟩

end Netdevsim
