import Netdevsim.Kernel
import Netdevsim.Lib.Runs
import Netdevsim.Lib.Slots

/-!
# IPsec offload

A port has a table of security associations.  Adding a state takes the first free slot and gives the
state a handle that names the slot; deleting it frees the slot.  A packet refers to the state that
transformed it, and is let through when the slot named by the state's handle is in use.  States keep
their handles after they were deleted, so the slot may belong to another state by then.
-/

namespace Netdevsim

abbrev NSIM_IPSEC_MAX_SA_COUNT : ℕ := 33
def NSIM_IPSEC_VALID : UInt64 := 0x80000000
def NSIM_IPSEC_AUTH_BITS : ℕ := 128

def IPPROTO_ESP : UInt8 := 50
def IPPROTO_AH : UInt8 := 51
def AF_INET6 : UInt16 := 10

/-! ## Data -/

/-- `struct xfrm_algo_aead`.  The key length counts bits; `behindKey` is what lies in memory behind
the bytes of the key. -/
structure XfrmAlgoAead where
  algName : Bytes
  algKeyLen : UInt32
  algIcvLen : UInt32
  algKey : Bytes
  behindKey : ℕ → UInt8

/-- The type of an offload, `XFRM_DEV_OFFLOAD_*`. -/
inductive XfrmDevOffloadType where
  | unspecified | crypto | packet
  deriving DecidableEq, Repr

/-- The direction of an offload, `XFRM_DEV_OFFLOAD_*`. -/
inductive XfrmDevOffloadDir where
  | unspecified | inbound | outbound | forward
  deriving DecidableEq, Repr

/-- `struct xfrm_state`: what the driver reads of it, and the handle it writes. -/
structure XfrmState where
  proto : UInt8
  daddr : Fin 4 → UInt32
  family : UInt16
  calg : Bool
  ealg : Bool
  aead : Option XfrmAlgoAead
  type : XfrmDevOffloadType
  dir : XfrmDevOffloadDir
  offloadHandle : UInt64

/-- `struct nsim_sa`, with the address of the state it is for. -/
structure NsimSa where
  xs : ℕ
  ipaddr : Fin 4 → UInt32
  key : Fin 4 → UInt32
  salt : UInt32
  used : Bool
  crypt : Bool
  rx : Bool
  deriving DecidableEq

/-- A slot after `memset`. -/
def NsimSa.zero : NsimSa := ⟨0, fun _ => 0, fun _ => 0, 0, false, false, false⟩

/-- `struct nsim_ipsec`. -/
structure NsimIpsec where
  sa : Fin NSIM_IPSEC_MAX_SA_COUNT → NsimSa
  count : UInt32
  tx : UInt32

/-- The table of a new port. -/
def NsimIpsec.empty : NsimIpsec := ⟨fun _ => .zero, 0, 0⟩

/-! ## Operations -/

/-- `nsim_ipsec_find_empty_idx`. -/
def nsimIpsecFindEmptyIdx (ipsec : NsimIpsec) : Except Errno (Fin NSIM_IPSEC_MAX_SA_COUNT) :=
  if ipsec.count.toNat = NSIM_IPSEC_MAX_SA_COUNT then .error .ENOSPC
  else match Slots.firstFree NsimSa.used ipsec.sa with
    | some i => .ok i
    | none => .error .ENOSPC

/-- The byte of memory at an offset from the start of the key. -/
def XfrmAlgoAead.keyByte (aead : XfrmAlgoAead) (i : ℕ) : UInt8 :=
  aead.algKey.getD i (aead.behindKey i)

/-- The 32-bit word at an index of the key, as a little-endian machine loads it. -/
def XfrmAlgoAead.keyWord (aead : XfrmAlgoAead) (i : ℕ) : UInt32 :=
  (aead.keyByte (4 * i)).toUInt32 ||| (aead.keyByte (4 * i + 1)).toUInt32 <<< 8 |||
    (aead.keyByte (4 * i + 2)).toUInt32 <<< 16 ||| (aead.keyByte (4 * i + 3)).toUInt32 <<< 24

/-- `nsim_ipsec_parse_proto_keys`: the key and the salt.  The length of the key is compared as an
`int`. -/
def nsimIpsecParseProtoKeys (xs : XfrmState) : Except Errno ((Fin 4 → UInt32) × UInt32) :=
  match xs.aead with
  | none => .error .EINVAL
  | some aead =>
    let keyLen := aead.algKeyLen.toInt32.toInt
    if aead.algIcvLen.toNat ≠ NSIM_IPSEC_AUTH_BITS then .error .EINVAL
    else if cstr aead.algName ≠ ascii "rfc4106(gcm(aes))" then .error .EINVAL
    else if (NSIM_IPSEC_AUTH_BITS : ℤ) < keyLen then .ok (fun i => aead.keyWord i, aead.keyWord 4)
    else if keyLen = NSIM_IPSEC_AUTH_BITS then .ok (fun i => aead.keyWord i, 0)
    else .error .EINVAL

/-- The handle that names a slot. -/
def saHandle (i : Fin NSIM_IPSEC_MAX_SA_COUNT) : UInt64 :=
  (UInt16.ofNat i).toUInt64 ||| NSIM_IPSEC_VALID

/-- The entry for a state, as `nsim_ipsec_add_sa` prepares it. -/
def NsimSa.prepare (xs : ℕ) (x : XfrmState) (key : Fin 4 → UInt32) (salt : UInt32) : NsimSa where
  xs
  ipaddr :=
    if x.dir = .inbound then
      if x.family = AF_INET6 then x.daddr else Function.update (fun _ => 0) 3 (x.daddr 0)
    else fun _ => 0
  key
  salt
  used := true
  crypt := x.proto &&& IPPROTO_ESP ≠ 0 && (x.ealg || x.aead.isSome)
  rx := x.dir = .inbound

/-- `nsim_ipsec_add_sa` of the state at the address `xs`: the new table and the state with its
handle, or the error and its message. -/
def nsimIpsecAddSa (ipsec : NsimIpsec) (xs : ℕ) (x : XfrmState) :
    Except (Errno × String) (NsimIpsec × XfrmState) :=
  if x.proto ≠ IPPROTO_ESP ∧ x.proto ≠ IPPROTO_AH then
    .error (.EINVAL, "Unsupported protocol for ipsec offload")
  else if x.calg then .error (.EINVAL, "Compression offload not supported")
  else if x.type ≠ .crypto then .error (.EINVAL, "Unsupported ipsec offload type")
  else match nsimIpsecFindEmptyIdx ipsec with
    | .error e => .error (e, "No space for SA in Rx table!")
    | .ok saIdx =>
      match nsimIpsecParseProtoKeys x with
      | .error e => .error (e, "Failed to get key data for SA table")
      | .ok (key, salt) =>
        .ok ({ ipsec with
            sa := Function.update ipsec.sa saIdx (.prepare xs x key salt)
            count := ipsec.count + 1 },
          { x with offloadHandle := saHandle saIdx })

/-- `nsim_ipsec_del_sa`.  There is no check that the handle names a slot, so `none` stands for an
access outside of the table. -/
def nsimIpsecDelSa (ipsec : NsimIpsec) (x : XfrmState) : Option NsimIpsec :=
  let saIdx := (x.offloadHandle &&& ~~~NSIM_IPSEC_VALID).toUInt16.toNat
  if h : saIdx < NSIM_IPSEC_MAX_SA_COUNT then
    if (ipsec.sa ⟨saIdx, h⟩).used then
      some { ipsec with
        sa := Function.update ipsec.sa ⟨saIdx, h⟩ .zero
        count := ipsec.count - 1 }
    else some ipsec
  else none

/-- The security path of a packet, `struct sec_path`: the states that transformed it, the last of
which `xfrm_input_state` reads.  A missing entry is a `NULL` pointer. -/
abbrev SecPath := List (Option ℕ)

/-- `nsim_ipsec_tx`: whether the packet is let through. -/
def nsimIpsecTx (ipsec : NsimIpsec) (states : ℕ → XfrmState) :
    Option SecPath → Bool × NsimIpsec
  | none => (true, ipsec)
  | some sp =>
    match sp.getLast? with
    | none => (false, ipsec)
    | some none => (false, ipsec)
    | some (some xs) =>
      let saIdx := ((states xs).offloadHandle &&& ~~~NSIM_IPSEC_VALID).toUInt32.toNat
      if h : saIdx < NSIM_IPSEC_MAX_SA_COUNT then
        if ¬(ipsec.sa ⟨saIdx, h⟩).used then (false, ipsec)
        else if (states xs).proto ≠ IPPROTO_ESP ∧ (states xs).proto ≠ IPPROTO_AH then (false, ipsec)
        else (true, { ipsec with tx := ipsec.tx + 1 })
      else (false, ipsec)

section Operations

variable {ipsec ipsec' : NsimIpsec} {xs : ℕ} {x x' : XfrmState} {states : ℕ → XfrmState}
  {i j : Fin NSIM_IPSEC_MAX_SA_COUNT}

/-- Both readers of a handle find the slot that it names. -/
theorem slot_saHandle (i : Fin NSIM_IPSEC_MAX_SA_COUNT) :
    (saHandle i &&& ~~~NSIM_IPSEC_VALID).toUInt16.toNat = i ∧
      (saHandle i &&& ~~~NSIM_IPSEC_VALID).toUInt32.toNat = i := by
  revert i
  decide

theorem saHandle_injective : Function.Injective saHandle := by
  intro i j same
  have at_i := (slot_saHandle i).1
  rw [same, (slot_saHandle j).1] at at_i
  exact Fin.ext at_i.symm

theorem toNat_count_add {c : UInt32} (room : c.toNat < NSIM_IPSEC_MAX_SA_COUNT) :
    (c + 1).toNat = c.toNat + 1 := by
  have one : (1 : UInt32).toNat = 1 := rfl
  unfold NSIM_IPSEC_MAX_SA_COUNT at room
  rw [UInt32.toNat_add, one]
  omega

theorem toNat_count_sub {c : UInt32} (some : 0 < c.toNat) : (c - 1).toNat = c.toNat - 1 := by
  have one : (1 : UInt32).toNat = 1 := rfl
  have lt := c.toNat_lt
  rw [UInt32.toNat_sub, one]
  omega

/-- What a successful addition does: the state gets the first free slot and its handle. -/
theorem nsimIpsecAddSa_ok (ok : nsimIpsecAddSa ipsec xs x = .ok (ipsec', x')) :
    (x.proto = IPPROTO_ESP ∨ x.proto = IPPROTO_AH) ∧
      ipsec.count.toNat ≠ NSIM_IPSEC_MAX_SA_COUNT ∧
      ∃ i sa, Slots.firstFree NsimSa.used ipsec.sa = some i ∧ sa.used = true ∧ sa.xs = xs ∧
        ipsec' = { ipsec with sa := Function.update ipsec.sa i sa, count := ipsec.count + 1 } ∧
        x' = { x with offloadHandle := saHandle i } := by
  unfold nsimIpsecAddSa at ok
  split_ifs at ok with badProto
  unfold nsimIpsecFindEmptyIdx at ok
  split at ok
  · cases ok
  · rename_i i found
    split_ifs at found with full
    split at found <;> cases found
    split at ok <;> cases ok
    refine ⟨by tauto, full, i, _, by assumption, rfl, rfl, rfl, rfl⟩

/-- A state whose handle names a slot in use gives the slot back. -/
theorem nsimIpsecDelSa_of_used (handle : x.offloadHandle = saHandle i)
    (used : (ipsec.sa i).used = true) : nsimIpsecDelSa ipsec x =
      some { ipsec with sa := Function.update ipsec.sa i .zero, count := ipsec.count - 1 } := by
  unfold nsimIpsecDelSa
  simp only [handle, (slot_saHandle i).1, i.isLt, Fin.eta, used, ↓reduceIte, ↓reduceDIte]

/-- A packet of a state whose handle names a slot is let through when the slot is in use. -/
theorem nsimIpsecTx_iff (handle : (states xs).offloadHandle = saHandle i)
    (proto : (states xs).proto = IPPROTO_ESP ∨ (states xs).proto = IPPROTO_AH) (sp : SecPath) :
    (nsimIpsecTx ipsec states (some (sp ++ [some xs]))).1 = true ↔ (ipsec.sa i).used = true := by
  have known : ¬((states xs).proto ≠ IPPROTO_ESP ∧ (states xs).proto ≠ IPPROTO_AH) := by tauto
  unfold nsimIpsecTx
  simp only [List.getLast?_concat, handle, (slot_saHandle i).2, i.isLt, Fin.eta, ↓reduceDIte,
    if_neg known]
  cases (ipsec.sa i).used <;> simp

/-- A packet changes no slot. -/
theorem nsimIpsecTx_sa (sp : Option SecPath) : (nsimIpsecTx ipsec states sp).2.sa = ipsec.sa ∧
    (nsimIpsecTx ipsec states sp).2.count = ipsec.count := by
  unfold nsimIpsecTx
  split
  · exact ⟨rfl, rfl⟩
  · split
    · exact ⟨rfl, rfl⟩
    · exact ⟨rfl, rfl⟩
    · dsimp only
      split_ifs <;> exact ⟨rfl, rfl⟩

end Operations

/-! ## Runs -/

/-- A port and the states in memory, with what became of each state. -/
structure IpsecPort where
  ipsec : NsimIpsec
  states : ℕ → XfrmState
  /-- Ever added. -/
  added : ℕ → Bool
  /-- Added, and not deleted since. -/
  live : ℕ → Bool

inductive IpsecCall where
  | add (xs : ℕ)
  | del (xs : ℕ)
  | tx (sp : Option SecPath)

/-- A call.  Only what was added and not yet deleted is deleted. -/
def ipsecStep (s : IpsecPort) : IpsecCall → Option IpsecPort
  | .add xs =>
    match nsimIpsecAddSa s.ipsec xs (s.states xs) with
    | .error _ => some s
    | .ok (ipsec, x) => some {
        ipsec
        states := Function.update s.states xs x
        added := Function.update s.added xs true
        live := Function.update s.live xs true }
  | .del xs =>
    if s.live xs then
      (nsimIpsecDelSa s.ipsec (s.states xs)).map fun ipsec =>
        { s with ipsec, live := Function.update s.live xs false }
    else none
  | .tx sp => some { s with ipsec := (nsimIpsecTx s.ipsec s.states sp).2 }

/-- All runs of calls on a new port. -/
def ipsecSystem : TransitionSystem IpsecPort IpsecCall where
  init s := s.ipsec = .empty ∧ ∀ xs, s.added xs = false ∧ s.live xs = false
  step s call t := ipsecStep s call = some t

/-- The slot is in use and is that of the state. -/
def NsimIpsec.Owns (ipsec : NsimIpsec) (i : Fin NSIM_IPSEC_MAX_SA_COUNT) (xs : ℕ) : Prop :=
  (ipsec.sa i).used = true ∧ (ipsec.sa i).xs = xs

/-- The table counts its slots, every state that was added has the handle of a slot, and a live one
owns it. -/
structure IpsecSound (s : IpsecPort) : Prop where
  counted : s.ipsec.count.toNat = Slots.count NsimSa.used s.ipsec.sa
  handle : ∀ xs, s.added xs = true → ∃ i, (s.states xs).offloadHandle = saHandle i
  proto : ∀ xs, s.added xs = true →
    (s.states xs).proto = IPPROTO_ESP ∨ (s.states xs).proto = IPPROTO_AH
  live : ∀ xs, s.live xs = true → s.added xs = true ∧
    ∀ i, (s.states xs).offloadHandle = saHandle i → s.ipsec.Owns i xs

section Runs

variable {s t : IpsecPort} {xs : ℕ}

theorem IpsecSound.count_le (sound : IpsecSound s) :
    s.ipsec.count.toNat ≤ NSIM_IPSEC_MAX_SA_COUNT :=
  sound.counted.trans_le (Slots.count_le _ _)

/-- A live state owns the slot that its handle names. -/
theorem IpsecSound.owns (sound : IpsecSound s) (live : s.live xs = true) :
    ∃ i, (s.states xs).offloadHandle = saHandle i ∧ s.ipsec.Owns i xs := by
  obtain ⟨added, owns⟩ := sound.live xs live
  obtain ⟨i, handle⟩ := sound.handle xs added
  exact ⟨i, handle, owns i handle⟩

theorem ipsecSound_init (init : ipsecSystem.init s) : IpsecSound s where
  counted := by
    rw [init.1]
    exact (Slots.count_eq_zero fun _ => rfl).symm
  handle xs added := absurd added (by simp [(init.2 xs).1])
  proto xs added := absurd added (by simp [(init.2 xs).1])
  live xs live := absurd live (by simp [(init.2 xs).2])

theorem ipsecSound_add (sound : IpsecSound s) (step : ipsecStep s (.add xs) = some t) :
    IpsecSound t := by
  simp only [ipsecStep] at step
  split at step
  · cases step
    exact sound
  rename_i ipsec x ok
  cases step
  obtain ⟨proto, notFull, i, sa, first, used, own, rfl, rfl⟩ := nsimIpsecAddSa_ok ok
  have free := Slots.free_of_firstFree first
  have room := sound.count_le
  constructor
  · have more : Slots.count NsimSa.used (Function.update s.ipsec.sa i sa) =
        Slots.count NsimSa.used s.ipsec.sa + 1 := Slots.count_update_of_free free used
    exact (toNat_count_add (by omega)).trans (sound.counted ▸ more.symm)
  · intro ys added
    by_cases same : ys = xs
    · subst same
      exact ⟨i, by simp⟩
    · simp only [Function.update_of_ne same] at added ⊢
      exact sound.handle ys added
  · intro ys added
    by_cases same : ys = xs
    · subst same
      simpa using proto
    · simp only [Function.update_of_ne same] at added ⊢
      exact sound.proto ys added
  · intro ys live
    by_cases same : ys = xs
    · subst same
      refine ⟨by simp, fun j handle => ?_⟩
      obtain rfl : i = j := saHandle_injective (by simpa using handle)
      exact ⟨by simpa using used, by simpa using own⟩
    · simp only [Function.update_of_ne same] at live ⊢
      obtain ⟨added, owns⟩ := sound.live ys live
      refine ⟨added, fun j handle => ?_⟩
      obtain ⟨usedJ, ownJ⟩ := owns j handle
      have away : j ≠ i := by
        rintro rfl
        rw [free] at usedJ
        cases usedJ
      exact ⟨by simpa [away] using usedJ, by simpa [away] using ownJ⟩

theorem ipsecSound_del (sound : IpsecSound s) (step : ipsecStep s (.del xs) = some t) :
    IpsecSound t := by
  simp only [ipsecStep] at step
  split_ifs at step with live
  obtain ⟨i, handle, used, own⟩ := sound.owns live
  rw [nsimIpsecDelSa_of_used handle used] at step
  cases step
  have room := sound.count_le
  constructor
  · have fewer : Slots.count NsimSa.used (Function.update s.ipsec.sa i .zero) + 1 =
        Slots.count NsimSa.used s.ipsec.sa := Slots.count_update_of_used used rfl
    have counted := sound.counted
    have sub := toNat_count_sub (c := s.ipsec.count) (by omega)
    dsimp only
    omega
  · exact sound.handle
  · exact sound.proto
  · intro ys liveY
    by_cases same : ys = xs
    · subst same
      simp at liveY
    · simp only [Function.update_of_ne same] at liveY
      obtain ⟨added, owns⟩ := sound.live ys liveY
      refine ⟨added, fun j handleY => ?_⟩
      obtain ⟨usedJ, ownJ⟩ := owns j handleY
      have away : j ≠ i := by
        rintro rfl
        exact same (ownJ.symm.trans own)
      exact ⟨by simpa [away] using usedJ, by simpa [away] using ownJ⟩

theorem ipsecSound_tx (sound : IpsecSound s) {sp : Option SecPath}
    (step : ipsecStep s (.tx sp) = some t) : IpsecSound t := by
  cases step
  have kept : (nsimIpsecTx s.ipsec s.states sp).2.sa = s.ipsec.sa ∧
      (nsimIpsecTx s.ipsec s.states sp).2.count = s.ipsec.count := nsimIpsecTx_sa sp
  obtain ⟨sa, count⟩ := kept
  refine ⟨?_, sound.handle, sound.proto, ?_⟩
  · simpa only [sa, count] using sound.counted
  · intro xs live
    obtain ⟨added, owns⟩ := sound.live xs live
    refine ⟨added, fun i handle => ?_⟩
    simpa only [NsimIpsec.Owns, sa] using owns i handle

theorem ipsecSound_reachable (reach : ipsecSystem.Reachable s) : IpsecSound s := by
  refine TransitionSystem.Reachable.induct (fun _ => ipsecSound_init) ?_ reach
  intro s call t _ sound step
  cases call with
  | add xs => exact ipsecSound_add sound step
  | del xs => exact ipsecSound_del sound step
  | tx sp => exact ipsecSound_tx sound step

end Runs

/-! ## Slots and their states -/

/-- The count is that of the slots in use, live states have slots of their own, and each call acts on
the slot of its state.  A packet is let through when its state's handle names a slot in use, whoever
owns it. -/
structure SlotsOwned (s : IpsecPort) : Prop where
  counted : s.ipsec.count.toNat = Slots.count NsimSa.used s.ipsec.sa ∧
    s.ipsec.count.toNat ≤ NSIM_IPSEC_MAX_SA_COUNT
  apart : ∀ xs ys i, s.live xs = true → s.live ys = true →
    (s.states xs).offloadHandle = saHandle i → (s.states ys).offloadHandle = saHandle i → xs = ys
  refused : ∀ xs e, nsimIpsecAddSa s.ipsec xs (s.states xs) = .error e →
    ipsecStep s (.add xs) = some s
  freed : ∀ xs, s.live xs = true → ∃ i, (s.states xs).offloadHandle = saHandle i ∧
    s.ipsec.Owns i xs ∧ nsimIpsecDelSa s.ipsec (s.states xs) =
      some { s.ipsec with
        sa := Function.update s.ipsec.sa i .zero, count := s.ipsec.count - 1 }
  passed : ∀ xs, s.added xs = true → ∃ i, (s.states xs).offloadHandle = saHandle i ∧
    ∀ sp, (nsimIpsecTx s.ipsec s.states (some (sp ++ [some xs]))).1 = true ↔
      ∃ owner, s.ipsec.Owns i owner

theorem ipsec_slots_owned (s : IpsecPort) (reach : ipsecSystem.Reachable s) : SlotsOwned s := by
  have sound := ipsecSound_reachable reach
  constructor
  · exact ⟨sound.counted, sound.count_le⟩
  · intro xs ys i liveX liveY handleX handleY
    have ownX := (sound.live xs liveX).2 i handleX
    have ownY := (sound.live ys liveY).2 i handleY
    exact ownX.2.symm.trans ownY.2
  · intro xs e refused
    simp only [ipsecStep, refused]
  · intro xs live
    obtain ⟨i, handle, owns⟩ := sound.owns live
    exact ⟨i, handle, owns, nsimIpsecDelSa_of_used handle owns.1⟩
  · intro xs added
    obtain ⟨i, handle⟩ := sound.handle xs added
    refine ⟨i, handle, fun sp => ?_⟩
    rw [nsimIpsecTx_iff handle (sound.proto xs added)]
    exact ⟨fun used => ⟨_, used, rfl⟩, fun ⟨_, owns⟩ => owns.1⟩

/-- A state with a key that the driver takes. -/
def espState : XfrmState where
  proto := IPPROTO_ESP
  daddr _ := 0
  family := AF_INET6
  calg := false
  ealg := false
  aead := some ⟨ascii "rfc4106(gcm(aes))", 128, 128, List.replicate 16 7, fun _ => 0⟩
  type := .crypto
  dir := .outbound
  offloadHandle := 0

/-- A new port, with such a state at every address. -/
def newIpsecPort : IpsecPort := ⟨.empty, fun _ => espState, fun _ => false, fun _ => false⟩

theorem init_newIpsecPort : ipsecSystem.init newIpsecPort := ⟨rfl, fun _ => ⟨rfl, rfl⟩⟩

/-- Two states are added, and a packet of the second is let through. -/
theorem ipsec_slots_owned_two : ∃ s, ipsecSystem.Reachable s ∧ SlotsOwned s ∧
    s.ipsec.count = 2 ∧ s.ipsec.tx = 1 := by
  obtain ⟨s, reach, counts⟩ := (TransitionSystem.Reachable.init init_newIpsecPort).exists_of_follow
    [.add 1, .add 2, .tx (some [some 2])] (fun s => s.ipsec.count = 2 ∧ s.ipsec.tx = 1)
    (fun _ _ _ _ => id) (by decide)
  simp only [decide_eq_true_eq] at counts
  exact ⟨s, reach, ipsec_slots_owned s reach, counts⟩

/-- The state 1 is deleted and the state 2 gets its slot: packets of the state 1 still pass. -/
theorem ipsec_slot_of_another : ∃ s xs i, ipsecSystem.Reachable s ∧ s.added xs = true ∧
    (s.states xs).offloadHandle = saHandle i ∧ ¬s.ipsec.Owns i xs ∧
    (nsimIpsecTx s.ipsec s.states (some [some xs])).1 = true := by
  obtain ⟨s, reach, test⟩ := (TransitionSystem.Reachable.init init_newIpsecPort).exists_of_follow
    [.add 1, .del 1, .add 2]
    (fun s => s.added 1 ∧ (s.states 1).offloadHandle = saHandle 0 ∧ (s.ipsec.sa 0).xs ≠ 1 ∧
      (nsimIpsecTx s.ipsec s.states (some [some 1])).1)
    (fun _ _ _ _ => id) (by decide)
  simp only [decide_eq_true_eq] at test
  exact ⟨s, 1, 0, reach, test.1, test.2.1, fun owns => test.2.2.1 owns.2, test.2.2.2⟩

end Netdevsim
