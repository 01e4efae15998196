import Netdevsim.Lib.LittleEndian
import Netdevsim.Netdev.Ipsec

/-!
# The keys of security associations

The length of a key is in bits.  The driver copies sixteen bytes and takes the four behind them as
the salt when the key is longer than 128 bits.  Its error message asks for 128 bits with an optional
salt of 32, but keys of every length above 128 bits are taken: longer ones lose what is behind the
twentieth byte, and with shorter ones the salt is completed from behind the key.
-/

namespace Netdevsim

open LittleEndian

/-! ## Reading the key -/

/-- The length of the key as the driver compares it. -/
def XfrmAlgoAead.keyLen (aead : XfrmAlgoAead) : ℤ := aead.algKeyLen.toInt32.toInt

/-- The number of bytes that hold the bits of the key. -/
def XfrmAlgoAead.keySize (aead : XfrmAlgoAead) : ℕ := (aead.algKeyLen.toNat + 7) / 8

/-- The bytes of the key. -/
def XfrmAlgoAead.keyBytes (aead : XfrmAlgoAead) : Bytes :=
  (List.range aead.keySize).map aead.keyByte

/-- A read of the byte at an offset from the start of the key.  The state has the offsets read so
far. -/
def XfrmAlgoAead.loadByte (aead : XfrmAlgoAead) (i : ℕ) : StateM (List ℕ) UInt8 := do
  modify (· ++ [i])
  return aead.keyByte i

/-- A read of the 32-bit word at an index of the key. -/
def XfrmAlgoAead.loadWord (aead : XfrmAlgoAead) (i : ℕ) : StateM (List ℕ) UInt32 := do
  let b₀ ← aead.loadByte (4 * i)
  let b₁ ← aead.loadByte (4 * i + 1)
  let b₂ ← aead.loadByte (4 * i + 2)
  let b₃ ← aead.loadByte (4 * i + 3)
  return b₀.toUInt32 ||| b₁.toUInt32 <<< 8 ||| b₂.toUInt32 <<< 16 ||| b₃.toUInt32 <<< 24

/-- `memcpy(mykey, key_data, 16)`. -/
def XfrmAlgoAead.copyKey (aead : XfrmAlgoAead) : StateM (List ℕ) (Fin 4 → UInt32) := do
  let w₀ ← aead.loadWord 0
  let w₁ ← aead.loadWord 1
  let w₂ ← aead.loadWord 2
  let w₃ ← aead.loadWord 3
  return ![w₀, w₁, w₂, w₃]

/-- `nsim_ipsec_parse_proto_keys` with its reads of the key. -/
def readProtoKeys (xs : XfrmState) :
    StateM (List ℕ) (Except Errno ((Fin 4 → UInt32) × UInt32)) :=
  match xs.aead with
  | none => return .error .EINVAL
  | some aead =>
    if aead.algIcvLen.toNat ≠ NSIM_IPSEC_AUTH_BITS then return .error .EINVAL
    else if cstr aead.algName ≠ ascii "rfc4106(gcm(aes))" then return .error .EINVAL
    else if (NSIM_IPSEC_AUTH_BITS : ℤ) < aead.keyLen then do
      let mysalt ← aead.loadWord 4
      let mykey ← aead.copyKey
      return .ok (mykey, mysalt)
    else if aead.keyLen = NSIM_IPSEC_AUTH_BITS then do
      let mykey ← aead.copyKey
      return .ok (mykey, 0)
    else return .error .EINVAL

/-- The offsets in the key that `nsim_ipsec_parse_proto_keys` reads. -/
def keyReads (xs : XfrmState) : List ℕ := ((readProtoKeys xs).run []).2

/-- An authentication of 128 bits with the only algorithm that the driver knows. -/
def XfrmAlgoAead.Supported (aead : XfrmAlgoAead) : Prop :=
  aead.algIcvLen.toNat = NSIM_IPSEC_AUTH_BITS ∧ cstr aead.algName = ascii "rfc4106(gcm(aes))"

section Reading

variable {xs : XfrmState} {aead : XfrmAlgoAead}

theorem run_loadByte (aead : XfrmAlgoAead) (i : ℕ) (log : List ℕ) :
    (aead.loadByte i).run log = pure (aead.keyByte i, log ++ [i]) := rfl

theorem run_loadWord (aead : XfrmAlgoAead) (i : ℕ) (log : List ℕ) : (aead.loadWord i).run log =
    pure (aead.keyWord i, log ++ [4 * i, 4 * i + 1, 4 * i + 2, 4 * i + 3]) := by
  unfold XfrmAlgoAead.loadWord
  simp only [StateT.run_bind, run_loadByte, pure_bind, StateT.run_pure, List.append_assoc]
  rfl

theorem run_copyKey (aead : XfrmAlgoAead) (log : List ℕ) :
    aead.copyKey.run log = pure (fun i : Fin 4 => aead.keyWord i, log ++ List.range 16) := by
  have words : ![aead.keyWord 0, aead.keyWord 1, aead.keyWord 2, aead.keyWord 3] =
      fun i : Fin 4 => aead.keyWord i := by
    funext i
    fin_cases i <;> rfl
  unfold XfrmAlgoAead.copyKey
  simp only [StateT.run_bind, run_loadWord, StateT.run_pure, words, pure_bind, List.append_assoc]
  rfl

/-- The driver takes its words from the key by these reads. -/
theorem run_readProtoKeys (xs : XfrmState) (log : List ℕ) :
    ((readProtoKeys xs).run log).1 = nsimIpsecParseProtoKeys xs := by
  unfold readProtoKeys nsimIpsecParseProtoKeys
  cases xs.aead with
  | none => rfl
  | some aead =>
    dsimp only
    unfold XfrmAlgoAead.keyLen
    split_ifs
    · rfl
    · rfl
    · simp only [StateT.run_bind, run_loadWord, run_copyKey, pure_bind]
      rfl
    · simp only [StateT.run_bind, run_copyKey, pure_bind]
      rfl
    · rfl

/-- A longer key is read up to the twentieth byte, one of 128 bits up to its end. -/
theorem mem_keyReads (some : xs.aead = some aead) (supported : aead.Supported) {i : ℕ} :
    i ∈ keyReads xs ↔
      128 < aead.keyLen ∧ i < 20 ∨ aead.keyLen = 128 ∧ i < 16 := by
  obtain ⟨icv, name⟩ := supported
  unfold keyReads readProtoKeys
  simp only [some, icv, name, ne_eq, not_true_eq_false, ↓reduceIte]
  unfold NSIM_IPSEC_AUTH_BITS
  split_ifs with long exact
  · simp only [StateT.run_bind, run_loadWord, run_copyKey, pure_bind, StateT.run_pure]
    change i ∈ [16, 17, 18, 19] ++ List.range 16 ↔ _
    simp only [List.mem_append, List.mem_cons, List.not_mem_nil, List.mem_range, or_false]
    omega
  · simp only [StateT.run_bind, run_copyKey, pure_bind, StateT.run_pure]
    change i ∈ List.range 16 ↔ _
    simp only [List.mem_range]
    omega
  · change i ∈ [] ↔ _
    simp only [List.not_mem_nil, false_iff]
    omega

/-- The words are in memory as the machine loads them. -/
theorem bytes_keyWord (aead : XfrmAlgoAead) (i : ℕ) : bytes (aead.keyWord i) =
    [aead.keyByte (4 * i), aead.keyByte (4 * i + 1), aead.keyByte (4 * i + 2),
      aead.keyByte (4 * i + 3)] :=
  bytes_word _ _ _ _

/-- The key of a state whose length describes its bytes. -/
theorem keyBytes_of_size (size : aead.algKey.length = aead.keySize) :
    aead.keyBytes = aead.algKey := by
  unfold XfrmAlgoAead.keyBytes XfrmAlgoAead.keyByte
  refine List.ext_getElem (by simp [size]) fun i inRange inKey => ?_
  simp [inKey]

end Reading

/-! ## What is stored -/

/-- The bytes of the key of an entry. -/
def NsimSa.keyBytes (sa : NsimSa) : Bytes := (List.finRange 4).flatMap fun i => bytes (sa.key i)

/-- Nothing but the length of its key speaks against adding a state. -/
structure XfrmState.Offered (x : XfrmState) (ipsec : NsimIpsec) (aead : XfrmAlgoAead) : Prop where
  proto : x.proto = IPPROTO_ESP ∨ x.proto = IPPROTO_AH
  calg : x.calg = false
  type : x.type = .crypto
  room : ipsec.count.toNat ≠ NSIM_IPSEC_MAX_SA_COUNT ∧ ∃ i, (ipsec.sa i).used = false
  algo : x.aead = some aead
  supported : aead.Supported

/-- The entry of a slot has a key of 128 bits, or one of 160 bits that ends in the salt: the key and
the salt of the entry are the bytes of the state's key, behind which nothing was read. -/
structure KeyKept (x : XfrmState) (aead : XfrmAlgoAead) (sa : NsimSa) : Prop where
  stored : aead.algKeyLen.toNat = 128 ∧ sa.keyBytes = aead.keyBytes ∧ sa.salt = 0 ∨
    aead.algKeyLen.toNat = 160 ∧ sa.keyBytes ++ bytes sa.salt = aead.keyBytes
  inside : ∀ i ∈ keyReads x, i < aead.keySize

/-- If a state is added, its entry keeps the key. -/
def KeepsKey (ipsec : NsimIpsec) (xs : ℕ) (x : XfrmState) : Prop :=
  ∀ ipsec' x', nsimIpsecAddSa ipsec xs x = .ok (ipsec', x') →
    ∃ aead i, x.aead = some aead ∧ x'.offloadHandle = saHandle i ∧ KeyKept x aead (ipsec'.sa i)

section Keys

variable {ipsec ipsec' : NsimIpsec} {xs : ℕ} {x x' : XfrmState} {aead : XfrmAlgoAead}

/-- The words of the entry for an accepted key. -/
theorem nsimIpsecParseProtoKeys_of_supported (some : x.aead = some aead)
    (supported : aead.Supported) : nsimIpsecParseProtoKeys x =
      if (128 : ℤ) < aead.keyLen then .ok (fun i => aead.keyWord i, aead.keyWord 4)
      else if aead.keyLen = 128 then .ok (fun i => aead.keyWord i, 0)
      else .error .EINVAL := by
  obtain ⟨icv, name⟩ := supported
  unfold nsimIpsecParseProtoKeys
  simp only [some, icv, name, ne_eq, not_true_eq_false, ↓reduceIte]
  rfl

theorem supported_of_parse {words : (Fin 4 → UInt32) × UInt32}
    (ok : nsimIpsecParseProtoKeys x = .ok words) :
    ∃ aead, x.aead = some aead ∧ aead.Supported := by
  unfold nsimIpsecParseProtoKeys at ok
  split at ok
  · cases ok
  · rename_i aead some
    dsimp only at ok
    split_ifs at ok with icv name
    all_goals exact ⟨aead, some, not_not.1 icv, not_not.1 name⟩

/-- A state that is offered with a key of an accepted length is added. -/
theorem nsimIpsecAddSa_of_offered (xs : ℕ) (offered : x.Offered ipsec aead)
    {words : (Fin 4 → UInt32) × UInt32} (parsed : nsimIpsecParseProtoKeys x = .ok words) :
    ∃ i, nsimIpsecAddSa ipsec xs x = .ok ({ ipsec with
      sa := Function.update ipsec.sa i (.prepare xs x words.1 words.2)
      count := ipsec.count + 1 }, { x with offloadHandle := saHandle i }) := by
  obtain ⟨notFull, j, free⟩ := offered.room
  obtain ⟨i, first⟩ := Slots.exists_firstFree_of_free free
  have proto : ¬(x.proto ≠ IPPROTO_ESP ∧ x.proto ≠ IPPROTO_AH) := by
    have := offered.proto
    tauto
  have found : nsimIpsecFindEmptyIdx ipsec = .ok i := by
    unfold nsimIpsecFindEmptyIdx
    rw [if_neg notFull, first]
  refine ⟨i, ?_⟩
  unfold nsimIpsecAddSa
  simp only [if_neg proto, offered.calg, offered.type, found, parsed, ne_eq, not_true_eq_false,
    Bool.false_eq_true, ↓reduceIte]

/-- What is added was offered, and its entry has the words of the key. -/
theorem offered_of_nsimIpsecAddSa (ok : nsimIpsecAddSa ipsec xs x = .ok (ipsec', x')) :
    ∃ aead words i, x.Offered ipsec aead ∧ nsimIpsecParseProtoKeys x = .ok words ∧
      ipsec'.sa i = .prepare xs x words.1 words.2 ∧ x'.offloadHandle = saHandle i := by
  unfold nsimIpsecAddSa at ok
  split_ifs at ok with badProto badCalg badType
  split at ok
  · cases ok
  · rename_i i found
    unfold nsimIpsecFindEmptyIdx at found
    split_ifs at found with full
    split at found <;> cases found
    rename_i first
    split at ok
    · cases ok
    · rename_i key salt parsed
      cases ok
      obtain ⟨aead, algo, supported⟩ := supported_of_parse parsed
      refine ⟨aead, (key, salt), i, ?_, parsed, Function.update_self .., rfl⟩
      exact ⟨by tauto, by simpa using badCalg, not_not.1 badType,
        ⟨full, i, Slots.free_of_firstFree first⟩, algo, supported⟩

/-- The length is compared as an `int`. -/
theorem keyLen_eq (aead : XfrmAlgoAead) :
    aead.keyLen = (aead.algKeyLen.toNat : ℤ).bmod (2 ^ 32) :=
  FixedWidth.toInt_toInt32 _

theorem keyLen_eq_iff (aead : XfrmAlgoAead) (n : ℕ) (small : n < 2 ^ 31) :
    aead.keyLen = n ↔ aead.algKeyLen.toNat = n := by
  have lt := aead.algKeyLen.toNat_lt
  rw [keyLen_eq, Int.bmod_eq_iff (by decide)]
  omega

/-- The four words of a key are its first sixteen bytes. -/
theorem keyBytes_prepare (xs : ℕ) (x : XfrmState) (aead : XfrmAlgoAead) (salt : UInt32) :
    (NsimSa.prepare xs x (fun i => aead.keyWord i) salt).keyBytes =
      (List.range 16).map aead.keyByte := by
  unfold NsimSa.keyBytes NsimSa.prepare
  simp only [bytes_keyWord]
  rfl

/-- What is stored of a longer key: its first twenty bytes in memory. -/
theorem stored_of_long (xs : ℕ) (long : 128 < aead.keyLen) {words : (Fin 4 → UInt32) × UInt32}
    (algo : x.aead = some aead) (supported : aead.Supported)
    (parsed : nsimIpsecParseProtoKeys x = .ok words) :
    (NsimSa.prepare xs x words.1 words.2).keyBytes ++
        bytes (NsimSa.prepare xs x words.1 words.2).salt = (List.range 20).map aead.keyByte := by
  rw [nsimIpsecParseProtoKeys_of_supported algo supported, if_pos long] at parsed
  cases parsed
  rw [keyBytes_prepare]
  simp only [NsimSa.prepare, bytes_keyWord]
  rfl

/-- What is stored of a key of 128 bits: its sixteen bytes and no salt. -/
theorem stored_of_exact (xs : ℕ) (exact : aead.keyLen = 128) {words : (Fin 4 → UInt32) × UInt32}
    (algo : x.aead = some aead) (supported : aead.Supported)
    (parsed : nsimIpsecParseProtoKeys x = .ok words) :
    (NsimSa.prepare xs x words.1 words.2).keyBytes = (List.range 16).map aead.keyByte ∧
      (NsimSa.prepare xs x words.1 words.2).salt = 0 := by
  rw [nsimIpsecParseProtoKeys_of_supported algo supported, if_neg (by omega), if_pos exact]
    at parsed
  cases parsed
  exact ⟨keyBytes_prepare .., rfl⟩

/-- A key of one of the two lengths of the error message is kept. -/
theorem keyKept_of_length (offered : x.Offered ipsec aead) {words : (Fin 4 → UInt32) × UInt32}
    (parsed : nsimIpsecParseProtoKeys x = .ok words)
    (length : aead.keyLen = 128 ∨ aead.keyLen = 160) :
    KeyKept x aead (.prepare xs x words.1 words.2) := by
  have algo := offered.algo
  have supported := offered.supported
  obtain short | long := length
  · have bits : aead.algKeyLen.toNat = 128 := (keyLen_eq_iff _ _ (by decide)).1 short
    have size : aead.keySize = 16 := by
      unfold XfrmAlgoAead.keySize
      omega
    obtain ⟨key, salt⟩ := stored_of_exact xs short algo supported parsed
    refine ⟨.inl ⟨bits, ?_, salt⟩, fun i read => ?_⟩
    · rw [key, XfrmAlgoAead.keyBytes, size]
    · rw [mem_keyReads algo supported] at read
      omega
  · have bits : aead.algKeyLen.toNat = 160 := (keyLen_eq_iff _ _ (by decide)).1 long
    have size : aead.keySize = 20 := by
      unfold XfrmAlgoAead.keySize
      omega
    refine ⟨.inr ⟨bits, ?_⟩, fun i read => ?_⟩
    · rw [stored_of_long _ (by omega) algo supported parsed, XfrmAlgoAead.keyBytes, size]
    · rw [mem_keyReads algo supported] at read
      omega

/-- Keys of other lengths above 128 bits are taken and not kept. -/
theorem length_of_keepsKey (keeps : KeepsKey ipsec xs x) (offered : x.Offered ipsec aead) :
    aead.keyLen ≤ 128 ∨ aead.keyLen = 160 := by
  by_contra other
  have parsed := nsimIpsecParseProtoKeys_of_supported offered.algo offered.supported
  rw [if_pos (by omega)] at parsed
  obtain ⟨i, added⟩ := nsimIpsecAddSa_of_offered xs offered parsed
  obtain ⟨aead', _, algo, -, kept⟩ := keeps _ _ added
  obtain rfl : aead = aead' := by simpa [offered.algo] using algo
  obtain ⟨bits, -⟩ | ⟨bits, -⟩ := kept.stored
  · have := keyLen_eq_iff aead 128 (by decide)
    omega
  · have := keyLen_eq_iff aead 160 (by decide)
    omega

end Keys

/-- The key of an added state is kept exactly when it has one of the two lengths of the error
message.  Shorter keys are refused. -/
theorem ipsec_keepsKey_iff (ipsec : NsimIpsec) (xs : ℕ) (x : XfrmState) : KeepsKey ipsec xs x ↔
    ∀ aead, x.Offered ipsec aead → aead.keyLen ≤ 128 ∨ aead.keyLen = 160 := by
  constructor
  · intro keeps aead offered
    exact length_of_keepsKey keeps offered
  · intro lengths ipsec' x' added
    obtain ⟨aead, words, i, offered, parsed, entry, handle⟩ := offered_of_nsimIpsecAddSa added
    refine ⟨aead, i, offered.algo, handle, ?_⟩
    rw [entry]
    refine keyKept_of_length offered parsed ?_
    rw [nsimIpsecParseProtoKeys_of_supported offered.algo offered.supported] at parsed
    have := lengths aead offered
    split_ifs at parsed with long exact
    · omega
    · omega

/-- A state with a key of AES-256 and a salt, of 288 bits. -/
def longKeyState : XfrmState :=
  { espState with
    aead := some ⟨ascii "rfc4106(gcm(aes))", 288, 128, List.replicate 36 7, fun _ => 0⟩ }

/-- Sixteen bytes of such a key are lost, and its salt is not the one that is stored. -/
theorem ipsec_key_lost : ¬∀ ipsec xs x, KeepsKey ipsec xs x := by
  intro keeps
  have offered : longKeyState.Offered .empty
      ⟨ascii "rfc4106(gcm(aes))", 288, 128, List.replicate 36 7, fun _ => 0⟩ :=
    ⟨.inl rfl, rfl, rfl, ⟨by decide, 0, rfl⟩, rfl, rfl, by decide⟩
  have := length_of_keepsKey (keeps .empty 1 longKeyState) offered
  revert this
  decide

end Netdevsim
