import Netdevsim.Dpll.Listener
import Netdevsim.Dpll.Message

/-!
# Dumps of all pins and devices

A dump writes one message for each object, in the order of the ids.  When one has no room it is
taken back, and the next call starts over with it.  So each object has one whole message in the end,
however the messages are spread over the buffers.
-/

namespace Netdevsim

open Program Writing

variable {δ : Type}

/-! ## Calls -/

/-- `genlmsg_put`. -/
def genlmsgPut (cmd : DpllCmd) : MsgM δ Unit := put NlToken.size .EMSGSIZE (.msg cmd)

/-- `genlmsg_end`. -/
def genlmsgEnd : MsgM δ Unit := close .msgEnd

/-- `genlmsg_cancel`, given where the message started. -/
def genlmsgCancel (hdr : ℕ) : MsgM δ Unit := trim hdr

/-- What a function returns, an error too. -/
def returned {α : Type} (m : MsgM δ α) : MsgM δ (Except Errno α) :=
  tryCatch (m >>= fun a => pure (.ok a)) fun e => pure (.error e)

/-- The body of the loop of `dpll_nl_pin_get_dumpit` and `dpll_nl_device_get_dumpit`: the error that
ends it, after which the message is taken back. -/
def dumpOne (cmd : DpllCmd) (getOne : MsgM δ Unit) : MsgM δ (Option Errno) := do
  let hdr ← position
  match ← returned (genlmsgPut cmd) with
  | .error _ => return some .EMSGSIZE
  | .ok () =>
    match ← returned getOne with
    | .error e =>
      genlmsgCancel hdr
      return some e
    | .ok () =>
      genlmsgEnd
      return none

/-- The loop: the error that ended it, and the index where it was. -/
def dumpLoop (cmd : DpllCmd) (skip : Ptr → MsgM δ Bool) (getOne : Ptr → MsgM δ Unit) :
    List (XEntry Ptr) → MsgM δ (Option (Errno × ℕ))
  | [] => return none
  | e :: rest => do
    if ← skip e.value then dumpLoop cmd skip getOne rest
    else
      match ← dumpOne cmd (getOne e.value) with
      | some err => return some (err, e.index)
      | none => dumpLoop cmd skip getOne rest

/-- The body of both functions, given and returning the index in the context of the dump: the length
of the buffer when there is more, and 0 at the end. -/
def dumpit (entries : KernelState → XArray Ptr) (cmd : DpllCmd) (skip : Ptr → MsgM δ Bool)
    (getOne : Ptr → MsgM δ Unit) (idx : ℕ) : MsgM δ (ℕ × ℕ) := do
  let s ← get
  match ← dumpLoop cmd skip getOne ((entries s.env.kernel).markedFrom idx) with
  | none => return (0, idx)
  | some (.EMSGSIZE, i) =>
    let skb ← get
    return (total NlToken.size skb.out, i)
  | some (e, _) => throw e

/-- `dpll_nl_pin_get_dumpit`. -/
def dpllNlPinGetDumpit (src : MsgSource δ) : ℕ → MsgM δ (ℕ × ℕ) :=
  dumpit KernelState.pinXa .DPLL_CMD_PIN_GET
    (fun pin => do
      let available ← readKernel (dpllPinAvailable pin)
      return !available)
    src.dpllCmdPinGetOne

/-- `dpll_nl_device_get_dumpit`. -/
def dpllNlDeviceGetDumpit (src : MsgSource δ) : ℕ → MsgM δ (ℕ × ℕ) :=
  dumpit KernelState.deviceXa .DPLL_CMD_DEVICE_GET (fun _ => return false) src.dpllDeviceGetOne

/-! ## Whole dumps -/

/-- The buffers of a dump: what each call is given to read, and how large its buffer is. -/
structure Buffers (δ : Type) where
  kernel : KernelState
  driver : ℕ → δ
  cap : ℕ → ℕ

/-- A call of a dump with a fresh buffer. -/
def Buffers.fresh (b : Buffers δ) (n : ℕ) : Writing (MsgEnv δ) NlToken :=
  ⟨⟨b.kernel, b.driver n⟩, b.cap n, []⟩

/-- A dump from a call on, with the index in its context, and the buffers it fills: netlink calls
again as long as the result is positive, and stops at 0. -/
inductive Dumps (b : Buffers δ) (call : ℕ → MsgM δ (ℕ × ℕ)) : ℕ → ℕ → List (List NlToken) → Prop
  | stop {n idx idx' : ℕ} {t : Writing (MsgEnv δ) NlToken} :
      (call idx).exec (b.fresh n) = some (.ok (0, idx'), t) → Dumps b call n idx [t.out]
  | more {n idx idx' len : ℕ} {t : Writing (MsgEnv δ) NlToken} {rest : List (List NlToken)} :
      (call idx).exec (b.fresh n) = some (.ok (len, idx'), t) → 0 < len →
      Dumps b call (n + 1) idx' rest → Dumps b call n idx (t.out :: rest)

/-- A message about an object. -/
def message (cmd : DpllCmd) (getOne : Ptr → MsgM δ Unit) (x : Ptr) : MsgM δ Unit := do
  genlmsgPut cmd
  getOne x
  genlmsgEnd

/-- The whole message about an object, as it is written to the empty buffer of a call. -/
def IsMessage (b : Buffers δ) (cmd : DpllCmd) (getOne : Ptr → MsgM δ Unit) (x : Ptr)
    (w : List NlToken) : Prop :=
  ∃ n t, (message cmd getOne x).exec (b.fresh n) = some (.ok (), t) ∧ t.out = w

/-- The message about an object can be written to the empty buffer of each call: it fits, and the
callbacks that it asks succeed. -/
def FitsAlone (b : Buffers δ) (cmd : DpllCmd) (getOne : Ptr → MsgM δ Unit) (x : Ptr) : Prop :=
  ∀ n, ∃ t, (message cmd getOne x).exec (b.fresh n) = some (.ok (), t)

/-- A dump ends, and the buffers hold one whole message for each object, in the order of their ids.
Each message begins with the id. -/
def DumpsEachOnce (b : Buffers δ) (call : ℕ → MsgM δ (ℕ × ℕ)) (cmd : DpllCmd)
    (getOne : Ptr → MsgM δ Unit) (nla : NlaType) (id : Ptr → Option ℕ) (S : Set Ptr) : Prop :=
  ∃ (objects : List (UInt32 × Ptr)) (parts : List (List (List NlToken))),
    (∀ outs, Dumps b call 0 0 outs ↔ outs = parts.map List.flatten) ∧
      objects.Pairwise (fun x y => x.1 < y.1) ∧
      (∀ i x, (i, x) ∈ objects ↔ x ∈ S ∧ id x = some i.toNat) ∧
      List.Forall₂ (fun x w => IsMessage b cmd getOne x.2 w ∧
        ∃ rest, w = .msg cmd :: .attr nla (.u32 x.1) :: rest ++ [.msgEnd])
        objects parts.flatten

/-! ## One call -/

section Calls

variable {env : MsgEnv δ} {cap : ℕ} {out w : List NlToken} {cmd : DpllCmd}

/-- A message with its start and its end. -/
def whole (cmd : DpllCmd) (w : List NlToken) : List NlToken := .msg cmd :: w ++ [.msgEnd]

theorem total_whole : total NlToken.size (whole cmd w) = 20 + total NlToken.size w := by
  simp [whole, total, NlToken.size, NLMSG_HDRLEN, GENL_HDRLEN]

theorem exec_returned {α : Type} (m : MsgM δ α) (s : Writing (MsgEnv δ) NlToken) :
    (returned m).exec s = (m.exec s).map fun r => (.ok r.1, r.2) := by
  unfold returned
  rw [exec_tryCatch, exec_bind]
  cases m.exec s with
  | none => rfl
  | some r =>
    obtain ⟨result, t⟩ := r
    cases result <;> rfl

theorem exec_genlmsgPut (env : MsgEnv δ) (cap : ℕ) (out : List NlToken) :
    (genlmsgPut cmd : MsgM δ Unit).exec ⟨env, cap, out⟩ =
      if cap < total NlToken.size out + 20 then some (.error .EMSGSIZE, ⟨env, cap, out⟩)
      else some (.ok (), ⟨env, cap, out ++ [.msg cmd]⟩) := exec_put _ _

/-- A message is written if all of it has room, and otherwise nothing of it is left. -/
theorem exec_dumpOne (cmd : DpllCmd) {getOne : MsgM δ Unit}
    (appends : Appends NlToken.size .EMSGSIZE getOne env () w) :
    (dumpOne cmd getOne).exec ⟨env, cap, out⟩ =
      if total NlToken.size (out ++ whole cmd w) ≤ cap then
        some (.ok none, ⟨env, cap, out ++ whole cmd w⟩)
      else some (.ok (some .EMSGSIZE), ⟨env, cap, out⟩) := by
  have here : (position : MsgM δ ℕ).exec ⟨env, cap, out⟩ =
    some (.ok out.length, ⟨env, cap, out⟩) := rfl
  have size : total NlToken.size (out ++ [.msg cmd]) = total NlToken.size out + 20 := total_append
  rw [total_append, total_whole]
  unfold dumpOne
  rw [exec_bind_of_ok here, exec_bind, exec_returned, exec_genlmsgPut]
  by_cases header : cap < total NlToken.size out + 20
  · rw [if_pos header, if_neg (by omega)]
    rfl
  · rw [if_neg header]
    show (returned getOne >>= _ : MsgM δ (Option Errno)).exec _ = _
    obtain ⟨written, full⟩ := appends cap (out ++ [.msg cmd]) (by omega)
    rw [total_append, size] at written full
    rw [exec_bind, exec_returned]
    by_cases fits : total NlToken.size out + 20 + total NlToken.size w ≤ cap
    · rw [written fits, if_pos (by omega)]
      show some (_, _) = some (_, _)
      simp [whole]
    · obtain ⟨t, run, kept⟩ := full (not_le.1 fits)
      rw [run, if_neg (by omega)]
      show (genlmsgCancel out.length >>= fun _ => pure (some .EMSGSIZE) :
        MsgM δ (Option Errno)).exec t = _
      have cancelled : (genlmsgCancel out.length : MsgM δ Unit).exec t = _ :=
        exec_trim_of_extends kept
      rw [exec_bind_of_ok cancelled]
      rfl

variable {skip : Ptr → MsgM δ Bool} {getOne : Ptr → MsgM δ Unit} {skips : Ptr → Bool}
  {record : Ptr → List NlToken}

/-- The messages about the objects that are not skipped. -/
def messages (cmd : DpllCmd) (skips : Ptr → Bool) (record : Ptr → List NlToken)
    (es : List (XEntry Ptr)) : List (List NlToken) :=
  (es.filter fun e => !skips e.value).map fun e => whole cmd (record e.value)

theorem messages_cons_of_skips {e : XEntry Ptr} {es : List (XEntry Ptr)}
    (gone : skips e.value = true) :
    messages cmd skips record (e :: es) = messages cmd skips record es := by
  rw [messages, List.filter_cons_of_neg (by simp [gone])]
  rfl

theorem messages_cons {e : XEntry Ptr} {es : List (XEntry Ptr)} (kept : skips e.value = false) :
    messages cmd skips record (e :: es) =
      whole cmd (record e.value) :: messages cmd skips record es := by
  rw [messages, List.filter_cons_of_pos (by simp [kept])]
  rfl

/-- The loop writes the messages until one has no room. -/
theorem exec_dumpLoop (cmd : DpllCmd) (es : List (XEntry Ptr)) (cap : ℕ) (out : List NlToken)
    (skipped : ∀ e ∈ es, ∀ cap out, (skip e.value).exec ⟨env, cap, out⟩ =
      some (.ok (skips e.value), ⟨env, cap, out⟩))
    (appends : ∀ e ∈ es, skips e.value = false →
      Appends NlToken.size .EMSGSIZE (getOne e.value) env () (record e.value)) :
    ∃ done rest, es = done ++ rest ∧
      (dumpLoop cmd skip getOne es).exec ⟨env, cap, out⟩ =
        some (.ok (rest.head?.map fun e => (.EMSGSIZE, e.index)),
          ⟨env, cap, out ++ (messages cmd skips record done).flatten⟩) ∧
      ∀ e, rest.head? = some e → skips e.value = false ∧
        cap < total NlToken.size (out ++ (messages cmd skips record done).flatten) +
          total NlToken.size (whole cmd (record e.value)) := by
  induction es generalizing out with
  | nil => exact ⟨[], [], rfl, by rw [messages]; simp; rfl, nofun⟩
  | cons e es ih =>
    have laterSkipped := fun e' mem => skipped e' (List.mem_cons_of_mem e mem)
    have laterAppends := fun e' mem => appends e' (List.mem_cons_of_mem e mem)
    unfold dumpLoop
    rw [exec_bind_of_ok (skipped e List.mem_cons_self cap out)]
    cases here : skips e.value with
    | true =>
      obtain ⟨done, rest, split, run, stopped⟩ := ih out laterSkipped laterAppends
      refine ⟨e :: done, rest, by rw [split]; rfl, ?_⟩
      rw [messages_cons_of_skips here]
      exact ⟨run, stopped⟩
    | false =>
      have one : (dumpOne cmd (getOne e.value)).exec ⟨env, cap, out⟩ = _ :=
        exec_dumpOne cmd (appends e List.mem_cons_self here)
      rw [if_neg Bool.false_ne_true]
      by_cases fits : total NlToken.size (out ++ whole cmd (record e.value)) ≤ cap
      · rw [if_pos fits] at one
        obtain ⟨done, rest, split, run, stopped⟩ := ih _ laterSkipped laterAppends
        refine ⟨e :: done, rest, by rw [split]; rfl, ?_⟩
        rw [messages_cons here, List.flatten_cons, ← List.append_assoc, exec_bind_of_ok one]
        exact ⟨run, stopped⟩
      · rw [if_neg fits] at one
        refine ⟨[], e :: es, rfl, ?_, ?_⟩
        · rw [exec_bind_of_ok one, show (messages cmd skips record []).flatten = [] from rfl,
            List.append_nil]
          rfl
        · intro e' first
          cases first
          rw [show (messages cmd skips record []).flatten = [] from rfl, List.append_nil,
            ← total_append]
          exact ⟨here, not_le.1 fits⟩

/-- A message that is written to an empty buffer is whole. -/
theorem exists_whole {x : Ptr} (steady : SteadyMsg (getOne x)) {t : Writing (MsgEnv δ) NlToken}
    (run : (message cmd getOne x).exec ⟨env, cap, []⟩ = some (.ok (), t)) :
    ∃ w, Appends NlToken.size .EMSGSIZE (getOne x) env () w ∧ t = ⟨env, cap, whole cmd w⟩ ∧
      total NlToken.size (whole cmd w) ≤ cap := by
  have start : Appends NlToken.size .EMSGSIZE (genlmsgPut cmd : MsgM δ Unit) env () [.msg cmd] :=
    appends_put _
  have empty : total NlToken.size [] ≤ cap := Nat.zero_le cap
  unfold message at run
  rw [exec_bind] at run
  split at run
  · cases run
  · rename_i ran
    obtain ⟨-, rfl, header⟩ := start.of_ok empty ran
    rw [exec_bind] at run
    split at run
    · cases run
    · rename_i ran'
      obtain ⟨w, rfl, fits, appends⟩ := steady _ _ () header ran'
      cases run
      refine ⟨w, appends, by simp [whole], ?_⟩
      rw [total_whole]
      simpa [total, NlToken.size, NLMSG_HDRLEN, GENL_HDRLEN, add_comm] using fits
    · cases run
  · cases run

end Calls

/-! ## All calls -/

section Runs

variable {b : Buffers δ} {call : ℕ → MsgM δ (ℕ × ℕ)} {n idx : ℕ} {cmd : DpllCmd}
  {entries : KernelState → XArray Ptr} {skip : Ptr → MsgM δ Bool} {getOne : Ptr → MsgM δ Unit}
  {skips : Ptr → Bool}

/-- A dump can only go on in one way. -/
theorem Dumps.unique {outs outs' : List (List NlToken)} (h : Dumps b call n idx outs)
    (h' : Dumps b call n idx outs') : outs = outs' := by
  induction h generalizing outs' with
  | stop run =>
    cases h' with
    | stop run' =>
      rw [run] at run'
      cases run'
      rfl
    | more run' positive =>
      rw [run] at run'
      cases run'
      exact absurd positive (lt_irrefl 0)
  | more run positive _ ih =>
    cases h' with
    | stop run' =>
      rw [run] at run'
      cases run'
      exact absurd positive (lt_irrefl 0)
    | more run' _ later =>
      rw [run] at run'
      cases run'
      rw [ih later]

/-- What the attributes of a message are in a call. -/
theorem FitsAlone.exists_record {x : Ptr} (fits : FitsAlone b cmd getOne x)
    (steady : SteadyMsg (getOne x)) (n : ℕ) :
    ∃ w, Appends NlToken.size .EMSGSIZE (getOne x) ⟨b.kernel, b.driver n⟩ () w ∧
      total NlToken.size (whole cmd w) ≤ b.cap n ∧ IsMessage b cmd getOne x (whole cmd w) := by
  obtain ⟨t, run⟩ := fits n
  obtain ⟨w, appends, rfl, room⟩ := exists_whole steady run
  exact ⟨w, appends, room, n, _, run, rfl⟩

theorem exec_dumpit_end {env : MsgEnv δ} {cap : ℕ} {t : Writing (MsgEnv δ) NlToken}
    (run : (dumpLoop cmd skip getOne ((entries env.kernel).markedFrom idx)).exec ⟨env, cap, []⟩ =
      some (.ok none, t)) :
    (dumpit entries cmd skip getOne idx).exec ⟨env, cap, []⟩ = some (.ok (0, idx), t) := by
  show (dumpLoop cmd skip getOne ((entries env.kernel).markedFrom idx) >>= _).exec _ = _
  rw [exec_bind_of_ok run]
  rfl

theorem exec_dumpit_more {env : MsgEnv δ} {cap i : ℕ} {t : Writing (MsgEnv δ) NlToken}
    (run : (dumpLoop cmd skip getOne ((entries env.kernel).markedFrom idx)).exec ⟨env, cap, []⟩ =
      some (.ok (some (.EMSGSIZE, i)), t)) :
    (dumpit entries cmd skip getOne idx).exec ⟨env, cap, []⟩ =
      some (.ok (total NlToken.size t.out, i), t) := by
  show (dumpLoop cmd skip getOne ((entries env.kernel).markedFrom idx) >>= _).exec _ = _
  rw [exec_bind_of_ok run]
  rfl

/-- Each object that is not skipped has one whole message.  The induction is on the objects that are
left: since the first of them fits an empty buffer, a call that stops has written a message. -/
theorem exists_dumps (steady : ∀ x, SteadyMsg (getOne x))
    (skipped : ∀ e ∈ (entries b.kernel).markedFrom 0, ∀ n cap out,
      (skip e.value).exec ⟨⟨b.kernel, b.driver n⟩, cap, out⟩ =
        some (.ok (skips e.value), ⟨⟨b.kernel, b.driver n⟩, cap, out⟩))
    (alone : ∀ e ∈ (entries b.kernel).markedFrom 0, skips e.value = false →
      FitsAlone b cmd getOne e.value) (n idx : ℕ) :
    ∃ parts : List (List (List NlToken)),
      Dumps b (dumpit entries cmd skip getOne) n idx (parts.map List.flatten) ∧
        List.Forall₂ (fun e w => IsMessage b cmd getOne e.value w)
          (((entries b.kernel).markedFrom idx).filter fun e => !skips e.value) parts.flatten := by
  induction left : ((entries b.kernel).markedFrom idx).length using Nat.strong_induction_on
    generalizing n idx with
  | h len ih =>
    have listed : ∀ e ∈ (entries b.kernel).markedFrom idx, e ∈ (entries b.kernel).markedFrom 0 := by
      intro e mem
      obtain ⟨entry, -, marked⟩ := XArray.mem_markedFrom.1 mem
      exact XArray.mem_markedFrom.2 ⟨entry, Nat.zero_le _, marked⟩
    choose! record appends room isMessage using
      fun x (fits : FitsAlone b cmd getOne x) => fits.exists_record (steady x) n
    obtain ⟨done, rest, split, run, stopped⟩ := exec_dumpLoop cmd
      ((entries b.kernel).markedFrom idx) (b.cap n) [] (fun e mem => skipped e (listed e mem) n)
      (fun e mem kept => appends e.value (alone e (listed e mem) kept))
    rw [List.nil_append] at run stopped
    have written : List.Forall₂ (fun e w => IsMessage b cmd getOne e.value w)
        (done.filter fun e => !skips e.value) (messages cmd skips record done) := by
      refine List.forall₂_map_right_iff.2 (List.forall₂_same.2 fun e mem => ?_)
      obtain ⟨here, kept⟩ := List.mem_filter.1 mem
      have marked := listed e (by rw [split]; exact List.mem_append_left _ here)
      exact isMessage e.value (alone e marked (by simpa using kept))
    cases rest with
    | nil =>
      refine ⟨[messages cmd skips record done], .stop (exec_dumpit_end run), ?_⟩
      rwa [split, List.append_nil, List.flatten_singleton]
    | cons e after =>
      obtain ⟨kept, less⟩ := stopped e rfl
      have fits := room e.value (alone e (listed e (by rw [split]; simp)) kept)
      have positive : 0 < total NlToken.size (messages cmd skips record done).flatten := by omega
      have progress : done ≠ [] := by
        rintro rfl
        exact absurd positive (lt_irrefl 0)
      have again := XArray.markedFrom_of_split split
      have fewer : ((entries b.kernel).markedFrom e.index).length < len := by
        rw [← left, split, again, List.length_append]
        have := List.length_pos_iff.2 progress
        omega
      obtain ⟨parts, later, rest⟩ := ih _ fewer (n + 1) e.index rfl
      refine ⟨messages cmd skips record done :: parts,
        .more (exec_dumpit_more run) positive later, ?_⟩
      rw [split, List.filter_append, List.flatten_cons]
      rw [again] at rest
      exact List.rel_append written rest

/-- A message says first which object it is about. -/
theorem begins_of_isMessage {X : Type} {deref : KernelM X} {nla : NlaType} {id : X → ℕ}
    {tail : X → MsgM δ Unit} {a : Ptr} {x : X}
    (same : getOne a = readKernel deref >>= fun x =>
      nlaPut nla (.u32 (UInt32.ofNat (id x))) >>= fun _ => tail x)
    (steady : ∀ x, SteadyMsg (tail x)) (read : deref.exec b.kernel = some (.ok x, b.kernel))
    {w : List NlToken} (isMessage : IsMessage b cmd getOne a w) :
    ∃ rest, w = .msg cmd :: .attr nla (.u32 (UInt32.ofNat (id x))) :: rest ++ [.msgEnd] := by
  obtain ⟨n, t, run, rfl⟩ := isMessage
  have steady' : SteadyMsg (getOne a) := by
    rw [same]
    exact (steady_readKernel _).bind fun x => steady_nlaPut.bind fun _ => steady x
  obtain ⟨w, appends, rfl, room⟩ := exists_whole steady' run
  have ran := (appends (total NlToken.size w) [] (Nat.zero_le _)).1 le_rfl
  have first : Appends NlToken.size .EMSGSIZE
      (nlaPut nla (.u32 (UInt32.ofNat (id x))) : MsgM δ Unit) ⟨b.kernel, b.driver n⟩ ()
      [.attr nla (.u32 (UInt32.ofNat (id x)))] := appends_put _
  rw [same, exec_bind_of_ok (exec_readKernel read _ _ _), exec_bind] at ran
  split at ran
  · cases ran
  · rename_i put
    obtain ⟨-, rfl, fits⟩ := first.of_ok (Nat.zero_le _) put
    obtain ⟨rest, there, -⟩ := steady x _ _ () fits ran
    have out : w = .attr nla (.u32 (UInt32.ofNat (id x))) :: rest := congrArg Writing.out there
    rw [out]
    exact ⟨rest, rfl⟩
  · cases ran

/-- What is dumped is what is marked and not skipped. -/
theorem dumpsEachOnce_of_marked (skips : Ptr → Bool) (steady : ∀ x, SteadyMsg (getOne x))
    (skipped : ∀ e ∈ (entries b.kernel).markedFrom 0, ∀ n cap out,
      (skip e.value).exec ⟨⟨b.kernel, b.driver n⟩, cap, out⟩ =
        some (.ok (skips e.value), ⟨⟨b.kernel, b.driver n⟩, cap, out⟩))
    {id : Ptr → Option ℕ} {S : Set Ptr}
    (mem : ∀ i x, (∃ e ∈ (entries b.kernel).markedFrom 0, skips e.value = false ∧
      e.index = i ∧ e.value = x) ↔ x ∈ S ∧ id x = some i)
    (small : ∀ x i, id x = some i → i ≤ XA_LIMIT_32B_MAX)
    (alone : ∀ x ∈ S, FitsAlone b cmd getOne x) {nla : NlaType}
    (begins : ∀ i x w, id x = some i → IsMessage b cmd getOne x w →
      ∃ rest, w = .msg cmd :: .attr nla (.u32 (UInt32.ofNat i)) :: rest ++ [.msgEnd]) :
    DumpsEachOnce b (dumpit entries cmd skip getOne) cmd getOne nla id S := by
  have inS : ∀ e ∈ (entries b.kernel).markedFrom 0, skips e.value = false →
      e.value ∈ S ∧ id e.value = some e.index :=
    fun e marked kept => (mem e.index e.value).1 ⟨e, marked, kept, rfl, rfl⟩
  obtain ⟨parts, dumps, written⟩ := exists_dumps steady skipped
    (fun e marked kept => alone e.value (inS e marked kept).1) 0 0
  let kept := ((entries b.kernel).markedFrom 0).filter fun e => !skips e.value
  have named : ∀ e ∈ kept, id e.value = some e.index := by
    intro e here
    obtain ⟨marked, stays⟩ := List.mem_filter.1 here
    exact (inS e marked (by simpa using stays)).2
  have fits : ∀ e ∈ kept, (UInt32.ofNat e.index).toNat = e.index := by
    intro e here
    have within : XA_LIMIT_32B_MAX < UInt32.size := by decide
    exact UInt32.toNat_ofNat_of_lt' ((small e.value e.index (named e here)).trans_lt within)
  refine ⟨kept.map fun e => (UInt32.ofNat e.index, e.value), parts, fun outs => ?_, ?_,
    fun i x => ?_, ?_⟩
  · constructor
    · exact fun other => other.unique dumps
    · rintro rfl
      exact dumps
  · have sorted : kept.Pairwise (·.index < ·.index) := (XArray.markedFrom_sorted _ 0).filter _
    refine List.pairwise_map.2 (sorted.imp_of_mem fun here here' lt => ?_)
    rw [UInt32.lt_iff_toNat_lt, fits _ here, fits _ here']
    exact lt
  · rw [← mem i.toNat x, List.mem_map]
    constructor
    · rintro ⟨e, here, same⟩
      obtain ⟨rfl, rfl⟩ := Prod.mk.inj same
      obtain ⟨marked, stays⟩ := List.mem_filter.1 here
      exact ⟨e, marked, by simpa using stays, (fits e here).symm, rfl⟩
    · rintro ⟨e, marked, stays, index, rfl⟩
      refine ⟨e, List.mem_filter.2 ⟨marked, by simpa using stays⟩, ?_⟩
      rw [index, UInt32.ofNat_toNat]
  · refine List.forall₂_map_left_iff.2 (((List.forall₂_and_left _ _).2 ⟨named, written⟩).imp ?_)
    rintro e w ⟨name, isMessage⟩
    exact ⟨isMessage, begins e.index e.value w name isMessage⟩

end Runs

/-! ## Pins and devices -/

section Registry

variable {k : KernelState}

/-- The marked entries are those of the marked objects. -/
theorem exists_markedFrom_iff {X : Type} {xa : XArray Ptr} {obj : Ptr → Option X} {id : X → ℕ}
    (listedAt : ∀ a x, obj a = some x → xa.load (id x) = some a)
    (live : ∀ e ∈ xa.entries, e.mark = true → ∃ x, obj e.value = some x ∧ id x = e.index) (i : ℕ)
    (a : Ptr) : (∃ e ∈ xa.markedFrom 0, e.index = i ∧ e.value = a) ↔
      (obj a).any (fun x => xa.getMark (id x)) = true ∧ (obj a).map id = some i := by
  rw [← mem_marked listedAt live, List.mem_map, ← exists_and_right]
  refine exists_congr fun e => ?_
  rw [and_assoc, and_congr_right_iff]
  intro mem
  obtain ⟨entry, -, marked⟩ := XArray.mem_markedFrom.1 mem
  obtain ⟨x, here, index⟩ := live e entry marked
  constructor
  · rintro ⟨rfl, rfl⟩
    exact ⟨rfl, by rw [here, Option.map_some, index]⟩
  · rintro ⟨rfl, same⟩
    rw [here, Option.map_some, index] at same
    exact ⟨Option.some.inj same, rfl⟩

/-- Whether a listed pin is available can be told in each buffer. -/
theorem exec_pinAvailable (inv : RegistryInvariant k) {pin : Ptr} {p : DpllPin}
    (live : k.pin pin = some p) (driver : δ) (cap : ℕ) (out : List NlToken) :
    (readKernel (dpllPinAvailable pin) : MsgM δ Bool).exec ⟨⟨k, driver⟩, cap, out⟩ =
      some (.ok (k.pinAvailable pin), ⟨⟨k, driver⟩, cap, out⟩) := by
  have available := exec_dpllPinAvailable_of_live live (inv.parents live) (inv.targets live)
  unfold KernelState.pinAvailable
  rw [exec_readKernel available, available]

theorem pinMarked_of_pinAvailable (inv : RegistryInvariant k) {pin : Ptr} {p : DpllPin}
    (live : k.pin pin = some p) (available : k.pinAvailable pin = true) : k.pinMarked pin = true := by
  have whether := exec_dpllPinAvailable_of_live live (inv.parents live) (inv.targets live)
  unfold KernelState.pinAvailable at available
  rw [whether] at available
  unfold KernelState.pinMarked
  rw [live]
  exact (Bool.and_eq_true_iff.1 available).1

end Registry

/-- In every state that calls of the core lead to, and for all buffers that a single message fits: a
dump of the pins ends and has one whole message for each available pin, in the order of the ids, and
so has a dump of the devices for each registered device. -/
theorem dumps_emit_each_once (k : KernelState)
    (reach : (registrySystem.guard fun s a => PutsUnregistered s a.1).Reachable k)
    (src : MsgSource δ) (driver : ℕ → δ) (cap : ℕ → ℕ) :
    ((∀ pin, k.pinAvailable pin = true →
        FitsAlone ⟨k, driver, cap⟩ .DPLL_CMD_PIN_GET src.dpllCmdPinGetOne pin) →
      DumpsEachOnce ⟨k, driver, cap⟩ (dpllNlPinGetDumpit src) .DPLL_CMD_PIN_GET src.dpllCmdPinGetOne
        .DPLL_A_PIN_ID k.pinId {pin | k.pinAvailable pin = true}) ∧
    ((∀ dpll, k.deviceMarked dpll = true →
        FitsAlone ⟨k, driver, cap⟩ .DPLL_CMD_DEVICE_GET src.dpllDeviceGetOne dpll) →
      DumpsEachOnce ⟨k, driver, cap⟩ (dpllNlDeviceGetDumpit src) .DPLL_CMD_DEVICE_GET
        src.dpllDeviceGetOne .DPLL_A_ID k.deviceKey {dpll | k.deviceMarked dpll = true}) := by
  have inv := registryInvariant_reachable reach
  have listed := listed_reachable reach.of_guard
  constructor
  · intro alone
    refine dumpsEachOnce_of_marked (fun pin => !k.pinAvailable pin) src.steady_dpllCmdPinGetOne
      (fun e mem n cap out => ?_) (fun i pin => ?_) (fun pin i named => ?_) alone
      fun i pin w named isMessage => ?_
    · obtain ⟨entry, -, marked⟩ := XArray.mem_markedFrom.1 mem
      obtain ⟨p, live, -⟩ := listed.pin e entry marked
      rw [exec_bind_of_ok (exec_pinAvailable inv live (driver n) cap out)]
      rfl
    · have marked := exists_markedFrom_iff listed.pinAt listed.pin i pin
      constructor
      · rintro ⟨e, mem, available, rfl, rfl⟩
        have here : k.pinAvailable e.value = true := by simpa using available
        exact ⟨here, (marked.1 ⟨e, mem, rfl, rfl⟩).2⟩
      · rintro ⟨available, named⟩
        have here : k.pinAvailable pin = true := available
        obtain ⟨p, live⟩ := exists_pin_of_pinAvailable here
        obtain ⟨e, mem, rfl, rfl⟩ := marked.2 ⟨pinMarked_of_pinAvailable inv live here, named⟩
        exact ⟨e, mem, by simpa using here, rfl, rfl⟩
    · obtain ⟨p, live, rfl⟩ := Option.map_eq_some_iff.1 named
      exact listed.pinId pin p live
    · obtain ⟨p, live, rfl⟩ := Option.map_eq_some_iff.1 named
      obtain ⟨tail, same, steady⟩ := src.dpllCmdPinGetOne_eq pin
      exact begins_of_isMessage same steady (exec_derefPin live) isMessage
  · intro alone
    refine dumpsEachOnce_of_marked (fun _ => false) src.steady_dpllDeviceGetOne
      (fun e mem n cap out => rfl) (fun i dpll => ?_) (fun dpll i named => ?_) alone
      fun i dpll w named isMessage => ?_
    · have marked := exists_markedFrom_iff listed.deviceAt (fun e mem _ => listed.device e mem) i dpll
      simp only [true_and]
      exact marked
    · obtain ⟨d, live, rfl⟩ := Option.map_eq_some_iff.1 named
      exact listed.deviceId dpll d live
    · obtain ⟨d, live, rfl⟩ := Option.map_eq_some_iff.1 named
      obtain ⟨tail, same, steady⟩ := src.dpllDeviceGetOne_eq dpll
      exact begins_of_isMessage same steady (exec_derefDevice live) isMessage

/-! ## A dump of two devices and two pins -/

/-- A driver with the callbacks that devices and pins need. -/
def steadySource : MsgSource Unit where
  names := dpllName
  devOps _ := ⟨some fun _ _ => .ok 1, some fun _ _ => .ok (2, 0), none⟩
  pinOps _ := ⟨none, none, none, some fun _ _ => .ok 1, none, some fun _ _ => .ok 1, none, none, none,
    none, none, none, none, none⟩

/-- A buffer of 150 bytes, which has room for one message. -/
def oneEach (k : KernelState) : Buffers Unit := ⟨k, fun _ => (), fun _ => 150⟩

/-- The message is written to the empty buffer. -/
def writtenAlone (k : KernelState) (m : MsgM Unit Unit) : Bool :=
  match m.exec ((oneEach k).fresh 0) with
  | some (.ok (), _) => true
  | _ => false

theorem fitsAlone_of_writtenAlone {k : KernelState} {cmd : DpllCmd} {getOne : Ptr → MsgM Unit Unit}
    {x : Ptr} (written : writtenAlone k (message cmd getOne x) = true) :
    FitsAlone (oneEach k) cmd getOne x := by
  intro n
  unfold writtenAlone at written
  split at written
  · rename_i t run
    exact ⟨t, run⟩
  · cases written

/-- The pins at 18 and 19 and the devices at 16 and 17 are listed, and the message about each fits.
The first call of a dump of the pins stops after one. -/
def oneEachTest (k : KernelState) : Bool :=
  ((k.pinXa.markedFrom 0).map XEntry.value = [18, 19]) &&
    ((k.deviceXa.markedFrom 0).map XEntry.value = [16, 17]) &&
    (k.pinAvailable 18 && k.pinAvailable 19) &&
    (writtenAlone k (message .DPLL_CMD_PIN_GET steadySource.dpllCmdPinGetOne 18) &&
      writtenAlone k (message .DPLL_CMD_PIN_GET steadySource.dpllCmdPinGetOne 19)) &&
    (writtenAlone k (message .DPLL_CMD_DEVICE_GET steadySource.dpllDeviceGetOne 16) &&
      writtenAlone k (message .DPLL_CMD_DEVICE_GET steadySource.dpllDeviceGetOne 17)) &&
    ((dpllNlPinGetDumpit steadySource 0).exec ((oneEach k).fresh 0)).any fun out =>
      out.1 = .ok (112, 1)

/-- The pins and the devices are dumped, although no buffer holds two messages. -/
theorem dumps_emit_each_once_twoClocks : ∃ k, k.pinAvailable 18 = true ∧ k.pinAvailable 19 = true ∧
    (((dpllNlPinGetDumpit steadySource 0).exec ((oneEach k).fresh 0)).any fun out =>
      out.1 = .ok (112, 1)) = true ∧
    DumpsEachOnce (oneEach k) (dpllNlPinGetDumpit steadySource) .DPLL_CMD_PIN_GET
      steadySource.dpllCmdPinGetOne .DPLL_A_PIN_ID k.pinId {pin | k.pinAvailable pin = true} ∧
    DumpsEachOnce (oneEach k) (dpllNlDeviceGetDumpit steadySource) .DPLL_CMD_DEVICE_GET
      steadySource.dpllDeviceGetOne .DPLL_A_ID k.deviceKey {dpll | k.deviceMarked dpll = true} := by
  obtain ⟨k, reach, test⟩ := exists_reachable_of_follow twoClocks oneEachTest
    (fun a mem s => by fin_cases mem <;> trivial) (by decide +kernel)
  have inv := registryInvariant_reachable reach
  have listed := listed_reachable reach.of_guard
  simp only [oneEachTest, Bool.and_eq_true, decide_eq_true_eq] at test
  obtain ⟨⟨⟨⟨⟨pins, devices⟩, available⟩, pinsFit⟩, devicesFit⟩, stops⟩ := test
  obtain ⟨dumpPins, dumpDevices⟩ :=
    dumps_emit_each_once k reach steadySource (fun _ => ()) fun _ => 150
  refine ⟨k, available.1, available.2, stops, dumpPins fun pin here => ?_,
    dumpDevices fun dpll here => ?_⟩
  · obtain ⟨p, live⟩ := exists_pin_of_pinAvailable here
    have marked := (mem_marked listed.pinAt listed.pin).2 (pinMarked_of_pinAvailable inv live here)
    rw [pins] at marked
    rcases List.mem_pair.1 marked with rfl | rfl
    · exact fitsAlone_of_writtenAlone pinsFit.1
    · exact fitsAlone_of_writtenAlone pinsFit.2
  · have marked := (mem_marked listed.deviceAt fun e mem _ => listed.device e mem).2 here
    rw [devices] at marked
    rcases List.mem_pair.1 marked with rfl | rfl
    · exact fitsAlone_of_writtenAlone devicesFit.1
    · exact fitsAlone_of_writtenAlone devicesFit.2

end Netdevsim

