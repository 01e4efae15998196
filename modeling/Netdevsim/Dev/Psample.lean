import Netdevsim.Kernel
import Netdevsim.Lib.Runs

/-!
# Packet samples

While sampling is on, a work reports a packet to a group every 100 milliseconds.  The file `enable`
turns sampling on, which takes a reference to the group and starts the work, and off again.  The
file has no lock, so that the steps of a write are told apart here, and so are the start and the end
of a run of the work.  Writes that do not overlap keep the references and the work in order
(`psample_in_order`); two that do can lose a reference (`psample_overlap_leaks`).
-/

namespace Netdevsim

/-! ## Data -/

def NSIM_PSAMPLE_INVALID_TC : UInt16 := 0xFFFF

/-- `struct nsim_dev_psample`.  A group is given by its number, and `none` is `NULL`. -/
structure NsimDevPsample where
  group : Option UInt32
  rate : UInt32
  groupNum : UInt32
  truncSize : UInt32
  inIfindex : Int32
  outIfindex : Int32
  outTc : UInt16
  outTcOccMax : UInt64
  latencyMax : UInt64
  isActive : Bool

/-- What is used of `struct psample_metadata`.  A field with a flag that it is valid is `none`
without it. -/
structure PsampleMetadata where
  truncSize : UInt32
  inIfindex : Int32
  outIfindex : Int32
  outTc : Option UInt16
  outTcOcc : Option UInt64
  latency : Option UInt64
  deriving DecidableEq, Repr

/-- Where a write to the file is. -/
inductive PsampleWriter where
  | idle
  /-- `nsim_dev_psample_enable` has found sampling off. -/
  | checked
  /-- It has a reference to the group. -/
  | grouped
  /-- It has scheduled the work. -/
  | scheduled
  /-- `nsim_dev_psample_disable` has turned sampling off. -/
  | cleared
  /-- It has cancelled the work. -/
  | cancelled
  deriving DecidableEq, Repr

/-- `nsim_dev->psample`, the references of the driver to each group, the work, and the writers. -/
structure PsampleWorld (ι : Type) where
  psample : Option NsimDevPsample
  refs : UInt32 → ℕ
  pending : Bool
  running : Bool
  writers : ι → PsampleWriter

/-! ## Samples -/

/-- A random value below `max`, where a maximum is given. -/
def psampleRandom (max random : UInt64) : Option UInt64 :=
  if max ≠ 0 then some (random &&& (max - 1)) else none

/-- `nsim_dev_psample_md_prepare`, with the two random numbers it gets. -/
def nsimDevPsampleMdPrepare (psample : NsimDevPsample) (len : UInt32) (occ latency : UInt64) :
    PsampleMetadata where
  truncSize := if psample.truncSize ≠ 0 then psample.truncSize else len
  inIfindex := psample.inIfindex
  outIfindex := psample.outIfindex
  outTc := if psample.outTc ≠ NSIM_PSAMPLE_INVALID_TC then some psample.outTc else none
  outTcOcc := psampleRandom psample.outTcOccMax occ
  latency := psampleRandom psample.latencyMax latency

theorem toNat_sub_one {max : UInt64} (nonzero : max ≠ 0) : (max - 1).toNat + 1 = max.toNat := by
  have pos : 0 < max.toNat := by
    by_contra zero
    exact nonzero (UInt64.toNat_inj.1 (by simpa using zero))
  have le : 1 ≤ max := by
    rw [UInt64.le_iff_toNat_le]
    exact pos
  rw [UInt64.toNat_sub_of_le _ _ le]
  exact Nat.sub_add_cancel pos

theorem psampleRandom_lt {max random v : UInt64} (made : psampleRandom max random = some v) :
    v < max := by
  unfold psampleRandom at made
  split_ifs at made with nonzero
  obtain rfl := Option.some.inj made
  have le : (random &&& (max - 1)).toNat ≤ (max - 1).toNat := by
    rw [UInt64.toNat_and]
    exact Nat.and_le_right
  have sub := toNat_sub_one nonzero
  rw [UInt64.lt_iff_toNat_lt]
  omega

/-- The numbers up to `m` are all parts of the mask `m` only where it is all ones. -/
theorem and_eq_self_iff_two_pow (m : ℕ) : (∀ v ≤ m, v &&& m = v) ↔ ∃ k, m + 1 = 2 ^ k := by
  constructor
  · intro part
    rcases Nat.eq_zero_or_pos m with rfl | pos
    · exact ⟨0, rfl⟩
    -- the ones below the leading one of `m`
    have lead : 2 ^ m.log2 ≤ m := Nat.log2_self_le pos.ne'
    have top : m < 2 ^ (m.log2 + 1) := Nat.lt_log2_self
    have ones := part (2 ^ m.log2 - 1) (by omega)
    rw [Nat.and_comm, Nat.and_two_pow_sub_one_eq_mod] at ones
    refine ⟨m.log2 + 1, ?_⟩
    have split := Nat.div_add_mod m (2 ^ m.log2)
    have one : m / 2 ^ m.log2 = 1 := by
      rw [Nat.pow_succ] at top
      exact Nat.div_eq_of_lt_le (by omega) (by omega)
    have pow : 0 < 2 ^ m.log2 := by positivity
    rw [one, ones] at split
    rw [Nat.pow_succ]
    omega
  · rintro ⟨k, pow⟩ v le
    obtain rfl : m = 2 ^ k - 1 := by omega
    rw [Nat.and_two_pow_sub_one_eq_mod]
    exact Nat.mod_eq_of_lt (by omega)

/-- Random values reach all numbers below the maximum only where it is a power of two. -/
theorem psampleRandom_covers_iff {max : UInt64} (nonzero : max ≠ 0) :
    (∀ v < max, ∃ random, psampleRandom max random = some v) ↔ ∃ k, max.toNat = 2 ^ k := by
  have sub := toNat_sub_one nonzero
  rw [← sub, ← and_eq_self_iff_two_pow]
  constructor
  · intro covers v le
    have small : v < 2 ^ 64 := by
      have := max.toNat_lt
      omega
    obtain ⟨random, made⟩ := covers (UInt64.ofNat v) (by
      rw [UInt64.lt_iff_toNat_lt, UInt64.toNat_ofNat_of_lt' small]
      omega)
    rw [psampleRandom, if_pos nonzero] at made
    have value := congrArg UInt64.toNat (Option.some.inj made)
    rw [UInt64.toNat_and, UInt64.toNat_ofNat_of_lt' small] at value
    -- what is masked already is not changed by the mask
    rw [← value, Nat.and_assoc, Nat.and_self]
  · intro part v less
    rw [UInt64.lt_iff_toNat_lt] at less
    refine ⟨v, ?_⟩
    rw [psampleRandom, if_pos nonzero]
    refine congrArg some (UInt64.toNat_inj.1 ?_)
    rw [UInt64.toNat_and]
    exact part v.toNat (by omega)

/-- The random fields of a sample: they are there where a maximum is given, stay below it, and take
all values below it only where the maximum is a power of two. -/
theorem psample_metadata_random (psample : NsimDevPsample) (len : UInt32) :
    (∀ occ latency v, (nsimDevPsampleMdPrepare psample len occ latency).outTcOcc = some v →
      v < psample.outTcOccMax) ∧
    (∀ occ latency v, (nsimDevPsampleMdPrepare psample len occ latency).latency = some v →
      v < psample.latencyMax) ∧
    (psample.outTcOccMax ≠ 0 → ((∀ v < psample.outTcOccMax, ∃ occ, ∀ latency,
      (nsimDevPsampleMdPrepare psample len occ latency).outTcOcc = some v) ↔
        ∃ k, psample.outTcOccMax.toNat = 2 ^ k)) ∧
    (psample.latencyMax ≠ 0 → ((∀ v < psample.latencyMax, ∃ latency, ∀ occ,
      (nsimDevPsampleMdPrepare psample len occ latency).latency = some v) ↔
        ∃ k, psample.latencyMax.toNat = 2 ^ k)) := by
  refine ⟨fun _ _ _ made => psampleRandom_lt made, fun _ _ _ made => psampleRandom_lt made,
    fun nonzero => ?_, fun nonzero => ?_⟩
  · simp only [nsimDevPsampleMdPrepare, forall_const]
    exact psampleRandom_covers_iff nonzero
  · simp only [nsimDevPsampleMdPrepare, forall_const]
    exact psampleRandom_covers_iff nonzero

/-! ## The file and the work -/

/-- What may happen. -/
inductive PsampleOp (ι : Type) where
  /-- `nsim_dev_psample_init`, in which the memory or the directory may be missing. -/
  | init (allocated : Bool) (ddir : Option Errno)
  | exit
  /-- The files of the parameters. -/
  | configure (rate groupNum truncSize : UInt32) (inIfindex outIfindex : Int32) (outTc : UInt16)
      (outTcOccMax latencyMax : UInt64)
  /-- A write begins, and finds sampling on or off. -/
  | startEnable (t : ι)
  | startDisable (t : ι)
  /-- The next step of a write that turns sampling on.  `psample_group_get` may find no memory. -/
  | enableGroup (t : ι) (found : Bool)
  | enableSchedule (t : ι)
  | enableActive (t : ι)
  /-- The next step of one that turns it off. -/
  | disableCancel (t : ι)
  | disablePut (t : ι)
  | startWork
  | endWork

variable {ι : Type}

namespace PsampleWorld

section Functions

variable [DecidableEq ι] (w : PsampleWorld ι)

def setWriter (t : ι) (writer : PsampleWriter) : PsampleWorld ι :=
  { w with writers := Function.update w.writers t writer }

/-- `psample_group_put`. -/
def put (group : Option UInt32) : PsampleWorld ι :=
  group.elim w fun g => { w with refs := Function.update w.refs g (w.refs g - 1) }

/-- `nsim_dev_psample_init`. -/
def nsimDevPsampleInit (allocated : Bool) (ddir : Option Errno) :
    PsampleWorld ι × Except Errno Unit :=
  if ¬allocated then (w, .error .ENOMEM)
  else match ddir with
    | some err => (w, .error err)
    | none => ({ w with psample := some ⟨none, 100, 10, 0, 1, 2, 0, 10000, 50, false⟩ }, .ok ())

/-- `nsim_dev_psample_exit`, which waits for the writers first, and for the work if sampling is
on. -/
def nsimDevPsampleExit (psample : NsimDevPsample) : PsampleWorld ι :=
  let w := if psample.isActive then { w with pending := false }.put psample.group else w
  { w with psample := none }

/-- The step `nsim_dev_psample_enable` begins with: sampling must be off. -/
def startEnable (psample : NsimDevPsample) (t : ι) : PsampleWorld ι × Except Errno Unit :=
  if psample.isActive then (w, .error .EBUSY) else (w.setWriter t .checked, .ok ())

/-- `nsim_dev_psample_enable` takes the group whose number is in the file now. -/
def enableGroup (psample : NsimDevPsample) (t : ι) (found : Bool) :
    PsampleWorld ι × Except Errno Unit :=
  let g := psample.groupNum
  if found then
    ({ w with psample := some { psample with group := some g }
              refs := Function.update w.refs g (w.refs g + 1) }.setWriter t .grouped, .ok ())
  else ({ w with psample := some { psample with group := none } }.setWriter t .idle,
    .error .EINVAL)

/-- The step `nsim_dev_psample_disable` begins with: sampling must be on. -/
def startDisable (psample : NsimDevPsample) (t : ι) : PsampleWorld ι × Except Errno Unit :=
  if ¬psample.isActive then (w, .error .EINVAL)
  else ({ w with psample := some { psample with isActive := false } }.setWriter t .cleared, .ok ())

/-- One step, where it is possible. -/
def step [Fintype ι] (op : PsampleOp ι) : Option (PsampleWorld ι) :=
  match op, w.psample with
  | .init allocated ddir, none => some (w.nsimDevPsampleInit allocated ddir).1
  | .exit, some psample =>
    if (∀ t, w.writers t = .idle) ∧ ¬(psample.isActive ∧ w.running) then
      some (w.nsimDevPsampleExit psample)
    else none
  | .configure rate groupNum truncSize inIfindex outIfindex outTc outTcOccMax latencyMax,
      some psample =>
    some { w with psample := some { psample with
      rate, groupNum, truncSize, inIfindex, outIfindex, outTc, outTcOccMax, latencyMax } }
  | .startEnable t, some psample =>
    if w.writers t = .idle then some (w.startEnable psample t).1 else none
  | .startDisable t, some psample =>
    if w.writers t = .idle then some (w.startDisable psample t).1 else none
  | .enableGroup t found, some psample =>
    if w.writers t = .checked then some (w.enableGroup psample t found).1 else none
  | .enableSchedule t, some _ =>
    if w.writers t = .grouped then some ({ w with pending := true }.setWriter t .scheduled)
    else none
  | .enableActive t, some psample =>
    if w.writers t = .scheduled then
      some ({ w with psample := some { psample with isActive := true } }.setWriter t .idle)
    else none
  | .disableCancel t, some _ =>
    -- `cancel_delayed_work_sync` waits for a run of the work, and keeps it from coming again
    if w.writers t = .cleared ∧ ¬w.running then
      some ({ w with pending := false }.setWriter t .cancelled)
    else none
  | .disablePut t, some psample =>
    if w.writers t = .cancelled then some ((w.put psample.group).setWriter t .idle) else none
  | .startWork, _ =>
    if w.pending ∧ ¬w.running then some { w with pending := false, running := true } else none
  | .endWork, _ => if w.running then some { w with pending := true, running := false } else none
  | _, _ => none

end Functions

end PsampleWorld

/-- All runs, from a device that is not there yet. -/
def psampleSystem [Fintype ι] [DecidableEq ι] : TransitionSystem (PsampleWorld ι) (PsampleOp ι) where
  init w := w = ⟨none, fun _ => 0, false, false, fun _ => .idle⟩
  step w op w' := w.step op = some w'

/-- No write begins while another one goes on. -/
def OneByOne (w : PsampleWorld ι) : PsampleOp ι → Prop
  | .startEnable _ | .startDisable _ => ∀ t, w.writers t = .idle
  | _ => True

instance [Fintype ι] (w : PsampleWorld ι) : DecidablePred (OneByOne w) := fun op => by
  cases op <;> unfold OneByOne <;> infer_instance

/-! ## Writes one by one -/

/-- A write in this phase has a reference to the group. -/
def PsampleWriter.holds : PsampleWriter → Bool
  | .grouped | .scheduled | .cleared | .cancelled => true
  | .idle | .checked => false

/-- A write in this phase leaves the work to run. -/
def PsampleWriter.works : PsampleWriter → Bool
  | .scheduled | .cleared => true
  | .idle | .checked | .grouped | .cancelled => false

/-- Only one write goes on, if any, and is in this phase. -/
def SoleWriter (writers : ι → PsampleWriter) (phase : PsampleWriter) : Prop :=
  (phase = .idle ∧ ∀ t, writers t = .idle) ∨
    ∃ t, writers t = phase ∧ ∀ u, u ≠ t → writers u = .idle

/-- What is kept while the write is in a phase. -/
structure InPhase (w : PsampleWorld ι) (psample : NsimDevPsample) (phase : PsampleWriter) :
    Prop where
  active : psample.isActive = true → phase = .idle
  refs : ∀ g, w.refs g =
    if (psample.isActive || phase.holds) = true ∧ psample.group = some g then 1 else 0
  group : (psample.isActive || phase.holds) = true → psample.group.isSome = true
  works : (w.pending || w.running) = true → (psample.isActive || phase.works) = true
  goes : psample.isActive = true ∨ phase = .scheduled → (w.pending || w.running) = true

/-- What writes one by one keep. -/
structure PsampleSound (w : PsampleWorld ι) : Prop where
  gone : w.psample = none →
    (∀ g, w.refs g = 0) ∧ (w.pending || w.running) = false ∧ ∀ t, w.writers t = .idle
  there : ∀ psample, w.psample = some psample →
    ∃ phase, SoleWriter w.writers phase ∧ InPhase w psample phase

section Steps

variable {w w' : PsampleWorld ι} {psample psample' : NsimDevPsample} {phase next : PsampleWriter}
  {t : ι}

theorem SoleWriter.idle {writers : ι → PsampleWriter} (writing : SoleWriter writers phase)
    (idle : ∀ t, writers t = .idle) : phase = .idle := by
  obtain ⟨rfl, -⟩ | ⟨t, here, -⟩ := writing
  · rfl
  · exact here.symm.trans (idle t)

/-- A writer that goes on is the one. -/
theorem SoleWriter.here {writers : ι → PsampleWriter} (writing : SoleWriter writers phase)
    (busy : writers t ≠ .idle) : phase = writers t ∧ ∀ u, u ≠ t → writers u = .idle := by
  obtain ⟨-, idle⟩ | ⟨u, here, others⟩ := writing
  · exact absurd (idle t) busy
  · obtain rfl : t = u := by
      by_contra other
      exact busy (others t other)
    exact ⟨here.symm, others⟩

theorem psampleSound_of (here : w.psample = some psample) (writing : SoleWriter w.writers phase)
    (holds : InPhase w psample phase) : PsampleSound w := by
  refine ⟨fun none => absurd (none.symm.trans here) nofun, fun psample' here' => ?_⟩
  obtain rfl := Option.some.inj (here.symm.trans here')
  exact ⟨phase, writing, holds⟩

/-- A step beside the writer. -/
theorem psampleSound_beside (sound : PsampleSound w) (here : w.psample = some psample)
    (here' : w'.psample = some psample') (writers : w'.writers = w.writers)
    (keeps : ∀ phase, InPhase w psample phase → InPhase w' psample' phase) : PsampleSound w' := by
  obtain ⟨phase, writing, holds⟩ := sound.there psample here
  exact psampleSound_of here' (writers ▸ writing) (keeps phase holds)

section

variable [DecidableEq ι]

theorem writing_update {writers : ι → PsampleWriter} (others : ∀ u, u ≠ t → writers u = .idle) :
    SoleWriter (Function.update writers t next) next :=
  .inr ⟨t, Function.update_self .., fun u away =>
    (Function.update_of_ne away ..).trans (others u away)⟩

/-- A step of the one writer. -/
theorem psampleSound_advance (sound : PsampleSound w) (here : w.psample = some psample)
    (at_ : w.writers t = phase) (busy : phase ≠ .idle) (here' : w'.psample = some psample')
    (writers : w'.writers = Function.update w.writers t next)
    (keeps : InPhase w psample phase → InPhase w' psample' next) : PsampleSound w' := by
  obtain ⟨_, writing, holds⟩ := sound.there psample here
  obtain ⟨rfl, others⟩ := writing.here (at_.trans_ne busy)
  exact psampleSound_of here' (writers ▸ writing_update others) (keeps (at_ ▸ holds))

/-- A write begins. -/
theorem psampleSound_begin (sound : PsampleSound w) (here : w.psample = some psample)
    (idle : ∀ u, w.writers u = .idle) (here' : w'.psample = some psample')
    (writers : w'.writers = Function.update w.writers t next)
    (keeps : InPhase w psample .idle → InPhase w' psample' next) : PsampleSound w' := by
  obtain ⟨_, writing, holds⟩ := sound.there psample here
  obtain rfl := writing.idle idle
  exact psampleSound_of here' (writers ▸ writing_update fun u _ => idle u) (keeps holds)

end

theorem inactive_of_busy (holds : InPhase w psample phase) (busy : phase ≠ .idle) :
    psample.isActive = false := by
  cases active : psample.isActive with
  | false => rfl
  | true => exact absurd (holds.active active) busy

theorem goes_of_inactive {P : Prop} (inactive : psample.isActive = false)
    (other : phase ≠ .scheduled) (on : psample.isActive = true ∨ phase = .scheduled) : P := by
  rcases on with active | scheduled
  · cases inactive.symm.trans active
  · exact absurd scheduled other

theorem inPhase_enableGroup [DecidableEq ι] (holds : InPhase w psample .checked) :
    InPhase (w.enableGroup psample t true).1 { psample with group := some psample.groupNum }
      .grouped := by
  have inactive := inactive_of_busy holds nofun
  have refs (g) : w.refs g = 0 := by simpa [inactive, PsampleWriter.holds] using holds.refs g
  refine ⟨fun active => absurd (inactive.symm.trans active) nofun, fun g => ?_, fun _ => rfl,
    holds.works, goes_of_inactive inactive nofun⟩
  · by_cases same : g = psample.groupNum
    · subst same
      simp [PsampleWorld.enableGroup, PsampleWorld.setWriter, refs, PsampleWriter.holds]
    · simp [PsampleWorld.enableGroup, PsampleWorld.setWriter, same, Ne.symm same, refs]

theorem inPhase_put [DecidableEq ι] (holds : InPhase w psample .cancelled) :
    InPhase ((w.put psample.group).setWriter t .idle) psample .idle := by
  have inactive := inactive_of_busy holds nofun
  obtain ⟨g, group⟩ := Option.isSome_iff_exists.1 (holds.group (by simp [PsampleWriter.holds]))
  rw [group]
  refine ⟨fun _ => rfl, fun h => ?_, fun held => ?_, holds.works,
    goes_of_inactive inactive nofun⟩
  · have refs := holds.refs h
    by_cases same : h = g
    · subst same
      simp [PsampleWorld.put, PsampleWorld.setWriter, refs, inactive, group, PsampleWriter.holds]
    · simpa [PsampleWorld.put, PsampleWorld.setWriter, inactive, PsampleWriter.holds, same, group,
        Ne.symm same] using refs
  · simp [inactive, PsampleWriter.holds] at held

/-- Without sampling, an idle file has no reference and no work. -/
theorem none_of_inactive (holds : InPhase w psample .idle) (inactive : psample.isActive = false) :
    (∀ g, w.refs g = 0) ∧ (w.pending || w.running) = false := by
  refine ⟨fun g => by simpa [inactive, PsampleWriter.holds] using holds.refs g, ?_⟩
  by_contra working
  have := holds.works (by simpa only [Bool.not_eq_false] using working)
  simp [inactive, PsampleWriter.works] at this

theorem psampleSound_exit [DecidableEq ι] (sound : PsampleSound w)
    (here : w.psample = some psample) (idle : ∀ t, w.writers t = .idle)
    (waited : ¬(psample.isActive = true ∧ w.running = true)) :
    PsampleSound (w.nsimDevPsampleExit psample) := by
  obtain ⟨_, writing, holds⟩ := sound.there psample here
  obtain rfl := writing.idle idle
  unfold PsampleWorld.nsimDevPsampleExit
  refine ⟨fun _ => ?_, fun psample' here' => by cases here'⟩
  cases active : psample.isActive with
  | false =>
    obtain ⟨refs, still⟩ := none_of_inactive holds active
    exact ⟨refs, still, idle⟩
  | true =>
    have stopped : w.running = false := by simpa [active] using waited
    obtain ⟨g, group⟩ := Option.isSome_iff_exists.1 (holds.group (by simp [active]))
    simp only [↓reduceIte, PsampleWorld.put, group, Option.elim_some, stopped, Bool.or_false,
      true_and]
    refine ⟨fun h => ?_, idle⟩
    have refs := holds.refs h
    by_cases same : h = g
    · subst same
      simp [refs, active, group]
    · simpa [active, group, same, Ne.symm same] using refs

theorem psampleSound_step [Fintype ι] [DecidableEq ι] {op : PsampleOp ι} (sound : PsampleSound w)
    (alone : OneByOne w op) (step : w.step op = some w') : PsampleSound w' := by
  cases here : w.psample with
  | none =>
    obtain ⟨refs, still, idle⟩ := sound.gone here
    cases op with
    | init allocated ddir =>
      simp only [PsampleWorld.step, here, Option.some_inj] at step
      subst step
      cases allocated with
      | false => exact sound
      | true =>
        cases ddir with
        | some err => exact sound
        | none =>
          exact psampleSound_of rfl (.inl ⟨rfl, idle⟩) ⟨nofun, refs, nofun,
            fun working => absurd (still.symm.trans working) nofun, goes_of_inactive rfl nofun⟩
    | startWork =>
      simp only [Bool.or_eq_false_iff] at still
      simp [PsampleWorld.step, still] at step
    | endWork =>
      simp only [Bool.or_eq_false_iff] at still
      simp [PsampleWorld.step, still] at step
    | _ => simp [PsampleWorld.step, here] at step
  | some psample =>
    cases op with
    | init _ _ => simp [PsampleWorld.step, here] at step
    | exit =>
      simp only [PsampleWorld.step, here, Option.ite_none_right_eq_some, Option.some_inj] at step
      obtain ⟨⟨idle, waited⟩, rfl⟩ := step
      exact psampleSound_exit sound here idle waited
    | configure _ _ _ _ _ _ _ _ =>
      simp only [PsampleWorld.step, here, Option.some_inj] at step
      subst step
      exact psampleSound_beside sound here rfl rfl fun _ holds =>
        ⟨holds.active, holds.refs, holds.group, holds.works, holds.goes⟩
    | startEnable t =>
      simp only [PsampleWorld.step, here, Option.ite_none_right_eq_some, Option.some_inj] at step
      obtain ⟨-, rfl⟩ := step
      unfold PsampleWorld.startEnable
      split_ifs with active
      · exact sound
      refine psampleSound_begin sound here alone here rfl fun holds => ?_
      exact ⟨fun on => absurd on active, holds.refs, holds.group, holds.works,
        goes_of_inactive (by simpa using active) nofun⟩
    | startDisable t =>
      simp only [PsampleWorld.step, here, Option.ite_none_right_eq_some, Option.some_inj] at step
      obtain ⟨-, rfl⟩ := step
      unfold PsampleWorld.startDisable
      split_ifs with active
      · refine psampleSound_begin sound here alone rfl rfl fun holds => ?_
        refine ⟨nofun, fun g => (holds.refs g).trans ?_, fun _ => holds.group (by simp [active]),
          fun _ => rfl, goes_of_inactive rfl nofun⟩
        simp [active, PsampleWriter.holds]
      · exact sound
    | enableGroup t found =>
      simp only [PsampleWorld.step, here, Option.ite_none_right_eq_some, Option.some_inj] at step
      obtain ⟨checked, rfl⟩ := step
      unfold PsampleWorld.enableGroup
      cases found with
      | true => exact psampleSound_advance sound here checked nofun rfl rfl inPhase_enableGroup
      | false =>
        refine psampleSound_advance sound here checked nofun rfl rfl fun holds => ?_
        have inactive := inactive_of_busy holds nofun
        refine ⟨fun _ => rfl, fun g => (holds.refs g).trans ?_, fun held => ?_, holds.works,
          goes_of_inactive inactive nofun⟩
        · simp [inactive, PsampleWriter.holds]
        · simp [inactive, PsampleWriter.holds] at held
    | enableSchedule t =>
      simp only [PsampleWorld.step, here, Option.ite_none_right_eq_some, Option.some_inj] at step
      obtain ⟨grouped, rfl⟩ := step
      refine psampleSound_advance sound here grouped nofun rfl rfl fun holds => ?_
      have inactive := inactive_of_busy holds nofun
      exact ⟨fun on => absurd (inactive.symm.trans on) nofun, holds.refs, holds.group,
        fun _ => by simp [PsampleWriter.works], fun _ => rfl⟩
    | enableActive t =>
      simp only [PsampleWorld.step, here, Option.ite_none_right_eq_some, Option.some_inj] at step
      obtain ⟨scheduled, rfl⟩ := step
      refine psampleSound_advance sound here scheduled nofun rfl rfl fun holds => ?_
      have inactive := inactive_of_busy holds nofun
      refine ⟨fun _ => rfl, fun g => (holds.refs g).trans ?_,
        fun _ => holds.group (by simp [PsampleWriter.holds]), fun _ => rfl,
        fun _ => holds.goes (.inr rfl)⟩
      simp [inactive, PsampleWriter.holds]
    | disableCancel t =>
      simp only [PsampleWorld.step, here, Option.ite_none_right_eq_some, Option.some_inj] at step
      obtain ⟨⟨cleared, stopped⟩, rfl⟩ := step
      refine psampleSound_advance sound here cleared nofun rfl rfl fun holds => ?_
      have inactive := inactive_of_busy holds nofun
      refine ⟨fun on => absurd (inactive.symm.trans on) nofun, holds.refs, holds.group,
        fun working => ?_, goes_of_inactive inactive nofun⟩
      simp [PsampleWorld.setWriter, stopped] at working
    | disablePut t =>
      simp only [PsampleWorld.step, here, Option.ite_none_right_eq_some, Option.some_inj] at step
      obtain ⟨cancelled, rfl⟩ := step
      refine psampleSound_advance sound here cancelled nofun ?_ ?_ inPhase_put
      · cases psample.group <;> exact here
      · cases psample.group <;> rfl
    | startWork =>
      simp only [PsampleWorld.step, Option.ite_none_right_eq_some, Option.some_inj] at step
      obtain ⟨⟨pending, -⟩, rfl⟩ := step
      refine psampleSound_beside sound here here rfl fun _ holds => ?_
      exact ⟨holds.active, holds.refs, holds.group, fun _ => holds.works (by simp [pending]),
        fun _ => by simp⟩
    | endWork =>
      simp only [PsampleWorld.step, Option.ite_none_right_eq_some, Option.some_inj] at step
      obtain ⟨running, rfl⟩ := step
      refine psampleSound_beside sound here here rfl fun _ holds => ?_
      exact ⟨holds.active, holds.refs, holds.group, fun _ => holds.works (by simp [running]),
        fun _ => by simp⟩

end Steps

section Runs

variable [Fintype ι] [DecidableEq ι] {w : PsampleWorld ι}

theorem psampleSound_of_reachable (reach : (psampleSystem.guard OneByOne).Reachable w) :
    PsampleSound w := by
  refine TransitionSystem.Reachable.induct (M := psampleSystem.guard OneByOne) (P := PsampleSound)
    (fun w start => ?_) (fun _ _ _ _ sound step => psampleSound_step sound step.2 step.1) reach
  obtain rfl : w = _ := start
  exact ⟨fun _ => ⟨fun _ => rfl, rfl, fun _ => rfl⟩, nofun⟩

/-- In every run in which writes to the file do not overlap: the work runs only with the one
reference to the group that it reports to; between two writes sampling is on if and only if the work
goes on, and if and only if there is this reference; and once the device is gone there is neither a
reference nor the work. -/
theorem psample_in_order (reach : (psampleSystem.guard OneByOne).Reachable w) :
    (∀ psample, w.psample = some psample →
      (w.pending = true ∨ w.running = true → ∃ g, psample.group = some g ∧
        ∀ h, w.refs h = if h = g then 1 else 0) ∧
      ((∀ t, w.writers t = .idle) →
        (psample.isActive = true ↔ w.pending = true ∨ w.running = true) ∧
        ∀ h, w.refs h = if psample.isActive = true ∧ psample.group = some h then 1 else 0)) ∧
    (w.psample = none → (∀ h, w.refs h = 0) ∧ w.pending = false ∧ w.running = false) := by
  have sound := psampleSound_of_reachable reach
  refine ⟨fun psample here => ?_, fun gone => ?_⟩
  · obtain ⟨phase, writing, holds⟩ := sound.there psample here
    refine ⟨fun working => ?_, fun idle => ?_⟩
    · -- a write that leaves the work to run has the reference
      have held : (psample.isActive || phase.holds) = true := by
        have works := holds.works (by simpa using working)
        cases phase <;> simp_all [PsampleWriter.works, PsampleWriter.holds]
      obtain ⟨g, group⟩ := Option.isSome_iff_exists.1 (holds.group held)
      refine ⟨g, group, fun h => ?_⟩
      simp [holds.refs h, held, group, eq_comm]
    · obtain rfl := writing.idle idle
      refine ⟨⟨fun active => by simpa using holds.goes (.inl active), fun working => ?_⟩,
        fun h => by simpa [PsampleWriter.holds] using holds.refs h⟩
      simpa [PsampleWriter.works] using holds.works (by simpa using working)
  · obtain ⟨refs, still, -⟩ := sound.gone gone
    exact ⟨refs, by simpa using still⟩

end Runs

theorem psample_in_order_of_one : ∃ w : PsampleWorld (Fin 1),
    (psampleSystem.guard OneByOne).Reachable w ∧ w.running = true ∧ w.refs 10 = 1 := by
  have start : (psampleSystem.guard OneByOne).Reachable
      (⟨none, fun _ => 0, false, false, fun _ => .idle⟩ : PsampleWorld (Fin 1)) := .init rfl
  obtain ⟨w, reach, test⟩ := start.exists_of_follow
    [.init true none, .startEnable 0, .enableGroup 0 true, .enableSchedule 0, .startWork]
    (fun w => w.running ∧ w.psample.any fun psample => psample.group = some 10)
    (fun op _ s t (step : (if OneByOne s op then s.step op else none) = some t) =>
      And.symm (Option.ite_none_right_eq_some.1 step)) (by decide)
  obtain ⟨running, there⟩ := of_decide_eq_true test
  obtain ⟨psample, here, group⟩ := (Option.any_eq_true _ _).1 there
  obtain ⟨g, same, refs⟩ := ((psample_in_order reach).1 psample here).1 (.inr running)
  obtain rfl := Option.some.inj (same.symm.trans (of_decide_eq_true group))
  exact ⟨w, reach, running, refs 10⟩

/-- Two writes that overlap, both of which turn sampling on, leave a reference behind for ever. -/
theorem psample_overlap_leaks : ∃ w : PsampleWorld (Fin 2),
    psampleSystem.Reachable w ∧ w.psample = none ∧ w.refs 10 = 1 := by
  have start : psampleSystem.Reachable
      (⟨none, fun _ => 0, false, false, fun _ => .idle⟩ : PsampleWorld (Fin 2)) := .init rfl
  obtain ⟨w, reach, test⟩ := start.exists_of_follow
    [.init true none, .startEnable 0, .startEnable 1, .enableGroup 0 true, .enableGroup 1 true,
      .enableSchedule 0, .enableSchedule 1, .enableActive 0, .enableActive 1, .exit]
    (fun w => w.psample.isNone ∧ w.refs 10 = 1) (fun _ _ _ _ step => step) (by decide)
  obtain ⟨gone, leaked⟩ := of_decide_eq_true test
  exact ⟨w, reach, Option.isNone_iff_eq_none.1 gone, leaked⟩

end Netdevsim
