import Netdevsim.Dpll.Gga

/-!
# Several sentences in one write

A write of several NMEA sentences takes the quality of the first GGA sentence among them and no
other.  Written one by one, each GGA sentence counts.  Both are compared on what a GGA sentence
changes (`Tracking`), with all writes at the same time.
-/

namespace Netdevsim

/-! ## Sentences -/

/-- A complete sentence: what stands between `$` and the end of the line. -/
structure NmeaSentence where
  chars : Bytes
  plain : ∀ c ∈ chars, c ≠ 36 ∧ c ≠ 13 ∧ c ≠ 10

def NmeaSentence.bytes (s : NmeaSentence) : Bytes := 36 :: (s.chars ++ [13, 10])

/-- The fix that a GGA sentence asks for, `none` inside if its quality is missing. -/
def NmeaSentence.fix (s : NmeaSentence) : Option (Option UInt8) :=
  if StartsGga s.bytes then
    some ((qualityField 0 (s.bytes.drop 7)).map nsimGgaQualityToGpsFix)
  else none

/-- The fixes of the GGA sentences. -/
def ggaFixes (sentences : List NmeaSentence) : List (Option UInt8) :=
  sentences.filterMap NmeaSentence.fix

/-- Writes one after the other, and all that they insert on the read side. -/
def writeEach (now : ℕ) (real : Timespec64) : NsimDpll → List Bytes → Option (NsimDpll × List Bytes)
  | d, [] => some (d, [])
  | d, buf :: bufs =>
    (nsimGnssWriteRaw d now real buf).bind fun r =>
      (writeEach now real r.1 bufs).map fun r' => (r'.1, r.2 ++ r'.2)

/-! ## What a GGA sentence changes -/

/-- The part of the state that a GGA sentence changes. -/
structure Tracking where
  fix : UInt8
  status : DpllLockStatus
  timer : Hrtimer
  deriving DecidableEq

def NsimDpll.tracking (d : NsimDpll) : Tracking := ⟨d.gnssGpsFix, d.lockStatus, d.holdoverTimer⟩

/-- Holdover without a fix, entered at `now`. -/
def Tracking.lost (now : ℕ) : Tracking :=
  ⟨0, .HOLDOVER, some (now + NSIM_DPLL_HOLDOVER_TIMEOUT_SEC * NSEC_PER_SEC)⟩

/-- The effect of a fix. -/
def Tracking.take (now : ℕ) (t : Tracking) (newFix : UInt8) : Tracking :=
  if newFix = 0 then if t.fix = 0 then t else .lost now
  else if t.fix ≠ 0 ∧ t.status = .LOCKED_HO_ACQ then { t with fix := newFix }
  else ⟨newFix, .LOCKED_HO_ACQ, none⟩

/-- The effect of several fixes: what the last one asks for, as it was before if none of them changed
it. -/
def Tracking.takeAll (now : ℕ) (t : Tracking) (fixes : List UInt8) : Tracking :=
  match fixes.getLast? with
  | none => t
  | some last =>
    if last = 0 then if t.fix = 0 ∧ fixes.all (· = 0) then t else .lost now
    else if t.fix ≠ 0 ∧ t.status = .LOCKED_HO_ACQ ∧ fixes.all (· ≠ 0) then { t with fix := last }
    else ⟨last, .LOCKED_HO_ACQ, none⟩

section Tracking

variable {now : ℕ} {t : Tracking} {x last : UInt8} {fixes : List UInt8}

theorem take_zero (had : t.fix ≠ 0) : t.take now 0 = .lost now := by
  rw [Tracking.take, if_pos rfl, if_neg had]

theorem take_zero_again (none : t.fix = 0) : t.take now 0 = t := by
  rw [Tracking.take, if_pos rfl, if_pos none]

theorem take_fix_again (fix : x ≠ 0) (had : t.fix ≠ 0) (locked : t.status = .LOCKED_HO_ACQ) :
    t.take now x = { t with fix := x } := by
  rw [Tracking.take, if_neg fix, if_pos ⟨had, locked⟩]

theorem take_fix (fix : x ≠ 0) (unlocked : t.fix = 0 ∨ t.status ≠ .LOCKED_HO_ACQ) :
    t.take now x = ⟨x, .LOCKED_HO_ACQ, none⟩ := by
  rw [Tracking.take, if_neg fix, if_neg fun both => ?_]
  exact unlocked.elim both.1 (absurd both.2)

theorem takeAll_zero [Decidable (t.fix = 0 ∧ ∀ x ∈ fixes, x = 0)]
    (ends : fixes.getLast? = some 0) : t.takeAll now fixes =
    if t.fix = 0 ∧ ∀ x ∈ fixes, x = 0 then t else .lost now := by
  rw [Tracking.takeAll, ends]
  exact (if_pos rfl).trans (if_congr (by simp) rfl rfl)

theorem takeAll_fix
    [Decidable (t.fix ≠ 0 ∧ t.status = .LOCKED_HO_ACQ ∧ ∀ x ∈ fixes, x ≠ 0)]
    (ends : fixes.getLast? = some last) (fix : last ≠ 0) : t.takeAll now fixes =
    if t.fix ≠ 0 ∧ t.status = .LOCKED_HO_ACQ ∧ ∀ x ∈ fixes, x ≠ 0 then { t with fix := last }
    else ⟨last, .LOCKED_HO_ACQ, none⟩ := by
  rw [Tracking.takeAll, ends]
  exact (if_neg fix).trans (if_congr (by simp) rfl rfl)

/-- One fix after the other. -/
theorem foldl_take (now : ℕ) (t : Tracking) (fixes : List UInt8) :
    fixes.foldl (Tracking.take now) t = t.takeAll now fixes := by
  induction fixes using List.reverseRecOn with
  | nil => rfl
  | append_singleton fixes x ih =>
    have ends : (fixes ++ [x]).getLast? = some x := by simp
    rw [List.foldl_append, List.foldl_cons, List.foldl_nil, ih]
    cases before : fixes.getLast? with
    | none =>
      obtain rfl := List.getLast?_eq_none_iff.1 before
      have nothing : t.takeAll now [] = t := rfl
      rw [nothing]
      by_cases zero : x = 0
      · subst zero
        rw [takeAll_zero ends]
        by_cases had : t.fix = 0 <;> simp [Tracking.take, had]
      · rw [takeAll_fix ends zero]
        simp [Tracking.take, zero]
    | some y =>
      have mem : y ∈ fixes := List.mem_of_getLast? before
      by_cases zero : x = 0
      · subst zero
        rw [takeAll_zero ends]
        by_cases zero' : y = 0
        · subst zero'
          rw [takeAll_zero before]
          by_cases same : t.fix = 0 ∧ ∀ z ∈ fixes, z = 0
          · rw [if_pos same, if_pos ⟨same.1, by simpa [or_imp, forall_and] using same.2⟩,
              take_zero_again same.1]
          · rw [if_neg same, if_neg fun all => same ⟨all.1, fun z mem =>
              all.2 z (List.mem_append_left _ mem)⟩, take_zero_again rfl]
        · rw [if_neg fun all => zero' (all.2 y (List.mem_append_left _ mem)), takeAll_fix before zero']
          split <;> exact take_zero zero'
      · rw [takeAll_fix ends zero]
        by_cases zero' : y = 0
        · subst zero'
          rw [if_neg fun all => all.2.2 0 (List.mem_append_left _ mem) rfl, takeAll_zero before]
          split <;> rename_i same
          · exact take_fix zero (.inl same.1)
          · exact take_fix zero (.inl rfl)
        · rw [takeAll_fix before zero']
          by_cases same : t.fix ≠ 0 ∧ t.status = .LOCKED_HO_ACQ ∧ ∀ z ∈ fixes, z ≠ 0
          · rw [if_pos same, if_pos ⟨same.1, same.2.1, by
              simpa [or_imp, forall_and, zero] using same.2.2⟩]
            exact take_fix_again zero zero' same.2.1
          · rw [if_neg same, if_neg fun all => same ⟨all.1, all.2.1, fun z mem =>
              all.2.2 z (List.mem_append_left _ mem)⟩]
            exact take_fix_again zero zero' rfl

/-- Later fixes lead back to where they started. -/
theorem takeAll_eq_self_iff : t.takeAll now fixes = t ↔ fixes = [] ∨
    fixes.getLast? = some t.fix ∧
      if t.fix = 0 then (∀ x ∈ fixes, x = 0) ∨ t = .lost now
      else t.status = .LOCKED_HO_ACQ ∧ ((∀ x ∈ fixes, x ≠ 0) ∨ t.timer = none) := by
  obtain ⟨fix, status, timer⟩ := t
  cases ends : fixes.getLast? with
  | none =>
    obtain rfl := List.getLast?_eq_none_iff.1 ends
    exact iff_of_true rfl (.inl rfl)
  | some last =>
    have some : fixes ≠ [] := by
      rintro rfl
      cases ends
    rw [or_iff_right some]
    by_cases zero : last = 0
    · subst zero
      rw [takeAll_zero ends]
      by_cases none : fix = 0
      · subst none
        by_cases all : ∀ x ∈ fixes, x = 0
        · rw [if_pos ⟨rfl, all⟩]
          exact iff_of_true rfl ⟨rfl, .inl all⟩
        · simp only [all, and_false, if_false, if_true, false_or, true_and, eq_comm]
      · simp only [Tracking.lost, none, false_and, if_false, Tracking.mk.injEq, Option.some.injEq]
        exact iff_of_false (fun same => none same.1.symm) fun same => none same.1.symm
    · rw [takeAll_fix ends zero]
      by_cases same : last = fix
      · subst same
        by_cases kept : status = .LOCKED_HO_ACQ ∧ ∀ x ∈ fixes, x ≠ 0
        · rw [if_pos ⟨zero, kept⟩, if_neg zero]
          exact iff_of_true rfl ⟨rfl, kept.1, .inl kept.2⟩
        · rw [if_neg fun both => kept both.2, if_neg zero]
          simp only [Tracking.mk.injEq, true_and]
          constructor
          · exact fun eq => ⟨eq.1.symm, .inr eq.2.symm⟩
          · rintro ⟨locked, all | timer⟩
            · exact absurd ⟨locked, all⟩ kept
            · exact ⟨locked.symm, timer.symm⟩
      · refine iff_of_false (fun eq => ?_) fun eq => same (Option.some.inj eq.1)
        split_ifs at eq <;> exact same (congrArg Tracking.fix eq)

end Tracking

/-- The GGA sentences behind the first one change nothing: none has a fix, or the last fix is the one
that the first sentence leaves, and what is in between did not stop the timer or start it anew. -/
def FirstDecides (t : Tracking) (now : ℕ) : List (Option UInt8) → Prop
  | [] => True
  | first :: others =>
    let later := others.reduceOption
    later = [] ∨ match first with
      | some fix => later.getLast? = some fix ∧
        if fix = 0 then t.fix ≠ 0 ∨ (∀ x ∈ later, x = 0) ∨ t = .lost now
        else (∀ x ∈ later, x ≠ 0) ∨ t.fix = 0 ∨ t.status ≠ .LOCKED_HO_ACQ ∨ t.timer = none
      | none => later.getLast? = some t.fix ∧
        if t.fix = 0 then (∀ x ∈ later, x = 0) ∨ t = .lost now
        else t.status = .LOCKED_HO_ACQ ∧ ((∀ x ∈ later, x ≠ 0) ∨ t.timer = none)

theorem firstDecides_iff (t : Tracking) (now : ℕ) (first : Option UInt8)
    (others : List (Option UInt8)) : FirstDecides t now (first :: others) ↔
      others.reduceOption.foldl (Tracking.take now) (first.elim t (t.take now)) =
        first.elim t (t.take now) := by
  rw [foldl_take, takeAll_eq_self_iff]
  refine or_congr_right ?_
  cases first with
  | none => exact Iff.rfl
  | some fix =>
    simp only [Option.elim_some]
    by_cases zero : fix = 0
    · subst zero
      by_cases had : t.fix = 0
      · simp only [take_zero_again had, had, if_true, ne_eq, not_true_eq_false, false_or]
      · simp only [take_zero had, had, if_true, ne_eq, not_false_eq_true, true_or, and_true]
        simp [Tracking.lost]
    · by_cases locked : t.fix ≠ 0 ∧ t.status = .LOCKED_HO_ACQ
      · simp only [take_fix_again zero locked.1 locked.2, zero, locked.1, locked.2, if_false,
          ne_eq, not_true_eq_false, false_or, true_and]
      · have unlocked : t.fix = 0 ∨ t.status ≠ .LOCKED_HO_ACQ := by
          by_contra both
          exact locked ⟨fun none => both (.inl none), by_contra fun away => both (.inr away)⟩
        have settled : t.fix = 0 ∨ t.status ≠ .LOCKED_HO_ACQ ∨ t.timer = none :=
          unlocked.imp_right .inl
        simp [take_fix zero unlocked, zero, settled]

/-! ## Scanning sentences -/

/-- What a sentence may be followed by in a buffer. -/
def SentenceNext (rest : Bytes) : Prop := rest = [] ∨ rest.head? = some 36

section Scan

variable {d : NsimDpll} {now : ℕ} {real : Timespec64} {rest : Bytes} {s : NmeaSentence}

theorem sentenceNext_flatMap (sentences : List NmeaSentence) :
    SentenceNext (sentences.flatMap NmeaSentence.bytes) := by
  cases sentences with
  | nil => exact .inl rfl
  | cons s sentences => exact .inr rfl

theorem qualityDigit_append (next : SentenceNext rest) (field : Bytes) :
    qualityDigit (field ++ rest) = qualityDigit field := by
  cases field with
  | cons q field => rfl
  | nil =>
    rcases next with rfl | dollar
    · rfl
    · obtain ⟨rest, rfl⟩ := List.head?_eq_some_iff.1 dollar
      rfl

/-- The next sentence ends the search for commas. -/
theorem qualityField_append (next : SentenceNext rest) (commas : ℕ) (fields : Bytes) :
    qualityField commas (fields ++ rest) = qualityField commas fields := by
  induction fields generalizing commas with
  | nil =>
    rcases next with rfl | dollar
    · rfl
    · obtain ⟨rest, rfl⟩ := List.head?_eq_some_iff.1 dollar
      rfl
  | cons c fields ih => simp only [List.cons_append, qualityField, ih, qualityDigit_append next]

theorem startsGga_append (next : SentenceNext rest) :
    StartsGga (s.bytes ++ rest) ↔ StartsGga s.bytes := by
  have noG : ∀ tag : Bytes, (rest.take 4 = ascii "GGA," ++ tag) → False := by
    intro tag eq
    rcases next with rfl | dollar
    · simp [ascii] at eq
    · obtain ⟨rest, rfl⟩ := List.head?_eq_some_iff.1 dollar
      simp [ascii] at eq
  obtain ⟨chars, plain⟩ := s
  unfold StartsGga NmeaSentence.bytes
  refine and_congr (iff_of_true rfl rfl) ?_
  rcases chars with _ | ⟨_, _ | ⟨_, _ | ⟨_, _ | ⟨_, _ | ⟨_, _ | ⟨_, chars⟩⟩⟩⟩⟩⟩
  · exact iff_of_false (fun tag => noG [] (by simpa using tag)) (by simp [ascii])
  · exact iff_of_false (by simp [ascii]) (by simp [ascii])
  · exact iff_of_false (by simp [ascii]) (by simp [ascii])
  · exact iff_of_false (by simp [ascii]) (by simp [ascii])
  · simp
  · simp
  · simp

theorem sentence_bytes (s : NmeaSentence) : Sentence s.bytes := by
  refine ⟨_, rfl, fun mem => ?_⟩
  rcases List.mem_append.1 mem with char | line
  · exact (s.plain 36 char).1 rfl
  · simp at line

/-- Fields too few for five commas have no quality. -/
theorem qualityField_of_few {commas : ℕ} {fields : Bytes} (few : commas + fields.length < 5) :
    qualityField commas fields = none := by
  cases read : qualityField commas fields with
  | none => rfl
  | some q =>
    obtain ⟨split, after, five, -, rfl⟩ := exists_fields_of_qualityField (by omega) read
    have := length_le_fieldBytes split
    simp only [List.length_append] at few
    omega

/-- A sentence is scanned by itself if it is a GGA sentence, and passed over otherwise. -/
theorem scanGga_bytes (next : SentenceNext rest) :
    (scanGga (s.bytes ++ rest)).map nsimGgaQualityToGpsFix =
      s.fix.getD ((scanGga rest).map nsimGgaQualityToGpsFix) := by
  unfold NmeaSentence.fix
  by_cases gga : StartsGga s.bytes
  · rw [if_pos gga, Option.getD_some]
    congr 1
    obtain ⟨body, bytes, -⟩ := sentence_bytes s
    have starts := (startsGga_append next).2 gga
    rw [bytes] at starts gga ⊢
    rw [List.cons_append] at starts ⊢
    rw [scanGga, if_pos starts]
    have long : 6 ≤ body.length := by
      have tag := congrArg List.length gga.2
      simp [ascii] at tag
      omega
    have fields : (body ++ rest).drop 6 = (36 :: body).drop 7 ++ rest := by
      simp [List.drop_append_of_le_length long]
    rw [fields, qualityField_append next]
    split
    · rename_i short
      rw [qualityField_of_few]
      simp at short ⊢
      omega
    · rfl
  · rw [if_neg gga, Option.getD_none,
      scanGga_sentence (sentence_bytes s) (mt (startsGga_append next).1 gga)]

/-- The first GGA sentence decides. -/
theorem scanGga_flatMap (sentences : List NmeaSentence) :
    (scanGga (sentences.flatMap NmeaSentence.bytes)).map nsimGgaQualityToGpsFix =
      (ggaFixes sentences).head?.join := by
  induction sentences with
  | nil => rfl
  | cons s sentences ih =>
    rw [List.flatMap_cons, scanGga_bytes (sentenceNext_flatMap sentences), ih]
    simp only [ggaFixes, List.filterMap_cons]
    cases s.fix <;> rfl

/-! ## Writes -/

theorem tracking_afterGga (unblocked : d.signalBlocked = false) (quality : Option UInt8) :
    (afterGga d now quality).tracking =
      (quality.map nsimGgaQualityToGpsFix).elim d.tracking (d.tracking.take now) := by
  cases quality with
  | none => rfl
  | some q =>
    simp only [afterGga, nsimApplyGgaFix, unblocked, Option.map_some, Option.elim_some]
    generalize nsimGgaQualityToGpsFix q = newFix
    rw [if_neg (by simp)]
    by_cases zero : newFix = 0
    · subst zero
      by_cases had : d.gnssGpsFix = 0
      · rw [take_zero_again had]
        simp [had, NsimDpll.tracking]
      · rw [take_zero had, if_pos ⟨rfl, had⟩, nsimDpllEnterHoldover_eq]
        simp [NsimDpll.tracking, Tracking.lost]
    · rw [if_neg fun both => zero both.1]
      by_cases locked : d.gnssGpsFix ≠ 0 ∧ d.lockStatus = .LOCKED_HO_ACQ
      · rw [take_fix_again (t := d.tracking) zero locked.1 locked.2]
        rw [if_neg fun both => both.2.elim locked.1 (absurd locked.2)]
        rfl
      · have unlocked : d.gnssGpsFix = 0 ∨ d.lockStatus ≠ .LOCKED_HO_ACQ := by
          by_contra both
          exact locked ⟨fun none => both (.inl none), by_contra fun away => both (.inr away)⟩
        rw [take_fix (t := d.tracking) zero unlocked, if_pos ⟨zero, unlocked⟩,
          nsimDpllEnterLocked_eq]
        simp [NsimDpll.tracking]

theorem signalBlocked_afterGga (quality : Option UInt8) :
    (afterGga d now quality).signalBlocked = d.signalBlocked := by
  cases quality with
  | none => rfl
  | some q =>
    simp only [afterGga, nsimApplyGgaFix, nsimDpllEnterHoldover_eq, nsimDpllEnterLocked_eq]
    split_ifs <;> simp

/-- One sentence after the other. -/
theorem writeEach_sentences (sentences : List NmeaSentence) (d : NsimDpll) : ∃ d' replies,
    writeEach now real d (sentences.map NmeaSentence.bytes) = some (d', replies) ∧
      d'.tracking = if d.signalBlocked then d.tracking
        else (ggaFixes sentences).reduceOption.foldl (Tracking.take now) d.tracking := by
  induction sentences generalizing d with
  | nil => exact ⟨d, [], rfl, (ite_self _).symm⟩
  | cons s sentences ih =>
    have alone := @scanGga_bytes [] s (.inl rfl)
    rw [List.append_nil] at alone
    obtain ⟨d', replies, writes, tracking⟩ :=
      ih (if d.signalBlocked then d else afterGga d now (scanGga s.bytes))
    refine ⟨d', s.bytes :: replies, ?_, ?_⟩
    · rw [List.map_cons, writeEach, nsimGnssWriteRaw_nmea rfl, Option.bind_some, writes]
      rfl
    · rw [tracking]
      cases blocked : d.signalBlocked with
      | true => simp [blocked]
      | false =>
        simp only [Bool.false_eq_true, if_false, signalBlocked_afterGga, blocked,
          tracking_afterGga blocked, alone, ggaFixes, List.filterMap_cons]
        cases s.fix with
        | none => rfl
        | some fix => cases fix <;> rfl

/-- One write of all the sentences. -/
theorem nsimGnssWriteRaw_sentences (sentences : List NmeaSentence) (d : NsimDpll) : ∃ d' replies,
    nsimGnssWriteRaw d now real (sentences.flatMap NmeaSentence.bytes) = some (d', replies) ∧
      d'.tracking = if d.signalBlocked then d.tracking
        else (ggaFixes sentences).head?.join.elim d.tracking (d.tracking.take now) := by
  cases sentences with
  | nil => exact ⟨d, [], rfl, (ite_self _).symm⟩
  | cons s sentences =>
    refine ⟨_, _, nsimGnssWriteRaw_nmea rfl, ?_⟩
    cases blocked : d.signalBlocked with
    | true => rfl
    | false =>
      rw [if_neg (by simp), if_neg (by simp), tracking_afterGga blocked, scanGga_flatMap]

/-- One write of the sentences leaves the fix, the lock status and the holdover timer as writing them
one after the other at the same time does. -/
def BatchesAlike (d : NsimDpll) (now : ℕ) (real : Timespec64) (sentences : List NmeaSentence) :
    Prop :=
  ∃ d₁ r₁ d₂ r₂,
    nsimGnssWriteRaw d now real (sentences.flatMap NmeaSentence.bytes) = some (d₁, r₁) ∧
      writeEach now real d (sentences.map NmeaSentence.bytes) = some (d₂, r₂) ∧
        d₁.tracking = d₂.tracking

/-- Of a batch only the first GGA sentence counts, and of single writes all do. -/
theorem batchesAlike_iff {d : NsimDpll} {sentences : List NmeaSentence} :
    BatchesAlike d now real sentences ↔ d.signalBlocked = true ∨
      (ggaFixes sentences).head?.join.elim d.tracking (d.tracking.take now) =
        (ggaFixes sentences).reduceOption.foldl (Tracking.take now) d.tracking := by
  obtain ⟨d₁, r₁, batch, tracking₁⟩ := @nsimGnssWriteRaw_sentences now real sentences d
  obtain ⟨d₂, r₂, each, tracking₂⟩ := @writeEach_sentences now real sentences d
  have alike : BatchesAlike d now real sentences ↔ d₁.tracking = d₂.tracking := by
    constructor
    · rintro ⟨_, _, _, _, batch', each', same⟩
      rw [batch] at batch'
      rw [each] at each'
      cases batch'
      cases each'
      exact same
    · exact fun same => ⟨d₁, r₁, d₂, r₂, batch, each, same⟩
  rw [alike, tracking₁, tracking₂]
  cases d.signalBlocked <;> simp

/-- A batch of sentences has the effect of its sentences exactly if the signal is blocked or the
first GGA sentence decides. -/
theorem nmea_batch_iff (d : NsimDpll) (now : ℕ) (real : Timespec64)
    (sentences : List NmeaSentence) : BatchesAlike d now real sentences ↔
      d.signalBlocked = true ∨ FirstDecides d.tracking now (ggaFixes sentences) := by
  rw [batchesAlike_iff]
  refine or_congr_right ?_
  cases ggaFixes sentences with
  | nil => exact iff_of_true rfl trivial
  | cons first others =>
    rw [firstDecides_iff, eq_comm]
    cases first <;> rfl

/-- The signal is lost and comes back. -/
def lostAndBack : List NmeaSentence :=
  [⟨ascii "GPGGA,,,,,,0,", by decide +kernel⟩, ⟨ascii "GPGGA,,,,,,1,", by decide +kernel⟩]

/-- The second sentence of a batch is missed. -/
theorem nmea_batch_misses : ¬∀ d now real sentences, BatchesAlike d now real sentences := by
  intro always
  have same := batchesAlike_iff.1 (always (NsimDpll.started 0) 1 ⟨0, 0⟩ lostAndBack)
  exact absurd same (by decide)

end Scan

end Netdevsim
