import Netdevsim.Dpll.Nsim

/-!
# GGA sentences

`nsim_parse_gga_fix` looks for a GGA sentence by index.  On the list of bytes the two loops are
`scanGga` and `qualityField`, and what they find follows from how the buffer is put together: the
sentences before the first GGA sentence are passed over, and its five first fields are counted.
-/

namespace Netdevsim

/-! ## The loops on lists -/

/-- The digit at the start of a field. -/
def qualityDigit : Bytes → Option UInt8
  | [] => none
  | q :: _ => if q < 48 ∨ 57 < q then none else some (q - 48)

/-- The quality behind the fifth comma, of which `commas` were read, unless `*` or `$` comes
first. -/
def qualityField : (commas : ℕ) → Bytes → Option UInt8
  | _, [] => none
  | commas, c :: rest =>
    if c = 42 ∨ c = 36 then none
    else if c = 44 then
      if commas + 1 = 5 then qualityDigit rest else qualityField (commas + 1) rest
    else qualityField commas rest

/-- The bytes begin with `$`, two characters and `GGA,`. -/
def StartsGga (bytes : Bytes) : Prop := bytes.head? = some 36 ∧ (bytes.drop 3).take 4 = ascii "GGA,"

instance (bytes : Bytes) : Decidable (StartsGga bytes) := inferInstanceAs (Decidable (_ ∧ _))

/-- The quality in the first GGA sentence. -/
def scanGga : Bytes → Option UInt8
  | [] => none
  | c :: rest =>
    if rest.length < 10 then none
    else if StartsGga (c :: rest) then qualityField 0 (rest.drop 6)
    else scanGga rest

/-- The inner loop. -/
theorem ggaQualityField_eq (before rest : Bytes) (fuel commas : ℕ) (enough : rest.length < fuel) :
    ggaQualityField (before ++ rest) fuel before.length commas = some (qualityField commas rest) := by
  induction rest generalizing before fuel commas with
  | nil =>
    obtain ⟨fuel, rfl⟩ := Nat.exists_eq_add_one_of_ne_zero (Nat.ne_zero_of_lt enough)
    simp [ggaQualityField, qualityField]
  | cons c rest ih =>
    obtain ⟨fuel, rfl⟩ := Nat.exists_eq_add_one_of_ne_zero (Nat.ne_zero_of_lt enough)
    have next : ∀ commas, ggaQualityField (before ++ c :: rest) fuel (before.length + 1) commas =
        some (qualityField commas rest) := by
      intro commas
      have moved := ih (before ++ [c]) fuel commas (by simpa using enough)
      simpa using moved
    have inside : before.length < (before ++ c :: rest).length := by simp
    have here : (before ++ c :: rest)[before.length]? = some c := by simp
    unfold ggaQualityField qualityField
    rw [if_pos inside, here, Option.bind_eq_bind, Option.bind_some]
    by_cases ends : c = 42 ∨ c = 36
    · rw [if_pos ends, if_pos ends]
      rfl
    · rw [if_neg ends, if_neg ends]
      by_cases comma : c = 44
      · rw [if_pos comma, if_pos comma]
        by_cases fifth : commas + 1 = 5
        · rw [if_pos fifth, if_pos fifth]
          cases rest with
          | nil => simp [qualityDigit]
          | cons q rest =>
            have digit : (before ++ c :: q :: rest)[before.length + 1]? = some q := by simp
            rw [if_neg (by simp), digit, Option.bind_some, qualityDigit]
            split <;> rfl
        · rw [if_neg fifth, if_neg fifth]
          exact next (commas + 1)
      · rw [if_neg comma, if_neg comma]
        exact next commas

/-- The outer loop. -/
theorem ggaQuality_eq (before rest : Bytes) (fuel : ℕ) (enough : rest.length < fuel) :
    ggaQuality (before ++ rest) fuel before.length = some (scanGga rest) := by
  induction rest generalizing before fuel with
  | nil =>
    obtain ⟨fuel, rfl⟩ := Nat.exists_eq_add_one_of_ne_zero (Nat.ne_zero_of_lt enough)
    simp [ggaQuality, scanGga]
  | cons c rest ih =>
    obtain ⟨fuel, rfl⟩ := Nat.exists_eq_add_one_of_ne_zero (Nat.ne_zero_of_lt enough)
    have next : ggaQuality (before ++ c :: rest) fuel (before.length + 1) = some (scanGga rest) := by
      have moved := ih (before ++ [c]) fuel (by simpa using enough)
      simpa using moved
    have size : (before ++ c :: rest).length = before.length + (rest.length + 1) := by simp
    have here : (before ++ c :: rest)[before.length]? = some c := by simp
    unfold ggaQuality scanGga
    by_cases short : rest.length < 10
    · rw [if_neg (by omega), if_pos short]
    · rw [if_pos (by omega), if_neg short, here, Option.bind_eq_bind, Option.bind_some]
      by_cases dollar : c = 36
      · have tag : readBytes (before ++ c :: rest) (before.length + 3) 4 =
            some (((c :: rest).drop 3).take 4) := by
          unfold readBytes
          rw [if_pos (by omega), List.drop_length_add_append]
        rw [if_neg (not_not.2 dollar), if_neg (by omega), tag, Option.bind_eq_bind,
          Option.bind_some]
        by_cases gga : ((c :: rest).drop 3).take 4 = ascii "GGA,"
        · have inner := ggaQualityField_eq (before ++ (c :: rest).take 7) (rest.drop 6)
            ((before ++ c :: rest).length + 1) 0 (by simp; omega)
          have split : (c :: rest).take 7 ++ rest.drop 6 = c :: rest := List.take_append_drop 7 (c :: rest)
          have seven : (before ++ (c :: rest).take 7).length = before.length + 7 := by
            simp
            omega
          rw [List.append_assoc, split, seven] at inner
          rw [if_neg (not_not.2 gga), if_pos ⟨congrArg some dollar, gga⟩]
          exact inner
        · rw [if_pos gga, if_neg fun starts => gga starts.2]
          exact next
      · rw [if_pos dollar, if_neg fun starts => dollar (Option.some.inj starts.1)]
        exact next

/-- The state after a quality was found, or none. -/
def afterGga (d : NsimDpll) (now : ℕ) : Option UInt8 → NsimDpll
  | some quality => nsimApplyGgaFix d now quality
  | none => d

/-- What the function does with a buffer. -/
theorem nsimParseGgaFix_eq (d : NsimDpll) (now : ℕ) (buf : Bytes) :
    nsimParseGgaFix d now buf = some (afterGga d now (scanGga buf)) := by
  have scan := ggaQuality_eq [] buf (buf.length + 1) (Nat.lt_succ_self _)
  rw [List.nil_append, List.length_nil] at scan
  unfold nsimParseGgaFix
  rw [scan, Option.bind_eq_bind, Option.bind_some]
  cases scanGga buf <;> rfl

/-! ## The grammar -/

/-- A field has no `,`, no `*` and no `$`. -/
def IsField (field : Bytes) : Prop := ∀ c ∈ field, c ≠ 44 ∧ c ≠ 42 ∧ c ≠ 36

/-- Fields with a comma behind each. -/
def fieldBytes (fields : List Bytes) : Bytes := fields.flatMap (· ++ [44])

/-- A GGA sentence up to the comma behind its fifth field, the quality being next. -/
structure GgaHead where
  talker₁ : UInt8
  talker₂ : UInt8
  fields : List Bytes
  five : fields.length = 5
  clean : ∀ field ∈ fields, IsField field

/-- `$`, the two characters, `GGA,` and the fields. -/
def GgaHead.bytes (g : GgaHead) : Bytes :=
  36 :: g.talker₁ :: g.talker₂ :: (ascii "GGA," ++ fieldBytes g.fields)

/-- The bytes start with `$` and have no other. -/
def Sentence (s : Bytes) : Prop := ∃ body : Bytes, s = 36 :: body ∧ 36 ∉ body

/-- Sentences at none of which `GGA,` stands in its place, in a buffer that goes on with `rest`. -/
def PassedOver (rest : Bytes) : List Bytes → Prop
  | [] => True
  | s :: ss => (Sentence s ∧ ¬StartsGga (s ++ (ss.flatten ++ rest))) ∧ PassedOver rest ss

section Grammar

variable {c : UInt8} {s field rest : Bytes} {commas : ℕ}

theorem scanGga_short (short : rest.length ≤ 10) : scanGga rest = none := by
  cases rest with
  | nil => rfl
  | cons c rest =>
    rw [scanGga, if_pos (by simpa using short)]

/-- A position without `GGA,` in its place is passed over. -/
theorem scanGga_cons (other : ¬StartsGga (c :: rest)) : scanGga (c :: rest) = scanGga rest := by
  rw [scanGga, if_neg other]
  by_cases short : rest.length < 10
  · rw [if_pos short, scanGga_short short.le]
  · rw [if_neg short]

/-- Characters other than `$` are passed over. -/
theorem scanGga_body {body : Bytes} (noDollar : 36 ∉ body) :
    scanGga (body ++ rest) = scanGga rest := by
  induction body with
  | nil => rfl
  | cons c body ih =>
    have other : ¬StartsGga (c :: (body ++ rest)) := by
      rintro ⟨dollar, -⟩
      simp only [List.head?_cons, Option.some.injEq] at dollar
      simp [dollar] at noDollar
    rw [List.cons_append, scanGga_cons other]
    exact ih fun mem => noDollar (List.mem_cons_of_mem _ mem)

theorem scanGga_sentence (sentence : Sentence s) (other : ¬StartsGga (s ++ rest)) :
    scanGga (s ++ rest) = scanGga rest := by
  obtain ⟨body, rfl, noDollar⟩ := sentence
  rw [List.cons_append] at other ⊢
  rw [scanGga_cons other, scanGga_body noDollar]

theorem scanGga_passedOver {sentences : List Bytes} (passed : PassedOver rest sentences) :
    scanGga (sentences.flatten ++ rest) = scanGga rest := by
  induction sentences with
  | nil => rfl
  | cons s sentences ih =>
    rw [List.flatten_cons, List.append_assoc, scanGga_sentence passed.1.1 passed.1.2]
    exact ih passed.2

/-- A field is read up to the comma behind it. -/
theorem qualityField_field (clean : IsField field) : qualityField commas (field ++ 44 :: rest) =
    if commas + 1 = 5 then qualityDigit rest else qualityField (commas + 1) rest := by
  induction field with
  | nil => simp [qualityField]
  | cons c field ih =>
    obtain ⟨comma, star, dollar⟩ := clean c List.mem_cons_self
    rw [List.cons_append, qualityField, if_neg (not_or.2 ⟨star, dollar⟩), if_neg comma]
    exact ih fun c mem => clean c (List.mem_cons_of_mem _ mem)

/-- The fields that are left to the fifth. -/
theorem qualityField_fields {fields : List Bytes} (clean : ∀ field ∈ fields, IsField field)
    (some : fields ≠ []) (left : commas + fields.length = 5) :
    qualityField commas (fieldBytes fields ++ rest) = qualityDigit rest := by
  induction fields generalizing commas with
  | nil => exact absurd rfl some
  | cons field fields ih =>
    have bytes : fieldBytes (field :: fields) ++ rest = field ++ 44 :: (fieldBytes fields ++ rest) := by
      simp [fieldBytes]
    rw [bytes, qualityField_field (clean field List.mem_cons_self)]
    rw [List.length_cons] at left
    cases fields with
    | nil => exact if_pos (by simpa using left)
    | cons next fields =>
      rw [if_neg (by simp at left; omega)]
      exact ih (fun field mem => clean field (List.mem_cons_of_mem _ mem)) (List.cons_ne_nil _ _)
        (by omega)

theorem length_le_fieldBytes (fields : List Bytes) : fields.length ≤ (fieldBytes fields).length := by
  induction fields with
  | nil => simp
  | cons field fields ih =>
    simp only [fieldBytes, List.flatMap_cons, List.length_append, List.length_cons] at ih ⊢
    omega

/-- The quality of a GGA sentence is what follows its five fields. -/
theorem scanGga_head (g : GgaHead) (rest : Bytes) : scanGga (g.bytes ++ rest) = qualityDigit rest := by
  have size := length_le_fieldBytes g.fields
  rw [g.five] at size
  have starts : StartsGga (g.bytes ++ rest) := ⟨rfl, by simp [GgaHead.bytes, ascii]⟩
  have quality := @qualityField_fields rest 0 g.fields g.clean (by
    intro none
    have := g.five
    simp [none] at this) (by rw [g.five])
  unfold GgaHead.bytes at starts ⊢
  rw [List.cons_append] at starts ⊢
  rw [scanGga, if_neg (by simp [ascii]; omega), if_pos starts]
  simpa [ascii] using quality

/-- A quality that is read stands behind the fields that were left. -/
theorem exists_fields_of_qualityField {q : UInt8} (few : commas < 5)
    (read : qualityField commas rest = some q) : ∃ (fields : List Bytes) (after : Bytes),
      commas + fields.length = 5 ∧ (∀ field ∈ fields, IsField field) ∧
        rest = fieldBytes fields ++ after := by
  induction rest generalizing commas with
  | nil => simp [qualityField] at read
  | cons c rest ih =>
    rw [qualityField] at read
    split_ifs at read with ends comma fifth
    · exact ⟨[[]], rest, fifth, by simp [IsField], by simp [fieldBytes, comma]⟩
    · obtain ⟨fields, after, left, clean, rfl⟩ := ih (by omega) read
      refine ⟨[] :: fields, after, by simp; omega, ?_, by simp [fieldBytes, comma]⟩
      simpa [IsField] using clean
    · obtain ⟨fields, after, left, clean, rfl⟩ := ih few read
      cases fields with
      | nil => simp at left; omega
      | cons field fields =>
        refine ⟨(c :: field) :: fields, after, by simpa using left, ?_, by simp [fieldBytes]⟩
        obtain ⟨first, others⟩ := List.forall_mem_cons.1 clean
        refine List.forall_mem_cons.2 ⟨?_, others⟩
        exact List.forall_mem_cons.2 ⟨⟨comma, not_or.1 ends⟩, first⟩

/-- A buffer in which a quality is found has a GGA sentence. -/
theorem exists_head_of_scanGga {buf : Bytes} {q : UInt8} (found : scanGga buf = some q) :
    ∃ g : GgaHead, g.bytes <:+: buf := by
  induction buf with
  | nil => simp [scanGga] at found
  | cons c rest ih =>
    rw [scanGga] at found
    split_ifs at found with short starts
    · obtain ⟨dollar, tag⟩ := starts
      obtain ⟨fields, after, left, clean, split⟩ := exists_fields_of_qualityField (by omega) found
      match rest, short, tag, split with
      | t₁ :: t₂ :: b₁ :: b₂ :: b₃ :: b₄ :: rest, _, tag, split =>
        refine ⟨⟨t₁, t₂, fields, by omega, clean⟩, [], after, ?_⟩
        have dollar : c = 36 := by simpa using dollar
        have tag : [b₁, b₂, b₃, b₄] = ascii "GGA," := by simpa using tag
        have split : rest = fieldBytes fields ++ after := split
        rw [split, dollar]
        simp only [GgaHead.bytes, ← tag]
        simp
    · obtain ⟨g, inside⟩ := ih found
      exact ⟨g, inside.trans (List.suffix_cons c rest).isInfix⟩

end Grammar

/-! ## What a write does -/

/-- How a write takes `d` to `d'` for the digit behind the fields of a GGA sentence, nothing being
changed without one. -/
def GgaEffect (d : NsimDpll) (now : ℕ) (d' : NsimDpll) : Option UInt8 → Prop
  | some q =>
    let newFix := nsimGgaQualityToGpsFix q
    d'.gnssGpsFix = newFix ∧
      (newFix = 0 → d.gnssGpsFix ≠ 0 → d'.lockStatus = .HOLDOVER ∧
        d'.holdoverTimer = some (now + NSIM_DPLL_HOLDOVER_TIMEOUT_SEC * NSEC_PER_SEC)) ∧
      (newFix ≠ 0 → d'.lockStatus = .LOCKED_HO_ACQ)
  | none => d'.gnssGpsFix = d.gnssGpsFix ∧ d'.lockStatus = d.lockStatus ∧
      d'.holdoverTimer = d.holdoverTimer

/-- A write echoes the buffer and takes from it the quality `digit`. -/
def ParsedAs (d : NsimDpll) (now : ℕ) (real : Timespec64) (buf : Bytes) (digit : Option UInt8) :
    Prop :=
  ∃ d', nsimGnssWriteRaw d now real buf = some (d', [buf]) ∧ GgaEffect d now d' digit

section Write

variable {d : NsimDpll} {now : ℕ} {real : Timespec64} {buf : Bytes}

theorem nsimGnssWriteRaw_nmea (dollar : buf.head? = some 36) :
    nsimGnssWriteRaw d now real buf =
      some (if d.signalBlocked then d else afterGga d now (scanGga buf), [buf]) := by
  obtain ⟨rest, rfl⟩ := List.head?_eq_some_iff.1 dollar
  unfold nsimGnssWriteRaw
  rw [if_neg (by simp)]
  simp only [List.getElem?_cons_zero, Option.bind_eq_bind, Option.bind_some, if_true,
    nsimParseGgaFix_eq]
  cases d.signalBlocked <;> rfl

theorem ggaEffect_afterGga (unblocked : d.signalBlocked = false) (digit : Option UInt8) :
    GgaEffect d now (afterGga d now digit) digit := by
  cases digit with
  | none => exact ⟨rfl, rfl, rfl⟩
  | some q =>
    simp only [GgaEffect, afterGga, nsimApplyGgaFix, unblocked]
    generalize nsimGgaQualityToGpsFix q = newFix
    rw [if_neg (by simp)]
    by_cases lost : newFix = 0 ∧ d.gnssGpsFix ≠ 0
    · rw [if_pos lost, nsimDpllEnterHoldover_eq]
      simp [lost.1]
    · rw [if_neg lost]
      by_cases locks : newFix ≠ 0 ∧ (d.gnssGpsFix = 0 ∨ d.lockStatus ≠ .LOCKED_HO_ACQ)
      · rw [if_pos locks, nsimDpllEnterLocked_eq]
        simp [locks.1]
      · rw [if_neg locks]
        refine ⟨rfl, fun none old => absurd ⟨none, old⟩ lost, fun fix => ?_⟩
        by_contra unlocked
        exact locks ⟨fix, .inr unlocked⟩

theorem parsedAs_scanGga (unblocked : d.signalBlocked = false) (dollar : buf.head? = some 36) :
    ParsedAs d now real buf (scanGga buf) := by
  refine ⟨_, nsimGnssWriteRaw_nmea dollar, ?_⟩
  rw [if_neg (by simp [unblocked])]
  exact ggaEffect_afterGga unblocked _

/-- While the signal is not blocked, a write behind sentences that are passed over takes the quality
that follows the five fields of a GGA sentence, and a write without such a sentence takes none. -/
theorem gga_quality_taken (d : NsimDpll) (now : ℕ) (real : Timespec64)
    (unblocked : d.signalBlocked = false) :
    (∀ (sentences : List Bytes) (g : GgaHead) (rest : Bytes),
      PassedOver (g.bytes ++ rest) sentences →
        ParsedAs d now real (sentences.flatten ++ (g.bytes ++ rest)) (qualityDigit rest)) ∧
    ∀ buf : Bytes, buf.head? = some 36 → (∀ g : GgaHead, ¬g.bytes <:+: buf) →
      ParsedAs d now real buf none := by
  constructor
  · intro sentences g rest passed
    have quality : scanGga (sentences.flatten ++ (g.bytes ++ rest)) = qualityDigit rest := by
      rw [scanGga_passedOver passed, scanGga_head]
    have dollar : (sentences.flatten ++ (g.bytes ++ rest)).head? = some 36 := by
      cases sentences with
      | nil => rfl
      | cons s sentences =>
        obtain ⟨body, rfl, -⟩ := passed.1.1
        rfl
    rw [← quality]
    exact parsedAs_scanGga unblocked dollar
  · intro buf dollar noHead
    have none : scanGga buf = none := by
      cases found : scanGga buf with
      | none => rfl
      | some q =>
        obtain ⟨g, inside⟩ := exists_head_of_scanGga found
        exact absurd inside (noHead g)
    rw [← none]
    exact parsedAs_scanGga unblocked dollar

/-- The head of a GGA sentence with empty fields. -/
def emptyFields : GgaHead := ⟨71, 80, [[], [], [], [], []], rfl, by simp [IsField]⟩

/-- A sentence without a fix, behind another one. -/
theorem gga_quality_taken_zero :
    ParsedAs (NsimDpll.started 0) 1 ⟨0, 0⟩ (ascii "$GPTXT,1*00\r\n$GPGGA,,,,,,0") (some 0) :=
  (gga_quality_taken (NsimDpll.started 0) 1 ⟨0, 0⟩ rfl).1 [ascii "$GPTXT,1*00\r\n"] emptyFields
    (ascii "0") ⟨⟨⟨ascii "GPTXT,1*00\r\n", rfl, by decide⟩, by decide⟩, trivial⟩

/-- Two bytes of a sentence and the start of the next one are taken for the start of a GGA
sentence. -/
theorem gga_quality_of_next : ¬∀ (d : NsimDpll) (now : ℕ) (real : Timespec64)
    (sentences : List Bytes) (g : GgaHead) (rest : Bytes), d.signalBlocked = false →
      (∀ s ∈ sentences, Sentence s ∧ ¬StartsGga s) →
        ParsedAs d now real (sentences.flatten ++ (g.bytes ++ rest)) (qualityDigit rest) := by
  intro always
  obtain ⟨d', write, effect⟩ := always (NsimDpll.started 0) 1 ⟨0, 0⟩
    [ascii "$a", ascii "$GGA,,,,,,1"] emptyFields (ascii "0") rfl (by
      intro s mem
      rcases List.mem_pair.1 mem with rfl | rfl
      · exact ⟨⟨ascii "a", rfl, by decide⟩, by decide⟩
      · exact ⟨⟨ascii "GGA,,,,,,1", rfl, by decide⟩, by decide⟩)
  have taken := write.symm.trans (nsimGnssWriteRaw_nmea rfl)
  obtain rfl := (Prod.mk.inj (Option.some.inj taken)).1
  exact absurd effect.1 (by decide)

end Write

end Netdevsim
