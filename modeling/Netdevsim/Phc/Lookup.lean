import Netdevsim.Phc.Sharing

/-!
# What the lookup by logical id inspects

`get_ptp_clock_by_logical_clk_id` takes every clock of the class it comes by for the clock of a mock
PHC.  It only comes by such clocks if and only if no virtual clock is ahead of the first mock PHC
with the id (`lookup_only_mocks_iff`).
-/

namespace Netdevsim.Phc

/-- A clock made by `mock_phc_create`. -/
def IsMock (t : PhcTable) (dev : PtpClassDev) : Prop := ∃ phc o, dev = .mock phc ∧ t.phc phc = some o

/-- The clock of a mock PHC with the id. -/
def IsMockWith (t : PhcTable) (id : Int32) (dev : PtpClassDev) : Prop :=
  ∃ phc o, dev = .mock phc ∧ t.phc phc = some o ∧ o.logicalClkId = id

/-- The lookup inspects only clocks of mock PHCs, and what it returns is one with the id. -/
def InspectsOnlyMocks (t : PhcTable) (id : Int32) : Prop :=
  (∀ dev ∈ (t.getPtpClockByLogicalClkId id).1, IsMock t dev) ∧
    ∀ dev, (t.getPtpClockByLogicalClkId id).2 = some dev → IsMockWith t id dev

/-- No virtual clock is ahead of the first mock PHC with the id, and there is none at all if no mock
PHC has the id. -/
def NoVclockAhead (t : PhcTable) (id : Int32) : Prop :=
  ∀ before vclock pclock after, t.ptpClass = before ++ .vclock vclock pclock :: after →
    ∃ dev ∈ before, IsMockWith t id dev

section Search

variable {isMatch : PtpClassDev → Bool}

theorem found_mem_tried {devs : List PtpClassDev} {dev : PtpClassDev}
    (found : (PhcTable.classFindDevice isMatch devs).2 = some dev) :
    dev ∈ (PhcTable.classFindDevice isMatch devs).1 ∧ isMatch dev = true := by
  induction devs with
  | nil => cases found
  | cons d devs ih =>
    unfold PhcTable.classFindDevice at found ⊢
    split_ifs at found ⊢ with hit
    · obtain rfl := Option.some.inj found
      exact ⟨List.mem_singleton_self d, hit⟩
    · exact ⟨List.mem_cons_of_mem _ (ih found).1, (ih found).2⟩

/-- All devices tried are good if and only if every other one has a good match ahead of it. -/
theorem tried_iff {good : PtpClassDev → Prop} (devs : List PtpClassDev) :
    (∀ dev ∈ (PhcTable.classFindDevice isMatch devs).1, good dev) ↔
      ∀ before bad after, devs = before ++ bad :: after → ¬good bad →
        ∃ dev ∈ before, good dev ∧ isMatch dev = true := by
  induction devs with
  | nil =>
    refine iff_of_true (by simp [PhcTable.classFindDevice]) fun before bad after eq => ?_
    simp at eq
  | cons d devs ih =>
    by_cases goodD : good d
    · by_cases hit : isMatch d = true
      · refine iff_of_true ?_ fun before bad after eq isBad => ?_
        · simpa [PhcTable.classFindDevice, hit] using goodD
        · cases before with
          | nil =>
            obtain ⟨rfl, -⟩ : d = bad ∧ devs = after := by simpa using eq
            exact absurd goodD isBad
          | cons e before =>
            obtain ⟨rfl, -⟩ : d = e ∧ devs = before ++ bad :: after := by simpa using eq
            exact ⟨d, List.mem_cons_self, goodD, hit⟩
      · have tried : (∀ dev ∈ (PhcTable.classFindDevice isMatch (d :: devs)).1, good dev) ↔
            ∀ dev ∈ (PhcTable.classFindDevice isMatch devs).1, good dev := by
          simp [PhcTable.classFindDevice, hit, goodD]
        rw [tried, ih]
        constructor
        · intro ahead before bad after eq isBad
          cases before with
          | nil =>
            obtain ⟨rfl, -⟩ : d = bad ∧ devs = after := by simpa using eq
            exact absurd goodD isBad
          | cons e before =>
            obtain ⟨rfl, rest⟩ : d = e ∧ devs = before ++ bad :: after := by simpa using eq
            obtain ⟨dev, mem, first⟩ := ahead before bad after rest isBad
            exact ⟨dev, List.mem_cons_of_mem _ mem, first⟩
        · intro ahead before bad after eq isBad
          obtain ⟨dev, mem, first⟩ := ahead (d :: before) bad after (by rw [eq]; rfl) isBad
          rcases List.mem_cons.1 mem with rfl | mem
          · exact absurd first.2 hit
          · exact ⟨dev, mem, first⟩
    · refine iff_of_false (fun all => goodD (all d ?_)) fun ahead => ?_
      · unfold PhcTable.classFindDevice
        split_ifs <;> exact List.mem_cons_self
      · obtain ⟨dev, mem, -⟩ := ahead [] d devs rfl goodD
        cases mem

end Search

/-- The lookup by logical id only inspects mock clocks, and returns one with the id or nothing, if
and only if no virtual clock is ahead of the first mock clock with the id. -/
theorem lookup_only_mocks_iff {w : PhcWorld} (h : phcSystem.Reachable w) (id : Int32) :
    InspectsOnlyMocks w.table id ↔ NoVclockAhead w.table id := by
  have sound := (phcInvariant_reachable h).accounted.sound
  have mocks : ∀ phc, .mock phc ∈ w.table.ptpClass → IsMock w.table (.mock phc) := by
    intro phc mem
    obtain ⟨o, live⟩ := Option.isSome_iff_exists.1 ((sound.listed phc).1 mem)
    exact ⟨phc, o, rfl, live⟩
  have hits : ∀ dev, IsMock w.table dev →
      (w.table.ptpMatchLogicalClkId id dev = true ↔ IsMockWith w.table id dev) := by
    rintro dev ⟨phc, o, rfl, live⟩
    simp [PhcTable.ptpMatchLogicalClkId, PhcTable.mockPhcLogicalClkId, IsMockWith, live]
  have tried : (∀ dev ∈ (w.table.getPtpClockByLogicalClkId id).1, IsMock w.table dev) ↔
      NoVclockAhead w.table id := by
    unfold PhcTable.getPtpClockByLogicalClkId
    rw [tried_iff]
    constructor
    · intro ahead before vclock pclock after eq
      obtain ⟨dev, mem, mock, hit⟩ := ahead before _ after eq (by rintro ⟨phc, o, other, -⟩; cases other)
      exact ⟨dev, mem, (hits dev mock).1 hit⟩
    · intro ahead before bad after eq isBad
      cases bad with
      | mock phc => exact absurd (mocks phc (by rw [eq]; simp)) isBad
      | vclock vclock pclock =>
        obtain ⟨dev, mem, phc, o, rfl, live, same⟩ := ahead before vclock pclock after eq
        have mock : IsMock w.table (.mock phc) := ⟨phc, o, rfl, live⟩
        exact ⟨.mock phc, mem, mock, (hits _ mock).2 ⟨phc, o, rfl, live, same⟩⟩
  constructor
  · exact fun inspects => tried.1 inspects.1
  · refine fun ahead => ⟨tried.2 ahead, fun dev found => ?_⟩
    obtain ⟨mem, hit⟩ := found_mem_tried found
    exact (hits dev (tried.2 ahead dev mem)).1 hit

/-- A device with one port, whose PHC gets a virtual clock. -/
def oneVclock : List (List (Option Errno) × PhcOp) :=
  [([], .newDevice 0 7 1), ([], .nVclocks 17 (ascii "1\n") [true])]

/-- The lookup of 7 stops at the PHC of the device, ahead of the virtual clock. -/
theorem lookup_only_mocks_iff_oneVclock :
    ∃ w : PhcWorld, w.table.ptpClass = [.mock 17, .vclock 18 17] ∧
      (InspectsOnlyMocks w.table 7 ↔ NoVclockAhead w.table 7) := by
  have start : (phcSystem.guard fun _ _ => True).Reachable (.loaded fun _ => 0) :=
    .init ⟨fun _ => 0, rfl⟩
  obtain ⟨w, reachable, clocks⟩ := exists_of_runOps oneVclock
    (·.table.ptpClass = [.mock 17, .vclock 18 17]) start (fun _ _ _ => trivial) (by decide +kernel)
  exact ⟨w, of_decide_eq_true clocks, lookup_only_mocks_iff reachable.of_guard 7⟩

/-- The lookup of 8 goes on to the virtual clock. -/
theorem vclock_inspected :
    ¬∀ w id, phcSystem.Reachable w → InspectsOnlyMocks w.table id := by
  intro always
  have start : (phcSystem.guard fun _ _ => True).Reachable (.loaded fun _ => 0) :=
    .init ⟨fun _ => 0, rfl⟩
  obtain ⟨w, reachable, tried⟩ := exists_of_runOps oneVclock
    (fun w => .vclock 18 17 ∈ (w.table.getPtpClockByLogicalClkId 8).1) start
    (fun _ _ _ => trivial) (by decide +kernel)
  obtain ⟨phc, o, mock, -⟩ := (always w 8 reachable.of_guard).1 _ (of_decide_eq_true tried)
  cases mock

end Netdevsim.Phc
