import Netdevsim.Lib.RefCount
import Netdevsim.Phc.Table

/-!
# Sound tables of PHCs

`Sound t holders dying`: the mock PHCs in memory are those that `holders` refer to, each with the
number of these references as its count, and those that are being destroyed, with the count 0; they
are the ones that have their clock in the class; and no two of them have the same logical id, unless
it is -1.  One lemma for each atomic operation says what becomes of the holders.
-/

namespace Netdevsim.Phc

open RefCount

structure Sound (t : PhcTable) (holders dying : List Ptr) : Prop where
  counted : ∀ p, (t.phc p).map (·.ref) = if p ∈ dying then some 0 else counts holders p
  apart : ∀ p ∈ dying, p ∉ holders
  listed : ∀ p, .mock p ∈ t.ptpClass ↔ (t.phc p).isSome
  nodup : t.ptpClass.Nodup
  mockOld : ∀ p, t.nextPtr ≤ p → t.phc p = none
  vclockOld : ∀ v p, .vclock v p ∈ t.ptpClass → v < t.nextPtr
  unique : ∀ p q o o', t.phc p = some o → t.phc q = some o' →
    o.logicalClkId = o'.logicalClkId → o.logicalClkId ≠ -1 → p = q

theorem sound_empty (stray : Ptr → Int32) : Sound (.empty stray) [] [] where
  counted := by simp [PhcTable.empty]
  apart := by simp
  listed := by simp [PhcTable.empty]
  nodup := List.nodup_nil
  mockOld _ _ := rfl
  vclockOld := by simp [PhcTable.empty]
  unique := by simp [PhcTable.empty]

namespace Sound

variable {t : PhcTable} {holders dying : List Ptr} {p phc : Ptr} {o : PhcObject} {id : Int32}

/-! ## What a sound table says of one PHC -/

theorem perm {others : List Ptr} (h : Sound t holders dying) (perm : holders.Perm others) :
    Sound t others dying :=
  { h with
    counted := fun p => by rw [h.counted, counts_perm perm]
    apart := fun p mem held => h.apart p mem (perm.mem_iff.2 held) }

theorem permDying {others : List Ptr} (h : Sound t holders dying) (perm : dying.Perm others) :
    Sound t holders others :=
  { h with
    counted := fun p => by rw [h.counted]; simp only [perm.mem_iff]
    apart := fun p mem => h.apart p (perm.mem_iff.2 mem) }

theorem live (h : Sound t holders dying) (held : p ∈ holders) :
    ∃ o, t.phc p = some o ∧ o.ref = holders.count p ∧ 0 < o.ref := by
  have alive : p ∉ dying := fun mem => h.apart p mem held
  have counted := h.counted p
  rw [if_neg alive] at counted
  cases found : t.phc p with
  | none =>
    rw [found] at counted
    exact absurd held (counts_eq_none_iff.1 counted.symm)
  | some o =>
    rw [found] at counted
    obtain ⟨count, pos⟩ := counts_eq_some_iff.1 counted.symm
    exact ⟨o, rfl, count.symm, pos⟩

theorem ref_eq (h : Sound t holders []) (found : t.phc p = some o) :
    o.ref = holders.count p ∧ 0 < o.ref := by
  have counted := h.counted p
  rw [found, if_neg List.not_mem_nil] at counted
  obtain ⟨count, pos⟩ := counts_eq_some_iff.1 counted.symm
  exact ⟨count.symm, pos⟩

/-- A PHC is held, or it is being destroyed. -/
theorem held_or_dying (h : Sound t holders dying) (found : t.phc p = some o) :
    p ∈ holders ∨ p ∈ dying := by
  by_contra neither
  obtain ⟨free, alive⟩ := not_or.1 neither
  have counted := h.counted p
  rw [found, if_neg alive, counts_eq_none_iff.2 free] at counted
  cases counted

theorem fresh (h : Sound t holders dying) : t.phc t.nextPtr = none := h.mockOld _ le_rfl

theorem fresh_not_held (h : Sound t holders dying) : t.nextPtr ∉ holders := by
  intro held
  obtain ⟨o, found, -⟩ := h.live held
  rw [h.fresh] at found
  cases found

/-! ## Changes of one PHC -/

theorem modify_self (f : PhcObject → PhcObject) :
    (t.modify phc f).phc phc = (t.phc phc).map f := by
  simp [PhcTable.modify]

theorem modify_other (f : PhcObject → PhcObject) (other : p ≠ phc) :
    (t.modify phc f).phc p = t.phc p := by
  simp [PhcTable.modify, other]

theorem exists_of_modify {f : PhcObject → PhcObject} (found : (t.modify phc f).phc p = some o) :
    ∃ o', t.phc p = some o' ∧ (o = o' ∨ o = f o') := by
  by_cases here : p = phc
  · subst here
    rw [modify_self] at found
    obtain ⟨o', before, rfl⟩ := Option.map_eq_some_iff.1 found
    exact ⟨o', before, .inr rfl⟩
  · rw [modify_other f here] at found
    exact ⟨o, found, .inl rfl⟩

theorem isSome_modify (f : PhcObject → PhcObject) :
    ((t.modify phc f).phc p).isSome = (t.phc p).isSome := by
  by_cases here : p = phc
  · subst here
    rw [modify_self, Option.isSome_map]
  · rw [modify_other f here]

/-- A change of a PHC that keeps its logical id changes the counts and nothing else. -/
theorem of_modify (h : Sound t holders dying) {f : PhcObject → PhcObject} {holders' dying' : List Ptr}
    (ids : ∀ o, (f o).logicalClkId = o.logicalClkId)
    (counted : ∀ p, ((t.modify phc f).phc p).map (·.ref) =
      if p ∈ dying' then some 0 else counts holders' p)
    (apart : ∀ p ∈ dying', p ∉ holders') : Sound (t.modify phc f) holders' dying' where
  counted := counted
  apart := apart
  listed p := by
    rw [isSome_modify]
    exact h.listed p
  nodup := h.nodup
  mockOld p new := by
    rw [← Option.isNone_iff_eq_none, ← Option.not_isSome, isSome_modify, h.mockOld p new]
    rfl
  vclockOld := h.vclockOld
  unique p q a b hp hq same shared := by
    obtain ⟨a', ha, ha'⟩ := exists_of_modify hp
    obtain ⟨b', hb, hb'⟩ := exists_of_modify hq
    have ida : a.logicalClkId = a'.logicalClkId := by
      rcases ha' with rfl | rfl
      exacts [rfl, ids a']
    have idb : b.logicalClkId = b'.logicalClkId := by
      rcases hb' with rfl | rfl
      exacts [rfl, ids b']
    rw [ida] at same shared
    rw [idb] at same
    exact h.unique p q a' b' ha hb same shared

/-- A change of the number of virtual clocks. -/
theorem setVclocks (h : Sound t holders dying) (num : UInt32) :
    Sound (t.modify phc fun o => { o with nVclocks := num }) holders dying := by
  refine h.of_modify (fun _ => rfl) (fun p => ?_) h.apart
  rw [← h.counted p]
  by_cases here : p = phc
  · subst here
    rw [modify_self, Option.map_map]
    rfl
  · rw [modify_other _ here]

/-- `kref_get` on a PHC that is held. -/
theorem krefGet (h : Sound t holders dying) (held : phc ∈ holders) :
    Sound (t.krefGet phc) (phc :: holders) dying := by
  obtain ⟨o, found, count, -⟩ := h.live held
  have alive : phc ∉ dying := fun mem => h.apart phc mem held
  refine h.of_modify (fun _ => rfl) (fun p => ?_) fun p mem => ?_
  · rw [counts_cons]
    by_cases here : p = phc
    · subst here
      rw [modify_self, found, if_neg alive, Function.update_self, ← count]
      rfl
    · rw [modify_other _ here, h.counted p, Function.update_of_ne here]
  · rw [List.mem_cons, not_or]
    refine ⟨?_, h.apart p mem⟩
    rintro rfl
    exact alive mem

/-- `kref_put` of a reference that is not the last one. -/
theorem krefPut (h : Sound t (phc :: holders) dying) (more : phc ∈ holders) :
    (t.krefPut phc).2 = false ∧ Sound (t.krefPut phc).1 holders dying := by
  obtain ⟨o, found, count, -⟩ := h.live List.mem_cons_self
  have alive : phc ∉ dying := fun mem => h.apart phc mem List.mem_cons_self
  have pos := List.count_pos_iff.2 more
  rw [List.count_cons_self] at count
  constructor
  · simp only [PhcTable.krefPut, found, Option.any_some, decide_eq_false_iff_not]
    omega
  · refine h.of_modify (fun _ => rfl) (fun p => ?_) fun p mem held =>
      h.apart p mem (List.mem_cons_of_mem _ held)
    have less : counts holders =
        Function.update (counts (phc :: holders)) phc (some (holders.count phc)) :=
      (counts_of_cons phc holders).trans (by rw [if_neg (by omega)])
    rw [less]
    by_cases here : p = phc
    · subst here
      rw [modify_self, found, if_neg alive, Function.update_self]
      simp [count]
    · rw [modify_other _ here, h.counted p, Function.update_of_ne here]

/-- `kref_put` of the last reference: the PHC is to be destroyed. -/
theorem krefPut_last (h : Sound t (phc :: holders) dying) (last : phc ∉ holders) :
    (t.krefPut phc).2 = true ∧ Sound (t.krefPut phc).1 holders (phc :: dying) := by
  obtain ⟨o, found, count, -⟩ := h.live List.mem_cons_self
  have zero := List.count_eq_zero.2 last
  rw [List.count_cons_self, zero] at count
  constructor
  · simp [PhcTable.krefPut, found, count]
  · refine h.of_modify (fun _ => rfl) (fun p => ?_) fun p mem held => ?_
    · have none_left : counts holders = Function.update (counts (phc :: holders)) phc none :=
        (counts_of_cons phc holders).trans (by rw [if_pos zero])
      rw [none_left]
      by_cases here : p = phc
      · subst here
        rw [modify_self, found, if_pos List.mem_cons_self]
        simp [count]
      · rw [modify_other _ here, h.counted p, Function.update_of_ne here]
        simp only [List.mem_cons, here, false_or]
    · rcases List.mem_cons.1 mem with rfl | mem
      · exact last held
      · exact h.apart p mem (List.mem_cons_of_mem _ held)

/-! ## New PHCs and destroyed ones -/

/-- A new PHC, with a logical id that no other one has or with -1. -/
theorem register (h : Sound t holders dying) (parent : Ptr)
    (new : id ≠ -1 → ∀ p o, t.phc p = some o → o.logicalClkId ≠ id) :
    Sound (t.register parent id) (t.nextPtr :: holders) dying := by
  have alive : t.nextPtr ∉ dying := by
    intro mem
    have counted := h.counted t.nextPtr
    rw [h.fresh, if_pos mem] at counted
    cases counted
  have self : (t.register parent id).phc t.nextPtr = some ⟨id, 1, parent, 0⟩ := by
    simp [PhcTable.register]
  have other : ∀ p, p ≠ t.nextPtr → (t.register parent id).phc p = t.phc p := fun p away => by
    simp [PhcTable.register, away]
  have unlisted : .mock t.nextPtr ∉ t.ptpClass := by
    rw [h.listed, h.fresh]
    simp
  refine ⟨fun p => ?_, fun p mem => ?_, fun p => ?_, ?_, fun p old => ?_, fun v p mem => ?_, ?_⟩
  · rw [counts_cons, List.count_eq_zero.2 h.fresh_not_held]
    by_cases here : p = t.nextPtr
    · subst here
      simp [self, alive]
    · rw [other p here, h.counted p, Function.update_of_ne here]
  · rw [List.mem_cons, not_or]
    refine ⟨?_, h.apart p mem⟩
    rintro rfl
    exact alive mem
  · by_cases here : p = t.nextPtr
    · subst here
      rw [self]
      simp [PhcTable.register]
    · rw [other p here, ← h.listed]
      simp [PhcTable.register, here]
  · have appended := h.nodup.concat unlisted
    rwa [List.concat_eq_append] at appended
  · have old : t.nextPtr < p := old
    rw [other p old.ne']
    exact h.mockOld p old.le
  · have before : .vclock v p ∈ t.ptpClass := by simpa [PhcTable.register] using mem
    exact (h.vclockOld v p before).trans (Nat.lt_succ_self _)
  · intro p q a b hp hq same shared
    by_cases hereP : p = t.nextPtr <;> by_cases hereQ : q = t.nextPtr
    · rw [hereP, hereQ]
    · subst hereP
      rw [self] at hp
      rw [other q hereQ] at hq
      obtain rfl := Option.some.inj hp
      exact absurd same.symm (new shared q b hq)
    · subst hereQ
      rw [self] at hq
      rw [other p hereP] at hp
      obtain rfl := Option.some.inj hq
      rw [same] at shared
      exact absurd same (new shared p a hp)
    · rw [other p hereP] at hp
      rw [other q hereQ] at hq
      exact h.unique p q a b hp hq same shared

/-- `mock_phc_destroy` of a PHC without references. -/
theorem destroy (h : Sound t holders (phc :: dying)) (once : phc ∉ dying) (interrupted : Bool) :
    Sound (t.mockPhcDestroy phc interrupted) holders dying := by
  have free : phc ∉ holders := h.apart phc List.mem_cons_self
  have self : (t.mockPhcDestroy phc interrupted).phc phc = none := by
    simp [PhcTable.mockPhcDestroy]
  have other : ∀ p, p ≠ phc → (t.mockPhcDestroy phc interrupted).phc p = t.phc p :=
    fun p away => by simp [PhcTable.mockPhcDestroy, away]
  obtain ⟨devs, class_eq, devsNodup, mocks, sub⟩ : ∃ devs : List PtpClassDev,
      (t.mockPhcDestroy phc interrupted).ptpClass = devs.erase (.mock phc) ∧ devs.Nodup ∧
        (∀ p, .mock p ∈ devs ↔ .mock p ∈ t.ptpClass) ∧ ∀ dev ∈ devs, dev ∈ t.ptpClass := by
    simp only [PhcTable.mockPhcDestroy, PhcTable.ptpClockUnregister]
    split_ifs
    · refine ⟨_, rfl, h.nodup.filter _, fun p => ?_, fun dev mem => List.mem_of_mem_filter mem⟩
      simp [PhcTable.isVclockOf]
    · exact ⟨_, rfl, h.nodup, fun _ => Iff.rfl, fun _ => id⟩
  refine ⟨fun p => ?_, fun p mem => h.apart p (List.mem_cons_of_mem _ mem), fun p => ?_, ?_,
    fun p new => ?_, fun v p mem => ?_, ?_⟩
  · by_cases here : p = phc
    · subst here
      rw [self, if_neg once, counts_eq_none_iff.2 free]
      rfl
    · rw [other p here, h.counted p]
      simp only [List.mem_cons, here, false_or]
  · rw [class_eq, devsNodup.mem_erase_iff, mocks, h.listed]
    by_cases here : p = phc
    · subst here
      simp [self]
    · simp [other p here, here]
  · rw [class_eq]
    exact devsNodup.erase _
  · by_cases here : p = phc
    · rw [here, self]
    · rw [other p here]
      exact h.mockOld p new
  · rw [class_eq] at mem
    exact h.vclockOld v p (sub _ (List.mem_of_mem_erase mem))
  · intro p q a b hp hq same shared
    have awayP : p ≠ phc := by
      rintro rfl
      rw [self] at hp
      cases hp
    have awayQ : q ≠ phc := by
      rintro rfl
      rw [self] at hq
      cases hq
    rw [other p awayP] at hp
    rw [other q awayQ] at hq
    exact h.unique p q a b hp hq same shared

theorem destroy_krefPut (t : PhcTable) (phc : Ptr) (interrupted : Bool) :
    (t.krefPut phc).1.mockPhcDestroy phc interrupted = t.mockPhcDestroy phc interrupted := by
  have inUse : (t.krefPut phc).1.ptpVclockInUse phc interrupted =
      t.ptpVclockInUse phc interrupted := by
    simp only [PhcTable.krefPut, PhcTable.ptpVclockInUse, modify_self, Option.any_map]
  unfold PhcTable.mockPhcDestroy PhcTable.ptpClockUnregister
  rw [inUse]
  simp [PhcTable.krefPut, PhcTable.modify]

/-- The destruction of a PHC with one reference. -/
theorem discard (h : Sound t (phc :: holders) []) (only : phc ∉ holders) (interrupted : Bool) :
    Sound (t.mockPhcDestroy phc interrupted) holders [] := by
  rw [← destroy_krefPut]
  exact (h.krefPut_last only).2.destroy List.not_mem_nil interrupted

/-- `mock_phc_release` drops one reference. -/
theorem release (h : Sound t (phc :: holders) []) (interrupted : Bool) :
    Sound (t.mockPhcRelease phc interrupted) holders [] := by
  unfold PhcTable.mockPhcRelease
  by_cases more : phc ∈ holders
  · obtain ⟨last, sound⟩ := h.krefPut more
    simp only [last, Bool.false_eq_true, if_false]
    exact sound
  · obtain ⟨last, sound⟩ := h.krefPut_last more
    simp only [last, if_true]
    exact sound.destroy List.not_mem_nil interrupted

/-- A change of the virtual clocks in the class. -/
theorem of_class (h : Sound t holders dying) {devs : List PtpClassDev} {nextPtr : Ptr}
    (mocks : ∀ p, .mock p ∈ devs ↔ .mock p ∈ t.ptpClass) (nodup : devs.Nodup)
    (later : t.nextPtr ≤ nextPtr) (vclocks : ∀ v p, .vclock v p ∈ devs → v < nextPtr) :
    Sound { t with ptpClass := devs, nextPtr } holders dying where
  counted := h.counted
  apart := h.apart
  listed p := (mocks p).trans (h.listed p)
  nodup := nodup
  mockOld p new := h.mockOld p (later.trans new)
  vclockOld := vclocks
  unique := h.unique

end Sound

/-! ## The lookup -/

theorem classFindDevice_snd (isMatch : PtpClassDev → Bool) (devs : List PtpClassDev) :
    (PhcTable.classFindDevice isMatch devs).2 = devs.find? isMatch := by
  induction devs with
  | nil => rfl
  | cons dev devs ih =>
    unfold PhcTable.classFindDevice
    split_ifs with matches'
    · rw [List.find?_cons_of_pos matches']
    · rw [List.find?_cons_of_neg matches']
      exact ih

section Lookup

variable {t : PhcTable} {holders dying : List Ptr} {phc : Ptr} {id : Int32}

/-- A mock PHC found carries the id looked for. -/
theorem Sound.found (h : Sound t holders dying)
    (found : (t.getPtpClockByLogicalClkId id).2 = some (.mock phc)) :
    ∃ o, t.phc phc = some o ∧ o.logicalClkId = id := by
  unfold PhcTable.getPtpClockByLogicalClkId at found
  rw [classFindDevice_snd] at found
  have listed := (h.listed phc).1 (List.mem_of_find?_eq_some found)
  obtain ⟨o, live⟩ := Option.isSome_iff_exists.1 listed
  have same := List.find?_some found
  simp only [PhcTable.ptpMatchLogicalClkId, PhcTable.mockPhcLogicalClkId, live,
    decide_eq_true_eq] at same
  exact ⟨o, live, same⟩

/-- When nothing is found no PHC carries the id looked for. -/
theorem Sound.not_found (h : Sound t holders dying)
    (found : (t.getPtpClockByLogicalClkId id).2 = none) {o : PhcObject}
    (live : t.phc phc = some o) : o.logicalClkId ≠ id := by
  unfold PhcTable.getPtpClockByLogicalClkId at found
  rw [classFindDevice_snd, List.find?_eq_none] at found
  have listed : .mock phc ∈ t.ptpClass := (h.listed phc).2 (by rw [live]; rfl)
  have other := found _ listed
  simpa only [PhcTable.ptpMatchLogicalClkId, PhcTable.mockPhcLogicalClkId, live,
    decide_eq_true_eq] using other

end Lookup

/-! ## What becomes of the PHCs -/

/-- Every PHC of `t'` is one of `t`, or has a logical id and a parent that a new one may have. -/
def From (new : Int32 → Ptr → Prop) (t t' : PhcTable) : Prop :=
  ∀ p o', t'.phc p = some o' →
    (∃ o, t.phc p = some o ∧ o'.logicalClkId = o.logicalClkId ∧ o'.parent = o.parent) ∨
      new o'.logicalClkId o'.parent

section From

variable {new : Int32 → Ptr → Prop} {t t₁ t₂ : PhcTable} {phc : Ptr}

theorem From.refl (new : Int32 → Ptr → Prop) (t : PhcTable) : From new t t :=
  fun _ o' found => .inl ⟨o', found, rfl, rfl⟩

theorem From.trans (first : From new t t₁) (last : From new t₁ t₂) : From new t t₂ := by
  intro p o'' found
  obtain ⟨o', before, id', parent'⟩ | isNew := last p o'' found
  · obtain ⟨o, start, id, parent⟩ | isNew := first p o' before
    · exact .inl ⟨o, start, id'.trans id, parent'.trans parent⟩
    · exact .inr (by rwa [id', parent'])
  · exact .inr isNew

theorem From.mono (h : From (fun _ _ => False) t t₁) : From new t t₁ :=
  fun p o' found => (h p o' found).imp_right False.elim

theorem from_modify {f : PhcObject → PhcObject}
    (ids : ∀ o, (f o).logicalClkId = o.logicalClkId ∧ (f o).parent = o.parent) :
    From new t (t.modify phc f) := by
  intro p o' found
  obtain ⟨o, before, rfl | rfl⟩ := Sound.exists_of_modify found
  · exact .inl ⟨o', before, rfl, rfl⟩
  · exact .inl ⟨o, before, ids o⟩

theorem from_krefGet : From new t (t.krefGet phc) := from_modify fun _ => ⟨rfl, rfl⟩

theorem from_register {parent : Ptr} {id : Int32} (isNew : new id parent) :
    From new t (t.register parent id) := by
  intro p o' found
  by_cases here : p = t.nextPtr
  · subst here
    have made : some ⟨id, 1, parent, 0⟩ = some o' := by simpa [PhcTable.register] using found
    obtain rfl := Option.some.inj made
    exact .inr isNew
  · exact .inl ⟨o', by simpa [PhcTable.register, here] using found, rfl, rfl⟩

theorem from_destroy (interrupted : Bool) : From new t (t.mockPhcDestroy phc interrupted) := by
  intro p o' found
  by_cases here : p = phc
  · subst here
    simp [PhcTable.mockPhcDestroy] at found
  · exact .inl ⟨o', by simpa [PhcTable.mockPhcDestroy, here] using found, rfl, rfl⟩

theorem from_krefPut : From new t (t.krefPut phc).1 := from_modify fun _ => ⟨rfl, rfl⟩

theorem from_release (interrupted : Bool) : From new t (t.mockPhcRelease phc interrupted) := by
  unfold PhcTable.mockPhcRelease
  dsimp only
  split_ifs
  · exact from_krefPut.trans (from_destroy interrupted)
  · exact from_krefPut

/-- Without new PHCs there are no new logical ids. -/
theorem From.absent (phcs : From (fun _ _ => False) t t₁) {id : Int32}
    (absent : ∀ p o, t.phc p = some o → o.logicalClkId ≠ id) {p : Ptr} {o : PhcObject}
    (found : t₁.phc p = some o) : o.logicalClkId ≠ id := by
  obtain ⟨o', before, same, -⟩ | new := phcs p o found
  · rw [same]
    exact absent p o' before
  · exact new.elim

end From

/-! ## Virtual clocks -/

section Vclocks

variable {t : PhcTable} {holders dying : List Ptr} {phc : Ptr}

theorem Sound.ptpVclockRegister (h : Sound t holders dying) :
    Sound (t.ptpVclockRegister phc) holders dying := by
  refine h.of_class (fun p => ?_) ?_ (Nat.le_succ _) fun v p mem => ?_
  · simp
  · have unlisted : .vclock t.nextPtr phc ∉ t.ptpClass := fun mem =>
      (h.vclockOld _ _ mem).false
    have appended := h.nodup.concat unlisted
    rwa [List.concat_eq_append] at appended
  · rcases List.mem_append.1 mem with before | this
    · exact (h.vclockOld v p before).trans (Nat.lt_succ_self _)
    · obtain ⟨rfl, rfl⟩ : v = t.nextPtr ∧ p = phc := by simpa using this
      exact Nat.lt_succ_self _

/-- Registering virtual clocks leaves the PHCs alone. -/
theorem Sound.registerVclocks (h : Sound t holders dying) (phc : Ptr) (n : ℕ) (attempts : List Bool) :
    Sound (t.registerVclocks phc n attempts).1 holders dying ∧
      (t.registerVclocks phc n attempts).1.phc = t.phc ∧
      t.nextPtr ≤ (t.registerVclocks phc n attempts).1.nextPtr := by
  induction n generalizing t attempts with
  | zero => exact ⟨h, rfl, le_rfl⟩
  | succ n ih =>
    rcases attempts with _ | ⟨_ | _, attempts⟩
    · exact ⟨h, rfl, le_rfl⟩
    · exact ⟨h, rfl, le_rfl⟩
    · obtain ⟨sound, same, next⟩ := ih h.ptpVclockRegister attempts
      exact ⟨sound, same, (Nat.le_succ _).trans next⟩

theorem unregisterVclocks_sublist (phc : Ptr) (n : ℕ) (devs : List PtpClassDev) :
    (PhcTable.unregisterVclocks phc n devs).Sublist devs := by
  induction devs generalizing n with
  | nil => cases n <;> exact List.Sublist.refl _
  | cons dev devs ih =>
    cases n with
    | zero => exact List.Sublist.refl _
    | succ n =>
      unfold PhcTable.unregisterVclocks
      split_ifs
      · exact (ih n).trans (List.sublist_cons_self _ _)
      · exact (ih (n + 1)).cons_cons dev

theorem mock_mem_unregisterVclocks {p : Ptr} {n : ℕ} {devs : List PtpClassDev}
    (mem : .mock p ∈ devs) : .mock p ∈ PhcTable.unregisterVclocks phc n devs := by
  induction devs generalizing n with
  | nil => cases mem
  | cons dev devs ih =>
    cases n with
    | zero => exact mem
    | succ n =>
      unfold PhcTable.unregisterVclocks
      split_ifs with mine
      · rcases List.mem_cons.1 mem with rfl | mem
        · cases mine
        · exact ih mem
      · rcases List.mem_cons.1 mem with rfl | mem
        · exact List.mem_cons_self
        · exact List.mem_cons_of_mem _ (ih mem)

/-- Removing virtual clocks leaves the PHCs in the class. -/
theorem Sound.unregisterVclocks (h : Sound t holders dying) (num : UInt32) (n : ℕ) :
    let left := (PhcTable.unregisterVclocks phc n t.ptpClass.reverse).reverse
    let t' := { t with ptpClass := left }.modify phc fun o => { o with nVclocks := num }
    Sound t' holders dying ∧ From (fun _ _ => False) t t' ∧ t.nextPtr ≤ t'.nextPtr := by
  intro left t'
  have sub : left.Sublist t.ptpClass := by
    have kept := (unregisterVclocks_sublist phc n t.ptpClass.reverse).reverse
    rwa [List.reverse_reverse] at kept
  have sound : Sound { t with ptpClass := left } holders dying := by
    refine h.of_class (fun p => ⟨fun mem => sub.mem mem, fun mem => ?_⟩) (h.nodup.sublist sub) le_rfl
      fun v p mem => h.vclockOld v p (sub.mem mem)
    exact List.mem_reverse.2 (mock_mem_unregisterVclocks (List.mem_reverse.2 mem))
  have phcs : From (fun _ _ => False) t { t with ptpClass := left } :=
    fun _ o' found => .inl ⟨o', found, rfl, rfl⟩
  exact ⟨sound.setVclocks num, phcs.trans (from_modify fun _ => ⟨rfl, rfl⟩), le_rfl⟩

/-- Writing `n_vclocks` keeps the table sound, and the PHCs with their ids and parents. -/
theorem Sound.nVclocksStore (h : Sound t holders dying) (phc : Ptr) (interrupted : Bool) (buf : Bytes)
    (attempts : List Bool) :
    let t' := (t.nVclocksStore phc interrupted buf attempts).1
    Sound t' holders dying ∧ From (fun _ _ => False) t t' ∧ t.nextPtr ≤ t'.nextPtr := by
  have unchanged : Sound t holders dying ∧ From (fun _ _ => False) t t ∧ t.nextPtr ≤ t.nextPtr :=
    ⟨h, .refl _ t, le_rfl⟩
  unfold PhcTable.nVclocksStore
  cases kstrtouint buf 0 with
  | error e => exact unchanged
  | ok num =>
    cases found : t.phc phc with
    | none => exact unchanged
    | some o =>
      dsimp only
      split_ifs with _ _ more done
      · exact unchanged
      · exact unchanged
      · obtain ⟨sound, same, next⟩ := h.registerVclocks phc (num - o.nVclocks).toNat attempts
        have kept : From (fun _ _ => False) t
            (t.registerVclocks phc (num - o.nVclocks).toNat attempts).1 := by
          intro p o' live
          rw [same] at live
          exact .inl ⟨o', live, rfl, rfl⟩
        exact ⟨sound.setVclocks num, kept.trans (from_modify fun _ => ⟨rfl, rfl⟩), next⟩
      · obtain ⟨sound, same, next⟩ := h.registerVclocks phc (num - o.nVclocks).toNat attempts
        refine ⟨sound, fun p o' live => ?_, next⟩
        rw [same] at live
        exact .inl ⟨o', live, rfl, rfl⟩
      · exact h.unregisterVclocks num (o.nVclocks - num).toNat

end Vclocks

end Netdevsim.Phc
