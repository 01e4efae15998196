import Netdevsim.Dpll.PinFrame

/-!
# Arrays of references

A device refers to its pins and a pin to its devices and its parents, by arrays in which every
reference is at the index of its target (`Keyed`).  Such an array is a table from targets to
registrations (`contents`), which `dpll_xa_ref_*_add` and `dpll_xa_ref_*_del` change at one target.
-/

namespace Netdevsim

open Program

/-! ## Tables of registrations -/

/-- What a reference says of its target. -/
structure Registrations where
  registrationList : List DpllPinRegistration
  refcount : ℕ
  deriving DecidableEq, Repr

def DpllPinRef.registrations (ref : DpllPinRef) : Registrations :=
  ⟨ref.registrationList, ref.refcount⟩

/-- One more registration, known or not, of a target that may have none yet. -/
def Registrations.add (reg : DpllPinRegistration) : Option Registrations → Registrations
  | none => ⟨[reg], 1⟩
  | some r =>
    if reg ∈ r.registrationList then ⟨r.registrationList, r.refcount + 1⟩
    else ⟨r.registrationList ++ [reg], r.refcount + 1⟩

/-- One registration less, if it is known. -/
def Registrations.drop (reg : DpllPinRegistration) (r : Registrations) : Option Registrations :=
  if reg ∈ r.registrationList then
    if r.refcount = 1 then none else some ⟨r.registrationList.erase reg, r.refcount - 1⟩
  else some r

theorem Registrations.drop_of_mem {reg : DpllPinRegistration} {r : Registrations}
    (known : reg ∈ r.registrationList) : Registrations.drop reg r =
      if r.refcount = 1 then none
      else some ⟨r.registrationList.erase reg, r.refcount - 1⟩ := if_pos known

theorem Registrations.drop_of_not_mem {reg : DpllPinRegistration} {r : Registrations}
    (unknown : reg ∉ r.registrationList) : Registrations.drop reg r = some r := if_neg unknown

/-- The registrations of a target. -/
def contents (xa : XArray DpllPinRef) (target : Ptr) : Option Registrations :=
  (xa.entries.find? (·.value.target = target)).map fun e => e.value.registrations

/-- Whether a registration of the target is known. -/
def Known (xa : XArray DpllPinRef) (target : Ptr) (reg : DpllPinRegistration) : Prop :=
  ∃ r, contents xa target = some r ∧ reg ∈ r.registrationList

/-- The array after a registration of the target was added. -/
def addRef (xa : XArray DpllPinRef) (target : Ptr) (index : ℕ) (reg : DpllPinRegistration) :
    XArray DpllPinRef :=
  match xa.entries.find? (·.value.target = target) with
  | some e => xa.update e.index fun ref =>
      ⟨ref.target, (Registrations.add reg (some ref.registrations)).registrationList,
        ref.refcount + 1⟩
  | none => xa.store index ⟨target, [reg], 1⟩

/-- Every reference is at the index of its target and counts something. -/
def Keyed (key : Ptr → Option ℕ) (xa : XArray DpllPinRef) : Prop :=
  ∀ e ∈ xa.entries, key e.value.target = some e.index ∧ 0 < e.value.refcount

/-- Nothing else is at the index of a target without a reference. -/
def Free (xa : XArray DpllPinRef) (target : Ptr) (index : ℕ) : Prop :=
  contents xa target = none → ∀ e ∈ xa.entries, e.index ≠ index

section Keyed

variable {key : Ptr → Option ℕ} {xa : XArray DpllPinRef} {e e' : XEntry DpllPinRef}
  {target other : Ptr} {index : ℕ} {reg : DpllPinRegistration} {r : Registrations}

theorem keyed_empty : Keyed key XArray.empty := fun _ mem => absurd mem List.not_mem_nil

theorem Keyed.mono {key' : Ptr → Option ℕ} (keyed : Keyed key xa)
    (more : ∀ e ∈ xa.entries, ∀ i, key e.value.target = some i → key' e.value.target = some i) :
    Keyed key' xa :=
  fun e mem => ⟨more e mem e.index (keyed e mem).1, (keyed e mem).2⟩

theorem Keyed.ext (keyed : Keyed key xa) (mem : e ∈ xa.entries) (mem' : e' ∈ xa.entries)
    (same : e.value.target = e'.value.target) : e = e' := by
  refine XArray.ext_index mem mem' (Option.some.inj ?_)
  rw [← (keyed e mem).1, ← (keyed e' mem').1, same]

theorem Keyed.find (keyed : Keyed key xa) (mem : e ∈ xa.entries) :
    xa.entries.find? (·.value.target = e.value.target) = some e := by
  cases found : xa.entries.find? (·.value.target = e.value.target) with
  | none => exact absurd (by simp) (List.find?_eq_none.1 found e mem)
  | some e' =>
    have same : e'.value.target = e.value.target := by simpa using List.find?_some found
    rw [keyed.ext (List.mem_of_find?_eq_some found) mem same]

theorem find_eq_some (found : xa.entries.find? (·.value.target = target) = some e) :
    e ∈ xa.entries ∧ e.value.target = target :=
  ⟨List.mem_of_find?_eq_some found, by simpa using List.find?_some found⟩

theorem contents_eq_none_iff : contents xa target = none ↔
    ∀ e ∈ xa.entries, e.value.target ≠ target := by
  simp [contents]

theorem contents_of_find (found : xa.entries.find? (·.value.target = target) = some e) :
    contents xa target = some e.value.registrations := by
  rw [contents, found, Option.map_some]

theorem Keyed.contents_eq_some_iff (keyed : Keyed key xa) : contents xa target = some r ↔
    ∃ e ∈ xa.entries, e.value = ⟨target, r.registrationList, r.refcount⟩ := by
  constructor
  · intro some
    obtain ⟨e, found, rfl⟩ := Option.map_eq_some_iff.1 some
    obtain ⟨mem, rfl⟩ := find_eq_some found
    exact ⟨e, mem, rfl⟩
  · rintro ⟨e, mem, value⟩
    have found := keyed.find mem
    rw [value] at found
    rw [contents_of_find found, value]
    rfl

theorem Keyed.contents_of_mem (keyed : Keyed key xa) (mem : e ∈ xa.entries) :
    contents xa e.value.target = some e.value.registrations :=
  contents_of_find (keyed.find mem)

theorem isEmpty_iff_contents : xa.isEmpty ↔ ∀ target, contents xa target = none := by
  rw [XArray.isEmpty_iff]
  constructor
  · exact fun none target => contents_eq_none_iff.2 fun e mem => absurd mem (none e)
  · exact fun none e mem => contents_eq_none_iff.1 (none _) e mem rfl

/-- The key of a target that the array refers to. -/
theorem Keyed.key_of_contents (keyed : Keyed key xa) (some : contents xa target = some r) :
    ∃ index, key target = Option.some index := by
  obtain ⟨e, mem, value⟩ := keyed.contents_eq_some_iff.1 some
  have at' := (keyed e mem).1
  rw [value] at at'
  exact ⟨_, at'⟩

theorem Keyed.contents_of_no_key (keyed : Keyed key xa) (noKey : key target = none) :
    contents xa target = none := by
  cases here : contents xa target with
  | none => rfl
  | some r =>
    obtain ⟨index, at'⟩ := keyed.key_of_contents here
    rw [noKey] at at'
    cases at'

theorem Keyed.pos (keyed : Keyed key xa) (some : contents xa target = some r) : 0 < r.refcount := by
  obtain ⟨e, mem, value⟩ := keyed.contents_eq_some_iff.1 some
  have pos := (keyed e mem).2
  rwa [value] at pos

/-! ## Changing one entry -/

theorem keyed_update {f : DpllPinRef → DpllPinRef} (keyed : Keyed key xa) (mem : e ∈ xa.entries)
    (target : (f e.value).target = e.value.target) (pos : 0 < (f e.value).refcount) :
    Keyed key (xa.update e.index f) := by
  intro e' mem'
  obtain ⟨e'', old, rfl⟩ := XArray.mem_update.1 mem'
  split_ifs with here
  · obtain rfl := XArray.ext_index old mem here
    dsimp only
    rw [target]
    exact ⟨(keyed e'' old).1, pos⟩
  · exact keyed e'' old

theorem keyed_store {ref : DpllPinRef} (keyed : Keyed key xa) (at' : key ref.target = some index)
    (pos : 0 < ref.refcount) : Keyed key (xa.store index ref) := by
  intro e mem
  rcases XArray.mem_store.1 mem with rfl | ⟨old, -⟩
  · exact ⟨at', pos⟩
  · exact keyed e old

theorem keyed_erase (keyed : Keyed key xa) : Keyed key (xa.erase index) :=
  fun e mem => keyed e (XArray.mem_erase.1 mem).1

/-- Arrays that agree on all other targets have the same table but for one target. -/
theorem contents_eq_update {xa' : XArray DpllPinRef} (keyed : Keyed key xa) (keyed' : Keyed key xa')
    (others : ∀ e, e.value.target ≠ target → (e ∈ xa'.entries ↔ e ∈ xa.entries)) :
    contents xa' = Function.update (contents xa) target (contents xa' target) := by
  funext other
  by_cases same : other = target
  · subst same
    rw [Function.update_self]
  · rw [Function.update_of_ne same]
    refine Option.ext fun r => ?_
    rw [keyed.contents_eq_some_iff, keyed'.contents_eq_some_iff]
    refine exists_congr fun e => ?_
    constructor
    · exact fun ⟨mem, value⟩ => ⟨(others e (by rw [value]; exact same)).1 mem, value⟩
    · exact fun ⟨mem, value⟩ => ⟨(others e (by rw [value]; exact same)).2 mem, value⟩

theorem contents_update {f : DpllPinRef → DpllPinRef} (keyed : Keyed key xa) (mem : e ∈ xa.entries)
    (target : (f e.value).target = e.value.target) (pos : 0 < (f e.value).refcount) :
    contents (xa.update e.index f) =
      Function.update (contents xa) e.value.target (some (f e.value).registrations) := by
  have keyed' := keyed_update keyed mem target pos
  have changed : { e with value := f e.value } ∈ (xa.update e.index f).entries :=
    XArray.mem_update.2 ⟨e, mem, (if_pos rfl).symm⟩
  have here : contents (xa.update e.index f) e.value.target = some (f e.value).registrations := by
    have := keyed'.contents_of_mem changed
    rwa [target] at this
  rw [← here]
  refine contents_eq_update keyed keyed' fun e' away => ?_
  rw [XArray.mem_update]
  constructor
  · rintro ⟨e'', old, rfl⟩
    split_ifs at away ⊢ with at'
    · rw [XArray.ext_index old mem at'] at away
      exact absurd target away
    · exact old
  · intro old
    refine ⟨e', old, (if_neg fun at' => ?_).symm⟩
    rw [XArray.ext_index old mem at'] at away
    exact away rfl

theorem contents_store {ref : DpllPinRef} (keyed : Keyed key xa)
    (at' : key ref.target = some index) (free : ∀ e ∈ xa.entries, e.index ≠ index)
    (pos : 0 < ref.refcount) : contents (xa.store index ref) =
      Function.update (contents xa) ref.target (some ref.registrations) := by
  have keyed' := keyed_store keyed at' pos
  have here := keyed'.contents_of_mem (XArray.mem_store.2 (.inl rfl))
  rw [← here]
  refine contents_eq_update keyed keyed' fun e away => ?_
  rw [XArray.mem_store]
  constructor
  · rintro (rfl | ⟨old, -⟩)
    · exact absurd rfl away
    · exact old
  · exact fun old => .inr ⟨old, free e old⟩

theorem contents_erase (keyed : Keyed key xa) (mem : e ∈ xa.entries) :
    contents (xa.erase e.index) = Function.update (contents xa) e.value.target none := by
  have keyed' : Keyed key (xa.erase e.index) := keyed_erase keyed
  have here : contents (xa.erase e.index) e.value.target = none := by
    refine contents_eq_none_iff.2 fun e' mem' same => ?_
    obtain ⟨old, away⟩ := XArray.mem_erase.1 mem'
    exact away (congrArg XEntry.index (keyed.ext old mem same))
  rw [← here]
  refine contents_eq_update keyed keyed' fun e' away => ?_
  rw [XArray.mem_erase]
  constructor
  · exact And.left
  · refine fun old => ⟨old, fun at' => ?_⟩
    rw [XArray.ext_index old mem at'] at away
    exact away rfl

/-! ## Adding and deleting registrations -/

theorem keyed_addRef (keyed : Keyed key xa) (at' : key target = some index)
    (reg : DpllPinRegistration) :
    Keyed key (addRef xa target index reg) := by
  unfold addRef
  split
  · rename_i e found
    exact keyed_update keyed (find_eq_some found).1 rfl (Nat.succ_pos _)
  · exact keyed_store keyed at' Nat.one_pos

theorem keyed_dpllXaRefDel (keyed : Keyed key xa) (target : Ptr) (reg : DpllPinRegistration) :
    Keyed key (dpllXaRefDel xa target reg) := by
  unfold dpllXaRefDel
  split
  · rename_i e found
    obtain ⟨mem, rfl⟩ := find_eq_some found
    have pos := (keyed e mem).2
    split_ifs
    · exact keyed_erase keyed
    · exact keyed_update keyed mem rfl (by dsimp only; omega)
    · exact keyed
  · exact keyed

theorem contents_addRef (keyed : Keyed key xa) (at' : key target = some index)
    (free : Free xa target index) (reg : DpllPinRegistration) :
    contents (addRef xa target index reg) =
      Function.update (contents xa) target (some (.add reg (contents xa target))) := by
  unfold addRef
  split
  · rename_i e found
    obtain ⟨mem, rfl⟩ := find_eq_some found
    rw [contents_update keyed mem rfl (Nat.succ_pos _), contents_of_find found]
    congr 2
    unfold Registrations.add DpllPinRef.registrations
    dsimp only
    split_ifs <;> rfl
  · rename_i missing
    have none : contents xa target = none := by rw [contents, missing, Option.map_none]
    rw [contents_store keyed at' (free none) Nat.one_pos, none]
    rfl

theorem isEmpty_addRef (keyed : Keyed key xa) (at' : key target = some index)
    (free : Free xa target index) (reg : DpllPinRegistration) :
    (addRef xa target index reg).isEmpty = false := by
  rw [Bool.eq_false_iff, Ne, isEmpty_iff_contents]
  intro none
  have here := none target
  rw [contents_addRef keyed at' free, Function.update_self] at here
  cases here

theorem dpllXaRefDel_of_mem (keyed : Keyed key xa) (mem : e ∈ xa.entries)
    (reg : DpllPinRegistration) (known : reg ∈ e.value.registrationList) :
    dpllXaRefDel xa e.value.target reg =
      if e.value.refcount = 1 then xa.erase e.index
      else xa.update e.index fun ref =>
        ⟨ref.target, ref.registrationList.erase reg, ref.refcount - 1⟩ := by
  unfold dpllXaRefDel
  rw [keyed.find mem]
  dsimp only
  rw [if_pos (show dpllPinRegistrationFind e.value reg = true from decide_eq_true known)]

theorem dpllXaRefDel_of_not_known (unknown : ¬Known xa target reg) :
    dpllXaRefDel xa target reg = xa := by
  unfold dpllXaRefDel
  split
  · rename_i e found
    exact if_neg fun known => unknown ⟨_, contents_of_find found, of_decide_eq_true known⟩
  · rfl

theorem contents_dpllXaRefDel (keyed : Keyed key xa) (target : Ptr) (reg : DpllPinRegistration) :
    contents (dpllXaRefDel xa target reg) =
      Function.update (contents xa) target
        ((contents xa target).bind (Registrations.drop reg)) := by
  by_cases known : Known xa target reg
  · obtain ⟨r, here, known⟩ := known
    obtain ⟨e, found, rfl⟩ := Option.map_eq_some_iff.1 here
    obtain ⟨mem, rfl⟩ := find_eq_some found
    have drop : Registrations.drop reg e.value.registrations =
        if e.value.refcount = 1 then none
        else some ⟨e.value.registrationList.erase reg, e.value.refcount - 1⟩ :=
      Registrations.drop_of_mem known
    rw [dpllXaRefDel_of_mem keyed mem reg known, here, Option.bind_some, drop]
    by_cases last : e.value.refcount = 1
    · rw [if_pos last, if_pos last]
      exact contents_erase keyed mem
    · have pos := (keyed e mem).2
      rw [if_neg last, if_neg last]
      exact contents_update (f := fun ref =>
        ⟨ref.target, ref.registrationList.erase reg, ref.refcount - 1⟩) keyed mem rfl
        (by dsimp only; omega)
  · rw [dpllXaRefDel_of_not_known known]
    cases here : contents xa target with
    | none => rw [Option.bind_none, ← here, Function.update_eq_self]
    | some r =>
      have unknown : reg ∉ r.registrationList := fun mem => known ⟨r, here, mem⟩
      rw [Option.bind_some, Registrations.drop_of_not_mem unknown, ← here,
        Function.update_eq_self]

/-- Deleting a registration that was added, and was not known before, leaves the array as it
was. -/
theorem dpllXaRefDel_addRef (keyed : Keyed key xa) (at' : key target = some index)
    (free : Free xa target index) (new : ¬Known xa target reg) :
    dpllXaRefDel (addRef xa target index reg) target reg = xa := by
  have added := keyed_addRef keyed at' reg
  unfold addRef at added ⊢
  cases found : xa.entries.find? (·.value.target = target) with
  | some e =>
    obtain ⟨mem, rfl⟩ := find_eq_some found
    have unknown : reg ∉ e.value.registrationList := fun known =>
      new ⟨_, contents_of_find found, known⟩
    have pos := (keyed e mem).2
    rw [found] at added
    dsimp only at added ⊢
    have list : (Registrations.add reg (some e.value.registrations)).registrationList =
        e.value.registrationList ++ [reg] := by
      unfold Registrations.add
      exact congrArg Registrations.registrationList (if_neg unknown)
    have changed := dpllXaRefDel_of_mem added
      (XArray.mem_update.2 ⟨e, mem, (if_pos rfl).symm⟩) reg (by simp [list])
    dsimp only at changed
    rw [changed, if_neg (by omega), XArray.update_update]
    refine XArray.update_eq_self fun e' mem' here => ?_
    obtain rfl := XArray.ext_index mem' mem here
    rw [list, List.erase_append_right _ unknown]
    simp
  | none =>
    have none : contents xa target = none := by rw [contents, found, Option.map_none]
    rw [found] at added
    have stored := dpllXaRefDel_of_mem added (XArray.mem_store.2 (.inl rfl)) reg (by simp)
    exact stored.trans (XArray.erase_store (free none))

/-- Whether a registration of one target is known does not depend on another target. -/
theorem known_addRef_of_ne {reg' : DpllPinRegistration} (keyed : Keyed key xa)
    (at' : key target = some index) (free : Free xa target index) (away : other ≠ target) :
    Known (addRef xa target index reg) other reg' ↔ Known xa other reg' := by
  unfold Known
  rw [contents_addRef keyed at' free, Function.update_of_ne away]

theorem known_iff_mem (keyed : Keyed key xa) : Known xa target reg ↔
    ∃ e ∈ xa.entries, e.value.target = target ∧ reg ∈ e.value.registrationList := by
  constructor
  · rintro ⟨r, here, known⟩
    obtain ⟨e, found, rfl⟩ := Option.map_eq_some_iff.1 here
    obtain ⟨mem, same⟩ := find_eq_some found
    exact ⟨e, mem, same, known⟩
  · rintro ⟨e, mem, rfl, known⟩
    exact ⟨_, keyed.contents_of_mem mem, known⟩

theorem addRef_of_mem (keyed : Keyed key xa) (mem : e ∈ xa.entries) (index : ℕ)
    (reg : DpllPinRegistration) :
    addRef xa e.value.target index reg = xa.update e.index fun ref =>
      ⟨ref.target, (Registrations.add reg (some ref.registrations)).registrationList,
        ref.refcount + 1⟩ := by
  unfold addRef
  rw [keyed.find mem]

theorem addRef_of_none (none : contents xa target = none) (index : ℕ)
    (reg : DpllPinRegistration) :
    addRef xa target index reg = xa.store index ⟨target, [reg], 1⟩ := by
  unfold addRef
  rw [contents, Option.map_eq_none_iff] at none
  rw [none]

/-- A registration of one target can be deleted before one of another target is added. -/
theorem dpllXaRefDel_addRef_comm (keyed : Keyed key xa) (at' : key target = some index)
    (free : Free xa target index) (away : other ≠ target) :
    dpllXaRefDel (addRef xa target index reg) other reg =
      addRef (dpllXaRefDel xa other reg) target index reg := by
  by_cases known : Known xa other reg
  · obtain ⟨e, mem, rfl, listed⟩ := (known_iff_mem keyed).1 known
    have keyed' := keyed_dpllXaRefDel keyed e.value.target reg
    have same : contents (dpllXaRefDel xa e.value.target reg) target = contents xa target := by
      rw [contents_dpllXaRefDel keyed, Function.update_of_ne away.symm]
    have added := keyed_addRef keyed at' reg
    have deleted := dpllXaRefDel_of_mem keyed mem reg listed
    cases here : contents xa target with
    | none =>
      have apart : e.index ≠ index := free here e mem
      rw [addRef_of_none here] at added ⊢
      rw [addRef_of_none (same.trans here), deleted,
        dpllXaRefDel_of_mem added (XArray.mem_store.2 (.inr ⟨mem, apart⟩)) reg listed]
      split_ifs
      · exact XArray.erase_store_comm apart
      · exact XArray.update_store_comm apart
    | some r =>
      obtain ⟨e₂, found, -⟩ := Option.map_eq_some_iff.1 here
      obtain ⟨mem₂, rfl⟩ := find_eq_some found
      have apart : e₂.index ≠ e.index := fun index =>
        away (congrArg (·.value.target) (XArray.ext_index mem₂ mem index)).symm
      have kept : e₂ ∈ (dpllXaRefDel xa e.value.target reg).entries := by
        rw [deleted]
        split_ifs
        · exact XArray.mem_erase.2 ⟨mem₂, apart⟩
        · exact XArray.mem_update.2 ⟨e₂, mem₂, (if_neg apart).symm⟩
      rw [addRef_of_mem keyed mem₂] at added ⊢
      rw [addRef_of_mem keyed' kept, deleted, dpllXaRefDel_of_mem added
        (XArray.mem_update.2 ⟨e, mem, (if_neg apart.symm).symm⟩) reg listed]
      split_ifs
      · exact XArray.erase_update_comm
      · exact XArray.update_comm apart
  · rw [dpllXaRefDel_of_not_known known, dpllXaRefDel_of_not_known]
    exact fun after => known ((known_addRef_of_ne keyed at' free away).1 after)

end Keyed

/-! ## The operation -/

section Operation

variable {s : KernelState} {xa : XArray DpllPinRef} {target : Ptr} {index : ℕ}
  {reg : DpllPinRegistration}

/-- A registration is added, unless it is not known and something fails. -/
theorem wp_dpllXaRefAdd {Q : XArray DpllPinRef → KernelState → Prop}
    {E : Errno → KernelState → Prop}
    (ok : Free xa target index → ∀ faults, faults <:+ s.faults →
      Q (addRef xa target index reg) { s with faults })
    (error : ¬Known xa target reg → ∀ e faults, E e { s with faults }) :
    wp (dpllXaRefAdd xa target index reg) Q E s := by
  unfold dpllXaRefAdd
  cases found : xa.entries.find? (·.value.target = target) with
  | some e =>
    have here := contents_of_find found
    have free : Free xa target index := fun none => by
      rw [here] at none
      cases none
    unfold addRef at ok
    rw [found] at ok
    dsimp only at ok ⊢
    by_cases known : reg ∈ e.value.registrationList
    · rw [if_pos (show dpllPinRegistrationFind e.value reg = true from decide_eq_true known),
        wp_pure]
      have same := ok free s.faults (List.suffix_refl _)
      rw [XArray.update_congr (g := fun ref => { ref with refcount := ref.refcount + 1 })] at same
      · exact same
      · intro e' mem' at'
        rw [XArray.ext_index mem' (find_eq_some found).1 at']
        have add : Registrations.add reg (some e.value.registrations) =
            ⟨e.value.registrationList, e.value.refcount + 1⟩ := if_pos known
        rw [add]
    · rw [if_neg (show ¬dpllPinRegistrationFind e.value reg = true from
        fun found => known (of_decide_eq_true found)), wp_bind]
      have new : ¬Known xa target reg := by
        rintro ⟨r, some, mem⟩
        rw [here] at some
        cases some
        exact known mem
      refine wp_mayRunOut_suffix (fun faults suffix => ?_) fun faults => error new _ faults
      have same := ok free faults suffix
      rw [XArray.update_congr (g := fun ref => { ref with
        registrationList := ref.registrationList ++ [reg], refcount := ref.refcount + 1 })] at same
      · exact same
      · intro e' mem' at'
        rw [XArray.ext_index mem' (find_eq_some found).1 at']
        have add : Registrations.add reg (some e.value.registrations) =
            ⟨e.value.registrationList ++ [reg], e.value.refcount + 1⟩ := if_neg known
        rw [add]
  | none =>
    have none : contents xa target = none := by rw [contents, found, Option.map_none]
    have new : ¬Known xa target reg := by
      rintro ⟨r, some, -⟩
      rw [none] at some
      cases some
    unfold addRef at ok
    rw [found] at ok
    dsimp only at ok ⊢
    rw [wp_bind]
    refine wp_mayRunOut_suffix (fun faults₁ suffix₁ => ?_) fun faults => error new _ faults
    rw [wp_bind, wp_failIf]
    refine ⟨fun _ => error new _ faults₁, fun absent => ?_⟩
    have free : Free xa target index := by
      intro _ e mem at'
      refine absent (Option.isSome_iff_exists.2 ⟨e.value, ?_⟩)
      exact XArray.load_eq_some_iff.2 ⟨e, mem, at', rfl⟩
    rw [wp_bind]
    refine wp_mayRunOut_suffix (fun faults₂ suffix₂ => ?_) fun faults => error new _ faults
    rw [wp_bind]
    refine wp_mayRunOut_suffix (fun faults₃ suffix₃ => ?_) fun faults => error new _ faults
    exact ok free faults₃ (suffix₃.trans (suffix₂.trans suffix₁))

end Operation

end Netdevsim
