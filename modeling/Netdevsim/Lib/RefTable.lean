import Netdevsim.Lib.XArray

/-!
# Reference-counted tables

A table gives for each address the object there: its id, its key and how many references to it there
are.  Getting a key takes a reference to the object with the key, which is created if there is none;
putting an object drops a reference, and with the last one the object.  `RefTable.Sound T xa` says
that keys and ids are unique and that the array `xa` stores the address of each object under its id
and nothing else.
-/

/-- An object of a table. -/
structure Referenced (κ : Type) where
  id : ℕ
  key : κ
  refs : ℕ
  deriving DecidableEq

/-- The objects by address. -/
abbrev RefTable (κ : Type) := ℕ → Option (Referenced κ)

namespace RefTable

variable {κ : Type} {T U : RefTable κ} {xa : XArray ℕ} {p q i : ℕ} {o : Referenced κ} {key : κ}

/-- Every object is stored under its id, everything stored is an object, keys are unique and no
object is without references. -/
structure Sound (T : RefTable κ) (xa : XArray ℕ) : Prop where
  stored : ∀ p o, T p = some o → xa.load o.id = some p
  live : ∀ i p, xa.load i = some p → ∃ o, T p = some o ∧ o.id = i
  unique : ∀ p o q o', T p = some o → T q = some o' → o.key = o'.key → p = q
  counted : ∀ p o, T p = some o → 0 < o.refs

/-- What a get that returns `p` does to the table: there is one reference more to the object with
the key, which is the one there was if there was one. -/
structure Got (T U : RefTable κ) (key : κ) (p : ℕ) : Prop where
  live : ∃ o, U p = some o ∧ o.key = key ∧ o.refs = (T p).elim 1 fun before => before.refs + 1
  same : ∀ q o, T q = some o → o.key = key → q = p
  kept : ∀ o, T p = some o → ∃ o', U p = some o' ∧ o'.id = o.id ∧ o.key = key
  others : ∀ q, q ≠ p → U q = T q

/-- What a put of `p` does to the table: there is one reference less, and without references no
object. -/
structure Dropped (T U : RefTable κ) (p : ℕ) : Prop where
  here : ∃ o, T p = some o ∧ U p = if o.refs = 1 then none else some { o with refs := o.refs - 1 }
  others : ∀ q, q ≠ p → U q = T q

theorem sound_empty : Sound (fun _ => none : RefTable κ) .empty :=
  ⟨fun _ _ => nofun, fun _ _ => nofun, fun _ _ _ _ => nofun, fun _ _ => nofun⟩

namespace Sound

theorem live_of_mem (sound : Sound T xa) (mem : p ∈ xa.values) : ∃ o, T p = some o := by
  obtain ⟨i, at'⟩ := XArray.exists_load_of_mem_values mem
  obtain ⟨o, live, -⟩ := sound.live i p at'
  exact ⟨o, live⟩

theorem mem_of_live (sound : Sound T xa) (live : T p = some o) : p ∈ xa.values :=
  XArray.mem_values_of_load (sound.stored p o live)

/-- The number of references to an object changes. -/
theorem recount (sound : Sound T xa) (live : T p = some o) {n : ℕ} (positive : 0 < n) :
    Sound (Function.update T p (some { o with refs := n })) xa := by
  have back : ∀ q o', Function.update T p (some { o with refs := n }) q = some o' →
      ∃ o₀, T q = some o₀ ∧ o₀.id = o'.id ∧ o₀.key = o'.key := by
    intro q o' live'
    by_cases at' : q = p
    · subst at'
      rw [Function.update_self] at live'
      cases live'
      exact ⟨o, live, rfl, rfl⟩
    · rw [Function.update_of_ne at'] at live'
      exact ⟨o', live', rfl, rfl⟩
  refine ⟨fun q o' live' => ?_, fun i q at' => ?_, fun q o' r o'' live' live'' same => ?_,
    fun q o' live' => ?_⟩
  · obtain ⟨o₀, live₀, id, -⟩ := back q o' live'
    rw [← id]
    exact sound.stored q o₀ live₀
  · obtain ⟨o₀, live₀, id⟩ := sound.live i q at'
    by_cases here : q = p
    · subst here
      rw [live] at live₀
      cases live₀
      exact ⟨_, Function.update_self .., id⟩
    · exact ⟨o₀, by rw [Function.update_of_ne here, live₀], id⟩
  · obtain ⟨o₁, live₁, -, key₁⟩ := back q o' live'
    obtain ⟨o₂, live₂, -, key₂⟩ := back r o'' live''
    exact sound.unique q o₁ r o₂ live₁ live₂ (key₁.trans (same.trans key₂.symm))
  · by_cases here : q = p
    · subst here
      rw [Function.update_self] at live'
      cases live'
      exact positive
    · rw [Function.update_of_ne here] at live'
      exact sound.counted q o' live'

/-- An object with a key that no object has is stored under a free id. -/
theorem create (sound : Sound T xa) (unused : T p = none) (new : ∀ q o, T q = some o → o.key ≠ key)
    (free : ∀ e ∈ xa.entries, e.index ≠ i) :
    Sound (Function.update T p (some ⟨i, key, 1⟩)) (xa.store i p) := by
  have empty : xa.load i = none := by
    rw [Option.eq_none_iff_forall_ne_some]
    intro v here
    obtain ⟨e, mem, index, -⟩ := XArray.load_eq_some_iff.1 here
    exact free e mem index
  have apart : ∀ q o', T q = some o' → q ≠ p ∧ o'.id ≠ i := fun q o' live => by
    constructor
    · rintro rfl
      rw [unused] at live
      cases live
    · intro id
      have at' := sound.stored q o' live
      rw [id, empty] at at'
      cases at'
  refine ⟨fun q o' live => ?_, fun j q at' => ?_, fun q o' r o'' live live' same => ?_,
    fun q o' live => ?_⟩
  · by_cases here : q = p
    · subst here
      rw [Function.update_self] at live
      cases live
      exact XArray.load_store_self
    · rw [Function.update_of_ne here] at live
      rw [XArray.load_store_of_ne (apart q o' live).2]
      exact sound.stored q o' live
  · by_cases here : j = i
    · subst here
      rw [XArray.load_store_self] at at'
      cases at'
      exact ⟨_, Function.update_self .., rfl⟩
    · rw [XArray.load_store_of_ne here] at at'
      obtain ⟨o', live, id⟩ := sound.live j q at'
      exact ⟨o', by rw [Function.update_of_ne (apart q o' live).1, live], id⟩
  · by_cases here : q = p <;> by_cases there : r = p
    · rw [here, there]
    · subst here
      rw [Function.update_self] at live
      rw [Function.update_of_ne there] at live'
      cases live
      exact absurd same.symm (new r o'' live')
    · subst there
      rw [Function.update_self] at live'
      rw [Function.update_of_ne here] at live
      cases live'
      exact absurd same (new q o' live)
    · rw [Function.update_of_ne here] at live
      rw [Function.update_of_ne there] at live'
      exact sound.unique q o' r o'' live live' same
  · by_cases here : q = p
    · subst here
      rw [Function.update_self] at live
      cases live
      exact Nat.one_pos
    · rw [Function.update_of_ne here] at live
      exact sound.counted q o' live

/-- An object goes together with its entry. -/
theorem destroy (sound : Sound T xa) (live : T p = some o) :
    Sound (Function.update T p none) (xa.erase o.id) := by
  have back : ∀ q o', Function.update T p none q = some o' → q ≠ p ∧ T q = some o' := by
    intro q o' live'
    by_cases here : q = p
    · subst here
      rw [Function.update_self] at live'
      cases live'
    · exact ⟨here, by rwa [Function.update_of_ne here] at live'⟩
  refine ⟨fun q o' live' => ?_, fun i q at' => ?_, fun q o' r o'' live' live'' => ?_,
    fun q o' live' => sound.counted q o' (back q o' live').2⟩
  · obtain ⟨apart, live'⟩ := back q o' live'
    have away : o'.id ≠ o.id := by
      intro same
      have here := sound.stored q o' live'
      rw [same, sound.stored p o live] at here
      exact apart (Option.some.inj here).symm
    rw [XArray.load_erase_of_ne away]
    exact sound.stored q o' live'
  · have away : i ≠ o.id := by
      rintro rfl
      rw [XArray.load_erase_self] at at'
      cases at'
    rw [XArray.load_erase_of_ne away] at at'
    obtain ⟨o', live', id⟩ := sound.live i q at'
    have apart : q ≠ p := by
      rintro rfl
      rw [live] at live'
      cases live'
      exact away id.symm
    exact ⟨o', by rw [Function.update_of_ne apart, live'], id⟩
  · exact sound.unique q o' r o'' (back q o' live').2 (back r o'' live'').2

end Sound

/-! ## The operations -/

theorem got_old (sound : Sound T xa) (live : T p = some o) :
    Got T (Function.update T p (some { o with refs := o.refs + 1 })) o.key p where
  live := ⟨_, Function.update_self .., rfl, by rw [live]; rfl⟩
  same q o' live' same := sound.unique q o' p o live' live same
  kept o' live' := by
    rw [live] at live'
    cases live'
    exact ⟨_, Function.update_self .., rfl, rfl⟩
  others _ away := Function.update_of_ne away ..

theorem got_new (unused : T p = none) (new : ∀ q o, T q = some o → o.key ≠ key) :
    Got T (Function.update T p (some ⟨i, key, 1⟩)) key p where
  live := ⟨_, Function.update_self .., rfl, by rw [unused]; rfl⟩
  same q o' live' same := absurd same (new q o' live')
  kept o' live' := by
    rw [unused] at live'
    cases live'
  others _ away := Function.update_of_ne away ..

/-- The table and its array after a put. -/
theorem Sound.drop (sound : Sound T xa) (live : T p = some o) :
    Sound (Function.update T p (if o.refs = 1 then none else some { o with refs := o.refs - 1 }))
      (if o.refs = 1 then xa.erase o.id else xa) := by
  have positive := sound.counted p o live
  split_ifs with last
  · exact sound.destroy live
  · exact sound.recount live (by omega)

theorem dropped (live : T p = some o) : Dropped T
    (Function.update T p (if o.refs = 1 then none else some { o with refs := o.refs - 1 })) p where
  here := ⟨o, live, Function.update_self ..⟩
  others _ away := Function.update_of_ne away ..

end RefTable
