import Mathlib.Tactic

/-!
# The first match in a list

Code that walks a list until it finds an entry works on the first match.  In a list whose entries
have different keys, where an entry matches if and only if it has a given key, the first match is
the only one: changing it is a map, removing it is a filter, and what is found under a key is a
function that changes at this key.
-/

namespace FirstMatch

variable {α κ : Type*}

/-- The first match changes. -/
def modifyFirst (p : α → Bool) (f : α → α) : List α → List α
  | [] => []
  | a :: l => if p a then f a :: l else a :: modifyFirst p f l

variable [DecidableEq κ] {key : α → κ} {k : κ} {p : α → Bool} {f : α → α} {l : List α} {a : α}

/-- What is found under a key. -/
def entry (key : α → κ) (l : List α) (k : κ) : Option α := l.find? fun a => key a = k

theorem entry_eq_some_iff (nodup : (l.map key).Nodup) :
    entry key l k = some a ↔ a ∈ l ∧ key a = k := by
  constructor
  · intro found
    exact ⟨List.mem_of_find?_eq_some found, by simpa using List.find?_some found⟩
  · rintro ⟨mem, rfl⟩
    cases found : entry key l (key a) with
    | none =>
      have missing := List.find?_eq_none.1 found a mem
      simp at missing
    | some b =>
      have there : b ∈ l := List.mem_of_find?_eq_some found
      have same : key b = key a := by simpa using List.find?_some found
      rw [List.inj_on_of_nodup_map nodup there mem same]

theorem entry_eq_none_iff : entry key l k = none ↔ ∀ a ∈ l, key a ≠ k := by
  unfold entry
  rw [List.find?_eq_none]
  simp

/-- The entries that match are those with the key. -/
theorem find?_eq_entry (iff : ∀ a ∈ l, p a = true ↔ key a = k) : l.find? p = entry key l k := by
  unfold entry
  induction l with
  | nil => rfl
  | cons b l ih =>
    have here := iff b List.mem_cons_self
    have tail := ih fun a mem => iff a (List.mem_cons_of_mem _ mem)
    rw [List.find?_cons, List.find?_cons, tail]
    have same : p b = decide (key b = k) := by
      rw [Bool.eq_iff_iff, here]
      simp
    rw [same]

/-- Changing the first match changes all entries with the key. -/
theorem modifyFirst_eq_map (nodup : (l.map key).Nodup) (iff : ∀ a ∈ l, p a = true ↔ key a = k) :
    modifyFirst p f l = l.map fun a => if key a = k then f a else a := by
  induction l with
  | nil => rfl
  | cons b l ih =>
    have here := iff b List.mem_cons_self
    rw [List.map_cons, List.nodup_cons] at nodup
    have tail := ih nodup.2 fun a mem => iff a (List.mem_cons_of_mem _ mem)
    unfold modifyFirst
    rw [List.map_cons]
    by_cases hit : key b = k
    · rw [if_pos (here.2 hit), if_pos hit]
      have rest : ∀ a ∈ l, (if key a = k then f a else a) = a := fun a mem =>
        if_neg fun same => nodup.1 (List.mem_map.2 ⟨a, mem, same.trans hit.symm⟩)
      rw [List.map_congr_left rest, List.map_id']
    · rw [if_neg fun found => hit (here.1 found), if_neg hit, tail]

/-- Removing the first match removes all entries with the key. -/
theorem eraseP_eq_filter (nodup : (l.map key).Nodup) (iff : ∀ a ∈ l, p a = true ↔ key a = k) :
    l.eraseP p = l.filter fun a => key a ≠ k := by
  induction l with
  | nil => rfl
  | cons b l ih =>
    have here := iff b List.mem_cons_self
    rw [List.map_cons, List.nodup_cons] at nodup
    have tail := ih nodup.2 fun a mem => iff a (List.mem_cons_of_mem _ mem)
    by_cases hit : key b = k
    · rw [List.eraseP_cons_of_pos (here.2 hit), List.filter_cons_of_neg (by simpa using hit)]
      refine (List.filter_eq_self.2 fun a mem => ?_).symm
      simpa using fun same => nodup.1 (List.mem_map.2 ⟨a, mem, same.trans hit.symm⟩)
    · rw [List.eraseP_cons_of_neg fun found => hit (here.1 found),
        List.filter_cons_of_pos (by simpa using hit), tail]

/-- Changing the value at the place of the first match changes the values of all entries with the
key. -/
theorem modify_findIdx? {β : Type*} {g : α → β} {f : β → β} {i : ℕ} (nodup : (l.map key).Nodup)
    (iff : ∀ a ∈ l, p a = true ↔ key a = k) (found : l.findIdx? p = some i) :
    (l.map g).modify i f = l.map fun a => if key a = k then f (g a) else g a := by
  induction l generalizing i with
  | nil => cases found
  | cons b l ih =>
    have here := iff b List.mem_cons_self
    rw [List.map_cons, List.nodup_cons] at nodup
    rw [List.findIdx?_cons] at found
    by_cases hit : key b = k
    · rw [if_pos (here.2 hit)] at found
      obtain rfl := Option.some.inj found
      have rest : ∀ a ∈ l, (if key a = k then f (g a) else g a) = g a := fun a mem =>
        if_neg fun same => nodup.1 (List.mem_map.2 ⟨a, mem, same.trans hit.symm⟩)
      rw [List.map_cons, List.map_cons, if_pos hit, List.map_congr_left rest]
      rfl
    · rw [if_neg fun match_ => hit (here.1 match_)] at found
      obtain ⟨j, tail, rfl⟩ := Option.map_eq_some_iff.1 found
      rw [List.map_cons, List.map_cons, if_neg hit, List.modify_succ_cons,
        ih nodup.2 (fun a mem => iff a (List.mem_cons_of_mem _ mem)) tail]

/-! ## What is found afterwards -/

theorem entry_map (keeps : ∀ a, key (f a) = key a) :
    entry key (l.map fun a => if key a = k then f a else a) =
      Function.update (entry key l) k ((entry key l k).map f) := by
  funext k'
  induction l with
  | nil => by_cases same : k' = k <;> simp [entry, same]
  | cons b l ih =>
    have first : ∀ (c : α) (r : List α) (j : κ), entry key (c :: r) j =
        if key c = j then some c else entry key r j := by
      intro c r j
      unfold entry
      rw [List.find?_cons]
      by_cases hit : key c = j <;> simp [hit]
    rw [List.map_cons, first]
    by_cases same : k' = k
    · subst same
      rw [Function.update_self] at ih ⊢
      rw [first, ih]
      by_cases hit : key b = k'
      · simp [hit, keeps]
      · simp [hit]
    · rw [Function.update_of_ne same] at ih ⊢
      rw [first, ih]
      by_cases hit : key b = k
      · simp [hit, keeps, Ne.symm same]
      · simp [hit]

theorem entry_filter :
    entry key (l.filter fun a => key a ≠ k) = Function.update (entry key l) k none := by
  funext k'
  unfold entry
  rw [List.find?_filter]
  by_cases same : k' = k
  · subst same
    rw [Function.update_self, List.find?_eq_none]
    simp
  · rw [Function.update_of_ne same]
    congr 1
    funext a
    by_cases hit : key a = k'
    · simp [hit, same]
    · simp [hit]

theorem entry_append (new : ∀ b ∈ l, key b ≠ key a) :
    entry key (l ++ [a]) = Function.update (entry key l) (key a) (some a) := by
  funext k'
  unfold entry
  rw [List.find?_append]
  by_cases same : k' = key a
  · subst same
    rw [Function.update_self, List.find?_eq_none.2 (by simpa using new)]
    simp
  · rw [Function.update_of_ne same]
    simp [Ne.symm same]

end FirstMatch
