import Mathlib.Tactic

/-!
# Texts that end by themselves

A text is delimited when what it says, and where it ends, can be read off whatever stands behind it.
Texts of one length are, and texts with an end mark; parts in a row are delimited when each part is,
and so are lists of entries of which none is empty.
-/

/-- In front of any rest, the text tells the value, and the rest can be told from it. -/
def Delimited {α β γ : Type*} (write : α → List β) (value : α → γ) : Prop :=
  ∀ ⦃a b r s⦄, write a ++ r = write b ++ s → value a = value b ∧ r = s

namespace Delimited

variable {α β γ δ ε : Type*} {write write' : α → List β} {value : α → γ} {value' : α → δ}

/-- Two values with the same text. -/
theorem eq (code : Delimited write value) {a b : α} (same : write a = write b) :
    value a = value b := by
  refine (code (r := []) (s := []) ?_).1
  rw [same]

/-- A text that is always the same. -/
theorem const (text : List β) : Delimited (fun _ : α => text) fun _ => () :=
  fun _ _ _ _ same => ⟨rfl, List.append_cancel_left same⟩

/-- Two texts in a row. -/
theorem append (first : Delimited write value) (second : Delimited write' value') :
    Delimited (fun a => write a ++ write' a) fun a => (value a, value' a) := by
  intro a b r s same
  simp only [List.append_assoc] at same
  obtain ⟨here, rest⟩ := first same
  obtain ⟨there, rest⟩ := second rest
  exact ⟨Prod.ext here there, rest⟩

/-- A text that tells more tells less. -/
theorem map (code : Delimited write value) (f : γ → δ) : Delimited write (f ∘ value) :=
  fun _ _ _ _ same => ⟨congrArg f (code same).1, (code same).2⟩

/-- The text of a part of the value. -/
theorem comp (code : Delimited write value) (part : ε → α) :
    Delimited (write ∘ part) (value ∘ part) :=
  fun _ _ _ _ same => code same

/-- The values of texts that all have one length. -/
theorem of_length {n : ℕ} (length : ∀ a, (write a).length = n)
    (told : ∀ a b, write a = write b → value a = value b) : Delimited write value := by
  intro a b r s same
  obtain ⟨text, rest⟩ := List.append_inj same ((length a).trans (length b).symm)
  exact ⟨told a b text, rest⟩

/-- The values of texts with a mark at their end that is not in them. -/
theorem of_mark {mark : β} (inside : ∀ a, ∀ x ∈ write a, x ≠ mark)
    (told : ∀ a b, write a = write b → value a = value b) :
    Delimited (fun a => write a ++ [mark]) value := by
  classical
  intro a b r s same
  simp only [List.append_assoc, List.singleton_append] at same
  have upTo (a : α) (r : List β) :
      (write a ++ mark :: r).takeWhile (fun x => decide (x ≠ mark)) = write a := by
    have all : ∀ x ∈ write a, decide (x ≠ mark) = true := fun x mem =>
      decide_eq_true (inside a x mem)
    rw [List.takeWhile_append_of_pos all, List.takeWhile_cons_of_neg (by simp), List.append_nil]
  have text : write a = write b := by rw [← upTo a r, same, upTo b s]
  rw [text] at same
  exact ⟨told a b text, (List.cons.inj (List.append_cancel_left same)).2⟩

/-- A list of entries is told by their texts in a row. -/
theorem map_eq_of_flatMap_eq (code : Delimited write value) (nonempty : ∀ a, write a ≠ [])
    {l l' : List α} (same : l.flatMap write = l'.flatMap write) : l.map value = l'.map value := by
  induction l generalizing l' with
  | nil =>
    cases l' with
    | nil => rfl
    | cons b l' =>
      rw [List.flatMap_nil, List.flatMap_cons] at same
      exact absurd (List.append_eq_nil_iff.1 same.symm).1 (nonempty b)
  | cons a l ih =>
    cases l' with
    | nil =>
      rw [List.flatMap_nil, List.flatMap_cons] at same
      exact absurd (List.append_eq_nil_iff.1 same).1 (nonempty a)
    | cons b l' =>
      rw [List.flatMap_cons, List.flatMap_cons] at same
      obtain ⟨first, rest⟩ := code same
      rw [List.map_cons, List.map_cons, first, ih rest]

end Delimited
