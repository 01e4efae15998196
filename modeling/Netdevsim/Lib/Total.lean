import Netdevsim.Lib.Program

/-!
# Programs that do not go wrong

`twp m Q E s` says that `m` started in `s` does not go wrong, and what holds after it.  It is what
`wp` says together with `Completes`, so that a program may be shown not to go wrong apart from what
it does.
-/

namespace Program

variable {σ ε α β : Type}

/-- The program does not go wrong, and `Q` holds of the value and the state, or `E` of the error and
the state. -/
def twp (m : Program σ ε α) (Q : α → σ → Prop) (E : ε → σ → Prop) (s : σ) : Prop :=
  match m.exec s with
  | none => False
  | some (.ok a, t) => Q a t
  | some (.error e, t) => E e t

/-- The program does not go wrong. -/
def Completes (m : Program σ ε α) (s : σ) : Prop := twp m (fun _ _ => True) (fun _ _ => True) s

section Rules

variable {m : Program σ ε α} {f : α → Program σ ε β} {Q Q' : α → σ → Prop} {R : β → σ → Prop}
  {E E' : ε → σ → Prop} {s t : σ} {a : α} {e : ε}

theorem twp_mono (h : twp m Q E s) (ok : ∀ a t, Q a t → Q' a t) (error : ∀ e t, E e t → E' e t) :
    twp m Q' E' s := by
  unfold twp at h ⊢
  split <;> rename_i run <;> rw [run] at h
  · exact h
  · exact ok _ _ h
  · exact error _ _ h

theorem twp_iff : twp m Q E s ↔ Completes m s ∧ wp m Q E s := by
  unfold Completes twp wp
  cases m.exec s with
  | none => simp
  | some out =>
    obtain ⟨result, t⟩ := out
    cases result <;> simp

/-- What is known of a program that does not go wrong. -/
theorem Completes.twp (completes : Completes m s) (h : wp m Q E s) : twp m Q E s :=
  twp_iff.2 ⟨completes, h⟩

theorem twp_and {Q₂ : α → σ → Prop} {E₂ : ε → σ → Prop} (h : twp m Q E s) (h₂ : wp m Q₂ E₂ s) :
    twp m (fun a t => Q a t ∧ Q₂ a t) (fun e t => E e t ∧ E₂ e t) s :=
  twp_iff.2 ⟨(twp_iff.1 h).1, wp_and (twp_iff.1 h).2 h₂⟩

theorem wp_of_twp (h : twp m Q E s) : wp m Q E s := (twp_iff.1 h).2

theorem completes_of_twp (h : twp m Q E s) : Completes m s := (twp_iff.1 h).1

/-- A program that completes leads to a state. -/
theorem Completes.exists (completes : Completes m s) : ∃ result t, m.exec s = some (result, t) := by
  unfold Completes Program.twp at completes
  split at completes
  · exact completes.elim
  · exact ⟨_, _, by assumption⟩
  · exact ⟨_, _, by assumption⟩

/-- How a program that does not go wrong ends. -/
theorem ends_of_twp (h : twp m Q E s) : ∃ result t, m.exec s = some (result, t) ∧
    (∀ a, result = .ok a → Q a t) ∧ ∀ e, result = .error e → E e t := by
  unfold twp at h
  split at h
  · exact h.elim
  · rename_i a t run
    exact ⟨.ok a, t, run, by simpa using h, nofun⟩
  · rename_i e t run
    exact ⟨.error e, t, run, nofun, by simpa using h⟩

@[simp] theorem twp_pure : twp (pure a : Program σ ε α) Q E s ↔ Q a s := Iff.rfl

@[simp] theorem twp_throw : twp (throw e : Program σ ε α) Q E s ↔ E e s := Iff.rfl

@[simp] theorem twp_get {Q : σ → σ → Prop} : twp (get : Program σ ε σ) Q E s ↔ Q s s := Iff.rfl

@[simp] theorem twp_set {Q : PUnit → σ → Prop} : twp (set t : Program σ ε PUnit) Q E s ↔ Q ⟨⟩ t :=
  Iff.rfl

@[simp] theorem twp_modify {Q : PUnit → σ → Prop} {g : σ → σ} :
    twp (modify g : Program σ ε PUnit) Q E s ↔ Q ⟨⟩ (g s) := Iff.rfl

theorem twp_failIf {c : Prop} [Decidable c] {Q : Unit → σ → Prop} :
    twp (failIf c e : Program σ ε Unit) Q E s ↔ (c → E e s) ∧ (¬c → Q () s) := by
  unfold failIf
  split <;> simp [*]

@[simp] theorem twp_bind :
    twp (m >>= f) R E s ↔ twp m (fun a t => twp (f a) R E t) E s := by
  unfold twp
  rw [exec_bind]
  cases m.exec s with
  | none => exact Iff.rfl
  | some out =>
    obtain ⟨result, t⟩ := out
    cases result <;> exact Iff.rfl

theorem twp_tryCatch {handler : ε → Program σ ε α} :
    twp (tryCatch m handler) Q E s ↔ twp m Q (fun e t => twp (handler e) Q E t) s := by
  unfold twp
  rw [exec_tryCatch]
  cases m.exec s with
  | none => exact Iff.rfl
  | some out =>
    obtain ⟨result, t⟩ := out
    cases result <;> exact Iff.rfl

@[simp] theorem twp_unwind {cleanup : Program σ ε Unit} :
    twp (unwind cleanup m) Q E s ↔
      twp m Q (fun e t => twp cleanup (fun _ u => E e u) E t) s := by
  unfold unwind
  rw [twp_tryCatch]
  simp only [twp_bind, twp_throw]

@[simp] theorem twp_attempt {Q : Bool → σ → Prop} :
    twp (attempt m) Q E s ↔ twp m (fun _ => Q true) (fun _ => Q false) s := by
  unfold attempt
  rw [twp_tryCatch, twp_bind]
  rfl

theorem twp_of_exec (run : m.exec s = some (.ok a, t)) : twp m Q E s ↔ Q a t := by
  unfold twp
  rw [run]

/-- The rule for `unwind`: the cleanup leads from `J` back to `I`. -/
theorem twp_unwind_of {cleanup : Program σ ε Unit} {I J : σ → Prop} (body : twp m Q (fun _ => J) s)
    (clean : ∀ t, J t → twp cleanup (fun _ => I) (fun _ => I) t) :
    twp (unwind cleanup m) Q (fun _ => I) s := by
  rw [twp_unwind]
  exact twp_mono body (fun _ _ => id) fun _ t => clean t

/-- The rule for a loop over a list, with the loop invariant `I` of what is left of the list. -/
theorem twp_forM {xs : List α} {g : α → Program σ ε PUnit} {I : List α → σ → Prop}
    (body : ∀ x rest s, I (x :: rest) s → twp (g x) (fun _ => I rest) E s) (hs : I xs s) :
    twp (xs.forM g) (fun _ => I []) E s := by
  induction xs generalizing s with
  | nil => exact hs
  | cons x xs ih =>
    show twp (g x >>= fun _ => xs.forM g) _ _ _
    rw [twp_bind]
    exact twp_mono (body x xs s hs) (fun _ _ => ih) fun _ _ => id

/-- What may be known of the first part for the second part to complete. -/
theorem Completes.bind (first : Completes m s)
    (rest : wp m (fun a t => Completes (f a) t) (fun _ _ => True) s) : Completes (m >>= f) s := by
  unfold Completes at rest ⊢
  rw [twp_bind]
  exact first.twp rest

theorem Completes.unwind {cleanup : Program σ ε Unit} (body : Completes m s)
    (clean : wp m (fun _ _ => True) (fun _ t => Completes cleanup t) s) :
    Completes (unwind cleanup m) s := by
  unfold Completes at clean ⊢
  rw [twp_unwind]
  exact body.twp clean

end Rules

/-! ## Programs that never go wrong -/

/-- The program does not go wrong in any state. -/
def Total (m : Program σ ε α) : Prop := ∀ s, Completes m s

section Total

variable {m : Program σ ε α} {f : α → Program σ ε β}

theorem total_pure (a : α) : Total (pure a : Program σ ε α) := fun _ => trivial

theorem total_throw (e : ε) : Total (throw e : Program σ ε α) := fun _ => trivial

theorem total_get : Total (get : Program σ ε σ) := fun _ => trivial

theorem total_set (t : σ) : Total (set t : Program σ ε PUnit) := fun _ => trivial

theorem total_modify {g : σ → σ} : Total (modify g : Program σ ε PUnit) := fun _ => trivial

theorem total_failIf {c : Prop} [Decidable c] (e : ε) : Total (failIf c e : Program σ ε Unit) := by
  unfold failIf
  split
  · exact total_throw e
  · exact total_pure ()

theorem Total.unwind {cleanup : Program σ ε Unit} (clean : Total cleanup) (body : Total m) :
    Total (unwind cleanup m) :=
  fun s => (body s).unwind (wp_mono wp_true (fun _ _ => id) fun _ t _ => clean t)

theorem total_forM {xs : List α} {g : α → Program σ ε PUnit} (body : ∀ x, Total (g x)) :
    Total (xs.forM g) :=
  fun _ => twp_mono (twp_forM (I := fun _ _ => True) (fun x _ t _ => body x t) trivial)
    (fun _ _ => id) fun _ _ => id

theorem Total.bind (first : Total m) (rest : ∀ a, Total (f a)) : Total (m >>= f) :=
  fun s => (first s).bind (wp_mono wp_true (fun a t _ => rest a t) fun _ _ => id)

end Total

end Program
