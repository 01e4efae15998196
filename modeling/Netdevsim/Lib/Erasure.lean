import Netdevsim.Lib.Total

/-!
# Programs over a richer state

States `σ` may carry more than states `τ`; `π` drops what they carry more.  A program over `σ`
erases to a program over `τ` if running it and dropping the rest is running that program: it returns
or fails with the same, and whatever is known of the erased program is known of it.
-/

namespace Program

variable {σ τ ε α β : Type} {π : σ → τ} {put : τ → σ → σ}

/-- Without what `π` drops, `m` is `m'`. -/
def Erases (π : σ → τ) (m : Program σ ε α) (m' : Program τ ε α) : Prop :=
  ∀ s, (m.exec s).map (fun out => (out.1, π out.2)) = m'.exec (π s)

/-- A program that sees and changes only the part of the state that `π` shows. -/
def zoom (π : σ → τ) (put : τ → σ → σ) (m : Program τ ε α) : Program σ ε α := fun s =>
  (m.exec (π s)).map fun out => (out.1, put out.2 s)

section Rules

variable {m n : Program σ ε α} {m' n' : Program τ ε α} {f : α → Program σ ε β}
  {f' : α → Program τ ε β} {s : σ}

theorem exec_zoom {m : Program τ ε α} :
    (zoom π put m).exec s = (m.exec (π s)).map fun out => (out.1, put out.2 s) := rfl

@[simp] theorem wp_zoom {m : Program τ ε α} {Q : α → σ → Prop} {E : ε → σ → Prop} :
    wp (zoom π put m) Q E s ↔
      wp m (fun a t => Q a (put t s)) (fun e t => E e (put t s)) (π s) := by
  unfold wp
  rw [exec_zoom]
  cases m.exec (π s) with
  | none => exact Iff.rfl
  | some out =>
    obtain ⟨result, t⟩ := out
    cases result <;> exact Iff.rfl

theorem twp_zoom {m : Program τ ε α} {Q : α → σ → Prop} {E : ε → σ → Prop} :
    twp (zoom π put m) Q E s ↔
      twp m (fun a t => Q a (put t s)) (fun e t => E e (put t s)) (π s) := by
  unfold twp
  rw [exec_zoom]
  cases m.exec (π s) with
  | none => exact Iff.rfl
  | some out =>
    obtain ⟨result, t⟩ := out
    cases result <;> exact Iff.rfl

theorem erases_zoom (law : ∀ t s, π (put t s) = t) (m : Program τ ε α) :
    Erases π (zoom π put m) m := by
  intro s
  rw [exec_zoom, Option.map_map]
  have same : ((fun out : Except ε α × σ => (out.1, π out.2)) ∘
      fun out : Except ε α × τ => (out.1, put out.2 s)) = id := by
    funext out
    exact Prod.ext rfl (law out.2 s)
  rw [same, Option.map_id, id]

theorem erases_pure (a : α) : Erases π (pure a : Program σ ε α) (pure a) := fun _ => rfl

theorem erases_throw (e : ε) : Erases π (throw e : Program σ ε α) (throw e) := fun _ => rfl

theorem erases_failIf (c : Prop) [Decidable c] (e : ε) :
    Erases π (failIf c e : Program σ ε Unit) (failIf c e) := by
  unfold failIf
  split
  · exact erases_throw e
  · exact erases_pure ()

/-- A change that `π` does not show. -/
theorem erases_modify {g : σ → σ} (hidden : ∀ s, π (g s) = π s) :
    Erases π (modify g : Program σ ε PUnit) (pure ⟨⟩) := fun s =>
  congrArg (fun t => some ((.ok ⟨⟩ : Except ε PUnit), t)) (hidden s)

theorem Erases.bind (first : Erases π m m') (rest : ∀ a, Erases π (f a) (f' a)) :
    Erases π (m >>= f) (m' >>= f') := by
  intro s
  rw [exec_bind, exec_bind, ← first s]
  cases m.exec s with
  | none => rfl
  | some out =>
    obtain ⟨result, t⟩ := out
    cases result with
    | ok a => exact rest a t
    | error e => rfl

theorem Erases.unwind {clean : Program σ ε Unit} {clean' : Program τ ε Unit}
    (cleanup : Erases π clean clean') (body : Erases π m m') :
    Erases π (unwind clean m) (unwind clean' m') := by
  intro s
  rw [exec_unwind, exec_unwind, ← body s]
  cases m.exec s with
  | none => rfl
  | some out =>
    obtain ⟨result, t⟩ := out
    cases result with
    | ok a => rfl
    | error e => exact (cleanup.bind fun _ => erases_throw e) t

theorem erases_forM {xs : List α} {g : α → Program σ ε PUnit} {g' : α → Program τ ε PUnit}
    (body : ∀ x, Erases π (g x) (g' x)) : Erases π (xs.forM g) (xs.forM g') := by
  induction xs with
  | nil => exact erases_pure _
  | cons x xs ih => exact (body x).bind fun _ => ih

theorem erases_ite {c : Prop} [Decidable c] (yes : Erases π m m') (no : Erases π n n') :
    Erases π (if c then m else n) (if c then m' else n') := by
  split
  · exact yes
  · exact no

/-- What comes before and is not shown does not matter. -/
theorem Erases.after {k : Program σ ε β} {k' : Program τ ε β} {a : α}
    (hidden : Erases π m (pure a)) (rest : Erases π k k') : Erases π (m >>= fun _ => k) k' := by
  have both : Erases π (m >>= fun _ => k) ((pure a : Program τ ε α) >>= fun _ => k') :=
    hidden.bind fun _ => rest
  exact both

/-- What comes last and is not shown does not matter. -/
theorem Erases.before {m : Program σ ε PUnit} {m' : Program τ ε PUnit} {k : Program σ ε PUnit}
    (first : Erases π m m') (hidden : Erases π k (pure ⟨⟩)) :
    Erases π (m >>= fun _ => k) m' := by
  have both : Erases π (m >>= fun _ => k) (m' >>= fun _ => pure ⟨⟩) := first.bind fun _ => hidden
  intro s
  rw [both s, exec_bind]
  cases m'.exec (π s) with
  | none => rfl
  | some out =>
    obtain ⟨result, t⟩ := out
    cases result <;> rfl

/-- A cleanup that is not shown does not matter. -/
theorem Erases.unwind_hidden {clean : Program σ ε Unit} (hidden : Erases π clean (pure ()))
    (body : Erases π m m') : Erases π (Program.unwind clean m) m' := by
  have both : Erases π (Program.unwind clean m) (Program.unwind (pure ()) m') := hidden.unwind body
  intro s
  rw [both s, exec_unwind]
  cases m'.exec (π s) with
  | none => rfl
  | some out =>
    obtain ⟨result, t⟩ := out
    cases result <;> rfl

/-- What is known of the erased program. -/
theorem Erases.transfer (erases : Erases π m m') {Q : α → τ → Prop} {E : ε → τ → Prop}
    (known : wp m' Q E (π s)) : wp m (fun a t => Q a (π t)) (fun e t => E e (π t)) s := by
  unfold wp at known ⊢
  rw [← erases s] at known
  revert known
  cases m.exec s with
  | none => exact id
  | some out =>
    obtain ⟨result, t⟩ := out
    cases result <;> exact id

/-- A run of the richer program is one of the erased program. -/
theorem Erases.exec (erases : Erases π m m') {r : Except ε α} {t : σ} (run : m.exec s = some (r, t)) :
    m'.exec (π s) = some (r, π t) := by
  rw [← erases s, run]
  rfl

end Rules

end Program
