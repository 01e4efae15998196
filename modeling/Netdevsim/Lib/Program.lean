import Mathlib.Tactic

/-!
# Programs that fail, unwind and go wrong

A program over states `σ` returns a value or fails with an error, and keeps the state it has reached
in either case, as C code that returns error codes does.  It may also go wrong, which leaves no
state at all: an invalid pointer was followed.  `unwind` is C's `goto err`: when the body fails, the
cleanup runs and the error is passed on.

`wp m Q E s` says what holds after `m` started in `s`: `Q` if it returned, `E` if it failed.
-/

/-- Programs over the states `σ` with the errors `ε` that return an `α`. -/
abbrev Program (σ ε α : Type) := ExceptT ε (StateT σ Option) α

namespace Program

variable {σ ε α β γ : Type}

/-- Run a program: `none` when it goes wrong. -/
def exec (m : Program σ ε α) (s : σ) : Option (Except ε α × σ) := m s

/-- There is no way to go on. -/
def goWrong : Program σ ε α := fun _ => none

/-- Fail with `e` if `c` holds. -/
def failIf (c : Prop) [Decidable c] (e : ε) : Program σ ε Unit := if c then throw e else pure ()

/-- Run the cleanup when the body fails, and fail with the error of the body. -/
def unwind (cleanup : Program σ ε Unit) (m : Program σ ε α) : Program σ ε α :=
  tryCatch m fun e => do
    cleanup
    throw e

/-- Run the program and go on in any case, knowing whether it returned. -/
def attempt (m : Program σ ε α) : Program σ ε Bool :=
  tryCatch (m >>= fun _ => pure true) fun _ => pure false

/-- What holds after the program: `Q` of the value and the state, or `E` of the error and the
state. -/
def wp (m : Program σ ε α) (Q : α → σ → Prop) (E : ε → σ → Prop) (s : σ) : Prop :=
  match m.exec s with
  | none => True
  | some (.ok a, t) => Q a t
  | some (.error e, t) => E e t

section Rules

variable {m : Program σ ε α} {f : α → Program σ ε β} {Q Q' : α → σ → Prop} {R : β → σ → Prop}
  {E E' : ε → σ → Prop} {s t : σ} {a : α} {e : ε}

/-- What holds of every outcome. -/
theorem wp_of_forall {I : σ → Prop} (h : ∀ r t, m.exec s = some (r, t) → I t) :
    wp m (fun _ => I) (fun _ => I) s := by
  unfold wp
  split
  · trivial
  · exact h _ _ (by assumption)
  · exact h _ _ (by assumption)

theorem exec_ok_of_wp (h : wp m Q E s) (run : m.exec s = some (.ok a, t)) : Q a t := by
  unfold wp at h
  rw [run] at h
  exact h

theorem exec_error_of_wp (h : wp m Q E s) (run : m.exec s = some (.error e, t)) : E e t := by
  unfold wp at h
  rw [run] at h
  exact h

/-- What holds afterwards in any case. -/
theorem holds_of_wp {I : σ → Prop} (h : wp m (fun _ => I) (fun _ => I) s) {r : Except ε α}
    (run : m.exec s = some (r, t)) : I t := by
  cases r with
  | ok a => exact exec_ok_of_wp h run
  | error e => exact exec_error_of_wp h run

@[simp] theorem wp_pure : wp (pure a : Program σ ε α) Q E s ↔ Q a s := Iff.rfl

@[simp] theorem wp_throw : wp (throw e : Program σ ε α) Q E s ↔ E e s := Iff.rfl

@[simp] theorem wp_goWrong : wp (goWrong : Program σ ε α) Q E s := trivial

@[simp] theorem wp_get {Q : σ → σ → Prop} : wp (get : Program σ ε σ) Q E s ↔ Q s s := Iff.rfl

@[simp] theorem wp_set {Q : PUnit → σ → Prop} : wp (set t : Program σ ε PUnit) Q E s ↔ Q ⟨⟩ t :=
  Iff.rfl

@[simp] theorem wp_modify {Q : PUnit → σ → Prop} {g : σ → σ} :
    wp (modify g : Program σ ε PUnit) Q E s ↔ Q ⟨⟩ (g s) := Iff.rfl

theorem wp_failIf {c : Prop} [Decidable c] {Q : Unit → σ → Prop} :
    wp (failIf c e : Program σ ε Unit) Q E s ↔ (c → E e s) ∧ (¬c → Q () s) := by
  unfold failIf
  split <;> simp [*]

theorem exec_bind : (m >>= f).exec s = match m.exec s with
    | none => none
    | some (.ok a, t) => (f a).exec t
    | some (.error e, t) => some (.error e, t) := by
  show (m s).bind _ = _
  unfold exec
  cases h : m s with
  | none => rfl
  | some out =>
    obtain ⟨result, t⟩ := out
    cases result <;> rfl

@[simp] theorem wp_bind :
    wp (m >>= f) R E s ↔ wp m (fun a t => wp (f a) R E t) E s := by
  unfold wp
  rw [exec_bind]
  cases m.exec s with
  | none => exact Iff.rfl
  | some out =>
    obtain ⟨result, t⟩ := out
    cases result <;> exact Iff.rfl

theorem exec_tryCatch {handler : ε → Program σ ε α} :
    (tryCatch m handler : Program σ ε α).exec s = match m.exec s with
      | none => none
      | some (.ok a, t) => some (.ok a, t)
      | some (.error e, t) => (handler e).exec t := by
  show (m s).bind _ = _
  unfold exec
  cases m s with
  | none => rfl
  | some out =>
    obtain ⟨result, t⟩ := out
    cases result <;> rfl

theorem wp_tryCatch {handler : ε → Program σ ε α} :
    wp (tryCatch m handler) Q E s ↔ wp m Q (fun e t => wp (handler e) Q E t) s := by
  unfold wp
  rw [exec_tryCatch]
  cases m.exec s with
  | none => exact Iff.rfl
  | some out =>
    obtain ⟨result, t⟩ := out
    cases result <;> exact Iff.rfl

theorem exec_unwind {cleanup : Program σ ε Unit} :
    (unwind cleanup m).exec s = match m.exec s with
      | none => none
      | some (.ok a, t) => some (.ok a, t)
      | some (.error e, t) => (cleanup >>= fun _ => throw e : Program σ ε α).exec t :=
  exec_tryCatch

@[simp] theorem wp_unwind {cleanup : Program σ ε Unit} :
    wp (unwind cleanup m) Q E s ↔
      wp m Q (fun e t => wp cleanup (fun _ u => E e u) E t) s := by
  unfold unwind
  rw [wp_tryCatch]
  simp only [wp_bind, wp_throw]

@[simp] theorem wp_attempt {Q : Bool → σ → Prop} :
    wp (attempt m) Q E s ↔ wp m (fun _ => Q true) (fun _ => Q false) s := by
  unfold attempt
  rw [wp_tryCatch, wp_bind]
  rfl

/-- Weakening of what is known afterwards. -/
theorem wp_mono (h : wp m Q E s) (ok : ∀ a t, Q a t → Q' a t) (error : ∀ e t, E e t → E' e t) :
    wp m Q' E' s := by
  unfold wp at h ⊢
  split
  · exact trivial
  · rename_i run
    rw [run] at h
    exact ok _ _ h
  · rename_i run
    rw [run] at h
    exact error _ _ h

theorem wp_and (left : wp m Q E s) (right : wp m Q' E' s) :
    wp m (fun a t => Q a t ∧ Q' a t) (fun e t => E e t ∧ E' e t) s := by
  unfold wp at left right ⊢
  split <;> rename_i run
  · exact trivial
  all_goals
    rw [run] at left right
    exact ⟨left, right⟩

theorem wp_true : wp m (fun _ _ => True) (fun _ _ => True) s := by
  unfold wp
  split <;> exact trivial

/-- The rule for `unwind`: the cleanup leads from `J` back to `I`. -/
theorem wp_unwind_of {cleanup : Program σ ε Unit} {I J : σ → Prop} (body : wp m Q (fun _ => J) s)
    (clean : ∀ t, J t → wp cleanup (fun _ => I) (fun _ => I) t) :
    wp (unwind cleanup m) Q (fun _ => I) s := by
  rw [wp_unwind]
  exact wp_mono body (fun _ _ => id) fun _ t => clean t

/-- The rule for a loop over a list, with the loop invariant `I`. -/
theorem wp_forM {xs : List α} {g : α → Program σ ε PUnit} {I : σ → Prop}
    (body : ∀ x ∈ xs, ∀ s, I s → wp (g x) (fun _ => I) E s) (hs : I s) :
    wp (xs.forM g) (fun _ => I) E s := by
  induction xs generalizing s with
  | nil => exact hs
  | cons x xs ih =>
    show (g x >>= fun _ => xs.forM g).wp _ _ _
    rw [wp_bind]
    apply wp_mono (body x List.mem_cons_self s hs) _ fun _ _ => id
    intro _ t ht
    exact ih (fun y mem => body y (List.mem_cons_of_mem _ mem)) ht

/-- The rule for a loop that counts, with the loop invariant `I` of the count and what holds after a
failure. -/
theorem wp_forM_range {n : ℕ} {g : ℕ → Program σ ε PUnit} {I : ℕ → σ → Prop}
    (body : ∀ i < n, ∀ s, I i s → wp (g i) (fun _ => I (i + 1)) E s) (hs : I 0 s) :
    wp ((List.range n).forM g) (fun _ => I n) E s := by
  induction n with
  | zero => exact hs
  | succ n ih =>
    rw [List.range_succ, show (List.range n ++ [n]).forM g =
      ((List.range n).forM g >>= fun _ => [n].forM g) from List.forM_append]
    rw [wp_bind]
    apply wp_mono (ih fun i lt => body i (lt.trans (Nat.lt_succ_self n))) _ fun _ _ => id
    intro _ t ht
    show (g n >>= fun _ => pure ()).wp _ _ _
    rw [wp_bind]
    exact body n (Nat.lt_succ_self n) t ht

/-- Tests that change nothing, one after the other. -/
theorem exec_anyM {xs : List α} {p : α → Program σ ε Bool} {test : α → Bool}
    (each : ∀ x ∈ xs, (p x).exec s = some (.ok (test x), s)) :
    (xs.anyM p).exec s = some (.ok (xs.any test), s) := by
  induction xs with
  | nil => rfl
  | cons x xs ih =>
    rw [List.anyM, exec_bind, each x List.mem_cons_self, List.any_cons]
    cases test x with
    | true => rfl
    | false => exact ih fun y mem => each y (List.mem_cons_of_mem _ mem)

/-- What holds after a given run. -/
theorem wp_of_exec (run : m.exec s = some (.ok a, t)) : wp m Q E s ↔ Q a t := by
  unfold wp
  rw [run]

/-- What a postcondition says of a program that ended with a result. -/
def Ended (Q : α → σ → Prop) (E : ε → σ → Prop) (t : σ) : Except ε α → Prop
  | .ok a => Q a t
  | .error e => E e t

theorem wp_of_run {r : Except ε α} (run : m.exec s = some (r, t)) : wp m Q E s ↔ Ended Q E t r := by
  unfold wp
  rw [run]
  cases r <;> exact Iff.rfl

theorem exec_bind_of_ok (run : m.exec s = some (.ok a, t)) : (m >>= f).exec s = (f a).exec t := by
  rw [exec_bind, run]

theorem exec_failIf_bind {c : Prop} [Decidable c] {f : Unit → Program σ ε α} :
    (failIf c e >>= f).exec s = if c then some (.error e, s) else (f ()).exec s := by
  unfold failIf
  split_ifs <;> rfl

/-- Nothing is cleaned up exactly if the body returns. -/
theorem exec_unwind_eq_ok {cleanup : Program σ ε Unit} :
    (unwind cleanup m).exec s = some (.ok a, t) ↔ m.exec s = some (.ok a, t) := by
  rw [exec_unwind]
  cases m.exec s with
  | none => exact Iff.rfl
  | some out =>
    obtain ⟨result, u⟩ := out
    cases result with
    | ok b => exact Iff.rfl
    | error e =>
      refine iff_of_false ?_ nofun
      dsimp only
      rw [exec_bind]
      cases cleanup.exec u with
      | none => exact nofun
      | some out' =>
        obtain ⟨result', v⟩ := out'
        cases result' <;> exact nofun

end Rules

/-- Whether the program returns, in a state that passes the test. -/
def passes (m : Program σ ε α) (test : σ → Bool) (s : σ) : Bool :=
  match m.exec s with
  | some (.ok _, t) => test t
  | _ => false

theorem exists_of_passes {m : Program σ ε α} {test : σ → Bool} {s : σ} (h : m.passes test s) :
    ∃ a t, m.exec s = some (.ok a, t) ∧ test t := by
  unfold passes at h
  split at h
  · rename_i a t run
    exact ⟨a, t, run, h⟩
  · cases h

/-! ## What a program returns -/

/-- Whatever the program returns, if it returns, has the property. -/
def Returns (m : Program σ ε α) (P : α → Prop) : Prop :=
  ∀ s, wp m (fun a _ => P a) (fun _ _ => True) s

section Returns

variable {m : Program σ ε α} {f : α → Program σ ε β} {P : α → Prop} {R : β → Prop}

theorem returns_pure {a : α} (h : P a) : Returns (pure a : Program σ ε α) P := fun _ => h

theorem returns_goWrong : Returns (goWrong : Program σ ε α) P := fun _ => trivial

theorem Returns.bind (first : Returns m P) (rest : ∀ a, P a → Returns (f a) R) :
    Returns (m >>= f) R := by
  intro s
  rw [wp_bind]
  exact wp_mono (first s) (fun a t h => rest a h t) fun _ _ => id

/-- What the first program returns does not matter. -/
theorem returns_bind (rest : ∀ a, Returns (f a) R) : Returns (m >>= f) R :=
  Returns.bind (P := fun _ => True) (fun _ => wp_true) fun a _ => rest a

theorem Returns.unwind {cleanup : Program σ ε Unit} (body : Returns m P) :
    Returns (unwind cleanup m) P := by
  intro s
  rw [wp_unwind]
  exact wp_mono (body s) (fun _ _ => id) fun _ _ _ => wp_true

end Returns

/-! ## Programs that return no error -/

/-- The program may go wrong, but it does not fail. -/
def NeverFails (m : Program σ ε α) : Prop := ∀ s, wp m (fun _ _ => True) (fun _ _ => False) s

section NeverFails

variable {m : Program σ ε α} {f : α → Program σ ε β}

theorem neverFails_pure (a : α) : NeverFails (pure a : Program σ ε α) := fun _ => trivial

theorem neverFails_goWrong : NeverFails (goWrong : Program σ ε α) := fun _ => trivial

theorem neverFails_get : NeverFails (get : Program σ ε σ) := fun _ => trivial

theorem neverFails_modify {g : σ → σ} : NeverFails (modify g : Program σ ε PUnit) :=
  fun _ => trivial

theorem NeverFails.bind (first : NeverFails m) (rest : ∀ a, NeverFails (f a)) :
    NeverFails (m >>= f) := by
  intro s
  rw [wp_bind]
  exact wp_mono (first s) (fun a t _ => rest a t) fun _ _ => id

theorem neverFails_forM {xs : List α} {g : α → Program σ ε PUnit}
    (body : ∀ x ∈ xs, NeverFails (g x)) : NeverFails (xs.forM g) :=
  fun _ => wp_forM (I := fun _ => True) (fun x mem s _ => body x mem s) trivial

theorem neverFails_anyM {xs : List α} {p : α → Program σ ε Bool}
    (body : ∀ x ∈ xs, NeverFails (p x)) : NeverFails (xs.anyM p) := by
  induction xs with
  | nil => exact neverFails_pure _
  | cons x xs ih =>
    rw [List.anyM]
    apply (body x List.mem_cons_self).bind
    rintro (_ | _)
    · exact ih fun y mem => body y (List.mem_cons_of_mem _ mem)
    · exact neverFails_pure _

/-- What is known of a program that does not fail need not speak of errors. -/
theorem NeverFails.wp (never : NeverFails m) {Q : α → σ → Prop} {E E' : ε → σ → Prop} {s : σ}
    (h : Program.wp m Q E s) : Program.wp m Q E' s :=
  wp_mono (wp_and h (never s)) (fun _ _ => And.left) fun _ _ both => both.2.elim

end NeverFails

/-! ## What a program may change -/

/-- A bound on the changes of a state: no change at all is within it, and one change after another
is. -/
structure Frame (σ : Type) where
  rel : σ → σ → Prop
  refl : ∀ s, rel s s
  trans : ∀ {s t u}, rel s t → rel t u → rel s u

/-- All changes that leave what `view` shows of the state as it was. -/
def Frame.of (view : σ → γ) : Frame σ := ⟨fun s t => view t = view s, fun _ => rfl,
  fun first second => second.trans first⟩

/-- All changes that keep an invariant. -/
def Frame.inv (I : σ → Prop) : Frame σ := ⟨fun s t => I s → I t, fun _ => id,
  fun first second hs => second (first hs)⟩

/-- The program changes the state within the frame, whether it returns or fails. -/
def Keeps (F : Frame σ) (m : Program σ ε α) : Prop := ∀ s, wp m (fun _ => F.rel s) (fun _ => F.rel s) s

section Keeps

variable {F : Frame σ} {m : Program σ ε α} {f : α → Program σ ε β}

theorem keeps_pure (a : α) : Keeps F (pure a : Program σ ε α) := F.refl

theorem keeps_throw (e : ε) : Keeps F (throw e : Program σ ε α) := F.refl

theorem keeps_failIf {c : Prop} [Decidable c] (e : ε) :
    Keeps F (failIf c e : Program σ ε Unit) := by
  unfold failIf
  split
  · exact keeps_throw e
  · exact keeps_pure ()

theorem keeps_goWrong : Keeps F (goWrong : Program σ ε α) := fun _ => trivial

theorem keeps_get : Keeps F (get : Program σ ε σ) := F.refl

theorem keeps_modify {g : σ → σ} (within : ∀ s, F.rel s (g s)) :
    Keeps F (modify g : Program σ ε PUnit) := within

theorem Keeps.bind (first : Keeps F m) (rest : ∀ a, Keeps F (f a)) : Keeps F (m >>= f) := by
  intro s
  rw [wp_bind]
  apply wp_mono (first s) _ fun _ _ => id
  intro a t before
  exact wp_mono (rest a t) (fun _ _ => F.trans before) fun _ _ => F.trans before

/-- What was read of the state may be used by the rest. -/
theorem keeps_get_bind {f : σ → Program σ ε β}
    (rest : ∀ s, wp (f s) (fun _ => F.rel s) (fun _ => F.rel s) s) :
    Keeps F ((get : Program σ ε σ) >>= f) := by
  intro s
  rw [wp_bind]
  exact rest s

theorem Keeps.unwind {cleanup : Program σ ε Unit} (clean : Keeps F cleanup) (body : Keeps F m) :
    Keeps F (unwind cleanup m) := by
  intro s
  rw [wp_unwind]
  apply wp_mono (body s) fun _ _ => id
  intro e t before
  exact wp_mono (clean t) (fun _ _ => F.trans before) fun _ _ => F.trans before

theorem keeps_forM {xs : List α} {g : α → Program σ ε PUnit} (body : ∀ x ∈ xs, Keeps F (g x)) :
    Keeps F (xs.forM g) := by
  induction xs with
  | nil => exact keeps_pure _
  | cons x xs ih =>
    show Keeps F (g x >>= fun _ => xs.forM g)
    apply (body x List.mem_cons_self).bind
    exact fun _ => ih fun y mem => body y (List.mem_cons_of_mem _ mem)

theorem keeps_anyM {xs : List α} {p : α → Program σ ε Bool} (body : ∀ x ∈ xs, Keeps F (p x)) :
    Keeps F (xs.anyM p) := by
  induction xs with
  | nil => exact keeps_pure _
  | cons x xs ih =>
    rw [List.anyM]
    apply (body x List.mem_cons_self).bind
    rintro (_ | _)
    · exact ih fun y mem => body y (List.mem_cons_of_mem _ mem)
    · exact keeps_pure _

theorem Keeps.mono {G : Frame σ} (keeps : Keeps F m) (weaker : ∀ s t, F.rel s t → G.rel s t) :
    Keeps G m :=
  fun s => wp_mono (keeps s) (fun _ => weaker s) fun _ => weaker s

theorem keeps_inv {I : σ → Prop} (kept : ∀ s, I s → wp m (fun _ => I) (fun _ => I) s) :
    Keeps (.inv I) m := by
  intro s
  by_cases hs : I s
  · exact wp_mono (kept s hs) (fun _ _ ht _ => ht) fun _ _ ht _ => ht
  · exact wp_mono wp_true (fun _ _ _ hs' => absurd hs' hs) fun _ _ _ hs' => absurd hs' hs

theorem Keeps.inv {I : σ → Prop} (keeps : Keeps (.inv I) m) {s : σ} (hs : I s) :
    wp m (fun _ => I) (fun _ => I) s :=
  wp_mono (keeps s) (fun _ _ ht => ht hs) fun _ _ ht => ht hs

/-- A property that every change within the frame preserves holds after the program. -/
theorem Keeps.preserves (keeps : Keeps F m) {P : σ → Prop} (stable : ∀ s t, F.rel s t → P s → P t)
    {s : σ} (hs : P s) : wp m (fun _ => P) (fun _ => P) s :=
  wp_mono (keeps s) (fun _ t within => stable s t within hs) fun _ t within => stable s t within hs

end Keeps

end Program
