import Mathlib.Tactic

/-!
# Labelled transition systems and their runs

A system has initial states and a labelled step relation.  `Run as s t` says that the labels `as`
lead from `s` to `t`; `Reachable` states are the ends of runs from initial states.  An invariant is
proved on one step (`Reachable.induct`), and a run all of whose steps meet a condition `C` is a run
of the restricted system `M.guard C`, so the same rule serves results that hold only of the runs in
which every step meets `C`.
-/

/-- A labelled transition system. -/
structure TransitionSystem (σ α : Type*) where
  /-- The states a run may start in. -/
  init : σ → Prop
  /-- `step s a t`: the label `a` may lead from `s` to `t`. -/
  step : σ → α → σ → Prop

namespace TransitionSystem

variable {σ α : Type*} {M : TransitionSystem σ α}

/-- Finite runs, the last step outermost. -/
inductive Run (M : TransitionSystem σ α) (s : σ) : List α → σ → Prop where
  | nil : Run M s [] s
  | snoc {as : List α} {t u : σ} {a : α} (run : Run M s as t) (step : M.step t a u) :
      Run M s (as ++ [a]) u

/-- The state is the end of a run from an initial state. -/
def Reachable (M : TransitionSystem σ α) (t : σ) : Prop := ∃ s as, M.init s ∧ M.Run s as t

theorem Reachable.init {s : σ} (h : M.init s) : M.Reachable s := ⟨s, [], h, .nil⟩

theorem Reachable.step {s t : σ} {a : α} (h : M.Reachable s) (ht : M.step s a t) :
    M.Reachable t := by
  obtain ⟨s₀, as, h₀, run⟩ := h
  exact ⟨s₀, as ++ [a], h₀, run.snoc ht⟩

/-- A property kept by every step is kept by every run. -/
theorem Run.preserves {P : σ → Prop} (hstep : ∀ s a t, P s → M.step s a t → P t) {s t : σ}
    {as : List α} (run : M.Run s as t) (hs : P s) : P t := by
  induction run with
  | nil => exact hs
  | snoc _ step ih => exact hstep _ _ _ ih step

/-- Invariants hold of every reachable state.  The step may use that its source is reachable. -/
theorem Reachable.induct {P : σ → Prop} (hinit : ∀ s, M.init s → P s)
    (hstep : ∀ s a t, M.Reachable s → P s → M.step s a t → P t) {t : σ} (h : M.Reachable t) :
    P t := by
  obtain ⟨s, as, hs, run⟩ := h
  have both : M.Reachable t ∧ P t := by
    refine run.preserves (P := fun u => M.Reachable u ∧ P u) ?_ ⟨.init hs, hinit s hs⟩
    intro u a v hu step
    exact ⟨hu.1.step step, hstep u a v hu.1 hu.2 step⟩
  exact both.2

theorem Run.append {s t u : σ} {as bs : List α} (first : M.Run s as t) (last : M.Run t bs u) :
    M.Run s (as ++ bs) u := by
  induction last with
  | nil => simpa using first
  | snoc _ step ih => rw [← List.append_assoc]; exact ih.snoc step

/-- A run with a given label in it, cut there. -/
theorem Run.cut {s t : σ} {as bs : List α} {a : α} (run : M.Run s (as ++ a :: bs) t) :
    ∃ u v, M.Run s as u ∧ M.step u a v := by
  induction bs using List.reverseRecOn generalizing t with
  | nil =>
    generalize list : as ++ [a] = cs at run
    cases run with
    | nil => simp at list
    | @snoc _ u _ _ run step =>
      obtain ⟨rfl, last⟩ := List.append_inj' list rfl
      obtain rfl := List.singleton_inj.1 last
      exact ⟨u, t, run, step⟩
  | append_singleton bs b ih =>
    generalize list : as ++ a :: (bs ++ [b]) = cs at run
    cases run with
    | nil => simp at list
    | snoc run step =>
      rw [← List.cons_append, ← List.append_assoc] at list
      obtain ⟨rfl, -⟩ := List.append_inj' list rfl
      exact ih run

/-! ## Runs whose steps meet a condition -/

/-- The steps of `M` that meet `C`. -/
def guard (M : TransitionSystem σ α) (C : σ → α → Prop) : TransitionSystem σ α where
  init := M.init
  step s a t := M.step s a t ∧ C s a

theorem Reachable.of_guard {C : σ → α → Prop} {t : σ} (h : (M.guard C).Reachable t) :
    M.Reachable t := by
  refine Reachable.induct (M := M.guard C) (fun s hs => .init hs) ?_ h
  intro s a t _ hs step
  exact hs.step step.1

/-! ## Given runs -/

/-- The end of a run of a step function that may be stuck. -/
def follow (next : σ → α → Option σ) : List α → σ → Option σ
  | [], s => some s
  | a :: as, s => (next s a).bind (follow next as)

theorem Reachable.follow {β : Type*} {next : σ → β → Option σ} {bs : List β} {s t : σ}
    (start : M.Reachable s) (sound : ∀ b ∈ bs, ∀ s t, next s b = some t → ∃ a, M.step s a t)
    (run : TransitionSystem.follow next bs s = some t) : M.Reachable t := by
  induction bs generalizing s with
  | nil =>
    obtain rfl := Option.some.inj run
    exact start
  | cons b bs ih =>
    obtain ⟨u, first, rest⟩ := Option.bind_eq_some_iff.1 run
    obtain ⟨a, step⟩ := sound b List.mem_cons_self s u first
    exact ih (start.step step) (fun c mem => sound c (List.mem_cons_of_mem _ mem)) rest

/-- The end of a given run, if it passes the test. -/
theorem Reachable.exists_of_choice {β : Type*} {next : σ → β → Option σ} {s : σ}
    (start : M.Reachable s) (bs : List β) (test : σ → Bool)
    (sound : ∀ b ∈ bs, ∀ s t, next s b = some t → ∃ a, M.step s a t)
    (passes : (TransitionSystem.follow next bs s).any test = true) :
    ∃ t, M.Reachable t ∧ test t = true := by
  cases run : TransitionSystem.follow next bs s with
  | none =>
    rw [run] at passes
    cases passes
  | some t =>
    rw [run] at passes
    exact ⟨t, start.follow sound run, passes⟩

theorem Reachable.exists_of_follow {next : σ → α → Option σ} {s : σ} (start : M.Reachable s)
    (as : List α) (test : σ → Bool) (sound : ∀ a ∈ as, ∀ s t, next s a = some t → M.step s a t)
    (passes : (TransitionSystem.follow next as s).any test = true) :
    ∃ t, M.Reachable t ∧ test t = true :=
  start.exists_of_choice as test (fun a mem s t next => ⟨a, sound a mem s t next⟩) passes

end TransitionSystem
