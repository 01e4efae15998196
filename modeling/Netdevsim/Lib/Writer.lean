import Netdevsim.Lib.Program

/-!
# Writing to a buffer of limited size

A program reads an environment and appends tokens to a buffer, and fails once a token has no room.
What it writes does not depend on how much room there is: if it succeeds in one buffer, then in
another one it appends the same, or fails with what was there before still in front.
-/

open Program

/-- What a program that writes works on: an environment, and the tokens in the buffer. -/
structure Writing (ρ τ : Type) where
  env : ρ
  cap : ℕ
  out : List τ

namespace Writing

variable {ρ τ ε α β : Type}

/-- The size of tokens. -/
def total (size : τ → ℕ) (w : List τ) : ℕ := (w.map size).sum

/-- A token is appended if there is room. -/
def put (size : τ → ℕ) (full : ε) (t : τ) : Program (Writing ρ τ) ε Unit := do
  let s ← get
  if s.cap < total size s.out + size t then throw full
  else set { s with out := s.out ++ [t] }

/-- A token that needs no room is appended. -/
def close (t : τ) : Program (Writing ρ τ) ε Unit := modify fun s => { s with out := s.out ++ [t] }

/-- The number of tokens in the buffer. -/
def position : Program (Writing ρ τ) ε ℕ := do
  let s ← get
  return s.out.length

/-- All tokens from a position on are removed. -/
def trim (n : ℕ) : Program (Writing ρ τ) ε Unit := modify fun s => { s with out := s.out.take n }

/-- A part that is closed when it succeeds, and cleaned up when it fails. -/
def bracket (start : Program (Writing ρ τ) ε Unit) (stop : τ)
    (cleanup : ℕ → Program (Writing ρ τ) ε Unit) (body : Program (Writing ρ τ) ε Unit) :
    Program (Writing ρ τ) ε Unit := do
  let n ← position
  start
  unwind (cleanup n) body
  close stop

/-- Nothing that was in the buffer is gone. -/
structure Extends (s t : Writing ρ τ) : Prop where
  env : t.env = s.env
  cap : t.cap = s.cap
  out : s.out <+: t.out

variable {size : τ → ℕ} {full : ε} {s t : Writing ρ τ} {env : ρ} {m : Program (Writing ρ τ) ε α}
  {f : α → Program (Writing ρ τ) ε β} {a : α} {b : β} {w w' : List τ} {cap : ℕ}

theorem Extends.refl : Extends s s := ⟨rfl, rfl, List.prefix_rfl⟩

theorem Extends.trans {u : Writing ρ τ} (first : Extends s t) (second : Extends t u) : Extends s u :=
  ⟨second.env.trans first.env, second.cap.trans first.cap, first.out.trans second.out⟩

theorem extends_append (env : ρ) (cap : ℕ) (out w : List τ) :
    Extends ⟨env, cap, out⟩ ⟨env, cap, out ++ w⟩ := ⟨rfl, rfl, List.prefix_append out w⟩

theorem total_append : total size (w ++ w') = total size w + total size w' := by
  rw [total, List.map_append, List.sum_append]
  rfl

theorem total_singleton {x : τ} : total size [x] = size x := by simp [total]

/-- In every buffer the program returns `a` and appends `w`, or has no room for all of `w`. -/
def Appends (size : τ → ℕ) (full : ε) (m : Program (Writing ρ τ) ε α) (env : ρ) (a : α)
    (w : List τ) : Prop :=
  ∀ cap out, total size out ≤ cap →
    (total size (out ++ w) ≤ cap → m.exec ⟨env, cap, out⟩ = some (.ok a, ⟨env, cap, out ++ w⟩)) ∧
      (cap < total size (out ++ w) → ∃ t, m.exec ⟨env, cap, out⟩ = some (.error full, t) ∧
        Extends ⟨env, cap, out⟩ t)

/-- If the program succeeds, then it does the same in every buffer. -/
def Steady (size : τ → ℕ) (full : ε) (m : Program (Writing ρ τ) ε α) : Prop :=
  ∀ s t a, total size s.out ≤ s.cap → m.exec s = some (.ok a, t) →
    ∃ w, t = ⟨s.env, s.cap, s.out ++ w⟩ ∧ total size t.out ≤ t.cap ∧ Appends size full m s.env a w

/-! ## What appends what -/

theorem appends_pure : Appends size full (pure a : Program (Writing ρ τ) ε α) env a [] := by
  intro cap out room
  rw [List.append_nil]
  exact ⟨fun _ => rfl, fun less => absurd room (not_le.2 less)⟩

/-- Reading without writing. -/
theorem appends_of_read (read : ∀ cap out, m.exec ⟨env, cap, out⟩ = some (.ok a, ⟨env, cap, out⟩)) :
    Appends size full m env a [] := by
  intro cap out room
  rw [List.append_nil]
  exact ⟨fun _ => read cap out, fun less => absurd room (not_le.2 less)⟩

theorem exec_put (x : τ) (out : List τ) :
    (put size full x : Program (Writing ρ τ) ε Unit).exec ⟨env, cap, out⟩ =
      if cap < total size out + size x then some (.error full, ⟨env, cap, out⟩)
      else some (.ok (), ⟨env, cap, out ++ [x]⟩) := by
  show ((if cap < total size out + size x then throw full
    else set (⟨env, cap, out ++ [x]⟩ : Writing ρ τ)) : Program (Writing ρ τ) ε Unit).exec _ = _
  split_ifs <;> rfl

theorem appends_put (x : τ) :
    Appends size full (put size full x : Program (Writing ρ τ) ε Unit) env () [x] := by
  intro cap out _
  rw [total_append, total_singleton, exec_put]
  exact ⟨fun room => if_neg (not_lt.2 room), fun less => ⟨_, if_pos less, .refl⟩⟩

/-- If the program succeeds, then all had room. -/
theorem Appends.of_ok (appends : Appends size full m env a w) {out : List τ} {b : α}
    (room : total size out ≤ cap) (run : m.exec ⟨env, cap, out⟩ = some (.ok b, t)) :
    b = a ∧ t = ⟨env, cap, out ++ w⟩ ∧ total size (out ++ w) ≤ cap := by
  obtain ⟨ok, error⟩ := appends cap out room
  by_cases fits : total size (out ++ w) ≤ cap
  · rw [ok fits] at run
    cases run
    exact ⟨rfl, rfl, fits⟩
  · obtain ⟨u, failed, -⟩ := error (not_le.1 fits)
    rw [failed] at run
    cases run

/-- One after the other. -/
theorem Appends.bind (first : Appends size full m env a w) (rest : Appends size full (f a) env b w') :
    Appends size full (m >>= f) env b (w ++ w') := by
  intro cap out room
  obtain ⟨ok, error⟩ := first cap out room
  rw [← List.append_assoc]
  rw [exec_bind]
  by_cases fits : total size (out ++ w) ≤ cap
  · rw [ok fits]
    obtain ⟨ok', error'⟩ := rest cap (out ++ w) fits
    refine ⟨ok', fun less => ?_⟩
    obtain ⟨t, run, kept⟩ := error' less
    exact ⟨t, run, (extends_append env cap out w).trans kept⟩
  · obtain ⟨t, run, kept⟩ := error (not_le.1 fits)
    rw [run, total_append]
    refine ⟨fun fits' => absurd fits' ?_, fun _ => ⟨t, rfl, kept⟩⟩
    omega

/-- A cleanup that leaves what was in the buffer up to a position. -/
def Cleans (cleanup : ℕ → Program (Writing ρ τ) ε Unit) : Prop :=
  ∀ n s, ∃ t, (cleanup n).exec s = some (.ok (), t) ∧ t.env = s.env ∧ t.cap = s.cap ∧
    s.out.take n <+: t.out

theorem cleans_trim : Cleans (trim : ℕ → Program (Writing ρ τ) ε Unit) :=
  fun n s => ⟨{ s with out := s.out.take n }, rfl, rfl, rfl, List.prefix_rfl⟩

theorem cleans_close (x : τ) : Cleans fun _ => (close x : Program (Writing ρ τ) ε Unit) := by
  refine fun n s => ⟨{ s with out := s.out ++ [x] }, rfl, rfl, rfl, ?_⟩
  exact (List.take_prefix n s.out).trans (List.prefix_append s.out [x])

/-- Nothing is left of what was written on top. -/
theorem exec_trim_of_extends {out more : List τ} (kept : Extends ⟨env, cap, out ++ more⟩ t) :
    (trim out.length : Program (Writing ρ τ) ε Unit).exec t = some (.ok (), ⟨env, cap, out⟩) := by
  obtain ⟨env', cap', out'⟩ := t
  obtain rfl : env' = env := kept.env
  obtain rfl : cap' = cap := kept.cap
  obtain ⟨rest, there⟩ : out ++ more <+: out' := kept.out
  have left : out'.take out.length = out := by
    rw [← there, List.append_assoc]
    exact List.take_left
  show some (Except.ok (), (⟨env', cap', out'.take out.length⟩ : Writing ρ τ)) = _
  rw [left]

/-- A body that fails is cleaned up to where it started. -/
theorem Appends.unwind {cleanup : ℕ → Program (Writing ρ τ) ε Unit} (cleans : Cleans cleanup)
    (body : Appends size full m env a w) {out before : List τ}
    (room : total size (before ++ out) ≤ cap) :
    (total size (before ++ out ++ w) ≤ cap →
        (unwind (cleanup before.length) m).exec ⟨env, cap, before ++ out⟩ =
          some (.ok a, ⟨env, cap, before ++ out ++ w⟩)) ∧
      (cap < total size (before ++ out ++ w) → ∃ t,
        (unwind (cleanup before.length) m).exec ⟨env, cap, before ++ out⟩ = some (.error full, t) ∧
          Extends ⟨env, cap, before⟩ t) := by
  obtain ⟨ok, error⟩ := body cap (before ++ out) room
  rw [exec_unwind]
  constructor
  · intro fits
    rw [ok fits]
  · intro less
    obtain ⟨t, run, kept⟩ := error less
    obtain ⟨u, cleaned, env', cap', left⟩ := cleans before.length t
    rw [run]
    dsimp only
    rw [exec_bind, cleaned]
    refine ⟨u, rfl, env'.trans kept.env, cap'.trans kept.cap, List.IsPrefix.trans ?_ left⟩
    obtain ⟨more, out'⟩ := kept.out
    dsimp only at out'
    rw [← out', List.append_assoc, List.take_left']
    rfl

theorem Appends.bracket {start body : Program (Writing ρ τ) ε Unit} {stop : τ}
    {cleanup : ℕ → Program (Writing ρ τ) ε Unit} (cleans : Cleans cleanup) (small : size stop = 0)
    (opens : Appends size full start env () w) (inside : Appends size full body env () w') :
    Appends size full (Writing.bracket start stop cleanup body) env () (w ++ w' ++ [stop]) := by
  intro cap out room
  obtain ⟨ok, error⟩ := opens cap out room
  have here : (Writing.bracket start stop cleanup body).exec ⟨env, cap, out⟩ =
      (start >>= fun _ => Program.unwind (cleanup out.length) body >>= fun _ => close stop).exec
        ⟨env, cap, out⟩ := rfl
  rw [here, exec_bind]
  simp only [total_append, total_singleton, small, Nat.add_zero] at ok error ⊢
  by_cases fits : total size out + total size w ≤ cap
  · rw [ok fits]
    have room' : total size (out ++ w) ≤ cap := by rwa [total_append]
    obtain ⟨ok', error'⟩ := inside.unwind cleans room'
    simp only [total_append] at ok' error'
    dsimp only
    rw [exec_bind]
    constructor
    · intro fits'
      rw [ok' (by omega)]
      show some (_, _) = some (_, _)
      simp only [List.append_assoc]
    · intro less
      obtain ⟨t, run, kept⟩ := error' (by omega)
      rw [run]
      exact ⟨t, rfl, kept⟩
  · obtain ⟨t, run, kept⟩ := error (not_le.1 fits)
    rw [run]
    exact ⟨fun fits' => absurd fits' (by omega), fun _ => ⟨t, rfl, kept⟩⟩

/-! ## What succeeds alike in all buffers -/

theorem steady_pure : Steady size full (pure a : Program (Writing ρ τ) ε α) := by
  intro s t b room run
  cases run
  exact ⟨[], by rw [List.append_nil], room, appends_pure⟩

theorem steady_throw (e : ε) : Steady size full (throw e : Program (Writing ρ τ) ε α) :=
  fun _ _ _ _ run => by cases run

theorem steady_goWrong : Steady size full (goWrong : Program (Writing ρ τ) ε α) :=
  fun _ _ _ _ run => by cases run

/-- A program that looks at the environment only. -/
theorem steady_read (look : ρ → Option (Except ε α))
    (reads : ∀ s, m.exec s = (look s.env).map fun r => (r, s)) : Steady size full m := by
  intro s t b room run
  rw [reads] at run
  obtain ⟨r, found, same⟩ := Option.map_eq_some_iff.1 run
  obtain ⟨rfl, rfl⟩ := Prod.mk.inj same
  refine ⟨[], by rw [List.append_nil], room, appends_of_read fun cap out => ?_⟩
  rw [reads, found]
  rfl

theorem steady_put (x : τ) :
    Steady size full (put size full x : Program (Writing ρ τ) ε Unit) := by
  intro s t b room run
  have appends : Appends size full (put size full x : Program (Writing ρ τ) ε Unit) s.env () [x] :=
    appends_put x
  obtain ⟨-, rfl, fits⟩ := appends.of_ok room run
  exact ⟨[x], rfl, fits, appends⟩

theorem Steady.bind (first : Steady size full m) (rest : ∀ a, Steady size full (f a)) :
    Steady size full (m >>= f) := by
  intro s t b room run
  rw [exec_bind] at run
  split at run
  · cases run
  · rename_i a u ran
    obtain ⟨w, rfl, room', appends⟩ := first s u a room ran
    obtain ⟨w', rfl, room'', appends'⟩ := rest a _ t b room' run
    exact ⟨w ++ w', by rw [List.append_assoc], room'', appends.bind appends'⟩
  · cases run

theorem steady_forM {xs : List α} {g : α → Program (Writing ρ τ) ε PUnit}
    (each : ∀ x ∈ xs, Steady size full (g x)) : Steady size full (xs.forM g) := by
  induction xs with
  | nil => exact steady_pure
  | cons x xs ih =>
    show Steady size full (g x >>= fun _ => xs.forM g)
    exact (each x List.mem_cons_self).bind fun _ =>
      ih fun y mem => each y (List.mem_cons_of_mem _ mem)

theorem steady_bracket {start body : Program (Writing ρ τ) ε Unit} {stop : τ}
    {cleanup : ℕ → Program (Writing ρ τ) ε Unit} (cleans : Cleans cleanup) (small : size stop = 0)
    (opens : Steady size full start) (inside : Steady size full body) :
    Steady size full (bracket start stop cleanup body) := by
  intro s t b room run
  have here : (bracket start stop cleanup body).exec s =
      (start >>= fun _ => unwind (cleanup s.out.length) body >>= fun _ => close stop).exec s := rfl
  rw [here, exec_bind] at run
  split at run
  · cases run
  · rename_i ran
    obtain ⟨w, rfl, room', appends⟩ := opens s _ () room ran
    rw [exec_bind] at run
    split at run
    · cases run
    · rename_i ran'
      obtain ⟨w', rfl, room'', appends'⟩ := inside _ _ () room' (exec_unwind_eq_ok.1 ran')
      cases run
      refine ⟨w ++ w' ++ [stop], ?_, ?_, appends.bracket cleans small appends'⟩
      · simp only [List.append_assoc]
      · dsimp only at room'' ⊢
        rw [total_append, total_singleton, small]
        exact room''
    · cases run
  · cases run

end Writing
