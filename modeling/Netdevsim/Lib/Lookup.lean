import Mathlib.Tactic

/-!
# Looking up the only match of a request

A request is a list of attributes, each of some kind.  It selects an object if no kind occurs twice
in it and the object is the only one listed that has all attributes.

A collector reads a request one attribute after the other, and has room for one attribute of each
kind.  It need not see that a place is taken: attributes that do not count as given leave no trace.
So what it looks for is what is left of the request without them.  That comes to the same exactly
if the missing attributes would have made no difference.
-/

namespace Lookup

/-- What the attributes mean, which of them count as given, and the kinds of which one must be
given. -/
structure Rules (A κ X : Type*) where
  kind : A → κ
  has : X → A → Prop
  given : A → Bool
  identifies : κ → Prop

variable {A κ X Q : Type*} (R : Rules A κ X) {listed : Set X} {req : List A} {x : X}

namespace Rules

/-- No kind of attribute occurs twice. -/
def Single (req : List A) : Prop := req.Pairwise fun a b => R.kind a ≠ R.kind b

/-- The object is the only one listed that has all attributes. -/
def Only (listed : Set X) (req : List A) (x : X) : Prop :=
  x ∈ listed ∧ (∀ a ∈ req, R.has x a) ∧ ∀ y ∈ listed, (∀ a ∈ req, R.has y a) → y = x

/-- The request selects the object. -/
def Selects (listed : Set X) (req : List A) (x : X) : Prop :=
  R.Single req ∧ req ≠ [] ∧ R.Only listed req x

/-- What is left of the request. -/
def left (req : List A) : List A := req.filter R.given

/-- No attribute follows a given one of its kind. -/
def Unblocked (req : List A) : Prop := req.Pairwise fun a b => R.given a = true → R.kind a ≠ R.kind b

/-- An attribute is there of which one must be given. -/
def Identifies (req : List A) : Prop := ∃ a ∈ req, R.identifies (R.kind a)

/-- The object is found with what is left of the request. -/
def Finds (listed : Set X) (req : List A) (x : X) : Prop :=
  R.Unblocked req ∧ R.Identifies (R.left req) ∧ R.Only listed (R.left req) x

/-- The attributes that do not count make no difference: to a request without duplicates, of which
enough is left or not, and to one with duplicates that are not noticed. -/
structure Neutral (listed : Set X) (req : List A) : Prop where
  same : R.Single req → R.Identifies (R.left req) →
    ∀ x, R.Only listed (R.left req) x ↔ R.Only listed req x
  none : R.Single req → ¬R.Identifies (R.left req) → req ≠ [] → ∀ x, ¬R.Only listed req x
  twice : ¬R.Single req → R.Unblocked req → R.Identifies (R.left req) →
    ∀ x, ¬R.Only listed (R.left req) x

theorem Single.unblocked {R : Rules A κ X} (single : R.Single req) : R.Unblocked req := by
  refine List.Pairwise.imp ?_ single
  exact fun apart _ => apart

theorem Identifies.ne_nil {R : Rules A κ X} (some : R.Identifies (R.left req)) : req ≠ [] := by
  rintro rfl
  obtain ⟨a, mem, -⟩ := some
  exact absurd mem List.not_mem_nil

/-- What is found is what the request selects exactly if nothing that counts was lost. -/
theorem finds_iff_selects : (∀ x, R.Finds listed req x ↔ R.Selects listed req x) ↔
    R.Neutral listed req := by
  constructor
  · intro same
    refine ⟨fun single some x => ?_, fun single none some x only => ?_,
      fun twice unblocked some x only => ?_⟩
    · have here := same x
      simp only [Finds, Selects, single, single.unblocked, some, some.ne_nil, ne_eq, not_false_eq_true,
        true_and] at here
      exact here
    · exact none ((same x).2 ⟨single, some, only⟩).2.1
    · exact twice ((same x).1 ⟨unblocked, some, only⟩).1
  · intro neutral x
    constructor
    · rintro ⟨unblocked, some, only⟩
      by_cases single : R.Single req
      · exact ⟨single, some.ne_nil, (neutral.same single some x).1 only⟩
      · exact absurd only (neutral.twice single unblocked some x)
    · rintro ⟨single, some, only⟩
      by_cases enough : R.Identifies (R.left req)
      · exact ⟨single.unblocked, enough, (neutral.same single enough x).2 only⟩
      · exact absurd only (neutral.none single enough some x)

/-- If all attributes count and one is there that must be, none makes a difference. -/
theorem neutral_of_given (given : ∀ a ∈ req, R.given a = true) (some : R.Identifies req) :
    R.Neutral listed req := by
  have whole : R.left req = req := List.filter_eq_self.2 given
  refine ⟨fun _ _ x => by rw [whole], fun _ none => ?_, fun twice unblocked => ?_⟩
  · rw [whole] at none
    exact absurd some none
  · exact absurd (unblocked.imp_of_mem fun mem _ apart => apart (given _ mem)) twice

end Rules

/-! ## Collectors -/

/-- A collector stops at an attribute of a kind that it has.  What it has then tells which objects
it looks for, and whether it may look at all. -/
structure Collects (take : Q → A → Option Q) (has : Q → κ → Prop) (usable : Q → Prop)
    (test : Q → X → Prop) : Prop where
  blocked : ∀ {q a}, take q a = none ↔ has q (R.kind a)
  has : ∀ {q a q'}, take q a = some q' → ∀ k, has q' k ↔ has q k ∨ (R.given a = true ∧ R.kind a = k)
  usable : ∀ {q a q'}, take q a = some q' →
    (usable q' ↔ usable q ∨ (R.given a = true ∧ R.identifies (R.kind a)))
  test : ∀ {q a q'}, take q a = some q' → ∀ x, test q' x ↔ test q x ∧ (R.given a = true → R.has x a)

section Collects

variable {R} {take : Q → A → Option Q} {has : Q → κ → Prop} {usable : Q → Prop}
  {test : Q → X → Prop} {q q' : Q}

/-- The collector stops at a duplicate, or at what it had from the start. -/
theorem Collects.foldlM_eq_none (c : Collects R take has usable test) :
    req.foldlM take q = none ↔ ¬(R.Unblocked req ∧ ∀ a ∈ req, ¬has q (R.kind a)) := by
  induction req generalizing q with
  | nil => simp [Rules.Unblocked]
  | cons a req ih =>
    rw [List.foldlM_cons]
    cases next : take q a with
    | none =>
      have blocked := c.blocked.1 next
      exact iff_of_true rfl fun free => free.2 a List.mem_cons_self blocked
    | some q' =>
      have free : ¬has q (R.kind a) := by
        rw [← c.blocked, next]
        exact Option.some_ne_none q'
      have here := c.has next
      show req.foldlM take q' = none ↔ _
      rw [ih, not_iff_not]
      simp only [Rules.Unblocked, List.pairwise_cons, List.forall_mem_cons, here, not_or]
      constructor
      · rintro ⟨later, each⟩
        exact ⟨⟨fun b mem given same => (each b mem).2 ⟨given, same⟩, later⟩, free,
          fun b mem => (each b mem).1⟩
      · rintro ⟨⟨apart, later⟩, -, each⟩
        exact ⟨later, fun b mem => ⟨each b mem, fun both => apart b mem both.1 both.2⟩⟩

/-- What the collector looks for in the end. -/
theorem Collects.foldlM_eq_some (c : Collects R take has usable test)
    (all : req.foldlM take q = some q') :
    (usable q' ↔ usable q ∨ R.Identifies (R.left req)) ∧
      ∀ x, test q' x ↔ test q x ∧ ∀ a ∈ R.left req, R.has x a := by
  induction req generalizing q with
  | nil =>
    obtain rfl := Option.some.inj all
    simp [Rules.left, Rules.Identifies]
  | cons a req ih =>
    rw [List.foldlM_cons] at all
    cases next : take q a with
    | none =>
      rw [next] at all
      cases all
    | some q₁ =>
      rw [next] at all
      obtain ⟨usable', test'⟩ := ih all
      simp only [Rules.left, Rules.Identifies, List.mem_filter] at usable' test' ⊢
      refine ⟨?_, fun x => ?_⟩
      · rw [usable', c.usable next]
        simp only [List.mem_cons]
        grind
      · rw [test', c.test next]
        simp only [List.mem_cons]
        grind

/-- Attributes that leave no trace may be left out. -/
theorem foldlM_filter {keep : A → Bool} (skips : ∀ q a, keep a = false → take q a = some q) (q : Q) :
    (req.filter keep).foldlM take q = req.foldlM take q := by
  induction req generalizing q with
  | nil => rfl
  | cons a req ih =>
    cases kept : keep a with
    | true =>
      rw [List.filter_cons_of_pos kept, List.foldlM_cons, List.foldlM_cons]
      exact congrArg _ (funext ih)
    | false =>
      rw [List.filter_cons_of_neg (by simp [kept]), List.foldlM_cons, skips q a kept, ih]
      rfl

end Collects

/-! ## Searching -/

/-- The only element of a list, if there is just one. -/
theorem filter_eq_singleton_iff {xs : List X} (nodup : xs.Nodup) {test : X → Bool} :
    xs.filter test = [x] ↔ x ∈ xs ∧ test x = true ∧ ∀ y ∈ xs, test y = true → y = x := by
  constructor
  · intro single
    have mem : ∀ y, (y ∈ xs ∧ test y = true) ↔ y = x := by
      intro y
      rw [← List.mem_filter, single, List.mem_singleton]
    exact ⟨((mem x).2 rfl).1, ((mem x).2 rfl).2, fun y here has => (mem y).1 ⟨here, has⟩⟩
  · rintro ⟨here, has, only⟩
    refine List.perm_singleton.1 ((List.perm_ext_iff_of_nodup (nodup.filter _)
      (List.nodup_singleton x)).2 fun y => ?_)
    rw [List.mem_filter, List.mem_singleton]
    constructor
    · exact fun both => only y both.1 both.2
    · rintro rfl
      exact ⟨here, has⟩

end Lookup
