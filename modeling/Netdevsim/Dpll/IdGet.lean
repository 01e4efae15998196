import Mathlib.Data.List.DropRight
import Netdevsim.Dpll.Listed
import Netdevsim.Dpll.PinSet
import Netdevsim.Lib.Lookup

/-!
# The ids of pins and devices

A request for an id names what is known of a pin or a device.  Whether the clock id or the type is
given is told by its value, so a zero counts as nothing.  A lookup finds the only match exactly if
the zeros make no difference, and if more than the type is known of a pin.
-/

namespace Netdevsim

open Program

/-! ## Strings -/

/-- `module_name`, given the names of modules. -/
def moduleName (names : Ptr → Bytes) (module : Ptr) : Option Bytes :=
  some (if module = 0 then ascii "kernel" else names module)

/-- The text of an attribute: zero bytes at the end do not count. -/
def nlaText (nla : Bytes) : Bytes := nla.rdropWhile (· = 0)

/-- `memcmp` of strings of one length. -/
def memcmp (a b : Bytes) : ℤ := if a = b then 0 else if a < b then -1 else 1

/-- `nla_strcmp`. -/
def nlaStrcmp (nla str : Bytes) : ℤ :=
  let d : ℤ := (nlaText nla).length - str.length
  if d = 0 then memcmp (nlaText nla) str else d

theorem nlaStrcmp_eq_zero {nla str : Bytes} : nlaStrcmp nla str = 0 ↔ nlaText nla = str := by
  unfold nlaStrcmp memcmp
  dsimp only
  split_ifs with length same less
  · exact iff_of_true rfl same
  · exact iff_of_false (by decide) same
  · exact iff_of_false (by decide) same
  · refine iff_of_false length fun same => length ?_
    rw [same, sub_self]

/-! ## Lookups -/

section Lookups

variable {δ A Q : Type}

/-- The loop of `dpll_pin_find` and `dpll_device_find` over what is marked. -/
def findMatch (test : Ptr → KernelM Bool) (found : Option Ptr) : List Ptr → NlM δ Ptr
  | [] =>
    match found with
    | none => do
      nlSetErrMsg "not found"
      throw .ENODEV
    | some x => return x
  | x :: rest => do
    if ← onKernel (test x) then
      match found with
      | some _ =>
        nlSetErrMsg "multiple matches"
        throw .EINVAL
      | none => findMatch test (some x) rest
    else findMatch test found rest

/-- The body of `dpll_pin_find_from_nlattr` and `dpll_device_find_from_nlattr`, which differ in the
attributes that they take, in what must be given and in what they look for. -/
def findFromNlattr (take : Q → A → Option Q) (start : Q) (usable : Q → Bool)
    (find : Q → NlM δ Ptr) (attrs : List A) : NlM δ Ptr :=
  match attrs.foldlM take start with
  | none => do
    nlSetErrMsg "duplicated attribute"
    throw .EINVAL
  | some q =>
    if usable q then find q
    else do
      nlSetErrMsg "missing attributes"
      throw .EINVAL

/-! ### Pins -/

/-- An attribute of a request for the id of a pin. -/
inductive PinIdAttr where
  | clockId (clockId : UInt64)
  | moduleName (nla : Bytes)
  | type (type : UInt32)
  | boardLabel (nla : Bytes)
  | panelLabel (nla : Bytes)
  | packageLabel (nla : Bytes)
  | other
  deriving DecidableEq, Repr

/-- The attributes read so far. -/
structure PinQuery where
  clockId : UInt64
  modNameAttr : Option Bytes
  type : UInt32
  boardLabelAttr : Option Bytes
  panelLabelAttr : Option Bytes
  packageLabelAttr : Option Bytes
  deriving DecidableEq, Repr

def PinQuery.start : PinQuery := ⟨0, none, 0, none, none, none⟩

/-- The body of the loop of `dpll_pin_find_from_nlattr`, and nothing for `goto duplicated_attr`. -/
def PinQuery.take (q : PinQuery) : PinIdAttr → Option PinQuery
  | .clockId clockId => if q.clockId ≠ 0 then none else some { q with clockId }
  | .moduleName nla => if q.modNameAttr.isSome then none else some { q with modNameAttr := nla }
  | .type type => if q.type ≠ 0 then none else some { q with type }
  | .boardLabel nla =>
    if q.boardLabelAttr.isSome then none else some { q with boardLabelAttr := nla }
  | .panelLabel nla =>
    if q.panelLabelAttr.isSome then none else some { q with panelLabelAttr := nla }
  | .packageLabel nla =>
    if q.packageLabelAttr.isSome then none else some { q with packageLabelAttr := nla }
  | .other => some q

/-- More is known of the pin than its type. -/
def PinQuery.usable (q : PinQuery) : Bool :=
  q.clockId ≠ 0 || q.modNameAttr.isSome || q.boardLabelAttr.isSome || q.panelLabelAttr.isSome ||
    q.packageLabelAttr.isSome

/-- A label of a pin matches. -/
def labelMatch (nla label : Option Bytes) : Bool :=
  match nla with
  | none => true
  | some nla => match label with
    | some label => nlaStrcmp nla label = 0
    | none => false

/-- The body of the loop of `dpll_pin_find`. -/
def PinQuery.isMatch (names : Ptr → Bytes) (q : PinQuery) (p : DpllPin) : Bool :=
  let cidMatch : Bool := if q.clockId ≠ 0 then p.clockId = q.clockId else true
  let modMatch : Bool := match q.modNameAttr, Netdevsim.moduleName names p.module with
    | some nla, some name => nlaStrcmp nla name = 0
    | _, _ => true
  let typeMatch : Bool := if q.type ≠ 0 then p.prop.type = q.type.toNat else true
  let boardMatch := labelMatch q.boardLabelAttr p.prop.boardLabel
  let panelMatch := labelMatch q.panelLabelAttr p.prop.panelLabel
  let packageMatch := labelMatch q.packageLabelAttr p.prop.packageLabel
  cidMatch && modMatch && typeMatch && boardMatch && panelMatch && packageMatch

/-- `dpll_pin_find`. -/
def dpllPinFind (names : Ptr → Bytes) (q : PinQuery) : NlM δ Ptr := do
  let s ← get
  let test (pin : Ptr) : KernelM Bool := do
    let p ← derefPin pin
    return q.isMatch names p
  findMatch test none ((s.kernel.pinXa.markedFrom 0).map XEntry.value)

/-- `dpll_pin_find_from_nlattr`. -/
def dpllPinFindFromNlattr (names : Ptr → Bytes) : List PinIdAttr → NlM δ Ptr :=
  findFromNlattr PinQuery.take .start PinQuery.usable (dpllPinFind names)

/-! ### Devices -/

/-- An attribute of a request for the id of a device. -/
inductive DeviceIdAttr where
  | clockId (clockId : UInt64)
  | moduleName (nla : Bytes)
  | type (type : UInt32)
  | other
  deriving DecidableEq, Repr

/-- The attributes read so far. -/
structure DeviceQuery where
  clockId : UInt64
  modNameAttr : Option Bytes
  type : UInt32
  deriving DecidableEq, Repr

def DeviceQuery.start : DeviceQuery := ⟨0, none, 0⟩

/-- The body of the loop of `dpll_device_find_from_nlattr`. -/
def DeviceQuery.take (q : DeviceQuery) : DeviceIdAttr → Option DeviceQuery
  | .clockId clockId => if q.clockId ≠ 0 then none else some { q with clockId }
  | .moduleName nla => if q.modNameAttr.isSome then none else some { q with modNameAttr := nla }
  | .type type => if q.type ≠ 0 then none else some { q with type }
  | .other => some q

/-- Something is known of the device. -/
def DeviceQuery.usable (q : DeviceQuery) : Bool :=
  q.clockId ≠ 0 || q.modNameAttr.isSome || q.type ≠ 0

/-- The body of the loop of `dpll_device_find`. -/
def DeviceQuery.isMatch (names : Ptr → Bytes) (q : DeviceQuery) (d : DpllDevice) : Bool :=
  let cidMatch : Bool := if q.clockId ≠ 0 then d.clockId = q.clockId else true
  let modMatch : Bool := match q.modNameAttr with
    | none => true
    | some nla => match Netdevsim.moduleName names d.module with
      | some name => nlaStrcmp nla name = 0
      | none => false
  let typeMatch : Bool := if q.type ≠ 0 then d.type = q.type.toNat else true
  cidMatch && modMatch && typeMatch

/-- `dpll_device_find`. -/
def dpllDeviceFind (names : Ptr → Bytes) (q : DeviceQuery) : NlM δ Ptr := do
  let s ← get
  let test (dpll : Ptr) : KernelM Bool := do
    let d ← derefDevice dpll
    return q.isMatch names d
  findMatch test none ((s.kernel.deviceXa.markedFrom 0).map XEntry.value)

/-- `dpll_device_find_from_nlattr`. -/
def dpllDeviceFindFromNlattr (names : Ptr → Bytes) : List DeviceIdAttr → NlM δ Ptr :=
  findFromNlattr DeviceQuery.take .start DeviceQuery.usable (dpllDeviceFind names)

end Lookups

/-! ## What a request asks for -/

/-- The kinds of attributes, of pins and of devices. -/
inductive IdKind where
  | clockId | moduleName | type | boardLabel | panelLabel | packageLabel | other
  deriving DecidableEq, Repr

def PinIdAttr.kind : PinIdAttr → IdKind
  | .clockId _ => .clockId
  | .moduleName _ => .moduleName
  | .type _ => .type
  | .boardLabel _ => .boardLabel
  | .panelLabel _ => .panelLabel
  | .packageLabel _ => .packageLabel
  | .other => .other

def DeviceIdAttr.kind : DeviceIdAttr → IdKind
  | .clockId _ => .clockId
  | .moduleName _ => .moduleName
  | .type _ => .type
  | .other => .other

/-- The pin has the value of the attribute. -/
def DpllPin.HasAttr (names : Ptr → Bytes) (p : DpllPin) : PinIdAttr → Prop
  | .clockId clockId => p.clockId = clockId
  | .moduleName nla => moduleName names p.module = some (nlaText nla)
  | .type type => p.prop.type = type.toNat
  | .boardLabel nla => p.prop.boardLabel = some (nlaText nla)
  | .panelLabel nla => p.prop.panelLabel = some (nlaText nla)
  | .packageLabel nla => p.prop.packageLabel = some (nlaText nla)
  | .other => True

/-- The device has the value of the attribute. -/
def DpllDevice.HasAttr (names : Ptr → Bytes) (d : DpllDevice) : DeviceIdAttr → Prop
  | .clockId clockId => d.clockId = clockId
  | .moduleName nla => moduleName names d.module = some (nlaText nla)
  | .type type => d.type = type.toNat
  | .other => True

/-- An attribute whose value is seen to be there. -/
def PinIdAttr.given : PinIdAttr → Bool
  | .clockId value => value ≠ 0
  | .type value => value ≠ 0
  | .moduleName _ | .boardLabel _ | .panelLabel _ | .packageLabel _ => true
  | .other => false

def DeviceIdAttr.given : DeviceIdAttr → Bool
  | .clockId value => value ≠ 0
  | .moduleName _ => true
  | .type value => value ≠ 0
  | .other => false

/-- The attributes of pins.  The type alone is not enough. -/
def pinRules (k : KernelState) (names : Ptr → Bytes) : Lookup.Rules PinIdAttr IdKind Ptr where
  kind := PinIdAttr.kind
  has pin a := ∃ p, k.pin pin = some p ∧ p.HasAttr names a
  given := PinIdAttr.given
  identifies kind := kind ≠ .type

/-- The attributes of devices.  Any of them is enough. -/
def deviceRules (k : KernelState) (names : Ptr → Bytes) : Lookup.Rules DeviceIdAttr IdKind Ptr where
  kind := DeviceIdAttr.kind
  has dpll a := ∃ d, k.device dpll = some d ∧ d.HasAttr names a
  given := DeviceIdAttr.given
  identifies _ := True

/-! ## What the lookups find -/

/-- The lookup ends, and what it returns is what has the property.  It fails if nothing has it. -/
def FindsOnly {δ : Type} (m : NlM δ Ptr) (s : NlState δ) (S : Ptr → Prop) : Prop :=
  ∃ r t, m.exec s = some (r, t) ∧ ∀ x, r = .ok x ↔ S x

section Finds

variable {δ A Q : Type} {s : NlState δ} {k : KernelState} {names : Ptr → Bytes}

/-- The loop finds the only match. -/
theorem findsOnly_findMatch {test : Ptr → KernelM Bool} {holds : Ptr → Bool} {xs : List Ptr}
    (each : ∀ x ∈ xs, (test x).exec s.kernel = some (.ok (holds x), s.kernel)) (found : Option Ptr) :
    FindsOnly (findMatch test found xs) s fun x => found.toList ++ xs.filter holds = [x] := by
  induction xs generalizing found with
  | nil =>
    cases found with
    | none => exact ⟨_, _, rfl, fun x => by simp⟩
    | some y => exact ⟨_, _, rfl, fun x => by simp⟩
  | cons x xs ih =>
    have later := ih fun y mem => each y (List.mem_cons_of_mem _ mem)
    have tested := exec_onKernel_of_read (each x List.mem_cons_self)
    unfold FindsOnly findMatch
    rw [exec_bind_of_ok tested]
    cases here : holds x with
    | false =>
      rw [List.filter_cons_of_neg (by simp [here])]
      exact later found
    | true =>
      rw [List.filter_cons_of_pos here]
      cases found with
      | none => exact later (some x)
      | some y => exact ⟨_, _, rfl, fun z => by simp⟩

/-- What is listed and matches is found if there is nothing else. -/
theorem findsOnly_find {test : Ptr → KernelM Bool} {holds : Ptr → Bool} {xs : List Ptr}
    (nodup : xs.Nodup)
    (each : ∀ x ∈ xs, (test x).exec s.kernel = some (.ok (holds x), s.kernel)) :
    FindsOnly (findMatch test none xs) s fun x =>
      x ∈ xs ∧ holds x = true ∧ ∀ y ∈ xs, holds y = true → y = x := by
  obtain ⟨r, t, run, found⟩ := findsOnly_findMatch each none
  refine ⟨r, t, run, fun x => (found x).trans ?_⟩
  exact Lookup.filter_eq_singleton_iff nodup

/-- A lookup by attributes finds what is left of the request asks for. -/
theorem findsOnly_findFromNlattr {R : Lookup.Rules A IdKind Ptr} {listed : Set Ptr}
    {take : Q → A → Option Q} {has : Q → IdKind → Prop} {usable : Q → Bool}
    {test : Q → Ptr → Prop} {start : Q} {find : Q → NlM δ Ptr} {attrs : List A}
    (c : Lookup.Collects R take has (fun q => usable q = true) test) (fresh : ∀ kind, ¬has start kind)
    (unusable : usable start = false) (anything : ∀ x ∈ listed, test start x)
    (finds : ∀ q, FindsOnly (find q) s fun x =>
      x ∈ listed ∧ test q x ∧ ∀ y ∈ listed, test q y → y = x) :
    FindsOnly (findFromNlattr take start usable find attrs) s (R.Finds listed attrs) := by
  unfold findFromNlattr
  cases collected : attrs.foldlM take start with
  | none =>
    have blocked := c.foldlM_eq_none.1 collected
    refine ⟨_, _, rfl, fun x => iff_of_false nofun fun found => blocked ?_⟩
    exact ⟨found.1, fun a _ => fresh _⟩
  | some q =>
    obtain ⟨enough, matched⟩ := c.foldlM_eq_some collected
    have unblocked : R.Unblocked attrs := by
      by_contra blocked
      have stopped : attrs.foldlM take start = none :=
        c.foldlM_eq_none.2 fun both => blocked both.1
      rw [stopped] at collected
      cases collected
    rw [unusable] at enough
    dsimp only
    split
    · rename_i yes
      obtain ⟨r, t, run, found⟩ := finds q
      refine ⟨r, t, run, fun x => (found x).trans ?_⟩
      have tested : ∀ y ∈ listed, test q y ↔ ∀ a ∈ R.left attrs, R.has y a := fun y mem =>
        (matched y).trans (and_iff_right (anything y mem))
      have identified : R.Identifies (R.left attrs) := (enough.1 yes).resolve_left Bool.false_ne_true
      unfold Lookup.Rules.Finds Lookup.Rules.Only
      constructor
      · rintro ⟨mem, fits, only⟩
        exact ⟨unblocked, identified, mem, (tested x mem).1 fits,
          fun y mem' fits' => only y mem' ((tested y mem').2 fits')⟩
      · rintro ⟨-, -, mem, fits, only⟩
        exact ⟨mem, (tested x mem).2 fits,
          fun y mem' fits' => only y mem' ((tested y mem').1 fits')⟩
    · rename_i no
      refine ⟨_, _, rfl, fun x => iff_of_false nofun fun found => no ?_⟩
      exact enough.2 (.inr found.2.1)

/-- What is kept of a kind of attribute of a pin. -/
def PinQuery.has (q : PinQuery) : IdKind → Prop
  | .clockId => q.clockId ≠ 0
  | .moduleName => q.modNameAttr.isSome = true
  | .type => q.type ≠ 0
  | .boardLabel => q.boardLabelAttr.isSome = true
  | .panelLabel => q.panelLabelAttr.isSome = true
  | .packageLabel => q.packageLabelAttr.isSome = true
  | .other => False

def DeviceQuery.has (q : DeviceQuery) : IdKind → Prop
  | .clockId => q.clockId ≠ 0
  | .moduleName => q.modNameAttr.isSome = true
  | .type => q.type ≠ 0
  | _ => False

/-- A taken attribute of a pin is kept if it is seen to be there, and nothing else changes. -/
theorem PinQuery.has_take {q q' : PinQuery} {a : PinIdAttr} (taken : q.take a = some q')
    (kind : IdKind) : q'.has kind ↔ q.has kind ∨ (a.given = true ∧ a.kind = kind) := by
  cases a
  case other =>
    cases taken
    simp [PinIdAttr.given]
  all_goals
    simp only [PinQuery.take] at taken
    split at taken
    · cases taken
    · cases taken
      cases kind <;> simp_all [PinQuery.has, PinIdAttr.given, PinIdAttr.kind]

theorem labelMatch_iff {nla label : Option Bytes} :
    labelMatch nla label = true ↔ ∀ n, nla = some n → label = some (nlaText n) := by
  unfold labelMatch
  cases nla with
  | none => simp
  | some n =>
    cases label with
    | none => simp
    | some text => simp [nlaStrcmp_eq_zero, eq_comm]

theorem PinQuery.isMatch_iff {q : PinQuery} {p : DpllPin} : q.isMatch names p = true ↔
    (q.clockId ≠ 0 → p.HasAttr names (.clockId q.clockId)) ∧
      (∀ nla, q.modNameAttr = some nla → p.HasAttr names (.moduleName nla)) ∧
      (q.type ≠ 0 → p.HasAttr names (.type q.type)) ∧
      (∀ nla, q.boardLabelAttr = some nla → p.HasAttr names (.boardLabel nla)) ∧
      (∀ nla, q.panelLabelAttr = some nla → p.HasAttr names (.panelLabel nla)) ∧
      ∀ nla, q.packageLabelAttr = some nla → p.HasAttr names (.packageLabel nla) := by
  unfold isMatch DpllPin.HasAttr moduleName
  simp only [Bool.and_eq_true, labelMatch_iff, and_assoc]
  refine and_congr (by split <;> simp_all) (and_congr ?_ (and_congr (by split <;> simp_all) Iff.rfl))
  cases q.modNameAttr with
  | none => simp
  | some nla =>
    simp only [decide_eq_true_eq, nlaStrcmp_eq_zero, Option.some.injEq, forall_eq']
    exact eq_comm

/-- What was there is matched still, and the new attribute if it is seen to be there. -/
theorem PinQuery.isMatch_take {q q' : PinQuery} {a : PinIdAttr} (taken : q.take a = some q')
    (p : DpllPin) :
    q'.isMatch names p = true ↔ q.isMatch names p = true ∧ (a.given = true → p.HasAttr names a) := by
  cases a
  case other =>
    cases taken
    simp [PinIdAttr.given]
  all_goals
    simp only [PinQuery.take] at taken
    split at taken
    · cases taken
    · cases taken
      simp_all [PinQuery.isMatch_iff, PinIdAttr.given]
      tauto

theorem PinQuery.usable_take {q q' : PinQuery} {a : PinIdAttr} (taken : q.take a = some q') :
    q'.usable = true ↔ q.usable = true ∨ (a.given = true ∧ a.kind ≠ .type) := by
  cases a
  case other =>
    cases taken
    simp [PinIdAttr.given]
  all_goals
    simp only [PinQuery.take] at taken
    split at taken
    · cases taken
    · cases taken
      simp_all [PinQuery.usable, PinIdAttr.given, PinIdAttr.kind, or_assoc, or_comm]

theorem DeviceQuery.has_take {q q' : DeviceQuery} {a : DeviceIdAttr} (taken : q.take a = some q')
    (kind : IdKind) : q'.has kind ↔ q.has kind ∨ (a.given = true ∧ a.kind = kind) := by
  cases a
  case other =>
    cases taken
    simp [DeviceIdAttr.given]
  all_goals
    simp only [DeviceQuery.take] at taken
    split at taken
    · cases taken
    · cases taken
      cases kind <;> simp_all [DeviceQuery.has, DeviceIdAttr.given, DeviceIdAttr.kind]

theorem DeviceQuery.isMatch_iff {q : DeviceQuery} {d : DpllDevice} : q.isMatch names d = true ↔
    (q.clockId ≠ 0 → d.HasAttr names (.clockId q.clockId)) ∧
      (∀ nla, q.modNameAttr = some nla → d.HasAttr names (.moduleName nla)) ∧
      (q.type ≠ 0 → d.HasAttr names (.type q.type)) := by
  unfold isMatch DpllDevice.HasAttr moduleName
  simp only [Bool.and_eq_true, and_assoc]
  refine and_congr (by split <;> simp_all) (and_congr ?_ (by split <;> simp_all))
  cases q.modNameAttr with
  | none => simp
  | some nla =>
    simp only [decide_eq_true_eq, nlaStrcmp_eq_zero, Option.some.injEq, forall_eq']
    exact eq_comm

theorem DeviceQuery.isMatch_take {q q' : DeviceQuery} {a : DeviceIdAttr}
    (taken : q.take a = some q') (d : DpllDevice) :
    q'.isMatch names d = true ↔ q.isMatch names d = true ∧ (a.given = true → d.HasAttr names a) := by
  cases a
  case other =>
    cases taken
    simp [DeviceIdAttr.given]
  all_goals
    simp only [DeviceQuery.take] at taken
    split at taken
    · cases taken
    · cases taken
      simp_all [DeviceQuery.isMatch_iff, DeviceIdAttr.given]
      tauto

theorem DeviceQuery.usable_take {q q' : DeviceQuery} {a : DeviceIdAttr} (taken : q.take a = some q') :
    q'.usable = true ↔ q.usable = true ∨ a.given = true := by
  cases a
  case other =>
    cases taken
    simp [DeviceIdAttr.given]
  all_goals
    simp only [DeviceQuery.take] at taken
    split at taken
    · cases taken
    · cases taken
      simp_all [DeviceQuery.usable, DeviceIdAttr.given, or_comm, or_left_comm]

/-- The attributes of pins are collected by the rules. -/
theorem collects_pinQuery (k : KernelState) (names : Ptr → Bytes) :
    Lookup.Collects (pinRules k names) PinQuery.take PinQuery.has (fun q => q.usable = true)
      fun q pin => ∃ p, k.pin pin = some p ∧ q.isMatch names p = true where
  blocked {q a} := by
    cases a <;> simp [PinQuery.take, PinQuery.has, pinRules, PinIdAttr.kind, Option.isSome_iff_ne_none]
  has := PinQuery.has_take
  usable := PinQuery.usable_take
  test {q a q'} taken pin := by
    simp only [PinQuery.isMatch_take taken, pinRules]
    cases live : k.pin pin with
    | none => simp
    | some p => simp

theorem collects_deviceQuery (k : KernelState) (names : Ptr → Bytes) :
    Lookup.Collects (deviceRules k names) DeviceQuery.take DeviceQuery.has (fun q => q.usable = true)
      fun q dpll => ∃ d, k.device dpll = some d ∧ q.isMatch names d = true where
  blocked {q a} := by
    cases a <;> simp [DeviceQuery.take, DeviceQuery.has, deviceRules, DeviceIdAttr.kind,
      Option.isSome_iff_ne_none]
  has := DeviceQuery.has_take
  usable {q a q'} taken := by
    rw [DeviceQuery.usable_take taken]
    simp [deviceRules]
  test {q a q'} taken dpll := by
    simp only [DeviceQuery.isMatch_take taken, deviceRules]
    cases live : k.device dpll with
    | none => simp
    | some d => simp

/-! ## What is registered -/

/-- What is marked are the objects whose ids are. -/
theorem mem_marked {X : Type} {xa : XArray Ptr} {obj : Ptr → Option X} {id : X → ℕ}
    (listedAt : ∀ a x, obj a = some x → xa.load (id x) = some a)
    (live : ∀ e ∈ xa.entries, e.mark = true → ∃ x, obj e.value = some x ∧ id x = e.index) {a : Ptr} :
    a ∈ (xa.markedFrom 0).map XEntry.value ↔ (obj a).any (fun x => xa.getMark (id x)) = true := by
  rw [List.mem_map, Option.any_eq_true]
  constructor
  · rintro ⟨e, mem, rfl⟩
    obtain ⟨entry, -, marked⟩ := XArray.mem_markedFrom.1 mem
    obtain ⟨x, here, same⟩ := live e entry marked
    refine ⟨x, here, ?_⟩
    rw [same, XArray.getMark_of_mem entry, marked]
  · rintro ⟨x, here, marked⟩
    obtain ⟨e, entry, index, value⟩ := XArray.load_eq_some_iff.1 (listedAt a x here)
    rw [← index, XArray.getMark_of_mem entry] at marked
    exact ⟨e, XArray.mem_markedFrom.2 ⟨entry, Nat.zero_le _, marked⟩, value⟩

/-- No object is marked twice. -/
theorem nodup_marked {X : Type} {xa : XArray Ptr} {obj : Ptr → Option X} {id : X → ℕ}
    (live : ∀ e ∈ xa.entries, e.mark = true → ∃ x, obj e.value = some x ∧ id x = e.index) :
    ((xa.markedFrom 0).map XEntry.value).Nodup := by
  refine List.Nodup.map_on (fun e mem e' mem' same => ?_)
    ((xa.markedFrom_sorted 0).imp fun lt eq => lt.ne (congrArg XEntry.index eq))
  obtain ⟨entry, -, marked⟩ := XArray.mem_markedFrom.1 mem
  obtain ⟨entry', -, marked'⟩ := XArray.mem_markedFrom.1 mem'
  obtain ⟨x, here, index⟩ := live e entry marked
  obtain ⟨x', here', index'⟩ := live e' entry' marked'
  rw [same, here', Option.some.injEq] at here
  exact XArray.ext_index entry entry' (by rw [← index, ← index', here])

/-- A lookup over what is marked finds what is marked and matches. -/
theorem findsOnly_marked {X : Type} {xa : XArray Ptr} {obj : Ptr → Option X} {id : X → ℕ}
    (listedAt : ∀ a x, obj a = some x → xa.load (id x) = some a)
    (live : ∀ e ∈ xa.entries, e.mark = true → ∃ x, obj e.value = some x ∧ id x = e.index)
    {test : Ptr → KernelM Bool} (fits : X → Bool)
    (each : ∀ a x, obj a = some x → (test a).exec s.kernel = some (.ok (fits x), s.kernel)) :
    FindsOnly (findMatch test none ((xa.markedFrom 0).map XEntry.value)) s fun a =>
      a ∈ {a | (obj a).any (fun x => xa.getMark (id x)) = true} ∧
        (∃ x, obj a = some x ∧ fits x = true) ∧
        ∀ b ∈ {a | (obj a).any (fun x => xa.getMark (id x)) = true},
          (∃ x, obj b = some x ∧ fits x = true) → b = a := by
  have tested : ∀ a ∈ (xa.markedFrom 0).map XEntry.value,
      (test a).exec s.kernel = some (.ok ((obj a).any fits), s.kernel) := by
    intro a mem
    obtain ⟨x, here, -⟩ := Option.any_eq_true _ _ |>.1 ((mem_marked listedAt live).1 mem)
    rw [each a x here, here]
    rfl
  obtain ⟨r, t, run, found⟩ := findsOnly_find (nodup_marked live) tested
  refine ⟨r, t, run, fun a => ?_⟩
  rw [found a]
  simp only [mem_marked listedAt live, Option.any_eq_true, Set.mem_ofPred_eq]

/-- The lookup of a pin finds what is left of the request asks for. -/
theorem findsOnly_dpllPinFindFromNlattr (listed : Listed s.kernel) (names : Ptr → Bytes)
    (attrs : List PinIdAttr) : FindsOnly (dpllPinFindFromNlattr names attrs) s
      ((pinRules s.kernel names).Finds {pin | s.kernel.pinMarked pin = true} attrs) := by
  refine findsOnly_findFromNlattr (collects_pinQuery s.kernel names) ?_ rfl ?_ fun q => ?_
  · intro kind
    cases kind <;> simp [PinQuery.has, PinQuery.start]
  · intro pin marked
    obtain ⟨p, live, -⟩ := (Option.any_eq_true _ _).1 marked
    refine ⟨p, live, PinQuery.isMatch_iff.2 ?_⟩
    simp [PinQuery.start]
  · refine findsOnly_marked listed.pinAt listed.pin (q.isMatch names) fun pin p live => ?_
    rw [exec_bind, exec_derefPin live]
    rfl

theorem findsOnly_dpllDeviceFindFromNlattr (listed : Listed s.kernel) (names : Ptr → Bytes)
    (attrs : List DeviceIdAttr) : FindsOnly (dpllDeviceFindFromNlattr names attrs) s
      ((deviceRules s.kernel names).Finds {dpll | s.kernel.deviceMarked dpll = true} attrs) := by
  refine findsOnly_findFromNlattr (collects_deviceQuery s.kernel names) ?_ rfl ?_ fun q => ?_
  · intro kind
    cases kind <;> simp [DeviceQuery.has, DeviceQuery.start]
  · intro dpll marked
    obtain ⟨d, live, -⟩ := (Option.any_eq_true _ _).1 marked
    refine ⟨d, live, DeviceQuery.isMatch_iff.2 ?_⟩
    simp [DeviceQuery.start]
  · refine findsOnly_marked listed.deviceAt (fun e mem _ => listed.device e mem) (q.isMatch names)
      fun dpll d live => ?_
    rw [exec_bind, exec_derefDevice live]
    rfl

/-- Attributes that the lookups do not know are skipped. -/
theorem dpllPinFindFromNlattr_filter (names : Ptr → Bytes) (attrs : List PinIdAttr) :
    (dpllPinFindFromNlattr names (attrs.filter (· ≠ .other)) : NlM δ Ptr) =
      dpllPinFindFromNlattr names attrs := by
  unfold dpllPinFindFromNlattr findFromNlattr
  rw [Lookup.foldlM_filter]
  intro q a skipped
  obtain rfl : a = .other := by simpa using skipped
  rfl

theorem dpllDeviceFindFromNlattr_filter (names : Ptr → Bytes) (attrs : List DeviceIdAttr) :
    (dpllDeviceFindFromNlattr names (attrs.filter (· ≠ .other)) : NlM δ Ptr) =
      dpllDeviceFindFromNlattr names attrs := by
  unfold dpllDeviceFindFromNlattr findFromNlattr
  rw [Lookup.foldlM_filter]
  intro q a skipped
  obtain rfl : a = .other := by simpa using skipped
  rfl

/-- A lookup that is known to find one thing finds another exactly if they are the same. -/
theorem findsOnly_iff {m : NlM δ Ptr} {S T : Ptr → Prop} (finds : FindsOnly m s S) :
    FindsOnly m s T ↔ ∀ x, S x ↔ T x := by
  obtain ⟨r, t, run, found⟩ := finds
  constructor
  · rintro ⟨r', t', run', found'⟩ x
    rw [run] at run'
    cases run'
    exact (found x).symm.trans (found' x)
  · exact fun same => ⟨r, t, run, fun x => (found x).trans (same x)⟩

end Finds

/-- In every state that calls of the core lead to, the lookup of a pin and that of a device find
what the attributes of the request select exactly if the missing ones make no difference. -/
theorem id_lookups_unique_iff {δ : Type} (k : KernelState) (reach : registrySystem.Reachable k)
    (names : Ptr → Bytes) (faults : List (Option Errno)) (driver : δ) :
    (∀ attrs : List PinIdAttr,
        FindsOnly (dpllPinFindFromNlattr names attrs) (.start k faults driver)
            ((pinRules k names).Selects {pin | k.pinMarked pin = true} (attrs.filter (· ≠ .other))) ↔
          (pinRules k names).Neutral {pin | k.pinMarked pin = true} (attrs.filter (· ≠ .other))) ∧
      ∀ attrs : List DeviceIdAttr,
        FindsOnly (dpllDeviceFindFromNlattr names attrs) (.start k faults driver)
            ((deviceRules k names).Selects {dpll | k.deviceMarked dpll = true}
              (attrs.filter (· ≠ .other))) ↔
          (deviceRules k names).Neutral {dpll | k.deviceMarked dpll = true}
            (attrs.filter (· ≠ .other)) := by
  have listed : Listed (NlState.start k faults driver).kernel :=
    (listed_reachable reach).withFaults faults
  constructor
  · intro attrs
    rw [← dpllPinFindFromNlattr_filter,
      findsOnly_iff (findsOnly_dpllPinFindFromNlattr listed names (attrs.filter (· ≠ .other)))]
    exact (pinRules k names).finds_iff_selects
  · intro attrs
    rw [← dpllDeviceFindFromNlattr_filter,
      findsOnly_iff (findsOnly_dpllDeviceFindFromNlattr listed names (attrs.filter (· ≠ .other)))]
    exact (deviceRules k names).finds_iff_selects

/-! ## Two clocks of one module -/

/-- Two devices, with the clock ids 0 and 5, and a pin on each, at the addresses 16 to 19. -/
def twoClocks : List (DpllCall × List (Option Errno)) :=
  [(.deviceGet 0 0 1, []), (.deviceGet 5 0 1, []), (.pinGet 0 0 1 plainPin, []),
    (.pinGet 5 0 1 plainPin, []), (.deviceRegister 16 DPLL_TYPE_PPS ⟨3, true, true⟩ 5, []),
    (.deviceRegister 17 DPLL_TYPE_PPS ⟨3, true, true⟩ 6, []),
    (.pinRegister 16 18 plainPinOps 3, []), (.pinRegister 17 19 plainPinOps 4, [])]

/-- The name of the module. -/
def dpllName : Ptr → Bytes := fun _ => ascii "dpll"

/-- What the lookup of a pin returns. -/
def foundPin (k : KernelState) (attrs : List PinIdAttr) : Option (Except Errno Ptr) :=
  ((dpllPinFindFromNlattr dpllName attrs).exec (.start k [] ())).map Prod.fst

/-- The pins at 18 and 19 are the marked ones and have the clock ids 0 and 5.  Asking for that with
the clock id 0 and the name of the module fails. -/
def twoClocksTest (k : KernelState) : Bool :=
  (k.pin 18).any (fun p => p.clockId = 0 && p.module = 1 && k.pinXa.getMark p.id) &&
    ((k.pin 19).any fun p => p.clockId = 5 && p.module = 1 && k.pinXa.getMark p.id) &&
    ((k.pinXa.markedFrom 0).map XEntry.value = [18, 19]) &&
    (foundPin k [.moduleName (ascii "dpll"), .clockId 0] = some (.error .EINVAL))

theorem exists_twoClocks : ∃ k p q, registrySystem.Reachable k ∧
    (k.pin 18 = some p ∧ p.clockId = 0 ∧ p.module = 1) ∧
    (k.pin 19 = some q ∧ q.clockId = 5 ∧ q.module = 1) ∧
    (∀ pin, k.pinMarked pin = true ↔ pin = 18 ∨ pin = 19) ∧
    foundPin k [.moduleName (ascii "dpll"), .clockId 0] = some (.error .EINVAL) := by
  have start : registrySystem.Reachable .loaded := .init ⟨rfl, rfl, rfl, rfl⟩
  obtain ⟨k, reach, test⟩ := start.exists_of_follow twoClocks twoClocksTest
    (fun a mem s t next => step_of_afterCall next) (by decide +kernel)
  have listed := listed_reachable reach
  simp only [twoClocksTest, Option.any_eq_true, Bool.and_eq_true, decide_eq_true_eq] at test
  obtain ⟨⟨⟨⟨p, live, ⟨clock, module⟩, -⟩, q, liveQ, ⟨clockQ, moduleQ⟩, -⟩, marked⟩, found⟩ := test
  refine ⟨k, p, q, reach, ⟨live, clock, module⟩, ⟨liveQ, clockQ, moduleQ⟩, fun pin => ?_, found⟩
  rw [KernelState.pinMarked, ← mem_marked listed.pinAt listed.pin, marked]
  simp

/-- The only pin with the clock id 5 is found. -/
theorem id_lookups_unique_clock : ∃ k, FindsOnly (dpllPinFindFromNlattr dpllName [.clockId 5])
    (.start k [] ()) ((pinRules k dpllName).Selects {pin | k.pinMarked pin = true} [.clockId 5]) := by
  obtain ⟨k, p, q, reach, -⟩ := exists_twoClocks
  refine ⟨k, ((id_lookups_unique_iff k reach dpllName [] ()).1 [.clockId 5]).2 ?_⟩
  refine Lookup.Rules.neutral_of_given _ (fun a mem => ?_) ⟨.clockId 5, by simp, nofun⟩
  obtain rfl : a = .clockId 5 := by simpa using mem
  rfl

/-- There is one pin of the module with the clock id 0, and it is not found. -/
theorem not_id_lookups_unique : ∃ k, registrySystem.Reachable k ∧
    ¬FindsOnly (dpllPinFindFromNlattr dpllName [.moduleName (ascii "dpll"), .clockId 0])
      (.start k [] ()) ((pinRules k dpllName).Selects {pin | k.pinMarked pin = true}
        [.moduleName (ascii "dpll"), .clockId 0]) := by
  obtain ⟨k, p, q, reach, ⟨live, clock, module⟩, ⟨liveQ, clockQ, moduleQ⟩, marked, found⟩ :=
    exists_twoClocks
  refine ⟨k, reach, fun finds => ?_⟩
  obtain ⟨r, t, run, same⟩ := finds
  have error : r = .error .EINVAL := by
    rw [foundPin, run] at found
    exact Option.some.inj found
  have selected : (pinRules k dpllName).Selects {pin | k.pinMarked pin = true}
      [.moduleName (ascii "dpll"), .clockId 0] 18 := by
    refine ⟨by simp [Lookup.Rules.Single, pinRules, PinIdAttr.kind], by simp, (marked 18).2 (.inl rfl),
      ?_, fun pin isMarked has => ?_⟩
    · intro a mem
      refine ⟨p, live, ?_⟩
      rcases List.mem_pair.1 mem with rfl | rfl
      · rw [DpllPin.HasAttr, module]
        decide
      · exact clock
    · rcases (marked pin).1 isMarked with rfl | rfl
      · rfl
      · obtain ⟨q', live', zero⟩ := has (.clockId 0) (by simp)
        rw [liveQ] at live'
        cases live'
        exact absurd (clockQ.symm.trans zero) (by decide)
  have contradiction := (same 18).2 selected
  rw [error] at contradiction
  cases contradiction

end Netdevsim
