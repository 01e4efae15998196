import Netdevsim.Dpll.Registrations

/-!
# The pins of the core as a ledger

Two ledgers say what the pins of the core hold: for which registrations references to them were
taken, and which of these registrations are made, all on one device.  Taking a reference and
registering enter an item, unregistering and putting strike it out again.
-/

namespace Netdevsim

open Program Ledger

/-! ## Keys and ids -/

/-- What identifies a pin for its users. -/
structure DpllPinKey where
  clockId : UInt64
  pinIdx : UInt32
  module : Ptr
  deriving DecidableEq, Repr

def DpllPin.key (p : DpllPin) : DpllPinKey := ⟨p.clockId, p.pinIdx, p.module⟩

/-- Whether the array has a pin with the key. -/
def KernelState.hasPin (s : KernelState) (key : DpllPinKey) : Bool :=
  s.pinXa.values.any fun pin => (s.pin pin).any fun p => p.key = key

/-- How many of the pins are not there yet when they are asked for one after the other. -/
def newPins (has : DpllPinKey → Bool) : List DpllPinKey → ℕ
  | [] => 0
  | key :: keys =>
    if has key then newPins has keys else newPins (Function.update has key true) keys + 1

/-- The running id does not start over while those of the pins that are not there yet are given
theirs. -/
def KernelState.pinIdsLast (s : KernelState) (keys : List DpllPinKey) : Bool :=
  s.pinXa.lasts s.pinXaId XA_LIMIT_32B_MAX 0 (newPins s.hasPin keys)

/-- Nothing is there yet and the running id of pins has just started over. -/
def pinIdsOver : KernelState := { KernelState.loaded with pinXaId := ⟨0, true⟩ }

/-- What decides how long the ids of pins last. -/
def pinIdFrame : Frame KernelState :=
  .of fun s => (s.pinXaId, s.pinXa.indices, s.hasPin)

section Ids

variable {s t : KernelState} {key : DpllPinKey} {keys : List DpllPinKey}

theorem pinIdsLast_of_frame (within : pinIdFrame.rel s t) :
    t.pinIdsLast keys = s.pinIdsLast keys := by
  obtain ⟨cursor, rest⟩ := Prod.mk.inj within
  obtain ⟨indices, has⟩ := Prod.mk.inj rest
  unfold KernelState.pinIdsLast
  rw [cursor, has]
  exact XArray.lasts_congr indices _

theorem hasPin_eq_true_iff :
    s.hasPin key = true ↔ ∃ pin ∈ s.pinXa.values, ∃ p, s.pin pin = some p ∧ p.key = key := by
  simp [KernelState.hasPin, Option.any_eq_true]

/-- A pin that is there needs no id. -/
theorem pinIdsLast_of_has (has : s.hasPin key = true) (lasts : s.pinIdsLast (key :: keys)) :
    s.pinIdsLast keys := by
  unfold KernelState.pinIdsLast at lasts ⊢
  rwa [newPins, if_pos has] at lasts

end Ids

/-! ## The ledgers -/

abbrev PinLedger := List ((DpllPinKey × Ptr) × DpllPinRegistration)

/-- The pin has a reference for each item of the first list and, on one device only, the
registrations of the second. -/
structure PinHeld (p : DpllPin) (dpll : Ptr) (got registered : List DpllPinRegistration) :
    Prop where
  held : got ≠ []
  refcount : p.refcount = got.length
  orphan : p.parentRefs.isEmpty
  refs : ∀ q, contents p.dpllRefs q = if q = dpll then Registrations.of registered else none

/-- The pins of the core, their references and their registrations are those of the ledgers, and
the net devices are there that pins are assigned to. -/
structure PinsHeld (s : KernelState) (dpll : Ptr) (nets : List Ptr) (got registered : PinLedger) :
    Prop where
  inv : RegistryInvariant s
  listed : ∀ i pin, s.pinXa.load i = some pin → ∃ p, s.pin pin = some p ∧ p.id = i
  pins : ∀ pin p, s.pin pin = some p →
    PinHeld p dpll (entriesAt got (p.key, pin)) (entriesAt registered (p.key, pin))
  present : ∀ key pin, entriesAt got (key, pin) ≠ [] → ∃ p, s.pin pin = some p ∧ p.key = key
  covered : ∀ k, entriesAt got k = [] → entriesAt registered k = []
  unique : ∀ pin p pin' p', s.pin pin = some p → s.pin pin' = some p' → p.key = p'.key → pin = pin'
  netdevs : ∀ ns ∈ nets, ∃ dev, s.netdev ns = some dev

namespace PinsHeld

variable {s t : KernelState} {dpll pin : Ptr} {nets : List Ptr} {p p' : DpllPin} {d : DpllDevice}
  {got registered got' registered' : PinLedger} {g r : List DpllPinRegistration}
  {reg : DpllPinRegistration} {key : DpllPinKey}

theorem of_eq {nets' : List Ptr} (held : PinsHeld s dpll nets got registered)
    (inv : RegistryInvariant t)
    (pin : t.pin = s.pin) (load : ∀ i, t.pinXa.load i = s.pinXa.load i)
    (netdevs : ∀ ns ∈ nets', ∃ dev, t.netdev ns = some dev) :
    PinsHeld t dpll nets' got registered := by
  refine ⟨inv, ?_, ?_, ?_, held.covered, ?_, netdevs⟩
  · intro i q
    rw [pin, load]
    exact held.listed i q
  · rw [pin]
    exact held.pins
  · rw [pin]
    exact held.present
  · rw [pin]
    exact held.unique

theorem live_of_mem (held : PinsHeld s dpll nets got registered) (mem : pin ∈ s.pinXa.values) :
    ∃ p, s.pin pin = some p := by
  obtain ⟨i, at'⟩ := XArray.exists_load_of_mem_values mem
  obtain ⟨p, live, -⟩ := held.listed i pin at'
  exact ⟨p, live⟩

/-- Without references it does not matter on which device the pins would be registered. -/
theorem of_nil {dpll' : Ptr} (held : PinsHeld s dpll nets [] registered) :
    PinsHeld s dpll' nets [] registered :=
  ⟨held.inv, held.listed, fun pin p live => absurd rfl (held.pins pin p live).held, held.present,
    held.covered, held.unique, held.netdevs⟩

/-- A pin changes together with its items. -/
theorem replace (held : PinsHeld s dpll nets got registered) (live : s.pin pin = some p)
    (inv : RegistryInvariant t) (key : p'.key = p.key) (id : p'.id = p.id)
    (gots : entriesAt got' = Function.update (entriesAt got) (p.key, pin) g)
    (regs : entriesAt registered' = Function.update (entriesAt registered) (p.key, pin) r)
    (here : PinHeld p' dpll g r) (changed : t.pin = Function.update s.pin pin (some p'))
    (load : ∀ i, t.pinXa.load i = s.pinXa.load i) (netdev : t.netdev = s.netdev) :
    PinsHeld t dpll nets got' registered' := by
  refine ⟨inv, fun i q at' => ?_, ?_, fun k q some => ?_, fun k none => ?_, ?_,
    netdev ▸ held.netdevs⟩
  · rw [load] at at'
    obtain ⟨p₀, live₀, id₀⟩ := held.listed i q at'
    rw [changed]
    by_cases same : q = pin
    · subst same
      rw [live] at live₀
      cases live₀
      exact ⟨p', Function.update_self .., id.trans id₀⟩
    · exact ⟨p₀, (Function.update_of_ne same ..).trans live₀, id₀⟩
  · rw [changed]
    refine forall_update.2 ⟨?_, fun q p₀ away live₀ => ?_⟩
    · rw [key, gots, regs, Function.update_self, Function.update_self]
      exact here
    · have other : (p₀.key, q) ≠ (p.key, pin) := fun same => away (congrArg Prod.snd same)
      rw [gots, regs, Function.update_of_ne other, Function.update_of_ne other]
      exact held.pins q p₀ live₀
  · rw [changed]
    by_cases same : q = pin
    · subst same
      refine ⟨p', Function.update_self .., ?_⟩
      by_cases own : (k, q) = (p.key, q)
      · exact key.trans (congrArg Prod.fst own).symm
      · rw [gots, Function.update_of_ne own] at some
        obtain ⟨p₀, live₀, rfl⟩ := held.present k q some
        rw [live] at live₀
        cases live₀
        exact absurd rfl own
    · have other : (k, q) ≠ (p.key, pin) := fun eq => same (congrArg Prod.snd eq)
      rw [gots, Function.update_of_ne other] at some
      rw [Function.update_of_ne same]
      exact held.present k q some
  · by_cases own : k = (p.key, pin)
    · rw [own, gots, Function.update_self] at none
      exact absurd none here.held
    · rw [gots, Function.update_of_ne own] at none
      rw [regs, Function.update_of_ne own]
      exact held.covered k none
  · have same : ∀ q p₀, t.pin q = some p₀ → ∃ p₁, s.pin q = some p₁ ∧ p₁.key = p₀.key := by
      rw [changed]
      exact forall_update.2 ⟨⟨p, live, key.symm⟩, fun q p₀ _ live₀ => ⟨p₀, live₀, rfl⟩⟩
    intro q p₀ q' p₀' live₀ live₀' keys
    obtain ⟨p₁, live₁, key₁⟩ := same q p₀ live₀
    obtain ⟨p₁', live₁', key₁'⟩ := same q' p₀' live₀'
    exact held.unique q p₁ q' p₁' live₁ live₁' (by rw [key₁, key₁', keys])

/-- A new pin, with its first item. -/
theorem insert (held : PinsHeld s dpll nets got registered) (inv : RegistryInvariant t)
    (unused : s.pin pin = none) (absent : ∀ q p₀, s.pin q = some p₀ → p₀.key ≠ p.key)
    (refcount : p.refcount = 1) (parentRefs : p.parentRefs.isEmpty) (dpllRefs : p.dpllRefs = .empty)
    (changed : t.pin = Function.update s.pin pin (some p))
    (pinXa : t.pinXa = s.pinXa.store p.id pin) (netdev : t.netdev = s.netdev) :
    PinsHeld t dpll nets (got ++ [((p.key, pin), reg)]) registered := by
  have noItem : ∀ k, entriesAt got (k, pin) = [] := by
    intro k
    by_contra some
    obtain ⟨p₀, live₀, -⟩ := held.present k pin some
    rw [unused] at live₀
    cases live₀
  refine ⟨inv, fun i q at' => ?_, ?_, fun k q some => ?_, fun k none => ?_, ?_,
    netdev ▸ held.netdevs⟩
  · rw [pinXa] at at'
    rw [changed]
    by_cases own : i = p.id
    · rw [own, XArray.load_store_self, Option.some_inj] at at'
      exact ⟨p, by rw [at', Function.update_self], own.symm⟩
    · rw [XArray.load_store_of_ne own] at at'
      obtain ⟨p₀, live₀, id₀⟩ := held.listed i q at'
      refine ⟨p₀, (Function.update_of_ne ?_ ..).trans live₀, id₀⟩
      rintro rfl
      rw [unused] at live₀
      cases live₀
  · rw [changed, entriesAt_enter]
    refine forall_update.2 ⟨?_, fun q p₀ away live₀ => ?_⟩
    · rw [Function.update_self, noItem, held.covered _ (noItem p.key)]
      refine ⟨by simp, by simp [refcount], parentRefs, fun q => ?_⟩
      rw [dpllRefs, Registrations.of_nil, ite_self]
      rfl
    · rw [Function.update_of_ne fun same => away (congrArg Prod.snd same)]
      exact held.pins q p₀ live₀
  · rw [changed]
    by_cases own : (k, q) = (p.key, pin)
    · cases own
      exact ⟨p, Function.update_self .., rfl⟩
    · rw [entriesAt_enter, Function.update_of_ne own] at some
      obtain ⟨p₀, live₀, key₀⟩ := held.present k q some
      refine ⟨p₀, (Function.update_of_ne ?_ ..).trans live₀, key₀⟩
      rintro rfl
      rw [unused] at live₀
      cases live₀
  · rw [entriesAt_append, List.append_eq_nil_iff] at none
    exact held.covered k none.1
  · have either : ∀ q p₀, t.pin q = some p₀ → q = pin ∧ p₀ = p ∨ s.pin q = some p₀ := by
      rw [changed]
      exact forall_update.2 ⟨.inl ⟨rfl, rfl⟩, fun q p₀ _ live₀ => .inr live₀⟩
    intro q p₀ q' p₀' live₀ live₀' keys
    rcases either q p₀ live₀ with ⟨rfl, rfl⟩ | old <;>
      rcases either q' p₀' live₀' with ⟨rfl, rfl⟩ | old'
    · rfl
    · exact absurd keys.symm (absent q' p₀' old')
    · exact absurd keys (absent q p₀ old)
    · exact held.unique q p₀ q' p₀' old old' keys

/-- A pin goes away with its last item. -/
theorem remove (held : PinsHeld s dpll nets got registered) (inv : RegistryInvariant t)
    (live : s.pin pin = some p) (unregistered : entriesAt registered (p.key, pin) = [])
    (gots : entriesAt got' = Function.update (entriesAt got) (p.key, pin) [])
    (changed : t.pin = Function.update s.pin pin none)
    (pinXa : t.pinXa = s.pinXa.erase p.id) (netdev : t.netdev = s.netdev) :
    PinsHeld t dpll nets got' registered := by
  have kept : ∀ q p₀, t.pin q = some p₀ → q ≠ pin ∧ s.pin q = some p₀ := by
    intro q p₀ left
    rw [changed] at left
    by_cases same : q = pin
    · rw [same, Function.update_self] at left
      cases left
    · exact ⟨same, (Function.update_of_ne same ..).symm.trans left⟩
  refine ⟨inv, fun i q at' => ?_, fun q p₀ left => ?_, fun k q some => ?_, fun k none => ?_,
    fun q p₀ q' p₀' left left' => held.unique q p₀ q' p₀' (kept q p₀ left).2 (kept q' p₀' left').2,
    netdev ▸ held.netdevs⟩
  · rw [pinXa] at at'
    by_cases own : i = p.id
    · rw [own, XArray.load_erase_self] at at'
      cases at'
    · rw [XArray.load_erase_of_ne own] at at'
      obtain ⟨p₀, live₀, id₀⟩ := held.listed i q at'
      refine ⟨p₀, ?_, id₀⟩
      rw [changed, Function.update_of_ne]
      · exact live₀
      · rintro rfl
        rw [live] at live₀
        cases live₀
        exact own id₀.symm
  · obtain ⟨away, live₀⟩ := kept q p₀ left
    rw [gots, Function.update_of_ne fun same => away (congrArg Prod.snd same)]
    exact held.pins q p₀ live₀
  · by_cases own : (k, q) = (p.key, pin)
    · rw [own, gots, Function.update_self] at some
      exact absurd rfl some
    · rw [gots, Function.update_of_ne own] at some
      obtain ⟨p₀, live₀, rfl⟩ := held.present k q some
      refine ⟨p₀, ?_, rfl⟩
      rw [changed, Function.update_of_ne]
      · exact live₀
      · rintro rfl
        rw [live] at live₀
        cases live₀
        exact own rfl
  · by_cases own : k = (p.key, pin)
    · rw [own]
      exact unregistered
    · rw [gots, Function.update_of_ne own] at none
      exact held.covered k none

end PinsHeld

/-! ## The operations -/

section Operations

variable {s t : KernelState} {dpll pin : Ptr} {nets : List Ptr} {p p' : DpllPin} {d : DpllDevice}
  {got registered : PinLedger} {reg : DpllPinRegistration} {key : DpllPinKey}
  {keys : List DpllPinKey}

theorem hasPin_replace (live : s.pin pin = some p) (same : p'.key = p.key)
    (changed : t.pin = Function.update s.pin pin (some p'))
    (values : t.pinXa.values = s.pinXa.values) : t.hasPin = s.hasPin := by
  funext k
  unfold KernelState.hasPin
  rw [values]
  congr 1
  funext q
  by_cases here : q = pin
  · rw [changed, here, Function.update_self, live, Option.any_some, Option.any_some, same]
  · rw [changed, Function.update_of_ne here]

theorem pinIdFrame_replace (live : s.pin pin = some p) (same : p'.key = p.key)
    (cursor : t.pinXaId = s.pinXaId) (changed : t.pin = Function.update s.pin pin (some p'))
    (values : t.pinXa.values = s.pinXa.values) (indices : t.pinXa.indices = s.pinXa.indices) :
    pinIdFrame.rel s t := by
  show (t.pinXaId, t.pinXa.indices, t.hasPin) = (s.pinXaId, s.pinXa.indices, s.hasPin)
  rw [cursor, indices, hasPin_replace live same changed values]

theorem hasPin_insert (held : PinsHeld s dpll nets got registered) (unused : s.pin pin = none)
    {i : ℕ} (free : ∀ e ∈ s.pinXa.entries, e.index ≠ i)
    (changed : t.pin = Function.update s.pin pin (some p)) (pinXa : t.pinXa = s.pinXa.store i pin) :
    t.hasPin = Function.update s.hasPin p.key true := by
  have apart : ∀ q ∈ s.pinXa.values, q ≠ pin := by
    rintro q mem rfl
    obtain ⟨p₀, live₀⟩ := held.live_of_mem mem
    rw [unused] at live₀
    cases live₀
  have values : ∀ q, q ∈ t.pinXa.values ↔ q = pin ∨ q ∈ s.pinXa.values := by
    intro q
    simp only [pinXa, XArray.mem_values, XArray.mem_store]
    constructor
    · rintro ⟨e, rfl | ⟨mem, -⟩, rfl⟩
      · exact .inl rfl
      · exact .inr ⟨e, mem, rfl⟩
    · rintro (rfl | ⟨e, mem, rfl⟩)
      · exact ⟨_, .inl rfl, rfl⟩
      · exact ⟨e, .inr ⟨mem, free e mem⟩, rfl⟩
  funext k
  by_cases own : k = p.key
  · rw [own, Function.update_self, hasPin_eq_true_iff]
    exact ⟨pin, (values pin).2 (.inl rfl), p, by rw [changed, Function.update_self], rfl⟩
  · rw [Function.update_of_ne own, Bool.eq_iff_iff, hasPin_eq_true_iff, hasPin_eq_true_iff]
    constructor
    · rintro ⟨q, mem, p₀, live₀, rfl⟩
      rcases (values q).1 mem with rfl | old
      · rw [changed] at live₀
        exact absurd (congrArg DpllPin.key (eq_of_update_self live₀)).symm own
      · rw [changed, Function.update_of_ne (apart q old)] at live₀
        exact ⟨q, old, p₀, live₀, rfl⟩
    · rintro ⟨q, mem, p₀, live₀, key₀⟩
      refine ⟨q, (values q).2 (.inr mem), p₀, ?_, key₀⟩
      rw [changed, Function.update_of_ne (apart q mem)]
      exact live₀

/-- A reference more to a pin that is there. -/
theorem PinsHeld.getLive (held : PinsHeld s dpll nets got registered) (live : s.pin pin = some p)
    (reg : DpllPinRegistration) :
    PinsHeld { s with
        pin := Function.update s.pin pin (some { p with refcount := p.refcount + 1 }) }
      dpll nets (got ++ [((p.key, pin), reg)]) registered := by
  have here := held.pins pin p live
  have after : PinHeld { p with refcount := p.refcount + 1 } dpll
      (entriesAt got (p.key, pin) ++ [reg]) (entriesAt registered (p.key, pin)) :=
    ⟨by simp, by simp [here.refcount], here.orphan, here.refs⟩
  exact held.replace live (held.inv.setPin live rfl rfl rfl (held.inv.parentRefs pin p live))
    (by rfl) (by rfl) (entriesAt_enter _ _ _) (Function.update_eq_self _ _).symm after rfl
    (fun _ => rfl) rfl

/-- A pin that is not there is allocated. -/
theorem wp_dpllPinAlloc (held : PinsHeld s dpll nets got registered) (absent : s.hasPin key = false)
    (lasts : s.pinIdsLast (key :: keys)) (reg : DpllPinRegistration) (prop : DpllPinProperties) :
    wp (dpllPinAlloc key.clockId key.pinIdx key.module prop)
      (fun pin t => PinsHeld t dpll nets (got ++ [((key, pin), reg)]) registered ∧
        t.pinIdsLast keys)
      (fun _ t => PinsHeld t dpll nets got registered) s := by
  have grown : ∀ size faults,
      PinsHeld { s with nextPtr := s.nextPtr + size, faults } dpll nets got registered :=
    fun size faults => held.of_eq (held.inv.grown size faults) rfl (fun _ => rfl) held.netdevs
  unfold KernelState.pinIdsLast at lasts
  rw [newPins, if_neg (Bool.not_eq_true _ ▸ absent)] at lasts
  have unused := held.inv.unused_pin
  refine wp_dpllPinAlloc_of (fun id pinXa pinXaId faults alloc => ?_)
    (fun id pinXa pinXaId faults alloc => ?_) fun _ => grown
  · obtain ⟨-, left⟩ := XArray.lasts_of_alloc lasts alloc
    obtain ⟨free, rfl⟩ := XArray.allocCyclic_eq_some alloc
    constructor
    · have sound := (held.inv.grown 1 faults).insertPin
        (p := ⟨id, key.pinIdx, key.clockId, key.module, .empty, .empty, prop, 1⟩) pinXaId unused
        (Nat.lt_succ_self _) free rfl rfl
      refine (grown 1 faults).insert sound unused (fun q p₀ live₀ same => ?_) rfl rfl rfl rfl rfl
        rfl
      have here : s.hasPin key = true := hasPin_eq_true_iff.2
        ⟨q, XArray.mem_values_of_load (held.inv.pinAt q p₀ live₀), p₀, live₀, same⟩
      rw [absent] at here
      cases here
    · unfold KernelState.pinIdsLast
      rw [hasPin_insert held unused free rfl rfl]
      exact left
  · cases (XArray.lasts_of_alloc lasts alloc).1

/-- Getting a pin enters an item, as long as the ids of pins last. -/
theorem twp_dpllPinGet (held : PinsHeld s dpll nets got registered)
    (lasts : s.pinIdsLast (key :: keys)) (reg : DpllPinRegistration) (prop : DpllPinProperties) :
    twp (dpllPinGet key.clockId key.pinIdx key.module prop)
      (fun pin t => PinsHeld t dpll nets (got ++ [((key, pin), reg)]) registered ∧
        t.pinIdsLast keys)
      (fun _ t => PinsHeld t dpll nets got registered) s := by
  refine (completes_dpllPinGet fun _ => held.live_of_mem).twp ?_
  refine wp_dpllPinGet_of (fun q mem p live clockId pinIdx module => ?_) fun others => ?_
  · obtain rfl : p.key = key := by rw [DpllPin.key, clockId, pinIdx, module]
    have has : s.hasPin p.key = true := hasPin_eq_true_iff.2 ⟨q, mem, p, live, rfl⟩
    refine ⟨held.getLive live reg, ?_⟩
    refine (pinIdsLast_of_frame ?_).trans (pinIdsLast_of_has has lasts)
    exact pinIdFrame_replace live (by rfl) rfl rfl rfl rfl
  · refine wp_dpllPinAlloc held ?_ lasts reg prop
    rw [Bool.eq_false_iff, Ne, hasPin_eq_true_iff]
    rintro ⟨q, mem, p, live, rfl⟩
    exact others q mem p live ⟨rfl, rfl, rfl⟩

theorem PinHeld.isEmpty_dpllRefs {got : List DpllPinRegistration} (held : PinHeld p dpll got []) :
    p.dpllRefs.isEmpty := by
  rw [isEmpty_iff_contents]
  intro q
  rw [held.refs, Registrations.of_nil, ite_self]

theorem PinsHeld.live_of_registered (held : PinsHeld s dpll nets got registered)
    (item : ((key, pin), reg) ∈ registered) : ∃ p, s.pin pin = some p ∧ p.key = key := by
  refine held.present key pin fun none => ?_
  exact List.ne_nil_of_mem (mem_entriesAt.2 item) (held.covered _ none)

theorem PinsHeld.of_ntfFrame (held : PinsHeld s dpll nets got registered)
    (within : ntfFrame.rel s t) : PinsHeld t dpll nets got registered := by
  have sound := held.inv.of_ntfFrame within
  obtain ⟨_, _, rfl⟩ := within
  exact held.of_eq sound rfl (fun _ => rfl) held.netdevs

/-- Putting a pin strikes an item out. -/
theorem twp_dpllPinPut (held : PinsHeld s dpll nets got registered) (item : ((key, pin), reg) ∈ got)
    (covered : entriesAt (got.erase ((key, pin), reg)) (key, pin) = [] →
      entriesAt registered (key, pin) = []) :
    twp (dpllPinPut pin) (fun _ t => PinsHeld t dpll nets (got.erase ((key, pin), reg)) registered)
      (fun _ _ => False) s := by
  have mem := mem_entriesAt.2 item
  obtain ⟨p, live, rfl⟩ := held.present key pin (List.ne_nil_of_mem mem)
  have here := held.pins pin p live
  have gots := entriesAt_erase got (p.key, pin) reg
  have length := List.length_erase_of_mem mem
  refine (completes_dpllPinPut live).twp ?_
  unfold dpllPinPut
  rw [wp_bind, wp_derefPin]
  intro p₀ live₀
  rw [live] at live₀
  cases live₀
  split
  · rename_i last
    have none : (entriesAt got (p.key, pin)).erase reg = [] := by
      rw [← List.length_eq_zero_iff, length, ← here.refcount, last]
    have unregistered := covered (by rw [gots, Function.update_self, none])
    rw [none] at gots
    rw [unregistered] at here
    refine held.remove ?_ live unregistered gots rfl rfl rfl
    refine held.inv.removePin live here.isEmpty_dpllRefs fun q p₀ _ live₀ => ?_
    exact isEmpty_iff_contents.1 (held.pins q p₀ live₀).orphan pin
  · rename_i more
    have some : (entriesAt got (p.key, pin)).erase reg ≠ [] := by
      rw [← List.length_pos_iff, length, ← here.refcount]
      have := List.length_pos_of_mem mem
      rw [← here.refcount] at this
      omega
    have after : PinHeld { p with refcount := p.refcount - 1 } dpll
        ((entriesAt got (p.key, pin)).erase reg) (entriesAt registered (p.key, pin)) :=
      ⟨some, by rw [length, ← here.refcount], here.orphan, here.refs⟩
    exact held.replace live (held.inv.setPin live rfl rfl rfl (held.inv.parentRefs pin p live))
      (by rfl) (by rfl) gots (Function.update_eq_self _ _).symm after rfl
      (fun _ => rfl) rfl

/-- A registration is entered. -/
theorem PinsHeld.enter (held : PinsHeld s dpll nets got registered)
    (liveD : s.device dpll = some d) (liveP : s.pin pin = some p)
    (free : Free d.pinRefs pin p.pinIdx.toNat) (new : ((p.key, pin), reg) ∉ registered) :
    PinsHeld (s.registered dpll pin d p reg) dpll nets got
      (registered ++ [((p.key, pin), reg)]) := by
  have here := held.pins pin p liveP
  have after : PinHeld { p with dpllRefs := addRef p.dpllRefs dpll d.id reg } dpll
      (entriesAt got (p.key, pin)) (entriesAt registered (p.key, pin) ++ [reg]) := by
    refine ⟨here.held, here.refcount, here.orphan, fun q => ?_⟩
    rw [contents_addRef (held.inv.dpllRefs pin p liveP) (deviceKey_of_live liveD)
      (held.inv.free_dpllRefs liveD liveP), here.refs, if_pos rfl,
      Registrations.add_of fun known => new (mem_entriesAt.1 known)]
    by_cases same : q = dpll
    · rw [same, Function.update_self, if_pos rfl]
    · rw [Function.update_of_ne same, here.refs]
      exact (if_neg same).trans (if_neg same).symm
  exact held.replace liveP (held.inv.registered_pin liveD liveP free) (by rfl) (by rfl)
    (Function.update_eq_self _ _).symm (entriesAt_enter _ _ _) after rfl
    (fun _ => XArray.load_setMark) rfl

/-- A registration is struck out. -/
theorem PinsHeld.strike (held : PinsHeld s dpll nets got registered)
    (liveD : s.device dpll = some d) (liveP : s.pin pin = some p)
    (known : ((p.key, pin), reg) ∈ registered) :
    PinsHeld (s.unregistered dpll pin d p reg) dpll nets got
      (registered.erase ((p.key, pin), reg)) := by
  have here := held.pins pin p liveP
  have after : PinHeld { p with dpllRefs := dpllXaRefDel p.dpllRefs dpll reg } dpll
      (entriesAt got (p.key, pin)) ((entriesAt registered (p.key, pin)).erase reg) := by
    refine ⟨here.held, here.refcount, here.orphan, fun q => ?_⟩
    rw [contents_dpllXaRefDel (held.inv.dpllRefs pin p liveP), here.refs, if_pos rfl,
      Registrations.drop_of (mem_entriesAt.2 known)]
    by_cases same : q = dpll
    · rw [same, Function.update_self, if_pos rfl]
    · rw [Function.update_of_ne same, here.refs]
      exact (if_neg same).trans (if_neg same).symm
  exact held.replace liveP (held.inv.unregistered_pin liveD liveP) (by rfl) (by rfl)
    (Function.update_eq_self _ _).symm (entriesAt_erase _ _ _) after rfl
    (fun _ => XArray.load_setMark) rfl

theorem twp_dpllPinRegister {ops : DpllPinOps} {priv : Ptr}
    (held : PinsHeld s dpll nets got registered) (liveD : s.device dpll = some d)
    (liveP : s.pin pin = some p)
    (new : ((p.key, pin), ⟨ops, priv, 0⟩) ∉ registered) :
    twp (dpllPinRegister dpll pin ops priv)
      (fun _ t => PinsHeld t dpll nets got (registered ++ [((p.key, pin), ⟨ops, priv, 0⟩)]) ∧
        pinIdFrame.rel s t)
      (fun _ t => PinsHeld t dpll nets got registered) s := by
  unfold dpllPinRegister
  rw [twp_bind, twp_failIf]
  refine ⟨fun _ => held, fun _ => ?_⟩
  rw [twp_bind, twp_derefDevice]
  refine ⟨d, liveD, ?_⟩
  rw [twp_bind, twp_derefPin]
  refine ⟨p, liveP, ?_⟩
  rw [twp_bind, twp_failIf]
  refine ⟨fun _ => held, fun _ => ?_⟩
  refine twp_dpllPinRegisterRefs held.inv liveD liveP
    (fun free t within => ⟨(held.enter liveD liveP free new).of_ntfFrame within, ?_⟩)
    fun _ faults => held.of_ntfFrame ⟨_, faults, rfl⟩
  obtain ⟨_, _, rfl⟩ := within
  exact pinIdFrame_replace liveP (by rfl) rfl rfl XArray.values_setMark XArray.indices_setMark

theorem twp_dpllPinUnregister {ops : DpllPinOps} {priv : Ptr}
    (held : PinsHeld s dpll nets got registered) (liveD : s.device dpll = some d)
    (item : ((key, pin), ⟨ops, priv, 0⟩) ∈ registered) :
    twp (dpllPinUnregister dpll pin ops priv)
      (fun _ t => PinsHeld t dpll nets got (registered.erase ((key, pin), ⟨ops, priv, 0⟩)))
      (fun _ _ => False) s := by
  obtain ⟨p, liveP, rfl⟩ := held.live_of_registered item
  have here := held.pins pin p liveP
  refine (completes_dpllPinUnregister liveD liveP (held.inv.targets liveP)).twp ?_
  refine (neverFails_dpllPinUnregister ops priv).wp (E := fun _ _ => True) ?_
  have nonempty : ¬d.pinRefs.isEmpty := by
    intro empty
    have none := isEmpty_iff_contents.1 empty pin
    rw [held.inv.agree dpll d liveD pin p liveP, here.refs, if_pos rfl,
      Registrations.of_eq_none_iff] at none
    exact List.ne_nil_of_mem (mem_entriesAt.2 item) none
  unfold dpllPinUnregister
  rw [wp_bind, wp_derefDevice]
  intro d₀ liveD₀
  rw [liveD] at liveD₀
  cases liveD₀
  rw [wp_bind, wp_derefPin]
  intro p₀ liveP₀
  rw [liveP] at liveP₀
  cases liveP₀
  rw [if_pos ⟨nonempty, here.orphan⟩, wp_bind]
  refine wp_mono (sends_dpllPinEventSend .delete pin _) (fun _ t within => ?_) fun _ _ _ => trivial
  have before := held.of_ntfFrame within
  obtain ⟨_, _, rfl⟩ := within
  refine wp_dpllPinUnregisterRefs before.inv fun d₁ p₁ liveD₁ liveP₁ => ?_
  rw [show s.pin pin = some p₁ from liveP₁] at liveP
  cases liveP
  exact before.strike liveD₁ liveP₁ item

end Operations

end Netdevsim
