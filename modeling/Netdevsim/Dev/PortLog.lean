import Netdevsim.Dev.PortLife
import Netdevsim.Dev.VfPorts

/-!
# What the log of the ports says

What is live is what the ports on the list hold and what was lost: held by ports that were forgotten
when the list was initialised again.  All that is done to ports keeps what was lost; only
`nsim_dev_reload_create` loses more, when there are still ports on the list.
-/

namespace Netdevsim.Ports

open Program Lifetimes

/-- What a port of this type holds. -/
def kindsOf : NsimDevPortType → Finset ResourceKind
  | .PF => {.phc, .netdev, .devlinkPort}
  | .VF => {.netdev, .devlinkPort}

/-- Resources of these kinds held by one port. -/
def heldBy (portIndex : UInt32) (type : NsimDevPortType) (kinds : Finset ResourceKind) :
    Finset PortResource :=
  kinds.image fun kind => ⟨kind, portIndex, type⟩

/-- All that a port holds. -/
def resources (port : NsimDevPort) : Finset PortResource :=
  heldBy port.portIndex port.portType (kindsOf port.portType)

/-- All that the ports on a list hold. -/
def held (ports : List NsimDevPort) : Finset PortResource := ports.toFinset.biUnion resources

section Sets

variable {portIndex : UInt32} {type : NsimDevPortType} {kinds : Finset ResourceKind}
  {kind : ResourceKind} {r : PortResource} {port : NsimDevPort} {ports : List NsimDevPort}

theorem mem_heldBy : r ∈ heldBy portIndex type kinds ↔
    r.kind ∈ kinds ∧ r.portIndex = portIndex ∧ r.portType = type := by
  unfold heldBy
  rw [Finset.mem_image]
  constructor
  · rintro ⟨k, mem, rfl⟩
    exact ⟨mem, rfl, rfl⟩
  · rintro ⟨mem, rfl, rfl⟩
    exact ⟨r.kind, mem, rfl⟩

theorem heldBy_insert :
    heldBy portIndex type (insert kind kinds) =
      insert ⟨kind, portIndex, type⟩ (heldBy portIndex type kinds) := Finset.image_insert ..

theorem mem_held : r ∈ held ports ↔ ∃ port ∈ ports, r ∈ resources port := by
  simp [held]

theorem held_cons : held (port :: ports) = resources port ∪ held ports := by
  simp [held]

theorem index_of_mem_resources (mem : r ∈ resources port) : r.portIndex = port.portIndex :=
  (mem_heldBy.1 mem).2.1

theorem devlinkPort_mem_resources (port : NsimDevPort) :
    ⟨.devlinkPort, port.portIndex, port.portType⟩ ∈ resources port := by
  have mem : ∀ type, ResourceKind.devlinkPort ∈ kindsOf type := by
    intro type
    cases type <;> decide
  exact mem_heldBy.2 ⟨mem _, rfl, rfl⟩

theorem held_eq_empty_iff : held ports = ∅ ↔ ports = [] := by
  constructor
  · intro none
    refine List.eq_nil_iff_forall_not_mem.2 fun port mem => ?_
    have some := mem_held.2 ⟨port, mem, devlinkPort_mem_resources port⟩
    rw [none] at some
    exact absurd some (Finset.notMem_empty _)
  · rintro rfl
    rfl

end Sets

/-! ## The books -/

/-- What is live is held by the ports on the list or was lost. -/
structure Books (lost : Finset PortResource) (dev : NsimDev) (log : List (Event PortResource)) :
    Prop where
  ports : PortsRegistered dev
  live : live log = some (held dev.portList ∪ lost)
  apart : ∀ r ∈ lost, r.portIndex ∈ dev.devlinkPorts ∧
    ∀ port ∈ dev.portList, port.portIndex ≠ r.portIndex

/-- The books while one port that is not on the list holds resources of these kinds. -/
structure Building (lost : Finset PortResource) (portIndex : UInt32) (type : NsimDevPortType)
    (kinds : Finset ResourceKind) (dev : NsimDev) (log : List (Event PortResource)) : Prop where
  ports : PortsRegistered dev
  live : Lifetimes.live log =
    some (heldBy portIndex type kinds ∪ (held dev.portList ∪ lost))
  apart : ∀ r ∈ lost, r.portIndex ∈ dev.devlinkPorts ∧
    ∀ port ∈ dev.portList, port.portIndex ≠ r.portIndex
  registered : portIndex ∈ dev.devlinkPorts
  others : ∀ port ∈ dev.portList, port.portIndex ≠ portIndex
  notLost : ∀ r ∈ lost, r.portIndex ≠ portIndex

section Books

variable {lost : Finset PortResource} {portIndex : UInt32} {type : NsimDevPortType}
  {kinds : Finset ResourceKind} {kind : ResourceKind} {dev dev' : NsimDev}
  {log : List (Event PortResource)} {port : NsimDevPort}

theorem Books.congr (books : Books lost dev log) (list : dev'.portList = dev.portList)
    (devlink : dev'.devlinkPorts = dev.devlinkPorts) : Books lost dev' log := by
  refine ⟨books.ports.congr list devlink, ?_, ?_⟩
  · rw [list]
    exact books.live
  · rw [list, devlink]
    exact books.apart

theorem Building.create (building : Building lost portIndex type kinds dev log)
    (new : kind ∉ kinds) :
    Building lost portIndex type (insert kind kinds) dev
      (.create ⟨kind, portIndex, type⟩ :: log) := by
  refine ⟨building.ports, ?_, building.apart, building.registered, building.others,
    building.notLost⟩
  rw [heldBy_insert, Finset.insert_union]
  apply live_create building.live
  simp only [Finset.mem_union, not_or]
  refine ⟨fun mem => new (mem_heldBy.1 mem).1, fun mem => ?_, fun mem => ?_⟩
  · obtain ⟨port, listed, mine⟩ := mem_held.1 mem
    exact building.others port listed (index_of_mem_resources mine).symm
  · exact building.notLost _ mem rfl

theorem Building.destroy (building : Building lost portIndex type (insert kind kinds) dev log)
    (new : kind ∉ kinds) :
    Building lost portIndex type kinds dev (.destroy ⟨kind, portIndex, type⟩ :: log) := by
  refine ⟨building.ports, ?_, building.apart, building.registered, building.others,
    building.notLost⟩
  have mem : (⟨kind, portIndex, type⟩ : PortResource) ∈
      heldBy portIndex type (insert kind kinds) ∪ (held dev.portList ∪ lost) :=
    Finset.mem_union_left _ (mem_heldBy.2 ⟨Finset.mem_insert_self _ _, rfl, rfl⟩)
  rw [live_destroy building.live mem, heldBy_insert, Finset.insert_union, Finset.erase_insert]
  simp only [Finset.mem_union, not_or]
  refine ⟨fun mem => new (mem_heldBy.1 mem).1, fun mem => ?_, fun mem => ?_⟩
  · obtain ⟨port, listed, mine⟩ := mem_held.1 mem
    exact building.others port listed (index_of_mem_resources mine).symm
  · exact building.notLost _ mem rfl

/-- The devlink port of a new port is registered. -/
theorem Books.register (books : Books lost dev log) (unregistered : portIndex ∉ dev.devlinkPorts) :
    Building lost portIndex type {.devlinkPort}
      { dev with devlinkPorts := insert portIndex dev.devlinkPorts }
      (.create ⟨.devlinkPort, portIndex, type⟩ :: log) := by
  have apart : ∀ r ∈ lost, r.portIndex ≠ portIndex := fun r mem same =>
    unregistered (same ▸ (books.apart r mem).1)
  have others : ∀ port ∈ dev.portList, port.portIndex ≠ portIndex := fun port mem same =>
    unregistered (same ▸ books.ports.mem port mem)
  have none : Building lost portIndex type ∅
      { dev with devlinkPorts := insert portIndex dev.devlinkPorts } log := by
    refine ⟨⟨books.ports.nodup, fun port mem => Finset.mem_insert_of_mem (books.ports.mem port mem)⟩,
      ?_, fun r mem => ⟨Finset.mem_insert_of_mem (books.apart r mem).1, (books.apart r mem).2⟩,
      Finset.mem_insert_self _ _, others, apart⟩
    rw [heldBy, Finset.image_empty, Finset.empty_union]
    exact books.live
  exact none.create (Finset.notMem_empty _)

/-- The devlink port of a port that holds nothing else is unregistered. -/
theorem Building.unregister (building : Building lost portIndex type {.devlinkPort} dev log) :
    Books lost { dev with devlinkPorts := dev.devlinkPorts.erase portIndex }
      (.destroy ⟨.devlinkPort, portIndex, type⟩ :: log) := by
  have none : Building lost portIndex type ∅ dev
      (.destroy ⟨.devlinkPort, portIndex, type⟩ :: log) := building.destroy (Finset.notMem_empty _)
  refine ⟨⟨building.ports.nodup, fun port mem => ?_⟩, ?_, fun r mem => ⟨?_, ?_⟩⟩
  · exact Finset.mem_erase.2 ⟨building.others port mem, building.ports.mem port mem⟩
  · rw [none.live, heldBy, Finset.image_empty, Finset.empty_union]
  · exact Finset.mem_erase.2 ⟨building.notLost r mem, (building.apart r mem).1⟩
  · exact (building.apart r mem).2

/-- A complete port goes on the list. -/
theorem Building.list (building : Building lost portIndex type (kindsOf type) dev log) (ns : Ptr) :
    Books lost { dev with portList := ⟨portIndex, type, ns⟩ :: dev.portList } log := by
  refine ⟨⟨?_, ?_⟩, ?_, fun r mem => ⟨(building.apart r mem).1, ?_⟩⟩
  · show (portIndex :: dev.portList.map NsimDevPort.portIndex).Nodup
    rw [List.nodup_cons]
    refine ⟨?_, building.ports.nodup⟩
    intro mem
    obtain ⟨port, listed, same⟩ := List.mem_map.1 mem
    exact building.others port listed same
  · intro port listed
    rcases List.mem_cons.1 listed with rfl | listed
    · exact building.registered
    · exact building.ports.mem port listed
  · rw [building.live, held_cons, Finset.union_assoc]
    rfl
  · intro port listed
    rcases List.mem_cons.1 listed with rfl | listed
    · exact (building.notLost r mem).symm
    · exact (building.apart r mem).2 port listed

/-- A port leaves the list with all it holds. -/
theorem Books.unlist (books : Books lost dev log) (mem : port ∈ dev.portList) :
    Building lost port.portIndex port.portType (kindsOf port.portType)
      { dev with portList := dev.portList.erase port } log := by
  have nodup := books.ports.list_nodup
  have others : ∀ other ∈ dev.portList.erase port, other.portIndex ≠ port.portIndex := by
    intro other left same
    obtain ⟨differ, listed⟩ := nodup.mem_erase_iff.1 left
    exact differ (books.ports.eq_of_index listed mem same)
  refine ⟨⟨books.ports.nodup.sublist (List.erase_sublist.map _), ?_⟩, ?_, ?_,
    books.ports.mem port mem, others, fun r gone => ((books.apart r gone).2 port mem).symm⟩
  · exact fun other left => books.ports.mem other (List.mem_of_mem_erase left)
  · have split : held dev.portList = resources port ∪ held (dev.portList.erase port) := by
      rw [← held_cons]
      ext r
      simp only [mem_held, (List.perm_cons_erase mem).mem_iff]
    rw [books.live, split, Finset.union_assoc]
    rfl
  · intro r gone
    refine ⟨(books.apart r gone).1, fun other left => ?_⟩
    exact (books.apart r gone).2 other (List.mem_of_mem_erase left)

/-- The list is initialised again: what its ports hold is lost. -/
theorem Books.forget (books : Books lost dev log) :
    Books (held dev.portList ∪ lost) { dev with portList := [] } log := by
  refine ⟨portsRegistered_nil rfl, ?_, fun r mem => ⟨?_, by simp⟩⟩
  · rw [books.live]
    simp [held]
  · rcases Finset.mem_union.1 mem with mine | gone
    · obtain ⟨port, listed, mine⟩ := mem_held.1 mine
      rw [index_of_mem_resources mine]
      exact books.ports.mem port listed
    · exact (books.apart r gone).1

end Books

/-! ## One port -/

section OnePort

variable {lost : Finset PortResource} {portIndex : UInt32} {type : NsimDevPortType}
  {kinds : Finset ResourceKind} {kind : ResourceKind} {w : PortWorld} {port : NsimDevPort}
  {E : Errno → PortWorld → Prop}

@[simp] theorem wp_onDevice {α : Type} {m : DevM α} {Q : α → PortWorld → Prop} :
    wp (onDevice m) Q E w ↔
      wp m (fun a world => Q a { w with world }) (fun e world => E e { w with world }) w.world :=
  wp_zoom

theorem wp_getDev {Q : NsimDev → PortWorld → Prop} : wp getDev Q E w ↔ Q w.dev w := Iff.rfl

theorem wp_modifyDev {f : NsimDev → NsimDev} {Q : Unit → PortWorld → Prop} :
    wp (modifyDev f) Q E w ↔ Q () { w with world := ⟨w.world.kernel, f w.dev⟩ } := Iff.rfl

theorem wp_note {e : Event PortResource} {Q : Unit → PortWorld → Prop} :
    wp (note e) Q E w ↔ Q () { w with log := e :: w.log } := Iff.rfl

/-- A property of the device and the log. -/
abbrev OnBooks (P : NsimDev → List (Event PortResource) → Prop) (w : PortWorld) : Prop :=
  P w.dev w.log

/-- What happens in the kernel is not in the books. -/
theorem wp_inKernel_books {α : Type} {m : KernelM α}
    {P : NsimDev → List (Event PortResource) → Prop} (holds : OnBooks P w) :
    wp (onDevice (inKernel m)) (fun _ => OnBooks P) (fun _ => OnBooks P) w := by
  rw [wp_onDevice, wp_inKernel]
  exact wp_mono wp_true (fun _ _ _ => holds) fun _ _ _ => holds

/-- The ways to go on where the net device of a port has been initialised. -/
theorem wp_initNetdev
    (building : OnBooks (Building lost portIndex type {.devlinkPort}) w) :
    wp (initNetdev type portIndex)
      (fun _ => OnBooks (Building lost portIndex type (kindsOf type)))
      (fun _ => OnBooks (Building lost portIndex type {.devlinkPort})) w := by
  have pf : ∀ t, OnBooks (Building lost portIndex .PF {.devlinkPort}) t →
      OnBooks (Building lost portIndex .PF {.phc, .devlinkPort})
        { t with log := .create ⟨.phc, portIndex, .PF⟩ :: t.log } :=
    fun t building => Building.create building (by decide)
  have netdev : ∀ t, OnBooks (Building lost portIndex .PF {.phc, .devlinkPort}) t →
      OnBooks (Building lost portIndex .PF (kindsOf .PF))
        { t with log := .create ⟨.netdev, portIndex, .PF⟩ :: t.log } := by
    intro t building
    have all : kindsOf .PF = insert .netdev {.phc, .devlinkPort} := by decide
    rw [OnBooks, all]
    exact Building.create building (by decide)
  cases type with
  | VF =>
    show wp (nsimInitNetdevsimVf portIndex) _ _ w
    unfold nsimInitNetdevsimVf
    rw [wp_bind]
    apply wp_mono (wp_inKernel_books building) _ fun _ _ => id
    exact fun _ t building => Building.create building (by decide)
  | PF =>
    show wp (nsimInitNetdevsim portIndex) _ _ w
    have fails : ∀ (b : Bool) (t : PortWorld) (P : NsimDev → List (Event PortResource) → Prop),
        OnBooks P t → wp (mayFailIf b) (fun _ => OnBooks P) (fun _ => OnBooks P) t := by
      intro b t P holds
      cases b with
      | true => exact wp_inKernel_books holds
      | false => exact holds
    unfold nsimInitNetdevsim nextNoPhc
    rw [wp_bind, wp_bind, wp_get, wp_bind, wp_set, wp_pure, wp_bind]
    apply wp_mono (fails _ { w with noPhc := w.noPhc.tail } _ building) _ fun _ _ => id
    intro _ t building
    rw [wp_bind, wp_note, wp_bind, wp_unwind]
    apply wp_mono (fails _ _ (Building lost portIndex .PF {.phc, .devlinkPort}) (pf t building))
    · exact fun _ u building => netdev u building
    · exact fun _ u building => Building.destroy building (by decide)

theorem wp_nsimCreate
    (building : OnBooks (Building lost portIndex type {.devlinkPort}) w) :
    wp (nsimCreate type portIndex)
      (fun _ => OnBooks (Building lost portIndex type (kindsOf type)))
      (fun _ => OnBooks (Building lost portIndex type {.devlinkPort})) w := by
  unfold nsimCreate
  rw [wp_bind, wp_getDev, wp_bind, wp_failIf]
  refine ⟨fun _ => building, fun _ => ?_⟩
  rw [wp_bind]
  apply wp_mono (wp_inKernel_books building) _ fun _ _ => id
  intro ns t building
  rw [wp_bind]
  exact wp_mono (wp_initNetdev building) (fun _ _ complete => complete) fun _ _ => id

theorem wp_nsimDestroy
    (building : OnBooks (Building lost port.portIndex port.portType (kindsOf port.portType)) w) :
    wp (nsimDestroy port)
      (fun _ => OnBooks (Building lost port.portIndex port.portType {.devlinkPort})) E w := by
  have destroyed : ∀ type, kindsOf type = insert .netdev
      (if type = .PF then {.phc, .devlinkPort} else {.devlinkPort}) := by
    intro type
    cases type <;> decide
  have fresh : ∀ type, ResourceKind.netdev ∉
      (if type = NsimDevPortType.PF then ({.phc, .devlinkPort} : Finset ResourceKind)
        else {.devlinkPort}) := by
    intro type
    cases type <;> decide
  unfold nsimDestroy
  rw [OnBooks, destroyed] at building
  have rest := Building.destroy building (fresh _)
  show wp (if port.portType = .PF then note _ else pure ()) _ E _
  split
  · rename_i pf
    rw [if_pos pf] at rest
    exact rest.destroy (by decide)
  · rename_i vf
    rw [if_neg vf] at rest
    exact rest

/-- Whether or not a port is added, the books are in order. -/
theorem wp_nsimDevPortAdd (books : OnBooks (Books lost) w) :
    wp (_nsimDevPortAdd type portIndex) (fun _ => OnBooks (Books lost))
      (fun _ => OnBooks (Books lost)) w := by
  unfold _nsimDevPortAdd
  rw [wp_bind, wp_getDev, wp_bind, wp_failIf]
  refine ⟨fun _ => books, fun _ => ?_⟩
  rw [wp_bind]
  apply wp_mono (wp_inKernel_books books) _ fun _ _ => id
  intro _ t books
  dsimp only
  generalize nsimDevPortIndex type portIndex = index
  unfold devlPortRegister Netdevsim.devlPortRegister
  rw [wp_bind, wp_bind, wp_onDevice, wp_bind, Netdevsim.wp_getDev, wp_bind, wp_failIf]
  refine ⟨fun _ => books, fun unregistered => ?_⟩
  rw [wp_bind, wp_inKernel]
  apply wp_mono wp_true _ fun _ _ _ => books
  intro _ kernel _
  rw [Netdevsim.wp_modifyDev, wp_note]
  have building : Building lost index type {.devlinkPort} _ _ := Books.register books unregistered
  -- whatever fails from here on leaves the devlink port, which the cleanup takes back
  apply wp_unwind_of (J := OnBooks (Building lost index type {.devlinkPort}))
  · rw [wp_bind]
    apply wp_mono (wp_inKernel_books building) _ fun _ _ => id
    intro _ u building
    rw [wp_bind]
    apply wp_mono (wp_nsimCreate building) _ fun _ _ => id
    intro ns v complete
    rw [wp_bind, wp_unwind]
    apply wp_mono (Q := fun _ => OnBooks (Building lost index type (kindsOf type)))
      (E := fun _ => OnBooks (Building lost index type (kindsOf type)))
    · split
      · exact wp_inKernel_books complete
      · exact complete
    · exact fun _ _ complete => Building.list complete ns
    · exact fun _ x complete => wp_nsimDestroy complete
  · exact fun u building => Building.unregister building

theorem wp_nsimDevPortDel (books : OnBooks (Books lost) w) (mem : port ∈ w.dev.portList) :
    wp (_nsimDevPortDel port)
      (fun _ t => OnBooks (Books lost) t ∧ t.dev.portList = w.dev.portList.erase port) E w := by
  have list := (erases_nsimDevPortDel port).transfer (s := w)
    (Netdevsim.wp_nsimDevPortDel (E := fun _ _ => False))
  have kept : wp (_nsimDevPortDel port) (fun _ => OnBooks (Books lost)) (fun _ _ => True) w := by
    unfold _nsimDevPortDel
    rw [wp_bind, wp_modifyDev, wp_bind]
    apply wp_mono (wp_nsimDestroy (Books.unlist books mem)) _ fun _ _ => id
    exact fun _ t building => Building.unregister building
  apply wp_mono (wp_and kept list)
  · rintro _ t ⟨books, -, deleted⟩
    exact ⟨books, congrArg NsimDev.portList deleted⟩
  · exact fun _ _ both => both.2.elim

end OnePort

/-! ## All ports -/

section AllPorts

variable {lost : Finset PortResource} {w : PortWorld} {ports : List NsimDevPort}
  {E : Errno → PortWorld → Prop}

/-- The deletion of some of the ports on the list. -/
theorem wp_delPorts (books : OnBooks (Books lost) w) (nodup : ports.Nodup)
    (listed : ∀ port ∈ ports, port ∈ w.dev.portList) :
    wp (ports.forM _nsimDevPortDel) (fun _ => OnBooks (Books lost)) E w := by
  induction ports generalizing w with
  | nil => exact books
  | cons port ports ih =>
    obtain ⟨other, nodup⟩ := List.nodup_cons.1 nodup
    show wp (_nsimDevPortDel port >>= fun _ => ports.forM _nsimDevPortDel) _ _ _
    rw [wp_bind]
    apply wp_mono (wp_nsimDevPortDel books (listed port List.mem_cons_self)) _ fun _ _ => id
    rintro _ t ⟨books, less⟩
    refine ih books nodup fun rest mem => ?_
    rw [less]
    refine (List.mem_erase_of_ne ?_).2 (listed rest (List.mem_cons_of_mem _ mem))
    rintro rfl
    exact other mem

/-- The books are kept, whether a program returns or fails. -/
abbrev KeepsBooks {α : Type} (lost : Finset PortResource) (m : PortM α) : Prop :=
  Keeps (.inv (OnBooks (Books lost))) m

theorem keepsBooks_nsimDevPortDelAll : KeepsBooks lost nsimDevPortDelAll := by
  refine keeps_inv fun w books => ?_
  unfold nsimDevPortDelAll
  rw [wp_bind, wp_getDev]
  exact wp_delPorts books (Books.ports books).list_nodup fun _ => id

theorem keepsBooks_delVfPorts : KeepsBooks lost delVfPorts := by
  refine keeps_inv fun w books => ?_
  unfold delVfPorts
  rw [wp_bind, wp_getDev]
  exact wp_delPorts books ((Books.ports books).list_nodup.filter _) fun _ mem =>
    (List.mem_filter.1 mem).1

theorem keepsBooks_nsimDevPortAdd (type : NsimDevPortType) (portIndex : UInt32) :
    KeepsBooks lost (_nsimDevPortAdd type portIndex) := keeps_inv fun _ => wp_nsimDevPortAdd

theorem keepsBooks_nsimDevPortAddAll (portCount : UInt32) :
    KeepsBooks lost (nsimDevPortAddAll portCount) :=
  keepsBooks_nsimDevPortDelAll.unwind (keeps_forM fun _ _ => keepsBooks_nsimDevPortAdd _ _)

theorem keepsBooks_getDev : KeepsBooks lost getDev := (Frame.inv _).refl

/-- The program leaves the bus device, the list of ports and the devlink ports alone. -/
def Spares {α : Type} (m : DevM α) : Prop :=
  Keeps (.of fun w : NsimWorld => (w.dev.busDev, w.dev.portList, w.dev.devlinkPorts)) m

/-- The program leaves the list of ports and the devlink ports alone. -/
def SparesPorts {α : Type} (m : DevM α) : Prop :=
  Keeps (.of fun w : NsimWorld => (w.dev.portList, w.dev.devlinkPorts)) m

theorem keepsBooks_onDevice {α : Type} {m : DevM α} (spares : SparesPorts m) :
    KeepsBooks lost (onDevice m) := by
  refine keeps_inv fun w books => ?_
  rw [wp_onDevice]
  apply wp_mono (spares w.world)
  · exact fun _ t same => Books.congr books (congrArg Prod.fst same) (congrArg Prod.snd same)
  · exact fun _ t same => Books.congr books (congrArg Prod.fst same) (congrArg Prod.snd same)

theorem Spares.sparesPorts {α : Type} {m : DevM α} (spares : Spares m) : SparesPorts m :=
  Keeps.mono spares fun _ _ same => congrArg Prod.snd same

theorem spares_inKernel {α : Type} (m : KernelM α) : Spares (inKernel m) := by
  intro w
  rw [wp_inKernel]
  exact wp_mono wp_true (fun _ _ _ => rfl) fun _ _ _ => rfl

theorem spares_initComponent (c : Component) : Spares (initComponent c) :=
  Keeps.bind (spares_inKernel mayFail) fun _ _ => rfl

theorem spares_exitComponent (c : Component) : Spares (exitComponent c) := fun _ => rfl

theorem spares_debugfsInit : Spares nsimDevDebugfsInit :=
  Keeps.bind (spares_initComponent .debugfs) fun _ _ => rfl

theorem spares_exitDpll : Spares exitDpll := by
  apply keeps_getDev.bind
  intro dev
  cases dev.dpll with
  | none => exact keeps_pure _
  | some d => exact Keeps.bind (spares_inKernel _) fun _ _ => rfl

theorem spares_probeDpll (now : ℕ) : Spares (probeDpll now) := by
  apply keeps_getDev.bind
  intro dev
  split
  · exact Keeps.bind (spares_inKernel _) fun _ _ => rfl
  · exact keeps_pure _

end AllPorts

/-! ## The ways up and down -/

/-- The parts of probing, reloading and removing a device keep within the frame. -/
structure KeepsParts (F : Frame PortWorld) : Prop where
  device : ∀ {m : DevM Unit}, Spares m → Keeps F (onDevice m)
  addAll : ∀ portCount, Keeps F (nsimDevPortAddAll portCount)
  delAll : Keeps F nsimDevPortDelAll

namespace KeepsParts

variable {F : Frame PortWorld} {w : PortWorld}

theorem init (parts : KeepsParts F) (c : Component) : Keeps F (onDevice (initComponent c)) :=
  parts.device (spares_initComponent c)

theorem exit (parts : KeepsParts F) (c : Component) : Keeps F (onDevice (exitComponent c)) :=
  parts.device (spares_exitComponent c)

/-- A subsystem is set up, and torn down again if what follows fails. -/
theorem component (parts : KeepsParts F) (c : Component) {m : PortM Unit} (rest : Keeps F m) :
    Keeps F (do
      onDevice (initComponent c)
      unwind (onDevice (exitComponent c)) m) :=
  (parts.init c).bind fun _ => (parts.exit c).unwind rest

/-- What follows in `nsim_dev_reload_destroy` after the VFs have been given up. -/
theorem afterVfs (parts : KeepsParts F) : Keeps F (do
    onDevice exitDpll
    nsimDevPortDelAll
    onDevice nsimDevHwstatsExit
    onDevice nsimDevPsampleExit
    onDevice nsimDevHealthExit
    onDevice nsimFibDestroy
    onDevice nsimDevTrapsExit
    onDevice nsimDevDummyRegionExit) := by
  refine (parts.device spares_exitDpll).bind fun _ => parts.delAll.bind fun _ => ?_
  refine (parts.exit .hwstats).bind fun _ => (parts.exit .psample).bind fun _ => ?_
  refine (parts.exit .health).bind fun _ => (parts.exit .fib).bind fun _ => ?_
  exact (parts.exit .traps).bind fun _ => parts.exit .dummyRegion

/-- `nsim_dev_reload_create` forgets the ports on the list. -/
theorem wp_nsimDevReloadCreate (parts : KeepsParts F) :
    let forgotten := { w with world := ⟨w.world.kernel, { w.dev with portList := [] }⟩ }
    wp nsimDevReloadCreate (fun _ => F.rel forgotten) (fun _ => F.rel forgotten) w := by
  intro forgotten
  unfold nsimDevReloadCreate
  rw [wp_bind, wp_modifyDev]
  refine parts.component .dummyRegion ?_ forgotten
  refine parts.component .traps (parts.component .fib (parts.component .health ?_))
  refine parts.component .psample (parts.component .hwstats ?_)
  refine Keeps.bind (m := getDev) F.refl fun dev => (parts.addAll _).bind fun _ => ?_
  exact parts.device (m := createTakeSnapshot) fun _ => rfl

/-- `nsim_drv_probe` allocates the VF configurations first, and frees them last if it fails. -/
theorem wp_nsimDrvProbe (parts : KeepsParts F) (now : ℕ) :
    let allocated := fun kernel => { w with
      world := ⟨kernel, w.dev⟩
      vfconfigs := List.replicate w.dev.busDev.maxVfs.toNat .zero }
    wp (nsimDrvProbe now) (fun _ t => ∃ kernel, F.rel (allocated kernel) t)
      (fun _ t => (∃ kernel, t = { w with world := ⟨kernel, w.dev⟩ }) ∨
        ∃ kernel u, F.rel (allocated kernel) u ∧ t = { u with vfconfigs := [] }) w := by
  intro allocated
  unfold nsimDrvProbe
  rw [wp_bind, wp_onDevice, wp_inKernel]
  refine wp_mono wp_true (fun _ kernel _ => ?_) fun _ kernel _ => .inl ⟨kernel, rfl⟩
  rw [wp_bind, wp_onDevice, wp_inKernel]
  refine wp_mono wp_true (fun _ kernel _ => ?_) fun _ kernel _ => .inl ⟨kernel, rfl⟩
  rw [wp_bind, allocVfconfigs, wp_modify, wp_unwind]
  suffices rest : Keeps F _ from
    wp_mono (rest (allocated kernel)) (fun _ _ kept => ⟨kernel, kept⟩)
      fun _ u kept => .inr ⟨kernel, u, kept, rfl⟩
  refine parts.component .devlink (parts.component .resources (parts.component .params ?_))
  refine parts.component .dummyRegion (parts.component .traps ?_)
  refine (parts.device spares_debugfsInit).bind fun _ =>
    (parts.device (m := nsimDevDebugfsExit) fun _ => rfl).unwind ?_
  refine parts.component .fib (parts.component .health (parts.component .bpf ?_))
  refine parts.component .psample (parts.component .hwstats ?_)
  refine Keeps.bind (m := getDev) F.refl fun dev => (parts.addAll _).bind fun _ => ?_
  refine (parts.delAll.unwind (parts.device (spares_probeDpll now))).bind fun _ => ?_
  exact parts.device (m := Netdevsim.modifyDev _) fun _ => rfl

end KeepsParts

/-! ## Operations -/

section Operations

variable {lost : Finset PortResource} {w : PortWorld} {E : Errno → PortWorld → Prop}

theorem sparesPorts_modifyDev {f : NsimDev → NsimDev}
    (same : ∀ dev, (f dev).portList = dev.portList ∧ (f dev).devlinkPorts = dev.devlinkPorts) :
    SparesPorts (Netdevsim.modifyDev f) := fun w =>
  Prod.ext (same w.dev).1 (same w.dev).2

theorem keepsBooks_modifyDev {f : NsimDev → NsimDev}
    (same : ∀ dev, (f dev).portList = dev.portList ∧ (f dev).devlinkPorts = dev.devlinkPorts) :
    KeepsBooks lost (modifyDev f) := keepsBooks_onDevice (sparesPorts_modifyDev same)

theorem keepsBooks_setVfs (numVfs : UInt32) : KeepsBooks lost (nsimBusDevSetVfs numVfs) :=
  keepsBooks_onDevice (sparesPorts_modifyDev fun _ => ⟨rfl, rfl⟩)

theorem keepsBooks_nsimEswLegacyEnable : KeepsBooks lost nsimEswLegacyEnable := by
  apply keepsBooks_delVfPorts.bind
  exact fun _ => keepsBooks_modifyDev fun _ => ⟨rfl, rfl⟩

theorem keepsBooks_nsimEswSwitchdevEnable : KeepsBooks lost nsimEswSwitchdevEnable := by
  apply keepsBooks_getDev.bind
  intro dev
  apply (keepsBooks_delVfPorts.unwind (keeps_forM fun _ _ => keepsBooks_nsimDevPortAdd _ _)).bind
  exact fun _ => keepsBooks_modifyDev fun _ => ⟨rfl, rfl⟩

theorem keepsBooks_nsimDevlinkEswitchModeSet (mode : EswitchMode) :
    KeepsBooks lost (nsimDevlinkEswitchModeSet mode) := by
  apply keepsBooks_getDev.bind
  intro dev
  split
  · exact keeps_pure _
  · cases mode with
    | LEGACY => exact keepsBooks_nsimEswLegacyEnable
    | SWITCHDEV => exact keepsBooks_nsimEswSwitchdevEnable

theorem keepsBooks_nsimDrvConfigureVfs (numVfs : UInt32) :
    KeepsBooks lost (nsimDrvConfigureVfs numVfs) := by
  apply keepsBooks_getDev.bind
  intro dev
  split
  · exact keeps_pure _
  apply (keeps_failIf _).bind
  intro _
  apply (keeps_failIf _).bind
  intro _
  apply (keepsBooks_setVfs _).bind
  intro _
  split
  · split
    · exact (keepsBooks_setVfs 0).unwind keepsBooks_nsimEswSwitchdevEnable
    · exact keepsBooks_nsimEswLegacyEnable
  · exact keeps_pure _

theorem keepsBooks_nsimBusDevMaxVfsWrite (ppos : ℕ) (buf : Bytes) :
    KeepsBooks lost (nsimBusDevMaxVfsWrite ppos buf) := by
  unfold nsimBusDevMaxVfsWrite parseMaxVfs
  split
  · exact keeps_pure _
  apply (keeps_failIf _).bind
  intro _
  apply (keepsBooks_onDevice (spares_inKernel _).sparesPorts).bind
  intro _
  cases kstrtouint buf 10 with
  | error e => exact keeps_throw _
  | ok val =>
    have write : SparesPorts (Netdevsim.nsimBusDevMaxVfsWrite val) := by
      apply (keeps_failIf _).bind
      intro _
      apply (spares_inKernel _).sparesPorts.bind
      intro _
      apply keeps_getDev.bind
      intro dev
      apply (keeps_failIf _).bind
      exact fun _ => sparesPorts_modifyDev fun _ => ⟨rfl, rfl⟩
    exact (keepsBooks_onDevice write).bind fun _ => keeps_inv fun _ books => books

theorem keepsBooks_nsimDrvPortAdd (type : NsimDevPortType) (portIndex : UInt32) :
    KeepsBooks lost (nsimDrvPortAdd type portIndex) := by
  apply keepsBooks_getDev.bind
  intro dev
  apply (keeps_failIf _).bind
  exact fun _ => keepsBooks_nsimDevPortAdd type portIndex

theorem keepsBooks_nsimDrvPortDel (type : NsimDevPortType) (portIndex : UInt32) :
    KeepsBooks lost (nsimDrvPortDel type portIndex) := by
  refine keeps_inv fun w books => ?_
  unfold nsimDrvPortDel
  rw [wp_bind, wp_getDev]
  cases lookup : _nsimDevPortLookup w.dev type portIndex with
  | none => exact books
  | some port =>
    unfold _nsimDevPortLookup at lookup
    have mem := List.mem_of_find?_eq_some lookup
    exact wp_mono (wp_nsimDevPortDel books mem) (fun _ _ => And.left) fun _ _ => id

theorem keepsBooks_dropVfs : KeepsBooks lost dropVfs := by
  apply keepsBooks_getDev.bind
  intro dev
  split
  · apply (keepsBooks_setVfs 0).bind
    intro _
    split
    · exact keepsBooks_nsimEswLegacyEnable
    · exact keeps_pure _
  · exact keeps_pure _

theorem keepsParts_books (lost : Finset PortResource) :
    KeepsParts (.inv (OnBooks (Books lost))) where
  device spares := keepsBooks_onDevice spares.sparesPorts
  addAll := keepsBooks_nsimDevPortAddAll
  delAll := keepsBooks_nsimDevPortDelAll

theorem keepsBooks_nsimDevReloadDestroy : KeepsBooks lost nsimDevReloadDestroy := by
  have exit : ∀ c, KeepsBooks lost (onDevice (exitComponent c)) := (keepsParts_books lost).exit
  apply keepsBooks_getDev.bind
  intro dev
  split
  · exact keeps_pure _
  refine (exit .takeSnapshot).bind fun _ => keepsBooks_dropVfs.bind fun _ => ?_
  exact (keepsParts_books lost).afterVfs

theorem keepsBooks_nsimDrvRemove : KeepsBooks lost nsimDrvRemove := by
  have exit : ∀ c, KeepsBooks lost (onDevice (exitComponent c)) := (keepsParts_books lost).exit
  refine keepsBooks_nsimDevReloadDestroy.bind fun _ => ?_
  refine (exit .bpf).bind fun _ => ?_
  refine (keepsBooks_onDevice (m := nsimDevDebugfsExit) fun _ => rfl).bind fun _ => ?_
  refine (exit .params).bind fun _ => (exit .resources).bind fun _ => (exit .devlink).bind fun _ => ?_
  exact keeps_inv fun _ books => books

/-- What the ports still on the list hold is lost. -/
theorem wp_nsimDevReloadCreate (books : OnBooks (Books lost) w) :
    wp nsimDevReloadCreate (fun _ => OnBooks (Books (held w.dev.portList ∪ lost)))
      (fun _ => OnBooks (Books (held w.dev.portList ∪ lost))) w := by
  have forgotten := Books.forget books
  have parts := keepsParts_books (held w.dev.portList ∪ lost)
  refine wp_mono parts.wp_nsimDevReloadCreate ?_ ?_
  · exact fun _ _ kept => kept forgotten
  · exact fun _ _ kept => kept forgotten

theorem keepsBooks_nsimDrvProbe (now : ℕ) : KeepsBooks lost (nsimDrvProbe now) := by
  refine keeps_inv fun w books => wp_mono ((keepsParts_books lost).wp_nsimDrvProbe now) ?_ ?_
  · rintro _ t ⟨kernel, kept⟩
    exact kept books
  · rintro _ t (⟨kernel, rfl⟩ | ⟨kernel, u, kept, rfl⟩)
    · exact books
    · exact kept books

end Operations

end Netdevsim.Ports
