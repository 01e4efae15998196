import Netdevsim.Kernel
import Netdevsim.Lib.Matching
import Netdevsim.Lib.Runs
import Netdevsim.Lib.Total

/-!
# Linked net devices

The user links two net devices of PF ports, after which packets sent by one are received by the
other, and unlinks them again.  A net device that is destroyed is unlinked first.  All this happens
under `rtnl_lock`, among other net devices that come and go.
-/

namespace Netdevsim.Peers

open Program

/-! ## Net devices -/

/-- What the `netdev_ops` of a net device point to. -/
inductive NetdevOps where
  | nsimNetdevOps | nsimVfNetdevOps | other
  deriving DecidableEq, Repr

/-- What is read of a `struct netdevsim`, which lies in the private part of its net device. -/
structure NetdevSim where
  /-- `nsim_dev_port_is_pf` of its port. -/
  isPf : Bool
  peer : Option ℕ
  deriving DecidableEq, Repr

/-- What is read of a `struct net_device`. -/
structure NetDevice where
  net : ℕ
  ifindex : UInt32
  netdevOps : NetdevOps
  /-- The private part, if it is a `struct netdevsim`. -/
  priv : Option NetdevSim
  deriving DecidableEq, Repr

structure NetWorld where
  /-- The net devices, by address. -/
  dev : ℕ → Option NetDevice
  /-- The registered ones. -/
  registered : List ℕ
  /-- The references to net namespaces taken here. -/
  netRefs : ℕ → ℤ
  /-- The first address not yet handed out. -/
  nextPtr : ℕ
  /-- What the coming calls that may fail return. -/
  faults : List (Option Errno)

abbrev NetM (α : Type) := Program NetWorld Errno α

/-- A call that may fail with any error. -/
def mayFail : NetM Unit := do
  let w ← get
  set { w with faults := w.faults.tail }
  if let some e := w.faults.headD none then throw e

def derefDev (p : ℕ) : NetM NetDevice := do
  match (← get).dev p with
  | some d => return d
  | none => goWrong

/-- `netdev_priv`, where it is used as a `struct netdevsim`. -/
def netdevPriv (p : ℕ) : NetM NetdevSim := do
  match (← derefDev p).priv with
  | some ns => return ns
  | none => goWrong

def setDev (p : ℕ) (d : Option NetDevice) : NetM Unit :=
  modify fun w => { w with dev := Function.update w.dev p d }

/-- Write the pointer `peer`. -/
def setPeer (p : ℕ) (peer : Option ℕ) : NetM Unit := do
  let d ← derefDev p
  let ns ← netdevPriv p
  setDev p (some { d with priv := some { ns with peer := peer } })

/-- `netdev_is_nsim`. -/
def netdevIsNsim (p : ℕ) : NetM Bool := do return (← derefDev p).netdevOps = .nsimNetdevOps

/-- `__dev_get_by_index`. -/
def devGetByIndex (net : ℕ) (ifindex : UInt32) : NetM (Option ℕ) := do
  let w ← get
  return w.registered.find? fun p => (w.dev p).any fun d => d.net = net ∧ d.ifindex = ifindex

/-! ## Net namespaces -/

/-- `get_net_ns_by_fd`, with the files that the caller has open. -/
def getNetNsByFd (fds : Int32 → Option ℕ) (netnsfd : Int32) : NetM ℕ := do
  match fds netnsfd with
  | none => throw .EINVAL
  | some net =>
    modify fun w => { w with netRefs := Function.update w.netRefs net (w.netRefs net + 1) }
    return net

/-- `put_net`. -/
def putNet (net : ℕ) : NetM Unit :=
  modify fun w => { w with netRefs := Function.update w.netRefs net (w.netRefs net - 1) }

/-- A label at the end of a function that is reached with or without an error. -/
def withCleanup {α : Type} (cleanup : NetM Unit) (m : NetM α) : NetM α := do
  let a ← unwind cleanup m
  cleanup
  return a

/-! ## Linking -/

/-- A net device of a PF port, by its index. -/
def nsimByIndex (net : ℕ) (ifindex : UInt32) : NetM ℕ := do
  match ← devGetByIndex net ifindex with
  | none => throw .EINVAL
  | some dev =>
    failIf (¬ (← netdevIsNsim dev)) .EINVAL
    return dev

/-- The part of `link_device_store` under `rtnl_lock`. -/
def linkDevices (nsA : ℕ) (ifidxA : UInt32) (nsB : ℕ) (ifidxB : UInt32) : NetM Unit := do
  let devA ← nsimByIndex nsA ifidxA
  let devB ← nsimByIndex nsB ifidxB
  failIf (devA = devB) .EINVAL
  let nsimA ← netdevPriv devA
  failIf nsimA.peer.isSome .EBUSY
  let nsimB ← netdevPriv devB
  failIf nsimB.peer.isSome .EBUSY
  setPeer devA (some devB)
  setPeer devB (some devA)

/-- `link_device_store`.  The arguments are those that `sscanf` finds, if it finds all four. -/
def linkDeviceStore (fds : Int32 → Option ℕ) :
    Option (Int32 × UInt32 × Int32 × UInt32) → NetM Unit
  | none => throw .EINVAL
  | some (netnsfdA, ifidxA, netnsfdB, ifidxB) => do
    let nsA ← getNetNsByFd fds netnsfdA
    let nsB ← unwind (putNet nsA) (getNetNsByFd fds netnsfdB)
    withCleanup (do putNet nsB; putNet nsA) (linkDevices nsA ifidxA nsB ifidxB)

/-- The part of `unlink_device_store` under `rtnl_lock`. -/
def unlinkDevice (ns : ℕ) (ifidx : UInt32) : NetM Unit := do
  let dev ← nsimByIndex ns ifidx
  match (← netdevPriv dev).peer with
  | none => throw .EINVAL
  | some peer =>
    setPeer dev none
    setPeer peer none

/-- `unlink_device_store`. -/
def unlinkDeviceStore (fds : Int32 → Option ℕ) : Option (Int32 × UInt32) → NetM Unit
  | none => throw .EINVAL
  | some (netnsfd, ifidx) => do
    let ns ← getNetNsByFd fds netnsfd
    withCleanup (putNet ns) (unlinkDevice ns ifidx)

/-! ## Creation and destruction -/

/-- `register_netdevice`.  The index is a free one in the net namespace. -/
def registerNetdevice (p : ℕ) (ifindex : UInt32) : NetM Unit := do
  mayFail
  let d ← derefDev p
  let taken ← devGetByIndex d.net ifindex
  failIf taken.isSome .EBUSY
  setDev p (some { d with ifindex := ifindex })
  modify fun w => { w with registered := p :: w.registered }

/-- `nsim_init_netdevsim` and `nsim_init_netdevsim_vf`. -/
def nsimInitNetdevsim (p : ℕ) (isPf : Bool) (ifindex : UInt32) : NetM Unit := do
  let d ← derefDev p
  setDev p (some { d with netdevOps := if isPf then .nsimNetdevOps else .nsimVfNetdevOps })
  -- the PHC of a PF, nsim_udp_tunnels_info_create, nsim_bpf_init
  mayFail
  registerNetdevice p ifindex

/-- `nsim_create`. -/
def nsimCreate (net : ℕ) (isPf : Bool) (ifindex : UInt32) : NetM ℕ := do
  -- alloc_netdev_mq
  mayFail
  let w ← get
  let p := w.nextPtr
  set { w with
    nextPtr := p + 1, dev := Function.update w.dev p (some ⟨net, 0, .other, some ⟨isPf, none⟩⟩) }
  unwind (setDev p none) (nsimInitNetdevsim p isPf ifindex)
  return p

/-- `nsim_destroy`. -/
def nsimDestroy (p : ℕ) : NetM Unit := do
  if let some peer := (← netdevPriv p).peer then setPeer peer none
  setPeer p none
  -- unregister_netdevice
  modify fun w => { w with registered := w.registered.erase p }
  -- free_netdev
  setDev p none

/-! ## The system -/

inductive PeerAction where
  /-- A write to `link_device`. -/
  | link (fds : Int32 → Option ℕ) (args : Option (Int32 × UInt32 × Int32 × UInt32))
  /-- A write to `unlink_device`. -/
  | unlink (fds : Int32 → Option ℕ) (args : Option (Int32 × UInt32))
  | create (net : ℕ) (isPf : Bool) (ifindex : UInt32) (faults : List (Option Errno))
  | destroy (p : ℕ)
  /-- Another driver registers a net device. -/
  | registerOther (net : ℕ) (ifindex : UInt32)
  /-- Another driver unregisters a net device. -/
  | unregisterOther (p : ℕ)
  /-- A net device gets another net namespace or index. -/
  | move (p : ℕ) (net : ℕ) (ifindex : UInt32)

namespace NetWorld

/-- The net device of a `struct netdevsim` is registered. -/
def isNsim (w : NetWorld) (p : ℕ) : Bool :=
  p ∈ w.registered && (w.dev p).any fun d => d.priv.isSome

/-- A net device of another driver is registered. -/
def isOther (w : NetWorld) (p : ℕ) : Bool :=
  p ∈ w.registered && (w.dev p).any fun d => d.priv.isNone

/-- A net device is destroyed once, by its driver. -/
def Enabled (w : NetWorld) : PeerAction → Prop
  | .destroy p => w.isNsim p
  | .unregisterOther p => w.isOther p
  | .move p _ _ => p ∈ w.registered
  | _ => True

/-- The state after an action, unless it goes wrong. -/
def next (w : NetWorld) : PeerAction → Option NetWorld
  | .link fds args => ((linkDeviceStore fds args).exec w).map Prod.snd
  | .unlink fds args => ((unlinkDeviceStore fds args).exec w).map Prod.snd
  | .create net isPf ifindex faults =>
    ((nsimCreate net isPf ifindex).exec { w with faults := faults }).map Prod.snd
  | .destroy p => ((nsimDestroy p).exec w).map Prod.snd
  | .registerOther net ifindex => some { w with
      dev := Function.update w.dev w.nextPtr (some ⟨net, ifindex, .other, none⟩)
      registered := w.nextPtr :: w.registered, nextPtr := w.nextPtr + 1 }
  | .unregisterOther p => some { w with
      dev := Function.update w.dev p none, registered := w.registered.erase p }
  | .move p net ifindex => some { w with
      dev := Function.update w.dev p
        ((w.dev p).map fun d => { d with net := net, ifindex := ifindex }) }

/-- No net device is there. -/
def start : NetWorld := ⟨fun _ => none, [], fun _ => 0, 0, []⟩

end NetWorld

/-- Requests and net devices, serialised by `rtnl_lock`. -/
def peerSystem : TransitionSystem NetWorld PeerAction where
  init w := w = .start
  step w a t := w.Enabled a ∧ w.next a = some t

/-! ## The invariant -/

namespace NetWorld

/-- The peer pointer of a net device, if it has one. -/
def peerOf (w : NetWorld) (p : ℕ) : Option ℕ := ((w.dev p).bind (·.priv)).bind (·.peer)

/-- The net devices of PF ports. -/
def livePf (w : NetWorld) : Set ℕ :=
  {p | p ∈ w.registered ∧ ((w.dev p).bind (·.priv)).any (·.isPf)}

/-- Write a peer pointer. -/
def writePeer (w : NetWorld) (p : ℕ) (peer : Option ℕ) : NetWorld :=
  { w with
    dev := Function.update w.dev p
      ((w.dev p).map fun d => { d with priv := d.priv.map fun ns => { ns with peer := peer } }) }

/-- A reference to a net namespace is taken. -/
def ref (w : NetWorld) (net : ℕ) : NetWorld :=
  { w with netRefs := Function.update w.netRefs net (w.netRefs net + 1) }

/-- A reference to a net namespace is put. -/
def unref (w : NetWorld) (net : ℕ) : NetWorld :=
  { w with netRefs := Function.update w.netRefs net (w.netRefs net - 1) }

end NetWorld

/-- The `netdev_ops` that go with the private part. -/
def opsOf : Option NetdevSim → NetdevOps
  | none => .other
  | some ns => if ns.isPf then .nsimNetdevOps else .nsimVfNetdevOps

/-- The registered net devices are those there are, and their operations fit them. -/
structure Sound (w : NetWorld) : Prop where
  nodup : w.registered.Nodup
  there : ∀ p, p ∈ w.registered ↔ ∃ d, w.dev p = some d
  ops : ∀ p d, w.dev p = some d → d.netdevOps = opsOf d.priv
  fresh : ∀ p, w.nextPtr ≤ p → w.dev p = none

/-- The peer pointers form a partial matching on the net devices of PF ports. -/
structure Matched (w : NetWorld) : Prop where
  sound : Sound w
  matching : PartialMatching w.peerOf w.livePf

section Writes

variable {w : NetWorld} {p : ℕ} {peer : Option ℕ} {d : NetDevice} {ns : NetdevSim}

theorem peerOf_eq (live : w.dev p = some d) (own : d.priv = some ns) : w.peerOf p = ns.peer := by
  simp [NetWorld.peerOf, live, own]

theorem exists_of_peerOf {q : ℕ} (linked : w.peerOf p = some q) :
    ∃ d ns, w.dev p = some d ∧ d.priv = some ns ∧ ns.peer = some q := by
  obtain ⟨ns, own, peer⟩ := Option.bind_eq_some_iff.1 linked
  obtain ⟨d, live, own⟩ := Option.bind_eq_some_iff.1 own
  exact ⟨d, ns, live, own, peer⟩

theorem mem_livePf (sound : Sound w) (live : w.dev p = some d) (own : d.priv = some ns)
    (isPf : ns.isPf = true) : p ∈ w.livePf := by
  refine ⟨(sound.there p).2 ⟨d, live⟩, ?_⟩
  simp [live, own, isPf]

theorem writePeer_of_live (live : w.dev p = some d) (own : d.priv = some ns) :
    w.writePeer p peer =
      { w with dev :=
        Function.update w.dev p (some { d with priv := some { ns with peer := peer } }) } := by
  simp [NetWorld.writePeer, live, own]

theorem peerOf_writePeer (live : w.dev p = some d) (own : d.priv = some ns) :
    (w.writePeer p peer).peerOf = Function.update w.peerOf p peer := by
  funext q
  rw [writePeer_of_live live own]
  by_cases here : q = p
  · simp [NetWorld.peerOf, here]
  · simp [NetWorld.peerOf, here]

theorem livePf_writePeer : (w.writePeer p peer).livePf = w.livePf := by
  ext q
  unfold NetWorld.livePf NetWorld.writePeer
  by_cases here : q = p
  · subst here
    cases live : w.dev q with
    | none => simp [live]
    | some d => cases own : d.priv <;> simp [live, own]
  · simp [here]

theorem sound_writePeer (sound : Sound w) : Sound (w.writePeer p peer) := by
  have there : ∀ q, (∃ d, (w.writePeer p peer).dev q = some d) ↔ ∃ d, w.dev q = some d := by
    intro q
    unfold NetWorld.writePeer
    by_cases here : q = p
    · subst here
      cases live : w.dev q <;> simp
    · simp [here]
  refine ⟨sound.nodup, fun q => (sound.there q).trans (there q).symm, fun q d live => ?_,
    fun q above => ?_⟩
  · unfold NetWorld.writePeer at live
    by_cases here : q = p
    · subst here
      simp only [Function.update_self, Option.map_eq_some_iff] at live
      obtain ⟨d, live, rfl⟩ := live
      have ops := sound.ops q d live
      cases own : d.priv <;> simpa [own, opsOf] using ops
    · simp only [Function.update_of_ne here] at live
      exact sound.ops q d live
  · have gone := sound.fresh q above
    unfold NetWorld.writePeer
    by_cases here : q = p
    · subst here
      simp [gone]
    · simp [here, gone]

theorem unref_ref (w : NetWorld) (net : ℕ) : (w.ref net).unref net = w := by
  simp [NetWorld.ref, NetWorld.unref]

end Writes

end Netdevsim.Peers
