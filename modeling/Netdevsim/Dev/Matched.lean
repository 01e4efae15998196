import Netdevsim.Dev.Peers

/-!
# Peers stay matched

Every request and every net device that comes or goes keeps the peer pointers a partial matching on
the net devices of PF ports.  Requests that fail write nothing.
-/

namespace Netdevsim.Peers

open Program

/-! ## Rules -/

section Rules

variable {w : NetWorld} {E : Errno → NetWorld → Prop} {p : ℕ} {d : NetDevice} {ns : NetdevSim}

theorem twp_mayFail {Q : Unit → NetWorld → Prop} (ok : ∀ faults, Q () { w with faults := faults })
    (error : ∀ e faults, E e { w with faults := faults }) : twp mayFail Q E w := by
  unfold mayFail
  rw [twp_bind, twp_get, twp_bind, twp_set]
  split
  · exact error _ _
  · exact ok _

theorem twp_derefDev {Q : NetDevice → NetWorld → Prop} (live : w.dev p = some d) :
    twp (derefDev p) Q E w ↔ Q d w := by
  unfold derefDev
  rw [twp_bind, twp_get, live]
  exact Iff.rfl

theorem twp_netdevPriv {Q : NetdevSim → NetWorld → Prop} (live : w.dev p = some d)
    (own : d.priv = some ns) : twp (netdevPriv p) Q E w ↔ Q ns w := by
  unfold netdevPriv
  rw [twp_bind, twp_derefDev live, own]
  exact Iff.rfl

@[simp] theorem twp_setDev {o : Option NetDevice} {Q : Unit → NetWorld → Prop} :
    twp (setDev p o) Q E w ↔ Q () { w with dev := Function.update w.dev p o } := Iff.rfl

theorem twp_setPeer {peer : Option ℕ} {Q : Unit → NetWorld → Prop} (live : w.dev p = some d)
    (own : d.priv = some ns) : twp (setPeer p peer) Q E w ↔ Q () (w.writePeer p peer) := by
  unfold setPeer
  rw [twp_bind, twp_derefDev live, twp_bind, twp_netdevPriv live own, twp_setDev,
    writePeer_of_live live own]

@[simp] theorem twp_devGetByIndex {net : ℕ} {ifindex : UInt32} {Q : Option ℕ → NetWorld → Prop} :
    twp (devGetByIndex net ifindex) Q E w ↔
      Q (w.registered.find? fun p => (w.dev p).any fun d => d.net = net ∧ d.ifindex = ifindex) w :=
  Iff.rfl

@[simp] theorem twp_putNet {net : ℕ} {Q : Unit → NetWorld → Prop} :
    twp (putNet net) Q E w ↔ Q () (w.unref net) := Iff.rfl

theorem twp_getNetNsByFd {fds : Int32 → Option ℕ} {netnsfd : Int32} {Q : ℕ → NetWorld → Prop}
    (ok : ∀ net, Q net (w.ref net)) (error : E .EINVAL w) :
    twp (getNetNsByFd fds netnsfd) Q E w := by
  unfold getNetNsByFd
  split
  · exact error
  · exact ok _

theorem twp_withCleanup {α : Type} {cleanup : NetM Unit} {m : NetM α} {Q : α → NetWorld → Prop} :
    twp (withCleanup cleanup m) Q E w ↔
      twp m (fun a t => twp cleanup (fun _ u => Q a u) E t)
        (fun e t => twp cleanup (fun _ u => E e u) E t) w := by
  unfold withCleanup
  simp only [twp_bind, twp_unwind, twp_pure]

end Rules

/-! ## Linking -/

section Linking

variable {w : NetWorld}

/-- A net device of a PF port and its private part. -/
def Pf (w : NetWorld) (p : ℕ) : Prop :=
  p ∈ w.livePf ∧ ∃ d ns, w.dev p = some d ∧ d.priv = some ns

theorem pf_of_livePf {p : ℕ} (mem : p ∈ w.livePf) : Pf w p := by
  refine ⟨mem, ?_⟩
  obtain ⟨-, isPf⟩ := mem
  cases live : w.dev p with
  | none => simp [live] at isPf
  | some d =>
    cases own : d.priv with
    | none => simp [live, own] at isPf
    | some ns => exact ⟨d, ns, rfl, own⟩

theorem twp_nsimByIndex (sound : Sound w) (net : ℕ) (ifindex : UInt32) :
    twp (nsimByIndex net ifindex) (fun p t => t = w ∧ Pf w p) (fun _ t => t = w) w := by
  unfold nsimByIndex
  rw [twp_bind, twp_devGetByIndex]
  cases found : w.registered.find? _ with
  | none => exact rfl
  | some p =>
    obtain ⟨d, live⟩ := (sound.there p).1 (List.mem_of_find?_eq_some found)
    dsimp only
    unfold netdevIsNsim
    rw [twp_bind, twp_bind, twp_derefDev live, twp_pure, twp_bind, twp_failIf]
    refine ⟨fun _ => rfl, fun nsim => ⟨rfl, ?_⟩⟩
    have ops := sound.ops p d live
    have nsim : d.netdevOps = .nsimNetdevOps := by simpa using nsim
    cases own : d.priv with
    | none =>
      rw [own] at ops
      cases nsim.symm.trans ops
    | some ns =>
      rw [own, nsim] at ops
      cases isPf : ns.isPf with
      | false =>
        rw [opsOf, isPf] at ops
        cases ops
      | true => exact ⟨mem_livePf sound live own isPf, d, ns, live, own⟩

/-- Two net devices without peers get each other as peers, or nothing is written. -/
theorem twp_linkDevices (sound : Sound w) (nsA : ℕ) (ifidxA : UInt32) (nsB : ℕ)
    (ifidxB : UInt32) :
    twp (linkDevices nsA ifidxA nsB ifidxB)
      (fun _ t => ∃ a b, a ≠ b ∧ a ∈ w.livePf ∧ b ∈ w.livePf ∧ w.peerOf a = none ∧
        w.peerOf b = none ∧ t = (w.writePeer a (some b)).writePeer b (some a))
      (fun _ t => t = w) w := by
  unfold linkDevices
  rw [twp_bind]
  refine twp_mono (twp_nsimByIndex sound nsA ifidxA) ?_ fun _ _ => id
  rintro a _ ⟨rfl, memA, dA, nsimA, liveA, ownA⟩
  rw [twp_bind]
  refine twp_mono (twp_nsimByIndex sound nsB ifidxB) ?_ fun _ _ => id
  rintro b w ⟨rfl, memB, dB, nsimB, liveB, ownB⟩
  rw [twp_bind, twp_failIf]
  refine ⟨fun _ => rfl, fun apart => ?_⟩
  rw [twp_bind, twp_netdevPriv liveA ownA, twp_bind, twp_failIf]
  refine ⟨fun _ => rfl, fun freeA => ?_⟩
  rw [twp_bind, twp_netdevPriv liveB ownB, twp_bind, twp_failIf]
  refine ⟨fun _ => rfl, fun freeB => ?_⟩
  have liveB' : (w.writePeer a (some b)).dev b = some dB := by
    unfold NetWorld.writePeer
    simp [Ne.symm apart, liveB]
  rw [twp_bind, twp_setPeer liveA ownA, twp_setPeer liveB' ownB]
  refine ⟨a, b, apart, memA, memB, ?_, ?_, rfl⟩
  · rw [peerOf_eq liveA ownA]
    simpa using freeA
  · rw [peerOf_eq liveB ownB]
    simpa using freeB

/-- Two peers part, or nothing is written. -/
theorem twp_unlinkDevice (matched : Matched w) (ns : ℕ) (ifidx : UInt32) :
    twp (unlinkDevice ns ifidx)
      (fun _ t => ∃ a b, w.peerOf a = some b ∧ t = (w.writePeer a none).writePeer b none)
      (fun _ t => t = w) w := by
  unfold unlinkDevice
  rw [twp_bind]
  refine twp_mono (twp_nsimByIndex matched.sound ns ifidx) ?_ fun _ _ => id
  rintro a u ⟨rfl, mem, d, nsim, live, own⟩
  rw [twp_bind, twp_netdevPriv live own]
  have peerOf := peerOf_eq live own
  cases peer : nsim.peer with
  | none => exact rfl
  | some b =>
    rw [peer] at peerOf
    have apart : b ≠ a := by
      rintro rfl
      exact matched.matching.irrefl _ peerOf
    obtain ⟨dB, nsimB, liveB, ownB, -⟩ := exists_of_peerOf (matched.matching.symm a b peerOf)
    have liveB' : (u.writePeer a none).dev b = some dB := by
      unfold NetWorld.writePeer
      rw [← liveB]
      exact Function.update_of_ne apart ..
    dsimp only
    rw [twp_bind, twp_setPeer live own, twp_setPeer liveB' ownB]
    exact ⟨a, b, peerOf, rfl⟩

theorem peerOf_writePeer₂ {a b : ℕ} {pa pb : Option ℕ} (memA : a ∈ w.livePf)
    (memB : b ∈ w.livePf) :
    ((w.writePeer a pa).writePeer b pb).peerOf = PartialMatching.write w.peerOf a b pa pb := by
  obtain ⟨-, dA, nsA, liveA, ownA⟩ := pf_of_livePf memA
  have memB' : b ∈ (w.writePeer a pa).livePf := by rwa [livePf_writePeer]
  obtain ⟨-, dB, nsB, liveB, ownB⟩ := pf_of_livePf memB'
  rw [peerOf_writePeer liveB ownB, peerOf_writePeer liveA ownA]
  rfl

theorem matched_link (matched : Matched w) {a b : ℕ} (apart : a ≠ b) (memA : a ∈ w.livePf)
    (memB : b ∈ w.livePf) (freeA : w.peerOf a = none) (freeB : w.peerOf b = none) :
    Matched ((w.writePeer a (some b)).writePeer b (some a)) := by
  refine ⟨sound_writePeer (sound_writePeer matched.sound), ?_⟩
  rw [peerOf_writePeer₂ memA memB, livePf_writePeer, livePf_writePeer]
  exact matched.matching.link apart memA memB freeA freeB

theorem matched_unlink (matched : Matched w) {a b : ℕ} (linked : w.peerOf a = some b) :
    Matched ((w.writePeer a none).writePeer b none) := by
  have memA := matched.matching.mem a b linked
  refine ⟨sound_writePeer (sound_writePeer matched.sound), ?_⟩
  rw [peerOf_writePeer₂ memA (matched.matching.mem' linked), livePf_writePeer, livePf_writePeer]
  exact matched.matching.unlink linked

theorem matched_ref (matched : Matched w) (net : ℕ) : Matched (w.ref net) := by
  obtain ⟨⟨nodup, there, ops, fresh⟩, matching⟩ := matched
  exact ⟨⟨nodup, there, ops, fresh⟩, matching⟩

theorem writePeer_ref (w : NetWorld) (net p : ℕ) (peer : Option ℕ) :
    (w.ref net).writePeer p peer = (w.writePeer p peer).ref net := rfl

/-- A request to link keeps the peers matched, and changes nothing if it fails. -/
theorem twp_linkDeviceStore (matched : Matched w) (fds : Int32 → Option ℕ)
    (args : Option (Int32 × UInt32 × Int32 × UInt32)) :
    twp (linkDeviceStore fds args) (fun _ t => Matched t) (fun _ t => t = w) w := by
  unfold linkDeviceStore
  cases args with
  | none => exact rfl
  | some args =>
    obtain ⟨netnsfdA, ifidxA, netnsfdB, ifidxB⟩ := args
    dsimp only
    rw [twp_bind]
    refine twp_getNetNsByFd (fun nsA => ?_) rfl
    rw [twp_bind, twp_unwind]
    refine twp_getNetNsByFd (fun nsB => ?_) (by rw [twp_putNet, unref_ref])
    have sound := (matched_ref (matched_ref matched nsA) nsB).sound
    rw [twp_withCleanup]
    refine twp_mono (twp_linkDevices sound nsA ifidxA nsB ifidxB) ?_ ?_
    · rintro _ _ ⟨a, b, apart, memA, memB, freeA, freeB, rfl⟩
      rw [twp_bind, twp_putNet, twp_putNet]
      simp only [writePeer_ref, unref_ref]
      exact matched_link matched apart memA memB freeA freeB
    · rintro _ _ rfl
      rw [twp_bind, twp_putNet, twp_putNet, unref_ref, unref_ref]

/-- A request to unlink keeps the peers matched, and changes nothing if it fails. -/
theorem twp_unlinkDeviceStore (matched : Matched w) (fds : Int32 → Option ℕ)
    (args : Option (Int32 × UInt32)) :
    twp (unlinkDeviceStore fds args) (fun _ t => Matched t) (fun _ t => t = w) w := by
  unfold unlinkDeviceStore
  cases args with
  | none => exact rfl
  | some args =>
    obtain ⟨netnsfd, ifidx⟩ := args
    dsimp only
    rw [twp_bind]
    refine twp_getNetNsByFd (fun ns => ?_) rfl
    rw [twp_withCleanup]
    refine twp_mono (twp_unlinkDevice (matched_ref matched ns) ns ifidx) ?_ ?_
    · rintro _ _ ⟨a, b, linked, rfl⟩
      rw [twp_putNet]
      simp only [writePeer_ref, unref_ref]
      exact matched_unlink matched linked
    · rintro _ _ rfl
      rw [twp_putNet, unref_ref]

end Linking

/-! ## Creation and destruction -/

section Lifetime

variable {w t : NetWorld}

theorem Matched.of_eq (matched : Matched w) (sound : Sound t) (peerOf : t.peerOf = w.peerOf)
    (livePf : t.livePf = w.livePf) : Matched t := by
  refine ⟨sound, ?_⟩
  rw [peerOf, livePf]
  exact matched.matching

/-- A net device without a peer may come or go. -/
theorem Matched.of_differs {p : ℕ} (matched : Matched w) (sound : Sound t)
    (dev : ∀ q, q ≠ p → t.dev q = w.dev q)
    (registered : ∀ q, q ≠ p → (q ∈ t.registered ↔ q ∈ w.registered))
    (before : w.peerOf p = none) (after : t.peerOf p = none) : Matched t := by
  have peerOf : t.peerOf = w.peerOf := by
    funext q
    by_cases here : q = p
    · rw [here, before, after]
    · unfold NetWorld.peerOf
      rw [dev q here]
  refine ⟨sound, ?_⟩
  rw [peerOf]
  refine (matched.matching.leave before).mono ?_
  rintro q ⟨⟨mem, isPf⟩, away⟩
  have away : q ≠ p := away
  refine ⟨(registered q away).2 mem, ?_⟩
  rwa [dev q away]

/-- A new net device. -/
def NetWorld.add (w : NetWorld) (d : NetDevice) : NetWorld :=
  { w with
    dev := Function.update w.dev w.nextPtr (some d)
    registered := w.nextPtr :: w.registered
    nextPtr := w.nextPtr + 1 }

theorem matched_add (matched : Matched w) {d : NetDevice} (ops : d.netdevOps = opsOf d.priv)
    (free : d.priv.bind (·.peer) = none) : Matched (w.add d) := by
  have sound := matched.sound
  have unused := sound.fresh w.nextPtr le_rfl
  have new : w.nextPtr ∉ w.registered := by
    rw [sound.there, unused]
    rintro ⟨_, ⟨⟩⟩
  have at_new : (w.add d).dev w.nextPtr = some d := Function.update_self ..
  have away : ∀ q, q ≠ w.nextPtr → (w.add d).dev q = w.dev q := fun q other =>
    Function.update_of_ne other ..
  have member : ∀ q, q ∈ (w.add d).registered ↔ q = w.nextPtr ∨ q ∈ w.registered := fun q =>
    List.mem_cons
  refine matched.of_differs ⟨List.nodup_cons.2 ⟨new, sound.nodup⟩, fun q => ?_, fun q e live => ?_,
    fun q above => ?_⟩ away (fun q other => ?_) ?_ ?_
  · rw [member]
    by_cases here : q = w.nextPtr
    · simp [here, at_new]
    · simp [here, away, sound.there]
  · by_cases here : q = w.nextPtr
    · rw [here, at_new] at live
      cases live
      exact ops
    · rw [away q here] at live
      exact sound.ops q e live
  · have above : w.nextPtr + 1 ≤ q := above
    rw [away q (by omega)]
    exact sound.fresh q (by omega)
  · simp [member, other]
  · simp [NetWorld.peerOf, unused]
  · simp [NetWorld.peerOf, at_new, free]

/-- A net device that goes. -/
def NetWorld.remove (w : NetWorld) (p : ℕ) : NetWorld :=
  { w with dev := Function.update w.dev p none, registered := w.registered.erase p }

theorem matched_remove (matched : Matched w) {p : ℕ} (free : w.peerOf p = none) :
    Matched (w.remove p) := by
  have sound := matched.sound
  have at_p : (w.remove p).dev p = none := Function.update_self ..
  have away : ∀ q, q ≠ p → (w.remove p).dev q = w.dev q := fun q other =>
    Function.update_of_ne other ..
  have member : ∀ q, q ∈ (w.remove p).registered ↔ q ≠ p ∧ q ∈ w.registered := fun q =>
    sound.nodup.mem_erase_iff
  refine matched.of_differs ⟨sound.nodup.erase p, fun q => ?_, fun q d live => ?_,
    fun q above => ?_⟩ away (fun q other => ?_) free ?_
  · rw [member]
    by_cases here : q = p
    · simp [here, at_p]
    · simp [here, away, sound.there]
  · by_cases here : q = p
    · rw [here, at_p] at live
      cases live
    · rw [away q here] at live
      exact sound.ops q d live
  · by_cases here : q = p
    · rw [here, at_p]
    · rw [away q here]
      exact sound.fresh q above
  · simp [member, other]
  · simp [NetWorld.peerOf, at_p]

theorem matched_faults (matched : Matched w) {next : ℕ} (le : w.nextPtr ≤ next)
    (faults : List (Option Errno)) :
    Matched { w with nextPtr := next, faults := faults } := by
  obtain ⟨⟨nodup, there, ops, fresh⟩, matching⟩ := matched
  exact ⟨⟨nodup, there, ops, fun p above => fresh p (le.trans above)⟩, matching⟩

/-- A net device of a port is created and registered, or nothing is left of it. -/
theorem twp_nsimCreate (matched : Matched w) (net : ℕ) (isPf : Bool) (ifindex : UInt32) :
    twp (nsimCreate net isPf ifindex) (fun _ t => Matched t) (fun _ t => Matched t) w := by
  have unused := matched.sound.fresh w.nextPtr le_rfl
  unfold nsimCreate
  rw [twp_bind]
  refine twp_mayFail (fun faults => ?_) fun e faults => matched_faults matched le_rfl faults
  rw [twp_bind, twp_get, twp_bind, twp_set, twp_bind, twp_unwind]
  have undo : ∀ (e : Errno) faults d,
      twp (setDev w.nextPtr none) (fun _ t => Matched t) (fun _ t => Matched t)
        { w with
          dev := Function.update w.dev w.nextPtr d, nextPtr := w.nextPtr + 1, faults := faults } := by
    intro e faults d
    have same : Function.update (Function.update w.dev w.nextPtr d) w.nextPtr none = w.dev := by
      rw [Function.update_idem, ← unused, Function.update_eq_self]
    rw [twp_setDev]
    show Matched { w with
      dev := Function.update (Function.update w.dev w.nextPtr d) w.nextPtr none
      nextPtr := w.nextPtr + 1, faults := faults }
    rw [same]
    exact matched_faults matched (Nat.le_succ _) faults
  unfold nsimInitNetdevsim registerNetdevice
  rw [twp_bind, twp_derefDev (by exact Function.update_self ..), twp_bind, twp_setDev, twp_bind]
  dsimp only
  rw [Function.update_idem]
  refine twp_mayFail (fun faults => ?_) fun e faults => undo e faults _
  rw [twp_bind]
  refine twp_mayFail (fun faults => ?_) fun e faults => undo e faults _
  rw [twp_bind, twp_derefDev (by exact Function.update_self ..), twp_bind, twp_devGetByIndex,
    twp_bind, twp_failIf]
  refine ⟨fun _ => undo .EBUSY faults _, fun _ => ?_⟩
  rw [twp_bind, twp_setDev, twp_modify, twp_pure]
  dsimp only
  rw [Function.update_idem]
  have ops : (if isPf = true then NetdevOps.nsimNetdevOps else .nsimVfNetdevOps) =
      opsOf (some ⟨isPf, none⟩) := rfl
  exact matched_faults (matched_add (d := ⟨net, ifindex, _, some ⟨isPf, none⟩⟩) matched ops rfl)
    le_rfl faults

/-- A net device of a port is unlinked and goes. -/
theorem twp_nsimDestroy (matched : Matched w) {p : ℕ} (nsim : w.isNsim p = true) :
    twp (nsimDestroy p) (fun _ t => Matched t) (fun _ _ => False) w := by
  have unlinked : ∀ {u : NetWorld}, Matched (u.writePeer p none) →
      (∃ d ns, u.dev p = some d ∧ d.priv = some ns) →
      twp (do
          setPeer p none
          modify fun w => { w with registered := w.registered.erase p }
          setDev p none) (fun _ t => Matched t) (fun _ _ => False) u := by
    rintro u matched ⟨d, ns, live, own⟩
    rw [twp_bind, twp_setPeer live own, twp_bind, twp_modify, twp_setDev]
    refine matched_remove matched ?_
    rw [peerOf_writePeer live own, Function.update_self]
  obtain ⟨d, live, own⟩ : ∃ d, w.dev p = some d ∧ d.priv.isSome = true := by
    have private' := (Bool.and_eq_true_iff.1 nsim).2
    exact Option.any_eq_true _ _ |>.1 private'
  obtain ⟨ns, own⟩ := Option.isSome_iff_exists.1 own
  have peerOf := peerOf_eq live own
  unfold nsimDestroy
  rw [twp_bind, twp_netdevPriv live own]
  cases peer : ns.peer with
  | none =>
    refine unlinked (matched.of_eq (sound_writePeer matched.sound) ?_ livePf_writePeer)
      ⟨d, ns, live, own⟩
    rw [peerOf_writePeer live own, ← peer, ← peerOf, Function.update_eq_self]
  | some q =>
    rw [peer] at peerOf
    have back := matched.matching.symm p q peerOf
    obtain ⟨dq, nsq, liveQ, ownQ, -⟩ := exists_of_peerOf back
    have apart : p ≠ q := by
      rintro rfl
      exact matched.matching.irrefl _ peerOf
    dsimp only
    rw [twp_bind, twp_setPeer liveQ ownQ]
    refine unlinked (matched_unlink matched back) ⟨d, ns, ?_, own⟩
    rw [← live]
    exact Function.update_of_ne apart ..

/-- A net device of any driver gets another net namespace or index. -/
theorem matched_move (matched : Matched w) {p net : ℕ} {ifindex : UInt32} :
    Matched { w with
      dev := Function.update w.dev p
        ((w.dev p).map fun d => { d with net := net, ifindex := ifindex }) } := by
  have sound := matched.sound
  have priv : ∀ q, (Function.update w.dev p
      ((w.dev p).map fun d => { d with net := net, ifindex := ifindex }) q).bind (·.priv) =
        (w.dev q).bind (·.priv) := by
    intro q
    by_cases here : q = p
    · subst here
      cases live : w.dev q <;> simp
    · simp [here]
  refine matched.of_eq ⟨sound.nodup, fun q => ?_, fun q d live => ?_, fun q above => ?_⟩ ?_ ?_
  · rw [sound.there]
    by_cases here : q = p
    · subst here
      cases live : w.dev q <;> simp
    · simp [here]
  · by_cases here : q = p
    · subst here
      simp only [Function.update_self, Option.map_eq_some_iff] at live
      obtain ⟨d, live, rfl⟩ := live
      exact sound.ops q d live
    · simp only [Function.update_of_ne here] at live
      exact sound.ops q d live
  · have gone := sound.fresh q above
    by_cases here : q = p
    · subst here
      simp [gone]
    · simp [here, gone]
  · funext q
    unfold NetWorld.peerOf
    rw [priv q]
  · ext q
    unfold NetWorld.livePf
    simp only [Set.mem_ofPred_eq, priv q]

end Lifetime

/-! ## Runs -/

section Runs

variable {w t : NetWorld} {a : PeerAction}

theorem matched_of_run {α : Type} {m : NetM α} {u : NetWorld} {E : Errno → NetWorld → Prop}
    (rule : twp m (fun _ t => Matched t) E u) (failed : ∀ e t, E e t → Matched t) :
    ∃ t, (m.exec u).map Prod.snd = some t ∧ Matched t := by
  obtain ⟨result, t, run⟩ := (completes_of_twp rule).exists
  refine ⟨t, by rw [run]; rfl, ?_⟩
  unfold twp at rule
  rw [run] at rule
  cases result with
  | ok => exact rule
  | error e => exact failed e t rule

/-- Every action that may happen leads on, and keeps the peers matched. -/
theorem next_matched (matched : Matched w) (enabled : w.Enabled a) :
    ∃ t, w.next a = some t ∧ Matched t := by
  cases a with
  | link fds args =>
    refine matched_of_run (twp_linkDeviceStore matched fds args) ?_
    rintro e _ rfl
    exact matched
  | unlink fds args =>
    refine matched_of_run (twp_unlinkDeviceStore matched fds args) ?_
    rintro e _ rfl
    exact matched
  | create net isPf ifindex faults =>
    have start := matched_faults matched le_rfl faults
    exact matched_of_run (twp_nsimCreate start net isPf ifindex) fun _ _ => id
  | destroy p =>
    exact matched_of_run (twp_nsimDestroy matched enabled) fun _ _ => False.elim
  | registerOther net ifindex =>
    exact ⟨_, rfl, matched_add (d := ⟨net, ifindex, .other, none⟩) matched rfl rfl⟩
  | unregisterOther p =>
    refine ⟨_, rfl, matched_remove matched ?_⟩
    obtain ⟨d, live, foreign⟩ := Option.any_eq_true _ _ |>.1 (Bool.and_eq_true_iff.1 enabled).2
    simp [NetWorld.peerOf, live, Option.isNone_iff_eq_none.1 foreign]
  | move p net ifindex => exact ⟨_, rfl, matched_move matched⟩

theorem matched_of_reachable (reachable : peerSystem.Reachable w) : Matched w := by
  refine TransitionSystem.Reachable.induct ?_ ?_ reachable
  · rintro _ rfl
    refine ⟨⟨List.nodup_nil, fun p => ⟨nofun, ?_⟩, nofun, fun _ _ => rfl⟩, .empty _⟩
    rintro ⟨_, ⟨⟩⟩
  · rintro w a t _ matched ⟨enabled, next⟩
    obtain ⟨u, next', matched'⟩ := next_matched matched enabled
    obtain rfl : u = t := Option.some.inj (next'.symm.trans next)
    exact matched'

/-- Peers form a symmetric, irreflexive matching on the net devices of PF ports that are there, a
request that fails changes nothing, and no action goes wrong. -/
theorem peers_matched (reachable : peerSystem.Reachable w) :
    (∀ p q, w.peerOf p = some q ↔ w.peerOf q = some p) ∧ (∀ p, w.peerOf p ≠ some p) ∧
      (∀ p q, w.peerOf p = some q → p ∈ w.livePf ∧ q ∈ w.livePf) ∧
      (∀ fds args e t, (linkDeviceStore fds args).exec w = some (.error e, t) → t = w) ∧
      (∀ fds args e t, (unlinkDeviceStore fds args).exec w = some (.error e, t) → t = w) ∧
      ∀ a, w.Enabled a → ∃ t, w.next a = some t := by
  have matched := matched_of_reachable reachable
  have matching := matched.matching
  refine ⟨fun p q => matching.iff, matching.irrefl,
    fun p q linked => ⟨matching.mem p q linked, matching.mem' linked⟩, ?_, ?_, ?_⟩
  · intro fds args e t run
    have rule := twp_linkDeviceStore matched fds args
    unfold twp at rule
    rw [run] at rule
    exact rule
  · intro fds args e t run
    have rule := twp_unlinkDeviceStore matched fds args
    unfold twp at rule
    rw [run] at rule
    exact rule
  · intro a enabled
    obtain ⟨t, next, -⟩ := next_matched matched enabled
    exact ⟨t, next⟩

instance (w : NetWorld) (a : PeerAction) : Decidable (w.Enabled a) := by
  cases a <;> unfold NetWorld.Enabled <;> infer_instance

/-- The state after an action, if it may happen. -/
def NetWorld.advance (w : NetWorld) (a : PeerAction) : Option NetWorld :=
  if w.Enabled a then w.next a else none

theorem step_of_advance (a : PeerAction) (w t : NetWorld) (next : w.advance a = some t) :
    peerSystem.step w a t := by
  unfold NetWorld.advance at next
  split at next
  · exact ⟨by assumption, next⟩
  · cases next

/-- One of two peers is destroyed, and the other one linked again; a VF is not linked. -/
theorem peers_matched_again : ∃ w, peerSystem.Reachable w ∧ w.peerOf 1 = some 3 ∧
    w.peerOf 3 = some 1 := by
  have start : peerSystem.Reachable .start := .init rfl
  obtain ⟨w, reachable, test⟩ := start.exists_of_follow
    [.create 0 true 1 [], .create 0 true 2 [], .create 0 false 3 [],
      .link (fun _ => some 0) (some (0, 1, 0, 2)), .destroy 0, .create 0 true 4 [],
      .link (fun _ => some 0) (some (0, 2, 0, 3)), .link (fun _ => some 0) (some (0, 2, 0, 4))]
    (fun w => w.peerOf 1 = some 3) (fun a _ => step_of_advance a) (by decide +kernel)
  have linked := of_decide_eq_true test
  exact ⟨w, reachable, linked, ((peers_matched reachable).1 1 3).1 linked⟩

end Runs

end Netdevsim.Peers
