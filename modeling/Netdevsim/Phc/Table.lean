import Netdevsim.Dpll.Core
import Netdevsim.Ptp.Clock

/-!
# The mock PHCs and the clocks of the PTP class

`PhcTable` is the memory of the mock PHCs and the list of clocks of the PTP class, in the order of
their registration.  The class has the clocks of the mock PHCs and, since
`ptp_vclock_register` registers its clock there too, the virtual clocks under them.  The functions
here are the atomic ones: the lookup by logical id, `kref_get`, the registration of a new PHC,
`kref_put` and the destruction of a PHC, and the registration and removal of virtual clocks.
-/

namespace Netdevsim.Phc

/-- `struct mock_phc` and its clock, as far as sharing goes. -/
structure PhcObject where
  logicalClkId : Int32
  /-- The count of `ref`. -/
  ref : ℕ
  /-- `clock->dev.parent`. -/
  parent : Ptr
  /-- `clock->n_vclocks`. -/
  nVclocks : UInt32
  deriving DecidableEq, Repr

/-- A device of `ptp_class`. -/
inductive PtpClassDev where
  /-- The clock of a mock PHC. -/
  | mock (phc : Ptr)
  /-- A virtual clock, under the clock of the mock PHC `pclock`. -/
  | vclock (vclock pclock : Ptr)
  deriving DecidableEq, Repr

structure PhcTable where
  /-- The mock PHCs in memory. -/
  phc : Ptr → Option PhcObject
  /-- The devices of `ptp_class`, in the order of their registration. -/
  ptpClass : List PtpClassDev
  /-- What follows the `info` of a virtual clock in memory, at the distance at which
  `logical_clk_id` follows the `info` of a mock PHC. -/
  stray : Ptr → Int32
  /-- The first address not yet handed out. -/
  nextPtr : Ptr

namespace PhcTable

/-- Nothing is registered yet. -/
def empty (stray : Ptr → Int32) : PhcTable := ⟨fun _ => none, [], stray, 16⟩

/-! ## The lookup -/

/-- `mock_phc_logical_clk_id` of what `mock_phc_from_ptp` makes of a clock, which is to subtract an
offset from its `info`. -/
def mockPhcLogicalClkId (t : PhcTable) : PtpClassDev → Int32
  | .mock phc =>
    match t.phc phc with
    | some o => o.logicalClkId
    | none => 0
  | .vclock vclock _ => t.stray vclock

/-- `ptp_match_logical_clk_id`. -/
def ptpMatchLogicalClkId (t : PhcTable) (id : Int32) (dev : PtpClassDev) : Bool :=
  t.mockPhcLogicalClkId dev = id

/-- `class_find_device`: the devices it tried, in their order, and the first that matches. -/
def classFindDevice (isMatch : PtpClassDev → Bool) :
    List PtpClassDev → List PtpClassDev × Option PtpClassDev
  | [] => ([], none)
  | dev :: devs =>
    if isMatch dev then ([dev], some dev)
    else
      let (tried, found) := classFindDevice isMatch devs
      (dev :: tried, found)

/-- `get_ptp_clock_by_logical_clk_id`, with the clocks it inspected. -/
def getPtpClockByLogicalClkId (t : PhcTable) (id : Int32) :
    List PtpClassDev × Option PtpClassDev :=
  classFindDevice (t.ptpMatchLogicalClkId id) t.ptpClass

/-! ## References -/

/-- Change the PHC at an address, if there is one. -/
def modify (t : PhcTable) (phc : Ptr) (f : PhcObject → PhcObject) : PhcTable :=
  { t with phc := Function.update t.phc phc ((t.phc phc).map f) }

/-- `kref_get`. -/
def krefGet (t : PhcTable) (phc : Ptr) : PhcTable := t.modify phc fun o => { o with ref := o.ref + 1 }

/-- A new PHC with one reference, whose clock `ptp_clock_register` has put in the class. -/
def register (t : PhcTable) (parent : Ptr) (id : Int32) : PhcTable :=
  { t with
    phc := Function.update t.phc t.nextPtr (some ⟨id, 1, parent, 0⟩)
    ptpClass := t.ptpClass ++ [.mock t.nextPtr]
    nextPtr := t.nextPtr + 1 }

/-- The virtual clock is under the clock of this PHC. -/
def isVclockOf (phc : Ptr) : PtpClassDev → Bool
  | .mock _ => false
  | .vclock _ pclock => pclock = phc

/-- `ptp_vclock_in_use`, with the outcome of taking its lock. -/
def ptpVclockInUse (t : PhcTable) (phc : Ptr) (interrupted : Bool) : Bool :=
  interrupted || (t.phc phc).any (·.nVclocks ≠ 0)

/-- `ptp_clock_unregister` of the clock of a PHC. -/
def ptpClockUnregister (t : PhcTable) (phc : Ptr) (interrupted : Bool) : PhcTable :=
  let devs := if t.ptpVclockInUse phc interrupted then t.ptpClass.filter (!isVclockOf phc ·)
    else t.ptpClass
  { t with ptpClass := devs.erase (.mock phc) }

/-- `mock_phc_destroy`. -/
def mockPhcDestroy (t : PhcTable) (phc : Ptr) (interrupted : Bool) : PhcTable :=
  { t.ptpClockUnregister phc interrupted with phc := Function.update t.phc phc none }

/-- The decrement of `kref_put`, and whether it dropped the last reference. -/
def krefPut (t : PhcTable) (phc : Ptr) : PhcTable × Bool :=
  (t.modify phc fun o => { o with ref := o.ref - 1 }, (t.phc phc).any (·.ref = 1))

/-- `mock_phc_release`. -/
def mockPhcRelease (t : PhcTable) (phc : Ptr) (interrupted : Bool) : PhcTable :=
  let (t, last) := t.krefPut phc
  if last then t.mockPhcDestroy phc interrupted else t

/-! ## Virtual clocks -/

/-- `ptp_vclock_register`. -/
def ptpVclockRegister (t : PhcTable) (phc : Ptr) : PhcTable :=
  { t with ptpClass := t.ptpClass ++ [.vclock t.nextPtr phc], nextPtr := t.nextPtr + 1 }

/-- The virtual clocks `n_vclocks_store` registers: one attempt per wanted clock, the first failure
ends the loop. -/
def registerVclocks (t : PhcTable) (phc : Ptr) : ℕ → List Bool → PhcTable × Bool
  | 0, _ => (t, true)
  | n + 1, true :: attempts => registerVclocks (t.ptpVclockRegister phc) phc n attempts
  | _ + 1, _ => (t, false)

/-- Take the first `n` virtual clocks of a PHC out of a list. -/
def unregisterVclocks (phc : Ptr) : ℕ → List PtpClassDev → List PtpClassDev
  | 0, devs => devs
  | _ + 1, [] => []
  | n + 1, dev :: devs =>
    if isVclockOf phc dev then unregisterVclocks phc n devs
    else dev :: unregisterVclocks phc (n + 1) devs

/-- `n_vclocks_store` on the clock of a PHC.  The last virtual clocks are removed first. -/
def nVclocksStore (t : PhcTable) (phc : Ptr) (interrupted : Bool) (buf : Bytes)
    (attempts : List Bool) : PhcTable × Option Errno :=
  match kstrtouint buf 0, t.phc phc with
  | .error _, _ => (t, some .EINVAL)
  | .ok _, none => (t, some .ENODEV)
  | .ok num, some o =>
    if interrupted then (t, some .ERESTARTSYS)
    else if PTP_DEFAULT_MAX_VCLOCKS < num then (t, some .EINVAL)
    else if o.nVclocks < num then
      let (t, done) := t.registerVclocks phc (num - o.nVclocks).toNat attempts
      if done then (t.modify phc fun o => { o with nVclocks := num }, none) else (t, some .EINVAL)
    else
      let left := (unregisterVclocks phc (o.nVclocks - num).toNat t.ptpClass.reverse).reverse
      ({ t with ptpClass := left }.modify phc fun o => { o with nVclocks := num }, none)

end PhcTable

end Netdevsim.Phc
