import Netdevsim.Dpll.Teardown
import Netdevsim.Kernel
import Netdevsim.Lib.Runs
import Netdevsim.Ptp.MockPhc
import Netdevsim.Ptp.Clock
import Netdevsim.Ptp.RateLaw
import Netdevsim.Ptp.Observe
import Netdevsim.Ptp.Extts
import Netdevsim.Ptp.ExttsEdges
import Netdevsim.Ptp.FreeRun
import Netdevsim.Dpll.Core
import Netdevsim.Dpll.Init
import Netdevsim.Dpll.DeviceTable
import Netdevsim.Dev.Device
import Netdevsim.Dpll.Attach
import Netdevsim.Dev.Ports
import Netdevsim.Dev.Lifecycle
import Netdevsim.Dev.Reload
import Netdevsim.Dev.PortPins
import Netdevsim.Dev.Agree
import Netdevsim.Dpll.Degrade
import Netdevsim.Lib.Ring
import Netdevsim.Ptp.TimestampQueue
import Netdevsim.Ptp.ReaderFifo
import Netdevsim.Lib.RefCount
import Netdevsim.Phc.Bus
import Netdevsim.Phc.Sound
import Netdevsim.Phc.Sharing
import Netdevsim.Phc.Parent
import Netdevsim.Phc.Lookup
import Netdevsim.Phc.Race
import Netdevsim.Dpll.Refs
import Netdevsim.Dpll.Registry
import Netdevsim.Dpll.TwoSided
import Netdevsim.Dpll.Registrations
import Netdevsim.Dpll.Listener
import Netdevsim.Dpll.Completes
import Netdevsim.Dpll.PinLedger
import Netdevsim.Dpll.Holds
import Netdevsim.Dpll.Wpc
import Netdevsim.Dpll.View
import Netdevsim.Dpll.Trace
import Netdevsim.Dpll.GetPut
import Netdevsim.Fib.Routes
import Netdevsim.Lib.Pending
import Netdevsim.Fib.Sound
import Netdevsim.Fib.Effects
import Netdevsim.Fib.Events
import Netdevsim.Fib.System
import Netdevsim.Fib.Counting
import Netdevsim.Fib.Occupancy
import Netdevsim.Fib.Occupancy6
import Netdevsim.Fib.Nexthops
import Netdevsim.Lib.Matching
import Netdevsim.Dev.Peers
import Netdevsim.Dev.Matched
import Netdevsim.Dev.VfPorts
import Netdevsim.Dev.VfSet
import Netdevsim.Dev.PortLife
import Netdevsim.Dev.PortLog
import Netdevsim.Dev.Outlives
import Netdevsim.Dev.VfBounds
import Netdevsim.Bus.Atomic
import Netdevsim.Bus.Loaded
import Netdevsim.Dev.Handlers
import Netdevsim.Dpll.CfgValset
import Netdevsim.Ptp.Adjtime
import Netdevsim.Ptp.Lateness
import Netdevsim.Ptp.OneShot
import Netdevsim.Ptp.Reported
import Netdevsim.Dpll.Gga
import Netdevsim.Dpll.NmeaBatch
import Netdevsim.Lib.Framing
import Netdevsim.Lib.Store
import Netdevsim.Dpll.UbxFraming
import Netdevsim.Dpll.UbxReplies
import Netdevsim.Dpll.UbxBatch
import Netdevsim.Dpll.InBounds
import Netdevsim.Ptp.StepEffect
import Netdevsim.Ptp.PinFunc
import Netdevsim.Ptp.Vclocks
import Netdevsim.Ptp.SysfsFifo
import Netdevsim.Dpll.OnPin
import Netdevsim.Lib.Slots
import Netdevsim.Netdev.Ipsec
import Netdevsim.Netdev.Xmit
import Netdevsim.Netdev.Macsec
import Netdevsim.Netdev.BpfOffload
import Netdevsim.Lib.SlotMap
import Netdevsim.Lib.BoundedMap
import Netdevsim.Netdev.BpfMap
import Netdevsim.Dpll.Netlink
import Netdevsim.Dpll.PinSet
import Netdevsim.Dpll.AllOrNone
import Netdevsim.Dpll.FreqRange
import Netdevsim.Dpll.ParentPin
import Netdevsim.Dpll.Listed
import Netdevsim.Lib.Lookup
import Netdevsim.Dpll.IdGet
import Netdevsim.Lib.Writer
import Netdevsim.Dpll.Message
import Netdevsim.Dpll.Dump
import Netdevsim.Lib.LittleEndian
import Netdevsim.Netdev.IpsecKeys
import Netdevsim.Lib.LastWrite
import Netdevsim.Dev.VfReadBack
import Netdevsim.ScanWords
import Netdevsim.Bus.LineExact
import Netdevsim.Shim.SysOffset
import Netdevsim.Lib.RateClock
import Netdevsim.Ptp.Timecounter
import Netdevsim.Ptp.VirtualClock
import Netdevsim.Ptp.IdealVclocks
import Netdevsim.Ptp.VclockRate
import Netdevsim.Lib.Buckets
import Netdevsim.Ptp.VclockConvert
import Netdevsim.Lib.FirstMatch
import Netdevsim.Netdev.Hwstats
import Netdevsim.Netdev.HwstatsSound
import Netdevsim.Netdev.HwstatsCounts
import Netdevsim.Ptp.VclockRefresh
import Netdevsim.Lib.Hex
import Netdevsim.Dev.Traps
import Netdevsim.Dev.TrapsMirror
import Netdevsim.Netdev.BpfExclusive
import Netdevsim.Dev.Psample
import Netdevsim.Fib.Teardown
import Netdevsim.Lib.Delimited
