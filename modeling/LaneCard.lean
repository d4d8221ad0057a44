import LaneCard.Bench.Play
import LaneCard.Bench.Regions
import LaneCard.Caller.Local
import LaneCard.Interrupt.Handler
import LaneCard.Record.Listing
import LaneCard.Register.Window
import LaneCard.Proofs.Descriptor
import LaneCard.Proofs.FieldAlgebra
import LaneCard.Proofs.Ring
import LaneCard.Proofs.Allocator
import LaneCard.Proofs.Pool
import LaneCard.Proofs.Board
import LaneCard.Proofs.Holdings
import LaneCard.Proofs.Transmission
import LaneCard.Proofs.Waiting
import LaneCard.Proofs.Calls
import LaneCard.Proofs.Reception
import LaneCard.Proofs.Recycling
import LaneCard.Proofs.Handler
import LaneCard.Proofs.Moves
import LaneCard.Proofs.Commands
import LaneCard.Proofs.Record
import LaneCard.Proofs.Steps
import LaneCard.Proofs.Attach
import LaneCard.Proofs.TransmitBuffers
import LaneCard.Proofs.ReceiveOwnership
import LaneCard.Proofs.ReceiveBuffers
import LaneCard.Proofs.Delivery
import LaneCard.Proofs.Wires
import LaneCard.Proofs.FrameQueue
import LaneCard.Proofs.Mirror
import LaneCard.Proofs.Loopback
import LaneCard.Proofs.HandOff
import LaneCard.Proofs.Settling
import LaneCard.Proofs.Backing
import LaneCard.Proofs.Interaction
import LaneCard.Proofs.Conduct
import LaneCard.Proofs.Lifetime
import LaneCard.Proofs.Robustness
import LaneCard.Proofs.Accounts
import LaneCard.Proofs.BusWindow
import LaneCard.Proofs.Undoing
import LaneCard.Proofs.Tables
import LaneCard.Proofs.Lifecycle
import LaneCard.Proofs.References
import LaneCard.Proofs.Bookkeeping
import LaneCard.Proofs.Inventory
import LaneCard.Proofs.Succession
import LaneCard.Proofs.ClosedLine
import LaneCard.Proofs.Reattaching
import LaneCard.Proofs.CallerMemory
import LaneCard.Proofs.StatusRecord
import LaneCard.Proofs.Request
import LaneCard.Proofs.TransmitRecord
import LaneCard.Proofs.ReceiveRecord
import LaneCard.Proofs.Agreement
import LaneCard.Proofs.Refusal
import LaneCard.Proofs.Detached
import LaneCard.Proofs.Signal
import LaneCard.Proofs.Matching
import LaneCard.Proofs.MatchingSteps
import LaneCard.Proofs.Interrupters
import LaneCard.Proofs.SameSession
import LaneCard.Proofs.Episodes
import LaneCard.Proofs.Exclusive
import LaneCard.Proofs.Roster
import LaneCard.Proofs.Slots
import LaneCard.Proofs.Reported
import LaneCard.Proofs.Receiving
import LaneCard.Proofs.RingQueue
import LaneCard.Proofs.RegionHistory
import LaneCard.Proofs.ForeignRelease
import LaneCard.Proofs.OneMemory
import LaneCard.Proofs.PoolAllocation
import LaneCard.Proofs.AddressReach
import LaneCard.Proofs.ControlRegisters
import LaneCard.Proofs.StatusMap
import LaneCard.Proofs.AttachRoom
import LaneCard.Proofs.FreeCount
import LaneCard.Proofs.Lengths
import LaneCard.Proofs.Cancellation
import LaneCard.Proofs.HandlerLoop
