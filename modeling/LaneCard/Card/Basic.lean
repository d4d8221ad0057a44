import LaneCard.Card.Address
import LaneCard.Host
import LaneCard.Pool
import LaneCard.Register.Map
import LaneCard.Ring

/-!
# Cards

The driver's side of a card: its two pools of buffers, the ring of free transmit buffers, the
ring of received frames, and what is known of the one session it may have. A `Card` is the
driver's side together with the host it works on.
-/

namespace LaneCard

/-- The driver's side of a card. -/
structure Device where
  name : String
  address : PciAddress
  /-- The physical address of the register window. -/
  baseHdwr : Nat
  /-- The size of the register window. -/
  baseLen : Nat
  txPool : BufferPool
  rxPool : BufferPool
  /-- The numbers of the free transmit buffers. -/
  txFree : Ring
  /-- The numbers of the receive buffers with a frame to be read. -/
  rxReady : Ring
  /-- Whether the next wait is to be cancelled. -/
  signal : Bool
  /-- Who is told of each frame. -/
  listener : Option Nat
  /-- Who has been told of a frame, in order. -/
  notices : List Nat
  /-- Whether a session is open. -/
  isOpen : Bool
  /-- Whether the device has been stopped. -/
  detached : Bool
  /-- The level of detail of the journal. -/
  debug : Word
  /-- Completions that named no buffer. -/
  unmatched : Nat
  /-- Frames given back because nobody was there to read them. -/
  droppedClosed : Nat

/-- A card on a bus of the given kind. -/
structure Card (β : Type) where
  host : Host β
  device : Device

namespace Card

variable {β : Type}

/-- Add a line under the name of the card. -/
def note (c : Card β) (level : Level) (text : String) : Card β :=
  { c with host := c.host.note level (c.device.name ++ ": " ++ text) }

/-- Add a line for debugging if the level of detail is above `threshold`. -/
def trace (c : Card β) (threshold : Nat) (text : String) : Card β :=
  if threshold < c.device.debug.toNat then c.note .debug text else c

/-- What holds of a card, and also with one more line in its journal, holds after a line for debugging. -/
theorem trace_induction (P : Card β → Prop) (c : Card β) (hc : P c) (hnote : ∀ level text, P (c.note level text))
    (threshold : Nat) (text : String) : P (c.trace threshold text) := by
  unfold trace
  split
  · exact hnote .debug text
  · exact hc

variable [RegisterBus β]

/-- Write a register. -/
def write (c : Card β) (offset : Nat) (value : Word) : Card β :=
  { c with host := c.host.write offset value }

/-- Read a register. -/
def read (c : Card β) (offset : Nat) : Word × Card β :=
  ((c.host.read offset).1, { c with host := (c.host.read offset).2 })

/-- Give a receive buffer to the card, on a lane. -/
def giveFree (c : Card β) (lane : Nat) (addr : Word) : Card β :=
  c.write (Offset.rxFree + 4 * (lane % laneCount)) addr

end Card

end LaneCard
