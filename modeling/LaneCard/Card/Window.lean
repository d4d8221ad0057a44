import LaneCard.Card.Basic
import LaneCard.Error.Card

/-!
# Register windows

A session can map the beginning of the card's register window and access registers directly.
A window lets through whole registers within its length, for reading and for writing as far
as it was asked for.
-/

namespace LaneCard

/-- A mapped beginning of a card's registers. -/
structure RegisterWindow where
  phys : Nat
  length : Nat
  readable : Bool
  writable : Bool
  deriving Repr, DecidableEq

namespace RegisterWindow

/-- The fault at an offset of the window. -/
def fault (w : RegisterWindow) (offset : Nat) : CardError := .fault (w.phys + offset)

/-- Whether an offset names a whole register of the window. -/
def contains (w : RegisterWindow) (offset : Nat) : Bool :=
  offset % 4 == 0 && decide (offset + 4 ≤ w.length)

variable {β : Type} [RegisterBus β]

/-- Read a register through the window. -/
def read (w : RegisterWindow) (h : Host β) (offset : Nat) : Except CardError Word × Host β :=
  if w.contains offset && w.readable then
    let (value, h) := h.read offset
    (.ok value, h)
  else (.error (w.fault offset), h)

/-- Write a register through the window. -/
def write (w : RegisterWindow) (h : Host β) (offset : Nat) (value : Word) :
    Except CardError Unit × Host β :=
  if w.contains offset && w.writable then (.ok (), h.write offset value)
  else (.error (w.fault offset), h)

end RegisterWindow

/-- Map the first `length` bytes of the registers, for reading and writing as asked for. -/
def Card.mapRegisters {β : Type} (c : Card β) (length : Nat) (readable writable : Bool) :
    Except CardError RegisterWindow × Card β :=
  if c.device.detached then (.error .noDevice, c)
  else if length = 0 ∨ c.device.baseLen < length then
    (.error (.platform .invalidArgument),
      c.note .warn s!"Mmap: requested {length} bytes, BAR0 is {c.device.baseLen} bytes")
  else (.ok ⟨c.device.baseHdwr, length, readable, writable⟩, c)

end LaneCard
