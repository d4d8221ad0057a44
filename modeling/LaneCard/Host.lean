import LaneCard.Dma.Allocator
import LaneCard.Interrupt.Line
import LaneCard.Register.File

/-!
# The host of a card

What a driver reaches of one card: a register bus, the memory that the card reaches by bus
address, the interrupt line, and the journal. A register bus may do more than store a word:
reading a register may take a word from a FIFO, and writing one may move data in memory and
raise an interrupt. `RegisterBus` leaves that to the kind of bus; the plain kind is a register
file, which only stores.
-/

namespace LaneCard

/-- What a driver reaches of a card on a bus of the given kind. -/
structure Host (β : Type) where
  bus : β
  /-- The memory that the card reaches. -/
  memory : Allocator
  line : IrqLine
  /-- Where the buffers of the driver come from, if not from the memory that the card reaches. -/
  apart : Option Allocator
  journal : Journal

/-- A kind of register bus. -/
class RegisterBus (β : Type) where
  /-- The word that reading a register gives. -/
  look : β → Nat → Word
  /-- The bus after reading a register. -/
  fetch : β → Nat → β
  /-- The host after writing a register. -/
  store : Host β → Nat → Word → Host β

instance : RegisterBus RegisterFile where
  look := RegisterFile.get
  fetch := fun bus _ => bus
  store := fun h offset value => { h with bus := h.bus.set offset value }

namespace Host

variable {β : Type}

/-- Add a line to the journal. -/
def note (h : Host β) (level : Level) (text : String) : Host β :=
  { h with journal := h.journal.push ⟨level, text⟩ }

/-- Add lines to the journal. -/
def noteAll (h : Host β) (lines : List Line) : Host β :=
  { h with journal := h.journal ++ lines.toArray }

/-- Where the buffers of the driver come from. -/
def buffers (h : Host β) : Allocator := h.apart.getD h.memory

/-- Change the allocator of the buffers. -/
def setBuffers (h : Host β) (a : Allocator) : Host β :=
  match h.apart with
  | some _ => { h with apart := some a }
  | none => { h with memory := a }

/-- The allocator that was put back is the one for buffers. -/
@[simp] theorem buffers_setBuffers (h : Host β) (a : Allocator) :
    (h.setBuffers a).buffers = a := by
  cases h with
  | mk bus memory line apart journal => cases apart <;> rfl

variable [RegisterBus β]

/-- The word that reading a register gives. -/
def look (h : Host β) (offset : Nat) : Word := RegisterBus.look h.bus offset

/-- Read a register. -/
def read (h : Host β) (offset : Nat) : Word × Host β :=
  (h.look offset, { h with bus := RegisterBus.fetch h.bus offset })

/-- Write a register. -/
def write (h : Host β) (offset : Nat) (value : Word) : Host β := RegisterBus.store h offset value

/-- Read a register and write a function of its word. -/
def modify (h : Host β) (offset : Nat) (change : Word → Word) : Host β :=
  let (value, h) := h.read offset
  h.write offset (change value)

/-- Set bits of a register. -/
def setBits (h : Host β) (offset : Nat) (bits : Word) : Host β := h.modify offset (· ||| bits)

/-- Clear bits of a register. -/
def clearBits (h : Host β) (offset : Nat) (bits : Word) : Host β := h.modify offset (· &&& ~~~bits)

end Host

end LaneCard
