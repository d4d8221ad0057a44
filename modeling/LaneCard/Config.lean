import LaneCard.Error.Card
import LaneCard.Register.Layout

/-!
# Configuration

How many buffers of what size a device gets in each direction. A configuration is accepted
when every length it allows can be written into the card's descriptors.
-/

namespace LaneCard

/-- The configuration of a device and of the registry. -/
structure Config where
  txCount : Nat
  /-- The size of a transmit buffer in bytes. -/
  txSize : Nat
  rxCount : Nat
  /-- The size of a receive buffer in bytes. -/
  rxSize : Nat
  /-- The first level of detail of the journal. -/
  debug : Word
  /-- The number of slots of the registry. -/
  maxDevices : Nat
  deriving Repr, DecidableEq

namespace Config

/-- The default size of a buffer in bytes. -/
def defaultBufferSize : Nat := 0x200000

/-- The default number of buffers of a pool. -/
def defaultBufferCount : Nat := 32

/-- The default number of cards in the registry. -/
def defaultMaxDevices : Nat := 8

/-- Thirty-two buffers of two megabytes in each direction. -/
def standard : Config :=
  ⟨defaultBufferCount, defaultBufferSize, defaultBufferCount, defaultBufferSize, 0#32,
    defaultMaxDevices⟩

/-- What is wrong with a buffer size: it has to be whole words, and their number has to fit
the length field of a descriptor. -/
def sizeFault? (size : Nat) : Option ConfigFault :=
  if size = 0 ∨ size % wordSize ≠ 0 then some .oddBufferSize
  else if TxWord.length.maxValue.toNat < size / wordSize then some .descriptorLength
  else none

/-- The first thing wrong with a configuration. -/
def fault? (c : Config) : Option ConfigFault :=
  if c.txCount = 0 ∨ c.rxCount = 0 then some .noBuffers
  else if c.maxDevices = 0 then some .noDevices
  else
    ((sizeFault? c.txSize).or (sizeFault? c.rxSize)).or
      (if MaxFrameWord.size.maxValue.toNat < c.rxSize then some .maxFrame else none)

/-- Accept a configuration or say what is wrong with it. -/
def validate (c : Config) : Except CardError Unit :=
  match c.fault? with
  | some f => .error (.ofConfig f)
  | none => .ok ()

end Config

end LaneCard
