import LaneCard.Bytes

/-!
# Frames

What the hardware reports about a frame besides its data: the lane and virtual channel it
travelled on, its length in words, and three error flags.
-/

namespace LaneCard

/-- The error flags of a frame. -/
structure FrameFlags where
  /-- The frame ended in an error. -/
  eofe : Bool
  /-- The receive FIFO failed. -/
  fifoErr : Bool
  /-- The frame was cut. -/
  lengthErr : Bool
  deriving Repr, DecidableEq, Inhabited

namespace FrameFlags

/-- No flag set. -/
def none : FrameFlags := ⟨false, false, false⟩

/-- The flags as bits 0, 1 and 2 of a number. -/
def bits (f : FrameFlags) : Nat := f.eofe.toNat + 2 * f.fifoErr.toNat + 4 * f.lengthErr.toNat

/-- The flags in bits 0, 1 and 2 of a number; other bits are ignored. -/
def ofBits (n : Nat) : FrameFlags := ⟨n.testBit 0, n.testBit 1, n.testBit 2⟩

/-- Whether no flag is set. -/
def isEmpty (f : FrameFlags) : Bool := !(f.eofe || f.fifoErr || f.lengthErr)

/-- The names of the set flags. -/
def names (f : FrameFlags) : List String :=
  (if f.eofe then ["EOFE"] else []) ++ (if f.fifoErr then ["FIFO_ERR"] else []) ++
    (if f.lengthErr then ["LENGTH_ERR"] else [])

/-- The flags as they appear in the journal. -/
def text (f : FrameFlags) : String :=
  let shown := if f.isEmpty then "0x0" else String.intercalate " | " f.names
  "FrameFlags(" ++ shown ++ ")"

/-- Flags survive being packed into a number. -/
theorem ofBits_bits (f : FrameFlags) : ofBits f.bits = f := by
  rcases f with ⟨a, b, c⟩
  cases a <;> cases b <;> cases c <;> decide

end FrameFlags

/-- What is known of a frame apart from its data. -/
structure FrameMeta where
  lane : Word
  vc : Word
  /-- The length in words. -/
  length : Word
  flags : FrameFlags
  deriving Repr, DecidableEq, Inhabited

/-- The data of a buffer that has never held a frame. -/
def FrameMeta.blank : FrameMeta := ⟨0#32, 0#32, 0#32, FrameFlags.none⟩

end LaneCard
