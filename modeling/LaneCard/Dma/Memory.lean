import LaneCard.Bytes

/-!
# Memory that starts out zero

A stretch of memory of fixed size. Only the bytes up to the last one ever written are kept;
all bytes behind them are zero.
-/

namespace LaneCard

/-- Memory of a fixed size. -/
structure Memory where
  size : Nat
  /-- The bytes from the start; what lies behind them is zero. -/
  stored : Bytes

namespace Memory

/-- Memory full of zeros. -/
def zeroed (size : Nat) : Memory := ⟨size, ByteArray.empty⟩

/-- The byte at a position. -/
def byteAt (m : Memory) (i : Nat) : UInt8 := m.stored.byteAt i

/-- The bytes from `offset` to `offset + length`. -/
def read (m : Memory) (offset length : Nat) : Bytes :=
  Bytes.fit (m.stored.extract offset (offset + length)) length

/-- As many bytes are read as asked for. -/
@[simp] theorem size_read (m : Memory) (offset length : Nat) :
    (m.read offset length).size = length := by
  simp [read]

/-- Replace the bytes from `offset` on. -/
def write (m : Memory) (offset : Nat) (data : Bytes) : Memory :=
  let padded := m.stored ++ Bytes.zeros (offset - m.stored.size)
  { m with stored := Bytes.overwrite padded offset data }

end Memory

end LaneCard
