import LaneCard.Bytes
import LaneCard.Error.Card

/-!
# Local memory

A caller in the same address space passes plain pointers. The only pointer that is refused is
the null pointer, and only if anything is to be copied.
-/

namespace LaneCard

/-- A pointer into a local buffer. -/
inductive LocalPointer where
  | null
  | at (offset : Nat)
  deriving Repr, DecidableEq

namespace LocalMemory

/-- Read so many bytes of a buffer. -/
def read (buffer : Bytes) (p : LocalPointer) (length : Nat) : Except CardError Bytes :=
  if length = 0 then .ok ByteArray.empty
  else
    match p with
    | .null => .error (.fault 0)
    | .at offset => .ok (buffer.extract offset (offset + length))

/-- Write some bytes into a buffer. -/
def write (buffer : Bytes) (p : LocalPointer) (data : Bytes) : Except CardError Bytes :=
  if data.size = 0 then .ok buffer
  else
    match p with
    | .null => .error (.fault 0)
    | .at offset => .ok (buffer.overwrite offset data)

end LocalMemory

end LaneCard
