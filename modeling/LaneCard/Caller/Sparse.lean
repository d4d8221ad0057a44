import LaneCard.Bytes
import LaneCard.Error.Card

/-!
# A caller's address space

Memory of a caller, made of the stretches that have been put into it. An address belongs to
the stretch with the greatest start not above it, and an access has to end within that
stretch.
-/

namespace LaneCard

/-- The stretches of an address space, each under its start. -/
structure CallerMemory where
  stretches : List (Nat × Bytes)

namespace CallerMemory

/-- Memory that cannot be accessed anywhere. -/
def empty : CallerMemory := ⟨[]⟩

/-- Put a stretch into memory; it replaces one with the same start. -/
def insert (m : CallerMemory) (addr : Nat) (bytes : Bytes) : CallerMemory :=
  ⟨(addr, bytes) :: m.stretches.filter fun s => s.1 != addr⟩

/-- The stretch with the greatest start not above an address. -/
def below? (m : CallerMemory) (addr : Nat) : Option (Nat × Bytes) :=
  m.stretches.foldl
    (fun best s =>
      if s.1 ≤ addr ∧ (best.map fun b : Nat × Bytes => b.1).getD 0 ≤ s.1 then some s else best)
    none

/-- The stretch in which the given addresses lie, or a fault at the first of them. -/
def locate (m : CallerMemory) (addr length : Nat) : Except CardError (Nat × Bytes) :=
  match m.below? addr with
  | some (start, bytes) =>
    if addr - start + length ≤ bytes.size then .ok (start, bytes) else .error (.fault addr)
  | none => .error (.fault addr)

/-- Read so many bytes. -/
def read (m : CallerMemory) (addr length : Nat) : Except CardError Bytes :=
  (m.locate addr length).map fun s => s.2.extract (addr - s.1) (addr - s.1 + length)

/-- Write some bytes. -/
def write (m : CallerMemory) (addr : Nat) (data : Bytes) : Except CardError CallerMemory :=
  (m.locate addr data.size).map fun s => m.insert s.1 (s.2.overwrite (addr - s.1) data)

/-- Read so many bytes, or none where they cannot be accessed. -/
def readBack (m : CallerMemory) (addr length : Nat) : Bytes :=
  match m.read addr length with
  | .ok bytes => bytes
  | .error _ => ByteArray.empty

end CallerMemory

end LaneCard
