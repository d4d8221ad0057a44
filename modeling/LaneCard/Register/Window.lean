import LaneCard.Bytes
import LaneCard.Error.Platform

/-!
# Mapped registers

A window of registers that is mapped into memory. Registers of one, two, four or eight bytes
are read and written in place, least significant byte first; outside the window nothing can be
accessed.
-/

namespace LaneCard

/-- A mapped window. -/
structure MappedWindow where
  /-- The physical address. -/
  phys : Nat
  bytes : Bytes

namespace MappedWindow

/-- Map a window of the given size, whose registers are zero. A window has a base and is not
empty. -/
def map (hasBase : Bool) (size phys : Nat) : Except PlatformError MappedWindow :=
  if size = 0 ∨ !hasBase then .error .invalidArgument
  else .ok ⟨phys, Bytes.zeros size⟩

/-- The size of the window. -/
def size (w : MappedWindow) : Nat := w.bytes.size

/-- The number in so many bytes, least significant first. -/
def number : List UInt8 → Nat
  | [] => 0
  | b :: rest => b.toNat + 256 * number rest

/-- The lowest bytes of a number, least significant first. -/
def digits : Nat → Nat → List UInt8
  | 0, _ => []
  | n + 1, value => UInt8.ofNat value :: digits n (value / 256)

/-- Read a register of so many bytes; nothing outside the window. -/
def read? (w : MappedWindow) (offset length : Nat) : Option Nat :=
  if offset + length ≤ w.size then
    some (number (w.bytes.extract offset (offset + length)).data.toList)
  else none

/-- Write a register of so many bytes; nothing outside the window. -/
def write? (w : MappedWindow) (offset length value : Nat) : Option MappedWindow :=
  if offset + length ≤ w.size then
    some { w with bytes := w.bytes.overwrite offset (digits length value).toByteArray }
  else none

/-- Replace a word register by a function of its value. -/
def modify? (w : MappedWindow) (offset : Nat) (change : Word → Word) : Option MappedWindow := do
  let value ← w.read? offset 4
  w.write? offset 4 (change (BitVec.ofNat 32 value)).toNat

end MappedWindow

end LaneCard
