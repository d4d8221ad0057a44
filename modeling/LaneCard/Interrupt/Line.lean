import LaneCard.Error.Platform

/-!
# Interrupt lines

A line counts the interrupts that have arrived since its handler last looked; the handler
takes them all at once. Closing a line wakes its handler for good: a closed line takes no
interrupts and lets nobody wait.
-/

namespace LaneCard

/-- An interrupt line. -/
structure IrqLine where
  number : Nat
  /-- Interrupts not yet taken. -/
  pending : Nat
  closed : Bool
  deriving Repr, DecidableEq

namespace IrqLine

/-- An open line with no interrupts. -/
def new (number : Nat) : IrqLine := ⟨number, 0, false⟩

/-- An interrupt arrives; a closed line ignores it. -/
def raise (l : IrqLine) : IrqLine := if l.closed then l else { l with pending := l.pending + 1 }

/-- Raising an interrupt neither closes the line nor opens it. -/
@[simp] theorem closed_raise (l : IrqLine) : l.raise.closed = l.closed := by
  unfold raise
  split <;> simp_all

/-- So many interrupts arrive. -/
def raiseTimes (l : IrqLine) : Nat → IrqLine
  | 0 => l
  | n + 1 => l.raise.raiseTimes n

/-- Close the line. -/
def close (l : IrqLine) : IrqLine := { l with closed := true }

/-- Wait for interrupts: how many have come together. Nothing if the wait would go on. -/
def wait? (l : IrqLine) : Option (Except PlatformError Nat × IrqLine) :=
  if l.closed then some (.error .disconnected, l)
  else if 0 < l.pending then some (.ok l.pending, { l with pending := 0 })
  else none

/-- Wait no longer than a given time, in which nothing happens. -/
def waitTimeout (l : IrqLine) : Except PlatformError Nat × IrqLine :=
  l.wait?.getD (.error .timeout, l)

end IrqLine

end LaneCard
