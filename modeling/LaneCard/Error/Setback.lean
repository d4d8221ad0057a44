/-!
# Setbacks

Most work that is not done fails for a cause, which the caller is told and after which nothing
is left behind. Work that would need a number, a table or a name that a machine cannot hold is
cut short instead: the caller is told no cause, and nothing is undone for its sake.
-/

namespace LaneCard

/-- Why something was not done. -/
inductive Setback (ε : Type) where
  | failed (cause : ε)
  /-- A number or a table would have been too large, or a name could not be given. -/
  | cutShort
  deriving Repr, DecidableEq

/-- The size of the largest object that memory can be laid out for. -/
def largestObject : Nat := 0x7FFFFFFFFFFFFFFF

/-- Whether a table of so many entries of the given size can be laid out. -/
def canLayOut (count size : Nat) : Bool := decide (count * size ≤ largestObject)

end LaneCard
