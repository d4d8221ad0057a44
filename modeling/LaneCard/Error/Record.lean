/-!
# Unreadable records

The causes for which a record of a caller is refused.
-/

namespace LaneCard

/-- Why a record could not be read or written. -/
inductive RecordError where
  /-- The record ends before its layout does. -/
  | truncated (expected actual : Nat)
  /-- The record is not as long as its layout. -/
  | sizeMismatch (expected actual : Nat)
  /-- The contents have no place in the layout. -/
  | malformed (text : String)
  deriving Repr, DecidableEq

/-- The text shown for a refused record. -/
def RecordError.message : RecordError → String
  | .truncated expected actual => s!"record too short: expected {expected} bytes, got {actual}"
  | .sizeMismatch expected actual =>
    s!"record size mismatch: expected {expected} bytes, got {actual}"
  | .malformed text => "malformed record: " ++ text

end LaneCard
