import LaneCard.Bytes
import LaneCard.Error.Record

/-!
# Record layouts

A transfer record starts with a tag word. Tag 8 selects the wide layout, whose data pointer
has 64 bits; every other tag selects the narrow one with 32.
-/

namespace LaneCard

/-- The two layouts of a transfer record. -/
inductive Model where
  | narrow
  | wide
  deriving Repr, DecidableEq

namespace Model

/-- The layout that a tag selects. -/
def ofTag (tag : Word) : Model := if tag = 8#32 then wide else narrow

/-- The tag that a layout is written with. -/
def tag : Model → Word
  | narrow => 4#32
  | wide => 8#32

/-- The length of a transmit record in bytes. -/
def txSize : Model → Nat
  | narrow => 24
  | wide => 32

/-- The length of a receive record in bytes. -/
def rxSize : Model → Nat
  | narrow => 36
  | wide => 40

/-- The layout and the tag of a record. -/
def detect (record : Bytes) : Except RecordError (Model × Word) :=
  if record.size < 4 then .error (.truncated 4 record.size)
  else .ok (ofTag (record.wordAt 0), record.wordAt 0)

end Model

end LaneCard
