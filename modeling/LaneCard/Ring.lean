import LaneCard.Error.Setback

/-!
# The ring of buffer numbers

A completion handler hands buffer numbers to callers through a ring: one side only moves the
write index, the other only the read index. Equal indices mean that the ring is empty, so a
ring for `capacity` numbers has two slots more. Writing never fails: a write index that
catches up with the read index is counted as a collision, and the ring then looks empty.
`Ring.toList` is the ring as the list of its entries, oldest first.
-/

namespace LaneCard

/-- A ring for `capacity` numbers. -/
structure Ring where
  capacity : Nat
  slots : Vector Nat (capacity + 2)
  read : Fin (capacity + 2)
  write : Fin (capacity + 2)
  /-- How often the write index has caught up with the read index. -/
  collisions : Nat

/-- The result of writing to a ring. -/
inductive PushResult where
  | stored
  /-- The write index has caught up with the read index. -/
  | collision
  deriving Repr, DecidableEq

namespace Ring

/-- The number of slots. -/
def depth (r : Ring) : Nat := r.capacity + 2

/-- An empty ring. -/
def new (capacity : Nat) : Ring :=
  ⟨capacity, Vector.replicate (capacity + 2) 0, 0, 0, 0⟩

/-- The room that a slot takes. -/
def slotSize : Nat := 8

/-- Whether the slots of a ring for so many numbers can be laid out. -/
def canHold (capacity : Nat) : Bool := canLayOut (capacity + 2) slotSize

/-- A ring that starts with the given numbers, as many as it has room for. -/
def ofList (capacity : Nat) (entries : List Nat) : Ring :=
  let taken := (entries.take capacity).toArray
  { capacity := capacity
    slots := Vector.ofFn fun i => taken.getD i.val 0
    read := 0
    write := ⟨(entries.take capacity).length, by simp only [List.length_take]; omega⟩
    collisions := 0 }

/-- The index after an index, from the last slot back to the first. -/
def succ (r : Ring) (i : Fin (r.capacity + 2)) : Fin (r.capacity + 2) :=
  ⟨(i.val + 1) % (r.capacity + 2), Nat.mod_lt _ (by omega)⟩

/-- Write a number and move the write index. -/
def push (r : Ring) (entry : Nat) : PushResult × Ring :=
  let moved := { r with slots := r.slots.set r.write entry, write := r.succ r.write }
  if r.succ r.write = r.read then (.collision, { moved with collisions := r.collisions + 1 })
  else (.stored, moved)

/-- Whether the ring holds nothing. -/
def isEmpty (r : Ring) : Bool := r.read == r.write

/-- The oldest number. -/
def peek? (r : Ring) : Option Nat := if r.isEmpty then none else some r.slots[r.read]

/-- The ring without its oldest number. -/
def drop (r : Ring) : Ring := if r.isEmpty then r else { r with read := r.succ r.read }

/-- Take the oldest number. -/
def pop (r : Ring) : Option Nat × Ring := (r.peek?, r.drop)

/-- The number of entries. -/
def length (r : Ring) : Nat := (r.write.val + r.depth - r.read.val) % r.depth

/-- The entry that is `k` places behind the oldest. -/
def entry (r : Ring) (k : Nat) : Nat :=
  r.slots.get ⟨(r.read.val + k) % (r.capacity + 2), Nat.mod_lt _ (by omega)⟩

/-- The entries, oldest first. -/
def toList (r : Ring) : List Nat := (List.range r.length).map r.entry

end Ring

end LaneCard
