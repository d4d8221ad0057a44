import LaneCard.Bytes

/-!
# Register files

The stored words of a register window by offset. A register that was never set reads zero.
-/

namespace LaneCard

/-- Stored registers, in the order of their offsets. -/
structure RegisterFile where
  entries : List (Nat × Word)
  deriving Repr, DecidableEq

namespace RegisterFile

/-- A file in which nothing was set. -/
def empty : RegisterFile := ⟨[]⟩

/-- The word at an offset. -/
def get (r : RegisterFile) (offset : Nat) : Word := (r.entries.lookup offset).getD 0#32

/-- Set an entry of an ordered list. -/
def setEntry (offset : Nat) (value : Word) : List (Nat × Word) → List (Nat × Word)
  | [] => [(offset, value)]
  | (o, v) :: rest =>
    if offset < o then (offset, value) :: (o, v) :: rest
    else if offset = o then (offset, value) :: rest
    else (o, v) :: setEntry offset value rest

/-- Set the word at an offset. -/
def set (r : RegisterFile) (offset : Nat) (value : Word) : RegisterFile :=
  ⟨setEntry offset value r.entries⟩

/-- An entry that was set is found, and every other one as before. -/
theorem lookup_setEntry (offset : Nat) (value : Word) (entries : List (Nat × Word)) (k : Nat) :
    (setEntry offset value entries).lookup k =
      if k = offset then some value else entries.lookup k := by
  induction entries with
  | nil =>
    by_cases h : k = offset
    · simp [setEntry, h]
    · simp [setEntry, List.lookup_cons, h, beq_false_of_ne h]
  | cons e rest ih =>
    obtain ⟨o, v⟩ := e
    simp only [setEntry]
    split
    · by_cases h : k = offset
      · simp [h]
      · simp [List.lookup_cons, h, beq_false_of_ne h]
    · split
      · rename_i same
        subst same
        by_cases h : k = offset
        · simp [h]
        · simp [List.lookup_cons, h, beq_false_of_ne h]
      · rename_i other
        by_cases h : k = o
        · subst h
          simp [Ne.symm other]
        · simp [List.lookup_cons, ih, beq_false_of_ne h]

/-- Setting a register changes that register and no other. -/
theorem get_set (r : RegisterFile) (offset : Nat) (value : Word) (k : Nat) :
    (r.set offset value).get k = if k = offset then value else r.get k := by
  by_cases h : k = offset <;> simp [set, get, lookup_setEntry, h]

/-- The file with the given registers set one after the other. -/
def ofList (entries : List (Nat × Word)) : RegisterFile :=
  entries.foldl (fun r e => r.set e.1 e.2) empty

end RegisterFile

end LaneCard
