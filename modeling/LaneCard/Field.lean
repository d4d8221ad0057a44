import LaneCard.Bytes

/-!
# Bit fields of a register word

A field is a stretch of bits in a 32-bit word. Reading shifts the stretch down, writing
replaces it and drops the bits of the value that do not fit. A stretch that leaves the word
cannot be read or written; `Field.Fits` says which ones can.
-/

namespace LaneCard

/-- A named stretch of bits. -/
structure Field where
  name : String
  /-- The lowest bit. -/
  offset : Nat
  /-- The number of bits. -/
  width : Nat
  deriving Repr, DecidableEq

namespace Field

/-- A single bit. -/
def bit (name : String) (offset : Nat) : Field := ⟨name, offset, 1⟩

/-- The field `index` places further up, where equal fields lie side by side. -/
def shifted (f : Field) (index : Nat) : Field := { f with offset := f.offset + f.width * index }

/-- The largest value the field holds. -/
def maxValue (f : Field) : Word :=
  if 32 ≤ f.width then BitVec.allOnes 32 else (1#32 <<< f.width) - 1#32

/-- The bits of the field. -/
def mask (f : Field) : Word := f.maxValue <<< f.offset

/-- The value of the field in a word. -/
def get (f : Field) (word : Word) : Word := (word >>> f.offset) &&& f.maxValue

/-- The word with the field replaced by the low bits of `value`. -/
def set (f : Field) (word value : Word) : Word :=
  (word &&& ~~~f.mask) ||| ((value &&& f.maxValue) <<< f.offset)

/-- The word that holds only this field. -/
def encode (f : Field) (value : Word) : Word := f.set 0#32 value

/-- Whether any bit of the field is set. -/
def isSet (f : Field) (word : Word) : Bool := f.get word != 0#32

/-- The stretch starts inside the word and does not leave it. -/
def Fits (f : Field) : Prop := f.offset < 32 ∧ f.offset + f.width ≤ 32

instance (f : Field) : Decidable f.Fits := inferInstanceAs (Decidable (_ ∧ _))

/-- The mask of a field of unknown position: nothing unless it starts inside the word. -/
def mask? (f : Field) : Option Word := if f.offset < 32 then some f.mask else none

/-- A field further up, by an index of which the low byte counts, at a position that is a byte. -/
def shifted? (f : Field) (index : Nat) : Option Field :=
  if f.offset + f.width * (index % 256) < 256 then some (f.shifted (index % 256)) else none

/-- Read a field of unknown position: nothing unless it fits. -/
def get? (f : Field) (word : Word) : Option Word :=
  if f.Fits then some (f.get word) else none

/-- Write a field of unknown position: nothing unless it fits. -/
def set? (f : Field) (word value : Word) : Option Word :=
  if f.Fits then some (f.set word value) else none

end Field

end LaneCard
