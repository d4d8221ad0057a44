/-!
# Text from unchecked bytes

Bytes that should be text are read as UTF-8. Where they are not, each longest stretch that
could have begun a character is shown as one replacement character, and reading goes on
behind it.
-/

namespace LaneCard.Text

/-- What stands for bytes that are no character. -/
def replacement : Char := '\uFFFD'

/-- For the first byte of a longer character: the number of bytes that follow it, the range
of the next one, and the bits it carries itself. -/
def lead? (b : Nat) : Option (Nat × Nat × Nat × Nat) :=
  if 0xC2 ≤ b ∧ b ≤ 0xDF then some (1, 0x80, 0xBF, b - 0xC0)
  else if b = 0xE0 then some (2, 0xA0, 0xBF, b - 0xE0)
  else if b = 0xED then some (2, 0x80, 0x9F, b - 0xE0)
  else if 0xE1 ≤ b ∧ b ≤ 0xEF then some (2, 0x80, 0xBF, b - 0xE0)
  else if b = 0xF0 then some (3, 0x90, 0xBF, b - 0xF0)
  else if 0xF1 ≤ b ∧ b ≤ 0xF3 then some (3, 0x80, 0xBF, b - 0xF0)
  else if b = 0xF4 then some (3, 0x80, 0x8F, b - 0xF0)
  else none

/-- Read the bytes that a character still needs, the next one from `low` to `high`. Gives the
character and how many bytes it took; a wrong or missing byte ends it as a replacement. -/
def follow : Nat → Nat → Nat → Nat → List UInt8 → Nat → Char × Nat
  | 0, _, _, bits, _, taken => (Char.ofNat bits, taken)
  | _ + 1, _, _, _, [], taken => (replacement, taken)
  | owed + 1, low, high, bits, b :: rest, taken =>
    if low ≤ b.toNat ∧ b.toNat ≤ high then
      follow owed 0x80 0xBF (bits * 64 + (b.toNat - 0x80)) rest (taken + 1)
    else (replacement, taken)

/-- The character that starts with the given byte, and how many of the next bytes belong to it. -/
def character (b : UInt8) (rest : List UInt8) : Char × Nat :=
  if b.toNat < 0x80 then (Char.ofNat b.toNat, 0)
  else
    match lead? b.toNat with
    | some (owed, low, high, bits) => follow owed low high bits rest 0
    | none => (replacement, 0)

/-- The characters of a byte string. -/
def characters : List UInt8 → List Char
  | [] => []
  | b :: rest => (character b rest).1 :: characters (rest.drop (character b rest).2)
  termination_by bytes => bytes.length
  decreasing_by simp only [List.length_drop, List.length_cons]; omega

/-- The text of a byte string. -/
def ofBytes (bytes : List UInt8) : String := String.ofList (characters bytes)

end LaneCard.Text
