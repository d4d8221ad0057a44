import LaneCard.Text.Hexadecimal

/-!
# Device addresses

Where a card sits: segment, bus, device and function.
-/

namespace LaneCard

/-- The place of a card. -/
structure PciAddress where
  segment : Nat
  bus : Nat
  device : Nat
  function : Nat
  deriving Repr, DecidableEq

namespace PciAddress

/-- An address, if each part fits its field. -/
def new? (segment bus device function : Nat) : Option PciAddress :=
  if segment < 0x10000 ∧ bus < 0x100 ∧ device < 32 ∧ function < 8 then
    some ⟨segment, bus, device, function⟩
  else none

/-- The place of a card that is given no other. -/
def standard : PciAddress := ⟨0, 1, 0, 0⟩

/-- The address without its segment. -/
def text (a : PciAddress) : String :=
  Text.hexPadded 2 a.bus ++ ":" ++ Text.hexPadded 2 a.device ++ s!".{a.function}"

/-- The whole address. -/
def fullText (a : PciAddress) : String := Text.hexPadded 4 a.segment ++ ":" ++ a.text

end PciAddress

end LaneCard
