import LaneCard.Card.Address
import LaneCard.Config
import LaneCard.Error.Setback

/-!
# The registry of cards

A fixed number of slots, each empty or holding one card. A card is put into the lowest empty
slot and is named after it. Cards are referred to by number; `Bench` says which card a number
stands for.
-/

namespace LaneCard

/-- The slots, and the configuration of the cards in them. -/
structure Registry where
  config : Config
  slots : List (Option Nat)

namespace Registry

/-- The name of the module, with which the names of cards begin. -/
def moduleName : String := "PgpCardG3"

/-- The vendor of the cards that the registry accepts. -/
def vendorId : Nat := 0x1A4A

/-- The kind of card that the registry accepts. -/
def deviceId : Nat := 0x2020

/-- The room that a slot takes. -/
def slotSize : Nat := 8

/-- A registry without cards. -/
def new (config : Config) : Except (Setback CardError) Registry :=
  match config.validate with
  | .error e => .error (.failed e)
  | .ok () =>
    if canLayOut config.maxDevices slotSize then
      .ok ⟨config, List.replicate config.maxDevices none⟩
    else .error .cutShort

/-- The name of the card in a slot. -/
def cardName (slot : Nat) : String := s!"{moduleName}_{slot}"

/-- What is said of a card of another kind. -/
def foreignText (vendor device : Nat) (address : PciAddress) : String :=
  Text.hexPadded 4 vendor ++ ":" ++ Text.hexPadded 4 device ++ " at " ++ address.text

/-- The lowest empty slot. -/
def emptySlot? (r : Registry) : Option Nat := r.slots.findIdx? Option.isNone

/-- The card in a slot. -/
def get? (r : Registry) (slot : Nat) : Option Nat := (r.slots[slot]?).join

/-- Put a card into a slot. -/
def put (r : Registry) (slot card : Nat) : Registry :=
  { r with slots := r.slots.set slot (some card) }

/-- Empty a slot. -/
def clear (r : Registry) (slot : Nat) : Registry := { r with slots := r.slots.set slot none }

/-- Empty all slots. -/
def clearAll (r : Registry) : Registry := { r with slots := r.slots.map fun _ => none }

/-- The cards in the slots, in order. -/
def cards (r : Registry) : List Nat := r.slots.filterMap id

end Registry

end LaneCard
