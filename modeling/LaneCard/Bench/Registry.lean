import LaneCard.Bench.Basic

/-!
# The registry on the bench

Probing attaches a card in the lowest empty slot of the registry; detaching empties a slot
whose card nobody else uses. A registry that is given up detaches all its cards.
-/

namespace LaneCard.Bench

/-- The attachment in a registry slot with the given address. -/
def findCard? (b : Bench) (r : Registry) (address : PciAddress) : Option Nat :=
  r.cards.find? fun i => (b.attachments[i]?).any fun a => a.device.address == address

/-- Add a line under the name of the module. -/
def noteModule (b : Bench) (level : Level) (text : String) : Bench :=
  b.note level (Registry.moduleName ++ ": " ++ text)

/-- Attach the card at a place, if it is of the right kind, not yet attached and there is an
empty slot. Gives the slot. -/
def probe (b : Bench) (r : Registry) (sim : Nat) (address : PciAddress) (vendor device : Nat)
    (baseHdwr baseLen : Nat) (apart : Option Nat) :
    Except (Setback CardError) Nat × Bench :=
  if vendor ≠ Registry.vendorId ∨ device ≠ Registry.deviceId then
    (.error (.failed (.notSupported (Registry.foreignText vendor device address))), b)
  else if (b.findCard? r address).isSome then
    (.error (.failed .busy),
      b.noteModule .warn s!"Probe: device {address.text} is already attached")
  else
    match r.emptySlot? with
    | none => (.error (.failed .registryFull), b.noteModule .warn "Probe: Too Many Devices.")
    | some slot =>
      match b.attach sim (Registry.cardName slot) slot r.config baseHdwr baseLen apart with
      | none => (.error (.failed .noDevice), b)
      | some (.error e, b) => (.error e, b)
      | some (.ok card, b) =>
        let b := b.noteModule .info
          s!"Probe: attached {Registry.cardName slot} at {address.text}"
        (.ok slot, { b with registry := some (r.put slot card) })

/-- Detach the card of a slot that has been emptied. -/
def remove (b : Bench) (card : Nat) : Bench :=
  let name := ((b.attachments[card]?).map fun a => a.device.name).getD ""
  let b := b.changeCard card Card.detach
  (b.noteModule .info s!"Remove: {name} removed").dropHandle card

/-- Detach the card in a slot, unless it is open or has another handle. -/
def detachSlot (b : Bench) (r : Registry) (slot : Nat) : Except CardError Unit × Bench :=
  match (r.get? slot).bind fun card => (b.attachments[card]?).map (card, ·) with
  | none => (.error .noDevice, b)
  | some (card, a) =>
    if a.device.isOpen ∨ 1 < a.handles then
      (.error .busy, b.noteModule .warn s!"Remove: {a.device.name} is still in use")
    else (.ok (), { b with registry := some (r.clear slot) }.remove card)

/-- Detach all cards in the order of their slots, whoever uses them. -/
def detachAll (b : Bench) (r : Registry) : Bench :=
  r.cards.foldl remove { b with registry := some r.clearAll }

/-- Give up the registry. -/
def dropRegistry (b : Bench) : Bench :=
  match b.registry with
  | some r => { b.detachAll r with registry := none }
  | none => b

end LaneCard.Bench
