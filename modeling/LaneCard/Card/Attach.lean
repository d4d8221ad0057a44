import LaneCard.Card.Basic
import LaneCard.Config
import LaneCard.Register.Layout

/-!
# Attaching and releasing a card

A card is attached in order: it leaves reset, the two pools are allocated, the frame limit is
set, every receive buffer is offered to the card, its interrupt handler is named after it, and
interrupts are enabled. If a pool cannot be allocated, what was done is undone and the card is
held in reset. If a pool is cut short, what was done stays: the card is out of reset, and a
transmit pool keeps its buffers. If the handler cannot be named, the card is released at once,
as nothing refers to it. Detaching stops the card and wakes all callers; the buffers are
released later, when nothing refers to the card any more.
-/

namespace LaneCard

/-- Hold the card in reset. -/
def Host.holdReset {β : Type} [RegisterBus β] (h : Host β) : Host β :=
  h.setBits Offset.cardRstStat ResetWord.cardReset.mask

/-- Allocate a pool from the buffer memory of a host. -/
def Host.allocatePool {β : Type} (h : Host β) (direction : Direction) (count size : Nat) :
    Except (Setback CardError) BufferPool × Host β :=
  let (result, a, lines) := BufferPool.allocate direction count size h.buffers
  (result, (h.setBuffers a).noteAll lines)

/-- Release a pool to the buffer memory of a host. -/
def Host.releasePool {β : Type} (h : Host β) (p : BufferPool) : Host β :=
  let (_, a, lines) := p.releaseAll h.buffers
  (h.setBuffers a).noteAll lines

/-- Offer receive buffers to the card, one lane after the other. -/
def Host.offer {β : Type} [RegisterBus β] (h : Host β) : Nat → List Word → Host β
  | _, [] => h
  | index, addr :: rest =>
    (h.write (Offset.rxFree + 4 * (index % laneCount)) addr).offer (index + 1) rest

namespace Card

variable {β : Type} [RegisterBus β]

/-- Stop the card: interrupts are disabled and the line is closed, for good. Stopping it again
does nothing. -/
def detach (c : Card β) : Card β :=
  if c.device.detached then c
  else
    let c := { c with device := { c.device with detached := true } }
    let c := c.write Offset.irq 0#32
    let c := { c with host := { c.host with line := c.host.line.close } }
    c.note .info "detached"

/-- Give up the card: it stops receiving, all buffers are released, and it is held in reset. -/
def release (c : Card β) : Host β :=
  let h := c.host.write Offset.rxMaxFrame 0#32
  let h := h.releasePool c.device.txPool
  let h := h.releasePool c.device.rxPool
  h.holdReset.note .info (c.device.name ++ ": buffers released, card held in reset")

end Card

namespace Device

variable {β : Type} [RegisterBus β]

/-- The word that lets the card receive frames of up to so many bytes. -/
def frameLimit (bytes : Nat) : Word :=
  MaxFrameWord.enable.set (MaxFrameWord.size.set 0#32 (BitVec.ofNat 32 bytes)) 1#32

/-- The driver's side of a card that has just been attached. -/
def fresh (name : String) (address : PciAddress) (baseHdwr baseLen : Nat) (debug : Word)
    (txPool rxPool : BufferPool) : Device :=
  { name := name
    address := address
    baseHdwr := baseHdwr
    baseLen := baseLen
    txPool := txPool
    rxPool := rxPool
    txFree := Ring.ofList txPool.size (List.range txPool.size)
    rxReady := Ring.new rxPool.size
    signal := false
    listener := none
    notices := []
    isOpen := false
    detached := false
    debug := debug
    unmatched := 0
    droppedClosed := 0 }

/-- Let a card whose pools are allocated receive: the frame limit is set, and every receive
buffer is offered to it. -/
def prepare (h : Host β) (d : Device) (rxSize : Nat) : Host β :=
  (h.write Offset.rxMaxFrame (frameLimit rxSize)).offer 0 d.rxPool.addrs

/-- Whether an interrupt handler can be named after a card: a name ends at a NUL character, so
that there cannot be one within it. -/
def canNameHandler (name : String) : Bool := name.toList.all fun c => c.toNat != 0

/-- Start a card that can receive: its interrupts are handled from now on. -/
def start (h : Host β) (d : Device) : Host β :=
  let h := h.write Offset.irq (IrqWord.enable.encode 1#32)
  h.note .info (d.name ++ s!": Init: Driver is loaded. IRQ {h.line.number}, " ++
    s!"{d.txPool.size} tx / {d.rxPool.size} rx buffers")

/-- Attach a card under a name. -/
def attach (h : Host β) (name : String) (address : PciAddress) (baseHdwr baseLen : Nat)
    (config : Config) : Except (Setback CardError) Device × Host β :=
  match config.validate with
  | .error e => (.error (.failed e), h)
  | .ok () =>
    let h := h.clearBits Offset.cardRstStat ResetWord.cardReset.mask
    let (version, h) := h.read Offset.version
    let h := h.note .info
      (name ++ ": Probe: Found card. Version=" ++ Text.hexMarked version.toNat)
    match h.allocatePool .tx config.txCount config.txSize with
    | (.error .cutShort, h) => (.error .cutShort, h)
    | (.error e, h) => (.error e, h.holdReset)
    | (.ok txPool, h) =>
      match h.allocatePool .rx config.rxCount config.rxSize with
      | (.error .cutShort, h) => (.error .cutShort, h.noteAll txPool.teardown)
      | (.error e, h) => (.error e, (h.releasePool txPool).holdReset)
      | (.ok rxPool, h) =>
        let d := fresh name address baseHdwr baseLen config.debug txPool rxPool
        let h := prepare h d config.rxSize
        if canNameHandler name then (.ok d, start h d)
        else (.error .cutShort, Card.release ⟨h, d⟩)

end Device

end LaneCard
