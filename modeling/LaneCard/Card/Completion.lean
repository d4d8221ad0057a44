import LaneCard.Board
import LaneCard.Card.Basic

/-!
# Completions

At an interrupt the driver disables interrupts, takes what the card has put into its two
completion FIFOs, and enables interrupts again. A returned transmit buffer becomes free; a
received frame becomes readable, or goes straight back to the card when nobody has it open.
A word without a valid bit ends the transmit FIFO early; what is left raises another
interrupt. `Card.settle` handles interrupts until there are none.
-/

namespace LaneCard.Card

/-- Whether a handler call found something to do. -/
inductive IrqResult where
  | notMine
  | handled
  deriving Repr, DecidableEq

/-- A transmit buffer has come back. -/
def finishTx (c : Card Board) (addr : Word) : Card Board :=
  match c.device.txPool.find? addr with
  | none =>
    let c := { c with device := { c.device with unmatched := c.device.unmatched + 1 } }
    c.note .warn ("Irq: Failed to locate TX descriptor " ++ Text.hexWord addr.toNat)
  | some index =>
    let (result, ring) := c.device.txFree.push index
    let c := { c with device := { c.device with txFree := ring } }
    let c := if result = .collision then c.note .warn "Irq: TX queue pointer collision" else c
    c.trace 1 (s!"Irq: Return TX buffer {index} at " ++ Text.hexWord addr.toNat)

/-- Take up to so many words from the FIFO of transmit returns, up to the first without a
valid bit. -/
def takeTx : Nat → Card Board → Card Board
  | 0, c => c
  | n + 1, c =>
    let (word, c) := c.read Offset.txRead
    match TxReturn.decode? word with
    | some addr => takeTx n (c.finishTx addr)
    | none => c

/-- Empty the FIFO of transmit returns, up to the first word without a valid bit. -/
def drainTx (c : Card Board) : Card Board :=
  let (word, c) := c.read (Offset.txStat + 4)
  if FifoWord.ready.isSet word then takeTx c.host.bus.txReturns.length c else c

/-- Make a received frame readable. -/
def queueRx (c : Card Board) (index : Nat) (desc : RxDescriptor) : Card Board :=
  let (result, ring) := c.device.rxReady.push index
  let c :=
    { c with
      device :=
        { c.device with
          rxPool := c.device.rxPool.setFrame index desc.toFrameMeta
          rxReady := ring } }
  let c := if result = .collision then c.note .warn "Irq: RX queue pointer collision" else c
  let c := c.trace 1
    (s!"Irq: Rx Bytes={desc.length.toNat * wordSize}, Lane={desc.lane.toNat}, " ++
      s!"Vc={desc.vc.toNat}, Addr=" ++ Text.hexWord desc.addr.toNat)
  { c with device := { c.device with notices := c.device.notices ++ c.device.listener.toList } }

/-- A frame has been received. -/
def finishRx (c : Card Board) (desc : RxDescriptor) : Card Board :=
  match c.device.rxPool.find? desc.addr with
  | none =>
    let c := { c with device := { c.device with unmatched := c.device.unmatched + 1 } }
    c.note .warn ("Irq: Failed to locate RX descriptor " ++ Text.hexWord desc.addr.toNat)
  | some index =>
    if c.device.isOpen then c.queueRx index desc
    else
      let c := c.giveFree desc.lane.toNat desc.addr
      { c with device := { c.device with droppedClosed := c.device.droppedClosed + 1 } }

/-- Take up to so many frames from the FIFO of received frames. The first word has to be read
before the second, which removes both. -/
def takeRx : Nat → Card Board → Card Board
  | 0, c => c
  | n + 1, c =>
    let (a, c) := c.read Offset.rxRead
    let (b, c) := c.read (Offset.rxRead + 4)
    match RxDescriptor.decode? a b with
    | some desc => takeRx n (c.finishRx desc)
    | none => c

/-- Empty the FIFO of received frames. -/
def drainRx (c : Card Board) : Card Board :=
  let (word, c) := c.read Offset.rxStatus
  if FifoWord.ready.isSet word then takeRx c.host.bus.rxReturns.length c else c

/-- Handle an interrupt. -/
def handleInterrupt (c : Card Board) : IrqResult × Card Board :=
  let (stat, c) := c.read Offset.irq
  if IrqWord.pending.isSet stat then
    let c := c.trace 0 ("Irq: IRQ Called. Stat=" ++ Text.hexMarked stat.toNat)
    let c := c.write Offset.irq 0#32
    let c := c.drainTx.drainRx
    (.handled, c.write Offset.irq (IrqWord.enable.encode 1#32))
  else (.notMine, c)

/-- Handle interrupts, at most so many times, until none is pending. -/
def settleFor : Nat → Card Board → Card Board
  | 0, c => c
  | n + 1, c =>
    match c.host.line.wait? with
    | some (.ok _, line) =>
      settleFor n { c with host := { c.host with line := line } }.handleInterrupt.2
    | _ => c

/-- Handle interrupts until none is pending. Each time at least one word leaves a FIFO, or
nothing was there to begin with. -/
def settle (c : Card Board) : Card Board :=
  settleFor (c.host.bus.txReturns.length + c.host.bus.rxReturns.length + 1) c

end LaneCard.Card
