import LaneCard.Descriptor
import LaneCard.Host
import LaneCard.Register.Map

/-!
# The simulated card

A card with registers, one FIFO of free receive buffers per lane, and two completion FIFOs.
Writing a buffer address to a transmit register sends the frame at once. If the lane is
looped back, the frame is stored in a free receive buffer, of that lane if there is one and
else of the first lane that has one. An interrupt is raised when a completion has come and
interrupts are enabled; transmit completions can be held back.
-/

namespace LaneCard

/-- A simulated card. -/
structure Board where
  regs : RegisterFile
  /-- The free receive buffers of each lane. -/
  free : Vector (List Word) laneCount
  /-- Transmit buffers to give back. -/
  txReturns : List Word
  /-- Received frames to hand over. -/
  rxReturns : List (Word × Word)
  /-- Transmit buffers held back. -/
  heldTx : List Word
  /-- Whether transmit buffers are held back. -/
  holdTx : Bool
  /-- Whether an interrupt is being handled. -/
  handling : Bool
  /-- Every register write, in order. -/
  writes : Array (Nat × Word)

namespace Board

/-- The firmware version of a simulated card. -/
def firmware : Word := 0xCE300003#32

/-- The physical address of the register window. -/
def windowBase : Nat := 0xF7E00000

/-- A card after power-up, held in reset. -/
def new : Board :=
  { regs := RegisterFile.ofList [(Offset.version, firmware),
      (Offset.cardRstStat, ResetWord.cardReset.mask)]
    free := Vector.replicate laneCount []
    txReturns := []
    rxReturns := []
    heldTx := []
    holdTx := false
    handling := false
    writes := #[] }

/-- The free receive buffers of a lane. -/
def freeList (b : Board) (lane : Nat) : List Word := (b.free[lane]?).getD []

/-- Replace the free receive buffers of a lane. -/
def setFree (b : Board) (lane : Nat) (addrs : List Word) : Board :=
  { b with free := b.free.setIfInBounds lane addrs }

/-- Take the first free receive buffer of a lane. -/
def takeFrom? (b : Board) (lane : Nat) : Option (Word × Board) :=
  match b.freeList lane with
  | addr :: rest => some (addr, b.setFree lane rest)
  | [] => none

/-- Take a free receive buffer of the lane, or of the first lane that has one. -/
def takeFree? (b : Board) (lane : Nat) : Option (Word × Board) :=
  (lane :: List.range laneCount).findSome? b.takeFrom?

/-- Whether a completion waits in a FIFO. -/
def hasCompletions (b : Board) : Bool := !b.txReturns.isEmpty || !b.rxReturns.isEmpty

/-- Whether interrupts are enabled. -/
def irqEnabled (b : Board) : Bool := IrqWord.enable.isSet (b.regs.get Offset.irq)

/-- The state word of a FIFO of the given length. -/
def fifoWord (length : Nat) : Word :=
  FifoWord.count.set (FifoWord.ready.set 0#32 (bitWord (length != 0))) (BitVec.ofNat 32 length)

/-- The state word of a lane with so many free buffers: the first one is shown as a valid bit
and only the others are counted. -/
def freeWord (length : Nat) : Word :=
  FreeWord.count.set (FreeWord.valid.set 0#32 (bitWord (length != 0)))
    (BitVec.ofNat 32 (length - 1))

/-- The word that reading a register gives. -/
def look (b : Board) (offset : Nat) : Word :=
  match indexIn offset Offset.rxFreeStat laneCount with
  | some lane => freeWord (b.freeList lane).length
  | none =>
    if offset = Offset.irq then
      let enable := b.regs.get Offset.irq &&& IrqWord.enable.mask
      if b.hasCompletions then IrqWord.pending.set enable 1#32 else enable
    else if offset = Offset.rxStatus then fifoWord b.rxReturns.length
    else if offset = Offset.txRead then b.txReturns.headD 0#32
    else if offset = Offset.rxRead then (b.rxReturns.headD (0#32, 0#32)).1
    else if offset = Offset.rxRead + 4 then (b.rxReturns.headD (0#32, 0#32)).2
    else if offset = Offset.txStat + 4 then fifoWord b.txReturns.length
    else b.regs.get offset

/-- The card after reading a register: the transmit return and the second word of a received
frame leave their FIFOs. -/
def fetch (b : Board) (offset : Nat) : Board :=
  if offset = Offset.txRead then { b with txReturns := b.txReturns.tail }
  else if offset = Offset.rxRead + 4 then { b with rxReturns := b.rxReturns.tail }
  else b

/-- Raise an interrupt if a completion waits and interrupts are enabled. -/
def interrupt (h : Host Board) : Host Board :=
  if h.bus.hasCompletions && h.bus.irqEnabled then
    { h with bus := { h.bus with handling := true }, line := h.line.raise }
  else h

/-- How much of a frame the card stores: a frame longer than the limit is cut to whole words
and marked. -/
def storedLength (maxFrame length : Nat) : Nat × FrameFlags :=
  if maxFrame < length then (maxFrame - maxFrame % wordSize, ⟨false, false, true⟩)
  else (length, FrameFlags.none)

/-- Store a frame that was looped back, if there is a buffer for it. -/
def deliver (h : Host Board) (lane : Nat) (vc : Word) (payload : Bytes) : Host Board :=
  match h.bus.takeFree? lane with
  | none => h.note .warn s!"sim: no free RX buffer for lane {lane}, frame dropped"
  | some (addr, board) =>
    let h := { h with bus := board }
    let maxFrame := (MaxFrameWord.size.get (board.regs.get Offset.rxMaxFrame)).toNat
    let (length, flags) := storedLength maxFrame payload.size
    match h.memory.busWrite addr.toNat (payload.extract 0 length) with
    | none => h.note .warn ("sim: RX into unmapped address " ++ Text.hexWord addr.toNat)
    | some memory =>
      let desc : RxDescriptor :=
        ⟨⟨BitVec.ofNat 32 lane, vc, BitVec.ofNat 32 (length / wordSize), flags⟩, addr⟩
      { h with
        memory := memory
        bus := { board with rxReturns := board.rxReturns ++ [desc.encode] } }

/-- Whether a lane is looped back. -/
def isLooped (b : Board) (lane : Nat) : Bool :=
  (LinkWord.loopBack.shifted lane).isSet (b.regs.get Offset.pgpCardStat)

/-- Give back a transmit buffer, or hold it back. -/
def returnTx (b : Board) (addr : Word) : Board :=
  if b.holdTx then { b with heldTx := b.heldTx ++ [TxReturn.encode addr] }
  else { b with txReturns := b.txReturns ++ [TxReturn.encode addr] }

/-- Send the frame at a bus address as the lane's descriptor says. -/
def transmit (h : Host Board) (lane : Nat) (addr : Word) : Host Board :=
  let desc := TxDescriptor.decode (h.bus.regs.get (Offset.txWrA + 4 * lane))
  match h.memory.busRead addr.toNat (desc.length.toNat * wordSize) with
  | none => h.note .warn ("sim: TX from unmapped address " ++ Text.hexWord addr.toNat)
  | some payload =>
    let h := { h with bus := h.bus.returnTx addr }
    let h := if h.bus.isLooped lane then deliver h lane desc.vc payload else h
    interrupt h

/-- The host after writing a register of the card. -/
def store (h : Host Board) (offset : Nat) (value : Word) : Host Board :=
  let board := { h.bus with writes := h.bus.writes.push (offset, value) }
  match indexIn offset Offset.rxFree laneCount with
  | some lane => { h with bus := board.setFree lane (board.freeList lane ++ [value]) }
  | none =>
    match indexIn offset Offset.txWrB laneCount with
    | some lane => transmit { h with bus := board } lane value
    | none =>
      let board := { board with regs := board.regs.set offset value }
      if offset = Offset.irq ∧ IrqWord.enable.isSet value then
        if board.hasCompletions then interrupt { h with bus := board }
        else { h with bus := { board with handling := false } }
      else { h with bus := board }

instance : RegisterBus Board := ⟨look, fetch, store⟩

/-- Set a register without any effect. -/
def poke (b : Board) (offset : Nat) (value : Word) : Board :=
  { b with regs := b.regs.set offset value }

/-- Hold back transmit completions, or give them all at once. -/
def hold (h : Host Board) (on : Bool) : Host Board :=
  if on then { h with bus := { h.bus with holdTx := true } }
  else
    interrupt
      { h with
        bus :=
          { h.bus with
            holdTx := false
            txReturns := h.bus.txReturns ++ h.bus.heldTx
            heldTx := [] } }

/-- A frame comes in. -/
def injectRx (h : Host Board) (desc : RxDescriptor) : Host Board :=
  interrupt { h with bus := { h.bus with rxReturns := h.bus.rxReturns ++ [desc.encode] } }

/-- A transmit completion comes in. -/
def injectTx (h : Host Board) (word : Word) : Host Board :=
  interrupt { h with bus := { h.bus with txReturns := h.bus.txReturns ++ [word] } }

end Board

end LaneCard
