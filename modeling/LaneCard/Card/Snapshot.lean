import LaneCard.Card.Basic
import LaneCard.Register.Layout
import LaneCard.Record.Status

/-!
# The status of a card

One pass over the registers, every field taken from its place. Before the pass a test value is
written to the scratch register; that it reads back shows that the registers are reached.
-/

namespace LaneCard.Card

/-- The value written to the scratch register. -/
def scratchValue : Word := 0x55441122#32

/-- One word per lane. -/
def perLane (f : Nat → Word) : Vector Word 8 := Vector.ofFn fun lane => f lane.val

/-- One word per lane and channel. -/
def perChannel (f : Nat → Nat → Word) : Vector (Vector Word 4) 8 :=
  Vector.ofFn fun lane => Vector.ofFn fun vc => f lane.val vc.val

/-- One word per clock. -/
def perClock (f : Nat → Word) : Vector Word 2 := Vector.ofFn fun clock => f clock.val

variable {β : Type} [RegisterBus β]

/-- The status that the registers show. -/
def decodeStatus (c : Card β) : CardStatus :=
  let reg := c.host.look
  let reset := reg Offset.cardRstStat
  let pci := fun i => reg (Offset.pciStat + 4 * i)
  let evr := fun i => reg (Offset.evrCardStat + 4 * i)
  let link := fun i => reg (Offset.pgpCardStat + 4 * i)
  let lane := fun i => reg (Offset.pgpLaneStat + 4 * i)
  let free := fun i => reg (Offset.rxFreeStat + 4 * i)
  let txStat := fun i => reg (Offset.txStat + 4 * i)
  let rxStatus := reg Offset.rxStatus
  { version := reg Offset.version
    serialNumber := #v[reg Offset.serNumUpper, reg Offset.serNumLower]
    scratchPad := reg Offset.scratch
    buildStamp := Vector.ofFn fun i => reg (Offset.buildStamp + 4 * i.val)
    countReset := ResetWord.countReset.get reset
    cardReset := ResetWord.cardReset.get reset
    pciCommand := PciWord.command.get (pci 0)
    pciStatus := PciWord.status.get (pci 0)
    pciDCommand := PciWord.command.get (pci 1)
    pciDStatus := PciWord.status.get (pci 1)
    pciLCommand := PciWord.command.get (pci 2)
    pciLStatus := PciWord.status.get (pci 2)
    pciLinkState := PciWord.linkState.get (pci 3)
    pciFunction := PciWord.function.get (pci 3)
    pciDevice := PciWord.device.get (pci 3)
    pciBus := PciWord.bus.get (pci 3)
    pciBaseHdwr := BitVec.ofNat 32 c.device.baseHdwr
    pciBaseLen := BitVec.ofNat 32 c.device.baseLen
    pgpRate := reg Offset.pgpRate
    pgpLoopBack := perLane fun i => (LinkWord.loopBack.shifted i).get (link 0)
    pgpTxReset := perLane fun i => (LinkWord.txReset.shifted i).get (link 0)
    pgpRxReset := perLane fun i => (LinkWord.rxReset.shifted i).get (link 0)
    pgpTxPllRst := perClock fun i => (LinkWord.txPllRst.shifted i).get (link 0)
    pgpRxPllRst := perClock fun i => (LinkWord.rxPllRst.shifted i).get (link 0)
    pgpTxPllRdy := perClock fun i => (LinkWord.txPllRdy.shifted i).get (link 0)
    pgpRxPllRdy := perClock fun i => (LinkWord.rxPllRdy.shifted i).get (link 0)
    pgpLocLinkReady := perLane fun i => (LinkWord.locLinkReady.shifted i).get (link 1)
    pgpRemLinkReady := perLane fun i => (LinkWord.remLinkReady.shifted i).get (link 1)
    pgpRxCount := perChannel fun i vc => (LaneWord.rxCount.shifted vc).get (lane i)
    pgpCellErrCnt := perLane fun i => LaneWord.cellErrCnt.get (lane i)
    pgpLinkDownCnt := perLane fun i => LaneWord.linkDownCnt.get (lane i)
    pgpLinkErrCnt := perLane fun i => LaneWord.linkErrCnt.get (lane i)
    pgpFifoErrCnt := perLane fun i => LaneWord.fifoErrCnt.get (lane i)
    evrRunCode := perLane fun i => EvrWord.code.get (reg (Offset.runCode + 4 * i))
    evrAcceptCode := perLane fun i => EvrWord.code.get (reg (Offset.acceptCode + 4 * i))
    evrRunDelay := perLane fun i => reg (Offset.runDelay + 4 * i)
    evrAcceptDelay := perLane fun i => reg (Offset.acceptDelay + 4 * i)
    evrEnHdrCheck := perChannel fun i vc =>
      (EvrWord.enHdrCheck.shifted (i * channelCount + vc)).get (evr 2)
    evrEnable := EvrWord.enable.get (evr 1)
    evrReady := EvrWord.ready.get (evr 0)
    evrReset := EvrWord.reset.get (evr 1)
    evrPllRst := EvrWord.pllRst.get (evr 1)
    evrErrCnt := EvrWord.errCnt.get (evr 0)
    rxFreeFull := perLane fun i => FreeWord.full.get (free i)
    rxFreeValid := perLane fun i => FreeWord.valid.get (free i)
    rxFreeFifoCount := perLane fun i => FreeWord.count.get (free i)
    rxReadReady := FifoWord.ready.get rxStatus
    rxRetFifoCount := FifoWord.count.get rxStatus
    rxCount := reg Offset.rxCount
    rxWrite := BitVec.ofNat 32 c.device.rxReady.write.val
    rxRead := BitVec.ofNat 32 c.device.rxReady.read.val
    txDmaAFull := perLane fun i => (TxStatWord.dmaAFull.shifted i).get (txStat 0)
    txReadReady := FifoWord.ready.get (txStat 1)
    txRetFifoCount := FifoWord.count.get (txStat 1)
    txCount := reg Offset.txCount
    txWrite := BitVec.ofNat 32 c.device.txFree.write.val
    txRead := BitVec.ofNat 32 c.device.txFree.read.val
    txFifoCnt := perLane fun i => reg (Offset.txFifoCnt + 4 * i) }

/-- Take the status of the card. None of the registers read here changes by being read. -/
def snapshot (c : Card β) : CardStatus × Card β :=
  let c := c.write Offset.scratch scratchValue
  (c.decodeStatus, c)

end LaneCard.Card
