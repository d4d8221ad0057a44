import LaneCard.Record.Model
import LaneCard.Text.Lossy

/-!
# Status records

A status record is a snapshot of a card: one word for every field of its packed registers and
for the positions of the driver's two rings, in a fixed order.
-/

namespace LaneCard

/-- The text in the build words: the bytes up to the first zero. -/
def buildText (stamp : Vector Word 64) : String :=
  Text.ofBytes ((stamp.toList.flatMap Word.bytes).takeWhile (· != 0))

/-- A snapshot of a card. -/
structure CardStatus where
  /-- The firmware version. -/
  version : Word
  /-- The high and the low word of the serial number. -/
  serialNumber : Vector Word 2
  /-- What was read back after the test value was written. -/
  scratchPad : Word
  /-- The build text of the firmware, four characters a word. -/
  buildStamp : Vector Word 64
  countReset : Word
  cardReset : Word
  pciCommand : Word
  pciStatus : Word
  pciDCommand : Word
  pciDStatus : Word
  pciLCommand : Word
  pciLStatus : Word
  pciLinkState : Word
  pciFunction : Word
  pciDevice : Word
  pciBus : Word
  pciBaseHdwr : Word
  pciBaseLen : Word
  pgpRate : Word
  pgpLoopBack : Vector Word 8
  pgpTxReset : Vector Word 8
  pgpRxReset : Vector Word 8
  pgpTxPllRst : Vector Word 2
  pgpRxPllRst : Vector Word 2
  pgpTxPllRdy : Vector Word 2
  pgpRxPllRdy : Vector Word 2
  pgpLocLinkReady : Vector Word 8
  pgpRemLinkReady : Vector Word 8
  /-- One counter per lane and channel. -/
  pgpRxCount : Vector (Vector Word 4) 8
  pgpCellErrCnt : Vector Word 8
  pgpLinkDownCnt : Vector Word 8
  pgpLinkErrCnt : Vector Word 8
  pgpFifoErrCnt : Vector Word 8
  evrRunCode : Vector Word 8
  evrAcceptCode : Vector Word 8
  evrRunDelay : Vector Word 8
  evrAcceptDelay : Vector Word 8
  /-- One bit per lane and channel. -/
  evrEnHdrCheck : Vector (Vector Word 4) 8
  evrEnable : Word
  evrReady : Word
  evrReset : Word
  evrPllRst : Word
  evrErrCnt : Word
  rxFreeFull : Vector Word 8
  rxFreeValid : Vector Word 8
  rxFreeFifoCount : Vector Word 8
  rxReadReady : Word
  rxRetFifoCount : Word
  rxCount : Word
  /-- The write index of the ring of received frames. -/
  rxWrite : Word
  /-- The read index of the ring of received frames. -/
  rxRead : Word
  txDmaAFull : Vector Word 8
  txReadReady : Word
  txRetFifoCount : Word
  txCount : Word
  /-- The write index of the ring of free transmit buffers. -/
  txWrite : Word
  /-- The read index of the ring of free transmit buffers. -/
  txRead : Word
  txFifoCnt : Vector Word 8
  deriving Repr, DecidableEq

namespace CardStatus

/-- The number of words of a record. -/
def recordWords : Nat := 314

/-- The length of a record in bytes. -/
def recordSize : Nat := recordWords * 4

/-- A table of one word per lane and channel, lane by lane. -/
def grid (table : Vector (Vector Word 4) 8) : List Word := table.toList.flatMap Vector.toList

/-- The words of a record. -/
def words (s : CardStatus) : List Word :=
  [s.version] ++ s.serialNumber.toList ++ [s.scratchPad] ++ s.buildStamp.toList ++
    [s.countReset, s.cardReset, s.pciCommand, s.pciStatus, s.pciDCommand, s.pciDStatus,
      s.pciLCommand, s.pciLStatus, s.pciLinkState, s.pciFunction, s.pciDevice, s.pciBus,
      s.pciBaseHdwr, s.pciBaseLen, s.pgpRate] ++ s.pgpLoopBack.toList ++ s.pgpTxReset.toList ++
    s.pgpRxReset.toList ++ s.pgpTxPllRst.toList ++ s.pgpRxPllRst.toList ++ s.pgpTxPllRdy.toList ++
    s.pgpRxPllRdy.toList ++ s.pgpLocLinkReady.toList ++ s.pgpRemLinkReady.toList ++
    grid s.pgpRxCount ++ s.pgpCellErrCnt.toList ++ s.pgpLinkDownCnt.toList ++
    s.pgpLinkErrCnt.toList ++ s.pgpFifoErrCnt.toList ++ s.evrRunCode.toList ++
    s.evrAcceptCode.toList ++ s.evrRunDelay.toList ++ s.evrAcceptDelay.toList ++
    grid s.evrEnHdrCheck ++ [s.evrEnable, s.evrReady, s.evrReset, s.evrPllRst, s.evrErrCnt] ++
    s.rxFreeFull.toList ++ s.rxFreeValid.toList ++ s.rxFreeFifoCount.toList ++
    [s.rxReadReady, s.rxRetFifoCount, s.rxCount, s.rxWrite, s.rxRead] ++ s.txDmaAFull.toList ++
    [s.txReadReady, s.txRetFifoCount, s.txCount, s.txWrite, s.txRead] ++ s.txFifoCnt.toList

/-- The snapshot whose record has the given words. -/
def ofWords (w : Nat → Word) : CardStatus :=
  {
    version := w 0
    serialNumber := Vector.ofFn fun i => w (1 + i.val)
    scratchPad := w 3
    buildStamp := Vector.ofFn fun i => w (4 + i.val)
    countReset := w 68
    cardReset := w 69
    pciCommand := w 70
    pciStatus := w 71
    pciDCommand := w 72
    pciDStatus := w 73
    pciLCommand := w 74
    pciLStatus := w 75
    pciLinkState := w 76
    pciFunction := w 77
    pciDevice := w 78
    pciBus := w 79
    pciBaseHdwr := w 80
    pciBaseLen := w 81
    pgpRate := w 82
    pgpLoopBack := Vector.ofFn fun i => w (83 + i.val)
    pgpTxReset := Vector.ofFn fun i => w (91 + i.val)
    pgpRxReset := Vector.ofFn fun i => w (99 + i.val)
    pgpTxPllRst := Vector.ofFn fun i => w (107 + i.val)
    pgpRxPllRst := Vector.ofFn fun i => w (109 + i.val)
    pgpTxPllRdy := Vector.ofFn fun i => w (111 + i.val)
    pgpRxPllRdy := Vector.ofFn fun i => w (113 + i.val)
    pgpLocLinkReady := Vector.ofFn fun i => w (115 + i.val)
    pgpRemLinkReady := Vector.ofFn fun i => w (123 + i.val)
    pgpRxCount := Vector.ofFn fun lane => Vector.ofFn fun vc => w (131 + 4 * lane.val + vc.val)
    pgpCellErrCnt := Vector.ofFn fun i => w (163 + i.val)
    pgpLinkDownCnt := Vector.ofFn fun i => w (171 + i.val)
    pgpLinkErrCnt := Vector.ofFn fun i => w (179 + i.val)
    pgpFifoErrCnt := Vector.ofFn fun i => w (187 + i.val)
    evrRunCode := Vector.ofFn fun i => w (195 + i.val)
    evrAcceptCode := Vector.ofFn fun i => w (203 + i.val)
    evrRunDelay := Vector.ofFn fun i => w (211 + i.val)
    evrAcceptDelay := Vector.ofFn fun i => w (219 + i.val)
    evrEnHdrCheck := Vector.ofFn fun lane => Vector.ofFn fun vc => w (227 + 4 * lane.val + vc.val)
    evrEnable := w 259
    evrReady := w 260
    evrReset := w 261
    evrPllRst := w 262
    evrErrCnt := w 263
    rxFreeFull := Vector.ofFn fun i => w (264 + i.val)
    rxFreeValid := Vector.ofFn fun i => w (272 + i.val)
    rxFreeFifoCount := Vector.ofFn fun i => w (280 + i.val)
    rxReadReady := w 288
    rxRetFifoCount := w 289
    rxCount := w 290
    rxWrite := w 291
    rxRead := w 292
    txDmaAFull := Vector.ofFn fun i => w (293 + i.val)
    txReadReady := w 301
    txRetFifoCount := w 302
    txCount := w 303
    txWrite := w 304
    txRead := w 305
    txFifoCnt := Vector.ofFn fun i => w (306 + i.val) }

/-- Write a record. -/
def toRecord (s : CardStatus) : Bytes := Bytes.ofWords s.words

/-- Read a record; bytes behind it are ignored. -/
def ofRecord (record : Bytes) : Except RecordError CardStatus :=
  if record.size < recordSize then .error (.truncated recordSize record.size)
  else .ok (ofWords fun i => record.wordAt (4 * i))

end CardStatus

end LaneCard
