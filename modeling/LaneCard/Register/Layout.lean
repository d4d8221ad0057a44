import LaneCard.Field

/-!
# Register layouts

The fields of each packed register. Where a register holds one equal field per lane, channel
or clock, the field here is the first of them and the others are `shifted` from it.
-/

namespace LaneCard

/-! Card reset and counter reset. -/

namespace ResetWord

def countReset : Field := .bit "CountReset" 0
def cardReset : Field := .bit "CardReset" 1
def fields : List Field := [countReset, cardReset]

end ResetWord

/-! Interrupt control: enable, and whether this card has anything to report. -/

namespace IrqWord

def enable : Field := .bit "Enable" 0
def pending : Field := .bit "Pending" 1
def fields : List Field := [enable, pending]

end IrqWord

/-! The PCI status words: command and status, and in the last word the link. -/

namespace PciWord

def command : Field := ⟨"Command", 16, 16⟩
def status : Field := ⟨"Status", 0, 16⟩
def linkState : Field := ⟨"LinkState", 24, 3⟩
def function : Field := ⟨"Function", 16, 2⟩
def device : Field := ⟨"Device", 8, 5⟩
def bus : Field := ⟨"Bus", 0, 8⟩
def fields : List Field := [command, status]
def linkFields : List Field := [linkState, function, device, bus]

end PciWord

/-! The timing receiver: status, control, and one header-check bit per lane and channel. -/

namespace EvrWord

def ready : Field := .bit "EvrReady" 4
def errCnt : Field := ⟨"EvrErrCnt", 0, 4⟩
def pllRst : Field := .bit "EvrPllRst" 2
def reset : Field := .bit "EvrReset" 1
def enable : Field := .bit "EvrEnable" 0
def enHdrCheck : Field := .bit "EvrEnHdrCheck" 0
def code : Field := ⟨"OpCode", 0, 8⟩
def statusFields : List Field := [ready, errCnt]
def controlFields : List Field := [pllRst, reset, enable]

end EvrWord

/-! The link words: resets, loopback and clocks, and the state of the links. -/

namespace LinkWord

def txPllRdy : Field := .bit "PgpTxPllRdy" 30
def rxPllRdy : Field := .bit "PgpRxPllRdy" 28
def txPllRst : Field := .bit "PgpTxPllRst" 26
def rxPllRst : Field := .bit "PgpRxPllRst" 24
def txReset : Field := .bit "PgpTxReset" 16
def rxReset : Field := .bit "PgpRxReset" 8
def loopBack : Field := .bit "PgpLoopBack" 0
def remLinkReady : Field := .bit "PgpRemLinkReady" 8
def locLinkReady : Field := .bit "PgpLocLinkReady" 0
def fields : List Field :=
  [txPllRdy, rxPllRdy, txPllRst, rxPllRst, txReset, rxReset, loopBack, remLinkReady, locLinkReady]

end LinkWord

/-! The counters of one lane. -/

namespace LaneWord

def linkErrCnt : Field := ⟨"PgpLinkErrCnt", 28, 4⟩
def linkDownCnt : Field := ⟨"PgpLinkDownCnt", 24, 4⟩
def cellErrCnt : Field := ⟨"PgpCellErrCnt", 20, 4⟩
def fifoErrCnt : Field := ⟨"PgpFifoErrCnt", 16, 4⟩
def rxCount : Field := ⟨"PgpRxCount", 0, 4⟩
def fields : List Field :=
  [linkErrCnt, linkDownCnt, cellErrCnt, fifoErrCnt, rxCount.shifted 3, rxCount.shifted 2,
    rxCount.shifted 1, rxCount]

end LaneWord

/-! The state of one lane's FIFO of free receive buffers. -/

namespace FreeWord

def full : Field := .bit "RxFreeFull" 31
def valid : Field := .bit "RxFreeValid" 30
def count : Field := ⟨"RxFreeFifoCount", 0, 10⟩
def fields : List Field := [full, valid, count]

end FreeWord

/-! The state of a completion FIFO. -/

namespace FifoWord

def ready : Field := .bit "ReadReady" 31
def count : Field := ⟨"RetFifoCount", 0, 10⟩
def fields : List Field := [ready, count]

end FifoWord

/-! Transmit back pressure, one bit per lane. -/

namespace TxStatWord

def dmaAFull : Field := .bit "TxDmaAFull" 0

end TxStatWord

/-! The longest frame the card may store, and whether it receives. -/

namespace MaxFrameWord

def size : Field := ⟨"MaxFrame", 0, 31⟩
def enable : Field := .bit "Enable" 31
def fields : List Field := [size, enable]

end MaxFrameWord

/-! A transmit descriptor. -/

namespace TxWord

def lane : Field := ⟨"Lane", 27, 5⟩
def vc : Field := ⟨"Vc", 24, 3⟩
def length : Field := ⟨"Length", 0, 24⟩
def fields : List Field := [lane, vc, length]

end TxWord

/-! A returned transmit buffer. -/

namespace TxReturnWord

def addr : Field := ⟨"Addr", 2, 30⟩
def valid : Field := .bit "Valid" 0
def fields : List Field := [addr, valid]

end TxReturnWord

/-! The first word of a received frame. -/

namespace RxWordA

def fifoErr : Field := .bit "FifoErr" 31
def eofe : Field := .bit "Eofe" 30
def lane : Field := ⟨"Lane", 26, 3⟩
def vc : Field := ⟨"Vc", 24, 2⟩
def length : Field := ⟨"Length", 0, 24⟩
def fields : List Field := [fifoErr, eofe, lane, vc, length]

end RxWordA

/-! The second word of a received frame. -/

namespace RxWordB

def addr : Field := ⟨"Addr", 2, 30⟩
def lengthErr : Field := .bit "LengthErr" 1
def valid : Field := .bit "Valid" 0
def fields : List Field := [addr, lengthErr, valid]

end RxWordB

/-- The layouts by name. -/
def layouts : List (String × List Field) :=
  [("card_rst_stat", ResetWord.fields), ("irq", IrqWord.fields), ("pci_stat", PciWord.fields),
    ("pci_stat_link", PciWord.linkFields), ("evr_status", EvrWord.statusFields),
    ("evr_control", EvrWord.controlFields), ("evr_hdr_check", [EvrWord.enHdrCheck]),
    ("evr_code", [EvrWord.code]), ("pgp_card_stat", LinkWord.fields),
    ("lane_stat", LaneWord.fields), ("rx_free_stat", FreeWord.fields),
    ("fifo_status", FifoWord.fields), ("tx_stat", [TxStatWord.dmaAFull]),
    ("rx_max_frame", MaxFrameWord.fields), ("tx_desc", TxWord.fields),
    ("tx_ret", TxReturnWord.fields), ("rx_desc_a", RxWordA.fields),
    ("rx_desc_b", RxWordB.fields)]

end LaneCard
