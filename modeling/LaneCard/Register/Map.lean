/-!
# The register map

Where each register lies in the card's window, as a byte offset. A block of equal registers
is given by its first offset; the others follow at word steps.
-/

namespace LaneCard

/-! Byte offsets in the register window. -/

namespace Offset

def version : Nat := 0x000
def serNumLower : Nat := 0x004
def serNumUpper : Nat := 0x008
def scratch : Nat := 0x00C
def cardRstStat : Nat := 0x010
def irq : Nat := 0x014
def pgpRate : Nat := 0x018
def reboot : Nat := 0x01C
def pgpOpCode : Nat := 0x020
def pciStat : Nat := 0x02C
def evrCardStat : Nat := 0x040
def pgpCardStat : Nat := 0x080
def runCode : Nat := 0x180
def acceptCode : Nat := 0x1A0
def runDelay : Nat := 0x1C0
def acceptDelay : Nat := 0x1E0
def pgpLaneStat : Nat := 0x200
def buildStamp : Nat := 0x300
def rxFree : Nat := 0x400
def rxFreeStat : Nat := 0x480
def rxMaxFrame : Nat := 0x500
def rxCount : Nat := 0x504
def rxStatus : Nat := 0x508
def rxRead : Nat := 0x50C
def txWrA : Nat := 0x800
def txWrB : Nat := 0x880
def txStat : Nat := 0x900
def txCount : Nat := 0x908
def txRead : Nat := 0x90C
def txFifoCnt : Nat := 0x910
/-- The size of the register window. -/
def regionSize : Nat := 0x1000

end Offset

/-- A register, or a block of equal registers one word apart. -/
structure RegisterBlock where
  name : String
  offset : Nat
  /-- The number of registers of a block; a lone register has none. -/
  count : Option Nat
  deriving Repr, DecidableEq

namespace RegisterBlock

/-- The offset of the register at a position of the block, if the block reaches that far; for a
lone register the position does not matter. -/
def address? (b : RegisterBlock) (index : Nat) : Option Nat :=
  match b.count with
  | some count => if index < count then some (b.offset + 4 * index) else none
  | none => some b.offset

/-- The registers of the card by name. -/
def all : List RegisterBlock :=
  [⟨"version", Offset.version, none⟩, ⟨"ser_num_lower", Offset.serNumLower, none⟩,
    ⟨"ser_num_upper", Offset.serNumUpper, none⟩, ⟨"scratch", Offset.scratch, none⟩,
    ⟨"card_rst_stat", Offset.cardRstStat, none⟩, ⟨"irq", Offset.irq, none⟩,
    ⟨"pgp_rate", Offset.pgpRate, none⟩, ⟨"reboot", Offset.reboot, none⟩,
    ⟨"pgp_op_code", Offset.pgpOpCode, none⟩, ⟨"pci_stat", Offset.pciStat, some 4⟩,
    ⟨"evr_card_stat", Offset.evrCardStat, some 3⟩, ⟨"pgp_card_stat", Offset.pgpCardStat, some 2⟩,
    ⟨"run_code", Offset.runCode, some 8⟩, ⟨"accept_code", Offset.acceptCode, some 8⟩,
    ⟨"run_delay", Offset.runDelay, some 8⟩, ⟨"accept_delay", Offset.acceptDelay, some 8⟩,
    ⟨"pgp_lane_stat", Offset.pgpLaneStat, some 8⟩, ⟨"build_stamp", Offset.buildStamp, some 64⟩,
    ⟨"rx_free", Offset.rxFree, some 8⟩, ⟨"rx_free_stat", Offset.rxFreeStat, some 8⟩,
    ⟨"rx_max_frame", Offset.rxMaxFrame, none⟩, ⟨"rx_count", Offset.rxCount, none⟩,
    ⟨"rx_status", Offset.rxStatus, none⟩, ⟨"rx_read", Offset.rxRead, some 2⟩,
    ⟨"tx_wr_a", Offset.txWrA, some 8⟩, ⟨"tx_wr_b", Offset.txWrB, some 8⟩,
    ⟨"tx_stat", Offset.txStat, some 2⟩, ⟨"tx_count", Offset.txCount, none⟩,
    ⟨"tx_read", Offset.txRead, none⟩, ⟨"tx_fifo_cnt", Offset.txFifoCnt, some 8⟩]

/-- The register or block with a name. -/
def find? (name : String) : Option RegisterBlock := all.find? fun b => b.name == name

end RegisterBlock

/-- The position of an offset within `count` registers from `base` on, if it names one. -/
def indexIn (offset base count : Nat) : Option Nat :=
  if base ≤ offset ∧ offset < base + 4 * count ∧ offset % 4 = 0 then some ((offset - base) / 4)
  else none

end LaneCard
