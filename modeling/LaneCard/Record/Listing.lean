import LaneCard.Record.Status

/-!
# Listings of a status

A snapshot of a card as a list of named values, in the order of its record. The build words are
shown as the text that they hold.
-/

namespace LaneCard

/-- A value of a listing. -/
inductive StatusValue where
  | number (w : Word)
  /-- One word for every lane, or for every part of a pair. -/
  | row (ws : List Word)
  /-- One row for every lane, with a word for every channel. -/
  | table (rows : List (List Word))
  | text (s : String)
  deriving Repr, DecidableEq

/-- The named values of a snapshot. -/
def CardStatus.listing (s : CardStatus) : List (String × StatusValue) :=
  [("version", .number s.version), ("serial_number", .row s.serialNumber.toList),
    ("scratch_pad", .number s.scratchPad), ("build_stamp", .text (buildText s.buildStamp)),
    ("count_reset", .number s.countReset), ("card_reset", .number s.cardReset),
    ("pci_command", .number s.pciCommand), ("pci_status", .number s.pciStatus),
    ("pci_d_command", .number s.pciDCommand), ("pci_d_status", .number s.pciDStatus),
    ("pci_l_command", .number s.pciLCommand), ("pci_l_status", .number s.pciLStatus),
    ("pci_link_state", .number s.pciLinkState), ("pci_function", .number s.pciFunction),
    ("pci_device", .number s.pciDevice), ("pci_bus", .number s.pciBus),
    ("pci_base_hdwr", .number s.pciBaseHdwr), ("pci_base_len", .number s.pciBaseLen),
    ("pgp_rate", .number s.pgpRate), ("pgp_loop_back", .row s.pgpLoopBack.toList),
    ("pgp_tx_reset", .row s.pgpTxReset.toList), ("pgp_rx_reset", .row s.pgpRxReset.toList),
    ("pgp_tx_pll_rst", .row s.pgpTxPllRst.toList), ("pgp_rx_pll_rst", .row s.pgpRxPllRst.toList),
    ("pgp_tx_pll_rdy", .row s.pgpTxPllRdy.toList), ("pgp_rx_pll_rdy", .row s.pgpRxPllRdy.toList),
    ("pgp_loc_link_ready", .row s.pgpLocLinkReady.toList),
    ("pgp_rem_link_ready", .row s.pgpRemLinkReady.toList),
    ("pgp_rx_count", .table (s.pgpRxCount.toList.map Vector.toList)),
    ("pgp_cell_err_cnt", .row s.pgpCellErrCnt.toList),
    ("pgp_link_down_cnt", .row s.pgpLinkDownCnt.toList),
    ("pgp_link_err_cnt", .row s.pgpLinkErrCnt.toList),
    ("pgp_fifo_err_cnt", .row s.pgpFifoErrCnt.toList), ("evr_run_code", .row s.evrRunCode.toList),
    ("evr_accept_code", .row s.evrAcceptCode.toList), ("evr_run_delay", .row s.evrRunDelay.toList),
    ("evr_accept_delay", .row s.evrAcceptDelay.toList),
    ("evr_en_hdr_check", .table (s.evrEnHdrCheck.toList.map Vector.toList)),
    ("evr_enable", .number s.evrEnable), ("evr_ready", .number s.evrReady),
    ("evr_reset", .number s.evrReset), ("evr_pll_rst", .number s.evrPllRst),
    ("evr_err_cnt", .number s.evrErrCnt), ("rx_free_full", .row s.rxFreeFull.toList),
    ("rx_free_valid", .row s.rxFreeValid.toList),
    ("rx_free_fifo_count", .row s.rxFreeFifoCount.toList),
    ("rx_read_ready", .number s.rxReadReady), ("rx_ret_fifo_count", .number s.rxRetFifoCount),
    ("rx_count", .number s.rxCount), ("rx_write", .number s.rxWrite),
    ("rx_read", .number s.rxRead), ("tx_dma_a_full", .row s.txDmaAFull.toList),
    ("tx_read_ready", .number s.txReadReady), ("tx_ret_fifo_count", .number s.txRetFifoCount),
    ("tx_count", .number s.txCount), ("tx_write", .number s.txWrite),
    ("tx_read", .number s.txRead), ("tx_fifo_cnt", .row s.txFifoCnt.toList)]

end LaneCard
