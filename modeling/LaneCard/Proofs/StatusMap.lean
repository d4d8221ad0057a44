import LaneCard.Card.Snapshot
import LaneCard.Proofs.ControlRegisters
import LaneCard.Record.Listing

/-!
# Where a status comes from

Every number of a status is a whole register, a stretch of bits of one, or something that the driver knows
without the card. The map below says which, in the order of the record. A status that is taken holds just that,
for whatever the registers hold and however full the queues are; the registers that are laid out completely can
be put together again from it, and taking it leaves nothing behind but the test value.
-/

namespace LaneCard

/-! ## The map -/

/-- Where a number of a status comes from. -/
inductive StatusSource where
  /-- The register at an offset. -/
  | register (offset : Nat)
  /-- So many bits of the register at an offset, from a lowest bit on. -/
  | bits (offset low width : Nat)
  /-- The test value that was written before. -/
  | sentinel
  /-- What the driver knows of the register window of the card. -/
  | windowBase
  | windowLength
  /-- The positions of the driver's rings. -/
  | rxWrite
  | rxRead
  | txWrite
  | txRead
  deriving DecidableEq

/-- The sources of an entry of a status. -/
inductive StatusSources where
  | number (s : StatusSource)
  | row (ss : List StatusSource)
  | table (rows : List (List StatusSource))
  /-- The words of a text. -/
  | text (ss : List StatusSource)

namespace StatusSource

/-- One source for each lane. -/
def lanes (f : Nat → StatusSource) : List StatusSource := (List.range 8).map f

/-- One bit of a register for each lane, from a lowest bit on. -/
def bitPerLane (offset base : Nat) : StatusSources := .row (lanes fun lane => bits offset (base + lane) 1)

/-- The same bits of one register for each lane. -/
def bitsPerLane (offset low width : Nat) : StatusSources :=
  .row (lanes fun lane => bits (offset + 4 * lane) low width)

/-- One register for each lane. -/
def registerPerLane (offset : Nat) : StatusSources := .row (lanes fun lane => register (offset + 4 * lane))

/-- One source for each lane and channel. -/
def channels (f : Nat → Nat → StatusSource) : StatusSources :=
  .table ((List.range 8).map fun lane => (List.range 4).map (f lane))

end StatusSource

open StatusSource in
/-- Where each entry of a status comes from. -/
def statusMap : List (String × StatusSources) :=
  [("version", .number (register 0x000)), ("serial_number", .row [register 0x008, register 0x004]),
    ("scratch_pad", .number sentinel), ("build_stamp", .text ((List.range 64).map fun i => register (0x300 + 4 * i))),
    ("count_reset", .number (bits 0x010 0 1)), ("card_reset", .number (bits 0x010 1 1)),
    ("pci_command", .number (bits 0x02C 16 16)), ("pci_status", .number (bits 0x02C 0 16)),
    ("pci_d_command", .number (bits 0x030 16 16)), ("pci_d_status", .number (bits 0x030 0 16)),
    ("pci_l_command", .number (bits 0x034 16 16)), ("pci_l_status", .number (bits 0x034 0 16)),
    ("pci_link_state", .number (bits 0x038 24 3)), ("pci_function", .number (bits 0x038 16 2)),
    ("pci_device", .number (bits 0x038 8 5)), ("pci_bus", .number (bits 0x038 0 8)),
    ("pci_base_hdwr", .number windowBase), ("pci_base_len", .number windowLength),
    ("pgp_rate", .number (register 0x018)), ("pgp_loop_back", bitPerLane 0x080 0),
    ("pgp_tx_reset", bitPerLane 0x080 16), ("pgp_rx_reset", bitPerLane 0x080 8),
    ("pgp_tx_pll_rst", .row [bits 0x080 26 1, bits 0x080 27 1]),
    ("pgp_rx_pll_rst", .row [bits 0x080 24 1, bits 0x080 25 1]),
    ("pgp_tx_pll_rdy", .row [bits 0x080 30 1, bits 0x080 31 1]),
    ("pgp_rx_pll_rdy", .row [bits 0x080 28 1, bits 0x080 29 1]),
    ("pgp_loc_link_ready", bitPerLane 0x084 0), ("pgp_rem_link_ready", bitPerLane 0x084 8),
    ("pgp_rx_count", channels fun lane vc => bits (0x200 + 4 * lane) (4 * vc) 4),
    ("pgp_cell_err_cnt", bitsPerLane 0x200 20 4), ("pgp_link_down_cnt", bitsPerLane 0x200 24 4),
    ("pgp_link_err_cnt", bitsPerLane 0x200 28 4), ("pgp_fifo_err_cnt", bitsPerLane 0x200 16 4),
    ("evr_run_code", bitsPerLane 0x180 0 8), ("evr_accept_code", bitsPerLane 0x1A0 0 8),
    ("evr_run_delay", registerPerLane 0x1C0), ("evr_accept_delay", registerPerLane 0x1E0),
    ("evr_en_hdr_check", channels fun lane vc => bits 0x048 (4 * lane + vc) 1),
    ("evr_enable", .number (bits 0x044 0 1)), ("evr_ready", .number (bits 0x040 4 1)),
    ("evr_reset", .number (bits 0x044 1 1)), ("evr_pll_rst", .number (bits 0x044 2 1)),
    ("evr_err_cnt", .number (bits 0x040 0 4)), ("rx_free_full", bitsPerLane 0x480 31 1),
    ("rx_free_valid", bitsPerLane 0x480 30 1), ("rx_free_fifo_count", bitsPerLane 0x480 0 10),
    ("rx_read_ready", .number (bits 0x508 31 1)), ("rx_ret_fifo_count", .number (bits 0x508 0 10)),
    ("rx_count", .number (register 0x504)), ("rx_write", .number rxWrite), ("rx_read", .number rxRead),
    ("tx_dma_a_full", bitPerLane 0x900 0), ("tx_read_ready", .number (bits 0x904 31 1)),
    ("tx_ret_fifo_count", .number (bits 0x904 0 10)), ("tx_count", .number (register 0x908)),
    ("tx_write", .number txWrite), ("tx_read", .number txRead), ("tx_fifo_cnt", registerPerLane 0x910)]

/-- The number that a source gives on a card. -/
def StatusSource.word (c : Card Board) : StatusSource → Word
  | register offset => c.host.look offset
  | bits offset low width => ((c.host.look offset).extractLsb' low width).setWidth 32
  | sentinel => 0x55441122#32
  | windowBase => BitVec.ofNat 32 c.device.baseHdwr
  | windowLength => BitVec.ofNat 32 c.device.baseLen
  | rxWrite => BitVec.ofNat 32 c.device.rxReady.write.val
  | rxRead => BitVec.ofNat 32 c.device.rxReady.read.val
  | txWrite => BitVec.ofNat 32 c.device.txFree.write.val
  | txRead => BitVec.ofNat 32 c.device.txFree.read.val

/-- The register of a source. -/
def StatusSource.offset? : StatusSource → Option Nat
  | register offset => some offset
  | bits offset _ _ => some offset
  | _ => none

/-- The bits of a register that a source takes. -/
def StatusSource.bitsOf (offset : Nat) : StatusSource → List Nat
  | register o => if o = offset then List.range 32 else []
  | bits o low width => if o = offset then List.range' low width else []
  | _ => []

/-- What a source gives determines the bits that it takes. -/
theorem StatusSource.getLsbD_eq_of_word_eq {c c' : Card Board} {s : StatusSource} {offset i : Nat}
    (hi : i ∈ s.bitsOf offset) (hword : i < 32) (h : s.word c = s.word c') :
    (c.host.look offset).getLsbD i = (c'.host.look offset).getLsbD i := by
  cases s with
  | register o =>
    rw [bitsOf] at hi
    split at hi
    · rename_i ho
      rw [← ho]
      exact congrArg (·.getLsbD i) h
    · contradiction
  | bits o low width =>
    rw [bitsOf] at hi
    split at hi
    · rename_i ho
      obtain ⟨hlow, hhigh⟩ := List.mem_range'_1.mp hi
      have hbit := congrArg (·.getLsbD (i - low)) h
      simp only [word, BitVec.getLsbD_setWidth, BitVec.getLsbD_extractLsb', ho] at hbit
      have hplace : low + (i - low) = i := by omega
      rw [decide_eq_true (show i - low < 32 by omega), decide_eq_true (show i - low < width by omega), Bool.true_and,
        Bool.true_and, Bool.true_and, Bool.true_and, hplace] at hbit
      exact hbit
    · contradiction
  | _ => contradiction

namespace StatusSources

/-- The value that sources give on a card. -/
def value (c : Card Board) : StatusSources → StatusValue
  | number s => .number (s.word c)
  | row ss => .row (ss.map (·.word c))
  | table rows => .table (rows.map (·.map (·.word c)))
  | text ss => .text (Text.ofBytes (((ss.map (·.word c)).flatMap Word.bytes).takeWhile (· != 0)))

/-- All sources of an entry. -/
def sources : StatusSources → List StatusSource
  | number s => [s]
  | row ss => ss
  | table rows => rows.flatten
  | text ss => ss

/-- What the sources of an entry give determines its value. -/
theorem value_congr {c c' : Card Board} {entry : StatusSources}
    (h : ∀ s ∈ entry.sources, s.word c = s.word c') : entry.value c = entry.value c' := by
  cases entry with
  | number s => exact congrArg StatusValue.number (h s List.mem_cons_self)
  | row ss => exact congrArg StatusValue.row (List.map_congr_left h)
  | table rows =>
    refine congrArg StatusValue.table (List.map_congr_left fun ss hss => List.map_congr_left fun s hs => ?_)
    exact h s (List.mem_flatten.mpr ⟨ss, hss, hs⟩)
  | text ss =>
    have hwords : ss.map (·.word c) = ss.map (·.word c') := List.map_congr_left h
    rw [value, hwords, value]

/-- Whether an entry is shown as a text, from which its words cannot be told. -/
def isText : StatusSources → Bool
  | text _ => true
  | _ => false

/-- The value of an entry that is not a text determines what its sources give. -/
theorem word_eq_of_value_eq {c c' : Card Board} {entry : StatusSources} (h : entry.value c = entry.value c')
    (htext : entry.isText = false) {s : StatusSource} (hs : s ∈ entry.sources) : s.word c = s.word c' := by
  cases entry with
  | number t =>
    rw [List.mem_singleton.mp hs]
    exact StatusValue.number.inj h
  | row ss => exact List.map_inj_left.mp (StatusValue.row.inj h) s hs
  | table rows =>
    obtain ⟨ss, hss, hs⟩ := List.mem_flatten.mp hs
    exact List.map_inj_left.mp (List.map_inj_left.mp (StatusValue.table.inj h) ss hss) s hs
  | text ss => contradiction

end StatusSources

/-- All sources of a status. -/
def statusSources : List StatusSource := statusMap.flatMap fun entry => entry.2.sources

/-- The registers that a status is taken from. -/
def statusOffsets : List Nat := statusSources.filterMap StatusSource.offset?

/-- Registers that are laid out completely in a status: the link resets, the header checks, the first three PCI
words and the counters of each lane. -/
def packedOffsets : List Nat := [0x080, 0x048, 0x02C, 0x030, 0x034] ++ (List.range 8).map fun lane => 0x200 + 4 * lane

/-- Registers that show the state of a queue of the card. -/
def queueOffsets : List Nat := [0x508, 0x904] ++ (List.range 8).map fun lane => 0x480 + 4 * lane

/-- The bits of a register that a status takes, entry by entry. -/
def bitsTaken (offset : Nat) : List Nat := statusSources.flatMap (StatusSource.bitsOf offset)

/-- Every bit of a register that is laid out completely is taken once. -/
theorem bitsTaken_perm : ∀ offset ∈ packedOffsets, (bitsTaken offset).Perm (List.range 32) := by decide +kernel

/-- None of these bits is shown in a text. -/
theorem bitsOf_text : ∀ offset ∈ packedOffsets, ∀ entry ∈ statusMap, entry.2.isText = true →
    ∀ s ∈ entry.2.sources, s.bitsOf offset = [] := by decide +kernel

/-- The registers that are laid out completely only store words. -/
theorem packedOffsets_plain : ∀ offset ∈ packedOffsets, offset < Offset.rxFree ∧ offset ≠ Offset.irq := by decide

/-- No entry is taken from the scratch register, and none from a register that changes by being read. -/
theorem statusOffsets_passive :
    ∀ offset ∈ statusOffsets, offset ≠ Offset.scratch ∧ offset ≠ Offset.txRead ∧ offset ≠ Offset.rxRead + 4 := by
  decide +kernel

namespace Card

/-- The words of a row are those of its lanes. -/
theorem toList_ofFn_range {α : Type} (f : Nat → α) (n : Nat) :
    (Vector.ofFn fun i : Fin n => f i.val).toList = (List.range n).map f := by
  apply List.ext_getElem
  · rw [Vector.length_toList, List.length_map, List.length_range]
  · intro i hi hi'
    simp

/-- The eight words of the lanes, as a list. -/
theorem toList_perLane (f : Nat → Word) : (perLane f).toList = (List.range 8).map f := toList_ofFn_range f 8

/-- The two words of the clocks, as a list. -/
theorem toList_perClock (f : Nat → Word) : (perClock f).toList = (List.range 2).map f := toList_ofFn_range f 2

/-- The four words of each of the eight lanes, as lists. -/
theorem toList_perChannel (f : Nat → Nat → Word) :
    (perChannel f).toList.map Vector.toList = (List.range 8).map fun lane => (List.range 4).map (f lane) := by
  rw [perChannel, toList_ofFn_range (fun lane => Vector.ofFn fun vc : Fin 4 => f lane vc.val) 8, List.map_map]
  exact List.map_congr_left fun lane _ => toList_ofFn_range (f lane) 4

/-- What is decoded from the registers is what the map says, once the test value is in its place. -/
theorem listing_decodeStatus (c : Card Board) (hscratch : c.host.look 0x00C = 0x55441122#32) :
    c.decodeStatus.listing = statusMap.map fun entry => (entry.1, entry.2.value c) := by
  have hstamp := toList_ofFn_range (fun i => c.host.look (Offset.buildStamp + 4 * i)) 64
  have hsentinel : c.host.look Offset.scratch = StatusSource.sentinel.word c := hscratch
  simp only [CardStatus.listing, decodeStatus, toList_perLane, toList_perClock, toList_perChannel, buildText, hstamp,
    Field.get_eq_extract, hsentinel]
  rfl

/-! ## Taking a status -/

/-- Reading any other register is not affected by a word that was stored. -/
theorem look_write (c : Card Board) {offset : Nat} (value : Word) (hoffset : offset < Offset.rxFree)
    (hirq : offset ≠ Offset.irq) {k : Nat} (hk : k ≠ offset) : (c.write offset value).host.look k = c.host.look k := by
  rw [c.write_eq value hoffset hirq]
  change Board.look { c.host.bus.logged offset value with regs := c.host.bus.regs.set offset value } k =
    c.host.bus.look k
  unfold Board.look
  simp only [RegisterFile.get_set, if_neg hk, if_neg (Ne.symm hirq)]
  rfl

/-- Taking a status writes the test value, and nothing else. -/
theorem snapshot_snd (c : Card Board) :
    c.snapshot.2 =
      { c with
        host :=
          { c.host with
            bus :=
              { c.host.bus with
                regs := c.host.bus.regs.set 0x00C 0x55441122#32
                writes := c.host.bus.writes.push (0x00C, 0x55441122#32) } } } := by
  have hbelow : Offset.scratch < Offset.rxFree := by decide
  exact c.write_eq scratchValue hbelow (by decide)

/-- A source gives the same after the test value was written as before. -/
theorem word_snapshot (c : Card Board) {s : StatusSource} (hs : s ∈ statusSources) :
    s.word c.snapshot.2 = s.word c := by
  have hlook (offset : Nat) (hoffset : s.offset? = some offset) :
      c.snapshot.2.host.look offset = c.host.look offset := by
    have hmem : offset ∈ statusOffsets := List.mem_filterMap.mpr ⟨s, hs, hoffset⟩
    have hbelow : Offset.scratch < Offset.rxFree := by decide
    exact c.look_write scratchValue hbelow (by decide) (statusOffsets_passive offset hmem).1
  cases s with
  | register offset => exact hlook offset rfl
  | bits offset low width =>
    rw [StatusSource.word, hlook offset rfl, StatusSource.word]
  | _ => rfl

/-- A status that is taken is what the map says of the card before. -/
theorem listing_snapshot (c : Card Board) :
    c.snapshot.1.listing = statusMap.map fun entry => (entry.1, entry.2.value c) := by
  have hscratch : c.snapshot.2.host.look 0x00C = 0x55441122#32 := by
    have hbelow : Offset.scratch < Offset.rxFree := by decide
    have hirq : Offset.scratch ≠ Offset.irq := by decide
    rw [snapshot_snd]
    exact (Board.look_of_lt _ hbelow hirq).trans ((RegisterFile.get_set _ _ _ _).trans (if_pos rfl))
  refine (c.snapshot.2.listing_decodeStatus hscratch).trans (List.map_congr_left fun entry hentry => ?_)
  have hvalue : entry.2.value c.snapshot.2 = entry.2.value c :=
    StatusSources.value_congr fun s hs => c.word_snapshot (List.mem_flatMap.mpr ⟨entry, hentry, hs⟩)
  rw [hvalue]

/-- A register that is laid out completely can be told from a status. -/
theorem register_eq_of_snapshot_eq {c c' : Card Board} (h : c.snapshot.1 = c'.snapshot.1) {offset : Nat}
    (hoffset : offset ∈ packedOffsets) : c.register offset = c'.register offset := by
  obtain ⟨hbelow, hirq⟩ := packedOffsets_plain offset hoffset
  have hlook (w : Card Board) : w.host.look offset = w.register offset := w.host.bus.look_of_lt hbelow hirq
  have hlisting := congrArg CardStatus.listing h
  rw [c.listing_snapshot, c'.listing_snapshot] at hlisting
  rw [← hlook, ← hlook]
  apply BitVec.eq_of_getLsbD_eq
  intro i hi
  have htaken : i ∈ bitsTaken offset := (bitsTaken_perm offset hoffset).symm.subset (List.mem_range.mpr hi)
  obtain ⟨s, hs, htakes⟩ := List.mem_flatMap.mp htaken
  obtain ⟨entry, hentry, hs⟩ := List.mem_flatMap.mp hs
  have hvalue : entry.2.value c = entry.2.value c' := (Prod.mk.inj (List.map_inj_left.mp hlisting entry hentry)).2
  have htext : entry.2.isText = false := by
    refine Bool.eq_false_iff.mpr fun hkind => ?_
    rw [bitsOf_text offset hoffset entry hentry hkind s hs] at htakes
    contradiction
  exact s.getLsbD_eq_of_word_eq htakes hi (StatusSources.word_eq_of_value_eq hvalue htext hs)

/-- Reading any register that a status is taken from gives its word and changes nothing. -/
theorem read_of_statusOffsets (c : Card Board) {offset : Nat} (hoffset : offset ∈ statusOffsets) :
    c.read offset = (c.host.look offset, c) := by
  obtain ⟨-, htx, hrx⟩ := statusOffsets_passive offset hoffset
  have hfetch : RegisterBus.fetch c.host.bus offset = c.host.bus := (if_neg htx).trans (if_neg hrx)
  rw [Card.read, Host.read, hfetch]

/-- What a register shows of the card: the state of a queue, or what is stored. -/
theorem look_of_statusOffsets (c : Card Board) :
    (∀ lane < 8, c.host.look (0x480 + 4 * lane) = Board.freeWord (c.host.bus.freeList lane).length) ∧
      c.host.look 0x508 = Board.fifoWord c.host.bus.rxReturns.length ∧
      c.host.look 0x904 = Board.fifoWord c.host.bus.txReturns.length ∧
      ∀ offset ∈ statusOffsets, offset ∉ queueOffsets → c.host.look offset = c.register offset := by
  have hstored : ∀ offset ∈ statusOffsets, offset ∉ queueOffsets →
      indexIn offset Offset.rxFreeStat laneCount = none ∧ offset ≠ Offset.irq ∧ offset ≠ Offset.rxStatus ∧
        offset ≠ Offset.txRead ∧ offset ≠ Offset.rxRead ∧ offset ≠ Offset.rxRead + 4 ∧
        offset ≠ Offset.txStat + 4 := by decide +kernel
  refine ⟨fun lane hlane => c.host.bus.look_rxFreeStat hlane, rfl, rfl, fun offset hoffset hother => ?_⟩
  obtain ⟨hindex, hirq, hrxStatus, htxRead, hrxRead, hrxRead', htxStat⟩ := hstored offset hoffset hother
  change c.host.bus.look offset = _
  rw [Board.look, hindex]
  simp only [if_neg hirq, if_neg hrxStatus, if_neg htxRead, if_neg hrxRead, if_neg hrxRead', if_neg htxStat]
  rfl

/-- What a status that is taken of a card says of it, and leaves of it. -/
structure Decoded (c : Card Board) : Prop where
  /-- Every entry is what the map says. -/
  listing : c.snapshot.1.listing = statusMap.map fun entry => (entry.1, entry.2.value c)
  /-- So are the build words, which are listed as a text. -/
  stamp : c.snapshot.1.buildStamp.toList = (List.range 64).map fun i => c.register (0x300 + 4 * i)
  /-- A register that shows the state of a queue shows it, and every other one shows what is stored. -/
  free : ∀ lane < 8, c.host.look (0x480 + 4 * lane) = Board.freeWord (c.host.bus.freeList lane).length
  rxReturns : c.host.look 0x508 = Board.fifoWord c.host.bus.rxReturns.length
  txReturns : c.host.look 0x904 = Board.fifoWord c.host.bus.txReturns.length
  stored : ∀ offset ∈ statusOffsets, offset ∉ queueOffsets → c.host.look offset = c.register offset
  /-- No bit of a packed register is dropped or taken twice, so that the status determines the register. -/
  taken : ∀ offset ∈ packedOffsets, (bitsTaken offset).Perm (List.range 32)
  lossless : ∀ c' : Card Board, c.snapshot.1 = c'.snapshot.1 → ∀ offset ∈ packedOffsets,
    c.register offset = c'.register offset
  /-- Reading the registers, in any order and any number of times, changes nothing. -/
  unread : ∀ offsets : List Nat, (∀ offset ∈ offsets, offset ∈ statusOffsets) →
    offsets.foldl (fun w offset => (w.read offset).2) c = c
  /-- The test value is written once, and nothing else changes. -/
  passive : c.snapshot.2 =
    { c with
      host :=
        { c.host with
          bus :=
            { c.host.bus with
              regs := c.host.bus.regs.set 0x00C 0x55441122#32
              writes := c.host.bus.writes.push (0x00C, 0x55441122#32) } } }

/-- A status is a faithful and passive decoding of the registers, whatever they hold and whatever is in the queues
and rings: every number of it comes from the place that the map names, the packed registers lose no bit, and the
card is left as it was, apart from the test value in the scratch register. -/
theorem snapshot_decoded (c : Card Board) : Decoded c := by
  obtain ⟨hfree, hrx, htx, hstored⟩ := c.look_of_statusOffsets
  constructor
  case listing => exact c.listing_snapshot
  case stamp =>
    have hwords := toList_ofFn_range (fun i => c.snapshot.2.host.look (Offset.buildStamp + 4 * i)) 64
    refine hwords.trans (List.map_congr_left fun i hi => ?_)
    have hbelow := List.mem_range.mp hi
    have hplain : Offset.buildStamp + 4 * i < Offset.rxFree ∧ Offset.buildStamp + 4 * i ≠ Offset.irq ∧
        Offset.buildStamp + 4 * i ≠ Offset.scratch := by
      simp only [Offset.buildStamp, Offset.rxFree, Offset.irq, Offset.scratch]
      omega
    have hscratch : Offset.scratch < Offset.rxFree := by decide
    exact (c.look_write scratchValue hscratch (by decide) hplain.2.2).trans
      (c.host.bus.look_of_lt hplain.1 hplain.2.1)
  case free => exact hfree
  case rxReturns => exact hrx
  case txReturns => exact htx
  case stored => exact hstored
  case taken => exact bitsTaken_perm
  case lossless => exact fun c' h offset hoffset => register_eq_of_snapshot_eq h hoffset
  case unread =>
    intro offsets hoffsets
    induction offsets with
    | nil => rfl
    | cons offset rest ih =>
      obtain ⟨hoffset, hrest⟩ := List.forall_mem_cons.mp hoffsets
      rw [List.foldl_cons, c.read_of_statusOffsets hoffset]
      exact ih hrest
  case passive => exact c.snapshot_snd

end Card

end LaneCard
