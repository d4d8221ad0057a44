import LaneCard.Card.Basic
import LaneCard.Proofs.Board
import LaneCard.Proofs.Bytes
import LaneCard.Proofs.Pool

/-!
# Where the buffers are

The part of a card that decides where its buffers are and what is in them: both pools and rings on
the driver's side, the free lists and FIFOs on the card's, and the memory between them. Everything
else, such as the journal, the interrupt line and most registers, is left out, so that what an
operation does to the buffers is one equation. Whether the memory is fit for its use is said here as
well: the pools are live in it, and the card never stores more than a receive buffer holds.
-/

namespace LaneCard

/-- Where the buffers of a card are. -/
structure Holdings where
  txPool : BufferPool
  rxPool : BufferPool
  /-- The numbers of the free transmit buffers. -/
  txFree : Ring
  /-- The numbers of the receive buffers with a frame to be read. -/
  rxReady : Ring
  isOpen : Bool
  /-- Frames given back because nobody was there to read them. -/
  dropped : Nat
  /-- The free receive buffers of each lane. -/
  free : Nat → List Word
  txReturns : List Word
  rxReturns : List (Word × Word)
  heldTx : List Word
  /-- Whether transmit buffers are held back. -/
  holding : Bool
  /-- The word that limits the frames that the card stores. -/
  limit : Word
  /-- The buffer addresses that were written to the registers that send, in order. -/
  submissions : List Word
  memory : Allocator
  /-- A separate allocator of the buffers. -/
  apart : Option Allocator

/-- Where the buffers of a driver are on its host. -/
def Host.holdings (h : Host Board) (d : Device) : Holdings where
  txPool := d.txPool
  rxPool := d.rxPool
  txFree := d.txFree
  rxReady := d.rxReady
  isOpen := d.isOpen
  dropped := d.droppedClosed
  free := h.bus.freeList
  txReturns := h.bus.txReturns
  rxReturns := h.bus.rxReturns
  heldTx := h.bus.heldTx
  holding := h.bus.holdTx
  limit := h.bus.regs.get Offset.rxMaxFrame
  submissions := h.bus.submissions
  memory := h.memory
  apart := h.apart

/-- Where the buffers of a card are. -/
def Card.holdings (c : Card Board) : Holdings := c.host.holdings c.device

/-- Without a separate allocator the buffers come from the memory that the card reaches. -/
theorem Host.buffers_of_shared {h : Host Board} (hshared : h.apart = none) : h.buffers = h.memory := by
  rw [Host.buffers, hshared, Option.getD_none]

/-! ## What moves no buffer -/

namespace Host

/-- A line in the journal of a host moves no buffer. -/
@[simp] theorem holdings_note (h : Host Board) (d : Device) (level : Level) (text : String) :
    (h.note level text).holdings d = h.holdings d := rfl

/-- Neither does an interrupt. -/
@[simp] theorem holdings_interrupt (h : Host Board) (d : Device) :
    (Board.interrupt h).holdings d = h.holdings d := by
  obtain ⟨handling, line, hraise⟩ := Board.interrupt_eq h
  rw [hraise]
  rfl

/-- A write that neither frees nor sends a buffer moves none. -/
theorem holdings_write_of_isPlain (h : Host Board) (d : Device) {offset : Nat} (value : Word)
    (hplain : Board.IsPlain offset) : (h.write offset value).holdings d = h.holdings d := by
  obtain ⟨handling, line, hstore⟩ := Board.store_of_isPlain h value hplain
  obtain ⟨-, hsend, hlimit, -, -⟩ := hplain
  change (Board.store h offset value).holdings d = _
  rw [hstore]
  have hregs : (h.bus.regs.set offset value).get Offset.rxMaxFrame = h.bus.regs.get Offset.rxMaxFrame := by
    rw [RegisterFile.get_set, if_neg hlimit.symm]
  simp only [holdings, hregs, ← h.bus.submissions_logged_of_none value hsend]
  rfl

/-- Reading a plain register changes nothing. -/
theorem read_of_isPlain (h : Host Board) {offset : Nat} (hplain : Board.IsPlain offset) :
    (h.read offset).2 = h := by
  change { h with bus := h.bus.fetch offset } = h
  rw [h.bus.fetch_of_isPlain hplain]

/-- Changing a plain register moves no buffer. -/
theorem holdings_modify_of_isPlain (h : Host Board) (d : Device) {offset : Nat} (change : Word → Word)
    (hplain : Board.IsPlain offset) : (h.modify offset change).holdings d = h.holdings d := by
  have hread := h.read_of_isPlain hplain
  rw [modify]
  change (((h.read offset).2).write offset _).holdings d = _
  rw [hread, holdings_write_of_isPlain _ _ _ hplain]

end Host

namespace Card

/-- A line in the journal of a card moves no buffer. -/
@[simp] theorem holdings_note (c : Card Board) (level : Level) (text : String) :
    (c.note level text).holdings = c.holdings := rfl

/-- Neither does a line for debugging. -/
@[simp] theorem holdings_trace (c : Card Board) (threshold : Nat) (text : String) :
    (c.trace threshold text).holdings = c.holdings := by
  unfold trace
  split <;> rfl

/-- Neither does writing a plain register. -/
theorem holdings_write_of_isPlain (c : Card Board) {offset : Nat} (value : Word)
    (hplain : Board.IsPlain offset) : (c.write offset value).holdings = c.holdings :=
  c.host.holdings_write_of_isPlain c.device value hplain

/-- Reading a plain register changes nothing. -/
theorem read_of_isPlain (c : Card Board) {offset : Nat} (hplain : Board.IsPlain offset) :
    (c.read offset).2 = c := by
  change { c with host := (c.host.read offset).2 } = c
  rw [c.host.read_of_isPlain hplain]

end Card

/-! ## Giving back receive buffers -/

/-- The free lists after the buffers of frames went back, each to the list of its lane. -/
def returnTo (free : Nat → List Word) (descs : List RxDescriptor) (lane : Nat) : List Word :=
  free lane ++ (descs.filter fun d => d.lane.toNat % laneCount == lane).map RxDescriptor.addr

/-- Giving back no buffers changes no free list. -/
@[simp] theorem returnTo_nil (free : Nat → List Word) : returnTo free [] = free := by
  funext lane
  simp [returnTo]

/-- Buffers may go back one after the other. -/
theorem returnTo_append (free : Nat → List Word) (ds es : List RxDescriptor) :
    returnTo (returnTo free ds) es = returnTo free (ds ++ es) := by
  funext lane
  simp [returnTo]

/-- Giving back one buffer changes one free list. -/
theorem returnTo_singleton (free : Nat → List Word) (d : RxDescriptor) :
    returnTo free [d] =
      Function.update free (d.lane.toNat % laneCount) (free (d.lane.toNat % laneCount) ++ [d.addr]) := by
  funext lane
  rw [returnTo, Function.update_apply]
  by_cases hlane : d.lane.toNat % laneCount = lane
  · simp [hlane]
  · simp [hlane, Ne.symm hlane]

/-- A buffer is given to the card by writing its address to the free list of a lane. -/
theorem Host.holdings_write_rxFree (h : Host Board) (d : Device) (desc : RxDescriptor) :
    (h.write (Offset.rxFree + 4 * (desc.lane.toNat % laneCount)) desc.addr).holdings d =
      { h.holdings d with free := returnTo (h.holdings d).free [desc] } := by
  have hlane : desc.lane.toNat % laneCount < laneCount := Nat.mod_lt _ (by decide)
  have hsend := Board.indexIn_rxFree_txWrB _ hlane
  change (Board.store h _ _).holdings d = _
  rw [Board.store_rxFree _ _ _ hlane]
  simp only [holdings, Board.freeList_setFree _ _ _ hlane, returnTo_singleton,
    ← h.bus.submissions_logged_of_none desc.addr hsend]
  rfl

/-- The driver gives a buffer back. -/
theorem Card.holdings_giveFree (c : Card Board) (d : RxDescriptor) :
    (c.giveFree d.lane.toNat d.addr).holdings =
      { c.holdings with free := returnTo c.holdings.free [d] } :=
  c.host.holdings_write_rxFree c.device d

/-! ## Memory that is fit for its use -/

/-- The card and its driver share memory in which both pools are live, descriptors can hold the
length of every frame that is sent, and no frame that the card stores is too long for its buffer. -/
structure Holdings.Sound (H : Holdings) : Prop where
  shared : H.apart = none
  memory : H.memory.WellFormed
  txHeld : H.txPool.Held H.memory
  rxHeld : H.rxPool.Held H.memory
  describable : H.txPool.bufferSize / wordSize ≤ TxWord.length.maxValue.toNat
  limited : (MaxFrameWord.size.get H.limit).toNat ≤ H.rxPool.bufferSize
  known : ∀ lane, ∀ addr ∈ H.free lane, addr ∈ H.rxPool.addrs

namespace Holdings

variable {H : Holdings}

/-- Changing the memory of one region keeps it fit. -/
theorem Sound.rewritten (h : H.Sound) {memory : Allocator} {r : Region} {change : Memory → Memory}
    (hwrite : Allocator.Rewritten H.memory memory r change) : Sound { H with memory := memory } :=
  { h with
    memory := hwrite.wellFormed h.memory
    txHeld := h.txHeld.mono (hwrite.regions ▸ List.Subset.refl _)
    rxHeld := h.rxHeld.mono (hwrite.regions ▸ List.Subset.refl _) }

/-- Buffers of the pool may go back to the card. -/
theorem Sound.returnTo (h : H.Sound) {descs : List RxDescriptor}
    (hdescs : ∀ d ∈ descs, d.addr ∈ H.rxPool.addrs) :
    Sound { H with free := LaneCard.returnTo H.free descs } :=
  { h with
    known := fun lane addr haddr => by
      rcases List.mem_append.mp haddr with hold | hnew
      · exact h.known lane addr hold
      · obtain ⟨d, hd, rfl⟩ := List.mem_map.mp hnew
        exact hdescs d (List.mem_of_mem_filter hd) }

/-- The card may take a free buffer. -/
theorem Sound.takeFree (h : H.Sound) {lane : Nat} {addr : Word} {rest : List Word}
    (hlist : H.free lane = addr :: rest) : Sound { H with free := Function.update H.free lane rest } :=
  { h with
    known := fun k x hx => by
      change x ∈ Function.update H.free lane rest k at hx
      rw [Function.update_apply] at hx
      split at hx
      · exact h.known lane x (hlist ▸ List.mem_cons_of_mem _ hx)
      · exact h.known k x hx }

/-- What is known of a received frame may be recorded. -/
theorem Sound.recordRx (h : H.Sound) (i : Nat) (frame : FrameMeta) :
    Sound { H with rxPool := H.rxPool.setFrame i frame } :=
  { h with
    rxHeld := h.rxHeld.setFrame i frame
    known := by simpa only [BufferPool.addrs_setFrame] using h.known }

/-- What is known of a frame to be sent may be recorded. -/
theorem Sound.recordTx (h : H.Sound) (i : Nat) (frame : FrameMeta) :
    Sound { H with txPool := H.txPool.setFrame i frame } :=
  { h with txHeld := h.txHeld.setFrame i frame }

end Holdings

end LaneCard
