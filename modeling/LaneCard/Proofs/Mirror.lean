import LaneCard.Proofs.FrameQueue
import LaneCard.Proofs.ReceiveOwnership
import LaneCard.Proofs.TransmitBuffers
import Mathlib.Data.List.Forall2

/-!
# Buffers that hold a queue of frames

The frames of a queue are in the receive buffers whose numbers are in the ring, in the same order,
and there are as many transmit buffers in use as the queue says. Taking a frame, ending the session,
sending a frame and filing what has come back each do to the buffers what they do to the queue. That
no frame of the queue changes on the way is a matter of ownership: what is written goes to a transmit
buffer or to a free receive buffer, and neither holds an unread frame.
-/

namespace LaneCard

/-- A looped frame is in a receive buffer: what is known of it is recorded there, and the card reads
its data at the address. -/
structure LoopFrame.Stored (config : Config) (memory : Allocator) (f : LoopFrame) (d : RxDescriptor) :
    Prop where
  known : d.toFrameMeta = f.known
  fits : f.words.length * wordSize ≤ config.rxSize
  data : memory.busRead d.addr.toNat (f.words.length * wordSize) = some (Bytes.ofWords f.words)

/-- Frames stay stored as long as the card reads the same in their buffers. -/
theorem LoopFrame.stored_of_same {config : Config} {memory memory' : Allocator} {fs : List LoopFrame}
    {ds : List RxDescriptor} (h : List.Forall₂ (Stored config memory) fs ds)
    (hsame : ∀ d ∈ ds, ∀ n ≤ config.rxSize, memory'.busRead d.addr.toNat n = memory.busRead d.addr.toNat n) :
    List.Forall₂ (Stored config memory') fs ds := by
  induction h with
  | nil => exact .nil
  | @cons f d fs ds hfirst _ ih =>
    have hdata := hsame d List.mem_cons_self _ hfirst.fits
    refine .cons ⟨hfirst.known, hfirst.fits, ?_⟩ (ih fun d hd => hsame d (List.mem_cons_of_mem _ hd))
    rw [hdata, hfirst.data]

/-- The queue after frames were filed: nobody reads them if the card is not open. -/
def FrameQueue.file (q : FrameQueue) (fs : List LoopFrame) : FrameQueue :=
  { q with
    queue := if q.isOpen then q.queue ++ fs else q.queue
    dropped := if q.isOpen then q.dropped else q.dropped + fs.length }

/-- Filing nothing changes nothing. -/
theorem FrameQueue.file_nil (q : FrameQueue) : q.file [] = q := by
  simp [file]

namespace Holdings

/-- The buffers are those of a configuration that was accepted, the card stores as much of a frame as
a receive buffer holds, and it holds nothing back. -/
structure Equipped (H : Holdings) (config : Config) : Prop where
  sound : H.Sound
  valid : config.Valid
  txCount : H.txPool.addrs.length = config.txCount
  rxCount : H.rxPool.addrs.length = config.rxCount
  txSize : H.txPool.bufferSize = config.txSize
  rxSize : H.rxPool.bufferSize = config.rxSize
  separate : ∀ addr ∈ H.txPool.addrs, addr ∉ H.rxPool.addrs
  limit : H.limit = Device.frameLimit config.rxSize
  heldTx : H.heldTx = []
  holding : H.holding = false

variable {H H' : Holdings} {config : Config} {q : FrameQueue} {fs : List LoopFrame}

/-- Work that leaves the pools in place leaves the buffers those of the configuration. -/
theorem Equipped.of_same (h : H.Equipped config) (hsound : H'.Sound)
    (haddrs : H'.txPool.addrs = H.txPool.addrs ∧ H'.rxPool.addrs = H.rxPool.addrs)
    (hsizes : H'.txPool.bufferSize = H.txPool.bufferSize ∧ H'.rxPool.bufferSize = H.rxPool.bufferSize)
    (hlimit : H'.limit = H.limit) (hheldTx : H'.heldTx = H.heldTx) (hholding : H'.holding = H.holding) :
    H'.Equipped config where
  sound := hsound
  valid := h.valid
  txCount := by rw [haddrs.1, h.txCount]
  rxCount := by rw [haddrs.2, h.rxCount]
  txSize := by rw [hsizes.1, h.txSize]
  rxSize := by rw [hsizes.2, h.rxSize]
  separate := by
    rw [haddrs.1, haddrs.2]
    exact h.separate
  limit := by rw [hlimit, h.limit]
  heldTx := by rw [hheldTx, h.heldTx]
  holding := by rw [hholding, h.holding]

/-- The buffers hold the frames of a queue, and frames that are not filed yet. -/
structure Mirrors (H : Holdings) (config : Config) (q : FrameQueue) (fs : List LoopFrame) : Prop where
  equipped : H.Equipped config
  owned : H.RxOwned []
  usable : ∃ lost, TxOwned H.txPool.addrs H.txFree (H.txReturns ++ H.heldTx) lost ∧
    q.usable + lost.length = config.txCount
  isOpen : H.isOpen = q.isOpen
  dropped : H.dropped = q.dropped
  idle : H.isOpen = false → H.unread = []
  queue : List.Forall₂ (LoopFrame.Stored config H.memory) q.queue H.unread
  arriving : List.Forall₂ (LoopFrame.Stored config H.memory) fs (H.rxReturns.filterMap H.matched?)

namespace Mirrors

/-- The addresses of the transmit buffers are aligned. -/
theorem tx_aligned (h : H.Mirrors config q fs) : ∀ a ∈ H.txPool.addrs, a.Aligned :=
  fun _ => h.equipped.sound.txHeld.aligned_of_mem_addrs

/-- As many transmit buffers are free as can be used, if none is on its way back. -/
theorem length_txFree (h : H.Mirrors config q fs) (hreturns : H.txReturns = []) :
    H.txFree.length = q.usable := by
  obtain ⟨lost, howned, hcount⟩ := h.usable
  rw [hreturns, h.equipped.heldTx, List.append_nil] at howned
  have htotal := howned.length_add_length
  have htx := h.equipped.txCount
  omega

/-- Each receive buffer is free or holds a frame of the queue, if no frame is on its way. -/
theorem length_free (h : H.Mirrors config q fs) (hreturns : H.rxReturns = []) :
    (allFree H.free).length + q.queue.length = config.rxCount := by
  have hsound := h.equipped.sound
  have hknown : ∀ addr ∈ allFree H.free, addr ∈ H.rxPool.addrs := fun _ => hsound.mem_addrs_of_mem_allFree
  rw [h.queue.length_eq, h.owned.length_add_length hsound.rxHeld.distinct hknown hreturns, h.equipped.rxCount]

/-! ## Opening and closing -/

/-- The card was opened. -/
theorem opened (h : H.Mirrors config q fs) :
    Mirrors { H with isOpen := true } config { q with isOpen := true } fs :=
  { h with
    equipped := h.equipped.of_same { h.equipped.sound with } ⟨rfl, rfl⟩ ⟨rfl, rfl⟩ rfl rfl rfl
    owned := { h.owned with }
    isOpen := rfl
    idle := nofun }

/-- The session was closed. -/
theorem closed (h : H.Mirrors config q []) {ring : Ring} (hempty : ring.toList = [])
    (hcapacity : ring.capacity = H.rxReady.capacity) (hcollisions : ring.collisions = H.rxReady.collisions) :
    (H.closed ring).Mirrors config
      { q with isOpen := false, queue := [], dropped := q.dropped + q.queue.length } [] := by
  have hunread : (H.closed ring).unread = [] := by
    change H.framesIn ring.toList = []
    rw [hempty]
    rfl
  exact
    { equipped :=
        h.equipped.of_same (h.equipped.sound.closed ring) ⟨rfl, rfl⟩ ⟨rfl, rfl⟩ rfl rfl rfl
      owned := h.owned.close hempty hcapacity hcollisions
      usable := h.usable
      isOpen := rfl
      dropped := by
        change H.dropped + H.rxReady.length = q.dropped + q.queue.length
        rw [h.dropped, h.queue.length_eq, h.owned.length_unread]
      idle := fun _ => hunread
      queue := by
        rw [hunread]
        exact .nil
      arriving := h.arriving }

/-! ## Taking a frame -/

/-- The frame in the buffer at the head of the ring is the first one of the queue. -/
theorem head (h : H.Mirrors config q fs) {i : Nat} {b : Buffer} (hi : H.rxReady.peek? = some i)
    (hb : H.rxPool.buffers[i]? = some b) :
    ∃ f rest, q.queue = f :: rest ∧ f.Stored config H.memory ⟨b.frame, b.addr⟩ ∧
      List.Forall₂ (LoopFrame.Stored config H.memory) rest (H.framesIn H.rxReady.drop.toList) := by
  have hqueue := h.queue
  rw [unread_eq_cons hi hb] at hqueue
  obtain ⟨f, rest, hstored, hrest, hlist⟩ := List.forall₂_cons_right_iff.mp hqueue
  exact ⟨f, rest, hlist, hstored, hrest⟩

/-- The oldest frame was taken. -/
theorem consumed (h : H.Mirrors config q fs) {i : Nat} {b : Buffer} (hi : H.rxReady.peek? = some i)
    (hb : H.rxPool.buffers[i]? = some b) {f : LoopFrame} {rest : List LoopFrame} (hlist : q.queue = f :: rest) :
    (H.consumed ⟨b.frame, b.addr⟩).Mirrors config { q with queue := rest } fs := by
  obtain ⟨f', rest', hlist', -, hrest⟩ := h.head hi hb
  obtain ⟨-, rfl⟩ := List.cons.inj (hlist.symm.trans hlist')
  have haddr : b.addr ∈ H.rxPool.addrs := List.mem_map_of_mem (BufferPool.mem_of_getElem? hb)
  exact
    { h with
      equipped := h.equipped.of_same (h.equipped.sound.consumed haddr) ⟨rfl, rfl⟩ ⟨rfl, rfl⟩ rfl rfl rfl
      owned := h.owned.consume hi hb
      idle := fun hclosed => by
        have hnone := h.idle hclosed
        rw [unread_eq_cons hi hb] at hnone
        contradiction
      queue := hrest }

/-! ## Filing -/

/-- The handler has filed everything that was on its way. -/
theorem drained (h : H.Mirrors config q fs) {words : List Word} {pairs : List (Word × Word)}
    (hdrained : H.Drained words pairs H') (hempty : H'.rxReturns = []) :
    H'.Mirrors config (q.file fs) [] := by
  have hsound := h.equipped.sound
  obtain ⟨hmemory, hlimit, hholding, htxSize, hrxSize⟩ := hdrained.kept
  obtain ⟨-, hheldTx, -⟩ := hdrained.tx_eq
  obtain ⟨howned, hfiled⟩ := h.owned.drained hsound.rxHeld.distinct hdrained
  obtain ⟨lost, htxOwned, hcount⟩ := h.usable
  have hpairs : H.rxReturns = pairs := by rw [hdrained.rxReturns, hempty, List.append_nil]
  have harriving := h.arriving
  rw [hpairs] at harriving
  exact
    { equipped :=
        h.equipped.of_same (hdrained.sound hsound) hdrained.addrs ⟨htxSize, hrxSize⟩ hlimit hheldTx hholding
      owned := howned
      usable := ⟨lost, htxOwned.drained hdrained h.tx_aligned hsound.txHeld.distinct, hcount⟩
      isOpen := by
        rw [hfiled.isOpen, h.isOpen]
        rfl
      dropped := by
        rw [hfiled.dropped, h.isOpen, h.dropped, ← harriving.length_eq]
        rfl
      idle := fun hclosed => by
        rw [hfiled.isOpen] at hclosed
        rw [hfiled.unread, hclosed, if_neg Bool.false_ne_true, h.idle hclosed]
      queue := by
        rw [hfiled.unread, h.isOpen, hmemory]
        unfold FrameQueue.file
        dsimp only
        split
        · exact List.rel_append h.queue harriving
        · exact h.queue
      arriving := by
        rw [hempty]
        exact .nil }

end Mirrors

/-! ## Sending -/

/-- The card keeps whole words of a frame, as many as a receive buffer holds. -/
theorem Equipped.kept_ofWords (h : H.Equipped config) (words : List Word) :
    H.kept (Bytes.ofWords words) =
      (4 * (words.take (config.rxSize / wordSize)).length,
        ⟨false, false, decide (config.rxSize / wordSize < words.length)⟩) := by
  obtain ⟨hpos, hwhole, -⟩ := h.valid.rxSize
  have hlimit : (MaxFrameWord.size.get H.limit).toNat = config.rxSize := by
    rw [h.limit, Device.get_frameLimit _ h.valid.rxLimit]
  have hsize : 4 * (config.rxSize / wordSize) = config.rxSize := by
    simp only [wordSize] at hwhole ⊢
    omega
  rw [kept, hlimit, Board.storedLength, Bytes.size_ofWords, List.length_take, hwhole, Nat.sub_zero]
  by_cases hlong : config.rxSize / wordSize < words.length
  · rw [if_pos (by omega), decide_eq_true hlong, Nat.min_eq_left (by omega), hsize]
  · rw [if_neg (by omega), decide_eq_false hlong, Nat.min_eq_right (by omega)]
    rfl

/-- What comes back of a frame is known as the queue says. -/
theorem Equipped.packed_arrival (h : H.Equipped config) (lane vc : Word) (words : List Word) (addr : Word)
    (hlane : lane.toNat < laneCount) :
    (H.arrival lane.toNat (vc &&& TxWord.vc.maxValue) (Bytes.ofWords words) addr).packed.toFrameMeta =
      (FrameQueue.echo config lane vc words).known := by
  obtain ⟨-, -, hcount⟩ := h.valid.rxSize
  set length := (words.take (config.rxSize / wordSize)).length with hlength
  have hshort : length ≤ config.rxSize / wordSize := by
    rw [hlength, List.length_take]
    omega
  have hlaneMax : RxWordA.lane.maxValue.toNat = 7 := by decide
  have hlengthMax : RxWordA.length.maxValue = TxWord.length.maxValue := by decide
  have hword : (BitVec.ofNat 32 length).toNat ≤ RxWordA.length.maxValue.toNat := by
    rw [BitVec.toNat_ofNat, hlengthMax]
    exact Nat.le_trans (Nat.mod_le _ _) (Nat.le_trans hshort hcount)
  have hwords : 4 * length / wordSize = length := by
    simp only [wordSize]
    omega
  have hlaneKept : BitVec.ofNat 32 lane.toNat &&& RxWordA.lane.maxValue = lane := by
    rw [BitVec.ofNat_toNat, BitVec.setWidth_eq, RxWordA.lane.and_maxValue_of_le (by decide)]
    simp only [laneCount] at hlane
    omega
  have hchannel : vc &&& TxWord.vc.maxValue &&& RxWordA.vc.maxValue = vc % 4#32 := by
    have hmask : TxWord.vc.maxValue &&& RxWordA.vc.maxValue = 3#32 := by decide
    apply BitVec.eq_of_toNat_eq
    rw [BitVec.and_assoc, hmask, BitVec.toNat_and, BitVec.toNat_umod]
    exact Nat.and_two_pow_sub_one_eq_mod vc.toNat 2
  have hlengthKept : BitVec.ofNat 32 length &&& RxWordA.length.maxValue = BitVec.ofNat 32 length :=
    RxWordA.length.and_maxValue_of_le (by decide) _ hword
  rw [arrival, h.kept_ofWords, RxDescriptor.packed]
  dsimp only
  rw [← hlength, hwords, hlaneKept, hchannel, hlengthKept]
  rfl

/-- What comes back of a frame is in the buffer that the card has written. -/
theorem Equipped.stored_echo (h : H.Equipped config) (lane vc : Word) (words : List Word) {b : Buffer}
    (hlane : lane.toNat < laneCount) (hb : b ∈ H.rxPool.buffers.toList) {memory : Allocator}
    (hwrite : Allocator.Rewritten H.memory memory b.region
      (·.write 0 ((Bytes.ofWords words).extract 0 (H.kept (Bytes.ofWords words)).1))) :
    (FrameQueue.echo config lane vc words).Stored config memory
      (H.arrival lane.toNat (vc &&& TxWord.vc.maxValue) (Bytes.ofWords words) b.addr).packed := by
  have hsound := h.sound
  set kept := words.take (config.rxSize / wordSize) with hkept
  have hlength : kept.length ≤ words.length ∧ kept.length ≤ config.rxSize / wordSize := by
    rw [hkept, List.length_take]
    omega
  have hfits : kept.length * wordSize ≤ config.rxSize := by
    have hwhole := Nat.div_mul_le_self config.rxSize wordSize
    have hle := Nat.mul_le_mul_right wordSize hlength.2
    omega
  have hsize : 4 * kept.length = kept.length * wordSize := Nat.mul_comm _ _
  have haddr : (H.arrival lane.toNat (vc &&& TxWord.vc.maxValue) (Bytes.ofWords words) b.addr).packed.addr =
      b.addr := hsound.rxHeld.aligned b hb
  have hfront : (Bytes.ofWords words).extract 0 (kept.length * wordSize) = Bytes.ofWords kept := by
    rw [← hsize, Bytes.extract_ofWords words _ hlength.1, hkept, List.length_take, ← List.take_eq_take_min]
  refine ⟨h.packed_arrival lane vc words b.addr hlane, hfits, ?_⟩
  have hheld : H.rxPool.Held memory := hsound.rxHeld.mono (hwrite.regions ▸ List.Subset.refl _)
  rw [haddr, hheld.busRead_eq (hwrite.wellFormed hsound.memory) hb _ (by rw [h.rxSize]; exact hfits), hwrite.inside,
    h.kept_ofWords, ← hkept, hsize, hfront]
  change some (((H.memory.contents b.region).write 0 (Bytes.ofWords kept)).read 0 (kept.length * wordSize)) =
    some (Bytes.ofWords kept)
  rw [Memory.read_write_zero _ _ _ (by rw [Bytes.size_ofWords]; omega), ← hsize,
    Bytes.extract_ofWords kept _ (Nat.le_refl _), List.take_length]

namespace Mirrors

/-- Writing to a buffer in which no frame is to be read leaves the frames of the queue as they are. -/
theorem queue_of_rewritten (h : H.Mirrors config q fs) {p : BufferPool} (hp : p.Held H.memory) {c : Buffer}
    (hc : c ∈ p.buffers.toList) (hother : ∀ d ∈ H.unread, d.addr ≠ c.addr) {memory : Allocator}
    {change : Memory → Memory} (hwrite : Allocator.Rewritten H.memory memory c.region change) :
    List.Forall₂ (LoopFrame.Stored config memory) q.queue H.unread := by
  have hsound := h.equipped.sound
  refine LoopFrame.stored_of_same h.queue fun d hd n hn => ?_
  obtain ⟨b, hb, haddr⟩ := List.mem_map.mp (addr_mem_of_mem_framesIn hd)
  have hdiffer : b.addr ≠ c.addr := haddr ▸ hother d hd
  rw [← haddr]
  exact hsound.rxHeld.busRead_of_rewritten hp hsound.memory hb hc hdiffer hwrite n
    (by rw [h.equipped.rxSize]; exact hn)

/-- A frame that comes back arrives at the queue as well. -/
theorem delivered (h : H.Mirrors config q []) (hreturns : H.rxReturns = []) {lane vc : Word} {words : List Word}
    (hlane : lane.toNat < laneCount)
    (hdelivery : H.Delivery lane.toNat (vc &&& TxWord.vc.maxValue) (Bytes.ofWords words) H') :
    ∃ fs, H'.Mirrors config q fs ∧ q.file fs = q.arrive config (FrameQueue.echo config lane vc words) := by
  have hsound := h.equipped.sound
  have hcount := h.length_free hreturns
  have hafter := hdelivery.sound hsound
  cases hdelivery with
  | dropped hnone =>
    refine ⟨[], h, ?_⟩
    have hfree : allFree H.free = [] := by simp [allFree, hnone]
    rw [hfree, List.length_nil, Nat.zero_add] at hcount
    -- Without a free buffer the queue is full, so that the card is open.
    have hopen : q.isOpen = true := by
      by_contra hclosed
      have hlength := h.queue.length_eq
      have hpos := h.equipped.valid.rxCount
      rw [h.idle (by rw [h.isOpen]; simpa using hclosed), List.length_nil] at hlength
      omega
    rw [FrameQueue.file_nil, FrameQueue.arrive, if_pos hopen, if_neg (by omega)]
  | stored k rest b memory hk hb hfree hwrite =>
    set f := FrameQueue.echo config lane vc words with hf
    set desc := H.arrival lane.toNat (vc &&& TxWord.vc.maxValue) (Bytes.ofWords words) b.addr with hdesc
    have hmember : b.addr ∈ allFree H.free := mem_allFree.mpr ⟨k, hk, hfree ▸ List.mem_cons_self⟩
    have hroom := List.length_pos_of_mem hmember
    have htarget : desc.target = b.addr := desc.target_of_aligned (hsound.rxHeld.aligned b hb)
    have hmatched : H.matched? desc.encode = some desc.packed := by
      obtain ⟨i, hi⟩ := H.rxPool.exists_find? b.addr (List.mem_map_of_mem hb)
      have haddr : desc.packed.addr = b.addr := htarget
      rw [matched?, desc.decode?_encode, Option.filter_some, haddr, hi, if_pos (by rfl)]
    have hstored := h.equipped.stored_echo lane vc words hlane hb hwrite
    refine ⟨[f], ?_, ?_⟩
    · exact
        { h with
          equipped := h.equipped.of_same hafter ⟨rfl, rfl⟩ ⟨rfl, rfl⟩ rfl rfl rfl
          owned := { h.owned.store hk (htarget ▸ hfree) with }
          queue :=
            h.queue_of_rewritten hsound.rxHeld hb
              (fun d hd hsame => h.owned.not_free_of_unread hd (hsame ▸ hmember)) hwrite
          arriving := by
            change List.Forall₂ _ [f] ((H.rxReturns ++ [desc.encode]).filterMap H.matched?)
            rw [hreturns, List.nil_append, List.filterMap_cons_some hmatched]
            exact .cons hstored .nil }
    · unfold FrameQueue.file FrameQueue.arrive
      cases q.isOpen with
      | true => rw [if_pos rfl, if_pos rfl, if_pos rfl, if_pos (by omega)]
      | false => rw [if_neg Bool.false_ne_true, if_neg Bool.false_ne_true, if_neg Bool.false_ne_true]; rfl

/-- A transmit buffer was taken off the ring and loaded, and is then elsewhere or lost. -/
theorem loaded (h : H.Mirrors config q []) {i : Nat} {b : Buffer} (hb : H.txPool.buffers[i]? = some b)
    {memory : Allocator} {change : Memory → Memory} (hwrite : Allocator.Rewritten H.memory memory b.region change)
    (frame : FrameMeta) {returns submissions : List Word} {n : Nat}
    (husable : ∃ lost, TxOwned H.txPool.addrs H.txFree.drop (returns ++ H.heldTx) lost ∧
      n + lost.length = config.txCount) :
    Mirrors { H.loaded i frame memory with txReturns := returns, submissions := submissions } config
      { q with usable := n } [] := by
  have hsound := h.equipped.sound
  have hmember : b ∈ H.txPool.buffers.toList := BufferPool.mem_of_getElem? hb
  have hother : ∀ d ∈ H.unread, d.addr ≠ b.addr := by
    intro d hd hsame
    exact h.equipped.separate b.addr (List.mem_map_of_mem hmember) (hsame ▸ addr_mem_of_mem_framesIn hd)
  have haddrs : (H.txPool.setFrame i frame).addrs = H.txPool.addrs := BufferPool.addrs_setFrame _ _ _
  exact
    { equipped :=
        h.equipped.of_same { hsound.loaded hwrite i frame with } ⟨haddrs, rfl⟩ ⟨rfl, rfl⟩ rfl rfl rfl
      owned := { h.owned with }
      usable := by
        change ∃ lost, TxOwned (H.txPool.setFrame i frame).addrs H.txFree.drop (returns ++ H.heldTx) lost ∧ _
        rw [haddrs]
        exact husable
      isOpen := h.isOpen
      dropped := h.dropped
      idle := h.idle
      queue := h.queue_of_rewritten hsound.txHeld hmember hother hwrite
      arriving := by
        have hnone := List.forall₂_nil_left_iff.mp h.arriving
        change List.Forall₂ _ [] (H.rxReturns.filterMap H.matched?)
        rw [hnone]
        exact .nil }

/-- A frame for a lane that does not exist costs a transmit buffer. -/
theorem discarded (h : H.Mirrors config q []) (hreturns : H.txReturns = []) {looped : Bool} {lane vc size : Word}
    {data : Bytes} (hlane : laneCount ≤ lane.toNat) (hsent : H.Sent looped lane vc size data H') :
    H'.Mirrors config { q with usable := q.usable - 1 } [] ∧ H'.txReturns = H.txReturns ∧
      H'.rxReturns = H.rxReturns := by
  cases hsent with
  | discarded i b memory _ hi hb hwrite =>
    obtain ⟨lost, howned, hcount⟩ := h.usable
    have hpos : 0 < q.usable := by
      rw [← h.length_txFree hreturns, ← Ring.length_toList]
      rw [Ring.peek?_eq_head?] at hi
      exact List.length_pos_of_mem (List.mem_of_head? hi)
    refine ⟨h.loaded hb hwrite _ ⟨lost ++ [i], howned.abandon hi, ?_⟩, rfl, rfl⟩
    rw [List.length_append, List.length_singleton]
    omega
  | gone i b memory hexists => omega
  | back i b memory _ hexists => omega

/-- A frame for a lane that exists arrives at the queue if the lane is looped back, and its buffer is
on its way back. -/
theorem handedOver (h : H.Mirrors config q []) (hreturns : H.rxReturns = []) {looped : Bool}
    {lane vc size : Word} {words : List Word} (hlane : lane.toNat < laneCount)
    (hsize : size.toNat = words.length) (hsent : H.Sent looped lane vc size (Bytes.ofWords words) H') :
    (∃ fs, H'.Mirrors config q fs ∧
      q.file fs = if looped then q.arrive config (FrameQueue.echo config lane vc words) else q) ∧
      ∃ addr, H'.txReturns = H.txReturns ++ [TxReturn.encode addr] := by
  have hsound := h.equipped.sound
  have hgiven (i : Nat) (addr : Word) (memory : Allocator) :
      (H.loaded i ⟨lane, vc, size, FrameFlags.none⟩ memory).handedOver addr =
        { H.loaded i ⟨lane, vc, size, FrameFlags.none⟩ memory with
          submissions := H.submissions ++ [addr]
          txReturns := H.txReturns ++ [TxReturn.encode addr] } := by
    have hholding : ¬ (H.loaded i ⟨lane, vc, size, FrameFlags.none⟩ memory).holding = true := by
      rw [Bool.not_eq_true]
      exact h.equipped.holding
    rw [Holdings.handedOver, if_neg hholding, if_neg hholding]
    rfl
  have hover (i : Nat) (b : Buffer) (memory : Allocator) (hi : H.txFree.peek? = some i)
      (hb : H.txPool.buffers[i]? = some b)
      (hwrite : Allocator.Rewritten H.memory memory b.region (·.write 0 (Bytes.ofWords words))) :
      ((H.loaded i ⟨lane, vc, size, FrameFlags.none⟩ memory).handedOver b.addr).Mirrors config q [] := by
    obtain ⟨lost, howned, hcount⟩ := h.usable
    have haddr : H.txPool.addrs[i]? = some b.addr := by rw [BufferPool.getElem?_addrs, hb, Option.map_some]
    have hsubmitted := howned.submit h.tx_aligned hsound.txHeld.distinct hi haddr
    rw [h.equipped.heldTx, List.append_nil] at hsubmitted
    rw [hgiven]
    refine h.loaded hb hwrite _ ⟨lost, ?_, hcount⟩
    rwa [h.equipped.heldTx, List.append_nil]
  cases hsent with
  | discarded i b memory hmissing => omega
  | gone i b memory _ hi hb hwrite hloop =>
    refine ⟨⟨[], hover i b memory hi hb hwrite, ?_⟩, ?_⟩
    · rw [FrameQueue.file_nil, hloop, if_neg Bool.false_ne_true]
    · rw [hgiven]
      exact ⟨b.addr, rfl⟩
  | back i b memory _ _ hi hb hwrite hloop hdelivery =>
    have hpayload : (memory.contents b.region).read 0 (size.toNat * wordSize) = Bytes.ofWords words := by
      have hbytes : size.toNat * wordSize = 4 * words.length := by rw [hsize]; exact Nat.mul_comm _ _
      rw [hbytes, hwrite.inside]
      change ((H.memory.contents b.region).write 0 (Bytes.ofWords words)).read 0 (4 * words.length) = _
      rw [Memory.read_write_zero _ _ _ (Nat.le_of_eq (Bytes.size_ofWords words).symm),
        Bytes.extract_ofWords words _ (Nat.le_refl _), List.take_length]
    rw [hpayload] at hdelivery
    refine ⟨?_, ?_⟩
    · rw [hloop, if_pos rfl]
      exact (hover i b memory hi hb hwrite).delivered hreturns hlane hdelivery
    · obtain ⟨-, -, hsame, -, -⟩ := hdelivery.tx_eq
      rw [hsame, hgiven]
      exact ⟨b.addr, rfl⟩

end Mirrors

end Holdings

end LaneCard
