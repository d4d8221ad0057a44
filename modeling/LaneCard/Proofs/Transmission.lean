import LaneCard.Proofs.Calls

/-!
# What sending does to the buffers

A frame is copied into the free transmit buffer at the head of the ring. On a lane that exists the
buffer is handed to the card, which reads the frame and gives the buffer back, or holds it back; on
a lane that does not exist the buffer is not seen again. If the lane is looped back, the card also
stores the frame in a free receive buffer, as far as it may, or drops it when there is none.
-/

namespace LaneCard

namespace Holdings

/-- What the card keeps of a frame: the number of bytes, and the flags. -/
def kept (H : Holdings) (payload : Bytes) : Nat × FrameFlags :=
  Board.storedLength (MaxFrameWord.size.get H.limit).toNat payload.size

/-- The descriptor of a frame that was looped back into the buffer at an address. -/
def arrival (H : Holdings) (lane : Nat) (vc : Word) (payload : Bytes) (addr : Word) : RxDescriptor :=
  ⟨⟨BitVec.ofNat 32 lane, vc, BitVec.ofNat 32 ((H.kept payload).1 / wordSize), (H.kept payload).2⟩, addr⟩

/-- What becomes of a frame that is looped back on a lane. -/
inductive Delivery (H : Holdings) (lane : Nat) (vc : Word) (payload : Bytes) : Holdings → Prop
  | dropped (hnone : ∀ k, H.free k = []) : Delivery H lane vc payload H
  | stored (k : Nat) (rest : List Word) (b : Buffer) (memory : Allocator) (hk : k < laneCount)
      (hb : b ∈ H.rxPool.buffers.toList) (hfree : H.free k = b.addr :: rest)
      (hwrite : Allocator.Rewritten H.memory memory b.region
        (·.write 0 (payload.extract 0 (H.kept payload).1))) :
      Delivery H lane vc payload
        { H with
          free := Function.update H.free k rest
          rxReturns := H.rxReturns ++ [(H.arrival lane vc payload b.addr).encode]
          memory := memory }

/-- The card never keeps more than a receive buffer holds. -/
theorem Sound.kept_le {H : Holdings} (h : H.Sound) (payload : Bytes) :
    (H.kept payload).1 ≤ H.rxPool.bufferSize := by
  have hlimit := h.limited
  unfold kept Board.storedLength
  split <;> dsimp only <;> omega

/-- Delivery keeps the memory fit. -/
theorem Delivery.sound {H H' : Holdings} {lane : Nat} {vc : Word} {payload : Bytes}
    (h : Delivery H lane vc payload H') (hsound : H.Sound) : H'.Sound := by
  cases h with
  | dropped => exact hsound
  | stored k rest b memory hk hb hfree hwrite =>
    have htaken := (hsound.rewritten hwrite).takeFree hfree
    exact { htaken with }

/-- The frame is in the transmit buffer `i`, which is no longer free. -/
def loaded (H : Holdings) (i : Nat) (frame : FrameMeta) (memory : Allocator) : Holdings :=
  { H with
    txPool := H.txPool.setFrame i frame
    txFree := H.txFree.drop
    memory := memory }

/-- The card has taken a transmit buffer and gives it back, now or later. -/
def handedOver (H : Holdings) (addr : Word) : Holdings :=
  { H with
    submissions := H.submissions ++ [addr]
    txReturns := if H.holding then H.txReturns else H.txReturns ++ [TxReturn.encode addr]
    heldTx := if H.holding then H.heldTx ++ [TxReturn.encode addr] else H.heldTx }

/-- What becomes of a frame that is sent on a lane that is looped back or not. -/
inductive Sent (H : Holdings) (looped : Bool) (lane vc size : Word) (data : Bytes) : Holdings → Prop
  | discarded (i : Nat) (b : Buffer) (memory : Allocator) (hlane : laneCount ≤ lane.toNat)
      (hi : H.txFree.peek? = some i) (hb : H.txPool.buffers[i]? = some b)
      (hwrite : Allocator.Rewritten H.memory memory b.region (·.write 0 data)) :
      Sent H looped lane vc size data (H.loaded i ⟨lane, vc, size, FrameFlags.none⟩ memory)
  | gone (i : Nat) (b : Buffer) (memory : Allocator) (hlane : lane.toNat < laneCount)
      (hi : H.txFree.peek? = some i) (hb : H.txPool.buffers[i]? = some b)
      (hwrite : Allocator.Rewritten H.memory memory b.region (·.write 0 data)) (hloop : looped = false) :
      Sent H looped lane vc size data
        ((H.loaded i ⟨lane, vc, size, FrameFlags.none⟩ memory).handedOver b.addr)
  | back (i : Nat) (b : Buffer) (memory : Allocator) (H' : Holdings) (hlane : lane.toNat < laneCount)
      (hi : H.txFree.peek? = some i) (hb : H.txPool.buffers[i]? = some b)
      (hwrite : Allocator.Rewritten H.memory memory b.region (·.write 0 data)) (hloop : looped = true)
      (hdelivery : Delivery ((H.loaded i ⟨lane, vc, size, FrameFlags.none⟩ memory).handedOver b.addr)
        lane.toNat (vc &&& TxWord.vc.maxValue) ((memory.contents b.region).read 0 (size.toNat * wordSize)) H') :
      Sent H looped lane vc size data H'

/-- Loading a buffer keeps the memory fit. -/
theorem Sound.loaded {H : Holdings} (h : H.Sound) {memory : Allocator} {r : Region}
    {change : Memory → Memory} (hwrite : Allocator.Rewritten H.memory memory r change) (i : Nat)
    (frame : FrameMeta) : (H.loaded i frame memory).Sound :=
  { (h.rewritten hwrite).recordTx i frame with }

/-- Handing a buffer over keeps the memory fit. -/
theorem Sound.handedOver {H : Holdings} (h : H.Sound) (addr : Word) : (H.handedOver addr).Sound :=
  { h with }

/-- Sending keeps the memory fit. -/
theorem Sent.sound {H H' : Holdings} {looped : Bool} {lane vc size : Word} {data : Bytes}
    (h : Sent H looped lane vc size data H') (hsound : H.Sound) : H'.Sound := by
  cases h with
  | discarded i b memory hlane hi hb hwrite => exact hsound.loaded hwrite i _
  | gone i b memory hlane hi hb hwrite hloop => exact (hsound.loaded hwrite i _).handedOver _
  | back i b memory _ hlane hi hb hwrite hloop hdelivery =>
    exact hdelivery.sound ((hsound.loaded hwrite i _).handedOver _)

/-- Sending moves no buffer of either pool. -/
theorem Sent.addrs {H H' : Holdings} {looped : Bool} {lane vc size : Word} {data : Bytes}
    (h : Sent H looped lane vc size data H') :
    H'.txPool.addrs = H.txPool.addrs ∧ H'.rxPool.addrs = H.rxPool.addrs := by
  cases h with
  | discarded => exact ⟨BufferPool.addrs_setFrame _ _ _, rfl⟩
  | gone => exact ⟨BufferPool.addrs_setFrame _ _ _, rfl⟩
  | back i b memory _ hlane hi hb hwrite hloop hdelivery =>
    cases hdelivery <;> exact ⟨BufferPool.addrs_setFrame _ _ _, rfl⟩

end Holdings

namespace Host

/-- The card delivers a frame that was looped back. -/
theorem delivery (h : Host Board) (d : Device) (hsound : (h.holdings d).Sound) (lane : Nat) (vc : Word)
    (payload : Bytes) :
    (h.holdings d).Delivery lane vc payload ((Board.deliver h lane vc payload).holdings d) := by
  cases htake : h.bus.takeFree? lane with
  | none =>
    have hdropped : (Board.deliver h lane vc payload).holdings d = h.holdings d := by
      rw [Board.deliver, htake]
      rfl
    rw [hdropped]
    exact .dropped fun k => Board.takeFree?_eq_none htake k
  | some taken =>
    obtain ⟨addr, board⟩ := taken
    obtain ⟨k, rest, hlist, rfl⟩ := Board.takeFree?_eq_some htake
    have hk : k < laneCount := Board.lt_of_freeList_eq_cons hlist
    have hlisted : addr ∈ (h.holdings d).free k := by
      change addr ∈ h.bus.freeList k
      rw [hlist]
      exact List.mem_cons_self
    obtain ⟨b, hb, rfl⟩ := List.mem_map.mp (hsound.known k addr hlisted)
    have hroom : ((h.holdings d).kept payload).1 ≤ b.region.size :=
      Nat.le_trans (hsound.kept_le payload) (hsound.rxHeld.roomy b hb)
    obtain ⟨memory, hwritten, hrewritten⟩ := h.memory.busWrite_eq hsound.memory b.region
      (hsound.rxHeld.live b hb) (payload.extract 0 ((h.holdings d).kept payload).1)
      (by rw [ByteArray.size_extract]; omega)
    rw [← hsound.rxHeld.reached b hb] at hwritten
    have hstored : (Board.deliver h lane vc payload).holdings d =
        { h.holdings d with
          free := Function.update (h.holdings d).free k rest
          rxReturns := (h.holdings d).rxReturns ++ [((h.holdings d).arrival lane vc payload b.addr).encode]
          memory := memory } := by
      have hfree : (h.bus.setFree k rest).freeList = Function.update h.bus.freeList k rest :=
        Board.freeList_setFree h.bus k rest hk
      have hdeliver : Board.deliver h lane vc payload =
          { h with
            memory := memory
            bus :=
              { h.bus.setFree k rest with
                rxReturns := h.bus.rxReturns ++
                  [((h.holdings d).arrival lane vc payload b.addr).encode] } } := by
        simp only [Board.deliver, htake]
        split
        · rename_i hnone
          exact absurd (hwritten.symm.trans hnone) (Option.some_ne_none _)
        · rename_i memory' hsome
          obtain rfl := Option.some.inj (hwritten.symm.trans hsome)
          rfl
      rw [hdeliver]
      simp only [holdings, ← hfree]
      rfl
    rw [hstored]
    exact .stored k rest b memory hk hb hlist hrewritten

/-- A submission that is noted, and whose buffer is given back, hands the buffer over. -/
theorem holdings_returnTx (h : Host Board) (d : Device) (lane : Nat) (addr : Word) (hlane : lane < laneCount) :
    Host.holdings { h with bus := (h.bus.logged (Offset.txWrB + 4 * lane) addr).returnTx addr } d =
      (h.holdings d).handedOver addr := by
  have hlog := h.bus.submissions_logged_of_some addr
    (Board.indexIn_lane Offset.txWrB lane (by decide) hlane)
  have hover : (h.holdings d).handedOver addr =
      { h.holdings d with
        submissions := (h.bus.logged (Offset.txWrB + 4 * lane) addr).submissions
        txReturns := if h.bus.holdTx then h.bus.txReturns else h.bus.txReturns ++ [TxReturn.encode addr]
        heldTx := if h.bus.holdTx then h.bus.heldTx ++ [TxReturn.encode addr] else h.bus.heldTx } := by
    rw [hlog]
    rfl
  have hsame : (h.bus.logged (Offset.txWrB + 4 * lane) addr).holdTx = h.bus.holdTx := rfl
  rw [hover, Board.returnTx, hsame]
  by_cases hhold : h.bus.holdTx = true
  · rw [if_pos hhold, if_pos hhold, if_pos hhold]
    rfl
  · rw [if_neg hhold, if_neg hhold, if_neg hhold]
    rfl

/-- A frame that the card can read is given back, or held back, and then delivered if its lane is
looped back. -/
theorem write_txWrB (h : Host Board) (lane : Nat) (addr : Word) (payload : Bytes) (hlane : lane < laneCount)
    (hread : h.memory.busRead addr.toNat
      ((TxDescriptor.decode (h.bus.regs.get (Offset.txWrA + 4 * lane))).length.toNat * wordSize) = some payload) :
    h.write (Offset.txWrB + 4 * lane) addr = Board.interrupt
      (if h.bus.isLooped lane then
        Board.deliver { h with bus := (h.bus.logged (Offset.txWrB + 4 * lane) addr).returnTx addr } lane
          (TxDescriptor.decode (h.bus.regs.get (Offset.txWrA + 4 * lane))).vc payload
      else { h with bus := (h.bus.logged (Offset.txWrB + 4 * lane) addr).returnTx addr }) := by
  have hregs : ((h.bus.logged (Offset.txWrB + 4 * lane) addr).returnTx addr).regs = h.bus.regs := by
    unfold Board.returnTx
    split <;> rfl
  have hloop : ((h.bus.logged (Offset.txWrB + 4 * lane) addr).returnTx addr).isLooped lane =
      h.bus.isLooped lane := by rw [Board.isLooped, hregs, Board.isLooped]
  have hlogged : (h.bus.logged (Offset.txWrB + 4 * lane) addr).regs = h.bus.regs := rfl
  have hstore : h.write (Offset.txWrB + 4 * lane) addr =
      Board.transmit { h with bus := h.bus.logged (Offset.txWrB + 4 * lane) addr } lane addr :=
    Board.store_txWrB h lane addr hlane
  rw [hstore]
  simp only [Board.transmit, hlogged, hread, hloop]

/-- Writing the address of a buffer whose frame is described hands the buffer over, and delivers the
frame if the lane is looped back. -/
theorem holdings_write_txWrB (h : Host Board) (d : Device) (hsound : (h.holdings d).Sound) (b : Buffer)
    (hb : b ∈ d.txPool.buffers.toList) (lane : Nat) (hlane : lane < laneCount) (desc : TxDescriptor)
    (hword : TxDescriptor.decode (h.bus.regs.get (Offset.txWrA + 4 * lane)) = desc)
    (hlength : desc.length.toNat * wordSize ≤ d.txPool.bufferSize) :
    (h.bus.isLooped lane = false →
      (h.write (Offset.txWrB + 4 * lane) b.addr).holdings d = (h.holdings d).handedOver b.addr) ∧
    (h.bus.isLooped lane = true →
      ((h.holdings d).handedOver b.addr).Delivery lane desc.vc
        ((h.memory.contents b.region).read 0 (desc.length.toNat * wordSize))
        ((h.write (Offset.txWrB + 4 * lane) b.addr).holdings d)) := by
  have hread := hsound.txHeld.busRead_eq hsound.memory hb _ hlength
  have hover := h.holdings_returnTx d lane b.addr hlane
  subst hword
  rw [h.write_txWrB lane b.addr _ hlane hread, holdings_interrupt, ← hover]
  constructor
  · intro hloop
    rw [hloop, if_neg Bool.false_ne_true]
  · intro hloop
    rw [hloop, if_pos rfl]
    exact Host.delivery _ d (hover ▸ hsound.handedOver _) _ _ _

/-- Describing a frame to be sent only notes its description. -/
theorem write_txWrA (h : Host Board) (lane : Nat) (value : Word) (hlane : lane < laneCount) :
    (h.write (Offset.txWrA + 4 * lane) value).bus.regs.get (Offset.txWrA + 4 * lane) = value ∧
      (h.write (Offset.txWrA + 4 * lane) value).bus.isLooped lane = h.bus.isLooped lane ∧
        (h.write (Offset.txWrA + 4 * lane) value).memory = h.memory := by
  obtain ⟨handling, line, hdescribed⟩ := Board.store_of_isPlain h value (Board.isPlain_txWrA lane hlane)
  have hregs : (h.write (Offset.txWrA + 4 * lane) value).bus.regs =
      h.bus.regs.set (Offset.txWrA + 4 * lane) value :=
    congrArg (fun k : Host Board => k.bus.regs) hdescribed
  have hother : Offset.pgpCardStat ≠ Offset.txWrA + 4 * lane := by
    simp only [Offset.pgpCardStat, Offset.txWrA]
    omega
  refine ⟨?_, ?_, (congrArg Host.memory hdescribed :)⟩
  · rw [hregs, RegisterFile.get_set, if_pos rfl]
  · rw [Board.isLooped, Board.isLooped, hregs, RegisterFile.get_set, if_neg hother]

/-- The card reads the length of a frame that fits its buffer. -/
theorem length_described (h : Host Board) (d : Device) (hsound : (h.holdings d).Sound) (lane vc size : Word)
    (hsize : size.toNat * wordSize ≤ d.txPool.bufferSize) :
    (TxDescriptor.decode (TxDescriptor.mk lane vc size).encode).length = size := by
  apply TxDescriptor.length_decode_encode
  have hfits : d.txPool.bufferSize / wordSize ≤ TxWord.length.maxValue.toNat := hsound.describable
  simp only [wordSize] at hsize hfits ⊢
  omega

/-- Sending from a buffer of the pool hands it over, and delivers the frame if the lane is looped
back. -/
theorem holdings_send (h : Host Board) (d : Device) (hsound : (h.holdings d).Sound) (b : Buffer)
    (hb : b ∈ d.txPool.buffers.toList) (lane vc size : Word) (hlane : lane.toNat < laneCount)
    (hsize : size.toNat * wordSize ≤ d.txPool.bufferSize) :
    let sent := (h.write (Offset.txWrA + 4 * lane.toNat) (TxDescriptor.mk lane vc size).encode).write
      (Offset.txWrB + 4 * lane.toNat) b.addr
    (h.bus.isLooped lane.toNat = false → sent.holdings d = (h.holdings d).handedOver b.addr) ∧
      (h.bus.isLooped lane.toNat = true →
        ((h.holdings d).handedOver b.addr).Delivery lane.toNat (vc &&& TxWord.vc.maxValue)
          ((h.memory.contents b.region).read 0 (size.toNat * wordSize)) (sent.holdings d)) := by
  intro sent
  have hsame := h.holdings_write_of_isPlain d (TxDescriptor.mk lane vc size).encode
    (Board.isPlain_txWrA lane.toNat hlane)
  obtain ⟨hword, hlooped, hmemory⟩ :=
    h.write_txWrA lane.toNat (TxDescriptor.mk lane vc size).encode hlane
  have hlength := h.length_described d hsound lane vc size hsize
  have hvc := (TxDescriptor.mk lane vc size).vc_decode_encode
  obtain ⟨hgone, hback⟩ := Host.holdings_write_txWrB _ d (hsame ▸ hsound) b hb lane.toNat hlane _
    (congrArg TxDescriptor.decode hword) (by rw [hlength]; exact hsize)
  rw [hlooped, hsame] at hgone hback
  rw [hmemory, hlength, hvc] at hback
  exact ⟨hgone, hback⟩

end Host

/-- Filling a live buffer changes its memory only. -/
theorem Buffer.rewritten_of_fill {b : Buffer} {a memory : Allocator} {data : Bytes}
    (hlive : b.region ∈ a.regions) (hroomy : b.size ≤ b.region.size) (hfill : b.fill a data = .ok memory) :
    Allocator.Rewritten a memory b.region (·.write 0 data) := by
  unfold Buffer.fill Buffer.checkLength at hfill
  split at hfill
  · contradiction
  · obtain ⟨written, hwrite, hrewritten⟩ := a.write_eq b.region hlive data (by omega)
    change (a.write b.region 0 data).mapError CardError.ofPlatform = .ok memory at hfill
    rw [hwrite] at hfill
    exact Except.ok.inj hfill ▸ hrewritten

/-- A frame that fits can be copied into a live buffer. -/
theorem Buffer.fill_ok {b : Buffer} {a : Allocator} {data : Bytes} (hlive : b.region ∈ a.regions)
    (hroomy : b.size ≤ b.region.size) (hdata : data.size ≤ b.size) : ∃ memory, b.fill a data = .ok memory := by
  obtain ⟨memory, hwrite, -⟩ := a.write_eq b.region hlive data (by omega)
  refine ⟨memory, ?_⟩
  unfold Buffer.fill Buffer.checkLength
  rw [if_neg (by omega)]
  change (a.write b.region 0 data).mapError CardError.ofPlatform = .ok memory
  rw [hwrite]
  rfl

namespace Card

/-- Filling a transmit buffer of a card in use changes its memory only. -/
theorem rewritten_of_fill (c : Card Board) (hsound : c.holdings.Sound) {i : Nat} {b : Buffer} {memory : Allocator}
    {data : Bytes} (hb : c.device.txPool.buffers[i]? = some b) (hfill : b.fill c.host.buffers data = .ok memory) :
    c.host.setBuffers memory = { c.host with memory := memory } ∧
      Allocator.Rewritten c.host.memory memory b.region (·.write 0 data) := by
  have hshared : c.host.apart = none := hsound.shared
  have hbuffers : c.host.buffers = c.host.memory := by rw [Host.buffers, hshared, Option.getD_none]
  have hmember : b ∈ c.device.txPool.buffers.toList := BufferPool.mem_of_getElem? hb
  refine ⟨by simp only [Host.setBuffers, hshared], ?_⟩
  refine Buffer.rewritten_of_fill (hsound.txHeld.live b hmember) ?_ (hbuffers ▸ hfill)
  rw [hsound.txHeld.sized b hmember]
  exact hsound.txHeld.roomy b hmember

/-- A frame that fits can be copied into a transmit buffer of a card in use. -/
theorem fill_ok (c : Card Board) (hsound : c.holdings.Sound) {i : Nat} {b : Buffer} {data : Bytes}
    (hb : c.device.txPool.buffers[i]? = some b) (hdata : data.size ≤ c.device.txPool.bufferSize) :
    ∃ memory, b.fill c.host.buffers data = .ok memory := by
  have hmember : b ∈ c.device.txPool.buffers.toList := BufferPool.mem_of_getElem? hb
  have hshared : c.host.apart = none := hsound.shared
  have hsize : b.size = c.device.txPool.bufferSize := hsound.txHeld.sized b hmember
  have hroom : b.size ≤ b.region.size := by
    rw [hsize]
    exact hsound.txHeld.roomy b hmember
  rw [Host.buffers, hshared, Option.getD_none]
  exact Buffer.fill_ok (hsound.txHeld.live b hmember) hroom (by rw [hsize]; exact hdata)

/-- A frame that was accepted is sent. -/
theorem sent_launched (c : Card Board) (hsound : c.holdings.Sound) (i : Nat) (b : Buffer) (memory : Allocator)
    (lane vc size : Word) (data : Bytes) (hsize : size.toNat * wordSize ≤ c.device.txPool.bufferSize)
    (hi : c.device.txFree.peek? = some i) (hb : c.device.txPool.buffers[i]? = some b)
    (hfill : b.fill c.host.buffers data = .ok memory) :
    c.holdings.Sent (c.host.bus.isLooped lane.toNat) lane vc size data
      (c.launched i b memory lane vc size).holdings := by
  obtain ⟨hset, hwrite⟩ := c.rewritten_of_fill hsound hb hfill
  set frame : FrameMeta := ⟨lane, vc, size, FrameFlags.none⟩
  set device : Device :=
    { c.device with
      txPool := c.device.txPool.setFrame i frame
      txFree := c.device.txFree.drop }
  have hloaded : Host.holdings { c.host with memory := memory } device = c.holdings.loaded i frame memory := rfl
  by_cases hlane : lane.toNat < laneCount
  · have hlaunched : (c.launched i b memory lane vc size).holdings = Host.holdings
        ((Host.write { c.host with memory := memory } (Offset.txWrA + 4 * lane.toNat)
          (TxDescriptor.mk lane vc size).encode).write (Offset.txWrB + 4 * lane.toNat) b.addr) device := by
      rw [holdings, launched, if_pos hlane, hset]
    -- The buffer in the pool already carries what is known of the frame.
    have hrecorded : { b with frame := frame } ∈ device.txPool.buffers.toList := by
      apply BufferPool.mem_of_getElem? (i := i)
      rw [BufferPool.getElem?_setFrame, if_pos rfl, hb, Option.map_some]
    obtain ⟨hgone, hback⟩ := Host.holdings_send { c.host with memory := memory } device
      (hloaded ▸ hsound.loaded hwrite i frame) _ hrecorded lane vc size hlane hsize
    rw [hlaunched]
    rw [hloaded] at hgone hback
    cases hloop : c.host.bus.isLooped lane.toNat with
    | false => exact hgone hloop ▸ .gone i b memory hlane hi hb hwrite rfl
    | true => exact .back i b memory _ hlane hi hb hwrite rfl (hback hloop)
  · have hlaunched : (c.launched i b memory lane vc size).holdings = c.holdings.loaded i frame memory := by
      rw [holdings, launched, if_neg hlane, hset]
      rfl
    rw [hlaunched]
    exact .discarded i b memory (by omega) hi hb hwrite

end Card

end LaneCard
