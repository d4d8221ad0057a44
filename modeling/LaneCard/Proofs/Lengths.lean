import LaneCard.Proofs.Robustness
import LaneCard.Proofs.Undoing

/-!
# No length is cut

The size of a buffer is checked once, in bytes, when a configuration is accepted. From then on lengths
go through fields of three widths: in words through the descriptor of a frame that is sent, in bytes
through the register that limits what the card stores, and in words again through the descriptor of a
frame that was looped back. The check against the first of these fields is enough for all of them, so
that the check against the register never refuses anything.
-/

namespace LaneCard

/-! ## What the check of a size gives -/

namespace Config

/-- A size whose words a descriptor can count fits the register that limits frames. -/
theorem le_maxFrame_of_sizeFault? {size : Nat} (h : sizeFault? size = none) :
    size ≤ MaxFrameWord.size.maxValue.toNat := by
  have hwords : TxWord.length.maxValue.toNat = 0xFFFFFF := by decide
  have hbytes : MaxFrameWord.size.maxValue.toNat = 0x7FFFFFFF := by decide
  obtain ⟨-, hwhole, hfits⟩ := sizeFault?_eq_none h
  rw [hwords] at hfits
  rw [hbytes]
  simp only [wordSize] at hwhole hfits
  omega

/-- No size is found to exceed that register: the check of the descriptors comes first. -/
theorem fault?_ne_maxFrame (c : Config) : c.fault? ≠ some .maxFrame := by
  have hsize (size : Nat) : sizeFault? size ≠ some .maxFrame := by
    unfold sizeFault?
    split
    · simp
    · split <;> simp
  intro hfault
  unfold fault? at hfault
  split at hfault
  · simp at hfault
  · split at hfault
    · simp at hfault
    · rcases Option.or_eq_some_iff.mp hfault with hsizes | ⟨hsizes, hlimit⟩
      · rcases Option.or_eq_some_iff.mp hsizes with htx | ⟨-, hrx⟩
        · exact hsize _ htx
        · exact hsize _ hrx
      · have hfits := le_maxFrame_of_sizeFault? (Option.or_eq_none_iff.mp hsizes).2
        rw [if_neg (by omega)] at hlimit
        contradiction

/-- So no configuration is refused for it. -/
theorem validate_ne_maxFrame (c : Config) : c.validate ≠ .error (.ofConfig .maxFrame) := by
  have hne := c.fault?_ne_maxFrame
  unfold validate
  cases hfault : c.fault? with
  | none => simp
  | some f =>
    rw [hfault] at hne
    cases f with
    | maxFrame => exact absurd rfl hne
    | noBuffers | noDevices | oddBufferSize | descriptorLength =>
      simp [CardError.ofConfig, ConfigFault.message]

end Config

/-- The two fields of the frame limit do not disturb each other. -/
theorem MaxFrameWord.independent (word value : Word) :
    size.get (enable.set word value) = size.get word ∧ enable.get (size.set word value) = enable.get word :=
  ⟨Field.get_set_of_apart _ _ (by decide) (by decide) (by decide) _ _,
    Field.get_set_of_apart _ _ (by decide) (by decide) (by decide) _ _⟩

/-! ## Frames that are sent -/

namespace Card

/-- What a call that sends has told the card: nothing, unless the frame was accepted, and else a
descriptor with the lane, the channel and the whole length of the frame, and an address. -/
def Described (c : Card Board) (lane vc size : Word) : Reply Nat × Card Board → Prop
  | (.returned (.ok sent), c') =>
    sent = size.toNat ∧ ∃ word addr : Word,
      c'.host.bus.writes.toList = c.host.bus.writes.toList ++
        [(Offset.txWrA + 4 * lane.toNat, word), (Offset.txWrB + 4 * lane.toNat, addr)] ∧
      TxDescriptor.decode word = { lane := lane, vc := vc % 8#32, length := size }
  | (_, c') => c'.host.bus.writes = c.host.bus.writes

/-- The card writes no register while it stays as it is. -/
theorem Unmoved.writes {c c' : Card Board} (h : c.Unmoved c') : c'.host.bus.writes = c.host.bus.writes := by
  rw [h.host]

/-- A frame that was accepted has its descriptor and its address written. -/
theorem writes_launched (c : Card Board) (i : Nat) (b : Buffer) (memory : Allocator) {lane : Word} (vc size : Word)
    (hlane : lane.toNat < laneCount) :
    (c.launched i b memory lane vc size).host.bus.writes =
      (c.host.bus.writes.push (Offset.txWrA + 4 * lane.toNat, (TxDescriptor.mk lane vc size).encode)).push
        (Offset.txWrB + 4 * lane.toNat, b.addr) := by
  have hbus : (c.host.setBuffers memory).bus = c.host.bus := by
    unfold Host.setBuffers
    split <;> rfl
  have hhost : (c.launched i b memory lane vc size).host =
      if lane.toNat < laneCount then _ else _ := rfl
  rw [hhost, if_pos hlane, Host.writes_write, Host.writes_write, hbus]

/-- The descriptor of a frame that fits names the frame's lane and its whole length. -/
theorem decode_encode_of_fits {lane size : Word} (vc : Word) (hlane : lane.toNat < laneCount)
    (hsize : size.toNat ≤ TxWord.length.maxValue.toNat) :
    TxDescriptor.decode (TxDescriptor.mk lane vc size).encode =
      { lane := lane, vc := vc % 8#32, length := size } := by
  have hwords : TxWord.length.maxValue.toNat = 0xFFFFFF := by decide
  rw [hwords] at hsize
  rw [laneCount] at hlane
  have hlaneKept : lane % 32#32 = lane :=
    BitVec.umod_eq_of_lt (BitVec.lt_def.mpr (by rw [BitVec.toNat_ofNat]; omega))
  have hsizeKept : size % 0x1000000#32 = size :=
    BitVec.umod_eq_of_lt (BitVec.lt_def.mpr (by rw [BitVec.toNat_ofNat]; omega))
  rw [TxDescriptor.decode_encode, hlaneKept, hsizeKept]

/-- A call that sends describes the frame in full, or writes nothing. -/
theorem described_submit (c : Card Board) (patience : Patience) {lane size : Word} (vc : Word)
    (source : Nat → Except CardError Bytes) (hlane : lane.toNat < laneCount)
    (hsize : size.toNat ≤ TxWord.length.maxValue.toNat) :
    c.Described lane vc size (c.submit patience lane vc size source) := by
  have hends := c.submission patience lane vc size source
  generalize c.submit patience lane vc size source = reply at hends
  cases hends with
  | oversized c' _ hc => exact hc.writes
  | asleep c' _ _ hc => exact hc.writes
  | refused e c' _ _ hc => exact hc.writes
  | unnamed c' _ _ hc => exact hc.writes
  | unfilled e i b c' _ _ _ _ hc => exact hc.writes
  | accepted i b data memory w c' _ _ _ _ _ hw hc =>
    refine ⟨rfl, (TxDescriptor.mk lane vc size).encode, b.addr, ?_, decode_encode_of_fits vc hlane hsize⟩
    rw [hc.writes, w.writes_launched i b memory vc size hlane, hw.writes]
    simp

end Card

/-! ## Frames that are looped back -/

namespace Board

/-- What a register write has put on the FIFO of received frames: nothing, or the descriptor of a frame
whose length is that of the bytes it has stored, which are the first ones at the address written. -/
inductive LoopsBack (value : Word) (h h' : Host Board) : Prop
  | nothing (hsame : h'.bus.rxReturns = h.bus.rxReturns)
  | frame (payload data : Bytes) (target : Nat) (pair : Word × Word) (d : RxDescriptor)
      (hqueued : h'.bus.rxReturns = h.bus.rxReturns ++ [pair])
      (hdecoded : RxDescriptor.decode? pair.1 pair.2 = some d)
      (hsent : h.memory.busRead value.toNat payload.size = some payload)
      (hstored : h.memory.busWrite target data = some h'.memory)
      (hdata : data = payload.extract 0 data.size)
      (hcount : d.length.toNat * wordSize = data.size)

/-- What the card stores of a frame of whole words is a number of whole words, and no more. -/
theorem storedLength_le (maxFrame : Nat) {length : Nat} (hwhole : length % wordSize = 0) :
    (storedLength maxFrame length).1 % wordSize = 0 ∧ (storedLength maxFrame length).1 ≤ length := by
  unfold storedLength
  split
  · simp only [wordSize]
    omega
  · exact ⟨hwhole, Nat.le_refl _⟩

/-- The descriptor of a frame that the card stores counts the words that were stored. -/
theorem deliver_loopsBack (h : Host Board) (lane : Nat) (vc value : Word) {payload : Bytes}
    (hsent : h.memory.busRead value.toNat payload.size = some payload) (hwhole : payload.size % wordSize = 0)
    (hshort : payload.size / wordSize ≤ RxWordA.length.maxValue.toNat) :
    LoopsBack value h (deliver h lane vc payload) := by
  unfold deliver
  split
  · exact .nothing rfl
  · rename_i addr board htaken
    obtain ⟨k, rest, -, rfl⟩ := takeFree?_eq_some htaken
    dsimp only
    obtain ⟨hstoredWhole, hless⟩ := storedLength_le
      (MaxFrameWord.size.get ((h.bus.setFree k rest).regs.get Offset.rxMaxFrame)).toNat hwhole
    generalize storedLength (MaxFrameWord.size.get ((h.bus.setFree k rest).regs.get Offset.rxMaxFrame)).toNat
      payload.size = stored at hstoredWhole hless
    obtain ⟨length, flags⟩ := stored
    dsimp only at hstoredWhole hless ⊢
    have hextent : (payload.extract 0 length).size = length := by
      rw [ByteArray.size_extract]
      omega
    split
    · exact .nothing rfl
    · rename_i memory hwrite
      set desc : RxDescriptor := ⟨⟨BitVec.ofNat 32 lane, vc, BitVec.ofNat 32 (length / wordSize), flags⟩, addr⟩
      have hmax : RxWordA.length.maxValue.toNat = 0xFFFFFF := by decide
      simp only [wordSize] at hstoredWhole hwhole hshort
      have hwords : desc.length.toNat = length / wordSize := by
        change (BitVec.ofNat 32 (length / wordSize)).toNat = _
        rw [BitVec.toNat_ofNat, wordSize]
        omega
      have hkept : desc.packed.length = desc.length :=
        RxWordA.length.and_maxValue_of_le (by decide) _ (by rw [hwords, wordSize]; omega)
      refine .frame payload (payload.extract 0 length) addr.toNat desc.encode desc.packed rfl
        desc.decode?_encode hsent hwrite (by rw [hextent]) ?_
      rw [hkept, hwords, hextent, wordSize]
      omega

/-- Only the FIFO and the memory matter for this, before and after. -/
theorem LoopsBack.congr {value : Word} {h h' k k' : Host Board} (hback : LoopsBack value h h')
    (hbefore : k.bus.rxReturns = h.bus.rxReturns) (hmemory : k.memory = h.memory)
    (hafter : k'.bus.rxReturns = h'.bus.rxReturns) (hmemory' : k'.memory = h'.memory) : LoopsBack value k k' := by
  cases hback with
  | nothing hsame => exact .nothing (hafter.trans (hsame.trans hbefore.symm))
  | frame payload data target pair d hqueued hdecoded hsent hstored hdata hcount =>
    refine .frame payload data target pair d ?_ hdecoded ?_ ?_ hdata hcount
    · rw [hafter, hqueued, hbefore]
    · rw [hmemory, hsent]
    · rw [hmemory, hmemory', hstored]

/-- Raising an interrupt adds no frame. -/
theorem LoopsBack.interrupt {value : Word} {h h' : Host Board} (hback : LoopsBack value h h') :
    LoopsBack value h (Board.interrupt h') := by
  obtain ⟨handling, line, hraise⟩ := interrupt_eq h'
  rw [hraise]
  exact hback.congr rfl rfl rfl rfl

/-- A frame that is sent is looped back with the number of words stored. -/
theorem transmit_loopsBack (h : Host Board) (lane : Nat) (addr : Word) :
    LoopsBack addr h (transmit h lane addr) := by
  set desc := TxDescriptor.decode (h.bus.regs.get (Offset.txWrA + 4 * lane)) with hdesc
  have hshort : desc.length.toNat ≤ TxWord.length.maxValue.toNat := Field.toNat_get_le _ _
  unfold transmit
  rw [← hdesc]
  dsimp only
  split
  · exact .nothing rfl
  · rename_i payload hread
    have hsize : payload.size = desc.length.toNat * wordSize := by
      obtain ⟨m, -, rfl⟩ := Option.map_eq_some_iff.mp hread
      exact Memory.size_read _ _ _
    have hreturned : (h.bus.returnTx addr).rxReturns = h.bus.rxReturns := by
      unfold returnTx
      split <;> rfl
    refine LoopsBack.interrupt ?_
    split
    · have hwhole : payload.size % wordSize = 0 := by rw [hsize, Nat.mul_mod_left]
      have hfits : payload.size / wordSize ≤ RxWordA.length.maxValue.toNat := by
        rw [hsize, Nat.mul_div_cancel _ (by decide)]
        exact hshort
      have hsent : h.memory.busRead addr.toNat payload.size = some payload := by rw [hsize]; exact hread
      have hback := deliver_loopsBack { h with bus := h.bus.returnTx addr } lane desc.vc addr hsent hwhole hfits
      exact hback.congr hreturned.symm rfl rfl rfl
    · exact .nothing hreturned

/-- Whatever register is written, a frame that is looped back by it is counted in full. -/
theorem write_loopsBack (h : Host Board) (offset : Nat) (value : Word) :
    LoopsBack value h (h.write offset value) := by
  change LoopsBack value h (store h offset value)
  unfold store
  dsimp only
  split
  · exact .nothing rfl
  · split
    · rename_i lane _
      have hback := transmit_loopsBack { h with bus := h.bus.logged offset value } lane value
      exact hback.congr rfl rfl rfl rfl
    · split
      · split
        · exact .interrupt (.nothing rfl)
        · exact .nothing rfl
      · exact .nothing rfl

end Board

/-! ## The limit that is written when a card is attached -/

namespace Device

/-- Attaching writes the frame limit once, with the size of a receive buffer whole. -/
theorem attach_writes {h h' : Host Board} {name : String} {address : PciAddress} {baseHdwr baseLen : Nat}
    {config : Config} {d : Device} (hattach : attach h name address baseHdwr baseLen config = (.ok d, h')) :
    ∃ made, h'.bus.writes.toList = h.bus.writes.toList ++ made ∧
      (made.filter fun entry => entry.1 == Offset.rxMaxFrame) = [(Offset.rxMaxFrame, frameLimit config.rxSize)] := by
  obtain ⟨-, txPool, rxPool, h₁, h₂, htx, hrx, rfl, rfl⟩ := attach_cases hattach
  set d := fresh name address baseHdwr baseLen config.debug txPool rxPool
  have hbus : h₂.bus = _ := (Host.bus_allocatePool hrx).trans ((Host.bus_allocatePool htx).trans (awake_eq h name).1)
  obtain ⟨free, hoffer, -⟩ := (h₂.write Offset.rxMaxFrame (frameLimit config.rxSize)).offer_eq 0 d.rxPool.addrs
  have hoffered : (Host.offerWrites 0 d.rxPool.addrs).filter (fun entry => entry.1 == Offset.rxMaxFrame) = [] := by
    rw [List.filter_eq_nil_iff]
    intro entry hentry
    obtain ⟨source, -, rfl⟩ := List.mem_map.mp hentry
    simp only [Offset.rxFree, Offset.rxMaxFrame, laneCount, beq_iff_eq]
    omega
  refine ⟨(Offset.cardRstStat, h.bus.regs.get Offset.cardRstStat &&& ~~~ResetWord.cardReset.mask) ::
    (Offset.rxMaxFrame, frameLimit config.rxSize) ::
    (Host.offerWrites 0 d.rxPool.addrs ++ [(Offset.irq, IrqWord.enable.encode 1#32)]), ?_, ?_⟩
  · change ((prepare h₂ d config.rxSize).write Offset.irq (IrqWord.enable.encode 1#32)).bus.writes.toList = _
    rw [Host.writes_write, prepare, hoffer]
    dsimp only
    rw [Host.writes_write, hbus]
    simp [Board.stored, Board.logged]
  · have hreset : (Offset.cardRstStat == Offset.rxMaxFrame) = false := by decide
    have hirq : (Offset.irq == Offset.rxMaxFrame) = false := by decide
    simp [hoffered, hreset, hirq]

end Device

/-! ## Every length -/

/-- A frame that fits a transmit buffer is described in full, whoever sends it and however long it may
wait; and it is sent if a buffer is free. -/
structure Card.SendsWhole (c : Card Board) (config : Config) : Prop where
  described : ∀ (patience : Patience) (lane vc size : Word) (source : Nat → Except CardError Bytes),
    lane.toNat < laneCount → size.toNat * wordSize ≤ config.txSize →
      c.Described lane vc size (c.submit patience lane vc size source)
  accepted : ∀ (patience : Patience) (lane vc size : Word) (source : Nat → Except CardError Bytes),
    size.toNat * wordSize ≤ config.txSize → c.poll.writable = true →
    (∀ data, source (size.toNat * wordSize) = .ok data → data.size = size.toNat * wordSize) →
      (c.submit patience lane vc size source).1 =
        .returned ((source (size.toNat * wordSize)).map fun _ => size.toNat)

namespace Device

/-- A card that was attached cuts no length. Whatever has happened to it since, the descriptor of a frame
that fits a transmit buffer has the whole length; the limit that was written holds the whole size of a
receive buffer besides its other field; and the descriptor of a frame that is looped back has the number of
words that were stored, on any card. The check of configurations against the limit is never what refuses
one, as a size that a descriptor can count is within it. -/
theorem lengths_whole {h h' : Host Board} {name : String} {address : PciAddress} {baseHdwr baseLen : Nat}
    {config : Config} {d : Device} (hattach : attach h name address baseHdwr baseLen config = (.ok d, h'))
    (deeds : List Deed) :
    (Card.undergoAll ⟨h', d⟩ deeds).SendsWhole config ∧
    (∃ made limit, h'.bus.writes.toList = h.bus.writes.toList ++ made ∧
      (made.filter fun entry => entry.1 == Offset.rxMaxFrame) = [(Offset.rxMaxFrame, limit)] ∧
      (MaxFrameWord.size.get limit).toNat = config.rxSize ∧ MaxFrameWord.enable.get limit = 1#32) ∧
    (∀ word value : Word,
      MaxFrameWord.size.get (MaxFrameWord.enable.set word value) = MaxFrameWord.size.get word ∧
      MaxFrameWord.enable.get (MaxFrameWord.size.set word value) = MaxFrameWord.enable.get word) ∧
    (∀ (k : Host Board) (offset : Nat) (value : Word), Board.LoopsBack value k (k.write offset value)) ∧
    (∀ other : Config, other.fault? ≠ some .maxFrame ∧ other.validate ≠ .error (.ofConfig .maxFrame)) ∧
    ∀ size, Config.sizeFault? size = none → size ≤ MaxFrameWord.size.maxValue.toNat := by
  obtain ⟨hvalidate, -⟩ := attach_cases hattach
  have hvalid := Config.valid_of_validate hvalidate
  obtain ⟨hbacked, hnumbered, -⟩ := attach_backed hattach
  have hkept := hbacked.kept_undergoAll deeds
  have hcapacity : (Card.undergoAll ⟨h', d⟩ deeds).device.txPool.bufferSize = config.txSize :=
    hkept.device.txPool.bufferSize.trans (bufferSize_attach hattach).1
  refine ⟨⟨fun patience lane vc size source hlane hsize => ?_,
      fun patience lane vc size source hsize hfree hsource => ?_⟩,
    ?_, MaxFrameWord.independent, Board.write_loopsBack,
    fun other => ⟨other.fault?_ne_maxFrame, other.validate_ne_maxFrame⟩,
    fun size => Config.le_maxFrame_of_sizeFault?⟩
  · have hwords : size.toNat ≤ config.txSize / wordSize := (Nat.le_div_iff_mul_le (by decide)).mpr hsize
    exact Card.described_submit _ patience vc source hlane (Nat.le_trans hwords hvalid.txSize.2.2)
  · exact (hkept.backed hbacked).submit_eq (hkept.device.numbered hnumbered) hfree patience lane vc
      (hcapacity ▸ hsize) hsource
  · obtain ⟨made, hmade, honce⟩ := attach_writes hattach
    exact ⟨made, frameLimit config.rxSize, hmade, honce, get_frameLimit _ hvalid.rxLimit,
      Field.get_set_of_le _ (by decide) _ _ (by decide)⟩

/-- A frame that fills a buffer of the small card goes out on the last lane with its two words, and as the
lane is looped back it is received with two words. -/
theorem lengths_whole_small :
    ∃ c : Card Board,
      c = Card.small.undergoAll [.move (.openSession true), .poke Offset.pgpCardStat 0x80#32] ∧
      c.SendsWhole .small ∧
      ((c.send .refuses 7#32 9#32 [5#32, 6#32]).2.host.bus.writes[5]?.map fun entry =>
        (entry.1, TxDescriptor.decode entry.2)) = some (Offset.txWrA + 28, ⟨7#32, 1#32, 2#32⟩) ∧
      ((c.send .refuses 7#32 9#32 [5#32, 6#32]).2.host.bus.rxReturns.map fun pair =>
        (RxDescriptor.decode? pair.1 pair.2).map fun d => d.length) = [some 2#32] :=
  ⟨_, rfl, (lengths_whole attachSmall_eq _).1, by decide +kernel, by decide +kernel⟩

end Device

end LaneCard
