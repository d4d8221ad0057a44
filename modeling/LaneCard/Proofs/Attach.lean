import LaneCard.Card.Attach
import LaneCard.Proofs.Holdings
import LaneCard.Proofs.Ring

/-!
# A card that has just been attached

Attaching succeeds with a configuration that was accepted and two pools of live buffers. Every
transmit buffer is then free, every receive buffer is offered to the card on one lane, and nothing is
on its way, provided that the card was idle before, as it is after power-up.
-/

namespace LaneCard

/-- A host after power-up. -/
def Host.powerUp (origin number : Nat) : Host Board where
  bus := Board.new
  memory := Allocator.standard origin
  line := IrqLine.new number
  apart := none
  journal := #[]

/-- A host whose card has no buffers, in free lists or on their way, and shares its memory with the
driver. -/
structure Host.Idle (h : Host Board) : Prop where
  shared : h.apart = none
  memory : h.memory.WellFormed
  free : ∀ lane, h.bus.freeList lane = []
  txReturns : h.bus.txReturns = []
  rxReturns : h.bus.rxReturns = []
  heldTx : h.bus.heldTx = []

/-- A card is idle after power-up. -/
theorem Host.idle_powerUp (origin number : Nat) : (Host.powerUp origin number).Idle where
  shared := rfl
  memory := Allocator.wellFormed_new _ _ _
  free lane := by
    change ((Vector.replicate laneCount ([] : List Word))[lane]?).getD [] = []
    by_cases hlane : lane < laneCount
    · simp [hlane]
    · simp [hlane]
  txReturns := rfl
  rxReturns := rfl
  heldTx := rfl

namespace Config

/-- A size that nothing is wrong with is a multiple of four whose words a descriptor can count. -/
theorem sizeFault?_eq_none {size : Nat} (h : sizeFault? size = none) :
    0 < size ∧ size % wordSize = 0 ∧ size / wordSize ≤ TxWord.length.maxValue.toNat := by
  unfold sizeFault? at h
  split at h
  · contradiction
  · split at h
    · contradiction
    · omega

/-- What a configuration that was accepted promises. -/
structure Valid (c : Config) : Prop where
  txCount : 0 < c.txCount
  rxCount : 0 < c.rxCount
  txSize : 0 < c.txSize ∧ c.txSize % wordSize = 0 ∧ c.txSize / wordSize ≤ TxWord.length.maxValue.toNat
  rxSize : 0 < c.rxSize ∧ c.rxSize % wordSize = 0 ∧ c.rxSize / wordSize ≤ TxWord.length.maxValue.toNat
  rxLimit : c.rxSize ≤ MaxFrameWord.size.maxValue.toNat

/-- A configuration that was accepted keeps its promises. -/
theorem valid_of_validate {c : Config} (h : c.validate = .ok ()) : c.Valid := by
  have hfault : c.fault? = none := by
    unfold validate at h
    split at h
    · contradiction
    · assumption
  unfold fault? at hfault
  split at hfault
  · contradiction
  · rename_i hcounts
    split at hfault
    · contradiction
    · obtain ⟨hsizes, hlimit⟩ := Option.or_eq_none_iff.mp hfault
      obtain ⟨htx, hrx⟩ := Option.or_eq_none_iff.mp hsizes
      refine ⟨by omega, by omega, sizeFault?_eq_none htx, sizeFault?_eq_none hrx, ?_⟩
      by_contra hlong
      rw [if_pos (by omega)] at hlimit
      contradiction

end Config

namespace Host

/-- Allocating a pool changes the memory and the journal. -/
theorem allocatePool_ok {h h' : Host Board} {direction : Direction} {count size : Nat} {pool : BufferPool}
    (hshared : h.apart = none) (hmemory : h.memory.WellFormed)
    (hpool : h.allocatePool direction count size = (.ok pool, h')) :
    BufferPool.Grown (.empty direction size) pool h.memory h'.memory count ∧ h'.bus = h.bus ∧
      h'.line = h.line ∧ h'.apart = none := by
  unfold allocatePool at hpool
  rw [buffers_of_shared hshared] at hpool
  generalize hallocated : BufferPool.allocate direction count size h.memory = allocated at hpool
  obtain ⟨result, a, lines⟩ := allocated
  obtain ⟨rfl, rfl⟩ := Prod.mk.inj hpool
  have hset : h.setBuffers a = { h with memory := a } := by simp only [setBuffers, hshared]
  rw [hset]
  exact ⟨BufferPool.allocate_ok _ _ _ _ _ _ _ hmemory hallocated, rfl, rfl, hshared⟩

/-- The descriptors of buffers that are offered one lane after the other. -/
def offers : Nat → List Word → List RxDescriptor
  | _, [] => []
  | index, addr :: rest =>
    ⟨⟨BitVec.ofNat 32 (index % laneCount), 0#32, 0#32, FrameFlags.none⟩, addr⟩ :: offers (index + 1) rest

/-- Every buffer is offered once. -/
@[simp] theorem map_addr_offers (index : Nat) (addrs : List Word) :
    (offers index addrs).map RxDescriptor.addr = addrs := by
  induction addrs generalizing index with
  | nil => rfl
  | cons addr rest ih => rw [offers, List.map_cons, ih]

/-- Offering buffers puts each of them on the free list of its lane. -/
theorem holdings_offer (h : Host Board) (d : Device) (index : Nat) (addrs : List Word) :
    (h.offer index addrs).holdings d =
      { h.holdings d with free := returnTo (h.holdings d).free (offers index addrs) } := by
  induction addrs generalizing h index with
  | nil =>
    rw [offers, returnTo_nil]
    rfl
  | cons addr rest ih =>
    set desc : RxDescriptor := ⟨⟨BitVec.ofNat 32 (index % laneCount), 0#32, 0#32, FrameFlags.none⟩, addr⟩
    have hlane : desc.lane.toNat % laneCount = index % laneCount := by
      simp only [desc, BitVec.toNat_ofNat, laneCount]
      omega
    have hwrite := h.holdings_write_rxFree d desc
    rw [hlane] at hwrite
    have hsplit : offers index (addr :: rest) = [desc] ++ offers (index + 1) rest := rfl
    rw [Host.offer, ih, hwrite, hsplit, ← returnTo_append]

end Host

/-- The buffers of a card that has just been attached with a configuration. -/
structure Holdings.Attached (H : Holdings) (config : Config) : Prop where
  sound : H.Sound
  valid : config.Valid
  txSize : H.txPool.size = config.txCount ∧ H.txPool.bufferSize = config.txSize
  rxSize : H.rxPool.size = config.rxCount ∧ H.rxPool.bufferSize = config.rxSize
  /-- No region serves both directions. -/
  separate : ∀ x ∈ H.txPool.buffers.toList, ∀ y ∈ H.rxPool.buffers.toList, x.region ≠ y.region
  txFree : H.txFree.toList = List.range H.txPool.size ∧ H.txFree.capacity = H.txPool.size ∧
    H.txFree.collisions = 0
  rxReady : H.rxReady.toList = [] ∧ H.rxReady.capacity = H.rxPool.size ∧ H.rxReady.collisions = 0
  closed : H.isOpen = false
  dropped : H.dropped = 0
  free : H.free = returnTo (fun _ => []) (Host.offers 0 H.rxPool.addrs)
  txReturns : H.txReturns = []
  rxReturns : H.rxReturns = []
  heldTx : H.heldTx = []
  limit : H.limit = Device.frameLimit config.rxSize

namespace Device

/-- The host after the card has left reset, with the version noted. -/
def awake (h : Host Board) (name : String) : Host Board :=
  let h := h.clearBits Offset.cardRstStat ResetWord.cardReset.mask
  (h.read Offset.version).2.note .info
    (name ++ ": Probe: Found card. Version=" ++ Text.hexMarked (h.look Offset.version).toNat)

/-- Attaching succeeds only if the configuration is accepted and both pools are allocated. -/
theorem attach_cases {h h' : Host Board} {name : String} {address : PciAddress} {baseHdwr baseLen : Nat}
    {config : Config} {d : Device} (hattach : attach h name address baseHdwr baseLen config = (.ok d, h')) :
    config.validate = .ok () ∧ ∃ txPool rxPool h₁ h₂,
      (awake h name).allocatePool .tx config.txCount config.txSize = (.ok txPool, h₁) ∧
      h₁.allocatePool .rx config.rxCount config.rxSize = (.ok rxPool, h₂) ∧
      d = fresh name address baseHdwr baseLen config.debug txPool rxPool ∧
      h' = start (prepare h₂ d config.rxSize) d := by
  unfold attach at hattach
  split at hattach
  · simp at hattach
  · rename_i hvalid
    refine ⟨hvalid, ?_⟩
    simp only [Host.read] at hattach
    split at hattach
    · simp at hattach
    · simp at hattach
    · rename_i txPool h₁ htx
      split at hattach
      · simp at hattach
      · simp at hattach
      · rename_i rxPool h₂ hrx
        split at hattach
        · obtain ⟨hd, rfl⟩ := Prod.mk.inj hattach
          obtain rfl := Except.ok.inj hd
          exact ⟨txPool, rxPool, h₁, h₂, htx, hrx, rfl, rfl⟩
        · simp at hattach

/-- Leaving reset moves no buffer. -/
theorem holdings_awake (h : Host Board) (name : String) (d : Device) :
    (awake h name).holdings d = h.holdings d := by
  have hread (k : Host Board) : (k.read Offset.version).2 = k := k.read_of_isPlain (by decide)
  rw [awake, Host.holdings_note, hread]
  exact h.holdings_modify_of_isPlain d _ (by decide)

/-- Limiting the frames that the card stores moves no buffer. -/
theorem holdings_write_rxMaxFrame (h : Host Board) (d : Device) (value : Word) :
    (h.write Offset.rxMaxFrame value).holdings d = { h.holdings d with limit := value } := by
  have hstore : h.write Offset.rxMaxFrame value =
      { h with
        bus :=
          { h.bus.logged Offset.rxMaxFrame value with
            regs := h.bus.regs.set Offset.rxMaxFrame value } } := rfl
  have hlog := h.bus.submissions_logged_of_none value
    (show indexIn Offset.rxMaxFrame Offset.txWrB laneCount = none by decide)
  have hlimit : (h.bus.regs.set Offset.rxMaxFrame value).get Offset.rxMaxFrame = value := by
    rw [RegisterFile.get_set, if_pos rfl]
  rw [hstore]
  simp only [Host.holdings, hlimit, ← hlog]
  rfl

/-- The frame limit of a size that fits is that size. -/
theorem get_frameLimit (bytes : Nat) (hbytes : bytes ≤ MaxFrameWord.size.maxValue.toNat) :
    (MaxFrameWord.size.get (frameLimit bytes)).toNat = bytes := by
  have hmax : MaxFrameWord.size.maxValue.toNat = 0x7FFFFFFF := by decide
  have hword : (BitVec.ofNat 32 bytes).toNat = bytes := by
    rw [BitVec.toNat_ofNat]
    omega
  rw [frameLimit, Field.get_set_of_apart _ _ (by decide) (by decide) (by decide),
    Field.get_set_of_le _ (by decide) _ _ (by rw [hword]; exact hbytes), hword]

/-- What attaching to an idle card does: the pools are allocated, one after the other, and the card is
then prepared and started. -/
theorem attach_ok {h h' : Host Board} {name : String} {address : PciAddress} {baseHdwr baseLen : Nat}
    {config : Config} {d : Device} (hidle : h.Idle)
    (hattach : attach h name address baseHdwr baseLen config = (.ok d, h')) :
    config.Valid ∧ ∃ txPool rxPool a h₂,
      BufferPool.Grown (.empty .tx config.txSize) txPool h.memory a config.txCount ∧
      BufferPool.Grown (.empty .rx config.rxSize) rxPool a h₂.memory config.rxCount ∧
      h₂.bus = (awake h name).bus ∧ h₂.line = (awake h name).line ∧ h₂.apart = none ∧
      d = fresh name address baseHdwr baseLen config.debug txPool rxPool ∧
      h' = start (prepare h₂ d config.rxSize) d := by
  obtain ⟨hvalidate, txPool, rxPool, h₁, h₂, htx, hrx, hd, hstart⟩ := attach_cases hattach
  have hawake := holdings_awake h name d
  have hshared : (awake h name).apart = none := (congrArg Holdings.apart hawake).trans hidle.shared
  have hmemory : (awake h name).memory = h.memory := congrArg Holdings.memory hawake
  obtain ⟨hgrownTx, hbus₁, hline₁, hshared₁⟩ :=
    Host.allocatePool_ok hshared (hmemory ▸ hidle.memory) htx
  obtain ⟨hgrownRx, hbus₂, hline₂, hshared₂⟩ := Host.allocatePool_ok hshared₁ hgrownTx.wellFormed hrx
  rw [hmemory] at hgrownTx
  exact ⟨Config.valid_of_validate hvalidate, txPool, rxPool, h₁.memory, h₂, hgrownTx, hgrownRx,
    hbus₂.trans hbus₁, hline₂.trans hline₁, hshared₂, hd, hstart⟩

/-- Preparing and starting a card sets the frame limit and offers the receive buffers. -/
theorem holdings_start_prepare (h : Host Board) (d : Device) (rxSize : Nat) :
    (start (prepare h d rxSize) d).holdings d =
      { h.holdings d with
        limit := frameLimit rxSize
        free := returnTo (h.holdings d).free (Host.offers 0 d.rxPool.addrs) } := by
  rw [start, Host.holdings_note, Host.holdings_write_of_isPlain _ _ _ (by decide), prepare,
    Host.holdings_offer, holdings_write_rxMaxFrame]

/-- Attaching to an idle card allocates both pools, limits the frames that the card stores, and offers
it the receive buffers. -/
theorem holdings_attach {h h' : Host Board} {name : String} {address : PciAddress} {baseHdwr baseLen : Nat}
    {config : Config} {d : Device} (hidle : h.Idle)
    (hattach : attach h name address baseHdwr baseLen config = (.ok d, h')) :
    ∃ txPool rxPool a memory,
      BufferPool.Grown (.empty .tx config.txSize) txPool h.memory a config.txCount ∧
      BufferPool.Grown (.empty .rx config.rxSize) rxPool a memory config.rxCount ∧
      d = fresh name address baseHdwr baseLen config.debug txPool rxPool ∧
      h'.holdings d =
        { h.holdings d with
          memory := memory
          limit := frameLimit config.rxSize
          free := returnTo (h.holdings d).free (Host.offers 0 d.rxPool.addrs) } := by
  obtain ⟨-, txPool, rxPool, a, h₂, hgrownTx, hgrownRx, hbus, -, hshared, hd, rfl⟩ := attach_ok hidle hattach
  have hawake := holdings_awake h name d
  have hawakeShared : (awake h name).apart = none := (congrArg Holdings.apart hawake).trans hidle.shared
  have hlaidOut : h₂.holdings d = { h.holdings d with memory := h₂.memory } := by
    rw [← hawake]
    simp only [Host.holdings, hbus, hshared, hawakeShared]
  refine ⟨txPool, rxPool, a, h₂.memory, hgrownTx, hgrownRx, hd, ?_⟩
  rw [holdings_start_prepare, hlaidOut]

/-- A card that was attached has all its buffers in place. -/
theorem attached {h h' : Host Board} {name : String} {address : PciAddress} {baseHdwr baseLen : Nat}
    {config : Config} {d : Device} (hidle : h.Idle)
    (hattach : attach h name address baseHdwr baseLen config = (.ok d, h')) :
    (h'.holdings d).Attached config := by
  have hvalid := (attach_ok hidle hattach).1
  obtain ⟨txPool, rxPool, a, memory, hgrownTx, hgrownRx, hd, hholdings⟩ := holdings_attach hidle hattach
  have hfree : (h.holdings d).free = fun _ => [] := funext hidle.free
  have hoffered (lane : Nat) (addr : Word)
      (haddr : addr ∈ returnTo (fun _ => []) (Host.offers 0 d.rxPool.addrs) lane) : addr ∈ d.rxPool.addrs := by
    obtain ⟨x, hx, rfl⟩ := List.mem_map.mp haddr
    rw [← Host.map_addr_offers 0 d.rxPool.addrs]
    exact List.mem_map_of_mem (List.mem_of_mem_filter hx)
  subst hd
  rw [hholdings, hfree]
  have hsize : txPool.size = config.txCount := by simpa [BufferPool.empty, BufferPool.size] using hgrownTx.size
  have hsize' : rxPool.size = config.rxCount := by simpa [BufferPool.empty, BufferPool.size] using hgrownRx.size
  exact
    { sound :=
        { shared := hidle.shared
          memory := hgrownRx.wellFormed
          txHeld := hgrownTx.held.mono hgrownRx.kept
          rxHeld := hgrownRx.held
          describable := by
            change txPool.bufferSize / wordSize ≤ _
            rw [hgrownTx.bufferSize]
            exact hvalid.txSize.2.2
          limited := by
            change (MaxFrameWord.size.get (frameLimit config.rxSize)).toNat ≤ rxPool.bufferSize
            rw [get_frameLimit _ hvalid.rxLimit, hgrownRx.bufferSize]
            exact Nat.le_refl _
          known := hoffered }
      valid := hvalid
      txSize := ⟨hsize, hgrownTx.bufferSize⟩
      rxSize := ⟨hsize', hgrownRx.bufferSize⟩
      separate := fun x hx y hy hsame => by
        rcases hgrownRx.fresh y hy with hold | hnew
        · simp [BufferPool.empty] at hold
        · exact hnew (hsame ▸ hgrownTx.held.live x hx)
      txFree := ⟨Ring.toList_ofList _ _ (Nat.le_of_eq List.length_range), rfl, rfl⟩
      rxReady := ⟨Ring.toList_new _, rfl, rfl⟩
      closed := rfl
      dropped := rfl
      free := rfl
      txReturns := hidle.txReturns
      rxReturns := hidle.rxReturns
      heldTx := hidle.heldTx
      limit := rfl }

end Device

/-! ## A small card -/

/-- Two buffers of two words in each direction. -/
def Config.small : Config := ⟨2, 8, 2, 8, 0#32, 1⟩

/-- Attaching a small card after power-up. -/
def Device.attachSmall : Except (Setback CardError) Device × Host Board :=
  attach (Host.powerUp 0x10000 32) "card" .standard 0 0 .small

/-- The small card after it was attached. -/
def Card.small : Card Board := ⟨Device.attachSmall.2, Device.attachSmall.1.toOption.get rfl⟩

/-- Attaching a small card succeeds. -/
theorem Device.attachSmall_eq :
    attach (Host.powerUp 0x10000 32) "card" .standard 0 0 .small = (.ok Card.small.device, Card.small.host) :=
  rfl

end LaneCard
