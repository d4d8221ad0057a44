import LaneCard.Proofs.Attach
import LaneCard.Proofs.Conduct

/-!
# From attaching to releasing

A card that was attached, to whatever host, has both of its pools backed, and its rings hold only
numbers of buffers; neither needs the host to have been idle. From there on the driver makes register
writes that are in order, up to the last ones, with which the card is given up.
-/

namespace LaneCard

namespace Host

/-- A pool that was allocated is backed. -/
theorem stocked_allocatePool {h h' : Host Board} {direction : Direction} {count size : Nat} {p : BufferPool}
    (hpool : h.allocatePool direction count size = (.ok p, h')) :
    BufferPool.Stocked (.empty direction size) p h.buffers h'.buffers := by
  unfold allocatePool at hpool
  generalize hallocated : BufferPool.allocate direction count size h.buffers = allocated at hpool
  obtain ⟨result, a, lines⟩ := allocated
  obtain ⟨rfl, rfl⟩ := Prod.mk.inj hpool
  have hbuffers : ((h.setBuffers a).noteAll lines).buffers = a := h.buffers_setBuffers a
  rw [hbuffers]
  exact BufferPool.stocked_allocate hallocated

namespace Proceeds

variable {h h' : Host Board} {d : Device} {payload : Option Bytes}

/-- A line in the journal is no register write. -/
theorem note (hdone : h.Proceeds d payload h') (level : Level) (text : String) :
    h.Proceeds d payload (h'.note level text) :=
  hdone.trans (of_interaction (.still rfl rfl rfl))

/-- Neither are several. -/
theorem noteAll (hdone : h.Proceeds d payload h') (lines : List Line) :
    h.Proceeds d payload (h'.noteAll lines) :=
  hdone.trans (of_interaction (.still rfl rfl rfl))

/-- Holding a card in reset gives it no address. -/
theorem holdReset (hdone : h.Proceeds d payload h') : h.Proceeds d payload h'.holdReset := by
  have hheld : h'.Proceeds d payload (h'.modify Offset.cardRstStat (· ||| ResetWord.cardReset.mask)) :=
    modify _ _ (by decide)
  exact hdone.trans hheld

/-- Allocating a pool writes no register, whether it succeeds or not. -/
theorem allocatePool {direction : Direction} {count size : Nat} {result : Except (Setback CardError) BufferPool}
    (hpool : h.allocatePool direction count size = (result, h')) : h.Proceeds d payload h' := by
  have hdone := Interaction.allocate h direction count size
  rw [hpool] at hdone
  exact of_interaction hdone

/-- Releasing a pool writes no register. -/
theorem releasePool (hdone : h.Proceeds d payload h') (p : BufferPool) :
    h.Proceeds d payload (h'.releasePool p) :=
  hdone.trans (of_interaction (.release h' p))

end Proceeds

end Host

/-- Every number in the rings is that of a buffer. -/
structure Device.Numbered (d : Device) : Prop where
  txFree : ∀ i ∈ d.txFree.toList, i < d.txPool.size
  rxReady : ∀ i ∈ d.rxReady.toList, i < d.rxPool.size

/-- The numbers stay those of buffers. -/
theorem Device.Continues.numbered {d d' : Device} (h : d.Continues d') (hd : d.Numbered) : d'.Numbered where
  txFree i hi := h.txPool.size ▸ (h.txFree i hi).elim (hd.txFree i) id
  rxReady i hi := h.rxPool.size ▸ (h.rxReady i hi).elim (hd.rxReady i) id

namespace Card

variable {c : Card Board} {payload : Option Bytes}

/-- Offering receive buffers of the pool makes register writes in order. -/
theorem Backed.works_offer (hc : c.Backed) (index : Nat) {addrs : List Word}
    (haddrs : ∀ addr ∈ addrs, addr ∈ c.device.rxPool.addrs) :
    c.Works payload { c with host := c.host.offer index addrs } := by
  induction addrs generalizing c index with
  | nil => exact .refl c
  | cons addr rest ih =>
    obtain ⟨b, hb, rfl⟩ := List.mem_map.mp (haddrs addr List.mem_cons_self)
    have hgiven : c.Works payload (c.giveFree index b.addr) := hc.works_giveFree hb index
    refine hgiven.trans (ih (hgiven.toKept.backed hc) (index + 1) fun a ha => ?_)
    exact haddrs a (List.mem_cons_of_mem _ ha)

/-- Preparing a card whose pools are allocated makes register writes in order. -/
theorem Backed.works_prepare (hc : c.Backed) (rxSize : Nat) :
    c.Works payload { c with host := Device.prepare c.host c.device rxSize } := by
  have hlimited : c.Works payload (c.write Offset.rxMaxFrame (Device.frameLimit rxSize)) :=
    c.works_write _ (by decide)
  exact hlimited.trans ((hlimited.toKept.backed hc).works_offer 0 fun _ => id)

/-- Starting a card makes a register write in order. -/
theorem works_start (c : Card Board) : c.Works payload { c with host := Device.start c.host c.device } := by
  have henabled : c.Works payload (c.write Offset.irq (IrqWord.enable.encode 1#32)) :=
    c.works_write _ (by decide)
  exact henabled.trans (.still (.refl _) rfl rfl rfl)

/-- Giving up a card makes register writes in order: none of them gives it an address. -/
theorem proceeds_release (c : Card Board) (d : Device) : c.host.Proceeds d payload c.release := by
  have hstopped : c.host.Proceeds d payload (c.host.write Offset.rxMaxFrame 0#32) :=
    .write _ _ (by decide)
  exact (((hstopped.releasePool c.device.txPool).releasePool c.device.rxPool).holdReset).note _ _

end Card

namespace Device

/-- Leaving reset makes register writes in order. -/
theorem proceeds_awake (h : Host Board) (name : String) (d : Device) {payload : Option Bytes} :
    h.Proceeds d payload (awake h name) := by
  have hleft : h.Proceeds d payload (h.clearBits Offset.cardRstStat ResetWord.cardReset.mask) :=
    .modify _ _ (by decide)
  exact (hleft.trans (.read _ _)).note _ _

/-- Once both pools are allocated a card has them backed. -/
theorem backed_fresh {h h₁ h₂ : Host Board} {name : String} {address : PciAddress} {baseHdwr baseLen : Nat}
    {config : Config} {txPool rxPool : BufferPool} (hvalid : config.validate = .ok ())
    (htx : h.allocatePool .tx config.txCount config.txSize = (.ok txPool, h₁))
    (hrx : h₁.allocatePool .rx config.rxCount config.rxSize = (.ok rxPool, h₂)) :
    Card.Backed ⟨h₂, fresh name address baseHdwr baseLen config.debug txPool rxPool⟩ := by
  have htxStocked := Host.stocked_allocatePool htx
  have hrxStocked := Host.stocked_allocatePool hrx
  refine ⟨htxStocked.backed.mono hrxStocked.kept, hrxStocked.backed, ?_⟩
  change txPool.bufferSize / wordSize ≤ _
  rw [htxStocked.bufferSize]
  exact (Config.valid_of_validate hvalid).txSize.2.2

/-- The rings of a card that is new hold only numbers of buffers. -/
theorem numbered_fresh (name : String) (address : PciAddress) (baseHdwr baseLen : Nat) (debug : Word)
    (txPool rxPool : BufferPool) : (fresh name address baseHdwr baseLen debug txPool rxPool).Numbered where
  txFree i hi := by
    change i ∈ (Ring.ofList txPool.size (List.range txPool.size)).toList at hi
    rw [Ring.toList_ofList _ _ (Nat.le_of_eq List.length_range)] at hi
    exact List.mem_range.mp hi
  rxReady i hi := by
    change i ∈ (Ring.new rxPool.size).toList at hi
    rw [Ring.toList_new] at hi
    contradiction

/-- A card that was attached has its pools backed, and only numbers of buffers in its rings; and
attaching it made register writes in order. -/
theorem attach_backed {h h' : Host Board} {name : String} {address : PciAddress} {baseHdwr baseLen : Nat}
    {config : Config} {d : Device} (hattach : attach h name address baseHdwr baseLen config = (.ok d, h')) :
    Card.Backed ⟨h', d⟩ ∧ d.Numbered ∧ h.Proceeds d none h' := by
  obtain ⟨hvalid, txPool, rxPool, h₁, h₂, htx, hrx, rfl, rfl⟩ := attach_cases hattach
  set d := fresh name address baseHdwr baseLen config.debug txPool rxPool
  have hbacked : Card.Backed ⟨h₂, d⟩ := backed_fresh hvalid htx hrx
  have hstarted : Card.Works ⟨h₂, d⟩ none ⟨start (prepare h₂ d config.rxSize) d, d⟩ :=
    (hbacked.works_prepare config.rxSize).trans (Card.works_start _)
  have hallocated : (awake h name).Proceeds d none h₂ :=
    (Host.Proceeds.allocatePool htx).trans (.allocatePool hrx)
  have hdone : h.Proceeds d none (start (prepare h₂ d config.rxSize) d) :=
    ((proceeds_awake h name d).trans hallocated).trans hstarted.writes
  exact ⟨hstarted.toKept.backed hbacked, numbered_fresh .., hdone⟩

/-- The buffers of a card that was attached have the sizes of its configuration. -/
theorem bufferSize_attach {h h' : Host Board} {name : String} {address : PciAddress} {baseHdwr baseLen : Nat}
    {config : Config} {d : Device} (hattach : attach h name address baseHdwr baseLen config = (.ok d, h')) :
    d.txPool.bufferSize = config.txSize ∧ d.rxPool.bufferSize = config.rxSize := by
  obtain ⟨-, txPool, rxPool, h₁, h₂, htx, hrx, rfl, -⟩ := attach_cases hattach
  exact ⟨(Host.stocked_allocatePool htx).bufferSize, (Host.stocked_allocatePool hrx).bufferSize⟩

/-- Whatever happens to a card after it was attached, its pools stay backed, its buffers are known by their
numbers, and its receive buffers have the configured size. -/
theorem backed_undergoAll {h h' : Host Board} {name : String} {address : PciAddress} {baseHdwr baseLen : Nat}
    {config : Config} {d : Device} (hattach : attach h name address baseHdwr baseLen config = (.ok d, h'))
    (deeds : List Deed) {c : Card Board} (hc : c = Card.undergoAll ⟨h', d⟩ deeds) :
    c.Backed ∧ c.device.Numbered ∧ c.device.rxPool.bufferSize = config.rxSize := by
  obtain ⟨hbacked, hnumbered, -⟩ := attach_backed hattach
  obtain ⟨-, hrxSize⟩ := bufferSize_attach hattach
  have hkept := hbacked.kept_undergoAll deeds
  rw [← hc] at hkept
  exact ⟨hkept.backed hbacked, hkept.device.numbered hnumbered, hkept.device.rxPool.bufferSize.trans hrxSize⟩

/-- Attaching that fails has made register writes in order too, with the pools that it had by then. -/
theorem attach_failed {h h' : Host Board} {name : String} {address : PciAddress} {baseHdwr baseLen : Nat}
    {config : Config} {e : Setback CardError}
    (hattach : attach h name address baseHdwr baseLen config = (.error e, h')) :
    ∃ d, h.Proceeds d none h' := by
  -- Until both pools are there no address is written, so that any buffers will do.
  let d₀ : Device := fresh name address baseHdwr baseLen config.debug (.empty .tx 0) (.empty .rx 0)
  have hawake (d : Device) : h.Proceeds d none (awake h name) := proceeds_awake h name d
  unfold attach at hattach
  split at hattach
  · obtain ⟨-, rfl⟩ := Prod.mk.inj hattach
    exact ⟨d₀, .refl h⟩
  · rename_i hvalid
    simp only [Host.read] at hattach
    split at hattach
    · rename_i htx
      obtain ⟨-, rfl⟩ := Prod.mk.inj hattach
      exact ⟨d₀, (hawake d₀).trans (.allocatePool htx)⟩
    · rename_i htx
      obtain ⟨-, rfl⟩ := Prod.mk.inj hattach
      exact ⟨d₀, ((hawake d₀).trans (.allocatePool htx)).holdReset⟩
    · rename_i txPool h₁ htx
      have hfilled (d : Device) : h.Proceeds d none h₁ := (hawake d).trans (.allocatePool htx)
      split at hattach
      · rename_i hrx
        obtain ⟨-, rfl⟩ := Prod.mk.inj hattach
        exact ⟨d₀, ((hfilled d₀).trans (.allocatePool hrx)).noteAll _⟩
      · rename_i hrx
        obtain ⟨-, rfl⟩ := Prod.mk.inj hattach
        exact ⟨d₀, (((hfilled d₀).trans (.allocatePool hrx)).releasePool txPool).holdReset⟩
      · rename_i rxPool h₂ hrx
        split at hattach
        · simp at hattach
        · obtain ⟨-, rfl⟩ := Prod.mk.inj hattach
          set d := fresh name address baseHdwr baseLen config.debug txPool rxPool
          have hbacked : Card.Backed ⟨h₂, d⟩ := backed_fresh hvalid htx hrx
          have hprepared : h₂.Proceeds d none (prepare h₂ d config.rxSize) :=
            (hbacked.works_prepare config.rxSize).writes
          exact ⟨d, (((hfilled d).trans (.allocatePool hrx)).trans hprepared).trans
            (Card.proceeds_release ⟨prepare h₂ d config.rxSize, d⟩ d)⟩

/-- From attaching to releasing, a driver makes register writes only that are in order: it gives the
card addresses of live buffers only. This is so of attaching whether it succeeds or not; then of
everything that the driver does, whatever has happened before, and of releasing the card, whenever that
is. -/
theorem writes_proper (h : Host Board) (name : String) (address : PciAddress) (baseHdwr baseLen : Nat)
    (config : Config) :
    match attach h name address baseHdwr baseLen config with
    | (.error _, h') => ∃ d, h.Proceeds d none h'
    | (.ok d, h') =>
      h.Proceeds d none h' ∧ ∀ deeds : List Deed,
        (∀ deed : Deed, deed.isForeign = false →
          (Card.undergoAll ⟨h', d⟩ deeds).host.Proceeds d deed.payload?
            ((Card.undergoAll ⟨h', d⟩ deeds).undergo deed).host) ∧
        (Card.undergoAll ⟨h', d⟩ deeds).host.Proceeds d none (Card.undergoAll ⟨h', d⟩ deeds).release := by
  split
  · rename_i hattach
    exact attach_failed hattach
  · rename_i d h' hattach
    obtain ⟨hbacked, -, hattached⟩ := attach_backed hattach
    refine ⟨hattached, fun deeds => ?_⟩
    have hkept := hbacked.kept_undergoAll deeds
    refine ⟨fun deed hown => ?_, Card.proceeds_release _ d⟩
    exact ((hkept.backed hbacked).works_undergo deed hown).writes.of_continues hkept.device

/-- A frame that is sent on lane 2 of the small card goes out in the first buffer. -/
theorem writes_proper_small :
    ∃ c : Card Board, c = Card.small.undergoAll [.move (.openSession true)] ∧
      c.host.Proceeds Card.small.device (some (Bytes.ofWords [5#32]))
        (c.undergo (.move (.call .refuses .empty (.send 2#32 1#32 [5#32])))).host ∧
      (c.undergo (.move (.call .refuses .empty (.send 2#32 1#32 [5#32])))).host.bus.writes.back? =
        some (Offset.txWrB + 8, 0x10000000#32) := by
  have hall := writes_proper (Host.powerUp 0x10000 32) "card" .standard 0 0 .small
  rw [attachSmall_eq] at hall
  exact ⟨_, rfl, (hall.2 _).1 (.move (.call .refuses .empty (.send 2#32 1#32 [5#32]))) rfl, by decide +kernel⟩

end Device

end LaneCard
