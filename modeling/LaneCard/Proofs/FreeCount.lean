import LaneCard.Card.Diagnostics
import LaneCard.Proofs.AttachRoom
import LaneCard.Proofs.ReceiveBuffers
import LaneCard.Proofs.Settling

/-!
# Counting free receive buffers

The state word of a lane shows its first free buffer as a bit and counts those behind it in ten bits, so that a
lane with 1025 free buffers looks like one with a single buffer. The diagnostics add up what the lanes show. This
is right as long as no lane has more than 1024 buffers, but a configuration may ask for any number of buffers, and
frames of one lane that nobody reads gather all of them there.
-/

namespace LaneCard

/-! ## What the lanes show -/

namespace Board

/-- The number of buffers that the state word of a lane with `n` of them shows: the first one, and those behind it
as far as ten bits count them. -/
def shown (n : Nat) : Nat := if n = 0 then 0 else (n - 1) % 1024 + 1

/-- The valid bit and the count of a state word, put together. -/
theorem shown_freeWord (n : Nat) :
    (FreeWord.valid.get (freeWord n)).toNat + (FreeWord.count.get (freeWord n)).toNat = shown n := by
  have hvalid : FreeWord.valid.get (freeWord n) = bitWord (n != 0) := by
    rw [freeWord, Field.get_set_of_apart _ _ (by decide) (by decide) (by decide), Field.get_set_self _ (by decide)]
    cases n != 0 <;> decide
  have hcount : (FreeWord.count.get (freeWord n)).toNat = (n - 1) % 1024 := by
    have hspan : 2 ^ FreeWord.count.width = 1024 := by decide
    rw [freeWord, Field.toNat_get_set _ (by decide), hspan, BitVec.toNat_ofNat]
    omega
  rw [hvalid, hcount, shown]
  by_cases hn : n = 0
  · subst hn
    rfl
  · rw [bitWord, if_pos (by simpa using hn), if_neg hn]
    exact Nat.add_comm _ _

/-- What is missing from what a lane shows is a multiple of 1024, and nothing if it has no more than that. -/
theorem exists_eq_shown (n : Nat) : ∃ k, n = shown n + 1024 * k ∧ (k = 0 ↔ n ≤ 1024) := by
  refine ⟨(n - 1) / 1024, ?_, by omega⟩
  unfold shown
  split <;> omega

/-- So it is with lanes together. -/
theorem exists_eq_foldl_shown (lanes : List Nat) (free : Nat → List Word) (total : Nat) :
    ∃ k, total + (lanes.flatMap free).length =
        lanes.foldl (fun total lane => total + shown (free lane).length) total + 1024 * k ∧
      (k = 0 ↔ ∀ lane ∈ lanes, (free lane).length ≤ 1024) := by
  induction lanes generalizing total with
  | nil => exact ⟨0, rfl, by simp⟩
  | cons lane rest ih =>
    obtain ⟨k, hk, hfew⟩ := exists_eq_shown (free lane).length
    obtain ⟨more, hmore, hrest⟩ := ih (total + shown (free lane).length)
    refine ⟨k + more, ?_, ?_⟩
    · rw [List.flatMap_cons, List.length_append, List.foldl_cons]
      omega
    · rw [List.forall_mem_cons, ← hfew, ← hrest]
      omega

end Board

namespace Card

/-- What the diagnostics add up for a lane. -/
theorem freeCount_eq (c : Card Board) {lane : Nat} (hlane : lane < laneCount) :
    c.freeCount lane = Board.shown (c.host.bus.freeList lane).length := by
  have hlook : c.host.look (Offset.rxFreeStat + 4 * lane) = Board.freeWord (c.host.bus.freeList lane).length :=
    c.host.bus.look_rxFreeStat hlane
  rw [freeCount, hlook]
  exact Board.shown_freeWord _

/-- What they add up for all lanes. -/
theorem rxFifo_eq (c : Card Board) :
    c.diagnostics.rxFifo =
      (List.range laneCount).foldl (fun total lane => total + Board.shown (c.host.bus.freeList lane).length) 0 :=
  List.foldl_ext _ _ _ fun total _ hlane => congrArg (total + ·) (c.freeCount_eq (List.mem_range.mp hlane))

/-- The diagnostics miss a multiple of 1024 buffers, and none exactly if no lane has more than that. -/
theorem exists_eq_rxFifo (c : Card Board) :
    ∃ k, (allFree c.host.bus.freeList).length = c.diagnostics.rxFifo + 1024 * k ∧
      (k = 0 ↔ ∀ lane < laneCount, (c.host.bus.freeList lane).length ≤ 1024) := by
  obtain ⟨k, hk, hfew⟩ := Board.exists_eq_foldl_shown (List.range laneCount) c.host.bus.freeList 0
  refine ⟨k, ?_, ?_⟩
  · rw [c.rxFifo_eq, ← hk, Nat.zero_add]
    rfl
  · rw [hfew]
    exact forall_congr' fun lane => by rw [List.mem_range]

end Card

/-! ## How many buffers the lanes have -/

namespace Holdings

variable {H : Holdings}

/-- No more buffers are free than there are. -/
theorem RxOwned.length_allFree_le {taken : List Word} (h : H.RxOwned taken) (hsound : H.Sound) :
    (allFree H.free).length ≤ H.rxPool.addrs.length := by
  have hnodup : (allFree H.free).Nodup := by
    rw [List.nodup_iff_count_le_one]
    intro addr
    by_cases haddr : addr ∈ allFree H.free
    · have hone := h.once addr (hsound.mem_addrs_of_mem_allFree haddr)
      rw [count_rxPlaces] at hone
      omega
    · rw [List.count_eq_zero.mpr haddr]
      exact Nat.zero_le 1
  exact (List.subperm_of_subset hnodup fun _ => hsound.mem_addrs_of_mem_allFree).length_le

end Holdings

/-- One lane has no more free buffers than all together. -/
theorem length_le_length_allFree (free : Nat → List Word) {lane : Nat} (hlane : lane < laneCount) :
    (free lane).length ≤ (allFree free).length :=
  (List.sublist_flatten_of_mem (List.mem_map_of_mem (List.mem_range.mpr hlane))).length_le

/-- A lane that does not have all free buffers leaves some to another one. -/
theorem exists_ne_nil_of_lt {free : Nat → List Word} (h : (free 0).length < (allFree free).length) :
    ∃ lane < laneCount, lane ≠ 0 ∧ free lane ≠ [] := by
  by_contra hnone
  have hrest : ∀ lane ∈ List.range' 1 7, free lane = [] := by
    intro lane hlane
    obtain ⟨hlow, hhigh⟩ := List.mem_range'_1.mp hlane
    by_contra hfree
    exact hnone ⟨lane, by unfold laneCount; omega, by omega, hfree⟩
  have hall : allFree free = free 0 ++ (List.range' 1 7).flatMap free := rfl
  rw [hall, List.flatMap_eq_nil_iff.mpr hrest, List.append_nil] at h
  exact absurd h (Nat.lt_irrefl _)

/-! ## Moving all buffers to one lane -/

namespace Card

/-- Nobody has the card open, interrupts are handled when they come, and nothing is to be handed over. -/
structure Receptive (c : Card Board) : Prop where
  isOpen : c.device.isOpen = false
  closed : c.wires.line.closed = false
  irq : c.wires.irq = IrqWord.enable.encode 1#32
  txReturns : c.host.bus.txReturns = []
  rxReturns : c.host.bus.rxReturns = []

/-- A frame that comes in raises an interrupt. -/
theorem Receptive.play_injectRx {c : Card Board} (h : c.Receptive) (desc : RxDescriptor) :
    (c.play (.injectRx desc)).2 =
      { c with
        host :=
          { c.host with
            bus := { c.host.bus with rxReturns := [desc.encode], handling := true }
            line := c.host.line.raise } } := by
  have hirq : c.host.bus.regs.get Offset.irq = IrqWord.enable.encode 1#32 := h.irq
  have henabled : Board.irqEnabled { c.host.bus with rxReturns := [desc.encode] } = true := by
    rw [Board.irqEnabled, hirq]
    decide
  have hfull : Board.hasCompletions { c.host.bus with rxReturns := [desc.encode] } = true := by
    simp [Board.hasCompletions]
  simp only [play, Board.injectRx, h.rxReturns, List.nil_append]
  rw [Board.interrupt, hfull, henabled, Bool.and_self, if_pos rfl]

/-- The frame of lane 0 in a buffer. -/
def blankFrame (addr : Word) : RxDescriptor := ⟨⟨0#32, 0#32, 0#32, FrameFlags.none⟩, addr⟩

/-- A card after such a frame came in and was handled. -/
def deposited (c : Card Board) (addr : Word) : Card Board :=
  ((c.play (.injectRx (blankFrame addr))).2.play (.serve 2)).2

/-- The words of such a frame are found again in its buffer. -/
theorem received_blankFrame (d : Device) {addr : Word} (haligned : addr.Aligned) (haddr : addr ∈ d.rxPool.addrs) :
    RxDescriptor.decode? (blankFrame addr).encode.1 (blankFrame addr).encode.2 = some (blankFrame addr) ∧
      (d.received [(blankFrame addr).encode]).map Prod.snd = [blankFrame addr] := by
  have htarget : (blankFrame addr).target = addr := (blankFrame addr).target_of_aligned haligned
  have hpacked : (blankFrame addr).packed = blankFrame addr := by
    rw [RxDescriptor.packed, htarget]
    simp [blankFrame]
  have hdecode := (blankFrame addr).decode?_encode
  rw [hpacked] at hdecode
  obtain ⟨i, hi⟩ := d.rxPool.exists_find? addr haddr
  have hfind : d.rxPool.find? (blankFrame addr).addr = some i := hi
  refine ⟨hdecode, ?_⟩
  simp only [Device.received, List.filterMap_cons, List.filterMap_nil, hdecode, Option.bind_some, hfind,
    Option.map_some, List.map_cons, List.map_nil]

/-- Its buffer goes to the free list of lane 0. -/
theorem Receptive.deposited {c : Card Board} (h : c.Receptive) {addr : Word} (haligned : addr.Aligned)
    (haddr : addr ∈ c.device.rxPool.addrs) :
    (c.deposited addr).Receptive ∧ (c.deposited addr).host.bus.freeList =
      Function.update c.host.bus.freeList 0 (c.host.bus.freeList 0 ++ [addr]) := by
  obtain ⟨hdecode, hreceived⟩ := received_blankFrame c.device haligned haddr
  rw [Card.deposited, h.play_injectRx]
  set raised : Card Board := { c with host := { c.host with line := c.host.line.raise, bus := _ } }
  have htx : raised.host.bus.txReturns = [] := h.txReturns
  have hrx : raised.host.bus.rxReturns = [(blankFrame addr).encode] := rfl
  have hfull : raised.host.bus.hasCompletions = true := Bool.or_true _
  have hclosed : c.host.line.closed = false := h.closed
  have hopen : raised.host.line.closed = false := (IrqLine.closed_raise _).trans hclosed
  have hpending : 0 < raised.host.line.pending := by
    change 0 < c.host.line.raise.pending
    rw [IrqLine.raise, hclosed, if_neg Bool.false_ne_true]
    exact Nat.succ_pos _
  obtain ⟨-, hprocessed, hidles⟩ := raised.settleFor_processes 2 hopen hpending hfull
    (by rw [htx, hrx]; exact Nat.le_succ 1)
  obtain ⟨-, -, -, hwires⟩ := raised.settle_of_raised hpending hopen hfull
    (by rw [holdings, Host.holdings, htx]; exact fun _ hw => (List.not_mem_nil hw).elim)
    (by rw [holdings, Host.holdings, hrx]; simp [hdecode])
  have hsettle : raised.settle = settleFor 2 raised := by
    rw [settle, htx, hrx, List.length_nil, List.length_singleton]
  rw [hsettle] at hwires
  have hisOpen : raised.device.isOpen = false := h.isOpen
  refine ⟨⟨?_, ?_, ?_, hidles.txReturns, hidles.rxReturns⟩, ?_⟩
  · exact (congrArg Device.isOpen hprocessed.device).trans ((Device.isOpen_processed _ _ _).trans hisOpen)
  · exact (congrArg (·.line.closed) hwires).trans hopen
  · exact congrArg (·.irq) hwires
  · refine hprocessed.free.trans ?_
    rw [hisOpen, if_neg Bool.false_ne_true, hrx, hreceived]
    exact returnTo_singleton _ (blankFrame addr)

/-- A free buffer of another lane can be moved to lane 0. -/
theorem Receptive.move {start c : Card Board} {past : List Happening} (h : c.Receptive)
    (hsound : c.holdings.Sound) (hrun : Run RxAllowed start past c) (htaken : takenIn past = []) {lane : Nat}
    {addr : Word} {rest : List Word} (hlist : c.host.bus.freeList lane = addr :: rest) (hlane : lane ≠ 0) :
    ∃ past' c', Run RxAllowed start past' c' ∧ takenIn past' = [] ∧ c'.Receptive ∧
      (c'.host.bus.freeList 0).length = (c.host.bus.freeList 0).length + 1 := by
  have hexists := Board.lt_of_freeList_eq_cons hlist
  have hfirst : c.holdings.free lane = addr :: rest := hlist
  have haddr : addr ∈ c.device.rxPool.addrs := hsound.known lane addr (hfirst ▸ List.mem_cons_self)
  have haligned : addr.Aligned := hsound.rxHeld.aligned_of_mem_addrs haddr
  have htarget : (blankFrame addr).target = addr := (blankFrame addr).target_of_aligned haligned
  set lifted := (c.play (.takeFree lane)).2 with hlifted
  have htake : lifted = { c with host := { c.host with bus := c.host.bus.setFree lane rest } } := by
    rw [hlifted]
    simp only [play, Board.takeFrom?, hlist]
  have hout : takenIn (past ++ [⟨c, .takeFree lane⟩]) = [addr] := by
    rw [takenIn_append, htaken]
    change [] ++ (c.holdings.free lane).take 1 = _
    rw [hfirst]
    rfl
  have hreceptive : lifted.Receptive := by
    rw [htake]
    exact { h with }
  have hknown : addr ∈ lifted.device.rxPool.addrs := by
    rw [htake]
    exact haddr
  obtain ⟨hafter, hfree⟩ := hreceptive.deposited haligned hknown
  -- The buffer is out of the card when the frame in it comes in.
  have hback : (blankFrame addr).target ∈ takenIn (past ++ [⟨c, .takeFree lane⟩]) := by
    rw [hout, htarget]
    exact List.mem_singleton_self addr
  have hfilled := (hrun.snoc (.takeFree lane) trivial).snoc (.injectRx (blankFrame addr)) (.inl hback)
  refine ⟨_, _, hfilled.snoc (.serve 2) trivial, ?_, hafter, ?_⟩
  · rw [takenIn_append, takenIn_append, hout]
    change [addr].erase (blankFrame addr).target = []
    rw [htarget, List.erase_cons_head]
  · have hless : lifted.host.bus.freeList 0 = c.host.bus.freeList 0 := by
      rw [htake]
      change (c.host.bus.setFree lane rest).freeList 0 = _
      rw [Board.freeList_setFree _ _ _ hexists, Function.update_of_ne hlane.symm]
    change ((lifted.deposited addr).host.bus.freeList 0).length = _
    rw [hfree, Function.update_self, hless, List.length_append, List.length_singleton]

end Card

/-- All receive buffers are free if none is on its way, to be read or out of the card. -/
theorem Device.length_free_of_run {h h' : Host Board} {name : String} {address : PciAddress}
    {baseHdwr baseLen : Nat} {config : Config} {d : Device} (hidle : h.Idle)
    (hattach : attach h name address baseHdwr baseLen config = (.ok d, h')) {past : List Happening}
    {c : Card Board} (hrun : Run RxAllowed ⟨h', d⟩ past c) (hreturns : c.host.bus.rxReturns = [])
    (htaken : takenIn past = []) :
    (allFree c.host.bus.freeList).length + c.device.rxReady.length = c.device.rxPool.size := by
  obtain ⟨hsound, hinv⟩ := rxInvariant_of_run hidle hattach hrun
  have howned : c.holdings.RxOwned [] := htaken ▸ hinv.owned
  have htotal := howned.length_add_length hsound.rxHeld.distinct (fun _ => hsound.mem_addrs_of_mem_allFree) hreturns
  rw [howned.length_unread] at htotal
  exact htotal.trans (BufferPool.length_addrs _)

/-- More than 1024 buffers can all be on one lane. -/
theorem Device.exists_run_of_many {h h' : Host Board} {name : String} {address : PciAddress}
    {baseHdwr baseLen : Nat} {config : Config} {d : Device} (hidle : h.Idle)
    (hattach : attach h name address baseHdwr baseLen config = (.ok d, h')) (hmany : 1024 < config.rxCount)
    (n : Nat) {past : List Happening} {c : Card Board} (hrun : Run RxAllowed ⟨h', d⟩ past c)
    (htaken : takenIn past = []) (hc : c.Receptive) (hn : 1024 < (c.host.bus.freeList 0).length + n) :
    ∃ past' c', Run RxAllowed ⟨h', d⟩ past' c' ∧ takenIn past' = [] ∧ c'.Receptive ∧
      1024 < (c'.host.bus.freeList 0).length := by
  induction n generalizing past c with
  | zero => exact ⟨past, c, hrun, htaken, hc, hn⟩
  | succ n ih =>
    by_cases hdone : 1024 < (c.host.bus.freeList 0).length
    · exact ⟨past, c, hrun, htaken, hc, hdone⟩
    · obtain ⟨hsound, hinv⟩ := rxInvariant_of_run hidle hattach hrun
      have hunread : c.device.rxReady.length = 0 := by
        have hnone := congrArg List.length (hinv.idle hc.isOpen)
        rwa [hinv.owned.length_unread] at hnone
      have htotal := length_free_of_run hidle hattach hrun hc.rxReturns htaken
      rw [hunread, Nat.add_zero, rxPool_size_of_run hidle hattach hrun] at htotal
      have hless : (c.host.bus.freeList 0).length < (allFree c.host.bus.freeList).length := by omega
      obtain ⟨lane, -, hlane, hsome⟩ := exists_ne_nil_of_lt hless
      obtain ⟨addr, rest, hlist⟩ := List.exists_cons_of_ne_nil hsome
      obtain ⟨past', c', hrun', htaken', hc', hmore⟩ := hc.move hsound hrun htaken hlist hlane
      exact ih hrun' htaken' hc' (by omega)

/-! ## A card that has just been attached -/

/-- Buffers that are offered one lane after the other are spread evenly. -/
theorem length_returnTo_offers (index : Nat) (addrs : List Word) {lane : Nat} (hlane : lane < laneCount) :
    (returnTo (fun _ => []) (Host.offers index addrs) lane).length + (index + 7 - lane) / 8 =
      (index + addrs.length + 7 - lane) / 8 := by
  unfold returnTo
  rw [List.nil_append, List.length_map]
  induction addrs generalizing index with
  | nil =>
    rw [Host.offers, List.filter_nil, List.length_nil, Nat.zero_add]
    rfl
  | cons addr rest ih =>
    have hrest := ih (index + 1)
    have hindex : (BitVec.ofNat 32 (index % laneCount)).toNat % laneCount = index % laneCount := by
      simp only [BitVec.toNat_ofNat, laneCount]
      omega
    rw [Host.offers, List.filter_cons, hindex, List.length_cons]
    unfold laneCount at *
    by_cases hsame : index % 8 = lane
    · rw [if_pos (by simpa using hsame), List.length_cons]
      omega
    · rw [if_neg (by simpa using hsame)]
      omega

namespace Device

variable {h h' : Host Board} {name : String} {address : PciAddress} {baseHdwr baseLen : Nat} {config : Config}
  {d : Device}

/-- The buffers of each lane. -/
theorem length_freeList_attach (hidle : h.Idle)
    (hattach : attach h name address baseHdwr baseLen config = (.ok d, h')) {lane : Nat} (hlane : lane < laneCount) :
    (h'.bus.freeList lane).length = (config.rxCount + 7 - lane) / 8 := by
  have hattached := attached hidle hattach
  have hfree : h'.bus.freeList = _ := hattached.free
  have hlength := length_returnTo_offers 0 (h'.holdings d).rxPool.addrs hlane
  rw [← hfree, BufferPool.length_addrs, hattached.rxSize.1] at hlength
  unfold laneCount at hlane
  omega

/-- All buffers are free. -/
theorem length_allFree_attach (hidle : h.Idle)
    (hattach : attach h name address baseHdwr baseLen config = (.ok d, h')) :
    (allFree h'.bus.freeList).length = config.rxCount ∧ d.rxReady.length = 0 ∧ d.rxPool.size = config.rxCount := by
  have hattached := attached hidle hattach
  have hunread : d.rxReady.length = 0 := by
    rw [← Ring.length_toList]
    exact congrArg List.length hattached.rxReady.1
  have htotal : (allFree h'.bus.freeList).length + d.rxReady.length = d.rxPool.size :=
    length_free_of_run hidle hattach .nil hattached.rxReturns rfl
  have hsize : d.rxPool.size = config.rxCount := hattached.rxSize.1
  exact ⟨by omega, hunread, hsize⟩

/-- Nobody has the card open, and nothing is to be handed over. -/
theorem receptive_attach (hidle : h.Idle)
    (hattach : attach h name address baseHdwr baseLen config = (.ok d, h')) (hclosed : h'.line.closed = false) :
    Card.Receptive ⟨h', d⟩ where
  isOpen := (attached hidle hattach).closed
  closed := hclosed
  irq := congrArg Wires.irq (wires_attach hidle hattach)
  txReturns := (attached hidle hattach).txReturns
  rxReturns := (attached hidle hattach).rxReturns

end Device

/-- What the diagnostics say of the free receive buffers of a card that was attached as `start`. -/
structure FreeCounted (config : Config) (start : Card Board) : Prop where
  /-- A lane shows its first buffer, and counts those behind it in ten bits. -/
  lane : ∀ c : Card Board, ∀ lane < laneCount,
    c.freeCount lane = Board.shown (c.host.bus.freeList lane).length
  /-- Whatever has happened, a multiple of 1024 buffers is missing, and none exactly if no lane has more than
  that. -/
  total : ∀ c : Card Board, ∃ k, (allFree c.host.bus.freeList).length = c.diagnostics.rxFifo + 1024 * k ∧
    (k = 0 ↔ ∀ lane < laneCount, (c.host.bus.freeList lane).length ≤ 1024)
  /-- If no frame is on its way and no buffer is out of the card, then all buffers are counted in the same case. -/
  drained : ∀ past c, Run RxAllowed start past c → c.host.bus.rxReturns = [] → takenIn past = [] →
    (c.diagnostics.rxFifo + c.diagnostics.rxQueued = c.diagnostics.rxBuffers ↔
      ∀ lane < laneCount, (c.host.bus.freeList lane).length ≤ 1024)
  /-- With no more than 1024 buffers the count is right at all times. -/
  few : config.rxCount ≤ 1024 → ∀ past c, Run RxAllowed start past c →
    c.diagnostics.rxFifo = (allFree c.host.bus.freeList).length
  /-- With more buffers it comes to be wrong. -/
  many : 1024 < config.rxCount → start.host.line.closed = false →
    ∃ past c, Run RxAllowed start past c ∧ c.host.bus.rxReturns = [] ∧ takenIn past = [] ∧
      c.diagnostics.rxFifo < (allFree c.host.bus.freeList).length ∧
        c.diagnostics.rxFifo + c.diagnostics.rxQueued < c.diagnostics.rxBuffers
  /-- It is right to begin with, unless there are more than eight times as many. -/
  attached : start.diagnostics.rxFifo = config.rxCount ↔ config.rxCount ≤ 8192

/-- The diagnostics count the free receive buffers of an attached card as long as no lane has more than 1024 of them.
This is so at all times if the card has no more than 1024 receive buffers; if it has more, there is a run after which
some are missing from the count. -/
theorem Device.freeCounted_attach {h h' : Host Board} {name : String} {address : PciAddress}
    {baseHdwr baseLen : Nat} {config : Config} {d : Device} (hidle : h.Idle)
    (hattach : attach h name address baseHdwr baseLen config = (.ok d, h')) : FreeCounted config ⟨h', d⟩ := by
  constructor
  case lane => exact fun c lane hlane => c.freeCount_eq hlane
  case total => exact fun c => c.exists_eq_rxFifo
  case drained =>
    intro past c hrun hreturns htaken
    have htotal := length_free_of_run hidle hattach hrun hreturns htaken
    obtain ⟨k, hk, hfew⟩ := c.exists_eq_rxFifo
    rw [← hfew]
    change c.diagnostics.rxFifo + c.device.rxReady.length = c.device.rxPool.size ↔ k = 0
    omega
  case few =>
    intro hcount past c hrun
    obtain ⟨hsound, hinv⟩ := rxInvariant_of_run hidle hattach hrun
    have htotal : (allFree c.host.bus.freeList).length ≤ c.device.rxPool.size :=
      Nat.le_trans (hinv.owned.length_allFree_le hsound) (Nat.le_of_eq (BufferPool.length_addrs _))
    have hsize := rxPool_size_of_run hidle hattach hrun
    obtain ⟨k, hk, hfew⟩ := c.exists_eq_rxFifo
    have hnone : k = 0 := hfew.mpr fun lane hlane => by
      have hlength := length_le_length_allFree c.host.bus.freeList hlane
      omega
    omega
  case many =>
    intro hcount hclosed
    have hstart := receptive_attach hidle hattach hclosed
    obtain ⟨past, c, hrun, htaken, hc, hpiled⟩ :=
      exists_run_of_many hidle hattach hcount 1025 .nil rfl hstart (by omega)
    have htotal := length_free_of_run hidle hattach hrun hc.rxReturns htaken
    obtain ⟨k, hk, hfew⟩ := c.exists_eq_rxFifo
    have hsome : k ≠ 0 := fun hnone => absurd (hfew.mp hnone 0 (by decide)) (by omega)
    refine ⟨past, c, hrun, hc.rxReturns, htaken, by omega, ?_⟩
    change c.diagnostics.rxFifo + c.device.rxReady.length < c.device.rxPool.size
    omega
  case attached =>
    obtain ⟨htotal, -, -⟩ := length_allFree_attach hidle hattach
    obtain ⟨k, hk, hfew⟩ := Card.exists_eq_rxFifo ⟨h', d⟩
    change (allFree h'.bus.freeList).length = _ at hk
    have hspread : (∀ lane < laneCount, (h'.bus.freeList lane).length ≤ 1024) ↔ config.rxCount ≤ 8192 := by
      constructor
      · intro hall
        have hfirst := hall 0 (by decide)
        rw [length_freeList_attach hidle hattach (by decide)] at hfirst
        omega
      · intro hcount lane hlane
        rw [length_freeList_attach hidle hattach hlane]
        omega
    rw [← hspread, ← hfew]
    omega

/-- With two buffers the count is right at all times. -/
theorem Device.freeCounted_attach_small :
    Card.small.diagnostics.rxFifo = 2 ∧ ∀ past c, Run RxAllowed Card.small past c →
      c.diagnostics.rxFifo = (allFree c.host.bus.freeList).length := by
  have hcounted := freeCounted_attach (Host.idle_powerUp _ _) attachSmall_eq
  exact ⟨hcounted.attached.mpr (by decide), hcounted.few (by decide)⟩

/-- A card that has just been attached with 8193 receive buffers shows 1024 fewer, since 1025 of them are on
lane 0. -/
theorem Device.rxFifo_short :
    ∃ d h', attach (Host.powerUp 0x10000 32) "card" .standard 0 0 ⟨1, 8, 8193, 8, 0#32, 1⟩ = (.ok d, h') ∧
      h'.bus.rxReturns = [] ∧ (allFree h'.bus.freeList).length = 8193 ∧
        (Card.mk h' d).diagnostics.rxFifo = 7169 ∧ (Card.mk h' d).diagnostics.rxQueued = 0 ∧
          (Card.mk h' d).diagnostics.rxBuffers = 8193 := by
  have hidle := Host.idle_powerUp 0x10000 32
  obtain ⟨d, h', hattach⟩ := attach_powerUp 0x10000 32 "card" .standard 0 0 ⟨1, 8, 8193, 8, 0#32, 1⟩
    (by decide) rfl (by decide)
  obtain ⟨htotal, hunread, hsize⟩ := length_allFree_attach hidle hattach
  have hspread : (Card.mk h' d).diagnostics.rxFifo =
      (List.range laneCount).foldl (fun total lane => total + Board.shown ((8193 + 7 - lane) / 8)) 0 := by
    rw [Card.rxFifo_eq]
    refine List.foldl_ext _ _ _ fun total lane hlane => ?_
    rw [length_freeList_attach hidle hattach (List.mem_range.mp hlane)]
  exact ⟨d, h', hattach, (attached hidle hattach).rxReturns, htotal, hspread, hunread, hsize⟩

end LaneCard
