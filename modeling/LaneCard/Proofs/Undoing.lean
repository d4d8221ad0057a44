import LaneCard.Proofs.Accounts
import LaneCard.Proofs.Lifetime

/-!
# Attaching is all or nothing

A card is attached in steps, each of which can fail. If all of them succeed the card is ready: both
pools are there, every receive buffer is offered on the lane of its number, and interrupts are enabled
last. If one of them fails the driver undoes what it has done, so that the allocator has gained nothing
and the card is back in reset with no other register written. This holds of every configuration whose
two tables of buffers can be laid out. If one of them cannot, attaching is cut short and undoes nothing:
the card stays out of reset, and a transmit pool that was allocated before keeps its regions.
-/

namespace LaneCard

/-! ## Writes in closed form -/

/-- A register write that does nothing but store the word. -/
def Board.stored (b : Board) (offset : Nat) (value : Word) : Board :=
  { b.logged offset value with regs := b.regs.set offset value }

/-- A card whose reset bit was set is in reset. -/
theorem isSet_cardReset_or (word : Word) :
    ResetWord.cardReset.isSet (word ||| ResetWord.cardReset.mask) = true := by
  rw [ResetWord.cardReset.isSet_eq_getLsbD rfl, BitVec.getLsbD_or, ResetWord.cardReset.getLsbD_mask (by decide)]
  simp [ResetWord.cardReset, Field.bit]

/-- A card whose reset bit was cleared is not. -/
theorem isSet_cardReset_and_not (word : Word) :
    ResetWord.cardReset.isSet (word &&& ~~~ResetWord.cardReset.mask) = false := by
  rw [ResetWord.cardReset.isSet_eq_getLsbD rfl, BitVec.getLsbD_and, BitVec.getLsbD_not,
    ResetWord.cardReset.getLsbD_mask (by decide)]
  simp [ResetWord.cardReset, Field.bit]

namespace Host

/-- The addresses that go to a lane when buffers are offered one lane after the other. -/
def share (lane index : Nat) (addrs : List Word) : List Word :=
  ((addrs.zipIdx index).filter fun entry => entry.2 % laneCount == lane).map Prod.fst

/-- The register writes with which buffers are offered. -/
def offerWrites (index : Nat) (addrs : List Word) : List (Nat × Word) :=
  (addrs.zipIdx index).map fun entry => (Offset.rxFree + 4 * (entry.2 % laneCount), entry.1)

/-- Changing the reset register stores a word and does nothing else. -/
theorem modify_cardRstStat (h : Host Board) (change : Word → Word) :
    h.modify Offset.cardRstStat change =
      { h with
        bus := h.bus.stored Offset.cardRstStat (change (h.bus.regs.get Offset.cardRstStat)) } := rfl

/-- Offering buffers appends to each lane its share, and writes one address after the other. -/
theorem offer_eq (h : Host Board) (index : Nat) (addrs : List Word) :
    ∃ free, h.offer index addrs =
        { h with
          bus :=
            { h.bus with
              free := free
              writes := h.bus.writes ++ (offerWrites index addrs).toArray } } ∧
      ∀ lane < laneCount, (h.offer index addrs).bus.freeList lane =
        h.bus.freeList lane ++ share lane index addrs := by
  induction addrs generalizing h index with
  | nil => exact ⟨h.bus.free, by simp [offer, offerWrites], by simp [offer, share]⟩
  | cons addr rest ih =>
    have hlane : index % laneCount < laneCount := Nat.mod_lt _ (by decide)
    have hfirst : h.write (Offset.rxFree + 4 * (index % laneCount)) addr = _ :=
      Board.store_rxFree h (index % laneCount) addr hlane
    obtain ⟨free, hrest, hlists⟩ := ih (h.write (Offset.rxFree + 4 * (index % laneCount)) addr) (index + 1)
    refine ⟨free, ?_, fun lane hin => ?_⟩
    · rw [offer, hrest, hfirst]
      simp [Board.setFree, Board.logged, offerWrites]
    · have hset := Board.freeList_setFree (h.bus.logged (Offset.rxFree + 4 * (index % laneCount)) addr)
        (index % laneCount) (h.bus.freeList (index % laneCount) ++ [addr]) hlane
      have hone : (h.write (Offset.rxFree + 4 * (index % laneCount)) addr).bus.freeList lane =
          Function.update h.bus.freeList (index % laneCount) (h.bus.freeList (index % laneCount) ++ [addr])
            lane := by
        rw [hfirst]
        exact congrFun hset lane
      rw [offer, hlists lane hin, hone, Function.update_apply]
      by_cases hmine : lane = index % laneCount
      · subst hmine
        simp [share]
      · simp [share, hmine, Ne.symm hmine]

/-- Allocating a pool writes no register, wherever its buffers come from. -/
theorem bus_allocatePool {h h' : Host Board} {direction : Direction} {count size : Nat}
    {result : Except (Setback CardError) BufferPool} (hpool : h.allocatePool direction count size = (result, h')) :
    h'.bus = h.bus := by
  unfold allocatePool at hpool
  obtain ⟨-, rfl⟩ := Prod.mk.inj hpool
  unfold setBuffers noteAll
  split <;> rfl

/-- Allocating a pool comes to one of its ends, and writes no register. -/
theorem drawn_allocatePool {h h' : Host Board} {direction : Direction} {count size : Nat}
    {result : Except (Setback CardError) BufferPool} (hbuffers : h.buffers.Reachable)
    (hpool : h.allocatePool direction count size = (result, h')) :
    h'.bus = h.bus ∧ BufferPool.Drawn h.buffers h'.buffers count size result := by
  have hdrawn := BufferPool.drawn_allocate hbuffers direction count size
  refine ⟨bus_allocatePool hpool, ?_⟩
  unfold allocatePool at hpool
  generalize BufferPool.allocate direction count size h.buffers = allocated at hpool hdrawn
  obtain ⟨outcome, a, lines⟩ := allocated
  obtain ⟨rfl, rfl⟩ := Prod.mk.inj hpool
  have hafter : ((h.setBuffers a).noteAll lines).buffers = a := h.buffers_setBuffers a
  rw [hafter]
  exact hdrawn

/-- What attaching a card and releasing it leave as it is: the interrupt line, where the buffers come
from, and the two FIFOs of completions as far as there is something in them. The allocator is only used
as allocators are. -/
structure Persists (h h' : Host Board) : Prop where
  line : h'.line = h.line
  shared : h.apart = none → h'.apart = none
  reachable : h.buffers.Reachable → h'.buffers.Reachable
  completions : h'.bus.hasCompletions = h.bus.hasCompletions

namespace Persists

variable {h h' h'' : Host Board}

/-- A host persists as it is. -/
theorem refl (h : Host Board) : h.Persists h := ⟨rfl, id, id, rfl⟩

/-- Hosts that persist may follow each other. -/
theorem trans (hfirst : h.Persists h') (hrest : h'.Persists h'') : h.Persists h'' :=
  ⟨hrest.line.trans hfirst.line, hrest.shared ∘ hfirst.shared, hrest.reachable ∘ hfirst.reachable,
    hrest.completions.trans hfirst.completions⟩

/-- Lines in the journal change nothing else. -/
theorem note (hfirst : h.Persists h') (level : Level) (text : String) : h.Persists (h'.note level text) :=
  { hfirst with }

/-- Lines in the journal are no change. -/
theorem noteAll (hfirst : h.Persists h') (lines : List Line) : h.Persists (h'.noteAll lines) := { hfirst with }

/-- Changing the reset register does nothing else. -/
theorem modify_cardRstStat (hfirst : h.Persists h') (change : Word → Word) :
    h.Persists (h'.modify Offset.cardRstStat change) := { hfirst with }

/-- Neither does holding the card in reset. -/
theorem holdReset (hfirst : h.Persists h') : h.Persists h'.holdReset :=
  hfirst.modify_cardRstStat (· ||| ResetWord.cardReset.mask)

/-- Setting the frame limit does nothing else. -/
theorem write_rxMaxFrame (hfirst : h.Persists h') (value : Word) :
    h.Persists (h'.write Offset.rxMaxFrame value) := { hfirst with }

/-- Offering buffers raises no interrupt. -/
theorem offer (hfirst : h.Persists h') (index : Nat) (addrs : List Word) : h.Persists (h'.offer index addrs) := by
  obtain ⟨free, hoffer, -⟩ := h'.offer_eq index addrs
  rw [hoffer]
  exact { hfirst with }

/-- Allocating a pool uses the allocator, and nothing else. -/
theorem allocatePool {direction : Direction} {count size : Nat} {result : Except (Setback CardError) BufferPool}
    (hfirst : h.Persists h') (hpool : h'.allocatePool direction count size = (result, h'')) :
    h.Persists h'' := by
  have hdone := congrArg Prod.snd hpool
  have hused (hbuffers : h'.buffers.Reachable) : h''.buffers.Reachable :=
    (drawn_allocatePool hbuffers hpool).2.reachable hbuffers
  rw [Host.allocatePool] at hdone
  dsimp only at hdone
  refine hfirst.trans ⟨?_, fun hshared => ?_, hused, ?_⟩ <;> rw [← hdone] <;> unfold setBuffers Host.noteAll
  · split <;> rfl
  · rw [hshared]
  · split <;> rfl

/-- Releasing a pool uses the allocator, and nothing else. -/
theorem releasePool (hfirst : h.Persists h') (p : BufferPool) : h.Persists (h'.releasePool p) := by
  have hafter : (h'.releasePool p).buffers = (p.releaseAll h'.buffers).2.1 := h'.buffers_setBuffers _
  have hused (hbuffers : h'.buffers.Reachable) : (h'.releasePool p).buffers.Reachable := by
    rw [hafter]
    exact BufferPool.reachable_releaseRegions hbuffers _
  refine hfirst.trans ⟨?_, fun hshared => ?_, hused, ?_⟩ <;> unfold Host.releasePool setBuffers Host.noteAll
  · dsimp only
    split <;> rfl
  · dsimp only
    rw [hshared]
  · dsimp only
    split <;> rfl

end Persists

/-- Releasing a pool that was gained last leaves what was there before, and writes no register. -/
theorem gained_releasePool {h : Host Board} {a : Allocator} {p : BufferPool}
    (hgained : a.Gained h.buffers p.untouched) :
    a.Gained (h.releasePool p).buffers [] ∧ (h.releasePool p).bus = h.bus := by
  have hafter : (h.releasePool p).buffers = (p.releaseAll h.buffers).2.1 := h.buffers_setBuffers _
  have hbus : (h.releasePool p).bus = h.bus := by
    unfold releasePool setBuffers noteAll
    dsimp only
    split <;> rfl
  rw [hafter]
  exact ⟨(BufferPool.gained_releaseAll hgained).1, hbus⟩

end Host

/-! ## Tables that cannot be laid out -/

namespace Config

/-- The sizes of a configuration that was accepted can be rounded, so that a pool can be laid out unless
it has too many buffers. -/
theorem Valid.canHold {c : Config} (h : c.Valid) :
    (BufferPool.canHold c.txCount c.txSize = false → largestObject < c.txCount * BufferPool.entrySize) ∧
      (BufferPool.canHold c.rxCount c.rxSize = false → largestObject < c.rxCount * BufferPool.entrySize) := by
  have hmax : TxWord.length.maxValue.toNat = 0xFFFFFF := by decide
  have hround (size : Nat) (hsize : size / wordSize ≤ TxWord.length.maxValue.toNat) :
      Allocator.canRound size = true := by
    rw [hmax] at hsize
    simp only [wordSize] at hsize
    rw [Allocator.canRound, decide_eq_true_eq]
    simp only [Allocator.pageAligned, pageSize, pointerSpan]
    omega
  have hcount (count size : Nat) (hsize : Allocator.canRound size = true)
      (hno : BufferPool.canHold count size = false) : largestObject < count * BufferPool.entrySize := by
    simpa [BufferPool.canHold, canLayOut, hsize] using hno
  exact ⟨hcount _ _ (hround _ h.txSize.2.2), hcount _ _ (hround _ h.rxSize.2.2)⟩

end Config

namespace Device

/-- The frame limit of a size that fits is that size with the top bit set. -/
theorem frameLimit_eq (bytes : Nat) (hbytes : bytes ≤ MaxFrameWord.size.maxValue.toNat) :
    frameLimit bytes = BitVec.ofNat 32 bytes ||| 0x80000000#32 := by
  have hmax : MaxFrameWord.size.maxValue.toNat = 0x7FFFFFFF := by decide
  have hsmall : bytes < 2 ^ 31 := by omega
  apply BitVec.eq_of_getLsbD_eq
  intro i hi
  have htop : (0x80000000#32).getLsbD i = decide (i = 31) := by
    rw [show (0x80000000#32 : Word) = BitVec.twoPow 32 31 from rfl, BitVec.getLsbD_twoPow]
    simp [eq_comm]
  rw [frameLimit, Field.getLsbD_set _ (by decide), Field.getLsbD_set _ (by decide), BitVec.getLsbD_or, htop]
  simp only [MaxFrameWord.enable, MaxFrameWord.size, Field.bit]
  by_cases hlast : i = 31
  · subst hlast
    simp
  · have hlow : i < 31 := by omega
    simp [hlast, hlow, show ¬ 31 ≤ i by omega]

/-! ## The ends of attaching -/

/-- A card was attached, and is ready to send and to receive. -/
structure Started (h : Host Board) (config : Config) (d : Device) (h' : Host Board) : Prop where
  txFree : d.txFree.toList = List.range config.txCount
  rxReady : d.rxReady.toList = []
  size : d.txPool.size = config.txCount ∧ d.rxPool.size = config.rxCount
  /-- The regions of the buffers of both pools are live besides those from before. -/
  live : h'.buffers.live = d.rxPool.untouched ++ d.txPool.untouched ++ h.buffers.live
  reset : h'.bus.regs.get Offset.cardRstStat =
    h.bus.regs.get Offset.cardRstStat &&& ~~~ResetWord.cardReset.mask
  limit : h'.bus.regs.get Offset.rxMaxFrame = BitVec.ofNat 32 config.rxSize ||| 0x80000000#32
  others : ∀ offset, offset ≠ Offset.cardRstStat → offset ≠ Offset.rxMaxFrame → offset ≠ Offset.irq →
    h'.bus.regs.get offset = h.bus.regs.get offset
  free : ∀ lane < laneCount,
    h'.bus.freeList lane = h.bus.freeList lane ++ Host.share lane 0 d.rxPool.addrs
  writes : h'.bus.writes.toList =
    h.bus.writes.toList ++
      (Offset.cardRstStat, h.bus.regs.get Offset.cardRstStat &&& ~~~ResetWord.cardReset.mask) ::
      (Offset.rxMaxFrame, BitVec.ofNat 32 config.rxSize ||| 0x80000000#32) ::
      (Host.offerWrites 0 d.rxPool.addrs ++ [(Offset.irq, 1#32)])
  enabled : h'.bus.irqEnabled = true
  /-- The handler has nothing to do afterwards. -/
  quiet : h'.bus.hasCompletions = false

/-- Attaching failed, and everything that was done is undone: the allocator has what it had, and the two
register writes were that the card left reset and that it was put back. -/
structure Undone (h h' : Host Board) : Prop where
  live : h'.buffers.live = h.buffers.live
  liveBytes : h'.buffers.liveBytes = h.buffers.liveBytes
  used : ∃ n, h'.buffers.allocated = h.buffers.allocated + n ∧ h'.buffers.released = h.buffers.released + n
  bus : h'.bus =
    (h.bus.stored Offset.cardRstStat
        (h.bus.regs.get Offset.cardRstStat &&& ~~~ResetWord.cardReset.mask)).stored Offset.cardRstStat
      ((h.bus.regs.get Offset.cardRstStat &&& ~~~ResetWord.cardReset.mask) ||| ResetWord.cardReset.mask)
  reset : ResetWord.cardReset.isSet (h'.bus.regs.get Offset.cardRstStat) = true

/-- Attaching was cut short, as a table of buffers cannot be laid out: nothing is undone. -/
structure Abandoned (h : Host Board) (config : Config) (h' : Host Board) : Prop where
  unheld : (largestObject < config.txCount * BufferPool.entrySize ∧ h'.buffers = h.buffers) ∨
    (largestObject < config.rxCount * BufferPool.entrySize ∧
      ∃ left, h'.buffers.live = left ++ h.buffers.live ∧ left.length = config.txCount)
  bus : h'.bus =
    h.bus.stored Offset.cardRstStat
      (h.bus.regs.get Offset.cardRstStat &&& ~~~ResetWord.cardReset.mask)

/-- Leaving reset stores a word, and the allocator is not used. -/
theorem awake_eq (h : Host Board) (name : String) :
    (awake h name).bus =
        h.bus.stored Offset.cardRstStat
          (h.bus.regs.get Offset.cardRstStat &&& ~~~ResetWord.cardReset.mask) ∧
      (awake h name).buffers = h.buffers := by
  have hread (k : Host Board) : (k.read Offset.version).2 = k := k.read_of_isPlain (by decide)
  rw [awake, hread]
  exact ⟨rfl, rfl⟩

/-- A card that left reset and is put back has its two register writes behind it. -/
theorem undone_holdReset {h h' : Host Board} {name : String} (hbuffers : h.buffers.Reachable)
    (hgained : h.buffers.Gained h'.buffers []) (hbus : h'.bus = (awake h name).bus) :
    Undone h h'.holdReset := by
  have hheld : h'.holdReset = _ := h'.modify_cardRstStat (· ||| ResetWord.cardReset.mask)
  have hsame : h'.holdReset.buffers = h'.buffers := by rw [hheld]; rfl
  have hget : (awake h name).bus.regs.get Offset.cardRstStat =
      h.bus.regs.get Offset.cardRstStat &&& ~~~ResetWord.cardReset.mask := by
    rw [(awake_eq h name).1, Board.stored, RegisterFile.get_set, if_pos rfl]
  refine ⟨?_, ?_, ?_, ?_, ?_⟩
  · rw [hsame, hgained.live, List.nil_append]
  · rw [hsame, hgained.liveBytes hbuffers]
    exact Nat.zero_add _
  · rw [hsame]
    exact hgained.used
  · rw [hheld]
    dsimp only
    rw [hbus, hget, (awake_eq h name).1]
  · rw [hheld]
    simp only [Board.stored, RegisterFile.get_set, if_pos]
    exact isSet_cardReset_or _

/-- What preparing and starting a card does to a host without completions. -/
theorem start_prepare_eq (h : Host Board) (d : Device) (rxSize : Nat) (hquiet : h.bus.hasCompletions = false) :
    ∃ free journal, start (prepare h d rxSize) d =
        { h with
          bus :=
            { h.bus with
              regs := (h.bus.regs.set Offset.rxMaxFrame (frameLimit rxSize)).set Offset.irq 1#32
              free := free
              handling := false
              writes := h.bus.writes.push (Offset.rxMaxFrame, frameLimit rxSize) ++
                (Host.offerWrites 0 d.rxPool.addrs ++ [(Offset.irq, 1#32)]).toArray }
          journal := journal } ∧
      ∀ lane < laneCount, (start (prepare h d rxSize) d).bus.freeList lane =
        h.bus.freeList lane ++ Host.share lane 0 d.rxPool.addrs := by
  obtain ⟨free, hoffer, hlists⟩ := (h.write Offset.rxMaxFrame (frameLimit rxSize)).offer_eq 0 d.rxPool.addrs
  rw [← prepare] at hoffer hlists
  have hlimited : h.write Offset.rxMaxFrame (frameLimit rxSize) =
      { h with bus := h.bus.stored Offset.rxMaxFrame (frameLimit rxSize) } := rfl
  rw [hlimited] at hoffer hlists
  set prepared := prepare h d rxSize
  have hcompletions : prepared.bus.hasCompletions = false := by
    rw [hoffer]
    exact hquiet
  have hstore : prepared.write Offset.irq (IrqWord.enable.encode 1#32) = _ :=
    Board.store_irq_of_enable prepared (IrqWord.enable.encode 1#32) (by decide)
  rw [hcompletions, if_neg Bool.false_ne_true] at hstore
  refine ⟨free, (start prepared d).journal, ?_, fun lane hlane => ?_⟩
  · have henable : IrqWord.enable.encode 1#32 = 1#32 := by decide
    rw [start, hstore, hoffer, henable]
    simp [Host.note, Board.stored, Board.logged]
  · have hlast : (start prepared d).bus.freeList lane = prepared.bus.freeList lane := by
      rw [start, hstore]
      rfl
    rw [hlast, hlists lane hlane]
    rfl

/-- The ways in which attaching can go. -/
inductive Attempt (h : Host Board) (name : String) (address : PciAddress) (baseHdwr baseLen : Nat)
    (config : Config) : Except (Setback CardError) Device × Host Board → Prop
  /-- The configuration is not accepted. -/
  | refused {e : CardError} (hvalid : config.validate = .error e) :
      Attempt h name address baseHdwr baseLen config (.error (.failed e), h)
  | txFailed {e : CardError} {h₁ : Host Board} (hvalid : config.validate = .ok ())
      (htx : (awake h name).allocatePool .tx config.txCount config.txSize = (.error (.failed e), h₁)) :
      Attempt h name address baseHdwr baseLen config (.error (.failed e), h₁.holdReset)
  | txCut {h₁ : Host Board} (hvalid : config.validate = .ok ())
      (htx : (awake h name).allocatePool .tx config.txCount config.txSize = (.error .cutShort, h₁)) :
      Attempt h name address baseHdwr baseLen config (.error .cutShort, h₁)
  | rxFailed {e : CardError} {txPool : BufferPool} {h₁ h₂ : Host Board} (hvalid : config.validate = .ok ())
      (htx : (awake h name).allocatePool .tx config.txCount config.txSize = (.ok txPool, h₁))
      (hrx : h₁.allocatePool .rx config.rxCount config.rxSize = (.error (.failed e), h₂)) :
      Attempt h name address baseHdwr baseLen config (.error (.failed e), (h₂.releasePool txPool).holdReset)
  | rxCut {txPool : BufferPool} {h₁ h₂ : Host Board} (hvalid : config.validate = .ok ())
      (htx : (awake h name).allocatePool .tx config.txCount config.txSize = (.ok txPool, h₁))
      (hrx : h₁.allocatePool .rx config.rxCount config.rxSize = (.error .cutShort, h₂)) :
      Attempt h name address baseHdwr baseLen config (.error .cutShort, h₂.noteAll txPool.teardown)
  /-- The handler cannot be named. -/
  | unnamed {txPool rxPool : BufferPool} {h₁ h₂ : Host Board} {d : Device} (hvalid : config.validate = .ok ())
      (htx : (awake h name).allocatePool .tx config.txCount config.txSize = (.ok txPool, h₁))
      (hrx : h₁.allocatePool .rx config.rxCount config.rxSize = (.ok rxPool, h₂))
      (hname : canNameHandler name = false)
      (hdevice : d = fresh name address baseHdwr baseLen config.debug txPool rxPool) :
      Attempt h name address baseHdwr baseLen config
        (.error .cutShort, Card.release ⟨prepare h₂ d config.rxSize, d⟩)
  | started {txPool rxPool : BufferPool} {h₁ h₂ : Host Board} {d : Device} (hvalid : config.validate = .ok ())
      (htx : (awake h name).allocatePool .tx config.txCount config.txSize = (.ok txPool, h₁))
      (hrx : h₁.allocatePool .rx config.rxCount config.rxSize = (.ok rxPool, h₂))
      (hname : canNameHandler name = true)
      (hdevice : d = fresh name address baseHdwr baseLen config.debug txPool rxPool) :
      Attempt h name address baseHdwr baseLen config (.ok d, start (prepare h₂ d config.rxSize) d)

/-- Attaching goes in one of these ways. -/
theorem attempt (h : Host Board) (name : String) (address : PciAddress) (baseHdwr baseLen : Nat)
    (config : Config) :
    Attempt h name address baseHdwr baseLen config (attach h name address baseHdwr baseLen config) := by
  unfold attach
  split
  · rename_i hvalid
    exact .refused hvalid
  · rename_i hvalid
    simp only [Host.read]
    split
    · rename_i htx
      exact .txCut hvalid htx
    · rename_i e h₁ hcause htx
      cases e with
      | cutShort => exact absurd rfl hcause
      | failed e => exact .txFailed hvalid htx
    · rename_i txPool h₁ htx
      split
      · rename_i hrx
        exact .rxCut hvalid htx hrx
      · rename_i e h₂ hcause hrx
        cases e with
        | cutShort => exact absurd rfl hcause
        | failed e => exact .rxFailed hvalid htx hrx
      · rename_i rxPool h₂ hrx
        split
        · rename_i hname
          exact .started hvalid htx hrx hname rfl
        · rename_i hname
          exact .unnamed hvalid htx hrx (by simpa using hname) rfl

/-- However attaching ends, the interrupt line and the completions are as they were. -/
theorem attach_persists (h : Host Board) (name : String) (address : PciAddress) (baseHdwr baseLen : Nat)
    (config : Config) (hquiet : h.bus.hasCompletions = false) :
    h.Persists (attach h name address baseHdwr baseLen config).2 := by
  have hwoken : h.Persists (awake h name) := by
    have hread (k : Host Board) : (k.read Offset.version).2 = k := k.read_of_isPlain (by decide)
    rw [awake, hread]
    exact (Host.Persists.modify_cardRstStat (.refl h) _).note _ _
  have hattempt := attempt h name address baseHdwr baseLen config
  generalize attach h name address baseHdwr baseLen config = result at hattempt
  cases hattempt with
  | refused hvalid => exact .refl h
  | txFailed hvalid htx => exact (hwoken.allocatePool htx).holdReset
  | txCut hvalid htx => exact hwoken.allocatePool htx
  | @rxFailed _ txPool h₁ h₂ hvalid htx hrx =>
    exact (((hwoken.allocatePool htx).allocatePool hrx).releasePool txPool).holdReset
  | rxCut hvalid htx hrx => exact ((hwoken.allocatePool htx).allocatePool hrx).noteAll _
  | @unnamed txPool rxPool h₁ h₂ d hvalid htx hrx hname hdevice =>
    have hprepared : h.Persists (prepare h₂ d config.rxSize) :=
      (((hwoken.allocatePool htx).allocatePool hrx).write_rxMaxFrame _).offer _ _
    have hreleased := ((hprepared.write_rxMaxFrame 0#32).releasePool d.txPool).releasePool d.rxPool
    exact hreleased.holdReset.note _ _
  | @started txPool rxPool h₁ h₂ d hvalid htx hrx hname hdevice =>
    have hpools := (hwoken.allocatePool htx).allocatePool hrx
    obtain ⟨free, journal, hstarted, -⟩ :=
      start_prepare_eq h₂ d config.rxSize (hpools.completions.trans hquiet)
    dsimp only
    rw [hstarted]
    exact { hpools with }

/-- A card whose pools were allocated is ready once it is prepared and started. -/
theorem started_fresh {h h₁ h₂ : Host Board} {name : String} {address : PciAddress} {baseHdwr baseLen : Nat}
    {config : Config} {txPool rxPool : BufferPool} {d : Device} (hquiet : h.bus.hasCompletions = false)
    (hbuffers : h.buffers.Reachable) (hvalid : config.validate = .ok ())
    (htx : (awake h name).allocatePool .tx config.txCount config.txSize = (.ok txPool, h₁))
    (hrx : h₁.allocatePool .rx config.rxCount config.rxSize = (.ok rxPool, h₂))
    (hdevice : d = fresh name address baseHdwr baseLen config.debug txPool rxPool) :
    Started h config d (start (prepare h₂ d config.rxSize) d) := by
  obtain ⟨hwoken, hsame⟩ := awake_eq h name
  obtain ⟨htxBus, htxGained, htxSize⟩ := Host.drawn_allocatePool (hsame ▸ hbuffers) htx
  obtain ⟨hrxBus, hrxGained, hrxSize⟩ := Host.drawn_allocatePool htxGained.reachable hrx
  rw [hsame] at htxGained
  have hbus : h₂.bus = _ := hrxBus.trans (htxBus.trans hwoken)
  have hlimit := frameLimit_eq config.rxSize (Config.valid_of_validate hvalid).rxLimit
  have hstill : h₂.bus.hasCompletions = false := by
    rw [hbus]
    exact hquiet
  obtain ⟨free, journal, hstarted, hlists⟩ := start_prepare_eq h₂ d config.rxSize hstill
  have hregs : (start (prepare h₂ d config.rxSize) d).bus.regs =
      ((h.bus.regs.set Offset.cardRstStat
          (h.bus.regs.get Offset.cardRstStat &&& ~~~ResetWord.cardReset.mask)).set Offset.rxMaxFrame
        (frameLimit config.rxSize)).set Offset.irq 1#32 := by
    rw [hstarted, hbus]
    rfl
  have hlive : (start (prepare h₂ d config.rxSize) d).buffers = h₂.buffers := by
    rw [hstarted]
    rfl
  exact
    { txFree := by
        rw [hdevice]
        change (Ring.ofList txPool.size (List.range txPool.size)).toList = _
        rw [Ring.toList_ofList _ _ (Nat.le_of_eq List.length_range), htxSize]
      rxReady := by
        rw [hdevice]
        exact Ring.toList_new _
      size := by
        rw [hdevice]
        exact ⟨htxSize, hrxSize⟩
      live := by
        rw [hlive, hrxGained.live, htxGained.live, hdevice, List.append_assoc]
        rfl
      reset := by
        rw [hregs]
        simp [RegisterFile.get_set, Offset.cardRstStat, Offset.rxMaxFrame, Offset.irq]
      limit := by
        rw [hregs, ← hlimit]
        simp [RegisterFile.get_set, Offset.rxMaxFrame, Offset.irq]
      others := fun offset hreset hframe hirq => by
        rw [hregs]
        simp only [RegisterFile.get_set, if_neg hreset, if_neg hframe, if_neg hirq]
      free := fun lane hlane => by
        rw [hlists lane hlane, hbus]
        rfl
      writes := by
        rw [hstarted, hbus, hlimit]
        simp [Board.stored, Board.logged]
      enabled := by
        rw [Board.irqEnabled, hregs, RegisterFile.get_set, if_pos rfl]
        decide
      quiet := by
        rw [hstarted]
        exact hstill }

section

variable {h h' : Host Board} {name : String} {address : PciAddress} {baseHdwr baseLen : Nat} {config : Config}

/-- A card that was attached is ready. -/
theorem started_of_ok {d : Device} (hquiet : h.bus.hasCompletions = false) (hbuffers : h.buffers.Reachable)
    (hdone : attach h name address baseHdwr baseLen config = (.ok d, h')) : Started h config d h' := by
  have hattempt := attempt h name address baseHdwr baseLen config
  rw [hdone] at hattempt
  cases hattempt with
  | started hvalid htx hrx hname hdevice => exact started_fresh hquiet hbuffers hvalid htx hrx hdevice

/-- If attaching failed, either the configuration was refused and nothing was done, or everything is undone. -/
theorem undone_of_failed {e : CardError} (hbuffers : h.buffers.Reachable)
    (hdone : attach h name address baseHdwr baseLen config = (.error (.failed e), h')) :
    (config.validate = .error e ∧ h' = h) ∨ (config.validate = .ok () ∧ Undone h h') := by
  obtain ⟨-, hsame⟩ := awake_eq h name
  have hattempt := attempt h name address baseHdwr baseLen config
  rw [hdone] at hattempt
  cases hattempt with
  | refused hvalid => exact .inl ⟨hvalid, rfl⟩
  | txFailed hvalid htx =>
    obtain ⟨hbus, hgained⟩ := Host.drawn_allocatePool (hsame ▸ hbuffers) htx
    rw [hsame] at hgained
    exact .inr ⟨hvalid, undone_holdReset hbuffers hgained hbus⟩
  | rxFailed hvalid htx hrx =>
    obtain ⟨htxBus, htxGained, -⟩ := Host.drawn_allocatePool (hsame ▸ hbuffers) htx
    obtain ⟨hrxBus, hrxGained⟩ := Host.drawn_allocatePool htxGained.reachable hrx
    rw [hsame] at htxGained
    obtain ⟨hgained, hbus⟩ := Host.gained_releasePool (htxGained.trans hrxGained)
    exact .inr ⟨hvalid, undone_holdReset hbuffers hgained (hbus.trans (hrxBus.trans htxBus))⟩

/-- If attaching was cut short, a table could not be laid out, and what was done by then stays. -/
theorem abandoned_of_cutShort (hbuffers : h.buffers.Reachable) (hnamed : canNameHandler name = true)
    (hdone : attach h name address baseHdwr baseLen config = (.error .cutShort, h')) :
    config.validate = .ok () ∧ Abandoned h config h' := by
  obtain ⟨hwoken, hsame⟩ := awake_eq h name
  have hattempt := attempt h name address baseHdwr baseLen config
  rw [hdone] at hattempt
  cases hattempt with
  | txCut hvalid htx =>
    obtain ⟨hbus, hkept, hroom⟩ := Host.drawn_allocatePool (hsame ▸ hbuffers) htx
    have hlarge := (Config.valid_of_validate hvalid).canHold.1 hroom
    exact ⟨hvalid, .inl ⟨hlarge, hkept.trans hsame⟩, hbus.trans hwoken⟩
  | @rxCut txPool h₁ h₂ hvalid htx hrx =>
    obtain ⟨htxBus, htxGained, htxSize⟩ := Host.drawn_allocatePool (hsame ▸ hbuffers) htx
    obtain ⟨hrxBus, hkept, hroom⟩ := Host.drawn_allocatePool htxGained.reachable hrx
    rw [hsame] at htxGained
    have hlarge := (Config.valid_of_validate hvalid).canHold.2 hroom
    have hleft : h₂.buffers.live = txPool.untouched ++ h.buffers.live := by rw [hkept, htxGained.live]
    have hcount : txPool.untouched.length = config.txCount := by
      rw [← htxSize]
      simp [BufferPool.untouched, BufferPool.size]
    exact ⟨hvalid, .inr ⟨hlarge, _, hleft, hcount⟩, hrxBus.trans (htxBus.trans hwoken)⟩
  | unnamed hvalid htx hrx hname =>
    rw [hnamed] at hname
    contradiction

end

/-- Attaching a card that has no completions waiting is all or nothing. Either it succeeds, and the card is
ready; or it fails, and either the configuration was refused and nothing was done at all, or everything
that was done is undone. The exception is a configuration with more buffers in one direction than a table
can hold: attaching is then cut short, and what was done by then stays. -/
theorem attach_all_or_nothing (h : Host Board) (name : String) (address : PciAddress) (baseHdwr baseLen : Nat)
    (config : Config) (hquiet : h.bus.hasCompletions = false) (hbuffers : h.buffers.Reachable)
    (hnamed : canNameHandler name = true) :
    match attach h name address baseHdwr baseLen config with
    | (.ok d, h') => Started h config d h'
    | (.error (.failed e), h') => (config.validate = .error e ∧ h' = h) ∨ (config.validate = .ok () ∧ Undone h h')
    | (.error .cutShort, h') => config.validate = .ok () ∧ Abandoned h config h' := by
  split
  · rename_i hdone
    exact started_of_ok hquiet hbuffers hdone
  · rename_i hdone
    exact undone_of_failed hbuffers hdone
  · rename_i hdone
    exact abandoned_of_cutShort hbuffers hnamed hdone

/-- The small card is ready once it was attached. In a window with room for three of its four buffers
attaching fails, and is undone. -/
theorem attach_all_or_nothing_small :
    ((Host.powerUp 0x10000 32).bus.hasCompletions = false ∧ (Host.powerUp 0x10000 32).buffers.Reachable ∧
      canNameHandler "card" = true ∧
      Started (Host.powerUp 0x10000 32) .small Card.small.device Card.small.host) ∧
    ∃ e h', attach { Host.powerUp 0x10000 32 with memory := .new 0x10000 0x10000000 0x10003000 } "card" .standard
        0 0 .small = (.error (.failed e), h') ∧
      Undone { Host.powerUp 0x10000 32 with memory := .new 0x10000 0x10000000 0x10003000 } h' := by
  have hready := attach_all_or_nothing (Host.powerUp 0x10000 32) "card" .standard 0 0 .small rfl (.new _ _ _)
    (by decide)
  have hundone := attach_all_or_nothing
    { Host.powerUp 0x10000 32 with memory := .new 0x10000 0x10000000 0x10003000 } "card" .standard 0 0 .small rfl
    (.new _ _ _) (by decide)
  rw [attachSmall_eq] at hready
  refine ⟨⟨rfl, .new _ _ _, by decide, hready⟩, .platform .outOfMemory, _, rfl, ?_⟩
  rcases hundone with ⟨hrefused, -⟩ | ⟨-, hall⟩
  · exact absurd hrefused (by decide)
  · exact hall

/-- A pool of so many receive buffers cannot be laid out: attaching fails, two regions that nothing
refers to stay live, and the card is not put back into reset. -/
theorem attach_cutShort_leaks :
    ∃ h', attach (Host.powerUp 0x10000 32) "card" .standard 0 0
        { Config.small with rxCount := 0x4000000000000000 } = (.error .cutShort, h') ∧
      h'.buffers.liveCount = 2 ∧ h'.buffers.liveBytes = 8192 ∧
      ResetWord.cardReset.isSet (h'.bus.regs.get Offset.cardRstStat) = false :=
  ⟨_, rfl, by decide +kernel, by decide +kernel, by decide +kernel⟩

end Device

end LaneCard
