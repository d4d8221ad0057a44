import LaneCard.Proofs.Attach
import LaneCard.Proofs.Commands
import LaneCard.Proofs.Handler
import LaneCard.Proofs.HandlerSteps
import LaneCard.Proofs.Reception
import LaneCard.Proofs.Transmission

/-!
# Interrupts are handled to the end

Beside its buffers, a card in use has a few registers and lines on which its behaviour depends: which
lanes are looped back, whether interrupts are enabled, and whether one is pending. Sending a frame
raises one interrupt, handling it empties both FIFOs, and nothing is pending after that.
-/

namespace LaneCard

/-- The word of the loopback bits after a lane was looped back, or not any more. -/
def loopLane (on : Bool) (lane : Nat) (link : Word) : Word :=
  let bit := (LinkWord.loopBack.shifted lane).mask
  if on then link ||| bit else link &&& ~~~bit

/-- Looping a lane back, or not any more, changes the bit of that lane only. -/
theorem isSet_loopLane (on : Bool) (link : Word) {lane k : Nat} (hlane : lane < laneCount) (hk : k < laneCount) :
    (LinkWord.loopBack.shifted k).isSet (loopLane on lane link) =
      if k = lane then on else (LinkWord.loopBack.shifted k).isSet link := by
  have hinWord (n : Nat) (hn : n < laneCount) : LinkWord.loopBack.offset + n < 32 := by
    simp only [laneCount] at hn
    simp only [LinkWord.loopBack, Field.bit]
    omega
  have hset := LinkWord.loopBack.isSet_or_mask rfl link lane k (hinWord lane hlane)
  have hcleared := LinkWord.loopBack.isSet_and_not_mask rfl link lane k (hinWord lane hlane) (hinWord k hk)
  cases on with
  | true =>
    rw [loopLane, if_pos rfl, hset]
    by_cases hsame : k = lane
    · simp [hsame]
    · simp [hsame]
  | false =>
    rw [loopLane, if_neg Bool.false_ne_true, hcleared]
    by_cases hsame : k = lane
    · simp [hsame]
    · simp [hsame]

/-- What the behaviour of a card in use depends on, beside its buffers. -/
structure Wires where
  /-- The register with the loopback bits. -/
  link : Word
  /-- The interrupt register. -/
  irq : Word
  line : IrqLine
  detached : Bool
  /-- Whether the wait of the session was cancelled. -/
  signal : Bool

/-- The wires of a driver and its host. -/
def Host.wires (h : Host Board) (d : Device) : Wires :=
  ⟨h.bus.regs.get Offset.pgpCardStat, h.bus.regs.get Offset.irq, h.line, d.detached, d.signal⟩

/-- The wires of a card. -/
def Card.wires (c : Card Board) : Wires := c.host.wires c.device

namespace Wires

/-- Interrupts are enabled, none is pending, and nothing stops a call that waits. -/
structure Quiet (w : Wires) : Prop where
  irq : w.irq = IrqWord.enable.encode 1#32
  pending : w.line.pending = 0
  closed : w.line.closed = false
  detached : w.detached = false
  signal : w.signal = false

/-- Without a cancellation there is none to be dropped. -/
theorem Quiet.signal_eq {w : Wires} (h : w.Quiet) : { w with signal := false } = w := by
  rw [← h.signal]

/-- An interrupt was raised. -/
def raised (w : Wires) : Wires := { w with line := w.line.raise }

/-- Whether a lane is looped back. -/
def loops (w : Wires) (lane : Nat) : Bool := (LinkWord.loopBack.shifted lane).isSet w.link

end Wires

/-! ## What leaves the wires alone -/

namespace Host

variable (h : Host Board) (d : Device)

/-- Writing a register other than that of the loopback bits and that of interrupts leaves the wires
alone, if it does not send. -/
theorem wires_write_of_isPlain {offset : Nat} (value : Word) (hplain : Board.IsPlain offset)
    (hirq : offset ≠ Offset.irq) (hlink : offset ≠ Offset.pgpCardStat) :
    (h.write offset value).wires d = h.wires d := by
  change (Board.store h offset value).wires d = _
  rw [Board.store_of_isPlain_of_ne h value hplain hirq]
  unfold wires
  dsimp only
  rw [RegisterFile.get_set, RegisterFile.get_set, if_neg hlink.symm, if_neg hirq.symm]

/-- Giving a buffer to the card leaves the wires alone. -/
theorem wires_write_rxFree (lane : Nat) (addr : Word) (hlane : lane < laneCount) :
    (h.write (Offset.rxFree + 4 * lane) addr).wires d = h.wires d := by
  change (Board.store h _ _).wires d = _
  rw [Board.store_rxFree _ _ _ hlane]
  rfl

/-- Offering buffers to the card leaves the wires alone. -/
theorem wires_offer (index : Nat) (addrs : List Word) : (h.offer index addrs).wires d = h.wires d := by
  induction addrs generalizing h index with
  | nil => rfl
  | cons addr rest ih =>
    rw [offer, ih]
    exact h.wires_write_rxFree d (index % laneCount) addr (Nat.mod_lt _ (by decide))

/-- Changing the register of the loopback bits changes nothing else. -/
theorem wires_modify_link (change : Word → Word) :
    (h.modify Offset.pgpCardStat change).wires d =
      { h.wires d with link := change (h.wires d).link } := by
  have hlook : h.look Offset.pgpCardStat = h.bus.regs.get Offset.pgpCardStat := rfl
  have hread : (h.read Offset.pgpCardStat).2 = h := h.read_of_isPlain (by decide)
  have hstore : h.modify Offset.pgpCardStat change =
      Board.store (h.read Offset.pgpCardStat).2 Offset.pgpCardStat (change (h.look Offset.pgpCardStat)) := rfl
  rw [hstore, hread, hlook, Board.store_of_isPlain_of_ne h _ (by decide) (by decide)]
  unfold wires
  dsimp only
  rw [RegisterFile.get_set, RegisterFile.get_set, if_pos rfl, if_neg (by decide)]

/-- Looping a frame back leaves the wires alone. -/
theorem wires_deliver (lane : Nat) (vc : Word) (payload : Bytes) :
    (Board.deliver h lane vc payload).wires d = h.wires d := by
  unfold Board.deliver
  split
  · rfl
  · rename_i addr board htake
    obtain ⟨k, rest, -, rfl⟩ := Board.takeFree?_eq_some htake
    dsimp only
    split <;> rfl

/-- Giving a transmit buffer back leaves the wires alone. -/
theorem wires_returnTx (addr : Word) :
    Host.wires { h with bus := h.bus.returnTx addr } d = h.wires d := by
  unfold Board.returnTx
  split <;> rfl

/-- A completion raises an interrupt if interrupts are enabled. -/
theorem wires_interrupt (hirq : (h.wires d).irq = IrqWord.enable.encode 1#32)
    (hfull : h.bus.hasCompletions = true) : (Board.interrupt h).wires d = (h.wires d).raised := by
  have henabled : h.bus.irqEnabled = true := by
    change IrqWord.enable.isSet (h.wires d).irq = true
    rw [hirq]
    decide
  rw [Board.interrupt, hfull, henabled, Bool.and_self, if_pos rfl]
  rfl

/-- Sending a frame on a lane that exists raises an interrupt, if that gives a completion. -/
theorem wires_send (hsound : (h.holdings d).Sound) {b : Buffer} (hb : b ∈ d.txPool.buffers.toList)
    (lane vc size : Word) (hlane : lane.toNat < laneCount)
    (hsize : size.toNat * wordSize ≤ d.txPool.bufferSize)
    (hirq : (h.wires d).irq = IrqWord.enable.encode 1#32) :
    let sent := (h.write (Offset.txWrA + 4 * lane.toNat) (TxDescriptor.mk lane vc size).encode).write
      (Offset.txWrB + 4 * lane.toNat) b.addr
    (sent.holdings d).txReturns ≠ [] → sent.wires d = (h.wires d).raised := by
  intro sent hreturns
  set described := h.write (Offset.txWrA + 4 * lane.toNat) (TxDescriptor.mk lane vc size).encode
  have hplain := Board.isPlain_txWrA lane.toNat hlane
  have hsame : described.wires d = h.wires d := by
    apply h.wires_write_of_isPlain d _ hplain
    · simp only [Offset.txWrA, Offset.irq]
      omega
    · simp only [Offset.txWrA, Offset.pgpCardStat]
      omega
  have hholdings : described.holdings d = h.holdings d := h.holdings_write_of_isPlain d _ hplain
  obtain ⟨hword, -, -⟩ := h.write_txWrA lane.toNat (TxDescriptor.mk lane vc size).encode hlane
  have hlength := h.length_described d hsound lane vc size hsize
  have hdescribed : (described.holdings d).Sound := hholdings ▸ hsound
  have hread := hdescribed.txHeld.busRead_eq hdescribed.memory hb
    ((TxDescriptor.decode (described.bus.regs.get (Offset.txWrA + 4 * lane.toNat))).length.toNat * wordSize)
    (by rw [hword, hlength]; exact hsize)
  have hsent := described.write_txWrB lane.toNat b.addr _ hlane hread
  -- Up to the interrupt, neither giving the buffer back nor storing the frame touches a wire.
  set returned : Host Board :=
    { described with
      bus := (described.bus.logged (Offset.txWrB + 4 * lane.toNat) b.addr).returnTx b.addr }
  have hreturned : returned.wires d = h.wires d :=
    (Host.wires_returnTx { described with
      bus := described.bus.logged (Offset.txWrB + 4 * lane.toNat) b.addr } d b.addr).trans hsame
  generalize hwork : (if described.bus.isLooped lane.toNat then _ else returned) = work at hsent
  have hworkWires : work.wires d = h.wires d := by
    rw [← hwork]
    split
    · rw [wires_deliver, hreturned]
    · exact hreturned
  have hfull : work.bus.hasCompletions = true := by
    have hsentHoldings : (sent.holdings d).txReturns = work.bus.txReturns := by
      change ((described.write (Offset.txWrB + 4 * lane.toNat) b.addr).holdings d).txReturns = _
      rw [hsent, holdings_interrupt]
      rfl
    rw [hsentHoldings] at hreturns
    cases hlist : work.bus.txReturns with
    | nil => exact absurd hlist hreturns
    | cons word rest => simp [Board.hasCompletions, hlist]
  change (described.write (Offset.txWrB + 4 * lane.toNat) b.addr).wires d = _
  rw [hsent, wires_interrupt _ d (by rw [hworkWires]; exact hirq) hfull, hworkWires]

end Host

namespace Card

variable (c : Card Board)

/-- A line for debugging leaves the wires alone. -/
@[simp] theorem wires_trace (threshold : Nat) (text : String) : (c.trace threshold text).wires = c.wires := by
  unfold trace
  split <;> rfl

/-- Work that moves nothing leaves the wires of a card alone that nobody has cancelled. -/
theorem Unmoved.wires {c c' : Card Board} (h : c.Unmoved c') (hsignal : c.wires.signal = false) :
    c'.wires = c.wires := by
  have hstill : c'.device.signal = c.device.signal := by
    have hbefore : c.device.signal = false := hsignal
    rw [hbefore]
    cases hafter : c'.device.signal with
    | false => rfl
    | true => exact absurd (h.signal hafter) (by rw [hbefore]; exact Bool.false_ne_true)
  rw [Card.wires, h.host, h.device, hstill]
  rfl

/-- Reading a register leaves the wires alone. -/
theorem wires_read (offset : Nat) : (c.read offset).2.wires = c.wires := by
  change Host.wires { c.host with bus := c.host.bus.fetch offset } c.device = _
  unfold Board.fetch
  split
  · rfl
  · split <;> rfl

/-- Giving a receive buffer back leaves the wires alone. -/
theorem wires_giveFree (lane : Nat) (addr : Word) : (c.giveFree lane addr).wires = c.wires :=
  c.host.wires_write_rxFree c.device (lane % laneCount) addr (Nat.mod_lt _ (by decide))

/-- Taking a frame leaves the wires alone. -/
theorem wires_relieved (b : Buffer) : (c.relieved b).wires = c.wires :=
  c.wires_giveFree b.frame.lane.toNat b.addr

/-- A frame that was accepted raises an interrupt if its lane exists and the card gives the buffer
back. -/
theorem wires_launched (hsound : c.holdings.Sound) (hirq : c.wires.irq = IrqWord.enable.encode 1#32) {i : Nat}
    {b : Buffer} {memory : Allocator} {lane vc size : Word} {data : Bytes}
    (hsize : size.toNat * wordSize ≤ c.device.txPool.bufferSize) (hb : c.device.txPool.buffers[i]? = some b)
    (hfill : b.fill c.host.buffers data = .ok memory) :
    (laneCount ≤ lane.toNat → (c.launched i b memory lane vc size).wires = c.wires) ∧
      (lane.toNat < laneCount → (c.launched i b memory lane vc size).holdings.txReturns ≠ [] →
        (c.launched i b memory lane vc size).wires = c.wires.raised) := by
  obtain ⟨hset, hwrite⟩ := c.rewritten_of_fill hsound hb hfill
  constructor
  · intro hlane
    rw [wires, launched, if_neg (by omega), hset]
    rfl
  · intro hlane hreturns
    set device : Device :=
      { c.device with
        txPool := c.device.txPool.setFrame i ⟨lane, vc, size, FrameFlags.none⟩
        txFree := c.device.txFree.drop }
    have hlaunched : c.launched i b memory lane vc size =
        ⟨(Host.write { c.host with memory := memory } (Offset.txWrA + 4 * lane.toNat)
          (TxDescriptor.mk lane vc size).encode).write (Offset.txWrB + 4 * lane.toNat) b.addr, device⟩ := by
      rw [launched, if_pos hlane, hset]
    have hrecorded : { b with frame := ⟨lane, vc, size, FrameFlags.none⟩ } ∈ device.txPool.buffers.toList := by
      apply BufferPool.mem_of_getElem? (i := i)
      rw [BufferPool.getElem?_setFrame, if_pos rfl, hb, Option.map_some]
    have hloaded : (Host.holdings { c.host with memory := memory } device).Sound :=
      hsound.loaded hwrite i ⟨lane, vc, size, FrameFlags.none⟩
    rw [hlaunched] at hreturns ⊢
    exact Host.wires_send _ device hloaded hrecorded lane vc size hlane hsize hirq hreturns

/-- Giving unread frames back leaves the wires alone. -/
theorem wires_returnUnread (n : Nat) : (returnUnread n c).2.wires = c.wires := by
  induction n generalizing c with
  | zero => rfl
  | succ n ih =>
    unfold returnUnread
    split
    · rfl
    · dsimp only
      rw [ih]
      split
      · exact wires_giveFree _ _ _
      · rfl

/-- Closing leaves the wires alone, but that the wait of the session is not cancelled. -/
theorem wires_closeSession : c.closeSession.wires = { c.wires with signal := false } := by
  have hreturned := wires_returnUnread { c with device := { c.device with isOpen := false } } c.device.rxReady.length
  exact congrArg (fun w : Wires => { w with signal := false }) hreturned

/-- Looping a lane back, or not any more, changes the register of the loopback bits. -/
theorem control_loop (on : Bool) (arg : Pointer) :
    ∃ text, c.control (if on then .setLoop else .clrLoop) arg =
      (.ok .done,
        Card.trace
          { c with
            host := c.host.modify Offset.pgpCardStat (loopLane on ((arg.setWidth 32).toNat % laneCount)) }
          0 text) := by
  cases on with
  | true => exact ⟨_, rfl⟩
  | false => exact ⟨_, rfl⟩

/-- Looping a lane back, or not any more, changes the bit of that lane and nothing else. -/
theorem wires_control_loop (on : Bool) (arg : Pointer) :
    (c.control (if on then .setLoop else .clrLoop) arg).2.wires =
      { c.wires with link := loopLane on ((arg.setWidth 32).toNat % laneCount) c.wires.link } := by
  obtain ⟨text, hcontrol⟩ := c.control_loop on arg
  rw [hcontrol]
  dsimp only
  rw [wires_trace]
  exact c.host.wires_modify_link c.device _

/-! ## The handler -/

/-- Filing a transmit word leaves the wires alone. -/
theorem wires_finishTx (addr : Word) : (c.finishTx addr).wires = c.wires := by
  unfold finishTx
  split
  · rfl
  · dsimp only
    rw [wires_trace]
    split <;> rfl

/-- Filing a received frame leaves the wires alone. -/
theorem wires_finishRx (d : RxDescriptor) : (c.finishRx d).wires = c.wires := by
  unfold finishRx
  split
  · rfl
  · split
    · unfold queueRx
      dsimp only
      have hnotices (w : Card Board) (notices : List Nat) :
          Card.wires { w with device := { w.device with notices := notices } } = w.wires := rfl
      rw [hnotices, wires_trace]
      split <;> rfl
    · exact c.wires_giveFree _ _

/-- Emptying a FIFO leaves the wires alone. -/
theorem keptEmptying_wires : KeptEmptying fun c c' => c'.wires = c.wires where
  refl _ := rfl
  trans h h' := h'.trans h
  read := wires_read
  finishTx := wires_finishTx
  finishRx := wires_finishRx

/-- Handling an interrupt enables interrupts again, and leaves all other wires alone if both FIFOs are
empty in the end. -/
theorem wires_handleInterrupt (hfull : c.host.bus.hasCompletions = true)
    (hempty : c.handleInterrupt.2.holdings.txReturns = [] ∧ c.handleInterrupt.2.holdings.rxReturns = []) :
    c.handleInterrupt.2.wires = { c.wires with irq := IrqWord.enable.encode 1#32 } := by
  rw [c.handleInterrupt_eq hfull] at hempty ⊢
  set traced := c.trace 0 ("Irq: IRQ Called. Stat=" ++ Text.hexMarked (c.host.bus.look Offset.irq).toNat)
  have hmasked : (traced.write Offset.irq 0#32).wires = { c.wires with irq := 0#32 } := by
    have hdisable : IrqWord.enable.isSet 0#32 = false := by decide
    have hstore : traced.host.write Offset.irq 0#32 = _ := Board.store_irq_of_disable traced.host 0#32 hdisable
    have htraced : traced.wires = c.wires := c.wires_trace _ _
    rw [← htraced]
    change (traced.host.write Offset.irq 0#32).wires traced.device = _
    rw [hstore]
    unfold Host.wires
    dsimp only
    rw [RegisterFile.get_set, RegisterFile.get_set, if_pos rfl, if_neg (by decide)]
    rfl
  set drained := (traced.write Offset.irq 0#32).drainTx.drainRx with hdrained
  have hwires : drained.wires = { c.wires with irq := 0#32 } := by
    rw [hdrained, keptEmptying_wires.drainRx, keptEmptying_wires.drainTx, hmasked]
  rw [holdings_write_of_isPlain _ _ (by decide)] at hempty
  have hidle : drained.host.bus.hasCompletions = false := (hasCompletions_iff _).mpr hempty
  obtain ⟨handling, hstore⟩ := Board.store_irq_of_idle drained.host (IrqWord.enable.encode 1#32) hidle
  have hsame : c.wires = { drained.wires with irq := c.wires.irq } := by rw [hwires]
  rw [hsame]
  change (Board.store drained.host Offset.irq (IrqWord.enable.encode 1#32)).wires drained.device = _
  rw [hstore]
  unfold Host.wires
  dsimp only
  rw [RegisterFile.get_set, RegisterFile.get_set, if_pos rfl, if_neg (by decide)]
  rfl

/-- Where nothing is pending, nothing is handled. -/
theorem settleFor_of_quiet (n : Nat) (hpending : c.wires.line.pending = 0) (hclosed : c.wires.line.closed = false) :
    settleFor n c = c := by
  cases n with
  | zero => rfl
  | succ n =>
    have hwait := c.host.line.wait?_of_quiet hpending hclosed
    rw [settleFor, hwait]

/-- Where completions wait and an interrupt is pending, all are filed, and nothing is pending then. -/
theorem settle_of_raised (hpending : 0 < c.wires.line.pending) (hclosed : c.wires.line.closed = false)
    (hfull : c.host.bus.hasCompletions = true)
    (hwords : ∀ w ∈ c.holdings.txReturns, (TxReturn.decode? w).isSome)
    (hpairs : ∀ p ∈ c.holdings.rxReturns, (RxDescriptor.decode? p.1 p.2).isSome) :
    (∃ words pairs, c.holdings.Drained words pairs c.settle.holdings) ∧
      c.settle.holdings.txReturns = [] ∧ c.settle.holdings.rxReturns = [] ∧
        c.settle.wires =
          { c.wires with
            irq := IrqWord.enable.encode 1#32
            line := { c.wires.line with pending := 0 } } := by
  set taken : Card Board := { c with host := { c.host with line := { c.host.line with pending := 0 } } }
  have hwait := c.host.line.wait?_of_pending hpending hclosed
  obtain ⟨words, pairs, hdrained, hempty⟩ := taken.drained_handleInterrupt
  have hempty := hempty hwords hpairs
  have hwires := taken.wires_handleInterrupt hfull hempty
  have hsettled : c.settle = taken.handleInterrupt.2 := by
    have hstep : c.settle =
        settleFor (c.host.bus.txReturns.length + c.host.bus.rxReturns.length) taken.handleInterrupt.2 := by
      rw [settle, settleFor, hwait]
    rw [hstep]
    refine settleFor_of_quiet _ _ ?_ ?_
    · rw [hwires]
      rfl
    · rw [hwires]
      exact hclosed
  rw [hsettled]
  exact ⟨⟨words, pairs, hdrained⟩, hempty.1, hempty.2, hwires⟩

end Card

/-! ## Attaching -/

namespace Device

/-- Leaving reset leaves the wires alone. -/
theorem wires_awake (h : Host Board) (name : String) (d : Device) : (awake h name).wires d = h.wires d := by
  have hread (k : Host Board) {offset : Nat} (hplain : Board.IsPlain offset) : (k.read offset).2 = k :=
    k.read_of_isPlain hplain
  have hcleared : (awake h name).wires d =
      (((h.read Offset.cardRstStat).2.write Offset.cardRstStat
        ((h.read Offset.cardRstStat).1 &&& ~~~ResetWord.cardReset.mask)).read Offset.version).2.wires d := rfl
  rw [hcleared, hread _ (by decide), hread _ (by decide)]
  exact h.wires_write_of_isPlain d _ (by decide) (by decide) (by decide)

/-- Letting a card receive leaves the wires alone. -/
theorem wires_prepare (h : Host Board) (d d' : Device) (rxSize : Nat) :
    (prepare h d rxSize).wires d' = h.wires d' := by
  have hlimit : (h.write Offset.rxMaxFrame (frameLimit rxSize)).wires d' = h.wires d' := by
    have hstore : h.write Offset.rxMaxFrame (frameLimit rxSize) =
        { h with
          bus :=
            { h.bus.logged Offset.rxMaxFrame (frameLimit rxSize) with
              regs := h.bus.regs.set Offset.rxMaxFrame (frameLimit rxSize) } } := rfl
    rw [hstore]
    unfold Host.wires
    dsimp only
    rw [RegisterFile.get_set, RegisterFile.get_set, if_neg (by decide), if_neg (by decide)]
  rw [prepare, Host.wires_offer, hlimit]

/-- Attaching enables interrupts and leaves the other wires as they were. -/
theorem wires_attach {h h' : Host Board} {name : String} {address : PciAddress} {baseHdwr baseLen : Nat}
    {config : Config} {d : Device} (hidle : h.Idle)
    (hattach : attach h name address baseHdwr baseLen config = (.ok d, h')) :
    h'.wires d = { h.wires d with irq := IrqWord.enable.encode 1#32 } := by
  have hattached := attached hidle hattach
  obtain ⟨-, txPool, rxPool, a, h₂, -, -, hbus, hline, -, -, rfl⟩ := attach_ok hidle hattach
  have hlaidOut : h₂.wires d = h.wires d := by
    rw [← wires_awake h name d]
    simp only [Host.wires, hbus, hline]
  set prepared := prepare h₂ d config.rxSize
  have hprepared : prepared.wires d = h.wires d := (wires_prepare h₂ d d config.rxSize).trans hlaidOut
  have hstarted : (start prepared d).holdings d = prepared.holdings d := by
    rw [start, Host.holdings_note, Host.holdings_write_of_isPlain _ _ _ (by decide)]
  have hempty : prepared.bus.hasCompletions = false := by
    rw [Card.hasCompletions_iff]
    rw [hstarted] at hattached
    exact ⟨hattached.txReturns, hattached.rxReturns⟩
  obtain ⟨handling, hstore⟩ := Board.store_irq_of_idle prepared (IrqWord.enable.encode 1#32) hempty
  rw [← hprepared]
  change (Board.store prepared Offset.irq (IrqWord.enable.encode 1#32)).wires d = _
  rw [hstore]
  unfold Host.wires
  dsimp only
  rw [RegisterFile.get_set, RegisterFile.get_set, if_pos rfl, if_neg (by decide)]

/-- A card that was attached is quiet, and its lanes are looped back as before. -/
theorem wires_attached {h h' : Host Board} {name : String} {address : PciAddress} {baseHdwr baseLen : Nat}
    {config : Config} {d : Device} (hidle : h.Idle) (hpending : h.line.pending = 0) (hclosed : h.line.closed = false)
    (hattach : attach h name address baseHdwr baseLen config = (.ok d, h')) :
    (h'.wires d).Quiet ∧ (h'.wires d).link = h.bus.regs.get Offset.pgpCardStat := by
  obtain ⟨-, txPool, rxPool, -, -, -, -, -, -, -, hd, -⟩ := attach_ok hidle hattach
  rw [wires_attach hidle hattach, hd]
  exact ⟨⟨rfl, hpending, hclosed, rfl, rfl⟩, rfl⟩

end Device
end LaneCard
