import LaneCard.Proofs.Wires

/-!
# Every completion is processed once

What the completion handler makes of the words in the two FIFOs of the card, said without its loops:
`Device.processed` is the driver's side after a list of returned transmit buffers and a list of
received frames, whatever the words are. A transmit word without a valid bit ends a call of the
handler early, with words left behind; enabling interrupts then raises the next one. Each call
takes at least one word, so handling interrupts while there are any comes to an end, with both FIFOs
empty and every word processed in order.
-/

namespace LaneCard

namespace Device

/-! ## What the words say -/

/-- The numbers of the transmit buffers that words give back. -/
def returned (d : Device) (words : List Word) : List Nat :=
  words.filterMap fun word => (TxReturn.decode? word).bind d.txPool.find?

/-- The frames in pairs of words, each with the number of its buffer. -/
def received (d : Device) (pairs : List (Word × Word)) : List (Nat × RxDescriptor) :=
  pairs.filterMap fun pair =>
    (RxDescriptor.decode? pair.1 pair.2).bind fun desc =>
      (d.rxPool.find? desc.addr).map fun i => (i, desc)

/-- How many words are valid and name no buffer. -/
def unknown (d : Device) (words : List Word) (pairs : List (Word × Word)) : Nat :=
  words.countP (fun word => (TxReturn.decode? word).any fun addr => (d.txPool.find? addr).isNone) +
    pairs.countP fun pair =>
      (RxDescriptor.decode? pair.1 pair.2).any fun desc => (d.rxPool.find? desc.addr).isNone

/-- The driver's side after returned transmit buffers and received frames: buffers become free, and
frames readable, in the order of their words. -/
def processed (d : Device) (words : List Word) (pairs : List (Word × Word)) : Device :=
  let frames := d.received pairs
  let filed :=
    { d with
      txFree := (d.returned words).foldl (fun ring i => (ring.push i).2) d.txFree
      unmatched := d.unmatched + d.unknown words pairs }
  if d.isOpen then
    { filed with
      rxPool := frames.foldl (fun pool f => pool.setFrame f.1 f.2.toFrameMeta) d.rxPool
      rxReady := frames.foldl (fun ring f => (ring.push f.1).2) d.rxReady
      notices := d.notices ++ frames.flatMap fun _ => d.listener.toList }
  else { filed with droppedClosed := d.droppedClosed + frames.length }

/-- Without words nothing changes. -/
@[simp] theorem processed_nil (d : Device) : d.processed [] [] = d := by
  unfold processed
  split <;> simp [returned, received, unknown]

/-- Recording frames moves no buffer. -/
private theorem addrs_foldl_setFrame (frames : List (Nat × RxDescriptor)) (pool : BufferPool) :
    (frames.foldl (fun pool f => pool.setFrame f.1 f.2.toFrameMeta) pool).addrs = pool.addrs := by
  induction frames generalizing pool with
  | nil => rfl
  | cons f rest ih => rw [List.foldl_cons, ih, BufferPool.addrs_setFrame]

/-- Processing words moves no buffer. -/
theorem addrs_processed (d : Device) (words : List Word) (pairs : List (Word × Word)) :
    (d.processed words pairs).txPool = d.txPool ∧ (d.processed words pairs).rxPool.addrs = d.rxPool.addrs := by
  unfold processed
  split
  · exact ⟨rfl, addrs_foldl_setFrame _ _⟩
  · exact ⟨rfl, rfl⟩

/-- Processing words opens and closes nothing. -/
@[simp] theorem isOpen_processed (d : Device) (words : List Word) (pairs : List (Word × Word)) :
    (d.processed words pairs).isOpen = d.isOpen := by
  unfold processed
  split <;> rfl

/-- What words say does not depend on those processed before. -/
theorem received_processed (d : Device) (words : List Word) (pairs : List (Word × Word)) :
    (d.processed words pairs).received = d.received := by
  funext more
  rw [received, BufferPool.find?_congr (d.addrs_processed words pairs).2]
  rfl

/-- Words may be processed in two parts. -/
theorem processed_processed (d : Device) (words more : List Word) (pairs others : List (Word × Word)) :
    (d.processed words pairs).processed more others = d.processed (words ++ more) (pairs ++ others) := by
  have hreturned : (d.processed words pairs).returned = d.returned := by
    funext more
    rw [returned, (d.addrs_processed words pairs).1]
    rfl
  have hunknown : (d.processed words pairs).unknown = d.unknown := by
    funext more others
    rw [unknown, (d.addrs_processed words pairs).1, BufferPool.find?_congr (d.addrs_processed words pairs).2]
    rfl
  have hreturnedAppend : d.returned (words ++ more) = d.returned words ++ d.returned more :=
    List.filterMap_append
  have hreceivedAppend : d.received (pairs ++ others) = d.received pairs ++ d.received others :=
    List.filterMap_append
  have hunknownAppend :
      d.unknown (words ++ more) (pairs ++ others) = d.unknown words pairs + d.unknown more others := by
    simp only [unknown, List.countP_append]
    omega
  rw [processed.eq_1 (d.processed words pairs), hreturned, hunknown, received_processed, isOpen_processed]
  simp only [processed, hreturnedAppend, hreceivedAppend, hunknownAppend]
  cases d.isOpen with
  | true => simp [List.foldl_append, Nat.add_assoc]
  | false => simp [List.foldl_append, Nat.add_assoc]

end Device

namespace Card

/-- Words at the front of the two FIFOs were processed: the driver's side is as they say, the buffers
of frames that nobody was there to read are at the end of the free lists of their lanes, and nothing
else has changed that the handler could have changed, but for the interrupt register and the line. -/
structure Processed (c : Card Board) (words : List Word) (pairs : List (Word × Word)) (c' : Card Board) :
    Prop where
  txReturns : c.host.bus.txReturns = words ++ c'.host.bus.txReturns
  rxReturns : c.host.bus.rxReturns = pairs ++ c'.host.bus.rxReturns
  device : c'.device = c.device.processed words pairs
  free : c'.host.bus.freeList =
    if c.device.isOpen then c.host.bus.freeList
    else returnTo c.host.bus.freeList ((c.device.received pairs).map Prod.snd)
  heldTx : c'.host.bus.heldTx = c.host.bus.heldTx
  holdTx : c'.host.bus.holdTx = c.host.bus.holdTx
  memory : c'.host.memory = c.host.memory
  apart : c'.host.apart = c.host.apart
  regs : ∀ offset, offset ≠ Offset.irq → c'.host.bus.regs.get offset = c.host.bus.regs.get offset

namespace Processed

variable {c c' c'' : Card Board} {words more : List Word} {pairs others : List (Word × Word)}

/-- Nothing was processed. -/
theorem refl (c : Card Board) : c.Processed [] [] c where
  txReturns := rfl
  rxReturns := rfl
  device := (c.device.processed_nil).symm
  free := by simp [Device.received]
  heldTx := rfl
  holdTx := rfl
  memory := rfl
  apart := rfl
  regs _ _ := rfl

/-- Words were processed in two parts. -/
theorem trans (h : c.Processed words pairs c') (h' : c'.Processed more others c'') :
    c.Processed (words ++ more) (pairs ++ others) c'' where
  txReturns := by rw [h.txReturns, h'.txReturns, List.append_assoc]
  rxReturns := by rw [h.rxReturns, h'.rxReturns, List.append_assoc]
  device := by rw [h'.device, h.device, Device.processed_processed]
  free := by
    rw [h'.free, h.free, h.device, Device.isOpen_processed, Device.received_processed]
    split
    · rfl
    · rw [returnTo_append, ← List.map_append, Device.received, Device.received, ← List.filterMap_append]
      rfl
  heldTx := h'.heldTx.trans h.heldTx
  holdTx := h'.holdTx.trans h.holdTx
  memory := h'.memory.trans h.memory
  apart := h'.apart.trans h.apart
  regs offset hirq := (h'.regs offset hirq).trans (h.regs offset hirq)

/-- A line in the journal is no word. -/
theorem note (h : c.Processed words pairs c') (level : Level) (text : String) :
    c.Processed words pairs (c'.note level text) := { h with }

/-- Neither is a line for debugging. -/
theorem trace (h : c.Processed words pairs c') (threshold : Nat) (text : String) :
    c.Processed words pairs (c'.trace threshold text) :=
  c'.trace_induction (c.Processed words pairs) h h.note threshold text

/-- A write to the interrupt register processes no word. -/
theorem write_irq (h : c.Processed words pairs c') (value : Word) :
    c.Processed words pairs (c'.write Offset.irq value) := by
  have hplain : Board.IsPlain Offset.irq := by decide
  obtain ⟨handling, line, hstore⟩ := Board.store_of_isPlain c'.host value hplain
  have hwrite : c'.write Offset.irq value =
      { c' with
        host :=
          { c'.host with
            bus :=
              { c'.host.bus.logged Offset.irq value with
                regs := c'.host.bus.regs.set Offset.irq value
                handling := handling }
            line := line } } := congrArg (fun host => { c' with host := host }) hstore
  rw [hwrite]
  refine { h with regs := fun offset hirq => ?_ }
  exact (c'.host.bus.regs.get_set Offset.irq value offset).trans ((if_neg hirq).trans (h.regs offset hirq))

end Processed

/-! ## One word -/

/-- The first word of the transmit FIFO was processed if the driver's side is as it says. -/
theorem processed_tx (c : Card Board) {word : Word} {rest : List Word}
    (hlist : c.host.bus.txReturns = word :: rest) {d : Device} (hdevice : d = c.device.processed [word] []) :
    c.Processed [word] [] ⟨{ c.host with bus := { c.host.bus with txReturns := rest } }, d⟩ :=
  { Processed.refl c with txReturns := hlist, device := hdevice }

/-- A word that names a transmit buffer makes it free, and any other is counted. -/
theorem processed_finishTx (c : Card Board) {word addr : Word} {rest : List Word}
    (hlist : c.host.bus.txReturns = word :: rest) (hword : TxReturn.decode? word = some addr) :
    c.Processed [word] []
      (finishTx { c with host := { c.host with bus := { c.host.bus with txReturns := rest } } } addr) := by
  unfold finishTx
  cases hfind : c.device.txPool.find? addr with
  | none =>
    refine (c.processed_tx hlist ?_).note _ _
    simp [Device.processed, Device.returned, Device.received, Device.unknown, hword, hfind]
  | some i =>
    have hdevice : { c.device with txFree := (c.device.txFree.push i).2 } = c.device.processed [word] [] := by
      simp [Device.processed, Device.returned, Device.received, Device.unknown, hword, hfind]
    refine Processed.trace ?_ _ _
    dsimp only
    split
    · exact (c.processed_tx hlist hdevice).note _ _
    · exact c.processed_tx hlist hdevice

/-- The first pair of the FIFO of received frames was processed if the driver's side is as it says,
and no buffer had to go back. -/
theorem processed_rx (c : Card Board) {pair : Word × Word} {rest : List (Word × Word)}
    (hlist : c.host.bus.rxReturns = pair :: rest) {d : Device} (hdevice : d = c.device.processed [] [pair])
    (hkept : c.device.isOpen = true ∨ c.device.received [pair] = []) :
    c.Processed [] [pair] ⟨{ c.host with bus := { c.host.bus with rxReturns := rest } }, d⟩ := by
  refine { Processed.refl c with rxReturns := hlist, device := hdevice, free := ?_ }
  rcases hkept with hopen | hnone
  · rw [if_pos hopen]
    rfl
  · rw [hnone, List.map_nil, returnTo_nil, ite_self]
    rfl

/-- A frame that somebody is there to read becomes readable. -/
theorem processed_queueRx (c : Card Board) {pair : Word × Word} {desc : RxDescriptor} {i : Nat}
    {rest : List (Word × Word)} (hlist : c.host.bus.rxReturns = pair :: rest)
    (hpair : RxDescriptor.decode? pair.1 pair.2 = some desc) (hfind : c.device.rxPool.find? desc.addr = some i)
    (hopen : c.device.isOpen = true) :
    c.Processed [] [pair]
      (queueRx { c with host := { c.host with bus := { c.host.bus with rxReturns := rest } } } i desc) := by
  have hdevice :
      { c.device with
        rxPool := c.device.rxPool.setFrame i desc.toFrameMeta
        rxReady := (c.device.rxReady.push i).2
        notices := c.device.notices ++ c.device.listener.toList } = c.device.processed [] [pair] := by
    simp [Device.processed, Device.returned, Device.received, Device.unknown, hpair, hfind, hopen]
  have hbase := c.processed_rx hlist hdevice (.inl hopen)
  unfold queueRx
  dsimp only
  unfold trace
  split <;> split <;> exact { hbase with }

/-- A frame that nobody is there to read is counted, and its buffer goes back to its lane. -/
theorem processed_giveFree (c : Card Board) {pair : Word × Word} {desc : RxDescriptor} {i : Nat}
    {rest : List (Word × Word)} (hlist : c.host.bus.rxReturns = pair :: rest)
    (hpair : RxDescriptor.decode? pair.1 pair.2 = some desc) (hfind : c.device.rxPool.find? desc.addr = some i)
    (hclosed : c.device.isOpen = false) :
    c.Processed [] [pair]
      ⟨(giveFree { c with host := { c.host with bus := { c.host.bus with rxReturns := rest } } }
          desc.lane.toNat desc.addr).host,
        { c.device with droppedClosed := c.device.droppedClosed + 1 }⟩ := by
  have hlane : desc.lane.toNat % laneCount < laneCount := Nat.mod_lt _ (by decide)
  have hreceived : c.device.received [pair] = [(i, desc)] := by simp [Device.received, hpair, hfind]
  set popped : Host Board := { c.host with bus := { c.host.bus with rxReturns := rest } }
  have hgiven : (giveFree { c with host := popped } desc.lane.toNat desc.addr).host = _ :=
    Board.store_rxFree popped (desc.lane.toNat % laneCount) desc.addr hlane
  rw [hgiven]
  refine { Processed.refl c with rxReturns := hlist, device := ?_, free := ?_ }
  · simp [Device.processed, Device.returned, Device.unknown, hreceived, hpair, hfind, hclosed]
  · rw [hclosed, if_neg Bool.false_ne_true, hreceived, List.map_singleton, returnTo_singleton]
    exact Board.freeList_setFree _ _ _ hlane

/-- A pair that names a buffer of the pool is filed, and any other is counted. -/
theorem processed_finishRx (c : Card Board) {pair : Word × Word} {desc : RxDescriptor}
    {rest : List (Word × Word)} (hlist : c.host.bus.rxReturns = pair :: rest)
    (hpair : RxDescriptor.decode? pair.1 pair.2 = some desc) :
    c.Processed [] [pair]
      (finishRx { c with host := { c.host with bus := { c.host.bus with rxReturns := rest } } } desc) := by
  unfold finishRx
  cases hfind : c.device.rxPool.find? desc.addr with
  | none =>
    refine (c.processed_rx hlist ?_ (.inr ?_)).note _ _
    · simp [Device.processed, Device.returned, Device.received, Device.unknown, hpair, hfind]
    · simp [Device.received, hpair, hfind]
  | some i =>
    cases hopen : c.device.isOpen with
    | true =>
      exact c.processed_queueRx hlist hpair hfind hopen
    | false =>
      exact c.processed_giveFree hlist hpair hfind hopen

/-! ## Emptying the FIFOs -/

/-- Words are processed off the front of the transmit FIFO, and one at least if there is one. -/
theorem processed_takeTx (n : Nat) (c : Card Board) :
    ∃ words, c.Processed words [] (takeTx n c) ∧ (0 < n → c.host.bus.txReturns ≠ [] → words ≠ []) := by
  induction n generalizing c with
  | zero => exact ⟨[], .refl c, fun hn => absurd hn (Nat.lt_irrefl 0)⟩
  | succ n ih =>
    cases hlist : c.host.bus.txReturns with
    | nil =>
      rw [c.takeTx_nil _ hlist]
      exact ⟨[], .refl c, fun _ hne => absurd rfl hne⟩
    | cons word rest =>
      cases hword : TxReturn.decode? word with
      | none =>
        rw [c.takeTx_of_none n hlist hword]
        refine ⟨[word], c.processed_tx hlist ?_, fun _ _ => List.cons_ne_nil _ _⟩
        simp [Device.processed, Device.returned, Device.received, Device.unknown, hword]
      | some addr =>
        have hfirst := c.processed_finishTx hlist hword
        obtain ⟨words, hrest, -⟩ := ih _
        rw [c.takeTx_of_some n hlist hword]
        exact ⟨word :: words, hfirst.trans hrest, fun _ _ => List.cons_ne_nil _ _⟩

/-- Pairs are processed off the front of the FIFO of received frames, and one at least if there is
one. -/
theorem processed_takeRx (n : Nat) (c : Card Board) :
    ∃ pairs, c.Processed [] pairs (takeRx n c) ∧ (0 < n → c.host.bus.rxReturns ≠ [] → pairs ≠ []) := by
  induction n generalizing c with
  | zero => exact ⟨[], .refl c, fun hn => absurd hn (Nat.lt_irrefl 0)⟩
  | succ n ih =>
    cases hlist : c.host.bus.rxReturns with
    | nil =>
      rw [c.takeRx_nil _ hlist]
      exact ⟨[], .refl c, fun _ hne => absurd rfl hne⟩
    | cons pair rest =>
      cases hpair : RxDescriptor.decode? pair.1 pair.2 with
      | none =>
        rw [c.takeRx_of_none n hlist hpair]
        refine ⟨[pair], c.processed_rx hlist ?_ (.inr ?_), fun _ _ => List.cons_ne_nil _ _⟩
        · simp [Device.processed, Device.returned, Device.received, Device.unknown, hpair]
        · simp [Device.received, hpair]
      | some desc =>
        have hfiled := c.processed_finishRx hlist hpair
        obtain ⟨pairs, hrest, -⟩ := ih _
        rw [c.takeRx_of_some n hlist hpair]
        exact ⟨pair :: pairs, hfiled.trans hrest, fun _ _ => List.cons_ne_nil _ _⟩

/-- Emptying the transmit FIFO processes a word of it at least if there is one. -/
theorem processed_drainTx (c : Card Board) :
    ∃ words, c.Processed words [] c.drainTx ∧ (c.host.bus.txReturns ≠ [] → words ≠ []) := by
  obtain ⟨words, hwords, hsome⟩ := c.processed_takeTx c.host.bus.txReturns.length
  rw [drainTx_eq]
  exact ⟨words, hwords, fun hne => hsome (List.length_pos_iff.mpr hne) hne⟩

/-- Emptying the FIFO of received frames processes a pair of it at least if there is one. -/
theorem processed_drainRx (c : Card Board) :
    ∃ pairs, c.Processed [] pairs c.drainRx ∧ (c.host.bus.rxReturns ≠ [] → pairs ≠ []) := by
  obtain ⟨pairs, hpairs, hsome⟩ := c.processed_takeRx c.host.bus.rxReturns.length
  rw [drainRx_eq]
  exact ⟨pairs, hpairs, fun hne => hsome (List.length_pos_iff.mpr hne) hne⟩

/-! ## One call of the handler -/

/-- A call of the handler processes a word at least. -/
theorem processed_handleInterrupt (c : Card Board) (hfull : c.host.bus.hasCompletions = true) :
    ∃ words pairs, c.Processed words pairs c.handleInterrupt.2 ∧ 0 < words.length + pairs.length := by
  rw [c.handleInterrupt_eq hfull]
  set traced := c.trace 0 ("Irq: IRQ Called. Stat=" ++ Text.hexMarked (c.host.bus.look Offset.irq).toNat)
  have hmasked : c.Processed [] [] (traced.write Offset.irq 0#32) := ((Processed.refl c).trace _ _).write_irq _
  obtain ⟨words, htx, hsomeTx⟩ := (traced.write Offset.irq 0#32).processed_drainTx
  obtain ⟨pairs, hrx, hsomeRx⟩ := (traced.write Offset.irq 0#32).drainTx.processed_drainRx
  have hall := ((hmasked.trans htx).trans hrx).write_irq (IrqWord.enable.encode 1#32)
  rw [List.nil_append, List.append_nil, List.nil_append, List.nil_append] at hall
  refine ⟨words, pairs, hall, ?_⟩
  by_cases hwords : c.host.bus.txReturns = []
  · have hpairs : c.host.bus.rxReturns ≠ [] := by
      intro hnil
      have hidle := (hasCompletions_iff c.host.bus).mpr ⟨hwords, hnil⟩
      rw [hfull] at hidle
      contradiction
    have hkept : c.host.bus.rxReturns = (traced.write Offset.irq 0#32).drainTx.host.bus.rxReturns :=
      (hmasked.trans htx).rxReturns
    have := List.length_pos_iff.mpr (hsomeRx (hkept ▸ hpairs))
    omega
  · have hkept : c.host.bus.txReturns = (traced.write Offset.irq 0#32).host.bus.txReturns := hmasked.txReturns
    have := List.length_pos_iff.mpr (hsomeTx (hkept ▸ hwords))
    omega

/-- After a call of the handler interrupts are enabled, and the next one is pending if it has left
words behind. -/
theorem enabled_handleInterrupt (c : Card Board) (hfull : c.host.bus.hasCompletions = true) :
    c.handleInterrupt.2.host.bus.irqEnabled = true ∧
      c.handleInterrupt.2.host.bus.handling = c.handleInterrupt.2.host.bus.hasCompletions ∧
      c.handleInterrupt.2.host.line =
        if c.handleInterrupt.2.host.bus.hasCompletions then c.host.line.raise else c.host.line := by
  rw [c.handleInterrupt_eq hfull]
  set traced := c.trace 0 ("Irq: IRQ Called. Stat=" ++ Text.hexMarked (c.host.bus.look Offset.irq).toNat)
  set drained := (traced.write Offset.irq 0#32).drainTx.drainRx with hdrained
  have hline : drained.host.line = c.host.line := by
    have hmasked : (traced.write Offset.irq 0#32).wires.line = traced.wires.line := by
      change (Board.store traced.host Offset.irq 0#32).line = traced.host.line
      rw [Board.store_irq_of_disable _ _ (by decide)]
    change drained.wires.line = c.wires.line
    rw [hdrained, keptEmptying_wires.drainRx, keptEmptying_wires.drainTx, hmasked, wires_trace]
  have hwrite : (drained.write Offset.irq (IrqWord.enable.encode 1#32)).host = _ :=
    Board.store_irq_of_enable drained.host (IrqWord.enable.encode 1#32) (by decide)
  rw [hwrite, ← hline]
  refine ⟨?_, rfl, rfl⟩
  rw [Board.irqEnabled, RegisterFile.get_set, if_pos rfl]
  decide

/-! ## Until nothing is pending -/

/-- Interrupts were handled, one call after the other, until none was pending. -/
inductive Settles : Card Board → Card Board → Prop
  | quiet {c : Card Board} (hwait : c.host.line.wait? = none) : Settles c c
  | handled {c c' : Card Board} {n : Nat} {line : IrqLine} (hwait : c.host.line.wait? = some (.ok n, line))
      (hrest : Settles (handleInterrupt { c with host := { c.host with line := line } }).2 c') : Settles c c'

/-- Handling interrupts can end in one way only. -/
theorem Settles.unique {c a b : Card Board} (ha : c.Settles a) (hb : c.Settles b) : a = b := by
  induction ha with
  | quiet hwait =>
    cases hb with
    | quiet => rfl
    | handled hpending =>
      rw [hwait] at hpending
      contradiction
  | handled hwait _ ih =>
    cases hb with
    | quiet hquiet =>
      rw [hwait] at hquiet
      contradiction
    | handled hpending hrest =>
      rw [hwait] at hpending
      cases hpending
      exact ih hrest

/-- Nothing is left to be done for a card. -/
structure Idles (c : Card Board) : Prop where
  txReturns : c.host.bus.txReturns = []
  rxReturns : c.host.bus.rxReturns = []
  enabled : c.host.bus.irqEnabled = true
  handling : c.host.bus.handling = false
  pending : c.host.line.pending = 0

/-- As many calls as there are words are enough to process them all. -/
theorem settleFor_processes (n : Nat) (c : Card Board) (hopen : c.host.line.closed = false)
    (hpending : 0 < c.host.line.pending) (hfull : c.host.bus.hasCompletions = true)
    (hn : c.host.bus.txReturns.length + c.host.bus.rxReturns.length ≤ n) :
    c.Settles (settleFor n c) ∧ c.Processed c.host.bus.txReturns c.host.bus.rxReturns (settleFor n c) ∧
      (settleFor n c).Idles := by
  induction n generalizing c with
  | zero =>
    have hempty : c.host.bus.hasCompletions = false :=
      (hasCompletions_iff _).mpr ⟨List.eq_nil_of_length_eq_zero (by omega), List.eq_nil_of_length_eq_zero (by omega)⟩
    rw [hfull] at hempty
    contradiction
  | succ n ih =>
    have hwait := c.host.line.wait?_of_pending hpending hopen
    set taken : Card Board := { c with host := { c.host with line := { c.host.line with pending := 0 } } }
    have hstep : settleFor (n + 1) c = settleFor n taken.handleInterrupt.2 := by rw [settleFor, hwait]
    obtain ⟨words, pairs, hprocessed, hsome⟩ := taken.processed_handleInterrupt hfull
    have hfirst : c.Processed words pairs taken.handleInterrupt.2 := { hprocessed with }
    obtain ⟨henabled, hhandling, hline⟩ := taken.enabled_handleInterrupt hfull
    set next := taken.handleInterrupt.2
    rw [hstep]
    cases hleft : next.host.bus.hasCompletions with
    | true =>
      -- A word without a valid bit has ended the call early, and the card has raised the next interrupt.
      rw [hleft, if_pos rfl] at hline
      have hraised : next.host.line = { c.host.line with pending := 1 } := by
        rw [hline]
        exact if_neg (by rw [hopen]; exact Bool.false_ne_true)
      have htotal : next.host.bus.txReturns.length + next.host.bus.rxReturns.length ≤ n := by
        have htx := congrArg List.length hfirst.txReturns
        have hrx := congrArg List.length hfirst.rxReturns
        rw [List.length_append] at htx hrx
        omega
      obtain ⟨hsettles, hrest, hidles⟩ :=
        ih next (by rw [hraised]; exact hopen) (by rw [hraised]; exact Nat.one_pos) hleft htotal
      have hall := hfirst.trans hrest
      rw [← hfirst.txReturns, ← hfirst.rxReturns] at hall
      exact ⟨.handled hwait hsettles, hall, hidles⟩
    | false =>
      rw [hleft, if_neg Bool.false_ne_true] at hline
      rw [hleft] at hhandling
      obtain ⟨htx, hrx⟩ := (hasCompletions_iff next.host.bus).mp hleft
      have hquiet : next.host.line.pending = 0 := by rw [hline]
      have hstill : next.host.line.closed = false := by rw [hline]; exact hopen
      rw [next.settleFor_of_quiet n hquiet hstill]
      have htxAll := hfirst.txReturns
      have hrxAll := hfirst.rxReturns
      rw [htx, List.append_nil] at htxAll
      rw [hrx, List.append_nil] at hrxAll
      rw [htxAll, hrxAll]
      exact ⟨.handled hwait (.quiet (next.host.line.wait?_of_quiet hquiet hstill)), hfirst,
        ⟨htx, hrx, henabled, hhandling, hquiet⟩⟩

/-- Whatever is in the two FIFOs of a card, handling interrupts while there are any comes to an end,
in one state only: every word was processed, once and in order, both FIFOs are empty, interrupts are
enabled, and none is being handled. -/
theorem settle_processes_all (c : Card Board) (hopen : c.host.line.closed = false)
    (hpending : 0 < c.host.line.pending) (hfull : c.host.bus.hasCompletions = true) :
    (∀ c', c.Settles c' ↔ c' = c.settle) ∧
      c.Processed c.host.bus.txReturns c.host.bus.rxReturns c.settle ∧ c.settle.Idles := by
  obtain ⟨hsettles, hprocessed, hidles⟩ := settleFor_processes
    (c.host.bus.txReturns.length + c.host.bus.rxReturns.length + 1) c hopen hpending hfull (Nat.le_succ _)
  exact ⟨fun c' => ⟨fun h => h.unique hsettles, fun h => h ▸ hsettles⟩, hprocessed, hidles⟩

/-- The small card with a word that is not valid in its FIFO, and after it the word of a frame that it has sent. -/
def smallSent : Card Board :=
  (send { small with host := Board.injectTx small.host 0#32 } .refuses 0#32 0#32 [7#32]).2

/-- The first word ends a call early. The next call takes the second, and the buffer that it gives back is the last
in the ring. -/
theorem settle_processes_all_small :
    ∃ c : Card Board, c.host.bus.txReturns = [0#32, TxReturn.encode 0x10000000#32] ∧ c.device.txFree.toList = [1] ∧
      (c.host.line.closed = false ∧ 0 < c.host.line.pending ∧ c.host.bus.hasCompletions = true) ∧
      c.Processed [0#32, TxReturn.encode 0x10000000#32] [] c.settle ∧ c.settle.Idles ∧
      c.settle.device.txFree.toList = [1, 0] ∧ c.settle.device.unmatched = 0 := by
  obtain ⟨-, hprocessed, hidles⟩ := settle_processes_all smallSent rfl (by decide) rfl
  have hfree : smallSent.settle.device.txFree.toList = [1, 0] := by
    rw [hprocessed.device]
    decide +kernel
  have hunmatched : smallSent.settle.device.unmatched = 0 := by
    rw [hprocessed.device]
    decide +kernel
  exact ⟨smallSent, rfl, rfl, ⟨rfl, by decide, rfl⟩, hprocessed, hidles, hfree, hunmatched⟩

end Card
end LaneCard
