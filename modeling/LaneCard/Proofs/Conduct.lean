import LaneCard.Proofs.HandlerSteps
import LaneCard.Proofs.Interaction
import LaneCard.Proofs.Moves
import LaneCard.Proofs.Transmission

/-!
# What a driver may do

Whatever a driver is asked to do, and whatever its card tells it, it makes register writes only that
are in order. A `Deed` is anything that can happen to an attached card: a move of a run, words that the
card or its lanes make up, registers that change by themselves, and accesses through a register window.
Only a write through a window is not the driver's own.
-/

namespace LaneCard

/-- The bytes that a call wants to be sent, if it sends any. -/
def Call.payload? (memory : CallerMemory) : Call → Option Bytes
  | .send _ _ data => some (Bytes.ofWords data)
  | .write record =>
    match TxRequest.decode record with
    | .ok request => (memory.read request.data.toNat (request.size.toNat * wordSize)).toOption
    | .error _ => none
  | _ => none

/-- Reading gives as many bytes as were asked for. -/
theorem CallerMemory.size_read {m : CallerMemory} {addr length : Nat} {bytes : Bytes}
    (h : m.read addr length = .ok bytes) : bytes.size = length := by
  unfold CallerMemory.read at h
  cases hlocate : m.locate addr length with
  | error e =>
    rw [hlocate] at h
    contradiction
  | ok s =>
    rw [hlocate] at h
    obtain rfl := Except.ok.inj h
    unfold locate at hlocate
    split at hlocate
    · split at hlocate
      · obtain rfl := Except.ok.inj hlocate
        simp only [ByteArray.size_extract]
        omega
      · contradiction
    · contradiction

/-- A write that gives the card no address touches no memory. -/
theorem Host.buffers_write_of_isPlain (h : Host Board) {offset : Nat} (value : Word)
    (hplain : Board.IsPlain offset) : (h.write offset value).buffers = h.buffers := by
  obtain ⟨handling, line, hstore⟩ := Board.store_of_isPlain h value hplain
  change (Board.store h offset value).buffers = h.buffers
  rw [hstore]
  rfl

namespace Card

variable {c : Card Board} {payload : Option Bytes}

/-! ## Sending -/

/-- A buffer that was filled holds the data. -/
theorem Backed.read_filled (hc : c.Backed) {b : Buffer} {memory : Allocator} {data : Bytes}
    (hb : b ∈ c.device.txPool.buffers.toList) (hfill : b.fill c.host.buffers data = .ok memory) :
    (memory.contents b.region).read 0 data.size = data := by
  have hroomy : b.size ≤ b.region.size := by
    rw [hc.tx.sized b hb]
    exact hc.tx.roomy b hb
  rw [(Buffer.rewritten_of_fill (hc.tx.live b hb) hroomy hfill).inside,
    Memory.read_write_zero _ _ _ (Nat.le_refl _)]
  exact ByteArray.extract_zero_size

/-- A frame that was filled into a buffer of the pool may be sent. -/
theorem Backed.works_launched (hc : c.Backed) {i : Nat} {b : Buffer} {memory : Allocator} {data : Bytes}
    {lane vc size : Word} (hb : c.device.txPool.buffers[i]? = some b)
    (hsize : size.toNat * wordSize ≤ c.device.txPool.bufferSize)
    (hfill : b.fill c.host.buffers data = .ok memory) (hdata : data.size = size.toNat * wordSize) :
    c.Works (some data) (c.launched i b memory lane vc size) := by
  have hmem : b ∈ c.device.txPool.buffers.toList := BufferPool.mem_of_getElem? hb
  set loaded : Card Board := { c with host := c.host.setBuffers memory }
  have hmemory : loaded.host.buffers = memory := Host.buffers_setBuffers _ _
  have hloaded : c.Works (some data) loaded :=
    { device := .refl _
      regions := hmemory ▸ Buffer.regions_fill hfill
      writes := .of_interaction (.fill hfill) }
  -- Whether the frame is sent or dropped, the buffer leaves the ring with a note of it.
  have hframed (w : Card Board) (hw : w.device = c.device) (hworks : c.Works (some data) w) :
      c.Works (some data)
        { w with
          device :=
            { c.device with
              txPool := c.device.txPool.setFrame i ⟨lane, vc, size, FrameFlags.none⟩
              txFree := c.device.txFree.drop } } := by
    refine hworks.trans (.still ?_ rfl rfl rfl)
    rw [hw]
    exact ⟨.setFrame _ _ _, .refl _, fun _ hk => .inl (Ring.mem_toList_drop hk), fun _ => .inl⟩
  unfold launched
  by_cases hlane : lane.toNat < laneCount
  · dsimp only
    rw [if_pos hlane]
    set word := (TxDescriptor.mk lane vc size).encode
    set described := loaded.write (Offset.txWrA + 4 * lane.toNat) word
    have hplain := Board.isPlain_txWrA lane.toNat hlane
    have hdescribed : c.Works (some data) described :=
      hloaded.trans (loaded.works_write word hplain.takesNoAddress)
    have hlast : described.host.bus.writes.back? = some (Offset.txWrA + 4 * lane.toNat, word) := by
      change (loaded.host.write _ word).bus.writes.back? = _
      rw [Host.writes_write, Array.back?_push]
    have hlength : (TxDescriptor.decode word).length = size := by
      refine TxDescriptor.length_decode_encode _ (Nat.le_trans ?_ hc.describable)
      exact (Nat.le_div_iff_mul_le (by decide)).mpr hsize
    have hbuffers : described.host.buffers = memory :=
      (loaded.host.buffers_write_of_isPlain word hplain).trans hmemory
    have hsent : described.Works (some data) (described.write (Offset.txWrB + 4 * lane.toNat) b.addr) := by
      refine (hdescribed.toKept.backed hc).works_txWrB hmem hlane hlast ?_ ?_
      · rw [hlength]
        exact hsize
      · rw [hlength, hbuffers, ← hdata]
        exact hc.read_filled hmem hfill
    exact hframed (described.write (Offset.txWrB + 4 * lane.toNat) b.addr) rfl (hdescribed.trans hsent)
  · dsimp only
    rw [if_neg hlane]
    exact hframed loaded rfl hloaded

/-- Sending a frame makes register writes in order, if the source gives the payload. -/
theorem Backed.works_submit (hc : c.Backed) (patience : Patience) (lane vc size : Word)
    (source : Nat → Except CardError Bytes)
    (hsource : ∀ data, source (size.toNat * wordSize) = .ok data →
      data.size = size.toNat * wordSize ∧ payload = some data) :
    c.Works payload (c.submit patience lane vc size source).2 := by
  have hends := c.submission patience lane vc size source
  cases hanswer : c.submit patience lane vc size source
  rw [hanswer] at hends
  cases hends with
  | oversized _ _ hunmoved => exact hunmoved.works
  | asleep _ _ _ hunmoved => exact hunmoved.works
  | refused _ _ _ _ hunmoved => exact hunmoved.works
  | unnamed _ _ _ hunmoved => exact hunmoved.works
  | unfilled _ _ _ _ _ _ _ _ hunmoved => exact hunmoved.works
  | accepted i b data memory w c' hsize hi hb hsent hfill hw hunmoved =>
    obtain ⟨hdata, rfl⟩ := hsource data hsent
    have hbacked : w.Backed := hw.backed hc
    have hpool : w.device.txPool = c.device.txPool := by rw [hw.device]
    have hbuffers : w.host.buffers = c.host.buffers := by rw [hw.host]; rfl
    exact (hw.works.trans (hbacked.works_launched (hpool ▸ hb) (hpool ▸ hsize) (hbuffers ▸ hfill) hdata)).trans
      hunmoved.works

/-! ## Receiving -/

/-- Receiving a frame makes register writes in order. -/
theorem Backed.works_receive {γ : Type} (hc : c.Backed) (patience : Patience) (maxSize : Nat)
    (sink : Bytes → Except CardError γ) : c.Works payload (c.receive patience maxSize sink).2 := by
  have hrelieved {w : Card Board} (hw : c.Unmoved w) {i : Nat} {b : Buffer}
      (hb : c.device.rxPool.buffers[i]? = some b) : c.Works payload (w.relieved b) := by
    have hbacked : w.Backed := hw.backed hc
    have hpool : w.device.rxPool = c.device.rxPool := by rw [hw.device]
    have hmem : b ∈ w.device.rxPool.buffers.toList := hpool ▸ BufferPool.mem_of_getElem? hb
    refine (hw.works.trans (hbacked.works_giveFree hmem b.frame.lane.toNat)).trans (.still ?_ rfl rfl rfl)
    exact ⟨.refl _, .refl _, fun _ => .inl, fun _ hk => .inl (Ring.mem_toList_drop hk)⟩
  have hends := c.reception patience maxSize sink
  cases hanswer : c.receive patience maxSize sink
  rw [hanswer] at hends
  cases hends with
  | asleep _ _ hunmoved => exact hunmoved.works
  | refused _ _ _ hunmoved => exact hunmoved.works
  | unnamed _ _ _ hunmoved => exact hunmoved.works
  | spoiled _ _ _ _ _ _ hb _ hw hunmoved => exact (hrelieved hw hb).trans hunmoved.works
  | received _ _ _ _ _ _ hb _ hw hunmoved => exact (hrelieved hw hb).trans hunmoved.works

/-- Giving unread frames back makes register writes in order. -/
theorem Backed.works_returnUnread (n : Nat) (hc : c.Backed) : c.Works payload (returnUnread n c).2 := by
  induction n generalizing c with
  | zero => exact .refl c
  | succ n ih =>
    unfold returnUnread
    split
    · exact .refl c
    · rename_i index ring hpop
      have hring : ring = c.device.rxReady.drop := (congrArg Prod.snd hpop).symm
      dsimp only
      set dropped : Card Board := { c with device := { c.device with rxReady := ring } }
      have hdropped : c.Works payload dropped := by
        refine .still ⟨.refl _, .refl _, fun _ => .inl, fun k hk => .inl ?_⟩ rfl rfl rfl
        exact Ring.mem_toList_drop (hring ▸ hk)
      have hbacked := hdropped.toKept.backed hc
      split
      · rename_i b hb
        have hgiven := hdropped.trans
          (hbacked.works_giveFree (BufferPool.mem_of_getElem? hb) b.frame.lane.toNat)
        exact hgiven.trans (ih (hgiven.toKept.backed hc))
      · exact hdropped.trans (ih hbacked)

/-- Closing makes register writes in order. -/
theorem Backed.works_closeSession (hc : c.Backed) : c.Works payload c.closeSession := by
  set shut : Card Board := { c with device := { c.device with isOpen := false } }
  have hshut : c.Works payload shut := .aside (.of_eq rfl rfl rfl rfl)
  have hreturned := hshut.trans ((hshut.toKept.backed hc).works_returnUnread shut.device.rxReady.length)
  refine hreturned.trans (Works.note ?_ _ _)
  exact .aside (.of_eq rfl rfl rfl rfl)

/-! ## Control -/

/-- Changing a register that takes no address makes a write in order. -/
theorem works_modify (c : Card Board) {offset : Nat} (change : Word → Word)
    (hoffset : Board.TakesNoAddress offset) :
    c.Works payload { c with host := c.host.modify offset change } :=
  (c.works_read offset).trans ((c.read offset).2.works_write _ hoffset)

/-- Writing one of eight registers below the free lists is a write in order. -/
theorem works_writeIndexed {c' : Card Board} {command : Command} {offset : Nat} {index : UInt8} {value : Word}
    (h : c.writeIndexed command offset index value = .ok c') (hoffset : offset + 32 ≤ Offset.rxFree) :
    c.Works payload c' := by
  obtain ⟨hindex, rfl⟩ := of_writeIndexed_ok h
  have hplain : Board.IsPlain (offset + 4 * index.toNat) := Board.isPlain_of_lt (by omega)
  exact c.works_write _ hplain.takesNoAddress

/-- The diagnostics are only looked at. -/
theorem works_dumpDiagnostics (c : Card Board) : c.Works payload c.dumpDiagnostics :=
  dumpDiagnostics_induction (c.Works payload) (fun _ _ _ hw => hw.note _ _) c (.refl c)

/-- A command that was performed has made register writes in order. -/
theorem works_perform {c' : Card Board} {command : Command} {arg : Word} (h : c.perform command arg = .ok c') :
    c.Works payload c' := by
  cases command <;> simp only [perform, Except.ok.injEq, reduceCtorEq] at h <;> try subst h
  case countReset =>
    exact (c.works_modify _ (by decide)).trans (works_modify _ _ (by decide))
  case evrRunCode index => exact works_writeIndexed h (by decide)
  case evrAcceptCode index => exact works_writeIndexed h (by decide)
  case evrRunDelay index => exact works_writeIndexed h (by decide)
  case evrAcceptDelay index => exact works_writeIndexed h (by decide)
  case dumpDebug => exact c.works_dumpDiagnostics
  case setLoop | setRxReset | setTxReset | evrEnable | evrSetReset | evrSetPllRst =>
    exact c.works_modify _ (by decide)
  case clrLoop | clrRxReset | clrTxReset | evrDisable | evrClrReset | evrClrPllRst =>
    exact c.works_modify _ (by decide)
  case pgpOpCode | evrMask => exact c.works_write _ (by decide)
  case nop => exact (Works.refl c).note _ _
  case setDebug => exact .still (.of_eq rfl rfl rfl rfl) rfl rfl rfl

/-- Control makes register writes in order, whether the command is carried out or not. -/
theorem works_control (c : Card Board) (command : Command) (arg : Pointer) :
    c.Works payload (c.control command arg).2 := by
  unfold control
  split
  · exact ((Works.refl c).trace _ _).trans (works_write _ _ (by decide))
  · dsimp only
    split
    · exact .refl c
    · rename_i hperform
      exact (works_perform hperform).trace _ _

/-- Detaching makes a register write in order. -/
theorem works_detach (c : Card Board) : c.Works payload c.detach := by
  unfold detach
  split
  · exact .refl c
  · set stopped : Card Board := { c with device := { c.device with detached := true } }
    have hstopped : c.Works payload stopped :=
      .aside (.of_eq rfl rfl rfl rfl)
    have hmasked : c.Works payload (stopped.write Offset.irq 0#32) :=
      hstopped.trans (stopped.works_write 0#32 (by decide))
    refine Works.note (hmasked.trans ?_) _ _
    exact .still (.refl _) rfl rfl rfl

/-! ## Calls -/

/-- A call makes register writes in order, and sends what it was asked to send. -/
theorem Backed.works_makeCall (hc : c.Backed) (memory : CallerMemory) (patience : Patience) (call : Call) :
    c.Works (call.payload? memory) (Bench.makeCall c memory patience call).2 := by
  cases call with
  | send lane vc data =>
    change c.Works _ (c.send patience lane vc data).2
    unfold send
    split
    · rename_i hlength
      have hword : (BitVec.ofNat 32 data.length).toNat = data.length := Word.toNat_ofNat_of_lt hlength
      refine hc.works_submit patience lane vc _ _ fun bytes hbytes => ?_
      obtain rfl := Except.ok.inj hbytes
      exact ⟨by rw [Bytes.size_ofWords, hword, wordSize, Nat.mul_comm], rfl⟩
    · exact .refl c
  | recv buffer => exact hc.works_receive patience buffer.length _
  | write record =>
    change c.Works _ (c.writeRecord patience record memory).2.1
    rcases hresult : c.writeRecord patience record memory with ⟨reply, after, memory'⟩
    cases writing hresult with
    | unread => exact (Works.refl c).note _ _
    | unknown => exact (Works.refl c).note _ _
    | frame request hrecord =>
      refine hc.works_submit patience request.lane request.vc request.size _ fun data hdata => ?_
      refine ⟨CallerMemory.size_read hdata, ?_⟩
      rw [Call.payload?, hrecord]
      dsimp only
      rw [hdata]
      rfl
    | command request command => exact c.works_control command request.data
    | unstored request command => exact (c.works_control command request.data).note _ _
  | read record =>
    have hread : c.Works ((Call.read record).payload? memory) (c.readRecord patience record memory).2.2.1 := by
      unfold readRecord
      split
      · exact (Works.refl c).note _ _
      · rename_i request _
        have hreceived : c.Works ((Call.read record).payload? memory) _ :=
          hc.works_receive patience request.maxSize.toNat (memory.write request.data.toNat)
        split
        · rename_i hanswer
          rw [hanswer] at hreceived
          exact hreceived
        · rename_i hanswer
          rw [hanswer] at hreceived
          exact hreceived
        · rename_i hanswer
          rw [hanswer] at hreceived
          split
          · exact hreceived
          · split <;> exact hreceived
    unfold Bench.makeCall
    dsimp only
    split <;> exact hread
  | pollWait interest limited =>
    change c.Works _ (c.pollWait interest limited).2
    unfold pollWait
    dsimp only
    split
    · exact .aside (.of_eq rfl rfl rfl rfl)
    · exact .refl c
    · split <;> exact .refl c

/-! ## The completion handler -/

/-- Counting a word that names no buffer writes no register. -/
theorem works_unmatched (c : Card Board) (text : String) :
    c.Works payload
      (Card.note { c with device := { c.device with unmatched := c.device.unmatched + 1 } } .warn text) := by
  have hcounted : c.Works payload { c with device := { c.device with unmatched := c.device.unmatched + 1 } } :=
    .aside (.of_eq rfl rfl rfl rfl)
  exact hcounted.note _ _

/-- Filing a transmit word writes no register. -/
theorem works_finishTx (c : Card Board) (addr : Word) : c.Works payload (c.finishTx addr) := by
  unfold finishTx
  split
  · exact c.works_unmatched _
  · rename_i i hfind
    dsimp only
    have hpushed :
        c.Works payload { c with device := { c.device with txFree := (c.device.txFree.push i).2 } } := by
      refine .still ⟨.refl _, .refl _, fun k hk => ?_, fun _ => .inl⟩ rfl rfl rfl
      rcases Ring.mem_toList_push hk with hold | rfl
      · exact .inl hold
      · exact .inr (BufferPool.lt_size_of_find? hfind)
    refine Works.trace ?_ _ _
    split
    · exact hpushed.note _ _
    · exact hpushed

/-- Making a received frame readable writes no register. -/
theorem works_queueRx (c : Card Board) {i : Nat} {desc : RxDescriptor}
    (hfind : c.device.rxPool.find? desc.addr = some i) : c.Works payload (c.queueRx i desc) := by
  have hqueued : c.Works payload
      { c with
        device :=
          { c.device with
            rxPool := c.device.rxPool.setFrame i desc.toFrameMeta
            rxReady := (c.device.rxReady.push i).2 } } := by
    refine .still ⟨.refl _, .setFrame _ _ _, fun _ => .inl, fun k hk => ?_⟩ rfl rfl rfl
    rcases Ring.mem_toList_push hk with hold | rfl
    · exact .inl hold
    · exact .inr (BufferPool.lt_size_of_find? hfind)
  unfold queueRx
  dsimp only
  refine Works.trans (Works.trace ?_ _ _) (.aside (.of_eq rfl rfl rfl rfl))
  split
  · exact hqueued.note _ _
  · exact hqueued

/-- Filing a received frame gives an address to the card only if it is that of a receive buffer. -/
theorem Backed.works_finishRx (hc : c.Backed) (desc : RxDescriptor) : c.Works payload (c.finishRx desc) := by
  unfold finishRx
  split
  · exact c.works_unmatched _
  · rename_i i hfind
    split
    · exact c.works_queueRx hfind
    · obtain ⟨b, hb, haddr⟩ := BufferPool.exists_of_find? hfind
      have hgiven : c.Works payload (c.giveFree desc.lane.toNat b.addr) :=
        hc.works_giveFree (BufferPool.mem_of_getElem? hb) desc.lane.toNat
      rw [haddr] at hgiven
      exact hgiven.trans (.aside (.of_eq rfl rfl rfl rfl))

/-- Handling interrupts makes register writes in order, whatever is in the FIFOs. -/
theorem keptHandling_works : KeptHandling fun c c' => c.Backed → c.Works payload c' where
  refl c _ := .refl c
  trans h h' hc := (h hc).trans (h' ((h hc).toKept.backed hc))
  read c offset _ := c.works_read offset
  finishTx c addr _ := c.works_finishTx addr
  finishRx _ desc hc := hc.works_finishRx desc
  trace c text _ := (Works.refl c).trace 0 text
  writeIrq c value _ := c.works_write value (by decide)
  takeLine _ _ := .still (.refl _) rfl rfl rfl

end Card

/-! ## Everything that can happen -/

/-- Something that happens to an attached card, or is done to it. -/
inductive Deed where
  | move (m : Move)
  /-- A register changes by itself. -/
  | poke (offset : Nat) (value : Word)
  | map (length : Nat) (readable writable : Bool)
  | readWindow (w : RegisterWindow) (offset : Nat)
  | writeWindow (w : RegisterWindow) (offset : Nat) (value : Word)
  | diagnostics

namespace Deed

/-- Whether a register is written by somebody else than the driver. -/
def isForeign : Deed → Bool
  | writeWindow .. => true
  | _ => false

/-- The bytes that a deed wants to be sent, if it sends any. -/
def payload? : Deed → Option Bytes
  | move (.call _ memory call) => call.payload? memory
  | _ => none

end Deed

namespace Card

/-- The card after a deed. -/
def undergo (c : Card Board) : Deed → Card Board
  | .move m => (c.play m).2
  | .poke offset value => { c with host := { c.host with bus := c.host.bus.poke offset value } }
  | .map length readable writable => (c.mapRegisters length readable writable).2
  | .readWindow w offset => { c with host := (w.read c.host offset).2 }
  | .writeWindow w offset value => { c with host := (w.write c.host offset value).2 }
  | .diagnostics => c

/-- The card after deeds, one after the other. -/
def undergoAll (c : Card Board) (deeds : List Deed) : Card Board := deeds.foldl undergo c

variable {c : Card Board}

/-- A move makes register writes in order. -/
theorem Backed.works_play (hc : c.Backed) (m : Move) : c.Works (Deed.move m).payload? (c.play m).2 := by
  cases m with
  | openSession nonblock =>
    change c.Works _ (c.openSession nonblock).2
    unfold openSession
    split
    · exact .refl c
    · split
      · exact (Works.refl c).note _ _
      · have hopened : c.Works none { c with device := { c.device with isOpen := true, signal := false } } :=
          .aside (.of_eq rfl rfl rfl rfl)
        exact hopened.trace _ _
  | closeSession => exact hc.works_closeSession
  | call patience memory call => exact hc.works_makeCall memory patience call
  | control command arg => exact c.works_control command arg
  | interrupt => exact .aside (.of_eq rfl rfl rfl rfl)
  | notify listener =>
    exact ((Works.refl c).trace _ _).trans (.aside (.of_eq rfl rfl rfl rfl))
  | status => exact c.works_write _ (by decide)
  | detach => exact c.works_detach
  | hold on =>
    cases on with
    | true => exact .still (.refl _) rfl rfl rfl
    | false =>
      obtain ⟨hmemory, hapart, hwrites⟩ := Board.interrupt_kept
        { c.host with
          bus :=
            { c.host.bus with
              holdTx := false
              txReturns := c.host.bus.txReturns ++ c.host.bus.heldTx
              heldTx := [] } }
      exact .still (.refl _) hwrites hmemory hapart
  | takeFree lane =>
    unfold play
    dsimp only
    split
    · rename_i htaken
      obtain ⟨rest, -, rfl⟩ := Board.takeFrom?_eq_some htaken
      exact .still (.refl _) rfl rfl rfl
    · exact .refl c
  | injectRx desc =>
    obtain ⟨hmemory, hapart, hwrites⟩ := Board.interrupt_kept
      { c.host with bus := { c.host.bus with rxReturns := c.host.bus.rxReturns ++ [desc.encode] } }
    exact .still (.refl _) hwrites hmemory hapart
  | injectTx word =>
    obtain ⟨hmemory, hapart, hwrites⟩ := Board.interrupt_kept
      { c.host with bus := { c.host.bus with txReturns := c.host.bus.txReturns ++ [word] } }
    exact .still (.refl _) hwrites hmemory hapart
  | serve n => exact keptHandling_works.settleFor n c hc

/-- All that is the driver's own makes register writes in order. -/
theorem Backed.works_undergo (hc : c.Backed) (deed : Deed) (hown : deed.isForeign = false) :
    c.Works deed.payload? (c.undergo deed) := by
  cases deed with
  | move m => exact hc.works_play m
  | poke offset value => exact .still (.refl _) rfl rfl rfl
  | map length readable writable =>
    unfold undergo mapRegisters
    dsimp only
    split
    · exact .refl c
    · split
      · exact (Works.refl c).note _ _
      · exact .refl c
  | readWindow w offset =>
    unfold undergo RegisterWindow.read
    dsimp only
    split
    · exact c.works_read offset
    · exact .refl c
  | writeWindow => contradiction
  | diagnostics => exact .refl c

/-- The driver's side goes on with its buffers, and no region is taken away, whoever writes registers. -/
theorem Backed.kept_undergo (hc : c.Backed) (deed : Deed) : c.Kept (c.undergo deed) := by
  cases hforeign : deed.isForeign with
  | false => exact (hc.works_undergo deed hforeign).toKept
  | true =>
    cases deed with
    | writeWindow w offset value =>
      unfold undergo RegisterWindow.write
      dsimp only
      split
      · exact ⟨.refl _, c.host.regions_write offset value⟩
      · exact ⟨.refl _, rfl⟩
    | move | poke | map | readWindow | diagnostics => contradiction

/-- The same is true of any number of deeds. -/
theorem Backed.kept_undergoAll (hc : c.Backed) (deeds : List Deed) : c.Kept (c.undergoAll deeds) := by
  induction deeds generalizing c with
  | nil => exact ⟨.refl _, rfl⟩
  | cons deed rest ih =>
    have hfirst := hc.kept_undergo deed
    have hrest := ih (hfirst.backed hc)
    exact ⟨hfirst.device.trans hrest.device, hrest.regions.trans hfirst.regions⟩

end Card

end LaneCard
