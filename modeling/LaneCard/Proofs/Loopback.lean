import LaneCard.Proofs.Mirror
import LaneCard.Proofs.Wires

/-!
# Looped frames come back in order

A card that handles its interrupts to the end after every step is, as far as its callers can see, the
queue of its looped frames. Between two steps nothing is on its way and nothing is pending; a step
that sends raises one interrupt, and when that was handled the frame is at the end of the queue and
its transmit buffer is free again.
-/

namespace LaneCard

/-- A card between two steps: its buffers hold the frames of a queue, and nothing is on its way. -/
structure Card.Mirrors (c : Card Board) (config : Config) (q : FrameQueue) : Prop where
  buffers : c.holdings.Mirrors config q []
  txReturns : c.holdings.txReturns = []
  rxReturns : c.holdings.rxReturns = []
  quiet : c.wires.Quiet
  looped : ∀ lane < laneCount, c.wires.loops lane = q.looped lane

/-- A step of the card answers like the queue, and leads to what the step of the queue leads to. -/
def Card.Follows (c : Card Board) (config : Config) (q : FrameQueue) (t : Traffic) : Prop :=
  (c.turn t).1 = (q.step config t).1 ∧ (c.turn t).2.Mirrors config (q.step config t).2

namespace Card.Mirrors

variable {c c' : Card Board} {config : Config} {q q' : FrameQueue} {t : Traffic} {o : Outcome}

/-- Work that leaves the wires alone, and nothing on its way, leads to what its buffers hold. -/
theorem of_buffers (h : c.Mirrors config q) {H : Holdings} (hholdings : c'.holdings = H)
    (hafter : H.Mirrors config q' []) (hreturns : H.txReturns = [] ∧ H.rxReturns = []) (hwires : c'.wires = c.wires)
    (hlooped : q'.looped = q.looped) : c'.Mirrors config q' where
  buffers := by rw [hholdings]; exact hafter
  txReturns := by rw [hholdings, hreturns.1]
  rxReturns := by rw [hholdings, hreturns.2]
  quiet := by rw [hwires]; exact h.quiet
  looped := by rw [hwires, hlooped]; exact h.looped

/-- Work that neither moves a buffer nor touches a wire changes nothing. -/
theorem of_same (h : c.Mirrors config q) (hholdings : c'.holdings = c.holdings) (hwires : c'.wires = c.wires) :
    c'.Mirrors config q := h.of_buffers hholdings h.buffers ⟨h.txReturns, h.rxReturns⟩ hwires rfl

/-- Neither does work that moves nothing. -/
theorem of_unmoved (h : c.Mirrors config q) (hc : c.Unmoved c') : c'.Mirrors config q :=
  h.of_same hc.holdings (Unmoved.wires hc h.quiet.signal)

/-- A step after which there is nothing to be handled. -/
theorem follows_of_quiet (hplay : c.play t.move = (o, c')) (hstep : q.step config t = (o, q'))
    (hafter : c'.Mirrors config q') : c.Follows config q t := by
  have hturn : c.turn t = ((c.play t.move).1, (c.play t.move).2.settle) := rfl
  have hsettle : c'.settle = c' := c'.settleFor_of_quiet _ hafter.quiet.pending hafter.quiet.closed
  rw [Follows, hturn, hplay, hstep, hsettle]
  exact ⟨rfl, hafter⟩

/-- A step that has handed a transmit buffer over, and raised an interrupt. -/
theorem follows_of_raised (h : c.Mirrors config q) (hplay : c.play t.move = (o, c'))
    {fs : List LoopFrame} (hstep : q.step config t = (o, q.file fs)) (hafter : c'.holdings.Mirrors config q fs)
    {addr : Word} (hreturns : c'.holdings.txReturns = [TxReturn.encode addr])
    (hwires : c'.wires = c.wires.raised) : c.Follows config q t := by
  have hopen : c.wires.line.closed = false := h.quiet.closed
  have hpending : 0 < c'.wires.line.pending := by
    rw [hwires]
    change 0 < c.wires.line.raise.pending
    rw [IrqLine.raise, hopen, if_neg Bool.false_ne_true]
    exact Nat.succ_pos _
  have hclosed : c'.wires.line.closed = false := by
    rw [hwires]
    exact (IrqLine.closed_raise _).trans hopen
  have hfull : c'.host.bus.hasCompletions = true := by
    have hlist : c'.host.bus.txReturns = [TxReturn.encode addr] := hreturns
    simp [Board.hasCompletions, hlist]
  have hwords : ∀ w ∈ c'.holdings.txReturns, (TxReturn.decode? w).isSome := by
    intro w hw
    rw [hreturns, List.mem_singleton] at hw
    rw [hw, TxReturn.decode?_encode]
    rfl
  have hpairs : ∀ p ∈ c'.holdings.rxReturns, (RxDescriptor.decode? p.1 p.2).isSome := by
    intro p hp
    obtain ⟨d, hd⟩ := hafter.owned.valid p hp
    rw [hd]
    rfl
  obtain ⟨⟨words, pairs, hdrained⟩, htx, hrx, hsettled⟩ :=
    c'.settle_of_raised hpending hclosed hfull hwords hpairs
  have hturn : c.turn t = ((c.play t.move).1, (c.play t.move).2.settle) := rfl
  rw [Follows, hturn, hplay, hstep]
  refine ⟨rfl, ?_⟩
  exact
    { buffers := hafter.drained hdrained hrx
      txReturns := htx
      rxReturns := hrx
      quiet := by
        rw [hsettled, hwires]
        exact ⟨rfl, rfl, (IrqLine.closed_raise _).trans hopen, h.quiet.detached, h.quiet.signal⟩
      looped := by
        rw [hsettled, hwires]
        exact h.looped }

/-! ## Opening, closing and control -/

/-- Opening the card. -/
theorem follows_openSession (h : c.Mirrors config q) (nonblock : Bool) :
    c.Follows config q (.openSession nonblock) := by
  have hdetached : c.device.detached = false := h.quiet.detached
  have hopen : c.device.isOpen = q.isOpen := h.buffers.isOpen
  have hplay : c.play (Traffic.openSession nonblock).move =
      (.ofExcept (fun _ => .nothing) (c.openSession nonblock).1, (c.openSession nonblock).2) := rfl
  rw [openSession, hdetached, hopen, if_neg Bool.false_ne_true] at hplay
  by_cases hq : q.isOpen = true
  · rw [if_pos hq] at hplay
    refine follows_of_quiet hplay ?_ (h.of_same rfl rfl)
    rw [FrameQueue.step, if_pos hq]
    rfl
  · rw [if_neg hq] at hplay
    have hstep : q.step config (.openSession nonblock) = (.nothing, { q with isOpen := true }) := by
      rw [FrameQueue.step, if_neg hq]
    refine follows_of_quiet hplay hstep ?_
    refine h.of_buffers (holdings_trace _ _ _) h.buffers.opened ⟨h.txReturns, h.rxReturns⟩ ?_ rfl
    exact (wires_trace _ _ _).trans h.quiet.signal_eq

/-- Closing the session. -/
theorem follows_closeSession (h : c.Mirrors config q) : c.Follows config q .closeSession := by
  obtain ⟨ring, hempty, hcapacity, hcollisions, hclosed⟩ := c.holdings_closeSession
  have hafter := h.buffers.closed hempty hcapacity hcollisions
  have hwires : c.closeSession.wires = c.wires := c.wires_closeSession.trans h.quiet.signal_eq
  exact follows_of_quiet rfl rfl (h.of_buffers hclosed hafter ⟨h.txReturns, h.rxReturns⟩ hwires rfl)

/-- Looping a lane back, or not any more. -/
theorem follows_loop (h : c.Mirrors config q) (on : Bool) (arg : Pointer) : c.Follows config q (.loop on arg) := by
  have hholdings := c.holdings_control (if on then .setLoop else .clrLoop) arg
  have hwires := c.wires_control_loop on arg
  have hplay : c.play (Traffic.loop on arg).move =
      (.done, (c.control (if on then .setLoop else .clrLoop) arg).2) := by
    obtain ⟨text, hcontrol⟩ := c.control_loop on arg
    rw [Traffic.move, play, hcontrol]
    rfl
  refine follows_of_quiet hplay rfl ?_
  exact
    { buffers := by
        rw [hholdings]
        exact { h.buffers with }
      txReturns := by rw [hholdings, h.txReturns]
      rxReturns := by rw [hholdings, h.rxReturns]
      quiet := by
        rw [hwires]
        exact { h.quiet with }
      looped := fun k hk => by
        have hlane : (arg.setWidth 32).toNat % laneCount < laneCount := Nat.mod_lt _ (by decide)
        have hbit := isSet_loopLane on c.wires.link hlane hk
        change _ = Function.update q.looped ((arg.setWidth 32).toNat % laneCount) on k
        rw [hwires, Function.update_apply, ← h.looped k hk]
        exact hbit }

/-! ## Sending -/

/-- A call that has to wait finds nothing in the ring, and answers as the queue does. -/
theorem waits (h : c.Mirrors config q) {patience : Patience} {ring : Ring} {reply : Reply Unit}
    (hwait : (c.waitFor patience ring).1 = reply) (hreply : reply ≠ .returned (.ok ())) :
    ring.toList = [] ∧ Outcome.ofReply (fun _ => .nothing) reply = FrameQueue.waits patience := by
  have hempty : ring.isEmpty = true := by
    by_contra hfull
    rw [Bool.not_eq_true] at hfull
    exact hreply (hwait ▸ (c.waitFor_unmoved patience ring).2.mpr hfull)
  refine ⟨ring.isEmpty_iff.mp hempty, ?_⟩
  rw [← hwait, c.waitFor_of_isEmpty patience ring hempty h.quiet.detached h.quiet.signal, FrameQueue.waits]
  split <;> rfl

/-- Sending a frame that was accepted. -/
theorem follows_accepted (h : c.Mirrors config q) {patience : Patience} {lane vc : Word} {words : List Word}
    (hword : words.length < wordSpan) (hfits : words.length * wordSize ≤ config.txSize) {i : Nat} {b : Buffer}
    {memory : Allocator} {w : Card Board} (hi : c.device.txFree.peek? = some i)
    (hb : c.device.txPool.buffers[i]? = some b) (hfill : b.fill c.host.buffers (Bytes.ofWords words) = .ok memory)
    (hw : c.Unmoved w) (hc : (w.launched i b memory lane vc (BitVec.ofNat 32 words.length)).Unmoved c')
    (hplay : c.play (Traffic.send patience lane vc words).move = (.number words.length, c')) :
    c.Follows config q (.send patience lane vc words) := by
  have hmirrors : w.Mirrors config q := h.of_unmoved hw
  have hsound := hmirrors.buffers.equipped.sound
  have hcount := Word.toNat_ofNat_of_lt hword
  have hsize : (BitVec.ofNat 32 words.length).toNat * wordSize ≤ w.device.txPool.bufferSize := by
    have htxSize : w.device.txPool.bufferSize = config.txSize := hmirrors.buffers.equipped.txSize
    rw [hcount, htxSize]
    exact hfits
  have hi' : w.device.txFree.peek? = some i := by rw [hw.device]; exact hi
  have hb' : w.device.txPool.buffers[i]? = some b := by rw [hw.device]; exact hb
  have hfill' : b.fill w.host.buffers (Bytes.ofWords words) = .ok memory := by rw [hw.host]; exact hfill
  have hsent := w.sent_launched hsound i b memory lane vc _ _ hsize hi' hb' hfill'
  obtain ⟨hsilent, hraised⟩ := w.wires_launched hsound hmirrors.quiet.irq hsize hb' hfill'
  have husable : q.usable ≠ 0 := by
    rw [← h.buffers.length_txFree h.txReturns, ← Ring.length_toList]
    rw [Ring.peek?_eq_head?] at hi
    exact Nat.ne_of_gt (List.length_pos_of_mem (List.mem_of_head? hi))
  have hstep : q.step config (.send patience lane vc words) =
      (.number words.length, q.transmit config lane vc words) := by
    rw [FrameQueue.step, if_neg (by omega), if_neg husable]
  by_cases hlane : lane.toNat < laneCount
  · obtain ⟨⟨fs, hafter, hfile⟩, addr, hreturns⟩ :=
      hmirrors.buffers.handedOver hmirrors.rxReturns hlane hcount hsent
    rw [hmirrors.txReturns, List.nil_append] at hreturns
    have hwires := hraised hlane (by rw [hreturns]; exact List.cons_ne_nil _ _)
    have htransmit : q.transmit config lane vc words = q.file fs := by
      have hlooped : w.host.bus.isLooped lane.toNat = q.looped lane.toNat := hmirrors.looped _ hlane
      rw [FrameQueue.transmit, if_neg (by omega), hfile, hlooped]
    rw [htransmit] at hstep
    refine h.follows_of_raised hplay hstep (by rw [hc.holdings]; exact hafter) (by rw [hc.holdings]; exact hreturns) ?_
    rw [Unmoved.wires hc (by rw [hwires]; exact hmirrors.quiet.signal), hwires, Unmoved.wires hw h.quiet.signal]
  · obtain ⟨hafter, htx, hrx⟩ := hmirrors.buffers.discarded hmirrors.txReturns (by omega) hsent
    have hwires := hsilent (by omega)
    have htransmit : q.transmit config lane vc words = { q with usable := q.usable - 1 } := by
      rw [FrameQueue.transmit, if_pos (by omega)]
    rw [htransmit] at hstep
    have hreturns := And.intro (htx.trans hmirrors.txReturns) (hrx.trans hmirrors.rxReturns)
    exact follows_of_quiet hplay hstep ((hmirrors.of_buffers rfl hafter hreturns hwires rfl).of_unmoved hc)

/-- Sending a frame. -/
theorem follows_send (h : c.Mirrors config q) (patience : Patience) (lane vc : Word) (words : List Word) :
    c.Follows config q (.send patience lane vc words) := by
  have hequipped := h.buffers.equipped
  have htxSize : c.device.txPool.bufferSize = config.txSize := hequipped.txSize
  have hplay : c.play (Traffic.send patience lane vc words).move =
      (.ofReply .number (c.send patience lane vc words).1, (c.send patience lane vc words).2) := rfl
  by_cases hword : words.length < wordSpan
  · have hcount := Word.toNat_ofNat_of_lt hword
    rw [send, if_pos hword] at hplay
    generalize hresult : c.submit patience lane vc _ _ = result at hplay
    have hway := hresult ▸ c.submission patience lane vc _ _
    -- A call that has to wait is not turned down for the size of its frame.
    have hwaits (hsize : (BitVec.ofNat 32 words.length).toNat * wordSize ≤ c.device.txPool.bufferSize)
        (hempty : c.device.txFree.toList = []) :
        q.step config (.send patience lane vc words) = (FrameQueue.waits patience, q) := by
      have hnone : q.usable = 0 := by
        rw [← h.buffers.length_txFree h.txReturns, ← Ring.length_toList]
        exact List.length_eq_zero_iff.mpr hempty
      rw [hcount, htxSize] at hsize
      rw [FrameQueue.step, if_neg (by omega), if_pos hnone]
    cases hway with
    | oversized c' hsize hc =>
      rw [hcount, htxSize] at hsize hplay
      refine follows_of_quiet hplay ?_ (h.of_unmoved hc)
      rw [FrameQueue.step, if_pos hsize]
      rfl
    | asleep c' hsize hwait hc =>
      obtain ⟨hempty, hanswer⟩ := h.waits hwait nofun
      refine follows_of_quiet hplay ?_ (h.of_unmoved hc)
      rw [hwaits hsize hempty, ← hanswer]
      rfl
    | refused e c' hsize hwait hc =>
      obtain ⟨hempty, hanswer⟩ := h.waits hwait nofun
      refine follows_of_quiet hplay ?_ (h.of_unmoved hc)
      rw [hwaits hsize hempty, ← hanswer]
      rfl
    | unnamed c' hwait hhead hc =>
      obtain ⟨lost, howned, -⟩ := h.buffers.usable
      have hfull := (c.waitFor_unmoved patience c.device.txFree).2.mp hwait
      obtain ⟨i, b, hi, hb⟩ :=
        c.device.txPool.exists_head (c.device.txFree.isEmpty_eq_false_iff.mp hfull) howned.inRange
      rw [hi, Option.bind_some, hb] at hhead
      contradiction
    | unfilled e i b c' hsize hi hb hfill hc =>
      have hdata : (Bytes.ofWords words).size ≤ c.device.txPool.bufferSize := by
        rw [Bytes.size_ofWords, Nat.mul_comm]
        rwa [hcount] at hsize
      obtain ⟨memory, hfilled⟩ := c.fill_ok hequipped.sound hb hdata
      change b.fill c.host.buffers (Bytes.ofWords words) = .error e at hfill
      rw [hfilled] at hfill
      contradiction
    | accepted i b data memory w c' hsize hi hb hsource hfill hw hc =>
      obtain rfl := Except.ok.inj hsource
      rw [hcount] at hplay hsize
      rw [htxSize] at hsize
      exact h.follows_accepted hword hsize hi hb hfill hw hc hplay
  · have hlong : config.txSize < words.length * wordSize := by
      have hvalid := hequipped.valid.txSize.2.2
      have hmax : TxWord.length.maxValue.toNat < wordSpan := by decide
      simp only [wordSize] at *
      omega
    rw [send, if_neg hword, htxSize] at hplay
    refine follows_of_quiet hplay ?_ h
    rw [FrameQueue.step, if_pos hlong]
    rfl

/-! ## Receiving -/

/-- All words of a frame of the queue are copied that the caller has room for. -/
theorem copyPlan_eq {b : Buffer} {f : LoopFrame} (hframe : b.frame = f.known) (hword : f.words.length < wordSpan)
    (hfits : f.words.length ≤ b.size / wordSize) (room : Nat) :
    copyPlan b room =
      (min f.words.length room, ⟨false, false, f.cut || decide (room < f.words.length)⟩) := by
  have hlength : b.frame.length.toNat = f.words.length := by
    rw [hframe]
    exact Word.toNat_ofNat_of_lt hword
  have hflags : b.frame.flags = ⟨false, false, f.cut⟩ := by rw [hframe]; rfl
  unfold copyPlan
  dsimp only
  rw [hlength, hflags, Nat.min_eq_left hfits]
  by_cases hlong : room < f.words.length
  · rw [if_pos hlong, decide_eq_true hlong, Bool.or_true]
  · rw [if_neg hlong, decide_eq_false hlong, Bool.or_false, Nat.min_eq_left (by omega)]

/-- The oldest frame of the queue is what the buffer at the head of the ring gives. -/
theorem report_eq (h : c.Mirrors config q) {f : LoopFrame} {b : Buffer} (hb : b ∈ c.device.rxPool.buffers.toList)
    (hstored : f.Stored config c.holdings.memory ⟨b.frame, b.addr⟩) {buffer kept : List Word}
    (hcopy : c.copyOut b buffer.length
      (fun bytes => .ok (bytes.words ++ buffer.drop (bytes.size / wordSize))) = .ok kept) :
    Outcome.frame
      ⟨b.frame.lane, b.frame.vc, b.frame.length, (copyPlan b buffer.length).1, (copyPlan b buffer.length).2⟩ kept =
      FrameQueue.report f buffer := by
  have hequipped := h.buffers.equipped
  have hheld := hequipped.sound.rxHeld
  have hframe : b.frame = f.known := hstored.known
  have hsize : b.size = config.rxSize := (hheld.sized b hb).trans hequipped.rxSize
  have hfits : f.words.length ≤ b.size / wordSize := by
    rw [hsize]
    exact (Nat.le_div_iff_mul_le (by decide)).mpr hstored.fits
  have hword : f.words.length < wordSpan := by
    have hcount := hequipped.valid.rxSize.2.2
    have hmax : TxWord.length.maxValue.toNat < wordSpan := by decide
    rw [hsize] at hfits
    omega
  set copied := min f.words.length buffer.length with hcopied
  have hplan := copyPlan_eq hframe hword hfits buffer.length
  rw [← hcopied] at hplan
  -- The card reads the whole frame there, and the caller gets its front.
  have hwhole : (c.holdings.memory.contents b.region).read 0 (f.words.length * wordSize) = Bytes.ofWords f.words := by
    have hread := hheld.busRead_eq hequipped.sound.memory hb (f.words.length * wordSize)
      (by rw [hequipped.rxSize]; exact hstored.fits)
    exact Option.some.inj (hread.symm.trans hstored.data)
  have hfront : (c.holdings.memory.contents b.region).read 0 (copied * wordSize) =
      Bytes.ofWords (f.words.take copied) := by
    have hle : copied ≤ f.words.length := Nat.min_le_left _ _
    rw [← Memory.extract_read _ _ _ (Nat.mul_le_mul_right wordSize hle), hwhole, Nat.mul_comm]
    exact Bytes.extract_ofWords f.words copied hle
  have hkept : kept = f.words.take copied ++ buffer.drop copied := by
    have hbytes : (Bytes.ofWords (f.words.take copied)).size / wordSize = copied := by
      rw [Bytes.size_ofWords, List.length_take]
      simp only [wordSize]
      omega
    rw [c.copyOut_eq hequipped.sound hb, hplan] at hcopy
    change Except.ok (Bytes.words ((c.holdings.memory.contents b.region).read 0 (copied * wordSize)) ++
      buffer.drop (((c.holdings.memory.contents b.region).read 0 (copied * wordSize)).size / wordSize)) =
        Except.ok kept at hcopy
    rw [hfront, Bytes.words_ofWords, hbytes] at hcopy
    exact (Except.ok.inj hcopy).symm
  rw [hplan, hkept, hframe]
  rfl

/-- Receiving a frame. -/
theorem follows_recv (h : c.Mirrors config q) (patience : Patience) (buffer : List Word) :
    c.Follows config q (.recv patience buffer) := by
  have hsound := h.buffers.equipped.sound
  have hplay : c.play (Traffic.recv patience buffer).move =
      (.ofReply (fun p => .frame p.1 p.2) (c.recv patience buffer).1, (c.recv patience buffer).2) := rfl
  have hwaits (hempty : c.device.rxReady.toList = []) :
      q.step config (.recv patience buffer) = (FrameQueue.waits patience, q) := by
    have hunread : c.holdings.unread = [] := by
      change c.holdings.framesIn c.device.rxReady.toList = []
      rw [hempty]
      rfl
    have hqueue := h.buffers.queue
    rw [hunread, List.forall₂_nil_right_iff] at hqueue
    rw [FrameQueue.step, hqueue]
  rw [recv] at hplay
  generalize hresult : c.receive patience buffer.length _ = result at hplay
  have hway := hresult ▸ c.reception patience buffer.length _
  cases hway with
  | asleep c' hwait hc =>
    obtain ⟨hempty, hanswer⟩ := h.waits hwait nofun
    refine follows_of_quiet hplay ?_ (h.of_unmoved hc)
    rw [hwaits hempty, ← hanswer]
    rfl
  | refused e c' hwait hc =>
    obtain ⟨hempty, hanswer⟩ := h.waits hwait nofun
    refine follows_of_quiet hplay ?_ (h.of_unmoved hc)
    rw [hwaits hempty, ← hanswer]
    rfl
  | unnamed c' hwait hhead hc =>
    have hfull := (c.waitFor_unmoved patience c.device.rxReady).2.mp hwait
    obtain ⟨i, b, hi, hb⟩ :=
      c.device.rxPool.exists_head (c.device.rxReady.isEmpty_eq_false_iff.mp hfull) h.buffers.owned.inRange
    rw [hi, Option.bind_some, hb] at hhead
    contradiction
  | spoiled e i b w c' hi hb hcopy =>
    rw [c.copyOut_eq hsound (BufferPool.mem_of_getElem? hb)] at hcopy
    contradiction
  | received kept i b w c' hi hb hcopy hw hc =>
    obtain ⟨f, rest, hlist, hstored, -⟩ := h.buffers.head hi hb
    have hreport := h.report_eq (BufferPool.mem_of_getElem? hb) hstored hcopy
    have hmirrors : w.Mirrors config q := h.of_unmoved hw
    have hi' : w.holdings.rxReady.peek? = some i := by rw [hw.holdings]; exact hi
    have hb' : w.holdings.rxPool.buffers[i]? = some b := by rw [hw.holdings]; exact hb
    have hstep : q.step config (.recv patience buffer) = (FrameQueue.report f buffer, { q with queue := rest }) := by
      rw [FrameQueue.step, hlist]
    rw [← hreport] at hstep
    have hafter := hmirrors.buffers.consumed hi' hb' hlist
    refine follows_of_quiet hplay hstep (of_unmoved ?_ hc)
    exact hmirrors.of_buffers (w.holdings_relieved b) hafter ⟨hmirrors.txReturns, hmirrors.rxReturns⟩
      (w.wires_relieved b) rfl

/-! ## Every sequence of steps -/

/-- Every step of the card is one of the queue. -/
theorem follows (h : c.Mirrors config q) (t : Traffic) : c.Follows config q t := by
  cases t with
  | openSession nonblock => exact h.follows_openSession nonblock
  | closeSession => exact h.follows_closeSession
  | send patience lane vc data => exact h.follows_send patience lane vc data
  | recv patience buffer => exact h.follows_recv patience buffer
  | loop on arg => exact h.follows_loop on arg

/-- So are any number of steps. -/
theorem turns (h : c.Mirrors config q) (steps : List Traffic) :
    (c.turns steps).1 = (q.steps config steps).1 ∧ (c.turns steps).2.Mirrors config (q.steps config steps).2 := by
  induction steps generalizing c q with
  | nil => exact ⟨rfl, h⟩
  | cons t rest ih =>
    obtain ⟨houtcome, hafter⟩ := h.follows t
    obtain ⟨houtcomes, hend⟩ := ih hafter
    exact ⟨congrArg₂ List.cons houtcome houtcomes, hend⟩

end Card.Mirrors

/-- The buffers of a card that has just been attached hold the frames of an empty queue. -/
theorem Holdings.Attached.mirrors {H : Holdings} {config : Config} (h : H.Attached config)
    (hholding : H.holding = false) : H.Mirrors config (.attached config) [] where
  equipped :=
    { sound := h.sound
      valid := h.valid
      txCount := H.txPool.length_addrs.trans h.txSize.1
      rxCount := H.rxPool.length_addrs.trans h.rxSize.1
      txSize := h.txSize.2
      rxSize := h.rxSize.2
      separate := by
        intro addr htx hrx
        obtain ⟨x, hx, rfl⟩ := List.mem_map.mp htx
        obtain ⟨y, hy, hsame⟩ := List.mem_map.mp hrx
        refine h.separate x hx y hy ?_
        have hbus : x.region.bus = y.region.bus := by
          rw [← h.sound.txHeld.reached x hx, ← h.sound.rxHeld.reached y hy, hsame]
        exact h.sound.memory.region_eq (h.sound.txHeld.live x hx) (h.sound.rxHeld.live y hy) hbus
      limit := h.limit
      heldTx := h.heldTx
      holding := hholding }
  owned := h.rxOwned
  usable := ⟨[], h.txOwned, rfl⟩
  isOpen := h.closed
  dropped := h.dropped
  idle _ := h.unread_eq_nil
  queue := by
    rw [h.unread_eq_nil]
    exact .nil
  arriving := by
    rw [h.rxReturns]
    exact .nil

/-- A card that was attached after power-up is between two steps. -/
theorem Device.mirrors_attached {origin number : Nat} {h' : Host Board} {name : String} {address : PciAddress}
    {baseHdwr baseLen : Nat} {config : Config} {d : Device}
    (hattach : attach (Host.powerUp origin number) name address baseHdwr baseLen config = (.ok d, h')) :
    Card.Mirrors ⟨h', d⟩ config (.attached config) := by
  have hidle := Host.idle_powerUp origin number
  have hattached := attached hidle hattach
  obtain ⟨hquiet, hlink⟩ := wires_attached hidle rfl rfl hattach
  have hholding : (h'.holdings d).holding = false := by
    obtain ⟨_, _, _, _, -, -, -, hholdings⟩ := holdings_attach hidle hattach
    rw [hholdings]
    rfl
  exact
    { buffers := hattached.mirrors hholding
      txReturns := hattached.txReturns
      rxReturns := hattached.rxReturns
      quiet := hquiet
      looped := fun lane _ => by
        have hzero : (h'.wires d).link = 0#32 := hlink
        change (LinkWord.loopBack.shifted lane).isSet (h'.wires d).link = false
        rw [hzero, Field.isSet, Field.get_zero]
        rfl }

/-- What can be seen of a card agrees with a queue: whether it is open, which lanes are looped back,
the frames to be read with their data, how many transmit buffers are free, and how many frames were
given back unread. -/
structure Card.Shows (c : Card Board) (config : Config) (q : FrameQueue) : Prop where
  isOpen : c.device.isOpen = q.isOpen
  looped : ∀ lane < laneCount, c.host.bus.isLooped lane = q.looped lane
  queue : List.Forall₂ (LoopFrame.Stored config c.host.memory) q.queue c.holdings.unread
  readable : c.device.rxReady.length = q.queue.length
  usable : c.device.txFree.length = q.usable
  dropped : c.device.droppedClosed = q.dropped

/-- A card between two steps shows the queue. -/
theorem Card.Mirrors.shows {c : Card Board} {config : Config} {q : FrameQueue} (h : c.Mirrors config q) :
    c.Shows config q where
  isOpen := h.buffers.isOpen
  looped := h.looped
  queue := h.buffers.queue
  readable := by
    rw [h.buffers.queue.length_eq]
    exact h.buffers.owned.length_unread.symm
  usable := h.buffers.length_txFree h.txReturns
  dropped := h.buffers.dropped

/-- However a card that was attached after power-up is opened, closed, looped back, and used to send
and receive, with all interrupts handled after every step: it answers as a queue of its looped frames
does, and shows that queue in the end. -/
theorem Device.loopback_refines {origin number : Nat} {h' : Host Board} {name : String} {address : PciAddress}
    {baseHdwr baseLen : Nat} {config : Config} {d : Device}
    (hattach : attach (Host.powerUp origin number) name address baseHdwr baseLen config = (.ok d, h'))
    (steps : List Traffic) :
    (Card.turns ⟨h', d⟩ steps).1 = (FrameQueue.steps config (.attached config) steps).1 ∧
      (Card.turns ⟨h', d⟩ steps).2.Shows config (FrameQueue.steps config (.attached config) steps).2 := by
  obtain ⟨houtcomes, hend⟩ := (mirrors_attached hattach).turns steps
  exact ⟨houtcomes, hend.shows⟩

/-- A frame comes back from lane 1, on virtual channel 1 instead of 5, and is cut to the one word that
its reader has room for; a frame for lane 9 costs one of two transmit buffers. -/
theorem Device.loopback_refines_small :
    let steps : List Traffic :=
      [.openSession false, .loop true 1#64, .send .sleeps 1#32 5#32 [7#32, 8#32], .send .sleeps 9#32 0#32 [],
        .recv .sleeps [0#32]]
    (Card.small.turns steps).1 =
        [.nothing, .done, .number 2, .number 0, .frame ⟨1#32, 1#32, 2#32, 1, ⟨false, false, true⟩⟩ [7#32]] ∧
      (Card.small.turns steps).2.device.txFree.length = 1 := by
  intro steps
  have hrefines := loopback_refines attachSmall_eq steps
  have hsmall : (⟨Card.small.host, Card.small.device⟩ : Card Board) = Card.small := rfl
  rw [hsmall] at hrefines
  obtain ⟨houtcomes, hshows⟩ := hrefines
  have hanswers : (FrameQueue.steps .small (.attached .small) steps).1 =
      [.nothing, .done, .number 2, .number 0, .frame ⟨1#32, 1#32, 2#32, 1, ⟨false, false, true⟩⟩ [7#32]] := by
    rfl
  have husable : (FrameQueue.steps .small (.attached .small) steps).2.usable = 1 := by
    rfl
  exact ⟨houtcomes.trans hanswers, hshows.usable.trans husable⟩

end LaneCard
