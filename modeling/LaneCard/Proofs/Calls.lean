import LaneCard.Proofs.Waiting

/-!
# How a call can end

Sending and receiving each end in one of a few ways, and each way fixes the answer and what became
of the card. Only one of them moves a buffer: a frame that was accepted takes the free transmit
buffer at the head of its ring, and a call that gets as far as a readable frame gives the buffer of
that frame back, whether the caller could take the frame or not.
-/

namespace LaneCard

/-- The number at the head of a ring that is not empty names a buffer, if all its numbers do. -/
theorem BufferPool.exists_head (p : BufferPool) {ring : Ring} (hring : ring.toList ≠ [])
    (hrange : ∀ i ∈ ring.toList, i < p.addrs.length) :
    ∃ i b, ring.peek? = some i ∧ p.buffers[i]? = some b := by
  obtain ⟨i, rest, hlist⟩ := List.exists_cons_of_ne_nil hring
  have hi : i < p.size := by
    rw [← p.length_addrs]
    exact hrange i (hlist ▸ List.mem_cons_self)
  obtain ⟨b, hb⟩ := p.exists_getElem? i hi
  exact ⟨i, b, by rw [Ring.peek?_eq_head?, hlist, List.head?_cons], hb⟩

namespace Card

/-! ## Sending -/

/-- The card after a frame was accepted: it is in the transmit buffer `b` of number `i`, which has
left the ring, and has been sent if its lane exists. -/
def launched (c : Card Board) (i : Nat) (b : Buffer) (memory : Allocator) (lane vc size : Word) : Card Board :=
  let host := c.host.setBuffers memory
  { host :=
      if lane.toNat < laneCount then
        (host.write (Offset.txWrA + 4 * lane.toNat) (TxDescriptor.mk lane vc size).encode).write
          (Offset.txWrB + 4 * lane.toNat) b.addr
      else host
    device :=
      { c.device with
        txPool := c.device.txPool.setFrame i ⟨lane, vc, size, FrameFlags.none⟩
        txFree := c.device.txFree.drop } }

/-- The ways in which sending can end. -/
inductive Submission (c : Card Board) (patience : Patience) (lane vc size : Word)
    (source : Nat → Except CardError Bytes) : Reply Nat × Card Board → Prop
  /-- The frame does not fit a transmit buffer. -/
  | oversized (c' : Card Board) (hsize : c.device.txPool.bufferSize < size.toNat * wordSize)
      (hc : c.Unmoved c') :
      Submission c patience lane vc size source
        (.returned (.error (.oversize (size.toNat * wordSize) c.device.txPool.bufferSize)), c')
  | asleep (c' : Card Board) (hsize : size.toNat * wordSize ≤ c.device.txPool.bufferSize)
      (hwait : (c.waitFor patience c.device.txFree).1 = .asleep) (hc : c.Unmoved c') :
      Submission c patience lane vc size source (.asleep, c')
  | refused (e : CardError) (c' : Card Board) (hsize : size.toNat * wordSize ≤ c.device.txPool.bufferSize)
      (hwait : (c.waitFor patience c.device.txFree).1 = .returned (.error e)) (hc : c.Unmoved c') :
      Submission c patience lane vc size source (.returned (.error e), c')
  /-- The number at the head of the ring names no buffer. -/
  | unnamed (c' : Card Board) (hwait : (c.waitFor patience c.device.txFree).1 = .returned (.ok ()))
      (hhead : (c.device.txFree.peek?.bind fun i => (c.device.txPool.buffers[i]?).map (i, ·)) = none)
      (hc : c.Unmoved c') :
      Submission c patience lane vc size source (.returned (.error .wouldBlock), c')
  /-- The frame could not be copied. -/
  | unfilled (e : CardError) (i : Nat) (b : Buffer) (c' : Card Board)
      (hsize : size.toNat * wordSize ≤ c.device.txPool.bufferSize)
      (hi : c.device.txFree.peek? = some i) (hb : c.device.txPool.buffers[i]? = some b)
      (hfill : (source (size.toNat * wordSize) >>= b.fill c.host.buffers) = .error e) (hc : c.Unmoved c') :
      Submission c patience lane vc size source (.returned (.error e), c')
  | accepted (i : Nat) (b : Buffer) (data : Bytes) (memory : Allocator) (w c' : Card Board)
      (hsize : size.toNat * wordSize ≤ c.device.txPool.bufferSize)
      (hi : c.device.txFree.peek? = some i) (hb : c.device.txPool.buffers[i]? = some b)
      (hsource : source (size.toNat * wordSize) = .ok data) (hfill : b.fill c.host.buffers data = .ok memory)
      (hw : c.Unmoved w) (hc : (w.launched i b memory lane vc size).Unmoved c') :
      Submission c patience lane vc size source (.returned (.ok size.toNat), c')

/-- The number and the buffer at the head of a ring are found together. -/
theorem head_eq_some {pool : BufferPool} {ring : Ring} {i : Nat} {b : Buffer}
    (h : (ring.peek?.bind fun i => (pool.buffers[i]?).map (i, ·)) = some (i, b)) :
    ring.peek? = some i ∧ pool.buffers[i]? = some b := by
  obtain ⟨j, hj, hbuffer⟩ := Option.bind_eq_some_iff.mp h
  obtain ⟨b', hb', hsame⟩ := Option.map_eq_some_iff.mp hbuffer
  obtain ⟨rfl, rfl⟩ := Prod.mk.inj hsame
  exact ⟨hj, hb'⟩

/-- Sending ends in one of its ways. -/
theorem submission (c : Card Board) (patience : Patience) (lane vc size : Word)
    (source : Nat → Except CardError Bytes) :
    c.Submission patience lane vc size source (c.submit patience lane vc size source) := by
  unfold submit
  dsimp only
  split
  · exact .oversized _ ‹_› (.note c _ _)
  · rename_i hsize
    have hsize : size.toNat * wordSize ≤ c.device.txPool.bufferSize := by omega
    obtain ⟨hunmoved, -⟩ := c.waitFor_unmoved patience c.device.txFree
    split
    · rename_i w hwait
      rw [hwait] at hunmoved
      exact .asleep w hsize (by rw [hwait]) hunmoved
    · rename_i e w hwait
      rw [hwait] at hunmoved
      exact .refused e w hsize (by rw [hwait]) hunmoved
    · rename_i w hwait
      rw [hwait] at hunmoved
      have hring : w.device.txFree = c.device.txFree := by rw [hunmoved.device]
      have hpool : w.device.txPool = c.device.txPool := by rw [hunmoved.device]
      have hbuffers : w.host.buffers = c.host.buffers := by rw [hunmoved.host]; rfl
      split
      · rename_i hhead
        rw [hring, hpool] at hhead
        exact .unnamed w (by rw [hwait]) hhead hunmoved
      · rename_i i b hhead
        rw [hring, hpool] at hhead
        obtain ⟨hi, hb⟩ := head_eq_some hhead
        split
        · rename_i e hfill
          rw [hbuffers] at hfill
          exact .unfilled e i b w hsize hi hb hfill hunmoved
        · rename_i memory hfill
          rw [hbuffers] at hfill
          cases hsource : source (size.toNat * wordSize) with
          | error e => rw [hsource] at hfill; contradiction
          | ok data =>
            rw [hsource] at hfill
            refine .accepted i b data memory w _ hsize hi hb hsource hfill hunmoved ?_
            have hlaunched : (w.launched i b memory lane vc size).host =
                if lane.toNat < laneCount then
                  ((w.host.setBuffers memory).write (Offset.txWrA + 4 * lane.toNat)
                    (TxDescriptor.mk lane vc size).encode).write (Offset.txWrB + 4 * lane.toNat) b.addr
                else w.host.setBuffers memory := rfl
            split
            · rename_i hlane
              refine Unmoved.trans ?_ (Unmoved.trace _ _ _)
              exact ⟨by rw [hlaunched, if_pos hlane]; rfl, rfl, id⟩
            · rename_i hlane
              refine Unmoved.trans ?_ (Unmoved.trace _ _ _)
              exact ⟨by rw [hlaunched, if_neg hlane]; rfl, rfl, id⟩

/-- A frame is sent as its bytes, if its length is a word. -/
theorem send_eq_submit {β : Type} [RegisterBus β] (c : Card β) (patience : Patience) (lane vc : Word)
    {data : List Word} (hlength : data.length < wordSpan) :
    c.send patience lane vc data =
      c.submit patience lane vc (BitVec.ofNat 32 data.length) fun _ => .ok (Bytes.ofWords data) :=
  if_pos hlength

/-! ## Receiving -/

/-- The card after the readable frame in a buffer was taken: the buffer is free again, and its number
has left the ring. -/
def relieved (c : Card Board) (b : Buffer) : Card Board :=
  let given := c.giveFree b.frame.lane.toNat b.addr
  { given with device := { given.device with rxReady := given.device.rxReady.drop } }

/-- What is copied of the frame in a buffer, and taken by the caller. -/
def copyOut {γ : Type} (c : Card Board) (b : Buffer) (maxSize : Nat) (sink : Bytes → Except CardError γ) :
    Except CardError γ :=
  b.payload c.host.buffers ((copyPlan b maxSize).1 * wordSize) >>= sink

/-- The ways in which receiving can end. -/
inductive Reception {γ : Type} (c : Card Board) (patience : Patience) (maxSize : Nat)
    (sink : Bytes → Except CardError γ) : Reply (RxFrame × γ) × Card Board → Prop
  | asleep (c' : Card Board) (hwait : (c.waitFor patience c.device.rxReady).1 = .asleep)
      (hc : c.Unmoved c') : Reception c patience maxSize sink (.asleep, c')
  | refused (e : CardError) (c' : Card Board)
      (hwait : (c.waitFor patience c.device.rxReady).1 = .returned (.error e)) (hc : c.Unmoved c') :
      Reception c patience maxSize sink (.returned (.error e), c')
  /-- The number at the head of the ring names no buffer. -/
  | unnamed (c' : Card Board) (hwait : (c.waitFor patience c.device.rxReady).1 = .returned (.ok ()))
      (hhead : (c.device.rxReady.peek?.bind fun i => c.device.rxPool.buffers[i]?) = none) (hc : c.Unmoved c') :
      Reception c patience maxSize sink (.returned (.error .wouldBlock), c')
  /-- The caller could not take the frame. -/
  | spoiled (e : CardError) (i : Nat) (b : Buffer) (w c' : Card Board) (hi : c.device.rxReady.peek? = some i)
      (hb : c.device.rxPool.buffers[i]? = some b) (hcopy : c.copyOut b maxSize sink = .error e)
      (hw : c.Unmoved w) (hc : (w.relieved b).Unmoved c') :
      Reception c patience maxSize sink (.returned (.error e), c')
  | received (kept : γ) (i : Nat) (b : Buffer) (w c' : Card Board) (hi : c.device.rxReady.peek? = some i)
      (hb : c.device.rxPool.buffers[i]? = some b) (hcopy : c.copyOut b maxSize sink = .ok kept)
      (hw : c.Unmoved w) (hc : (w.relieved b).Unmoved c') :
      Reception c patience maxSize sink
        (.returned (.ok (⟨b.frame.lane, b.frame.vc, b.frame.length, (copyPlan b maxSize).1,
          (copyPlan b maxSize).2⟩, kept)), c')

/-- Receiving ends in one of its ways. -/
theorem reception {γ : Type} (c : Card Board) (patience : Patience) (maxSize : Nat)
    (sink : Bytes → Except CardError γ) :
    c.Reception patience maxSize sink (c.receive patience maxSize sink) := by
  unfold receive
  obtain ⟨hunmoved, -⟩ := c.waitFor_unmoved patience c.device.rxReady
  split
  · rename_i w hwait
    rw [hwait] at hunmoved
    exact .asleep w (by rw [hwait]) hunmoved
  · rename_i e w hwait
    rw [hwait] at hunmoved
    exact .refused e w (by rw [hwait]) hunmoved
  · rename_i w hwait
    rw [hwait] at hunmoved
    have hring : w.device.rxReady = c.device.rxReady := by rw [hunmoved.device]
    have hpool : w.device.rxPool = c.device.rxPool := by rw [hunmoved.device]
    have hbuffers : w.host.buffers = c.host.buffers := by rw [hunmoved.host]; rfl
    split
    · rename_i hhead
      rw [hring, hpool] at hhead
      exact .unnamed w (by rw [hwait]) hhead hunmoved
    · rename_i b hhead
      rw [hring, hpool] at hhead
      obtain ⟨i, hi, hb⟩ := Option.bind_eq_some_iff.mp hhead
      dsimp only
      -- Up to two lines go to the journal before the frame is copied.
      generalize hlate : (if b.frame.flags.isEmpty = true then _ else _ : Card Board) = late
      have hlater : c.Unmoved late := by
        subst hlate
        refine hunmoved.trans ?_
        split <;> split
        · exact .note w _ _
        · exact .refl w
        · exact (Unmoved.note w _ _).trans (.note _ _ _)
        · exact .note w _ _
      have hlateBuffers : late.host.buffers = c.host.buffers := by rw [hlater.host]; rfl
      split
      · rename_i e hcopy
        rw [hlateBuffers] at hcopy
        exact .spoiled e i b late _ hi hb hcopy hlater (.note _ _ _)
      · rename_i kept hcopy
        rw [hlateBuffers] at hcopy
        exact .received kept i b late _ hi hb hcopy hlater (.trace _ _ _)

/-! ## Transmit records -/

/-- The ways in which a transmit record can be carried out, with the answer and the card after it. -/
inductive Writing (c : Card Board) (patience : Patience) (record : Bytes) (memory : CallerMemory) :
    Reply Nat → Card Board → Prop
  | unread (e : RecordError) (text : String) (hrecord : TxRequest.decode record = .error e) :
      Writing c patience record memory (.returned (.error (.ofRecord e))) (c.note .warn text)
  | unknown (request : TxRequest) (text : String) (hrecord : TxRequest.decode record = .ok request)
      (hcommand : Command.ofCode? request.cmd.toNat = none) :
      Writing c patience record memory (.returned (.error (.unknownCommand request.cmd.toNat))) (c.note .warn text)
  | frame (request : TxRequest) (hrecord : TxRequest.decode record = .ok request)
      (hcommand : Command.ofCode? request.cmd.toNat = some .normalWrite) :
      Writing c patience record memory
        (c.submit patience request.lane request.vc request.size fun bytes => memory.read request.data.toNat bytes).1
        (c.submit patience request.lane request.vc request.size fun bytes => memory.read request.data.toNat bytes).2
  | command (request : TxRequest) (command : Command) (answer : Except CardError Nat)
      (hrecord : TxRequest.decode record = .ok request)
      (hcommand : Command.ofCode? request.cmd.toNat = some command) (hother : command ≠ .normalWrite) :
      Writing c patience record memory (.returned answer) (c.control command request.data).2
  /-- The status that was asked for could not be stored. -/
  | unstored (request : TxRequest) (command : Command) (e : CardError) (text : String)
      (hrecord : TxRequest.decode record = .ok request)
      (hcommand : Command.ofCode? request.cmd.toNat = some command) (hother : command ≠ .normalWrite) :
      Writing c patience record memory (.returned (.error e)) ((c.control command request.data).2.note .warn text)

/-- A transmit record is carried out in one of these ways. -/
theorem writing {c after : Card Board} {patience : Patience} {record : Bytes} {memory memory' : CallerMemory}
    {reply : Reply Nat} (h : c.writeRecord patience record memory = (reply, after, memory')) :
    c.Writing patience record memory reply after := by
  suffices hway : c.Writing patience record memory (c.writeRecord patience record memory).1
      (c.writeRecord patience record memory).2.1 by rwa [h] at hway
  unfold writeRecord
  split
  · exact .unread _ _ ‹_›
  · rename_i request hrecord
    split
    · exact .unknown request _ hrecord ‹_›
    · exact .frame request hrecord ‹_›
    · rename_i command hother hcommand
      have hnone : command ≠ .normalWrite := hother
      rcases hcontrol : c.control command request.data with ⟨answer, w⟩
      obtain rfl : (c.control command request.data).2 = w := by rw [hcontrol]
      rcases answer with e | (_ | status)
      · exact .command request command (.error e) hrecord hcommand hnone
      · exact .command request command (.ok 0) hrecord hcommand hnone
      · dsimp only
        split
        · exact .command request command (.ok 0) hrecord hcommand hnone
        · exact .unstored request command _ _ hrecord hcommand hnone

end Card

end LaneCard
