import LaneCard.Proofs.Lifetime
import LaneCard.Proofs.Recycling

/-!
# Whatever the card does

A card may give back words that were never sent, name a buffer twice, report lengths that no buffer has
room for, and change its registers at will. The rings may collide then, and hold a number more than
once, but they hold only numbers of buffers. The driver therefore never looks for a buffer that there
is not, and never asks a buffer for more bytes than it has room for; and whether a frame can be sent
or received depends only on whether the ring is empty.
-/

namespace LaneCard

/-! ## What a driver relies on -/

/-- What a driver relies on when it turns to a buffer. -/
inductive Demand where
  /-- There is a buffer of that number in the pool. -/
  | buffer (p : BufferPool) (i : Nat)
  /-- The buffer has room for so many bytes. -/
  | payload (b : Buffer) (bytes : Nat)

/-- Whether a demand is met. -/
def Demand.Met : Demand → Prop
  | buffer p i => i < p.size
  | payload b bytes => bytes ≤ b.size

namespace Call

/-- The number of words that a call sends, if it sends any. -/
def outgoing? : Call → Option Word
  | send _ _ data => if data.length < wordSpan then some (BitVec.ofNat 32 data.length) else none
  | write record =>
    match TxRequest.decode record with
    | .ok request => if Command.ofCode? request.cmd.toNat = some .normalWrite then some request.size else none
    | .error _ => none
  | _ => none

/-- The number of words that a call has room for, if it receives any. -/
def incoming? : Call → Option Nat
  | recv buffer => some buffer.length
  | read record =>
    match RxRequest.decode record with
    | .ok request => some request.maxSize.toNat
    | .error _ => none
  | _ => none

end Call

/-- What a deed relies on. -/
inductive Card.Demands (c : Card Board) : Deed → Demand → Prop
  /-- A frame that is not too large goes into the first free buffer. -/
  | free {patience : Patience} {memory : CallerMemory} {call : Call} {size : Word} {i : Nat}
      (hcall : call.outgoing? = some size) (hsize : size.toNat * wordSize ≤ c.device.txPool.bufferSize)
      (hi : c.device.txFree.peek? = some i) :
      Demands c (.move (.call patience memory call)) (.buffer c.device.txPool i)
  | fill {patience : Patience} {memory : CallerMemory} {call : Call} {size : Word} {i : Nat} {b : Buffer}
      (hcall : call.outgoing? = some size) (hsize : size.toNat * wordSize ≤ c.device.txPool.bufferSize)
      (hi : c.device.txFree.peek? = some i) (hb : c.device.txPool.buffers[i]? = some b) :
      Demands c (.move (.call patience memory call)) (.payload b (size.toNat * wordSize))
  /-- The oldest frame is received, whatever length the card has reported. -/
  | readable {patience : Patience} {memory : CallerMemory} {call : Call} {room i : Nat}
      (hcall : call.incoming? = some room) (hi : c.device.rxReady.peek? = some i) :
      Demands c (.move (.call patience memory call)) (.buffer c.device.rxPool i)
  | copy {patience : Patience} {memory : CallerMemory} {call : Call} {room i : Nat} {b : Buffer}
      (hcall : call.incoming? = some room) (hi : c.device.rxReady.peek? = some i)
      (hb : c.device.rxPool.buffers[i]? = some b) :
      Demands c (.move (.call patience memory call)) (.payload b ((copyPlan b room).1 * wordSize))
  /-- Every frame that is unread at the end of a session is given back. -/
  | unread {i : Nat} (hi : i ∈ c.device.rxReady.toList) :
      Demands c (.move .closeSession) (.buffer c.device.rxPool i)
  /-- A completion is filed under the buffer that is found for its address, if there is one. -/
  | sent {n i : Nat} {addr : Word} (hi : c.device.txPool.find? addr = some i) :
      Demands c (.move (.serve n)) (.buffer c.device.txPool i)
  | received {n i : Nat} {addr : Word} (hi : c.device.rxPool.find? addr = some i) :
      Demands c (.move (.serve n)) (.buffer c.device.rxPool i)
  /-- The diagnostics list the free buffers, also where a command asks for them. -/
  | listed {deed : Deed} {i : Nat} (hdeed : deed = .diagnostics ∨ ∃ arg, deed = .move (.control .dumpDebug arg))
      (hi : i ∈ c.device.txFree.toList) : Demands c deed (.buffer c.device.txPool i)

namespace Card

/-- Whatever the card has done, a driver is safe. -/
structure Robust (c : Card Board) : Prop where
  numbered : c.device.Numbered
  met : ∀ {deed : Deed} {demand : Demand}, c.Demands deed demand → demand.Met
  /-- If a frame is readable, it is up to the caller alone what comes of it. The caller is given no more of
  the frame than was reported, than a buffer holds, and than the caller has room for. -/
  received : ∀ (patience : Patience) (room : Nat),
    if c.poll.readable then
      ∃ (frame : RxFrame) (bytes : Bytes), bytes.size = frame.copied * wordSize ∧
        frame.copied ≤ min (min frame.length.toNat (c.device.rxPool.bufferSize / wordSize)) room ∧
        ∀ {γ : Type} (sink : Bytes → Except CardError γ),
          (c.receive patience room sink).1 = .returned ((sink bytes).map (frame, ·))
    else
      ∀ {γ : Type} (sink : Bytes → Except CardError γ) (answer : RxFrame × γ),
        (c.receive patience room sink).1 ≠ .returned (.ok answer)
  /-- If a buffer is free, it is up to the caller alone what comes of a frame that fits. -/
  submitted : ∀ (patience : Patience) (lane vc size : Word) (source : Nat → Except CardError Bytes),
    size.toNat * wordSize ≤ c.device.txPool.bufferSize →
    (∀ data, source (size.toNat * wordSize) = .ok data → data.size = size.toNat * wordSize) →
    if c.poll.writable then
      (c.submit patience lane vc size source).1 =
        .returned ((source (size.toNat * wordSize)).map fun _ => size.toNat)
    else ∀ sent, (c.submit patience lane vc size source).1 ≠ .returned (.ok sent)
  receives : ∀ (patience : Patience) (buffer : List Word),
    (∃ answer c', c.recv patience buffer = (.returned (.ok answer), c')) ↔ c.poll.readable = true
  sends : ∀ (patience : Patience) (lane vc : Word) (data : List Word),
    data.length * wordSize ≤ c.device.txPool.bufferSize →
      ((∃ sent c', c.send patience lane vc data = (.returned (.ok sent), c')) ↔ c.poll.writable = true)

variable {c : Card Board}

/-- What a driver relies on is so. -/
theorem Backed.met (hc : c.Backed) (hnumbered : c.device.Numbered) {deed : Deed} {demand : Demand}
    (hdemand : c.Demands deed demand) : demand.Met := by
  cases hdemand with
  | free _ _ hi => exact hnumbered.txFree _ (Ring.mem_of_peek? hi)
  | fill _ hsize _ hb =>
    rw [Demand.Met, hc.tx.sized _ (BufferPool.mem_of_getElem? hb)]
    exact hsize
  | readable _ hi => exact hnumbered.rxReady _ (Ring.mem_of_peek? hi)
  | copy => exact copyPlan_le _ _
  | unread hi => exact hnumbered.rxReady _ hi
  | sent hi => exact BufferPool.lt_size_of_find? hi
  | received hi => exact BufferPool.lt_size_of_find? hi
  | listed _ hi => exact hnumbered.txFree _ hi

/-! ## Receiving -/

/-- A frame is received only if one is readable. -/
theorem readable_of_receive {γ : Type} {patience : Patience} {room : Nat} {sink : Bytes → Except CardError γ}
    {answer : RxFrame × γ} (h : (c.receive patience room sink).1 = .returned (.ok answer)) :
    c.poll.readable = true := by
  have hends := c.reception patience room sink
  generalize c.receive patience room sink = reply at hends h
  cases hends with
  | received _ _ _ _ _ hi =>
    have hfull := c.device.rxReady.isEmpty_eq_false_iff.mpr (List.ne_nil_of_mem (Ring.mem_of_peek? hi))
    rw [poll, hfull]
    rfl
  | asleep | refused | unnamed | spoiled => cases h

/-- What comes of a readable frame is what the caller makes of its bytes. -/
theorem Backed.receive_eq (hc : c.Backed) (hnumbered : c.device.Numbered) (hreadable : c.poll.readable = true)
    (patience : Patience) (room : Nat) :
    ∃ (frame : RxFrame) (bytes : Bytes), bytes.size = frame.copied * wordSize ∧
      frame.copied ≤ min (min frame.length.toNat (c.device.rxPool.bufferSize / wordSize)) room ∧
      ∀ {γ : Type} (sink : Bytes → Except CardError γ),
        (c.receive patience room sink).1 = .returned ((sink bytes).map (frame, ·)) := by
  have hfull : c.device.rxReady.isEmpty = false := by simpa [poll] using hreadable
  obtain ⟨i, b, hi, hb⟩ := c.device.rxPool.exists_head (c.device.rxReady.isEmpty_eq_false_iff.mp hfull)
    (by simpa using hnumbered.rxReady)
  have hsized : b.size = c.device.rxPool.bufferSize := hc.rx.sized b (BufferPool.mem_of_getElem? hb)
  refine ⟨b.report room, b.front c.host.buffers room, b.size_front _ room, ?_, fun sink => ?_⟩
  · rw [← hsized]
    exact Nat.le_refl _
  · obtain ⟨c', hanswer, -⟩ := hc.receive_head hi hb patience room sink
    rw [hanswer]

/-- A frame is received into a buffer of words if one is readable, and only then. -/
theorem Backed.recv_iff (hc : c.Backed) (hnumbered : c.device.Numbered) (patience : Patience)
    (buffer : List Word) :
    (∃ answer c', c.recv patience buffer = (.returned (.ok answer), c')) ↔ c.poll.readable = true := by
  constructor
  · rintro ⟨answer, c', hanswer⟩
    exact readable_of_receive (congrArg Prod.fst hanswer)
  · intro hreadable
    obtain ⟨frame, bytes, -, -, hreceive⟩ := hc.receive_eq hnumbered hreadable patience buffer.length
    exact ⟨_, _, Prod.ext (hreceive _) rfl⟩

/-! ## Sending -/

/-- A frame is accepted only if a buffer is free. -/
theorem writable_of_submit {patience : Patience} {lane vc size : Word} {source : Nat → Except CardError Bytes}
    {sent : Nat} (h : (c.submit patience lane vc size source).1 = .returned (.ok sent)) :
    c.poll.writable = true := by
  have hends := c.submission patience lane vc size source
  generalize c.submit patience lane vc size source = reply at hends h
  cases hends with
  | accepted _ _ _ _ _ _ _ hi =>
    have hfree := c.device.txFree.isEmpty_eq_false_iff.mpr (List.ne_nil_of_mem (Ring.mem_of_peek? hi))
    rw [poll, hfree]
    rfl
  | oversized | asleep | refused | unnamed | unfilled => cases h

/-- A frame that fits is accepted if a buffer is free and the caller gives the frame. -/
theorem Backed.submit_eq (hc : c.Backed) (hnumbered : c.device.Numbered) (hwritable : c.poll.writable = true)
    (patience : Patience) (lane vc : Word) {size : Word} {source : Nat → Except CardError Bytes}
    (hsize : size.toNat * wordSize ≤ c.device.txPool.bufferSize)
    (hsource : ∀ data, source (size.toNat * wordSize) = .ok data → data.size = size.toNat * wordSize) :
    (c.submit patience lane vc size source).1 =
      .returned ((source (size.toNat * wordSize)).map fun _ => size.toNat) := by
  have hfree : c.device.txFree.isEmpty = false := by simpa [poll] using hwritable
  have hwait := (c.waitFor_unmoved patience c.device.txFree).2.mpr hfree
  obtain ⟨i, b, hi, hb⟩ := c.device.txPool.exists_head (c.device.txFree.isEmpty_eq_false_iff.mp hfree)
    (by simpa using hnumbered.txFree)
  have hends := c.submission patience lane vc size source
  generalize c.submit patience lane vc size source = reply at hends
  cases hends with
  | oversized _ hlong => omega
  | asleep _ _ hasleep => exact nomatch hwait.symm.trans hasleep
  | refused _ _ _ hrefused => exact nomatch hwait.symm.trans hrefused
  | unnamed _ _ hhead => rw [hi, Option.bind_some, hb] at hhead; contradiction
  | unfilled e _ b' _ _ _ hb' hfill =>
    cases hgiven : source (size.toNat * wordSize) with
    | error e' =>
      rw [hgiven] at hfill
      exact congrArg Reply.returned (congrArg Except.error (Except.error.inj hfill).symm)
    | ok data =>
      have hmem : b' ∈ c.device.txPool.buffers.toList := BufferPool.mem_of_getElem? hb'
      have hsized := hc.tx.sized b' hmem
      have hroomy := hc.tx.roomy b' hmem
      have hdata : data.size ≤ b'.size := by
        rw [hsource data hgiven, hsized]
        exact hsize
      obtain ⟨memory, hfilled⟩ := Buffer.fill_ok (hc.tx.live b' hmem) (by omega) hdata
      rw [hgiven] at hfill
      exact nomatch hfilled.symm.trans hfill
  | accepted _ _ _ _ _ _ _ _ _ hgiven => rw [hgiven]; rfl

/-- The length of a frame that fits is a word. -/
theorem Backed.length_lt (hc : c.Backed) {data : List Word}
    (hdata : data.length * wordSize ≤ c.device.txPool.bufferSize) : data.length < wordSpan := by
  have hmax : TxWord.length.maxValue.toNat < wordSpan := by decide
  have hwords : data.length ≤ c.device.txPool.bufferSize / wordSize :=
    (Nat.le_div_iff_mul_le (by decide)).mpr hdata
  have hdescribable := hc.describable
  omega

/-- A frame that fits is sent if a buffer is free, and only then. -/
theorem Backed.send_iff (hc : c.Backed) (hnumbered : c.device.Numbered) (patience : Patience) (lane vc : Word)
    {data : List Word} (hdata : data.length * wordSize ≤ c.device.txPool.bufferSize) :
    (∃ sent c', c.send patience lane vc data = (.returned (.ok sent), c')) ↔ c.poll.writable = true := by
  have hlength : data.length < wordSpan := hc.length_lt hdata
  have hword : (BitVec.ofNat 32 data.length).toNat = data.length := Word.toNat_ofNat_of_lt hlength
  rw [c.send_eq_submit patience lane vc hlength]
  constructor
  · rintro ⟨sent, c', hanswer⟩
    exact writable_of_submit (congrArg Prod.fst hanswer)
  · intro hwritable
    refine ⟨_, _, Prod.ext (hc.submit_eq hnumbered hwritable patience lane vc (hword.symm ▸ hdata) ?_) rfl⟩
    intro given hgiven
    obtain rfl := Except.ok.inj hgiven
    rw [Bytes.size_ofWords, hword, wordSize, Nat.mul_comm]

/-! ## Every run -/

/-- A card with its pools backed and its buffers numbered is safe. -/
theorem Backed.robust (hc : c.Backed) (hnumbered : c.device.Numbered) : c.Robust where
  numbered := hnumbered
  met := hc.met hnumbered
  received patience room := by
    split
    · exact hc.receive_eq hnumbered ‹_› patience room
    · rename_i hunreadable
      exact fun sink answer h => hunreadable (readable_of_receive h)
  submitted patience lane vc size source hsize hsource := by
    split
    · exact hc.submit_eq hnumbered ‹_› patience lane vc hsize hsource
    · rename_i hunwritable
      exact fun sent h => hunwritable (writable_of_submit h)
  receives := hc.recv_iff hnumbered
  sends patience lane vc _ := hc.send_iff hnumbered patience lane vc

end Card

/-- Whatever happens to a card after it was attached, the driver is safe, and its buffers keep the sizes
of the configuration. -/
theorem Device.survives {h h' : Host Board} {name : String} {address : PciAddress} {baseHdwr baseLen : Nat}
    {config : Config} {d : Device} (hattach : attach h name address baseHdwr baseLen config = (.ok d, h'))
    (deeds : List Deed) :
    (Card.undergoAll ⟨h', d⟩ deeds).Robust ∧
      (Card.undergoAll ⟨h', d⟩ deeds).device.txPool.bufferSize = config.txSize ∧
      (Card.undergoAll ⟨h', d⟩ deeds).device.rxPool.bufferSize = config.rxSize := by
  obtain ⟨hbacked, hnumbered, -⟩ := attach_backed hattach
  obtain ⟨htxSize, hrxSize⟩ := bufferSize_attach hattach
  have hkept := hbacked.kept_undergoAll deeds
  refine ⟨(hkept.backed hbacked).robust (hkept.device.numbered hnumbered), ?_, ?_⟩
  · exact hkept.device.txPool.bufferSize.trans htxSize
  · exact hkept.device.rxPool.bufferSize.trans hrxSize

/-- A buffer that is free already comes back twice, so that the ring collides; a stray address is put on
a free list; and a frame of a thousand words is reported in a buffer that has room for two. -/
theorem Device.survives_small :
    ∃ c : Card Board,
      c = Card.small.undergoAll
        [.move (.openSession true), .move (.injectTx (TxReturn.encode 0x10000000#32)),
          .move (.injectTx (TxReturn.encode 0x10000000#32)),
          .writeWindow ⟨0, 0x1000, true, true⟩ Offset.rxFree 0xDEADBEEC#32,
          .move (.injectRx ⟨⟨0#32, 0#32, 1000#32, FrameFlags.none⟩, 0x10002000#32⟩), .move (.serve 4)] ∧
      c.device.txFree.collisions = 1 ∧ c.poll = ⟨true, false⟩ ∧ c.Robust :=
  ⟨_, rfl, by decide +kernel, by decide +kernel, (survives attachSmall_eq _).1⟩

end LaneCard
