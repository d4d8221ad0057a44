import LaneCard.Proofs.Recycling
import LaneCard.Proofs.Reported

/-!
# Receiving, from the card to the caller

What becomes of a readable frame, whatever has happened to the card before. A caller is told what the card
has reported last of the buffer, and is given the first words of the buffer in its own memory, if there is
room. The frame is used up by that, and also by a fault of the caller's memory; by nothing else, for the
answer to a record that was read is always there to be written, with the length of the record.
-/

namespace LaneCard

namespace Card

variable {c : Card Board}

/-- A receive record that can be read takes the frame at the head of the ring. It is answered if the memory
reaches far enough for what is copied, and otherwise the record and the memory are left alone. -/
theorem Backed.readRecord_head (hc : c.Backed) {i : Nat} {b : Buffer} (hi : c.device.rxReady.peek? = some i)
    (hb : c.device.rxPool.buffers[i]? = some b) (patience : Patience) {record : Bytes} {request : RxRequest}
    (hrecord : RxRequest.decode record = .ok request) (memory : CallerMemory) :
    ∃ c', c.Recycled i b c' ∧
      if memory.Reaches request.data.toNat (b.copied request.maxSize.toNat * wordSize) then
        ∃ memory', c.readRecord patience record memory =
            (.returned (.ok (b.copied request.maxSize.toNat)),
              RxRequest.answer record (b.report request.maxSize.toNat).reply, c', memory') ∧
          memory.Stored memory' request.data.toNat (b.front c.host.buffers request.maxSize.toNat)
      else
        c.readRecord patience record memory =
          (.returned (.error (.fault request.data.toNat)), record, c', memory) := by
  obtain ⟨c', hreceived, hrecycled⟩ :=
    hc.receive_head hi hb patience request.maxSize.toNat (memory.write request.data.toNat)
  refine ⟨c', hrecycled, ?_⟩
  rw [c.readRecord_eq patience hrecord, hreceived, ← b.size_front c.host.buffers]
  split
  · rename_i hreaches
    obtain ⟨memory', hwritten, hstored⟩ := hreaches.write (Nat.le_refl _)
    exact ⟨memory', by rw [hwritten]; rfl, hstored⟩
  · rename_i hreaches
    rw [CallerMemory.write_of_not_reaches hreaches]
    rfl

/-- The ways in which reading by a record can end. -/
inductive ReadEnds (c : Card Board) (record : Bytes) (memory : CallerMemory) :
    Reply Nat × Bytes × Card Board × CallerMemory → Prop
  | asleep (c' : Card Board) (hc : c.Unmoved c') : ReadEnds c record memory (.asleep, record, c', memory)
  /-- No frame was taken, and it was not the caller's memory that was at fault. -/
  | refused (e : CardError) (c' : Card Board) (he : ∀ addr, e ≠ .fault addr) (hc : c.Unmoved c') :
      ReadEnds c record memory (.returned (.error e), record, c', memory)
  /-- A frame was taken that the caller's memory could not take. -/
  | faulted (request : RxRequest) (i : Nat) (b : Buffer) (c' : Card Board)
      (hrecord : RxRequest.decode record = .ok request) (hi : c.device.rxReady.peek? = some i)
      (hb : c.device.rxPool.buffers[i]? = some b)
      (hreaches : ¬ memory.Reaches request.data.toNat (b.copied request.maxSize.toNat * wordSize))
      (hc : c.Recycled i b c') :
      ReadEnds c record memory (.returned (.error (.fault request.data.toNat)), record, c', memory)
  | answered (request : RxRequest) (i : Nat) (b : Buffer) (c' : Card Board) (memory' : CallerMemory)
      (hrecord : RxRequest.decode record = .ok request) (hi : c.device.rxReady.peek? = some i)
      (hb : c.device.rxPool.buffers[i]? = some b) (hc : c.Recycled i b c') :
      ReadEnds c record memory
        (.returned (.ok (b.copied request.maxSize.toNat)),
          RxRequest.answer record (b.report request.maxSize.toNat).reply, c', memory')

/-- Reading by a record ends in one of its ways. -/
theorem Backed.readRecord_ends (hc : c.Backed) (hnumbered : c.device.Numbered) (patience : Patience)
    (record : Bytes) (memory : CallerMemory) :
    c.ReadEnds record memory (c.readRecord patience record memory) := by
  cases hrecord : RxRequest.decode record with
  | error e =>
    rw [readRecord, hrecord]
    refine .refused _ _ (fun addr hfault => ?_) (.note c _ _)
    cases e <;> cases hfault
  | ok request =>
    cases hi : c.device.rxReady.peek? with
    | some i =>
      obtain ⟨b, hb⟩ := c.device.rxPool.exists_getElem? i (hnumbered.rxReady i (Ring.mem_of_peek? hi))
      obtain ⟨c', hrecycled, hends⟩ := hc.readRecord_head hi hb patience hrecord memory
      split at hends
      · obtain ⟨memory', hanswer, -⟩ := hends
        rw [hanswer]
        exact .answered request i b c' memory' hrecord hi hb hrecycled
      · rename_i hreaches
        rw [hends]
        exact .faulted request i b c' hrecord hi hb hreaches hrecycled
    | none =>
      rw [c.readRecord_eq patience hrecord]
      have hends := c.reception patience request.maxSize.toNat (memory.write request.data.toNat)
      generalize c.receive patience request.maxSize.toNat (memory.write request.data.toNat) = received at hends
      cases hends with
      | asleep c' _ hsame => exact .asleep c' hsame
      | refused e c' hwait hsame =>
        refine .refused e c' (fun addr hfault => ?_) hsame
        rcases c.waitFor_error patience _ e hwait with rfl | rfl | rfl <;> cases hfault
      | unnamed c' _ _ hsame => exact .refused .wouldBlock c' (fun _ hfault => by cases hfault) hsame
      | spoiled _ i _ _ _ hi' | received _ i _ _ _ hi' => cases hi.symm.trans hi'

end Card

/-- Whatever has happened to a card since it was attached, if a frame is at the head of the ring then what
is known of it is what the card has reported last of its buffer, with any length of 24 bits. A caller who
receives is told all of that, and is given the first words of the buffer: as many as the frame has, the
buffer holds, and there is room for. What else the caller has is as before. The frame is used up in any
case, and its buffer goes back to the card once. A fault leaves the caller's record and memory alone. -/
theorem Device.receive_recycles {h h' : Host Board} {name : String} {address : PciAddress} {baseHdwr baseLen : Nat}
    {config : Config} {d : Device} (hattach : attach h name address baseHdwr baseLen config = (.ok d, h'))
    (deeds : List Deed) {c : Card Board} (hc : c = Card.undergoAll ⟨h', d⟩ deeds) {i : Nat}
    (hi : c.device.rxReady.peek? = some i) :
    ∃ b, c.device.rxPool.buffers[i]? = some b ∧
      (∀ room, b.copied room = min (min b.frame.length.toNat (config.rxSize / 4)) room) ∧
      RxDescriptor.lastAt (Card.filedWhile ⟨h', d⟩ deeds) b.addr = some ⟨b.frame, b.addr⟩ ∧
      b.frame.length.toNat < 0x1000000 ∧
      (∀ (patience : Patience) (buffer : List Word), ∃ c',
        c.recv patience buffer =
            (.returned (.ok (b.report buffer.length,
              (b.front c.host.buffers buffer.length).words ++ buffer.drop (b.copied buffer.length))), c') ∧
          c.Recycled i b c') ∧
      ∀ (patience : Patience) (record : Bytes) (request : RxRequest) (memory : CallerMemory),
        RxRequest.decode record = .ok request →
        ∃ c', c.Recycled i b c' ∧
          if memory.Reaches request.data.toNat (b.copied request.maxSize.toNat * wordSize) then
            ∃ record' memory', c.readRecord patience record memory =
                (.returned (.ok (b.copied request.maxSize.toNat)), record', c', memory') ∧
              RxRequest.decodeReply record' = .ok (request, (b.report request.maxSize.toNat).reply) ∧
              memory.Stored memory' request.data.toNat (b.front c.host.buffers request.maxSize.toNat)
          else
            c.readRecord patience record memory =
              (.returned (.error (.fault request.data.toNat)), record, c', memory) := by
  obtain ⟨hbacked, -, hrxSize⟩ := backed_undergoAll hattach deeds hc
  have hnotes : c.Notes (Card.filedWhile ⟨h', d⟩ deeds) := hc ▸ (notes_attach hattach).undergoAll deeds
  obtain ⟨b, hb, -, hlast⟩ := hnotes i (Ring.mem_of_peek? hi)
  have hsize : b.size = config.rxSize := (hbacked.rx.sized b (BufferPool.mem_of_getElem? hb)).trans hrxSize
  have hlength : b.frame.length.toNat < 0x1000000 :=
    (Card.bounds_of_mem_filedWhile (RxDescriptor.mem_of_lastAt hlast)).2.2
  have hcopied (room : Nat) : b.copied room = min (min b.frame.length.toNat (config.rxSize / 4)) room := by
    rw [← hsize]
    rfl
  refine ⟨b, hb, hcopied, hlast, hlength, fun patience buffer => ?_, fun patience record request memory hrecord => ?_⟩
  · obtain ⟨c', hreceived, hrecycled⟩ := hbacked.receive_head hi hb patience buffer.length fun bytes =>
      .ok (bytes.words ++ buffer.drop (bytes.size / wordSize))
    have hwords : (b.front c.host.buffers buffer.length).size / wordSize = b.copied buffer.length := by
      rw [b.size_front]
      exact Nat.mul_div_cancel _ (by decide)
    refine ⟨c', ?_, hrecycled⟩
    rw [Card.recv, hreceived, hwords]
    rfl
  · obtain ⟨c', hrecycled, hends⟩ := hbacked.readRecord_head hi hb patience hrecord memory
    refine ⟨c', hrecycled, ?_⟩
    split at hends
    · rename_i hreaches
      obtain ⟨memory', hanswer, hstored⟩ := hends
      rw [if_pos hreaches]
      exact ⟨_, memory', hanswer, (RxRequest.decodeReply_answer hrecord _).2, hstored⟩
    · rename_i hreaches
      rw [if_neg hreaches]
      exact hends

/-- The card says that it has received a thousand words on lane 1, in a buffer that has room for two. -/
def boast : List Deed :=
  [.move (.openSession true),
    .move (.injectRx ⟨⟨1#32, 2#32, 1000#32, FrameFlags.none⟩, 0x10002000#32⟩), .move (.serve 1)]

/-- A frame that is announced longer than its buffer is cut to it, for a buffer of words and for a record alike. Its
buffer goes back also where the record points to no memory. -/
theorem Device.receive_recycles_small :
    ∃ (c : Card Board) (b : Buffer), c = Card.small.undergoAll boast ∧ c.device.rxReady.peek? = some 0 ∧
      c.device.rxPool.buffers[0]? = some b ∧
      RxDescriptor.lastAt (Card.small.filedWhile boast) b.addr = some ⟨b.frame, b.addr⟩ ∧
      (∃ c', c.recv .refuses [7#32, 7#32, 7#32] =
          (.returned (.ok (⟨1#32, 2#32, 1000#32, 2, ⟨false, false, true⟩⟩, [0#32, 0#32, 7#32])), c') ∧
        c.Recycled 0 b c') ∧
      (RxRequest.decode RxRequest.looseRecord = .ok ⟨.narrow, 5#32, 16#32, 0x1000#64⟩ ∧
        roomyMemory.Reaches 0x1000 8 ∧
        ∃ c' record' memory', c.Recycled 0 b c' ∧
          c.readRecord .refuses RxRequest.looseRecord roomyMemory = (.returned (.ok 2), record', c', memory') ∧
          RxRequest.decodeReply record' =
            .ok (⟨.narrow, 5#32, 16#32, 0x1000#64⟩, ⟨1#32, 2#32, 1000#32, ⟨false, false, true⟩⟩)) ∧
      ∃ c', c.Recycled 0 b c' ∧
        c.readRecord .refuses RxRequest.looseRecord .empty =
          (.returned (.error (.fault 0x1000)), RxRequest.looseRecord, c', .empty) := by
  obtain ⟨c, hc⟩ : ∃ c, c = Card.small.undergoAll boast := ⟨_, rfl⟩
  have hi : c.device.rxReady.peek? = some 0 := by rw [hc]; decide +kernel
  have hknown : ((c.device.rxPool.buffers[0]?).map fun b =>
      ((b.report 3, (b.front c.host.buffers 3).words), b.report 16)) =
      some ((⟨1#32, 2#32, 1000#32, 2, ⟨false, false, true⟩⟩, [0#32, 0#32]),
        ⟨1#32, 2#32, 1000#32, 2, ⟨false, false, true⟩⟩) := by
    rw [hc]
    decide +kernel
  obtain ⟨b, hb, -, hlast, -, hrecv, hread⟩ := receive_recycles attachSmall_eq boast hc hi
  rw [hb, Option.map_some, Option.some.injEq, Prod.mk.injEq, Prod.mk.injEq] at hknown
  obtain ⟨⟨hreport, hwords⟩, hreply⟩ := hknown
  have hfew : b.copied 3 = 2 := congrArg RxFrame.copied hreport
  have hmany : b.copied 16 = 2 := congrArg RxFrame.copied hreply
  have hrecord : RxRequest.decode RxRequest.looseRecord = .ok ⟨.narrow, 5#32, 16#32, 0x1000#64⟩ := by decide
  have hroomy : roomyMemory.Reaches 0x1000 8 :=
    ⟨0x1000, Bytes.zeros 0x1000, rfl, by rw [Bytes.size_zeros]; decide⟩
  have hreaches : roomyMemory.Reaches 0x1000 (b.copied 16 * wordSize) := by rw [hmany]; exact hroomy
  have hbarred : ¬ CallerMemory.empty.Reaches 0x1000 (b.copied 16 * wordSize) :=
    fun ⟨_, _, hfound, _⟩ => nomatch hfound
  refine ⟨c, b, hc, hi, hb, hlast, ?_, ⟨hrecord, hroomy, ?_⟩, ?_⟩
  · obtain ⟨c', hanswer, hrecycled⟩ := hrecv .refuses [7#32, 7#32, 7#32]
    refine ⟨c', hanswer.trans ?_, hrecycled⟩
    change (Reply.returned (.ok (b.report 3, (b.front c.host.buffers 3).words ++ [7#32, 7#32, 7#32].drop (b.copied 3))),
      c') = _
    rw [hreport, hwords, hfew]
    rfl
  · obtain ⟨c', hrecycled, hends⟩ := hread .refuses _ _ roomyMemory hrecord
    obtain ⟨record', memory', hanswer, hdecoded, -⟩ := (if_pos hreaches).mp hends
    refine ⟨c', record', memory', hrecycled, hanswer.trans ?_, hdecoded.trans ?_⟩
    · change (Reply.returned (.ok (b.copied 16)), record', c', memory') = _
      rw [hmany]
    · exact congrArg (fun frame : RxFrame => Except.ok (_, frame.reply)) hreply
  · obtain ⟨c', hrecycled, hends⟩ := hread .refuses _ _ .empty hrecord
    exact ⟨c', hrecycled, (if_neg hbarred).mp hends⟩

/-- Whatever has happened to a card since it was attached, a receive record is left alone when it is not
answered. A frame is used up then only if the caller's memory is at fault, and a request that was read can
always be answered, in the length of its record. An answer keeps the tag, the size limit and the pointer as
they are in the record, and tells of the frame that was used up. -/
theorem Device.read_loses_no_frame {h h' : Host Board} {name : String} {address : PciAddress}
    {baseHdwr baseLen : Nat} {config : Config} {d : Device}
    (hattach : attach h name address baseHdwr baseLen config = (.ok d, h')) (deeds : List Deed) {c : Card Board}
    (hc : c = Card.undergoAll ⟨h', d⟩ deeds) (patience : Patience) (record : Bytes) (memory : CallerMemory) :
    (∀ e, (c.readRecord patience record memory).1 = .returned (.error e) →
      (c.readRecord patience record memory).2.1 = record ∧
        ((∀ addr, e ≠ .fault addr) ∧
            (c.readRecord patience record memory).2.2.1.device.rxReady = c.device.rxReady ∧
            (c.readRecord patience record memory).2.2.1.host.bus.writes = c.host.bus.writes ∨
          ∃ request i b, RxRequest.decode record = .ok request ∧ e = .fault request.data.toNat ∧
            c.device.rxReady.peek? = some i ∧ c.device.rxPool.buffers[i]? = some b ∧
            ¬ memory.Reaches request.data.toNat (b.copied request.maxSize.toNat * wordSize) ∧
            c.Recycled i b (c.readRecord patience record memory).2.2.1)) ∧
      (∀ request, RxRequest.decode record = .ok request → ∀ reply, ∃ answer,
        request.encodeReply reply = .ok answer ∧ answer.size = record.size) ∧
      ∀ n, (c.readRecord patience record memory).1 = .returned (.ok n) →
        ∃ request i b, RxRequest.decode record = .ok request ∧ c.device.rxReady.peek? = some i ∧
          c.device.rxPool.buffers[i]? = some b ∧ n = b.copied request.maxSize.toNat ∧
          (c.readRecord patience record memory).2.1.size = record.size ∧
          (c.readRecord patience record memory).2.1.extract 0 (Model.ofTag (record.wordAt 0)).requestSize =
            record.extract 0 (Model.ofTag (record.wordAt 0)).requestSize ∧
          RxRequest.decodeReply (c.readRecord patience record memory).2.1 =
            .ok (request, (b.report request.maxSize.toNat).reply) ∧
          c.Recycled i b (c.readRecord patience record memory).2.2.1 := by
  obtain ⟨hbacked, hnumbered, -⟩ := backed_undergoAll hattach deeds hc
  have hends := hbacked.readRecord_ends hnumbered patience record memory
  refine ⟨fun e he => ?_, fun request hrecord reply => ?_, fun n hn => ?_⟩
  · generalize c.readRecord patience record memory = result at hends he
    cases hends with
    | asleep => cases he
    | refused e' c' hfault hsame =>
      obtain rfl := Except.error.inj (Reply.returned.inj he)
      exact ⟨rfl, .inl ⟨hfault, by rw [hsame.device], by rw [hsame.host]⟩⟩
    | faulted request i b c' hrecord hi hb hreaches hrecycled =>
      obtain rfl := Except.error.inj (Reply.returned.inj he)
      exact ⟨rfl, .inr ⟨request, i, b, hrecord, rfl, hi, hb, hreaches, hrecycled⟩⟩
    | answered => cases he
  · exact ⟨_, RxRequest.encodeReply_eq_answer hrecord reply, (RxRequest.decodeReply_answer hrecord reply).1⟩
  · generalize c.readRecord patience record memory = result at hends hn
    cases hends with
    | asleep | refused | faulted => cases hn
    | answered request i b c' memory' hrecord hi hb hrecycled =>
      obtain rfl := Except.ok.inj (Reply.returned.inj hn)
      obtain ⟨hsize, hread⟩ := RxRequest.decodeReply_answer hrecord (b.report request.maxSize.toNat).reply
      exact ⟨request, i, b, hrecord, hi, hb, rfl, hsize, RxRequest.extract_answer hrecord _, hread, hrecycled⟩

/-- A frame that cannot be stored leaves the record as it was. Where it can be stored the record is answered, and keeps
its first words. -/
theorem Device.read_loses_no_frame_small :
    ∃ c : Card Board, c = Card.small.undergoAll boast ∧
      ((c.readRecord .refuses RxRequest.looseRecord .empty).1 = .returned (.error (.fault 0x1000)) ∧
        (c.readRecord .refuses RxRequest.looseRecord .empty).2.1 = RxRequest.looseRecord ∧
        ∃ i b, c.Recycled i b (c.readRecord .refuses RxRequest.looseRecord .empty).2.2.1) ∧
      (RxRequest.decode RxRequest.looseRecord = .ok ⟨.narrow, 5#32, 16#32, 0x1000#64⟩ ∧
        ∃ answer, RxRequest.encodeReply ⟨.narrow, 5#32, 16#32, 0x1000#64⟩ .blank = .ok answer ∧
          answer.size = RxRequest.looseRecord.size) ∧
      (c.readRecord .refuses RxRequest.looseRecord roomyMemory).1 = .returned (.ok 2) ∧
        (c.readRecord .refuses RxRequest.looseRecord roomyMemory).2.1.extract 0 12 =
          RxRequest.looseRecord.extract 0 12 ∧
        ∃ i b, c.Recycled i b (c.readRecord .refuses RxRequest.looseRecord roomyMemory).2.2.1 := by
  obtain ⟨c, hc⟩ : ∃ c, c = Card.small.undergoAll boast := ⟨_, rfl⟩
  have hrecord : RxRequest.decode RxRequest.looseRecord = .ok ⟨.narrow, 5#32, 16#32, 0x1000#64⟩ := by decide
  have hnarrow : Model.ofTag (RxRequest.looseRecord.wordAt 0) = .narrow := by decide
  have hbarred : (c.readRecord .refuses RxRequest.looseRecord .empty).1 =
      .returned (.error (.fault 0x1000)) := by
    rw [hc]
    decide +kernel
  have hroomy : (c.readRecord .refuses RxRequest.looseRecord roomyMemory).1 = .returned (.ok 2) := by
    rw [hc]
    decide +kernel
  obtain ⟨hspared, hencoded, -⟩ := read_loses_no_frame attachSmall_eq boast hc .refuses RxRequest.looseRecord .empty
  obtain ⟨-, -, hanswered⟩ :=
    read_loses_no_frame attachSmall_eq boast hc .refuses RxRequest.looseRecord roomyMemory
  refine ⟨c, hc, ⟨hbarred, (hspared _ hbarred).1, ?_⟩, ⟨hrecord, hencoded _ hrecord _⟩, hroomy, ?_⟩
  · rcases (hspared _ hbarred).2 with ⟨hother, -⟩ | ⟨_, i, b, -, -, -, -, -, hrecycled⟩
    · exact absurd rfl (hother _)
    · exact ⟨i, b, hrecycled⟩
  · obtain ⟨_, i, b, -, -, -, -, -, hfront, -, hrecycled⟩ := hanswered 2 hroomy
    rw [hnarrow] at hfront
    exact ⟨hfront, i, b, hrecycled⟩

end LaneCard
