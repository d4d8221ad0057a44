import LaneCard.Proofs.Attach
import LaneCard.Proofs.CallerMemory
import LaneCard.Proofs.Conduct
import LaneCard.Proofs.ReceiveRecord
import LaneCard.Proofs.Reception

/-!
# Words and records

A frame can be sent and received as a list of words, or by a record that points into memory. Both ways
go through the same call and differ only in where the bytes come from or go to: sending asks its source
once, for the length of the frame, and receiving offers its sink at most as many bytes as there is room
for. So a source that gives the words, or a sink that takes whatever fits, makes the two ways do the
same to the card.
-/

namespace LaneCard

/-- A payload that was read has the length that was asked for. -/
theorem Buffer.size_of_payload {b : Buffer} {a : Allocator} {length : Nat} {bytes : Bytes}
    (h : b.payload a length = .ok bytes) : bytes.size = length := by
  unfold payload checkLength Allocator.read at h
  by_cases hlong : b.size < length
  · rw [if_pos hlong] at h
    contradiction
  · rw [if_neg hlong] at h
    by_cases hregion : 0 + length ≤ b.region.size
    · rw [if_pos hregion] at h
      obtain rfl := Except.ok.inj h
      exact Memory.size_read _ _ _
    · rw [if_neg hregion] at h
      contradiction

/-- What a record says of a received frame. -/
def RxFrame.reply (frame : RxFrame) : RxReply := ⟨frame.lane, frame.vc, frame.length, frame.flags⟩

namespace Card

variable {β : Type} [RegisterBus β]

/-! ## One source, one sink -/

/-- Of its source, sending learns only what it gives for the length of the frame. -/
theorem submit_congr (c : Card β) (patience : Patience) (lane vc size : Word)
    {source source' : Nat → Except CardError Bytes}
    (hsource : source (size.toNat * wordSize) = source' (size.toNat * wordSize)) :
    c.submit patience lane vc size source = c.submit patience lane vc size source' := by
  unfold submit
  dsimp only
  rw [hsource]

/-- A sink that takes everything that there is room for does nothing to the card. -/
theorem receive_of_accepts {γ : Type} (c : Card β) (patience : Patience) (maxSize : Nat)
    {sink : Bytes → Except CardError γ} {keep : Bytes → γ}
    (hsink : ∀ bytes : Bytes, bytes.size ≤ maxSize * wordSize → sink bytes = .ok (keep bytes)) :
    c.receive patience maxSize sink =
      ((c.receive patience maxSize .ok).1.map fun a => (a.1, keep a.2),
        (c.receive patience maxSize .ok).2) := by
  unfold receive
  split
  · rfl
  · rfl
  · split
    · rfl
    · rename_i w _ buffer _
      dsimp only
      generalize (if buffer.frame.flags.isEmpty then _ else _ : Card β) = noted
      cases hcopied : buffer.payload noted.host.buffers ((copyPlan buffer maxSize).1 * wordSize) with
      | error e => rfl
      | ok bytes =>
        have hplan : (copyPlan buffer maxSize).1 ≤ maxSize :=
          Nat.le_trans (copyPlan_le_min buffer maxSize) (Nat.min_le_right _ _)
        have hroom : bytes.size ≤ maxSize * wordSize := by
          rw [Buffer.size_of_payload hcopied]
          exact Nat.mul_le_mul_right _ hplan
        have htaken : ((Except.ok bytes : Except CardError Bytes) >>= sink) = .ok (keep bytes) :=
          hsink bytes hroom
        rw [htaken]
        rfl

/-- As many words are offered as are reported to be copied, and no more than there is room for. -/
theorem size_of_receive {c c' : Card β} {patience : Patience} {maxSize : Nat} {frame : RxFrame} {bytes : Bytes}
    (h : c.receive patience maxSize .ok = (.returned (.ok (frame, bytes)), c')) :
    bytes.size = frame.copied * wordSize ∧ frame.copied ≤ maxSize := by
  unfold receive at h
  split at h
  · cases h
  · cases h
  · split at h
    · cases h
    · rename_i w _ buffer _
      dsimp only at h
      generalize (if buffer.frame.flags.isEmpty then _ else _ : Card β) = noted at h
      cases hcopied : buffer.payload noted.host.buffers ((copyPlan buffer maxSize).1 * wordSize) with
      | error e =>
        rw [hcopied] at h
        cases h
      | ok copied =>
        rw [hcopied] at h
        cases h
        exact ⟨Buffer.size_of_payload hcopied,
          Nat.le_trans (copyPlan_le_min buffer maxSize) (Nat.min_le_right _ _)⟩

/-! ## Writing -/

/-- A record that asks for a frame to be sent sends what its memory gives. -/
theorem writeRecord_of_frame (c : Card β) (patience : Patience) {record : Bytes} {request : TxRequest}
    (hrecord : TxRequest.decode record = .ok request)
    (hcommand : Command.ofCode? request.cmd.toNat = some .normalWrite) (memory : CallerMemory) :
    c.writeRecord patience record memory =
      ((c.submit patience request.lane request.vc request.size (memory.read request.data.toNat)).1,
        (c.submit patience request.lane request.vc request.size (memory.read request.data.toNat)).2, memory) := by
  rw [writeRecord, hrecord]
  dsimp only
  rw [hcommand]

/-- If the memory holds some words, a record that points there does what sending them does. -/
theorem writeRecord_eq_send (c : Card β) (patience : Patience) {record : Bytes} {model : Model} {lane vc : Word}
    {data : Pointer} {words : List Word}
    (hrecord : TxRequest.decode record = .ok (.write model lane vc data (BitVec.ofNat 32 words.length)))
    (hlength : words.length < wordSpan) {memory : CallerMemory}
    (hholds : memory.Holds data.toNat (Bytes.ofWords words)) :
    c.writeRecord patience record memory =
      ((c.send patience lane vc words).1, (c.send patience lane vc words).2, memory) := by
  have hword : (BitVec.ofNat 32 words.length).toNat = words.length := Word.toNat_ofNat_of_lt hlength
  have hread : memory.read data.toNat ((BitVec.ofNat 32 words.length).toNat * wordSize) =
      .ok (Bytes.ofWords words) := by
    have hheld := hholds.read
    rwa [Bytes.size_ofWords, Nat.mul_comm, ← hword] at hheld
  have hsame : c.submit patience lane vc (BitVec.ofNat 32 words.length) (memory.read data.toNat) =
      c.send patience lane vc words := by
    rw [c.send_eq_submit patience lane vc hlength]
    exact c.submit_congr patience lane vc _ hread
  rw [c.writeRecord_of_frame patience hrecord rfl]
  exact congrArg (fun sent => (sent.1, sent.2, memory)) hsame

/-! ## Reading -/

/-- What a receive record has come to, given what has been received. -/
def answered (answer : RxReply → Bytes) (record : Bytes) (memory : CallerMemory) :
    Reply (RxFrame × CallerMemory) × Card β → Reply Nat × Bytes × Card β × CallerMemory
  | (.returned (.ok (frame, memory')), c) => (.returned (.ok frame.copied), answer frame.reply, c, memory')
  | (.returned (.error e), c) => (.returned (.error e), record, c, memory)
  | (.asleep, c) => (.asleep, record, c, memory)

/-- Answering a record does nothing to the card. -/
theorem card_answered {α : Type} (answer : RxReply → Bytes) (record : Bytes) (memory : CallerMemory)
    (received : Reply (RxFrame × CallerMemory) × Card α) :
    (answered answer record memory received).2.2.1 = received.2 := by
  obtain ⟨reply, c⟩ := received
  cases reply with
  | asleep => rfl
  | returned result => cases result <;> rfl

/-- A receive record that can be read is answered, and nothing else can go wrong once a frame was taken. -/
theorem readRecord_eq (c : Card β) (patience : Patience) {record : Bytes} {request : RxRequest}
    (hrecord : RxRequest.decode record = .ok request) (memory : CallerMemory) :
    c.readRecord patience record memory =
      answered (RxRequest.answer record) record memory
        (c.receive patience request.maxSize.toNat (memory.write request.data.toNat)) := by
  rw [readRecord, hrecord]
  dsimp only
  generalize c.receive patience request.maxSize.toNat (memory.write request.data.toNat) = received
  obtain ⟨reply, c'⟩ := received
  cases reply with
  | asleep => rfl
  | returned result =>
    cases result with
    | error e => rfl
    | ok taken =>
      dsimp only
      rw [RxRequest.encodeReply_eq_answer hrecord]
      exact if_pos (RxRequest.decodeReply_answer hrecord _).1

/-- The answer is read as the request and what has been received. -/
theorem readRecord_eq_answered (c : Card β) (patience : Patience) {record : Bytes} {request : RxRequest}
    (hrecord : RxRequest.decode record = .ok request) (memory : CallerMemory) :
    ∃ answer : RxReply → Bytes, (∀ reply, RxRequest.decodeReply (answer reply) = .ok (request, reply)) ∧
      c.readRecord patience record memory =
        answered answer record memory
          (c.receive patience request.maxSize.toNat (memory.write request.data.toNat)) :=
  ⟨RxRequest.answer record, fun reply => (RxRequest.decodeReply_answer hrecord reply).2,
    c.readRecord_eq patience hrecord memory⟩

/-- What reading by a record has done is what receiving into a buffer of words has done. -/
structure ReadsLike (request : RxRequest) (record : Bytes) (memory : CallerMemory)
    (read : Reply Nat × Bytes × Card β × CallerMemory) (received : Reply (RxFrame × List Word) × Card β) :
    Prop where
  card : read.2.2.1 = received.2
  result : read.1 = received.1.map fun taken => taken.1.copied
  /-- The record tells of the frame, and the memory has the words that were copied. -/
  taken : ∀ frame words, received.1 = .returned (.ok (frame, words)) →
    RxRequest.decodeReply read.2.1 = .ok (request, frame.reply) ∧
      memory.Stored read.2.2.2 request.data.toNat (Bytes.ofWords (words.take frame.copied))
  /-- Where nothing is received, the record and the memory are as they were. -/
  spared : (∀ taken, received.1 ≠ .returned (.ok taken)) → read.2.1 = record ∧ read.2.2.2 = memory

/-- If the memory reaches far enough, a record that points there does what receiving into a buffer does. -/
theorem readRecord_readsLike (c : Card β) (patience : Patience) {record : Bytes} {request : RxRequest}
    (hrecord : RxRequest.decode record = .ok request) {buffer : List Word}
    (hbuffer : buffer.length = request.maxSize.toNat) {memory : CallerMemory}
    (hreaches : memory.Reaches request.data.toNat (request.maxSize.toNat * wordSize)) :
    ReadsLike request record memory (c.readRecord patience record memory) (c.recv patience buffer) := by
  obtain ⟨answer, hanswer, hread⟩ := c.readRecord_eq_answered patience hrecord memory
  have hstored : ∀ bytes : Bytes, bytes.size ≤ request.maxSize.toNat * wordSize →
      memory.write request.data.toNat bytes =
        .ok ((memory.write request.data.toNat bytes).toOption.getD memory) := by
    intro bytes hbytes
    obtain ⟨memory', hwrite, -⟩ := hreaches.write hbytes
    rw [hwrite]
    rfl
  have htaken : ∀ bytes : Bytes, bytes.size ≤ buffer.length * wordSize →
      (Except.ok (bytes.words ++ buffer.drop (bytes.size / wordSize)) : Except CardError (List Word)) =
        .ok (bytes.words ++ buffer.drop (bytes.size / wordSize)) := fun _ _ => rfl
  rw [hread, c.receive_of_accepts patience _ hstored, recv, c.receive_of_accepts patience _ htaken, hbuffer]
  cases hreceived : c.receive patience request.maxSize.toNat .ok with
  | mk reply c' =>
    cases reply with
    | asleep => exact ⟨rfl, rfl, nofun, fun _ => ⟨rfl, rfl⟩⟩
    | returned result =>
      cases result with
      | error e => exact ⟨rfl, rfl, nofun, fun _ => ⟨rfl, rfl⟩⟩
      | ok taken =>
        obtain ⟨frame, bytes⟩ := taken
        obtain ⟨hsize, hroom⟩ := size_of_receive hreceived
        refine ⟨rfl, rfl, ?_, fun h => absurd rfl (h _)⟩
        intro frame' words hreply
        cases hreply
        refine ⟨hanswer _, ?_⟩
        have hcopied : bytes.words.length = frame.copied := by
          rw [Bytes.length_words, hsize, wordSize]
          omega
        have hwhole : 4 ∣ bytes.size := ⟨frame.copied, by rw [hsize, wordSize, Nat.mul_comm]⟩
        rw [List.take_left' hcopied, Bytes.ofWords_words bytes hwhole]
        have hbytes : bytes.size ≤ request.maxSize.toNat * wordSize := hsize ▸ Nat.mul_le_mul_right _ hroom
        obtain ⟨memory', hwrite, hmemory⟩ := hreaches.write hbytes
        change memory.Stored ((memory.write request.data.toNat bytes).toOption.getD memory) _ _
        rw [hwrite]
        exact hmemory

/-! ## Both layouts -/

/-- Two receive records for the same room have come to the same: the same answer, the same card and
memory, and if a frame was received the same is told of it. -/
structure ReadsAlike (request request' : RxRequest)
    (read read' : Reply Nat × Bytes × Card β × CallerMemory) : Prop where
  result : read.1 = read'.1
  state : read.2.2 = read'.2.2
  told : ∀ copied, read.1 = .returned (.ok copied) →
    ∃ reply, RxRequest.decodeReply read.2.1 = .ok (request, reply) ∧
      RxRequest.decodeReply read'.2.1 = .ok (request', reply)

/-- Records that differ only in their layout come to the same. -/
theorem readRecord_readsAlike (c : Card β) (patience : Patience) (memory : CallerMemory) {record record' : Bytes}
    {request request' : RxRequest} (hrecord : RxRequest.decode record = .ok request)
    (hrecord' : RxRequest.decode record' = .ok request') (hmaxSize : request'.maxSize = request.maxSize)
    (hdata : request'.data = request.data) :
    ReadsAlike request request' (c.readRecord patience record memory)
      (c.readRecord patience record' memory) := by
  obtain ⟨answer, hanswer, hread⟩ := c.readRecord_eq_answered patience hrecord memory
  obtain ⟨answer', hanswer', hread'⟩ := c.readRecord_eq_answered patience hrecord' memory
  rw [hread, hread', hmaxSize, hdata]
  cases c.receive patience request.maxSize.toNat (memory.write request.data.toNat) with
  | mk reply c' =>
    cases reply with
    | asleep => exact ⟨rfl, rfl, nofun⟩
    | returned result =>
      cases result with
      | error e => exact ⟨rfl, rfl, nofun⟩
      | ok taken => exact ⟨rfl, rfl, fun _ _ => ⟨taken.1.reply, hanswer _, hanswer' _⟩⟩

/-! ## Both ways -/

/-- Whatever the state of a card, sending and receiving by records that point into memory does what
sending and receiving words does, if the memory holds the words, or reaches far enough for the room. In
either layout the records do the same, whatever the memory. -/
theorem records_agree (c : Card β) (patience : Patience) (memory : CallerMemory) :
    (∀ (model : Model) (lane vc : Word) (data : Pointer) (words : List Word),
      (model = .narrow → data.toNat < wordSpan) → words.length < wordSpan →
      memory.Holds data.toNat (Bytes.ofWords words) →
      ∃ record, (TxRequest.write model lane vc data (BitVec.ofNat 32 words.length)).encode = .ok record ∧
        c.writeRecord patience record memory =
          ((c.send patience lane vc words).1, (c.send patience lane vc words).2, memory)) ∧
    (∀ (model : Model) (data : Pointer) (maxSize : Word) (buffer : List Word),
      (model = .narrow → data.toNat < wordSpan) → buffer.length = maxSize.toNat →
      memory.Reaches data.toNat (maxSize.toNat * wordSize) →
      ∃ record, (RxRequest.new model maxSize data).encode = .ok record ∧
        ReadsLike (.new model maxSize data) record memory (c.readRecord patience record memory)
          (c.recv patience buffer)) ∧
    ∀ data : Pointer, data.toNat < wordSpan →
      (∀ lane vc size : Word, ∃ narrow wide,
        (TxRequest.write .narrow lane vc data size).encode = .ok narrow ∧
          (TxRequest.write .wide lane vc data size).encode = .ok wide ∧
          c.writeRecord patience narrow memory = c.writeRecord patience wide memory) ∧
      ∀ maxSize : Word, ∃ narrow wide,
        (RxRequest.new .narrow maxSize data).encode = .ok narrow ∧
          (RxRequest.new .wide maxSize data).encode = .ok wide ∧
          ReadsAlike (.new .narrow maxSize data) (.new .wide maxSize data)
            (c.readRecord patience narrow memory) (c.readRecord patience wide memory) := by
  refine ⟨?_, ?_, ?_⟩
  · intro model lane vc data words hdata hlength hholds
    obtain ⟨record, hencoded, hdecoded⟩ :=
      TxRequest.decode_encode (r := .write model lane vc data (BitVec.ofNat 32 words.length)) hdata
    exact ⟨record, hencoded, c.writeRecord_eq_send patience hdecoded hlength hholds⟩
  · intro model data maxSize buffer hdata hbuffer hreaches
    obtain ⟨record, hencoded, hdecoded⟩ := RxRequest.decode_encode_new model hdata maxSize
    exact ⟨record, hencoded, c.readRecord_readsLike patience hdecoded hbuffer hreaches⟩
  · intro data hdata
    constructor
    · intro lane vc size
      obtain ⟨narrow, hnarrow, hdecoded⟩ :=
        TxRequest.decode_encode (r := .write .narrow lane vc data size) fun _ => hdata
      obtain ⟨wide, hwide, hdecoded'⟩ := TxRequest.decode_encode (r := .write .wide lane vc data size) nofun
      refine ⟨narrow, wide, hnarrow, hwide, ?_⟩
      rw [c.writeRecord_of_frame patience hdecoded rfl, c.writeRecord_of_frame patience hdecoded' rfl]
      rfl
    · intro maxSize
      obtain ⟨narrow, hnarrow, hdecoded⟩ := RxRequest.decode_encode_new .narrow (fun _ => hdata) maxSize
      obtain ⟨wide, hwide, hdecoded'⟩ := RxRequest.decode_encode_new .wide nofun maxSize
      exact ⟨narrow, wide, hnarrow, hwide, c.readRecord_readsAlike patience memory hdecoded hdecoded' rfl rfl⟩

/-- A stretch of three words holds the two that are sent from it by a narrow record, and reaches far
enough for a frame of a thousand words that is read into room for two. -/
theorem records_agree_small :
    ∃ (c : Card Board) (memory : CallerMemory) (sent room : Bytes),
      c = Card.small.undergoAll
        [.move (.injectRx ⟨⟨3#32, 1#32, 1000#32, FrameFlags.none⟩, 0x10002000#32⟩), .move (.serve 1)] ∧
      memory = CallerMemory.empty.insert 0x1000 (Bytes.ofWords [5#32, 7#32, 9#32]) ∧
      (TxRequest.write .narrow 1#32 0#32 0x1000#64 2#32).encode = .ok sent ∧
      c.writeRecord .refuses sent memory =
        ((c.send .refuses 1#32 0#32 [5#32, 7#32]).1, (c.send .refuses 1#32 0#32 [5#32, 7#32]).2, memory) ∧
      (c.send .refuses 1#32 0#32 [5#32, 7#32]).2.device.txFree.length = 1 ∧
      (RxRequest.new .wide 2#32 0x1000#64).encode = .ok room ∧
      ReadsLike (.new .wide 2#32 0x1000#64) room memory (c.readRecord .refuses room memory)
        (c.recv .refuses [6#32, 6#32]) ∧
      (c.recv .refuses [6#32, 6#32]).2.device.rxReady.isEmpty = true := by
  set c := Card.small.undergoAll
    [.move (.injectRx ⟨⟨3#32, 1#32, 1000#32, FrameFlags.none⟩, 0x10002000#32⟩), .move (.serve 1)] with hc
  set memory := CallerMemory.empty.insert 0x1000 (Bytes.ofWords [5#32, 7#32, 9#32]) with hmemory
  obtain ⟨hwrites, hreads, -⟩ := records_agree c .refuses memory
  obtain ⟨sent, hsent, hsame⟩ := hwrites .narrow 1#32 0#32 0x1000#64 [5#32, 7#32] (fun _ => by decide) (by decide)
    ⟨0x1000, Bytes.ofWords [5#32, 7#32, 9#32], rfl, by decide, by decide +kernel⟩
  obtain ⟨room, hroom, hlike⟩ := hreads .wide 0x1000#64 2#32 [6#32, 6#32] nofun rfl
    ⟨0x1000, Bytes.ofWords [5#32, 7#32, 9#32], rfl, by decide⟩
  exact ⟨c, memory, sent, room, hc, hmemory, hsent, hsame, by decide +kernel, hroom, hlike, by decide +kernel⟩

end Card

end LaneCard
