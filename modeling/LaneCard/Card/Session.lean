import LaneCard.Card.Control
import LaneCard.Caller.Sparse
import LaneCard.Descriptor
import LaneCard.Record.Receive
import LaneCard.Wait

/-!
# Sessions

A card can be opened by one caller at a time, who then sends and receives frames, as lists of
words or by records that point into memory. Sending takes a free transmit buffer, receiving
the oldest readable frame; where there is none the call waits, unless it is told not to. A
call that waits is answered when the card has gone on; it can be cancelled, and it fails when
the card is detached.

A call that sleeps is made again with the patience `woken` once something has happened: it goes
on from where it slept.
-/

namespace LaneCard

/-- What a caller does when a call has to wait. -/
inductive Patience where
  /-- The call fails. -/
  | refuses
  /-- The caller sleeps. -/
  | sleeps
  /-- The caller has slept, was woken, and looks again. -/
  | woken
  deriving Repr, DecidableEq

/-- The patience of a session that was told not to wait, or was not. -/
def Patience.ofNonblock (nonblock : Bool) : Patience := if nonblock then refuses else sleeps

/-- A call has returned, or waits. -/
inductive Reply (α : Type) where
  | returned (result : Except CardError α)
  | asleep

/-- Change what a call returns when it succeeds. -/
def Reply.map {α γ : Type} (f : α → γ) : Reply α → Reply γ
  | returned (.ok a) => returned (.ok (f a))
  | returned (.error e) => returned (.error e)
  | asleep => asleep

/-- What a caller learns of a received frame. -/
structure RxFrame where
  lane : Word
  vc : Word
  /-- The length of the frame in words. -/
  length : Word
  /-- The number of words that were copied. -/
  copied : Nat
  flags : FrameFlags
  deriving Repr, DecidableEq

/-- Whether a frame can be read, and whether one can be sent. -/
structure PollFlags where
  readable : Bool
  writable : Bool
  deriving Repr, DecidableEq

namespace PollFlags

/-- The flags as bits 0 and 1 of a number. -/
def bits (f : PollFlags) : Nat := f.readable.toNat + 2 * f.writable.toNat

/-- The flags in bits 0 and 1 of a number; other bits are ignored. -/
def ofBits (n : Nat) : PollFlags := ⟨n.testBit 0, n.testBit 1⟩

/-- The flags set in both. -/
def inter (f g : PollFlags) : PollFlags := ⟨f.readable && g.readable, f.writable && g.writable⟩

/-- Whether any flag is set. -/
def any (f : PollFlags) : Bool := f.readable || f.writable

end PollFlags

namespace Card

variable {β : Type} [RegisterBus β]

/-- Open the card for one caller; what was left of an earlier cancellation is dropped. -/
def openSession (c : Card β) (nonblock : Bool) : Except CardError Unit × Card β :=
  if c.device.detached then (.error .noDevice, c)
  else if c.device.isOpen then
    (.error .busy, c.note .warn "Open: module open failed. Device is already open")
  else
    let c := { c with device := { c.device with isOpen := true, signal := false } }
    let flags := if nonblock then "NONBLOCK" else "0x0"
    (.ok (), c.trace 0 ("Open: flags=OpenFlags(" ++ flags ++ ")"))

/-- Give up to so many unread frames back to the card. Gives their number. -/
def returnUnread : Nat → Card β → Nat × Card β
  | 0, c => (0, c)
  | n + 1, c =>
    match c.device.rxReady.pop with
    | (none, _) => (0, c)
    | (some index, ring) =>
      let c := { c with device := { c.device with rxReady := ring } }
      let c :=
        match c.device.rxPool.buffers[index]? with
        | some b => c.giveFree b.frame.lane.toNat b.addr
        | none => c
      let (returned, c) := returnUnread n c
      (returned + 1, c)

/-- End the session: unread frames go back to the card, and the cancellation signal and the
listener are dropped. -/
def closeSession (c : Card β) : Card β :=
  let c := { c with device := { c.device with isOpen := false } }
  let (returned, c) := returnUnread c.device.rxReady.length c
  let c :=
    { c with
      device :=
        { c.device with
          droppedClosed := c.device.droppedClosed + returned
          listener := none
          signal := false } }
  c.note .info s!"Close: {returned} unread frame(s) returned"

/-- Cancel the wait of the session, now or the next one. -/
def interruptSession (c : Card β) : Card β :=
  { c with device := { c.device with signal := true } }

/-- Look once, in the wait queue, whether the ring is not empty or the card is detached. -/
def lookAt (c : Card β) (ring : Ring) : Reply Unit × Card β :=
  match WaitQueue.look (!ring.isEmpty || c.device.detached) c.device.signal with
  | (.ready, _) =>
    (.returned (if ring.isEmpty then .error .noDevice else .ok ()), c.trace 2 "woke up")
  | (.interrupted, signal) =>
    (.returned (.error .restart), { c with device := { c.device with signal := signal } })
  | _ => (.asleep, c)

/-- Wait until the ring is not empty. The ring is looked at first, then whether the card is
detached, then whether the caller wants to wait at all. -/
def waitFor (c : Card β) (patience : Patience) (ring : Ring) : Reply Unit × Card β :=
  match patience with
  | .woken => c.lookAt ring
  | _ =>
    if !ring.isEmpty then (.returned (.ok ()), c)
    else if c.device.detached then (.returned (.error .noDevice), c)
    else if patience = .refuses then (.returned (.error .wouldBlock), c)
    else (c.trace 2 "going to sleep").lookAt ring

/-- Send a frame of so many words. `source` gives its bytes, or fails, in which case the buffer
stays free. A frame for a lane that does not exist is dropped with its buffer. -/
def submit (c : Card β) (patience : Patience) (lane vc size : Word)
    (source : Nat → Except CardError Bytes) : Reply Nat × Card β :=
  let bytes := size.toNat * wordSize
  let capacity := c.device.txPool.bufferSize
  if capacity < bytes then
    (.returned (.error (.oversize bytes capacity)),
      c.note .warn s!"Write: passed size is too large for TX buffer ({bytes} > {capacity})")
  else
    match c.waitFor patience c.device.txFree with
    | (.asleep, c) => (.asleep, c)
    | (.returned (.error e), c) => (.returned (.error e), c)
    | (.returned (.ok ()), c) =>
      match c.device.txFree.peek?.bind fun i => (c.device.txPool.buffers[i]?).map (i, ·) with
      | none => (.returned (.error .wouldBlock), c)
      | some (index, buffer) =>
        match source bytes >>= buffer.fill c.host.buffers with
        | .error e => (.returned (.error e), c)
        | .ok memory =>
          let pool := c.device.txPool.setFrame index ⟨lane, vc, size, FrameFlags.none⟩
          let c : Card β :=
            { host := c.host.setBuffers memory, device := { c.device with txPool := pool } }
          let c :=
            if lane.toNat < laneCount then
              (c.write (Offset.txWrA + 4 * lane.toNat) (TxDescriptor.mk lane vc size).encode).write
                (Offset.txWrB + 4 * lane.toNat) buffer.addr
            else c.note .warn s!"Write: invalid lane {lane.toNat}, frame dropped"
          let c := { c with device := { c.device with txFree := c.device.txFree.drop } }
          (.returned (.ok size.toNat),
            c.trace 1 (s!"Write: Words={size.toNat}, Lane={lane.toNat}, Vc={vc.toNat}, Addr=" ++
              Text.hexWord buffer.addr.toNat))

/-- What is copied of a frame into room for `maxSize` words, and the flags it is reported
with. The reported length may exceed the buffer, and then only the buffer is copied. -/
def copyPlan (buffer : Buffer) (maxSize : Nat) : Nat × FrameFlags :=
  let held := min buffer.frame.length.toNat (buffer.size / wordSize)
  if maxSize < buffer.frame.length.toNat then
    (min held maxSize, { buffer.frame.flags with lengthErr := true })
  else (held, buffer.frame.flags)

/-- Receive the oldest frame. `sink` takes the copied bytes and may fail; the buffer goes back
to the card either way. -/
def receive {γ : Type} (c : Card β) (patience : Patience) (maxSize : Nat)
    (sink : Bytes → Except CardError γ) : Reply (RxFrame × γ) × Card β :=
  match c.waitFor patience c.device.rxReady with
  | (.asleep, c) => (.asleep, c)
  | (.returned (.error e), c) => (.returned (.error e), c)
  | (.returned (.ok ()), c) =>
    match c.device.rxReady.peek?.bind fun i => c.device.rxPool.buffers[i]? with
    | none => (.returned (.error .wouldBlock), c)
    | some buffer =>
      let frame := buffer.frame
      let (copied, flags) := copyPlan buffer maxSize
      let c :=
        if maxSize < frame.length.toNat then
          c.note .warn ("Read: passed size is too small for RX frame " ++
            s!"({maxSize} < {frame.length.toNat})")
        else c
      let c :=
        if frame.flags.isEmpty then c
        else
          c.note .warn (s!"Read: error in frame. Lane={frame.lane.toNat}, Vc={frame.vc.toNat}, " ++
            "Flags=" ++ frame.flags.text)
      let copy := buffer.payload c.host.buffers (copied * wordSize) >>= sink
      let c := c.giveFree frame.lane.toNat buffer.addr
      let c := { c with device := { c.device with rxReady := c.device.rxReady.drop } }
      match copy with
      | .error e =>
        (.returned (.error e), c.note .warn ("Read: failed to copy frame to caller: " ++ e.message))
      | .ok kept =>
        (.returned (.ok (⟨frame.lane, frame.vc, frame.length, copied, flags⟩, kept)),
          c.trace 1 (s!"Read: Words={copied}, Lane={frame.lane.toNat}, Vc={frame.vc.toNat}, " ++
            "Addr=" ++ Text.hexWord buffer.addr.toNat))

/-- Send a frame given as words. The number of words has to be a word itself. -/
def send (c : Card β) (patience : Patience) (lane vc : Word) (data : List Word) :
    Reply Nat × Card β :=
  if data.length < wordSpan then
    c.submit patience lane vc (BitVec.ofNat 32 data.length) fun _ => .ok (Bytes.ofWords data)
  else
    (.returned (.error (.oversize (data.length * wordSize) c.device.txPool.bufferSize)), c)

/-- Receive a frame into a buffer of words; what the frame does not reach stays as it was. -/
def recv (c : Card β) (patience : Patience) (buffer : List Word) :
    Reply (RxFrame × List Word) × Card β :=
  c.receive patience buffer.length fun bytes =>
    .ok (bytes.words ++ buffer.drop (bytes.size / wordSize))

/-- Carry out a transmit record: send the frame it points to, or perform its command, storing
a status where it points to. -/
def writeRecord (c : Card β) (patience : Patience) (record : Bytes) (memory : CallerMemory) :
    Reply Nat × Card β × CallerMemory :=
  match TxRequest.decode record with
  | .error e => (.returned (.error (.ofRecord e)), c.note .warn ("Write: " ++ e.message), memory)
  | .ok request =>
    match Command.ofCode? request.cmd.toNat with
    | none =>
      (.returned (.error (.unknownCommand request.cmd.toNat)),
        c.note .warn ("Write: unknown command " ++ Text.hexMarked request.cmd.toNat), memory)
    | some .normalWrite =>
      let (reply, c) := c.submit patience request.lane request.vc request.size fun bytes =>
        memory.read request.data.toNat bytes
      (reply, c, memory)
    | some command =>
      match c.control command request.data with
      | (.error e, c) => (.returned (.error e), c, memory)
      | (.ok .done, c) => (.returned (.ok 0), c, memory)
      | (.ok (.status status), c) =>
        match memory.write request.data.toNat status.toRecord with
        | .ok memory => (.returned (.ok 0), c, memory)
        | .error e =>
          (.returned (.error e), c.note .warn "Read Status: failed to copy to caller", memory)

/-- Carry out a receive record: store a frame where it points to and answer in the record.
Gives the number of words copied, and the record as it is then. -/
def readRecord (c : Card β) (patience : Patience) (record : Bytes) (memory : CallerMemory) :
    Reply Nat × Bytes × Card β × CallerMemory :=
  match RxRequest.decode record with
  | .error e =>
    (.returned (.error (.ofRecord e)), record, c.note .warn ("Read: " ++ e.message), memory)
  | .ok request =>
    match c.receive patience request.maxSize.toNat (memory.write request.data.toNat) with
    | (.asleep, c) => (.asleep, record, c, memory)
    | (.returned (.error e), c) => (.returned (.error e), record, c, memory)
    | (.returned (.ok (frame, memory)), c) =>
      match request.encodeReply ⟨frame.lane, frame.vc, frame.length, frame.flags⟩ with
      | .error e => (.returned (.error (.ofRecord e)), record, c, memory)
      | .ok reply =>
        if reply.size = record.size then (.returned (.ok frame.copied), reply, c, memory)
        else (.returned (.error (.recordSize reply.size record.size)), record, c, memory)

/-- What could be done now without waiting. -/
def poll (c : Card β) : PollFlags := ⟨!c.device.rxReady.isEmpty, !c.device.txFree.isEmpty⟩

/-- Wait until something of interest can be done, or the card is detached. With a time limit
the wait ends without anything after it. -/
def pollWait (c : Card β) (interest : PollFlags) (limited : Bool) : Reply PollFlags × Card β :=
  let ready := (c.poll.inter interest).any || c.device.detached
  let answer :=
    let flags := c.poll.inter interest
    if !flags.any && c.device.detached then Reply.returned (.error .noDevice)
    else .returned (.ok flags)
  match WaitQueue.look ready c.device.signal with
  | (.interrupted, signal) =>
    (.returned (.error .restart), { c with device := { c.device with signal := signal } })
  | (.ready, _) => (answer, c)
  | _ => if limited then (answer, c) else (.asleep, c)

/-- Set or remove the listener that is told of each frame. -/
def setListener (c : Card β) (listener : Option Nat) : Card β :=
  let state := if listener.isSome then "on" else "off"
  let c := c.trace 0 ("Async: notify " ++ state)
  { c with device := { c.device with listener := listener } }

end Card

end LaneCard
