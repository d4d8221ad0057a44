import LaneCard.Bench.Step

/-!
# Playing steps

How each step changes the bench and what it answers.
-/

namespace LaneCard.Bench

/-- Refuse a step; nothing changes. -/
def refuse (b : Bench) (r : Refusal) : Outcome × Bench := (.refused r, b)

/-- Answer a step, or refuse it if what it names is missing. -/
def orRefuse (b : Bench) (r : Refusal) (answer : Option (Outcome × Bench)) : Outcome × Bench :=
  answer.getD (b.refuse r)

/-- Access a register of a host. -/
def access (h : Host Board) (offset : Nat) : Access → Outcome × Host Board
  | .read =>
    let (value, h) := h.read offset
    (.number value.toNat, h)
  | .offset =>
    let (value, h) := h.read offset
    (.numbers [offset, value.toNat], h)
  | .write value => (.nothing, h.write offset value)
  | .set bits => (.nothing, h.setBits offset bits)
  | .clear bits => (.nothing, h.clearBits offset bits)
  | .flip bits => (.nothing, h.modify offset (· ^^^ bits))

/-- Change a simulated card. -/
def changeSim (b : Bench) (sim : Nat) (work : Host Board → Host Board) : Bench :=
  match b.onSim sim fun h => ((), work h) with
  | some ((), b) => b
  | none => b

/-- Change a simulated card so many times, interrupts being handled after each. -/
def changeSimTimes (b : Bench) (sim times : Nat) (work : Host Board → Host Board) :
    Outcome × Bench :=
  match b.sims[sim]? with
  | some _ => (.nothing, b.repeated (fun b => b.changeSim sim work) times)
  | none => b.refuse .noSim

/-- Look at a simulated card. -/
def viewSim (b : Bench) (sim : Nat) (view : Host Board → Outcome) : Outcome × Bench :=
  match b.sims[sim]? with
  | some s => (view s.host, b)
  | none => b.refuse .noSim

/-- The attachment of a handle. -/
def cardOf (b : Bench) (card : Nat) : Option Nat := (b.cards[card]?).join

/-- A session that is open. -/
def sessionOf (b : Bench) (session : Nat) : Option Session :=
  (b.sessions[session]?).filter Session.isOpen

/-- Work on the card of a handle. -/
def withCard (b : Bench) (card : Nat) (work : Card Board → Outcome × Card Board) :
    Outcome × Bench :=
  b.orRefuse .noCard do
    let attachment ← b.cardOf card
    b.onCard attachment work

/-- What is shown of an attachment. -/
def info (a : Attachment) : CardInfo :=
  { name := a.device.name
    slot := a.slot
    address := a.device.address.fullText
    isOpen := a.device.isOpen
    detached := a.device.detached
    debug := a.device.debug }

/-- Show the card of a registry slot, and keep a handle of it if asked to. -/
def showCard (b : Bench) (attachment : Option Nat) (keep : Bool) : Outcome × Bench :=
  match attachment.bind fun i => (b.attachments[i]?).map (i, ·) with
  | none => (.nothing, b)
  | some (i, a) =>
    let shown := Outcome.slotCard b.cards.size a.device.name a.slot
    if keep then (shown, { b.addHandle i with cards := b.cards.push (some i) }) else (shown, b)

/-- Attach a plain register file, take its status and diagnostics, and give it up again. -/
def flatStatus (b : Bench) (regs : List (Nat × Word)) (config : Config) : Outcome × Bench :=
  let host : Host RegisterFile :=
    { bus := RegisterFile.ofList regs
      memory := Allocator.standard 0
      line := IrqLine.new (irqNumber .standard)
      apart := none
      journal := #[] }
  match Device.attach host "flat" .standard Board.windowBase Offset.regionSize config with
  | (.error e, h) =>
    (.ofSetback e, { b with journal := b.journal ++ h.journal ++ h.memory.teardown.toArray })
  | (.ok device, h) =>
    let (status, c) := Card.snapshot ⟨h, device⟩
    let diagnostics := c.diagnostics
    let h := c.detach.release
    (.flat status diagnostics h.bus.entries,
      { b with journal := b.journal ++ h.journal ++ h.memory.teardown.toArray })

/-- Whether a call would have to wait now. -/
def wouldWait (d : Device) (nonblock : Bool) : Call → Bool
  | .send .. | .write _ => !nonblock && d.txFree.isEmpty
  | .recv _ | .read _ => !nonblock && d.rxReady.isEmpty
  | .pollWait interest limited =>
    !limited && !((PollFlags.mk (!d.rxReady.isEmpty) (!d.txFree.isEmpty)).inter interest).any

/-- Whether a call sends. -/
def isSending : Call → Bool
  | .send .. | .write _ => true
  | _ => false

/-- More transmit buffers are free than there are, and completions come back at once: which
buffer comes next is then a matter of timing. -/
def timingMatters (b : Bench) (a : Attachment) : Bool :=
  decide (a.device.txPool.size < a.device.txFree.length) &&
    ((b.sims[a.sim]?).any fun s => !s.host.bus.holdTx && s.host.bus.irqEnabled)

/-- Make a call on a card. Gives the memory as it is then. -/
def makeCall (c : Card Board) (memory : CallerMemory) (patience : Patience) :
    Call → (Outcome × CallerMemory) × Card Board
  | .send lane vc data =>
    let (reply, c) := c.send patience lane vc data
    ((.ofReply .number reply, memory), c)
  | .recv buffer =>
    let (reply, c) := c.recv patience buffer
    ((.ofReply (fun (f, words) => .frame f words) reply, memory), c)
  | .write record =>
    let (reply, c, memory) := c.writeRecord patience record memory
    ((.ofReply .number reply, memory), c)
  | .read record =>
    let (reply, record, c, memory) := c.readRecord patience record memory
    match reply with
    | .returned result => ((.record result record, memory), c)
    | .asleep => ((.asleep, memory), c)
  | .pollWait interest limited =>
    let (reply, c) := c.pollWait interest limited
    ((.ofReply (fun flags => .number flags.bits) reply, memory), c)

/-- Make a call of a session, or go on with one that has slept. -/
def call (b : Bench) (s : Session) (patience : Patience) (c : Call) : Outcome × Bench :=
  match b.onCard s.attachment fun card => makeCall card b.memory patience c with
  | some ((outcome, memory), b) => (outcome, { b with memory := memory })
  | none => (.asleep, b)

/-- Let something happen to the card of an attachment. The caller who waits writes no line of
it. -/
def happen (b : Bench) (a : Nat) (sim : Nat) (m : Meanwhile) : Bench :=
  let changed :=
    match m with
    | .interrupt => b.changeCard a Card.interruptSession
    | .injectRx desc => b.changeSim sim fun h => Board.injectRx h desc
    | .injectTx word => b.changeSim sim fun h => Board.injectTx h word
    | .release => b.changeSim sim fun h => Board.hold h false
    | .detach card =>
      match b.cardOf card with
      | some attachment => b.changeCard attachment Card.detach
      | none => b
  { changed.settle with journal := b.journal }

/-- Make a call that would have to wait while something happens. -/
def callDuring (b : Bench) (s : Session) (sim : Nat) (c : Call) (m : Meanwhile) :
    Outcome × Bench :=
  match b.call s (.ofNonblock s.nonblock) c with
  | (.asleep, b) => (b.happen s.attachment sim m).call s .woken c
  | (outcome, b) => (outcome, b.happen s.attachment sim m)

/-- Make a call of a session: refused if its answer is a matter of timing, cancelled if it would
have to wait and nothing happens meanwhile. -/
def guardedCall (b : Bench) (s : Session) (c : Call) (meanwhile : Option Meanwhile) :
    Outcome × Bench :=
  match b.attachments[s.attachment]? with
  | none => b.refuse .noSession
  | some a =>
    if isSending c && b.timingMatters a then b.refuse .threadTiming
    else if wouldWait a.device s.nonblock c then
      match meanwhile with
      | some m => b.callDuring s a.sim c m
      | none =>
        (b.changeCard s.attachment Card.interruptSession).call s (.ofNonblock s.nonblock) c
    else b.call s (.ofNonblock s.nonblock) c

/-- Carry out a step of a session. -/
def sessionStep (b : Bench) (id : Nat) (s : Session) : SessionStep → Outcome × Bench
  | .close => (.nothing, b.closeSession id)
  | .flags => (.number s.nonblock.toNat, b)
  | .setFlags nonblock =>
    (.number nonblock.toNat,
      { b with sessions := b.sessions.modify id fun s => { s with nonblock := nonblock } })
  | .call c meanwhile => b.guardedCall s c meanwhile
  | .control command arg =>
    b.orRefuse .noSession <| b.onCard s.attachment fun c =>
      let (result, c) := c.control command arg
      (.ofExcept (fun r => match r with
        | .done => Outcome.done
        | .status status => .status status) result, c)
  | .poll => b.orRefuse .noSession <| b.onCard s.attachment fun c => (.number c.poll.bits, c)
  | .interrupt => (.nothing, b.changeCard s.attachment Card.interruptSession)
  | .interrupter =>
    (.interrupter b.interrupters.size,
      { b with interrupters := b.interrupters.push s.attachment })
  | .notify on =>
    (.nothing, b.changeCard s.attachment fun c => c.setListener (if on then some id else none))
  | .map length readable writable =>
    b.orRefuse .noSession do
      let a ← b.attachments[s.attachment]?
      let (result, b) ← b.onCard s.attachment fun c => c.mapRegisters length readable writable
      match result with
      | .error e => some (.failed e, b)
      | .ok w => some (.window b.windows.size, { b with windows := b.windows.push ⟨a.sim, w⟩ })
  | .status =>
    b.orRefuse .noSession <| b.onCard s.attachment fun c =>
      let (status, c) := c.snapshot
      (.status status, c)
  | .diagnostics =>
    b.orRefuse .noSession <| b.onCard s.attachment fun c => (.diagnostics c.diagnostics, c)

/-- Work with the registry, if there is one. -/
def withRegistry (b : Bench) (work : Registry → Outcome × Bench) : Outcome × Bench :=
  match b.registry with
  | some r => work r
  | none => b.refuse .noRegistry

/-- Open an attached card. -/
def openAttachment (b : Bench) (attachment : Nat) (nonblock : Bool) : Option (Outcome × Bench) :=
  (b.openSession attachment nonblock).map fun (result, b) => (.ofExcept .session result, b)

/-- Carry out a step, before interrupts are handled. -/
def act (b : Bench) : Step → Outcome × Bench
  | .addSim address => (.nothing, b.addSim address)
  | .peek sim offset => b.viewSim sim fun h => .number (h.bus.regs.get offset).toNat
  | .poke sim offset value =>
    if offset = Offset.irq then b.refuse .interruptPoke
    else b.changeSimTimes sim 1 fun h => { h with bus := h.bus.poke offset value }
  | .bus sim offset times a =>
    match a with
    | .read | .offset => b.orRefuse .noSim <| b.onSim sim fun h => access h offset a
    | _ => b.changeSimTimes sim times fun h => (access h offset a).2
  | .register sim name index a =>
    match b.sims[sim]? with
    | none => b.refuse .noSim
    | some _ =>
      match RegisterBlock.find? name with
      | none => b.refuse .noRegister
      | some block =>
        match block.address? index with
        | none => (.outOfRange, b)
        | some offset => b.orRefuse .noSim <| b.onSim sim fun h => access h offset a
  | .freeFifo sim lane =>
    b.viewSim sim fun h => if lane < laneCount then .words (h.bus.freeList lane) else .outOfRange
  | .takeFree sim lane =>
    b.orRefuse .noSim <| b.onSim sim fun h =>
      if lane < laneCount then
        match h.bus.takeFrom? lane with
        | some (addr, board) => (.number addr.toNat, { h with bus := board })
        | none => (.nothing, h)
      else (.outOfRange, h)
  | .writeCount sim => b.viewSim sim fun h => .number h.bus.writes.size
  | .hold sim on => b.changeSimTimes sim 1 fun h => Board.hold h on
  | .injectRx sim times desc => b.changeSimTimes sim times fun h => Board.injectRx h desc
  | .injectTx sim times word => b.changeSimTimes sim times fun h => Board.injectTx h word
  | .raiseIrq sim => b.changeSimTimes sim 1 fun h => { h with line := h.line.raise }
  | .dmaRead sim addr length =>
    b.viewSim sim fun h =>
      match h.memory.busRead addr length with
      | some bytes => .bytes bytes
      | none => .nothing
  | .dmaWrite sim addr data =>
    b.orRefuse .noSim <| b.onSim sim fun h =>
      match h.memory.busWrite addr data with
      | some memory => (.truth true, { h with memory := memory })
      | none => (.truth false, h)
  | .addAllocator base limit =>
    (.nothing,
      { b with allocators := b.allocators.push (Allocator.new b.allocators.size base limit) })
  | .simStats sim => b.viewSim sim fun h => .ofAllocator h.memory
  | .allocatorStats k =>
    match b.allocators[k]? with
    | some a => (.ofAllocator a, b)
    | none => b.refuse .noAllocator
  | .memInsert addr data => (.nothing, { b with memory := b.memory.insert addr data })
  | .memRead addr length =>
    if canLayOut length 1 then (.bytes (b.memory.readBack addr length), b) else (.cutShort, b)
  | .memStatus addr length =>
    if !canLayOut length 1 then (.cutShort, b)
    else
      match CardStatus.ofRecord (b.memory.readBack addr length) with
      | .ok s => (.status s, b)
      | .error e => (.recordFailed e, b)
  | .attach sim config name slot r =>
    if b.isLive sim then b.refuse .alreadyAttached
    else
      b.orRefuse .noSim do
        let (result, b) ← b.attach sim name slot config r.baseHdwr r.baseLen r.apart
        match result with
        | .error e => some (.ofSetback e, b)
        | .ok i => some (.card b.cards.size, { b with cards := b.cards.push (some i) })
  | .dropCard card =>
    match b.cardOf card with
    | some i => (.nothing, { b with cards := b.cards.setIfInBounds card none }.dropHandle i)
    | none => b.refuse .noCard
  | .cardInfo card =>
    match (b.cardOf card).bind fun i => b.attachments[i]? with
    | some a => (.info (info a), b)
    | none => b.refuse .noCard
  | .cardDetach card => b.withCard card fun c => (.nothing, c.detach)
  | .cardDiagnostics card => b.withCard card fun c => (.diagnostics c.diagnostics, c)
  | .cardStatus card =>
    b.withCard card fun c =>
      let (status, c) := c.snapshot
      (.status status, c)
  | .openCard card nonblock =>
    b.orRefuse .noCard do
      let i ← b.cardOf card
      b.openAttachment i nonblock
  | .registry config =>
    match Registry.new config with
    | .error e => (.ofSetback e, b)
    | .ok r => (.nothing, { b.dropRegistry with registry := some r })
  | .dropRegistry => (.nothing, b.dropRegistry)
  | .probe sim vendor device r =>
    b.withRegistry fun registry =>
      match b.sims[sim]? with
      | none => b.refuse .noSim
      | some s =>
        if b.isLive sim && (b.findCard? registry s.address).isNone then b.refuse .alreadyAttached
        else
          match b.probe registry sim s.address vendor device r.baseHdwr r.baseLen r.apart with
          | (.error e, b) => (.ofSetback e, b)
          | (.ok slot, b) => (.slot slot, b)
  | .slotCard slot keep => b.withRegistry fun r => b.showCard (r.get? slot) keep
  | .findCard address keep => b.withRegistry fun r => b.showCard (b.findCard? r address) keep
  | .openSlot slot nonblock =>
    b.withRegistry fun r =>
      match (r.get? slot).bind fun i => b.openAttachment i nonblock with
      | some answer => answer
      | none => (.failed .noDevice, b)
  | .detachSlot slot =>
    b.withRegistry fun r =>
      let (result, b) := b.detachSlot r slot
      (.ofExcept (fun _ => .nothing) result, b)
  | .detachAll => b.withRegistry fun r => (.nothing, b.detachAll r)
  | .slotCount => b.withRegistry fun r => (.slotCount r.cards.length, b)
  | .windowInfo w =>
    match b.windows[w]? with
    | some w => (.windowInfo w.window, b)
    | none => b.refuse .noWindow
  | .windowRead w offset =>
    b.orRefuse .noWindow do
      let w ← b.windows[w]?
      b.onSim w.sim fun h =>
        let (result, h) := w.window.read h offset
        (.ofWindow (fun value => .number value.toNat) result, h)
  | .windowWrite w offset value =>
    b.orRefuse .noWindow do
      let w ← b.windows[w]?
      b.onSim w.sim fun h =>
        let (result, h) := w.window.write h offset value
        (.ofWindow (fun _ => .nothing) result, h)
  | .fire interrupter =>
    match b.interrupters[interrupter]? with
    | some i => (.nothing, b.changeCard i Card.interruptSession)
    | none => b.refuse .noInterrupter
  | .flatStatus regs config => b.flatStatus regs config
  | .notified session =>
    match b.sessions[session]? with
    | some s => (.notified s.notices, b)
    | none => b.refuse .noSession
  | .session id step =>
    match b.sessionOf id with
    | some s => b.sessionStep id s step
    | none => b.refuse .noSession

/-- Play a step on a bench whose journals are empty. -/
def play (b : Bench) (s : Step) : Outcome × Bench :=
  let (outcome, b) := { b with journal := #[], irqJournal := #[] }.act s
  (outcome, b.settle)

/-- How many register writes each simulated card has had. -/
def writeMarks (b : Bench) : List Nat := b.sims.toList.map fun s => s.host.bus.writes.size

/-- The register writes since the given marks, card by card. -/
def writesSince (b : Bench) (marks : List Nat) : List (Nat × Nat × Word) :=
  (List.range b.sims.size).flatMap fun i =>
    match b.sims[i]? with
    | some s =>
      let writes := s.host.bus.writes
      (writes.extract (marks.getD i 0) writes.size).toList.map fun w => (i, w.1, w.2)
    | none => []

end LaneCard.Bench
