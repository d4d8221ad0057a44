import LaneCard.Proofs.HandlerSteps
import LaneCard.Proofs.Reception
import LaneCard.Proofs.Refusal

/-!
# Work within a session, or without one

A session is opened and closed by calls of its own. All other work on a card leaves it the same card with
the same session, or without one as before: calls, commands, completions of any kind and detaching. While
there is no session the completion handler gives frames back at once, so that a card that had nothing to
read still has nothing to read.
-/

namespace LaneCard

namespace Device

/-- After some work it is the same card, with the same session and listener. Without a session nothing has
become readable, and what was detached is not attached again. -/
structure SameSession (d d' : Device) : Prop where
  name : d'.name = d.name
  address : d'.address = d.address
  isOpen : d'.isOpen = d.isOpen
  listener : d'.listener = d.listener
  detached : d.detached = true → d'.detached = true
  unread : d.isOpen = false → d.rxReady.toList = [] → d'.rxReady.toList = []

namespace SameSession

variable {d d' d'' : Device}

/-- Without work the session is the same. -/
theorem refl (d : Device) : d.SameSession d := ⟨rfl, rfl, rfl, rfl, id, fun _ => id⟩

/-- The session is the same throughout if it is in each part. -/
theorem trans (h : d.SameSession d') (h' : d'.SameSession d'') : d.SameSession d'' where
  name := h'.name.trans h.name
  address := h'.address.trans h.address
  isOpen := h'.isOpen.trans h.isOpen
  listener := h'.listener.trans h.listener
  detached := h'.detached ∘ h.detached
  unread hclosed hempty := h'.unread (h.isOpen.trans hclosed) (h.unread hclosed hempty)

end SameSession

end Device

namespace Card

variable {c c' : Card Board}

/-- Waiting leaves a session as it is. -/
theorem Unmoved.sameSession (h : c.Unmoved c') : c.device.SameSession c'.device := by
  rw [h.device]
  exact { Device.SameSession.refl c.device with }

/-- A line for debugging is written on the host. -/
@[simp] theorem device_trace (c : Card Board) (threshold : Nat) (text : String) :
    (c.trace threshold text).device = c.device := by
  unfold trace
  split <;> rfl

/-! ## Calls -/

/-- Sending a frame leaves the session as it is. -/
theorem sameSession_submit (c : Card Board) (patience : Patience) (lane vc size : Word)
    (source : Nat → Except CardError Bytes) :
    c.device.SameSession (c.submit patience lane vc size source).2.device := by
  have hends := c.submission patience lane vc size source
  generalize c.submit patience lane vc size source = result at hends
  cases hends with
  | oversized _ _ hsame => exact hsame.sameSession
  | asleep _ _ _ hsame => exact hsame.sameSession
  | refused _ _ _ _ hsame => exact hsame.sameSession
  | unnamed _ _ _ hsame => exact hsame.sameSession
  | unfilled _ _ _ _ _ _ _ _ hsame => exact hsame.sameSession
  | accepted i b data memory w c' _ _ _ _ _ hw hsame =>
    have hlaunched : w.device.SameSession (w.launched i b memory lane vc size).device :=
      { Device.SameSession.refl w.device with }
    exact (hw.sameSession.trans hlaunched).trans hsame.sameSession

/-- So does receiving one. -/
theorem sameSession_receive {γ : Type} (c : Card Board) (patience : Patience) (maxSize : Nat)
    (sink : Bytes → Except CardError γ) : c.device.SameSession (c.receive patience maxSize sink).2.device := by
  have hrelieved {w c' : Card Board} (hw : c.Unmoved w) (b : Buffer) (hc : (w.relieved b).Unmoved c') :
      c.device.SameSession c'.device := by
    have htaken : w.device.SameSession (w.relieved b).device :=
      { Device.SameSession.refl w.device with
        unread := fun _ hempty => by
          change w.device.rxReady.drop.toList = []
          rw [Ring.toList_drop, hempty, List.tail_nil] }
    exact (hw.sameSession.trans htaken).trans hc.sameSession
  have hends := c.reception patience maxSize sink
  generalize c.receive patience maxSize sink = result at hends
  cases hends with
  | asleep _ _ hsame => exact hsame.sameSession
  | refused _ _ _ hsame => exact hsame.sameSession
  | unnamed _ _ _ hsame => exact hsame.sameSession
  | spoiled _ _ b _ _ _ _ _ hw hc => exact hrelieved hw b hc
  | received _ _ b _ _ _ _ _ hw hc => exact hrelieved hw b hc

/-- Commands that were performed change at most the level of detail of the journal. -/
theorem device_perform {command : Command} {arg : Word} (hdone : c.perform command arg = .ok c') :
    c'.device = { c.device with debug := c'.device.debug } := by
  have hindexed {offset : Nat} {index : UInt8} (hdone : c.writeIndexed command offset index arg = .ok c') :
      c'.device = { c.device with debug := c'.device.debug } := by
    rw [(of_writeIndexed_ok hdone).2]
    rfl
  have hdump : c.dumpDiagnostics.device = c.device :=
    dumpDiagnostics_induction (fun w => w.device = c.device) (fun _ _ _ hw => hw) c rfl
  cases command <;> simp only [perform, Except.ok.injEq, reduceCtorEq] at hdone
  case evrRunCode | evrAcceptCode | evrRunDelay | evrAcceptDelay => exact hindexed hdone
  case dumpDebug => rw [← hdone, hdump]
  all_goals
    subst hdone
    rfl

/-- Control leaves the session as it is, whether the command is carried out or not. -/
theorem sameSession_control (c : Card Board) (command : Command) (arg : Pointer) :
    c.device.SameSession (c.control command arg).2.device := by
  unfold control
  split
  · change c.device.SameSession (c.trace 0 "ReadStatus").device
    rw [device_trace]
    exact .refl _
  · dsimp only
    split
    · exact .refl _
    · rename_i hperform
      rw [device_trace, device_perform hperform]
      exact { Device.SameSession.refl c.device with }

/-- So does waiting for a frame, or for room. -/
theorem sameSession_pollWait (c : Card Board) (interest : PollFlags) (limited : Bool) :
    c.device.SameSession (c.pollWait interest limited).2.device := by
  unfold pollWait
  dsimp only
  split
  · exact { Device.SameSession.refl c.device with }
  · exact .refl _
  · split <;> exact .refl _

/-- So does a transmit record, whatever it asks for. -/
theorem sameSession_writeRecord (c : Card Board) (patience : Patience) (record : Bytes) (memory : CallerMemory) :
    c.device.SameSession (c.writeRecord patience record memory).2.1.device := by
  rcases hresult : c.writeRecord patience record memory with ⟨reply, after, memory'⟩
  cases writing hresult with
  | unread => exact .refl _
  | unknown => exact .refl _
  | frame request => exact c.sameSession_submit patience request.lane request.vc request.size _
  | command request command => exact c.sameSession_control command request.data
  | unstored request command => exact c.sameSession_control command request.data

/-- So does a receive record. -/
theorem sameSession_readRecord (c : Card Board) (patience : Patience) (record : Bytes) (memory : CallerMemory) :
    c.device.SameSession (c.readRecord patience record memory).2.2.1.device := by
  cases hrecord : RxRequest.decode record with
  | error e =>
    rw [readRecord, hrecord]
    exact .refl _
  | ok request =>
    obtain ⟨answer, -, hread⟩ := c.readRecord_eq_answered patience hrecord memory
    rw [hread, card_answered]
    exact c.sameSession_receive patience _ _

/-- Every call leaves the session as it is. -/
theorem sameSession_makeCall (c : Card Board) (memory : CallerMemory) (patience : Patience) (call : Call) :
    c.device.SameSession (Bench.makeCall c memory patience call).2.device := by
  cases call with
  | send lane vc data =>
    change c.device.SameSession (c.send patience lane vc data).2.device
    unfold send
    split
    · exact c.sameSession_submit patience lane vc _ _
    · exact .refl _
  | recv buffer => exact c.sameSession_receive patience buffer.length _
  | write record => exact c.sameSession_writeRecord patience record memory
  | read record =>
    have hread := c.sameSession_readRecord patience record memory
    simp only [Bench.makeCall]
    generalize c.readRecord patience record memory = result at hread
    obtain ⟨reply, record', c', memory'⟩ := result
    cases reply <;> exact hread
  | pollWait interest limited => exact c.sameSession_pollWait interest limited

/-! ## Completions -/

/-- Filing a transmit word leaves the session as it is. -/
theorem sameSession_finishTx (c : Card Board) (addr : Word) :
    c.device.SameSession (c.finishTx addr).device := by
  unfold finishTx
  split
  · exact { Device.SameSession.refl c.device with }
  · rw [device_trace]
    split <;> exact { Device.SameSession.refl c.device with }

/-- A received frame becomes readable within a session only. -/
theorem sameSession_finishRx (c : Card Board) (desc : RxDescriptor) :
    c.device.SameSession (c.finishRx desc).device := by
  unfold finishRx
  split
  · exact { Device.SameSession.refl c.device with }
  · rename_i i _
    split
    · rename_i hopen
      have hqueued : (c.queueRx i desc).device =
          { c.device with
            rxPool := c.device.rxPool.setFrame i desc.toFrameMeta
            rxReady := (c.device.rxReady.push i).2
            notices := c.device.notices ++ c.device.listener.toList } := by
        unfold queueRx
        simp only [device_trace]
        split <;> rfl
      rw [hqueued]
      exact { Device.SameSession.refl c.device with
        unread := fun hclosed => absurd hopen (by rw [hclosed]; exact Bool.false_ne_true) }
    · exact { Device.SameSession.refl c.device with }

/-- Handling interrupts leaves the session as it is. -/
theorem keptHandling_sameSession : KeptHandling fun c c' => c.device.SameSession c'.device where
  refl c := .refl c.device
  trans h h' := h.trans h'
  read c _ := .refl c.device
  finishTx := sameSession_finishTx
  finishRx := sameSession_finishRx
  trace c text := (c.device_trace 0 text) ▸ .refl c.device
  writeIrq c _ := .refl c.device
  takeLine {c} _ _ _ := .refl c.device

/-- So does handling interrupts until none is pending. -/
theorem sameSession_settle (c : Card Board) : c.device.SameSession c.settle.device :=
  keptHandling_sameSession.settleFor _ c

/-! ## What else is done to a card -/

/-- Detaching leaves a session that is open to its holder. -/
theorem sameSession_detach (c : Card Board) : c.device.SameSession c.detach.device := by
  unfold detach
  split
  · exact .refl _
  · exact { Device.SameSession.refl c.device with detached := fun _ => rfl }

/-- Mapping the registers changes nothing of the driver's side. -/
theorem device_mapRegisters (c : Card Board) (length : Nat) (readable writable : Bool) :
    (c.mapRegisters length readable writable).2.device = c.device := by
  unfold mapRegisters
  split
  · rfl
  · split <;> rfl

/-- A session says who is told of frames. -/
theorem device_setListener (c : Card Board) (listener : Option Nat) :
    (c.setListener listener).device = { c.device with listener := listener } := by
  unfold setListener
  dsimp only
  rw [device_trace]

/-! ## The start and the end of a session -/

/-- A card can be opened when it was not detached and no session of it is open. Nothing but the signal of an
earlier cancellation is dropped. -/
theorem openSession_cases (c : Card Board) (nonblock : Bool) :
    (c.device.detached = true ∧ c.openSession nonblock = (.error .noDevice, c)) ∨
      (c.device.detached = false ∧ c.device.isOpen = true ∧
        ∃ journal, c.openSession nonblock = (.error .busy, { c with host := { c.host with journal := journal } })) ∨
      (c.device.detached = false ∧ c.device.isOpen = false ∧
        ∃ journal, c.openSession nonblock =
          (.ok (), ⟨{ c.host with journal := journal }, { c.device with isOpen := true, signal := false }⟩)) := by
  unfold openSession
  cases hdetached : c.device.detached with
  | true => exact .inl ⟨rfl, rfl⟩
  | false =>
    cases hopen : c.device.isOpen with
    | true => exact .inr (.inl ⟨rfl, rfl, _, rfl⟩)
    | false =>
      refine .inr (.inr ⟨rfl, rfl, ?_⟩)
      simp only [Bool.false_eq_true, if_false, trace]
      split
      · exact ⟨_, rfl⟩
      · exact ⟨_, rfl⟩

/-- Giving unread frames back takes them off the ring and changes nothing else of the driver's side. -/
theorem device_returnUnread (n : Nat) (c : Card Board) :
    (returnUnread n c).2.device = { c.device with rxReady := (returnUnread n c).2.device.rxReady } := by
  induction n generalizing c with
  | zero => rfl
  | succ n ih =>
    unfold returnUnread
    split
    · rfl
    · rename_i index ring _
      dsimp only
      rw [ih]
      split <;> rfl

/-- A card that was closed has no session, nothing to read and nobody to tell of frames. -/
theorem device_closeSession (c : Card Board) :
    c.closeSession.device.rxReady.toList = [] ∧
      c.closeSession.device =
        { c.device with
          rxReady := c.closeSession.device.rxReady
          isOpen := false
          listener := none
          signal := false
          droppedClosed := c.closeSession.device.droppedClosed } := by
  obtain ⟨ring, hempty, -, -, hholdings⟩ := c.holdings_closeSession
  have hring : c.closeSession.device.rxReady = ring := congrArg Holdings.rxReady hholdings
  refine ⟨hring ▸ hempty, ?_⟩
  have hreturned := device_returnUnread c.device.rxReady.length { c with device := { c.device with isOpen := false } }
  unfold closeSession note
  dsimp only
  rw [hreturned]

end Card

end LaneCard
