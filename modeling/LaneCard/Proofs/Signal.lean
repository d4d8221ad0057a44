import LaneCard.Bench.Play

/-!
# Work that does not look at the cancellation signal

Only the waits of a session look at the cancellation signal of a card. Whatever else is done to a card
gives the same, and leaves the same card but for the signal, whether the signal is raised or not:
`Card.Blind`. Opening and closing a session drop the signal, so that afterwards the card is the same in
everything.
-/

namespace LaneCard

/-- The driver's side with the cancellation signal as given. -/
def Device.signalled (d : Device) (raised : Bool) : Device := { d with signal := raised }

namespace Card

/-- A card with the cancellation signal as given. -/
def signalled {β : Type} (c : Card β) (raised : Bool) : Card β := { c with device := c.device.signalled raised }

variable (c : Card Board) (raised : Bool)

/-- The signal of one of two cards. -/
theorem ite_signalled (p : Prop) [Decidable p] (c c' : Card Board) :
    (if p then c.signalled raised else c'.signalled raised) = (if p then c else c').signalled raised := by
  split <;> rfl

/-- The signal after work of one of two kinds. -/
theorem ite_signalled_pair {α : Type} (p : Prop) [Decidable p] (x y : α × Card Board) :
    (if p then (x.1, x.2.signalled raised) else (y.1, y.2.signalled raised)) =
      ((if p then x else y).1, (if p then x else y).2.signalled raised) := by
  split <;> rfl

/-- A line for debugging does not show the signal. -/
theorem trace_signalled (threshold : Nat) (text : String) :
    (c.signalled raised).trace threshold text = (c.trace threshold text).signalled raised :=
  ite_signalled raised _ (c.note .debug text) c

/-! ## The completion handler -/

/-- Filing a transmit word leaves the signal alone. -/
theorem finishTx_signalled (addr : Word) :
    (c.signalled raised).finishTx addr = (c.finishTx addr).signalled raised := by
  have hfind : (c.signalled raised).device.txPool.find? addr = c.device.txPool.find? addr := rfl
  unfold finishTx
  rw [hfind]
  cases c.device.txPool.find? addr with
  | none => rfl
  | some i =>
    dsimp only
    rw [← trace_signalled, ← ite_signalled]
    rfl

/-- So does emptying the transmit FIFO. -/
theorem takeTx_signalled (n : Nat) : takeTx n (c.signalled raised) = (takeTx n c).signalled raised := by
  induction n generalizing c with
  | zero => rfl
  | succ n ih =>
    have hread : (c.signalled raised).read Offset.txRead =
        ((c.read Offset.txRead).1, (c.read Offset.txRead).2.signalled raised) := rfl
    simp only [takeTx, hread]
    cases TxReturn.decode? (c.read Offset.txRead).1 with
    | none => rfl
    | some addr =>
      dsimp only
      rw [finishTx_signalled, ih]

/-- So does reading back all returned transmit buffers. -/
theorem drainTx_signalled : (c.signalled raised).drainTx = c.drainTx.signalled raised := by
  unfold drainTx
  dsimp only
  rw [← ite_signalled, ← takeTx_signalled]
  rfl

/-- Making a received frame readable leaves the signal alone. -/
theorem queueRx_signalled (i : Nat) (desc : RxDescriptor) :
    (c.signalled raised).queueRx i desc = (c.queueRx i desc).signalled raised := by
  have htold {w w' : Card Board} (h : w' = w.signalled raised) :
      { w' with device := { w'.device with notices := w'.device.notices ++ w'.device.listener.toList } } =
        signalled
          { w with device := { w.device with notices := w.device.notices ++ w.device.listener.toList } } raised := by
    rw [h]
    rfl
  unfold queueRx
  dsimp only
  apply htold
  rw [← trace_signalled, ← ite_signalled]
  rfl

/-- So does filing it. -/
theorem finishRx_signalled (desc : RxDescriptor) :
    (c.signalled raised).finishRx desc = (c.finishRx desc).signalled raised := by
  have hfind : (c.signalled raised).device.rxPool.find? desc.addr = c.device.rxPool.find? desc.addr := rfl
  unfold finishRx
  rw [hfind]
  cases c.device.rxPool.find? desc.addr with
  | none => rfl
  | some i =>
    dsimp only
    rw [← ite_signalled, ← queueRx_signalled]
    rfl

/-- So does emptying the FIFO of received frames. -/
theorem takeRx_signalled (n : Nat) : takeRx n (c.signalled raised) = (takeRx n c).signalled raised := by
  induction n generalizing c with
  | zero => rfl
  | succ n ih =>
    have hfirst : (c.signalled raised).read Offset.rxRead =
        ((c.read Offset.rxRead).1, (c.read Offset.rxRead).2.signalled raised) := rfl
    have hsecond : ((c.read Offset.rxRead).2.signalled raised).read (Offset.rxRead + 4) =
        (((c.read Offset.rxRead).2.read (Offset.rxRead + 4)).1,
          ((c.read Offset.rxRead).2.read (Offset.rxRead + 4)).2.signalled raised) := rfl
    simp only [takeRx, hfirst, hsecond]
    cases RxDescriptor.decode? (c.read Offset.rxRead).1 ((c.read Offset.rxRead).2.read (Offset.rxRead + 4)).1 with
    | none => rfl
    | some desc =>
      dsimp only
      rw [finishRx_signalled, ih]

/-- So does filing all received frames. -/
theorem drainRx_signalled : (c.signalled raised).drainRx = c.drainRx.signalled raised := by
  unfold drainRx
  dsimp only
  rw [← ite_signalled, ← takeRx_signalled]
  rfl

/-- The completion handler leaves the signal alone. -/
theorem handleInterrupt_signalled :
    (c.signalled raised).handleInterrupt.2 = c.handleInterrupt.2.signalled raised := by
  have hread : (c.signalled raised).read Offset.irq =
      ((c.read Offset.irq).1, (c.read Offset.irq).2.signalled raised) := rfl
  have hwrite (w : Card Board) (value : Word) :
      (w.signalled raised).write Offset.irq value = (w.write Offset.irq value).signalled raised := rfl
  unfold handleInterrupt
  rw [hread]
  dsimp only
  split
  · rw [trace_signalled, hwrite, drainTx_signalled, drainRx_signalled]
    rfl
  · rfl

/-- So does calling it as often as an interrupt is pending. -/
theorem settleFor_signalled (n : Nat) : settleFor n (c.signalled raised) = (settleFor n c).signalled raised := by
  induction n generalizing c with
  | zero => rfl
  | succ n ih =>
    have hline : (c.signalled raised).host.line = c.host.line := rfl
    unfold settleFor
    rw [hline]
    split
    · rw [← ih, ← handleInterrupt_signalled]
      rfl
    · rfl

/-- So does handling all interrupts. -/
theorem settle_signalled : (c.signalled raised).settle = c.settle.signalled raised :=
  settleFor_signalled c raised _

/-! ## Commands -/

/-- The diagnostics in the journal do not show the signal. -/
theorem dumpDiagnostics_signalled :
    (c.signalled raised).dumpDiagnostics = c.dumpDiagnostics.signalled raised := by
  have hlines (lines : List String) (w : Card Board) :
      lines.foldl (fun w line => w.note .debug line) (w.signalled raised) =
        (lines.foldl (fun w line => w.note .debug line) w).signalled raised := by
    induction lines generalizing w with
    | nil => rfl
    | cons line rest ih => exact ih (w.note .debug line)
  unfold dumpDiagnostics
  rw [← ite_signalled, ← hlines]
  rfl

/-- Performing a command leaves the signal alone. -/
theorem perform_signalled (command : Command) (arg : Word) :
    (c.signalled raised).perform command arg = (c.perform command arg).map fun c => c.signalled raised := by
  have hindexed (offset : Nat) (index : UInt8) :
      (c.signalled raised).writeIndexed command offset index arg =
        (c.writeIndexed command offset index arg).map fun c => c.signalled raised := by
    unfold writeIndexed
    split <;> rfl
  cases command with
  | evrRunCode index | evrAcceptCode index | evrRunDelay index | evrAcceptDelay index => exact hindexed _ index
  | dumpDebug => exact congrArg Except.ok (dumpDiagnostics_signalled c raised)
  | _ => rfl

/-- So does carrying it out. -/
theorem control_signalled (command : Command) (arg : Pointer) :
    (c.signalled raised).control command arg =
      ((c.control command arg).1, (c.control command arg).2.signalled raised) := by
  have hsnapshot (w : Card Board) : (w.signalled raised).snapshot = (w.snapshot.1, w.snapshot.2.signalled raised) := rfl
  by_cases hstatus : command = .readStatus
  · subst hstatus
    unfold control
    dsimp only
    rw [trace_signalled, hsnapshot]
  · have hcontrol (w : Card Board) : w.control command arg =
        match w.perform command (arg.setWidth 32) with
        | .error e => (.error e, w)
        | .ok w =>
          (.ok .done, w.trace 0 (command.text ++ " arg=" ++ Text.hexMarked (arg.setWidth 32).toNat)) := by
      unfold control
      split
      · contradiction
      · dsimp only
        cases w.perform command (arg.setWidth 32) <;> rfl
    rw [hcontrol, hcontrol, perform_signalled]
    cases c.perform command (arg.setWidth 32) with
    | error e => rfl
    | ok w =>
      simp only [Except.map]
      rw [trace_signalled]

/-! ## Sessions -/

/-- Giving unread frames back leaves the signal alone. -/
theorem returnUnread_signalled (n : Nat) :
    returnUnread n (c.signalled raised) = ((returnUnread n c).1, (returnUnread n c).2.signalled raised) := by
  induction n generalizing c with
  | zero => rfl
  | succ n ih =>
    have hring : (c.signalled raised).device.rxReady = c.device.rxReady := rfl
    have hpool : (c.signalled raised).device.rxPool = c.device.rxPool := rfl
    have hmore {w w' : Card Board} (hw : w' = w.signalled raised) :
        ((returnUnread n w').1 + 1, (returnUnread n w').2) =
          ((returnUnread n w).1 + 1, (returnUnread n w).2.signalled raised) := by
      rw [hw, ih]
    unfold returnUnread
    rw [hring]
    split
    · rfl
    · rename_i index ring _
      dsimp only
      rw [hpool]
      cases c.device.rxPool.buffers[index]? with
      | none => exact hmore rfl
      | some b => exact hmore rfl

/-- A session ends in the same way, whether the signal was raised or not, and drops it. -/
theorem closeSession_signalled : (c.signalled raised).closeSession = c.closeSession := by
  have hreturned := returnUnread_signalled { c with device := { c.device with isOpen := false } } raised
    c.device.rxReady.length
  have hdone := congrArg
    (fun done : Nat × Card Board =>
      Card.note
        { done.2 with
          device :=
            { done.2.device with
              droppedClosed := done.2.device.droppedClosed + done.1
              listener := none
              signal := false } }
        .info s!"Close: {done.1} unread frame(s) returned")
    hreturned
  exact hdone

/-- A card that can be opened drops the signal; otherwise the signal is left alone. -/
theorem openSession_signalled (nonblock : Bool) :
    (c.signalled raised).openSession nonblock =
      match (c.openSession nonblock).1 with
      | .ok _ => c.openSession nonblock
      | .error e => (.error e, (c.openSession nonblock).2.signalled raised) := by
  have hdetached : (c.signalled raised).device.detached = c.device.detached := rfl
  have hopen : (c.signalled raised).device.isOpen = c.device.isOpen := rfl
  unfold openSession
  dsimp only
  rw [hdetached, hopen]
  cases c.device.detached with
  | true => rfl
  | false => cases c.device.isOpen <;> rfl

/-- Stopping the driver leaves the signal alone. -/
theorem detach_signalled : (c.signalled raised).detach = c.detach.signalled raised := by
  unfold detach
  rw [← ite_signalled]
  rfl

/-- So does naming who is told of frames. -/
theorem setListener_signalled (listener : Option Nat) :
    (c.signalled raised).setListener listener = (c.setListener listener).signalled raised := by
  unfold setListener
  dsimp only
  rw [trace_signalled]
  rfl

/-! ## What is blind -/

/-- Work that gives the same and leaves the same card, but for the signal, whether the signal is raised
or not. -/
def Blind {α : Type} (work : Card Board → α × Card Board) : Prop :=
  ∀ (c : Card Board) (raised : Bool), ∃ after, work (c.signalled raised) = ((work c).1, (work c).2.signalled after)

/-- What work gives may be put in other words. -/
theorem Blind.map {α γ : Type} {work : Card Board → α × Card Board} (h : Blind work) (f : α → γ) :
    Blind fun c => (f (work c).1, (work c).2) := by
  intro c raised
  obtain ⟨after, hwork⟩ := h c raised
  exact ⟨after, congrArg (fun done => (f done.1, done.2)) hwork⟩

/-- Work that leaves the signal alone. -/
theorem blind_of_signalled {work : Card Board → Card Board}
    (h : ∀ (c : Card Board) (raised : Bool), work (c.signalled raised) = (work c).signalled raised) :
    Blind fun c => ((), work c) := fun c raised => ⟨raised, congrArg (Prod.mk ()) (h c raised)⟩

/-- Handling interrupts is blind. -/
theorem blind_settle : Blind fun c => ((), c.settle) := blind_of_signalled settle_signalled

/-- Stopping the driver is blind. -/
theorem blind_detach : Blind fun c => ((), c.detach) := blind_of_signalled detach_signalled

/-- Naming who is told of frames is blind. -/
theorem blind_setListener (listener : Option Nat) : Blind fun c => ((), c.setListener listener) :=
  blind_of_signalled fun c raised => setListener_signalled c raised listener

/-- Giving the memory of a card back is blind. -/
theorem blind_release : Blind fun c => ((), { c with host := c.release }) := fun _ raised => ⟨raised, rfl⟩

/-- Raising the signal is blind: it is raised then. -/
theorem blind_interruptSession : Blind fun c => ((), c.interruptSession) := fun _ _ => ⟨true, rfl⟩

/-- Closing a session is blind: the signal is dropped then. -/
theorem blind_closeSession : Blind fun c => ((), c.closeSession) := fun c raised =>
  ⟨c.closeSession.device.signal, congrArg (Prod.mk ()) (closeSession_signalled c raised)⟩

/-- Opening a session is blind, whether it succeeds or not. -/
theorem blind_openSession (nonblock : Bool) : Blind fun c => c.openSession nonblock := by
  intro c raised
  have hopened := openSession_signalled c raised nonblock
  cases hresult : (c.openSession nonblock).1 with
  | ok =>
    rw [hresult] at hopened
    exact ⟨(c.openSession nonblock).2.device.signal, hopened.trans (Prod.ext hresult rfl)⟩
  | error e =>
    rw [hresult] at hopened
    exact ⟨raised, hopened⟩

/-- Taking the status is blind. -/
theorem blind_snapshot : Blind fun c => c.snapshot := fun _ raised => ⟨raised, rfl⟩

/-- Mapping registers is blind. -/
theorem blind_mapRegisters (length : Nat) (readable writable : Bool) :
    Blind fun c => c.mapRegisters length readable writable := by
  intro c raised
  refine ⟨raised, ?_⟩
  unfold mapRegisters
  dsimp only
  rw [← ite_signalled_pair, ← ite_signalled_pair]
  rfl

end Card

end LaneCard
