import LaneCard.Proofs.Agreement
import LaneCard.Proofs.Steps

/-!
# Cards with a closed line

Once its interrupt line is closed, the completion handler of a card is never woken again: a closed line
stays closed, whatever is done to the card. Frames become readable only when the handler files them. A card
whose line is closed and that has nothing to read therefore never has, and no call on it receives a frame.

Most work has nothing to do with any of this; what it leaves as it was is said once (`Card.Quiet`).
-/

namespace LaneCard

/-! ## What the card does to its line -/

namespace Board

/-- Raising an interrupt neither opens nor closes the line. -/
@[simp] theorem closed_interrupt (h : Host Board) : (interrupt h).line.closed = h.line.closed := by
  unfold interrupt
  split
  · exact IrqLine.closed_raise _
  · rfl

/-- Storing a frame that was looped back does not touch the line. -/
@[simp] theorem line_deliver (h : Host Board) (lane : Nat) (vc : Word) (payload : Bytes) :
    (deliver h lane vc payload).line = h.line := by
  unfold deliver
  split
  · rfl
  · dsimp only
    split <;> rfl

/-- Sending a frame neither opens nor closes the line. -/
@[simp] theorem closed_transmit (h : Host Board) (lane : Nat) (addr : Word) :
    (transmit h lane addr).line.closed = h.line.closed := by
  unfold transmit
  dsimp only
  split
  · rfl
  · rw [closed_interrupt]
    split
    · rw [line_deliver]
    · rfl

/-- Neither does any other register write. -/
theorem closed_store (h : Host Board) (offset : Nat) (value : Word) :
    (store h offset value).line.closed = h.line.closed := by
  unfold store
  dsimp only
  split
  · rfl
  · split
    · rw [closed_transmit]
    · split
      · split
        · rw [closed_interrupt]
        · rfl
      · rfl

end Board

/-- A register write neither opens nor closes the line. -/
@[simp] theorem Host.closed_write (h : Host Board) (offset : Nat) (value : Word) :
    (h.write offset value).line.closed = h.line.closed := Board.closed_store h offset value

/-- Changing the allocator does not touch the line. -/
@[simp] theorem Host.line_setBuffers (h : Host Board) (a : Allocator) : (h.setBuffers a).line = h.line := by
  unfold Host.setBuffers
  split <;> rfl

/-! ## Work that is not heard of -/

namespace Card

/-- After some work the line is closed or open as before, the card is in use or detached as before, and
nothing has moved in either ring. -/
structure Quiet (c c' : Card Board) : Prop where
  closed : c'.host.line.closed = c.host.line.closed
  detached : c'.device.detached = c.device.detached
  txFree : c'.device.txFree = c.device.txFree
  rxReady : c'.device.rxReady = c.device.rxReady

namespace Quiet

variable {c c' c'' : Card Board}

/-- Doing nothing is quiet. -/
theorem refl (c : Card Board) : c.Quiet c := ⟨rfl, rfl, rfl, rfl⟩

/-- Quiet work may follow on quiet work. -/
theorem trans (h : c.Quiet c') (h' : c'.Quiet c'') : c.Quiet c'' where
  closed := h'.closed.trans h.closed
  detached := h'.detached.trans h.detached
  txFree := h'.txFree.trans h.txFree
  rxReady := h'.rxReady.trans h.rxReady

/-- A line in the journal is quiet. -/
theorem note (h : c.Quiet c') (level : Level) (text : String) : c.Quiet (c'.note level text) :=
  h.trans ⟨rfl, rfl, rfl, rfl⟩

/-- So is a line for debugging. -/
theorem trace (h : c.Quiet c') (threshold : Nat) (text : String) : c.Quiet (c'.trace threshold text) :=
  c'.trace_induction c.Quiet h h.note threshold text

/-- So is writing a register. -/
theorem write (h : c.Quiet c') (offset : Nat) (value : Word) : c.Quiet (c'.write offset value) :=
  h.trans ⟨c'.host.closed_write offset value, rfl, rfl, rfl⟩

/-- So is changing one. -/
theorem modify (h : c.Quiet c') (offset : Nat) (change : Word → Word) :
    c.Quiet { c' with host := c'.host.modify offset change } :=
  h.trans ⟨Host.closed_write _ offset _, rfl, rfl, rfl⟩

/-- Work that moves no buffer is quiet. -/
theorem of_unmoved (h : c.Unmoved c') : c.Quiet c' :=
  ⟨by rw [h.host], by rw [h.device], by rw [h.device], by rw [h.device]⟩

end Quiet

/-- Commands that were performed are quiet. -/
theorem quiet_perform {c c' : Card Board} {command : Command} {arg : Word}
    (hdone : c.perform command arg = .ok c') : c.Quiet c' := by
  have hindexed {offset : Nat} {index : UInt8} (hdone : c.writeIndexed command offset index arg = .ok c') :
      c.Quiet c' := by
    rw [(of_writeIndexed_ok hdone).2]
    exact (Quiet.refl c).write _ _
  cases command <;> simp only [perform, Except.ok.injEq, reduceCtorEq] at hdone <;> try subst hdone
  case countReset => exact Quiet.modify (Quiet.modify (.refl c) _ _) _ _
  case evrRunCode | evrAcceptCode | evrRunDelay | evrAcceptDelay => exact hindexed hdone
  case dumpDebug => exact dumpDiagnostics_induction c.Quiet (fun _ _ _ hw => hw.note _ _) c (.refl c)
  case setLoop | setRxReset | setTxReset | evrEnable | evrSetReset | evrSetPllRst =>
    exact (Quiet.refl c).modify _ _
  case clrLoop | clrRxReset | clrTxReset | evrDisable | evrClrReset | evrClrPllRst =>
    exact (Quiet.refl c).modify _ _
  case pgpOpCode | evrMask => exact (Quiet.refl c).write _ _
  case nop => exact (Quiet.refl c).note _ _
  case setDebug => exact ⟨rfl, rfl, rfl, rfl⟩

/-- Control is quiet, whether the command is carried out or not. -/
theorem quiet_control (c : Card Board) (command : Command) (arg : Pointer) :
    c.Quiet (c.control command arg).2 := by
  unfold control
  split
  · exact ((Quiet.refl c).trace _ _).write _ _
  · dsimp only
    split
    · exact .refl c
    · rename_i hperform
      exact (quiet_perform hperform).trace _ _

/-- Waiting for a frame, or for room, is quiet. -/
theorem quiet_pollWait (c : Card Board) (interest : PollFlags) (limited : Bool) :
    c.Quiet (c.pollWait interest limited).2 := by
  unfold pollWait
  dsimp only
  split
  · exact ⟨rfl, rfl, rfl, rfl⟩
  · exact .refl c
  · split <;> exact .refl c

/-- A record that sends no frame is quiet. -/
theorem quiet_writeRecord (c : Card Board) (patience : Patience) {record : Bytes} (memory : CallerMemory)
    (hrecord : ∀ request, TxRequest.decode record = .ok request →
      Command.ofCode? request.cmd.toNat ≠ some .normalWrite) :
    c.Quiet (c.writeRecord patience record memory).2.1 := by
  rcases hresult : c.writeRecord patience record memory with ⟨reply, after, memory'⟩
  cases writing hresult with
  | unread => exact (Quiet.refl c).note _ _
  | unknown => exact (Quiet.refl c).note _ _
  | frame request hdecode hcommand => exact absurd hcommand (hrecord request hdecode)
  | command request command => exact c.quiet_control command request.data
  | unstored request command => exact (c.quiet_control command request.data).note _ _

/-- So is every move but a call, the end of a session, detaching, and the handler's work. -/
theorem quiet_play (c : Card Board) {m : Move} (hcall : ∀ patience memory call, m ≠ .call patience memory call)
    (hclose : m ≠ .closeSession) (hdetach : m ≠ .detach) (hserve : ∀ n, m ≠ .serve n) :
    c.Quiet (c.play m).2 := by
  cases m with
  | openSession nonblock =>
    change c.Quiet (c.openSession nonblock).2
    unfold Card.openSession
    split
    · exact .refl c
    · split
      · exact (Quiet.refl c).note _ _
      · refine Quiet.trace ?_ _ _
        exact ⟨rfl, rfl, rfl, rfl⟩
  | closeSession => contradiction
  | call patience memory call => exact absurd rfl (hcall patience memory call)
  | control command arg => exact c.quiet_control command arg
  | interrupt => exact ⟨rfl, rfl, rfl, rfl⟩
  | notify listener => exact ((Quiet.refl c).trace _ _).trans ⟨rfl, rfl, rfl, rfl⟩
  | status => exact (Quiet.refl c).write _ _
  | detach => contradiction
  | hold on =>
    cases on with
    | true => exact ⟨rfl, rfl, rfl, rfl⟩
    | false => exact ⟨Board.closed_interrupt _, rfl, rfl, rfl⟩
  | takeFree lane =>
    unfold play
    dsimp only
    split
    · exact ⟨rfl, rfl, rfl, rfl⟩
    · exact .refl c
  | injectRx desc => exact ⟨Board.closed_interrupt _, rfl, rfl, rfl⟩
  | injectTx word => exact ⟨Board.closed_interrupt _, rfl, rfl, rfl⟩
  | serve n => exact absurd rfl (hserve n)

/-- So is everything else that can be done to a card. -/
theorem quiet_undergo (c : Card Board) {deed : Deed} (hmove : ∀ m, deed ≠ .move m) :
    c.Quiet (c.undergo deed) := by
  cases deed with
  | move m => exact absurd rfl (hmove m)
  | poke offset value => exact ⟨rfl, rfl, rfl, rfl⟩
  | map length readable writable =>
    unfold undergo mapRegisters
    dsimp only
    split
    · exact .refl c
    · split
      · exact (Quiet.refl c).note _ _
      · exact .refl c
  | readWindow w offset =>
    unfold undergo RegisterWindow.read
    dsimp only
    split
    · exact ⟨rfl, rfl, rfl, rfl⟩
    · exact .refl c
  | writeWindow w offset value =>
    unfold undergo RegisterWindow.write
    dsimp only
    split
    · exact (Quiet.refl c).write offset value
    · exact .refl c
  | diagnostics => exact .refl c

/-- A card whose line is closed handles no interrupt. -/
theorem settleFor_of_closed {c : Card Board} (h : c.host.line.closed = true) (n : Nat) :
    settleFor n c = c := by
  cases n with
  | zero => rfl
  | succ n => rw [settleFor, IrqLine.wait?, if_pos h]

/-- A frame that is launched neither opens nor closes the line. -/
theorem closed_launched (c : Card Board) (i : Nat) (b : Buffer) (memory : Allocator) (lane vc size : Word) :
    (c.launched i b memory lane vc size).host.line.closed = c.host.line.closed := by
  unfold launched
  dsimp only
  split <;> simp

/-! ## Cards that hear nothing -/

/-- A card whose line is closed and that has nothing to read. -/
structure Deaf (c : Card Board) : Prop where
  closed : c.host.line.closed = true
  unread : c.device.rxReady.toList = []

namespace Deaf

variable {c c' : Card Board}

/-- What touches neither the line nor the ring of received frames leaves a card deaf. -/
theorem of_eq (h : c.Deaf) (hclosed : c'.host.line.closed = c.host.line.closed)
    (hring : c'.device.rxReady = c.device.rxReady) : c'.Deaf :=
  ⟨hclosed.trans h.closed, (congrArg Ring.toList hring).trans h.unread⟩

/-- Quiet work leaves a card deaf. -/
theorem quiet (h : c.Deaf) (hquiet : c.Quiet c') : c'.Deaf := h.of_eq hquiet.closed hquiet.rxReady

/-- So does work that moves nothing. -/
theorem unmoved (h : c.Deaf) (hsame : c.Unmoved c') : c'.Deaf := h.quiet (.of_unmoved hsame)

/-- The ring of received frames is empty. -/
theorem isEmpty (h : c.Deaf) : c.device.rxReady.isEmpty = true := by
  rw [Ring.isEmpty_iff, h.unread]

/-- The ring of received frames has no head. -/
theorem peek?_eq_none (h : c.Deaf) : c.device.rxReady.peek? = none := by
  rw [Ring.peek?_eq_head?, h.unread, List.head?_nil]

/-- A card that hears nothing handles no interrupt. -/
theorem settleFor_eq (h : c.Deaf) (n : Nat) : settleFor n c = c := settleFor_of_closed h.closed n

/-! ## Sending and receiving -/

/-- Sending a frame does not make another readable. -/
theorem submit (h : c.Deaf) (patience : Patience) (lane vc size : Word) (source : Nat → Except CardError Bytes) :
    (c.submit patience lane vc size source).2.Deaf := by
  have hends := c.submission patience lane vc size source
  cases hanswer : c.submit patience lane vc size source
  rw [hanswer] at hends
  cases hends with
  | oversized _ _ hsame => exact h.unmoved hsame
  | asleep _ _ _ hsame => exact h.unmoved hsame
  | refused _ _ _ _ hsame => exact h.unmoved hsame
  | unnamed _ _ _ hsame => exact h.unmoved hsame
  | unfilled _ _ _ _ _ _ _ _ hsame => exact h.unmoved hsame
  | accepted i b data memory w c' _ _ _ _ _ hw hsame =>
    have hlaunched : (w.launched i b memory lane vc size).Deaf :=
      (h.unmoved hw).of_eq (w.closed_launched i b memory lane vc size) rfl
    exact hlaunched.unmoved hsame

/-- Nothing is received. -/
theorem receive {γ : Type} (h : c.Deaf) (patience : Patience) (maxSize : Nat)
    (sink : Bytes → Except CardError γ) :
    (c.receive patience maxSize sink).2.Deaf ∧
      ((c.receive patience maxSize sink).1 = .asleep ∨
        ∃ e, (c.waitFor patience c.device.rxReady).1 = .returned (.error e) ∧
          (c.receive patience maxSize sink).1 = .returned (.error e)) := by
  have hends := c.reception patience maxSize sink
  cases hanswer : c.receive patience maxSize sink
  rw [hanswer] at hends
  have hnone := h.peek?_eq_none
  cases hends with
  | asleep _ _ hsame => exact ⟨h.unmoved hsame, .inl rfl⟩
  | refused e _ hwait hsame => exact ⟨h.unmoved hsame, .inr ⟨e, hwait, rfl⟩⟩
  | unnamed _ hwait =>
    rw [(c.waitFor_unmoved patience c.device.rxReady).2, h.isEmpty] at hwait
    contradiction
  | spoiled _ _ _ _ _ hi | received _ _ _ _ _ hi =>
    rw [hnone] at hi
    contradiction

/-- No unread frame goes back when the session is closed. -/
theorem closeSession (h : c.Deaf) : c.closeSession.Deaf := by
  have hnone : c.device.rxReady.length = 0 := by
    rw [← Ring.length_toList, h.unread]
    rfl
  unfold Card.closeSession
  dsimp only
  rw [hnone]
  exact h.of_eq rfl rfl

/-- Detaching closes the line. -/
theorem detach (h : c.Deaf) : c.detach.Deaf := by
  unfold Card.detach
  split
  · exact h
  · exact ⟨rfl, h.unread⟩

/-! ## Whatever is done -/

/-- A call on a card that hears nothing receives no frame. -/
theorem makeCall (h : c.Deaf) (memory : CallerMemory) (patience : Patience) (call : Call) :
    (Bench.makeCall c memory patience call).2.Deaf ∧
      (Bench.makeCall c memory patience call).1.1.consumes = false := by
  have hnumber (reply : Reply Nat) : (Outcome.ofReply .number reply).consumes = false := by
    cases reply with
    | asleep => rfl
    | returned result => cases result <;> rfl
  cases call with
  | send lane vc data =>
    refine ⟨?_, hnumber _⟩
    change (c.send patience lane vc data).2.Deaf
    unfold send
    split
    · exact h.submit _ _ _ _ _
    · exact h
  | recv buffer =>
    obtain ⟨hdeaf, hanswer⟩ := h.receive patience buffer.length fun bytes =>
      .ok (bytes.words ++ buffer.drop (bytes.size / wordSize))
    refine ⟨hdeaf, ?_⟩
    change (Outcome.ofReply _ (c.recv patience buffer).1).consumes = false
    rw [recv]
    rcases hanswer with hasleep | ⟨e, -, herror⟩
    · rw [hasleep]
      rfl
    · rw [herror]
      rfl
  | write record =>
    refine ⟨?_, hnumber _⟩
    change (c.writeRecord patience record memory).2.1.Deaf
    by_cases hframe : ∃ request, TxRequest.decode record = .ok request ∧
        Command.ofCode? request.cmd.toNat = some .normalWrite
    · obtain ⟨request, hrecord, hcommand⟩ := hframe
      rw [c.writeRecord_of_frame patience hrecord hcommand]
      exact h.submit _ _ _ _ _
    · exact h.quiet (c.quiet_writeRecord patience memory fun request hrecord hcommand =>
        hframe ⟨request, hrecord, hcommand⟩)
  | read record =>
    simp only [Bench.makeCall, readRecord]
    cases RxRequest.decode record with
    | error e =>
      refine ⟨h.of_eq rfl rfl, ?_⟩
      cases e <;> rfl
    | ok request =>
      dsimp only
      have hreceived := h.receive patience request.maxSize.toNat (memory.write request.data.toNat)
      generalize c.receive patience request.maxSize.toNat (memory.write request.data.toNat) = result at hreceived
      obtain ⟨reply, c'⟩ := result
      obtain ⟨hdeaf, rfl | ⟨e, hwait, rfl⟩⟩ := hreceived
      · exact ⟨hdeaf, rfl⟩
      · exact ⟨hdeaf, consumes_of_waitFor_error hwait record⟩
  | pollWait interest limited =>
    have hanswer : (Outcome.ofReply (fun flags => .number flags.bits) (c.pollWait interest limited).1).consumes =
        false := by
      cases (c.pollWait interest limited).1 with
      | asleep => rfl
      | returned result => cases result <;> rfl
    exact ⟨h.quiet (c.quiet_pollWait interest limited), hanswer⟩

/-- A card that hears nothing hears nothing after any move. -/
theorem play (h : c.Deaf) (m : Move) : (c.play m).2.Deaf := by
  cases m with
  | closeSession => exact h.closeSession
  | call patience memory call => exact (h.makeCall memory patience call).1
  | detach => exact h.detach
  | serve n =>
    change (settleFor n c).Deaf
    rwa [h.settleFor_eq]
  | _ => exact h.quiet (c.quiet_play nofun nofun nofun nofun)

/-- Nor after anything else that can be done. -/
theorem undergo (h : c.Deaf) (deed : Deed) : (c.undergo deed).Deaf := by
  cases deed with
  | move m => exact h.play m
  | _ => exact h.quiet (c.quiet_undergo nofun)

/-- Nor after any number of deeds. -/
theorem undergoAll (h : c.Deaf) (deeds : List Deed) : (c.undergoAll deeds).Deaf := by
  induction deeds generalizing c with
  | nil => exact h
  | cons deed rest ih => exact ih (h.undergo deed)

end Deaf

end Card

end LaneCard
