import LaneCard.Proofs.ClosedLine
import LaneCard.Proofs.HandlerSteps
import LaneCard.Proofs.Refusal

/-!
# Sending after the card was detached

A card that was detached handles no completion any more, so that no transmit buffer comes back. Whether
a frame is taken up is still decided by the free buffers before anything else: as many frames are
accepted as there are free buffers left, and only then is the caller told that the card is gone.
-/

namespace LaneCard

/-- Whether a call was for a frame to be sent, and the frame was accepted. -/
def Deed.isAccepted (c : Card Board) : Deed → Bool
  | .move (.call patience memory call) =>
    call.outgoing?.isSome && (Bench.makeCall c memory patience call).1.1.isNumber
  | _ => false

namespace Card

/-- The number of frames that are accepted while some deeds are done. -/
def accepted (c : Card Board) : List Deed → Nat
  | [] => 0
  | deed :: rest => (deed.isAccepted c).toNat + (c.undergo deed).accepted rest

/-! ## What becomes of the line -/

variable {c c' c'' : Card Board}

/-- After some work the line is closed or open as before, and the card in use or detached as before. -/
structure Steady (c c' : Card Board) : Prop where
  closed : c'.host.line.closed = c.host.line.closed
  detached : c'.device.detached = c.device.detached

namespace Steady

/-- Doing nothing is steady. -/
theorem refl (c : Card Board) : c.Steady c := ⟨rfl, rfl⟩

/-- Steady work may follow on steady work. -/
theorem trans (h : c.Steady c') (h' : c'.Steady c'') : c.Steady c'' :=
  ⟨h'.closed.trans h.closed, h'.detached.trans h.detached⟩

/-- A line in the journal is steady. -/
theorem note (h : c.Steady c') (level : Level) (text : String) : c.Steady (c'.note level text) :=
  ⟨h.closed, h.detached⟩

/-- So is a line for debugging. -/
theorem trace (h : c.Steady c') (threshold : Nat) (text : String) : c.Steady (c'.trace threshold text) :=
  c'.trace_induction c.Steady h h.note threshold text

/-- So is writing a register. -/
theorem write (h : c.Steady c') (offset : Nat) (value : Word) : c.Steady (c'.write offset value) :=
  ⟨(c'.host.closed_write offset value).trans h.closed, h.detached⟩

end Steady

/-! ## What becomes of the free transmit buffers -/

/-- After some work the line is closed or open as before, the card is in use or detached as before, and
one transmit buffer has been taken if a frame was accepted, and none otherwise. -/
structure Took (c : Card Board) (accepted : Bool) (c' : Card Board) : Prop where
  closed : c'.host.line.closed = c.host.line.closed
  detached : c'.device.detached = c.device.detached
  txFree : c'.device.txFree = if accepted then c.device.txFree.drop else c.device.txFree
  free : accepted = true → c.device.txFree.toList ≠ []

/-- Quiet work takes no buffer. -/
theorem Quiet.took (h : c.Quiet c') : c.Took false c' := ⟨h.closed, h.detached, h.txFree, nofun⟩

/-- Quiet work is steady. -/
theorem Quiet.steady (h : c.Quiet c') : c.Steady c' := ⟨h.closed, h.detached⟩

/-- One thing after another takes no buffer. -/
theorem Took.trans (h : c.Took false c') (h' : c'.Took false c'') : c.Took false c'' where
  closed := h'.closed.trans h.closed
  detached := h'.detached.trans h.detached
  txFree := h'.txFree.trans h.txFree
  free := nofun

/-- Sending takes a buffer if the frame is accepted. -/
theorem took_submit (c : Card Board) (patience : Patience) (lane vc size : Word)
    (source : Nat → Except CardError Bytes) :
    c.Took (Outcome.ofReply .number (c.submit patience lane vc size source).1).isNumber
      (c.submit patience lane vc size source).2 := by
  have hends := c.submission patience lane vc size source
  generalize c.submit patience lane vc size source = result at hends
  cases hends with
  | oversized _ _ hsame => exact (Quiet.of_unmoved hsame).took
  | asleep _ _ _ hsame => exact (Quiet.of_unmoved hsame).took
  | refused _ _ _ _ hsame => exact (Quiet.of_unmoved hsame).took
  | unnamed _ _ _ hsame => exact (Quiet.of_unmoved hsame).took
  | unfilled _ _ _ _ _ _ _ _ hsame => exact (Quiet.of_unmoved hsame).took
  | accepted i b data memory w c' _ hi _ _ _ hw hsame =>
    have hquiet := Quiet.of_unmoved hw
    have hlast := Quiet.of_unmoved hsame
    refine ⟨?_, ?_, ?_, fun _ => List.ne_nil_of_mem (Ring.mem_of_peek? hi)⟩
    · rw [hlast.closed, w.closed_launched, hquiet.closed]
    · exact hlast.detached.trans hquiet.detached
    · have hlaunched : (w.launched i b memory lane vc size).device.txFree = w.device.txFree.drop := rfl
      rw [hlast.txFree, hlaunched, hquiet.txFree]
      rfl

/-- Receiving takes no transmit buffer. -/
theorem took_receive {γ : Type} (c : Card Board) (patience : Patience) (maxSize : Nat)
    (sink : Bytes → Except CardError γ) : c.Took false (c.receive patience maxSize sink).2 := by
  have hrelieved {w c' : Card Board} (hw : c.Unmoved w) (b : Buffer) (hc : (w.relieved b).Unmoved c') :
      c.Took false c' := by
    have hgiven : w.Took false (w.relieved b) :=
      ⟨w.host.closed_write _ b.addr, rfl, rfl, nofun⟩
    exact ((Quiet.of_unmoved hw).took.trans hgiven).trans (Quiet.of_unmoved hc).took
  have hends := c.reception patience maxSize sink
  generalize c.receive patience maxSize sink = result at hends
  cases hends with
  | asleep _ _ hsame => exact (Quiet.of_unmoved hsame).took
  | refused _ _ _ hsame => exact (Quiet.of_unmoved hsame).took
  | unnamed _ _ _ hsame => exact (Quiet.of_unmoved hsame).took
  | spoiled _ _ b _ _ _ _ _ hw hc => exact hrelieved hw b hc
  | received _ _ b _ _ _ _ _ hw hc => exact hrelieved hw b hc

/-- Neither does a receive record. -/
theorem took_readRecord (c : Card Board) (patience : Patience) (record : Bytes) (memory : CallerMemory) :
    c.Took false (c.readRecord patience record memory).2.2.1 := by
  cases hrecord : RxRequest.decode record with
  | error e =>
    rw [readRecord, hrecord]
    exact ((Quiet.refl c).note _ _).took
  | ok request =>
    obtain ⟨answer, -, hread⟩ := c.readRecord_eq_answered patience hrecord memory
    rw [hread, card_answered]
    exact c.took_receive patience _ _

/-- Nor does giving unread frames back. -/
theorem took_returnUnread (n : Nat) (c : Card Board) : c.Took false (returnUnread n c).2 := by
  induction n generalizing c with
  | zero => exact (Quiet.refl c).took
  | succ n ih =>
    unfold returnUnread
    split
    · exact (Quiet.refl c).took
    · rename_i index ring _
      dsimp only
      set dropped : Card Board := { c with device := { c.device with rxReady := ring } }
      have hdropped : c.Took false dropped := ⟨rfl, rfl, rfl, nofun⟩
      split
      · rename_i b _
        have hgiven : dropped.Took false (dropped.giveFree b.frame.lane.toNat b.addr) :=
          ⟨dropped.host.closed_write _ b.addr, rfl, rfl, nofun⟩
        exact (hdropped.trans hgiven).trans (ih _)
      · exact hdropped.trans (ih _)

/-- Nor does the end of the session. -/
theorem took_closeSession (c : Card Board) : c.Took false c.closeSession := by
  set shut : Card Board := { c with device := { c.device with isOpen := false } }
  have hshut : c.Took false shut := ⟨rfl, rfl, rfl, nofun⟩
  refine (hshut.trans (shut.took_returnUnread shut.device.rxReady.length)).trans ?_
  exact ⟨rfl, rfl, rfl, nofun⟩

/-- A call takes a buffer if it was for a frame to be sent, and the frame was accepted. -/
theorem took_makeCall (c : Card Board) (memory : CallerMemory) (patience : Patience) (call : Call) :
    c.Took (call.outgoing?.isSome && (Bench.makeCall c memory patience call).1.1.isNumber)
      (Bench.makeCall c memory patience call).2 := by
  cases call with
  | send lane vc data =>
    change c.Took ((Call.send lane vc data).outgoing?.isSome &&
      (Outcome.ofReply .number (c.send patience lane vc data).1).isNumber) (c.send patience lane vc data).2
    unfold send Call.outgoing?
    by_cases hlength : data.length < wordSpan
    · simp only [if_pos hlength, Option.isSome_some, Bool.true_and]
      exact c.took_submit patience lane vc _ _
    · simp only [if_neg hlength, Option.isSome_none, Bool.false_and]
      exact (Quiet.refl c).took
  | recv buffer => exact c.took_receive patience buffer.length _
  | write record =>
    change c.Took ((Call.write record).outgoing?.isSome &&
      (Outcome.ofReply .number (c.writeRecord patience record memory).1).isNumber)
      (c.writeRecord patience record memory).2.1
    by_cases hframe : ∃ request, TxRequest.decode record = .ok request ∧
        Command.ofCode? request.cmd.toNat = some .normalWrite
    · obtain ⟨request, hrecord, hcommand⟩ := hframe
      have houtgoing : (Call.write record).outgoing? = some request.size := by
        rw [Call.outgoing?, hrecord]
        exact if_pos hcommand
      rw [houtgoing, c.writeRecord_of_frame patience hrecord hcommand, Option.isSome_some, Bool.true_and]
      exact c.took_submit patience request.lane request.vc request.size _
    · have hnone : (Call.write record).outgoing? = none := by
        rw [Call.outgoing?]
        split
        · rename_i request hrecord
          exact if_neg fun hcommand => hframe ⟨request, hrecord, hcommand⟩
        · rfl
      rw [hnone, Option.isSome_none, Bool.false_and]
      exact (c.quiet_writeRecord patience memory fun request hrecord hcommand =>
        hframe ⟨request, hrecord, hcommand⟩).took
  | read record =>
    change c.Took false (Bench.makeCall c memory patience (.read record)).2
    have hread := c.took_readRecord patience record memory
    simp only [Bench.makeCall]
    generalize c.readRecord patience record memory = result at hread
    obtain ⟨reply, record', c', memory'⟩ := result
    cases reply with
    | asleep => exact hread
    | returned result => exact hread
  | pollWait interest limited => exact (c.quiet_pollWait interest limited).took

/-! ## The completion handler -/

/-- Filing a transmit word is steady. -/
theorem steady_finishTx (c : Card Board) (addr : Word) : c.Steady (c.finishTx addr) := by
  unfold finishTx
  split
  · exact ⟨rfl, rfl⟩
  · refine Steady.trace ?_ _ _
    split <;> exact ⟨rfl, rfl⟩

/-- Making a received frame readable is steady. -/
theorem steady_queueRx (c : Card Board) (i : Nat) (desc : RxDescriptor) : c.Steady (c.queueRx i desc) := by
  unfold queueRx
  dsimp only
  refine Steady.trans (Steady.trace ?_ _ _) ⟨rfl, rfl⟩
  split <;> exact ⟨rfl, rfl⟩

/-- Filing a received frame is steady. -/
theorem steady_finishRx (c : Card Board) (desc : RxDescriptor) : c.Steady (c.finishRx desc) := by
  unfold finishRx
  split
  · exact ⟨rfl, rfl⟩
  · split
    · exact c.steady_queueRx _ desc
    · exact ((Steady.refl c).write _ _).trans ⟨rfl, rfl⟩

/-- Handling interrupts is steady. -/
theorem keptHandling_steady : KeptHandling Steady where
  refl := .refl
  trans h h' := h.trans h'
  read _ _ := ⟨rfl, rfl⟩
  finishTx := steady_finishTx
  finishRx := steady_finishRx
  trace c text := (Steady.refl c).trace 0 text
  writeIrq c value := (Steady.refl c).write _ value
  takeLine hwait := ⟨IrqLine.closed_of_wait? hwait, rfl⟩

/-! ## Cards that were detached -/

/-- The line of a card that was detached is closed. -/
def DetachedClosed (c : Card Board) : Prop := c.device.detached = true → c.host.line.closed = true

/-- That stays so, whatever is done to the card. -/
theorem DetachedClosed.undergo (h : c.DetachedClosed) (deed : Deed) : (c.undergo deed).DetachedClosed := by
  have hsteady {c' : Card Board} (hc : c.Steady c') : c'.DetachedClosed := by
    intro hdetached
    rw [hc.detached] at hdetached
    rw [hc.closed]
    exact h hdetached
  cases deed with
  | move m =>
    cases m with
    | call patience memory call =>
      have htook := c.took_makeCall memory patience call
      exact hsteady ⟨htook.closed, htook.detached⟩
    | closeSession => exact hsteady ⟨c.took_closeSession.closed, c.took_closeSession.detached⟩
    | detach =>
      change c.detach.DetachedClosed
      unfold Card.detach
      split
      · exact h
      · exact fun _ => rfl
    | serve n => exact hsteady (keptHandling_steady.settleFor n c)
    | _ =>
      refine hsteady (Quiet.steady ?_)
      exact c.quiet_play nofun nofun nofun nofun
  | _ => exact hsteady (Quiet.steady (c.quiet_undergo nofun))


/-- Nor does it change in the course of several deeds. -/
theorem DetachedClosed.undergoAll (h : c.DetachedClosed) (deeds : List Deed) :
    (c.undergoAll deeds).DetachedClosed := by
  induction deeds generalizing c with
  | nil => exact h
  | cons deed rest ih => exact ih (h.undergo deed)

/-- A card that was detached, and whose line is closed. -/
structure Stopped (c : Card Board) : Prop where
  detached : c.device.detached = true
  closed : c.host.line.closed = true

/-- Detaching stops a card. -/
theorem DetachedClosed.stopped_detach (h : c.DetachedClosed) : c.detach.Stopped := by
  unfold Card.detach
  split
  · rename_i hdetached
    exact ⟨hdetached, h hdetached⟩
  · exact ⟨rfl, rfl⟩

/-- A card that was stopped takes no more buffers than it accepts frames, whatever is done to it. -/
theorem Stopped.took_undergo (h : c.Stopped) (deed : Deed) : c.Took (deed.isAccepted c) (c.undergo deed) := by
  cases deed with
  | move m =>
    cases m with
    | call patience memory call => exact c.took_makeCall memory patience call
    | closeSession => exact c.took_closeSession
    | detach =>
      have hsame : c.detach = c := if_pos h.detached
      change c.Took false c.detach
      rw [hsame]
      exact (Quiet.refl c).took
    | serve n =>
      change c.Took false (settleFor n c)
      rw [settleFor_of_closed h.closed]
      exact (Quiet.refl c).took
    | _ => exact Quiet.took (c.quiet_play nofun nofun nofun nofun)
  | _ => exact Quiet.took (c.quiet_undergo nofun)

/-- It stays stopped. -/
theorem Stopped.undergo (h : c.Stopped) (deed : Deed) : (c.undergo deed).Stopped where
  detached := (h.took_undergo deed).detached.trans h.detached
  closed := (h.took_undergo deed).closed.trans h.closed

/-- No buffer comes back: the free ones are those that there were, less one for each frame that was
accepted. -/
theorem Stopped.undergoAll (h : c.Stopped) (deeds : List Deed) :
    (c.undergoAll deeds).Stopped ∧
      (c.undergoAll deeds).device.txFree.toList = c.device.txFree.toList.drop (c.accepted deeds) ∧
      c.accepted deeds ≤ c.device.txFree.toList.length := by
  induction deeds generalizing c with
  | nil => exact ⟨h, rfl, Nat.zero_le _⟩
  | cons deed rest ih =>
    obtain ⟨hstopped, hlist, hcount⟩ := ih (h.undergo deed)
    have htook := h.took_undergo deed
    refine ⟨hstopped, ?_, ?_⟩
    · change ((c.undergo deed).undergoAll rest).device.txFree.toList = _
      rw [hlist, htook.txFree, accepted]
      cases deed.isAccepted c with
      | false => simp
      | true => simp [Ring.toList_drop, Nat.add_comm]
    · rw [htook.txFree] at hcount
      rw [accepted]
      cases haccepted : deed.isAccepted c with
      | false =>
        rw [haccepted] at hcount
        simpa using hcount
      | true =>
        have hpos := List.length_pos_of_ne_nil (htook.free haccepted)
        rw [haccepted] at hcount
        simp only [if_true, Ring.toList_drop, List.length_tail] at hcount
        simp only [Bool.toNat_true]
        omega

/-- On a card that was stopped, a frame that fits finds out only when no buffer is free. -/
theorem Stopped.admission_eq (h : c.Stopped) (patience : Patience) {bytes : Nat}
    (hfits : bytes ≤ c.device.txPool.bufferSize) :
    c.admission patience bytes =
      if c.device.txFree.isEmpty then .returned (.error .noDevice) else .returned (.ok ()) := by
  rw [admission, if_neg (by omega), waitAnswer, h.detached]
  cases c.device.txFree.isEmpty <;> rfl

/-- How frames that fit are sent when a card has been detached: they are accepted as long as a buffer is
free. Then the caller is told that there is no device, and the card is left as it is. -/
structure SendsUntilEmpty (c : Card Board) : Prop where
  send : ∀ (patience : Patience) (lane vc : Word) (data : List Word),
    data.length * wordSize ≤ c.device.txPool.bufferSize →
    if c.device.txFree.isEmpty then
      ∃ journal, c.send patience lane vc data = (.returned (.error .noDevice), c.waited journal false)
    else (c.send patience lane vc data).1 = .returned (.ok data.length)
  writeRecord : ∀ (patience : Patience) (record : Bytes) (request : TxRequest) (memory : CallerMemory),
    TxRequest.decode record = .ok request → Command.ofCode? request.cmd.toNat = some .normalWrite →
    request.size.toNat * wordSize ≤ c.device.txPool.bufferSize →
    if c.device.txFree.isEmpty then
      ∃ journal, c.writeRecord patience record memory =
        (.returned (.error .noDevice), c.waited journal false, memory)
    else if memory.Reaches request.data.toNat (request.size.toNat * wordSize) then
      (c.writeRecord patience record memory).1 = .returned (.ok request.size.toNat)
    else
      ∃ journal, c.writeRecord patience record memory =
        (.returned (.error (.fault request.data.toNat)), c.waited journal false, memory)

/-- A card that was stopped accepts frames until no buffer is free. -/
theorem Stopped.sendsUntilEmpty (h : c.Stopped) (hc : c.Backed) (hnumbered : c.device.Numbered) :
    c.SendsUntilEmpty where
  send patience lane vc data hfits := by
    have hlength : data.length < wordSpan := hc.length_lt hfits
    have hword : (BitVec.ofNat 32 data.length).toNat = data.length := Word.toNat_ofNat_of_lt hlength
    have hsize : (BitVec.ofNat 32 data.length).toNat * wordSize ≤ c.device.txPool.bufferSize := hword.symm ▸ hfits
    have hadmission := h.admission_eq patience hsize
    rw [c.send_eq_submit patience lane vc hlength]
    split
    · rename_i hempty
      rw [if_pos hempty] at hadmission
      exact submit_of_admission_error lane vc _ hadmission
    · rename_i hempty
      rw [if_neg hempty] at hadmission
      obtain ⟨-, hwritable⟩ := admission_eq_ok_iff.mp hadmission
      rw [hc.submit_eq hnumbered hwritable patience lane vc hsize, hword]
      · rfl
      · intro given hgiven
        obtain rfl := Except.ok.inj hgiven
        rw [Bytes.size_ofWords, hword, wordSize, Nat.mul_comm]
  writeRecord patience record request memory hrecord hcommand hfits := by
    have hadmission := h.admission_eq patience hfits
    rw [c.writeRecord_of_frame patience hrecord hcommand memory]
    split
    · rename_i hempty
      rw [if_pos hempty] at hadmission
      obtain ⟨journal, hsubmit⟩ := submit_of_admission_error request.lane request.vc
        (memory.read request.data.toNat) hadmission
      exact ⟨journal, by rw [hsubmit]; rfl⟩
    · rename_i hempty
      rw [if_neg hempty] at hadmission
      split
      · rename_i hreaches
        obtain ⟨data, hdata⟩ := hreaches.read
        obtain ⟨-, hwritable⟩ := admission_eq_ok_iff.mp hadmission
        have hsized (bytes : Bytes)
            (hbytes : memory.read request.data.toNat (request.size.toNat * wordSize) = .ok bytes) :
            bytes.size = request.size.toNat * wordSize := CallerMemory.size_read hbytes
        rw [hc.submit_eq hnumbered hwritable patience _ _ hfits hsized, hdata]
        rfl
      · rename_i hreaches
        obtain ⟨journal, hsubmit⟩ := submit_of_unreadable hnumbered request.lane request.vc hadmission
          (CallerMemory.read_of_not_reaches hreaches)
        exact ⟨journal, by rw [hsubmit]⟩

end Card

namespace Device

/-- Once a card has been detached, whatever has happened to it before and since, frames that fit are
accepted as long as a transmit buffer is free, and no buffer comes back: all in all no more frames are
accepted than buffers were free when the card was detached. Then the callers are told that there is no
device, and neither the card nor the ring is touched. -/
theorem sendsUntilEmpty_of_detach {h h' : Host Board} {name : String} {address : PciAddress}
    {baseHdwr baseLen : Nat} {config : Config} {d : Device}
    (hattach : attach h name address baseHdwr baseLen config = (.ok d, h')) (before after : List Deed)
    {stopped : Card Board} (hstopped : stopped = (Card.undergoAll ⟨h', d⟩ before).detach) :
    (stopped.undergoAll after).Stopped ∧ (stopped.undergoAll after).SendsUntilEmpty ∧
      (stopped.undergoAll after).device.txFree.toList =
        stopped.device.txFree.toList.drop (stopped.accepted after) ∧
      stopped.accepted after ≤ stopped.device.txFree.toList.length := by
  obtain ⟨hbacked, hnumbered, -⟩ := attach_backed hattach
  have hattached : Card.DetachedClosed ⟨h', d⟩ := by
    obtain ⟨-, _, _, _, _, -, -, rfl, -⟩ := attach_cases hattach
    exact nofun
  have hclosed : (Card.undergoAll ⟨h', d⟩ before).DetachedClosed := hattached.undergoAll before
  have hall : (Card.undergoAll ⟨h', d⟩ (before ++ .move .detach :: after)) = stopped.undergoAll after := by
    rw [hstopped, Card.undergoAll, List.foldl_append]
    rfl
  have hkept := hbacked.kept_undergoAll (before ++ .move .detach :: after)
  rw [hall] at hkept
  obtain ⟨hend, hlist, hcount⟩ := (hstopped ▸ hclosed.stopped_detach : stopped.Stopped).undergoAll after
  exact ⟨hend, hend.sendsUntilEmpty (hkept.backed hbacked) (hkept.device.numbered hnumbered), hlist, hcount⟩

/-- With two buffers, two frames are accepted after the small card was detached; the third sender is told
that there is no device. -/
theorem sendsUntilEmpty_of_detach_small :
    ∃ stopped : Card Board,
      stopped = (Card.small.undergoAll [.move (.openSession true)]).detach ∧
      (stopped.undergoAll (List.replicate 3 (.move (.call .refuses .empty (.send 0#32 1#32 [5#32]))))).SendsUntilEmpty ∧
      stopped.accepted (List.replicate 3 (.move (.call .refuses .empty (.send 0#32 1#32 [5#32])))) = 2 := by
  obtain ⟨stopped, hstopped⟩ :
      ∃ c, c = (Card.small.undergoAll [.move (.openSession true)]).detach := ⟨_, rfl⟩
  refine ⟨stopped, hstopped, ?_, by rw [hstopped]; decide +kernel⟩
  exact (sendsUntilEmpty_of_detach attachSmall_eq [.move (.openSession true)] _ hstopped).2.1

/-- So it is not true that no frame is accepted any more: the session of the small card sends one after
the card was detached. Two registers are written, and a buffer leaves the ring for good. -/
theorem accepted_after_detach :
    ∃ c : Card Board, c = (Card.small.undergoAll [.move (.openSession true)]).detach ∧
      c.device.detached = true ∧ c.device.isOpen = true ∧
      (c.send .refuses 0#32 1#32 [5#32]).1 = .returned (.ok 1) ∧
      (c.send .refuses 0#32 1#32 [5#32]).2.host.bus.writes.size = c.host.bus.writes.size + 2 ∧
      (c.send .refuses 0#32 1#32 [5#32]).2.device.txFree.length + 1 = c.device.txFree.length :=
  ⟨_, rfl, by decide +kernel, by decide +kernel, by decide +kernel, by decide +kernel, by decide +kernel⟩

end Device

end LaneCard
