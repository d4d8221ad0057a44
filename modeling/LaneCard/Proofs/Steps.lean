import LaneCard.Proofs.Commands
import LaneCard.Proofs.Handler
import LaneCard.Proofs.Moves
import LaneCard.Proofs.Reception
import LaneCard.Proofs.Record
import LaneCard.Proofs.Transmission

/-!
# What a move can do to the buffers

Each move of a run does one of a few things to the buffers, and its answer says which: it does
nothing to them, opens or closes the session, sends or takes a frame, moves buffers on the card's
side, or files completions. Everything that holds of all runs is shown by going through this list
once.
-/

namespace LaneCard

namespace Holdings

/-- Moves that do nothing to the buffers when they answer so. -/
def Idle : Move → Outcome → Prop
  | .openSession _, o => o ≠ .nothing
  | .call _ _ call, o => o.consumes = false ∧ (call.lane?.isSome = true → o.isNumber = false)
  | .control .., _ | .interrupt, _ | .notify _, _ | .status, _ | .detach, _ => True
  | _, _ => False

/-- What a move can do to the buffers. -/
inductive Step (H : Holdings) : Move → Outcome → Holdings → Prop
  | idle (m : Move) (o : Outcome) (hidle : Idle m o) : Step H m o H
  | opened (nonblock : Bool) (hclosed : H.isOpen = false) :
      Step H (.openSession nonblock) .nothing { H with isOpen := true }
  | closed (ring : Ring) (hempty : ring.toList = []) (hcapacity : ring.capacity = H.rxReady.capacity)
      (hcollisions : ring.collisions = H.rxReady.collisions) :
      Step H .closeSession .nothing (H.closed ring)
  | sent (patience : Patience) (memory : CallerMemory) (call : Call) (n : Nat) (looped : Bool)
      (lane vc size : Word) (data : Bytes) (H' : Holdings) (hcall : call.lane? = some lane)
      (hsent : H.Sent looped lane vc size data H') : Step H (.call patience memory call) (.number n) H'
  | took (patience : Patience) (memory : CallerMemory) (call : Call) (o : Outcome) (i : Nat) (b : Buffer)
      (hcall : call.lane? = none) (ho : o.consumes = true) (hreport : o.Reports b.frame)
      (hi : H.rxReady.peek? = some i) (hb : H.rxPool.buffers[i]? = some b) :
      Step H (.call patience memory call) o (H.consumed ⟨b.frame, b.addr⟩)
  | held : Step H (.hold true) .nothing { H with holding := true }
  | given :
      Step H (.hold false) .nothing
        { H with holding := false, txReturns := H.txReturns ++ H.heldTx, heldTx := [] }
  | lifted (lane : Nat) (addr : Word) (rest : List Word) (hlane : lane < laneCount)
      (hlist : H.free lane = addr :: rest) :
      Step H (.takeFree lane) (.number addr.toNat) { H with free := Function.update H.free lane rest }
  | missed (lane : Nat) (hlist : H.free lane = []) : Step H (.takeFree lane) .nothing H
  | injectedRx (desc : RxDescriptor) :
      Step H (.injectRx desc) .nothing { H with rxReturns := H.rxReturns ++ [desc.encode] }
  | injectedTx (word : Word) :
      Step H (.injectTx word) .nothing { H with txReturns := H.txReturns ++ [word] }
  | served (n : Nat) (words : List Word) (pairs : List (Word × Word)) (H' : Holdings)
      (hdrained : H.Drained words pairs H') : Step H (.serve n) .nothing H'

/-- Every move keeps the memory fit. -/
theorem Step.sound {H H' : Holdings} {m : Move} {o : Outcome} (h : H.Step m o H') (hsound : H.Sound) :
    H'.Sound := by
  cases h with
  | idle => exact hsound
  | opened => exact { hsound with }
  | closed ring => exact hsound.closed ring
  | sent _ _ _ _ _ _ _ _ _ _ _ hsent => exact hsent.sound hsound
  | took _ _ _ _ i b _ _ _ _ hb =>
    exact hsound.consumed (List.mem_map_of_mem (BufferPool.mem_of_getElem? hb))
  | held => exact { hsound with }
  | given => exact { hsound with }
  | lifted lane addr rest _ hlist => exact hsound.takeFree hlist
  | missed => exact hsound
  | injectedRx => exact { hsound with }
  | injectedTx => exact { hsound with }
  | served _ _ _ _ hdrained => exact hdrained.sound hsound

/-- No move changes the addresses of the buffers. -/
theorem Step.addrs {H H' : Holdings} {m : Move} {o : Outcome} (h : H.Step m o H') :
    H'.txPool.addrs = H.txPool.addrs ∧ H'.rxPool.addrs = H.rxPool.addrs := by
  cases h with
  | sent _ _ _ _ _ _ _ _ _ _ _ hsent => exact hsent.addrs
  | served _ _ _ _ hdrained => exact hdrained.addrs
  | _ => exact ⟨rfl, rfl⟩

end Holdings

namespace Card

/-! ## Calls that send -/

/-- A submission is a step of the call that made it. -/
theorem step_submit (c : Card Board) (hsound : c.holdings.Sound) (patience : Patience) (lane vc size : Word)
    (source : Nat → Except CardError Bytes) (memory : CallerMemory) (call : Call)
    (hcall : call.lane? = some lane) :
    c.holdings.Step (.call patience memory call) (.ofReply .number (c.submit patience lane vc size source).1)
      (c.submit patience lane vc size source).2.holdings := by
  have hfailed (reply : Reply Nat) (c' : Card Board) (hc : c.Unmoved c') (hreply : ∀ n, reply ≠ .returned (.ok n)) :
      c.holdings.Step (.call patience memory call) (.ofReply .number reply) c'.holdings := by
    rw [hc.holdings]
    refine .idle _ _ ⟨?_, fun _ => ?_⟩
    all_goals
      cases reply with
      | asleep => rfl
      | returned result =>
        cases result with
        | error e => rfl
        | ok n => exact absurd rfl (hreply n)
  generalize hresult : c.submit patience lane vc size source = result
  have hway := hresult ▸ c.submission patience lane vc size source
  cases hway with
  | oversized c' _ hc => exact hfailed _ c' hc nofun
  | asleep c' _ _ hc => exact hfailed _ c' hc nofun
  | refused e c' _ _ hc => exact hfailed _ c' hc nofun
  | unnamed c' _ _ hc => exact hfailed _ c' hc nofun
  | unfilled e i b c' _ _ _ _ hc => exact hfailed _ c' hc nofun
  | accepted i b data written w c' hsize hi hb hsource hfill hw hc =>
    have hsame := hw.holdings
    have hsent := w.sent_launched (hsame ▸ hsound) i b written lane vc size data
      (by rw [hw.device]; exact hsize) (by rw [hw.device]; exact hi) (by rw [hw.device]; exact hb)
      (by rw [hw.host]; exact hfill)
    rw [hsame, ← hc.holdings] at hsent
    exact .sent patience memory call size.toNat _ lane vc size data _ hcall hsent

/-- A transmit record is a step: a frame is sent, or a command carried out. -/
theorem step_writeRecord (c : Card Board) (hsound : c.holdings.Sound) (patience : Patience) (record : Bytes)
    (memory : CallerMemory) :
    c.holdings.Step (.call patience memory (.write record))
      (.ofReply .number (c.writeRecord patience record memory).1)
      (c.writeRecord patience record memory).2.1.holdings := by
  have hcontrol (request : TxRequest) (command : Command) (answer : Except CardError Nat)
      (hdecode : TxRequest.decode record = .ok request)
      (hcommand : Command.ofCode? request.cmd.toNat = some command) (hother : command ≠ .normalWrite) :
      c.holdings.Step (.call patience memory (.write record)) (.ofReply .number (.returned answer))
        (c.control command request.data).2.holdings := by
    have hlane : (Call.write record).lane? = none := by
      rw [Call.lane?, hdecode]
      dsimp only
      rw [hcommand, if_neg (fun h => hother (Option.some.inj h))]
    rw [c.holdings_control]
    refine .idle _ _ ⟨by cases answer <;> rfl, fun h => ?_⟩
    rw [hlane] at h
    contradiction
  rcases hresult : c.writeRecord patience record memory with ⟨reply, after, memory'⟩
  cases writing hresult with
  | unread => exact .idle _ _ ⟨rfl, fun _ => rfl⟩
  | unknown => exact .idle _ _ ⟨rfl, fun _ => rfl⟩
  | frame request hdecode hcommand =>
    have hlane : (Call.write record).lane? = some request.lane := by
      rw [Call.lane?, hdecode]
      dsimp only
      rw [if_pos hcommand]
    exact c.step_submit hsound patience request.lane request.vc request.size _ memory _ hlane
  | command request command answer hdecode hcommand hother =>
    exact hcontrol request command answer hdecode hcommand hother
  | unstored request command e _ hdecode hcommand hother =>
    exact hcontrol request command (.error e) hdecode hcommand hother

/-! ## Calls that receive -/

/-- A report never leaves out a flag of the frame. -/
theorem covers_copyPlan (b : Buffer) (maxSize : Nat) : (copyPlan b maxSize).2.Covers b.frame.flags := by
  unfold copyPlan
  dsimp only
  split
  · exact ⟨id, id, fun _ => rfl⟩
  · exact ⟨id, id, id⟩

/-- A call that failed to wait, or found no buffer, has taken nothing. -/
theorem consumes_of_waitFor_error {c : Card Board} {patience : Patience} {ring : Ring} {e : CardError}
    (he : (c.waitFor patience ring).1 = .returned (.error e)) (record : Bytes) :
    (Outcome.record (.error e) record).consumes = false := by
  rcases c.waitFor_error patience ring e he with rfl | rfl | rfl <;> rfl

/-- Receiving into a buffer of words is a step: it takes a frame if it reports one. -/
theorem step_recv (c : Card Board) (hsound : c.holdings.Sound) (patience : Patience) (buffer : List Word)
    (memory : CallerMemory) :
    c.holdings.Step (.call patience memory (.recv buffer))
      (.ofReply (fun (f, words) => .frame f words) (c.recv patience buffer).1)
      (c.recv patience buffer).2.holdings := by
  have hidle (o : Outcome) (c' : Card Board) (hc : c.Unmoved c') (ho : o.consumes = false) :
      c.holdings.Step (.call patience memory (.recv buffer)) o c'.holdings := by
    rw [hc.holdings]
    exact .idle _ _ ⟨ho, nofun⟩
  unfold recv
  generalize hresult : c.receive patience buffer.length _ = result
  have hway := hresult ▸ c.reception patience buffer.length _
  cases hway with
  | asleep c' _ hc => exact hidle _ c' hc rfl
  | refused e c' _ hc => exact hidle _ c' hc rfl
  | unnamed c' _ _ hc => exact hidle _ c' hc rfl
  | spoiled e i b w c' _ hb hcopy =>
    rw [c.copyOut_eq hsound (BufferPool.mem_of_getElem? hb)] at hcopy
    contradiction
  | received kept i b w c' hi hb hcopy hw hc =>
    rw [hc.holdings, holdings_relieved, hw.holdings]
    exact .took patience memory _ _ i b rfl rfl ⟨rfl, rfl, rfl, covers_copyPlan b _⟩ hi hb

/-- Writing to a caller's memory fails only where it cannot be accessed. -/
theorem fault_of_write_error {memory : CallerMemory} {addr : Nat} {data : Bytes} {e : CardError}
    (h : memory.write addr data = .error e) : e = .fault addr := by
  unfold CallerMemory.write CallerMemory.locate at h
  split at h
  · split at h
    · contradiction
    · exact (Except.error.inj h).symm
  · exact (Except.error.inj h).symm

/-- A receive record is a step: it takes a frame if it is answered, or if the caller's memory
faults. -/
theorem step_readRecord (c : Card Board) (hsound : c.holdings.Sound) (patience : Patience) (record : Bytes)
    (memory : CallerMemory) :
    c.holdings.Step (.call patience memory (.read record))
      (Bench.makeCall c memory patience (.read record)).1.1
      (Bench.makeCall c memory patience (.read record)).2.holdings := by
  have hidle (o : Outcome) (c' : Card Board) (hc : c.Unmoved c') (ho : o.consumes = false) :
      c.holdings.Step (.call patience memory (.read record)) o c'.holdings := by
    rw [hc.holdings]
    exact .idle _ _ ⟨ho, nofun⟩
  simp only [Bench.makeCall, readRecord]
  cases hdecode : RxRequest.decode record with
  | error e =>
    refine hidle _ _ (.note c _ _) ?_
    cases e <;> rfl
  | ok request =>
    dsimp only
    generalize hresult : c.receive patience request.maxSize.toNat _ = result
    have hway := hresult ▸ c.reception patience request.maxSize.toNat _
    cases hway with
    | asleep c' _ hc => exact hidle _ c' hc rfl
    | refused e c' hwait hc => exact hidle _ c' hc (consumes_of_waitFor_error hwait record)
    | unnamed c' _ _ hc => exact hidle _ c' hc rfl
    | spoiled e i b w c' hi hb hcopy hw hc =>
      rw [c.copyOut_eq hsound (BufferPool.mem_of_getElem? hb)] at hcopy
      obtain rfl := fault_of_write_error hcopy
      rw [hc.holdings, holdings_relieved, hw.holdings]
      exact .took patience memory _ _ i b rfl rfl trivial hi hb
    | received kept i b w c' hi hb hcopy hw hc =>
      obtain ⟨answer, hanswer, hsize, hread⟩ := RxRequest.encodeReply_of_decode hdecode
        ⟨b.frame.lane, b.frame.vc, b.frame.length, (copyPlan b request.maxSize.toNat).2⟩
      dsimp only
      rw [hanswer]
      dsimp only
      rw [if_pos hsize, hc.holdings, holdings_relieved, hw.holdings]
      exact .took patience memory _ _ i b rfl rfl
        ⟨request, _, hread, rfl, rfl, rfl, covers_copyPlan b _⟩ hi hb

/-- Waiting for either direction takes and sends nothing. -/
theorem holdings_pollWait (c : Card Board) (interest : PollFlags) (limited : Bool) :
    (c.pollWait interest limited).2.holdings = c.holdings := by
  unfold pollWait
  dsimp only
  split
  · rfl
  · rfl
  · split <;> rfl

/-- Every call of a session is a step. -/
theorem step_call (c : Card Board) (hsound : c.holdings.Sound) (patience : Patience) (memory : CallerMemory)
    (call : Call) :
    c.holdings.Step (.call patience memory call) (Bench.makeCall c memory patience call).1.1
      (Bench.makeCall c memory patience call).2.holdings := by
  cases call with
  | send lane vc data =>
    change c.holdings.Step _ (.ofReply .number (c.send patience lane vc data).1)
      (c.send patience lane vc data).2.holdings
    unfold send
    split
    · exact c.step_submit hsound patience lane vc _ _ memory _ rfl
    · exact .idle _ _ ⟨rfl, fun _ => rfl⟩
  | recv buffer => exact c.step_recv hsound patience buffer memory
  | write record => exact c.step_writeRecord hsound patience record memory
  | read record => exact c.step_readRecord hsound patience record memory
  | pollWait interest limited =>
    have hsame := c.holdings_pollWait interest limited
    change c.holdings.Step _ (.ofReply (fun flags => .number flags.bits) (c.pollWait interest limited).1)
      (c.pollWait interest limited).2.holdings
    rw [hsame]
    refine .idle _ _ ⟨?_, nofun⟩
    cases (c.pollWait interest limited).1 with
    | asleep => rfl
    | returned result => cases result <;> rfl

/-! ## All moves -/

/-- Opening the card is a step: it succeeds only on a card that is closed. -/
theorem step_openSession (c : Card Board) (nonblock : Bool) :
    c.holdings.Step (.openSession nonblock) (.ofExcept (fun _ => .nothing) (c.openSession nonblock).1)
      (c.openSession nonblock).2.holdings := by
  unfold openSession
  split
  · exact .idle _ _ nofun
  · split
    · exact .idle _ _ nofun
    · rename_i hclosed
      rw [holdings_trace]
      exact .opened nonblock (Bool.not_eq_true _ ▸ hclosed)

/-- What the card does on its own side is a step. -/
theorem step_hold (c : Card Board) (on : Bool) :
    c.holdings.Step (.hold on) .nothing ((Board.hold c.host on).holdings c.device) := by
  cases on with
  | true => exact .held
  | false =>
    change c.holdings.Step _ _ (Host.holdings (Board.interrupt _) c.device)
    rw [Host.holdings_interrupt]
    exact .given

/-- Taking a free buffer off a lane is a step. -/
theorem step_takeFree (c : Card Board) (lane : Nat) :
    c.holdings.Step (.takeFree lane) (c.play (.takeFree lane)).1 (c.play (.takeFree lane)).2.holdings := by
  simp only [play]
  split
  · rename_i addr board htake
    obtain ⟨rest, hlist, rfl⟩ := Board.takeFrom?_eq_some htake
    have hlane := Board.lt_of_freeList_eq_cons hlist
    have hlifted : Card.holdings { c with host := { c.host with bus := c.host.bus.setFree lane rest } } =
        { c.holdings with free := Function.update c.holdings.free lane rest } := by
      simp only [holdings, Host.holdings, Board.freeList_setFree _ _ _ hlane]
      rfl
    rw [hlifted]
    exact .lifted lane addr rest hlane hlist
  · rename_i htake
    exact .missed lane (Board.takeFrom?_eq_none htake)

/-- Every move is a step. -/
theorem step (c : Card Board) (hsound : c.holdings.Sound) (m : Move) :
    c.holdings.Step m (c.play m).1 (c.play m).2.holdings := by
  have hidle (o : Outcome) (c' : Card Board) (hc : c'.holdings = c.holdings) (hm : Holdings.Idle m o) :
      c.holdings.Step m o c'.holdings := hc ▸ .idle m o hm
  cases m with
  | openSession nonblock => exact c.step_openSession nonblock
  | closeSession =>
    obtain ⟨ring, hempty, hcapacity, hcollisions, hclosed⟩ := c.holdings_closeSession
    change c.holdings.Step _ _ c.closeSession.holdings
    rw [hclosed]
    exact .closed ring hempty hcapacity hcollisions
  | call patience memory call => exact c.step_call hsound patience memory call
  | control command arg => exact hidle _ _ (c.holdings_control command arg) trivial
  | interrupt => exact hidle _ _ rfl trivial
  | notify listener =>
    refine hidle _ (c.setListener listener) ?_ trivial
    exact c.holdings_trace 0 _
  | status => exact hidle _ _ c.holdings_snapshot trivial
  | detach => exact hidle _ _ c.holdings_detach trivial
  | hold on => exact c.step_hold on
  | takeFree lane => exact c.step_takeFree lane
  | injectRx desc =>
    change c.holdings.Step _ _ (Host.holdings (Board.interrupt _) c.device)
    rw [Host.holdings_interrupt]
    exact .injectedRx desc
  | injectTx word =>
    change c.holdings.Step _ _ (Host.holdings (Board.interrupt _) c.device)
    rw [Host.holdings_interrupt]
    exact .injectedTx word
  | serve n =>
    obtain ⟨words, pairs, hdrained⟩ := c.drained_settleFor n
    exact .served n words pairs _ hdrained

/-- The addresses of the buffers stay the same throughout a run. -/
theorem addrs_of_run {allowed : List Happening → Card Board → Move → Prop} {start c : Card Board}
    {past : List Happening} (hrun : Run allowed start past c) (hstart : start.holdings.Sound) :
    c.holdings.txPool.addrs = start.holdings.txPool.addrs ∧
      c.holdings.rxPool.addrs = start.holdings.rxPool.addrs :=
  (hrun.invariant
    (fun _ c => c.holdings.Sound ∧ c.holdings.txPool.addrs = start.holdings.txPool.addrs ∧
      c.holdings.rxPool.addrs = start.holdings.rxPool.addrs)
    ⟨hstart, rfl, rfl⟩
    fun _ c m ⟨hsound, htx, hrx⟩ _ =>
      have hstep := c.step hsound m
      ⟨hstep.sound hsound, hstep.addrs.1.trans htx, hstep.addrs.2.trans hrx⟩).2

end Card

end LaneCard
