import LaneCard.Proofs.Refusal
import LaneCard.Proofs.SameSession
import LaneCard.Proofs.Signal

/-!
# Which moves use a cancellation up

A call that has to wait looks at the cancellation signal: if it is raised the call is cancelled, and
nothing but the signal and the journal has changed. A call that does not have to wait does not look at
it, whatever it answers, and neither does any other work on a card; only the start and the end of a
session drop it.
-/

namespace LaneCard

/-! ## Failures that are no cancellation -/

/-- Only the wait of a call is answered by asking for the call to be made again: a chain of steps that
do not fail in this way does not either. -/
theorem bind_ne_restart {α γ : Type} {x : Except CardError α} {f : α → Except CardError γ}
    (hx : x ≠ .error .restart) (hf : ∀ a, f a ≠ .error .restart) : (x >>= f) ≠ .error .restart := by
  cases x with
  | error e => exact fun h => hx (congrArg Except.error (Except.error.inj h))
  | ok a => exact hf a

/-- An answer in other words does not ask for the call to be made again either. -/
theorem map_ne_restart {α γ : Type} {x : Except CardError α} (hx : x ≠ .error .restart) (f : α → γ) :
    x.map f ≠ .error .restart := by
  cases x with
  | error e => exact fun h => hx (congrArg Except.error (Except.error.inj h))
  | ok a => exact nofun

/-- Only one failure is a cancellation. -/
theorem Reply.isCancelled_returned {α : Type} {result : Except CardError α} (hresult : result ≠ .error .restart) :
    (Reply.returned result).isCancelled = false := by
  unfold Reply.isCancelled
  split
  · rename_i h
    exact absurd (Reply.returned.inj h) hresult
  · rfl

namespace CallerMemory

/-- Nor does a place in the caller's memory that cannot be accessed. -/
theorem locate_ne_restart (m : CallerMemory) (addr length : Nat) : m.locate addr length ≠ .error .restart := by
  unfold locate
  split
  · split <;> simp
  · simp

/-- Nor does reading the caller's memory. -/
theorem read_ne_restart (m : CallerMemory) (addr length : Nat) : m.read addr length ≠ .error .restart :=
  map_ne_restart (m.locate_ne_restart addr length) _

/-- Nor does writing it. -/
theorem write_ne_restart (m : CallerMemory) (addr : Nat) (data : Bytes) : m.write addr data ≠ .error .restart :=
  map_ne_restart (m.locate_ne_restart addr data.size) _

end CallerMemory

namespace Buffer

/-- Nor does a frame that is too long for its buffer. -/
theorem checkLength_ne_restart (b : Buffer) (length : Nat) : b.checkLength length ≠ .error .restart := by
  unfold checkLength
  split <;> simp

/-- Nor does a buffer that is too small. -/
theorem fill_ne_restart (b : Buffer) (a : Allocator) (data : Bytes) : b.fill a data ≠ .error .restart := by
  refine bind_ne_restart (b.checkLength_ne_restart data.size) fun _ => ?_
  unfold Allocator.write
  split <;> simp [Except.mapError, CardError.ofPlatform]

/-- Nor does reading the payload of a buffer. -/
theorem payload_ne_restart (b : Buffer) (a : Allocator) (length : Nat) : b.payload a length ≠ .error .restart := by
  refine bind_ne_restart (b.checkLength_ne_restart length) fun _ => ?_
  unfold Allocator.read
  split <;> simp [Except.mapError, CardError.ofPlatform]

end Buffer

/-- Nor does a record that cannot be read. -/
theorem CardError.ofRecord_ne_restart (e : RecordError) : CardError.ofRecord e ≠ .restart := by
  cases e <;> simp [CardError.ofRecord]

/-- Nor does a command, whatever it is. -/
theorem Card.control_ne_restart (c : Card Board) (command : Command) (arg : Pointer) :
    (c.control command arg).1 ≠ .error .restart := by
  have hindexed (offset : Nat) (index : UInt8) (word : Word) :
      c.writeIndexed command offset index word ≠ .error .restart := by
    unfold writeIndexed
    split <;> simp
  have hperform (word : Word) : c.perform command word ≠ .error .restart := by
    cases command with
    | evrRunCode index | evrAcceptCode index | evrRunDelay index | evrAcceptDelay index => exact hindexed _ index word
    | _ => simp [perform]
  unfold control
  dsimp only
  split
  · simp
  · cases hdone : c.perform command (arg.setWidth 32) with
    | error e =>
      rw [← hdone]
      exact fun h => hperform _ (hdone.trans (congrArg Except.error (Except.error.inj (hdone ▸ h))))
    | ok => simp

namespace Card

/-! ## Waiting -/

/-- Whether a call for the ring has to wait: there is nothing in it, the card is in use, and the caller is
ready to wait. -/
def waitsFor (c : Card Board) (patience : Patience) (ring : Ring) : Bool :=
  ring.isEmpty && !c.device.detached && decide (patience ≠ .refuses)

/-- What a wait comes to: the caller sleeps or was cancelled if it has to wait, and else goes on or fails
without looking at the signal. -/
inductive Waited (c : Card Board) (patience : Patience) (ring : Ring) : Reply Unit × Card Board → Prop
  | asleep (w : Card Board) (hwaits : c.waitsFor patience ring = true) (hsignal : c.device.signal = false)
      (hsame : w.device.signal = false) : Waited c patience ring (.asleep, w)
  | cancelled (w : Card Board) (hwaits : c.waitsFor patience ring = true) (hsignal : c.device.signal = true)
      (hused : w.device.signal = false) (hw : c.Unmoved w) : Waited c patience ring (.returned (.error .restart), w)
  | refused (e : CardError) (w : Card Board) (hwaits : c.waitsFor patience ring = false) (he : e ≠ .restart)
      (hsame : w.device.signal = c.device.signal) : Waited c patience ring (.returned (.error e), w)
  | ready (w : Card Board) (hwaits : c.waitsFor patience ring = false)
      (hsame : w.device.signal = c.device.signal) : Waited c patience ring (.returned (.ok ()), w)

/-- A wait comes to one of these. -/
theorem waited_waitFor (c : Card Board) (patience : Patience) (ring : Ring) :
    c.Waited patience ring (c.waitFor patience ring) := by
  obtain ⟨journal, hwait⟩ := c.waitFor_eq patience ring
  have hunmoved := (c.waitFor_unmoved patience ring).1
  rw [hwait] at hunmoved ⊢
  unfold waitAnswer at hunmoved ⊢
  cases hempty : ring.isEmpty with
  | false => exact .ready _ (by simp [waitsFor, hempty]) (by simp [waited, Reply.isCancelled])
  | true =>
    cases hdetached : c.device.detached with
    | true => exact .refused _ _ (by simp [waitsFor, hdetached]) (by simp) (by simp [waited, Reply.isCancelled])
    | false =>
      by_cases hrefuses : patience = .refuses
      · simp only [hrefuses, Bool.not_true, Bool.false_eq_true, if_false, if_true]
        exact .refused _ _ (by simp [waitsFor]) (by simp) (by simp [waited, Reply.isCancelled])
      · have hwaits : c.waitsFor patience ring = true := by simp [waitsFor, hempty, hdetached, hrefuses]
        simp only [hempty, hdetached, hrefuses, Bool.not_true, Bool.false_eq_true, if_false] at hunmoved ⊢
        cases hsignal : c.device.signal with
        | true =>
          rw [hsignal] at hunmoved
          exact .cancelled _ hwaits hsignal (by simp [waited, Reply.isCancelled]) hunmoved
        | false => exact .asleep _ hwaits hsignal (by simp [waited, hsignal])

/-- What a call does with the cancellation signal. If it has to wait it uses the signal up, and is cancelled
if it was raised, with nothing else moved; if it was not, the call sleeps unless its time is limited. A call
that does not have to wait leaves the signal. -/
structure Heeded (c : Card Board) (waits limited : Bool) {α : Type} (reply : Reply α) (c' : Card Board) : Prop where
  cancelled : reply.isCancelled = (waits && c.device.signal)
  asleep : reply = .asleep ↔ waits = true ∧ c.device.signal = false ∧ limited = false
  signal : c'.device.signal = (c.device.signal && !waits)
  unmoved : reply.isCancelled = true → c.Unmoved c'

namespace Heeded

variable {c c' : Card Board} {α : Type}

/-- A call that returned, and was not cancelled. -/
theorem returned {result : Except CardError α} (hresult : result ≠ .error .restart)
    (hsignal : c'.device.signal = c.device.signal) (limited : Bool) :
    c.Heeded false limited (Reply.returned result) c' := by
  have hkept := Reply.isCancelled_returned hresult
  exact ⟨by rw [hkept, Bool.false_and], by simp, by rw [hsignal]; simp, by simp [hkept]⟩

/-- A call that has waited for as long as it may. -/
theorem timedOut {result : Except CardError α} (hresult : result ≠ .error .restart)
    (hsignal : c.device.signal = false) (hsame : c'.device.signal = false) :
    c.Heeded true true (Reply.returned result) c' := by
  have hkept := Reply.isCancelled_returned hresult
  exact ⟨by rw [hkept, hsignal, Bool.and_false], by simp, by rw [hsame, hsignal, Bool.false_and], by simp [hkept]⟩

/-- One that succeeded. -/
theorem succeeded (a : α) (hsignal : c'.device.signal = c.device.signal) (limited : Bool) :
    c.Heeded false limited (Reply.returned (.ok a)) c' := returned (by nofun) hsignal limited

/-- One that failed for a reason of its own. -/
theorem failed {e : CardError} (he : e ≠ .restart) (hsignal : c'.device.signal = c.device.signal) (limited : Bool) :
    c.Heeded false limited (Reply.returned (.error e) : Reply α) c' :=
  returned (fun h => he (Except.error.inj h)) hsignal limited

/-- A call that was cancelled. -/
theorem restart (hsignal : c.device.signal = true) (hused : c'.device.signal = false) (hmoved : c.Unmoved c')
    (limited : Bool) : c.Heeded true limited (Reply.returned (.error .restart : Except CardError α)) c' :=
  ⟨by simp [Reply.isCancelled, hsignal], by simp [hsignal], by simp [hused], fun _ => hmoved⟩

/-- What a call gives may be put in other words. -/
theorem map {waits limited : Bool} {reply : Reply α} (h : c.Heeded waits limited reply c') {γ : Type}
    (f : α → γ) : c.Heeded waits limited (reply.map f) c' := by
  cases reply with
  | asleep => exact ⟨h.cancelled, ⟨fun _ => h.asleep.mp rfl, fun _ => rfl⟩, h.signal, h.unmoved⟩
  | returned result =>
    cases result with
    | error e =>
      refine ⟨?_, ⟨nofun, fun hwaits => nomatch h.asleep.mpr hwaits⟩, h.signal, fun hcancelled => h.unmoved ?_⟩
      · rw [← h.cancelled]
        cases e <;> rfl
      · rw [← hcancelled]
        cases e <;> rfl
    | ok a => exact ⟨h.cancelled, ⟨nofun, fun hwaits => nomatch h.asleep.mpr hwaits⟩, h.signal, nofun⟩

/-- A call that sleeps. -/
theorem sleeps (hsignal : c.device.signal = false) (hsame : c'.device.signal = false) :
    c.Heeded true false (Reply.asleep : Reply α) c' :=
  ⟨by simp [Reply.isCancelled, hsignal], by simp [hsignal], by simp [hsame], nofun⟩

end Heeded

/-! ## Calls -/

/-- A frame that is sent waits for a free buffer, if it fits one. -/
theorem heeded_submit (c : Card Board) (patience : Patience) (lane vc size : Word)
    {source : Nat → Except CardError Bytes} (hsource : ∀ bytes, source bytes ≠ .error .restart) :
    c.Heeded (decide (size.toNat * wordSize ≤ c.device.txPool.bufferSize) && c.waitsFor patience c.device.txFree)
      false (c.submit patience lane vc size source).1 (c.submit patience lane vc size source).2 := by
  have hwait := c.waited_waitFor patience c.device.txFree
  unfold submit
  dsimp only
  split
  · rename_i hlong
    rw [decide_eq_false (by omega), Bool.false_and]
    refine .failed (by nofun) ?_ _
    rfl
  · rename_i hfits
    rw [decide_eq_true (by omega), Bool.true_and]
    generalize c.waitFor patience c.device.txFree = waited at hwait
    cases hwait with
    | asleep w hwaits hsignal hsame =>
      rw [hwaits]
      exact .sleeps hsignal hsame
    | cancelled w hwaits hsignal hused hw =>
      rw [hwaits]
      exact .restart hsignal hused hw _
    | refused e w hwaits he hsame =>
      rw [hwaits]
      exact .failed he hsame _
    | ready w hwaits hsame =>
      rw [hwaits]
      dsimp only
      split
      · exact .failed (by nofun) hsame _
      · rename_i i b _
        have hfill := bind_ne_restart (hsource (size.toNat * wordSize)) (b.fill_ne_restart w.host.buffers)
        split
        · rename_i e he
          exact .failed (fun h => hfill (he.trans (congrArg Except.error h))) hsame _
        · refine .succeeded _ ?_ _
          rw [device_trace]
          split <;> exact hsame

/-- Receiving waits for a frame. -/
theorem heeded_receive {γ : Type} (c : Card Board) (patience : Patience) (maxSize : Nat)
    {sink : Bytes → Except CardError γ} (hsink : ∀ bytes, sink bytes ≠ .error .restart) :
    c.Heeded (c.waitsFor patience c.device.rxReady) false (c.receive patience maxSize sink).1
      (c.receive patience maxSize sink).2 := by
  have hwait := c.waited_waitFor patience c.device.rxReady
  unfold receive
  generalize c.waitFor patience c.device.rxReady = waited at hwait
  cases hwait with
  | asleep w hwaits hsignal hsame =>
    rw [hwaits]
    exact .sleeps hsignal hsame
  | cancelled w hwaits hsignal hused hw =>
    rw [hwaits]
    exact .restart hsignal hused hw _
  | refused e w hwaits he hsame =>
    rw [hwaits]
    exact .failed he hsame _
  | ready w hwaits hsame =>
    rw [hwaits]
    dsimp only
    split
    · exact .failed (by nofun) hsame _
    · rename_i b _
      -- Up to two lines go to the journal before the frame is copied.
      generalize hlate : (if b.frame.flags.isEmpty = true then _ else _ : Card Board) = late
      have hlater : late.device.signal = c.device.signal := by
        subst hlate
        split <;> split <;> exact hsame
      have hcopy := bind_ne_restart (b.payload_ne_restart late.host.buffers ((copyPlan b maxSize).1 * wordSize)) hsink
      split
      · rename_i e he
        refine .failed (fun h => hcopy (he.trans (congrArg Except.error h))) ?_ _
        exact hlater
      · refine .succeeded _ ?_ _
        rw [device_trace]
        exact hlater

/-- A wait for something of interest looks at what there is and whether the card is detached, and then at
the signal. A session that was told not to wait is no exception. -/
theorem heeded_pollWait (c : Card Board) (interest : PollFlags) (limited : Bool) :
    c.Heeded (!(c.poll.inter interest).any && !c.device.detached) limited (c.pollWait interest limited).1
      (c.pollWait interest limited).2 := by
  have hanswer : ∃ result, result ≠ .error .restart ∧
      (if !(c.poll.inter interest).any && c.device.detached then Reply.returned (.error .noDevice)
        else .returned (.ok (c.poll.inter interest))) = .returned result := by
    split
    · exact ⟨_, by nofun, rfl⟩
    · exact ⟨_, by nofun, rfl⟩
  obtain ⟨result, hresult, hanswered⟩ := hanswer
  unfold pollWait
  dsimp only
  rw [hanswered]
  unfold WaitQueue.look
  cases hready : (c.poll.inter interest).any || c.device.detached with
  | true =>
    have hgoes : (!(c.poll.inter interest).any && !c.device.detached) = false := by
      rw [← Bool.not_or, hready]
      rfl
    rw [hgoes]
    exact .returned hresult rfl _
  | false =>
    have hwaits : (!(c.poll.inter interest).any && !c.device.detached) = true := by
      rw [← Bool.not_or, hready]
      rfl
    rw [hwaits]
    cases hsignal : c.device.signal with
    | true =>
      refine .restart hsignal ?_ ?_ _
      · rfl
      · exact ⟨rfl, rfl, fun _ => hsignal⟩
    | false =>
      cases limited with
      | true => exact .timedOut hresult hsignal hsignal
      | false => exact .sleeps hsignal hsignal

/-- Work that does not look at the signal leaves it. -/
theorem signal_of_signalled (work : Card Board → Card Board)
    (hwork : ∀ (c : Card Board) (raised : Bool), work (c.signalled raised) = (work c).signalled raised)
    (c : Card Board) : (work c).device.signal = c.device.signal := by
  have hsame : work c = (work c).signalled c.device.signal := hwork c c.device.signal
  rw [hsame]
  rfl

/-- A command leaves the signal. -/
theorem signal_control (c : Card Board) (command : Command) (arg : Pointer) :
    (c.control command arg).2.device.signal = c.device.signal :=
  signal_of_signalled (fun w => (w.control command arg).2)
    (fun w raised => congrArg Prod.snd (w.control_signalled raised command arg)) c

/-- Whether a call has to wait. A call that sends a frame that fits waits for a free buffer, and one that
receives waits for a frame; neither waits on a card that was detached, or if it was told not to. A wait for
something of interest has to wait if there is nothing, on a card that is in use. -/
def mustWait (c : Card Board) (patience : Patience) : Call → Bool
  | .pollWait interest _ => !(c.poll.inter interest).any && !c.device.detached
  | call =>
    (call.outgoing?.any fun size =>
      decide (size.toNat * wordSize ≤ c.device.txPool.bufferSize) && c.waitsFor patience c.device.txFree) ||
    (call.incoming?.isSome && c.waitsFor patience c.device.rxReady)

/-- What a call with the caller's memory does with the signal: a call that was cancelled has not touched the
memory. -/
structure HeededWith (c : Card Board) (memory : CallerMemory) (waits : Bool)
    (done : Reply Nat × Card Board × CallerMemory) : Prop where
  heeded : c.Heeded waits false done.1 done.2.1
  memory : done.1.isCancelled = true → done.2.2 = memory

namespace HeededWith

variable {c w : Card Board} {memory : CallerMemory}

/-- A call that failed for a reason of its own. -/
theorem failed {e : CardError} (he : e ≠ .restart) (hw : w.device.signal = c.device.signal) (after : CallerMemory) :
    c.HeededWith memory false (.returned (.error e), w, after) :=
  ⟨.failed he hw _, fun h => absurd h (by rw [Reply.isCancelled_returned (by simpa using he)]; nofun)⟩

/-- A call that succeeded. -/
theorem succeeded (n : Nat) (hw : w.device.signal = c.device.signal) (after : CallerMemory) :
    c.HeededWith memory false (.returned (.ok n), w, after) := ⟨.succeeded n hw _, nofun⟩

end HeededWith

/-- A transmit record waits for a free buffer if it sends a frame that fits one. -/
theorem heeded_writeRecord (c : Card Board) (patience : Patience) (record : Bytes) (memory : CallerMemory) :
    c.HeededWith memory (c.mustWait patience (.write record)) (c.writeRecord patience record memory) := by
  cases hrecord : TxRequest.decode record with
  | error e =>
    have hgoes : c.mustWait patience (.write record) = false := by
      simp [mustWait, Call.outgoing?, Call.incoming?, hrecord]
    rw [hgoes, writeRecord, hrecord]
    refine .failed (CardError.ofRecord_ne_restart e) ?_ _
    rfl
  | ok request =>
    have hwaits : c.mustWait patience (.write record) =
        (decide (Command.ofCode? request.cmd.toNat = some .normalWrite) &&
          (decide (request.size.toNat * wordSize ≤ c.device.txPool.bufferSize) &&
            c.waitsFor patience c.device.txFree)) := by
      simp only [mustWait, Call.outgoing?, Call.incoming?, hrecord]
      split <;> simp_all
    rw [hwaits, writeRecord, hrecord]
    dsimp only
    split
    · rename_i hcommand
      rw [hcommand]
      refine .failed (by simp) ?_ _
      rfl
    · rename_i hcommand
      rw [hcommand, decide_eq_true rfl, Bool.true_and]
      exact ⟨c.heeded_submit patience request.lane request.vc request.size fun _ => memory.read_ne_restart _ _,
        fun _ => rfl⟩
    · rename_i command hother hcommand
      have hnone : ¬ some command = some Command.normalWrite := fun h => hother (Option.some.inj h)
      rw [hcommand, decide_eq_false hnone, Bool.false_and]
      have hfails := c.control_ne_restart command request.data
      have hsignal := c.signal_control command request.data
      generalize c.control command request.data = controlled at hfails hsignal
      obtain ⟨result, w⟩ := controlled
      cases result with
      | error e => exact .failed (fun h => hfails (congrArg Except.error h)) hsignal _
      | ok answer =>
        cases answer with
        | done => exact .succeeded 0 hsignal _
        | status status =>
          dsimp only
          split
          · exact .succeeded 0 hsignal _
          · rename_i e hstored
            have hwrite := memory.write_ne_restart request.data.toNat status.toRecord
            refine .failed (fun h => hwrite (hstored.trans (congrArg Except.error h))) ?_ _
            exact hsignal

/-- A receive record waits for a frame, if it can be read. -/
theorem heeded_readRecord (c : Card Board) (patience : Patience) (record : Bytes) (memory : CallerMemory) :
    c.HeededWith memory (c.mustWait patience (.read record))
        ((c.readRecord patience record memory).1, (c.readRecord patience record memory).2.2) := by
  cases hrecord : RxRequest.decode record with
  | error e =>
    have hgoes : c.mustWait patience (.read record) = false := by
      simp [mustWait, Call.outgoing?, Call.incoming?, hrecord]
    rw [hgoes, readRecord, hrecord]
    refine .failed (CardError.ofRecord_ne_restart e) ?_ _
    rfl
  | ok request =>
    have hwaits : c.mustWait patience (.read record) = c.waitsFor patience c.device.rxReady := by
      simp [mustWait, Call.outgoing?, Call.incoming?, hrecord]
    have hreceived := c.heeded_receive patience request.maxSize.toNat fun bytes =>
      memory.write_ne_restart request.data.toNat bytes
    rw [hwaits, c.readRecord_eq patience hrecord memory]
    generalize c.receive patience request.maxSize.toNat (memory.write request.data.toNat) = received at hreceived
    obtain ⟨reply, w⟩ := received
    have hcopied := hreceived.map fun taken => taken.1.copied
    cases reply with
    | asleep => exact ⟨hcopied, fun _ => rfl⟩
    | returned result =>
      cases result with
      | error e => exact ⟨hcopied, fun _ => rfl⟩
      | ok taken =>
        have hkept : (Reply.returned (.ok taken.1.copied) : Reply Nat).isCancelled = false := rfl
        exact ⟨hcopied, fun h => absurd (hkept.symm.trans h) Bool.false_ne_true⟩

end Card

/-! ## Every move -/

/-- Whether a call was cancelled. -/
def Outcome.isCancelled : Outcome → Bool
  | failed .restart => true
  | record (.error .restart) _ => true
  | _ => false

/-- Whether the time of a call is limited. -/
def Call.isLimited : Call → Bool
  | pollWait _ limited => limited
  | _ => false

namespace Card

/-- What a call does with the cancellation signal, whatever it asks for: see `Card.Heeded`. -/
structure HeededCall (c : Card Board) (patience : Patience) (memory : CallerMemory) (call : Call)
    (done : (Outcome × CallerMemory) × Card Board) : Prop where
  cancelled : done.1.1.isCancelled = (c.mustWait patience call && c.device.signal)
  asleep : done.1.1 = .asleep ↔ c.mustWait patience call = true ∧ c.device.signal = false ∧ call.isLimited = false
  signal : done.2.device.signal = (c.device.signal && !c.mustWait patience call)
  unmoved : done.1.1.isCancelled = true → c.Unmoved done.2 ∧ done.1.2 = memory

/-- What a call answers tells whether it was cancelled, and whether it sleeps. -/
theorem Heeded.call {c c' : Card Board} {waits : Bool} {patience : Patience} {memory after : CallerMemory}
    {call : Call} {α : Type} {reply : Reply α} (h : c.Heeded waits call.isLimited reply c')
    (hwaits : c.mustWait patience call = waits) (hmemory : reply.isCancelled = true → after = memory) {o : Outcome}
    (hcancelled : o.isCancelled = reply.isCancelled) (hasleep : o = .asleep ↔ reply = .asleep) :
    c.HeededCall patience memory call ((o, after), c') where
  cancelled := by rw [hwaits, ← h.cancelled, hcancelled]
  asleep := by rw [hwaits, ← h.asleep, hasleep]
  signal := by rw [hwaits, ← h.signal]
  unmoved hyes := ⟨h.unmoved (hcancelled ▸ hyes), hmemory (hcancelled ▸ hyes)⟩

/-- An answer in words tells it. -/
theorem isCancelled_ofReply {α : Type} (f : α → Outcome) (hf : ∀ a, (f a).isCancelled = false ∧ f a ≠ .asleep)
    (reply : Reply α) :
    (Outcome.ofReply f reply).isCancelled = reply.isCancelled ∧
      (Outcome.ofReply f reply = .asleep ↔ reply = .asleep) := by
  cases reply with
  | asleep => exact ⟨rfl, by simp [Outcome.ofReply]⟩
  | returned result =>
    cases result with
    | error e => exact ⟨by cases e <;> rfl, by simp [Outcome.ofReply, Outcome.ofExcept]⟩
    | ok a => exact ⟨(hf a).1, by simp [Outcome.ofReply, Outcome.ofExcept, (hf a).2]⟩

/-- Every call heeds the signal if it has to wait, and only then. -/
theorem heeded_makeCall (c : Card Board) (patience : Patience) (memory : CallerMemory) (call : Call) :
    c.HeededCall patience memory call (Bench.makeCall c memory patience call) := by
  have hnumber {α : Type} (f : α → Nat) := isCancelled_ofReply (fun a => .number (f a)) fun _ => ⟨rfl, nofun⟩
  cases call with
  | send lane vc data =>
    have hsent : c.Heeded (c.mustWait patience (.send lane vc data)) false (c.send patience lane vc data).1
        (c.send patience lane vc data).2 := by
      by_cases hlength : data.length < wordSpan
      · have hwaits : c.mustWait patience (.send lane vc data) =
            (decide ((BitVec.ofNat 32 data.length : Word).toNat * wordSize ≤ c.device.txPool.bufferSize) &&
              c.waitsFor patience c.device.txFree) := by
          simp [mustWait, Call.outgoing?, Call.incoming?, hlength]
        rw [hwaits, c.send_eq_submit patience lane vc hlength]
        exact c.heeded_submit patience lane vc _ fun _ => by nofun
      · have hgoes : c.mustWait patience (.send lane vc data) = false := by
          simp [mustWait, Call.outgoing?, Call.incoming?, hlength]
        rw [hgoes, send, if_neg hlength]
        exact .failed (by nofun) rfl _
    obtain ⟨hcancelled, hasleep⟩ := hnumber id (c.send patience lane vc data).1
    exact Heeded.call hsent rfl (fun _ => rfl) hcancelled hasleep
  | recv buffer =>
    have hreceived : c.Heeded (c.waitsFor patience c.device.rxReady) false (c.recv patience buffer).1
        (c.recv patience buffer).2 := c.heeded_receive patience buffer.length fun _ => by nofun
    have hwaits : c.mustWait patience (.recv buffer) = c.waitsFor patience c.device.rxReady := by
      simp [mustWait, Call.outgoing?, Call.incoming?]
    obtain ⟨hcancelled, hasleep⟩ := isCancelled_ofReply
      (fun taken : RxFrame × List Word => Outcome.frame taken.1 taken.2) (fun _ => ⟨rfl, nofun⟩)
      (c.recv patience buffer).1
    exact Heeded.call hreceived hwaits (fun _ => rfl) hcancelled hasleep
  | write record =>
    have hwritten := c.heeded_writeRecord patience record memory
    obtain ⟨hcancelled, hasleep⟩ := hnumber id (c.writeRecord patience record memory).1
    exact Heeded.call hwritten.heeded rfl hwritten.memory hcancelled hasleep
  | read record =>
    have hread := c.heeded_readRecord patience record memory
    simp only [Bench.makeCall]
    generalize c.readRecord patience record memory = result at hread
    obtain ⟨reply, record', c', after⟩ := result
    cases reply with
    | asleep => exact Heeded.call hread.heeded rfl hread.memory rfl (by simp)
    | returned result =>
      refine Heeded.call hread.heeded rfl hread.memory ?_ (by simp)
      cases result with
      | error e => cases e <;> rfl
      | ok n => rfl
  | pollWait interest limited =>
    obtain ⟨hcancelled, hasleep⟩ := hnumber PollFlags.bits (c.pollWait interest limited).1
    exact Heeded.call (c.heeded_pollWait interest limited) rfl (fun _ => rfl) hcancelled hasleep

/-- Whether a move uses a raised signal up, or drops it: a call that has to wait, the end of a session, and
the start of one. -/
def drops (c : Card Board) : Move → Bool
  | .call patience _ call => c.mustWait patience call
  | .openSession _ => !c.device.detached && !c.device.isOpen
  | .closeSession => true
  | _ => false

/-- Moves that cancel nothing raise no signal. -/
theorem signal_play_of_ne (c : Card Board) {m : Move} (hm : m ≠ .interrupt) :
    (c.play m).2.device.signal = (c.device.signal && !c.drops m) := by
  have hkept {raised : Bool} (h : raised = c.device.signal) : raised = (c.device.signal && !false) := by simp [h]
  cases m with
  | openSession nonblock =>
    rcases c.openSession_cases nonblock with ⟨hdetached, hopened⟩ | ⟨hdetached, hopen, journal, hopened⟩ |
      ⟨hdetached, hopen, journal, hopened⟩
    · simp [play, drops, hopened, hdetached]
    · simp [play, drops, hopened, hdetached, hopen]
    · simp [play, drops, hopened, hdetached, hopen]
  | closeSession =>
    have hdropped : c.closeSession.device.signal = false := rfl
    simp [play, drops, hdropped]
  | call patience memory call => exact (c.heeded_makeCall patience memory call).signal
  | control command arg => exact hkept (c.signal_control command arg)
  | interrupt => contradiction
  | notify listener =>
    exact hkept (signal_of_signalled (·.setListener listener)
      (fun w raised => w.setListener_signalled raised listener) c)
  | detach => exact hkept (signal_of_signalled _ detach_signalled c)
  | takeFree lane =>
    refine hkept ?_
    unfold play
    dsimp only
    split <;> rfl
  | serve n => exact hkept (signal_of_signalled _ (fun w raised => settleFor_signalled w raised n) c)
  | status | hold | injectRx | injectTx => exact hkept rfl

/-- The signal is raised by a cancellation only, and lowered by the moves that use it up or drop it. -/
theorem signal_play (c : Card Board) (m : Move) :
    (c.play m).2.device.signal = true ↔ m = .interrupt ∨ (c.device.signal = true ∧ c.drops m = false) := by
  by_cases hm : m = .interrupt
  · subst hm
    exact ⟨fun _ => .inl rfl, fun _ => rfl⟩
  · rw [c.signal_play_of_ne hm]
    simp [hm]

/-- Nothing but a call is cancelled. -/
theorem isCancelled_play (c : Card Board) (m : Move) (h : (c.play m).1.isCancelled = true) :
    ∃ patience memory call, m = .call patience memory call := by
  cases m with
  | call patience memory call => exact ⟨patience, memory, call, rfl⟩
  | openSession nonblock =>
    rcases c.openSession_cases nonblock with
      ⟨-, hopened⟩ | ⟨-, -, journal, hopened⟩ | ⟨-, -, journal, hopened⟩
    all_goals
      rw [play, hopened] at h
      contradiction
  | control command arg =>
    have hfails := c.control_ne_restart command arg
    simp only [play] at h
    generalize c.control command arg = controlled at hfails h
    obtain ⟨result, w⟩ := controlled
    cases result with
    | error e => cases e <;> contradiction
    | ok answer => cases answer <;> contradiction
  | takeFree lane =>
    unfold play at h
    dsimp only at h
    split at h <;> contradiction
  | closeSession | interrupt | notify | status | detach | hold | injectRx | injectTx | serve => contradiction

end Card

end LaneCard
