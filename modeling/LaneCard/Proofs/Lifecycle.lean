import LaneCard.Bench.Play
import LaneCard.Proofs.Handler
import LaneCard.Proofs.HandlerSteps
import LaneCard.Proofs.Tables
import LaneCard.Proofs.Undoing
import Mathlib.Logic.Relation

/-!
# Lives of attachments

On a bench where cards are only attached, opened, closed, detached and released, few things happen to a
simulated card and to the attachments of drivers to it: `Bench.Change` lists them. No frame is on its
way, so that nothing of what a session or the completion handler does reaches the card, apart from the
interrupts that a card no longer has once it is detached. What every such change keeps, a whole history
keeps: `Bench.History` is any number of changes one after the other.
-/

namespace LaneCard

/-! ## One card -/

/-- A card that receives no frames and is in reset. -/
structure Board.Resting (b : Board) : Prop where
  limit : b.regs.get Offset.rxMaxFrame = 0#32
  reset : ResetWord.cardReset.isSet (b.regs.get Offset.cardRstStat) = true

/-- A card that receives frames of up to so many bytes. -/
structure Board.Receiving (b : Board) (bytes : Nat) : Prop where
  limit : b.regs.get Offset.rxMaxFrame = BitVec.ofNat 32 bytes ||| 0x80000000#32
  reset : ResetWord.cardReset.isSet (b.regs.get Offset.cardRstStat) = false

/-- A card that was just made rests. -/
theorem Board.resting_new : Board.new.Resting := ⟨by decide, by decide⟩

/-- Releasing a pool to the memory that the card reaches. -/
theorem Host.releasePool_of_shared (h : Host Board) (p : BufferPool) (hshared : h.apart = none) :
    ∃ journal, h.releasePool p =
      { h with
        memory := (BufferPool.releaseRegions h.memory (p.buffers.toList.reverse.map Buffer.region)).1
        journal := journal } := by
  cases h with
  | mk bus memory line apart journal =>
    obtain rfl : apart = none := hshared
    exact ⟨_, rfl⟩

namespace Card

/-- What is done to a card that is not released: the registers and the buffers stay as they are, and the
card is at most detached, which closes its interrupt line. -/
structure Tended (c c' : Card Board) : Prop where
  memory : c'.host.memory = c.host.memory
  apart : c'.host.apart = c.host.apart
  regs : ∀ offset, offset ≠ Offset.irq → c'.host.bus.regs.get offset = c.host.bus.regs.get offset
  free : c'.host.bus.free = c.host.bus.free
  completions : c'.host.bus.hasCompletions = c.host.bus.hasCompletions
  txPool : c'.device.txPool = c.device.txPool
  rxPool : c'.device.rxPool = c.device.rxPool
  rxReady : c'.device.rxReady = c.device.rxReady
  notices : c'.device.notices = c.device.notices
  address : c'.device.address = c.device.address
  ending : (c'.device.detached = c.device.detached ∧ c'.host.line.closed = c.host.line.closed ∧
      c'.host.bus.irqEnabled = c.host.bus.irqEnabled) ∨
    (c.device.detached = false ∧ c'.device.detached = true ∧ c'.host.line.closed = true)

namespace Tended

variable {c c' : Card Board}

/-- Nothing was done. -/
theorem refl (c : Card Board) : c.Tended c :=
  ⟨rfl, rfl, fun _ _ => rfl, rfl, rfl, rfl, rfl, rfl, rfl, rfl, .inl ⟨rfl, rfl, rfl⟩⟩

/-- A line in the journal changes nothing else. -/
theorem note (h : c.Tended c') (level : Level) (text : String) : c.Tended (c'.note level text) := { h with }

/-- Neither does a line for debugging. -/
theorem trace (h : c.Tended c') (threshold : Nat) (text : String) : c.Tended (c'.trace threshold text) :=
  c'.trace_induction c.Tended h h.note threshold text

end Tended

/-- Opening a card changes the driver's side only. -/
theorem tended_openSession (c : Card Board) (nonblock : Bool) : c.Tended (c.openSession nonblock).2 := by
  unfold openSession
  split
  · exact .refl c
  · split
    · exact (Tended.refl c).note _ _
    · have hopened : c.Tended { c with device := { c.device with isOpen := true, signal := false } } :=
        { Tended.refl c with }
      exact hopened.trace _ _

/-- Closing a card without unread frames changes the driver's side only. -/
theorem tended_closeSession (c : Card Board) (hunread : c.device.rxReady.toList = []) :
    c.Tended c.closeSession := by
  have hnone : c.device.rxReady.length = 0 := by
    rw [← Ring.length_toList, hunread]
    rfl
  have hclosed : c.Tended
      { c with
        device :=
          { c.device with
            isOpen := false
            droppedClosed := c.device.droppedClosed + 0
            listener := none
            signal := false } } := { Tended.refl c with }
  unfold closeSession
  dsimp only
  rw [hnone]
  exact hclosed.note _ _

/-- Detaching a card closes its line. -/
theorem tended_detach (c : Card Board) : c.Tended c.detach := by
  unfold detach
  split
  · exact .refl c
  · rename_i hattached
    have hstore : c.host.write Offset.irq 0#32 = _ := Board.store_irq_of_disable c.host 0#32 (by decide)
    refine Tended.note ?_ _ _
    exact
      { memory := by simp only [Card.write, hstore]
        apart := by simp only [Card.write, hstore]
        regs := fun offset hirq => by simp only [Card.write, hstore, RegisterFile.get_set, if_neg hirq]
        free := by simp only [Card.write, hstore, Board.logged]
        completions := by simp only [Card.write, hstore]; rfl
        txPool := rfl
        rxPool := rfl
        rxReady := rfl
        notices := rfl
        address := rfl
        ending := .inr ⟨by simpa using hattached, rfl, rfl⟩ }

/-- A card that was detached is detached. -/
@[simp] theorem detached_detach (c : Card Board) : c.detach.device.detached = true := by
  unfold detach
  split
  · assumption
  · rfl

/-- Without completions, handling interrupts takes at most what is pending off the line. -/
theorem settleFor_of_idle (n : Nat) (c : Card Board) (hidle : c.host.bus.hasCompletions = false) :
    ∃ line, settleFor n c = { c with host := { c.host with line := line } } ∧
      line.closed = c.host.line.closed := by
  induction n generalizing c with
  | zero => exact ⟨_, rfl, rfl⟩
  | succ n ih =>
    rw [settleFor]
    split
    · rename_i line hwait
      have hstill : line.closed = c.host.line.closed := IrqLine.closed_of_wait? hwait
      rw [handleInterrupt_of_idle { c with host := { c.host with line := line } } hidle]
      obtain ⟨line', hrest, hclosed⟩ := ih { c with host := { c.host with line := line } } hidle
      exact ⟨line', hrest, hclosed.trans hstill⟩
    · exact ⟨_, rfl, rfl⟩

/-- Without completions, handling interrupts changes nothing but the line. -/
theorem tended_settle (c : Card Board) (hidle : c.host.bus.hasCompletions = false) : c.Tended c.settle := by
  obtain ⟨line, hsettled, hclosed⟩ := settleFor_of_idle
    (c.host.bus.txReturns.length + c.host.bus.rxReturns.length + 1) c hidle
  rw [settle, hsettled]
  exact { Tended.refl c with ending := .inl ⟨rfl, hclosed, rfl⟩ }

/-- What releasing a card does to its host: both pools go back to the allocator, and the card neither
receives nor leaves reset. -/
structure Quitted (c : Card Board) (h : Host Board) : Prop where
  buffers : h.memory =
    (BufferPool.releaseRegions
      (BufferPool.releaseRegions c.host.memory (c.device.txPool.buffers.toList.reverse.map Buffer.region)).1
      (c.device.rxPool.buffers.toList.reverse.map Buffer.region)).1
  apart : h.apart = none
  resting : h.bus.Resting
  free : h.bus.free = c.host.bus.free
  completions : h.bus.hasCompletions = c.host.bus.hasCompletions
  line : h.line = c.host.line
  irq : h.bus.irqEnabled = c.host.bus.irqEnabled

/-- Releasing a card whose buffers come from the memory that it reaches. -/
theorem quitted_release (c : Card Board) (hshared : c.host.apart = none) : c.Quitted c.release := by
  have hlimited : c.host.write Offset.rxMaxFrame 0#32 =
      { c.host with bus := c.host.bus.stored Offset.rxMaxFrame 0#32 } := rfl
  obtain ⟨j₁, htx⟩ := Host.releasePool_of_shared
    { c.host with bus := c.host.bus.stored Offset.rxMaxFrame 0#32 } c.device.txPool hshared
  obtain ⟨j₂, hrx⟩ := Host.releasePool_of_shared
    ({ c.host with bus := c.host.bus.stored Offset.rxMaxFrame 0#32 }.releasePool c.device.txPool) c.device.rxPool
    (by rw [htx]; exact hshared)
  rw [htx] at hrx
  have hrelease : c.release =
      (({ c.host with bus := c.host.bus.stored Offset.rxMaxFrame 0#32 }.releasePool c.device.txPool).releasePool
        c.device.rxPool).holdReset.note .info (c.device.name ++ ": buffers released, card held in reset") := rfl
  rw [hrelease, htx, hrx, Host.holdReset, Host.setBits, Host.modify_cardRstStat]
  exact
    { buffers := rfl
      apart := hshared
      resting :=
        { limit := by
            simp [Host.note, Board.stored, RegisterFile.get_set, Offset.rxMaxFrame, Offset.cardRstStat]
          reset := by
            simp only [Host.note, Board.stored, RegisterFile.get_set, if_pos]
            exact isSet_cardReset_or _ }
      free := rfl
      completions := rfl
      line := rfl
      irq := by
        simp [Board.irqEnabled, Host.note, Board.stored, RegisterFile.get_set, Offset.rxMaxFrame,
          Offset.cardRstStat, Offset.irq] }

end Card

/-! ## One change on the bench -/

/-- Steps that make and end attachments, and what refers to them. -/
def Step.isLifecycle : Step → Bool
  | .addSim _ | .registry _ | .dropRegistry | .slotCard _ _ | .findCard _ _ | .dropCard _ | .openSlot _ _
  | .openCard _ _ | .cardDetach _ | .detachSlot _ | .detachAll | .session _ .close => true
  | .probe _ _ _ r => r.apart.isNone
  | _ => false

namespace Bench

/-- Play steps one after the other. -/
def playAll (b : Bench) (steps : List Step) : Bench := steps.foldl (fun b s => (b.play s).2) b

/-- Playing steps in two parts. -/
theorem playAll_append (b : Bench) (steps more : List Step) :
    b.playAll (steps ++ more) = (b.playAll steps).playAll more := List.foldl_append

/-- The first simulated card is probed. -/
def probeFirst : Step := .probe 0 Registry.vendorId Registry.deviceId .standard

/-- A card is opened, and detached while the session is open. -/
def strandSession : List Step :=
  [.addSim .standard, .registry .small, probeFirst, .openSlot 0 true, .detachAll]

/-- The card is attached once more while that session is open. -/
def overlap : List Step := strandSession ++ [probeFirst]

/-- One attachment and its simulated card changed, and no other. -/
structure Turn (b b' : Bench) (i : Nat) (a a' : Attachment) (s s' : Sim) : Prop where
  attachment : b.attachments[i]? = some a
  sim : b.sims[a.sim]? = some s
  attachments : b'.attachments = b.attachments.setIfInBounds i a'
  sims : b'.sims = b.sims.setIfInBounds a.sim s'

namespace Turn

variable {b b' : Bench} {i j : Nat} {a a' : Attachment} {s s' : Sim}

/-- The attachment that changed. -/
theorem getElem?_self (h : b.Turn b' i a a' s s') : b'.attachments[i]? = some a' := by
  rw [h.attachments, Table.getElem?_setIfInBounds_self a' h.attachment]

/-- The other attachments. -/
theorem getElem?_of_ne (h : b.Turn b' i a a' s s') (hj : j ≠ i) : b'.attachments[j]? = b.attachments[j]? := by
  rw [h.attachments, Array.getElem?_setIfInBounds, if_neg (Ne.symm hj)]

/-- The card that changed. -/
theorem sims_self (h : b.Turn b' i a a' s s') : b'.sims[a.sim]? = some s' := by
  rw [h.sims, Table.getElem?_setIfInBounds_self s' h.sim]

/-- The other cards. -/
theorem sims_of_ne {k : Nat} (h : b.Turn b' i a a' s s') (hk : k ≠ a.sim) : b'.sims[k]? = b.sims[k]? := by
  rw [h.sims, Array.getElem?_setIfInBounds, if_neg (Ne.symm hk)]

end Turn

/-- What can happen to an attachment and its card: it is used, or it is released, which happens only once
and after it was detached. -/
inductive Altered (a a' : Attachment) (s s' : Sim) : Prop
  | tended (hcard : Card.Tended ⟨s.host, a.device⟩ ⟨s'.host, a'.device⟩)
      (hsame : a'.sim = a.sim ∧ a'.apart = a.apart ∧ a'.released = a.released)
      (haddress : s'.address = s.address)
  | released (hheld : a.released = false) (hdetached : a.device.detached = true)
      (hcard : Card.Quitted ⟨s.host, a.device⟩ s'.host) (hattachment : a' = { a with released := true })
      (haddress : s'.address = s.address)

/-- One change on a bench where drivers are attached with configurations that are allowed. -/
inductive Change (allowed : Config → Prop) (b b' : Bench) : Prop
  /-- Only what refers to attachments has changed. -/
  | aside (hsims : b'.sims = b.sims) (hattachments : b'.attachments = b.attachments)
  | sim {address : PciAddress} (hsims : b'.sims = (b.addSim address).sims)
      (hattachments : b'.attachments = b.attachments)
  | turn {i : Nat} {a a' : Attachment} {s s' : Sim} (hturn : b.Turn b' i a a' s s')
      (haltered : Altered a a' s s')
  /-- A driver was attached. -/
  | attached {k : Nat} {s : Sim} {name : String} {slot : Nat} {config : Config} {baseHdwr baseLen : Nat}
      {d : Device} {h' : Host Board} (hsim : b.sims[k]? = some s) (hconfig : allowed config)
      (hnamed : Device.canNameHandler name = true) (hfree : b.isLive k = false)
      (hdone : Device.attach s.host name s.address baseHdwr baseLen config = (.ok d, h'))
      (hsims : b'.sims = b.sims.setIfInBounds k { s with host := { h' with journal := #[] } })
      (hattachments : b'.attachments = b.attachments.push ⟨d, k, none, slot, 1, 0, false⟩)
  /-- A driver could not be attached. -/
  | unattached {k : Nat} {s : Sim} {name : String} {config : Config} {baseHdwr baseLen : Nat}
      {e : Setback CardError} {h' : Host Board} (hsim : b.sims[k]? = some s) (hconfig : allowed config)
      (hnamed : Device.canNameHandler name = true) (hfree : b.isLive k = false)
      (hdone : Device.attach s.host name s.address baseHdwr baseLen config = (.error e, h'))
      (hsims : b'.sims = b.sims.setIfInBounds k { s with host := { h' with journal := #[] } })
      (hattachments : b'.attachments = b.attachments)

/-- Any number of changes. -/
def History (allowed : Config → Prop) : Bench → Bench → Prop := Relation.ReflTransGen (Change allowed)

/-! ## What holds at any time -/

/-- A simulated card that shares its memory with the driver, and on which nothing is on its way. -/
structure Calm (s : Sim) : Prop where
  shared : s.host.apart = none
  completions : s.host.bus.hasCompletions = false
  memory : s.host.memory.Reachable

/-- An attachment that shares the memory of its card, and for which no frame has come. -/
structure Unvisited (a : Attachment) : Prop where
  shared : a.apart = none
  unread : a.device.rxReady.toList = []
  unnoticed : a.device.notices = []

/-- No frame is on its way or has come, and every attachment is to a card on the bench. -/
structure Fit (b : Bench) : Prop where
  calm : ∀ (k : Nat) (s : Sim), b.sims[k]? = some s → Calm s
  unvisited : ∀ (i : Nat) (a : Attachment), b.attachments[i]? = some a → Unvisited a
  placed : ∀ (i : Nat) (a : Attachment), b.attachments[i]? = some a → a.sim < b.sims.size

/-- A fit bench has the card of each attachment. -/
theorem Fit.exists_sim {b : Bench} (h : b.Fit) {i : Nat} {a : Attachment} (ha : b.attachments[i]? = some a) :
    ∃ s, b.sims[a.sim]? = some s := ⟨_, Array.getElem?_eq_getElem (h.placed i a ha)⟩

/-- An empty bench is fit. -/
theorem fit_empty : empty.Fit := by
  constructor <;> intro _ _ h <;> simp [empty] at h

/-- The card stays calm while a driver is attached to it, whether that succeeds or not. -/
theorem Calm.attach {s : Sim} (h : Calm s) {name : String} {baseHdwr baseLen : Nat} {config : Config}
    {result : Except (Setback CardError) Device} {h' : Host Board}
    (hdone : Device.attach s.host name s.address baseHdwr baseLen config = (result, h')) :
    Calm { s with host := { h' with journal := #[] } } := by
  have hpersists := Device.attach_persists s.host name s.address baseHdwr baseLen config h.completions
  rw [hdone] at hpersists
  have hshared : h'.apart = none := hpersists.shared h.shared
  have hreachable := hpersists.reachable (Host.buffers_of_shared h.shared ▸ h.memory)
  rw [Host.buffers_of_shared hshared] at hreachable
  exact ⟨hshared, hpersists.completions.trans h.completions, hreachable⟩

variable {allowed : Config → Prop} {b b' : Bench}

/-- A change keeps a bench fit. -/
theorem Change.fit (h : Change allowed b b') (hfit : b.Fit) : b'.Fit := by
  cases h with
  | aside hsims hattachments =>
    refine ⟨?_, ?_, ?_⟩
    · rw [hsims]
      exact hfit.calm
    · rw [hattachments]
      exact hfit.unvisited
    · rw [hattachments, hsims]
      exact hfit.placed
  | sim hsims hattachments =>
    refine ⟨?_, ?_, ?_⟩
    · rw [hsims]
      exact Table.forall_push hfit.calm ⟨rfl, rfl, .new _ _ _⟩
    · rw [hattachments]
      exact hfit.unvisited
    · rw [hattachments, hsims, addSim, Array.size_push]
      exact fun i a ha => Nat.lt_succ_of_lt (hfit.placed i a ha)
  | turn hturn haltered =>
    have hcalm := hfit.calm _ _ hturn.sim
    have hunvisited := hfit.unvisited _ _ hturn.attachment
    refine ⟨?_, ?_, ?_⟩
    · rw [hturn.sims]
      refine Table.forall_setIfInBounds hfit.calm ?_
      cases haltered with
      | tended hcard =>
        exact ⟨hcard.apart.trans hcalm.shared, hcard.completions.trans hcalm.completions,
          hcard.memory.symm ▸ hcalm.memory⟩
      | released hheld hdetached hcard hattachment =>
        refine ⟨hcard.apart, hcard.completions.trans hcalm.completions, ?_⟩
        rw [hcard.buffers]
        exact BufferPool.reachable_releaseRegions (BufferPool.reachable_releaseRegions hcalm.memory _) _
    · rw [hturn.attachments]
      refine Table.forall_setIfInBounds hfit.unvisited ?_
      cases haltered with
      | tended hcard hsame =>
        exact ⟨hsame.2.1.trans hunvisited.shared, (congrArg Ring.toList hcard.rxReady).trans hunvisited.unread,
          hcard.notices.trans hunvisited.unnoticed⟩
      | released hheld hdetached hcard hattachment =>
        rw [hattachment]
        exact ⟨hunvisited.shared, hunvisited.unread, hunvisited.unnoticed⟩
    · rw [hturn.attachments, hturn.sims, Array.size_setIfInBounds]
      refine Table.forall_setIfInBounds hfit.placed ?_
      have hplaced := hfit.placed _ _ hturn.attachment
      cases haltered with
      | tended _ hsame =>
        rw [hsame.1]
        exact hplaced
      | released _ _ _ hattachment =>
        rw [hattachment]
        exact hplaced
  | @attached k s name slot config baseHdwr baseLen d h' hsim hconfig hnamed hfree hdone hsims hattachments =>
    obtain ⟨-, txPool, rxPool, h₁, h₂, -, -, hdevice, -⟩ := Device.attach_cases hdone
    refine ⟨?_, ?_, ?_⟩
    · rw [hsims]
      exact Table.forall_setIfInBounds hfit.calm ((hfit.calm _ _ hsim).attach hdone)
    · rw [hattachments]
      refine Table.forall_push hfit.unvisited ⟨rfl, ?_, ?_⟩ <;> rw [hdevice]
      · exact Ring.toList_new _
      · rfl
    · rw [hattachments, hsims, Array.size_setIfInBounds]
      exact Table.forall_push hfit.placed (Array.getElem?_eq_some_iff.mp hsim).1
  | unattached hsim hconfig hnamed hfree hdone hsims hattachments =>
    refine ⟨?_, ?_, ?_⟩
    · rw [hsims]
      exact Table.forall_setIfInBounds hfit.calm ((hfit.calm _ _ hsim).attach hdone)
    · rw [hattachments]
      exact hfit.unvisited
    · rw [hattachments, hsims, Array.size_setIfInBounds]
      exact hfit.placed

/-- So does any number of changes. -/
theorem History.fit (h : History allowed b b') (hfit : b.Fit) : b'.Fit := by
  induction h with
  | refl => exact hfit
  | tail _ hlast ih => exact hlast.fit ih

/-- What becomes of an attachment: it stays the one of its card with its receive buffers, and neither detaching
nor releasing it is ever taken back. -/
structure Becomes (a a' : Attachment) : Prop where
  sim : a'.sim = a.sim
  rxPool : a'.device.rxPool = a.device.rxPool
  detached : a.device.detached = true → a'.device.detached = true
  released : a.released = true → a'.released = true

/-- An attachment becomes itself. -/
theorem Becomes.refl (a : Attachment) : Becomes a a := ⟨rfl, rfl, id, id⟩

/-- What an attachment has become may become another in turn. -/
theorem Becomes.trans {a a' a'' : Attachment} (h : Becomes a a') (h' : Becomes a' a'') : Becomes a a'' :=
  ⟨h'.sim.trans h.sim, h'.rxPool.trans h.rxPool, h'.detached ∘ h.detached, h'.released ∘ h.released⟩

/-- This is what altering an attachment makes of it. -/
theorem Altered.becomes {a a' : Attachment} {s s' : Sim} (h : Altered a a' s s') : Becomes a a' := by
  cases h with
  | tended hcard hsame =>
    refine ⟨hsame.1, hcard.rxPool, fun hdetached => ?_, fun hreleased => hsame.2.2.trans hreleased⟩
    rcases hcard.ending with ⟨hstill, -, -⟩ | ⟨-, hnow, -⟩
    · exact hstill.trans hdetached
    · exact hnow
  | released _ _ _ hattachment =>
    rw [hattachment]
    exact ⟨rfl, rfl, id, fun _ => rfl⟩

/-- Every attachment after a turn was there before. -/
theorem Turn.comes {j i : Nat} {a a' y : Attachment} {s s' : Sim} (h : b.Turn b' i a a' s s')
    (haltered : Altered a a' s s') (hy : b'.attachments[j]? = some y) :
    ∃ x, b.attachments[j]? = some x ∧ Becomes x y := by
  by_cases hji : j = i
  · subst hji
    obtain rfl := Option.some.inj (h.getElem?_self.symm.trans hy)
    exact ⟨a, h.attachment, haltered.becomes⟩
  · exact ⟨y, (h.getElem?_of_ne hji).symm.trans hy, .refl y⟩

/-- If a card has no driver that was not detached, all attachments to it were detached. -/
theorem detached_of_isLive {k i : Nat} {a : Attachment} (hlive : b.isLive k = false)
    (ha : b.attachments[i]? = some a) (hk : a.sim = k) : a.device.detached = true := by
  rw [isLive, Array.any_eq_false'] at hlive
  have hnot := hlive a (Array.mem_of_getElem? ha)
  simpa [hk] using hnot

/-- No change takes an attachment off the bench. -/
theorem Change.becomes (h : Change allowed b b') {i : Nat} {a : Attachment} (ha : b.attachments[i]? = some a) :
    ∃ a', b'.attachments[i]? = some a' ∧ Becomes a a' := by
  cases h with
  | aside _ hattachments => exact ⟨a, hattachments ▸ ha, .refl a⟩
  | sim _ hattachments => exact ⟨a, hattachments ▸ ha, .refl a⟩
  | @turn j x x' s s' hturn haltered =>
    by_cases hij : i = j
    · subst hij
      obtain rfl := Option.some.inj (hturn.attachment.symm.trans ha)
      exact ⟨x', hturn.getElem?_self, haltered.becomes⟩
    · exact ⟨a, (hturn.getElem?_of_ne hij).trans ha, .refl a⟩
  | attached _ _ _ _ _ _ hattachments =>
    have hi := (Array.getElem?_eq_some_iff.mp ha).1
    rw [hattachments, Array.getElem?_push, if_neg (Nat.ne_of_lt hi)]
    exact ⟨a, ha, .refl a⟩
  | unattached _ _ _ _ _ _ hattachments => exact ⟨a, hattachments ▸ ha, .refl a⟩

/-- Neither does any number of changes. -/
theorem History.becomes (h : History allowed b b') {i : Nat} {a : Attachment} (ha : b.attachments[i]? = some a) :
    ∃ a', b'.attachments[i]? = some a' ∧ Becomes a a' := by
  induction h with
  | refl => exact ⟨a, ha, .refl a⟩
  | tail _ hlast ih =>
    obtain ⟨x, hx, hfirst⟩ := ih
    obtain ⟨a', ha', hrest⟩ := hlast.becomes hx
    exact ⟨a', ha', hfirst.trans hrest⟩

/-- A driver that was attached to a calm card is ready. -/
theorem Calm.started {s : Sim} (hcalm : Calm s) {name : String} {baseHdwr baseLen : Nat} {config : Config}
    {d : Device} {h' : Host Board}
    (hdone : Device.attach s.host name s.address baseHdwr baseLen config = (.ok d, h')) :
    Device.Started s.host config d h' :=
  Device.started_of_ok hcalm.completions (Host.buffers_of_shared hcalm.shared ▸ hcalm.memory) hdone

/-! ## Work on one card -/

/-- The bench after work on a card that shares its memory: the card and the attachment are put back. -/
def worked (b : Bench) (i : Nat) (a : Attachment) (s : Sim) (c : Card Board) : Bench :=
  { b with
    sims := b.sims.setIfInBounds a.sim { s with host := { c.host with journal := #[] } }
    attachments := b.attachments.setIfInBounds i { a with device := c.device }
    journal := b.journal ++ c.host.journal }

/-- Working on a card that shares its memory, without a notice to anybody. -/
theorem onCard_eq {α : Type} {i : Nat} {a : Attachment} {s : Sim} (ha : b.attachments[i]? = some a)
    (hs : b.sims[a.sim]? = some s) (hunvisited : Unvisited a) (hcalm : Calm s)
    (work : Card Board → α × Card Board) (hshared : (work ⟨s.host, a.device⟩).2.host.apart = none)
    (hunnoticed : (work ⟨s.host, a.device⟩).2.device.notices = []) :
    b.onCard i work =
      some ((work ⟨s.host, a.device⟩).1, b.worked i a s (work ⟨s.host, a.device⟩).2) := by
  have hhost : b.hostFor s a.apart = s.host := by
    rw [hostFor, hunvisited.shared, Option.bind_none, ← hcalm.shared]
  have hput (c : Card Board) (hc : c.host.apart = none) :
      b.putHost a.sim a.apart c.host =
        { b with
          sims := b.sims.setIfInBounds a.sim { s with host := { c.host with journal := #[] } }
          journal := b.journal ++ c.host.journal } := by
    have hkept : ({ c.host with apart := none, journal := #[] } : Host Board) =
        { c.host with journal := #[] } := by
      rw [← hc]
    simp only [putHost, hunvisited.shared, Table.modify_eq _ hs, hkept]
  simp only [onCard, ha, hs, Option.bind_eq_bind, Option.bind_some, hhost]
  generalize work ⟨s.host, a.device⟩ = done at hshared hunnoticed ⊢
  obtain ⟨result, c⟩ := done
  replace hunnoticed : c.device.notices = [] := hunnoticed
  have hdevice : ({ c.device with notices := [] } : Device) = c.device := by rw [← hunnoticed]
  simp only [hput c hshared, hdevice]
  rw [hunnoticed]
  rfl

/-- Work that tends a card, on a fit bench. -/
theorem Fit.onCard {α : Type} (h : b.Fit) {i : Nat} {a : Attachment} (ha : b.attachments[i]? = some a)
    (work : Card Board → α × Card Board)
    (htended : ∀ c : Card Board, c.device.rxReady.toList = [] → c.host.bus.hasCompletions = false →
      c.Tended (work c).2) :
    ∃ s, b.sims[a.sim]? = some s ∧ Card.Tended ⟨s.host, a.device⟩ (work ⟨s.host, a.device⟩).2 ∧
      b.onCard i work = some ((work ⟨s.host, a.device⟩).1, b.worked i a s (work ⟨s.host, a.device⟩).2) := by
  obtain ⟨s, hs⟩ := h.exists_sim ha
  have hcalm := h.calm _ _ hs
  have hunvisited := h.unvisited _ _ ha
  have hcard := htended ⟨s.host, a.device⟩ hunvisited.unread hcalm.completions
  exact ⟨s, hs, hcard, onCard_eq ha hs hunvisited hcalm work (hcard.apart.trans hcalm.shared)
    (hcard.notices.trans hunvisited.unnoticed)⟩

/-- Changing a card by tending it. -/
theorem Fit.changeCard (h : b.Fit) {i : Nat} {a : Attachment} (ha : b.attachments[i]? = some a)
    (work : Card Board → Card Board)
    (htended : ∀ c : Card Board, c.device.rxReady.toList = [] → c.host.bus.hasCompletions = false →
      c.Tended (work c)) :
    ∃ s, b.sims[a.sim]? = some s ∧ Card.Tended ⟨s.host, a.device⟩ (work ⟨s.host, a.device⟩) ∧
      b.changeCard i work = b.worked i a s (work ⟨s.host, a.device⟩) := by
  obtain ⟨s, hs, hcard, hdone⟩ := h.onCard ha (fun c => ((), work c)) htended
  exact ⟨s, hs, hcard, by rw [Bench.changeCard, hdone]⟩

/-- The card of an attachment that does not exist is not changed. -/
theorem changeCard_of_none {i : Nat} (hi : b.attachments[i]? = none) (work : Card Board → Card Board) :
    b.changeCard i work = b := by
  simp [Bench.changeCard, Bench.onCard, hi]

/-- Work on a card is done, and the attachment is put back otherwise changed. -/
theorem Turn.of_worked {i : Nat} {a a' : Attachment} {s : Sim} {c : Card Board}
    (ha : b.attachments[i]? = some a) (hs : b.sims[a.sim]? = some s)
    (hattachments : b'.attachments = b.attachments.setIfInBounds i a')
    (hsims : b'.sims = (b.worked i a s c).sims) :
    b.Turn b' i a a' s { s with host := { c.host with journal := #[] } } := ⟨ha, hs, hattachments, hsims⟩

end Bench
end LaneCard
