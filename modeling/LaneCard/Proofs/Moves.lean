import LaneCard.Bench.Play

/-!
# Runs of an attached card

Everything that can happen to one attached card, as data: what its callers do, what the card and its
lanes do, and how often the completion handler is called in between. A run is a sequence of such
moves in any order; the handler need not come at any particular time. What has happened is kept as a
list, from which everything that a run has sent, taken or received can be read off.
-/

namespace LaneCard

/-- All flags that are set in `g` are set. -/
def FrameFlags.Covers (f g : FrameFlags) : Prop :=
  (g.eofe = true → f.eofe = true) ∧ (g.fifoErr = true → f.fifoErr = true) ∧
    (g.lengthErr = true → f.lengthErr = true)

/-- Something that happens to an attached card. -/
inductive Move where
  | openSession (nonblock : Bool)
  | closeSession
  /-- A call of the session, made with the given memory of the caller, or gone on with. -/
  | call (patience : Patience) (memory : CallerMemory) (c : Call)
  | control (command : Command) (arg : Pointer)
  /-- The wait of the session is cancelled. -/
  | interrupt
  | notify (listener : Option Nat)
  | status
  | detach
  /-- Transmit completions are held back, or given. -/
  | hold (on : Bool)
  /-- The card takes a free receive buffer off a lane. -/
  | takeFree (lane : Nat)
  | injectRx (desc : RxDescriptor)
  | injectTx (word : Word)
  /-- Interrupts are handled, at most so many times. -/
  | serve (n : Nat)

/-- The lane that a call sends a frame on, if that is what it asks for. -/
def Call.lane? : Call → Option Word
  | .send lane _ _ => some lane
  | .write record =>
    match TxRequest.decode record with
    | .ok request =>
      if Command.ofCode? request.cmd.toNat = some .normalWrite then some request.lane else none
    | .error _ => none
  | _ => none

namespace Outcome

/-- A call that sends a frame answers with a number if the frame was accepted. -/
def isNumber : Outcome → Bool
  | number _ => true
  | _ => false

/-- Whether a call has taken a readable frame: it reports one, or the caller's memory faulted. -/
def consumes : Outcome → Bool
  | frame .. => true
  | record (.ok _) _ => true
  | record (.error (.fault _)) _ => true
  | _ => false

/-- What a call that succeeds says of a frame agrees with what is known of it, and no flag of the
frame is left out. -/
def Reports (o : Outcome) (known : FrameMeta) : Prop :=
  match o with
  | frame f _ =>
    f.lane = known.lane ∧ f.vc = known.vc ∧ f.length = known.length ∧ f.flags.Covers known.flags
  | record (.ok _) answer =>
    ∃ request reply, RxRequest.decodeReply answer = .ok (request, reply) ∧ reply.lane = known.lane ∧
      reply.vc = known.vc ∧ reply.size = known.length ∧ reply.flags.Covers known.flags
  | _ => True

end Outcome

namespace Card

/-- Make a move. -/
def play (c : Card Board) : Move → Outcome × Card Board
  | .openSession nonblock =>
    let (result, c) := c.openSession nonblock
    (.ofExcept (fun _ => .nothing) result, c)
  | .closeSession => (.nothing, c.closeSession)
  | .call patience memory call =>
    let ((outcome, _), c) := Bench.makeCall c memory patience call
    (outcome, c)
  | .control command arg =>
    let (result, c) := c.control command arg
    (.ofExcept (fun r => match r with
      | .done => Outcome.done
      | .status status => .status status) result, c)
  | .interrupt => (.nothing, c.interruptSession)
  | .notify listener => (.nothing, c.setListener listener)
  | .status =>
    let (status, c) := c.snapshot
    (.status status, c)
  | .detach => (.nothing, c.detach)
  | .hold on => (.nothing, { c with host := Board.hold c.host on })
  | .takeFree lane =>
    match c.host.bus.takeFrom? lane with
    | some (addr, board) => (.number addr.toNat, { c with host := { c.host with bus := board } })
    | none => (.nothing, c)
  | .injectRx desc => (.nothing, { c with host := Board.injectRx c.host desc })
  | .injectTx word => (.nothing, { c with host := Board.injectTx c.host word })
  | .serve n => (.nothing, settleFor n c)

end Card

/-- A move that was made, and the card it was made on. -/
structure Happening where
  before : Card Board
  move : Move

namespace Happening

/-- What the move answered. -/
def outcome (h : Happening) : Outcome := (h.before.play h.move).1

/-- The card after the move. -/
def after (h : Happening) : Card Board := (h.before.play h.move).2

end Happening

/-- A stretch that ends in a last entry is split there or before. -/
theorem split_concat {α : Type} {past before after : List α} {last entry : α}
    (h : past ++ [last] = before ++ entry :: after) :
    (after = [] ∧ past = before ∧ last = entry) ∨
      ∃ rest, after = rest ++ [last] ∧ past = before ++ entry :: rest := by
  rcases List.eq_nil_or_concat after with rfl | ⟨rest, last', rfl⟩
  · obtain ⟨hpast, hlast⟩ := List.append_inj' h rfl
    exact .inl ⟨rfl, hpast, (List.cons.inj hlast).1⟩
  · rw [List.concat_eq_append, ← List.cons_append, ← List.append_assoc] at h
    obtain ⟨hpast, hlast⟩ := List.append_inj' h rfl
    exact .inr ⟨rest, by rw [List.concat_eq_append, hlast], hpast⟩

/-- The runs of a card from a start, as what has happened and the card as it is then. Each move has to
be allowed after what has happened before it. -/
inductive Run (allowed : List Happening → Card Board → Move → Prop) (start : Card Board) :
    List Happening → Card Board → Prop
  | nil : Run allowed start [] start
  | snoc {past : List Happening} {c : Card Board} (hpast : Run allowed start past c) (m : Move)
      (hallowed : allowed past c m) : Run allowed start (past ++ [⟨c, m⟩]) (c.play m).2

namespace Run

variable {allowed : List Happening → Card Board → Move → Prop} {start c : Card Board}
  {past : List Happening}

/-- What holds at the start and after every move that is allowed holds at every time. -/
theorem invariant (hrun : Run allowed start past c) (P : List Happening → Card Board → Prop)
    (hstart : P [] start)
    (hstep : ∀ past c m, P past c → allowed past c m → P (past ++ [⟨c, m⟩]) (c.play m).2) : P past c := by
  induction hrun with
  | nil => exact hstart
  | snoc _ m hallowed ih => exact hstep _ _ m ih hallowed

/-- What has happened before a move is a run too. -/
theorem earlier (hrun : Run allowed start past c) {before after : List Happening} {h : Happening}
    (hpast : past = before ++ h :: after) : Run allowed start before h.before := by
  induction hrun generalizing after with
  | nil => exact absurd hpast.symm (by simp)
  | @snoc past' c' hearlier m hallowed ih =>
    rcases split_concat hpast with ⟨-, rfl, rfl⟩ | ⟨rest, -, hrest⟩
    · exact hearlier
    · exact ih hrest

end Run

end LaneCard
