import LaneCard.Config
import LaneCard.Proofs.Moves
import Mathlib.Logic.Function.Basic

/-!
# A card with looped lanes as a queue of frames

What a session on a card without peers can observe, told without buffers: frames that are sent on a
looped lane come back in order, cut to what a receive buffer holds. A frame is dropped when there are
as many frames to be read as receive buffers, and a frame sent on a lane that does not exist costs a
transmit buffer for good. The completion handler does all its work between two steps.
-/

namespace LaneCard

/-- A frame that was looped back. -/
structure LoopFrame where
  lane : Word
  vc : Word
  words : List Word
  /-- Whether the card has cut the frame. -/
  cut : Bool

/-- What is known of a looped frame apart from its data. -/
def LoopFrame.known (f : LoopFrame) : FrameMeta :=
  ⟨f.lane, f.vc, BitVec.ofNat 32 f.words.length, ⟨false, false, f.cut⟩⟩

/-- A card, as far as looped frames are concerned. -/
structure FrameQueue where
  isOpen : Bool
  /-- Whether a lane is looped back. -/
  looped : Nat → Bool
  /-- The frames to be read, oldest first. -/
  queue : List LoopFrame
  /-- The number of transmit buffers that can still be used. -/
  usable : Nat
  /-- Frames given back because nobody was there to read them. -/
  dropped : Nat

/-- What is done with a card with looped lanes. -/
inductive Traffic where
  | openSession (nonblock : Bool)
  | closeSession
  | send (patience : Patience) (lane vc : Word) (data : List Word)
  | recv (patience : Patience) (buffer : List Word)
  /-- A lane is looped back, or not any more. -/
  | loop (on : Bool) (arg : Pointer)

/-- The move that each of these is. -/
def Traffic.move : Traffic → Move
  | openSession nonblock => .openSession nonblock
  | closeSession => .closeSession
  | send patience lane vc data => .call patience .empty (.send lane vc data)
  | recv patience buffer => .call patience .empty (.recv buffer)
  | loop on arg => .control (if on then .setLoop else .clrLoop) arg

namespace FrameQueue

/-- A card that has just been attached. -/
def attached (config : Config) : FrameQueue := ⟨false, fun _ => false, [], config.txCount, 0⟩

/-- The answer to a call that has to wait. -/
def waits (patience : Patience) : Outcome := if patience = .refuses then .failed .wouldBlock else .asleep

/-- What comes back of a frame that is sent on a looped lane. -/
def echo (config : Config) (lane vc : Word) (data : List Word) : LoopFrame :=
  ⟨lane, vc % 4#32, data.take (config.rxSize / wordSize), decide (config.rxSize / wordSize < data.length)⟩

/-- A frame comes back: it is queued if there is a buffer for it, and turned away if nobody has the
card open. -/
def arrive (config : Config) (q : FrameQueue) (f : LoopFrame) : FrameQueue :=
  if q.isOpen then
    if q.queue.length < config.rxCount then { q with queue := q.queue ++ [f] } else q
  else { q with dropped := q.dropped + 1 }

/-- A frame is sent. -/
def transmit (config : Config) (q : FrameQueue) (lane vc : Word) (data : List Word) : FrameQueue :=
  if laneCount ≤ lane.toNat then { q with usable := q.usable - 1 }
  else if q.looped lane.toNat then q.arrive config (echo config lane vc data)
  else q

/-- What a caller is told of a frame that is copied to a buffer, and the buffer then. -/
def report (f : LoopFrame) (buffer : List Word) : Outcome :=
  let copied := min f.words.length buffer.length
  .frame
    ⟨f.lane, f.vc, BitVec.ofNat 32 f.words.length, copied,
      ⟨false, false, f.cut || decide (buffer.length < f.words.length)⟩⟩
    (f.words.take copied ++ buffer.drop copied)

/-- The answer to a step, and the queue after it. -/
def step (config : Config) (q : FrameQueue) : Traffic → Outcome × FrameQueue
  | .openSession _ => if q.isOpen then (.failed .busy, q) else (.nothing, { q with isOpen := true })
  | .closeSession =>
    (.nothing, { q with isOpen := false, queue := [], dropped := q.dropped + q.queue.length })
  | .send patience lane vc data =>
    if config.txSize < data.length * wordSize then
      (.failed (.oversize (data.length * wordSize) config.txSize), q)
    else if q.usable = 0 then (waits patience, q)
    else (.number data.length, q.transmit config lane vc data)
  | .recv patience buffer =>
    match q.queue with
    | [] => (waits patience, q)
    | f :: rest => (report f buffer, { q with queue := rest })
  | .loop on arg =>
    (.done, { q with looped := Function.update q.looped ((arg.setWidth 32).toNat % laneCount) on })

/-- The answers to a number of steps, and the queue after them. -/
def steps (config : Config) : FrameQueue → List Traffic → List Outcome × FrameQueue
  | q, [] => ([], q)
  | q, t :: ts =>
    let (outcome, q) := q.step config t
    let (outcomes, q) := q.steps config ts
    (outcome :: outcomes, q)

end FrameQueue

namespace Card

/-- A step of the card: a move, after which the handler does all its work. -/
def turn (c : Card Board) (t : Traffic) : Outcome × Card Board :=
  let (outcome, c) := c.play t.move
  (outcome, c.settle)

/-- The answers to a number of steps, and the card after them. -/
def turns : Card Board → List Traffic → List Outcome × Card Board
  | c, [] => ([], c)
  | c, t :: ts =>
    let (outcome, c) := c.turn t
    let (outcomes, c) := c.turns ts
    (outcome :: outcomes, c)

end Card

end LaneCard
