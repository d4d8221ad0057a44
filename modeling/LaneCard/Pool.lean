import LaneCard.Dma.Allocator
import LaneCard.Error.Card
import LaneCard.Frame

/-!
# Buffer pools

The buffers of one direction, all of one size. They are allocated together or not at all, and
released in the opposite order. Since descriptors hold an address in 30 bits of a word, every
buffer starts at a multiple of four below 4 GiB.
-/

namespace LaneCard

/-- Which way the frames of a pool go. -/
inductive Direction where
  | tx
  | rx
  deriving Repr, DecidableEq

/-- The name of a direction. -/
def Direction.text : Direction → String
  | tx => "tx"
  | rx => "rx"

/-- A buffer: its memory, where the card finds it, and what is known of the frame in it. -/
structure Buffer where
  region : Region
  addr : Word
  /-- The bytes that may be used. -/
  size : Nat
  frame : FrameMeta
  deriving Repr, DecidableEq

/-- The buffers of one direction. -/
structure BufferPool where
  direction : Direction
  /-- The size of each buffer in bytes. -/
  bufferSize : Nat
  buffers : Array Buffer

namespace BufferPool

/-- A pool without buffers. -/
def empty (direction : Direction) (bufferSize : Nat) : BufferPool := ⟨direction, bufferSize, #[]⟩

/-- The number of buffers. -/
def size (p : BufferPool) : Nat := p.buffers.size

/-- The bus addresses of the buffers. -/
def addrs (p : BufferPool) : List Word := p.buffers.toList.map Buffer.addr

/-- The number of the buffer at a bus address. -/
def find? (p : BufferPool) (addr : Word) : Option Nat :=
  p.buffers.findIdx? fun b => b.addr == addr

/-- Record what is known of the frame in a buffer. -/
def setFrame (p : BufferPool) (i : Nat) (frame : FrameMeta) : BufferPool :=
  { p with buffers := p.buffers.modify i fun b => { b with frame := frame } }

/-- The bus address that the card can use for a region, if it can. -/
def reachable? (r : Region) : Option Word :=
  if r.bus < wordSpan ∧ r.bus % 4 = 0 then some (BitVec.ofNat 32 r.bus) else none

/-- Add one buffer. A region that the card cannot reach goes back at once. -/
def allocateOne (p : BufferPool) (a : Allocator) :
    Except CardError BufferPool × Allocator × List Line :=
  match a.allocate p.bufferSize with
  | (.error e, a) => (.error (.ofPlatform e), a, [])
  | (.ok region, a) =>
    match reachable? region with
    | some addr =>
      let buffer : Buffer := ⟨region, addr, p.bufferSize, FrameMeta.blank⟩
      (.ok { p with buffers := p.buffers.push buffer }, a, [])
    | none =>
      let (a, complaint) := a.release region
      (.error (.platform .invalidArgument), a,
        ⟨.error, "pool: " ++ p.direction.text ++ " buffer at " ++ Text.hexMarked region.bus ++
          " is not 32-bit addressable"⟩ :: complaint)

/-- Release regions one after the other. -/
def releaseRegions (a : Allocator) : List Region → Allocator × List Line
  | [] => (a, [])
  | r :: rest =>
    let (a, complaint) := a.release r
    let (a, lines) := releaseRegions a rest
    (a, complaint ++ lines)

/-- Release all buffers, the last one first. -/
def releaseAll (p : BufferPool) (a : Allocator) : BufferPool × Allocator × List Line :=
  let (a, lines) := releaseRegions a (p.buffers.toList.reverse.map Buffer.region)
  ({ p with buffers := #[] }, a, lines)

/-- Add so many buffers, or release all and fail. -/
def grow : Nat → BufferPool → Allocator → Except CardError BufferPool × Allocator × List Line
  | 0, p, a => (.ok p, a, [])
  | n + 1, p, a =>
    match p.allocateOne a with
    | (.ok p, a, lines) =>
      let (result, a, more) := grow n p a
      (result, a, lines ++ more)
    | (.error e, a, lines) =>
      let (_, a, released) := p.releaseAll a
      (.error e, a,
        lines ++ [⟨.error, "pool: unable to allocate " ++ p.direction.text ++
          s!" buffer {p.size}: " ++ e.message⟩] ++ released)

/-- The room that a pool takes for each of its buffers, apart from the buffer's memory. -/
def entrySize : Nat := 56

/-- Whether the table of so many buffers can be laid out, and the size of each rounded. -/
def canHold (count size : Nat) : Bool :=
  canLayOut count entrySize && (count == 0 || Allocator.canRound size)

/-- Allocate a pool of `count` buffers of `size` bytes. -/
def allocate (direction : Direction) (count size : Nat) (a : Allocator) :
    Except (Setback CardError) BufferPool × Allocator × List Line :=
  if canHold count size then
    match grow count (empty direction size) a with
    | (.ok p, a, lines) =>
      (.ok p, a,
        lines ++ [⟨.debug, s!"pool: {count} {direction.text} buffers of " ++
          Text.hexMarked size ++ " bytes"⟩])
    | (.error e, a, lines) => (.error (.failed e), a, lines)
  else (.error .cutShort, a, [])

/-- What a pool reports when it is given up with its buffers. -/
def teardown (p : BufferPool) : List Line :=
  if p.buffers.isEmpty then []
  else [⟨.error, s!"pool: {p.size} {p.direction.text} buffer(s) dropped without release"⟩]

end BufferPool

namespace Buffer

/-- Accept a length that the buffer has room for. -/
def checkLength (b : Buffer) (length : Nat) : Except CardError Unit :=
  if b.size < length then .error (.oversize length b.size) else .ok ()

/-- The first bytes of the frame in a buffer. -/
def payload (b : Buffer) (a : Allocator) (length : Nat) : Except CardError Bytes := do
  b.checkLength length
  (a.read b.region 0 length).mapError CardError.ofPlatform

/-- Put a frame into a buffer. -/
def fill (b : Buffer) (a : Allocator) (data : Bytes) : Except CardError Allocator := do
  b.checkLength data.size
  (a.write b.region 0 data).mapError CardError.ofPlatform

end Buffer

end LaneCard
