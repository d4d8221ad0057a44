import LaneCard.Dma.Memory
import LaneCard.Error.Platform
import LaneCard.Error.Setback
import LaneCard.Journal
import LaneCard.Text.Hexadecimal

/-!
# Bus memory

Memory that a device reaches by bus address. An allocator hands out zeroed regions of whole
pages from a window of bus addresses. A released stretch of addresses is used again for the
next region of exactly its size, the last one released first; otherwise the window is used up
from its start. Live memory can be accessed through the region, by its holder, and through
the bus address, by the device.
-/

namespace LaneCard

/-- The size of a page. -/
def pageSize : Nat := 4096

/-- A region as its holder knows it. The serial number tells apart two regions that had the
same bus address, and the origin two allocators. -/
structure Region where
  origin : Nat
  serial : Nat
  bus : Nat
  size : Nat
  deriving Repr, DecidableEq

/-- The memory behind a live region. -/
structure Mapping where
  region : Region
  memory : Memory

/-- A stretch of bus addresses that can be used again. -/
structure Segment where
  bus : Nat
  size : Nat
  deriving Repr, DecidableEq

/-- An allocator over a window of bus addresses. -/
structure Allocator where
  /-- The mark of the regions of this allocator. -/
  origin : Nat
  /-- The first address never used. -/
  next : Nat
  /-- The end of the window. -/
  limit : Nat
  /-- Released stretches, the last one first. -/
  recycled : List Segment
  /-- The live regions, the newest first. -/
  live : List Mapping
  /-- The number of regions ever allocated. -/
  allocated : Nat
  /-- The number of regions ever released. -/
  released : Nat
  /-- The total size of the live regions. -/
  liveBytes : Nat

namespace Allocator

/-- The start of the usual window. -/
def defaultBase : Nat := 0x10000000

/-- The end of the usual window: what 32 address bits reach. -/
def defaultLimit : Nat := wordSpan

/-- An allocator over the addresses from `base` to `limit`. -/
def new (origin base limit : Nat) : Allocator := ⟨origin, base, limit, [], [], 0, 0, 0⟩

/-- An allocator over the usual window. -/
def standard (origin : Nat) : Allocator := new origin defaultBase defaultLimit

/-- A size rounded up to whole pages. -/
def pageAligned (size : Nat) : Nat := (size + pageSize - 1) / pageSize * pageSize

/-- The largest rounded size that memory can be laid out for. -/
def layoutLimit : Nat := largestObject - (pageSize - 1)

/-- Whether rounding a size up gives a number that can be represented. -/
def canRound (size : Nat) : Bool := decide (pageAligned size < pointerSpan)

/-- The smallest rounded size that the host never has. -/
def hostLimit : Nat := 0x4000000000000

/-- Choose bus addresses for a rounded size: a released stretch of that size, else the next
ones of the window, if there is room. -/
def reserve (a : Allocator) (size : Nat) : Option (Nat × Allocator) :=
  match a.recycled.find? fun s => s.size == size with
  | some s => some (s.bus, { a with recycled := a.recycled.erase s })
  | none =>
    if a.next + size ≤ a.limit then some (a.next, { a with next := a.next + size }) else none

/-- Allocate a region of at least `size` bytes, a size that can be rounded. When the host has
no memory, the chosen addresses are kept for later. -/
def allocate (a : Allocator) (size : Nat) : Except PlatformError Region × Allocator :=
  let rounded := pageAligned size
  if size = 0 ∨ layoutLimit < rounded then (.error .invalidArgument, a)
  else
    match a.reserve rounded with
    | none => (.error .outOfMemory, a)
    | some (bus, a) =>
      if hostLimit ≤ rounded then
        (.error .outOfMemory, { a with recycled := ⟨bus, rounded⟩ :: a.recycled })
      else
        let region : Region := ⟨a.origin, a.allocated, bus, rounded⟩
        (.ok region,
          { a with
            live := ⟨region, Memory.zeroed rounded⟩ :: a.live
            allocated := a.allocated + 1
            liveBytes := a.liveBytes + rounded })

/-- Take back a region by its bus address. An address that is not live is reported and
nothing changes; a live address of another region is reported too, but released. -/
def release (a : Allocator) (r : Region) : Allocator × List Line :=
  match a.live.find? fun m => m.region.bus == r.bus with
  | none => (a, [⟨.error, "dma: release of unknown region " ++ Text.hexMarked r.bus⟩])
  | some m =>
    let complaint :=
      if m.region = r then []
      else [⟨.error, "dma: region " ++ Text.hexMarked r.bus ++ " does not match its mapping"⟩]
    ({ a with
        live := a.live.filter fun other => other.region.bus != r.bus
        recycled := ⟨r.bus, m.region.size⟩ :: a.recycled
        released := a.released + 1
        liveBytes := a.liveBytes - m.region.size },
      complaint)

/-- What an allocator reports when it is given up. -/
def teardown (a : Allocator) : List Line :=
  if a.live.isEmpty then []
  else [⟨.warn, s!"dma: {a.live.length} region(s) still live at allocator teardown"⟩]

/-- The live region with the greatest bus address not above `addr`. -/
def below? (a : Allocator) (addr : Nat) : Option Mapping :=
  a.live.foldl
    (fun best m =>
      if m.region.bus ≤ addr ∧ (best.map fun b : Mapping => b.region.bus).getD 0 ≤ m.region.bus then
        some m
      else best)
    none

/-- The live region that holds all of the given bus addresses. -/
def covering? (a : Allocator) (addr length : Nat) : Option Mapping :=
  (a.below? addr).filter fun m => addr - m.region.bus + length ≤ m.region.size

/-- Change the memory of the region at a bus address. -/
def update (a : Allocator) (bus : Nat) (change : Memory → Memory) : Allocator :=
  { a with
    live := a.live.map fun m =>
      if m.region.bus = bus then { m with memory := change m.memory } else m }

/-- Read by bus address; nothing unless one live region holds all the bytes. -/
def busRead (a : Allocator) (addr length : Nat) : Option Bytes :=
  (a.covering? addr length).map fun m => m.memory.read (addr - m.region.bus) length

/-- Write by bus address; nothing unless one live region holds all the bytes. -/
def busWrite (a : Allocator) (addr : Nat) (data : Bytes) : Option Allocator :=
  (a.covering? addr data.size).map fun m =>
    a.update m.region.bus fun memory => memory.write (addr - m.region.bus) data

/-- The memory of a live region. -/
def memory? (a : Allocator) (r : Region) : Option Memory :=
  (a.live.find? fun m => m.region == r).map Mapping.memory

/-- Read through a region; the bytes have to lie within its size. -/
def read (a : Allocator) (r : Region) (offset length : Nat) : Except PlatformError Bytes :=
  if offset + length ≤ r.size then
    .ok (((a.memory? r).getD (Memory.zeroed r.size)).read offset length)
  else .error .bufferTooSmall

/-- Write through a region; the bytes have to lie within its size. -/
def write (a : Allocator) (r : Region) (offset : Nat) (data : Bytes) :
    Except PlatformError Allocator :=
  if offset + data.size ≤ r.size then
    .ok
      { a with
        live := a.live.map fun m =>
          if m.region = r then { m with memory := m.memory.write offset data } else m }
  else .error .bufferTooSmall

/-- Fill a region with zeros. -/
def clear (a : Allocator) (r : Region) : Allocator :=
  { a with
    live := a.live.map fun m =>
      if m.region = r then { m with memory := Memory.zeroed r.size } else m }

/-- The number of live regions, as the counters have it. -/
def liveCount (a : Allocator) : Nat := a.allocated - a.released

end Allocator

end LaneCard
