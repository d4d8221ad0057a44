import LaneCard.Dma.Allocator

/-!
# Allocators side by side

Several allocators, and the regions they have handed out under consecutive numbers. A region
may be given to any of the allocators; its number is gone then, also when the allocator does
not know it.
-/

namespace LaneCard

/-- Allocators, and regions by number with the allocator each came from. -/
structure RegionBench where
  allocators : Array Allocator
  regions : Array (Option Region)
  journal : Journal

namespace RegionBench

/-- Allocators over the given windows. -/
def new (windows : List (Nat × Nat)) : RegionBench :=
  { allocators := (windows.mapIdx fun i w => Allocator.new i w.1 w.2).toArray
    regions := #[]
    journal := #[] }

/-- Allocate a region; it gets the next number. -/
def allocate? (b : RegionBench) (k size : Nat) :
    Option (Except (Setback PlatformError) (Nat × Region) × RegionBench) :=
  (b.allocators[k]?).map fun a =>
    if Allocator.canRound size then
      let (result, a) := a.allocate size
      let b := { b with allocators := b.allocators.setIfInBounds k a }
      match result with
      | .error e => (.error (.failed e), b)
      | .ok r => (.ok (b.regions.size, r), { b with regions := b.regions.push (some r) })
    else (.error .cutShort, b)

/-- A region by its number. -/
def region? (b : RegionBench) (id : Nat) : Option Region := (b.regions[id]?).join

/-- Give a region to an allocator. -/
def release? (b : RegionBench) (k id : Nat) : Option RegionBench := do
  let r ← b.region? id
  let a ← b.allocators[k]?
  let (a, lines) := a.release r
  some
    { b with
      allocators := b.allocators.setIfInBounds k a
      regions := b.regions.setIfInBounds id none
      journal := b.journal ++ lines.toArray }

/-- Read through a region. -/
def read? (b : RegionBench) (id offset length : Nat) : Option (Except PlatformError Bytes) := do
  let r ← b.region? id
  let a ← b.allocators[r.origin]?
  some (a.read r offset length)

/-- Write through a region. -/
def write? (b : RegionBench) (id offset : Nat) (data : Bytes) :
    Option (Except PlatformError RegionBench) := do
  let r ← b.region? id
  let a ← b.allocators[r.origin]?
  some ((a.write r offset data).map fun a =>
    { b with allocators := b.allocators.setIfInBounds r.origin a })

/-- Fill a region with zeros. -/
def clear? (b : RegionBench) (id : Nat) : Option RegionBench := do
  let r ← b.region? id
  let a ← b.allocators[r.origin]?
  some { b with allocators := b.allocators.setIfInBounds r.origin (a.clear r) }

/-- Read by bus address. -/
def busRead (b : RegionBench) (k addr length : Nat) : Option Bytes := do
  let a ← b.allocators[k]?
  a.busRead addr length

/-- Write by bus address; nothing if no live region holds all the bytes. -/
def busWrite (b : RegionBench) (k addr : Nat) (data : Bytes) : Option RegionBench := do
  let a ← b.allocators[k]?
  let a ← a.busWrite addr data
  some { b with allocators := b.allocators.setIfInBounds k a }

/-- What is reported when all allocators are given up. -/
def teardown (b : RegionBench) : List Line := b.allocators.toList.flatMap Allocator.teardown

end RegionBench

end LaneCard
