import LaneCard.Proofs.Board
import LaneCard.Proofs.Pool

/-!
# Buffers in live memory

A pool is backed by an allocator as long as the region of each of its buffers is live, large enough,
and at the address of the buffer. Nothing that the driver or the card does to memory takes a region
away, short of releasing it, so that a pool that was allocated stays backed, whatever the card is told
to write and wherever. This does not need the regions to be apart from each other.

Two pools are alike if they differ at most in what is known of the frames in their buffers.
-/

namespace LaneCard

/-! ## Live regions -/

namespace Allocator

/-- Reserving addresses takes no region away. -/
theorem live_reserve {a b : Allocator} {size bus : Nat} (h : a.reserve size = some (bus, b)) :
    b.live = a.live := by
  unfold reserve at h
  split at h
  · obtain ⟨-, rfl⟩ := Prod.mk.inj (Option.some.inj h)
    rfl
  · split at h
    · obtain ⟨-, rfl⟩ := Prod.mk.inj (Option.some.inj h)
      rfl
    · contradiction

/-- A region that was allocated is live, and large enough. -/
theorem regions_allocate {a b : Allocator} {size : Nat} {r : Region} (h : a.allocate size = (.ok r, b)) :
    b.regions = r :: a.regions ∧ size ≤ r.size := by
  obtain ⟨-, bus, c, hreserve, rfl, rfl⟩ := exists_reserve_of_allocate h
  rw [regions, List.map_cons, live_reserve hreserve]
  exact ⟨rfl, le_pageAligned size⟩

/-- The memory behind live regions has changed, and nothing else. -/
structure Overwritten (a b : Allocator) : Prop where
  same : b = { a with live := b.live }
  regions : b.regions = a.regions

/-- Changing the memory of some mappings takes no region away. -/
theorem overwritten_map (a : Allocator) (p : Mapping → Prop) [DecidablePred p] (change : Mapping → Memory) :
    a.Overwritten { a with live := a.live.map fun m => if p m then { m with memory := change m } else m } where
  same := rfl
  regions := by
    rw [regions, List.map_map]
    exact List.map_congr_left fun m _ => by dsimp only [Function.comp]; split <;> rfl

/-- Writing by bus address changes memory only. -/
theorem overwritten_busWrite {a b : Allocator} {addr : Nat} {data : Bytes} (h : a.busWrite addr data = some b) :
    a.Overwritten b := by
  obtain ⟨m, -, rfl⟩ := Option.map_eq_some_iff.mp h
  exact a.overwritten_map _ _

/-- So does writing through a region. -/
theorem overwritten_write {a b : Allocator} {r : Region} {offset : Nat} {data : Bytes}
    (h : a.write r offset data = .ok b) : a.Overwritten b := by
  unfold write at h
  split at h
  · obtain rfl := Except.ok.inj h
    exact a.overwritten_map _ _
  · contradiction

/-- So does filling a region with zeros. -/
theorem overwritten_clear (a : Allocator) (r : Region) : a.Overwritten (a.clear r) := a.overwritten_map _ _

end Allocator

/-- Filling a buffer takes no region away. -/
theorem Buffer.regions_fill {b : Buffer} {a memory : Allocator} {data : Bytes} (h : b.fill a data = .ok memory) :
    memory.regions = a.regions := by
  unfold fill at h
  cases hlength : b.checkLength data.size with
  | error e =>
    rw [hlength] at h
    contradiction
  | ok _ =>
    rw [hlength] at h
    cases hwrite : a.write b.region 0 data with
    | error e =>
      rw [hwrite] at h
      contradiction
    | ok written =>
      rw [hwrite] at h
      obtain rfl := Except.ok.inj h
      exact (Allocator.overwritten_write hwrite).regions

/-! ## Register writes -/

namespace Board

/-- Storing a frame takes no region away, and writes no register. -/
theorem deliver_kept (h : Host Board) (lane : Nat) (vc : Word) (payload : Bytes) :
    (deliver h lane vc payload).memory.regions = h.memory.regions ∧
      (deliver h lane vc payload).apart = h.apart ∧ (deliver h lane vc payload).bus.writes = h.bus.writes := by
  unfold deliver
  split
  · exact ⟨rfl, rfl, rfl⟩
  · rename_i addr board htaken
    obtain ⟨k, rest, -, rfl⟩ := takeFree?_eq_some htaken
    dsimp only
    split
    · exact ⟨rfl, rfl, rfl⟩
    · exact ⟨(Allocator.overwritten_busWrite ‹_›).regions, rfl, rfl⟩

/-- Raising an interrupt touches no memory, and writes no register. -/
theorem interrupt_kept (h : Host Board) :
    (interrupt h).memory = h.memory ∧ (interrupt h).apart = h.apart ∧ (interrupt h).bus.writes = h.bus.writes := by
  obtain ⟨handling, line, hraise⟩ := interrupt_eq h
  rw [hraise]
  exact ⟨rfl, rfl, rfl⟩

/-- Neither does sending a frame take a region away or write a register, wherever the frame is. -/
theorem transmit_kept (h : Host Board) (lane : Nat) (addr : Word) :
    (transmit h lane addr).memory.regions = h.memory.regions ∧ (transmit h lane addr).apart = h.apart ∧
      (transmit h lane addr).bus.writes = h.bus.writes := by
  have hreturned : (h.bus.returnTx addr).writes = h.bus.writes := by
    unfold returnTx
    split <;> rfl
  unfold transmit
  dsimp only
  split
  · exact ⟨rfl, rfl, rfl⟩
  · obtain ⟨hmemory, hapart, hwrites⟩ := interrupt_kept
      (if (h.bus.returnTx addr).isLooped lane then deliver { h with bus := h.bus.returnTx addr } lane
        (TxDescriptor.decode (h.bus.regs.get (Offset.txWrA + 4 * lane))).vc _
      else { h with bus := h.bus.returnTx addr })
    rw [hmemory, hapart, hwrites]
    split
    · obtain ⟨hregions, hapart', hwrites'⟩ := deliver_kept { h with bus := h.bus.returnTx addr } lane
        (TxDescriptor.decode (h.bus.regs.get (Offset.txWrA + 4 * lane))).vc _
      exact ⟨hregions, hapart', hwrites'.trans hreturned⟩
    · exact ⟨rfl, rfl, hreturned⟩

/-- A register write takes no region away, and is noted. -/
theorem store_kept (h : Host Board) (offset : Nat) (value : Word) :
    (store h offset value).memory.regions = h.memory.regions ∧ (store h offset value).apart = h.apart ∧
      (store h offset value).bus.writes = h.bus.writes.push (offset, value) := by
  unfold store
  dsimp only
  split
  · exact ⟨rfl, rfl, rfl⟩
  · split
    · exact transmit_kept _ _ _
    · split
      · split
        · obtain ⟨hmemory, hapart, hwrites⟩ := interrupt_kept _
          rw [hmemory, hapart, hwrites]
          exact ⟨rfl, rfl, rfl⟩
        · exact ⟨rfl, rfl, rfl⟩
      · exact ⟨rfl, rfl, rfl⟩

end Board

namespace Host

/-- A register write takes no region of the driver's buffers away. -/
theorem regions_write (h : Host Board) (offset : Nat) (value : Word) :
    (h.write offset value).buffers.regions = h.buffers.regions := by
  obtain ⟨hmemory, hapart, -⟩ := Board.store_kept h offset value
  change ((Board.store h offset value).apart.getD (Board.store h offset value).memory).regions = _
  rw [hapart, buffers]
  cases h.apart with
  | none => exact hmemory
  | some a => rfl

/-- A register write is noted. -/
theorem writes_write (h : Host Board) (offset : Nat) (value : Word) :
    (h.write offset value).bus.writes = h.bus.writes.push (offset, value) :=
  (Board.store_kept h offset value).2.2

end Host

/-! ## Pools -/

/-- A buffer apart from the frame in it. -/
def Buffer.bare (b : Buffer) : Buffer := { b with frame := FrameMeta.blank }

namespace BufferPool

/-- Two pools have the same buffers, apart from the frames in them. -/
structure Alike (p q : BufferPool) : Prop where
  bufferSize : q.bufferSize = p.bufferSize
  buffers : q.buffers.toList.map Buffer.bare = p.buffers.toList.map Buffer.bare

namespace Alike

variable {p q r : BufferPool}

/-- A pool is like itself. -/
theorem refl (p : BufferPool) : p.Alike p := ⟨rfl, rfl⟩

/-- Pools like the same one are alike. -/
theorem trans (h : p.Alike q) (h' : q.Alike r) : p.Alike r :=
  ⟨h'.bufferSize.trans h.bufferSize, h'.buffers.trans h.buffers⟩

/-- Pools that are alike have as many buffers. -/
theorem size (h : p.Alike q) : q.size = p.size := by
  have hlength := congrArg List.length h.buffers
  simpa [BufferPool.size] using hlength

/-- Recording a frame leaves a pool as it was, apart from that. -/
theorem setFrame (p : BufferPool) (i : Nat) (frame : FrameMeta) : p.Alike (p.setFrame i frame) := by
  refine ⟨rfl, List.ext_getElem? fun j => ?_⟩
  rw [List.getElem?_map, List.getElem?_map, Array.getElem?_toList, Array.getElem?_toList, getElem?_setFrame]
  split
  · rw [Option.map_map]
    rfl
  · rfl

/-- A buffer of one pool is one of the other, apart from the frame in it. -/
theorem exists_mem (h : p.Alike q) {b : Buffer} (hb : b ∈ q.buffers.toList) :
    ∃ b' ∈ p.buffers.toList, b'.region = b.region ∧ b'.addr = b.addr ∧ b'.size = b.size := by
  have hbare : b.bare ∈ p.buffers.toList.map Buffer.bare := h.buffers ▸ List.mem_map_of_mem hb
  obtain ⟨b', hb', hsame⟩ := List.mem_map.mp hbare
  simp only [Buffer.bare, Buffer.mk.injEq] at hsame
  exact ⟨b', hb', hsame.1, hsame.2.1, hsame.2.2.1⟩

end Alike

/-- The region of every buffer is live, large enough, and at the address of the buffer. -/
structure Backed (p : BufferPool) (a : Allocator) : Prop where
  live : ∀ b ∈ p.buffers.toList, b.region ∈ a.regions
  reached : ∀ b ∈ p.buffers.toList, b.addr.toNat = b.region.bus
  sized : ∀ b ∈ p.buffers.toList, b.size = p.bufferSize
  roomy : ∀ b ∈ p.buffers.toList, p.bufferSize ≤ b.region.size

namespace Backed

variable {p q : BufferPool} {a b : Allocator}

/-- A pool stays backed while no region is taken away. -/
theorem mono (h : p.Backed a) (hab : a.regions ⊆ b.regions) : p.Backed b :=
  { h with live := fun x hx => hab (h.live x hx) }

/-- Whether a pool is backed does not depend on the frames in it. -/
theorem alike (h : p.Backed a) (hpq : p.Alike q) : q.Backed a where
  live x hx := by
    obtain ⟨y, hy, hregion, -⟩ := hpq.exists_mem hx
    exact hregion ▸ h.live y hy
  reached x hx := by
    obtain ⟨y, hy, hregion, haddr, -⟩ := hpq.exists_mem hx
    rw [← hregion, ← haddr]
    exact h.reached y hy
  sized x hx := by
    obtain ⟨y, hy, -, -, hsize⟩ := hpq.exists_mem hx
    rw [← hsize, hpq.bufferSize]
    exact h.sized y hy
  roomy x hx := by
    obtain ⟨y, hy, hregion, -⟩ := hpq.exists_mem hx
    rw [← hregion, hpq.bufferSize]
    exact h.roomy y hy

end Backed

/-! ## Allocation -/

/-- A pool that was added to is backed, and no region was taken away for it. -/
structure Stocked (p q : BufferPool) (a b : Allocator) : Prop where
  backed : q.Backed b
  kept : a.regions ⊆ b.regions
  bufferSize : q.bufferSize = p.bufferSize

/-- Adding one buffer keeps a pool backed. -/
theorem stocked_allocateOne {p q : BufferPool} {a b : Allocator} {lines : List Line} (hp : p.Backed a)
    (h : p.allocateOne a = (.ok q, b, lines)) : Stocked p q a b := by
  unfold allocateOne at h
  split at h
  · simp at h
  · rename_i r allocated halloc
    obtain ⟨hregions, hsize⟩ := Allocator.regions_allocate halloc
    have hkept : a.regions ⊆ allocated.regions := by
      rw [hregions]
      exact List.subset_cons_self _ _
    split at h
    · rename_i addr hreach
      simp only [Prod.mk.injEq, Except.ok.injEq] at h
      obtain ⟨rfl, rfl, -⟩ := h
      have hold := hp.mono hkept
      refine ⟨?_, hkept, rfl⟩
      constructor
      all_goals
        intro x hx
        simp only [Array.toList_push, List.mem_append, List.mem_singleton] at hx
        rcases hx with hx | rfl
      · exact hold.live x hx
      · exact hregions ▸ List.mem_cons_self
      · exact hold.reached x hx
      · exact (reachable?_eq_some hreach).1
      · exact hold.sized x hx
      · rfl
      · exact hold.roomy x hx
      · exact hsize
    · simp at h

/-- Adding several buffers keeps a pool backed. -/
theorem stocked_grow {n : Nat} {p q : BufferPool} {a b : Allocator} {lines : List Line} (hp : p.Backed a)
    (h : grow n p a = (.ok q, b, lines)) : Stocked p q a b := by
  induction n generalizing p a lines with
  | zero =>
    simp only [grow, Prod.mk.injEq, Except.ok.injEq] at h
    obtain ⟨rfl, rfl, -⟩ := h
    exact ⟨hp, List.Subset.refl _, rfl⟩
  | succ n ih =>
    obtain ⟨first, middle, _, _, hone, hgrow⟩ := grow_succ_ok h
    have hfirst := stocked_allocateOne hp hone
    have hrest := ih hfirst.backed hgrow
    exact ⟨hrest.backed, List.Subset.trans hfirst.kept hrest.kept, hrest.bufferSize.trans hfirst.bufferSize⟩

/-- A pool that was allocated is backed. -/
theorem stocked_allocate {direction : Direction} {count size : Nat} {q : BufferPool} {a b : Allocator}
    {lines : List Line} (h : allocate direction count size a = (.ok q, b, lines)) :
    Stocked (empty direction size) q a b := by
  have hempty : (empty direction size).Backed a := by constructor <;> simp [empty]
  obtain ⟨-, _, hgrow⟩ := exists_grow_of_allocate h
  exact stocked_grow hempty hgrow

end BufferPool

end LaneCard
