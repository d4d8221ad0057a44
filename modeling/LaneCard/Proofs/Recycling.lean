import LaneCard.Proofs.Interaction
import LaneCard.Proofs.Reception

/-!
# A received frame and its buffer

Three limits decide what a caller is given of a frame: the length that the card has reported, the size of
the buffer, and the room that the caller has. What the caller is told depends on the frame and that room
alone. Once a frame has been chosen its buffer goes back to the card, with one register write, and its
number leaves the ring; whether the caller could take the words comes too late to change that.
-/

namespace LaneCard

namespace Buffer

/-- The number of words of a frame that go into room for so many: no more than the frame has, than the
buffer holds, and than there is room for. -/
def copied (b : Buffer) (room : Nat) : Nat := min (min b.frame.length.toNat (b.size / wordSize)) room

/-- What a caller with so much room is told of a frame: everything that the card has reported, and that
the frame was cut if it is longer than the room. -/
def report (b : Buffer) (room : Nat) : RxFrame where
  lane := b.frame.lane
  vc := b.frame.vc
  length := b.frame.length
  copied := b.copied room
  flags := { b.frame.flags with lengthErr := b.frame.flags.lengthErr || decide (room < b.frame.length.toNat) }

/-- The first words of a frame, as many as go into room for so many. -/
def front (b : Buffer) (memory : Allocator) (room : Nat) : Bytes :=
  (memory.contents b.region).read 0 (b.copied room * wordSize)

/-- The words of a frame that are copied are as many as are reported to be. -/
theorem size_front (b : Buffer) (memory : Allocator) (room : Nat) :
    (b.front memory room).size = b.copied room * wordSize := Memory.size_read _ 0 _

end Buffer

/-- Some work has used up the frame in buffer `b` of number `i`: the number has left the front of the ring,
and the address of the buffer was written once, to the free list of the frame's lane. -/
structure Card.Recycled (c : Card Board) (i : Nat) (b : Buffer) (c' : Card Board) : Prop where
  ring : c.device.rxReady.toList = i :: c'.device.rxReady.toList
  writes : c'.host.bus.writes =
    c.host.bus.writes.push (Offset.rxFree + 4 * (b.frame.lane.toNat % laneCount), b.addr)
  free : c'.host.bus.freeList =
    Function.update c.host.bus.freeList (b.frame.lane.toNat % laneCount)
      (c.host.bus.freeList (b.frame.lane.toNat % laneCount) ++ [b.addr])

namespace Card

variable {c : Card Board}

/-- What is copied and reported, in one equation. -/
theorem copyPlan_eq (b : Buffer) (room : Nat) : copyPlan b room = (b.copied room, (b.report room).flags) := by
  unfold copyPlan Buffer.copied Buffer.report
  dsimp only
  split
  · rename_i hcut
    rw [decide_eq_true hcut, Bool.or_true]
  · rename_i hfits
    have hheld : min b.frame.length.toNat (b.size / wordSize) ≤ room := by omega
    rw [decide_eq_false hfits, Bool.or_false, Nat.min_eq_left hheld]

/-- Taking the frame at the head of the ring recycles its buffer. -/
theorem recycled_of_relieved {w c' : Card Board} {i : Nat} {b : Buffer} (hi : c.device.rxReady.peek? = some i)
    (hw : c.Unmoved w) (hc : (w.relieved b).Unmoved c') : c.Recycled i b c' where
  ring := by
    have hbefore : w.device.rxReady = c.device.rxReady := by rw [hw.device]
    have hring : c'.device.rxReady = c.device.rxReady.drop := by
      rw [hc.device, ← hbefore]
      rfl
    rw [Ring.peek?_eq_head?] at hi
    rw [hring, Ring.toList_drop, List.cons_head?_tail hi]
  writes := by
    have hbefore : w.host.bus = c.host.bus := by rw [hw.host]
    have hafter : c'.host.bus = (w.relieved b).host.bus := by rw [hc.host]
    rw [hafter, ← hbefore]
    exact w.host.writes_write _ _
  free := by
    have hholdings : c'.holdings = c.holdings.consumed ⟨b.frame, b.addr⟩ := by
      rw [hc.holdings, holdings_relieved, hw.holdings]
    exact (congrArg Holdings.free hholdings).trans (returnTo_singleton _ _)

/-- The caller is given the first bytes of a buffer. -/
theorem Backed.copyOut_eq (hc : c.Backed) {b : Buffer} (hb : b ∈ c.device.rxPool.buffers.toList) (room : Nat)
    {γ : Type} (sink : Bytes → Except CardError γ) :
    c.copyOut b room sink = sink (b.front c.host.buffers room) := by
  rw [c.copyOut_of_roomy ?_ room sink, copyPlan_eq, Buffer.front]
  rw [hc.rx.sized b hb]
  exact hc.rx.roomy b hb

/-- A call that receives the frame at the head of the ring is told of it and given its first words. What it
makes of them is the answer; the buffer is recycled in any case. -/
theorem Backed.receive_head (hc : c.Backed) {i : Nat} {b : Buffer} (hi : c.device.rxReady.peek? = some i)
    (hb : c.device.rxPool.buffers[i]? = some b) (patience : Patience) (room : Nat) {γ : Type}
    (sink : Bytes → Except CardError γ) :
    ∃ c', c.receive patience room sink =
        (.returned ((sink (b.front c.host.buffers room)).map (b.report room, ·)), c') ∧
      c.Recycled i b c' := by
  have hfull : c.device.rxReady.isEmpty = false :=
    c.device.rxReady.isEmpty_eq_false_iff.mpr (List.ne_nil_of_mem (Ring.mem_of_peek? hi))
  have hwait := (c.waitFor_unmoved patience c.device.rxReady).2.mpr hfull
  have hcopied := hc.copyOut_eq (BufferPool.mem_of_getElem? hb) room sink
  have hends := c.reception patience room sink
  generalize c.receive patience room sink = reply at hends
  cases hends with
  | asleep _ hasleep => exact nomatch hwait.symm.trans hasleep
  | refused _ _ hrefused => exact nomatch hwait.symm.trans hrefused
  | unnamed _ _ hhead => rw [hi, Option.bind_some, hb] at hhead; contradiction
  | spoiled e i' b' w c' hi' hb' hcopy hw hafter =>
    obtain rfl := Option.some.inj (hi'.symm.trans hi)
    obtain rfl := Option.some.inj (hb'.symm.trans hb)
    exact ⟨c', by rw [← hcopied, hcopy]; rfl, recycled_of_relieved hi hw hafter⟩
  | received kept i' b' w c' hi' hb' hcopy hw hafter =>
    obtain rfl := Option.some.inj (hi'.symm.trans hi)
    obtain rfl := Option.some.inj (hb'.symm.trans hb)
    refine ⟨c', ?_, recycled_of_relieved hi hw hafter⟩
    rw [← hcopied, hcopy, copyPlan_eq]
    rfl

end Card

end LaneCard
