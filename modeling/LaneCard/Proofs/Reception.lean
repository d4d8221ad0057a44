import LaneCard.Proofs.Calls

/-!
# What receiving and closing do to the buffers

A received frame leaves the ring of readable frames, and its buffer goes back to the free list of the
frame's lane. Closing a session does the same with every frame that is left.
-/

namespace LaneCard

namespace Holdings

/-- The descriptors of the frames in the receive buffers with the given numbers. -/
def framesIn (H : Holdings) (indices : List Nat) : List RxDescriptor :=
  indices.filterMap fun i => (H.rxPool.buffers[i]?).map fun b => ⟨b.frame, b.addr⟩

/-- The descriptors of the frames to be read, oldest first. -/
def unread (H : Holdings) : List RxDescriptor := H.framesIn H.rxReady.toList

/-- The frame in one buffer. -/
theorem framesIn_singleton (H : Holdings) {i : Nat} {b : Buffer} (hb : H.rxPool.buffers[i]? = some b) :
    H.framesIn [i] = [⟨b.frame, b.addr⟩] := by simp [framesIn, hb]

/-- The frames in several buffers, one after the other. -/
theorem framesIn_append (H : Holdings) (l m : List Nat) :
    H.framesIn (l ++ m) = H.framesIn l ++ H.framesIn m := List.filterMap_append

/-- The buffers of unread frames are those of the pool. -/
theorem addr_mem_of_mem_framesIn {H : Holdings} {indices : List Nat} {d : RxDescriptor}
    (hd : d ∈ H.framesIn indices) : d.addr ∈ H.rxPool.addrs := by
  obtain ⟨i, -, hi⟩ := List.mem_filterMap.mp hd
  obtain ⟨b, hb, rfl⟩ := Option.map_eq_some_iff.mp hi
  exact List.mem_map_of_mem (BufferPool.mem_of_getElem? hb)

/-- The oldest frame was taken, and its buffer given back. -/
def consumed (H : Holdings) (d : RxDescriptor) : Holdings :=
  { H with free := returnTo H.free [d], rxReady := H.rxReady.drop }

/-- Taking a frame keeps the memory fit. -/
theorem Sound.consumed {H : Holdings} (h : H.Sound) {d : RxDescriptor} (hd : d.addr ∈ H.rxPool.addrs) :
    (H.consumed d).Sound :=
  have hreturned : ∀ x ∈ [d], x.addr ∈ H.rxPool.addrs := by simpa using hd
  { h.returnTo hreturned with }

/-- The session ended: every unread frame was given back and counted, and the ring is the given one. -/
def closed (H : Holdings) (ring : Ring) : Holdings :=
  { H with
    isOpen := false
    free := returnTo H.free H.unread
    rxReady := ring
    dropped := H.dropped + H.rxReady.length }

/-- Closing keeps the memory fit. -/
theorem Sound.closed {H : Holdings} (h : H.Sound) (ring : Ring) : (H.closed ring).Sound :=
  { h.returnTo fun _ hd => addr_mem_of_mem_framesIn hd with }

end Holdings

namespace Card

/-- Taking the frame in a buffer gives the buffer back. -/
theorem holdings_relieved (c : Card Board) (b : Buffer) :
    (c.relieved b).holdings = c.holdings.consumed ⟨b.frame, b.addr⟩ := by
  have hgiven := c.holdings_giveFree ⟨b.frame, b.addr⟩
  have hrelieved : (c.relieved b).holdings =
      { (c.giveFree b.frame.lane.toNat b.addr).holdings with rxReady := c.device.rxReady.drop } := rfl
  rw [hrelieved, hgiven]
  rfl

/-- No more words are copied than were reported, than the buffer holds, and than there is room for. -/
theorem copyPlan_le_min (b : Buffer) (maxSize : Nat) :
    (copyPlan b maxSize).1 ≤ min (min b.frame.length.toNat (b.size / wordSize)) maxSize := by
  unfold copyPlan
  dsimp only
  split <;> dsimp only <;> omega

/-- No more bytes are copied than the buffer holds. -/
theorem copyPlan_le (b : Buffer) (maxSize : Nat) : (copyPlan b maxSize).1 * wordSize ≤ b.size := by
  have hwords : (copyPlan b maxSize).1 ≤ b.size / wordSize := by
    have hmin := copyPlan_le_min b maxSize
    omega
  exact Nat.le_trans (Nat.mul_le_mul_right _ hwords) (Nat.div_mul_le_self _ _)

/-- The caller is given the first bytes of a buffer, if its region is large enough. -/
theorem copyOut_of_roomy {γ : Type} (c : Card Board) {b : Buffer} (hroomy : b.size ≤ b.region.size) (maxSize : Nat)
    (sink : Bytes → Except CardError γ) :
    c.copyOut b maxSize sink =
      sink ((c.host.buffers.contents b.region).read 0 ((copyPlan b maxSize).1 * wordSize)) := by
  have hroom : (copyPlan b maxSize).1 * wordSize ≤ b.size := copyPlan_le b maxSize
  have hread : c.host.buffers.read b.region 0 ((copyPlan b maxSize).1 * wordSize) =
      .ok ((c.host.buffers.contents b.region).read 0 ((copyPlan b maxSize).1 * wordSize)) := by
    rw [Allocator.read, if_pos (by omega)]
    rfl
  rw [copyOut, Buffer.payload, Buffer.checkLength, if_neg (by omega), hread]
  rfl

/-- The caller of a card in use is given the first bytes of the buffer. -/
theorem copyOut_eq {γ : Type} (c : Card Board) (hsound : c.holdings.Sound) {b : Buffer}
    (hb : b ∈ c.device.rxPool.buffers.toList) (maxSize : Nat) (sink : Bytes → Except CardError γ) :
    c.copyOut b maxSize sink =
      sink ((c.host.memory.contents b.region).read 0 ((copyPlan b maxSize).1 * wordSize)) := by
  have hroomy : b.size ≤ b.region.size := by
    rw [hsound.rxHeld.sized b hb]
    exact hsound.rxHeld.roomy b hb
  have hshared : c.host.apart = none := hsound.shared
  rw [c.copyOut_of_roomy hroomy, Host.buffers, hshared, Option.getD_none]

/-- Giving back the frame in the buffer of a number, if there is such a buffer. -/
private theorem holdings_giveNumbered (c : Card Board) (i : Nat) :
    (match c.device.rxPool.buffers[i]? with
      | some b => c.giveFree b.frame.lane.toNat b.addr
      | none => c).holdings =
      { c.holdings with free := returnTo c.holdings.free (c.holdings.framesIn [i]) } := by
  cases hb : c.device.rxPool.buffers[i]? with
  | none =>
    have hbuffer : c.holdings.rxPool.buffers[i]? = none := hb
    have hframes : c.holdings.framesIn [i] = [] := by simp [Holdings.framesIn, hbuffer]
    rw [hframes, returnTo_nil]
  | some b =>
    rw [c.holdings.framesIn_singleton hb]
    exact c.holdings_giveFree ⟨b.frame, b.addr⟩

/-- Giving back up to `n` unread frames takes them off the ring, the oldest first. -/
theorem returnUnread_eq (n : Nat) (c : Card Board) :
    (returnUnread n c).1 = min n c.device.rxReady.length ∧
      ∃ ring : Ring, ring.toList = c.device.rxReady.toList.drop n ∧
        ring.capacity = c.device.rxReady.capacity ∧ ring.collisions = c.device.rxReady.collisions ∧
        (returnUnread n c).2.holdings =
          { c.holdings with
            free := returnTo c.holdings.free (c.holdings.framesIn (c.device.rxReady.toList.take n))
            rxReady := ring } := by
  induction n generalizing c with
  | zero =>
    refine ⟨by simp [returnUnread], c.device.rxReady, by simp, rfl, rfl, ?_⟩
    simp only [returnUnread, List.take_zero, Holdings.framesIn, List.filterMap_nil, returnTo_nil]
    rfl
  | succ n ih =>
    cases hpeek : c.device.rxReady.peek? with
    | none =>
      have hnil : c.device.rxReady.toList = [] := by
        rw [← List.head?_eq_none_iff, ← Ring.peek?_eq_head?, hpeek]
      have hlength : c.device.rxReady.length = 0 := by rw [← Ring.length_toList, hnil, List.length_nil]
      have hstop : returnUnread (n + 1) c = (0, c) := by simp only [returnUnread, Ring.pop, hpeek]
      rw [hstop, hlength, hnil]
      refine ⟨by simp, c.device.rxReady, by simp [hnil], rfl, rfl, ?_⟩
      simp only [List.take_nil, Holdings.framesIn, List.filterMap_nil, returnTo_nil]
      rfl
    | some index =>
      obtain ⟨rest, hlist⟩ : ∃ rest, c.device.rxReady.toList = index :: rest := by
        rw [Ring.peek?_eq_head?] at hpeek
        exact ⟨_, (List.cons_head?_tail hpeek).symm⟩
      have hdrop : c.device.rxReady.drop.toList = rest := by rw [Ring.toList_drop, hlist, List.tail_cons]
      have hlength : c.device.rxReady.length = c.device.rxReady.drop.length + 1 := by
        rw [← Ring.length_toList, ← Ring.length_toList, hdrop, hlist, List.length_cons]
      set next : Card Board := { c with device := { c.device with rxReady := c.device.rxReady.drop } }
      set given : Card Board :=
        match next.device.rxPool.buffers[index]? with
        | some b => next.giveFree b.frame.lane.toNat b.addr
        | none => next with hgiven
      have hstep : returnUnread (n + 1) c = ((returnUnread n given).1 + 1, (returnUnread n given).2) := by
        simp only [returnUnread, Ring.pop, hpeek]
        rfl
      have hring : given.device.rxReady = c.device.rxReady.drop := by
        rw [hgiven]
        split <;> rfl
      have hone : given.holdings =
          { c.holdings with
            free := returnTo c.holdings.free (c.holdings.framesIn [index])
            rxReady := c.device.rxReady.drop } := next.holdings_giveNumbered index
      obtain ⟨hcount, ring, htoList, hcapacity, hcollisions, hholdings⟩ := ih given
      rw [hstep]
      refine ⟨?_, ring, ?_, ?_, ?_, ?_⟩
      · rw [hcount, hring, hlength]
        omega
      · rw [htoList, hring, hdrop, hlist, List.drop_succ_cons]
      · rw [hcapacity, hring, Ring.drop_capacity]
      · rw [hcollisions, hring, Ring.drop_collisions]
      · rw [hholdings, hone, hring, hdrop, hlist, List.take_succ_cons]
        have hsplit : c.holdings.framesIn (index :: rest.take n) =
            c.holdings.framesIn [index] ++ c.holdings.framesIn (rest.take n) :=
          c.holdings.framesIn_append [index] (rest.take n)
        rw [hsplit, ← returnTo_append]
        rfl

/-- Closing gives every unread frame back, counts it, and leaves an empty ring. -/
theorem holdings_closeSession (c : Card Board) :
    ∃ ring : Ring, ring.toList = [] ∧ ring.capacity = c.device.rxReady.capacity ∧
      ring.collisions = c.device.rxReady.collisions ∧ c.closeSession.holdings = c.holdings.closed ring := by
  set shut : Card Board := { c with device := { c.device with isOpen := false } }
  obtain ⟨hcount, ring, htoList, hcapacity, hcollisions, hholdings⟩ :=
    returnUnread_eq shut.device.rxReady.length shut
  refine ⟨ring, ?_, hcapacity, hcollisions, ?_⟩
  · rw [htoList, ← Ring.length_toList, List.drop_length]
  · have hclose : c.closeSession.holdings =
        { (returnUnread shut.device.rxReady.length shut).2.holdings with
          dropped := (returnUnread shut.device.rxReady.length shut).2.holdings.dropped +
            (returnUnread shut.device.rxReady.length shut).1 } := rfl
    rw [hclose, hcount, hholdings, Nat.min_self, ← Ring.length_toList, List.take_length, Ring.length_toList]
    rfl

end Card

end LaneCard
