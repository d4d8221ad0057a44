import LaneCard.Pool
import LaneCard.Proofs.Allocator
import LaneCard.Proofs.Descriptor
import Mathlib.Data.List.Nodup

/-!
# Pools of live buffers

A pool that was allocated holds live regions at addresses the card can name, no two of them at the
same address. Its buffers can then be told apart by address: looking an address up inverts the list
of addresses. Recording what is known of a frame changes neither.
-/

namespace LaneCard.BufferPool

/-- The buffers of a pool are live regions, each large enough and at an address of its own. -/
structure Held (p : BufferPool) (a : Allocator) : Prop where
  live : ∀ b ∈ p.buffers.toList, b.region ∈ a.regions
  reached : ∀ b ∈ p.buffers.toList, b.addr.toNat = b.region.bus
  aligned : ∀ b ∈ p.buffers.toList, b.addr.Aligned
  sized : ∀ b ∈ p.buffers.toList, b.size = p.bufferSize
  roomy : ∀ b ∈ p.buffers.toList, p.bufferSize ≤ b.region.size
  distinct : p.addrs.Nodup

/-- A pool without buffers holds nothing. -/
theorem held_empty (direction : Direction) (bufferSize : Nat) (a : Allocator) :
    (empty direction bufferSize).Held a := by
  constructor <;> simp [empty, addrs]

/-- The addresses of a pool are aligned. -/
theorem Held.aligned_of_mem_addrs {p : BufferPool} {a : Allocator} (hp : p.Held a) {addr : Word}
    (haddr : addr ∈ p.addrs) : addr.Aligned := by
  obtain ⟨b, hb, rfl⟩ := List.mem_map.mp haddr
  exact hp.aligned b hb

/-- A pool holds its buffers as long as their regions are live. -/
theorem Held.mono {p : BufferPool} {a b : Allocator} (hp : p.Held a) (hab : a.regions ⊆ b.regions) :
    p.Held b :=
  { hp with live := fun x hx => hab (hp.live x hx) }

/-- The card reads a buffer as its holder sees it. -/
theorem Held.busRead_eq {p : BufferPool} {a : Allocator} (hp : p.Held a) (hwf : a.WellFormed) {b : Buffer}
    (hb : b ∈ p.buffers.toList) (n : Nat) (hn : n ≤ p.bufferSize) :
    a.busRead b.addr.toNat n = some ((a.contents b.region).read 0 n) := by
  rw [hp.reached b hb]
  exact a.busRead_eq hwf b.region (hp.live b hb) n (Nat.le_trans hn (hp.roomy b hb))

/-- Changing the memory of a buffer changes nothing in a buffer at another address. -/
theorem Held.busRead_of_rewritten {p q : BufferPool} {a a' : Allocator} (hp : p.Held a) (hq : q.Held a)
    (hwf : a.WellFormed) {b c : Buffer} (hb : b ∈ p.buffers.toList) (hc : c ∈ q.buffers.toList)
    (hother : b.addr ≠ c.addr) {change : Memory → Memory} (h : Allocator.Rewritten a a' c.region change)
    (n : Nat) (hn : n ≤ p.bufferSize) : a'.busRead b.addr.toNat n = a.busRead b.addr.toNat n := by
  have hregions : b.region ≠ c.region := by
    intro hsame
    apply hother
    apply BitVec.eq_of_toNat_eq
    rw [hp.reached b hb, hq.reached c hc, hsame]
  have hp' : p.Held a' := hp.mono (h.regions ▸ List.Subset.refl _)
  rw [hp'.busRead_eq (h.wellFormed hwf) hb n hn, hp.busRead_eq hwf hb n hn, h.outside _ hregions]

/-! ## Looking up addresses -/

/-- There are as many addresses as buffers. -/
@[simp] theorem length_addrs (p : BufferPool) : p.addrs.length = p.size := by simp [addrs, size]

/-- The address at a position is that of the buffer there. -/
theorem getElem?_addrs (p : BufferPool) (i : Nat) : p.addrs[i]? = (p.buffers[i]?).map Buffer.addr := by
  rw [addrs, List.getElem?_map, Array.getElem?_toList]

/-- A buffer is one of the pool. -/
theorem mem_of_getElem? {p : BufferPool} {i : Nat} {b : Buffer} (h : p.buffers[i]? = some b) :
    b ∈ p.buffers.toList := by
  rw [← Array.getElem?_toList] at h
  exact List.mem_of_getElem? h

/-- Numbers below the size of a pool name a buffer. -/
theorem exists_getElem? (p : BufferPool) (i : Nat) (hi : i < p.size) : ∃ b, p.buffers[i]? = some b :=
  ⟨p.buffers[i], Array.getElem?_eq_getElem hi⟩

/-- An address is found where it stands in the list, if the addresses are distinct. -/
theorem find?_eq_some_iff (p : BufferPool) (hdistinct : p.addrs.Nodup) (addr : Word) (i : Nat) :
    p.find? addr = some i ↔ p.addrs[i]? = some addr := by
  rw [find?, Array.findIdx?_eq_some_iff_getElem, getElem?_addrs]
  constructor
  · rintro ⟨hi, hfound, -⟩
    rw [Array.getElem?_eq_getElem hi, Option.map_some]
    simpa using hfound
  · intro h
    obtain ⟨b, hb, rfl⟩ := Option.map_eq_some_iff.mp h
    obtain ⟨hi, rfl⟩ := Array.getElem?_eq_some_iff.mp hb
    refine ⟨hi, by simp, fun j hj hsame => ?_⟩
    have hsecond : p.addrs[j]? = p.addrs[i]? := by
      rw [getElem?_addrs, getElem?_addrs, hb, Array.getElem?_eq_getElem (by omega)]
      simpa using hsame
    have hlt : i < p.addrs.length := by
      rw [length_addrs]
      exact hi
    have hij : j = i := (List.getElem?_inj (by omega) hdistinct).mp hsecond
    omega

/-- An address that is not in the list is not found. -/
theorem find?_eq_none_iff (p : BufferPool) (addr : Word) : p.find? addr = none ↔ addr ∉ p.addrs := by
  rw [find?, Array.findIdx?_eq_none_iff, addrs, List.mem_map]
  simp only [Array.mem_toList_iff, beq_eq_false_iff_ne, ne_eq, not_exists, not_and]

/-- Every address of the list is found. -/
theorem exists_find? (p : BufferPool) (addr : Word) (haddr : addr ∈ p.addrs) :
    ∃ i, p.find? addr = some i := by
  cases hfind : p.find? addr with
  | none => exact absurd haddr ((p.find?_eq_none_iff addr).mp hfind)
  | some i => exact ⟨i, rfl⟩

/-- What is found for an address is the number of a buffer at that address. -/
theorem exists_of_find? {p : BufferPool} {addr : Word} {i : Nat} (h : p.find? addr = some i) :
    ∃ b, p.buffers[i]? = some b ∧ b.addr = addr := by
  rw [find?, Array.findIdx?_eq_some_iff_getElem] at h
  obtain ⟨hi, hfound, -⟩ := h
  exact ⟨p.buffers[i], Array.getElem?_eq_getElem hi, by simpa using hfound⟩

/-- A number that is found for an address is that of one of the buffers. -/
theorem lt_size_of_find? {p : BufferPool} {addr : Word} {i : Nat} (h : p.find? addr = some i) : i < p.size := by
  obtain ⟨b, hb, -⟩ := exists_of_find? h
  exact (Array.getElem?_eq_some_iff.mp hb).1

/-- Where addresses are found depends on the addresses of a pool alone. -/
theorem find?_congr {p q : BufferPool} (h : p.addrs = q.addrs) : p.find? = q.find? := by
  have hfind (r : BufferPool) (addr : Word) : r.find? addr = r.addrs.findIdx? (· == addr) := by
    rw [find?, addrs, List.findIdx?_map, ← List.findIdx?_toArray, Array.toArray_toList]
    rfl
  funext addr
  rw [hfind, hfind, h]

/-! ## Recording a frame -/

/-- Recording a frame changes what is known of the frame in one buffer. -/
theorem getElem?_setFrame (p : BufferPool) (i : Nat) (frame : FrameMeta) (j : Nat) :
    (p.setFrame i frame).buffers[j]? =
      if i = j then (p.buffers[j]?).map fun b => { b with frame := frame } else p.buffers[j]? :=
  Array.getElem?_modify

/-- Noting a frame on a buffer leaves the size of the buffers as it is. -/
@[simp] theorem bufferSize_setFrame (p : BufferPool) (i : Nat) (frame : FrameMeta) :
    (p.setFrame i frame).bufferSize = p.bufferSize := rfl

/-- Recording a frame moves no buffer. -/
@[simp] theorem addrs_setFrame (p : BufferPool) (i : Nat) (frame : FrameMeta) :
    (p.setFrame i frame).addrs = p.addrs := by
  apply List.ext_getElem?
  intro j
  rw [getElem?_addrs, getElem?_addrs, getElem?_setFrame]
  split
  · rw [Option.map_map]
    rfl
  · rfl

/-- A buffer after a frame was recorded is a buffer from before apart from its frame. -/
theorem mem_setFrame {p : BufferPool} {i : Nat} {frame : FrameMeta} {b : Buffer}
    (hb : b ∈ (p.setFrame i frame).buffers.toList) :
    ∃ b' ∈ p.buffers.toList, b'.region = b.region ∧ b'.addr = b.addr ∧ b'.size = b.size := by
  obtain ⟨j, hj⟩ := List.mem_iff_getElem?.mp hb
  rw [Array.getElem?_toList, getElem?_setFrame] at hj
  split at hj
  · obtain ⟨b', hb', rfl⟩ := Option.map_eq_some_iff.mp hj
    exact ⟨b', mem_of_getElem? hb', rfl, rfl, rfl⟩
  · exact ⟨b, mem_of_getElem? hj, rfl, rfl, rfl⟩

/-- Recording a frame keeps the buffers of a pool. -/
theorem Held.setFrame {p : BufferPool} {a : Allocator} (hp : p.Held a) (i : Nat) (frame : FrameMeta) :
    (p.setFrame i frame).Held a where
  live b hb := by
    obtain ⟨b', hb', hregion, -, -⟩ := mem_setFrame hb
    exact hregion ▸ hp.live b' hb'
  reached b hb := by
    obtain ⟨b', hb', hregion, haddr, -⟩ := mem_setFrame hb
    rw [← hregion, ← haddr, hp.reached b' hb']
  aligned b hb := by
    obtain ⟨b', hb', -, haddr, -⟩ := mem_setFrame hb
    exact haddr ▸ hp.aligned b' hb'
  sized b hb := by
    obtain ⟨b', hb', -, -, hsize⟩ := mem_setFrame hb
    rw [← hsize, hp.sized b' hb', bufferSize_setFrame]
  roomy b hb := by
    obtain ⟨b', hb', hregion, -, -⟩ := mem_setFrame hb
    rw [bufferSize_setFrame, ← hregion]
    exact hp.roomy b' hb'
  distinct := by rw [addrs_setFrame]; exact hp.distinct

/-! ## Allocation -/

/-- The address of a reachable region is that of the region, and aligned. -/
theorem reachable?_eq_some {r : Region} {addr : Word} (h : reachable? r = some addr) :
    addr.toNat = r.bus ∧ addr.Aligned := by
  unfold reachable? at h
  split at h
  · rename_i hbus
    obtain rfl := Option.some.inj h
    have hvalue : (BitVec.ofNat 32 r.bus).toNat = r.bus := Word.toNat_ofNat_of_lt hbus.1
    exact ⟨hvalue, Word.aligned_of_mod _ (by rw [hvalue]; exact hbus.2)⟩
  · contradiction

/-- A pool grew by buffers in regions that were not live before. -/
structure Grown (p q : BufferPool) (a b : Allocator) (n : Nat) : Prop where
  wellFormed : b.WellFormed
  held : q.Held b
  kept : a.regions ⊆ b.regions
  size : q.size = p.size + n
  bufferSize : q.bufferSize = p.bufferSize
  fresh : ∀ x ∈ q.buffers.toList, x ∈ p.buffers.toList ∨ x.region ∉ a.regions

/-- Adding one buffer makes a pool grow by one. -/
theorem allocateOne_ok (p q : BufferPool) (a b : Allocator) (lines : List Line) (hwf : a.WellFormed)
    (hp : p.Held a) (h : p.allocateOne a = (.ok q, b, lines)) : Grown p q a b 1 := by
  unfold allocateOne at h
  split at h
  · simp at h
  · rename_i r allocated halloc
    obtain ⟨hwf', hlive, hsize⟩ := a.allocate_ok allocated p.bufferSize r hwf halloc
    have hregions : allocated.regions = r :: a.regions := by
      rw [Allocator.regions, hlive, List.map_cons, Allocator.regions]
    have hnew : r ∉ a.regions := fun hmem => by
      have hblocks : allocated.blocks = r.segment :: (a.regions.map Region.segment ++ allocated.recycled) := by
        rw [Allocator.blocks, hregions]
        rfl
      have hapart := hwf'.apart
      rw [hblocks, List.pairwise_cons] at hapart
      have hself := hapart.1 r.segment (List.mem_append_left _ (List.mem_map_of_mem hmem))
      have hpos := hwf'.positive r.segment (hblocks ▸ List.mem_cons_self)
      simp only [Segment.Apart] at hself
      omega
    split at h
    · rename_i addr hreach
      obtain ⟨hbus, haligned⟩ := reachable?_eq_some hreach
      simp only [Prod.mk.injEq, Except.ok.injEq] at h
      obtain ⟨rfl, rfl, -⟩ := h
      have hkept : a.regions ⊆ allocated.regions := by
        rw [hregions]
        exact List.subset_cons_self _ _
      have hother (x : Buffer) (hx : x ∈ p.buffers.toList) : x.addr ≠ addr := fun hsame => by
        have hxbus : x.region.bus = r.bus := by rw [← hp.reached x hx, hsame, hbus]
        have hxr := hwf'.region_eq (hkept (hp.live x hx)) (hregions ▸ List.mem_cons_self) hxbus
        exact hnew (hxr ▸ hp.live x hx)
      refine ⟨hwf', ?_, hkept, by simp [BufferPool.size], rfl, fun x hx => ?_⟩
      · constructor
        case distinct =>
          simp only [addrs, Array.toList_push, List.map_append, List.map_cons, List.map_nil]
          refine List.Nodup.append hp.distinct (List.nodup_singleton _) ?_
          rw [List.disjoint_singleton, List.mem_map]
          rintro ⟨x, hx, hsame⟩
          exact hother x hx hsame
        all_goals
          intro x hx
          simp only [Array.toList_push, List.mem_append, List.mem_singleton] at hx
          rcases hx with hx | rfl
        · exact hkept (hp.live x hx)
        · exact hregions ▸ List.mem_cons_self
        · exact hp.reached x hx
        · exact hbus
        · exact hp.aligned x hx
        · exact haligned
        · exact hp.sized x hx
        · rfl
        · exact hp.roomy x hx
        · exact hsize
      · simp only [Array.toList_push, List.mem_append, List.mem_singleton] at hx
        rcases hx with hx | rfl
        · exact Or.inl hx
        · exact Or.inr hnew
    · simp at h

/-- A pool grows by one buffer, and then by the others. -/
theorem grow_succ_ok {n : Nat} {p q : BufferPool} {a b : Allocator} {lines : List Line}
    (h : grow (n + 1) p a = (.ok q, b, lines)) :
    ∃ first middle line rest, p.allocateOne a = (.ok first, middle, line) ∧
      grow n first middle = (.ok q, b, rest) := by
  rw [grow] at h
  split at h
  · rename_i first middle line hone
    simp only [Prod.mk.injEq] at h
    obtain ⟨hresult, hallocator, -⟩ := h
    exact ⟨first, middle, line, _, hone, Prod.ext hresult (Prod.ext hallocator rfl)⟩
  · simp at h

/-- When a pool cannot grow, it is one of the others that does not come, or the first; then everything
is released. -/
theorem grow_succ_error {n : Nat} {p : BufferPool} {a b : Allocator} {e : CardError} {lines : List Line}
    (h : grow (n + 1) p a = (.error e, b, lines)) :
    (∃ first middle line rest, p.allocateOne a = (.ok first, middle, line) ∧
      grow n first middle = (.error e, b, rest) ∧ lines = line ++ rest) ∨
    ∃ middle line, p.allocateOne a = (.error e, middle, line) ∧ b = (p.releaseAll middle).2.1 ∧
      lines = line ++ [⟨.error, "pool: unable to allocate " ++ p.direction.text ++
        s!" buffer {p.size}: " ++ e.message⟩] ++ (p.releaseAll middle).2.2 := by
  rw [grow] at h
  split at h
  · rename_i first middle line hone
    simp only [Prod.mk.injEq] at h
    obtain ⟨hresult, hallocator, hlines⟩ := h
    exact .inl ⟨first, middle, line, _, hone, Prod.ext hresult (Prod.ext hallocator rfl), hlines.symm⟩
  · rename_i middle line hone
    simp only [Prod.mk.injEq, Except.error.injEq] at h
    obtain ⟨rfl, hallocator, hlines⟩ := h
    exact .inr ⟨middle, line, hone, hallocator.symm, hlines.symm⟩

/-- Adding several buffers makes a pool grow by their number. -/
theorem grow_ok (n : Nat) (p q : BufferPool) (a b : Allocator) (lines : List Line) (hwf : a.WellFormed)
    (hp : p.Held a) (h : grow n p a = (.ok q, b, lines)) : Grown p q a b n := by
  induction n generalizing p a lines with
  | zero =>
    simp only [grow, Prod.mk.injEq, Except.ok.injEq] at h
    obtain ⟨rfl, rfl, -⟩ := h
    exact ⟨hwf, hp, List.Subset.refl _, rfl, rfl, fun x hx => Or.inl hx⟩
  | succ n ih =>
    obtain ⟨first, middle, _, _, hone, hgrow⟩ := grow_succ_ok h
    have hfirst := p.allocateOne_ok first a middle _ hwf hp hone
    have hrest := ih first middle _ hfirst.wellFormed hfirst.held hgrow
    refine ⟨hrest.wellFormed, hrest.held, List.Subset.trans hfirst.kept hrest.kept, ?_, ?_, fun x hx => ?_⟩
    · rw [hrest.size, hfirst.size]
      omega
    · rw [hrest.bufferSize, hfirst.bufferSize]
    · rcases hrest.fresh x hx with hmiddle | hnew
      · exact hfirst.fresh x hmiddle
      · exact Or.inr fun hold => hnew (hfirst.kept hold)

/-- A pool that was allocated could be laid out, and grew from an empty one. -/
theorem exists_grow_of_allocate {direction : Direction} {count size : Nat} {q : BufferPool} {a b : Allocator}
    {lines : List Line} (h : allocate direction count size a = (.ok q, b, lines)) :
    canHold count size = true ∧ ∃ lines, grow count (empty direction size) a = (.ok q, b, lines) := by
  unfold allocate at h
  split at h
  · rename_i hroom
    split at h
    · rename_i hgrow
      simp only [Prod.mk.injEq, Except.ok.injEq] at h
      obtain ⟨rfl, rfl, -⟩ := h
      exact ⟨hroom, _, hgrow⟩
    · simp at h
  · simp at h

/-- A pool that was allocated has grown from nothing. -/
theorem allocate_ok (direction : Direction) (count size : Nat) (q : BufferPool) (a b : Allocator)
    (lines : List Line) (hwf : a.WellFormed) (h : allocate direction count size a = (.ok q, b, lines)) :
    Grown (empty direction size) q a b count := by
  obtain ⟨-, _, hgrow⟩ := exists_grow_of_allocate h
  exact grow_ok count _ _ a _ _ hwf (held_empty direction size a) hgrow

end LaneCard.BufferPool
