import LaneCard.Proofs.AddressReach
import LaneCard.Proofs.Attach

/-!
# Room for the buffers of a card

An allocator from which nothing has been released hands out the addresses of its window one after the other. As
long as there are enough of them for both pools, attaching a card after power-up succeeds.
-/

namespace LaneCard

/-- The addresses before `next` are used up, none of them has been released, and all others up to the last that the
card can name are left. -/
structure Allocator.UsedUpTo (a : Allocator) (next : Nat) : Prop where
  recycled : a.recycled = []
  next : a.next = next
  limit : a.limit = wordSpan

namespace Allocator

variable {a : Allocator} {next size : Nat}

/-- There is room for a region as long as addresses are left. -/
theorem UsedUpTo.allocate (h : a.UsedUpTo next) (hsize : 0 < size) (hroom : next + pageAligned size ≤ wordSpan) :
    ∃ r b, a.allocate size = (.ok r, b) ∧ r.bus = next ∧ b.UsedUpTo (next + pageAligned size) := by
  have hlayout : ¬ (size = 0 ∨ layoutLimit < pageAligned size) := by
    unfold layoutLimit largestObject pageSize
    unfold wordSpan at hroom
    omega
  have hhost : ¬ hostLimit ≤ pageAligned size := by
    unfold hostLimit
    unfold wordSpan at hroom
    omega
  have hreserve : a.reserve (pageAligned size) = some (next, { a with next := next + pageAligned size }) := by
    simp only [reserve, h.recycled, List.find?_nil, h.next, h.limit, if_pos hroom]
  simp only [Allocator.allocate, if_neg hlayout, hreserve, if_neg hhost]
  exact ⟨_, _, rfl, rfl, ⟨h.recycled, rfl, h.limit⟩⟩

end Allocator

namespace BufferPool

variable {a : Allocator} {next : Nat}

/-- A pool grows as long as addresses are left. -/
theorem grow_of_usedUpTo (p : BufferPool) (n : Nat) (h : a.UsedUpTo next) (haligned : next % 4 = 0)
    (hsize : 0 < p.bufferSize) (hroom : next + n * Allocator.pageAligned p.bufferSize ≤ wordSpan) :
    ∃ q b lines, grow n p a = (.ok q, b, lines) ∧ b.UsedUpTo (next + n * Allocator.pageAligned p.bufferSize) := by
  induction n generalizing p a next with
  | zero => exact ⟨p, a, [], rfl, by rwa [Nat.zero_mul]⟩
  | succ n ih =>
    have hpage : 0 < Allocator.pageAligned p.bufferSize ∧ Allocator.pageAligned p.bufferSize % 4 = 0 := by
      unfold Allocator.pageAligned pageSize
      omega
    rw [Nat.succ_mul] at hroom
    obtain ⟨r, b, hallocate, hbus, hb⟩ := h.allocate hsize (by omega)
    have hstarts : Starts r := ⟨by omega, by omega⟩
    have hone := allocateOne_of_starts hallocate hstarts
    set larger : BufferPool :=
      { p with buffers := p.buffers.push ⟨r, BitVec.ofNat 32 r.bus, p.bufferSize, FrameMeta.blank⟩ }
    have hrest : next + Allocator.pageAligned p.bufferSize + n * Allocator.pageAligned larger.bufferSize ≤ wordSpan := by
      change _ + n * Allocator.pageAligned p.bufferSize ≤ wordSpan
      omega
    obtain ⟨q, c, lines, hgrow, hc⟩ := ih larger hb (by omega) hsize hrest
    refine ⟨q, c, [] ++ lines, ?_, ?_⟩
    · simp only [grow, hone, hgrow]
    · rw [Nat.succ_mul, Nat.add_comm (n * _), ← Nat.add_assoc]
      exact hc

/-- So does one that is allocated. -/
theorem allocate_of_usedUpTo (h : a.UsedUpTo next) (haligned : next % 4 = 0) (direction : Direction)
    (count : Nat) {size : Nat} (hsize : 0 < size) (hroom : next + count * Allocator.pageAligned size ≤ wordSpan) :
    ∃ p b lines, allocate direction count size a = (.ok p, b, lines) ∧
      b.UsedUpTo (next + count * Allocator.pageAligned size) := by
  have hpage : 0 < Allocator.pageAligned size := by
    unfold Allocator.pageAligned pageSize
    omega
  have hcount : count ≤ count * Allocator.pageAligned size := Nat.le_mul_of_pos_right _ hpage
  have hhold : canHold count size = true := by
    rw [canHold, Bool.and_eq_true, Bool.or_eq_true, beq_iff_eq]
    refine ⟨decide_eq_true ?_, ?_⟩
    · unfold entrySize largestObject
      unfold wordSpan at hroom
      omega
    · rcases Nat.eq_zero_or_pos count with hnone | hsome
      · exact .inl hnone
      · have hround := Nat.le_mul_of_pos_left (Allocator.pageAligned size) hsome
        refine .inr (decide_eq_true ?_)
        unfold pointerSpan
        unfold wordSpan at hroom
        omega
  obtain ⟨p, b, lines, hgrow, hb⟩ := grow_of_usedUpTo (empty direction size) count h haligned hsize hroom
  exact ⟨p, b, _, by rw [allocate, if_pos hhold, hgrow], hb⟩

end BufferPool

/-- A host gives a pool as long as addresses are left. -/
theorem Host.allocatePool_of_usedUpTo {h : Host Board} {next : Nat} (hshared : h.apart = none)
    (hmemory : h.memory.UsedUpTo next) (haligned : next % 4 = 0) (direction : Direction) (count : Nat) {size : Nat}
    (hsize : 0 < size) (hroom : next + count * Allocator.pageAligned size ≤ wordSpan) :
    ∃ p h', h.allocatePool direction count size = (.ok p, h') ∧ h'.apart = none ∧
      h'.memory.UsedUpTo (next + count * Allocator.pageAligned size) := by
  obtain ⟨p, b, lines, hallocate, hb⟩ :=
    BufferPool.allocate_of_usedUpTo hmemory haligned direction count hsize hroom
  have hset : h.setBuffers b = { h with memory := b } := by simp only [setBuffers, hshared]
  refine ⟨p, { h with memory := b }.noteAll lines, ?_, hshared, hb⟩
  rw [allocatePool, buffers_of_shared hshared, hallocate]
  simp only [hset]

/-- Attaching succeeds if both pools are allocated. -/
theorem Device.attach_of_allocatePool {h h₁ h₂ : Host Board} {name : String} {config : Config}
    {txPool rxPool : BufferPool} (hvalid : config.validate = .ok ()) (hname : canNameHandler name = true)
    (htx : (awake h name).allocatePool .tx config.txCount config.txSize = (.ok txPool, h₁))
    (hrx : h₁.allocatePool .rx config.rxCount config.rxSize = (.ok rxPool, h₂)) (address : PciAddress)
    (baseHdwr baseLen : Nat) : ∃ d h', attach h name address baseHdwr baseLen config = (.ok d, h') := by
  unfold awake at htx
  unfold attach
  simp only [Host.read] at htx ⊢
  simp only [hvalid, htx, hrx, hname, if_true]
  exact ⟨_, _, rfl⟩

/-- Attaching after power-up succeeds if there are addresses for all buffers. -/
theorem Device.attach_powerUp (origin number : Nat) (name : String) (address : PciAddress)
    (baseHdwr baseLen : Nat) (config : Config) (hname : canNameHandler name = true) (hvalid : config.validate = .ok ())
    (hroom : Allocator.defaultBase + config.txCount * Allocator.pageAligned config.txSize +
      config.rxCount * Allocator.pageAligned config.rxSize ≤ wordSpan) :
    ∃ d h', attach (Host.powerUp origin number) name address baseHdwr baseLen config = (.ok d, h') := by
  have hsizes := Config.valid_of_validate hvalid
  have hshared : (awake (Host.powerUp origin number) name).apart = none := rfl
  have hmemory : (awake (Host.powerUp origin number) name).memory.UsedUpTo Allocator.defaultBase := ⟨rfl, rfl, rfl⟩
  have haligned : (Allocator.defaultBase + config.txCount * Allocator.pageAligned config.txSize) % 4 = 0 := by
    have hpage : 4 ∣ Allocator.pageAligned config.txSize := Nat.dvd_mul_left_of_dvd (by decide) _
    exact Nat.mod_eq_zero_of_dvd (Nat.dvd_add (by decide) (Nat.dvd_mul_left_of_dvd hpage _))
  obtain ⟨txPool, h₁, htx, hshared₁, hmemory₁⟩ :=
    Host.allocatePool_of_usedUpTo hshared hmemory (by decide) .tx config.txCount hsizes.txSize.1 (by omega)
  obtain ⟨rxPool, h₂, hrx, -, -⟩ :=
    Host.allocatePool_of_usedUpTo hshared₁ hmemory₁ haligned .rx config.rxCount hsizes.rxSize.1 hroom
  exact attach_of_allocatePool hvalid hname htx hrx address baseHdwr baseLen

end LaneCard
