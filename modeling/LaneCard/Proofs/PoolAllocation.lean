import LaneCard.Proofs.Accounts
import Mathlib.Data.List.Induction

/-!
# Pools come whole or not at all

A pool is allocated with all its buffers, which the card can name and which do not overlap, or the allocator
is left with the live regions that it had: every region that was allocated on the way has been released, and
each once, since as many were released as allocated and the allocator never complains. A pool that is released
gives back what it has, whatever was done with the allocator meanwhile. Only a table of buffers that cannot be
laid out stops the allocation before it begins.
-/

namespace LaneCard.BufferPool

/-! ## What is reported -/

/-- The report that the buffer with the number `i` cannot be allocated. -/
def missing (direction : Direction) (i : Nat) (e : CardError) : Line :=
  ⟨.error, "pool: unable to allocate " ++ direction.text ++ s!" buffer {i}: " ++ e.message⟩

/-- The report that the card cannot reach a region. -/
def outOfReach (direction : Direction) (bus : Nat) : Line :=
  ⟨.error, "pool: " ++ direction.text ++ " buffer at " ++ Text.hexMarked bus ++ " is not 32-bit addressable"⟩

/-- Why a buffer is missing: no region for it was allocated, or one that the card cannot reach. The latter is
counted by `rejected`. -/
inductive Cause (direction : Direction) : Nat → CardError → List Line → Prop
  | refused (e : PlatformError) : Cause direction 0 (.ofPlatform e) []
  | rejected (bus : Nat) : Cause direction 1 (.platform .invalidArgument) [outOfReach direction bus]

variable {p q : BufferPool} {a b c : Allocator} {lines : List Line}

/-- A buffer that is added takes one region. -/
theorem allocateOne_counted (hone : p.allocateOne a = (.ok q, b, lines)) :
    lines = [] ∧ q.direction = p.direction ∧ q.size = p.size + 1 ∧ b.allocated = a.allocated + 1 := by
  unfold allocateOne at hone
  split at hone
  · simp at hone
  · rename_i r allocated hallocate
    obtain ⟨-, hallocated, -⟩ := Allocator.allocate_counted hallocate
    split at hone
    · simp only [Prod.mk.injEq, Except.ok.injEq] at hone
      obtain ⟨rfl, rfl, rfl⟩ := hone
      exact ⟨rfl, rfl, Array.size_push _, hallocated⟩
    · simp at hone

/-- A region that the card cannot reach is allocated in vain. -/
theorem allocateOne_error {e : CardError} (ha : a.Reachable) (hone : p.allocateOne a = (.error e, b, lines)) :
    ∃ rejected, Cause p.direction rejected e lines ∧ b.allocated = a.allocated + rejected := by
  unfold allocateOne at hone
  split at hone
  · rename_i f allocated hallocate
    simp only [Prod.mk.injEq, Except.error.injEq] at hone
    obtain ⟨rfl, rfl, rfl⟩ := hone
    refine ⟨0, .refused f, ?_⟩
    rw [Allocator.allocate_error hallocate]
    rfl
  · rename_i r allocated hallocate
    obtain ⟨hlive, hallocated, -⟩ := Allocator.allocate_counted hallocate
    split at hone
    · simp at hone
    · simp only [Prod.mk.injEq, Except.error.injEq] at hone
      obtain ⟨rfl, rfl, rfl⟩ := hone
      have hreachable : allocated.Reachable := by
        have hnext := ha.allocate p.bufferSize
        rwa [hallocate] at hnext
      -- The region is live, so that releasing it is no reason to complain.
      have hfirst : allocated.live = [] ++ ⟨r, Memory.zeroed r.size⟩ :: a.live := hlive
      have hquiet : (allocated.release r).2 = [] := by
        rw [hreachable.accounted.wellFormed.release_eq hfirst]
      rw [hquiet]
      exact ⟨1, .rejected r.bus, (allocated.release_marked r).2.trans hallocated⟩

/-- Releasing regions allocates none. -/
theorem allocated_releaseRegions (a : Allocator) (rs : List Region) :
    (releaseRegions a rs).1.allocated = a.allocated := by
  induction rs generalizing a with
  | nil => rfl
  | cons r rest ih => exact (ih (a.release r).1).trans (a.release_marked r).2

/-- When the buffers do not all come, it is because of one of them. Every region before was allocated and
released, and so was the region of this one if the card cannot reach it. -/
theorem grow_error {n : Nat} {e : CardError} (h : a.Gained b p.untouched) (hgrow : grow n p b = (.error e, c, lines)) :
    ∃ m < n, ∃ rejected cause, Cause p.direction rejected e cause ∧
      lines = cause ++ [missing p.direction (p.size + m) e] ∧ c.allocated = b.allocated + m + rejected := by
  induction n generalizing p b lines with
  | zero => simp [grow] at hgrow
  | succ n ih =>
    rcases grow_succ_error hgrow with ⟨_, _, _, _, hone, hrest, rfl⟩ | ⟨middle, first, hone, rfl, rfl⟩
    · obtain ⟨rfl, hdirection, hsize, hallocated⟩ := allocateOne_counted hone
      obtain ⟨m, hm, rejected, cause, hcause, hlines, htotal⟩ := ih (gained_allocateOne h hone) hrest
      rw [hdirection] at hcause hlines
      rw [hsize, Nat.add_right_comm] at hlines
      exact ⟨m + 1, by omega, rejected, cause, hcause, hlines, by omega⟩
    · obtain ⟨rejected, hcause, hallocated⟩ := allocateOne_error h.reachable hone
      have hmiddle : a.Gained middle p.untouched := h.trans (gained_allocateOne_error h.reachable hone)
      refine ⟨0, Nat.succ_pos n, rejected, first, hcause, ?_, ?_⟩
      · rw [(gained_releaseAll hmiddle).2, List.append_nil]
        rfl
      · exact (allocated_releaseRegions _ _).trans hallocated

/-! ## What becomes of the regions -/

/-- What comes of releasing the pool `p` to the allocator `a`. -/
structure Returned (p : BufferPool) (a : Allocator) : Prop where
  forgotten : ∀ addr, (p.releaseAll a).1.find? addr = none
  /-- The regions of the pool go, and no other. -/
  regions : a.regions.Perm (p.buffers.toList.map Buffer.region ++ (p.releaseAll a).2.1.regions)
  /-- Each of them is released once. -/
  counted : (p.releaseAll a).2.1.allocated = a.allocated ∧ (p.releaseAll a).2.1.released = a.released + p.size
  quiet : (p.releaseAll a).2.2 = []

/-- A pool whose regions are all live, each in one buffer only, is released completely. -/
theorem returned (ha : a.Reachable) (hnodup : (p.buffers.toList.map Buffer.region).Nodup)
    (hlive : ∀ x ∈ p.buffers.toList, x.region ∈ a.regions) : Returned p a := by
  have hsubset : p.buffers.toList.map Buffer.region ⊆ a.regions := by
    intro r hr
    obtain ⟨x, hx, rfl⟩ := List.mem_map.mp hr
    exact hlive x hx
  obtain ⟨kept, hkept, hsublist⟩ := List.subperm_of_subset hnodup hsubset
  obtain ⟨rest, hsplit⟩ := hsublist.exists_perm_append
  have hrest := hsplit.trans (hkept.append_right rest)
  have hreverse : a.regions.Perm (p.buffers.toList.reverse.map Buffer.region ++ rest) := by
    refine hrest.trans (List.Perm.append_right _ ?_)
    rw [List.map_reverse]
    exact (List.reverse_perm _).symm
  obtain ⟨hreachable, hothers, hquiet⟩ := perm_releaseRegions ha hreverse
  have hallocated := allocated_releaseRegions a (p.buffers.toList.reverse.map Buffer.region)
  refine ⟨fun addr => ?_, hrest.trans (hothers.symm.append_left _), ⟨hallocated, ?_⟩, hquiet⟩
  · exact ((p.releaseAll a).1.find?_eq_none_iff addr).mpr List.not_mem_nil
  · -- What is allocated is live or released, before and after.
    have hbefore := ha.accounted.balanced
    have hafter := hreachable.accounted.balanced
    have hlength : a.regions.length = p.buffers.size + rest.length := by simpa using hrest.length_eq
    rw [hallocated, hothers.length_eq] at hafter
    change (releaseRegions a (p.buffers.toList.reverse.map Buffer.region)).1.released = a.released + p.buffers.size
    omega

/-! ## A table of addresses -/

/-- A table of numbers by address after one more entry, which replaces an older one. -/
def enter (table : Word → Option Nat) (entry : Word × Nat) : Word → Option Nat :=
  fun addr => if addr = entry.1 then some entry.2 else table addr

/-- The numbers of buffers at the given addresses, entered one after the other. -/
def table (addrs : List Word) : Word → Option Nat := addrs.zipIdx.foldl enter fun _ => none

/-- A table of distinct addresses has lost no entry. -/
theorem table_eq_some_iff {addrs : List Word} (hdistinct : addrs.Nodup) (addr : Word) (i : Nat) :
    table addrs addr = some i ↔ addrs[i]? = some addr := by
  induction addrs using List.reverseRecOn with
  | nil => simp [table]
  | append_singleton addrs last ih =>
    rw [← List.concat_eq_append, List.nodup_concat] at hdistinct
    obtain ⟨hlast, hbefore⟩ := hdistinct
    have hentry : table (addrs ++ [last]) = enter (table addrs) (last, addrs.length) := by
      rw [table, List.zipIdx_append, List.foldl_append, Nat.zero_add]
      rfl
    rw [hentry, enter]
    by_cases haddr : addr = last
    · subst haddr
      rw [if_pos rfl, Option.some.injEq, List.getElem?_append]
      split
      · exact ⟨fun hi => by omega, fun hthere => absurd (List.mem_of_getElem? hthere) hlast⟩
      · rename_i hi
        rw [List.getElem?_singleton]
        split <;> simp <;> omega
    · rw [if_neg haddr, ih hbefore, List.getElem?_append]
      split
      · rfl
      · rename_i hi
        rw [List.getElem?_eq_none (Nat.le_of_not_lt hi), List.getElem?_singleton]
        split <;> simp [Ne.symm haddr]

/-! ## The two ends -/

/-- `p` is a pool of `count` buffers of `size` bytes that was allocated from `a`, which is `b` then. -/
structure Granted (a b : Allocator) (count size : Nat) (p : BufferPool) : Prop where
  number : p.size = count
  /-- The card can name every buffer. -/
  reached : ∀ x ∈ p.buffers.toList, x.addr.toNat = x.region.bus ∧ x.region.bus < wordSpan ∧ x.region.bus % 4 = 0
  distinct : p.addrs.Nodup
  /-- Buffers do not overlap. -/
  apart : ∀ (i j : Nat) (x y : Buffer), p.buffers[i]? = some x → p.buffers[j]? = some y → i ≠ j →
    Segment.Apart ⟨x.addr.toNat, size⟩ ⟨y.addr.toNat, size⟩
  within : ∀ x ∈ p.buffers.toList, x.size = size ∧ x.region ∈ b.regions ∧ x.region.Spans x.addr.toNat size
  found : ∀ addr i, p.find? addr = some i ↔ ∃ x, p.buffers[i]? = some x ∧ x.addr = addr
  /-- So does a table that was filled as the buffers came. -/
  tabled : ∀ addr, table p.addrs addr = p.find? addr
  /-- The regions of the buffers are what is live besides what was. -/
  live : b.regions = p.buffers.toList.reverse.map Buffer.region ++ a.regions
  /-- Released at once, the pool leaves everything that was live as it was. -/
  restored : Returned p b ∧ (p.releaseAll b).2.1.live = a.live
  /-- Whatever is done first, releasing the pool gives back its regions. -/
  returned : ∀ c : Allocator, c.Reachable → (∀ x ∈ p.buffers.toList, x.region ∈ c.regions) → Returned p c

/-- `b` is what is left of `a` when a pool of `count` buffers could not be allocated. -/
structure Unwound (a b : Allocator) (direction : Direction) (count : Nat) (e : CardError) (lines : List Line) :
    Prop where
  live : b.live = a.live
  liveBytes : b.liveBytes = a.liveBytes
  /-- Some buffer did not come. As many regions as were allocated were released: those of the buffers before
  it, and its own if that one was rejected. -/
  counted : ∃ m < count, ∃ rejected cause, Cause direction rejected e cause ∧
    lines = cause ++ [missing direction m e] ∧ b.allocated = a.allocated + (m + rejected) ∧
      b.released = a.released + (m + rejected)

/-- The regions of buffers at different addresses are different. -/
theorem Held.nodup_regions (h : p.Held a) : (p.buffers.toList.map Buffer.region).Nodup := by
  have hbuses : p.addrs.map BitVec.toNat = (p.buffers.toList.map Buffer.region).map Region.bus := by
    rw [addrs, List.map_map, List.map_map]
    exact List.map_congr_left h.reached
  have hnodup := h.distinct.map (f := BitVec.toNat) fun x y hxy => BitVec.eq_of_toNat_eq hxy
  rw [hbuses] at hnodup
  exact hnodup.of_map _

/-- A pool that was allocated is whole. -/
theorem granted_allocate (ha : a.Reachable) {direction : Direction} {count size : Nat}
    (hdone : allocate direction count size a = (.ok p, b, lines)) : Granted a b count size p := by
  have hdrawn := drawn_allocate ha direction count size
  rw [hdone] at hdrawn
  obtain ⟨hgained, hnumber⟩ := hdrawn
  have hgrown := allocate_ok direction count size p a b lines ha.accounted.wellFormed hdone
  have hheld := hgrown.held
  have hbuffer : p.bufferSize = size := hgrown.bufferSize
  have hwithin (x : Buffer) (hx : x ∈ p.buffers.toList) : x.region.Spans x.addr.toNat size := by
    have hreached := hheld.reached x hx
    have hroomy := hheld.roomy x hx
    exact ⟨by omega, by omega⟩
  constructor
  case number => exact hnumber
  case reached =>
    intro x hx
    have hreached := hheld.reached x hx
    have haligned := Word.mod_of_aligned (hheld.aligned x hx)
    have hword := x.addr.isLt
    rw [← hreached]
    exact ⟨rfl, hword, haligned⟩
  case distinct => exact hheld.distinct
  case apart =>
    intro i j x y hx hy hij
    have hxm := mem_of_getElem? hx
    have hym := mem_of_getElem? hy
    have hne : x.region ≠ y.region := fun hsame => hij <| by
      have haddr : x.addr = y.addr := BitVec.eq_of_toNat_eq <| by
        rw [hheld.reached x hxm, hheld.reached y hym, hsame]
      have hi := (p.find?_eq_some_iff hheld.distinct x.addr i).mpr (by rw [getElem?_addrs, hx, Option.map_some])
      have hj := (p.find?_eq_some_iff hheld.distinct y.addr j).mpr (by rw [getElem?_addrs, hy, Option.map_some])
      rw [haddr, hj] at hi
      exact (Option.some.inj hi).symm
    have hapart := hgained.reachable.accounted.wellFormed.apart_of_ne (hheld.live x hxm) (hheld.live y hym) hne
    have hxin := hwithin x hxm
    have hyin := hwithin y hym
    simp only [Segment.Apart, Region.segment, Region.Spans] at hapart hxin hyin ⊢
    omega
  case within =>
    intro x hx
    exact ⟨(hheld.sized x hx).trans hbuffer, hheld.live x hx, hwithin x hx⟩
  case found =>
    intro addr i
    rw [find?_eq_some_iff p hheld.distinct, getElem?_addrs, Option.map_eq_some_iff]
  case live =>
    rw [Allocator.regions, hgained.live, List.map_append, untouched, List.map_map, Allocator.regions]
    rfl
  case tabled =>
    intro addr
    refine Option.ext fun i => ?_
    rw [table_eq_some_iff hheld.distinct, find?_eq_some_iff p hheld.distinct]
  case restored =>
    exact ⟨returned hgained.reachable hheld.nodup_regions hheld.live, (gained_releaseAll hgained).1.live⟩
  case returned => exact fun c hc hlive => returned hc hheld.nodup_regions hlive

/-- What could not be allocated is undone. -/
theorem unwound_allocate (ha : a.Reachable) {direction : Direction} {count size : Nat} {e : CardError}
    (hdone : allocate direction count size a = (.error (.failed e), b, lines)) :
    Unwound a b direction count e lines := by
  have hdrawn := drawn_allocate ha direction count size
  rw [hdone] at hdrawn
  have hgained : a.Gained b [] := hdrawn
  unfold allocate at hdone
  split at hdone
  · split at hdone
    · simp at hdone
    · rename_i hgrow
      simp only [Prod.mk.injEq, Except.error.injEq, Setback.failed.injEq] at hdone
      obtain ⟨rfl, rfl, rfl⟩ := hdone
      obtain ⟨m, hm, rejected, cause, hcause, hlines, hallocated⟩ := grow_error (.refl ha) hgrow
      have hbytes := hgained.liveBytes ha
      obtain ⟨k, hcounted, hreleased⟩ := hgained.used
      rw [List.map_nil, Allocator.totalSize, Nat.zero_add] at hbytes
      rw [List.length_nil] at hcounted
      rw [BufferPool.size, empty, Array.size_empty, Nat.zero_add] at hlines
      exact ⟨hgained.live, hbytes, m, hm, rejected, cause, hcause, hlines, by omega, by omega⟩
  · simp at hdone

/-- Allocating a pool is all or nothing: either all its buffers come, or nothing is live that was not before. The
exception is a table of buffers that cannot be laid out, or buffers whose size cannot be rounded: then the
allocation is cut short before anything is allocated. -/
theorem allocate_all_or_nothing (a : Allocator) (ha : a.Reachable) (direction : Direction) (count size : Nat) :
    match allocate direction count size a with
    | (.ok p, b, _) => Granted a b count size p
    | (.error (.failed e), b, lines) => Unwound a b direction count e lines
    | (.error .cutShort, b, lines) => canHold count size = false ∧ b = a ∧ lines = [] := by
  split
  · rename_i hdone
    exact granted_allocate ha hdone
  · rename_i hdone
    exact unwound_allocate ha hdone
  · rename_i b lines hdone
    unfold allocate at hdone
    split at hdone
    · split at hdone <;> simp at hdone
    · rename_i hroom
      simp only [Prod.mk.injEq] at hdone
      obtain ⟨-, rfl, rfl⟩ := hdone
      exact ⟨by simpa using hroom, rfl, rfl⟩

/-- A window of three pages at the end of what the card can reach. The second page is live and the first can be
used again; the third is out of reach. -/
def worn : Allocator := (((Allocator.new 0 0xFFFFE000 0x100001000).allocate 1).2.allocate 1).2.release
  ⟨0, 0, 0xFFFFE000, 4096⟩ |>.1

/-- One buffer gets the page that can be used again. Of two the second is out of reach, and the first is given back. -/
theorem allocate_all_or_nothing_worn :
    (∃ p b lines, allocate .tx 1 8 worn = (.ok p, b, lines) ∧ p.addrs = [0xFFFFE000#32] ∧ Granted worn b 1 8 p) ∧
      ∃ b lines, allocate .rx 2 8 worn = (.error (.failed (.platform .invalidArgument)), b, lines) ∧
        b.allocated = 4 ∧ Unwound worn b .rx 2 (.platform .invalidArgument) lines := by
  have hreachable : worn.Reachable :=
    (((Allocator.Reachable.new 0 0xFFFFE000 0x100001000).allocate 1).allocate 1).release _
  exact ⟨⟨_, _, _, rfl, rfl, allocate_all_or_nothing worn hreachable .tx 1 8⟩,
    ⟨_, _, rfl, rfl, allocate_all_or_nothing worn hreachable .rx 2 8⟩⟩

/-- The table of so many buffers cannot be laid out: there is neither a pool nor an error. -/
theorem allocate_neither_pool_nor_error :
    (∀ p, (allocate .tx 0x4000000000000000 8 (.new 0 0x1000 0x3000)).1 ≠ .ok p) ∧
      ∀ e, (allocate .tx 0x4000000000000000 8 (.new 0 0x1000 0x3000)).1 ≠ .error (.failed e) :=
  ⟨fun _ => nofun, fun _ => nofun⟩

end LaneCard.BufferPool
