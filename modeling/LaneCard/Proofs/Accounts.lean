import LaneCard.Proofs.Backing

/-!
# The accounts of an allocator

What an allocator that was used in any way knows of itself: its counters tell how many regions are live
and how large they are together, and a live region that is released goes, alone and without complaint.
`Gained` compares an allocator with what it was before a pool was allocated from it. A pool whose
allocation fails part of the way gives back every region that it had; the allocator has then gained
nothing, although its counters show that it was used.
-/

namespace LaneCard

namespace Allocator

/-- How large regions are together. -/
def totalSize : List Region → Nat
  | [] => 0
  | r :: rest => r.size + totalSize rest

/-- The order of the regions does not matter. -/
theorem totalSize_perm {rs ss : List Region} (h : rs.Perm ss) : totalSize rs = totalSize ss := by
  induction h with
  | nil => rfl
  | cons r _ ih => simp only [totalSize, ih]
  | swap r s rest =>
    simp only [totalSize]
    omega
  | trans _ _ ih ih' => exact ih.trans ih'

/-- Regions side by side are as large as both together. -/
theorem totalSize_append (rs ss : List Region) : totalSize (rs ++ ss) = totalSize rs + totalSize ss := by
  induction rs with
  | nil => simp [totalSize]
  | cons r rest ih => simp only [List.cons_append, totalSize, ih, Nat.add_assoc]

/-- The allocators that come of allocating, releasing and accessing regions. -/
inductive Reachable : Allocator → Prop
  | new (origin base limit : Nat) : Reachable (new origin base limit)
  | allocate {a : Allocator} (size : Nat) : Reachable a → Reachable (a.allocate size).2
  | release {a : Allocator} (r : Region) : Reachable a → Reachable (a.release r).1
  | busWrite {a b : Allocator} {addr : Nat} {data : Bytes} :
      Reachable a → a.busWrite addr data = some b → Reachable b
  | write {a b : Allocator} {r : Region} {offset : Nat} {data : Bytes} :
      Reachable a → a.write r offset data = .ok b → Reachable b
  | clear {a : Allocator} (r : Region) : Reachable a → Reachable (a.clear r)

/-- The counters of an allocator agree with its live regions. -/
structure Accounted (a : Allocator) : Prop where
  wellFormed : a.WellFormed
  balanced : a.allocated = a.released + a.regions.length
  sized : a.liveBytes = totalSize a.regions

/-- Live regions are distinct. -/
theorem WellFormed.nodup_regions {a : Allocator} (hwf : a.WellFormed) : a.regions.Nodup := by
  have hapart := List.pairwise_map.mp (List.pairwise_append.mp hwf.apart).1
  refine List.Pairwise.imp_of_mem ?_ hapart
  rintro r s hr - hrs rfl
  have hpositive := hwf.positive r.segment (List.mem_append_left _ (List.mem_map_of_mem hr))
  simp only [Segment.Apart] at hrs
  omega

/-! ## What each operation does to the accounts -/

/-- Reserving a stretch changes the stretches only. -/
theorem reserve_eq {a b : Allocator} {size bus : Nat} (h : a.reserve size = some (bus, b)) :
    b = { a with next := b.next, recycled := b.recycled } := by
  unfold reserve at h
  split at h
  · obtain ⟨-, rfl⟩ := Prod.mk.inj (Option.some.inj h)
    rfl
  · split at h
    · obtain ⟨-, rfl⟩ := Prod.mk.inj (Option.some.inj h)
      rfl
    · contradiction

/-- A region that was allocated is new, zeroed and counted. -/
theorem allocate_counted {a b : Allocator} {size : Nat} {r : Region} (h : a.allocate size = (.ok r, b)) :
    b.live = ⟨r, Memory.zeroed r.size⟩ :: a.live ∧ b.allocated = a.allocated + 1 ∧ b.released = a.released ∧
      b.liveBytes = a.liveBytes + r.size := by
  obtain ⟨-, bus, c, hreserve, rfl, rfl⟩ := exists_reserve_of_allocate h
  rw [reserve_eq hreserve]
  exact ⟨rfl, rfl, rfl, rfl⟩

/-- It carries the mark of its allocator and the next serial number. -/
theorem allocate_marked {a b : Allocator} {size : Nat} {r : Region} (h : a.allocate size = (.ok r, b)) :
    r.origin = a.origin ∧ r.serial = a.allocated ∧ b.origin = a.origin := by
  obtain ⟨-, bus, c, hreserve, rfl, rfl⟩ := exists_reserve_of_allocate h
  rw [reserve_eq hreserve]
  exact ⟨rfl, rfl, rfl⟩

/-- Allocating that fails keeps the live regions and the counters. -/
theorem allocate_error {a b : Allocator} {size : Nat} {e : PlatformError} (h : a.allocate size = (.error e, b)) :
    b = { a with next := b.next, recycled := b.recycled } := by
  unfold allocate at h
  dsimp only at h
  split at h
  · obtain ⟨-, rfl⟩ := Prod.mk.inj h
    rfl
  · split at h
    · obtain ⟨-, rfl⟩ := Prod.mk.inj h
      rfl
    · rename_i hreserve
      split at h
      · obtain ⟨-, rfl⟩ := Prod.mk.inj h
        rw [reserve_eq hreserve]
      · simp at h

/-- Allocating keeps an allocator well formed, whether it succeeds or not. -/
theorem WellFormed.allocate {a : Allocator} (hwf : a.WellFormed) (size : Nat) :
    (a.allocate size).2.WellFormed := by
  unfold Allocator.allocate
  dsimp only
  split
  · exact hwf
  · have hround := le_pageAligned size
    split
    · exact hwf
    · rename_i bus reserved hreserve
      obtain ⟨hlive, hapart, hbounds⟩ := reserve_blocks a reserved _ bus hwf (by omega) hreserve
      split
      · -- The stretch goes from the front of the list to the front of those that can be used again.
        have hperm : (⟨bus, pageAligned size⟩ :: reserved.blocks).Perm
            ({ reserved with recycled := ⟨bus, pageAligned size⟩ :: reserved.recycled } : Allocator).blocks :=
          List.perm_middle.symm
        exact ⟨(hperm.pairwise_iff Segment.Apart.symm).mp hapart,
          fun s hs => (hbounds s (hperm.symm.subset hs)).1, fun s hs => (hbounds s (hperm.symm.subset hs)).2⟩
      · exact ⟨hapart, fun s hs => (hbounds s hs).1, fun s hs => (hbounds s hs).2⟩

/-- The mapping at the bus address of a live region is that of the region. -/
theorem WellFormed.find?_bus {a : Allocator} (hwf : a.WellFormed) {m : Mapping} (hm : m ∈ a.live) :
    a.live.find? (fun n => n.region.bus == m.region.bus) = some m := by
  cases hfound : a.live.find? (fun n => n.region.bus == m.region.bus) with
  | none => simpa using List.find?_eq_none.mp hfound m hm
  | some n =>
    have hbus : n.region.bus = m.region.bus := by simpa using List.find?_some hfound
    rw [hwf.mapping_eq_of_bus (List.mem_of_find?_eq_some hfound) hm hbus]

/-- Releasing the region of a mapping takes that mapping away and no other, without complaint. -/
theorem WellFormed.release_eq {a : Allocator} (hwf : a.WellFormed) {before after : List Mapping} {m : Mapping}
    (hlive : a.live = before ++ m :: after) :
    a.release m.region =
      ({ a with
          live := before ++ after
          recycled := m.region.segment :: a.recycled
          released := a.released + 1
          liveBytes := a.liveBytes - m.region.size }, []) := by
  have hmem (n : Mapping) (hn : n ∈ before ++ m :: after) : n ∈ a.live := hlive ▸ hn
  have hm : m ∈ a.live := hmem m (by simp)
  have hnodup : (before ++ m :: after).Pairwise fun n k => n.region ≠ k.region := by
    rw [← hlive]
    exact List.pairwise_map.mp hwf.nodup_regions
  have hother (n : Mapping) (hn : n ∈ a.live) (hne : n.region ≠ m.region) : n.region.bus ≠ m.region.bus :=
    fun hbus => hne (hwf.region_eq (List.mem_map_of_mem hn) (List.mem_map_of_mem hm) hbus)
  have hbefore : before.filter (fun n => n.region.bus != m.region.bus) = before := by
    rw [List.filter_eq_self]
    intro n hn
    have hne := (List.pairwise_append.mp hnodup).2.2 n hn m List.mem_cons_self
    simpa using hother n (hmem n (by simp [hn])) hne
  have hafter : after.filter (fun n => n.region.bus != m.region.bus) = after := by
    rw [List.filter_eq_self]
    intro n hn
    have hne := (List.pairwise_cons.mp (List.pairwise_append.mp hnodup).2.1).1 n hn
    simpa using hother n (hmem n (by simp [hn])) (Ne.symm hne)
  have hkept : a.live.filter (fun n => n.region.bus != m.region.bus) = before ++ after := by
    rw [hlive, List.filter_append, hbefore, List.filter_cons_of_neg (by simp), hafter]
  rw [release, hwf.find?_bus hm]
  dsimp only
  rw [if_pos rfl, hkept]
  rfl

/-- Releasing what is not live changes nothing. -/
theorem release_of_not_mem {a : Allocator} {r : Region} (h : ∀ m ∈ a.live, m.region.bus ≠ r.bus) :
    (a.release r).1 = a := by
  have hnone : (a.live.find? fun m => m.region.bus == r.bus) = none := by
    rw [List.find?_eq_none]
    intro m hm
    simpa using h m hm
  rw [release, hnone]

/-- Releasing takes away what is live at the address of the region, and nothing else is live afterwards that
was not before. -/
theorem regions_release (a : Allocator) (r : Region) :
    (a.release r).1.regions = a.regions.filter fun s => s.bus != r.bus := by
  have hfilter : (a.live.filter fun m => m.region.bus != r.bus).map Mapping.region =
      a.regions.filter fun s => s.bus != r.bus := by
    rw [regions, List.filter_map]
    rfl
  unfold release
  split
  · rename_i hnone
    rw [← hfilter, List.filter_eq_self.mpr]
    · rfl
    · simpa using List.find?_eq_none.mp hnone
  · exact hfilter

/-- Releasing changes neither the mark of an allocator nor the number of regions it has created. -/
theorem release_marked (a : Allocator) (r : Region) :
    (a.release r).1.origin = a.origin ∧ (a.release r).1.allocated = a.allocated := by
  unfold release
  split <;> exact ⟨rfl, rfl⟩

/-- Releasing goes by the bus address: what happens is that the live region there is released. -/
theorem release_congr {a : Allocator} {r s : Region} (h : r.bus = s.bus) :
    (a.release r).1 = (a.release s).1 := by
  unfold release
  rw [h]
  cases a.live.find? fun m => m.region.bus == s.bus with
  | none => rfl
  | some m => rfl

/-- Either the address of a region is not live, or releasing it takes away the mapping there. -/
theorem WellFormed.release_cases {a : Allocator} (hwf : a.WellFormed) (r : Region) :
    (a.release r).1 = a ∨ ∃ before m after, a.live = before ++ m :: after ∧
      (a.release r).1 =
        { a with
          live := before ++ after
          recycled := m.region.segment :: a.recycled
          released := a.released + 1
          liveBytes := a.liveBytes - m.region.size } := by
  by_cases hlive : ∃ m ∈ a.live, m.region.bus = r.bus
  · obtain ⟨m, hm, hbus⟩ := hlive
    obtain ⟨before, after, hsplit⟩ := List.append_of_mem hm
    refine .inr ⟨before, m, after, hsplit, ?_⟩
    rw [release_congr hbus.symm, hwf.release_eq hsplit]
  · exact .inl (release_of_not_mem fun m hm hbus => hlive ⟨m, hm, hbus⟩)

/-- Changing memory changes no account. -/
theorem Accounted.overwritten {a b : Allocator} (h : a.Accounted) (hb : a.Overwritten b) : b.Accounted := by
  obtain ⟨hsame, hregions⟩ := hb
  have hblocks : b.blocks = a.blocks := by rw [blocks, blocks, hregions, hsame]
  have hnext : b.next = a.next := by rw [hsame]
  refine ⟨⟨hblocks ▸ h.wellFormed.apart, hblocks ▸ h.wellFormed.positive, ?_⟩, ?_, ?_⟩
  · rw [hblocks, hnext]
    exact h.wellFormed.below
  · rw [hregions, hsame]
    exact h.balanced
  · rw [hregions, hsame]
    exact h.sized

/-- Allocating keeps the accounts. -/
theorem Accounted.allocate {a : Allocator} (h : a.Accounted) (size : Nat) : (a.allocate size).2.Accounted := by
  have hwf := h.wellFormed.allocate size
  cases hresult : a.allocate size with
  | mk result b =>
    rw [hresult] at hwf
    cases result with
    | error e =>
      have hsame := allocate_error hresult
      refine ⟨hwf, ?_, ?_⟩ <;> rw [hsame]
      exacts [h.balanced, h.sized]
    | ok r =>
      obtain ⟨hlive, hallocated, hreleased, hbytes⟩ := allocate_counted hresult
      have hregions : b.regions = r :: a.regions := by rw [regions, hlive, List.map_cons, regions]
      refine ⟨hwf, ?_, ?_⟩
      · rw [hallocated, hreleased, hregions, List.length_cons, h.balanced]
        omega
      · rw [hbytes, hregions, totalSize, h.sized]
        omega

/-- Releasing moves at most one stretch, from the live regions to those that can be used again. -/
theorem WellFormed.release_moved {a : Allocator} (hwf : a.WellFormed) (r : Region) :
    (a.release r).1 = a ∨ ∃ m ∈ a.live, a.regions.Perm (m.region :: (a.release r).1.regions) ∧
      a.blocks.Perm (a.release r).1.blocks ∧
      (a.release r).1 =
        { a with
          live := (a.release r).1.live
          recycled := m.region.segment :: a.recycled
          released := a.released + 1
          liveBytes := a.liveBytes - m.region.size } := by
  refine (hwf.release_cases r).imp_right ?_
  rintro ⟨before, m, after, hlive, hrest⟩
  have hmoved : a.regions.Perm (m.region :: (a.release r).1.regions) := by
    rw [regions, hlive, regions, hrest, List.map_append, List.map_append, List.map_cons]
    exact List.perm_middle
  have hrecycled : (a.release r).1.recycled = m.region.segment :: a.recycled := by rw [hrest]
  refine ⟨m, hlive ▸ by simp, hmoved, ?_, by rw [hrest]⟩
  rw [blocks, blocks, hrecycled]
  exact ((hmoved.map _).append_right _).trans List.perm_middle.symm

/-- Releasing keeps the accounts, whatever is released. -/
theorem Accounted.release {a : Allocator} (h : a.Accounted) (r : Region) : (a.release r).1.Accounted := by
  rcases h.wellFormed.release_moved r with hsame | ⟨m, -, hmoved, hblocks, hrest⟩
  · rw [hsame]
    exact h
  · set b := (a.release r).1
    refine ⟨⟨(hblocks.pairwise_iff Segment.Apart.symm).mp h.wellFormed.apart,
      fun s hs => h.wellFormed.positive s (hblocks.symm.subset hs), fun s hs => ?_⟩, ?_, ?_⟩
    · have hnext : b.next = a.next := by rw [hrest]
      rw [hnext]
      exact h.wellFormed.below s (hblocks.symm.subset hs)
    · have hlength := hmoved.length_eq
      have hcounted := h.balanced
      have hallocated : b.allocated = a.allocated := by rw [hrest]
      have hreleased : b.released = a.released + 1 := by rw [hrest]
      rw [List.length_cons] at hlength
      omega
    · have htotal := totalSize_perm hmoved
      have hbytes : b.liveBytes = a.liveBytes - m.region.size := by rw [hrest]
      rw [totalSize] at htotal
      rw [hbytes, h.sized]
      omega

/-- The accounts are right whatever was done. -/
theorem Reachable.accounted {a : Allocator} (h : a.Reachable) : a.Accounted := by
  induction h with
  | new origin base limit => exact ⟨wellFormed_new _ _ _, rfl, rfl⟩
  | allocate size _ ih => exact ih.allocate size
  | release r _ ih => exact ih.release r
  | busWrite _ hwrite ih => exact ih.overwritten (overwritten_busWrite hwrite)
  | write _ hwrite ih => exact ih.overwritten (overwritten_write hwrite)
  | clear r _ ih => exact ih.overwritten (overwritten_clear _ r)

/-! ## Comparing an allocator with what it was before -/

/-- `b` is `a` with mappings added and nothing else live, after some use. -/
structure Gained (a b : Allocator) (gain : List Mapping) : Prop where
  reachable : b.Reachable
  live : b.live = gain ++ a.live
  /-- Whatever was allocated besides was released again. -/
  used : ∃ n, b.allocated = a.allocated + gain.length + n ∧ b.released = a.released + n

namespace Gained

variable {a b c : Allocator} {gain more : List Mapping}

/-- An allocator that was not used has gained nothing. -/
theorem refl (ha : a.Reachable) : a.Gained a [] := ⟨ha, rfl, 0, rfl, rfl⟩

/-- The gains of two uses add up. -/
theorem trans (h : a.Gained b gain) (h' : b.Gained c more) : a.Gained c (more ++ gain) := by
  obtain ⟨n, hallocated, hreleased⟩ := h.used
  obtain ⟨k, hallocated', hreleased'⟩ := h'.used
  refine ⟨h'.reachable, by rw [h'.live, h.live, List.append_assoc], n + k, ?_, ?_⟩
  · rw [hallocated', hallocated, List.length_append]
    omega
  · rw [hreleased', hreleased]
    omega

/-- What was gained is counted as live. -/
theorem liveBytes (h : a.Gained b gain) (ha : a.Reachable) :
    b.liveBytes = totalSize (gain.map Mapping.region) + a.liveBytes := by
  rw [h.reachable.accounted.sized, ha.accounted.sized, regions, h.live, List.map_append, totalSize_append, regions]

/-- Releasing the newest region that was gained leaves the others. -/
theorem release {m : Mapping} (h : a.Gained b (m :: gain)) :
    a.Gained (b.release m.region).1 gain ∧ (b.release m.region).2 = [] := by
  obtain ⟨n, hallocated, hreleased⟩ := h.used
  have hlive : b.live = [] ++ m :: (gain ++ a.live) := h.live
  have hrest := h.reachable.accounted.wellFormed.release_eq hlive
  refine ⟨⟨h.reachable.release _, ?_, n + 1, ?_, ?_⟩, ?_⟩ <;> rw [hrest]
  · rfl
  · simp only [hallocated, List.length_cons]
    omega
  · simp only [hreleased]
    omega

end Gained

end Allocator

namespace BufferPool

/-! ## Pools -/

/-- Releasing regions that were gained last leaves the others. -/
theorem gained_releaseRegions {a b : Allocator} {gain more : List Mapping} (h : a.Gained b (more ++ gain)) :
    a.Gained (releaseRegions b (more.map Mapping.region)).1 gain ∧
      (releaseRegions b (more.map Mapping.region)).2 = [] := by
  induction more generalizing b with
  | nil => exact ⟨h, rfl⟩
  | cons m rest ih =>
    obtain ⟨hfirst, hquiet⟩ := Allocator.Gained.release h
    obtain ⟨hrest, hsilent⟩ := ih hfirst
    rw [List.map_cons, releaseRegions]
    exact ⟨hrest, by dsimp only; rw [hquiet, hsilent, List.append_nil]⟩

/-- Regions that are live all go when they are released, and no other goes. -/
theorem perm_releaseRegions {a : Allocator} (ha : a.Reachable) {rs rest : List Region}
    (h : a.regions.Perm (rs ++ rest)) :
    (releaseRegions a rs).1.Reachable ∧ (releaseRegions a rs).1.regions.Perm rest ∧
      (releaseRegions a rs).2 = [] := by
  induction rs generalizing a with
  | nil => exact ⟨ha, h, rfl⟩
  | cons r others ih =>
    have hr : r ∈ a.regions := h.symm.subset List.mem_cons_self
    obtain ⟨m, hm, rfl⟩ := List.mem_map.mp hr
    obtain ⟨before, after, hlive⟩ := List.append_of_mem hm
    have hone := ha.accounted.wellFormed.release_eq hlive
    have hkept : a.regions.Perm (m.region :: (a.release m.region).1.regions) := by
      rw [hone, Allocator.regions, hlive, Allocator.regions, List.map_append, List.map_append, List.map_cons]
      exact List.perm_middle
    obtain ⟨hreachable, hothers, hquiet⟩ := ih (ha.release m.region) ((hkept.symm.trans h).cons_inv)
    rw [releaseRegions]
    refine ⟨hreachable, hothers, ?_⟩
    dsimp only
    rw [hquiet, hone, List.append_nil]

/-- Releasing regions is a use of the allocator, whatever they are. -/
theorem reachable_releaseRegions {a : Allocator} (ha : a.Reachable) (rs : List Region) :
    (releaseRegions a rs).1.Reachable := by
  induction rs generalizing a with
  | nil => exact ha
  | cons r rest ih =>
    rw [releaseRegions]
    exact ih (ha.release r)

/-- The mappings of the buffers of a pool that nobody has written to, the newest first. -/
def untouched (p : BufferPool) : List Mapping :=
  p.buffers.toList.reverse.map fun b => ⟨b.region, Memory.zeroed b.region.size⟩

/-- Adding a buffer adds its region to what was gained. -/
theorem gained_allocateOne {p q : BufferPool} {a b c : Allocator} {lines : List Line}
    (h : a.Gained b p.untouched) (hone : p.allocateOne b = (.ok q, c, lines)) : a.Gained c q.untouched := by
  unfold allocateOne at hone
  split at hone
  · simp at hone
  · rename_i r allocated halloc
    obtain ⟨hlive, hallocated, hreleased, -⟩ := Allocator.allocate_counted halloc
    split at hone
    · simp only [Prod.mk.injEq, Except.ok.injEq] at hone
      obtain ⟨rfl, rfl, -⟩ := hone
      obtain ⟨n, hn, hn'⟩ := h.used
      have hreach : allocated.Reachable := by
        have hallocate := h.reachable.allocate p.bufferSize
        rwa [halloc] at hallocate
      refine ⟨hreach, ?_, n, ?_, by rw [hreleased, hn']⟩
      · rw [hlive, h.live]
        simp [untouched]
      · rw [hallocated, hn]
        simp only [untouched, Array.toList_push, List.length_map, List.length_reverse, List.length_append,
          List.length_cons, List.length_nil]
        omega
    · simp at hone

/-- When no buffer can be added nothing is gained: a region that the card cannot reach went back. -/
theorem gained_allocateOne_error {p : BufferPool} {a b : Allocator} {e : CardError} {lines : List Line}
    (ha : a.Reachable) (hone : p.allocateOne a = (.error e, b, lines)) : a.Gained b [] := by
  unfold allocateOne at hone
  have hreach := ha.allocate p.bufferSize
  split at hone
  · rename_i halloc
    obtain ⟨-, rfl, -⟩ : CardError.ofPlatform _ = e ∧ _ = b ∧ [] = lines := by simpa using hone
    rw [halloc] at hreach
    have hsame := Allocator.allocate_error halloc
    refine ⟨hreach, ?_, 0, ?_, ?_⟩ <;> rw [hsame] <;> rfl
  · rename_i r allocated halloc
    rw [halloc] at hreach
    obtain ⟨hlive, hallocated, hreleased, -⟩ := Allocator.allocate_counted halloc
    split at hone
    · simp at hone
    · obtain ⟨-, rfl, -⟩ : _ ∧ (allocated.release r).1 = b ∧ _ := by simpa using hone
      have hgained : a.Gained allocated [⟨r, Memory.zeroed r.size⟩] :=
        ⟨hreach, hlive, 0, hallocated, hreleased⟩
      exact hgained.release.1

/-- Releasing a pool that was gained last leaves what was there before. -/
theorem gained_releaseAll {p : BufferPool} {a b : Allocator} (h : a.Gained b p.untouched) :
    a.Gained (p.releaseAll b).2.1 [] ∧ (p.releaseAll b).2.2 = [] := by
  have hregions : p.buffers.toList.reverse.map Buffer.region = p.untouched.map Mapping.region := by
    rw [untouched, List.map_map]
    rfl
  have hgained : a.Gained b (p.untouched ++ []) := by rwa [List.append_nil]
  rw [releaseAll, hregions]
  exact gained_releaseRegions hgained

/-- A pool that grew is gained, with what it had before. -/
theorem gained_grow {n : Nat} {p q : BufferPool} {a b c : Allocator} {lines : List Line}
    (h : a.Gained b p.untouched) (hgrow : grow n p b = (.ok q, c, lines)) : a.Gained c q.untouched := by
  induction n generalizing p b lines with
  | zero =>
    simp only [grow, Prod.mk.injEq, Except.ok.injEq] at hgrow
    obtain ⟨rfl, rfl, -⟩ := hgrow
    exact h
  | succ n ih =>
    obtain ⟨_, _, _, _, hone, hrest⟩ := grow_succ_ok hgrow
    exact ih (gained_allocateOne h hone) hrest

/-- A pool that could not grow has given back everything, what it had before too. -/
theorem gained_grow_error {n : Nat} {p : BufferPool} {a b c : Allocator} {e : CardError} {lines : List Line}
    (h : a.Gained b p.untouched) (hgrow : grow n p b = (.error e, c, lines)) : a.Gained c [] := by
  induction n generalizing p b lines with
  | zero => simp [grow] at hgrow
  | succ n ih =>
    rcases grow_succ_error hgrow with ⟨_, _, _, _, hone, hrest, -⟩ | ⟨middle, _, hone, rfl, -⟩
    · exact ih (gained_allocateOne h hone) hrest
    · have hmiddle : a.Gained middle p.untouched :=
        h.trans (gained_allocateOne_error h.reachable hone)
      exact (gained_releaseAll hmiddle).1

/-- The three ends of allocating a pool: it is gained, nothing is gained, or it cannot be laid out and the
allocator was not used. -/
def Drawn (a b : Allocator) (count size : Nat) : Except (Setback CardError) BufferPool → Prop
  | .ok p => a.Gained b p.untouched ∧ p.size = count
  | .error (.failed _) => a.Gained b []
  | .error .cutShort => b = a ∧ canHold count size = false

/-- An allocator from which a pool was drawn was used as allocators are. -/
theorem Drawn.reachable {a b : Allocator} {count size : Nat} {result : Except (Setback CardError) BufferPool}
    (h : Drawn a b count size result) (ha : a.Reachable) : b.Reachable := by
  match result, h with
  | .ok _, h => exact h.1.reachable
  | .error (.failed _), h => exact Allocator.Gained.reachable h
  | .error .cutShort, h => exact h.1 ▸ ha

/-- Allocating a pool comes to one of the three ends. -/
theorem drawn_allocate {a : Allocator} (ha : a.Reachable) (direction : Direction) (count size : Nat) :
    Drawn a (allocate direction count size a).2.1 count size (allocate direction count size a).1 := by
  have hstart : a.Gained a (empty direction size).untouched := .refl ha
  have hgrown (p : BufferPool) (b : Allocator) (lines : List Line)
      (h : grow count (empty direction size) a = (.ok p, b, lines)) : p.size = count := by
    have hsize := (grow_ok count _ _ a _ _ ha.accounted.wellFormed (held_empty direction size a) h).size
    rw [hsize]
    exact Nat.zero_add count
  unfold allocate
  by_cases hroom : canHold count size = true
  · rw [if_pos hroom]
    cases hgrow : grow count (empty direction size) a with
    | mk result rest =>
      cases result with
      | ok p => exact ⟨gained_grow hstart hgrow, hgrown _ _ _ hgrow⟩
      | error e => exact gained_grow_error hstart hgrow
  · rw [if_neg hroom]
    exact ⟨rfl, by simpa using hroom⟩

end BufferPool

end LaneCard
