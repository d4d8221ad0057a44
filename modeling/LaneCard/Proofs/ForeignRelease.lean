import LaneCard.Proofs.RegionHistory

/-!
# Regions given to another allocator

An allocator that gets a region it did not create does not know so. If no region of its own is live at that
bus address, nothing changes. If one is, that one goes, although its holder has not given it back: it is
released in place of the region that came, which stays live where it was created. Short of this, the live
regions of an allocator are those that it has created and that have not come back to it.
-/

namespace LaneCard.RegionBench

/-- An allocator after the live region `s` was taken from it. -/
structure Bereft (a : Allocator) (s : Region) (a' : Allocator) : Prop where
  regions : a.regions.Perm (s :: a'.regions)
  recycled : a'.recycled = s.segment :: a.recycled
  allocated : a'.allocated = a.allocated
  released : a'.released = a.released + 1
  liveBytes : a'.liveBytes = a.liveBytes - s.size

/-- What comes of giving the region numbered `id`, which is `r`, to the allocator `k`, which is `a`. -/
structure Received (b : RegionBench) (k id : Nat) (a : Allocator) (r : Region) (c : RegionBench) : Prop where
  gone : c.region? id = none
  elsewhere : ∀ j, j ≠ k → c.allocators[j]? = b.allocators[j]?
  /-- An address that is not live is no reason to change anything. -/
  unknown : (∀ s ∈ a.regions, s.bus ≠ r.bus) → c.allocators[k]? = some a
  /-- What is live at the address is released. -/
  known : ∀ s ∈ a.regions, s.bus = r.bus → ∃ a', c.allocators[k]? = some a' ∧ Bereft a s a'

/-- Releasing takes away the live region at the address. -/
theorem bereft_release {a : Allocator} (ha : a.Reachable) {r s : Region} (hs : s ∈ a.regions) (hbus : s.bus = r.bus) :
    Bereft a s (a.release r).1 := by
  have hwf := ha.accounted.wellFormed
  rcases hwf.release_moved r with hsame | ⟨m, hm, hregions, -, hrest⟩
  · -- The address is live, so that the release changes something.
    have hfilter := a.regions_release r
    rw [hsame, eq_comm, List.filter_eq_self] at hfilter
    exact absurd (hfilter s hs) (by simp [hbus])
  · have hmine : m.region = s := by
      have hnot : m.region ∉ (a.release r).1.regions := by
        have hnodup := hregions.nodup_iff.mp hwf.nodup_regions
        exact (List.nodup_cons.mp hnodup).1
      rw [a.regions_release, List.mem_filter, not_and] at hnot
      have hmbus : m.region.bus = r.bus := by simpa using hnot (List.mem_map_of_mem hm)
      exact hwf.region_eq (List.mem_map_of_mem hm) hs (hmbus.trans hbus.symm)
    rw [hmine] at hregions hrest
    refine ⟨hregions, ?_, ?_, ?_, ?_⟩ <;> rw [hrest]

/-- A region with a number can be given to any of the allocators. -/
theorem release?_received {b : RegionBench} {k id : Nat} {a : Allocator} {r : Region} (ha : b.allocators[k]? = some a)
    (hr : b.region? id = some r) (hreachable : a.Reachable) :
    ∃ c, b.release? k id = some c ∧ Received b k id a r c := by
  have hthere (a' : Allocator) := Table.getElem?_setIfInBounds_self a' ha
  refine ⟨_, release?_eq hr ha, ?_, fun j hj => ?_, fun hfree => ?_, fun s hs hbus => ?_⟩
  · rw [region?_erase, if_pos rfl]
  · exact Array.getElem?_setIfInBounds_ne (Ne.symm hj)
  · rw [hthere, Allocator.release_of_not_mem fun m hm => hfree m.region (List.mem_map_of_mem hm)]
  · exact ⟨(a.release r).1, hthere _, bereft_release hreachable hs hbus⟩

/-- The live regions of an allocator are those that it has created, without those at whose address it has got a
region since. These are the regions that have not come back to it, unless it was mistaken about one. Giving it
a region, whoever created that one, changes nothing about it, unless one of its own is live at the address: then
that one is released. -/
theorem regions_by_address (windows : List (Nat × Nat)) (acts : List Act) (k : Nat) (a : Allocator)
    (ha : (play windows acts).bench.allocators[k]? = some a) :
    a.regions = standing k (play windows acts).events ∧
      (¬ Mistaken k (play windows acts).events → a.regions = owed k (play windows acts).events) ∧
      ∀ id r, (play windows acts).bench.region? id = some r →
        ∃ c, (play windows acts).bench.release? k id = some c ∧
          Received (play windows acts).bench k id a r c := by
  have hplay := consistent_play windows acts
  have htracked := hplay.tracked k a ha
  exact ⟨htracked.regions, fun hright => htracked.regions.trans (hplay.owed k hright),
    fun id r hr => release?_received ha hr htracked.reachable⟩

/-- Two allocators over the same window. The first has a region at the start of it, and has got one from the
second that lies behind. -/
def shared : List Act := [.allocate 0 1, .allocate 1 1, .allocate 1 1, .release 0 2]

/-- The foreign region has left it its own, and it can be given another. -/
theorem regions_by_address_shared :
    ∃ a, (play [(0x1000, 0x3000), (0x1000, 0x3000)] shared).bench.allocators[0]? = some a ∧
      a.regions = [⟨0, 0, 0x1000, 4096⟩] ∧
      (play [(0x1000, 0x3000), (0x1000, 0x3000)] shared).events.head? = some (.given 0 ⟨1, 1, 0x2000, 4096⟩) ∧
      ∃ c, (play [(0x1000, 0x3000), (0x1000, 0x3000)] shared).bench.release? 0 1 = some c ∧
        Received (play [(0x1000, 0x3000), (0x1000, 0x3000)] shared).bench 0 1 a ⟨1, 0, 0x1000, 4096⟩ c := by
  obtain ⟨-, howed, hgive⟩ := regions_by_address [(0x1000, 0x3000), (0x1000, 0x3000)] shared 0 _ rfl
  exact ⟨_, rfl, (howed (by decide)).trans (by decide), by decide, hgive 1 ⟨1, 0, 0x1000, 4096⟩ rfl⟩

/-- A region that is given to the allocator of the same address takes away the region that is live there,
which has not come back. -/
theorem bereft_by_foreign_region :
    (∃ a, (play [(0x1000, 0x3000), (0x1000, 0x3000)] shared).bench.allocators[0]? = some a ∧
        a.regions = [⟨0, 0, 0x1000, 4096⟩] ∧ a.recycled = [] ∧ a.released = 0 ∧ a.liveBytes = 4096) ∧
      (play [(0x1000, 0x3000), (0x1000, 0x3000)] shared).bench.region? 1 = some ⟨1, 0, 0x1000, 4096⟩ ∧
      ∃ a, (play [(0x1000, 0x3000), (0x1000, 0x3000)] (shared ++ [.release 0 1])).bench.allocators[0]? = some a ∧
        a.regions = [] ∧ a.recycled = [⟨0x1000, 4096⟩] ∧ a.released = 1 ∧ a.liveBytes = 0 ∧
        owed 0 (play [(0x1000, 0x3000), (0x1000, 0x3000)] (shared ++ [.release 0 1])).events =
          [⟨0, 0, 0x1000, 4096⟩] :=
  ⟨⟨_, rfl, by decide, by decide, by decide, by decide⟩, by decide,
    ⟨_, rfl, by decide, by decide, by decide, by decide, by decide⟩⟩

end LaneCard.RegionBench
