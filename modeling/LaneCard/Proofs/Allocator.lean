import LaneCard.Dma.Allocator
import LaneCard.Proofs.Bytes
import Mathlib.Data.List.Pairwise
import Mathlib.Data.List.Perm.Basic

/-!
# Live regions and their contents

The live regions of an allocator and the stretches it can use again never overlap. The region
in which a bus address lies is then unique, so that the card and the driver, who reach it by
different names, see the same bytes, and writing to one region changes no other.
-/

namespace LaneCard

/-- Two stretches of bus addresses do not overlap. -/
def Segment.Apart (s t : Segment) : Prop := s.bus + s.size ≤ t.bus ∨ t.bus + t.size ≤ s.bus

/-- Being apart does not depend on the order. -/
theorem Segment.Apart.symm {s t : Segment} (h : s.Apart t) : t.Apart s := Or.symm h

/-- The bus addresses of a region. -/
def Region.segment (r : Region) : Segment := ⟨r.bus, r.size⟩

/-- All of so many bus addresses from `addr` on lie in a region. -/
def Region.Spans (r : Region) (addr length : Nat) : Prop := r.bus ≤ addr ∧ addr + length ≤ r.bus + r.size

namespace Allocator

/-- The live regions, the newest first. -/
def regions (a : Allocator) : List Region := a.live.map Mapping.region

/-- Every stretch of bus addresses that is or was in use. -/
def blocks (a : Allocator) : List Segment := a.regions.map Region.segment ++ a.recycled

/-- The stretches in use and those that can be used again lie apart below the first address
never used. -/
structure WellFormed (a : Allocator) : Prop where
  apart : a.blocks.Pairwise Segment.Apart
  positive : ∀ s ∈ a.blocks, 0 < s.size
  below : ∀ s ∈ a.blocks, s.bus + s.size ≤ a.next

/-- A new allocator is well formed, whatever its window. -/
theorem wellFormed_new (origin base limit : Nat) : (new origin base limit).WellFormed :=
  ⟨List.Pairwise.nil, fun _ h => by simp [new, blocks, regions] at h,
    fun _ h => by simp [new, blocks, regions] at h⟩

/-- The bytes of a region as its holder sees them. -/
def contents (a : Allocator) (r : Region) : Memory := (a.memory? r).getD (Memory.zeroed r.size)

/-! ## Allocation -/

/-- Rounding up does not make a size smaller. -/
theorem le_pageAligned (size : Nat) : size ≤ pageAligned size := by
  simp only [pageAligned, pageSize]
  omega

/-- The stretch that is reserved comes from those that can be used again, or is new. -/
theorem reserve_blocks (a b : Allocator) (size bus : Nat) (hwf : a.WellFormed) (hsize : 0 < size)
    (h : a.reserve size = some (bus, b)) :
    b.live = a.live ∧ (⟨bus, size⟩ :: b.blocks).Pairwise Segment.Apart ∧
      (∀ s ∈ (⟨bus, size⟩ : Segment) :: b.blocks, 0 < s.size ∧ s.bus + s.size ≤ b.next) := by
  unfold reserve at h
  split at h
  · rename_i s hfind
    obtain ⟨rfl, rfl⟩ := Prod.mk.inj (Option.some.inj h)
    have hmem : s ∈ a.recycled := List.mem_of_find?_eq_some hfind
    have hfits : s.size = size := by simpa using List.find?_some hfind
    have hblock : (⟨s.bus, size⟩ : Segment) = s := by rw [← hfits]
    have hperm : a.blocks.Perm
        (s :: (a.regions.map Region.segment ++ a.recycled.erase s)) :=
      (List.Perm.append_left _ (List.perm_cons_erase hmem)).trans List.perm_middle
    rw [hblock]
    refine ⟨rfl, (hperm.pairwise_iff Segment.Apart.symm).mp hwf.apart, fun t ht => ?_⟩
    have ht : t ∈ a.blocks := hperm.symm.subset ht
    exact ⟨hwf.positive t ht, hwf.below t ht⟩
  · split at h
    · obtain ⟨rfl, rfl⟩ := Prod.mk.inj (Option.some.inj h)
      refine ⟨rfl, List.pairwise_cons.mpr ⟨fun t ht => Or.inr (hwf.below t ht), hwf.apart⟩, ?_⟩
      intro t ht
      rcases List.mem_cons.mp ht with rfl | ht
      · exact ⟨hsize, Nat.le_refl _⟩
      · exact ⟨hwf.positive t ht, Nat.le_trans (hwf.below t ht) (Nat.le_add_right _ _)⟩
    · contradiction

/-- A region that was allocated lies in a stretch that was reserved, and its memory is zero. -/
theorem exists_reserve_of_allocate {a b : Allocator} {size : Nat} {r : Region} (h : a.allocate size = (.ok r, b)) :
    0 < size ∧ ∃ bus c, a.reserve (pageAligned size) = some (bus, c) ∧
      r = ⟨c.origin, c.allocated, bus, pageAligned size⟩ ∧
      b =
        { c with
          live := ⟨r, Memory.zeroed r.size⟩ :: c.live
          allocated := c.allocated + 1
          liveBytes := c.liveBytes + r.size } := by
  unfold allocate at h
  dsimp only at h
  split at h
  · simp at h
  · rename_i hsize
    split at h
    · simp at h
    · rename_i bus c hreserve
      split at h
      · simp at h
      · obtain ⟨hregion, rfl⟩ := Prod.mk.inj h
        obtain rfl := Except.ok.inj hregion
        exact ⟨by omega, bus, c, hreserve, rfl, rfl⟩

/-- A region that was allocated is new, large enough and the only change. -/
theorem allocate_ok (a b : Allocator) (size : Nat) (r : Region) (hwf : a.WellFormed)
    (h : a.allocate size = (.ok r, b)) :
    b.WellFormed ∧ b.live = ⟨r, Memory.zeroed r.size⟩ :: a.live ∧ size ≤ r.size := by
  obtain ⟨hpositive, bus, c, hreserve, rfl, rfl⟩ := exists_reserve_of_allocate h
  have hround := le_pageAligned size
  obtain ⟨hlive, hapart, hbounds⟩ := reserve_blocks a c _ bus hwf (by omega) hreserve
  refine ⟨⟨hapart, fun s hs => (hbounds s hs).1, fun s hs => (hbounds s hs).2⟩, ?_, hround⟩
  rw [hlive]

/-! ## Finding the region of a bus address -/

/-- The live region found below an address starts at the greatest possible address. -/
private theorem below?_fold (addr : Nat) (live : List Mapping) (best : Option Mapping) :
    let found := live.foldl
      (fun best m =>
        if m.region.bus ≤ addr ∧ (best.map fun b : Mapping => b.region.bus).getD 0 ≤ m.region.bus then
          some m
        else best)
      best
    (∀ m, found = some m → (m ∈ live ∧ m.region.bus ≤ addr) ∨ best = some m) ∧
      (∀ m ∈ live, m.region.bus ≤ addr → ∃ f, found = some f ∧ m.region.bus ≤ f.region.bus) ∧
      (∀ m, best = some m → ∃ f, found = some f ∧ m.region.bus ≤ f.region.bus) := by
  induction live generalizing best with
  | nil => exact ⟨fun m h => Or.inr h, by simp, fun m h => ⟨m, h, Nat.le_refl _⟩⟩
  | cons first rest ih =>
    simp only [List.foldl_cons]
    split
    · rename_i htake
      obtain ⟨hfrom, hrest, hbest⟩ := ih (some first)
      obtain ⟨f, hf, hle⟩ := hbest first rfl
      refine ⟨fun m hm => ?_, fun m hm hbus => ?_, fun m hm => ⟨f, hf, ?_⟩⟩
      · rcases hfrom m hm with hin | hfirst
        · exact Or.inl ⟨List.mem_cons_of_mem _ hin.1, hin.2⟩
        · obtain rfl := Option.some.inj hfirst
          exact Or.inl ⟨List.mem_cons_self, htake.1⟩
      · rcases List.mem_cons.mp hm with rfl | hm
        · exact ⟨f, hf, hle⟩
        · exact hrest m hm hbus
      · subst hm
        exact Nat.le_trans htake.2 hle
    · rename_i hskip
      obtain ⟨hfrom, hrest, hbest⟩ := ih best
      refine ⟨fun m hm => ?_, fun m hm hbus => ?_, hbest⟩
      · exact (hfrom m hm).imp_left fun hin => ⟨List.mem_cons_of_mem _ hin.1, hin.2⟩
      · rcases List.mem_cons.mp hm with rfl | hm
        · cases best with
          | none => exact absurd ⟨hbus, Nat.zero_le _⟩ hskip
          | some b =>
            obtain ⟨f, hf, hle⟩ := hbest b rfl
            have hless : m.region.bus ≤ b.region.bus := by
              by_contra hmore
              exact hskip ⟨hbus, by simp; omega⟩
            exact ⟨f, hf, Nat.le_trans hless hle⟩
        · exact hrest m hm hbus

/-- Two live mappings whose regions share an address are the same. -/
theorem WellFormed.mapping_eq {a : Allocator} (hwf : a.WellFormed) {m n : Mapping} (hm : m ∈ a.live)
    (hn : n ∈ a.live) (hshare : ¬ m.region.segment.Apart n.region.segment) : m = n := by
  by_contra hne
  have hregions : (a.live.map fun m => m.region.segment).Pairwise Segment.Apart := by
    have hleft := (List.pairwise_append.mp hwf.apart).1
    rwa [regions, List.map_map] at hleft
  have hlive := List.pairwise_map.mp hregions
  have hsymm : Std.Symm fun m n : Mapping => m.region.segment.Apart n.region.segment :=
    ⟨fun _ _ h => h.symm⟩
  exact hshare (hlive.forall hm hn hne)

/-- Live regions are not empty. -/
theorem WellFormed.size_pos_of_mem {a : Allocator} (hwf : a.WellFormed) {r : Region} (hr : r ∈ a.regions) :
    0 < r.size :=
  hwf.positive r.segment (List.mem_append_left _ (List.mem_map_of_mem hr))

/-- The region of a live mapping is not empty. -/
theorem WellFormed.size_pos {a : Allocator} (hwf : a.WellFormed) {m : Mapping} (hm : m ∈ a.live) :
    0 < m.region.size := hwf.size_pos_of_mem (List.mem_map_of_mem hm)

/-- Live mappings that share an address are the same. -/
theorem WellFormed.mapping_eq_of_spans {a : Allocator} (hwf : a.WellFormed) {m n : Mapping} (hm : m ∈ a.live)
    (hn : n ∈ a.live) {addr : Nat} (hin : m.region.Spans addr 1) (hin' : n.region.Spans addr 1) : m = n :=
  hwf.mapping_eq hm hn fun hapart => by
    simp only [Segment.Apart, Region.segment, Region.Spans] at hapart hin hin'
    omega

/-- Live mappings that start at the same address are the same. -/
theorem WellFormed.mapping_eq_of_bus {a : Allocator} (hwf : a.WellFormed) {m n : Mapping} (hm : m ∈ a.live)
    (hn : n ∈ a.live) (hbus : m.region.bus = n.region.bus) : m = n := by
  have hmpos := hwf.size_pos hm
  have hnpos := hwf.size_pos hn
  refine hwf.mapping_eq_of_spans hm hn ⟨Nat.le_refl m.region.bus, ?_⟩ ⟨Nat.le_of_eq hbus.symm, ?_⟩ <;> omega

/-- Live regions are apart. -/
theorem WellFormed.apart_of_ne {a : Allocator} (hwf : a.WellFormed) {r s : Region} (hr : r ∈ a.regions)
    (hs : s ∈ a.regions) (hne : r ≠ s) : r.segment.Apart s.segment := by
  obtain ⟨m, hm, rfl⟩ := List.mem_map.mp hr
  obtain ⟨n, hn, rfl⟩ := List.mem_map.mp hs
  by_contra hshare
  exact hne (congrArg Mapping.region (hwf.mapping_eq hm hn hshare))

/-- Live regions that share an address are the same. -/
theorem WellFormed.region_eq_of_spans {a : Allocator} (hwf : a.WellFormed) {r s : Region} (hr : r ∈ a.regions)
    (hs : s ∈ a.regions) {addr : Nat} (hin : r.Spans addr 1) (hin' : s.Spans addr 1) : r = s := by
  obtain ⟨m, hm, rfl⟩ := List.mem_map.mp hr
  obtain ⟨n, hn, rfl⟩ := List.mem_map.mp hs
  rw [hwf.mapping_eq_of_spans hm hn hin hin']

/-- Live regions that start at the same address are the same. -/
theorem WellFormed.region_eq {a : Allocator} (hwf : a.WellFormed) {r s : Region} (hr : r ∈ a.regions)
    (hs : s ∈ a.regions) (hbus : r.bus = s.bus) : r = s := by
  obtain ⟨m, hm, rfl⟩ := List.mem_map.mp hr
  obtain ⟨n, hn, rfl⟩ := List.mem_map.mp hs
  rw [hwf.mapping_eq_of_bus hm hn hbus]

/-- The live mapping that holds an address is the one found for it. -/
theorem below?_eq (a : Allocator) (hwf : a.WellFormed) (m : Mapping) (hm : m ∈ a.live) (addr : Nat)
    (hlow : m.region.bus ≤ addr) (hhigh : addr < m.region.bus + m.region.size) :
    a.below? addr = some m := by
  obtain ⟨hfrom, hgreatest, -⟩ := below?_fold addr a.live none
  obtain ⟨f, hf, hle⟩ := hgreatest m hm hlow
  rcases hfrom f hf with ⟨hflive, hfbus⟩ | hnone
  · -- The one found does not start before the other, and so starts within it.
    have hfpos := hwf.size_pos hflive
    have hsame : m = f := hwf.mapping_eq_of_spans hm hflive ⟨hle, by omega⟩ ⟨Nat.le_refl _, by omega⟩
    rw [hsame]
    exact hf
  · contradiction

/-- The memory behind a live region is that of its mapping. -/
theorem contents_eq (a : Allocator) (hwf : a.WellFormed) (m : Mapping) (hm : m ∈ a.live) :
    a.contents m.region = m.memory := by
  have hfind : a.live.find? (fun n => n.region == m.region) = some m := by
    cases hfound : a.live.find? (fun n => n.region == m.region) with
    | none => simpa using List.find?_eq_none.mp hfound m hm
    | some n =>
      have hregion : n.region = m.region := by simpa using List.find?_some hfound
      rw [hwf.mapping_eq_of_bus (List.mem_of_find?_eq_some hfound) hm (congrArg Region.bus hregion)]
  rw [contents, memory?, hfind]
  rfl

/-- A live mapping that holds all of some addresses is the one found for them. -/
theorem covering?_eq {a : Allocator} (hwf : a.WellFormed) {m : Mapping} (hm : m ∈ a.live) {offset length : Nat}
    (hin : offset < m.region.size) (hfits : offset + length ≤ m.region.size) :
    a.covering? (m.region.bus + offset) length = some m := by
  have hfound := below?_eq a hwf m hm (m.region.bus + offset) (by omega) (by omega)
  have hroom : m.region.bus + offset - m.region.bus + length ≤ m.region.size := by omega
  rw [covering?, hfound, Option.filter_some, if_pos (by simpa using hroom)]

/-- What is found for some addresses is a live mapping that holds all of them. -/
theorem mem_of_covering? {a : Allocator} {addr length : Nat} {m : Mapping} (h : a.covering? addr length = some m) :
    m ∈ a.live ∧ m.region.bus ≤ addr ∧ addr + length ≤ m.region.bus + m.region.size := by
  obtain ⟨hfound, hroom⟩ := Option.filter_eq_some_iff.mp h
  obtain ⟨hlive, hlow⟩ := ((below?_fold addr a.live none).1 m hfound).resolve_right nofun
  have hroom : addr - m.region.bus + length ≤ m.region.size := by simpa using hroom
  exact ⟨hlive, hlow, by omega⟩

/-- The card reads from a live region what its holder has there. -/
theorem busRead_add_eq {a : Allocator} (hwf : a.WellFormed) {r : Region} (hr : r ∈ a.regions) (offset length : Nat)
    (hin : offset < r.size) (hfits : offset + length ≤ r.size) :
    a.busRead (r.bus + offset) length = some ((a.contents r).read offset length) := by
  obtain ⟨m, hm, rfl⟩ := List.mem_map.mp hr
  rw [busRead, covering?_eq hwf hm hin hfits, contents_eq a hwf m hm, Option.map_some, Nat.add_sub_cancel_left]

/-- The card reads from the start of a live region what its holder has there. -/
theorem busRead_eq (a : Allocator) (hwf : a.WellFormed) (r : Region) (hr : r ∈ a.regions) (n : Nat)
    (hn : n ≤ r.size) : a.busRead r.bus n = some ((a.contents r).read 0 n) := by
  have hstart := busRead_add_eq hwf hr 0 n (hwf.size_pos_of_mem hr) (by omega)
  rwa [Nat.add_zero] at hstart

/-! ## Writing -/

/-- `b` is `a` after the memory of one live region was changed. -/
structure Rewritten (a b : Allocator) (r : Region) (change : Memory → Memory) : Prop where
  same : b = { a with live := b.live }
  regions : b.regions = a.regions
  inside : b.contents r = change (a.contents r)
  outside : ∀ s, s ≠ r → b.contents s = a.contents s

/-- Changing memory keeps an allocator well formed. -/
theorem Rewritten.wellFormed {a b : Allocator} {r : Region} {change : Memory → Memory}
    (h : Rewritten a b r change) (hwf : a.WellFormed) : b.WellFormed := by
  have hblocks : b.blocks = a.blocks := by rw [blocks, blocks, h.regions, h.same]
  have hnext : b.next = a.next := by rw [h.same]
  exact ⟨hblocks ▸ hwf.apart, hblocks ▸ hwf.positive, by rw [hblocks, hnext]; exact hwf.below⟩

/-- Changing the memory of the mappings of one region changes that region only. -/
private theorem rewritten_map (a : Allocator) (r : Region) (hr : r ∈ a.regions)
    (change : Memory → Memory) :
    Rewritten a
      { a with
        live := a.live.map fun m =>
          if m.region = r then { m with memory := change m.memory } else m }
      r change := by
  have hkeep (m : Mapping) :
      (if m.region = r then { m with memory := change m.memory } else m).region = m.region := by
    split <;> rfl
  have hfind (s : Region) :
      (a.live.map fun m => if m.region = r then { m with memory := change m.memory } else m).find?
          (fun m => m.region == s) =
        (a.live.find? fun m => m.region == s).map
          fun m => if m.region = r then { m with memory := change m.memory } else m := by
    rw [List.find?_map]
    congr 2
    funext m
    simp only [Function.comp, hkeep]
  refine ⟨rfl, ?_, ?_, fun s hs => ?_⟩
  · simp only [Allocator.regions, List.map_map]
    exact List.map_congr_left fun m _ => hkeep m
  · obtain ⟨m, hm, hregion⟩ := List.mem_map.mp hr
    simp only [contents, memory?, hfind]
    cases hfound : a.live.find? (fun m => m.region == r) with
    | none => exact absurd hregion (by simpa using List.find?_eq_none.mp hfound m hm)
    | some n =>
      have hregion : n.region = r := by simpa using List.find?_some hfound
      simp [hregion]
  · simp only [contents, memory?, hfind]
    cases hfound : a.live.find? (fun m => m.region == s) with
    | none => rfl
    | some n =>
      have hregion : n.region = s := by simpa using List.find?_some hfound
      simp [hregion, hs]

/-- The holder of a live region can write to it. -/
theorem write_add_eq {a : Allocator} {r : Region} (hr : r ∈ a.regions) (offset : Nat) (data : Bytes)
    (hfits : offset + data.size ≤ r.size) :
    ∃ b, a.write r offset data = .ok b ∧ Rewritten a b r (·.write offset data) :=
  ⟨_, by rw [write, if_pos hfits], rewritten_map a r hr _⟩

/-- The holder of a live region can write to its start. -/
theorem write_eq (a : Allocator) (r : Region) (hr : r ∈ a.regions) (data : Bytes)
    (hdata : data.size ≤ r.size) :
    ∃ b, a.write r 0 data = .ok b ∧ Rewritten a b r (·.write 0 data) :=
  write_add_eq hr 0 data (by omega)

/-- The holder of a live region can fill it with zeros. -/
theorem rewritten_clear {a : Allocator} {r : Region} (hr : r ∈ a.regions) :
    Rewritten a (a.clear r) r fun _ => Memory.zeroed r.size := rewritten_map a r hr fun _ => Memory.zeroed r.size

/-- The card can write to a live region. -/
theorem busWrite_add_eq {a : Allocator} (hwf : a.WellFormed) {r : Region} (hr : r ∈ a.regions) (offset : Nat)
    (data : Bytes) (hin : offset < r.size) (hfits : offset + data.size ≤ r.size) :
    ∃ b, a.busWrite (r.bus + offset) data = some b ∧ Rewritten a b r (·.write offset data) := by
  have hmine := hr
  obtain ⟨m, hm, rfl⟩ := List.mem_map.mp hr
  have hupdate : a.update m.region.bus (fun memory => memory.write offset data) =
      { a with
        live := a.live.map fun n =>
          if n.region = m.region then { n with memory := n.memory.write offset data } else n } := by
    rw [update]
    congr 1
    apply List.map_congr_left
    intro n hn
    have hiff : n.region.bus = m.region.bus ↔ n.region = m.region :=
      ⟨hwf.region_eq (List.mem_map_of_mem hn) hmine, fun h => by rw [h]⟩
    simp only [hiff]
  refine ⟨_, ?_, rewritten_map a m.region hmine _⟩
  rw [busWrite, covering?_eq hwf hm hin hfits, Option.map_some, Nat.add_sub_cancel_left, hupdate]

/-- The card can write to the start of a live region. -/
theorem busWrite_eq (a : Allocator) (hwf : a.WellFormed) (r : Region) (hr : r ∈ a.regions)
    (data : Bytes) (hdata : data.size ≤ r.size) :
    ∃ b, a.busWrite r.bus data = some b ∧ Rewritten a b r (·.write 0 data) := by
  have hstart := busWrite_add_eq hwf hr 0 data (hwf.size_pos_of_mem hr) (by omega)
  rwa [Nat.add_zero] at hstart

end Allocator

end LaneCard
