import LaneCard.Proofs.Accounts
import Mathlib.Data.List.Count

/-!
# The bus window

An allocator cuts stretches off the front of its window and never joins or splits them. What lies
between the start of the window and the first address never used is cut, without gap or overlap, into
the live regions and the stretches that can be used again. This stays so when the host has no memory
for addresses that were already chosen: nobody holds them then, but they are not lost. Requests of one
size that are always released again use nothing of the window after the first.
-/

namespace LaneCard

/-- Whether an address lies in a stretch. -/
def Segment.holds (addr : Nat) (s : Segment) : Bool := decide (s.bus ≤ addr ∧ addr < s.bus + s.size)

namespace Allocator

/-! ## Cutting up a window -/

/-- Stretches cut up the addresses from `base` to `stop`: each lies in one of them, and no other does.
They consist of whole pages, counted from `base`. -/
structure Cut (base stop : Nat) (blocks : List Segment) : Prop where
  tiles : ∀ addr, blocks.countP (Segment.holds addr) = if base ≤ addr ∧ addr < stop then 1 else 0
  paged : ∀ s ∈ blocks, 0 < s.size ∧ pageSize ∣ s.size ∧ s.bus % pageSize = base % pageSize
  reaches : base ≤ stop
  aligned : stop % pageSize = base % pageSize

namespace Cut

variable {base stop : Nat} {blocks : List Segment}

/-- Nothing is cut up to the start. -/
theorem nil (base : Nat) : Cut base base [] :=
  ⟨fun addr => by rw [if_neg (by omega)]; rfl, nofun, Nat.le_refl _, rfl⟩

/-- The order of the stretches does not matter. -/
theorem perm {others : List Segment} (h : Cut base stop blocks) (hperm : blocks.Perm others) :
    Cut base stop others :=
  ⟨fun addr => (hperm.countP_eq _).symm.trans (h.tiles addr), fun s hs => h.paged s (hperm.symm.subset hs),
    h.reaches, h.aligned⟩

/-- Whole pages are cut off behind the others. -/
theorem carve {size : Nat} (h : Cut base stop blocks) (hsize : 0 < size) (hpages : pageSize ∣ size) :
    Cut base (stop + size) (⟨stop, size⟩ :: blocks) := by
  have hreaches := h.reaches
  refine ⟨fun addr => ?_, fun s hs => ?_, by omega, ?_⟩
  · rw [List.countP_cons, h.tiles]
    by_cases hnew : stop ≤ addr ∧ addr < stop + size
    · have hholds : Segment.holds addr ⟨stop, size⟩ = true := decide_eq_true hnew
      rw [if_pos hholds, if_neg (by omega), if_pos (by omega)]
    · have hholds : ¬ Segment.holds addr ⟨stop, size⟩ = true := by simpa [Segment.holds] using hnew
      rw [if_neg hholds, Nat.add_zero]
      exact if_congr (by omega) rfl rfl
  · rcases List.mem_cons.mp hs with rfl | hs
    · exact ⟨hsize, hpages, h.aligned⟩
    · exact h.paged s hs
  · rw [Nat.add_mod, Nat.mod_eq_zero_of_dvd hpages, Nat.add_zero, Nat.mod_mod, h.aligned]

/-- Every stretch lies in what was cut up. -/
theorem inside (h : Cut base stop blocks) {s : Segment} (hs : s ∈ blocks) : base ≤ s.bus ∧ s.bus + s.size ≤ stop := by
  have hin (addr : Nat) (hholds : s.holds addr = true) : base ≤ addr ∧ addr < stop := by
    by_contra hout
    have hnone := h.tiles addr
    rw [if_neg hout, List.countP_eq_zero] at hnone
    exact hnone s hs hholds
  have hpositive := (h.paged s hs).1
  have hfirst := hin s.bus (decide_eq_true (by omega))
  have hlast := hin (s.bus + s.size - 1) (decide_eq_true (by omega))
  omega

/-- Stretches no two of which hold the same address are apart. -/
theorem apart_of_countP_le_one (hpositive : ∀ s ∈ blocks, 0 < s.size)
    (hone : ∀ addr, blocks.countP (Segment.holds addr) ≤ 1) : blocks.Pairwise Segment.Apart := by
  induction blocks with
  | nil => exact .nil
  | cons s rest ih =>
    have hrest (addr : Nat) := hone addr
    simp only [List.countP_cons] at hrest
    refine List.pairwise_cons.mpr ⟨fun t ht => ?_, ih (fun t ht => hpositive t (List.mem_cons_of_mem _ ht))
      fun addr => Nat.le_trans (Nat.le_add_right _ _) (hrest addr)⟩
    by_contra hshare
    simp only [Segment.Apart] at hshare
    have hs := hpositive s List.mem_cons_self
    have ht' := hpositive t (List.mem_cons_of_mem _ ht)
    -- The later of the two starts lies in both.
    have hboth := hrest (max s.bus t.bus)
    have hholds : s.holds (max s.bus t.bus) = true := decide_eq_true (by omega)
    have hother : 0 < rest.countP (Segment.holds (max s.bus t.bus)) :=
      List.countP_pos_iff.mpr ⟨t, ht, decide_eq_true (by omega)⟩
    rw [if_pos hholds] at hboth
    omega

/-- Stretches that cut up a window are apart. -/
theorem apart (h : Cut base stop blocks) : blocks.Pairwise Segment.Apart :=
  apart_of_countP_le_one (fun s hs => (h.paged s hs).1) fun addr => by
    rw [h.tiles]
    split <;> omega

end Cut

/-! ## Requests -/

/-- Rounding up gives whole pages. -/
theorem pageSize_dvd_pageAligned (size : Nat) : pageSize ∣ pageAligned size := Nat.dvd_mul_left _ _

/-- No memory can be laid out for the size. -/
def Unfit (size : Nat) : Prop := size = 0 ∨ layoutLimit < pageAligned size

/-- Neither is there a stretch of the rounded size to use again, nor room for a new one. -/
def Full (a : Allocator) (size : Nat) : Prop :=
  (∀ s ∈ a.recycled, s.size ≠ pageAligned size) ∧ a.limit < a.next + pageAligned size

/-- Allocate a region, for which the host has memory or has none. -/
def allocateIf (a : Allocator) (granted : Bool) (size : Nat) : Except PlatformError Region × Allocator :=
  let rounded := pageAligned size
  if size = 0 ∨ layoutLimit < rounded then (.error .invalidArgument, a)
  else
    match a.reserve rounded with
    | none => (.error .outOfMemory, a)
    | some (bus, a) =>
      if granted then
        let region : Region := ⟨a.origin, a.allocated, bus, rounded⟩
        (.ok region,
          { a with
            live := ⟨region, Memory.zeroed rounded⟩ :: a.live
            allocated := a.allocated + 1
            liveBytes := a.liveBytes + rounded })
      else (.error .outOfMemory, { a with recycled := ⟨bus, rounded⟩ :: a.recycled })

/-- The host of the bench has memory up to its limit. -/
theorem allocate_eq_allocateIf (a : Allocator) (size : Nat) :
    a.allocate size = a.allocateIf (decide (pageAligned size < hostLimit)) size := by
  unfold allocate allocateIf
  dsimp only
  split
  · rfl
  · cases a.reserve (pageAligned size) with
    | none => rfl
    | some reserved =>
      dsimp only
      by_cases hhost : hostLimit ≤ pageAligned size
      · rw [if_pos hhost, if_neg (by simpa using hhost)]
      · rw [if_neg hhost, if_pos (by simpa using hhost)]

/-- A size that is unfit is refused. -/
theorem allocateIf_of_unfit {size : Nat} (hunfit : Unfit size) (a : Allocator) (granted : Bool) :
    a.allocateIf granted size = (.error .invalidArgument, a) := if_pos hunfit

/-- A window that is full has nothing to give. -/
theorem allocateIf_of_reserve_none {a : Allocator} {size : Nat} (hfit : ¬ Unfit size)
    (hnone : a.reserve (pageAligned size) = none) (granted : Bool) :
    a.allocateIf granted size = (.error .outOfMemory, a) := by
  unfold Unfit at hfit
  simp only [allocateIf, if_neg hfit, hnone]

/-- Addresses that were chosen are held with memory of the host, and are kept for later without it. -/
theorem allocateIf_of_reserve {a b : Allocator} {size bus : Nat} (hfit : ¬ Unfit size)
    (hsome : a.reserve (pageAligned size) = some (bus, b)) :
    a.allocateIf true size =
        (.ok ⟨b.origin, b.allocated, bus, pageAligned size⟩,
          { b with
            live := ⟨⟨b.origin, b.allocated, bus, pageAligned size⟩, Memory.zeroed (pageAligned size)⟩ :: b.live
            allocated := b.allocated + 1
            liveBytes := b.liveBytes + pageAligned size }) ∧
      a.allocateIf false size =
        (.error .outOfMemory, { b with recycled := ⟨bus, pageAligned size⟩ :: b.recycled }) := by
  unfold Unfit at hfit
  simp only [allocateIf, if_neg hfit, hsome]
  exact ⟨rfl, rfl⟩

/-- What it takes to reserve a stretch. -/
theorem reserve_eq_none_iff (a : Allocator) (size : Nat) : a.reserve (pageAligned size) = none ↔ a.Full size := by
  unfold reserve Full
  cases hfind : a.recycled.find? fun s => s.size == pageAligned size with
  | some s =>
    have hsize : s.size = pageAligned size := by simpa using List.find?_some hfind
    exact ⟨nofun, fun h => absurd hsize (h.1 s (List.mem_of_find?_eq_some hfind))⟩
  | none =>
    have hnone : ∀ s ∈ a.recycled, s.size ≠ pageAligned size := by simpa using hfind
    dsimp only
    split
    · exact ⟨nofun, fun h => by omega⟩
    · exact ⟨fun _ => ⟨hnone, by omega⟩, fun _ => rfl⟩

/-- The two ways to reserve a stretch: to use one again, or to cut off a new one. -/
theorem reserve_cases {a b : Allocator} {size bus : Nat} (h : a.reserve size = some (bus, b)) :
    (b.next = a.next ∧ a.blocks.Perm (⟨bus, size⟩ :: b.blocks)) ∨
      (bus = a.next ∧ b.next = a.next + size ∧ b.next ≤ a.limit ∧ b.blocks = a.blocks) := by
  unfold reserve at h
  split at h
  · rename_i s hfind
    obtain ⟨rfl, rfl⟩ := Prod.mk.inj (Option.some.inj h)
    have hfits : s.size = size := by simpa using List.find?_some hfind
    have hblock : (⟨s.bus, size⟩ : Segment) = s := by rw [← hfits]
    rw [hblock]
    exact .inl ⟨rfl, ((List.perm_cons_erase (List.mem_of_find?_eq_some hfind)).append_left _).trans
      List.perm_middle⟩
  · split at h
    · obtain ⟨rfl, rfl⟩ := Prod.mk.inj (Option.some.inj h)
      exact .inr ⟨rfl, rfl, by assumption, rfl⟩
    · contradiction

/-! ## The invariant -/

/-- The window from `base` to `limit` is cut up into the live regions and the stretches that can be used
again, and the counters agree with the live regions. A window that ends before it starts is never used. -/
structure Partitioned (base limit : Nat) (a : Allocator) : Prop where
  cut : Cut base a.next a.blocks
  bounded : a.limit = limit
  within : a.next ≤ limit ∨ (a.allocated = 0 ∧ a.next = base ∧ a.blocks = [])
  balanced : a.allocated = a.released + a.regions.length
  sized : a.liveBytes = totalSize a.regions

namespace Partitioned

variable {base limit : Nat} {a b : Allocator}

/-- A new allocator has cut up nothing. -/
theorem new (origin base limit : Nat) : (new origin base limit).Partitioned base limit :=
  ⟨Cut.nil base, rfl, .inr ⟨rfl, rfl, rfl⟩, rfl, rfl⟩

/-- The accounts of an allocator are right when its window is cut up. -/
theorem accounted (h : a.Partitioned base limit) : a.Accounted :=
  ⟨⟨h.cut.apart, fun s hs => (h.cut.paged s hs).1, fun _ hs => (h.cut.inside hs).2⟩, h.balanced, h.sized⟩

/-- A reserved stretch belongs to the window. -/
theorem reserve {size bus : Nat} (h : a.Partitioned base limit) (hsize : 0 < size) (hpages : pageSize ∣ size)
    (hreserve : a.reserve size = some (bus, b)) :
    Cut base b.next (⟨bus, size⟩ :: b.blocks) ∧ b.next ≤ limit := by
  rcases reserve_cases hreserve with ⟨hnext, hperm⟩ | ⟨rfl, hnext, hroom, hblocks⟩
  · rw [hnext]
    refine ⟨h.cut.perm hperm, h.within.resolve_right fun hunused => ?_⟩
    rw [hunused.2.2] at hperm
    exact absurd hperm.symm.eq_nil (List.cons_ne_nil _ _)
  · rw [hnext, hblocks]
    exact ⟨h.cut.carve hsize hpages, by rw [← h.bounded, ← hnext]; exact hroom⟩

/-- Allocating keeps the window cut up, whatever becomes of it. -/
theorem allocateIf (h : a.Partitioned base limit) (granted : Bool) (size : Nat) :
    (a.allocateIf granted size).2.Partitioned base limit := by
  unfold Allocator.allocateIf
  dsimp only
  split
  · exact h
  · rename_i hfit
    split
    · exact h
    · rename_i bus reserved hreserve
      have hround := le_pageAligned size
      obtain ⟨hcut, hwithin⟩ := h.reserve (by omega) (pageSize_dvd_pageAligned size) hreserve
      have hsame := reserve_eq hreserve
      split
      · refine ⟨hcut, ?_, .inl hwithin, ?_, ?_⟩ <;> rw [hsame]
        · exact h.bounded
        · exact (congrArg (· + 1) h.balanced).trans (Nat.add_assoc _ _ _)
        · exact (congrArg (· + pageAligned size) h.sized).trans (Nat.add_comm _ _)
      · refine ⟨hcut.perm List.perm_middle.symm, ?_, .inl hwithin, ?_, ?_⟩ <;> rw [hsame]
        exacts [h.bounded, h.balanced, h.sized]

/-- Releasing keeps the window cut up, whatever is released. -/
theorem release (h : a.Partitioned base limit) (r : Region) : (a.release r).1.Partitioned base limit := by
  have hkept := h.accounted.release r
  rcases h.accounted.wellFormed.release_moved r with hsame | ⟨m, hm, -, hblocks, hrest⟩
  · rw [hsame]
    exact h
  · have hnext : (a.release r).1.next = a.next := by rw [hrest]
    have hlimit : (a.release r).1.limit = a.limit := by rw [hrest]
    have hmem : m.region.segment ∈ a.blocks :=
      List.mem_append_left _ (List.mem_map_of_mem (List.mem_map_of_mem hm))
    refine ⟨hnext ▸ h.cut.perm hblocks, hlimit.trans h.bounded, .inl ?_, hkept.balanced, hkept.sized⟩
    rw [hnext]
    exact h.within.resolve_right fun hunused => List.ne_nil_of_mem hmem hunused.2.2

end Partitioned

/-! ## Any use of the allocator -/

/-- What is done with an allocator: a request, with the answer of the host, or a release. -/
inductive Use where
  | allocate (size : Nat) (granted : Bool)
  | release (r : Region)

/-- The allocator after one use. -/
def use (a : Allocator) : Use → Allocator
  | .allocate size granted => (a.allocateIf granted size).2
  | .release r => (a.release r).1

/-- The allocator after all the uses, in order. -/
def useAll (a : Allocator) (uses : List Use) : Allocator := uses.foldl use a

/-- The window stays cut up whatever is done. -/
theorem Partitioned.useAll {base limit : Nat} {a : Allocator} (h : a.Partitioned base limit) (uses : List Use) :
    (a.useAll uses).Partitioned base limit := by
  induction uses generalizing a with
  | nil => exact h
  | cons u rest ih =>
    refine ih (a := a.use u) ?_
    cases u with
    | allocate size granted => exact h.allocateIf granted size
    | release r => exact h.release r

/-- What becomes of a request for `size` bytes. -/
structure Answered (a : Allocator) (granted : Bool) (size : Nat) : Prop where
  invalid : (a.allocateIf granted size).1 = .error .invalidArgument ↔ Unfit size
  exhausted : (a.allocateIf granted size).1 = .error .outOfMemory ↔ ¬ Unfit size ∧ (a.Full size ∨ granted = false)
  /-- A request that fails changes neither the live regions nor the counters. -/
  failed : ∀ e b, a.allocateIf granted size = (.error e, b) →
    b.live = a.live ∧ b.allocated = a.allocated ∧ b.released = a.released ∧ b.liveBytes = a.liveBytes
  done : ¬ Unfit size → ¬ a.Full size → granted = true →
    ∃ r b, a.allocateIf granted size = (.ok r, b) ∧ r.size = pageAligned size ∧ size ≤ r.size ∧
      b.regions = r :: a.regions

/-- A request ends in one of four ways. -/
theorem answered (a : Allocator) (granted : Bool) (size : Nat) : a.Answered granted size := by
  by_cases hunfit : Unfit size
  · constructor <;> rw [allocateIf_of_unfit hunfit] <;> simp [hunfit]
  · rcases hreserve : a.reserve (pageAligned size) with _ | ⟨bus, reserved⟩
    · have hfull := (a.reserve_eq_none_iff size).mp hreserve
      constructor <;> rw [allocateIf_of_reserve_none hunfit hreserve] <;> simp [hunfit, hfull]
    · have hfull : ¬ a.Full size := by
        rw [← reserve_eq_none_iff, hreserve]
        exact Option.some_ne_none _
      have hsame := reserve_eq hreserve
      obtain ⟨hheld, hkept⟩ := allocateIf_of_reserve hunfit hreserve
      cases granted with
      | true =>
        refine ⟨by simp [hheld, hunfit], by simp [hheld, hfull], fun e b h => ?_, fun _ _ _ => ?_⟩
        · rw [hheld] at h
          simp at h
        · refine ⟨_, _, hheld, rfl, le_pageAligned size, ?_⟩
          rw [hsame]
          rfl
      | false =>
        refine ⟨by simp [hkept, hunfit], by simp [hkept, hunfit], fun e b h => ?_, nofun⟩
        rw [hkept] at h
        obtain ⟨-, rfl⟩ := Prod.mk.inj h
        rw [hsame]
        exact ⟨rfl, rfl, rfl, rfl⟩

/-! ## Requests of one size -/

/-- Allocate a region, and release it if there is one. -/
def cycle (size : Nat) (a : Allocator) (granted : Bool) : Allocator :=
  match a.allocateIf granted size with
  | (.ok r, b) => (b.release r).1
  | (.error _, b) => b

/-- The next request for `size` bytes gets the stretch at `bus`, and the window is used up to `next`. -/
structure Reuses (size bus next : Nat) (a : Allocator) : Prop where
  fit : ¬ Unfit size
  found : a.recycled.find? (fun s => s.size == pageAligned size) = some ⟨bus, pageAligned size⟩
  next_eq : a.next = next

/-- The newest region goes back in front of the stretches that can be used again. -/
theorem release_newest {a : Allocator} {r : Region} {memory : Memory} {rest : List Mapping}
    (hlive : a.live = ⟨r, memory⟩ :: rest) :
    (a.release r).1.recycled = ⟨r.bus, r.size⟩ :: a.recycled ∧ (a.release r).1.next = a.next := by
  have hfind : (a.live.find? fun m => m.region.bus == r.bus) = some ⟨r, memory⟩ := by
    rw [hlive, List.find?_cons_of_pos (by simp)]
  rw [release, hfind]
  exact ⟨rfl, rfl⟩

namespace Reuses

variable {size bus next : Nat} {a b : Allocator}

/-- A stretch that was just put back is used again. -/
theorem of_recycled {rest : List Segment} (hfit : ¬ Unfit size)
    (hrecycled : a.recycled = ⟨bus, pageAligned size⟩ :: rest)
    (hnext : a.next = next) : a.Reuses size bus next :=
  ⟨hfit, by rw [hrecycled, List.find?_cons_of_pos (by simp)], hnext⟩

/-- The stretch is reserved. -/
theorem reserve (h : a.Reuses size bus next) :
    ∃ b, a.reserve (pageAligned size) = some (bus, b) ∧ b.next = next := by
  refine ⟨{ a with recycled := a.recycled.erase ⟨bus, pageAligned size⟩ }, ?_, h.next_eq⟩
  rw [Allocator.reserve, h.found]

/-- A request for the stretch leaves it to be used again once it is released, or when the host had no
memory. -/
theorem of_reserve (hfit : ¬ Unfit size) (hreserve : a.reserve (pageAligned size) = some (bus, b)) (granted : Bool) :
    (a.cycle size granted).Reuses size bus b.next := by
  obtain ⟨hheld, hkept⟩ := allocateIf_of_reserve hfit hreserve
  unfold cycle
  cases granted with
  | true =>
    rw [hheld]
    obtain ⟨hrecycled, hnext⟩ := release_newest (a := (a.allocateIf true size).2) (by rw [hheld])
    rw [hheld] at hrecycled hnext
    exact .of_recycled hfit hrecycled hnext
  | false =>
    rw [hkept]
    exact .of_recycled hfit rfl rfl

/-- Any number of requests that are released again use nothing of the window. -/
theorem cycles (h : a.Reuses size bus next) (answers : List Bool) :
    (answers.foldl (cycle size) a).Reuses size bus next := by
  induction answers generalizing a with
  | nil => exact h
  | cons granted rest ih =>
    obtain ⟨b, hreserve, hnext⟩ := h.reserve
    exact ih (hnext ▸ of_reserve h.fit hreserve granted)

end Reuses

/-- The window of an allocator is cut up into its live regions and the stretches it can use again, whatever
was done with it and whatever the host had memory for. A request fails for its size, for the window or for
the host, and gets a region of whole pages otherwise. Requests of one size that are released again all get
the addresses of the first, and use nothing more of the window. -/
theorem window_partitioned (origin base limit : Nat) (uses : List Use) (size : Nat) :
    ((new origin base limit).useAll uses).Partitioned base limit ∧
      (∀ granted, ((new origin base limit).useAll uses).Answered granted size) ∧
      (∀ r b, ((new origin base limit).useAll uses).allocateIf true size = (.ok r, b) →
        ∀ answers : List Bool, ∃ s c, (answers.foldl (cycle size) (b.release r).1).allocateIf true size = (.ok s, c) ∧
          s.bus = r.bus ∧ s.size = r.size ∧ c.next = b.next) ∧
      ∀ a : Allocator, a.allocate size = a.allocateIf (decide (pageAligned size < hostLimit)) size := by
  refine ⟨(Partitioned.new origin base limit).useAll uses, fun granted => answered _ granted size,
    fun r b hfirst answers => ?_, fun a => a.allocate_eq_allocateIf size⟩
  generalize (new origin base limit).useAll uses = a at hfirst
  have hfit : ¬ Unfit size := fun hunfit => by
    rw [allocateIf_of_unfit hunfit] at hfirst
    simp at hfirst
  rcases hreserve : a.reserve (pageAligned size) with _ | ⟨bus, reserved⟩
  · rw [allocateIf_of_reserve_none hfit hreserve] at hfirst
    simp at hfirst
  · have hcycle : a.cycle size true = (b.release r).1 := by rw [cycle, hfirst]
    have hagain := (hcycle ▸ Reuses.of_reserve hfit hreserve true).cycles answers
    obtain ⟨hheld, -⟩ := allocateIf_of_reserve hfit hreserve
    obtain ⟨hr, hb⟩ := Prod.mk.inj (hheld.symm.trans hfirst)
    obtain rfl := Except.ok.inj hr
    obtain ⟨c, hc, hnext⟩ := hagain.reserve
    obtain ⟨hlast, -⟩ := allocateIf_of_reserve hfit hc
    exact ⟨_, _, hlast, rfl, rfl, hnext.trans (by rw [← hb])⟩

/-- The window of two pages after a request that the host had no memory for. -/
def twoPages : Allocator := (new 0 0x1000 0x3000).useAll [.allocate 1 false]

/-- The address that was set aside for it goes to the next request. -/
theorem window_partitioned_two_pages :
    ¬ Unfit 5 ∧ ¬ twoPages.Full 5 ∧ twoPages.next = 0x2000 ∧
      ∃ r b, twoPages.allocateIf true 5 = (.ok r, b) ∧ r.bus = 0x1000 ∧ r.size = 4096 ∧ b.next = 0x2000 := by
  have hfit : ¬ Unfit 5 := by unfold Unfit; decide
  have hroom : ¬ twoPages.Full 5 := fun h => h.1 ⟨0x1000, 4096⟩ (by decide) (by decide)
  obtain ⟨-, hanswered, -⟩ := window_partitioned 0 0x1000 0x3000 [.allocate 1 false] 5
  obtain ⟨r, b, hresult, hsize, -, -⟩ := (hanswered true).done hfit hroom rfl
  have hfound : (twoPages.allocateIf true 5).2.next = 0x2000 ∧
      (twoPages.allocateIf true 5).1 = .ok ⟨0, 0, 0x1000, 4096⟩ := by decide
  change twoPages.allocateIf true 5 = _ at hresult
  rw [hresult] at hfound
  exact ⟨hfit, hroom, rfl, r, b, hresult, by rw [Except.ok.inj hfound.2], hsize, hfound.1⟩

end Allocator

end LaneCard
