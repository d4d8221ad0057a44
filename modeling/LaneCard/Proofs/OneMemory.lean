import LaneCard.Proofs.RegionHistory

/-!
# Two views of one memory

While regions are given only to the allocators that created them, the live regions of an allocator are those
that are held, and no two of them overlap. A region has one content then, which its holder reaches by offset
and the device by bus address: whatever is written in one way is there in the other, and nowhere else.
-/

namespace LaneCard

namespace Allocator

/-- Taking a region back leaves the content of those at other addresses. -/
theorem contents_release (a : Allocator) {r s : Region} (hbus : s.bus ≠ r.bus) :
    (a.release r).1.contents s = a.contents s := by
  have hfind : (a.live.filter fun m => m.region.bus != r.bus).find? (fun m => m.region == s) =
      a.live.find? fun m => m.region == s := by
    rw [List.find?_filter]
    congr 1
    funext m
    by_cases hm : m.region = s
    · simp [hm, hbus]
    · simp [hm]
  unfold release
  split
  · rfl
  · rw [contents, contents, memory?, memory?, hfind]

/-- A new region is empty. -/
theorem contents_allocate {a b : Allocator} {size : Nat} {r : Region} (h : a.allocate size = (.ok r, b)) :
    b.contents r = Memory.zeroed r.size := by
  obtain ⟨hlive, -⟩ := allocate_counted h
  rw [contents, memory?, hlive, List.find?_cons_of_pos (by simp)]
  rfl

/-- The other regions keep their content when one is allocated. -/
theorem contents_allocate_of_ne {a b : Allocator} {size : Nat} {r s : Region} (h : a.allocate size = (.ok r, b))
    (hs : s ≠ r) : b.contents s = a.contents s := by
  obtain ⟨hlive, -⟩ := allocate_counted h
  rw [contents, contents, memory?, memory?, hlive, List.find?_cons_of_neg (by simpa using Ne.symm hs)]

/-- So they do when a request fails. -/
theorem contents_allocate_error {a b : Allocator} {size : Nat} {e : PlatformError} (h : a.allocate size = (.error e, b))
    (s : Region) : b.contents s = a.contents s := by
  rw [allocate_error h]
  rfl

end Allocator

namespace RegionBench

/-- An allocator got only regions that it had created. -/
def Loyal : List Event → Prop
  | [] => True
  | .created _ _ :: past => Loyal past
  | .given k r :: past => Event.created k r ∈ past ∧ Loyal past

instance decidableLoyal : (events : List Event) → Decidable (Loyal events)
  | [] => inferInstanceAs (Decidable True)
  | .created _ _ :: past => decidableLoyal past
  | .given k r :: past =>
    have := decidableLoyal past
    inferInstanceAs (Decidable (Event.created k r ∈ past ∧ Loyal past))

/-- An allocator that got only its own regions was not mistaken about any. -/
theorem Loyal.not_mistaken {events : List Event} (h : Loyal events) (k : Nat) : ¬ Mistaken k events := by
  induction events with
  | nil => exact nofun
  | cons e past ih =>
    cases e with
    | created j r => exact ih h
    | given j r =>
      rintro (hpast | ⟨rfl, hforeign, -⟩)
      · exact ih h.2 hpast
      · exact hforeign h.1

/-- Whoever got a region has created it. -/
theorem Loyal.created_of_given {events : List Event} (h : Loyal events) {k : Nat} {r : Region}
    (hgiven : .given k r ∈ events) : .created k r ∈ events := by
  induction events with
  | nil => contradiction
  | cons e past ih =>
    cases e with
    | created j x => exact List.mem_cons_of_mem _ (ih h ((List.mem_cons.mp hgiven).resolve_left nofun))
    | given j x =>
      rcases List.mem_cons.mp hgiven with hnew | hold
      · obtain ⟨rfl, rfl⟩ := Event.given.inj hnew
        exact List.mem_cons_of_mem _ h.1
      · exact List.mem_cons_of_mem _ (ih h.2 hold)

/-- The content of the region with a number. -/
def contents (b : RegionBench) (id : Nat) : Memory :=
  ((b.region? id).bind fun r => (b.allocators[r.origin]?).map fun a => a.contents r).getD (Memory.zeroed 0)

/-- The content of a region is what its allocator has for it. -/
theorem contents_eq {b : RegionBench} {id : Nat} {r : Region} {a : Allocator} (hr : b.region? id = some r)
    (ha : b.allocators[r.origin]? = some a) : b.contents id = a.contents r := by
  rw [contents, hr, Option.bind_some, ha, Option.map_some, Option.getD_some]

/-- A region keeps its content when its allocator, if it is the one that is used, has the same for it. -/
theorem contents_setIfInBounds {b c : RegionBench} {k j : Nat} {a a' : Allocator} {s : Region}
    (ha : b.allocators[k]? = some a) (hallocators : c.allocators = b.allocators.setIfInBounds k a')
    (hb : b.region? j = some s) (hc : c.region? j = some s) (hsame : s.origin = k → a'.contents s = a.contents s) :
    c.contents j = b.contents j := by
  rw [contents, contents, hb, hc, hallocators, Option.bind_some, Option.bind_some]
  by_cases hk : s.origin = k
  · subst hk
    rw [Table.getElem?_setIfInBounds_self a' ha, ha, Option.map_some, Option.map_some, hsame rfl]
  · rw [Array.getElem?_setIfInBounds_ne (Ne.symm hk)]

/-! ## What is held is what is live -/

/-- The regions with a number are the live ones, and those of one allocator do not overlap. -/
structure Sound (b : RegionBench) : Prop where
  wellFormed : ∀ (k : Nat) (a : Allocator), b.allocators[k]? = some a → a.WellFormed
  live : ∀ (k : Nat) (a : Allocator), b.allocators[k]? = some a →
    ∀ r, r ∈ a.regions ↔ r.origin = k ∧ ∃ id, b.region? id = some r
  home : ∀ id r, b.region? id = some r → ∃ a, b.allocators[r.origin]? = some a
  distinct : ∀ i j r, b.region? i = some r → b.region? j = some r → i = j

/-- A bench is sound as long as regions are given only to the allocators that created them. -/
theorem Consistent.sound {s : Course} (h : Consistent s) (hloyal : Loyal s.events) : Sound s.bench where
  wellFormed k a ha := (h.tracked k a ha).reachable.accounted.wellFormed
  live k a ha r := by
    have hregions := (h.tracked k a ha).regions.trans (h.owed k (hloyal.not_mistaken k))
    rw [hregions, mem_owed_iff]
    constructor
    · rintro ⟨hcreated, hnot⟩
      obtain ⟨horigin, -⟩ := h.creator k r hcreated
      refine ⟨horigin, h.kept k r hcreated fun j hj => ?_⟩
      -- Whoever got the region had created it, and so had `k`.
      have hother := (h.creator j r (hloyal.created_of_given hj)).1
      obtain rfl : j = k := hother.symm.trans horigin
      exact hnot hj
    · rintro ⟨rfl, id, hid⟩
      obtain ⟨hcreated, hnever⟩ := h.held id r hid
      exact ⟨hcreated, hnever r.origin⟩
  home id r hr := by
    obtain ⟨hcreated, -⟩ := h.held id r hr
    exact ⟨_, Array.getElem?_eq_getElem (h.creator _ r hcreated).2⟩
  distinct := h.distinct

namespace Sound

variable {b : RegionBench} {id : Nat} {r : Region}

/-- A region with a number is live where it came from. -/
theorem exists_live (h : Sound b) (hr : b.region? id = some r) :
    ∃ a, b.allocators[r.origin]? = some a ∧ a.WellFormed ∧ r ∈ a.regions ∧ b.contents id = a.contents r := by
  obtain ⟨a, ha⟩ := h.home id r hr
  exact ⟨a, ha, h.wellFormed _ a ha, (h.live _ a ha r).mpr ⟨rfl, id, hr⟩, contents_eq hr ha⟩

/-- Two regions of one allocator that share a bus address are the same. -/
theorem eq_of_share (h : Sound b) {i j addr : Nat} {s : Region} (hr : b.region? i = some r) (hs : b.region? j = some s)
    (horigin : r.origin = s.origin) (hin : r.Spans addr 1) (hin' : s.Spans addr 1) : i = j := by
  obtain ⟨a, ha, hwf, hlive, -⟩ := h.exists_live hr
  have hlive' : s ∈ a.regions := (h.live _ a ha s).mpr ⟨horigin.symm, j, hs⟩
  obtain rfl := hwf.region_eq_of_spans hlive hlive' hin hin'
  exact h.distinct i j r hr hs

/-- The holder of a region reads its content, as far as it reaches. -/
theorem read?_eq (h : Sound b) (hr : b.region? id = some r) (offset length : Nat) :
    b.read? id offset length =
      some (if offset + length ≤ r.size then .ok ((b.contents id).read offset length)
        else .error .bufferTooSmall) := by
  obtain ⟨a, ha, -, -, hcontents⟩ := h.exists_live hr
  rw [read?, hr, hcontents]
  simp only [Option.bind_eq_bind, Option.bind_some, ha]
  rfl

/-- The device reads the same, by bus address. -/
theorem busRead_eq (h : Sound b) (hr : b.region? id = some r) {offset length : Nat} (hpositive : 0 < length)
    (hfits : offset + length ≤ r.size) :
    b.busRead r.origin (r.bus + offset) length = some ((b.contents id).read offset length) := by
  obtain ⟨a, ha, hwf, hlive, hcontents⟩ := h.exists_live hr
  rw [busRead, ha, hcontents]
  exact Allocator.busRead_add_eq hwf hlive offset length (by omega) hfits

/-- Bus addresses that are found lie in one of the regions. -/
theorem exists_spans (h : Sound b) {k addr length : Nat} {a : Allocator} {m : Mapping} (ha : b.allocators[k]? = some a)
    (hfound : a.covering? addr length = some m) :
    ∃ id, b.region? id = some m.region ∧ m.region.origin = k ∧ m.region.Spans addr length := by
  obtain ⟨hm, hlow, hhigh⟩ := Allocator.mem_of_covering? hfound
  obtain ⟨horigin, id, hid⟩ := (h.live k a ha _).mp (List.mem_map_of_mem hm)
  exact ⟨id, hid, horigin, hlow, hhigh⟩

/-- The device reads where one region has all the bytes, and nowhere else. -/
theorem busRead_isSome_iff (h : Sound b) (k addr : Nat) {length : Nat} (hpositive : 0 < length) :
    (b.busRead k addr length).isSome ↔ ∃ id r, b.region? id = some r ∧ r.origin = k ∧ r.Spans addr length := by
  constructor
  · intro hread
    obtain ⟨data, hread⟩ := Option.isSome_iff_exists.mp hread
    obtain ⟨a, ha, hread⟩ := Option.bind_eq_some_iff.mp hread
    obtain ⟨m, hm, -⟩ := Option.map_eq_some_iff.mp hread
    obtain ⟨id, hid⟩ := h.exists_spans ha hm
    exact ⟨id, m.region, hid⟩
  · rintro ⟨id, r, hr, rfl, hlow, hhigh⟩
    obtain ⟨offset, rfl⟩ := Nat.exists_eq_add_of_le hlow
    rw [h.busRead_eq hr hpositive (by omega)]
    rfl

end Sound

/-! ## What is written -/

/-- `c` is `b` after `data` was written to a region from `offset` on: the region with the number `id`, which is `r`. -/
structure Written (b c : RegionBench) (id : Nat) (r : Region) (offset : Nat) (data : Bytes) : Prop where
  regions : c.regions = b.regions
  /-- The holder finds the data. -/
  seen : c.read? id offset data.size = some (.ok data)
  /-- So does the device. -/
  seenByBus : 0 < data.size → c.busRead r.origin (r.bus + offset) data.size = some data
  /-- These bytes have changed, and no other byte of any region. -/
  bytes : ∀ j s, b.region? j = some s → ∀ i < s.size, (c.contents j).byteAt i =
    if j = id ∧ offset ≤ i ∧ i < offset + data.size then data.byteAt (i - offset) else (b.contents j).byteAt i

namespace Sound

variable {b : RegionBench} {id offset : Nat} {r : Region} {a a' : Allocator} {data : Bytes}

/-- Changing the content of a region changes that one only. -/
theorem rewritten (h : Sound b) (hr : b.region? id = some r) (ha : b.allocators[r.origin]? = some a)
    {change : Memory → Memory} (hchange : a.Rewritten a' r change) :
    Sound { b with allocators := b.allocators.setIfInBounds r.origin a' } ∧
      contents { b with allocators := b.allocators.setIfInBounds r.origin a' } id = change (b.contents id) ∧
      ∀ j s, b.region? j = some s → j ≠ id →
        contents { b with allocators := b.allocators.setIfInBounds r.origin a' } j = b.contents j := by
  refine ⟨⟨?_, ?_, fun i s hs => ?_, h.distinct⟩, ?_, fun j s hs hj => ?_⟩
  · exact Table.forall_setIfInBounds h.wellFormed (hchange.wellFormed (h.wellFormed _ a ha))
  · exact Table.forall_setIfInBounds h.live (hchange.regions ▸ h.live _ a ha)
  · obtain ⟨x, hx⟩ := h.home i s hs
    exact ⟨_, Array.getElem?_eq_getElem (by simpa using (Array.getElem?_eq_some_iff.mp hx).1)⟩
  · rw [contents_eq hr ha, ← hchange.inside]
    exact contents_eq hr (Table.getElem?_setIfInBounds_self a' ha)
  · refine contents_setIfInBounds ha rfl hs hs fun _ => hchange.outside s fun hsame => ?_
    exact hj (h.distinct j id r (hsame ▸ hs) hr)

/-- Data that the allocator of a region puts there is seen in both views. -/
theorem written (h : Sound b) (hr : b.region? id = some r) (ha : b.allocators[r.origin]? = some a)
    {change : Memory → Memory} (hchange : a.Rewritten a' r change) (hfits : offset + data.size ≤ r.size)
    (hbytes : ∀ m i, i < r.size → (change m).byteAt i = (m.write offset data).byteAt i) :
    Written b { b with allocators := b.allocators.setIfInBounds r.origin a' } id r offset data := by
  obtain ⟨hsound, hinside, houtside⟩ := h.rewritten hr ha hchange
  have hdata : (change (b.contents id)).read offset data.size = data := by
    refine Bytes.eq_of_byteAt (Memory.size_read _ _ _) fun i hi => ?_
    rw [Memory.size_read] at hi
    rw [Memory.byteAt_read _ _ _ _ hi, hbytes _ _ (by omega), Memory.byteAt_write, if_pos (by omega),
      Nat.add_sub_cancel_left]
  refine ⟨rfl, ?_, fun hpositive => ?_, fun j s hs i hi => ?_⟩
  · rw [hsound.read?_eq hr, if_pos hfits, hinside, hdata]
  · rw [hsound.busRead_eq hr hpositive hfits, hinside, hdata]
  · by_cases hj : j = id
    · subst hj
      obtain rfl := Option.some.inj (hr.symm.trans hs)
      rw [hinside, hbytes _ _ hi, Memory.byteAt_write]
      simp
    · rw [houtside j s hs hj, if_neg fun hhere => hj hhere.1]

/-- The holder of a region writes to it, as far as it reaches. -/
theorem exists_write? (h : Sound b) (hr : b.region? id = some r) (hfits : offset + data.size ≤ r.size) :
    ∃ c, b.write? id offset data = some (.ok c) ∧ Written b c id r offset data := by
  obtain ⟨a, ha, -, hlive, -⟩ := h.exists_live hr
  obtain ⟨a', hwrite, hchange⟩ := Allocator.write_add_eq hlive offset data hfits
  refine ⟨_, ?_, h.written hr ha hchange hfits fun _ _ _ => rfl⟩
  rw [write?, hr]
  simp only [Option.bind_eq_bind, Option.bind_some, ha, hwrite, Except.map]

/-- Behind its end nothing is written. -/
theorem write?_error (h : Sound b) (hr : b.region? id = some r) (hfits : ¬ offset + data.size ≤ r.size) :
    b.write? id offset data = some (.error .bufferTooSmall) := by
  obtain ⟨a, ha, -⟩ := h.exists_live hr
  rw [write?, hr]
  simp only [Option.bind_eq_bind, Option.bind_some, ha, Allocator.write, if_neg hfits, Except.map]

/-- The holder of a region fills it with zeros. -/
theorem exists_clear? (h : Sound b) (hr : b.region? id = some r) :
    ∃ c, b.clear? id = some c ∧ Written b c id r 0 (Bytes.zeros r.size) := by
  obtain ⟨a, ha, -, hlive, -⟩ := h.exists_live hr
  refine ⟨_, ?_, h.written hr ha (Allocator.rewritten_clear hlive) (by simp) fun m i hi => ?_⟩
  · rw [clear?, hr]
    simp only [Option.bind_eq_bind, Option.bind_some, ha]
  · rw [Memory.byteAt_zeroed, Memory.byteAt_write, if_pos (by simpa using hi), Bytes.byteAt_zeros]

/-- The device writes to a region, by bus address. -/
theorem exists_busWrite (h : Sound b) (hr : b.region? id = some r) (hpositive : 0 < data.size)
    (hfits : offset + data.size ≤ r.size) :
    ∃ c, b.busWrite r.origin (r.bus + offset) data = some c ∧ Written b c id r offset data := by
  obtain ⟨a, ha, hwf, hlive, -⟩ := h.exists_live hr
  obtain ⟨a', hwrite, hchange⟩ := Allocator.busWrite_add_eq hwf hlive offset data (by omega) hfits
  refine ⟨_, ?_, h.written hr ha hchange hfits fun _ _ _ => rfl⟩
  rw [busWrite]
  simp only [Option.bind_eq_bind, Option.bind_some, ha, hwrite]

/-- The device writes where one region has room for all the bytes, and nowhere else. -/
theorem busWrite_isSome_iff (h : Sound b) (k addr : Nat) (hpositive : 0 < data.size) :
    (b.busWrite k addr data).isSome ↔ ∃ id r, b.region? id = some r ∧ r.origin = k ∧ r.Spans addr data.size := by
  constructor
  · intro hwrite
    obtain ⟨c, hwrite⟩ := Option.isSome_iff_exists.mp hwrite
    obtain ⟨a, a', ha, hwrite, -⟩ := busWrite_eq_some hwrite
    obtain ⟨m, hm, -⟩ := Option.map_eq_some_iff.mp hwrite
    obtain ⟨id, hid⟩ := h.exists_spans ha hm
    exact ⟨id, m.region, hid⟩
  · rintro ⟨id, r, hr, rfl, hlow, hhigh⟩
    obtain ⟨offset, rfl⟩ := Nat.exists_eq_add_of_le hlow
    have hfits : offset + data.size ≤ r.size := by omega
    obtain ⟨c, hc, -⟩ := h.exists_busWrite hr hpositive hfits
    rw [hc]
    rfl

end Sound

/-! ## What is allocated and released -/

/-- `c` is `b` with a new region, full of zeros: the one with the number `id`, which is `r`. -/
structure Fresh (b c : RegionBench) (id : Nat) (r : Region) : Prop where
  new : b.region? id = none
  there : c.region? id = some r
  others : ∀ j, j ≠ id → c.region? j = b.region? j
  kept : ∀ j s, b.region? j = some s → c.contents j = b.contents j
  zero : ∀ offset length, offset + length ≤ r.size → c.read? id offset length = some (.ok (Bytes.zeros length))
  zeroByBus : ∀ offset length, 0 < length → offset + length ≤ r.size →
    c.busRead r.origin (r.bus + offset) length = some (Bytes.zeros length)

/-- `c` is `b` without the region with the number `id`. -/
structure Gone (b c : RegionBench) (id : Nat) : Prop where
  gone : c.region? id = none
  others : ∀ j, j ≠ id → c.region? j = b.region? j
  kept : ∀ j s, b.region? j = some s → j ≠ id → c.contents j = b.contents j

/-- A region that is allocated is full of zeros, whatever its bus addresses were used for before. -/
theorem Consistent.fresh {s : Course} (h : Consistent s) (hloyal : Loyal s.events) {k size id : Nat} {r : Region}
    {c : RegionBench} (hallocate : s.bench.allocate? k size = some (.ok (id, r), c)) : Fresh s.bench c id r := by
  obtain ⟨a, a', ha, hrequest, rfl, rfl⟩ := allocate?_ok hallocate
  obtain ⟨-, horigin, hnew⟩ := (h.tracked k a ha).created hrequest
  have hsound := (h.created ha hrequest).sound hloyal
  have hout := s.bench.region?_size
  have hthere := region?_push s.bench (s.bench.allocators.setIfInBounds k a') r s.bench.regions.size
  rw [if_pos rfl] at hthere
  have hempty : contents
      { s.bench with
        allocators := s.bench.allocators.setIfInBounds k a'
        regions := s.bench.regions.push (some r) } s.bench.regions.size = Memory.zeroed r.size := by
    obtain ⟨a'', ha'', -, -, hcontents⟩ := hsound.exists_live hthere
    rw [hcontents]
    dsimp only at ha''
    rw [horigin, Table.getElem?_setIfInBounds_self a' ha] at ha''
    rw [← Option.some.inj ha'', Allocator.contents_allocate hrequest]
  have hzeros (offset length : Nat) : (Memory.zeroed r.size).read offset length = Bytes.zeros length := by
    refine Bytes.eq_of_byteAt (by simp) fun i hi => ?_
    rw [Memory.size_read] at hi
    rw [Memory.byteAt_read _ _ _ _ hi, Memory.byteAt_zeroed, Bytes.byteAt_zeros]
  refine ⟨hout, hthere, fun j hj => ?_, fun j x hx => ?_, fun offset length hfits => ?_,
    fun offset length hpositive hfits => ?_⟩
  · rw [region?_push, if_neg hj]
  · have hj : j ≠ s.bench.regions.size := by
      rintro rfl
      rw [hout] at hx
      contradiction
    refine contents_setIfInBounds ha rfl hx (by rw [region?_push, if_neg hj, hx]) fun _ => ?_
    refine Allocator.contents_allocate_of_ne hrequest ?_
    rintro rfl
    exact hnew (horigin ▸ (h.held j x hx).1)
  · rw [hsound.read?_eq hthere, if_pos hfits, hempty, hzeros]
  · rw [hsound.busRead_eq hthere hpositive hfits, hempty, hzeros]

/-- A request that fails changes no region. -/
theorem allocate?_error_kept {b c : RegionBench} {k size : Nat} {e : Setback PlatformError}
    (h : b.allocate? k size = some (.error e, c)) :
    c.regions = b.regions ∧ ∀ j s, b.region? j = some s → c.contents j = b.contents j := by
  obtain rfl | ⟨a, a', f, ha, hrequest, rfl⟩ := allocate?_error h
  · exact ⟨rfl, fun _ _ _ => rfl⟩
  · exact ⟨rfl, fun j s hs => contents_setIfInBounds ha rfl hs hs fun _ =>
      Allocator.contents_allocate_error hrequest s⟩

/-- A region that goes back to where it came from leaves the others alone. -/
theorem Sound.exists_release? {b : RegionBench} (h : Sound b) {id : Nat} {r : Region} (hr : b.region? id = some r) :
    ∃ c, b.release? r.origin id = some c ∧ Gone b c id := by
  obtain ⟨a, ha, hwf, hlive, -⟩ := h.exists_live hr
  refine ⟨_, release?_eq hr ha, ?_, fun j hj => ?_, fun j s hs hj => ?_⟩
  · rw [region?_erase, if_pos rfl]
  · rw [region?_erase, if_neg hj]
  · refine contents_setIfInBounds ha rfl hs (by rw [region?_erase, if_neg hj, hs]) fun horigin => ?_
    refine Allocator.contents_release a fun hbus => hj ?_
    have hlive' : s ∈ a.regions := (h.live _ a ha s).mpr ⟨horigin, j, hs⟩
    obtain rfl := hwf.region_eq hlive' hlive hbus
    exact h.distinct j id s hs hr

/-! ## One memory -/

/-- The regions of a bench are one memory in two views. -/
structure OneMemory (b : RegionBench) : Prop where
  /-- What is live is what is held. -/
  live : ∀ (k : Nat) (a : Allocator), b.allocators[k]? = some a →
    ∀ r, r ∈ a.regions ↔ r.origin = k ∧ ∃ id, b.region? id = some r
  /-- No bus address of an allocator lies in two of its regions. -/
  one : ∀ i j r s addr, b.region? i = some r → b.region? j = some s → r.origin = s.origin →
    r.Spans addr 1 → s.Spans addr 1 → i = j
  read : ∀ id r offset length, b.region? id = some r →
    b.read? id offset length =
      some (if offset + length ≤ r.size then .ok ((b.contents id).read offset length)
        else .error .bufferTooSmall)
  busRead : ∀ id r offset length, b.region? id = some r → 0 < length → offset + length ≤ r.size →
    b.busRead r.origin (r.bus + offset) length = some ((b.contents id).read offset length)
  /-- The device reads where one live region has all the bytes, and nowhere else. -/
  readable : ∀ k addr length, 0 < length →
    ((b.busRead k addr length).isSome ↔ ∃ id r, b.region? id = some r ∧ r.origin = k ∧ r.Spans addr length)
  /-- It writes where it reads. -/
  writable : ∀ k addr (data : Bytes), 0 < data.size →
    ((b.busWrite k addr data).isSome ↔ ∃ id r, b.region? id = some r ∧ r.origin = k ∧ r.Spans addr data.size)
  write : ∀ id r offset (data : Bytes), b.region? id = some r → offset + data.size ≤ r.size →
    ∃ c, b.write? id offset data = some (.ok c) ∧ Written b c id r offset data
  write_refused : ∀ id r offset (data : Bytes), b.region? id = some r → ¬ offset + data.size ≤ r.size →
    b.write? id offset data = some (.error .bufferTooSmall)
  clear : ∀ id r, b.region? id = some r → ∃ c, b.clear? id = some c ∧ Written b c id r 0 (Bytes.zeros r.size)
  busWrite : ∀ id r offset (data : Bytes), b.region? id = some r → 0 < data.size →
    offset + data.size ≤ r.size →
    ∃ c, b.busWrite r.origin (r.bus + offset) data = some c ∧ Written b c id r offset data
  allocate : ∀ k size id r c, b.allocate? k size = some (.ok (id, r), c) → Fresh b c id r
  allocate_refused : ∀ k size e c, b.allocate? k size = some (.error e, c) →
    c.regions = b.regions ∧ ∀ j s, b.region? j = some s → c.contents j = b.contents j
  release : ∀ id r, b.region? id = some r → ∃ c, b.release? r.origin id = some c ∧ Gone b c id

/-- Whatever was allocated, released, written and cleared: as long as regions are given only to the allocators that
created them, the device and the holders of the regions have one memory. -/
theorem one_memory (windows : List (Nat × Nat)) (acts : List Act) (hloyal : Loyal (play windows acts).events) :
    OneMemory (play windows acts).bench := by
  have hplay := consistent_play windows acts
  have hsound := hplay.sound hloyal
  exact
    { live := hsound.live
      one := fun _ _ _ _ _ hr hs horigin hin hin' => hsound.eq_of_share hr hs horigin hin hin'
      read := fun _ _ offset length hr => hsound.read?_eq hr offset length
      busRead := fun _ _ _ _ hr hpositive hfits => hsound.busRead_eq hr hpositive hfits
      readable := fun k addr _ hpositive => hsound.busRead_isSome_iff k addr hpositive
      writable := fun k addr _ hpositive => hsound.busWrite_isSome_iff k addr hpositive
      write := fun _ _ _ _ hr hfits => hsound.exists_write? hr hfits
      write_refused := fun _ _ _ _ hr hfits => hsound.write?_error hr hfits
      clear := fun _ _ hr => hsound.exists_clear? hr
      busWrite := fun _ _ _ _ hr hpositive hfits => hsound.exists_busWrite hr hpositive hfits
      allocate := fun _ _ _ _ _ hallocate => hplay.fresh hloyal hallocate
      allocate_refused := fun _ _ _ _ hallocate => allocate?_error_kept hallocate
      release := fun _ _ hr => hsound.exists_release? hr }

/-- Two allocators over the same window. The first gets back a region that was written to. -/
def reused : List Act :=
  [.allocate 0 1, .allocate 1 1, .write 0 0 (Bytes.ofWords [7#32]), .busWrite 1 0x1001 (Bytes.ofWords [9#32]),
    .release 0 0]

/-- The region is fresh when it is given out again, and the one of the other allocator is still there. -/
theorem one_memory_reused :
    ∃ c, (play [(0x1000, 0x3000), (0x1000, 0x3000)] reused).bench.allocate? 0 1 =
        some (.ok (2, ⟨0, 1, 0x1000, 4096⟩), c) ∧
      Fresh (play [(0x1000, 0x3000), (0x1000, 0x3000)] reused).bench c 2 ⟨0, 1, 0x1000, 4096⟩ ∧
      (play [(0x1000, 0x3000), (0x1000, 0x3000)] reused).bench.region? 1 = some ⟨1, 0, 0x1000, 4096⟩ ∧
      (play [(0x1000, 0x3000), (0x1000, 0x3000)] reused).bench.busRead 1 0x1000 4 =
        some (((play [(0x1000, 0x3000), (0x1000, 0x3000)] reused).bench.contents 1).read 0 4) := by
  have hone := one_memory [(0x1000, 0x3000), (0x1000, 0x3000)] reused (by decide)
  exact ⟨_, rfl, hone.allocate 0 1 2 ⟨0, 1, 0x1000, 4096⟩ _ rfl, rfl,
    hone.busRead 1 ⟨1, 0, 0x1000, 4096⟩ 0 4 rfl (by decide) (by decide)⟩

end RegionBench

end LaneCard
