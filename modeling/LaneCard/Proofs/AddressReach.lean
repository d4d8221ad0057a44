import LaneCard.Proofs.BusWindow
import LaneCard.Proofs.PoolAllocation

/-!
# How far the addresses of the card reach

The card is told in 32 bits where a buffer starts, and finds the rest of the buffer behind. A pool is refused
when a buffer of it would start where these addresses do not reach. It is not refused when a buffer starts
below the end of these addresses and goes on beyond: then the card cannot name the last bytes of that buffer.
This can happen to one buffer of a pool at most, and to none in a window that ends where the addresses do.
-/

namespace LaneCard

/-- The card can name the start of a buffer of `size` bytes in a region, but not all of its bytes. -/
def Region.Crosses (size : Nat) (r : Region) : Prop := r.bus < wordSpan ∧ wordSpan < r.bus + size

namespace Allocator

variable {a b : Allocator}

/-- Changing memory keeps the window cut up. -/
theorem Partitioned.overwritten {base limit : Nat} (h : a.Partitioned base limit) (hb : a.Overwritten b) :
    b.Partitioned base limit := by
  have hkept := h.accounted.overwritten hb
  obtain ⟨hsame, hregions⟩ := hb
  have hblocks : b.blocks = a.blocks := by rw [blocks, blocks, hregions, hsame]
  have hnext : b.next = a.next := by rw [hsame]
  have hlimit : b.limit = a.limit := by rw [hsame]
  have hallocated : b.allocated = a.allocated := by rw [hsame]
  refine ⟨?_, hlimit.trans h.bounded, ?_, hkept.balanced, hkept.sized⟩
  · rw [hnext, hblocks]
    exact h.cut
  · rw [hnext, hblocks, hallocated]
    exact h.within

/-- The window of an allocator is cut up whatever was done with it. -/
theorem Reachable.partitioned (h : a.Reachable) : ∃ base limit, a.Partitioned base limit := by
  induction h with
  | new origin base limit => exact ⟨base, limit, .new origin base limit⟩
  | @allocate a size _ ih =>
    obtain ⟨base, limit, hcut⟩ := ih
    refine ⟨base, limit, ?_⟩
    rw [a.allocate_eq_allocateIf]
    exact hcut.allocateIf _ size
  | release r _ ih =>
    obtain ⟨base, limit, hcut⟩ := ih
    exact ⟨base, limit, hcut.release r⟩
  | busWrite _ hwrite ih =>
    obtain ⟨base, limit, hcut⟩ := ih
    exact ⟨base, limit, hcut.overwritten (overwritten_busWrite hwrite)⟩
  | write _ hwrite ih =>
    obtain ⟨base, limit, hcut⟩ := ih
    exact ⟨base, limit, hcut.overwritten (overwritten_write hwrite)⟩
  | clear r _ ih =>
    obtain ⟨base, limit, hcut⟩ := ih
    exact ⟨base, limit, hcut.overwritten (overwritten_clear _ r)⟩

/-- Live regions end where the window ends, or before. -/
theorem Reachable.end_le_limit (h : a.Reachable) {r : Region} (hr : r ∈ a.regions) : r.bus + r.size ≤ a.limit := by
  obtain ⟨base, limit, hcut⟩ := h.partitioned
  have hblock : r.segment ∈ a.blocks := List.mem_append_left _ (List.mem_map_of_mem hr)
  have hinside : r.bus + r.size ≤ a.next := (hcut.cut.inside hblock).2
  have hwithin := hcut.within.resolve_right fun hunused => List.ne_nil_of_mem hblock hunused.2.2
  rw [hcut.bounded]
  omega

/-! ## Requests of one size, one after the other -/

/-- The regions that the next `n` requests for `size` bytes get, up to the first request that fails. -/
def served (size : Nat) : Nat → Allocator → List Region
  | 0, _ => []
  | n + 1, a =>
    match a.allocate size with
    | (.ok r, b) => r :: served size n b
    | (.error _, _) => []

/-- A request that succeeds is the first of those that are served. -/
theorem served_of_ok {size : Nat} {r : Region} (h : a.allocate size = (.ok r, b)) (n : Nat) :
    a.served size (n + 1) = r :: b.served size n := by rw [served, h]

/-- After a request that fails none is served. -/
theorem served_of_error {size : Nat} {e : PlatformError} (h : a.allocate size = (.error e, b)) (n : Nat) :
    a.served size n = [] := by
  cases n with
  | zero => rfl
  | succ n => rw [served, h]

/-- The regions that are served are large enough, and can all be live at once. -/
theorem Reachable.exists_served (ha : a.Reachable) (size n : Nat) :
    ∃ b : Allocator, b.Reachable ∧ b.limit = a.limit ∧ (∀ r ∈ a.served size n, r ∈ b.regions ∧ size ≤ r.size) ∧
      a.regions ⊆ b.regions := by
  induction n generalizing a with
  | zero => exact ⟨a, ha, rfl, nofun, List.Subset.refl _⟩
  | succ n ih =>
    have hnext := ha.allocate size
    cases hresult : a.allocate size with
    | mk result c =>
      cases result with
      | error e =>
        rw [served_of_error hresult]
        exact ⟨a, ha, rfl, nofun, List.Subset.refl _⟩
      | ok r =>
        rw [hresult] at hnext
        obtain ⟨-, hlive, hroomy⟩ := allocate_ok a c size r ha.accounted.wellFormed hresult
        have hregions : c.regions = r :: a.regions := by rw [regions, hlive, List.map_cons, regions]
        have hlimit : c.limit = a.limit := by
          obtain ⟨-, bus, d, hreserve, -, rfl⟩ := exists_reserve_of_allocate hresult
          rw [reserve_eq hreserve]
        obtain ⟨b, hb, hbounded, hserved, hkept⟩ := ih hnext
        rw [served_of_ok hresult]
        refine ⟨b, hb, hbounded.trans hlimit, ?_, fun s hs => hkept (hregions ▸ List.mem_cons_of_mem _ hs)⟩
        intro s hs
        rcases List.mem_cons.mp hs with rfl | hs
        · exact ⟨hkept (hregions ▸ List.mem_cons_self), hroomy⟩
        · exact hserved s hs

/-- At most one of the regions that are served crosses the end of the addresses of the card. -/
theorem Reachable.eq_of_crosses (ha : a.Reachable) {size n : Nat} {r s : Region} (hr : r ∈ a.served size n)
    (hs : s ∈ a.served size n) (hrc : r.Crosses size) (hsc : s.Crosses size) : r = s := by
  obtain ⟨b, hb, -, hserved, -⟩ := ha.exists_served size n
  obtain ⟨hrlive, hrsize⟩ := hserved r hr
  obtain ⟨hslive, hssize⟩ := hserved s hs
  -- Both regions hold the last address that the card can name.
  have hlast {t : Region} (ht : t.Crosses size) (hroomy : size ≤ t.size) : t.Spans (wordSpan - 1) 1 := by
    unfold Region.Crosses at ht
    constructor <;> omega
  exact hb.accounted.wellFormed.region_eq_of_spans hrlive hslive (hlast hrc hrsize) (hlast hsc hssize)

/-- The regions that are served lie below the end of the window. -/
theorem Reachable.served_le_limit (ha : a.Reachable) {size n : Nat} {r : Region} (hr : r ∈ a.served size n) :
    r.bus + size ≤ a.limit := by
  obtain ⟨b, hb, hlimit, hserved, -⟩ := ha.exists_served size n
  obtain ⟨hlive, hroomy⟩ := hserved r hr
  have hend := hb.end_le_limit hlive
  omega

end Allocator

namespace BufferPool

/-- The card can name the start of a region. -/
def Starts (r : Region) : Prop := r.bus < wordSpan ∧ r.bus % 4 = 0

/-- What comes of adding `n` buffers to the pool `p` when requests for their regions would be served by `rs`. -/
inductive Growth (p : BufferPool) (n : Nat) (rs : List Region) : Except CardError BufferPool → Prop
  | whole (q : BufferPool) :
      q.buffers.toList.map Buffer.region = p.buffers.toList.map Buffer.region ++ rs → rs.length = n →
        (∀ r ∈ rs, Starts r) → Growth p n rs (.ok q)
  /-- The start of a region is out of reach. -/
  | rejected : (∃ r ∈ rs, ¬ Starts r) → Growth p n rs (.error (.platform .invalidArgument))
  /-- There are not enough regions. -/
  | short (e : PlatformError) : rs.length < n → (∀ r ∈ rs, Starts r) → Growth p n rs (.error (.ofPlatform e))

variable {p : BufferPool} {a b : Allocator}

/-- A region whose start the card can name becomes a buffer. -/
theorem allocateOne_of_starts {r : Region} (h : a.allocate p.bufferSize = (.ok r, b)) (hstarts : Starts r) :
    p.allocateOne a =
      (.ok { p with buffers := p.buffers.push ⟨r, BitVec.ofNat 32 r.bus, p.bufferSize, FrameMeta.blank⟩ }, b, []) := by
  have hreach : reachable? r = some (BitVec.ofNat 32 r.bus) := if_pos hstarts
  simp only [allocateOne, h, hreach]

/-- A region whose start the card cannot name is refused. -/
theorem allocateOne_of_not_starts {r : Region} (h : a.allocate p.bufferSize = (.ok r, b)) (hfar : ¬ Starts r) :
    (p.allocateOne a).1 = .error (.platform .invalidArgument) := by
  have hreach : reachable? r = none := if_neg hfar
  simp only [allocateOne, h, hreach]

/-- Growing stops with the first buffer that does not come. -/
theorem grow_of_error {e : CardError} (h : (p.allocateOne a).1 = .error e) (n : Nat) :
    (grow (n + 1) p a).1 = .error e := by
  rcases hone : p.allocateOne a with ⟨result, c, lines⟩
  rw [hone] at h
  obtain rfl : result = .error e := h
  simp only [grow, hone]

/-- Growing goes on with each buffer that comes. -/
theorem grow_of_ok {q : BufferPool} {lines : List Line} (h : p.allocateOne a = (.ok q, b, lines)) (n : Nat) :
    (grow (n + 1) p a).1 = (grow n q b).1 := by simp only [grow, h]

/-- A pool grows by the regions that requests get, as far as the card can name their starts. -/
theorem growth_grow (n : Nat) (p : BufferPool) (a : Allocator) :
    Growth p n (a.served p.bufferSize n) (grow n p a).1 := by
  induction n generalizing p a with
  | zero => exact .whole p (List.append_nil _).symm rfl nofun
  | succ n ih =>
    rcases hresult : a.allocate p.bufferSize with ⟨_ | r, b⟩
    · rename_i e
      have hone : (p.allocateOne a).1 = .error (.ofPlatform e) := by simp only [allocateOne, hresult]
      rw [grow_of_error hone, Allocator.served_of_error hresult]
      exact .short e (Nat.succ_pos n) nofun
    · rw [Allocator.served_of_ok hresult]
      by_cases hstarts : Starts r
      · rw [grow_of_ok (allocateOne_of_starts hresult hstarts)]
        have hrest := ih { p with
          buffers := p.buffers.push ⟨r, BitVec.ofNat 32 r.bus, p.bufferSize, FrameMeta.blank⟩ } b
        generalize hgrown : (grow n _ b).1 = result at hrest
        cases hrest with
        | whole q hregions hlength hall =>
          refine .whole q ?_ (congrArg (· + 1) hlength) (List.forall_mem_cons.mpr ⟨hstarts, hall⟩)
          rw [hregions, Array.toList_push, List.map_append, List.append_assoc]
          rfl
        | rejected hfar =>
          obtain ⟨s, hs, hfar⟩ := hfar
          exact .rejected ⟨s, List.mem_cons_of_mem _ hs, hfar⟩
        | short e hlength hall =>
          exact .short e (Nat.succ_lt_succ hlength) (List.forall_mem_cons.mpr ⟨hstarts, hall⟩)
      · rw [grow_of_error (allocateOne_of_not_starts hresult hstarts)]
        exact .rejected ⟨r, List.mem_cons_self, hstarts⟩

/-- A pool that was allocated has grown from nothing, and its table could be laid out. -/
theorem grow_of_allocate {direction : Direction} {count size : Nat} {lines : List Line}
    (h : allocate direction count size a = (.ok p, b, lines)) :
    canHold count size = true ∧ (grow count (empty direction size) a).1 = .ok p := by
  obtain ⟨hroom, _, hgrow⟩ := exists_grow_of_allocate h
  exact ⟨hroom, congrArg Prod.fst hgrow⟩

/-- What the card reaches of a pool of `count` buffers of `size` bytes that is allocated from `a`. -/
structure Reach (a : Allocator) (direction : Direction) (count size : Nat) : Prop where
  /-- There is a pool if requests are served by as many regions as it has buffers, and the card can name where
  each of them starts. -/
  granted : (∃ p b lines, allocate direction count size a = (.ok p, b, lines)) ↔
    canHold count size = true ∧ (a.served size count).length = count ∧ ∀ r ∈ a.served size count, Starts r
  /-- The buffers lie in these regions. All of a buffer is reached, unless its region crosses the end of what the
  card can name. -/
  pool : ∀ p b lines, allocate direction count size a = (.ok p, b, lines) →
    p.buffers.toList.map Buffer.region = a.served size count ∧
      ∀ x ∈ p.buffers.toList, x.size = size ∧ x.addr.toNat = x.region.bus ∧
        (x.addr.toNat + size ≤ wordSpan ∨ x.region.Crosses size)
  /-- A pool with any other buffer out of reach is refused, and nothing of it is left. -/
  refused : canHold count size = true → (∃ r ∈ a.served size count, wordSpan < r.bus + size ∧ ¬ r.Crosses size) →
    ∃ b lines, allocate direction count size a = (.error (.failed (.platform .invalidArgument)), b, lines) ∧
      Unwound a b direction count (.platform .invalidArgument) lines
  single : ∀ r ∈ a.served size count, ∀ s ∈ a.served size count, r.Crosses size → s.Crosses size → r = s
  bounded : a.limit ≤ wordSpan → ∀ r ∈ a.served size count, r.bus + size ≤ wordSpan

/-- Every buffer of a pool is reached completely with 32 address bits, and a pool with a buffer that would not be
is refused and undone. The exception is the one buffer of a pool that may start below the end of these addresses
and end beyond: where it starts is checked and where it ends is not. -/
theorem reach_of_allocate (a : Allocator) (ha : a.Reachable) (direction : Direction) (count size : Nat) :
    Reach a direction count size := by
  have hgrowth := growth_grow count (empty direction size) a
  constructor
  case granted =>
    constructor
    · rintro ⟨p, b, lines, hdone⟩
      obtain ⟨hroom, hgrow⟩ := grow_of_allocate hdone
      rw [hgrow] at hgrowth
      cases hgrowth with
      | whole _ _ hlength hall => exact ⟨hroom, hlength, hall⟩
    · rintro ⟨hroom, hlength, hall⟩
      rw [allocate, if_pos hroom]
      rcases hresult : grow count (empty direction size) a with ⟨result, b, lines⟩
      rw [hresult] at hgrowth
      cases hgrowth with
      | whole q _ _ _ => exact ⟨q, b, _, rfl⟩
      | rejected hfar =>
        obtain ⟨r, hr, hfar⟩ := hfar
        exact absurd (hall r hr) hfar
      | short e hshort _ => exact absurd hlength (Nat.ne_of_lt hshort)
  case pool =>
    intro p b lines hdone
    obtain ⟨-, hgrow⟩ := grow_of_allocate hdone
    have hgranted := granted_allocate ha hdone
    rw [hgrow] at hgrowth
    cases hgrowth with
    | whole _ hregions _ _ =>
      refine ⟨hregions, fun x hx => ?_⟩
      obtain ⟨hstart, hbelow, -⟩ := hgranted.reached x hx
      refine ⟨(hgranted.within x hx).1, hstart, ?_⟩
      unfold Region.Crosses
      omega
  case refused =>
    rintro hroom ⟨r, hr, hbeyond, hwhole⟩
    have hfar : ¬ Starts r := fun hstarts => hwhole ⟨hstarts.1, hbeyond⟩
    rcases hresult : grow count (empty direction size) a with ⟨result, b, lines⟩
    rw [hresult] at hgrowth
    cases hgrowth with
    | whole _ _ _ hall => exact absurd (hall r hr) hfar
    | short _ _ hall => exact absurd (hall r hr) hfar
    | rejected _ =>
      have hdone : allocate direction count size a = (.error (.failed (.platform .invalidArgument)), b, lines) := by
        rw [allocate, if_pos hroom, hresult]
      exact ⟨b, lines, hdone, unwound_allocate ha hdone⟩
  case single => exact fun r hr s hs hrc hsc => ha.eq_of_crosses hr hs hrc hsc
  case bounded => exact fun hlimit r hr => Nat.le_trans (ha.served_le_limit hr) hlimit

/-- The last two pages that the card can name, and pages behind them. -/
def lastPages : Allocator := .new 0 0xFFFFE000 0x200000000

/-- There is room for two buffers. With a third all are given back. -/
theorem reach_of_allocate_lastPages :
    (∃ p b lines, allocate .tx 2 8 lastPages = (.ok p, b, lines) ∧ p.addrs = [0xFFFFE000#32, 0xFFFFF000#32] ∧
      ∀ x ∈ p.buffers.toList, x.addr.toNat + 8 ≤ wordSpan) ∧
      ∃ b lines, allocate .tx 3 8 lastPages = (.error (.failed (.platform .invalidArgument)), b, lines) ∧
        Unwound lastPages b .tx 3 (.platform .invalidArgument) lines := by
  have hreachable : lastPages.Reachable := .new _ _ _
  obtain ⟨hserved, hreached⟩ := (reach_of_allocate lastPages hreachable .tx 2 8).pool _ _ _ rfl
  have hnone : ∀ r ∈ lastPages.served 8 2, ¬ r.Crosses 8 := by unfold Region.Crosses; decide
  refine ⟨⟨_, _, _, rfl, rfl, fun x hx => ?_⟩, ?_⟩
  · exact (hreached x hx).2.2.resolve_right (hnone _ (hserved ▸ List.mem_map_of_mem hx))
  · -- The third buffer would start behind the last page that the card can name.
    have hthird : ∃ r ∈ lastPages.served 8 3, wordSpan < r.bus + 8 ∧ ¬ r.Crosses 8 := by
      unfold Region.Crosses
      decide
    exact (reach_of_allocate lastPages hreachable .tx 3 8).refused (by decide) hthird

/-- A pool with a buffer that goes on beyond what the card can name is not refused. -/
theorem allocate_crosses :
    ∃ p b lines, allocate .tx 1 8192 (.new 0 0xFFFFF000 0x200000000) = (.ok p, b, lines) ∧
      ∃ x ∈ p.buffers.toList, wordSpan < x.addr.toNat + x.size :=
  ⟨_, _, _, rfl, _, List.mem_singleton_self _, by decide⟩

end BufferPool

end LaneCard
