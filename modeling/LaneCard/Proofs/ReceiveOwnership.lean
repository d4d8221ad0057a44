import LaneCard.Proofs.Attach
import LaneCard.Proofs.Handler
import LaneCard.Proofs.Reception
import LaneCard.Proofs.Ring
import LaneCard.Proofs.Transmission

/-!
# Who has a receive buffer

A receive buffer is in the free list of a lane, in the FIFO of received frames, in the ring of
readable frames, or taken out of the card by hand. As long as it is in one of these places only, the
handler cannot overwrite what is known of an unread frame, and a frame that it files is either added
behind those to be read or given straight back to the list of its lane.
-/

namespace LaneCard

/-! ## Free lists -/

/-- The buffers in the free lists of all lanes, one lane after the other. -/
def allFree (free : Nat → List Word) : List Word := (List.range laneCount).flatMap free

/-- A buffer is free on some lane. -/
theorem mem_allFree {free : Nat → List Word} {addr : Word} :
    addr ∈ allFree free ↔ ∃ lane < laneCount, addr ∈ free lane := by
  simp [allFree]

/-- The card has free buffers of the pool only. -/
theorem Holdings.Sound.mem_addrs_of_mem_allFree {H : Holdings} (h : H.Sound) {addr : Word}
    (haddr : addr ∈ allFree H.free) : addr ∈ H.rxPool.addrs := by
  obtain ⟨lane, -, hmem⟩ := mem_allFree.mp haddr
  exact h.known lane addr hmem

/-- Replacing one of the lists of a range changes the count by that list. -/
theorem count_flatMap_update {n k : Nat} (hk : k < n) (free : Nat → List Word) (list : List Word) (addr : Word) :
    ((List.range n).flatMap (Function.update free k list)).count addr + (free k).count addr =
      ((List.range n).flatMap free).count addr + list.count addr := by
  induction n with
  | zero => contradiction
  | succ n ih =>
    simp only [List.range_succ, List.flatMap_append, List.flatMap_cons, List.flatMap_nil, List.append_nil,
      List.count_append]
    rcases Nat.lt_succ_iff_lt_or_eq.mp hk with hlt | rfl
    · have hlast : Function.update free k list n = free n := Function.update_of_ne (by omega) _ _
      have hrest := ih hlt
      rw [hlast]
      omega
    · have hfirst : (List.range k).flatMap (Function.update free k list) = (List.range k).flatMap free := by
        apply List.flatMap_congr
        intro i hi
        exact Function.update_of_ne (Nat.ne_of_lt (List.mem_range.mp hi)) _ _
      rw [hfirst, Function.update_self]
      omega

/-- Taking the first buffer off a list takes it out of the free lists. -/
theorem count_allFree_take {free : Nat → List Word} {lane : Nat} {first : Word} {rest : List Word}
    (hlane : lane < laneCount) (hlist : free lane = first :: rest) (addr : Word) :
    (allFree (Function.update free lane rest)).count addr + [first].count addr = (allFree free).count addr := by
  have hcount := count_flatMap_update hlane free rest addr
  rw [hlist, ← List.singleton_append, List.count_append] at hcount
  unfold allFree
  omega

/-- Giving buffers back adds them to the free lists. -/
theorem count_allFree_returnTo (free : Nat → List Word) (descs : List RxDescriptor) (addr : Word) :
    (allFree (returnTo free descs)).count addr =
      (allFree free).count addr + (descs.map RxDescriptor.addr).count addr := by
  induction descs generalizing free with
  | nil => rw [returnTo_nil, List.map_nil, List.count_nil, Nat.add_zero]
  | cons d rest ih =>
    have hlane : d.lane.toNat % laneCount < laneCount := Nat.mod_lt _ (by decide)
    have hone := count_flatMap_update hlane free (free (d.lane.toNat % laneCount) ++ [d.addr]) addr
    rw [← returnTo_singleton, List.count_append] at hone
    have hsplit : returnTo free (d :: rest) = returnTo (returnTo free [d]) rest :=
      (returnTo_append free [d] rest).symm
    have haddrs : (d :: rest).map RxDescriptor.addr = [d.addr] ++ rest.map RxDescriptor.addr := rfl
    rw [hsplit, ih, haddrs, List.count_append]
    unfold allFree at *
    omega

/-! ## Readable frames -/

namespace Holdings

/-- The addresses of frames do not depend on what is known of them. -/
theorem map_addr_framesIn (H : Holdings) (indices : List Nat) :
    (H.framesIn indices).map RxDescriptor.addr = indices.filterMap fun i => H.rxPool.addrs[i]? := by
  rw [framesIn, List.map_filterMap]
  apply List.filterMap_congr
  intro i _
  rw [BufferPool.getElem?_addrs, Option.map_map]
  rfl

/-- Recording a frame in a buffer changes the frames in other buffers in no way. -/
theorem framesIn_setFrame (H : Holdings) (i : Nat) (frame : FrameMeta) (indices : List Nat)
    (hi : i ∉ indices) :
    framesIn { H with rxPool := H.rxPool.setFrame i frame } indices = H.framesIn indices := by
  apply List.filterMap_congr
  intro k hk
  have hother : i ≠ k := fun hsame => hi (hsame ▸ hk)
  rw [BufferPool.getElem?_setFrame, if_neg hother]

/-- The oldest frame is that in the buffer at the head of the ring. -/
theorem unread_eq_cons {H : Holdings} {i : Nat} {b : Buffer} (hi : H.rxReady.peek? = some i)
    (hb : H.rxPool.buffers[i]? = some b) :
    H.unread = ⟨b.frame, b.addr⟩ :: H.framesIn H.rxReady.drop.toList := by
  rw [Ring.peek?_eq_head?] at hi
  obtain ⟨rest, hlist⟩ := List.head?_eq_some_iff.mp hi
  have hsplit : H.framesIn (i :: rest) = H.framesIn [i] ++ H.framesIn rest := H.framesIn_append [i] rest
  rw [unread, Ring.toList_drop, hlist, List.tail_cons, hsplit, H.framesIn_singleton hb]
  rfl

end Holdings

/-- Among distinct addresses, counting an address is counting its number. -/
theorem count_filterMap_getElem? {addrs : List Word} (hdistinct : addrs.Nodup) {i : Nat} {addr : Word}
    (hi : addrs[i]? = some addr) (indices : List Nat) :
    (indices.filterMap fun k => addrs[k]?).count addr = indices.count i := by
  induction indices with
  | nil => rfl
  | cons k rest ih =>
    by_cases hsame : k = i
    · rw [hsame, List.filterMap_cons_some hi, List.count_cons_self, List.count_cons_self, ih]
    · rw [List.count_cons_of_ne hsame, ← ih]
      cases hk : addrs[k]? with
      | none => rw [List.filterMap_cons_none hk]
      | some other =>
        rw [List.filterMap_cons_some hk, List.count_cons_of_ne]
        rintro rfl
        exact hsame ((List.getElem?_inj (List.getElem?_eq_some_iff.mp hk).1 hdistinct).mp (by rw [hk, hi]))

/-! ## One place for each buffer -/

namespace Holdings

/-- All places of receive buffers, with those that were taken out by hand. -/
def rxPlaces (H : Holdings) (taken : List Word) : List Word :=
  allFree H.free ++ H.rxReturns.map RxDescriptor.wordAddr ++ H.unread.map RxDescriptor.addr ++ taken

/-- Each receive buffer is in one place only. -/
structure RxOwned (H : Holdings) (taken : List Word) : Prop where
  once : ∀ addr ∈ H.rxPool.addrs, (H.rxPlaces taken).count addr = 1
  inRange : ∀ i ∈ H.rxReady.toList, i < H.rxPool.addrs.length
  /-- The FIFO holds descriptors only. -/
  valid : ∀ pair ∈ H.rxReturns, ∃ d, RxDescriptor.decode? pair.1 pair.2 = some d
  capacity : H.rxReady.capacity = H.rxPool.addrs.length
  collisions : H.rxReady.collisions = 0

/-- Counting the places of a buffer. -/
theorem count_rxPlaces (H : Holdings) (taken : List Word) (addr : Word) :
    (H.rxPlaces taken).count addr =
      (allFree H.free).count addr + (H.rxReturns.map RxDescriptor.wordAddr).count addr +
        (H.unread.map RxDescriptor.addr).count addr + taken.count addr := by
  rw [rxPlaces, List.count_append, List.count_append, List.count_append]

namespace RxOwned

variable {H : Holdings} {taken : List Word}

/-- No number is in the ring of readable frames twice. -/
theorem nodup (h : H.RxOwned taken) (hdistinct : H.rxPool.addrs.Nodup) : H.rxReady.toList.Nodup := by
  rw [List.nodup_iff_count_le_one]
  intro i
  by_cases hi : i < H.rxPool.addrs.length
  · have haddr : H.rxPool.addrs[i]? = some H.rxPool.addrs[i] := List.getElem?_eq_getElem hi
    have hone := h.once _ (List.mem_of_getElem? haddr)
    rw [count_rxPlaces, unread, map_addr_framesIn, count_filterMap_getElem? hdistinct haddr] at hone
    omega
  · rw [List.count_eq_zero.mpr fun hmem => hi (h.inRange i hmem)]
    omega

/-- There is room for every buffer in the ring. -/
theorem room (h : H.RxOwned taken) (hdistinct : H.rxPool.addrs.Nodup) :
    H.rxReady.length ≤ H.rxReady.capacity := by
  have hsub : H.rxReady.toList ⊆ List.range H.rxPool.addrs.length :=
    fun i hi => List.mem_range.mpr (h.inRange i hi)
  have hle := (List.subperm_of_subset (h.nodup hdistinct) hsub).length_le
  rwa [Ring.length_toList, List.length_range, ← h.capacity] at hle

/-- The buffer of an unread frame is not offered to the card. -/
theorem not_free_of_unread (h : H.RxOwned taken) {d : RxDescriptor} (hd : d ∈ H.unread) :
    d.addr ∉ allFree H.free := by
  intro hfree
  have hone := h.once d.addr (addr_mem_of_mem_framesIn hd)
  have hfirst := List.count_pos_iff.mpr hfree
  have hsecond := List.count_pos_iff.mpr (List.mem_map_of_mem (f := RxDescriptor.addr) hd)
  rw [count_rxPlaces] at hone
  omega

/-- There are as many readable frames as numbers in the ring. -/
theorem length_unread (h : H.RxOwned taken) : H.unread.length = H.rxReady.length := by
  have hall (indices : List Nat) (hindices : ∀ i ∈ indices, i < H.rxPool.addrs.length) :
      ((H.framesIn indices).map RxDescriptor.addr).length = indices.length := by
    rw [map_addr_framesIn]
    induction indices with
    | nil => rfl
    | cons i rest ih =>
      have hi := List.getElem?_eq_getElem (hindices i List.mem_cons_self)
      rw [List.filterMap_cons_some hi, List.length_cons, List.length_cons,
        ih fun k hk => hindices k (List.mem_cons_of_mem _ hk)]
  have hlength := hall H.rxReady.toList h.inRange
  rwa [List.length_map, Ring.length_toList] at hlength

/-- If no frame is on its way and no buffer is out of the card, each is free or to be read. -/
theorem length_add_length (h : H.RxOwned []) (hdistinct : H.rxPool.addrs.Nodup)
    (hknown : ∀ addr ∈ allFree H.free, addr ∈ H.rxPool.addrs) (hreturns : H.rxReturns = []) :
    (allFree H.free).length + H.unread.length = H.rxPool.addrs.length := by
  have hperm : (allFree H.free ++ H.unread.map RxDescriptor.addr).Perm H.rxPool.addrs := by
    rw [List.perm_iff_count]
    intro addr
    by_cases haddr : addr ∈ H.rxPool.addrs
    · have hone := h.once addr haddr
      rw [count_rxPlaces, hreturns, List.map_nil, List.count_nil] at hone
      rw [List.count_append, List.count_eq_one_of_mem hdistinct haddr]
      omega
    · rw [List.count_eq_zero.mpr haddr, List.count_eq_zero]
      intro hmem
      rcases List.mem_append.mp hmem with hfree | hunread
      · exact haddr (hknown addr hfree)
      · obtain ⟨d, hd, rfl⟩ := List.mem_map.mp hunread
        exact haddr (addr_mem_of_mem_framesIn hd)
  have hlength := hperm.length_eq
  rwa [List.length_append, List.length_map] at hlength

/-- The free buffer at the front of a lane may be taken out by hand. -/
theorem lift (h : H.RxOwned taken) {lane : Nat} {addr : Word} {rest : List Word} (hlane : lane < laneCount)
    (hlist : H.free lane = addr :: rest) :
    RxOwned { H with free := Function.update H.free lane rest } (taken ++ [addr]) :=
  { h with
    once := fun a ha => by
      have hone := h.once a ha
      have hfree := count_allFree_take hlane hlist a
      rw [count_rxPlaces] at hone ⊢
      rw [List.count_append]
      change (allFree (Function.update H.free lane rest)).count a +
        (H.rxReturns.map RxDescriptor.wordAddr).count a + (H.unread.map RxDescriptor.addr).count a + _ = 1
      omega }

/-- A descriptor may come in for a buffer that was taken out, or for memory that is no buffer. -/
theorem inject (h : H.RxOwned taken) {desc : RxDescriptor}
    (hdesc : desc.target ∈ taken ∨ desc.target ∉ H.rxPool.addrs) :
    RxOwned { H with rxReturns := H.rxReturns ++ [desc.encode] } (taken.erase desc.target) :=
  { h with
    once := fun a ha => by
      have hone := h.once a ha
      rw [count_rxPlaces] at hone ⊢
      change (allFree H.free).count a + ((H.rxReturns ++ [desc.encode]).map RxDescriptor.wordAddr).count a +
        (H.unread.map RxDescriptor.addr).count a + (taken.erase desc.target).count a = 1
      rw [List.map_append, List.count_append, List.map_cons, List.map_nil, RxDescriptor.wordAddr_encode,
        List.count_singleton, List.count_erase]
      by_cases hsame : desc.target = a
      · have hpos : 0 < taken.count a := by
          rw [List.count_pos_iff, ← hsame]
          exact hdesc.resolve_right (not_not_intro (hsame ▸ ha))
        simp only [hsame, beq_self_eq_true, if_true]
        omega
      · simp only [beq_iff_eq, hsame, if_false]
        omega
    valid := fun pair hpair => by
      rcases List.mem_append.mp hpair with hold | hnew
      · exact h.valid pair hold
      · obtain rfl := List.mem_singleton.mp hnew
        exact ⟨_, desc.decode?_encode⟩ }

/-- The order of what was taken out does not matter. -/
theorem perm (h : H.RxOwned taken) {taken' : List Word} (hperm : taken.Perm taken') : H.RxOwned taken' :=
  { h with
    once := fun a ha => by
      have hone := h.once a ha
      rw [count_rxPlaces] at hone ⊢
      rwa [← hperm.count_eq] }

/-- The card may store a frame in the free buffer at the front of a lane. -/
theorem store (h : H.RxOwned taken) {lane : Nat} {desc : RxDescriptor} {rest : List Word}
    (hlane : lane < laneCount) (hlist : H.free lane = desc.target :: rest) :
    RxOwned
      { H with free := Function.update H.free lane rest, rxReturns := H.rxReturns ++ [desc.encode] } taken := by
  have hout : desc.target ∈ taken ++ [desc.target] := List.mem_append_right _ List.mem_cons_self
  have hlifted := (h.lift hlane hlist).inject (.inl hout)
  -- What is taken out and comes in at once is not out.
  have hperm : ((taken ++ [desc.target]).erase desc.target).Perm taken := by
    have hcons := (List.perm_append_singleton desc.target taken).erase desc.target
    rwa [List.erase_cons_head] at hcons
  exact hlifted.perm hperm

/-- The oldest frame may be taken. -/
theorem consume (h : H.RxOwned taken) {i : Nat} {b : Buffer} (hi : H.rxReady.peek? = some i)
    (hb : H.rxPool.buffers[i]? = some b) : (H.consumed ⟨b.frame, b.addr⟩).RxOwned taken where
  once a ha := by
    have hone := h.once a ha
    have hunread : (H.consumed ⟨b.frame, b.addr⟩).unread = H.framesIn H.rxReady.drop.toList := rfl
    have hfree : (H.consumed ⟨b.frame, b.addr⟩).free = returnTo H.free [⟨b.frame, b.addr⟩] := rfl
    have hreturns : (H.consumed ⟨b.frame, b.addr⟩).rxReturns = H.rxReturns := rfl
    have hgiven := count_allFree_returnTo H.free [⟨b.frame, b.addr⟩] a
    rw [count_rxPlaces, unread_eq_cons hi hb, ← List.singleton_append, List.map_append, List.count_append] at hone
    rw [count_rxPlaces, hunread, hfree, hreturns]
    omega
  inRange k hk := by
    apply h.inRange k
    have hdrop : k ∈ H.rxReady.drop.toList := hk
    rw [Ring.toList_drop] at hdrop
    exact List.mem_of_mem_tail hdrop
  valid := h.valid
  capacity := (Ring.drop_capacity _).trans h.capacity
  collisions := (Ring.drop_collisions _).trans h.collisions

/-- The session may end. -/
theorem close (h : H.RxOwned taken) {ring : Ring} (hempty : ring.toList = [])
    (hcapacity : ring.capacity = H.rxReady.capacity) (hcollisions : ring.collisions = H.rxReady.collisions) :
    (H.closed ring).RxOwned taken where
  once a ha := by
    have hone := h.once a ha
    have hunread : (H.closed ring).unread = [] := by
      change H.framesIn ring.toList = []
      rw [hempty]
      rfl
    have hfree : (H.closed ring).free = returnTo H.free H.unread := rfl
    have hreturns : (H.closed ring).rxReturns = H.rxReturns := rfl
    have hgiven := count_allFree_returnTo H.free H.unread a
    rw [count_rxPlaces] at hone
    rw [count_rxPlaces, hunread, hfree, hreturns, List.map_nil, List.count_nil]
    omega
  inRange k hk := by
    have hnone : k ∈ ring.toList := hk
    rw [hempty] at hnone
    contradiction
  valid := h.valid
  capacity := hcapacity.trans h.capacity
  collisions := hcollisions.trans h.collisions

end RxOwned

/-! ## Filing received frames -/

/-- The handler filed frames with the given descriptors: it added them behind those to be read, or
gave their buffers back and counted them if nobody was there to read them. -/
structure Filed (H : Holdings) (descs : List RxDescriptor) (H' : Holdings) : Prop where
  isOpen : H'.isOpen = H.isOpen
  addrs : H'.rxPool.addrs = H.rxPool.addrs
  unread : H'.unread = if H.isOpen then H.unread ++ descs else H.unread
  free : H'.free = if H.isOpen then H.free else returnTo H.free descs
  dropped : H'.dropped = if H.isOpen then H.dropped else H.dropped + descs.length

/-- Filing nothing changes nothing. -/
theorem Filed.refl (H : Holdings) : H.Filed [] H where
  isOpen := rfl
  addrs := rfl
  unread := by rw [List.append_nil, ite_self]
  free := by rw [returnTo_nil, ite_self]
  dropped := by rw [List.length_nil, Nat.add_zero, ite_self]

/-- Frames may be filed one after the other. -/
theorem Filed.trans {H H' H'' : Holdings} {ds es : List RxDescriptor} (h : H.Filed ds H')
    (h' : H'.Filed es H'') : H.Filed (ds ++ es) H'' where
  isOpen := h'.isOpen.trans h.isOpen
  addrs := h'.addrs.trans h.addrs
  unread := by
    rw [h'.unread, h.unread, h.isOpen]
    split
    · rw [List.append_assoc]
    · rfl
  free := by
    rw [h'.free, h.free, h.isOpen]
    split
    · rfl
    · rw [returnTo_append]
  dropped := by
    rw [h'.dropped, h.dropped, h.isOpen]
    split
    · rfl
    · rw [List.length_append, Nat.add_assoc]

/-- Whether a descriptor is matched depends on the addresses of the pool only. -/
theorem matched?_eq {H H' : Holdings} (haddrs : H'.rxPool.addrs = H.rxPool.addrs) : H'.matched? = H.matched? := by
  have hfound (addr : Word) : (H'.rxPool.find? addr).isSome = (H.rxPool.find? addr).isSome := by
    have hnone : H'.rxPool.find? addr = none ↔ H.rxPool.find? addr = none := by
      rw [BufferPool.find?_eq_none_iff, BufferPool.find?_eq_none_iff, haddrs]
    cases hfirst : H.rxPool.find? addr with
    | none => rw [hnone.mpr hfirst]
    | some i =>
      cases hsecond : H'.rxPool.find? addr with
      | none => rw [hnone.mp hsecond] at hfirst; contradiction
      | some k => rfl
  funext pair
  simp only [matched?, hfound]

/-- A frame that matches no buffer is passed over. -/
theorem RxOwned.skip {H : Holdings} {taken : List Word} {pair : Word × Word} {rest : List (Word × Word)}
    (h : H.RxOwned taken) (hlist : H.rxReturns = pair :: rest)
    (hunknown : RxDescriptor.wordAddr pair ∉ H.rxPool.addrs) :
    RxOwned { H with rxReturns := rest } taken :=
  { h with
    once := fun a ha => by
      have hone := h.once a ha
      have hother : RxDescriptor.wordAddr pair ≠ a := fun hsame => hunknown (hsame ▸ ha)
      rw [count_rxPlaces, hlist, List.map_cons, List.count_cons_of_ne hother] at hone
      rw [count_rxPlaces]
      exact hone
    valid := fun p hp => h.valid p (hlist ▸ List.mem_cons_of_mem _ hp) }

/-- A frame for a card that nobody has open goes straight back. -/
theorem RxOwned.giveBack {H : Holdings} {taken : List Word} {pair : Word × Word} {rest : List (Word × Word)}
    (h : H.RxOwned taken) (hlist : H.rxReturns = pair :: rest) {d : RxDescriptor}
    (haddr : d.addr = RxDescriptor.wordAddr pair) :
    RxOwned { H with rxReturns := rest, free := returnTo H.free [d], dropped := H.dropped + 1 } taken :=
  { h with
    once := fun a ha => by
      have hone := h.once a ha
      have hgiven := count_allFree_returnTo H.free [d] a
      rw [count_rxPlaces, hlist, List.map_cons, ← List.singleton_append, List.count_append] at hone
      rw [List.map_cons, List.map_nil, haddr] at hgiven
      rw [count_rxPlaces]
      change (allFree (returnTo H.free [d])).count a + (rest.map RxDescriptor.wordAddr).count a +
        (H.unread.map RxDescriptor.addr).count a + taken.count a = 1
      omega
    valid := fun p hp => h.valid p (hlist ▸ List.mem_cons_of_mem _ hp) }

/-- A frame for an open session is added behind those to be read. -/
theorem RxOwned.queue {H : Holdings} {taken : List Word} {pair : Word × Word} {rest : List (Word × Word)}
    (h : H.RxOwned taken) (hdistinct : H.rxPool.addrs.Nodup) (hlist : H.rxReturns = pair :: rest)
    {d : RxDescriptor} (haddr : d.addr = RxDescriptor.wordAddr pair) {i : Nat}
    (hi : H.rxPool.addrs[i]? = some d.addr) :
    let H' : Holdings :=
      { H with
        rxReturns := rest
        rxPool := H.rxPool.setFrame i d.toFrameMeta
        rxReady := (H.rxReady.push i).2 }
    H'.RxOwned taken ∧ H'.unread = H.unread ++ [d] := by
  intro H'
  have hone := h.once d.addr (List.mem_of_getElem? hi)
  rw [count_rxPlaces, hlist, List.map_cons, ← haddr, List.count_cons_self] at hone
  -- The buffer was in the FIFO, so that no unread frame is in it.
  have hnew : i ∉ H.rxReady.toList := by
    intro hmem
    rw [unread, map_addr_framesIn, count_filterMap_getElem? hdistinct hi] at hone
    have hpos := List.count_pos_iff.mpr hmem
    omega
  obtain ⟨b, hb, hbuffer⟩ : ∃ b, H.rxPool.buffers[i]? = some b ∧ b.addr = d.addr := by
    rw [BufferPool.getElem?_addrs] at hi
    exact Option.map_eq_some_iff.mp hi
  have hroom := h.room hdistinct
  have hring : H'.rxReady.toList = H.rxReady.toList ++ [i] := H.rxReady.toList_push i hroom
  have haddrs : H'.rxPool.addrs = H.rxPool.addrs := BufferPool.addrs_setFrame _ _ _
  have hframe : H'.framesIn [i] = [d] := by
    have hrecorded : H'.rxPool.buffers[i]? = some { b with frame := d.toFrameMeta } := by
      rw [BufferPool.getElem?_setFrame, if_pos rfl, hb, Option.map_some]
    rw [H'.framesIn_singleton hrecorded, hbuffer]
  have hunread : H'.unread = H.unread ++ [d] := by
    rw [unread, hring, framesIn_append, hframe]
    exact congrArg (· ++ [d]) (H.framesIn_setFrame i d.toFrameMeta H.rxReady.toList hnew)
  refine ⟨?_, hunread⟩
  exact
    { once := fun a ha => by
        have hone := h.once a (haddrs ▸ ha)
        have hfree : H'.free = H.free := rfl
        have hreturns : H'.rxReturns = rest := rfl
        rw [count_rxPlaces, hlist, List.map_cons, ← List.singleton_append, List.count_append] at hone
        rw [count_rxPlaces, hunread, List.map_append, List.count_append, hfree, hreturns, List.map_cons,
          List.map_nil, haddr]
        omega
      inRange := fun k hk => by
        rw [hring] at hk
        rw [haddrs]
        rcases List.mem_append.mp hk with hold | hlast
        · exact h.inRange k hold
        · obtain rfl := List.mem_singleton.mp hlast
          exact (List.getElem?_eq_some_iff.mp hi).1
      valid := fun p hp => h.valid p (hlist ▸ List.mem_cons_of_mem _ hp)
      capacity := by
        rw [haddrs]
        exact (Ring.push_capacity _ _).trans h.capacity
      collisions := (H.rxReady.collisions_push i hroom).trans h.collisions }

/-- Filing a received frame keeps every buffer in one place. -/
theorem RxOwned.takeRx {H : Holdings} {taken : List Word} {pair : Word × Word} {rest : List (Word × Word)}
    (h : H.RxOwned taken) (hdistinct : H.rxPool.addrs.Nodup) (hlist : H.rxReturns = pair :: rest) :
    (Holdings.takeRx { H with rxReturns := rest } pair).RxOwned taken ∧
      H.Filed (H.matched? pair).toList (Holdings.takeRx { H with rxReturns := rest } pair) := by
  obtain ⟨d, hpair⟩ := h.valid pair (hlist ▸ List.mem_cons_self)
  have haddr := RxDescriptor.wordAddr_of_decode? pair.1 pair.2 d hpair
  have hmatched : Holdings.matched? { H with rxReturns := rest } pair = H.matched? pair := rfl
  unfold Holdings.takeRx
  rw [hmatched]
  cases hfind : H.rxPool.find? d.addr with
  | none =>
    have hunmatched : H.matched? pair = none := by
      rw [matched?, hpair, Option.filter_some, hfind, if_neg (by exact Bool.false_ne_true)]
    have hunknown : d.addr ∉ H.rxPool.addrs := (H.rxPool.find?_eq_none_iff d.addr).mp hfind
    rw [hunmatched]
    exact ⟨h.skip hlist (haddr ▸ hunknown), { Filed.refl H with }⟩
  | some i =>
    have hfound : H.matched? pair = some d := by
      rw [matched?, hpair, Option.filter_some, hfind, if_pos (by rfl)]
    have hi : H.rxPool.addrs[i]? = some d.addr := (H.rxPool.find?_eq_some_iff hdistinct d.addr i).mp hfind
    rw [hfound]
    dsimp only [Option.toList]
    rw [hfind, Option.getD_some]
    by_cases hopen : H.isOpen = true
    · obtain ⟨howned, hunread⟩ := h.queue hdistinct hlist haddr hi
      rw [if_pos hopen]
      refine ⟨howned, ?_⟩
      exact
        { isOpen := rfl
          addrs := BufferPool.addrs_setFrame _ _ _
          unread := by rw [if_pos hopen]; exact hunread
          free := by rw [if_pos hopen]
          dropped := by rw [if_pos hopen] }
    · rw [if_neg hopen]
      refine ⟨h.giveBack hlist haddr, ?_⟩
      exact
        { isOpen := rfl
          addrs := rfl
          unread := by rw [if_neg hopen]; rfl
          free := by rw [if_neg hopen]
          dropped := by rw [if_neg hopen]; rfl }

/-- Filing a transmit word does not concern received frames. -/
theorem RxOwned.takeTx {H : Holdings} {taken : List Word} (h : H.RxOwned taken) (words : List Word) (word : Word) :
    (Holdings.takeTx { H with txReturns := words } word).RxOwned taken ∧
      H.Filed [] (Holdings.takeTx { H with txReturns := words } word) := by
  unfold Holdings.takeTx
  split
  · exact ⟨{ h with }, { Filed.refl H with }⟩
  · exact ⟨{ h with }, { Filed.refl H with }⟩

/-- The handler keeps every buffer in one place, and files the frames whose buffers it knows. -/
theorem RxOwned.drained {H H' : Holdings} {taken words : List Word} {pairs : List (Word × Word)}
    (h : H.RxOwned taken) (hdistinct : H.rxPool.addrs.Nodup) (hdrained : H.Drained words pairs H') :
    H'.RxOwned taken ∧ H.Filed (pairs.filterMap H.matched?) H' := by
  induction hdrained with
  | nil => exact ⟨h, Filed.refl _⟩
  | @tx H _ word rest _ _ hlist _ ih =>
    obtain ⟨howned, hfiled⟩ := h.takeTx rest word
    obtain ⟨hrest, hfiledRest⟩ := ih howned (hfiled.addrs ▸ hdistinct)
    rw [matched?_eq hfiled.addrs] at hfiledRest
    exact ⟨hrest, hfiled.trans hfiledRest⟩
  | @rx H _ pair rest pairs _ hlist _ ih =>
    obtain ⟨howned, hfiled⟩ := h.takeRx hdistinct hlist
    obtain ⟨hrest, hfiledRest⟩ := ih howned (hfiled.addrs ▸ hdistinct)
    rw [matched?_eq hfiled.addrs] at hfiledRest
    have hlists : (pair :: pairs).filterMap H.matched? = (H.matched? pair).toList ++ pairs.filterMap H.matched? := by
      cases hmatched : H.matched? pair with
      | none => rw [List.filterMap_cons_none hmatched]; rfl
      | some d => rw [List.filterMap_cons_some hmatched]; rfl
    rw [hlists]
    exact ⟨hrest, hfiled.trans hfiledRest⟩

/-! ## After attaching -/

/-- No frame is to be read on a card that has just been attached. -/
theorem Attached.unread_eq_nil {H : Holdings} {config : Config} (h : H.Attached config) : H.unread = [] := by
  rw [unread, h.rxReady.1]
  rfl

/-- All receive buffers of a card that has just been attached are free. -/
theorem Attached.rxOwned {H : Holdings} {config : Config} (h : H.Attached config) : H.RxOwned [] where
  once addr haddr := by
    have hnone : (allFree fun _ => ([] : List Word)).count addr = 0 :=
      List.count_eq_zero.mpr fun hmem => by simp [mem_allFree] at hmem
    have hfree : (allFree H.free).count addr = H.rxPool.addrs.count addr := by
      rw [h.free, count_allFree_returnTo, hnone, Host.map_addr_offers, Nat.zero_add]
    rw [count_rxPlaces, h.unread_eq_nil, h.rxReturns, hfree, List.map_nil, List.map_nil, List.count_nil]
    exact List.count_eq_one_of_mem h.sound.rxHeld.distinct haddr
  inRange := by
    rw [h.rxReady.1]
    nofun
  valid := by
    rw [h.rxReturns]
    nofun
  capacity := by rw [h.rxReady.2.1, BufferPool.length_addrs]
  collisions := h.rxReady.2.2

end Holdings

end LaneCard
