import LaneCard.Proofs.Attach
import LaneCard.Proofs.Steps
import Mathlib.Data.List.GetD

/-!
# Every transmit buffer is in one place

A transmit buffer is free, or the card has it, or it was given up with a frame for a lane that does
not exist; it is never in two of these places, and never lost. So the ring of free buffers cannot
overflow, the card is never given a buffer that it has not given back, and the diagnostics account
for every buffer. All that is asked of a run is that no completion is made up for a buffer of the
pool.
-/

namespace LaneCard

/-! ## What a run has sent -/

namespace Happening

/-- The addresses that the move wrote to the registers that send. -/
def submitted (h : Happening) : List Word :=
  h.after.host.bus.submissions.drop h.before.host.bus.submissions.length

/-- The words that the handler took off the transmit FIFO. -/
def drainedTx (h : Happening) : List Word :=
  match h.move with
  | .serve _ =>
    h.before.host.bus.txReturns.take
      (h.before.host.bus.txReturns.length - h.after.host.bus.txReturns.length)
  | _ => []

/-- The buffer that was given up with a frame that was accepted for a lane that does not exist. -/
def abandoned (h : Happening) : List Nat :=
  match h.move with
  | .call _ _ call =>
    if call.lane?.any (fun lane => laneCount ≤ lane.toNat) && h.outcome.isNumber then
      h.before.device.txFree.peek?.toList
    else []
  | _ => []

end Happening

/-- The buffers given up so far. -/
def abandonedIn (past : List Happening) : List Nat := past.flatMap Happening.abandoned

/-- The addresses that were submitted and whose completion was not drained since, in the order in
which they were submitted. -/
def outstandingIn (past : List Happening) : List Word :=
  past.foldl
    (fun addrs h => addrs.filter (fun addr => some addr ∉ h.drainedTx.map TxReturn.decode?) ++ h.submitted) []

/-! ## One place for each buffer -/

/-- Each buffer is free, in flight or lost, and in one of these places only. -/
structure TxOwned (addrs : List Word) (ring : Ring) (flying : List Word) (lost : List Nat) : Prop where
  once : ∀ i addr, addrs[i]? = some addr →
    ring.toList.count i + flying.count (TxReturn.encode addr) + lost.count i = 1
  inRange : ∀ i ∈ ring.toList, i < addrs.length
  lostInRange : ∀ i ∈ lost, i < addrs.length
  /-- A word in flight that names a buffer is the one that returns it. -/
  named : ∀ word ∈ flying, ∀ addr ∈ addrs, TxReturn.decode? word = some addr → word = TxReturn.encode addr
  capacity : ring.capacity = addrs.length
  collisions : ring.collisions = 0

namespace TxOwned

variable {addrs : List Word} {ring : Ring} {flying flying' : List Word} {lost : List Nat} {word : Word}

/-- No buffer is free twice. -/
theorem nodup (h : TxOwned addrs ring flying lost) : ring.toList.Nodup := by
  rw [List.nodup_iff_count_le_one]
  intro i
  by_cases hi : i < addrs.length
  · have hone := h.once i addrs[i] (List.getElem?_eq_getElem hi)
    omega
  · rw [List.count_eq_zero.mpr fun hmem => hi (h.inRange i hmem)]
    omega

/-- There is room for every buffer in the ring. -/
theorem room (h : TxOwned addrs ring flying lost) : ring.length ≤ ring.capacity := by
  have hsub : ring.toList ⊆ List.range addrs.length := fun i hi => List.mem_range.mpr (h.inRange i hi)
  have hle := (List.subperm_of_subset h.nodup hsub).length_le
  rwa [Ring.length_toList, List.length_range, ← h.capacity] at hle

/-- If no buffer is in flight, each is free or lost. -/
theorem length_add_length (h : TxOwned addrs ring [] lost) : ring.length + lost.length = addrs.length := by
  have hperm : (ring.toList ++ lost).Perm (List.range addrs.length) := by
    rw [List.perm_iff_count]
    intro i
    rw [List.count_append]
    by_cases hi : i < addrs.length
    · have hone := h.once i addrs[i] (List.getElem?_eq_getElem hi)
      rw [List.count_nil] at hone
      rw [List.count_eq_one_of_mem List.nodup_range (List.mem_range.mpr hi)]
      omega
    · rw [List.count_eq_zero.mpr fun hmem => hi (h.inRange i hmem),
        List.count_eq_zero.mpr fun hmem => hi (h.lostInRange i hmem),
        List.count_eq_zero.mpr fun hmem => hi (List.mem_range.mp hmem)]
  have hlength := hperm.length_eq
  rwa [List.length_append, Ring.length_toList, List.length_range] at hlength

/-- The order of what is in flight does not matter. -/
theorem perm (h : TxOwned addrs ring flying lost) (hperm : flying.Perm flying') :
    TxOwned addrs ring flying' lost :=
  { h with
    once := fun i addr haddr => by rw [← hperm.count_eq]; exact h.once i addr haddr
    named := fun word hword => h.named word (hperm.symm.subset hword) }

/-- At the start all buffers are free. -/
theorem start (hring : ring.toList = List.range addrs.length) (hcapacity : ring.capacity = addrs.length)
    (hcollisions : ring.collisions = 0) : TxOwned addrs ring [] [] where
  once i addr haddr := by
    have hi : i < addrs.length := (List.getElem?_eq_some_iff.mp haddr).1
    rw [hring, List.count_nil, List.count_nil]
    exact List.count_eq_one_of_mem List.nodup_range (List.mem_range.mpr hi)
  inRange i hi := List.mem_range.mp (hring ▸ hi)
  lostInRange := nofun
  named := nofun
  capacity := hcapacity
  collisions := hcollisions

/-- The number at the head of the ring names a buffer that is not in flight. -/
theorem head (h : TxOwned addrs ring flying lost) {i : Nat} (hi : ring.peek? = some i) :
    ∃ addr, addrs[i]? = some addr ∧ TxReturn.encode addr ∉ flying ∧ i ∉ lost := by
  have hmem : i ∈ ring.toList := by
    rw [Ring.peek?_eq_head?] at hi
    exact List.mem_of_head? hi
  have hrange := h.inRange i hmem
  have hone := h.once i addrs[i] (List.getElem?_eq_getElem hrange)
  have hpos := List.count_pos_iff.mpr hmem
  exact ⟨addrs[i], List.getElem?_eq_getElem hrange, List.count_eq_zero.mp (by omega),
    List.count_eq_zero.mp (by omega)⟩

/-- Counting numbers in a ring without its head. -/
private theorem count_drop {i : Nat} (hi : ring.peek? = some i) (k : Nat) :
    ring.toList.count k = ring.drop.toList.count k + [i].count k := by
  rw [Ring.peek?_eq_head?] at hi
  obtain ⟨rest, hlist⟩ := List.head?_eq_some_iff.mp hi
  rw [Ring.toList_drop, hlist, List.tail_cons, List.count_cons, List.count_singleton]

/-- A ring without its head holds nothing new. -/
private theorem inRange_drop (h : TxOwned addrs ring flying lost) : ∀ i ∈ ring.drop.toList, i < addrs.length := by
  intro i hi
  rw [Ring.toList_drop] at hi
  exact h.inRange i (List.mem_of_mem_tail hi)

/-- The buffer at the head of the ring may be given up. -/
theorem abandon (h : TxOwned addrs ring flying lost) {i : Nat} (hi : ring.peek? = some i) :
    TxOwned addrs ring.drop flying (lost ++ [i]) := by
  obtain ⟨addr, haddr, -, -⟩ := h.head hi
  exact
    { h with
      once := fun k other hk => by
        have hone := h.once k other hk
        rw [count_drop hi k] at hone
        rw [List.count_append]
        omega
      inRange := h.inRange_drop
      lostInRange := fun k hk => by
        rcases List.mem_append.mp hk with hold | hnew
        · exact h.lostInRange k hold
        · obtain rfl := List.mem_singleton.mp hnew
          exact (List.getElem?_eq_some_iff.mp haddr).1
      capacity := by rw [Ring.drop_capacity, h.capacity]
      collisions := by rw [Ring.drop_collisions, h.collisions] }

/-- The words that return two buffers of the pool are the same only for one buffer. -/
private theorem count_encode (haligned : ∀ a ∈ addrs, a.Aligned) (hdistinct : addrs.Nodup) {i k : Nat}
    {addr other : Word} (hi : addrs[i]? = some addr) (hk : addrs[k]? = some other) :
    [TxReturn.encode addr].count (TxReturn.encode other) = [i].count k := by
  have hiff : TxReturn.encode addr = TxReturn.encode other ↔ i = k := by
    constructor
    · intro hword
      have hsame := TxReturn.encode_inj addr other (haligned _ (List.mem_of_getElem? hi))
        (haligned _ (List.mem_of_getElem? hk)) hword
      exact (List.getElem?_inj (List.getElem?_eq_some_iff.mp hi).1 hdistinct).mp (by rw [hi, hk, hsame])
    · rintro rfl
      rw [hi] at hk
      rw [Option.some.inj hk]
  rw [List.count_singleton, List.count_singleton]
  by_cases hsame : i = k
  · simp [hiff.mpr hsame, hsame]
  · simp [mt hiff.mp hsame, hsame]

/-- The buffer at the head of the ring may be sent. -/
theorem submit (h : TxOwned addrs ring flying lost) (haligned : ∀ a ∈ addrs, a.Aligned)
    (hdistinct : addrs.Nodup) {i : Nat} {addr : Word} (hi : ring.peek? = some i)
    (haddr : addrs[i]? = some addr) : TxOwned addrs ring.drop (flying ++ [TxReturn.encode addr]) lost :=
  { h with
    once := fun k other hk => by
      have hone := h.once k other hk
      rw [count_drop hi k] at hone
      rw [List.count_append, count_encode haligned hdistinct haddr hk]
      omega
    inRange := h.inRange_drop
    named := fun word hword other hother hdecode => by
      rcases List.mem_append.mp hword with hold | hnew
      · exact h.named word hold other hother hdecode
      · obtain rfl := List.mem_singleton.mp hnew
        rw [TxReturn.decode?_encode_of_aligned addr (haligned addr (List.mem_of_getElem? haddr))] at hdecode
        rw [Option.some.inj hdecode]
    capacity := by rw [Ring.drop_capacity, h.capacity]
    collisions := by rw [Ring.drop_collisions, h.collisions] }

/-- A word that names no buffer returns none. -/
private theorem count_unnamed (haligned : ∀ a ∈ addrs, a.Aligned) {word : Word}
    (hword : ∀ a ∈ addrs, TxReturn.decode? word ≠ some a) {k : Nat} {other : Word} (hk : addrs[k]? = some other) :
    [word].count (TxReturn.encode other) = 0 := by
  have hother := List.mem_of_getElem? hk
  rw [List.count_singleton, if_neg]
  rw [beq_iff_eq]
  rintro rfl
  exact hword other hother (TxReturn.decode?_encode_of_aligned other (haligned other hother))

/-- Words that name no buffer may come in. -/
theorem inject (h : TxOwned addrs ring flying lost) (haligned : ∀ a ∈ addrs, a.Aligned) {word : Word}
    (hword : ∀ a ∈ addrs, TxReturn.decode? word ≠ some a) : TxOwned addrs ring (word :: flying) lost :=
  { h with
    once := fun k other hk => by
      have hone := h.once k other hk
      have hzero := count_unnamed haligned hword hk
      rw [← List.singleton_append, List.count_append]
      omega
    named := fun w hw a ha hdecode => by
      rcases List.mem_cons.mp hw with rfl | hold
      · exact absurd hdecode (hword a ha)
      · exact h.named w hold a ha hdecode }

/-- A word that names no buffer may be taken out. -/
theorem discard (h : TxOwned addrs ring (word :: flying) lost) (haligned : ∀ a ∈ addrs, a.Aligned)
    (hword : ∀ a ∈ addrs, TxReturn.decode? word ≠ some a) : TxOwned addrs ring flying lost :=
  { h with
    once := fun k other hk => by
      have hone := h.once k other hk
      have hzero := count_unnamed haligned hword hk
      rw [← List.singleton_append, List.count_append] at hone
      omega
    named := fun w hw => h.named w (List.mem_cons_of_mem _ hw) }

/-- A buffer that is returned is free again. -/
theorem finish (h : TxOwned addrs ring (word :: flying) lost) (haligned : ∀ a ∈ addrs, a.Aligned)
    (hdistinct : addrs.Nodup) {i : Nat} {addr : Word} (haddr : addrs[i]? = some addr)
    (hword : TxReturn.decode? word = some addr) : TxOwned addrs (ring.push i).2 flying lost := by
  have hname := h.named word List.mem_cons_self addr (List.mem_of_getElem? haddr) hword
  subst hname
  have hlist := ring.toList_push i h.room
  exact
    { h with
      once := fun k other hk => by
        have hone := h.once k other hk
        rw [← List.singleton_append, List.count_append, count_encode haligned hdistinct haddr hk] at hone
        rw [hlist, List.count_append]
        omega
      inRange := fun k hk => by
        rw [hlist] at hk
        rcases List.mem_append.mp hk with hold | hnew
        · exact h.inRange k hold
        · obtain rfl := List.mem_singleton.mp hnew
          exact (List.getElem?_eq_some_iff.mp haddr).1
      named := fun w hw => h.named w (List.mem_cons_of_mem _ hw)
      capacity := by rw [Ring.push_capacity, h.capacity]
      collisions := by rw [ring.collisions_push i h.room, h.collisions] }

end TxOwned

/-! ## What the handler does to the transmit buffers -/

namespace Holdings

/-- Delivering a frame leaves the transmit side alone. -/
theorem Delivery.tx_eq {H H' : Holdings} {lane : Nat} {vc : Word} {payload : Bytes}
    (h : H.Delivery lane vc payload H') :
    H'.txPool = H.txPool ∧ H'.txFree = H.txFree ∧ H'.txReturns = H.txReturns ∧ H'.heldTx = H.heldTx ∧
      H'.submissions = H.submissions := by
  cases h <;> exact ⟨rfl, rfl, rfl, rfl, rfl⟩

end Holdings

namespace TxOwned

variable {H H' : Holdings} {lost : List Nat} {word : Word} {rest words : List Word}
  {pairs : List (Word × Word)}

/-- Filing a transmit word keeps every buffer in one place. -/
theorem takeTx (haligned : ∀ a ∈ H.txPool.addrs, a.Aligned) (hdistinct : H.txPool.addrs.Nodup)
    (h : TxOwned H.txPool.addrs H.txFree (word :: rest) lost) :
    TxOwned H.txPool.addrs (H.takeTx word).txFree rest lost := by
  unfold Holdings.takeTx
  cases hdecode : TxReturn.decode? word with
  | none => exact h.discard haligned fun a _ => by rw [hdecode]; nofun
  | some addr =>
    rw [Option.bind_some]
    cases hfind : H.txPool.find? addr with
    | none =>
      have hunknown := (H.txPool.find?_eq_none_iff addr).mp hfind
      refine h.discard haligned fun a ha hsame => hunknown ?_
      rw [hdecode] at hsame
      exact Option.some.inj hsame ▸ ha
    | some i =>
      have haddr := (H.txPool.find?_eq_some_iff hdistinct addr i).mp hfind
      exact h.finish haligned hdistinct haddr hdecode

/-- The handler keeps every buffer in one place. -/
theorem drained (hdrained : H.Drained words pairs H') (haligned : ∀ a ∈ H.txPool.addrs, a.Aligned)
    (hdistinct : H.txPool.addrs.Nodup)
    (h : TxOwned H.txPool.addrs H.txFree (H.txReturns ++ H.heldTx) lost) :
    TxOwned H'.txPool.addrs H'.txFree (H'.txReturns ++ H'.heldTx) lost := by
  induction hdrained with
  | nil => exact h
  | @tx H _ word rest _ _ hlist _ ih =>
    have htaken := takeTx (H := { H with txReturns := rest }) haligned hdistinct (hlist ▸ h)
    obtain ⟨ring, heq⟩ := Holdings.takeTx_eq { H with txReturns := rest } word
    rw [heq] at ih htaken
    exact ih haligned hdistinct htaken
  | @rx H _ pair rest _ _ _ _ ih =>
    obtain ⟨pool, ready, free, dropped, -, -, heq⟩ := Holdings.takeRx_eq { H with rxReturns := rest } pair
    rw [heq] at ih
    exact ih haligned hdistinct h

end TxOwned

/-! ## Runs -/

/-- The move makes up no completion for a buffer at one of the addresses. -/
def Move.SparesTx (addrs : List Word) : Move → Prop
  | .injectTx word => ∀ addr ∈ addrs, TxReturn.decode? word ≠ some addr
  | _ => True

/-- What holds of the transmit buffers at every time of a run. -/
structure TxInvariant (past : List Happening) (H : Holdings) : Prop where
  owned : TxOwned H.txPool.addrs H.txFree (H.txReturns ++ H.heldTx) (abandonedIn past)
  distinct : (outstandingIn past).Nodup
  flying : ∀ addr ∈ outstandingIn past,
    addr ∈ H.txPool.addrs ∧ TxReturn.encode addr ∈ H.txReturns ++ H.heldTx

/-- The addresses that are outstanding after one more move. -/
theorem outstandingIn_append (past : List Happening) (h : Happening) :
    outstandingIn (past ++ [h]) =
      (outstandingIn past).filter (fun addr => some addr ∉ h.drainedTx.map TxReturn.decode?) ++ h.submitted := by
  rw [outstandingIn, List.foldl_append]
  rfl

/-- The buffers given up after one more move. -/
theorem abandonedIn_append (past : List Happening) (h : Happening) :
    abandonedIn (past ++ [h]) = abandonedIn past ++ h.abandoned := by
  rw [abandonedIn, List.flatMap_append, List.flatMap_cons, List.flatMap_nil, List.append_nil]
  rfl

namespace TxInvariant

variable {past : List Happening} {H H' : Holdings} {h : Happening}

/-- A move that submits and drains no buffer keeps the invariant if what is in flight stays there. -/
theorem still (hinv : TxInvariant past H) (hpool : H'.txPool.addrs = H.txPool.addrs)
    (howned : TxOwned H.txPool.addrs H'.txFree (H'.txReturns ++ H'.heldTx) (abandonedIn past ++ h.abandoned))
    (hflying : H.txReturns ++ H.heldTx ⊆ H'.txReturns ++ H'.heldTx) (hsubmitted : h.submitted = [])
    (hdrained : h.drainedTx = []) : TxInvariant (past ++ [h]) H' := by
  have hsame : outstandingIn (past ++ [h]) = outstandingIn past := by
    rw [outstandingIn_append, hsubmitted, hdrained, List.append_nil, List.filter_eq_self]
    simp
  refine ⟨?_, ?_, ?_⟩
  · rwa [abandonedIn_append, hpool]
  · rw [hsame]
    exact hinv.distinct
  · rw [hsame, hpool]
    exact fun addr haddr => ⟨(hinv.flying addr haddr).1, hflying (hinv.flying addr haddr).2⟩

/-- A buffer that is submitted from the head of the ring keeps the invariant. -/
theorem submit (hinv : TxInvariant past H) (haligned : ∀ a ∈ H.txPool.addrs, a.Aligned)
    (hdistinct : H.txPool.addrs.Nodup) {i : Nat} {addr : Word} (hi : H.txFree.peek? = some i)
    (haddr : H.txPool.addrs[i]? = some addr) (hpool : H'.txPool.addrs = H.txPool.addrs)
    (hfree : H'.txFree = H.txFree.drop)
    (hflying : (H.txReturns ++ H.heldTx ++ [TxReturn.encode addr]).Perm (H'.txReturns ++ H'.heldTx))
    (habandoned : h.abandoned = []) (hsubmitted : h.submitted = [addr]) (hdrained : h.drainedTx = []) :
    TxInvariant (past ++ [h]) H' := by
  obtain ⟨other, hother, hnot, -⟩ := hinv.owned.head hi
  obtain rfl : other = addr := Option.some.inj (hother.symm.trans haddr)
  -- The head of the ring is not in flight, so it is not outstanding either.
  have hnew : other ∉ outstandingIn past := fun hold => hnot (hinv.flying other hold).2
  have hlist : outstandingIn (past ++ [h]) = outstandingIn past ++ [other] := by
    rw [outstandingIn_append, hsubmitted, hdrained]
    congr 1
    rw [List.filter_eq_self]
    simp
  refine ⟨?_, ?_, ?_⟩
  · rw [abandonedIn_append, habandoned, List.append_nil, hfree, hpool]
    exact (hinv.owned.submit haligned hdistinct hi haddr).perm hflying
  · rw [hlist]
    exact List.Nodup.append hinv.distinct (List.nodup_singleton _) (by simpa using hnew)
  · rw [hlist, hpool]
    intro a ha
    rcases List.mem_append.mp ha with hold | hlast
    · obtain ⟨hknown, hword⟩ := hinv.flying a hold
      exact ⟨hknown, hflying.subset (List.mem_append_left _ hword)⟩
    · obtain rfl := List.mem_singleton.mp hlast
      exact ⟨List.mem_of_getElem? haddr, hflying.subset (List.mem_append_right _ List.mem_cons_self)⟩

/-- Words that the handler takes off the FIFO keep the invariant. -/
theorem drain (hinv : TxInvariant past H) (haligned : ∀ a ∈ H.txPool.addrs, a.Aligned)
    (hdistinct : H.txPool.addrs.Nodup) {words : List Word} {pairs : List (Word × Word)}
    (hwork : H.Drained words pairs H') (habandoned : h.abandoned = []) (hsubmitted : h.submitted = [])
    (hdrained : h.drainedTx = words) : TxInvariant (past ++ [h]) H' := by
  obtain ⟨hpool, hheld, -⟩ := hwork.tx_eq
  have hlist : outstandingIn (past ++ [h]) =
      (outstandingIn past).filter fun addr => some addr ∉ words.map TxReturn.decode? := by
    rw [outstandingIn_append, hsubmitted, hdrained, List.append_nil]
  refine ⟨?_, ?_, ?_⟩
  · rw [abandonedIn_append, habandoned, List.append_nil]
    exact TxOwned.drained hwork haligned hdistinct hinv.owned
  · rw [hlist]
    exact hinv.distinct.filter _
  · rw [hlist, hpool]
    intro addr haddr
    obtain ⟨hold, hkept⟩ := List.mem_filter.mp haddr
    obtain ⟨hknown, hword⟩ := hinv.flying addr hold
    refine ⟨hknown, ?_⟩
    rw [hwork.txReturns, ← hheld, List.append_assoc] at hword
    rcases List.mem_append.mp hword with htaken | hleft
    · have hnamed := TxReturn.decode?_encode_of_aligned addr (haligned addr hknown)
      exact absurd (List.mem_map.mpr ⟨_, htaken, hnamed⟩) (of_decide_eq_true hkept)
    · exact hleft

end TxInvariant

/-- A move that does nothing to the buffers gives none up. -/
theorem Happening.abandoned_of_idle {h : Happening} (hidle : Holdings.Idle h.move h.outcome) :
    h.abandoned = [] := by
  unfold abandoned
  split
  · rename_i call hmove
    rw [hmove] at hidle
    obtain ⟨-, hnumber⟩ := hidle
    cases hlane : call.lane? with
    | none => rfl
    | some lane => simp [hnumber (by rw [hlane]; rfl)]
  · rfl

/-- A move that does nothing to the buffers drains nothing. -/
theorem Happening.drainedTx_of_idle {h : Happening} (hidle : Holdings.Idle h.move h.outcome) :
    h.drainedTx = [] := by
  unfold drainedTx
  split
  · rename_i hmove
    rw [hmove] at hidle
    exact hidle.elim
  · rfl

/-- A frame that was accepted gives its buffer up if its lane does not exist, and only then. -/
theorem Happening.abandoned_of_sent {h : Happening} {patience : Patience} {memory : CallerMemory} {call : Call}
    {lane : Word} {n : Nat} (hmove : h.move = .call patience memory call) (hlane : call.lane? = some lane)
    (houtcome : h.outcome = .number n) :
    h.abandoned = if laneCount ≤ lane.toNat then h.before.holdings.txFree.peek?.toList else [] := by
  rw [abandoned, hmove]
  simp only [hlane, houtcome, Option.any_some, Outcome.isNumber, Bool.and_true, decide_eq_true_eq]
  rfl

namespace TxInvariant

/-- A buffer that is handed over to the card is taken from the head of the ring, whatever the card
does with the receive buffers then. -/
theorem handOver {past : List Happening} {H H' : Holdings} {h : Happening} {frame : FrameMeta} {i : Nat}
    {b : Buffer} {memory : Allocator} (hinv : TxInvariant past H) (haligned : ∀ a ∈ H.txPool.addrs, a.Aligned)
    (hdistinct : H.txPool.addrs.Nodup) (hi : H.txFree.peek? = some i) (hb : H.txPool.buffers[i]? = some b)
    (hpool : H'.txPool = H.txPool.setFrame i frame)
    (hfree : H'.txFree = ((H.loaded i frame memory).handedOver b.addr).txFree)
    (hreturns : H'.txReturns = ((H.loaded i frame memory).handedOver b.addr).txReturns)
    (hheld : H'.heldTx = ((H.loaded i frame memory).handedOver b.addr).heldTx)
    (hlog : H'.submissions = H.submissions ++ [b.addr]) (habandoned : h.abandoned = [])
    (hsubmitted : h.submitted = H'.submissions.drop H.submissions.length) (hdrained : h.drainedTx = []) :
    TxInvariant (past ++ [h]) H' := by
  have haddr : H.txPool.addrs[i]? = some b.addr := by rw [BufferPool.getElem?_addrs, hb, Option.map_some]
  refine hinv.submit haligned hdistinct hi haddr ?_ hfree ?_ habandoned ?_ hdrained
  · rw [hpool]
    exact BufferPool.addrs_setFrame _ _ _
  · -- The word is at the end of the one list or of the other.
    rw [hreturns, hheld]
    change List.Perm _ ((if H.holding then H.txReturns else H.txReturns ++ [TxReturn.encode b.addr]) ++
      (if H.holding then H.heldTx ++ [TxReturn.encode b.addr] else H.heldTx))
    split
    · rw [List.append_assoc]
    · rw [List.append_assoc, List.append_assoc]
      exact (List.perm_append_comm).append_left _
  · rw [hsubmitted, hlog, List.drop_left]

/-- A frame that is sent takes its buffer from the head of the ring. -/
theorem sent {past : List Happening} {H H' : Holdings} {h : Happening} {looped : Bool} {lane vc size : Word}
    {data : Bytes} (hinv : TxInvariant past H) (haligned : ∀ a ∈ H.txPool.addrs, a.Aligned)
    (hdistinct : H.txPool.addrs.Nodup) (hsent : H.Sent looped lane vc size data H')
    (habandoned : h.abandoned = if laneCount ≤ lane.toNat then H.txFree.peek?.toList else [])
    (hsubmitted : h.submitted = H'.submissions.drop H.submissions.length) (hdrained : h.drainedTx = []) :
    TxInvariant (past ++ [h]) H' := by
  cases hsent with
  | discarded i b memory hlane hi hb hwrite =>
    have hnone : h.submitted = [] := by
      rw [hsubmitted]
      exact List.drop_length
    refine hinv.still (BufferPool.addrs_setFrame _ _ _) ?_ (List.Subset.refl _) hnone hdrained
    rw [habandoned, if_pos hlane, hi]
    exact hinv.owned.abandon hi
  | gone i b memory hlane hi hb hwrite hloop =>
    rw [if_neg (Nat.not_le_of_lt hlane)] at habandoned
    exact hinv.handOver haligned hdistinct hi hb rfl rfl rfl rfl rfl habandoned hsubmitted hdrained
  | back i b memory _ hlane hi hb hwrite hloop hdelivery =>
    obtain ⟨hpool, hfree, hreturns, hheld, hlog⟩ := hdelivery.tx_eq
    rw [if_neg (Nat.not_le_of_lt hlane)] at habandoned
    exact hinv.handOver haligned hdistinct hi hb hpool hfree hreturns hheld hlog habandoned hsubmitted hdrained

end TxInvariant

namespace Card

/-- Every move that makes up no completion keeps the invariant. -/
theorem txInvariant_play (c : Card Board) (hsound : c.holdings.Sound) {past : List Happening}
    (hinv : TxInvariant past c.holdings) (m : Move) (hm : m.SparesTx c.holdings.txPool.addrs) :
    TxInvariant (past ++ [⟨c, m⟩]) (c.play m).2.holdings := by
  have haligned : ∀ a ∈ c.holdings.txPool.addrs, a.Aligned := fun _ => hsound.txHeld.aligned_of_mem_addrs
  have hdistinct := hsound.txHeld.distinct
  have hstep := c.step hsound m
  have houtcome : (⟨c, m⟩ : Happening).outcome = (c.play m).1 := rfl
  have hsubmitted : (⟨c, m⟩ : Happening).submitted =
      (c.play m).2.holdings.submissions.drop c.holdings.submissions.length := rfl
  have hafter : (⟨c, m⟩ : Happening).after.holdings = (c.play m).2.holdings := rfl
  generalize (c.play m).1 = o at hstep houtcome
  generalize (c.play m).2.holdings = H' at hstep hsubmitted hafter ⊢
  -- Moves that leave the transmit side alone, or move words between the FIFO and those held back.
  have hstill (hfree : H'.txFree = c.holdings.txFree) (hpool : H'.txPool = c.holdings.txPool)
      (hperm : (c.holdings.txReturns ++ c.holdings.heldTx).Perm (H'.txReturns ++ H'.heldTx))
      (hlog : H'.submissions = c.holdings.submissions) (habandoned : (⟨c, m⟩ : Happening).abandoned = [])
      (hnone : (⟨c, m⟩ : Happening).drainedTx = []) : TxInvariant (past ++ [⟨c, m⟩]) H' := by
    refine hinv.still (by rw [hpool]) ?_ hperm.subset ?_ hnone
    · rw [habandoned, List.append_nil, hfree]
      exact hinv.owned.perm hperm
    · rw [hsubmitted, hlog, List.drop_length]
  cases hstep with
  | idle _ _ hidle =>
    have hidle' : Holdings.Idle (⟨c, m⟩ : Happening).move (⟨c, m⟩ : Happening).outcome := houtcome ▸ hidle
    exact hstill rfl rfl (List.Perm.refl _) rfl (Happening.abandoned_of_idle hidle')
      (Happening.drainedTx_of_idle hidle')
  | opened | held | missed | injectedRx | lifted => exact hstill rfl rfl (List.Perm.refl _) rfl rfl rfl
  | closed => exact hstill rfl rfl (List.Perm.refl _) rfl rfl rfl
  | sent patience memory call n looped lane vc size data _ hcall hsent =>
    exact hinv.sent haligned hdistinct hsent (Happening.abandoned_of_sent rfl hcall houtcome) hsubmitted rfl
  | took patience memory call o i b hcall =>
    refine hstill rfl rfl (List.Perm.refl _) rfl ?_ rfl
    simp only [Happening.abandoned, hcall]
    rfl
  | given =>
    refine hstill rfl rfl ?_ rfl rfl rfl
    rw [List.append_nil]
  | injectedTx word =>
    refine hinv.still rfl ?_ ?_ ?_ rfl
    · have habandoned : (⟨c, .injectTx word⟩ : Happening).abandoned = [] := rfl
      rw [habandoned, List.append_nil]
      refine (hinv.owned.inject haligned hm).perm ?_
      rw [List.append_assoc]
      exact List.perm_middle.symm
    · exact List.append_subset.mpr ⟨fun w hw => List.mem_append_left _ (List.mem_append_left _ hw),
        fun w hw => List.mem_append_right _ hw⟩
    · rw [hsubmitted, List.drop_length]
  | served n words pairs _ hwork =>
    obtain ⟨-, -, hlog⟩ := hwork.tx_eq
    refine hinv.drain haligned hdistinct hwork rfl ?_ ?_
    · rw [hsubmitted, hlog, List.drop_length]
    · have htaken : (⟨c, .serve n⟩ : Happening).drainedTx = c.holdings.txReturns.take
          (c.holdings.txReturns.length - (⟨c, .serve n⟩ : Happening).after.holdings.txReturns.length) := rfl
      rw [htaken, hafter, hwork.txReturns, List.length_append, Nat.add_sub_cancel, List.take_left]

end Card

/-! ## Diagnostics -/

namespace Card

variable {c : Card Board} {flying : List Word} {lost : List Nat}

/-- The addresses of a list are those at its positions. -/
private theorem map_getD_range (addrs : List Word) :
    (List.range addrs.length).map (fun i => addrs.getD i 0#32) = addrs := by
  apply List.ext_getElem
  · rw [List.length_map, List.length_range]
  · intro i hi hi'
    rw [List.getElem_map, List.getElem_range, List.getD_eq_getElem _ _ hi']

/-- The diagnostics list the free buffers in the order of the ring. -/
theorem diagnostics_txQueue (howned : TxOwned c.device.txPool.addrs c.device.txFree flying lost) :
    c.diagnostics.txQueue = c.device.txFree.toList.map fun i => c.device.txPool.addrs.getD i 0#32 := by
  have hqueue : c.diagnostics.txQueue = c.device.txFree.toList.filterMap fun i => c.device.txPool.addrs[i]? := by
    change c.device.txFree.toList.filterMap (fun i => (c.device.txPool.buffers[i]?).map Buffer.addr) = _
    simp only [BufferPool.getElem?_addrs]
  rw [hqueue, ← List.filterMap_eq_map]
  apply List.filterMap_congr
  intro i hi
  have hrange := howned.inRange i hi
  rw [List.getElem?_eq_getElem hrange, Function.comp_apply, List.getD_eq_getElem _ _ hrange]

/-- The diagnostics list all other buffers as missing, in the order of the pool. -/
theorem diagnostics_txMissing (howned : TxOwned c.device.txPool.addrs c.device.txFree flying lost)
    (hdistinct : c.device.txPool.addrs.Nodup) :
    c.diagnostics.txMissing.map Prod.fst =
      ((List.range c.device.txPool.size).filter (· ∉ c.device.txFree.toList)).map
        fun i => c.device.txPool.addrs.getD i 0#32 := by
  have hmissing : c.diagnostics.txMissing.map Prod.fst =
      c.device.txPool.addrs.filter fun addr => !c.diagnostics.txQueue.contains addr := by
    change List.map Prod.fst (List.map _ (List.filter _ _)) = List.filter _ (List.map _ _)
    rw [List.map_map, List.filter_map]
    rfl
  rw [hmissing]
  conv => lhs; rw [← map_getD_range c.device.txPool.addrs]
  rw [List.filter_map, BufferPool.length_addrs]
  congr 1
  apply List.filter_congr
  intro i hi
  have hi : i < c.device.txPool.addrs.length := by simpa using hi
  -- Distinct numbers stand for distinct addresses.
  have hmember : c.device.txPool.addrs.getD i 0#32 ∈ c.diagnostics.txQueue ↔ i ∈ c.device.txFree.toList := by
    rw [diagnostics_txQueue howned, List.mem_map]
    constructor
    · rintro ⟨k, hk, hsame⟩
      have hrange := howned.inRange k hk
      rw [List.getD_eq_getElem _ _ hrange, List.getD_eq_getElem _ _ hi, hdistinct.getElem_inj_iff] at hsame
      exact hsame ▸ hk
    · exact fun hk => ⟨i, hk, rfl⟩
  simp only [Function.comp_apply, List.contains_eq_mem, hmember, decide_not]

/-- The numbers of free buffers and of missing ones add up. -/
theorem diagnostics_tx_total (howned : TxOwned c.device.txPool.addrs c.device.txFree flying lost)
    (hdistinct : c.device.txPool.addrs.Nodup) :
    c.diagnostics.txQueued + c.diagnostics.txMissing.length = c.diagnostics.txBuffers := by
  have hmissing := congrArg List.length (diagnostics_txMissing howned hdistinct)
  rw [List.length_map, List.length_map] at hmissing
  have hfree : ((List.range c.device.txPool.size).filter (· ∈ c.device.txFree.toList)).Perm
      c.device.txFree.toList := by
    rw [List.perm_ext_iff_of_nodup (List.nodup_range.filter _) howned.nodup]
    intro i
    simp only [List.mem_filter, List.mem_range, decide_eq_true_eq, and_iff_right_iff_imp]
    intro hi
    rw [← BufferPool.length_addrs]
    exact howned.inRange i hi
  have hsplit := List.length_eq_length_filter_add (l := List.range c.device.txPool.size)
    (· ∈ c.device.txFree.toList)
  rw [hfree.length_eq, List.length_range, Ring.length_toList] at hsplit
  change c.device.txFree.length + _ = c.device.txPool.size
  simp only [decide_not] at hmissing
  rw [hmissing, ← hsplit]

end Card

/-! ## Every run -/

/-- Where the transmit buffers of a card are after what has happened to it. -/
structure TxAccounted (past : List Happening) (c : Card Board) : Prop where
  /-- Each buffer is in one place: free, on its way back from the card or held back there, or given up
  with a frame for a lane that does not exist. -/
  once : ∀ i addr, c.device.txPool.addrs[i]? = some addr →
    c.device.txFree.toList.count i +
      (c.host.bus.txReturns ++ c.host.bus.heldTx).count (TxReturn.encode addr) +
        (abandonedIn past).count i = 1
  inRange : ∀ i ∈ c.device.txFree.toList ++ abandonedIn past, i < c.device.txPool.size
  collisions : c.device.txFree.collisions = 0
  /-- No buffer was submitted again before its completion was drained. -/
  outstanding : (outstandingIn past).Nodup
  /-- The diagnostics list the free buffers in the order of the ring, -/
  queue : c.diagnostics.txQueue = c.device.txFree.toList.map fun i => c.device.txPool.addrs.getD i 0#32
  /-- and all others in the order of the pool. -/
  missing : c.diagnostics.txMissing.map Prod.fst =
    ((List.range c.device.txPool.size).filter (· ∉ c.device.txFree.toList)).map
      fun i => c.device.txPool.addrs.getD i 0#32
  total : c.diagnostics.txQueued + c.diagnostics.txMissing.length = c.diagnostics.txBuffers

/-- What holds of the buffers at every time says where they are. -/
theorem TxInvariant.accounted {past : List Happening} {c : Card Board} (hinv : TxInvariant past c.holdings)
    (hsound : c.holdings.Sound) : TxAccounted past c := by
  have howned : TxOwned c.device.txPool.addrs c.device.txFree
      (c.host.bus.txReturns ++ c.host.bus.heldTx) (abandonedIn past) := hinv.owned
  have hdistinct : c.device.txPool.addrs.Nodup := hsound.txHeld.distinct
  exact
    { once := howned.once
      inRange := fun i hi => by
        rw [← BufferPool.length_addrs]
        rcases List.mem_append.mp hi with hfree | hlost
        · exact howned.inRange i hfree
        · exact howned.lostInRange i hlost
      collisions := howned.collisions
      outstanding := hinv.distinct
      queue := Card.diagnostics_txQueue howned
      missing := Card.diagnostics_txMissing howned hdistinct
      total := Card.diagnostics_tx_total howned hdistinct }

/-- Just after a card was attached, all its transmit buffers are free. -/
theorem Holdings.Attached.txOwned {H : Holdings} {config : Config} (h : H.Attached config) :
    TxOwned H.txPool.addrs H.txFree (H.txReturns ++ H.heldTx) [] := by
  rw [h.txReturns, h.heldTx]
  refine TxOwned.start ?_ ?_ h.txFree.2.2
  · rw [h.txFree.1, BufferPool.length_addrs]
  · rw [h.txFree.2.1, BufferPool.length_addrs]

/-- Nothing was sent by then. -/
theorem Holdings.Attached.txInvariant {H : Holdings} {config : Config} (h : H.Attached config) :
    TxInvariant [] H where
  owned := h.txOwned
  distinct := List.nodup_nil
  flying := nofun

/-- Throughout every run of an attached card in which no completion is made up for a buffer of the
pool, each transmit buffer is accounted for. -/
theorem Device.txBuffers_accounted {h h' : Host Board} {name : String} {address : PciAddress}
    {baseHdwr baseLen : Nat} {config : Config} {d : Device} (hidle : h.Idle)
    (hattach : attach h name address baseHdwr baseLen config = (.ok d, h')) {past : List Happening}
    {c : Card Board} (hrun : Run (fun _ c m => m.SparesTx c.device.txPool.addrs) ⟨h', d⟩ past c) :
    c.device.txPool.size = config.txCount ∧ TxAccounted past c := by
  have hattached := attached hidle hattach
  obtain ⟨hsound, hinv⟩ := hrun.invariant (fun past c => c.holdings.Sound ∧ TxInvariant past c.holdings)
    ⟨hattached.sound, hattached.txInvariant⟩
    fun _ c m ⟨hsound, hinv⟩ hm => ⟨(c.step hsound m).sound hsound, c.txInvariant_play hsound hinv m hm⟩
  refine ⟨?_, hinv.accounted hsound⟩
  have hsame : c.device.txPool.addrs.length = d.txPool.addrs.length :=
    congrArg List.length (Card.addrs_of_run hrun hattached.sound).1
  rw [← BufferPool.length_addrs, hsame, BufferPool.length_addrs]
  exact hattached.txSize.1

/-- A frame for a lane that does not exist takes the first of two buffers for good, and the other is
found free. -/
theorem Device.txBuffers_accounted_small :
    ∃ past c, Run (fun _ c m => m.SparesTx c.device.txPool.addrs) Card.small past c ∧
      past.length = 2 ∧ abandonedIn past = [0] ∧ c.device.txFree.toList = [1] ∧
        c.device.txPool.size = 2 ∧ TxAccounted past c := by
  have hrun : Run (fun _ c m => m.SparesTx c.device.txPool.addrs) Card.small _ _ :=
    (Run.nil.snoc (.openSession false) trivial).snoc (.call .sleeps .empty (.send 9#32 0#32 [7#32])) trivial
  obtain ⟨hsize, haccounted⟩ := txBuffers_accounted (Host.idle_powerUp _ _) attachSmall_eq hrun
  exact ⟨_, _, hrun, rfl, rfl, rfl, hsize, haccounted⟩

end LaneCard
