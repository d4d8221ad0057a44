import LaneCard.Proofs.ReceiveOwnership
import LaneCard.Proofs.Steps

/-!
# Every receive buffer is in one place

A receive buffer is in the free list of a lane, on its way to the driver, readable, or taken out of
the card by hand; it is never in two of these places, and never lost. A frame that is received, that
finds nobody to read it, or that is left when a session ends gives its buffer back at the end of the
free list of its lane, and nothing else does. All that is asked of a run is that descriptors are only
made up for buffers that were taken out by hand, or for memory that is no buffer of the pool.
-/

namespace LaneCard

/-! ## What a move does with received frames -/

namespace Holdings

/-- The descriptors that the handler took off the FIFO and whose buffers it knows. -/
def arrivals (H : Holdings) (m : Move) (H' : Holdings) : List RxDescriptor :=
  match m with
  | .serve _ => (H.rxReturns.take (H.rxReturns.length - H'.rxReturns.length)).filterMap H.matched?
  | _ => []

/-- The frame that a call has taken. -/
def consumption (H : Holdings) (m : Move) (o : Outcome) : List RxDescriptor :=
  match m with
  | .call .. => if o.consumes then H.unread.take 1 else []
  | _ => []

/-- The frames that nobody has read when the session ends. -/
def leftovers (H : Holdings) (m : Move) : List RxDescriptor :=
  match m with
  | .closeSession => H.unread
  | _ => []

/-- Whether the card is open after a move with the given answer. -/
def opensTo (H : Holdings) (m : Move) (o : Outcome) : Bool :=
  match m, o with
  | .openSession _, .nothing => true
  | .closeSession, _ => false
  | _, _ => H.isOpen

/-- The addresses that are out of the card by hand after a move. -/
def takenAfter (H : Holdings) (m : Move) (taken : List Word) : List Word :=
  match m with
  | .takeFree lane => taken ++ (H.free lane).take 1
  | .injectRx desc => taken.erase desc.target
  | _ => taken

/-- Received frames pass through the card in order: those that arrive are queued if the card is open,
and turned away otherwise; those that are taken, or left at the end of the session, leave the
queue at its front. Every frame that leaves or is turned away gives its buffer back once. -/
structure Flow (H : Holdings) (m : Move) (o : Outcome) (H' : Holdings) : Prop where
  isOpen : H'.isOpen = H.opensTo m o
  /-- Only a card that is not open can be opened. -/
  wasClosed : ∀ nonblock, m = .openSession nonblock → o = .nothing → H.isOpen = false
  unread : H.unread ++ (if H.isOpen then H.arrivals m H' else []) =
    H.consumption m o ++ H.leftovers m ++ H'.unread
  dropped : H'.dropped =
    H.dropped + (H.leftovers m).length + (if H.isOpen then [] else H.arrivals m H').length
  free : ∀ lane, ∃ kept, kept <:+ H.free lane ∧
    H'.free lane = returnTo (fun _ => kept)
      (H.consumption m o ++ H.leftovers m ++ if H.isOpen then [] else H.arrivals m H') lane
  /-- A call that takes a frame reports it. -/
  reports : ∀ patience memory call, m = .call patience memory call → o.consumes = true →
    ∃ d, H.consumption m o = [d] ∧ o.Reports d.toFrameMeta

/-- A move that neither files nor takes frames lets none pass. -/
theorem Flow.quiet {H H' : Holdings} {m : Move} {o : Outcome} (hopen : H'.isOpen = H.opensTo m o)
    (hclosed : ∀ nonblock, m = .openSession nonblock → o = .nothing → H.isOpen = false)
    (hunread : H'.unread = H.unread) (hdropped : H'.dropped = H.dropped)
    (hfree : ∀ lane, H'.free lane <:+ H.free lane) (harrivals : H.arrivals m H' = [])
    (hconsumption : H.consumption m o = []) (hleftovers : H.leftovers m = [])
    (hreports : ∀ patience memory call, m = .call patience memory call → o.consumes = false) :
    Flow H m o H' where
  isOpen := hopen
  wasClosed := hclosed
  unread := by rw [harrivals, hconsumption, hleftovers, hunread, ite_self, List.append_nil]; rfl
  dropped := by rw [harrivals, hleftovers, hdropped, ite_self]; rfl
  free lane := by
    refine ⟨H'.free lane, hfree lane, ?_⟩
    rw [harrivals, hconsumption, hleftovers, ite_self]
    exact (congrFun (returnTo_nil _) lane).symm
  reports patience memory call hm ho := by
    rw [hreports patience memory call hm] at ho
    contradiction

/-- A move after which the card is not open leaves no readable frame, if there is none on a card that
is not open. -/
theorem Flow.idle {H H' : Holdings} {m : Move} {o : Outcome} (h : H.Flow m o H')
    (hidle : H.isOpen = false → H.unread = []) (hclosed : H'.isOpen = false) : H'.unread = [] := by
  have hunread := h.unread
  rw [h.isOpen] at hclosed
  by_cases hopen : H.isOpen = true
  · unfold opensTo at hclosed
    split at hclosed
    · contradiction
    · simp only [arrivals, consumption, leftovers, ite_self, List.append_nil, List.nil_append] at hunread
      exact List.self_eq_append_right.mp hunread
    · rw [hopen] at hclosed
      contradiction
  · rw [hidle (Bool.not_eq_true _ ▸ hopen), if_neg hopen, List.append_nil] at hunread
    exact (List.append_eq_nil_iff.mp hunread.symm).2

/-- A frame that is sent leaves readable frames alone; if it comes back, it is stored in the first free
buffer of some lane. -/
theorem Sent.rx_eq {H H' : Holdings} {looped : Bool} {lane vc size : Word} {data : Bytes}
    (h : H.Sent looped lane vc size data H') :
    (H'.rxPool = H.rxPool ∧ H'.rxReady = H.rxReady ∧ H'.isOpen = H.isOpen ∧ H'.dropped = H.dropped) ∧
      ((H'.free = H.free ∧ H'.rxReturns = H.rxReturns) ∨
        ∃ k rest desc, k < laneCount ∧ desc.addr ∈ H.rxPool.addrs ∧ H.free k = desc.addr :: rest ∧
          H'.free = Function.update H.free k rest ∧
            H'.rxReturns = H.rxReturns ++ [RxDescriptor.encode desc]) := by
  cases h with
  | discarded => exact ⟨⟨rfl, rfl, rfl, rfl⟩, .inl ⟨rfl, rfl⟩⟩
  | gone => exact ⟨⟨rfl, rfl, rfl, rfl⟩, .inl ⟨rfl, rfl⟩⟩
  | back i b memory _ hlane hi hb hwrite hloop hdelivery =>
    cases hdelivery with
    | dropped => exact ⟨⟨rfl, rfl, rfl, rfl⟩, .inl ⟨rfl, rfl⟩⟩
    | stored k rest store _ hk hstore hfree =>
      exact ⟨⟨rfl, rfl, rfl, rfl⟩,
        .inr ⟨k, rest, arrival _ _ _ _ store.addr, hk, List.mem_map_of_mem hstore, hfree, rfl, rfl⟩⟩

/-- Taking the first of a list leaves the end of every list. -/
theorem suffix_of_update {free : Nat → List Word} {k : Nat} {addr : Word} {rest : List Word}
    (hlist : free k = addr :: rest) (lane : Nat) : Function.update free k rest lane <:+ free lane := by
  rw [Function.update_apply]
  split
  · rename_i hlane
    rw [hlane, hlist]
    exact List.suffix_cons _ _
  · exact List.suffix_refl _

/-- A move that does nothing to the buffers lets no frame pass. -/
theorem Flow.of_idle {H : Holdings} {m : Move} {o : Outcome} (hidle : Idle m o) : H.Flow m o H := by
  refine .quiet ?_ ?_ rfl rfl (fun _ => List.suffix_refl _) ?_ ?_ ?_ ?_
  · unfold opensTo
    split
    · exact absurd rfl hidle
    · exact hidle.elim
    · rfl
  · rintro nonblock rfl rfl
    exact absurd rfl hidle
  · unfold arrivals
    split
    · exact hidle.elim
    · rfl
  · unfold consumption
    split
    · rw [if_neg (by rw [hidle.1]; exact Bool.false_ne_true)]
    · rfl
  · unfold leftovers
    split
    · exact hidle.elim
    · rfl
  · rintro patience memory call rfl
    exact hidle.1

/-- Nor does a frame that is sent: if it comes back, it arrives only when the handler finds it. -/
theorem Sent.flow {H H' : Holdings} {looped : Bool} {lane vc size : Word} {data : Bytes}
    (h : H.Sent looped lane vc size data H') (patience : Patience) (memory : CallerMemory) (call : Call)
    (n : Nat) : H.Flow (.call patience memory call) (.number n) H' := by
  obtain ⟨⟨hpool, hready, hopen, hdropped⟩, hfree⟩ := h.rx_eq
  have hunread : H'.unread = H.unread := by simp only [unread, framesIn, hpool, hready]
  refine .quiet hopen (by simp) hunread hdropped ?_ rfl rfl rfl (fun _ _ _ _ => rfl)
  rcases hfree with ⟨hsame, -⟩ | ⟨k, rest, desc, -, -, hlist, hless, -⟩
  · exact fun lane => hsame ▸ List.suffix_refl _
  · exact fun lane => hless ▸ suffix_of_update hlist lane

/-- A call that takes a frame takes the first of those to be read. -/
theorem Flow.of_taken {H : Holdings} {patience : Patience} {memory : CallerMemory} {call : Call} {o : Outcome}
    {i : Nat} {b : Buffer} (ho : o.consumes = true) (hreport : o.Reports b.frame)
    (hi : H.rxReady.peek? = some i) (hb : H.rxPool.buffers[i]? = some b) :
    H.Flow (.call patience memory call) o (H.consumed ⟨b.frame, b.addr⟩) := by
  have hunread := unread_eq_cons hi hb
  have hone : H.consumption (.call patience memory call) o = [⟨b.frame, b.addr⟩] := by
    rw [consumption, if_pos ho, hunread, List.take_succ_cons, List.take_zero]
  have hleft : (H.consumed ⟨b.frame, b.addr⟩).unread = H.framesIn H.rxReady.drop.toList := rfl
  exact
    { isOpen := rfl
      wasClosed := by simp
      unread := by
        rw [hone, hunread, hleft]
        simp [arrivals, leftovers]
      dropped := by simp [arrivals, leftovers, consumed]
      free := fun lane => by
        refine ⟨H.free lane, List.suffix_refl _, ?_⟩
        rw [hone]
        simp [arrivals, leftovers, consumed, returnTo]
      reports := fun _ _ _ _ _ => ⟨_, hone, hreport⟩ }

/-- The end of a session leaves all frames that were to be read. -/
theorem Flow.of_closed {H : Holdings} {taken : List Word} (howned : H.RxOwned taken) {ring : Ring}
    (hempty : ring.toList = []) : H.Flow .closeSession .nothing (H.closed ring) := by
  have hnone : (H.closed ring).unread = [] := by
    change H.framesIn ring.toList = []
    rw [hempty]
    rfl
  exact
    { isOpen := rfl
      wasClosed := by simp
      unread := by
        rw [hnone]
        simp [arrivals, leftovers, consumption]
      dropped := by simp [arrivals, leftovers, Holdings.closed, howned.length_unread]
      free := fun lane => by
        refine ⟨H.free lane, List.suffix_refl _, ?_⟩
        simp [arrivals, leftovers, consumption, Holdings.closed, returnTo]
      reports := by simp }

/-- The handler queues the frames that arrive, or turns them away. -/
theorem Drained.flow {H H' : Holdings} {words : List Word} {pairs : List (Word × Word)}
    (hdrained : H.Drained words pairs H') (hdistinct : H.rxPool.addrs.Nodup) {taken : List Word}
    (howned : H.RxOwned taken) (n : Nat) : H.Flow (.serve n) .nothing H' := by
  obtain ⟨-, hfiled⟩ := howned.drained hdistinct hdrained
  have harrivals : H.arrivals (.serve n) H' = pairs.filterMap H.matched? := by
    rw [arrivals, hdrained.rxReturns, List.length_append, Nat.add_sub_cancel, List.take_left]
  exact
    { isOpen := hfiled.isOpen
      wasClosed := by simp
      unread := by
        rw [harrivals, hfiled.unread]
        simp only [consumption, leftovers, List.nil_append]
        split
        · rfl
        · rw [List.append_nil]
      dropped := by
        rw [harrivals, hfiled.dropped]
        simp only [leftovers, List.length_nil, Nat.add_zero]
        split <;> simp
      free := fun lane => by
        refine ⟨H.free lane, List.suffix_refl _, ?_⟩
        rw [harrivals, hfiled.free]
        simp only [consumption, leftovers, List.nil_append]
        split
        · exact (congrFun (returnTo_nil _) lane).symm
        · rfl
      reports := by simp }

/-- Every move lets received frames pass in order. -/
theorem Step.flow {H H' : Holdings} {m : Move} {o : Outcome} (h : H.Step m o H') (hsound : H.Sound)
    {taken : List Word} (howned : H.RxOwned taken) : H.Flow m o H' := by
  cases h with
  | idle _ _ hidle => exact .of_idle hidle
  | opened nonblock hclosed =>
    exact .quiet rfl (fun _ _ _ => hclosed) rfl rfl (fun _ => List.suffix_refl _) rfl rfl rfl (by simp)
  | closed ring hempty => exact .of_closed howned hempty
  | sent patience memory call n looped lane vc size data _ hcall hsent => exact hsent.flow patience memory call n
  | took patience memory call _ i b hcall ho hreport hi hb => exact .of_taken ho hreport hi hb
  | lifted lane addr rest hlane hlist =>
    exact .quiet rfl (by simp) rfl rfl (suffix_of_update hlist) rfl rfl rfl (by simp)
  | held | given | missed | injectedRx | injectedTx =>
    exact .quiet rfl (by simp) rfl rfl (fun _ => List.suffix_refl _) rfl rfl rfl (by simp)
  | served n words pairs _ hdrained => exact hdrained.flow hsound.rxHeld.distinct howned n

end Holdings

/-- The move makes up no frame in a buffer of the pool, unless the buffer is out of the card. -/
def Move.SparesRx (addrs taken : List Word) : Move → Prop
  | .injectRx desc => desc.target ∈ taken ∨ desc.target ∉ addrs
  | _ => True

namespace Holdings

/-- Every move that makes up no such frame keeps every buffer in one place. -/
theorem Step.rxOwned {H H' : Holdings} {m : Move} {o : Outcome} (h : H.Step m o H') (hsound : H.Sound)
    {taken : List Word} (howned : H.RxOwned taken) (hm : m.SparesRx H.rxPool.addrs taken) :
    H'.RxOwned (H.takenAfter m taken) := by
  cases h with
  | idle _ _ hidle =>
    have hsame : H.takenAfter m taken = taken := by
      unfold takenAfter
      split
      · exact hidle.elim
      · exact hidle.elim
      · rfl
    rwa [hsame]
  | opened => exact { howned with }
  | closed ring hempty hcapacity hcollisions => exact howned.close hempty hcapacity hcollisions
  | sent patience memory call n looped lane vc size data _ hcall hsent =>
    obtain ⟨⟨hpool, hready, -, -⟩, hplaces⟩ := hsent.rx_eq
    have hstill (K : Holdings) (hK : K.RxOwned taken) (hpool : H'.rxPool = K.rxPool)
        (hready : H'.rxReady = K.rxReady) (hfree : H'.free = K.free) (hreturns : H'.rxReturns = K.rxReturns) :
        H'.RxOwned taken :=
      { once := by simpa only [rxPlaces, unread, framesIn, hpool, hready, hfree, hreturns] using hK.once
        inRange := by simpa only [hpool, hready] using hK.inRange
        valid := by simpa only [hreturns] using hK.valid
        capacity := by simpa only [hpool, hready] using hK.capacity
        collisions := by simpa only [hready] using hK.collisions }
    rcases hplaces with ⟨hfree, hreturns⟩ | ⟨k, rest, desc, hk, hknown, hlist, hfree, hreturns⟩
    · exact hstill H howned hpool hready hfree hreturns
    · have htarget : desc.target = desc.addr := desc.target_of_aligned (hsound.rxHeld.aligned_of_mem_addrs hknown)
      exact hstill _ (howned.store hk (htarget.symm ▸ hlist)) hpool hready hfree hreturns
  | took patience memory call o i b hcall ho hreport hi hb => exact howned.consume hi hb
  | held => exact { howned with }
  | given => exact { howned with }
  | lifted lane addr rest hlane hlist =>
    have htaken : H.takenAfter (.takeFree lane) taken = taken ++ [addr] := by
      rw [takenAfter, hlist, List.take_succ_cons, List.take_zero]
    rw [htaken]
    exact howned.lift hlane hlist
  | missed lane hlist =>
    have htaken : H.takenAfter (.takeFree lane) taken = taken := by
      rw [takenAfter, hlist, List.take_nil, List.append_nil]
    rwa [htaken]
  | injectedRx desc => exact howned.inject hm
  | injectedTx => exact { howned with }
  | served n words pairs _ hdrained => exact (howned.drained hsound.rxHeld.distinct hdrained).1

/-- A descriptor that arrives names one of the eight lanes. -/
theorem lane_lt_of_mem_arrivals {H H' : Holdings} {m : Move} {d : RxDescriptor} (hd : d ∈ H.arrivals m H') :
    d.lane.toNat < laneCount := by
  unfold arrivals at hd
  split at hd
  · obtain ⟨pair, -, hmatched⟩ := List.mem_filterMap.mp hd
    have hdecode := (find?_of_matched? hmatched).1
    unfold RxDescriptor.decode? at hdecode
    split at hdecode
    · obtain rfl := Option.some.inj hdecode
      exact Nat.lt_succ_of_le (RxWordA.lane.toNat_get_le pair.1)
    · contradiction
  · contradiction

end Holdings

/-! ## What has happened to received frames -/

namespace Happening

/-- The descriptors that the handler took off the FIFO and whose buffers it knows. -/
def arrivals (h : Happening) : List RxDescriptor := h.before.holdings.arrivals h.move h.after.holdings

/-- The frame that the move, a call, has taken. -/
def consumption (h : Happening) : List RxDescriptor := h.before.holdings.consumption h.move h.outcome

/-- The frames that were left when the move ended the session. -/
def leftovers (h : Happening) : List RxDescriptor := h.before.holdings.leftovers h.move

/-- The frames whose buffers the move gave back: the one that a call took, those left when the session
ended, and those that arrived while the card was not open. -/
def returned (h : Happening) : List RxDescriptor :=
  h.consumption ++ h.leftovers ++ if h.before.device.isOpen then [] else h.arrivals

end Happening

/-- The descriptors that have arrived so far. -/
def arrivedIn (past : List Happening) : List RxDescriptor := past.flatMap Happening.arrivals

/-- The frames whose buffers were given back so far. -/
def returnedIn (past : List Happening) : List RxDescriptor := past.flatMap Happening.returned

/-- The addresses that are out of the card by hand: they were taken off a free list, and no frame was
made up in them since. -/
def takenIn (past : List Happening) : List Word :=
  past.foldl (fun taken h => h.before.holdings.takenAfter h.move taken) []

/-- What holds of the receive buffers at every time of a run. -/
structure RxInvariant (past : List Happening) (H : Holdings) : Prop where
  owned : H.RxOwned (takenIn past)
  /-- A card that is not open has no readable frame. -/
  idle : H.isOpen = false → H.unread = []
  conserved : (arrivedIn past).Perm (returnedIn past ++ H.unread)
  lanes : ∀ d ∈ arrivedIn past, d.lane.toNat < laneCount
  flow : ∀ h ∈ past, h.before.holdings.Flow h.move h.outcome h.after.holdings

/-- The addresses that are out of the card after one more move. -/
theorem takenIn_append (past : List Happening) (h : Happening) :
    takenIn (past ++ [h]) = h.before.holdings.takenAfter h.move (takenIn past) := by
  rw [takenIn, List.foldl_append]
  rfl

namespace Happening

/-- What arrives with a move and was readable before is given back or readable after it. -/
theorem perm_of_flow {h : Happening} (hflow : h.before.holdings.Flow h.move h.outcome h.after.holdings) :
    (h.before.holdings.unread ++ h.arrivals).Perm (h.returned ++ h.after.holdings.unread) := by
  have hopen : h.before.holdings.isOpen = h.before.device.isOpen := rfl
  have hunread := hflow.unread
  unfold returned consumption leftovers
  rw [hopen] at hunread
  by_cases hcard : h.before.device.isOpen = true
  · rw [if_pos hcard] at hunread ⊢
    rw [List.append_nil]
    exact List.Perm.of_eq hunread
  · rw [if_neg hcard] at hunread ⊢
    rw [List.append_nil] at hunread
    rw [hunread, List.append_assoc _ h.after.holdings.unread, List.append_assoc _ h.arrivals]
    exact List.perm_append_comm.append_left _

end Happening

namespace RxInvariant

variable {past : List Happening} {c : Card Board}

/-- Every move that makes up no frame in a buffer of the pool keeps the invariant. -/
theorem play (hinv : RxInvariant past c.holdings) (hsound : c.holdings.Sound) (m : Move)
    (hm : m.SparesRx c.holdings.rxPool.addrs (takenIn past)) :
    RxInvariant (past ++ [⟨c, m⟩]) (c.play m).2.holdings := by
  have hstep := c.step hsound m
  have hflow := hstep.flow hsound hinv.owned
  have hperm := Happening.perm_of_flow (h := ⟨c, m⟩) hflow
  have harrived : arrivedIn (past ++ [⟨c, m⟩]) = arrivedIn past ++ (⟨c, m⟩ : Happening).arrivals := by
    simp [arrivedIn]
  have hreturned : returnedIn (past ++ [⟨c, m⟩]) = returnedIn past ++ (⟨c, m⟩ : Happening).returned := by
    simp [returnedIn]
  refine ⟨?_, ?_, ?_, ?_, ?_⟩
  · rw [takenIn_append]
    exact hstep.rxOwned hsound hinv.owned hm
  · exact hflow.idle hinv.idle
  · rw [harrived, hreturned, List.append_assoc]
    refine (hinv.conserved.append_right _).trans ?_
    rw [List.append_assoc]
    exact hperm.append_left _
  · rw [harrived]
    intro d hd
    rcases List.mem_append.mp hd with hold | hnew
    · exact hinv.lanes d hold
    · exact Holdings.lane_lt_of_mem_arrivals hnew
  · intro h hh
    rcases List.mem_append.mp hh with hold | hnew
    · exact hinv.flow h hold
    · obtain rfl := List.mem_singleton.mp hnew
      exact hflow

end RxInvariant

/-! ## Every run -/

/-- Nothing has happened to a card that has just been attached. -/
theorem Holdings.Attached.rxInvariant {H : Holdings} {config : Config} (h : H.Attached config) :
    RxInvariant [] H where
  owned := h.rxOwned
  idle _ := h.unread_eq_nil
  conserved := by
    rw [h.unread_eq_nil]
    exact List.Perm.refl _
  lanes _ hd := (List.not_mem_nil hd).elim
  flow _ hh := (List.not_mem_nil hh).elim

/-- The moves of a run that makes up frames only in buffers that are out of the card by hand, or in
memory that is no buffer of the pool. -/
abbrev RxAllowed (past : List Happening) (c : Card Board) (m : Move) : Prop :=
  m.SparesRx c.device.rxPool.addrs (takenIn past)

/-- The invariant holds throughout such a run of an attached card. -/
theorem Device.rxInvariant_of_run {h h' : Host Board} {name : String} {address : PciAddress}
    {baseHdwr baseLen : Nat} {config : Config} {d : Device} (hidle : h.Idle)
    (hattach : attach h name address baseHdwr baseLen config = (.ok d, h')) {past : List Happening}
    {c : Card Board} (hrun : Run RxAllowed ⟨h', d⟩ past c) :
    c.holdings.Sound ∧ RxInvariant past c.holdings := by
  have hattached := attached hidle hattach
  exact hrun.invariant (fun past c => c.holdings.Sound ∧ RxInvariant past c.holdings)
    ⟨hattached.sound, hattached.rxInvariant⟩
    fun _ c m ⟨hsound, hinv⟩ hm => ⟨(c.step hsound m).sound hsound, hinv.play hsound m hm⟩

/-- Throughout such a run there are as many receive buffers as were configured. -/
theorem Device.rxPool_size_of_run {h h' : Host Board} {name : String} {address : PciAddress}
    {baseHdwr baseLen : Nat} {config : Config} {d : Device} (hidle : h.Idle)
    (hattach : attach h name address baseHdwr baseLen config = (.ok d, h')) {past : List Happening}
    {c : Card Board} (hrun : Run RxAllowed ⟨h', d⟩ past c) : c.device.rxPool.size = config.rxCount := by
  have hattached := attached hidle hattach
  have hsame : c.device.rxPool.addrs.length = d.rxPool.addrs.length :=
    congrArg List.length (Card.addrs_of_run hrun hattached.sound).2
  rw [← BufferPool.length_addrs, hsame, BufferPool.length_addrs]
  exact hattached.rxSize.1

/-- What a move has given back to the card: each buffer once, at the end of the free list that the
lane of its frame numbers; all that the card itself does is take buffers off the front of a list. -/
structure Happening.GivesBack (h : Happening) : Prop where
  lanes : ∀ d ∈ h.returned, d.lane.toNat < laneCount
  free : ∀ lane, ∃ kept, kept <:+ h.before.host.bus.freeList lane ∧
    h.after.host.bus.freeList lane =
      kept ++ (h.returned.filter fun d => d.lane.toNat == lane).map RxDescriptor.addr
  /-- A call that takes a frame gives back one buffer. -/
  received : ∀ patience memory call, h.move = .call patience memory call → h.outcome.consumes = true →
    h.returned.length = 1

/-- Where the receive buffers of a card are after what has happened to it. -/
structure RxAccounted (past : List Happening) (c : Card Board) : Prop where
  /-- Each buffer is in one place: in the free list of one lane, in the FIFO of received frames, in
  the ring of readable frames, or out of the card by hand. -/
  once : ∀ i addr, c.device.rxPool.addrs[i]? = some addr →
    (allFree c.host.bus.freeList).count addr + (c.host.bus.rxReturns.map RxDescriptor.wordAddr).count addr +
      c.device.rxReady.toList.count i + (takenIn past).count addr = 1
  inRange : ∀ i ∈ c.device.rxReady.toList, i < c.device.rxPool.size
  collisions : c.device.rxReady.collisions = 0
  /-- No buffer is offered to the card while the frame in it is to be read. -/
  apart : ∀ d ∈ c.holdings.unread, d.addr ∉ allFree c.host.bus.freeList
  /-- Every frame that has arrived is to be read, or its buffer was given back, and not both. -/
  conserved : (arrivedIn past).Perm (returnedIn past ++ c.holdings.unread)
  givesBack : ∀ h ∈ past, h.GivesBack

/-- What holds of the buffers at every time says where they are. -/
theorem RxInvariant.accounted {past : List Happening} {c : Card Board} (hinv : RxInvariant past c.holdings)
    (hsound : c.holdings.Sound) : RxAccounted past c where
  once i addr haddr := by
    have hone := hinv.owned.once addr (List.mem_of_getElem? haddr)
    rw [Holdings.count_rxPlaces, Holdings.unread, Holdings.map_addr_framesIn,
      count_filterMap_getElem? hsound.rxHeld.distinct haddr] at hone
    exact hone
  inRange i hi := by
    rw [← BufferPool.length_addrs]
    exact hinv.owned.inRange i hi
  collisions := hinv.owned.collisions
  apart d hd := hinv.owned.not_free_of_unread hd
  conserved := hinv.conserved
  givesBack h hh := by
    have hflow := hinv.flow h hh
    have hlanes (d : RxDescriptor) (hd : d ∈ h.returned) : d.lane.toNat < laneCount := by
      apply hinv.lanes d
      apply hinv.conserved.symm.subset
      exact List.mem_append_left _ (List.mem_flatMap.mpr ⟨h, hh, hd⟩)
    refine ⟨hlanes, fun lane => ?_, ?_⟩
    · obtain ⟨kept, hkept, hfree⟩ := hflow.free lane
      refine ⟨kept, hkept, hfree.trans ?_⟩
      unfold returnTo
      congr 2
      apply List.filter_congr
      intro d hd
      rw [Nat.mod_eq_of_lt (hlanes d hd)]
    · intro patience memory call hmove houtcome
      obtain ⟨d, hone, -⟩ := hflow.reports patience memory call hmove houtcome
      unfold Happening.returned Happening.consumption Happening.leftovers Happening.arrivals
      rw [hone, hmove]
      simp [Holdings.leftovers, Holdings.arrivals]

/-- Throughout every run of an attached card that makes up frames only in buffers that are out of the
card, each receive buffer is accounted for. -/
theorem Device.rxBuffers_accounted {h h' : Host Board} {name : String} {address : PciAddress}
    {baseHdwr baseLen : Nat} {config : Config} {d : Device} (hidle : h.Idle)
    (hattach : attach h name address baseHdwr baseLen config = (.ok d, h')) {past : List Happening}
    {c : Card Board} (hrun : Run RxAllowed ⟨h', d⟩ past c) :
    c.device.rxPool.size = config.rxCount ∧ RxAccounted past c := by
  obtain ⟨hsound, hinv⟩ := rxInvariant_of_run hidle hattach hrun
  exact ⟨rxPool_size_of_run hidle hattach hrun, hinv.accounted hsound⟩

/-- A buffer that was taken off lane 0 comes in with a frame of lane 3, and goes to the list of lane 3
because nobody has the card open. -/
theorem Device.rxBuffers_accounted_small :
    ∃ past c, Run RxAllowed Card.small past c ∧ past.length = 3 ∧
      returnedIn past = [⟨⟨3#32, 1#32, 2#32, FrameFlags.none⟩, 0x10002000#32⟩] ∧
        c.host.bus.freeList 0 = [] ∧ c.host.bus.freeList 3 = [0x10002000#32] ∧
          c.device.rxPool.size = 2 ∧ RxAccounted past c := by
  have hrun : Run RxAllowed Card.small _ _ :=
    ((Run.nil.snoc (.takeFree 0) trivial).snoc
      (.injectRx ⟨⟨3#32, 1#32, 2#32, FrameFlags.none⟩, 0x10002000#32⟩)
        (.inl (by decide))).snoc (.serve 1) trivial
  obtain ⟨hsize, haccounted⟩ := rxBuffers_accounted (Host.idle_powerUp _ _) attachSmall_eq hrun
  exact ⟨_, _, hrun, rfl, by decide +kernel, by decide +kernel, by decide +kernel, hsize, haccounted⟩

end LaneCard
