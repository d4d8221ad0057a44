import LaneCard.Card.Completion
import LaneCard.Proofs.Holdings

/-!
# What the completion handler does to the buffers

The handler takes words off the front of the two completion FIFOs, one after the other, and files
each: a returned transmit buffer becomes free, and a received frame becomes readable or is given
back. However often it is called, what it has done is such a sequence, so that a property that holds
after each word holds after the handler.
-/

namespace LaneCard

namespace Holdings

/-- A word of the transmit FIFO was filed. -/
def takeTx (H : Holdings) (word : Word) : Holdings :=
  match (TxReturn.decode? word).bind H.txPool.find? with
  | some i => { H with txFree := (H.txFree.push i).2 }
  | none => H

/-- The descriptor in a pair of words, if it names a buffer of the receive pool. -/
def matched? (H : Holdings) (pair : Word × Word) : Option RxDescriptor :=
  (RxDescriptor.decode? pair.1 pair.2).filter fun d => (H.rxPool.find? d.addr).isSome

/-- A received frame was filed. -/
def takeRx (H : Holdings) (pair : Word × Word) : Holdings :=
  match H.matched? pair with
  | some d =>
    if H.isOpen then
      { H with
        rxPool := H.rxPool.setFrame ((H.rxPool.find? d.addr).getD 0) d.toFrameMeta
        rxReady := (H.rxReady.push ((H.rxPool.find? d.addr).getD 0)).2 }
    else { H with free := returnTo H.free [d], dropped := H.dropped + 1 }
  | none => H

/-- Words were taken off the front of the two FIFOs and filed. -/
inductive Drained : Holdings → List Word → List (Word × Word) → Holdings → Prop
  | nil (H : Holdings) : Drained H [] [] H
  | tx {H H' : Holdings} {word : Word} {rest words : List Word} {pairs : List (Word × Word)}
      (hlist : H.txReturns = word :: rest)
      (htail : Drained (takeTx { H with txReturns := rest } word) words pairs H') :
      Drained H (word :: words) pairs H'
  | rx {H H' : Holdings} {pair : Word × Word} {rest pairs : List (Word × Word)} {words : List Word}
      (hlist : H.rxReturns = pair :: rest)
      (htail : Drained (takeRx { H with rxReturns := rest } pair) words pairs H') :
      Drained H words (pair :: pairs) H'

/-- The handler may be called again. -/
theorem Drained.trans {H H' H'' : Holdings} {words words' : List Word} {pairs pairs' : List (Word × Word)}
    (h : Drained H words pairs H') (h' : Drained H' words' pairs' H'') :
    Drained H (words ++ words') (pairs ++ pairs') H'' := by
  induction h with
  | nil => exact h'
  | tx hlist _ ih => exact .tx hlist (ih h')
  | rx hlist _ ih => exact .rx hlist (ih h')

/-- Filing a transmit word takes none out of the transmit FIFO. -/
@[simp] theorem txReturns_takeTx (H : Holdings) (word : Word) : (H.takeTx word).txReturns = H.txReturns := by
  unfold takeTx
  split <;> rfl

/-- Nor out of the FIFO of received frames. -/
@[simp] theorem rxReturns_takeTx (H : Holdings) (word : Word) : (H.takeTx word).rxReturns = H.rxReturns := by
  unfold takeTx
  split <;> rfl

/-- Filing a received frame takes no word out of the transmit FIFO. -/
@[simp] theorem txReturns_takeRx (H : Holdings) (pair : Word × Word) :
    (H.takeRx pair).txReturns = H.txReturns := by
  unfold takeRx
  split
  · split <;> rfl
  · rfl

/-- Nor out of the FIFO of received frames. -/
@[simp] theorem rxReturns_takeRx (H : Holdings) (pair : Word × Word) :
    (H.takeRx pair).rxReturns = H.rxReturns := by
  unfold takeRx
  split
  · split <;> rfl
  · rfl

/-- What was taken and what is left make up the transmit FIFO. -/
theorem Drained.txReturns {H H' : Holdings} {words : List Word} {pairs : List (Word × Word)}
    (h : Drained H words pairs H') : H.txReturns = words ++ H'.txReturns := by
  induction h with
  | nil => rfl
  | tx hlist _ ih => rw [hlist, List.cons_append, ← ih, txReturns_takeTx]
  | rx hlist _ ih => rw [← ih, txReturns_takeRx]

/-- What was taken and what is left make up the FIFO of received frames. -/
theorem Drained.rxReturns {H H' : Holdings} {words : List Word} {pairs : List (Word × Word)}
    (h : Drained H words pairs H') : H.rxReturns = pairs ++ H'.rxReturns := by
  induction h with
  | nil => rfl
  | tx hlist _ ih => rw [← ih, rxReturns_takeTx]
  | rx hlist _ ih => rw [hlist, List.cons_append, ← ih, rxReturns_takeRx]

/-- Filing a transmit word changes the ring of free transmit buffers only. -/
theorem takeTx_eq (H : Holdings) (word : Word) : ∃ ring, H.takeTx word = { H with txFree := ring } := by
  unfold takeTx
  split
  · exact ⟨_, rfl⟩
  · exact ⟨H.txFree, rfl⟩

/-- Filing a received frame changes the receive side only, and moves no buffer of the pool. -/
theorem takeRx_eq (H : Holdings) (pair : Word × Word) :
    ∃ pool ready free dropped, pool.addrs = H.rxPool.addrs ∧ pool.bufferSize = H.rxPool.bufferSize ∧
      H.takeRx pair = { H with rxPool := pool, rxReady := ready, free := free, dropped := dropped } := by
  unfold takeRx
  split
  · split
    · exact ⟨_, _, _, _, BufferPool.addrs_setFrame _ _ _, BufferPool.bufferSize_setFrame _ _ _, rfl⟩
    · exact ⟨H.rxPool, _, _, _, rfl, rfl, rfl⟩
  · exact ⟨H.rxPool, H.rxReady, H.free, H.dropped, rfl, rfl, rfl⟩

/-- What filing one word leaves alone, the handler leaves alone. -/
theorem Drained.keeps {α : Type} (f : Holdings → α) {H H' : Holdings} {words : List Word}
    {pairs : List (Word × Word)} (h : Drained H words pairs H')
    (htx : ∀ (H : Holdings) returns ring, f { H with txReturns := returns, txFree := ring } = f H)
    (hrx : ∀ (H : Holdings) returns pool ready free dropped, pool.addrs = H.rxPool.addrs →
      pool.bufferSize = H.rxPool.bufferSize →
        f { H with rxReturns := returns, rxPool := pool, rxReady := ready, free := free, dropped := dropped } = f H) :
    f H' = f H := by
  induction h with
  | nil => rfl
  | @tx H _ word rest _ _ _ _ ih =>
    obtain ⟨ring, htaken⟩ := takeTx_eq { H with txReturns := rest } word
    rw [ih, htaken]
    exact htx H rest ring
  | @rx H _ pair rest _ _ _ _ ih =>
    obtain ⟨pool, ready, free, dropped, haddrs, hsize, htaken⟩ := takeRx_eq { H with rxReturns := rest } pair
    rw [ih, htaken]
    exact hrx H rest pool ready free dropped haddrs hsize

/-- The handler moves no buffer of either pool. -/
theorem Drained.addrs {H H' : Holdings} {words : List Word} {pairs : List (Word × Word)}
    (h : Drained H words pairs H') :
    H'.txPool.addrs = H.txPool.addrs ∧ H'.rxPool.addrs = H.rxPool.addrs :=
  ⟨h.keeps (·.txPool.addrs) (fun _ _ _ => rfl) (fun _ _ _ _ _ _ _ _ => rfl),
    h.keeps (·.rxPool.addrs) (fun _ _ _ => rfl) (fun _ _ _ _ _ _ haddrs _ => haddrs)⟩

/-- The handler touches neither the memory nor the sizes of the buffers. -/
theorem Drained.kept {H H' : Holdings} {words : List Word} {pairs : List (Word × Word)}
    (h : Drained H words pairs H') :
    H'.memory = H.memory ∧ H'.limit = H.limit ∧ H'.holding = H.holding ∧
      H'.txPool.bufferSize = H.txPool.bufferSize ∧ H'.rxPool.bufferSize = H.rxPool.bufferSize :=
  ⟨h.keeps (·.memory) (fun _ _ _ => rfl) (fun _ _ _ _ _ _ _ _ => rfl),
    h.keeps (·.limit) (fun _ _ _ => rfl) (fun _ _ _ _ _ _ _ _ => rfl),
    h.keeps (·.holding) (fun _ _ _ => rfl) (fun _ _ _ _ _ _ _ _ => rfl),
    h.keeps (·.txPool.bufferSize) (fun _ _ _ => rfl) (fun _ _ _ _ _ _ _ _ => rfl),
    h.keeps (·.rxPool.bufferSize) (fun _ _ _ => rfl) (fun _ _ _ _ _ _ _ hsize => hsize)⟩

/-- The handler submits nothing, and does not touch what is held back. -/
theorem Drained.tx_eq {H H' : Holdings} {words : List Word} {pairs : List (Word × Word)}
    (h : H.Drained words pairs H') :
    H'.txPool = H.txPool ∧ H'.heldTx = H.heldTx ∧ H'.submissions = H.submissions :=
  ⟨h.keeps (·.txPool) (fun _ _ _ => rfl) (fun _ _ _ _ _ _ _ _ => rfl),
    h.keeps (·.heldTx) (fun _ _ _ => rfl) (fun _ _ _ _ _ _ _ _ => rfl),
    h.keeps (·.submissions) (fun _ _ _ => rfl) (fun _ _ _ _ _ _ _ _ => rfl)⟩

/-- Filing a transmit word keeps the memory fit. -/
theorem Sound.takeTx {H : Holdings} (h : H.Sound) (word : Word) : (H.takeTx word).Sound := by
  unfold Holdings.takeTx
  split
  · exact { h with }
  · exact h

/-- A matched descriptor names a buffer of the pool. -/
theorem find?_of_matched? {H : Holdings} {pair : Word × Word} {d : RxDescriptor}
    (h : H.matched? pair = some d) :
    RxDescriptor.decode? pair.1 pair.2 = some d ∧ ∃ i, H.rxPool.find? d.addr = some i := by
  obtain ⟨hdecode, hfound⟩ := Option.filter_eq_some_iff.mp h
  exact ⟨hdecode, Option.isSome_iff_exists.mp hfound⟩

/-- Filing a received frame keeps the memory fit. -/
theorem Sound.takeRx {H : Holdings} (h : H.Sound) (pair : Word × Word) : (H.takeRx pair).Sound := by
  unfold Holdings.takeRx
  split
  · rename_i d hmatched
    obtain ⟨-, i, hi⟩ := find?_of_matched? hmatched
    split
    · exact { h.recordRx ((H.rxPool.find? d.addr).getD 0) d.toFrameMeta with }
    · have hknown : d.addr ∈ H.rxPool.addrs := by
        by_contra hunknown
        rw [(H.rxPool.find?_eq_none_iff d.addr).mpr hunknown] at hi
        contradiction
      have hreturned : ∀ x ∈ [d], x.addr ∈ H.rxPool.addrs := by simpa using hknown
      exact { h.returnTo hreturned with }
  · exact h

/-- The handler keeps the memory fit. -/
theorem Drained.sound {H H' : Holdings} {words : List Word} {pairs : List (Word × Word)}
    (h : Drained H words pairs H') (hsound : H.Sound) : H'.Sound := by
  induction h with
  | nil => exact hsound
  | @tx H _ word rest _ _ _ _ ih =>
    have hrest : Sound { H with txReturns := rest } := { hsound with }
    exact ih (hrest.takeTx word)
  | @rx H _ pair rest _ _ _ _ ih =>
    have hrest : Sound { H with rxReturns := rest } := { hsound with }
    exact ih (hrest.takeRx pair)

end Holdings

namespace Card

/-! ## The transmit FIFO -/

/-- Reading the transmit FIFO gives its first word and removes it. -/
theorem read_txRead (c : Card Board) (word : Word) (rest : List Word)
    (hlist : c.host.bus.txReturns = word :: rest) :
    c.read Offset.txRead =
      (word, { c with host := { c.host with bus := { c.host.bus with txReturns := rest } } }) := by
  have hlook : c.host.bus.look Offset.txRead = c.host.bus.txReturns.headD 0#32 := rfl
  have hfetch : c.host.bus.fetch Offset.txRead =
      { c.host.bus with txReturns := c.host.bus.txReturns.tail } := rfl
  have hread : c.read Offset.txRead =
      (c.host.bus.look Offset.txRead, { c with host := { c.host with bus := c.host.bus.fetch Offset.txRead } }) := rfl
  rw [hread, hlook, hfetch, hlist]
  rfl

/-- An empty transmit FIFO reads as a word that returns nothing, and stays empty. -/
theorem read_txRead_nil (c : Card Board) (hlist : c.host.bus.txReturns = []) :
    c.read Offset.txRead = (0#32, c) := by
  have hlook : c.host.bus.look Offset.txRead = c.host.bus.txReturns.headD 0#32 := rfl
  have hfetch : c.host.bus.fetch Offset.txRead =
      { c.host.bus with txReturns := c.host.bus.txReturns.tail } := rfl
  have hread : c.read Offset.txRead =
      (c.host.bus.look Offset.txRead, { c with host := { c.host with bus := c.host.bus.fetch Offset.txRead } }) := rfl
  have hsame : { c.host.bus with txReturns := [] } = c.host.bus := by rw [← hlist]
  rw [hread, hlook, hfetch, hlist, List.tail_nil, hsame]
  rfl

/-- From an empty transmit FIFO nothing is taken. -/
theorem takeTx_nil (n : Nat) (c : Card Board) (hlist : c.host.bus.txReturns = []) : takeTx n c = c := by
  cases n with
  | zero => rfl
  | succ n =>
    rw [takeTx, c.read_txRead_nil hlist]
    rfl

/-- A word that returns nothing is taken, and is the last. -/
theorem takeTx_of_none (n : Nat) (c : Card Board) {word : Word} {rest : List Word}
    (hlist : c.host.bus.txReturns = word :: rest) (hword : TxReturn.decode? word = none) :
    takeTx (n + 1) c = { c with host := { c.host with bus := { c.host.bus with txReturns := rest } } } := by
  rw [takeTx, c.read_txRead word rest hlist]
  dsimp only
  rw [hword]

/-- A word that returns a buffer is taken and filed, before others are. -/
theorem takeTx_of_some (n : Nat) (c : Card Board) {word addr : Word} {rest : List Word}
    (hlist : c.host.bus.txReturns = word :: rest) (hword : TxReturn.decode? word = some addr) :
    takeTx (n + 1) c =
      takeTx n (finishTx { c with host := { c.host with bus := { c.host.bus with txReturns := rest } } } addr) := by
  rw [takeTx, c.read_txRead word rest hlist]
  dsimp only
  rw [hword]

/-- A FIFO that is not ready is empty, so all words of it may be taken. -/
theorem drainTx_eq (c : Card Board) : c.drainTx = takeTx c.host.bus.txReturns.length c := by
  have hread : c.read (Offset.txStat + 4) = (Board.fifoWord c.host.bus.txReturns.length, c) :=
    Prod.ext rfl (c.read_of_isPlain (by decide))
  rw [drainTx, hread]
  dsimp only
  rw [Board.ready_fifoWord]
  split
  · rfl
  · rename_i hready
    have hempty : c.host.bus.txReturns.length = 0 := by simpa using hready
    rw [hempty, takeTx]

/-- A returned transmit buffer is filed. -/
theorem holdings_finishTx (c : Card Board) (word addr : Word) (hword : TxReturn.decode? word = some addr) :
    (c.finishTx addr).holdings = c.holdings.takeTx word := by
  unfold finishTx Holdings.takeTx
  rw [hword, Option.bind_some]
  change _ = match c.device.txPool.find? addr with
    | some i => _
    | none => _
  cases c.device.txPool.find? addr with
  | none => rfl
  | some i =>
    dsimp only
    rw [holdings_trace]
    split <;> rfl

/-- Taking words files them off the front of the transmit FIFO, and all of them if they are valid. -/
theorem drained_takeTx (n : Nat) (c : Card Board) :
    ∃ words, c.holdings.Drained words [] (takeTx n c).holdings ∧
      ((∀ w ∈ c.host.bus.txReturns, (TxReturn.decode? w).isSome) → c.host.bus.txReturns.length ≤ n →
        (takeTx n c).host.bus.txReturns = []) := by
  induction n generalizing c with
  | zero => exact ⟨[], .nil _, fun _ hn => List.eq_nil_of_length_eq_zero (Nat.le_zero.mp hn)⟩
  | succ n ih =>
    cases hlist : c.host.bus.txReturns with
    | nil =>
      rw [c.takeTx_nil _ hlist]
      exact ⟨[], .nil _, fun _ _ => hlist⟩
    | cons word rest =>
      set popped : Card Board := { c with host := { c.host with bus := { c.host.bus with txReturns := rest } } }
      cases hword : TxReturn.decode? word with
      | none =>
        have hfiled : Holdings.takeTx { c.holdings with txReturns := rest } word = popped.holdings := by
          unfold Holdings.takeTx
          rw [hword]
          rfl
        rw [c.takeTx_of_none n hlist hword]
        refine ⟨[word], .tx hlist (hfiled ▸ .nil _), fun hvalid _ => ?_⟩
        have := hvalid word List.mem_cons_self
        rw [hword] at this
        contradiction
      | some addr =>
        have hfiled := popped.holdings_finishTx word addr hword
        obtain ⟨words, hdrained, hall⟩ := ih (popped.finishTx addr)
        have hrest : (popped.finishTx addr).host.bus.txReturns = rest := by
          have hreturns := congrArg Holdings.txReturns hfiled
          rwa [Holdings.txReturns_takeTx] at hreturns
        rw [c.takeTx_of_some n hlist hword]
        rw [hfiled] at hdrained
        refine ⟨word :: words, .tx hlist hdrained, fun hvalid hn => hall ?_ ?_⟩
        · rw [hrest]
          exact fun w hw => hvalid w (List.mem_cons_of_mem _ hw)
        · rw [hrest]
          rw [List.length_cons] at hn
          omega

/-! ## The FIFO of received frames -/

/-- Reading both words of the FIFO of received frames gives its first pair and removes it. -/
theorem read_rxRead (c : Card Board) (pair : Word × Word) (rest : List (Word × Word))
    (hlist : c.host.bus.rxReturns = pair :: rest) :
    (c.read Offset.rxRead) = (pair.1, c) ∧
      c.read (Offset.rxRead + 4) =
        (pair.2, { c with host := { c.host with bus := { c.host.bus with rxReturns := rest } } }) := by
  have hfirst : (c.read Offset.rxRead).1 = (c.host.bus.rxReturns.headD (0#32, 0#32)).1 := rfl
  have hsecond : (c.read (Offset.rxRead + 4)).1 = (c.host.bus.rxReturns.headD (0#32, 0#32)).2 := rfl
  have hfetch : (c.read (Offset.rxRead + 4)).2 =
      { c with host := { c.host with bus := { c.host.bus with rxReturns := c.host.bus.rxReturns.tail } } } := rfl
  rw [hlist] at hfirst hsecond hfetch
  exact ⟨Prod.ext hfirst (c.read_of_isPlain (by decide)), Prod.ext hsecond hfetch⟩

/-- An empty FIFO of received frames reads as words that hold no frame, and stays empty. -/
theorem read_rxRead_nil (c : Card Board) (hlist : c.host.bus.rxReturns = []) :
    c.read Offset.rxRead = (0#32, c) ∧ c.read (Offset.rxRead + 4) = (0#32, c) := by
  have hfirst : (c.read Offset.rxRead).1 = (c.host.bus.rxReturns.headD (0#32, 0#32)).1 := rfl
  have hsecond : (c.read (Offset.rxRead + 4)).1 = (c.host.bus.rxReturns.headD (0#32, 0#32)).2 := rfl
  have hfetch : (c.read (Offset.rxRead + 4)).2 =
      { c with host := { c.host with bus := { c.host.bus with rxReturns := c.host.bus.rxReturns.tail } } } := rfl
  have hsame : { c.host.bus with rxReturns := [] } = c.host.bus := by rw [← hlist]
  rw [hlist] at hfirst hsecond hfetch
  rw [List.tail_nil, hsame] at hfetch
  exact ⟨Prod.ext hfirst (c.read_of_isPlain (by decide)), Prod.ext hsecond hfetch⟩

/-- From an empty FIFO of received frames nothing is taken. -/
theorem takeRx_nil (n : Nat) (c : Card Board) (hlist : c.host.bus.rxReturns = []) : takeRx n c = c := by
  have hzero : RxDescriptor.decode? 0#32 0#32 = none := by decide
  obtain ⟨hfirst, hsecond⟩ := c.read_rxRead_nil hlist
  cases n with
  | zero => rfl
  | succ n =>
    rw [takeRx, hfirst]
    dsimp only
    rw [hsecond]
    dsimp only
    rw [hzero]

/-- A pair that holds no frame is taken, and is the last. -/
theorem takeRx_of_none (n : Nat) (c : Card Board) {pair : Word × Word} {rest : List (Word × Word)}
    (hlist : c.host.bus.rxReturns = pair :: rest) (hpair : RxDescriptor.decode? pair.1 pair.2 = none) :
    takeRx (n + 1) c = { c with host := { c.host with bus := { c.host.bus with rxReturns := rest } } } := by
  obtain ⟨hfirst, hsecond⟩ := c.read_rxRead pair rest hlist
  rw [takeRx, hfirst]
  dsimp only
  rw [hsecond]
  dsimp only
  rw [hpair]

/-- A pair that holds a frame is taken and filed, before others are. -/
theorem takeRx_of_some (n : Nat) (c : Card Board) {pair : Word × Word} {desc : RxDescriptor}
    {rest : List (Word × Word)} (hlist : c.host.bus.rxReturns = pair :: rest)
    (hpair : RxDescriptor.decode? pair.1 pair.2 = some desc) :
    takeRx (n + 1) c =
      takeRx n (finishRx { c with host := { c.host with bus := { c.host.bus with rxReturns := rest } } } desc) := by
  obtain ⟨hfirst, hsecond⟩ := c.read_rxRead pair rest hlist
  rw [takeRx, hfirst]
  dsimp only
  rw [hsecond]
  dsimp only
  rw [hpair]

/-- A FIFO that is not ready is empty, so all pairs of it may be taken. -/
theorem drainRx_eq (c : Card Board) : c.drainRx = takeRx c.host.bus.rxReturns.length c := by
  have hread : c.read Offset.rxStatus = (Board.fifoWord c.host.bus.rxReturns.length, c) :=
    Prod.ext rfl (c.read_of_isPlain (by decide))
  rw [drainRx, hread]
  dsimp only
  rw [Board.ready_fifoWord]
  split
  · rfl
  · rename_i hready
    have hempty : c.host.bus.rxReturns.length = 0 := by simpa using hready
    rw [hempty, takeRx]

/-- A received frame is filed. -/
theorem holdings_finishRx (c : Card Board) (pair : Word × Word) (d : RxDescriptor)
    (hpair : RxDescriptor.decode? pair.1 pair.2 = some d) :
    (c.finishRx d).holdings = c.holdings.takeRx pair := by
  unfold finishRx
  cases hfind : c.device.rxPool.find? d.addr with
  | none =>
    have hunmatched : c.holdings.matched? pair = none := by
      rw [Holdings.matched?, hpair, Option.filter_some, if_neg]
      change ¬ (c.device.rxPool.find? d.addr).isSome = true
      rw [hfind]
      exact Bool.false_ne_true
    rw [Holdings.takeRx, hunmatched]
    rfl
  | some i =>
    have hfound : c.holdings.rxPool.find? d.addr = some i := hfind
    have hmatched : c.holdings.matched? pair = some d := by
      rw [Holdings.matched?, hpair, Option.filter_some, if_pos (by rw [hfound]; rfl)]
    rw [Holdings.takeRx, hmatched]
    dsimp only
    rw [hfound, Option.getD_some]
    change _ = if c.device.isOpen = true then _ else _
    split
    · unfold queueRx
      dsimp only
      have hnotices (w : Card Board) (notices : List Nat) :
          Card.holdings { w with device := { w.device with notices := notices } } = w.holdings := rfl
      rw [hnotices, holdings_trace]
      split <;> rfl
    · have hgiven := c.holdings_giveFree d
      have hcounted : Card.holdings
          { c.giveFree d.lane.toNat d.addr with
            device :=
              { (c.giveFree d.lane.toNat d.addr).device with
                droppedClosed := (c.giveFree d.lane.toNat d.addr).device.droppedClosed + 1 } } =
          { (c.giveFree d.lane.toNat d.addr).holdings with dropped := c.holdings.dropped + 1 } := rfl
      rw [hcounted, hgiven]

/-- Taking pairs files them off the front of the FIFO of received frames, and all of them if they are
valid. -/
theorem drained_takeRx (n : Nat) (c : Card Board) :
    ∃ pairs, c.holdings.Drained [] pairs (takeRx n c).holdings ∧
      ((∀ p ∈ c.host.bus.rxReturns, (RxDescriptor.decode? p.1 p.2).isSome) →
        c.host.bus.rxReturns.length ≤ n → (takeRx n c).host.bus.rxReturns = []) := by
  induction n generalizing c with
  | zero => exact ⟨[], .nil _, fun _ hn => List.eq_nil_of_length_eq_zero (Nat.le_zero.mp hn)⟩
  | succ n ih =>
    cases hlist : c.host.bus.rxReturns with
    | nil =>
      rw [c.takeRx_nil _ hlist]
      exact ⟨[], .nil _, fun _ _ => hlist⟩
    | cons pair rest =>
      set popped : Card Board := { c with host := { c.host with bus := { c.host.bus with rxReturns := rest } } }
      cases hpair : RxDescriptor.decode? pair.1 pair.2 with
      | none =>
        have hfiled : Holdings.takeRx { c.holdings with rxReturns := rest } pair = popped.holdings := by
          rw [Holdings.takeRx, Holdings.matched?, hpair]
          rfl
        rw [c.takeRx_of_none n hlist hpair]
        refine ⟨[pair], .rx hlist (hfiled ▸ .nil _), fun hvalid _ => ?_⟩
        have := hvalid pair List.mem_cons_self
        rw [hpair] at this
        contradiction
      | some d =>
        have hfiled := popped.holdings_finishRx pair d hpair
        obtain ⟨pairs, hdrained, hall⟩ := ih (popped.finishRx d)
        have hrest : (popped.finishRx d).host.bus.rxReturns = rest := by
          have hreturns := congrArg Holdings.rxReturns hfiled
          rwa [Holdings.rxReturns_takeRx] at hreturns
        rw [c.takeRx_of_some n hlist hpair]
        rw [hfiled] at hdrained
        refine ⟨pair :: pairs, .rx hlist hdrained, fun hvalid hn => hall ?_ ?_⟩
        · rw [hrest]
          exact fun p hp => hvalid p (List.mem_cons_of_mem _ hp)
        · rw [hrest]
          rw [List.length_cons] at hn
          omega

/-! ## The handler -/

/-- Emptying the transmit FIFO files words off its front, and all of them if they are valid. -/
theorem drained_drainTx (c : Card Board) :
    ∃ words, c.holdings.Drained words [] c.drainTx.holdings ∧
      ((∀ w ∈ c.host.bus.txReturns, (TxReturn.decode? w).isSome) → c.drainTx.host.bus.txReturns = []) := by
  obtain ⟨words, hdrained, hall⟩ := c.drained_takeTx c.host.bus.txReturns.length
  rw [drainTx_eq]
  exact ⟨words, hdrained, fun hvalid => hall hvalid (Nat.le_refl _)⟩

/-- Emptying the FIFO of received frames files pairs off its front, and all of them if they are valid. -/
theorem drained_drainRx (c : Card Board) :
    ∃ pairs, c.holdings.Drained [] pairs c.drainRx.holdings ∧
      ((∀ p ∈ c.host.bus.rxReturns, (RxDescriptor.decode? p.1 p.2).isSome) →
        c.drainRx.host.bus.rxReturns = []) := by
  obtain ⟨pairs, hdrained, hall⟩ := c.drained_takeRx c.host.bus.rxReturns.length
  rw [drainRx_eq]
  exact ⟨pairs, hdrained, fun hvalid => hall hvalid (Nat.le_refl _)⟩

/-- Whether a card has completions to be filed. -/
theorem hasCompletions_iff (b : Board) :
    b.hasCompletions = false ↔ b.txReturns = [] ∧ b.rxReturns = [] := by
  simp [Board.hasCompletions]

/-- Handling an interrupt that is pending, between the two writes of the interrupt register. -/
theorem handleInterrupt_eq (c : Card Board) (hpending : c.host.bus.hasCompletions = true) :
    c.handleInterrupt.2 =
      (((c.trace 0 ("Irq: IRQ Called. Stat=" ++ Text.hexMarked (c.host.bus.look Offset.irq).toNat)).write
        Offset.irq 0#32).drainTx.drainRx).write Offset.irq (IrqWord.enable.encode 1#32) := by
  have hread : c.read Offset.irq = (c.host.bus.look Offset.irq, c) :=
    Prod.ext rfl (c.read_of_isPlain (by decide))
  rw [handleInterrupt, hread]
  dsimp only
  rw [Board.pending_look, if_pos hpending]

/-- Without completions there is no interrupt to handle. -/
theorem handleInterrupt_of_idle (c : Card Board) (hidle : c.host.bus.hasCompletions = false) :
    c.handleInterrupt.2 = c := by
  have hread : c.read Offset.irq = (c.host.bus.look Offset.irq, c) :=
    Prod.ext rfl (c.read_of_isPlain (by decide))
  rw [handleInterrupt, hread]
  dsimp only
  rw [Board.pending_look, hidle, if_neg Bool.false_ne_true]

/-- Handling an interrupt files words off the front of both FIFOs, and all of them if they are
valid. -/
theorem drained_handleInterrupt (c : Card Board) :
    ∃ words pairs, c.holdings.Drained words pairs c.handleInterrupt.2.holdings ∧
      ((∀ w ∈ c.host.bus.txReturns, (TxReturn.decode? w).isSome) →
        (∀ p ∈ c.host.bus.rxReturns, (RxDescriptor.decode? p.1 p.2).isSome) →
        c.handleInterrupt.2.holdings.txReturns = [] ∧ c.handleInterrupt.2.holdings.rxReturns = []) := by
  cases hpending : c.host.bus.hasCompletions with
  | false =>
    rw [c.handleInterrupt_of_idle hpending]
    exact ⟨[], [], .nil _, fun _ _ => (hasCompletions_iff _).mp hpending⟩
  | true =>
    rw [c.handleInterrupt_eq hpending]
    set masked := (c.trace 0 ("Irq: IRQ Called. Stat=" ++
      Text.hexMarked (c.host.bus.look Offset.irq).toNat)).write Offset.irq 0#32
    have hmasked : masked.holdings = c.holdings := by
      rw [holdings_write_of_isPlain _ _ (by decide), holdings_trace]
    have hfirst : masked.host.bus.txReturns = c.host.bus.txReturns := congrArg Holdings.txReturns hmasked
    obtain ⟨words, htx, htxAll⟩ := masked.drained_drainTx
    obtain ⟨pairs, hrx, hrxAll⟩ := masked.drainTx.drained_drainRx
    have hkeptRx : masked.drainTx.host.bus.rxReturns = c.host.bus.rxReturns := by
      have hnone := htx.rxReturns
      rw [List.nil_append, hmasked] at hnone
      exact hnone.symm
    have hkeptTx : masked.drainTx.host.bus.txReturns = masked.drainTx.drainRx.host.bus.txReturns := by
      have hnone := hrx.txReturns
      rwa [List.nil_append] at hnone
    rw [hfirst] at htxAll
    rw [hkeptRx] at hrxAll
    have hboth := htx.trans hrx
    rw [hmasked, List.append_nil, List.nil_append] at hboth
    rw [holdings_write_of_isPlain _ _ (by decide)]
    exact ⟨words, pairs, hboth, fun hwords hpairs => ⟨hkeptTx.symm.trans (htxAll hwords), hrxAll hpairs⟩⟩

/-- Handling interrupts for some time files words off the front of both FIFOs. -/
theorem drained_settleFor (n : Nat) (c : Card Board) :
    ∃ words pairs, c.holdings.Drained words pairs (settleFor n c).holdings := by
  induction n generalizing c with
  | zero => exact ⟨[], [], .nil _⟩
  | succ n ih =>
    rw [settleFor]
    split
    · rename_i line _
      obtain ⟨words, pairs, hfirst, -⟩ :=
        drained_handleInterrupt { c with host := { c.host with line := line } }
      obtain ⟨words', pairs', hrest⟩ := ih (handleInterrupt { c with host := { c.host with line := line } }).2
      exact ⟨words ++ words', pairs ++ pairs', hfirst.trans hrest⟩
    · exact ⟨[], [], .nil _⟩

end Card

end LaneCard
