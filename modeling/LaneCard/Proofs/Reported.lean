import LaneCard.Proofs.Lifetime
import LaneCard.Proofs.ReceiveBuffers
import LaneCard.Proofs.SameSession

/-!
# What is known of a readable frame

What a caller is told of a frame is what the card has reported of it. Only the completion handler makes a
frame readable, and when it does it notes the descriptor in the buffer; nothing else changes that note. A
card may name a buffer again while a frame in it is still to be read. The note is then that of the last
descriptor, and so are all of them: what is known of a readable frame is the last that was filed for its
buffer, however the card behaves.
-/

namespace LaneCard

namespace RxDescriptor

/-- A descriptor in two words names one of eight lanes and four channels, and a length of 24 bits. -/
theorem bounds_of_decode? {a b : Word} {d : RxDescriptor} (h : decode? a b = some d) :
    d.lane.toNat < laneCount ∧ d.vc.toNat < channelCount ∧ d.length.toNat < 0x1000000 := by
  unfold decode? at h
  split at h
  · obtain rfl := Option.some.inj h
    exact ⟨Nat.lt_succ_of_le (RxWordA.lane.toNat_get_le a), Nat.lt_succ_of_le (RxWordA.vc.toNat_get_le a),
      Nat.lt_succ_of_le (RxWordA.length.toNat_get_le a)⟩
  · contradiction

/-- The last of some descriptors that names an address. -/
def lastAt (descs : List RxDescriptor) (addr : Word) : Option RxDescriptor :=
  (descs.filter fun d => d.addr == addr).getLast?

/-- One more descriptor is the last for its address, and makes no difference to the others. -/
theorem lastAt_append_singleton (descs : List RxDescriptor) (d : RxDescriptor) (addr : Word) :
    lastAt (descs ++ [d]) addr = if d.addr = addr then some d else lastAt descs addr := by
  unfold lastAt
  rw [List.filter_append]
  by_cases hsame : d.addr = addr
  · rw [if_pos hsame, List.filter_cons_of_pos (by simpa using hsame), List.filter_nil, List.getLast?_concat]
  · rw [if_neg hsame, List.filter_cons_of_neg (by simpa using hsame), List.filter_nil, List.append_nil]

/-- The last descriptor for an address is one of them. -/
theorem mem_of_lastAt {descs : List RxDescriptor} {addr : Word} {d : RxDescriptor}
    (h : lastAt descs addr = some d) : d ∈ descs :=
  List.mem_of_mem_filter (List.mem_of_getLast? h)

end RxDescriptor

/-- What is known of the frame in every buffer of a ring is the last that was filed for the buffer. -/
def BufferPool.Notes (pool : BufferPool) (ring : Ring) (filed : List RxDescriptor) : Prop :=
  ∀ i ∈ ring.toList, ∃ b, pool.buffers[i]? = some b ∧ pool.find? b.addr = some i ∧
    RxDescriptor.lastAt filed b.addr = some ⟨b.frame, b.addr⟩

namespace BufferPool.Notes

variable {pool : BufferPool} {ring : Ring} {filed : List RxDescriptor}

/-- Numbers may leave the ring. -/
theorem mono (h : pool.Notes ring filed) {ring' : Ring} (hring : ∀ i ∈ ring'.toList, i ∈ ring.toList) :
    pool.Notes ring' filed := fun i hi => h i (hring i hi)

/-- A frame is noted in its buffer when it is filed. -/
theorem file (h : pool.Notes ring filed) {d : RxDescriptor} {j : Nat} (hj : pool.find? d.addr = some j) :
    (pool.setFrame j d.toFrameMeta).Notes (ring.push j).2 (filed ++ [d]) := by
  intro i hi
  have hfind : (pool.setFrame j d.toFrameMeta).find? = pool.find? := find?_congr (addrs_setFrame pool j _)
  by_cases hsame : j = i
  · subst hsame
    obtain ⟨b, hb, haddr⟩ := exists_of_find? hj
    refine ⟨{ b with frame := d.toFrameMeta }, ?_, ?_, ?_⟩
    · rw [getElem?_setFrame, if_pos rfl, hb, Option.map_some]
    · rw [hfind]
      exact haddr ▸ hj
    · rw [RxDescriptor.lastAt_append_singleton, if_pos haddr.symm, haddr]
  · have hold : i ∈ ring.toList := (Ring.mem_toList_push hi).resolve_right (Ne.symm hsame)
    obtain ⟨b, hb, hfound, hlast⟩ := h i hold
    have hother : d.addr ≠ b.addr := fun heq => hsame (Option.some.inj (hj.symm.trans (heq ▸ hfound)))
    exact ⟨b, by rw [getElem?_setFrame, if_neg hsame, hb], by rw [hfind, hfound],
      by rw [RxDescriptor.lastAt_append_singleton, if_neg hother, hlast]⟩

end BufferPool.Notes

namespace Holdings

/-- Filing a received frame leaves the session as it is. -/
theorem isOpen_takeRx (H : Holdings) (pair : Word × Word) : (H.takeRx pair).isOpen = H.isOpen := by
  unfold takeRx
  split
  · split <;> rfl
  · rfl

/-- While a session is open, the handler notes the frames that name a buffer. -/
theorem Drained.notes {H H' : Holdings} {words : List Word} {pairs : List (Word × Word)}
    (h : Drained H words pairs H') (hopen : H.isOpen = true) {filed : List RxDescriptor}
    (hnotes : H.rxPool.Notes H.rxReady filed) :
    H'.rxPool.Notes H'.rxReady (filed ++ pairs.filterMap H.matched?) := by
  induction h generalizing filed with
  | nil => rwa [List.filterMap_nil, List.append_nil]
  | @tx H _ word rest _ _ _ _ ih =>
    obtain ⟨ring, htaken⟩ := takeTx_eq { H with txReturns := rest } word
    rw [htaken] at ih
    exact ih hopen hnotes
  | @rx H _ pair rest pairs _ _ _ ih =>
    obtain ⟨_, _, _, _, haddrs, -, htaken⟩ := takeRx_eq { H with rxReturns := rest } pair
    have hlooked : ({ H with rxReturns := rest }.takeRx pair).matched? = H.matched? :=
      matched?_eq (by rw [htaken]; exact haddrs)
    have hstill : ({ H with rxReturns := rest }.takeRx pair).isOpen = true := (isOpen_takeRx _ _).trans hopen
    rw [hlooked] at ih
    have hsame : Holdings.matched? { H with rxReturns := rest } pair = H.matched? pair := rfl
    cases hmatched : H.matched? pair with
    | none =>
      rw [List.filterMap_cons_none hmatched]
      refine ih hstill ?_
      rw [takeRx, hsame, hmatched]
      exact hnotes
    | some d =>
      obtain ⟨-, j, hj⟩ := find?_of_matched? hmatched
      have hnoted : ({ H with rxReturns := rest }.takeRx pair).rxPool.Notes
          ({ H with rxReturns := rest }.takeRx pair).rxReady (filed ++ [d]) := by
        rw [takeRx, hsame, hmatched]
        dsimp only
        rw [if_pos hopen, hj, Option.getD_some]
        exact hnotes.file hj
      have hfiled := ih hstill hnoted
      rwa [List.append_assoc, List.singleton_append, ← List.filterMap_cons_some hmatched] at hfiled

/-- Without a session the handler makes no frame readable. -/
theorem Drained.unnoted {H H' : Holdings} {words : List Word} {pairs : List (Word × Word)}
    (h : Drained H words pairs H') (hclosed : H.isOpen = false) :
    H'.rxPool = H.rxPool ∧ H'.rxReady = H.rxReady := by
  induction h with
  | nil => exact ⟨rfl, rfl⟩
  | @tx H _ word rest _ _ _ _ ih =>
    obtain ⟨ring, htaken⟩ := takeTx_eq { H with txReturns := rest } word
    rw [htaken] at ih
    exact ih hclosed
  | @rx H _ pair rest _ _ _ _ ih =>
    have hstill : ({ H with rxReturns := rest }.takeRx pair).isOpen = false := (isOpen_takeRx _ _).trans hclosed
    have hnotOpen : ¬ H.isOpen = true := by rw [hclosed]; exact Bool.false_ne_true
    have hgiven : ({ H with rxReturns := rest }.takeRx pair).rxPool = H.rxPool ∧
        ({ H with rxReturns := rest }.takeRx pair).rxReady = H.rxReady := by
      unfold takeRx
      split
      · rw [if_neg hnotOpen]
        exact ⟨rfl, rfl⟩
      · exact ⟨rfl, rfl⟩
    obtain ⟨hpool, hring⟩ := ih hstill
    exact ⟨hpool.trans hgiven.1, hring.trans hgiven.2⟩

end Holdings

/-! ## Work that files nothing -/

/-- After some work nothing is known of another frame, and no frame has become readable. -/
structure Device.FilesNone (d d' : Device) : Prop where
  rxPool : d'.rxPool = d.rxPool
  rxReady : ∀ i ∈ d'.rxReady.toList, i ∈ d.rxReady.toList

namespace Device.FilesNone

variable {d d' d'' : Device}

/-- Without work nothing is filed. -/
theorem refl (d : Device) : d.FilesNone d := ⟨rfl, fun _ => id⟩

/-- Work that files nothing may follow on such work. -/
theorem trans (h : d.FilesNone d') (h' : d'.FilesNone d'') : d.FilesNone d'' :=
  ⟨h'.rxPool.trans h.rxPool, fun i hi => h.rxReady i (h'.rxReady i hi)⟩

/-- Work on the rest of the card files nothing. -/
theorem of_eq (hpool : d'.rxPool = d.rxPool) (hring : d'.rxReady = d.rxReady) : d.FilesNone d' :=
  ⟨hpool, fun _ hi => hring ▸ hi⟩

end Device.FilesNone

namespace Card

variable {c c' : Card Board}

/-- Waiting files nothing. -/
theorem Unmoved.filesNone (h : c.Unmoved c') : c.device.FilesNone c'.device := by
  rw [h.device]
  exact .of_eq rfl rfl

/-- Sending a frame files nothing. -/
theorem filesNone_submit (c : Card Board) (patience : Patience) (lane vc size : Word)
    (source : Nat → Except CardError Bytes) :
    c.device.FilesNone (c.submit patience lane vc size source).2.device := by
  have hends := c.submission patience lane vc size source
  generalize c.submit patience lane vc size source = result at hends
  cases hends with
  | oversized _ _ hsame => exact hsame.filesNone
  | asleep _ _ _ hsame => exact hsame.filesNone
  | refused _ _ _ _ hsame => exact hsame.filesNone
  | unnamed _ _ _ hsame => exact hsame.filesNone
  | unfilled _ _ _ _ _ _ _ _ hsame => exact hsame.filesNone
  | accepted i b data memory w c' _ _ _ _ _ hw hsame =>
    have hlaunched : w.device.FilesNone (w.launched i b memory lane vc size).device := .of_eq rfl rfl
    exact (hw.filesNone.trans hlaunched).trans hsame.filesNone

/-- Receiving a frame files nothing. -/
theorem filesNone_receive {γ : Type} (c : Card Board) (patience : Patience) (maxSize : Nat)
    (sink : Bytes → Except CardError γ) : c.device.FilesNone (c.receive patience maxSize sink).2.device := by
  have hrelieved {w c' : Card Board} (hw : c.Unmoved w) (b : Buffer) (hc : (w.relieved b).Unmoved c') :
      c.device.FilesNone c'.device := by
    have htaken : w.device.FilesNone (w.relieved b).device := ⟨rfl, fun _ hi => Ring.mem_toList_drop hi⟩
    exact (hw.filesNone.trans htaken).trans hc.filesNone
  have hends := c.reception patience maxSize sink
  generalize c.receive patience maxSize sink = result at hends
  cases hends with
  | asleep _ _ hsame => exact hsame.filesNone
  | refused _ _ _ hsame => exact hsame.filesNone
  | unnamed _ _ _ hsame => exact hsame.filesNone
  | spoiled _ _ b _ _ _ _ _ hw hc => exact hrelieved hw b hc
  | received _ _ b _ _ _ _ _ hw hc => exact hrelieved hw b hc

/-- Control files nothing. -/
theorem filesNone_control (c : Card Board) (command : Command) (arg : Pointer) :
    c.device.FilesNone (c.control command arg).2.device := by
  unfold control
  split
  · change c.device.FilesNone (c.trace 0 "ReadStatus").device
    rw [device_trace]
    exact .refl _
  · dsimp only
    split
    · exact .refl _
    · rename_i hperform
      rw [device_trace, device_perform hperform]
      exact .of_eq rfl rfl

/-- Neither does a transmit record. -/
theorem filesNone_writeRecord (c : Card Board) (patience : Patience) (record : Bytes) (memory : CallerMemory) :
    c.device.FilesNone (c.writeRecord patience record memory).2.1.device := by
  rcases hresult : c.writeRecord patience record memory with ⟨reply, after, memory'⟩
  cases writing hresult with
  | unread => exact .refl _
  | unknown => exact .refl _
  | frame request => exact c.filesNone_submit patience request.lane request.vc request.size _
  | command request command => exact c.filesNone_control command request.data
  | unstored request command => exact c.filesNone_control command request.data

/-- Neither does a receive record. -/
theorem filesNone_readRecord (c : Card Board) (patience : Patience) (record : Bytes) (memory : CallerMemory) :
    c.device.FilesNone (c.readRecord patience record memory).2.2.1.device := by
  cases hrecord : RxRequest.decode record with
  | error e =>
    rw [readRecord, hrecord]
    exact .refl _
  | ok request =>
    obtain ⟨answer, -, hread⟩ := c.readRecord_eq_answered patience hrecord memory
    rw [hread, card_answered]
    exact c.filesNone_receive patience _ _

/-- Waiting for a frame, or for room, files nothing. -/
theorem filesNone_pollWait (c : Card Board) (interest : PollFlags) (limited : Bool) :
    c.device.FilesNone (c.pollWait interest limited).2.device := by
  unfold pollWait
  dsimp only
  split
  · exact .of_eq rfl rfl
  · exact .refl _
  · split <;> exact .refl _

/-- No call files anything. -/
theorem filesNone_makeCall (c : Card Board) (memory : CallerMemory) (patience : Patience) (call : Call) :
    c.device.FilesNone (Bench.makeCall c memory patience call).2.device := by
  cases call with
  | send lane vc data =>
    change c.device.FilesNone (c.send patience lane vc data).2.device
    unfold send
    split
    · exact c.filesNone_submit patience lane vc _ _
    · exact .refl _
  | recv buffer => exact c.filesNone_receive patience buffer.length _
  | write record => exact c.filesNone_writeRecord patience record memory
  | read record =>
    have hread := c.filesNone_readRecord patience record memory
    simp only [Bench.makeCall]
    generalize c.readRecord patience record memory = result at hread
    obtain ⟨reply, record', c', memory'⟩ := result
    cases reply <;> exact hread
  | pollWait interest limited => exact c.filesNone_pollWait interest limited

/-- Of all moves, only the handler's work files anything. -/
theorem filesNone_play (c : Card Board) {m : Move} (hserve : ∀ n, m ≠ .serve n) :
    c.device.FilesNone (c.play m).2.device := by
  cases m with
  | openSession nonblock =>
    change c.device.FilesNone (c.openSession nonblock).2.device
    obtain ⟨-, hopened⟩ | ⟨-, -, journal, hopened⟩ | ⟨-, -, journal, hopened⟩ := c.openSession_cases nonblock <;>
      rw [hopened] <;> exact .of_eq rfl rfl
  | closeSession =>
    obtain ⟨hempty, hdevice⟩ := c.device_closeSession
    refine ⟨?_, fun i hi => ?_⟩
    · change c.closeSession.device.rxPool = _
      rw [hdevice]
    · change i ∈ c.closeSession.device.rxReady.toList at hi
      rw [hempty] at hi
      contradiction
  | call patience memory call => exact c.filesNone_makeCall memory patience call
  | control command arg => exact c.filesNone_control command arg
  | notify listener =>
    change c.device.FilesNone (c.setListener listener).device
    rw [device_setListener]
    exact .of_eq rfl rfl
  | detach =>
    change c.device.FilesNone c.detach.device
    unfold detach
    split <;> exact .of_eq rfl rfl
  | takeFree lane =>
    unfold play
    dsimp only
    split <;> exact .refl _
  | interrupt | status | hold on | injectRx desc | injectTx word => exact .of_eq rfl rfl
  | serve n => exact absurd rfl (hserve n)

/-- Nothing else that can happen to a card files anything. -/
theorem filesNone_undergo (c : Card Board) {deed : Deed} (hmove : ∀ m, deed ≠ .move m) :
    c.device.FilesNone (c.undergo deed).device := by
  cases deed with
  | move m => exact absurd rfl (hmove m)
  | map length readable writable =>
    rw [undergo, device_mapRegisters]
    exact .refl _
  | poke | readWindow | writeWindow | diagnostics => exact .refl _

/-! ## Every course of events -/

/-- The descriptors that were filed by something that happens to a card. The handler files those that name
a buffer while a session is open. -/
def filed (c : Card Board) : Deed → List RxDescriptor
  | .move m => if c.device.isOpen then c.holdings.arrivals m (c.play m).2.holdings else []
  | _ => []

/-- The descriptors that were filed by all that happens to a card, in order. -/
def filedWhile (c : Card Board) : List Deed → List RxDescriptor
  | [] => []
  | deed :: rest => c.filed deed ++ (c.undergo deed).filedWhile rest

/-- What is known of the readable frames is what was filed last. -/
def Notes (c : Card Board) (filed : List RxDescriptor) : Prop := c.device.rxPool.Notes c.device.rxReady filed

/-- Work that files nothing leaves the notes as they are. -/
theorem Notes.filesNone {past : List RxDescriptor} (h : c.Notes past) (hnone : c.device.FilesNone c'.device) :
    c'.Notes past := by
  unfold Notes at h ⊢
  rw [hnone.rxPool]
  exact h.mono hnone.rxReady

/-- The handler notes what it files. -/
theorem Notes.serve {past : List RxDescriptor} (h : c.Notes past) (n : Nat) :
    (c.undergo (.move (.serve n))).Notes (past ++ c.filed (.move (.serve n))) := by
  obtain ⟨words, pairs, hdrained⟩ := c.drained_settleFor n
  cases hopen : c.device.isOpen with
  | true =>
    have htaken : c.holdings.rxReturns.take
        (c.holdings.rxReturns.length - (settleFor n c).holdings.rxReturns.length) = pairs := by
      rw [hdrained.rxReturns, List.length_append, Nat.add_sub_cancel, List.take_left]
    have hfiled : c.filed (.move (.serve n)) = pairs.filterMap c.holdings.matched? := by
      rw [filed, if_pos hopen]
      exact congrArg (List.filterMap c.holdings.matched?) htaken
    rw [hfiled]
    exact hdrained.notes hopen h
  | false =>
    have hnotOpen : ¬ c.device.isOpen = true := by rw [hopen]; exact Bool.false_ne_true
    obtain ⟨hpool, hring⟩ := hdrained.unnoted hopen
    rw [filed, if_neg hnotOpen, List.append_nil]
    exact h.filesNone (.of_eq hpool hring)

/-- Whatever happens, the notes are those of what was filed last. -/
theorem Notes.undergo {past : List RxDescriptor} (h : c.Notes past) (deed : Deed) :
    (c.undergo deed).Notes (past ++ c.filed deed) := by
  by_cases hserve : ∃ n, deed = .move (.serve n)
  · obtain ⟨n, rfl⟩ := hserve
    exact h.serve n
  · have hnone : c.filed deed = [] := by
      cases deed with
      | move m =>
        cases m with
        | serve n => exact absurd ⟨n, rfl⟩ hserve
        | _ => exact ite_self _
      | _ => rfl
    rw [hnone, List.append_nil]
    cases deed with
    | move m => exact h.filesNone (c.filesNone_play fun n hm => hserve ⟨n, by rw [hm]⟩)
    | _ => exact h.filesNone (c.filesNone_undergo nofun)

/-- However much happens. -/
theorem Notes.undergoAll {past : List RxDescriptor} (h : c.Notes past) (deeds : List Deed) :
    (c.undergoAll deeds).Notes (past ++ c.filedWhile deeds) := by
  induction deeds generalizing c past with
  | nil => rwa [filedWhile, List.append_nil]
  | cons deed rest ih =>
    rw [filedWhile, ← List.append_assoc]
    exact ih (h.undergo deed)

/-- What was filed came in two words. -/
theorem bounds_of_mem_filedWhile {deeds : List Deed} {d : RxDescriptor} (hd : d ∈ c.filedWhile deeds) :
    d.lane.toNat < laneCount ∧ d.vc.toNat < channelCount ∧ d.length.toNat < 0x1000000 := by
  induction deeds generalizing c with
  | nil => contradiction
  | cons deed rest ih =>
    rcases List.mem_append.mp hd with hfirst | hrest
    · unfold filed at hfirst
      split at hfirst
      · split at hfirst
        · unfold Holdings.arrivals at hfirst
          split at hfirst
          · obtain ⟨pair, -, hmatched⟩ := List.mem_filterMap.mp hfirst
            exact RxDescriptor.bounds_of_decode? (Holdings.find?_of_matched? hmatched).1
          · contradiction
        · contradiction
      · contradiction
    · exact ih hrest

end Card

/-- On a card that has just been attached nothing is to be read. -/
theorem Device.notes_attach {h h' : Host Board} {name : String} {address : PciAddress} {baseHdwr baseLen : Nat}
    {config : Config} {d : Device} (hattach : attach h name address baseHdwr baseLen config = (.ok d, h')) :
    Card.Notes ⟨h', d⟩ [] := by
  obtain ⟨-, txPool, rxPool, _, _, -, -, rfl, -⟩ := attach_cases hattach
  intro i hi
  change i ∈ (Ring.new rxPool.size).toList at hi
  rw [Ring.toList_new] at hi
  contradiction

end LaneCard
