import LaneCard.Proofs.ReceiveBuffers

/-!
# Received frames are delivered in order, once

The descriptors that the handler files while a session is open are those that the calls of this
session take, in the same order, followed by those that are still to be read. A frame that is not
delivered is counted as dropped: when it arrives and the card is not open, or when the session ends
before it was read.
-/

namespace LaneCard

/-- Whether the move opened the card. -/
def Happening.opens (h : Happening) : Bool :=
  match h.move, h.outcome with
  | .openSession _, .nothing => true
  | _, _ => false

/-- What has happened since the card was last opened. -/
def sinceOpen (past : List Happening) : List Happening :=
  past.foldl (fun session h => if h.opens then [] else session ++ [h]) []

/-- The frames that calls have taken. -/
def consumedIn (past : List Happening) : List RxDescriptor := past.flatMap Happening.consumption

/-- The number of frames that arrived while the card was not open. -/
def turnedAwayIn (past : List Happening) : Nat :=
  (past.flatMap fun h => if h.before.device.isOpen then [] else h.arrivals).length

/-- The number of frames that were left when a session ended. -/
def leftIn (past : List Happening) : Nat := (past.flatMap Happening.leftovers).length

/-- What has happened since the card was last opened, after one more move. -/
theorem sinceOpen_append (past : List Happening) (h : Happening) :
    sinceOpen (past ++ [h]) = if h.opens then [] else sinceOpen past ++ [h] := by
  rw [sinceOpen, List.foldl_append]
  rfl

/-- How the frames that have arrived were delivered. -/
structure Delivered (past : List Happening) (c : Card Board) : Prop where
  /-- What has arrived in this session was taken in this order, or is still to be read. -/
  session : c.device.isOpen = true →
    arrivedIn (sinceOpen past) = consumedIn (sinceOpen past) ++ c.holdings.unread
  /-- The frames to be read are those in the ring. -/
  queued : c.holdings.unread.length = c.device.rxReady.length
  /-- A call that takes a frame takes one, and reports it. -/
  reports : ∀ h ∈ past, ∀ patience memory call, h.move = .call patience memory call →
    h.outcome.consumes = true → ∃ d, h.consumption = [d] ∧ h.outcome.Reports d.toFrameMeta
  dropped : c.device.droppedClosed = turnedAwayIn past + leftIn past

namespace Delivered

variable {past : List Happening} {c : Card Board}

/-- A move that does not open the card, and after which it is open, leaves nothing behind. -/
theorem leftovers_of_open {h : Happening} {H' : Holdings} (hflow : h.before.holdings.Flow h.move h.outcome H')
    (hopens : h.opens = false) (hopen : H'.isOpen = true) :
    h.leftovers = [] ∧ h.before.device.isOpen = true := by
  rw [hflow.isOpen] at hopen
  unfold Happening.opens at hopens
  unfold Holdings.opensTo at hopen
  unfold Happening.leftovers Holdings.leftovers
  split at hopen
  · rename_i hmove houtcome
    rw [hmove, houtcome] at hopens
    contradiction
  · contradiction
  · rename_i hclose _
    refine ⟨?_, hopen⟩
    split
    · rename_i hmove
      exact absurd hmove hclose
    · rfl

/-- A move that opens the card finds it closed and delivers nothing. -/
theorem unread_of_opens {h : Happening} {H' : Holdings} (hflow : h.before.holdings.Flow h.move h.outcome H')
    (hidle : h.before.holdings.isOpen = false → h.before.holdings.unread = []) (hopens : h.opens = true) :
    H'.unread = [] := by
  have hunread := hflow.unread
  unfold Happening.opens at hopens
  split at hopens
  · rename_i nonblock hmove houtcome
    have hclosed := hflow.wasClosed nonblock hmove houtcome
    rw [hidle hclosed, hclosed] at hunread
    exact (List.append_eq_nil_iff.mp hunread.symm).2
  · contradiction

/-- Every move keeps the account of deliveries. -/
theorem play (hdelivered : Delivered past c) (hinv : RxInvariant past c.holdings) (m : Move)
    (hnext : RxInvariant (past ++ [⟨c, m⟩]) (c.play m).2.holdings) :
    Delivered (past ++ [⟨c, m⟩]) (c.play m).2 := by
  set h : Happening := ⟨c, m⟩
  have hflow : h.before.holdings.Flow h.move h.outcome h.after.holdings :=
    hnext.flow h (List.mem_append_right _ List.mem_cons_self)
  have hafter : h.after = (c.play m).2 := rfl
  rw [← hafter]
  refine ⟨?_, ?_, ?_, ?_⟩
  · intro hopen
    rw [sinceOpen_append]
    cases hopens : h.opens with
    | true =>
      rw [if_pos rfl, unread_of_opens hflow hinv.idle hopens]
      rfl
    | false =>
      obtain ⟨hleft, hwasOpen⟩ := leftovers_of_open hflow hopens hopen
      have hbefore : arrivedIn (sinceOpen past) = consumedIn (sinceOpen past) ++ h.before.holdings.unread :=
        hdelivered.session hwasOpen
      have hunread := hflow.unread
      have hwasOpen' : h.before.holdings.isOpen = true := hwasOpen
      have hleft' : h.before.holdings.leftovers h.move = [] := hleft
      rw [if_pos hwasOpen', hleft', List.append_nil] at hunread
      have harrived : arrivedIn (sinceOpen past ++ [h]) = arrivedIn (sinceOpen past) ++ h.arrivals := by
        simp [arrivedIn]
      have hconsumed : consumedIn (sinceOpen past ++ [h]) = consumedIn (sinceOpen past) ++ h.consumption := by
        simp [consumedIn]
      rw [if_neg Bool.false_ne_true, harrived, hconsumed, hbefore, List.append_assoc, List.append_assoc]
      exact congrArg _ hunread
  · exact hnext.owned.length_unread
  · intro k hk patience memory call hmove houtcome
    exact (hnext.flow k hk).reports patience memory call hmove houtcome
  · have hdropped : h.after.device.droppedClosed =
        h.before.device.droppedClosed + h.leftovers.length +
          (if h.before.device.isOpen then [] else h.arrivals).length := hflow.dropped
    have hbefore : h.before.device.droppedClosed = turnedAwayIn past + leftIn past := hdelivered.dropped
    have haway : turnedAwayIn (past ++ [h]) =
        turnedAwayIn past + (if h.before.device.isOpen then [] else h.arrivals).length := by
      simp [turnedAwayIn]
    have hleft : leftIn (past ++ [h]) = leftIn past + h.leftovers.length := by simp [leftIn]
    rw [hdropped, hbefore, haway, hleft]
    split
    · rw [List.length_nil]
      omega
    · omega

end Delivered

/-- Throughout every run of an attached card that makes up frames only in buffers that are out of the
card, received frames are delivered in order, once. -/
theorem Device.rxFrames_delivered {h h' : Host Board} {name : String} {address : PciAddress}
    {baseHdwr baseLen : Nat} {config : Config} {d : Device} (hidle : h.Idle)
    (hattach : attach h name address baseHdwr baseLen config = (.ok d, h')) {past : List Happening}
    {c : Card Board} (hrun : Run RxAllowed ⟨h', d⟩ past c) : Delivered past c := by
  have hattached := attached hidle hattach
  have hstart : Delivered [] ⟨h', d⟩ :=
    { session := fun hopen => by
        have hclosed : d.isOpen = false := hattached.closed
        rw [hclosed] at hopen
        contradiction
      queued := hattached.rxInvariant.owned.length_unread
      reports := fun _ hh => (List.not_mem_nil hh).elim
      dropped := hattached.dropped }
  have hall := hrun.invariant
    (fun past c => c.holdings.Sound ∧ RxInvariant past c.holdings ∧ Delivered past c)
    ⟨hattached.sound, hattached.rxInvariant, hstart⟩
    fun _ c m ⟨hsound, hinv, hdelivered⟩ hm =>
      have hnext := hinv.play hsound m hm
      ⟨(c.step hsound m).sound hsound, hnext, hdelivered.play hinv m hnext⟩
  exact hall.2.2

/-- One frame arrives before the card is open; of two that arrive in a session one is taken, and the
other is left when the session ends. -/
theorem Device.rxFrames_delivered_small :
    ∃ past c, Run RxAllowed Card.small past c ∧ turnedAwayIn past = 1 ∧ leftIn past = 1 ∧
      (consumedIn past).map RxDescriptor.toFrameMeta = [⟨2#32, 0#32, 1#32, FrameFlags.none⟩] ∧
        c.device.droppedClosed = 2 ∧ Delivered past c := by
  have hmade : Run RxAllowed Card.small _ _ :=
    ((Run.nil.snoc (.takeFree 0) trivial).snoc
      (.injectRx ⟨⟨3#32, 1#32, 2#32, FrameFlags.none⟩, 0x10002000#32⟩)
        (.inl (by decide))).snoc (.serve 1) trivial
  have hrun :=
    ((((((hmade.snoc (.openSession false) trivial).snoc (.control .setLoop 2#64) trivial).snoc
      (.call .sleeps .empty (.send 2#32 0#32 [7#32])) trivial).snoc
        (.call .sleeps .empty (.send 2#32 0#32 [8#32])) trivial).snoc (.serve 1) trivial).snoc
          (.call .sleeps .empty (.recv [0#32])) trivial).snoc .closeSession trivial
  exact ⟨_, _, hrun, by decide +kernel, by decide +kernel, by decide +kernel, by decide +kernel,
    rxFrames_delivered (Host.idle_powerUp _ _) attachSmall_eq hrun⟩

end LaneCard
