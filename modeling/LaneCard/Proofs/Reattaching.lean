import LaneCard.Proofs.ClosedLine
import LaneCard.Proofs.Bookkeeping

/-!
# Attaching a card again

What an attachment leaves behind on its card when it is detached: the interrupt line stays closed, and the
addresses of its receive buffers stay on the lanes to which they were offered. A driver that is attached to
the card afterwards starts like the first one, but it hears nothing: its handler is never called, no
completion is filed, and no frame is ever received. Its own receive buffers are offered behind those of the
earlier attachments.
-/

namespace LaneCard.Bench

/-- The addresses that all attachments to a card have offered on a lane, in the order of the attachments. -/
def offered (b : Bench) (k lane : Nat) : List Word :=
  b.attachments.toList.flatMap fun a => if a.sim = k then Host.share lane 0 a.device.rxPool.addrs else []

/-- Every address that was offered is still there, as nothing was received. -/
def KeepsOffers (b : Bench) : Prop :=
  ∀ (k : Nat) (s : Sim), b.sims[k]? = some s → ∀ lane < laneCount, s.host.bus.freeList lane = b.offered k lane

/-- The line of a card to which an attachment was detached is closed. -/
def KeepsClosed (b : Bench) : Prop :=
  ∀ (i : Nat) (a : Attachment) (s : Sim), b.attachments[i]? = some a → a.device.detached = true →
    b.sims[a.sim]? = some s → s.host.line.closed = true

variable {b b' : Bench} {allowed : Config → Prop}

/-! ## The lanes -/

/-- A new attachment offers its buffers behind those of the others. -/
theorem offered_push {a : Attachment} (hattachments : b'.attachments = b.attachments.push a) (k lane : Nat) :
    b'.offered k lane = b.offered k lane ++ if a.sim = k then Host.share lane 0 a.device.rxPool.addrs else [] := by
  simp [offered, hattachments]

/-- A driver that could not be attached has offered nothing. -/
theorem Calm.free_of_error {s : Sim} (hcalm : Calm s) {name : String} (hnamed : Device.canNameHandler name = true)
    {baseHdwr baseLen : Nat} {config : Config} {e : Setback CardError} {h' : Host Board}
    (hdone : Device.attach s.host name s.address baseHdwr baseLen config = (.error e, h')) :
    h'.bus.free = s.host.bus.free := by
  have hbuffers : s.host.buffers.Reachable := Host.buffers_of_shared hcalm.shared ▸ hcalm.memory
  cases e with
  | failed e =>
    rcases Device.undone_of_failed hbuffers hdone with ⟨-, rfl⟩ | ⟨-, hundone⟩
    · rfl
    · rw [hundone.bus]
      rfl
  | cutShort =>
    rw [(Device.abandoned_of_cutShort hbuffers hnamed hdone).2.bus]
    rfl

/-- Cards may change if their lanes stay as they are. -/
theorem KeepsOffers.of_free (h : b.KeepsOffers) (hoffered : ∀ k lane, b'.offered k lane = b.offered k lane)
    (hsims : ∀ (k : Nat) (s' : Sim), b'.sims[k]? = some s' →
      ∃ s, b.sims[k]? = some s ∧ s'.host.bus.free = s.host.bus.free) :
    b'.KeepsOffers := by
  intro k s' hs' lane hlane
  obtain ⟨s, hs, hfree⟩ := hsims k s' hs'
  rw [hoffered, Board.freeList, hfree]
  exact h k s hs lane hlane

/-- Every change leaves on the lanes what was there, and puts the buffers of a new attachment behind it. -/
theorem Change.keepsOffers (h : Change allowed b b') (hfit : b.Fit) (hkept : b.KeepsOffers) : b'.KeepsOffers := by
  cases h with
  | aside hsims hattachments =>
    exact hkept.of_free (fun k lane => by rw [offered, offered, hattachments]) fun k s hs => ⟨s, hsims ▸ hs, rfl⟩
  | sim hsims hattachments =>
    have hoffered (k lane : Nat) : b'.offered k lane = b.offered k lane := by rw [offered, offered, hattachments]
    rw [KeepsOffers, hsims]
    refine Table.forall_push (fun k s hs lane hlane => ?_) fun lane hlane => ?_
    · rw [hoffered]
      exact hkept k s hs lane hlane
    · have hnone : b.offered b.sims.size lane = [] := by
        rw [offered, List.flatMap_eq_nil_iff]
        intro a ha
        obtain ⟨i, hi⟩ := List.mem_iff_getElem?.mp ha
        have hplaced := hfit.placed i a (by rwa [← Array.getElem?_toList])
        exact if_neg (Nat.ne_of_lt hplaced)
      rw [hoffered, hnone]
      simp [Board.freeList, Board.new, hlane]
  | @turn i a a' s s' hturn haltered =>
    have hbecomes := haltered.becomes
    have hoffered (k lane : Nat) : b'.offered k lane = b.offered k lane := by
      rw [offered, hturn.attachments]
      exact Table.flatMap_setIfInBounds hturn.attachment _ (by rw [hbecomes.sim, hbecomes.rxPool])
    have hfree : s'.host.bus.free = s.host.bus.free := by
      cases haltered with
      | tended hcard => exact hcard.free
      | released _ _ hcard => exact hcard.free
    refine hkept.of_free hoffered ?_
    rw [hturn.sims]
    exact Table.forall_setIfInBounds (fun k x hx => ⟨x, hx, rfl⟩) ⟨s, hturn.sim, hfree⟩
  | @attached k s name slot config baseHdwr baseLen d h' hsim hconfig hnamed hfree hdone hsims hattachments =>
    have hstarted := (hfit.calm k s hsim).started hdone
    have hpushed := offered_push hattachments
    rw [KeepsOffers, hsims]
    refine Table.forall_setIfInBounds_of_ne (fun j x hj hx lane hlane => ?_) fun lane hlane => ?_
    · rw [hpushed, if_neg (Ne.symm hj), List.append_nil]
      exact hkept j x hx lane hlane
    · rw [hpushed, if_pos rfl, ← hkept k s hsim lane hlane]
      exact hstarted.free lane hlane
  | @unattached k s name config baseHdwr baseLen e h' hsim hconfig hnamed hfree hdone hsims hattachments =>
    have hsame : h'.bus.free = s.host.bus.free := (hfit.calm k s hsim).free_of_error hnamed hdone
    refine hkept.of_free (fun k lane => by rw [offered, offered, hattachments]) ?_
    rw [hsims]
    exact Table.forall_setIfInBounds (fun j x hx => ⟨x, hx, rfl⟩) ⟨s, hsim, hsame⟩

/-- So does a whole history. -/
theorem History.keepsOffers (h : History allowed b b') (hfit : b.Fit) (hkept : b.KeepsOffers) :
    b'.KeepsOffers := by
  induction h with
  | refl => exact hkept
  | tail hbefore hlast ih => exact hlast.keepsOffers (History.fit hbefore hfit) ih

/-! ## The line -/

/-- Cards may change if no line is opened and no attachment is detached. -/
theorem KeepsClosed.of_closed (h : b.KeepsClosed)
    (hattachments : ∀ (i : Nat) (a' : Attachment), b'.attachments[i]? = some a' → a'.device.detached = true →
      ∃ a, b.attachments[i]? = some a ∧ a.device.detached = true ∧ a'.sim = a.sim)
    (hsims : ∀ (k : Nat) (s' : Sim), b'.sims[k]? = some s' → k < b.sims.size →
      ∃ s, b.sims[k]? = some s ∧ (s.host.line.closed = true → s'.host.line.closed = true))
    (hfit : b.Fit) : b'.KeepsClosed := by
  intro i a' s' ha' hdetached' hs'
  obtain ⟨a, ha, hdetached, hsim⟩ := hattachments i a' ha' hdetached'
  obtain ⟨s, hs, hclosed⟩ := hsims a'.sim s' hs' (hsim ▸ hfit.placed i a ha)
  exact hclosed (h i a s ha hdetached (hsim ▸ hs))

/-- No change opens a line, and detaching closes it. -/
theorem Change.keepsClosed (h : Change allowed b b') (hfit : b.Fit) (hkept : b.KeepsClosed) : b'.KeepsClosed := by
  have hline {k : Nat} {s : Sim} {name : String} {config : Config} {baseHdwr baseLen : Nat}
      {result : Except (Setback CardError) Device} {h' : Host Board} (hs : b.sims[k]? = some s)
      (hdone : Device.attach s.host name s.address baseHdwr baseLen config = (result, h')) :
      h'.line = s.host.line := by
    have hpersists := Device.attach_persists s.host name s.address baseHdwr baseLen config
      (hfit.calm k s hs).completions
    rw [hdone] at hpersists
    exact hpersists.line
  cases h with
  | aside hsims hattachments =>
    exact hkept.of_closed (fun i a ha hdetached => ⟨a, hattachments ▸ ha, hdetached, rfl⟩)
      (fun k s hs _ => ⟨s, hsims ▸ hs, id⟩) hfit
  | sim hsims hattachments =>
    refine hkept.of_closed (fun i a ha hdetached => ⟨a, hattachments ▸ ha, hdetached, rfl⟩)
      (fun k s hs hk => ?_) hfit
    rw [hsims, addSim, Array.getElem?_push, if_neg (Nat.ne_of_lt hk)] at hs
    exact ⟨s, hs, id⟩
  | @turn i a a' s s' hturn haltered =>
    -- What is detached now was detached before, or its line was just closed.
    have hnow : s'.host.line.closed = true ∨
        (s'.host.line.closed = s.host.line.closed ∧ (a'.device.detached = true → a.device.detached = true)) := by
      cases haltered with
      | tended hcard =>
        rcases hcard.ending with ⟨hdetached, hclosed, -⟩ | ⟨-, -, hclosed⟩
        · exact .inr ⟨hclosed, fun h => hdetached.symm.trans h⟩
        · exact .inl hclosed
      | released _ hdetached hcard _ => exact .inr ⟨congrArg IrqLine.closed hcard.line, fun _ => hdetached⟩
    rcases hnow with hclosed | ⟨hclosed, hback⟩
    · intro j y t hy hdetached ht
      by_cases hsim : y.sim = a.sim
      · rw [hsim] at ht
        obtain rfl := Option.some.inj (hturn.sims_self.symm.trans ht)
        exact hclosed
      · have hji : j ≠ i := by
          rintro rfl
          obtain rfl := Option.some.inj (hturn.getElem?_self.symm.trans hy)
          exact hsim haltered.becomes.sim
        rw [hturn.getElem?_of_ne hji] at hy
        rw [hturn.sims_of_ne hsim] at ht
        exact hkept j y t hy hdetached ht
    · refine hkept.of_closed (fun j y hy hdetached => ?_) ?_ hfit
      · by_cases hji : j = i
        · subst hji
          obtain rfl := Option.some.inj (hturn.getElem?_self.symm.trans hy)
          exact ⟨a, hturn.attachment, hback hdetached, haltered.becomes.sim⟩
        · exact ⟨y, (hturn.getElem?_of_ne hji).symm.trans hy, hdetached, rfl⟩
      · rw [hturn.sims]
        exact Table.forall_setIfInBounds (fun k x hx _ => ⟨x, hx, id⟩) fun _ => ⟨s, hturn.sim, hclosed.trans⟩
  | @attached k s name slot config baseHdwr baseLen d h' hsim hconfig hnamed hfree hdone hsims hattachments =>
    obtain ⟨-, txPool, rxPool, h₁, h₂, -, -, hdevice, -⟩ := Device.attach_cases hdone
    refine hkept.of_closed (fun i a ha hdetached => ?_) ?_ hfit
    · rw [hattachments, Array.getElem?_push] at ha
      split at ha
      · obtain rfl := Option.some.inj ha
        rw [hdevice] at hdetached
        exact absurd hdetached Bool.false_ne_true
      · exact ⟨a, ha, hdetached, rfl⟩
    · rw [hsims]
      exact Table.forall_setIfInBounds (fun j x hx _ => ⟨x, hx, id⟩)
        fun _ => ⟨s, hsim, fun hclosed => (congrArg IrqLine.closed (hline hsim hdone)).trans hclosed⟩
  | @unattached k s name config baseHdwr baseLen e h' hsim hconfig hnamed hfree hdone hsims hattachments =>
    refine hkept.of_closed (fun i a ha hdetached => ⟨a, hattachments ▸ ha, hdetached, rfl⟩) ?_ hfit
    rw [hsims]
    exact Table.forall_setIfInBounds (fun j x hx _ => ⟨x, hx, id⟩)
      fun _ => ⟨s, hsim, fun hclosed => (congrArg IrqLine.closed (hline hsim hdone)).trans hclosed⟩

/-- So it is with any number of changes. -/
theorem History.keepsClosed (h : History allowed b b') (hfit : b.Fit) (hkept : b.KeepsClosed) :
    b'.KeepsClosed := by
  induction h with
  | refl => exact hkept
  | tail hbefore hlast ih => exact hlast.keepsClosed (History.fit hbefore hfit) ih

/-! ## The driver that is attached next -/

/-- What comes of a driver that is attached to a card from which another was detached: it starts, its buffers
are offered behind those of all earlier attachments, and it hears nothing, whatever is done. -/
structure Reattached (b b' : Bench) (k bytes : Nat) (a : Attachment) (d : Device) (s : Sim) : Prop where
  sim : b'.sims[k]? = some s
  attachments : ∃ slot, b'.attachments = b.attachments.push ⟨d, k, none, slot, 1, 0, false⟩
  attached : d.detached = false
  receiving : s.host.bus.Receiving bytes
  enabled : s.host.bus.irqEnabled = true
  free : ∀ lane < laneCount, s.host.bus.freeList lane = b.offered k lane ++ Host.share lane 0 d.rxPool.addrs
  /-- The buffers of the attachment that was detached are among those that were offered earlier. -/
  stale : ∀ lane < laneCount, (Host.share lane 0 a.device.rxPool.addrs).Sublist (b.offered k lane)
  closed : s.host.line.closed = true
  /-- No completion is filed, and no call receives a frame. -/
  deaf : ∀ deeds : List Deed, (Card.undergoAll ⟨s.host, d⟩ deeds).settle = Card.undergoAll ⟨s.host, d⟩ deeds ∧
    ∀ (memory : CallerMemory) (patience : Patience) (call : Call),
      (makeCall (Card.undergoAll ⟨s.host, d⟩ deeds) memory patience call).1.1.consumes = false

/-- An attachment has offered its share. -/
theorem share_sublist_offered {i : Nat} {a : Attachment} (ha : b.attachments[i]? = some a) (lane : Nat) :
    (Host.share lane 0 a.device.rxPool.addrs).Sublist (b.offered a.sim lane) := by
  have hmem : a ∈ b.attachments.toList := Array.mem_toList_iff.mpr (Array.mem_of_getElem? ha)
  obtain ⟨l, l', hsplit⟩ := List.append_of_mem hmem
  rw [offered, hsplit, List.flatMap_append, List.flatMap_cons, if_pos rfl]
  exact (List.sublist_append_left _ _).trans (List.sublist_append_right _ _)

/-- A card that was detached from its slot, as nobody used it, and is probed again later, gets a driver that
starts. But the card still offers the buffers of the driver that was detached, and before those of the new
one; and as its line is closed, no completion is ever filed and no frame received. -/
theorem reattached_after_detach (before between : List Step) {slot k vendor device slot' i : Nat}
    {resources : Resources} {r r' : Registry} {a : Attachment}
    (hsteps : ∀ step ∈ before ++ .detachSlot slot :: (between ++ [.probe k vendor device resources]),
      step.isLifecycle = true)
    (hregistry : (empty.playAll before).registry = some r) (hslot : r.get? slot = some i)
    (ha : (empty.playAll before).attachments[i]? = some a) (hk : a.sim = k)
    (hdetach : ((empty.playAll before).play (.detachSlot slot)).1 = .nothing)
    (hregistry' : (empty.playAll (before ++ .detachSlot slot :: between)).registry = some r')
    (hprobe : ((empty.playAll (before ++ .detachSlot slot :: between)).play
      (.probe k vendor device resources)).1 = .slot slot') :
    ∃ d s, Reattached (empty.playAll (before ++ .detachSlot slot :: between))
      ((empty.playAll (before ++ .detachSlot slot :: between)).play (.probe k vendor device resources)).2 k
      r'.config.rxSize a d s := by
  have hany : ∀ config, .registry config ∈ before ++ .detachSlot slot :: between → True := fun _ _ => trivial
  have hpart (step : Step) (hstep : step ∈ before ++ .detachSlot slot :: between) : step.isLifecycle = true :=
    hsteps step (by simp only [List.mem_append, List.mem_cons] at hstep ⊢; tauto)
  -- The attachment stays detached from when its slot was emptied.
  have hfirstSteps (step : Step) (hstep : step ∈ before) : step.isLifecycle = true :=
    hpart step (List.mem_append_left _ hstep)
  have hbefore := (ledger_empty fun _ => True).playAll hfirstSteps fun _ _ => trivial
  obtain ⟨x, hx, hfirst, hdetached⟩ := hbefore.play_detachSlot hregistry hslot ha hdetach
  have hplayed := hbefore.play (show Step.isLifecycle (.detachSlot slot) = true from rfl) fun _ _ => trivial
  have hlaterSteps (step : Step) (hstep : step ∈ between) : step.isLifecycle = true :=
    hpart step (List.mem_append_right _ (List.mem_cons_of_mem _ hstep))
  have hbetween := hplayed.ledger.playAll hlaterSteps fun _ _ => trivial
  have hsame : ((empty.playAll before).play (.detachSlot slot)).2.playAll between =
      empty.playAll (before ++ .detachSlot slot :: between) :=
    (playAll_append empty before (.detachSlot slot :: between)).symm
  rw [hsame] at hbetween
  obtain ⟨y, hy, hrest⟩ := hbetween.history.becomes hx
  have hbecomes := hfirst.trans hrest
  have hysim : y.sim = k := hbecomes.sim.trans hk
  set b := empty.playAll (before ++ .detachSlot slot :: between)
  -- What the card is like before the probe.
  have hall := (ledger_empty fun _ => True).playAll hpart hany
  have hoffers : b.KeepsOffers := hall.history.keepsOffers fit_empty fun k s hs => by simp [empty] at hs
  have hcloses : b.KeepsClosed := hall.history.keepsClosed fit_empty fun i a s ha => by simp [empty] at ha
  have hapart : resources.apart = none := by
    have hstep := hsteps (.probe k vendor device resources) (by simp)
    simpa [Step.isLifecycle] using hstep
  obtain ⟨s, d, h', hs, -, hdone, hattachments, s', hs', hbus, hclosed⟩ :=
    hall.play_probe hregistry' hapart hprobe
  have hstarted := (hall.ledger.fit.calm k s hs).started hdone
  have hshut : s'.host.line.closed = true :=
    hclosed.trans (hcloses i y s hy (hrest.detached hdetached) (hysim ▸ hs))
  have hdeaf : Card.Deaf ⟨s'.host, d⟩ := ⟨hshut, hstarted.rxReady⟩
  refine ⟨d, s', ?_⟩
  exact
    { sim := hs'
      attachments := ⟨slot', hattachments⟩
      attached := by
        obtain ⟨-, _, _, _, _, -, -, hdevice, -⟩ := Device.attach_cases hdone
        rw [hdevice]
        rfl
      receiving := by
        refine ⟨hbus ▸ hstarted.limit, ?_⟩
        rw [hbus, hstarted.reset]
        exact isSet_cardReset_and_not _
      enabled := hbus ▸ hstarted.enabled
      free := fun lane hlane => by rw [hbus, hstarted.free lane hlane, hoffers k s hs lane hlane]
      stale := fun lane _ => by
        have hshare := share_sublist_offered hy lane
        rwa [hysim, hbecomes.rxPool] at hshare
      closed := hshut
      deaf := fun deeds =>
        have hafter := hdeaf.undergoAll deeds
        ⟨hafter.settleFor_eq _, fun memory patience call => (hafter.makeCall memory patience call).2⟩ }

/-- A card is attached. -/
def attachFirst : List Step := [.addSim .standard, .registry .small, probeFirst]

/-- The second driver of a small card starts and hears nothing. -/
theorem reattached_after_detach_small :
    ((∀ step ∈ attachFirst ++ .detachSlot 0 :: ([] ++ [probeFirst]), step.isLifecycle = true) ∧
      ((empty.playAll attachFirst).play (.detachSlot 0)).1 = .nothing ∧
      ((empty.playAll (attachFirst ++ [.detachSlot 0])).play probeFirst).1 = .slot 0) ∧
    ∃ a d s, (empty.playAll attachFirst).attachments[0]? = some a ∧
      Reattached (empty.playAll (attachFirst ++ [.detachSlot 0]))
        ((empty.playAll (attachFirst ++ [.detachSlot 0])).play probeFirst).2 0 Config.small.rxSize a d s := by
  have hsteps : ∀ step ∈ attachFirst ++ .detachSlot 0 :: ([] ++ [probeFirst]), step.isLifecycle = true := by decide
  have hdetach : ((empty.playAll attachFirst).play (.detachSlot 0)).1 = .nothing :=
    Outcome.eq_nothing (by decide +kernel)
  have hprobe : ((empty.playAll (attachFirst ++ [.detachSlot 0])).play probeFirst).1 = .slot 0 :=
    Outcome.slot?_eq_some (by decide +kernel)
  obtain ⟨r, hr, hslot⟩ := Option.bind_eq_some_iff.mp
    (show (empty.playAll attachFirst).registry.bind (·.get? 0) = some 0 by decide +kernel)
  obtain ⟨a, ha, hsim⟩ := Option.map_eq_some_iff.mp
    (show ((empty.playAll attachFirst).attachments[0]?).map Attachment.sim = some 0 by decide +kernel)
  obtain ⟨r', hr', hsmall⟩ := Option.map_eq_some_iff.mp
    (show (empty.playAll (attachFirst ++ [.detachSlot 0])).registry.map Registry.config = some .small by
      decide +kernel)
  obtain ⟨d, s, hdeaf⟩ := reattached_after_detach attachFirst [] hsteps hr hslot ha hsim hdetach hr' hprobe
  exact ⟨⟨hsteps, hdetach, hprobe⟩, a, d, s, ha, hsmall ▸ hdeaf⟩

/-- A frame is sent on a lane that is looped back. -/
def sendLooped : List Step :=
  [.openSlot 0 true, .session 0 (.control .setLoop 0), .session 0 (.call (.send 0 1 [5]) none)]

/-- The first driver receives a frame that is looped back. When the card was detached and attached again, the
second driver does not, and a buffer of the first is still offered before those of the second. -/
theorem deaf_when_attached_again :
    ((empty.playAll (attachFirst ++ sendLooped)).play (.session 0 (.call (.recv [0, 0]) none))).1.consumes = true ∧
      ∃ b, b = empty.playAll (attachFirst ++ [.detachSlot 0, probeFirst]) ∧
        (b.attachments[1]?).map (fun a => a.device.rxPool.addrs) = some [0x10000000#32, 0x10001000#32] ∧
        (b.sims[0]?).map (fun s => s.host.bus.freeList 0) = some [0x10002000#32, 0x10000000#32] ∧
        ((b.playAll sendLooped).play (.session 0 (.call (.recv [0, 0]) none))).1.consumes = false := by
  exact ⟨by decide +kernel, _, rfl, by decide +kernel, by decide +kernel, by decide +kernel⟩

end LaneCard.Bench
