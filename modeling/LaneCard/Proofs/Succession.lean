import LaneCard.Proofs.Bookkeeping

/-!
# One attachment after another

Several attachments to one simulated card can overlap: a session that is still open keeps the buffers of an
attachment that was detached, while the card is attached once more. Only the newest of them can be in use.
What is left of the older ones is felt once more, when the last reference to one of them goes: its teardown
stops the card, whoever has it by then. So the newest attachment receives frames for exactly as long as
everything that was in use when it was made stays in use.
-/

namespace LaneCard.Bench

/-- Every attachment to a card to which something refers on one bench is referred to on the other. -/
def StillUsed (b b' : Bench) (k : Nat) : Prop :=
  ∀ (j : Nat) (a : Attachment), b.attachments[j]? = some a → a.sim = k → b.refersTo j = true → b'.refersTo j = true

/-- Whether an attachment was released. -/
def isReleased (b : Bench) (j : Nat) : Bool := (b.attachments[j]?).any Attachment.released

/-- No attachment to a card that was held on an earlier bench was released since. -/
def StillHeld (old b : Bench) (k : Nat) : Prop :=
  ∀ (j : Nat) (x : Attachment), old.attachments[j]? = some x → x.sim = k → x.released = false →
    b.isReleased j = false

/-- All attachments to a card but the one that was made next on an earlier bench are older, and were
detached. -/
def OnlyNewest (old b : Bench) (k : Nat) : Prop :=
  ∀ (j : Nat) (x : Attachment), b.attachments[j]? = some x → x.sim = k → j ≠ old.attachments.size →
    j < old.attachments.size ∧ x.device.detached = true

/-- A card on whose newest attachment drives it: it has interrupts enabled, and it receives frames of up to
so many bytes unless an older attachment was released since. All others were detached. -/
structure Ruled (old b : Bench) (k bytes : Nat) (board : Board) : Prop where
  alone : old.OnlyNewest b k
  enabled : board.irqEnabled = true
  receiving : old.StillHeld b k → board.Receiving bytes
  resting : ¬ old.StillHeld b k → board.Resting

/-- The attachment that was made next on an earlier bench drives its card as long as it is not detached. -/
structure Reigns (old b : Bench) (k bytes : Nat) : Prop where
  older : ∀ (j : Nat) (x : Attachment), old.attachments[j]? = some x →
    ∃ x', b.attachments[j]? = some x' ∧ Becomes x x'
  newest : ∃ a, b.attachments[old.attachments.size]? = some a ∧ a.sim = k
  ruled : ∀ (a : Attachment) (s : Sim), b.attachments[old.attachments.size]? = some a →
    a.device.detached = false → b.sims[k]? = some s → Ruled old b k bytes s.host.bus

variable {old b b' : Bench} {k bytes : Nat} {allowed : Config → Prop}

/-- An older attachment has a smaller number. -/
theorem Reigns.sim_eq (h : Reigns old b k bytes) {j : Nat} {x y : Attachment} (hx : old.attachments[j]? = some x)
    (hy : b.attachments[j]? = some y) : y.sim = x.sim ∧ (x.released = true → y.released = true) := by
  obtain ⟨x', hx', hbecomes⟩ := h.older j x hx
  obtain rfl := Option.some.inj (hx'.symm.trans hy)
  exact ⟨hbecomes.sim, hbecomes.released⟩

/-- What changes nothing of the card and of the attachments to it changes nothing of who drives it. -/
theorem Ruled.of_same {board board' : Board} (h : Ruled old b k bytes board)
    (halone : old.OnlyNewest b' k)
    (hreleased : ∀ (j : Nat) (x : Attachment), old.attachments[j]? = some x → x.sim = k →
      b'.isReleased j = b.isReleased j)
    (hregs : ∀ offset, offset ≠ Offset.irq → board'.regs.get offset = board.regs.get offset)
    (henabled : board'.irqEnabled = board.irqEnabled) : Ruled old b' k bytes board' := by
  have hheld : old.StillHeld b' k ↔ old.StillHeld b k := by
    refine forall₄_congr fun j x hx hk => ?_
    rw [hreleased j x hx hk]
  have hlimit := hregs Offset.rxMaxFrame (by decide)
  have hreset := hregs Offset.cardRstStat (by decide)
  refine ⟨halone, henabled.trans h.enabled, fun hall => ?_, fun hsome => ?_⟩
  · obtain ⟨hl, hr⟩ := h.receiving (hheld.mp hall)
    exact ⟨hlimit.trans hl, hreset ▸ hr⟩
  · obtain ⟨hl, hr⟩ := h.resting (mt hheld.mpr hsome)
    exact ⟨hlimit.trans hl, hreset ▸ hr⟩

/-- A card is ruled on as before if it and all attachments stay as they are. -/
theorem Reigns.of_attachments (h : Reigns old b k bytes) (hattachments : b'.attachments = b.attachments)
    (hsims : ∀ s', b'.sims[k]? = some s' → ∃ s, b.sims[k]? = some s ∧
      s'.host.bus.irqEnabled = s.host.bus.irqEnabled ∧ ∀ offset, offset ≠ Offset.irq →
        s'.host.bus.regs.get offset = s.host.bus.regs.get offset) :
    Reigns old b' k bytes := by
  refine ⟨hattachments ▸ h.older, hattachments ▸ h.newest, fun a s' ha hattached hs' => ?_⟩
  obtain ⟨s, hs, henabled, hregs⟩ := hsims s' hs'
  have hruled := h.ruled a s (hattachments ▸ ha) hattached hs
  refine hruled.of_same ?_ (fun j _ _ _ => by rw [isReleased, isReleased, hattachments]) hregs henabled
  rw [OnlyNewest, hattachments]
  exact hruled.alone

/-- Attachments other than the one that changed are released if they were before. -/
theorem Turn.isReleased_of_ne {i j : Nat} {x x' : Attachment} {s s' : Sim} (hturn : b.Turn b' i x x' s s')
    (hj : j ≠ i) : b'.isReleased j = b.isReleased j := by
  rw [isReleased, isReleased, hturn.getElem?_of_ne hj]

/-- The newest attachment drives its card on through every turn of it or of another. If an older one is
released, the card rests. -/
theorem Turn.ruled {i : Nat} {x x' : Attachment} {s s' : Sim} (hturn : b.Turn b' i x x' s s')
    (haltered : Altered x x' s s') (h : Reigns old b k bytes) {a' : Attachment} {t' : Sim}
    (ha' : b'.attachments[old.attachments.size]? = some a') (hattached' : a'.device.detached = false)
    (ht' : b'.sims[k]? = some t') : Ruled old b' k bytes t'.host.bus := by
  obtain ⟨a, ha, hbecomes⟩ := hturn.comes haltered ha'
  have hattached : a.device.detached = false := by
    by_contra hdetached
    rw [hbecomes.detached (by simpa using hdetached)] at hattached'
    contradiction
  have halone {board : Board} (hruled : Ruled old b k bytes board) : old.OnlyNewest b' k := by
    intro j y hy hk hj
    obtain ⟨y₀, hy₀, hcomes⟩ := hturn.comes haltered hy
    obtain ⟨hlt, hdetached⟩ := hruled.alone j y₀ hy₀ (hcomes.sim.symm.trans hk) hj
    exact ⟨hlt, hcomes.detached hdetached⟩
  by_cases hk : x.sim = k
  · subst hk
    obtain rfl := Option.some.inj (hturn.sims_self.symm.trans ht')
    have hruled := h.ruled a s ha hattached hturn.sim
    cases haltered with
    | tended hcard hsame =>
      have hstill : s'.host.bus.irqEnabled = s.host.bus.irqEnabled := by
        rcases hcard.ending with ⟨-, -, hirq⟩ | ⟨hbefore, hafter, -⟩
        · exact hirq
        · -- The one that is detached would be the newest, which is not, or an older one, which was before.
          by_cases hi : i = old.attachments.size
          · subst hi
            obtain rfl := Option.some.inj (hturn.getElem?_self.symm.trans ha')
            rw [hattached'] at hafter
            contradiction
          · rw [(hruled.alone i x hturn.attachment rfl hi).2] at hbefore
            contradiction
      refine hruled.of_same (halone hruled) (fun j y _ _ => ?_) hcard.regs hstill
      by_cases hji : j = i
      · subst hji
        rw [isReleased, isReleased, hturn.getElem?_self, hturn.attachment, Option.any_some, Option.any_some,
          hsame.2.2]
      · exact hturn.isReleased_of_ne hji
    | released hheld hdetached hcard hattachment =>
      have hi : i ≠ old.attachments.size := by
        rintro rfl
        obtain rfl := Option.some.inj (hturn.attachment.symm.trans ha)
        rw [hattached] at hdetached
        contradiction
      obtain ⟨hlt, -⟩ := hruled.alone i x hturn.attachment rfl hi
      obtain ⟨y, hy⟩ : ∃ y, old.attachments[i]? = some y := ⟨_, Array.getElem?_eq_getElem hlt⟩
      obtain ⟨hsim, hreleased⟩ := h.sim_eq hy hturn.attachment
      have hbefore : y.released = false := by
        by_contra hyes
        rw [hreleased (by simpa using hyes)] at hheld
        contradiction
      have hnow : b'.isReleased i = true := by
        rw [isReleased, hturn.getElem?_self, hattachment]
        rfl
      refine ⟨halone hruled, hcard.irq.trans hruled.enabled, fun hall => ?_, fun _ => hcard.resting⟩
      rw [hall i y hy hsim.symm hbefore] at hnow
      contradiction
  · obtain hsims := hturn.sims_of_ne (Ne.symm hk)
    have hruled := h.ruled a t' ha hattached (hsims.symm.trans ht')
    refine hruled.of_same (halone hruled) (fun j y hy hsim => ?_) (fun _ _ => rfl) rfl
    refine hturn.isReleased_of_ne fun hji => hk ?_
    subst hji
    exact (h.sim_eq hy hturn.attachment).1.trans hsim

/-- The newest attachment drives its card on whatever happens, as long as it is not detached. -/
theorem Change.reigns (hchange : Change allowed b b') (hfit : b.Fit) (h : Reigns old b k bytes) :
    Reigns old b' k bytes := by
  have holder (j : Nat) (x : Attachment) (hx : old.attachments[j]? = some x) :
      ∃ x', b'.attachments[j]? = some x' ∧ Becomes x x' := by
    obtain ⟨y, hy, hfirst⟩ := h.older j x hx
    obtain ⟨x', hx', hrest⟩ := hchange.becomes hy
    exact ⟨x', hx', hfirst.trans hrest⟩
  obtain ⟨a, ha, hk⟩ := h.newest
  have hnewest : ∃ a', b'.attachments[old.attachments.size]? = some a' ∧ a'.sim = k := by
    obtain ⟨a', ha', hbecomes⟩ := hchange.becomes ha
    exact ⟨a', ha', hbecomes.sim.trans hk⟩
  have hsame (s : Sim) : s.host.bus.irqEnabled = s.host.bus.irqEnabled ∧
      ∀ offset, offset ≠ Offset.irq → s.host.bus.regs.get offset = s.host.bus.regs.get offset :=
    ⟨rfl, fun _ _ => rfl⟩
  cases hchange with
  | aside hsims hattachments =>
    exact h.of_attachments hattachments fun s hs => ⟨s, hsims ▸ hs, hsame s⟩
  | sim hsims hattachments =>
    refine h.of_attachments hattachments fun s hs => ⟨s, ?_, hsame s⟩
    have hplaced := hfit.placed _ a ha
    rw [hsims, addSim, Array.getElem?_push, if_neg (by omega)] at hs
    exact hs
  | turn hturn haltered =>
    exact ⟨holder, hnewest, fun a' t' ha' hattached' ht' => hturn.ruled haltered h ha' hattached' ht'⟩
  | @attached i s name slot config baseHdwr baseLen d h' hsim hconfig hnamed hfree hdone hsims hattachments =>
    have hlt := lt_size_of_getElem? ha
    refine ⟨holder, hnewest, fun a' t' ha' hattached ht' => ?_⟩
    rw [hattachments, Array.getElem?_push, if_neg (by omega)] at ha'
    have hik : i ≠ k := by
      rintro rfl
      obtain rfl := Option.some.inj (ha.symm.trans ha')
      rw [detached_of_isLive hfree ha hk] at hattached
      contradiction
    rw [hsims, Array.getElem?_setIfInBounds, if_neg hik] at ht'
    have hruled := h.ruled a' t' ha' hattached ht'
    refine hruled.of_same (fun j y hy hsim => ?_) (fun j y hy _ => ?_) (fun _ _ => rfl) rfl
    · rw [hattachments, Array.getElem?_push] at hy
      split at hy
      · obtain rfl := Option.some.inj hy
        exact absurd hsim hik
      · exact hruled.alone j y hy hsim
    · obtain ⟨x, hx, -⟩ := h.older j y hy
      have hj := lt_size_of_getElem? hx
      rw [isReleased, isReleased, hattachments, Array.getElem?_push, if_neg (by omega)]
  | @unattached i s name config baseHdwr baseLen e h' hsim hconfig hnamed hfree hdone hsims hattachments =>
    refine ⟨holder, hnewest, fun a' t' ha' hattached ht' => ?_⟩
    rw [hattachments] at ha'
    have hik : i ≠ k := by
      rintro rfl
      obtain rfl := Option.some.inj (ha.symm.trans ha')
      rw [detached_of_isLive hfree ha hk] at hattached
      contradiction
    rw [hsims, Array.getElem?_setIfInBounds, if_neg hik] at ht'
    have hruled := h.ruled a' t' ha' hattached ht'
    refine hruled.of_same ?_ (fun j _ _ _ => by rw [isReleased, isReleased, hattachments]) (fun _ _ => rfl) rfl
    rw [OnlyNewest, hattachments]
    exact hruled.alone

/-- So it does over a whole history. -/
theorem History.reigns (hhistory : History allowed b b') (hfit : b.Fit) (h : Reigns old b k bytes) :
    Reigns old b' k bytes := by
  induction hhistory with
  | refl => exact h
  | tail hbefore hlast ih => exact hlast.reigns (History.fit hbefore hfit) ih

/-- A driver that was just attached by a probe drives its card. -/
theorem Ledger.reigns (h : b.Ledger allowed [] none) {r : Registry} (hr : b.registry = some r)
    {vendor device slot : Nat} {resources : Resources} (hapart : resources.apart = none)
    (hprobe : (b.play (.probe k vendor device resources)).1 = .slot slot) :
    Reigns b (b.play (.probe k vendor device resources)).2 k r.config.rxSize := by
  obtain ⟨s, d, h', hs, hfree, hdone, hattachments, s', hs', hbus, -⟩ :=
    Leads.play_probe (⟨h, .refl⟩ : Leads allowed b b [] none) hr hapart hprobe
  set b' := (b.play (.probe k vendor device resources)).2
  have hstarted := (h.fit.calm k s hs).started hdone
  have hother (j : Nat) (hj : j ≠ b.attachments.size) : b'.attachments[j]? = b.attachments[j]? := by
    rw [hattachments, Array.getElem?_push, if_neg hj]
  have hkept : b.StillHeld b' k := fun j x hx _ hheld => by
    rw [isReleased, hother j (Nat.ne_of_lt (lt_size_of_getElem? hx)), hx]
    exact hheld
  refine ⟨fun j x hx => ⟨x, ?_, .refl x⟩, ⟨_, by rw [hattachments, Array.getElem?_push_size], rfl⟩,
    fun a t _ _ ht => ?_⟩
  · rw [hother j (Nat.ne_of_lt (lt_size_of_getElem? hx)), hx]
  · obtain rfl := Option.some.inj (hs'.symm.trans ht)
    rw [hbus]
    refine ⟨fun j x hx hk hj => ?_, hstarted.enabled, fun _ => ⟨hstarted.limit, ?_⟩, fun hnot => absurd hkept hnot⟩
    · rw [hother j hj] at hx
      exact ⟨lt_size_of_getElem? hx, detached_of_isLive hfree hx hk⟩
    · rw [hstarted.reset]
      exact isSet_cardReset_and_not _

/-- A card that was attached by a probe and was not detached since has interrupts enabled. It receives frames
if every attachment to the card that was in use before the probe is still in use, and it is at rest if one
of them is not: then the end of that attachment has stopped the card. -/
theorem receiving_while_predecessors_used (before after : List Step) (k vendor device slot : Nat)
    (resources : Resources) (r : Registry) (a : Attachment) (s : Sim)
    (hsteps : ∀ step ∈ before ++ .probe k vendor device resources :: after, step.isLifecycle = true)
    (hregistry : (empty.playAll before).registry = some r)
    (hprobe : ((empty.playAll before).play (.probe k vendor device resources)).1 = .slot slot)
    (ha : (empty.playAll (before ++ .probe k vendor device resources :: after)).attachments[
      (empty.playAll before).attachments.size]? = some a)
    (hattached : a.device.detached = false)
    (hs : (empty.playAll (before ++ .probe k vendor device resources :: after)).sims[k]? = some s) :
    s.host.bus.irqEnabled = true ∧
      ((empty.playAll before).StillUsed (empty.playAll (before ++ .probe k vendor device resources :: after)) k →
        s.host.bus.Receiving r.config.rxSize) ∧
      (¬ (empty.playAll before).StillUsed (empty.playAll (before ++ .probe k vendor device resources :: after)) k →
        s.host.bus.Resting) := by
  set b := empty.playAll before
  set b' := empty.playAll (before ++ .probe k vendor device resources :: after)
  have hfirst (step : Step) (hstep : step ∈ before) : step.isLifecycle = true :=
    hsteps step (List.mem_append_left _ hstep)
  have hrest (step : Step) (hstep : step ∈ after) : step.isLifecycle = true :=
    hsteps step (List.mem_append_right _ (List.mem_cons_of_mem _ hstep))
  have hledger := ((ledger_empty fun _ => True).playAll hfirst fun _ _ => trivial).ledger
  have hledger' := ((ledger_empty fun _ => True).playAll hsteps fun _ _ => trivial).ledger
  have hstep := hsteps (.probe k vendor device resources) (by simp)
  have hapart : resources.apart = none := by simpa [Step.isLifecycle] using hstep
  have hplayed := Leads.play (⟨hledger, .refl⟩ : Leads _ b b [] none) hstep fun _ _ => trivial
  have hafter := hplayed.ledger.playAll hrest fun _ _ => trivial
  have hlast : (b.play (.probe k vendor device resources)).2.playAll after = b' :=
    (playAll_append empty before (.probe k vendor device resources :: after)).symm
  rw [hlast] at hafter
  have hreigns := hafter.history.reigns hplayed.ledger.fit (hledger.reigns hregistry hapart hprobe)
  have hruled := hreigns.ruled a s ha hattached hs
  have hused : b.StillHeld b' k ↔ b.StillUsed b' k := by
    refine forall₄_congr fun j x hx hk => ?_
    obtain ⟨y, hy, -⟩ := hreigns.older j x hx
    rw [isReleased, hy, Option.any_some, ← Bool.not_eq_true, hledger.released_iff hx,
      ← Bool.not_eq_true y.released, hledger'.released_iff hy, Bool.not_eq_false, Bool.not_eq_false]
  refine ⟨hruled.enabled, fun hall => ?_, fun hnot => ?_⟩
  · exact hruled.receiving (hused.mpr hall)
  · exact hruled.resting (mt hused.mp hnot)

/-- The session of the first attachment is closed while the second is in use. -/
def overlapSettled : List Step := strandSession ++ [probeFirst, .session 0 .close]

/-- A card that was attached while a session of an earlier attachment is open receives frames until that
session is closed, and rests from then on. -/
theorem receiving_while_predecessors_used_small :
    ((∀ step ∈ overlapSettled, step.isLifecycle = true) ∧
      ((empty.playAll strandSession).registry.map Registry.config) = some .small ∧
      ((empty.playAll strandSession).play probeFirst).1 = .slot 0) ∧
    (∃ s, (empty.playAll overlap).sims[0]? = some s ∧ s.host.bus.irqEnabled = true ∧
      s.host.bus.Receiving Config.small.rxSize) ∧
    ∃ s, (empty.playAll overlapSettled).sims[0]? = some s ∧ s.host.bus.irqEnabled = true ∧
      s.host.bus.Resting := by
  have hsteps : ∀ step ∈ overlapSettled, step.isLifecycle = true := by decide
  have hconfig : (empty.playAll strandSession).registry.map Registry.config = some .small := by decide +kernel
  have hprobe : ((empty.playAll strandSession).play probeFirst).1 = .slot 0 :=
    Outcome.slot?_eq_some (by decide +kernel)
  have hone : (empty.playAll strandSession).attachments.size = 1 := by decide +kernel
  obtain ⟨r, hr, hsmall⟩ := Option.map_eq_some_iff.mp hconfig
  refine ⟨⟨hsteps, hconfig, hprobe⟩, ?_, ?_⟩
  · obtain ⟨s, hs⟩ : ∃ s, (empty.playAll overlap).sims[0]? = some s :=
      Option.isSome_iff_exists.mp (by decide +kernel)
    obtain ⟨a, ha, hattached⟩ := Option.map_eq_some_iff.mp
      (show ((empty.playAll overlap).attachments[1]?).map (fun a => a.device.detached) = some false by
        decide +kernel)
    obtain ⟨henabled, hreceiving, -⟩ := receiving_while_predecessors_used strandSession [] 0 Registry.vendorId
      Registry.deviceId 0 .standard r a s (by decide) hr hprobe (hone ▸ ha) hattached hs
    refine ⟨s, hs, henabled, hsmall ▸ hreceiving fun j x hx _ _ => ?_⟩
    have hj := lt_size_of_getElem? hx
    obtain rfl : j = 0 := by omega
    change (empty.playAll overlap).refersTo 0 = true
    decide +kernel
  · obtain ⟨s, hs⟩ : ∃ s, (empty.playAll overlapSettled).sims[0]? = some s :=
      Option.isSome_iff_exists.mp (by decide +kernel)
    obtain ⟨a, ha, hattached⟩ := Option.map_eq_some_iff.mp
      (show ((empty.playAll overlapSettled).attachments[1]?).map (fun a => a.device.detached) = some false by
        decide +kernel)
    obtain ⟨henabled, -, hresting⟩ := receiving_while_predecessors_used strandSession [.session 0 .close] 0
      Registry.vendorId Registry.deviceId 0 .standard r a s hsteps hr hprobe (hone ▸ ha) hattached hs
    refine ⟨s, hs, henabled, hresting fun hused => ?_⟩
    obtain ⟨x, hx, hsim⟩ := Option.map_eq_some_iff.mp
      (show ((empty.playAll strandSession).attachments[0]?).map Attachment.sim = some 0 by decide +kernel)
    have hbefore : (empty.playAll strandSession).refersTo 0 = true := by decide +kernel
    have hafter : (empty.playAll overlapSettled).refersTo 0 = false := by decide +kernel
    exact absurd (hafter.symm.trans (hused 0 x hx hsim hbefore)) Bool.false_ne_true

/-- The second attachment of the card is in its slot and was not detached, and still the card was stopped, by
the end of a session of the first. -/
theorem stopped_by_predecessor :
    ∃ b, b = empty.playAll overlapSettled ∧
      b.registry.bind (·.get? 0) = some 1 ∧ (b.attachments[1]?).map (fun a => a.device.detached) = some false ∧
      (b.sims[0]?).map (fun s => s.host.bus.regs.get Offset.rxMaxFrame) = some 0#32 ∧
      (b.sims[0]?).map (fun s => ResetWord.cardReset.isSet (s.host.bus.regs.get Offset.cardRstStat)) =
        some true :=
  ⟨_, rfl, by decide +kernel, by decide +kernel, by decide +kernel, by decide +kernel⟩

end LaneCard.Bench
