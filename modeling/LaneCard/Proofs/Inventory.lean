import LaneCard.Proofs.Bookkeeping

/-!
# Where the buffers are

Over any lifecycle the live regions of a simulated card are those of the buffers of the attachments to it
that something still refers to: none is lost, and none is released twice. Once nothing refers to any of
them, everything is released and the card is left in reset. This holds as long as the tables of buffers
can be laid out; if one cannot, attaching is cut short, and what it has left behind belongs to no
attachment.
-/

namespace LaneCard

/-- The regions of the buffers of a pool. -/
def BufferPool.regions (p : BufferPool) : List Region := p.buffers.toList.map Buffer.region

/-- The regions of all buffers of an attachment. -/
def Attachment.regions (a : Attachment) : List Region := a.device.txPool.regions ++ a.device.rxPool.regions

/-- The two tables of buffers of a configuration can be laid out. -/
def Config.LaidOut (c : Config) : Prop :=
  c.txCount * BufferPool.entrySize ≤ largestObject ∧ c.rxCount * BufferPool.entrySize ≤ largestObject

instance (c : Config) : Decidable c.LaidOut := inferInstanceAs (Decidable (_ ∧ _))

/-- The regions of a pool that was just allocated are live. -/
theorem BufferPool.map_region_untouched (p : BufferPool) : p.untouched.map Mapping.region = p.regions.reverse := by
  simp [untouched, regions, Function.comp_def]

namespace Bench

/-- The regions of the attachments to a card that were not released. -/
def held (b : Bench) (k : Nat) : List Region :=
  b.attachments.toList.flatMap fun a => if a.sim = k ∧ a.released = false then a.regions else []

/-- The regions of the attachments to a card that something refers to. -/
def buffersInUse (b : Bench) (k : Nat) : List Region :=
  b.attachments.toList.zipIdx.flatMap fun entry =>
    if entry.1.sim = k ∧ b.refersTo entry.2 = true then entry.1.regions else []

/-- If the books are right, what was not released is in use. -/
theorem Ledger.held_eq {allowed : Config → Prop} {b : Bench} (h : b.Ledger allowed [] none) (k : Nat) :
    b.held k = b.buffersInUse k := by
  rw [held, buffersInUse, ← List.zipIdx_map_fst 0 b.attachments.toList, List.flatMap_map, List.zipIdx_map_fst]
  apply List.flatMap_congr
  rintro ⟨a, i⟩ hentry
  have ha : b.attachments[i]? = some a := by
    rw [← Array.getElem?_toList]
    exact List.mem_zipIdx_iff_getElem?.mp hentry
  have hreleased := h.released_iff ha
  have hiff : a.released = false ↔ b.refersTo i = true := by
    rw [← Bool.not_eq_true, hreleased, Bool.not_eq_false]
  simp only [hiff]

/-- Every attachment to a card was released. -/
def AllReleased (b : Bench) (k : Nat) : Prop :=
  ∀ (i : Nat) (a : Attachment), b.attachments[i]? = some a → a.sim = k → a.released = true

/-- The live regions of a card are those of attachments that were not released; and if all were released the
card rests. -/
structure Stored (b : Bench) : Prop where
  regions : ∀ (k : Nat) (s : Sim), b.sims[k]? = some s → s.host.memory.regions.Perm (b.held k)
  resting : ∀ (k : Nat) (s : Sim), b.sims[k]? = some s → b.AllReleased k → s.host.bus.Resting

/-- Nothing is stored on an empty bench. -/
theorem stored_empty : empty.Stored := by
  constructor <;> intro _ _ h <;> simp [empty] at h

variable {b b' : Bench}

/-- Replacing an attachment by one that holds as much changes nothing that is held. -/
theorem held_set {i : Nat} {a a' : Attachment} (ha : b.attachments[i]? = some a)
    (hattachments : b'.attachments = b.attachments.setIfInBounds i a') (hsim : a'.sim = a.sim)
    (hreleased : a'.released = a.released) (hregions : a'.regions = a.regions) (k : Nat) :
    b'.held k = b.held k := by
  rw [held, hattachments]
  exact Table.flatMap_setIfInBounds ha _ (by rw [hsim, hreleased, hregions])

/-- Releasing an attachment takes its regions away from those that are held for its card. -/
theorem perm_held_released {i : Nat} {a : Attachment} (ha : b.attachments[i]? = some a)
    (hheld : a.released = false)
    (hattachments : b'.attachments = b.attachments.setIfInBounds i { a with released := true }) (k : Nat) :
    ((if a.sim = k then a.regions else []) ++ b'.held k).Perm (b.held k) := by
  have htraded := (perm_cons_set ((Array.getElem?_toList).trans ha) { a with released := true }).flatMap_right
    fun a => if a.sim = k ∧ a.released = false then a.regions else []
  rw [held, held, hattachments, Array.toList_setIfInBounds]
  simpa [hheld] using htraded

/-- A new attachment holds its regions besides those that were held. -/
theorem held_push {a : Attachment} (hattachments : b'.attachments = b.attachments.push a)
    (hheld : a.released = false) (k : Nat) : b'.held k = b.held k ++ if a.sim = k then a.regions else [] := by
  simp [held, hattachments, hheld]

/-- What is stored depends on the cards and attachments alone. -/
theorem Stored.congr (h : b.Stored) (hsims : b'.sims = b.sims) (hattachments : b'.attachments = b.attachments) :
    b'.Stored := by
  refine ⟨fun k s hs => ?_, fun k s hs hall => ?_⟩
  · rw [held, hattachments]
    exact h.regions k s (hsims ▸ hs)
  · exact h.resting k s (hsims ▸ hs) (by rwa [AllReleased, hattachments] at hall)

/-- If all attachments are released after one of them was changed, the others were before. -/
theorem AllReleased.of_set {i k : Nat} {a a' : Attachment} (h : b'.AllReleased k)
    (ha : b.attachments[i]? = some a) (hattachments : b'.attachments = b.attachments.setIfInBounds i a')
    (hmine : a.sim = k → a.released = true) : b.AllReleased k := by
  intro j x hx hk
  by_cases hij : i = j
  · subst hij
    obtain rfl := Option.some.inj (ha.symm.trans hx)
    exact hmine hk
  · refine h j x ?_ hk
    rw [hattachments, Array.getElem?_setIfInBounds, if_neg hij]
    exact hx

/-- A card may change if what it stores and what is held for it change alike, and if it rests when it has to. -/
theorem Stored.of_sims {k : Nat} {s' : Sim} (h : b.Stored) (hsims : b'.sims = b.sims.setIfInBounds k s')
    (hheld : ∀ j ≠ k, (b'.held j).Perm (b.held j)) (hmine : s'.host.memory.regions.Perm (b'.held k))
    (hback : ∀ j ≠ k, b'.AllReleased j → b.AllReleased j)
    (hresting : b'.AllReleased k → s'.host.bus.Resting) : b'.Stored := by
  refine ⟨?_, ?_⟩ <;> rw [hsims]
  · exact Table.forall_setIfInBounds_of_ne (fun j x hj hx => (h.regions j x hx).trans (hheld j hj).symm) hmine
  · exact Table.forall_setIfInBounds_of_ne (fun j x hj hx hall => h.resting j x hx (hback j hj hall)) hresting

/-- Using an attachment stores nothing and takes nothing away. -/
theorem Turn.stored_tended {i : Nat} {a a' : Attachment} {s s' : Sim} (h : b.Turn b' i a a' s s')
    (hcard : Card.Tended ⟨s.host, a.device⟩ ⟨s'.host, a'.device⟩)
    (hsame : a'.sim = a.sim ∧ a'.apart = a.apart ∧ a'.released = a.released) (hstored : b.Stored) : b'.Stored := by
  have ha := h.attachment
  have hregions : a'.regions = a.regions := by
    rw [Attachment.regions, Attachment.regions, hcard.txPool, hcard.rxPool]
  have hheld := held_set ha h.attachments hsame.1 hsame.2.2 hregions
  have hback (k : Nat) (hall : b'.AllReleased k) : b.AllReleased k := by
    refine hall.of_set ha h.attachments fun hk => ?_
    rw [← hsame.2.2]
    refine hall i a' ?_ (hsame.1.trans hk)
    rw [h.attachments, Table.getElem?_setIfInBounds_self a' ha]
  have hmine := hstored.regions _ _ h.sim
  refine hstored.of_sims h.sims (fun j _ => .of_eq (hheld j)) ?_ (fun j _ => hback j) fun hall => ?_
  · have hmemory : s'.host.memory = s.host.memory := hcard.memory
    rw [hmemory, hheld]
    exact hmine
  · have hresting := hstored.resting _ _ h.sim (hback _ hall)
    exact ⟨(hcard.regs Offset.rxMaxFrame (by decide)).trans hresting.limit,
      (congrArg _ (hcard.regs Offset.cardRstStat (by decide))).trans hresting.reset⟩

/-- Releasing an attachment gives its regions back to the allocator of its card. -/
theorem Turn.stored_released {i : Nat} {a a' : Attachment} {s s' : Sim} (h : b.Turn b' i a a' s s')
    (hheld : a.released = false) (hcard : Card.Quitted ⟨s.host, a.device⟩ s'.host)
    (hattachment : a' = { a with released := true }) (hcalm : Calm s) (hstored : b.Stored) : b'.Stored := by
  subst hattachment
  have ha := h.attachment
  have htaken := perm_held_released ha hheld h.attachments
  refine hstored.of_sims h.sims (fun j hj => ?_) ?_ (fun j hj hall => ?_) fun _ => hcard.resting
  · have hother := htaken j
    rwa [if_neg (Ne.symm hj), List.nil_append] at hother
  · have hmine := htaken a.sim
    rw [if_pos rfl] at hmine
    have hreversed (p : BufferPool) : p.regions.Perm (p.buffers.toList.reverse.map Buffer.region) := by
      rw [List.map_reverse]
      exact (List.reverse_perm _).symm
    have hall : s.host.memory.regions.Perm
        (a.device.txPool.buffers.toList.reverse.map Buffer.region ++
          (a.device.rxPool.buffers.toList.reverse.map Buffer.region ++ b'.held a.sim)) := by
      refine ((hstored.regions _ _ h.sim).trans hmine.symm).trans ?_
      rw [Attachment.regions, List.append_assoc]
      exact (hreversed _).append ((hreversed _).append_right _)
    obtain ⟨hreachable, hrest, -⟩ := BufferPool.perm_releaseRegions hcalm.memory hall
    rw [hcard.buffers]
    exact (BufferPool.perm_releaseRegions hreachable hrest).2.1
  · exact hall.of_set ha h.attachments fun hsame => absurd hsame.symm hj

/-- Attaching is cut short only where a table of buffers cannot be laid out. -/
theorem Calm.not_laidOut {s : Sim} (hcalm : Calm s) {name : String} (hnamed : Device.canNameHandler name = true)
    {baseHdwr baseLen : Nat} {config : Config} {h' : Host Board}
    (hdone : Device.attach s.host name s.address baseHdwr baseLen config = (.error .cutShort, h')) :
    ¬ config.LaidOut := by
  have hbuffers : s.host.buffers.Reachable := Host.buffers_of_shared hcalm.shared ▸ hcalm.memory
  rintro ⟨htx, hrx⟩
  rcases (Device.abandoned_of_cutShort hbuffers hnamed hdone).2.unheld with ⟨hlarge, -⟩ | ⟨hlarge, -⟩
  · exact Nat.not_le.mpr hlarge htx
  · exact Nat.not_le.mpr hlarge hrx

/-- If no driver could be attached to a calm card, either nothing was done or it was undone. -/
theorem Calm.undone {s : Sim} (hcalm : Calm s) {name : String} (hnamed : Device.canNameHandler name = true)
    {baseHdwr baseLen : Nat} {config : Config} (hlaidOut : config.LaidOut) {e : Setback CardError}
    {h' : Host Board}
    (hdone : Device.attach s.host name s.address baseHdwr baseLen config = (.error e, h')) :
    h' = s.host ∨ Device.Undone s.host h' := by
  have hbuffers : s.host.buffers.Reachable := Host.buffers_of_shared hcalm.shared ▸ hcalm.memory
  cases e with
  | failed e =>
    rcases Device.undone_of_failed hbuffers hdone with ⟨-, hsame⟩ | ⟨-, hundone⟩
    · exact .inl hsame
    · exact .inr hundone
  | cutShort => exact absurd hlaidOut (hcalm.not_laidOut hnamed hdone)

/-- Nothing is held for a card of which every attachment was released. -/
theorem AllReleased.held_eq {k : Nat} (h : b.AllReleased k) : b.held k = [] := by
  rw [held, List.flatMap_eq_nil_iff]
  intro a ha
  obtain ⟨i, hi⟩ := List.mem_iff_getElem?.mp ha
  refine if_neg fun hmine => ?_
  rw [h i a (by rwa [← Array.getElem?_toList]) hmine.1] at hmine
  exact absurd hmine.2 (by decide)

/-- Every change stores what it should: attaching a driver stores the buffers of its pools if it succeeds,
and nothing otherwise. -/
theorem Change.stored (h : Change Config.LaidOut b b') (hfit : b.Fit) (hstored : b.Stored) : b'.Stored := by
  cases h with
  | aside hsims hattachments => exact hstored.congr hsims hattachments
  | sim hsims hattachments =>
    have hnew : b.AllReleased b.sims.size := fun i a ha hsim => by
      have hplaced := hfit.placed i a ha
      omega
    have hheld (k : Nat) : b'.held k = b.held k := by rw [held, held, hattachments]
    refine ⟨?_, ?_⟩ <;> rw [hsims]
    · refine Table.forall_push (fun k s hs => (hstored.regions k s hs).trans (.of_eq (hheld k).symm)) ?_
      rw [hheld, hnew.held_eq]
      exact .refl _
    · have hback (k : Nat) (hall : b'.AllReleased k) : b.AllReleased k := by
        rwa [AllReleased, hattachments] at hall
      exact Table.forall_push (fun k s hs hall => hstored.resting k s hs (hback k hall)) fun _ => Board.resting_new
  | turn hturn haltered =>
    cases haltered with
    | tended hcard hsame => exact hturn.stored_tended hcard hsame hstored
    | released hheld _ hcard hattachment =>
      exact hturn.stored_released hheld hcard hattachment (hfit.calm _ _ hturn.sim) hstored
  | @attached k s name slot config baseHdwr baseLen d h' hsim hconfig hnamed hfree hdone hsims hattachments =>
    have hcalm := hfit.calm _ _ hsim
    have hshared : h'.apart = none := (hcalm.attach hdone).shared
    have hlive := (hcalm.started hdone).live
    rw [Host.buffers_of_shared hcalm.shared, Host.buffers_of_shared hshared] at hlive
    have hpushed := held_push hattachments rfl
    refine hstored.of_sims hsims (fun j hj => ?_) ?_ (fun j hj hall i a ha => ?_) fun hall => ?_
    · rw [hpushed, if_neg (Ne.symm hj), List.append_nil]
    · rw [hpushed, if_pos rfl]
      change (h'.memory.live.map Mapping.region).Perm _
      rw [hlive, List.map_append, List.map_append, BufferPool.map_region_untouched,
        BufferPool.map_region_untouched]
      have hpools : (d.rxPool.regions.reverse ++ d.txPool.regions.reverse).Perm
          (d.txPool.regions ++ d.rxPool.regions) :=
        (List.perm_append_comm).trans ((List.reverse_perm _).append (List.reverse_perm _))
      exact (hpools.append (hstored.regions k s hsim)).trans List.perm_append_comm
    · refine hall i a ?_
      rw [hattachments, Array.getElem?_push, if_neg (Nat.ne_of_lt (lt_size_of_getElem? ha))]
      exact ha
    · exact absurd (hall b.attachments.size _ (by rw [hattachments, Array.getElem?_push_size]) rfl)
        Bool.false_ne_true
  | @unattached k s name config baseHdwr baseLen e h' hsim hconfig hnamed hfree hdone hsims hattachments =>
    have hheld (j : Nat) : b'.held j = b.held j := by rw [held, held, hattachments]
    have hback (j : Nat) (hall : b'.AllReleased j) : b.AllReleased j := by rwa [AllReleased, hattachments] at hall
    have hmine := hstored.regions k s hsim
    have hresting := hstored.resting k s hsim
    have hcalm := hfit.calm _ _ hsim
    rcases hcalm.undone hnamed hconfig hdone with rfl | hundone
    · exact hstored.of_sims hsims (fun j _ => .of_eq (hheld j)) (hheld k ▸ hmine) (fun j _ => hback j)
        fun hall => hresting (hback k hall)
    · refine hstored.of_sims hsims (fun j _ => .of_eq (hheld j)) ?_ (fun j _ => hback j)
        fun hall => ⟨?_, hundone.reset⟩
      · rw [hheld]
        have hshared : h'.apart = none := (hcalm.attach hdone).shared
        have hlive := hundone.live
        rw [Host.buffers_of_shared hcalm.shared, Host.buffers_of_shared hshared] at hlive
        change (h'.memory.live.map Mapping.region).Perm _
        rw [hlive]
        exact hmine
      · have hlimit : h'.bus.regs.get Offset.rxMaxFrame = s.host.bus.regs.get Offset.rxMaxFrame := by
          rw [hundone.bus]
          simp [Board.stored, RegisterFile.get_set, Offset.rxMaxFrame, Offset.cardRstStat]
        exact hlimit.trans (hresting (hback k hall)).limit

/-- So does any number of changes. -/
theorem History.stored (h : History Config.LaidOut b b') (hfit : b.Fit) (hstored : b.Stored) : b'.Stored := by
  induction h with
  | refl => exact hstored
  | tail hbefore hlast ih => exact hlast.stored (History.fit hbefore hfit) ih

/-! ## The account of a card -/

/-- The account of a simulated card is right: its live regions are the buffers of the attachments to it
that something refers to, each once, and its counters agree with them. If nothing refers to any of them,
everything was released, and the card is at rest. -/
structure Accounts (b : Bench) (k : Nat) (s : Sim) : Prop where
  regions : s.host.memory.regions.Perm (b.buffersInUse k)
  distinct : s.host.memory.regions.Nodup
  balanced : s.host.memory.allocated = s.host.memory.released + s.host.memory.regions.length
  sized : s.host.memory.liveBytes = Allocator.totalSize s.host.memory.regions
  settled : (∀ (i : Nat) (a : Attachment), b.attachments[i]? = some a → a.sim = k → b.refersTo i = false) →
    s.host.memory.allocated = s.host.memory.released ∧ s.host.memory.liveBytes = 0 ∧ s.host.bus.Resting

/-- Over every lifecycle with configurations whose tables can be laid out, the account of each card is
right after every step: no buffer is lost or released twice. -/
theorem buffers_accounted (steps : List Step) (hlifecycle : ∀ step ∈ steps, step.isLifecycle = true)
    (hlaidOut : ∀ config, .registry config ∈ steps → config.LaidOut) (k : Nat) (s : Sim)
    (hs : (empty.playAll steps).sims[k]? = some s) : (empty.playAll steps).Accounts k s := by
  obtain ⟨hledger, hhistory⟩ := (ledger_empty Config.LaidOut).playAll hlifecycle hlaidOut
  have hstored := hhistory.stored fit_empty stored_empty
  have haccounted := ((hledger.fit.calm k s hs).memory).accounted
  have hregions := hstored.regions k s hs
  refine ⟨hledger.held_eq k ▸ hregions, haccounted.wellFormed.nodup_regions, haccounted.balanced,
    haccounted.sized, fun hunused => ?_⟩
  have hall : (empty.playAll steps).AllReleased k := fun i a ha hsim =>
    (hledger.released_iff ha).mpr (hunused i a ha hsim)
  rw [hall.held_eq] at hregions
  have hnone := hregions.eq_nil
  refine ⟨?_, ?_, hstored.resting k s hs hall⟩
  · rw [haccounted.balanced, hnone]
    rfl
  · rw [haccounted.sized, hnone]
    rfl

/-- What is left of the two attachments is given up. -/
def overlapEnd : List Step := [.session 0 .close, .dropRegistry]

/-- While two attachments to one card overlap the buffers of both are live, and are accounted for. When the
session is closed and the registry is given up, everything is released. -/
theorem buffers_accounted_overlap :
    ((∀ step ∈ overlap ++ overlapEnd, step.isLifecycle = true) ∧
      ∀ config, .registry config ∈ overlap ++ overlapEnd → config.LaidOut) ∧
    (∃ s, (empty.playAll overlap).sims[0]? = some s ∧ (empty.playAll overlap).Accounts 0 s ∧
      ((empty.playAll overlap).buffersInUse 0).length = 8) ∧
    ∃ s, (empty.playAll (overlap ++ overlapEnd)).sims[0]? = some s ∧
      (empty.playAll (overlap ++ overlapEnd)).Accounts 0 s ∧
      (empty.playAll (overlap ++ overlapEnd)).buffersInUse 0 = [] := by
  have hsteps : ∀ step ∈ overlap ++ overlapEnd, step.isLifecycle = true := by decide
  have hconfig : ∀ config, .registry config ∈ overlap ++ overlapEnd → config.LaidOut := by
    intro config hmem
    obtain rfl : config = .small := by simpa [overlap, overlapEnd, strandSession, probeFirst] using hmem
    decide
  obtain ⟨s, hs⟩ : ∃ s, (empty.playAll overlap).sims[0]? = some s :=
    Option.isSome_iff_exists.mp (by decide +kernel)
  obtain ⟨s', hs'⟩ : ∃ s', (empty.playAll (overlap ++ overlapEnd)).sims[0]? = some s' :=
    Option.isSome_iff_exists.mp (by decide +kernel)
  refine ⟨⟨hsteps, hconfig⟩, ⟨s, hs, ?_, by decide +kernel⟩, s', hs', ?_, by decide +kernel⟩
  · exact buffers_accounted overlap (fun step hstep => hsteps step (List.mem_append_left _ hstep))
      (fun config hmem => hconfig config (List.mem_append_left _ hmem)) 0 s hs
  · exact buffers_accounted _ hsteps hconfig 0 s' hs'

/-- A card is probed with more receive buffers than a table can hold. -/
def spoiledProbe : List Step :=
  [.addSim .standard, .registry { Config.small with rxCount := 0x4000000000000000 }, probeFirst]

/-- What such a probe leaves behind is lost: two regions stay live although no attachment has them, and the
card stays out of reset. -/
theorem buffers_lost :
    (∀ step ∈ spoiledProbe, step.isLifecycle = true) ∧
      ∃ s, (empty.playAll spoiledProbe).sims[0]? = some s ∧ (empty.playAll spoiledProbe).attachments.size = 0 ∧
        ¬ (empty.playAll spoiledProbe).Accounts 0 s ∧ s.host.memory.regions.length = 2 ∧
        s.host.memory.liveBytes = 8192 ∧
        ResetWord.cardReset.isSet (s.host.bus.regs.get Offset.cardRstStat) = false := by
  have hleft : ((empty.playAll spoiledProbe).sims[0]?).map (fun s =>
      (s.host.memory.regions.length, s.host.memory.liveBytes,
        ResetWord.cardReset.isSet (s.host.bus.regs.get Offset.cardRstStat))) = some (2, 8192, false) := by
    decide +kernel
  have hunused : (empty.playAll spoiledProbe).buffersInUse 0 = [] := by decide +kernel
  obtain ⟨s, hs, hfacts⟩ := Option.map_eq_some_iff.mp hleft
  obtain ⟨hlength, hbytes, hreset⟩ : _ ∧ _ ∧ _ := by simpa only [Prod.mk.injEq] using hfacts
  refine ⟨by decide, s, hs, by decide +kernel, fun haccounts => ?_, hlength, hbytes, hreset⟩
  have hnone := haccounts.regions.length_eq
  rw [hlength, hunused] at hnone
  contradiction

end Bench

end LaneCard
