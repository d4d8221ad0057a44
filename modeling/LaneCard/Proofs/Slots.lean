import LaneCard.Proofs.Exclusive
import LaneCard.Proofs.Inventory
import LaneCard.Proofs.Roster

/-!
# Filling and emptying slots

What a probe comes to, and what detaching a card from its slot comes to, on every bench that a lifecycle can
reach. A probe is answered with the first obstacle that there is, and then neither a slot nor a live region has
changed, or it fills the lowest empty slot. A slot is emptied exactly if it has a card that nobody else uses. The
exception is a registry whose configuration has more buffers than a table can hold: its probes are cut short, and
regions stay behind.
-/

namespace LaneCard

/-- The lowest slot that is empty. -/
structure Registry.IsLowestEmpty (r : Registry) (slot : Nat) : Prop where
  lt : slot < r.slots.length
  empty : r.get? slot = none
  lower : ∀ lower < slot, r.get? lower ≠ none

/-- It is the one that a search finds. -/
theorem Registry.IsLowestEmpty.of_emptySlot? {r : Registry} {slot : Nat} (h : r.emptySlot? = some slot) :
    r.IsLowestEmpty slot := by
  obtain ⟨hlt, hempty, hlower⟩ := Registry.emptySlot?_eq_some h
  exact ⟨hlt, hempty, hlower⟩

/-- Whether a step was cut short. -/
def Outcome.isCutShort : Outcome → Bool
  | cutShort => true
  | _ => false

namespace Bench

open Scene

variable {allowed : Config → Prop} {b b' : Bench} {r : Registry} {i k slot : Nat} {s : Sim}

/-! ## Probes -/

/-- A card in a slot is at an address. -/
def IsKnown (b : Bench) (r : Registry) (address : PciAddress) : Prop :=
  ∃ slot i a, r.get? slot = some i ∧ b.attachments[i]? = some a ∧ a.device.address = address

/-- All slots and attachments are as they were, and every allocator has the regions it had handed out. -/
structure Unfilled (b b' : Bench) : Prop where
  registry : b'.registry = b.registry
  attachments : b'.attachments = b.attachments
  allocators : b'.allocators = b.allocators
  regions : ∀ (j : Nat) (s : Sim), b.sims[j]? = some s →
    ∃ s', b'.sims[j]? = some s' ∧ s'.host.memory.live = s.host.memory.live

/-- What a probe of a simulated card is answered, by the first obstacle that there is, and what it leaves. -/
inductive Probed (b : Bench) (r : Registry) (k : Nat) (s : Sim) (vendor device : Nat) (w : Resources) :
    Outcome → Bench → Prop
  | foreign {b' : Bench} (hforeign : vendor ≠ Registry.vendorId ∨ device ≠ Registry.deviceId)
      (hsame : b.Unfilled b') :
      Probed b r k s vendor device w (.failed (.notSupported (Registry.foreignText vendor device s.address))) b'
  | known {b' : Bench} (hkind : vendor = Registry.vendorId ∧ device = Registry.deviceId)
      (hknown : b.IsKnown r s.address) (hsame : b.Unfilled b') :
      Probed b r k s vendor device w (.failed .busy) b'
  | full {b' : Bench} (hkind : vendor = Registry.vendorId ∧ device = Registry.deviceId)
      (hnew : ¬ b.IsKnown r s.address) (hfull : ∀ slot < r.slots.length, r.get? slot ≠ none)
      (hsame : b.Unfilled b') : Probed b r k s vendor device w (.failed .registryFull) b'
  | failed {slot : Nat} {e : CardError} {h' : Host Board} {b' : Bench}
      (hkind : vendor = Registry.vendorId ∧ device = Registry.deviceId) (hnew : ¬ b.IsKnown r s.address)
      (hlowest : r.IsLowestEmpty slot)
      (hattach : Device.attach s.host (Registry.cardName slot) s.address w.baseHdwr w.baseLen r.config =
        (.error (.failed e), h'))
      (hsame : b.Unfilled b') : Probed b r k s vendor device w (.failed e) b'
  | cutShort {slot : Nat} {b' : Bench} (hkind : vendor = Registry.vendorId ∧ device = Registry.deviceId)
      (hnew : ¬ b.IsKnown r s.address) (hlowest : r.IsLowestEmpty slot) (hlarge : ¬ r.config.LaidOut)
      (hregistry : b'.registry = b.registry) : Probed b r k s vendor device w .cutShort b'
  | filled {slot : Nat} {d : Device} {h' : Host Board} {r' : Registry} {b' : Bench}
      (hkind : vendor = Registry.vendorId ∧ device = Registry.deviceId) (hnew : ¬ b.IsKnown r s.address)
      (hlowest : r.IsLowestEmpty slot)
      (hattach : Device.attach s.host (Registry.cardName slot) s.address w.baseHdwr w.baseLen r.config = (.ok d, h'))
      (hregistry : b'.registry = some r') (hfilled : r.Differs r' slot (some b.attachments.size))
      (hcard : b'.attachments[b.attachments.size]? = some ⟨d, k, none, slot, 1, 0, false⟩) :
      Probed b r k s vendor device w (.slot slot) b'

/-- A line in the journal fills no slot. -/
theorem unfilled_journal (b : Bench) (journal : Journal) : b.Unfilled { b.cleared with journal := journal } :=
  ⟨rfl, rfl, rfl, fun _ s hs => ⟨s, hs, rfl⟩⟩

/-- A driver that could not be attached has left no slot and no region changed. -/
theorem unfilled_seated (hs : b.sims[k]? = some s) (hcalm : Calm s) {name : String} {config : Config}
    {baseHdwr baseLen : Nat} {e : CardError} {h' : Host Board}
    (hattach : Device.attach s.host name s.address baseHdwr baseLen config = (.error (.failed e), h')) :
    b.Unfilled (b.cleared.seated k s h') := by
  have hbuffers : s.host.buffers.Reachable := Host.buffers_of_shared hcalm.shared ▸ hcalm.memory
  have hshared : h'.apart = none := (hcalm.attach hattach).shared
  have hlive : h'.memory.live = s.host.memory.live := by
    rw [← Host.buffers_of_shared hcalm.shared, ← Host.buffers_of_shared hshared]
    rcases Device.undone_of_failed hbuffers hattach with ⟨-, rfl⟩ | ⟨-, hundone⟩
    · rfl
    · exact hundone.live
  refine ⟨rfl, rfl, rfl, fun j x hx => ?_⟩
  by_cases hj : k = j
  · subst hj
    obtain rfl := Option.some.inj (hs.symm.trans hx)
    exact ⟨_, Table.getElem?_setIfInBounds_self _ hs, hlive⟩
  · exact ⟨x, (Array.getElem?_setIfInBounds_ne hj).trans hx, rfl⟩

/-- Nothing is left to handle then, if nothing was before. -/
theorem settled_seated (htidy : b.cleared.Tidy) (hsettled : b.Settled) (hs : b.sims[k]? = some s) (hcalm : Calm s)
    {name : String} {config : Config} {baseHdwr baseLen : Nat} {e : Setback CardError} {h' : Host Board}
    (hattach : Device.attach s.host name s.address baseHdwr baseLen config = (.error e, h')) :
    (b.cleared.seated k s h').Tidy ∧ (b.cleared.seated k s h').Settled := by
  have hpersists := Device.attach_persists s.host name s.address baseHdwr baseLen config hcalm.completions
  rw [hattach] at hpersists
  refine ⟨⟨Table.forall_setIfInBounds htidy.hosts ⟨(hcalm.attach hattach).shared, rfl⟩, htidy.notices⟩, ?_⟩
  intro j a s' hj ha hattached hs'
  by_cases hsame : k = a.sim
  · have hput : (b.cleared.seated k s h').sims[k]? = some { s with host := { h' with journal := #[] } } :=
      Table.getElem?_setIfInBounds_self _ hs
    rw [← hsame] at hs'
    obtain rfl := Option.some.inj (hput.symm.trans hs')
    change IrqLine.IsCalm h'.line
    rw [hpersists.line]
    exact hsettled j a s hj ha hattached (hsame ▸ hs)
  · exact hsettled j a s' hj ha hattached ((Array.getElem?_setIfInBounds_ne hsame).symm.trans hs')

/-- A probe of a simulated card is never refused: a driver that is attached to it is known by its address. -/
theorem act_probe (hplaced : b.scene.Placed) (hroster : b.Rostered) (hr : b.registry = some r)
    (hs : b.sims[k]? = some s) (vendor device : Nat) (w : Resources) :
    b.act (.probe k vendor device w) =
      match b.probe r k s.address vendor device w.baseHdwr w.baseLen w.apart with
      | (.error e, b') => (.ofSetback e, b')
      | (.ok slot, b') => (.slot slot, b') := by
  have hguard : (b.isLive k && (b.findCard? r s.address).isNone) = false := by
    cases hlive : b.isLive k with
    | false => rfl
    | true =>
      have hfound := hroster.findCard?_of_isLive hplaced hr hs hlive
      rw [Bool.true_and, Option.isNone_eq_false_iff, hfound]
  rcases hprobe : b.probe r k s.address vendor device w.baseHdwr w.baseLen w.apart with ⟨e | slot, b'⟩ <;>
    simp only [act, withRegistry, hr, hs, hguard, hprobe, Bool.false_eq_true, if_false]

/-- A probe of a simulated card is answered by the first obstacle, or fills the lowest empty slot. -/
theorem play_probe_probed (hplaced : b.scene.Placed) (htidy : b.cleared.Tidy) (hsettled : b.Settled)
    (hroster : b.Rostered) (hledger : b.Ledger allowed [] none) (hr : b.registry = some r)
    (hs : b.sims[k]? = some s) (vendor device : Nat) {w : Resources} (hw : w.apart = none) :
    Probed b r k s vendor device w (b.play (.probe k vendor device w)).1 (b.play (.probe k vendor device w)).2 := by
  have hcalm := hledger.fit.calm k s hs
  have hlifecycle : Step.isLifecycle (.probe k vendor device w) = true := by simpa [Step.isLifecycle] using hw
  have hsettle := ((Leads.cleared ⟨hledger, .refl⟩).act hlifecycle (fun _ h => by cases h)).settle.2
  have hknown : (b.findCard? r s.address).isSome = true ↔ b.IsKnown r s.address := hroster.findCard?_isSome_iff hr
  have hact := act_probe (b := b.cleared) hplaced { hroster with } hr hs vendor device w
  rw [hw] at hact
  have hends := b.cleared.probe_ends r hs hcalm vendor device w.baseHdwr w.baseLen
  generalize b.cleared.probe r k s.address vendor device w.baseHdwr w.baseLen none = probed at hact hends
  have hunknown (hnew : (b.findCard? r s.address).isSome = false) : ¬ b.IsKnown r s.address := fun hsome => by
    rw [hknown.mpr hsome] at hnew
    contradiction
  cases hends with
  | foreign hforeign =>
    rw [play_of_act hact htidy hsettled]
    exact .foreign hforeign (b.unfilled_journal _)
  | known hkind hfound =>
    rw [play_of_act hact ⟨htidy.hosts, htidy.notices⟩ hsettled]
    exact .known hkind (hknown.mp hfound) (b.unfilled_journal _)
  | full hkind hnew hfull =>
    rw [play_of_act hact ⟨htidy.hosts, htidy.notices⟩ hsettled]
    exact .full hkind (hunknown hnew) (Registry.emptySlot?_eq_none hfull) (b.unfilled_journal _)
  | @unattached _ e _ hkind hnew hempty hattach =>
    obtain ⟨htidy', hsettled'⟩ := settled_seated htidy hsettled hs hcalm hattach
    rw [play_of_act hact htidy' hsettled']
    cases e with
    | failed e =>
      exact .failed hkind (hunknown hnew) (.of_emptySlot? hempty) hattach (unfilled_seated hs hcalm hattach)
    | cutShort =>
      have hlarge := hcalm.not_laidOut (canNameHandler_cardName _) hattach
      exact .cutShort hkind (hunknown hnew) (.of_emptySlot? hempty) hlarge rfl
  | attached hkind hnew hempty hattach =>
    have hlowest := Registry.IsLowestEmpty.of_emptySlot? hempty
    change Alike (b.cleared.act _).2 (b.cleared.act _).2.settle at hsettle
    rw [play_eq]
    rw [hact] at hsettle ⊢
    refine .filled hkind (hunknown hnew) hlowest hattach (registry_settle _)
      (Registry.differs_put hlowest.lt b.attachments.size) ?_
    rw [hsettle.attachments]
    exact Array.getElem?_push_size

/-! ## Emptying a slot -/

/-- A session of an attachment is open, or there is a handle of it. -/
def IsUsed (b : Bench) (i : Nat) : Prop := b.openings i ≠ 0 ∨ some i ∈ b.cards.toList

/-- What detaching the card of a slot is answered, and what it leaves. -/
inductive Vacated (b : Bench) (r : Registry) (slot : Nat) : Outcome → Bench → Prop
  | empty {journal : Journal} (hnone : r.get? slot = none) :
      Vacated b r slot (.failed .noDevice) { b.cleared with journal := journal }
  | used {i : Nat} {journal : Journal} (hslot : r.get? slot = some i) (hused : b.IsUsed i) :
      Vacated b r slot (.failed .busy) { b.cleared with journal := journal }
  | emptied {i : Nat} {r' : Registry} {b' : Bench} (hslot : r.get? slot = some i) (hunused : ¬ b.IsUsed i)
      (hregistry : b'.registry = some r') (hemptied : r.Differs r' slot none) : Vacated b r slot .nothing b'

/-- A card is in one slot only. -/
theorem Rostered.count_slots (hroster : b.Rostered) (hr : b.registry = some r) (hslot : r.get? slot = some i) :
    r.slots.count (some i) = 1 := by
  have hcleared := r.differs_clear slot
  have hnone : (r.clear slot).slots.count (some i) = 0 := by
    refine List.count_eq_zero.mpr fun hmem => ?_
    obtain ⟨other, hother⟩ := List.mem_iff_getElem?.mp hmem
    have hget : (r.clear slot).get? other = some i := Option.join_eq_some_iff.mpr hother
    by_cases hsame : other = slot
    · rw [hsame, hcleared.entry] at hget
      contradiction
    · rw [hcleared.others other hsame, ← cardIn?_of_registry hr] at hget
      rw [← cardIn?_of_registry hr] at hslot
      obtain ⟨a, ha, hnumber, -⟩ := hroster.named slot i hslot
      obtain ⟨a', ha', hnumber', -⟩ := hroster.named other i hget
      obtain rfl := Option.some.inj (ha.symm.trans ha')
      exact hsame (hnumber'.symm.trans hnumber)
  have hcount := Registry.count_clear hslot i
  rw [hnone, List.count_singleton_self, Nat.zero_add] at hcount
  exact hcount.symm

/-- The card of a slot tells whether somebody else uses it. -/
theorem isUsed_iff (hexcl : b.scene.Exclusive) (hroster : b.Rostered) (hledger : b.Ledger allowed [] none)
    (hr : b.registry = some r) (hslot : r.get? slot = some i) {a : Attachment} (ha : b.attachments[i]? = some a) :
    b.IsUsed i ↔ a.device.isOpen = true ∨ 1 < a.handles := by
  have hpost : b.scene.posts[i]? = some a.post := post_of_attachment ha
  have hcount : b.openings i = a.device.isOpen.toNat := (b.openings_scene i).symm.trans (hexcl.openings i _ hpost)
  have hhandles : a.handles = 1 + b.cards.toList.count (some i) := by
    rw [(hledger.owned i a ha).handles, List.count_nil, Nat.add_zero, refs, hr, Option.elim_some,
      hroster.count_slots hr hslot]
  refine or_congr ?_ ?_
  · rw [hcount]
    cases a.device.isOpen <;> simp
  · rw [hhandles, ← List.count_pos_iff]
    omega

/-- A slot is emptied exactly if it has a card that nobody else uses, and nothing is done otherwise. -/
theorem play_detachSlot_vacated (htidy : b.cleared.Tidy) (hsettled : b.Settled) (hexcl : b.scene.Exclusive)
    (hroster : b.Rostered) (hledger : b.Ledger allowed [] none) (hr : b.registry = some r) (slot : Nat) :
    Vacated b r slot (b.play (.detachSlot slot)).1 (b.play (.detachSlot slot)).2 := by
  have hact : b.cleared.act (.detachSlot slot) =
      (.ofExcept (fun _ => .nothing) (b.cleared.detachSlot r slot).1, (b.cleared.detachSlot r slot).2) := by
    have hregistry : b.cleared.registry = some r := hr
    simp only [act, withRegistry, hregistry]
  have hused {i : Nat} (hslot : r.get? slot = some i) {a : Attachment} (ha : b.attachments[i]? = some a) :
      b.IsUsed i ↔ a.device.isOpen = true ∨ 1 < a.handles := isUsed_iff hexcl hroster hledger hr hslot ha
  have hends := b.cleared.detachSlot_ends r slot
  generalize b.cleared.detachSlot r slot = done at hact hends
  cases hends with
  | missing hnone =>
    rw [play_of_act hact htidy hsettled]
    refine .empty (Option.eq_none_iff_forall_ne_some.mpr fun i hslot => ?_)
    obtain ⟨a, ha, -⟩ := hroster.named slot i ((cardIn?_of_registry hr slot).trans hslot)
    exact hnone i a hslot ha
  | used hslot ha hbusy =>
    rw [play_of_act hact ⟨htidy.hosts, htidy.notices⟩ hsettled]
    exact .used hslot ((hused hslot ha).mpr hbusy)
  | emptied hslot ha hfree =>
    rw [play_eq, hact]
    refine .emptied hslot (fun hsome => hfree ((hused hslot ha).mp hsome)) ?_ (r.differs_clear slot)
    rw [registry_settle, registry_remove]

/-! ## Any lifecycle -/

/-- The registry of a bench is in order, and stays so in all that is tried next. -/
structure InOrder (b : Bench) (r : Registry) : Prop where
  size : r.slots.length = r.config.maxDevices
  room : r.cards.length ≤ r.config.maxDevices
  /-- The card in a slot has its number and its name. -/
  named : ∀ slot i, r.get? slot = some i →
    ∃ a, b.attachments[i]? = some a ∧ a.slot = slot ∧ a.device.name = Registry.cardName slot
  /-- No two cards are at one address. -/
  apart : ∀ slot slot' i i' a a', r.get? slot = some i → r.get? slot' = some i' →
    b.attachments[i]? = some a → b.attachments[i']? = some a' → a'.device.address = a.device.address → slot' = slot
  /-- A card is found by its address. -/
  found : ∀ address i, b.findCard? r address = some i ↔
    ∃ slot a, r.get? slot = some i ∧ b.attachments[i]? = some a ∧ a.device.address = address
  probed : ∀ (k : Nat) (s : Sim) (vendor device : Nat) (w : Resources), b.sims[k]? = some s → w.apart = none →
    Probed b r k s vendor device w (b.play (.probe k vendor device w)).1 (b.play (.probe k vendor device w)).2
  vacated : ∀ slot, Vacated b r slot (b.play (.detachSlot slot)).1 (b.play (.detachSlot slot)).2

/-- After any lifecycle the registry, which has the configuration that it was made with, is in order: its cards
fit into the slots and are named after them, each is alone at its address, and is found there. A probe fills the
lowest empty slot, or reports the first obstacle and changes neither a slot nor a live region, unless it is cut
short as its configuration cannot be laid out. A slot is emptied exactly if its card is used by nobody else. -/
theorem registry_in_order (steps : List Step) (hlifecycle : ∀ step ∈ steps, step.isLifecycle = true) {b : Bench}
    (hb : b = empty.playAll steps) {r : Registry} (hr : b.registry = some r) :
    Step.registry r.config ∈ steps ∧ b.InOrder r := by
  have hledger : b.Ledger (fun config => .registry config ∈ steps) [] none :=
    hb ▸ ((ledger_empty _).playAll hlifecycle fun _ hmem => hmem).ledger
  have hroster : b.Rostered :=
    hb ▸ Rostered.empty.playAll placed_empty (ledger_empty fun _ => True) hlifecycle fun _ _ => trivial
  obtain ⟨hplaced, hexcl⟩ := exclusive_playAll_empty steps
  have htidy := tidy_playAll_empty steps
  have hsettled := settled_playAll_empty steps
  rw [← hb] at hplaced hexcl htidy hsettled
  have hsize := hroster.size r hr
  refine ⟨hledger.config r hr, ?_⟩
  exact
    { size := hsize
      room := hsize ▸ List.length_filterMap_le _ _
      named := fun slot i hslot => hroster.named slot i ((cardIn?_of_registry hr slot).trans hslot)
      apart := fun slot slot' i i' a a' hslot hslot' =>
        hroster.apart slot slot' i i' a a' ((cardIn?_of_registry hr slot).trans hslot)
          ((cardIn?_of_registry hr slot').trans hslot')
      found := fun _ _ => hroster.findCard?_eq_some_iff hr
      probed := fun k s vendor device w hs hw =>
        play_probe_probed hplaced htidy hsettled hroster hledger hr hs vendor device hw
      vacated := play_detachSlot_vacated htidy hsettled hexcl hroster hledger hr }

/-- There is room for two cards, and two are at one address. The first is probed and a handle of it is taken. -/
def twoAtOnce : List Step :=
  [.addSim .standard, .addSim .standard, .registry { Config.small with maxDevices := 2 }, probeFirst,
    .slotCard 0 true]

/-- The card is in the first slot. Its address is taken, so that the other card will not be attached, and there is
a handle of it, so that the slot will not be emptied. -/
theorem registry_in_order_two :
    (∀ step ∈ twoAtOnce, step.isLifecycle = true) ∧ ∃ b r, b = empty.playAll twoAtOnce ∧ b.registry = some r ∧
      r.get? 0 = some 0 ∧ b.IsKnown r .standard ∧ b.IsUsed 0 ∧ b.InOrder r := by
  have hsteps : ∀ step ∈ twoAtOnce, step.isLifecycle = true := by decide
  obtain ⟨r, hr, hslot⟩ := Option.map_eq_some_iff.mp
    (show ((empty.playAll twoAtOnce).registry.map fun r => r.get? 0) = some (some 0) by decide +kernel)
  obtain ⟨a, ha, haddress⟩ := Option.map_eq_some_iff.mp
    (show ((empty.playAll twoAtOnce).attachments[0]?.map fun a => a.device.address) = some .standard by
      decide +kernel)
  have hhandle : some 0 ∈ (empty.playAll twoAtOnce).cards.toList := by decide +kernel
  obtain ⟨-, horder⟩ := registry_in_order twoAtOnce hsteps rfl hr
  exact ⟨hsteps, _, r, rfl, hr, hslot, ⟨0, 0, a, hslot, ha, haddress⟩, .inr hhandle, horder⟩

/-- A registry whose configuration has more receive buffers than a table can hold. A probe is cut short, and two
regions are live afterwards where there was none. -/
theorem regions_left_by_probe :
    ∃ b s, b = empty.playAll (spoiledProbe.take 2) ∧ b.sims[0]? = some s ∧ s.host.memory.live = [] ∧
      (b.play probeFirst).1.isCutShort = true ∧
      (∃ s', (b.play probeFirst).2.sims[0]? = some s' ∧ s'.host.memory.live.length = 2) ∧
      ¬ b.Unfilled (b.play probeFirst).2 := by
  obtain ⟨s, hs, hbefore⟩ := Option.map_eq_some_iff.mp
    (show ((empty.playAll (spoiledProbe.take 2)).sims[0]?.map fun s => s.host.memory.live.length) = some 0 by
      decide +kernel)
  obtain ⟨s', hs', hafter⟩ := Option.map_eq_some_iff.mp
    (show (((empty.playAll (spoiledProbe.take 2)).play probeFirst).2.sims[0]?.map
      fun s => s.host.memory.live.length) = some 2 by decide +kernel)
  refine ⟨_, s, rfl, hs, List.length_eq_zero_iff.mp hbefore, by decide +kernel, ⟨s', hs', hafter⟩, fun hsame => ?_⟩
  obtain ⟨x, hx, hlive⟩ := hsame.regions 0 s hs
  obtain rfl := Option.some.inj (hs'.symm.trans hx)
  rw [hlive, hbefore] at hafter
  contradiction

end Bench
end LaneCard
