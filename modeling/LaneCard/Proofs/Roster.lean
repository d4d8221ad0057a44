import LaneCard.Proofs.Bookkeeping
import LaneCard.Proofs.Episodes

/-!
# The cards in the slots

A card in a slot of the registry has the number and the name of the slot, no two of them are at one address,
and on a bench where drivers come from probes only, each that was not detached is in a slot: `Bench.Rostered`.
Only a probe puts a card into a slot, and a slot is emptied only as its card is detached, so that all other
steps come to one argument, `Rostered.of_still`.
-/

namespace LaneCard

/-! ## Slots -/

namespace Registry

variable {r : Registry} {slot i : Nat}

/-- A registry of the same size and configuration that differs in what is in one slot. -/
structure Differs (r r' : Registry) (slot : Nat) (entry : Option Nat) : Prop where
  config : r'.config = r.config
  size : r'.slots.length = r.slots.length
  entry : r'.get? slot = entry
  others : ∀ other, other ≠ slot → r'.get? other = r.get? other

/-- The cards are those in the slots. -/
theorem mem_cards_iff : i ∈ r.cards ↔ ∃ slot, r.get? slot = some i := by
  refine ⟨fun hi => ?_, fun ⟨_, h⟩ => mem_cards_of_get? h⟩
  obtain ⟨entry, hentry, hsome⟩ := List.mem_filterMap.mp hi
  obtain ⟨slot, hslot⟩ := List.mem_iff_getElem?.mp hentry
  obtain rfl : entry = some i := hsome
  exact ⟨slot, Option.join_eq_some_iff.mpr hslot⟩

/-- A slot that is emptied. -/
theorem differs_clear (r : Registry) (slot : Nat) : r.Differs (r.clear slot) slot none where
  config := rfl
  size := List.length_set
  entry := by
    rw [get?, clear, List.getElem?_set_self']
    cases r.slots[slot]? <;> rfl
  others other hother := by rw [get?, clear, List.getElem?_set_ne (Ne.symm hother), get?]

/-- A slot that is filled. -/
theorem differs_put (hslot : slot < r.slots.length) (i : Nat) : r.Differs (r.put slot i) slot (some i) where
  config := rfl
  size := List.length_set
  entry := by
    rw [get?, put, List.getElem?_set_self hslot]
    rfl
  others other hother := by rw [get?, put, List.getElem?_set_ne (Ne.symm hother), get?]

/-- All slots of a registry that was cleared are empty. -/
@[simp] theorem get?_clearAll (r : Registry) (slot : Nat) : r.clearAll.get? slot = none := by
  rw [get?, clearAll, List.getElem?_map]
  cases r.slots[slot]? <;> rfl

/-- The lowest empty slot is empty, and all slots below have a card. -/
theorem emptySlot?_eq_some (h : r.emptySlot? = some slot) :
    slot < r.slots.length ∧ r.get? slot = none ∧ ∀ lower < slot, r.get? lower ≠ none := by
  obtain ⟨hlt, hempty, hlower⟩ := List.findIdx?_eq_some_iff_getElem.mp h
  refine ⟨hlt, ?_, fun lower hless hnone => ?_⟩
  · rw [get?, List.getElem?_eq_getElem hlt, Option.isNone_iff_eq_none.mp hempty]
    rfl
  · rw [get?, List.getElem?_eq_getElem (Nat.lt_trans hless hlt), Option.join_some] at hnone
    exact hlower lower hless (Option.isNone_iff_eq_none.mpr hnone)

/-- Without an empty slot every slot has a card. -/
theorem emptySlot?_eq_none (h : r.emptySlot? = none) : ∀ slot < r.slots.length, r.get? slot ≠ none := by
  intro slot hlt hnone
  rw [get?, List.getElem?_eq_getElem hlt, Option.join_some] at hnone
  have hfilled := List.findIdx?_eq_none_iff.mp h _ (List.getElem_mem hlt)
  rw [hnone] at hfilled
  contradiction

/-- A new registry has a slot for each card that is allowed, and no card. -/
theorem new_ok {config : Config} (h : Registry.new config = .ok r) :
    r.config = config ∧ r.slots.length = config.maxDevices ∧ ∀ slot, r.get? slot = none := by
  unfold Registry.new at h
  split at h
  · simp at h
  · split at h
    · obtain rfl := Except.ok.inj h
      refine ⟨rfl, List.length_replicate, fun slot => ?_⟩
      rw [get?, List.getElem?_replicate]
      split <;> rfl
    · simp at h

end Registry

/-! ## What never changes of a card -/

/-- The same card later on: it is where it was and is called what it was, and what was detached is not attached
again. -/
structure Post.Remains (p p' : Post) : Prop where
  sim : p'.sim = p.sim
  slot : p'.slot = p.slot
  name : p'.device.name = p.device.name
  address : p'.device.address = p.device.address
  detached : p.device.detached = true → p'.device.detached = true

namespace Scene

variable {grows : Bool} {s s' : Scene} {i : Nat} {p : Post}

/-- Every episode leaves each card the same card. -/
theorem Episode.remains (h : Episode grows s s') (hp : s.posts[i]? = some p) :
    ∃ p', s'.posts[i]? = some p' ∧ p.Remains p' := by
  have hself : p.Remains p := ⟨rfl, rfl, rfl, rfl, id⟩
  have hset {j : Nat} {q q' : Post} (hq : s.posts[j]? = some q) (hremains : q.Remains q') :
      ∃ p', (s.posts.setIfInBounds j q')[i]? = some p' ∧ p.Remains p' := by
    by_cases hji : j = i
    · subst hji
      obtain rfl := Option.some.inj (hq.symm.trans hp)
      exact ⟨q', Table.getElem?_setIfInBounds_self q' hp, hremains⟩
    · rw [Array.getElem?_setIfInBounds_ne hji]
      exact ⟨p, hp, hself⟩
  cases h with
  | grown address => exact ⟨p, hp, hself⟩
  | used hpost hsame => exact hset hpost ⟨rfl, rfl, hsame.name, hsame.address, hsame.detached⟩
  | listened _ hpost _ | opened hpost _ | closed hpost _ _ => exact hset hpost ⟨rfl, rfl, rfl, rfl, id⟩
  | attached =>
    dsimp only
    rw [Array.getElem?_push, if_neg (Nat.ne_of_lt (Array.getElem?_eq_some_iff.mp hp).1)]
    exact ⟨p, hp, hself⟩

/-- So do any number of them. -/
theorem Course.remains (h : Course grows s s') (hp : s.posts[i]? = some p) :
    ∃ p', s'.posts[i]? = some p' ∧ p.Remains p' := by
  induction h with
  | refl => exact ⟨p, hp, rfl, rfl, rfl, rfl, id⟩
  | tail _ hlast ih =>
    obtain ⟨p', hp', hremains⟩ := ih
    obtain ⟨p'', hp'', hlater⟩ := hlast.remains hp'
    exact ⟨p'', hp'', hlater.sim.trans hremains.sim, hlater.slot.trans hremains.slot, hlater.name.trans hremains.name,
      hlater.address.trans hremains.address, hlater.detached ∘ hremains.detached⟩

/-- Where no driver is attached there are as many. -/
theorem Course.size_of_still (h : Course false s s') : s'.posts.size = s.posts.size := by
  induction h with
  | refl => rfl
  | tail _ hlast ih =>
    rw [← ih]
    cases hlast with
    | grown => rfl
    | used | listened | opened | closed => exact Array.size_setIfInBounds
    | attached hgrows => contradiction

/-- Where no driver is attached, each card is one that was there before. -/
theorem Course.remained (h : Course false s s') {p' : Post} (hp' : s'.posts[i]? = some p') :
    ∃ p, s.posts[i]? = some p ∧ p.Remains p' := by
  obtain ⟨p, hp⟩ : ∃ p, s.posts[i]? = some p :=
    ⟨_, Array.getElem?_eq_getElem (h.size_of_still ▸ (Array.getElem?_eq_some_iff.mp hp').1)⟩
  obtain ⟨q, hq, hremains⟩ := h.remains hp
  obtain rfl := Option.some.inj (hq.symm.trans hp')
  exact ⟨p, hp, hremains⟩

end Scene

/-! ## The roster -/

namespace Bench

open Scene

variable {α : Type} {b b' : Bench} {i k slot : Nat}

/-- The card in a slot of the registry, if there is one. -/
def cardIn? (b : Bench) (slot : Nat) : Option Nat := b.registry.bind fun r => r.get? slot

/-- The cards in the slots have the number and the name of the slot, and each is at an address of its own. All that
were not detached are there. -/
structure Rostered (b : Bench) : Prop where
  size : ∀ r, b.registry = some r → r.slots.length = r.config.maxDevices
  named : ∀ slot i, b.cardIn? slot = some i →
    ∃ a, b.attachments[i]? = some a ∧ a.slot = slot ∧ a.device.name = Registry.cardName slot
  apart : ∀ slot slot' i i' a a', b.cardIn? slot = some i → b.cardIn? slot' = some i' →
    b.attachments[i]? = some a → b.attachments[i']? = some a' → a'.device.address = a.device.address → slot' = slot
  seated : ∀ i a, b.attachments[i]? = some a → a.device.detached = false → ∃ slot, b.cardIn? slot = some i

/-- The card in a slot of the registry that there is. -/
theorem cardIn?_of_registry {r : Registry} (hr : b.registry = some r) (slot : Nat) :
    b.cardIn? slot = r.get? slot := by rw [cardIn?, hr, Option.bind_some]

/-- Where no driver is attached, an attachment is one that was there before. -/
theorem remained_of_course (h : Course false b.scene b'.scene) {a' : Attachment}
    (ha' : b'.attachments[i]? = some a') : ∃ a, b.attachments[i]? = some a ∧ a.post.Remains a'.post := by
  obtain ⟨p, hp, hremains⟩ := h.remained (post_of_attachment ha')
  rw [getElem?_posts] at hp
  obtain ⟨a, ha, rfl⟩ := Option.map_eq_some_iff.mp hp
  exact ⟨a, ha, hremains⟩

/-- An attachment stays. -/
theorem remains_of_course {grows : Bool} (h : Course grows b.scene b'.scene) {a : Attachment}
    (ha : b.attachments[i]? = some a) : ∃ a', b'.attachments[i]? = some a' ∧ a.post.Remains a'.post := by
  obtain ⟨p', hp', hremains⟩ := h.remains (post_of_attachment ha)
  rw [getElem?_posts] at hp'
  obtain ⟨a', ha', rfl⟩ := Option.map_eq_some_iff.mp hp'
  exact ⟨a', ha', hremains⟩

namespace Rostered

/-- An empty bench has no cards. -/
theorem empty : Bench.empty.Rostered where
  size r hr := by simp [Bench.empty] at hr
  named slot i hslot := by simp [cardIn?, Bench.empty] at hslot
  apart slot slot' i i' a a' hslot := by simp [cardIn?, Bench.empty] at hslot
  seated i a ha := by simp [Bench.empty] at ha

/-- Where no driver is attached the roster stays in order, as long as a slot is emptied only of a card that is
detached. -/
theorem of_still (h : b.Rostered) (hcourse : Course false b.scene b'.scene)
    (hsize : ∀ r, b'.registry = some r → r.slots.length = r.config.maxDevices)
    (hfewer : ∀ slot i, b'.cardIn? slot = some i → b.cardIn? slot = some i)
    (hgone : ∀ slot i a', b.cardIn? slot = some i → b'.attachments[i]? = some a' → a'.device.detached = false →
      b'.cardIn? slot = some i) : b'.Rostered where
  size := hsize
  named slot i hslot := by
    obtain ⟨a, ha, hnumber, hname⟩ := h.named slot i (hfewer slot i hslot)
    obtain ⟨a', ha', hremains⟩ := remains_of_course hcourse ha
    exact ⟨a', ha', hremains.slot.trans hnumber, hremains.name.trans hname⟩
  apart slot slot' i i' x' y' hi hi' hx' hy' hsame := by
    obtain ⟨x, hx, hremains⟩ := remained_of_course hcourse hx'
    obtain ⟨y, hy, hremains'⟩ := remained_of_course hcourse hy'
    refine h.apart slot slot' i i' x y (hfewer slot i hi) (hfewer slot' i' hi') hx hy ?_
    exact hremains'.address.symm.trans (hsame.trans hremains.address)
  seated i a' ha' hattached := by
    obtain ⟨a, ha, hremains⟩ := remained_of_course hcourse ha'
    have hbefore : a.device.detached = false := by
      rw [← Bool.not_eq_true]
      intro hdetached
      have hstill : a'.device.detached = true := hremains.detached hdetached
      rw [hattached] at hstill
      contradiction
    obtain ⟨slot, hslot⟩ := h.seated i a ha hbefore
    exact ⟨slot, hgone slot i a' hslot ha' hattached⟩

/-- So it does where the registry stays as it is. -/
theorem of_registry (h : b.Rostered) (hcourse : Course false b.scene b'.scene) (hregistry : b'.registry = b.registry) :
    b'.Rostered := by
  have hsame (slot : Nat) : b'.cardIn? slot = b.cardIn? slot := by rw [cardIn?, hregistry, cardIn?]
  refine h.of_still hcourse (hregistry ▸ h.size) (fun slot i hslot => ?_) fun slot i a' hslot _ _ => ?_
  · rwa [hsame] at hslot
  · rwa [hsame]

end Rostered

/-! ## The registry through the steps -/

/-- A card that is put back is where it was. -/
theorem scene_seated (b : Bench) {s : Sim} (hs : b.sims[k]? = some s) (host : Host Board) :
    (b.seated k s host).scene = b.scene := by
  rw [scene, seated, addresses_setIfInBounds b hs]
  rfl

/-- Work on a card changes no slot. -/
theorem registry_onCard {work : Card Board → α × Card Board} {done : α × Bench}
    (hdone : b.onCard i work = some done) : done.2.registry = b.registry := by
  obtain ⟨a, c, -, hput⟩ := onCard_cases hdone
  rw [hput]
  rfl

/-- Neither does handling interrupts. -/
theorem registry_settle (b : Bench) : b.settle.registry = b.registry := by
  have hone (b : Bench) (j : Nat) : (b.settleWanted j).registry = b.registry := by
    unfold settleWanted
    split
    · split
      · exact registry_changeCard j { b with journal := #[] } Card.settle
      · rfl
    · rfl
  have hall (js : List Nat) (b : Bench) : (js.foldl settleWanted b).registry = b.registry := by
    induction js generalizing b with
    | nil => rfl
    | cons j rest ih => exact (ih _).trans (hone b j)
  exact hall _ b

/-- Neither does detaching a card whose slot was emptied. -/
theorem registry_remove (b : Bench) (i : Nat) : (b.remove i).registry = b.registry := by
  rw [remove, registry_dropHandle]
  exact registry_changeCard i b Card.detach

/-- Neither does opening a session. -/
theorem registry_openAttachment {nonblock : Bool} {done : Outcome × Bench}
    (hdone : b.openAttachment i nonblock = some done) : done.2.registry = b.registry := by
  obtain ⟨⟨result, b'⟩, hopen, rfl⟩ := Option.map_eq_some_iff.mp hdone
  obtain ⟨⟨granted, w⟩, hwork, hdone⟩ := Option.bind_eq_some_iff.mp hopen
  have hsame := registry_onCard hwork
  cases granted <;> obtain ⟨-, rfl⟩ := Prod.mk.inj (Option.some.inj hdone) <;> exact hsame

/-- Neither does closing one. -/
theorem registry_closeSession (b : Bench) (id : Nat) : (b.closeSession id).registry = b.registry := by
  unfold closeSession
  split
  · rw [registry_releaseUnused]
    exact registry_changeCard _ b _
  · rfl

/-- Neither does showing a card. -/
theorem registry_showCard (b : Bench) (i : Option Nat) (keep : Bool) :
    (b.showCard i keep).2.registry = b.registry := by
  unfold showCard
  split
  · rfl
  · split <;> rfl

/-- A step that may be refused leaves the registry alone if it does so when it is done. -/
theorem registry_orRefuse (b : Bench) (r : Refusal) {answer : Option (Outcome × Bench)}
    (hanswer : ∀ done, answer = some done → done.2.registry = b.registry) :
    (b.orRefuse r answer).2.registry = b.registry := by
  unfold orRefuse
  cases answer with
  | none => rfl
  | some done => exact hanswer done rfl

/-- So does a step that needs a registry. -/
theorem registry_withRegistry (b : Bench) {work : Registry → Outcome × Bench}
    (hwork : ∀ r, (work r).2.registry = b.registry) : (b.withRegistry work).2.registry = b.registry := by
  unfold withRegistry
  split
  · exact hwork _
  · rfl

/-- A card that is removed is detached. -/
theorem detached_of_remove (hplaced : b.scene.Placed) {a' : Attachment}
    (ha' : (b.remove i).attachments[i]? = some a') : a'.device.detached = true := by
  obtain ⟨a, ha, -⟩ := remained_of_course (b.course_remove i) ha'
  obtain ⟨s, hs, -⟩ := exists_sim_of_placed hplaced ha
  have hchanged : b.changeCard i Card.detach = b.putCard i a (Card.detach ⟨b.hostFor s a.apart, a.device⟩) := by
    rw [changeCard, onCard_eq_bind, ha, Option.bind_some, hs, Option.map_some]
  have hgone : (b.changeCard i Card.detach).attachments[i]? = some
      { a with device := { (Card.detach ⟨b.hostFor s a.apart, a.device⟩).device with notices := [] } } := by
    rw [hchanged]
    exact Table.getElem?_setIfInBounds_self _ ha
  have hdropped : Course false (b.changeCard i Card.detach).scene (b.remove i).scene := by
    unfold remove
    exact course_dropHandle (noteModule _ _ _) i
  obtain ⟨x, hx, hremains⟩ := remains_of_course hdropped hgone
  obtain rfl := Option.some.inj (hx.symm.trans ha')
  exact hremains.detached (Card.detached_detach _)

/-- So are several that are removed one after the other. -/
theorem detached_of_removeAll (hplaced : b.scene.Placed) {is : List Nat} (hi : i ∈ is) {a' : Attachment}
    (ha' : (is.foldl remove b).attachments[i]? = some a') : a'.device.detached = true := by
  have hrest (is : List Nat) (b : Bench) : Course false b.scene (is.foldl remove b).scene := by
    induction is generalizing b with
    | nil => exact .refl
    | cons j rest ih => exact (b.course_remove j).trans (ih _)
  induction is generalizing b with
  | nil => contradiction
  | cons j rest ih =>
    by_cases hmem : i ∈ rest
    · have hremoved : Course false b.scene (b.remove j).scene := b.course_remove j
      exact ih (hremoved.placed hplaced) hmem ha'
    · obtain rfl : i = j := (List.mem_cons.mp hi).resolve_right hmem
      obtain ⟨a, ha, hremains⟩ := remained_of_course (hrest rest (b.remove i)) ha'
      exact hremains.detached (detached_of_remove hplaced ha)

namespace Rostered

/-- Emptying all slots detaches every card that was in one, and so all cards. -/
theorem detached_of_detachAll (h : b.Rostered) (hplaced : b.scene.Placed) {r : Registry}
    (hr : b.registry = some r) {a' : Attachment} (ha' : (b.detachAll r).attachments[i]? = some a') :
    a'.device.detached = true := by
  obtain ⟨a, ha, hremains⟩ := remained_of_course (b.course_detachAll r) ha'
  cases hdetached : a.device.detached with
  | true => exact hremains.detached hdetached
  | false =>
    obtain ⟨slot, hslot⟩ := h.seated i a ha hdetached
    rw [cardIn?_of_registry hr] at hslot
    exact detached_of_removeAll (b := { b with registry := some r.clearAll }) hplaced
      (Registry.mem_cards_of_get? hslot) ha'

/-- So does giving up the registry. -/
theorem detached_of_dropRegistry (h : b.Rostered) (hplaced : b.scene.Placed) {a' : Attachment}
    (ha' : b.dropRegistry.attachments[i]? = some a') : a'.device.detached = true := by
  unfold dropRegistry at ha'
  split at ha'
  · rename_i r hr
    exact h.detached_of_detachAll hplaced hr ha'
  · rename_i hnone
    rw [← Bool.not_eq_false]
    intro hattached
    obtain ⟨slot, hslot⟩ := h.seated i a' ha' hattached
    rw [cardIn?, hnone] at hslot
    contradiction

/-- After all cards were detached there is a registry without cards, or none. -/
theorem emptied (h : b.Rostered) (hcourse : Course false b.scene b'.scene)
    (hnone : ∀ slot, b'.cardIn? slot = none)
    (hsize : ∀ r, b'.registry = some r → r.slots.length = r.config.maxDevices)
    (hdetached : ∀ (i : Nat) (a' : Attachment), b'.attachments[i]? = some a' → a'.device.detached = true) :
    b'.Rostered := by
  refine h.of_still hcourse hsize (fun slot i hslot => ?_) fun slot i a' _ ha' hattached => ?_
  · rw [hnone] at hslot
    contradiction
  · rw [hdetached i a' ha'] at hattached
    contradiction

/-- A card that is found at an address is the one in a slot that is there. -/
theorem findCard?_eq_some_iff (h : b.Rostered) {r : Registry} (hr : b.registry = some r) {address : PciAddress} :
    b.findCard? r address = some i ↔
      ∃ slot a, r.get? slot = some i ∧ b.attachments[i]? = some a ∧ a.device.address = address := by
  have hfound {j : Nat} (hj : b.findCard? r address = some j) :
      ∃ slot a, r.get? slot = some j ∧ b.attachments[j]? = some a ∧ a.device.address = address := by
    obtain ⟨slot, hslot⟩ := Registry.mem_cards_iff.mp (List.mem_of_find?_eq_some hj)
    have hthere :=
      List.find?_some (p := fun j : Nat => (b.attachments[j]?).any fun a : Attachment => a.device.address == address) hj
    obtain ⟨a, ha, hsame⟩ := (Option.any_eq_true _ _).mp hthere
    exact ⟨slot, a, hslot, ha, beq_iff_eq.mp hsame⟩
  refine ⟨hfound, ?_⟩
  rintro ⟨slot, a, hslot, ha, hsame⟩
  have hsome : (b.findCard? r address).isSome = true := by
    refine List.find?_isSome.mpr ⟨i, Registry.mem_cards_of_get? hslot, ?_⟩
    rw [ha, Option.any_some]
    exact beq_iff_eq.mpr hsame
  obtain ⟨j, hj⟩ := Option.isSome_iff_exists.mp hsome
  obtain ⟨slot', a', hslot', ha', hsame'⟩ := hfound hj
  obtain rfl : slot' = slot := by
    rw [← cardIn?_of_registry hr] at hslot hslot'
    exact h.apart slot slot' i j a a' hslot hslot' ha ha' (hsame'.trans hsame.symm)
  rw [hj, ← hslot', hslot]

/-- So it is found exactly if there is one. -/
theorem findCard?_isSome_iff (h : b.Rostered) {r : Registry} (hr : b.registry = some r) {address : PciAddress} :
    (b.findCard? r address).isSome = true ↔
      ∃ slot i a, r.get? slot = some i ∧ b.attachments[i]? = some a ∧ a.device.address = address := by
  rw [Option.isSome_iff_exists]
  constructor
  · rintro ⟨i, hi⟩
    obtain ⟨slot, a, hfound⟩ := (h.findCard?_eq_some_iff hr).mp hi
    exact ⟨slot, i, a, hfound⟩
  · rintro ⟨slot, i, a, hfound⟩
    exact ⟨i, (h.findCard?_eq_some_iff hr).mpr ⟨slot, a, hfound⟩⟩

/-- A simulated card to which a driver is attached is found at its address. -/
theorem findCard?_of_isLive (h : b.Rostered) (hplaced : b.scene.Placed) {r : Registry} (hr : b.registry = some r)
    {s : Sim} (hs : b.sims[k]? = some s) (hlive : b.isLive k = true) : (b.findCard? r s.address).isSome = true := by
  obtain ⟨i, hi, hboth⟩ := Array.any_eq_true.mp hlive
  obtain ⟨hsim, hattached⟩ := Bool.and_eq_true_iff.mp hboth
  have ha : b.attachments[i]? = some b.attachments[i] := Array.getElem?_eq_getElem hi
  obtain ⟨s', hs', haddress⟩ := exists_sim_of_placed hplaced ha
  rw [beq_iff_eq.mp hsim] at hs'
  obtain rfl := Option.some.inj (hs.symm.trans hs')
  obtain ⟨slot, hslot⟩ := h.seated i _ ha (by simpa using hattached)
  rw [cardIn?_of_registry hr] at hslot
  exact (h.findCard?_isSome_iff hr).mpr ⟨slot, i, _, hslot, ha, haddress.symm⟩

/-- A card at a new address, put into the lowest empty slot and named after it. -/
theorem filled (h : b.Rostered) {r : Registry} (hr : b.registry = some r) (hempty : r.emptySlot? = some slot)
    {a : Attachment} (hnew : (b.findCard? r a.device.address).isSome = false) (hnumber : a.slot = slot)
    (hname : a.device.name = Registry.cardName slot) (hattachments : b'.attachments = b.attachments.push a)
    (hregistry : b'.registry = some (r.put slot b.attachments.size)) : b'.Rostered := by
  obtain ⟨hlt, hnone, -⟩ := Registry.emptySlot?_eq_some hempty
  have hput := Registry.differs_put hlt b.attachments.size
  have hmine : b'.cardIn? slot = some b.attachments.size := (cardIn?_of_registry hregistry slot).trans hput.entry
  have hothers (other : Nat) (hother : other ≠ slot) : b'.cardIn? other = b.cardIn? other := by
    rw [cardIn?_of_registry hregistry, cardIn?_of_registry hr, hput.others other hother]
  have hlast : b'.attachments[b.attachments.size]? = some a := by rw [hattachments, Array.getElem?_push_size]
  have hkept {i : Nat} {x : Attachment} (hx : b.attachments[i]? = some x) : b'.attachments[i]? = some x := by
    rw [hattachments, Array.getElem?_push, if_neg (Nat.ne_of_lt (lt_size_of_getElem? hx)), hx]
  -- A card in another slot is one from before, whose address is not the new one.
  have hold {other i : Nat} (hother : other ≠ slot) (hi : b'.cardIn? other = some i) :
      b.cardIn? other = some i ∧ ∃ x, b.attachments[i]? = some x ∧ b'.attachments[i]? = some x ∧ x.slot = other ∧
        x.device.name = Registry.cardName other ∧ x.device.address ≠ a.device.address := by
    rw [hothers other hother] at hi
    obtain ⟨x, hx, hslot, hcalled⟩ := h.named other i hi
    refine ⟨hi, x, hx, hkept hx, hslot, hcalled, fun hsame => ?_⟩
    rw [cardIn?_of_registry hr] at hi
    rw [(h.findCard?_isSome_iff hr).mpr ⟨other, i, x, hi, hx, hsame⟩] at hnew
    contradiction
  refine ⟨fun r' hr' => ?_, fun other i hi => ?_, fun s₁ s₂ i₁ i₂ x y hi₁ hi₂ hx hy hsame => ?_, ?_⟩
  · obtain rfl := Option.some.inj (hregistry.symm.trans hr')
    rw [hput.size, hput.config]
    exact h.size r hr
  · by_cases hother : other = slot
    · subst hother
      obtain rfl := Option.some.inj (hmine.symm.trans hi)
      exact ⟨a, hlast, hnumber, hname⟩
    · obtain ⟨-, x, -, hx, hslot, hcalled, -⟩ := hold hother hi
      exact ⟨x, hx, hslot, hcalled⟩
  · by_cases hfirst : s₁ = slot <;> by_cases hsecond : s₂ = slot
    · rw [hfirst, hsecond]
    · obtain ⟨-, z, -, hz, -, -, hapart⟩ := hold hsecond hi₂
      obtain rfl := Option.some.inj (hz.symm.trans hy)
      rw [hfirst, hmine] at hi₁
      obtain rfl := Option.some.inj hi₁
      obtain rfl := Option.some.inj (hlast.symm.trans hx)
      exact absurd hsame hapart
    · obtain ⟨-, z, -, hz, -, -, hapart⟩ := hold hfirst hi₁
      obtain rfl := Option.some.inj (hz.symm.trans hx)
      rw [hsecond, hmine] at hi₂
      obtain rfl := Option.some.inj hi₂
      obtain rfl := Option.some.inj (hlast.symm.trans hy)
      exact absurd hsame.symm hapart
    · obtain ⟨hbefore₁, z₁, hz₁, hnow₁, -⟩ := hold hfirst hi₁
      obtain ⟨hbefore₂, z₂, hz₂, hnow₂, -⟩ := hold hsecond hi₂
      obtain rfl := Option.some.inj (hnow₁.symm.trans hx)
      obtain rfl := Option.some.inj (hnow₂.symm.trans hy)
      exact h.apart s₁ s₂ i₁ i₂ z₁ z₂ hbefore₁ hbefore₂ hz₁ hz₂ hsame
  · rw [hattachments]
    refine Table.forall_push (fun i x hx hattached => ?_) fun _ => ⟨slot, hmine⟩
    obtain ⟨other, hother⟩ := h.seated i x hx hattached
    refine ⟨other, ?_⟩
    rw [hothers other, hother]
    rintro rfl
    rw [cardIn?_of_registry hr, hnone] at hother
    contradiction

/-- A probe keeps the roster in order, whether it gives a slot or not. -/
theorem probe (h : b.Rostered) {r : Registry} (hr : b.registry = some r) {s : Sim} (hs : b.sims[k]? = some s)
    (hcalm : Calm s) (vendor device baseHdwr baseLen : Nat) :
    (b.probe r k s.address vendor device baseHdwr baseLen none).2.Rostered := by
  have hends := b.probe_ends r hs hcalm vendor device baseHdwr baseLen
  generalize b.probe r k s.address vendor device baseHdwr baseLen none = probed at hends ⊢
  cases hends with
  | foreign => exact h
  | known | full => exact { h with }
  | unattached => exact h.of_registry (.of_eq (b.scene_seated hs _)) rfl
  | @attached slot d h' _ _ hnew hempty hattach =>
    obtain ⟨-, _, _, _, _, -, -, hdevice, -⟩ := Device.attach_cases hattach
    have hname : d.name = Registry.cardName slot := by rw [hdevice, Device.fresh]
    have haddress : d.address = s.address := by rw [hdevice, Device.fresh]
    rw [← haddress] at hnew
    exact h.filled hr hempty hnew rfl hname rfl rfl

/-- Detaching all cards empties the roster and keeps it in order. -/
theorem detachAll (h : b.Rostered) (hplaced : b.scene.Placed) {r : Registry} (hr : b.registry = some r) :
    (b.detachAll r).Rostered := by
  have hcleared := b.registry_detachAll r
  refine h.emptied (b.course_detachAll r) (fun slot => ?_) (fun r' hr' => ?_) fun i a' ha' =>
    h.detached_of_detachAll hplaced hr ha'
  · rw [cardIn?_of_registry hcleared, Registry.get?_clearAll]
  · obtain rfl := Option.some.inj (hcleared.symm.trans hr')
    rw [Registry.clearAll, List.length_map]
    exact h.size r hr

/-- So does giving up the registry. -/
theorem dropRegistry (h : b.Rostered) (hplaced : b.scene.Placed) : b.dropRegistry.Rostered := by
  have hnone := b.registry_dropRegistry
  refine h.emptied b.course_dropRegistry (fun slot => ?_) (fun r hr => ?_) fun i a' ha' =>
    h.detached_of_dropRegistry hplaced ha'
  · rw [cardIn?, hnone, Option.bind_none]
  · rw [hnone] at hr
    contradiction

/-- A new registry takes the place of one that is given up. -/
theorem renewed (h : b.Rostered) (hplaced : b.scene.Placed) {config : Config} {r : Registry}
    (hr : Registry.new config = .ok r) : { b.dropRegistry with registry := some r }.Rostered := by
  obtain ⟨rfl, hsize, hnone⟩ := Registry.new_ok hr
  refine h.emptied b.course_dropRegistry hnone (fun r' hr' => ?_) fun i a' ha' =>
    h.detached_of_dropRegistry hplaced ha'
  obtain rfl := Option.some.inj hr'
  exact hsize

/-- A slot is emptied as its card is detached, or nothing is done. -/
theorem detachSlot (h : b.Rostered) (hplaced : b.scene.Placed) {r : Registry} (hr : b.registry = some r)
    (slot : Nat) : (b.detachSlot r slot).2.Rostered := by
  have hcourse : Course false b.scene (b.detachSlot r slot).2.scene := b.course_detachSlot r slot
  have hends := b.detachSlot_ends r slot
  generalize b.detachSlot r slot = done at hcourse hends ⊢
  cases hends with
  | missing => exact h
  | used => exact h.of_registry hcourse rfl
  | @emptied i _ hslot _ _ =>
    have hregistry := registry_remove { b with registry := some (r.clear slot) } i
    have hcleared := r.differs_clear slot
    refine h.of_still hcourse (fun r' hr' => ?_) (fun other k hk => ?_) fun other k a' hk ha' hattached => ?_
    · obtain rfl := Option.some.inj (hregistry.symm.trans hr')
      rw [hcleared.size, hcleared.config]
      exact h.size r hr
    · rw [cardIn?_of_registry hregistry] at hk
      rw [cardIn?_of_registry hr]
      by_cases hother : other = slot
      · rw [hother, hcleared.entry] at hk
        contradiction
      · rwa [hcleared.others other hother] at hk
    · rw [cardIn?_of_registry hr] at hk
      rw [cardIn?_of_registry hregistry]
      by_cases hother : other = slot
      · rw [hother, hslot] at hk
        obtain rfl := Option.some.inj hk
        rw [detached_of_remove (b := { b with registry := some (r.clear slot) }) hplaced ha'] at hattached
        contradiction
      · rwa [hcleared.others other hother]

/-- Work on the registry keeps the roster in order, if it does where there is a registry. -/
theorem withRegistry (h : b.Rostered) {work : Registry → Outcome × Bench}
    (hwork : ∀ r, b.registry = some r → (work r).2.Rostered) : (b.withRegistry work).2.Rostered := by
  unfold Bench.withRegistry
  split
  · rename_i r hr
    exact hwork r hr
  · exact h

/-- Every step of a lifecycle keeps the roster in order. -/
theorem act (h : b.Rostered) (hplaced : b.scene.Placed) (hfit : b.Fit) {step : Step}
    (hstep : step.isLifecycle = true) : (b.act step).2.Rostered := by
  have hcourse := course_act hplaced step
  have hkept (hstill : step.attaches = false) (hregistry : (b.act step).2.registry = b.registry) :
      (b.act step).2.Rostered := h.of_registry (hstill ▸ hcourse) hregistry
  cases step with
  | addSim => exact hkept rfl rfl
  | slotCard slot keep => exact hkept rfl (b.registry_withRegistry fun r => b.registry_showCard _ keep)
  | findCard address keep => exact hkept rfl (b.registry_withRegistry fun r => b.registry_showCard _ keep)
  | dropCard card =>
    refine hkept rfl ?_
    unfold Bench.act
    dsimp only
    split
    · exact registry_dropHandle _ { b with cards := b.cards.setIfInBounds card none }
    · rfl
  | cardDetach card =>
    refine hkept rfl (b.registry_orRefuse _ fun done hdone => ?_)
    obtain ⟨i, -, hdone⟩ := Option.bind_eq_some_iff.mp hdone
    exact registry_onCard hdone
  | openCard card nonblock =>
    refine hkept rfl (b.registry_orRefuse _ fun done hdone => ?_)
    obtain ⟨i, -, hdone⟩ := Option.bind_eq_some_iff.mp hdone
    exact registry_openAttachment hdone
  | openSlot slot nonblock =>
    refine hkept rfl (b.registry_withRegistry fun r => ?_)
    split
    · rename_i hdone
      obtain ⟨i, -, hdone⟩ := Option.bind_eq_some_iff.mp hdone
      exact registry_openAttachment hdone
    · rfl
  | session id step =>
    refine hkept rfl ?_
    unfold Bench.act
    dsimp only
    split
    · cases step with
      | close => exact b.registry_closeSession id
      | _ => contradiction
    · rfl
  | registry config =>
    unfold Bench.act
    dsimp only
    split
    · exact h
    · rename_i r hr
      exact h.renewed hplaced hr
  | dropRegistry => exact h.dropRegistry hplaced
  | detachAll => exact h.withRegistry fun r hr => h.detachAll hplaced hr
  | detachSlot slot => exact h.withRegistry fun r hr => h.detachSlot hplaced hr slot
  | probe k vendor device r =>
    refine h.withRegistry fun registry hr => ?_
    split
    · exact h
    · rename_i s hs
      split
      · exact h
      · have hnone : r.apart = none := by simpa [Step.isLifecycle] using hstep
        have hprobed := h.probe hr hs (hfit.calm k s hs) vendor device r.baseHdwr r.baseLen
        rw [hnone]
        generalize b.probe registry k s.address vendor device r.baseHdwr r.baseLen none = done at hprobed ⊢
        obtain ⟨result, b'⟩ := done
        cases result <;> exact hprobed
  | _ => contradiction

/-- So does playing it, with the interrupts that are handled afterwards. -/
theorem play (h : b.Rostered) (hplaced : b.scene.Placed) (hfit : b.Fit) {step : Step}
    (hstep : step.isLifecycle = true) : (b.play step).2.Rostered := by
  have hcleared : Bench.Rostered { b with journal := #[], irqJournal := #[] } := { h with }
  have hacted := hcleared.act hplaced { hfit with } hstep
  exact hacted.of_registry (course_settle _) (registry_settle _)

/-- So does a whole lifecycle. -/
theorem playAll (h : b.Rostered) (hplaced : b.scene.Placed) {allowed : Config → Prop}
    (hledger : b.Ledger allowed [] none) {steps : List Step} (hsteps : ∀ step ∈ steps, step.isLifecycle = true)
    (hconfig : ∀ config, .registry config ∈ steps → allowed config) : (b.playAll steps).Rostered := by
  induction steps generalizing b with
  | nil => exact h
  | cons step rest ih =>
    have hstep := hsteps step List.mem_cons_self
    have hfirst : Leads allowed b (b.play step).2 [] none := Leads.play ⟨hledger, .refl⟩ hstep fun config hsame =>
      hconfig config (hsame ▸ List.mem_cons_self)
    exact ih (h.play hplaced hledger.fit hstep) ((course_play hplaced step).placed hplaced) hfirst.ledger
      (fun s hs => hsteps s (List.mem_cons_of_mem _ hs)) fun config hs => hconfig config (List.mem_cons_of_mem _ hs)

end Rostered

end Bench

end LaneCard
