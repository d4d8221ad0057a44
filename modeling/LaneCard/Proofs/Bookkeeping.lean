import LaneCard.Proofs.References
import Mathlib.Data.List.Perm.Basic

/-!
# Keeping the books

Every step of a lifecycle keeps the ledger of a bench: probing, detaching and giving up the registry,
getting and dropping handles, opening and closing sessions. So after any lifecycle every counter is right,
and the bench comes from the empty one by changes.
-/

namespace LaneCard

/-- The cards of a registry, counted by their slots. -/
theorem Registry.count_cards (r : Registry) (i : Nat) :
    r.cards.count i = r.slots.count (some i) := by
  rw [Registry.cards, List.count_filterMap, List.count]
  rfl

/-- The card in a slot is one of the cards. -/
theorem Registry.mem_cards_of_get? {r : Registry} {slot i : Nat} (h : r.get? slot = some i) : i ∈ r.cards :=
  List.mem_filterMap.mpr ⟨some i, List.mem_of_getElem? (Option.join_eq_some_iff.mp h), rfl⟩

/-- A registry that was cleared has no cards. -/
@[simp] theorem Registry.count_clearAll (r : Registry) (i : Nat) : r.clearAll.slots.count (some i) = 0 := by
  simp [Registry.clearAll, List.count_eq_zero]

/-- Replacing an entry of a list trades it for another. -/
theorem perm_cons_set {α : Type} {l : List α} {k : Nat} {x : α} (hx : l[k]? = some x) (y : α) :
    (x :: l.set k y).Perm (y :: l) := by
  obtain ⟨hk, rfl⟩ := List.getElem?_eq_some_iff.mp hx
  calc
    (l[k] :: l.set k y).Perm (l[k] :: y :: l.eraseIdx k) := (List.set_perm_cons_eraseIdx hk y).cons _
    List.Perm _ (y :: l[k] :: l.eraseIdx k) := .swap _ _ _
    List.Perm _ (y :: l) := (List.getElem_cons_eraseIdx_perm hk).cons _

/-- Emptying a slot takes one reference away from the card in it. -/
theorem Registry.count_clear {r : Registry} {slot i : Nat} (hslot : r.get? slot = some i) (j : Nat) :
    (r.clear slot).slots.count (some j) + [i].count j = r.slots.count (some j) := by
  have htraded := (perm_cons_set (Option.join_eq_some_iff.mp hslot) none).count_eq (some j)
  simpa [Registry.clear, List.count_cons] using htraded

/-- Putting a card into an empty slot gives it one reference. -/
theorem Registry.count_put {r : Registry} {slot : Nat} (hslot : r.emptySlot? = some slot) (i j : Nat) :
    (r.put slot i).slots.count (some j) = r.slots.count (some j) + [i].count j := by
  obtain ⟨hlt, hempty, -⟩ := List.findIdx?_eq_some_iff_getElem.mp hslot
  have hnone : r.slots[slot]? = some none := by
    rw [List.getElem?_eq_getElem hlt]
    simpa using hempty
  have htraded := (perm_cons_set hnone (some i)).count_eq (some j)
  simpa [Registry.put, List.count_cons] using htraded

/-- A handler can be named after every card of a registry. -/
theorem canNameHandler_cardName (slot : Nat) : Device.canNameHandler (Registry.cardName slot) = true := by
  have hname : (Registry.cardName slot).toList = "PgpCardG3_".toList ++ Nat.toDigits 10 slot := by
    rw [← Nat.toList_repr]
    simp [Registry.cardName, Registry.moduleName, ToString.toString]
  rw [Device.canNameHandler, hname, List.all_append, Bool.and_eq_true]
  refine ⟨by decide, List.all_eq_true.mpr fun c hc => ?_⟩
  have hdigit := Nat.isDigit_of_mem_toDigits (by decide) (by decide) hc
  rw [bne_iff_ne]
  intro hzero
  rw [Char.isDigit, Bool.and_eq_true, decide_eq_true_eq, decide_eq_true_eq] at hdigit
  have hlow := UInt32.le_iff_toNat_le.mp hdigit.1
  have hfirst : ('0').val.toNat = 48 := by decide
  change c.val.toNat = 0 at hzero
  omega

/-- The slot that a probe was answered with. -/
def Outcome.slot? : Outcome → Option Nat
  | slot n => some n
  | _ => none

/-- Only a slot is an answer with a slot. -/
theorem Outcome.slot?_eq_some {o : Outcome} {n : Nat} (h : o.slot? = some n) : o = .slot n := by
  cases o <;> simp_all [slot?]

/-- Whether a step was answered without saying anything. -/
def Outcome.isNothing : Outcome → Bool
  | nothing => true
  | _ => false

/-- Only nothing is an answer that says nothing. -/
theorem Outcome.eq_nothing {o : Outcome} (h : o.isNothing = true) : o = .nothing := by
  cases o <;> simp_all [isNothing]

namespace Bench

/-! ## What work on attachments leaves alone -/

section

variable (i : Nat)

/-- Work on a card changes neither the registry nor the handles. -/
theorem registry_changeCard (b : Bench) (work : Card Board → Card Board) :
    (b.changeCard i work).registry = b.registry := by
  unfold changeCard onCard
  cases b.attachments[i]? with
  | none => rfl
  | some a =>
    rw [Option.bind_eq_bind, Option.bind_some]
    cases b.sims[a.sim]? with
    | none => rfl
    | some s => rfl

/-- Neither does releasing buffers. -/
theorem registry_releaseUnused (b : Bench) : (b.releaseUnused i).registry = b.registry := by
  unfold releaseUnused
  split
  · split
    · exact b.registry_changeCard i _
    · rfl
  · rfl

/-- Neither does dropping a handle that is no longer counted. -/
theorem registry_dropHandle (b : Bench) : (b.dropHandle i).registry = b.registry := by
  unfold dropHandle
  dsimp only
  split
  · split
    · rw [registry_releaseUnused, registry_changeCard]
      rfl
    · rfl
  · rfl

/-- Removing cards leaves the registry as it was emptied. -/
theorem registry_detachAll (b : Bench) (r : Registry) : (b.detachAll r).registry = some r.clearAll := by
  have hall (is : List Nat) (b : Bench) : (is.foldl remove b).registry = b.registry := by
    induction is generalizing b with
    | nil => rfl
    | cons i rest ih =>
      rw [List.foldl_cons, ih, remove, registry_dropHandle]
      exact b.registry_changeCard i _
  exact hall _ _

/-- A registry that was given up is gone. -/
theorem registry_dropRegistry (b : Bench) : b.dropRegistry.registry = none := by
  unfold dropRegistry
  split
  · rfl
  · assumption

end
variable {allowed : Config → Prop} {b₀ b b' : Bench} {owed owed' : List Nat} {due due' : Option Nat}

/-- How detaching the card in a slot ends: there is none, somebody else uses it, or its slot is emptied. -/
inductive DetachEnds (b : Bench) (r : Registry) (slot : Nat) : Except CardError Unit × Bench → Prop
  | missing (hnone : ∀ i a, r.get? slot = some i → b.attachments[i]? ≠ some a) :
      DetachEnds b r slot (.error .noDevice, b)
  | used {i : Nat} {a : Attachment} {journal : Journal} (hslot : r.get? slot = some i)
      (ha : b.attachments[i]? = some a) (hused : a.device.isOpen = true ∨ 1 < a.handles) :
      DetachEnds b r slot (.error .busy, { b with journal := journal })
  | emptied {i : Nat} {a : Attachment} (hslot : r.get? slot = some i) (ha : b.attachments[i]? = some a)
      (hunused : ¬ (a.device.isOpen = true ∨ 1 < a.handles)) :
      DetachEnds b r slot (.ok (), { b with registry := some (r.clear slot) }.remove i)

/-- It always ends so. -/
theorem detachSlot_ends (b : Bench) (r : Registry) (slot : Nat) : b.DetachEnds r slot (b.detachSlot r slot) := by
  unfold detachSlot
  split
  · rename_i hfound
    refine .missing fun i a hslot ha => ?_
    rw [hslot, Option.bind_some, ha, Option.map_some] at hfound
    contradiction
  · rename_i hfound
    obtain ⟨i, hslot, hfound⟩ := Option.bind_eq_some_iff.mp hfound
    obtain ⟨a, ha, hsame⟩ := Option.map_eq_some_iff.mp hfound
    obtain ⟨rfl, rfl⟩ := Prod.mk.inj hsame
    split
    · rename_i hused
      exact .used hslot ha hused
    · rename_i hunused
      exact .emptied hslot ha hunused

namespace Leads

/-! ## The registry -/

/-- Detaching a card whose slot was emptied. -/
theorem remove {i : Nat} (h : Leads allowed b₀ b (i :: owed) none) : Leads allowed b₀ (b.remove i) owed none := by
  have hdetached := h.changeCard i Card.detach fun c _ _ => c.tended_detach
  exact (hdetached.noteModule _ _).dropHandle

/-- The card is detached then. -/
theorem detached_remove {i : Nat} {a : Attachment} (h : Leads allowed b₀ b (i :: owed) none)
    (ha : b.attachments[i]? = some a) :
    ∃ a', (b.remove i).attachments[i]? = some a' ∧ Becomes a a' ∧ a'.device.detached = true := by
  obtain ⟨s, hs, hcard, hdone⟩ := h.ledger.fit.changeCard ha Card.detach fun c _ _ => c.tended_detach
  have hworked := h.worked ha hs hcard
  have hput : (b.worked i a s (Card.detach ⟨s.host, a.device⟩)).attachments[i]? =
      some { a with device := (Card.detach ⟨s.host, a.device⟩).device } := by
    rw [Bench.worked, Table.getElem?_setIfInBounds_self _ ha]
  have hfirst : Becomes a { a with device := (Card.detach ⟨s.host, a.device⟩).device } :=
    ⟨rfl, hcard.rxPool, fun _ => Card.detached_detach _, id⟩
  have hdropped (text : String) : ∃ a',
      (((b.worked i a s (Card.detach ⟨s.host, a.device⟩)).noteModule .info text).dropHandle i).attachments[i]? =
          some a' ∧
        Becomes a a' ∧ a'.device.detached = true := by
    have hnoted := hworked.noteModule .info text
    obtain ⟨a', ha', hbecomes⟩ :=
      (⟨hnoted.ledger, .refl⟩ : Leads allowed _ _ (i :: owed) none).dropHandle.history.becomes hput
    exact ⟨a', ha', hfirst.trans hbecomes, hbecomes.detached (Card.detached_detach _)⟩
  rw [Bench.remove, hdone]
  exact hdropped _

/-- Detaching several cards whose slots were emptied. -/
theorem removeAll {is : List Nat} (h : Leads allowed b₀ b (is ++ owed) none) :
    Leads allowed b₀ (is.foldl Bench.remove b) owed none := by
  induction is generalizing b with
  | nil => exact h
  | cons i rest ih => exact ih h.remove

/-- Detaching all cards of the registry. -/
theorem detachAll {r : Registry} (h : Leads allowed b₀ b owed none) (hr : b.registry = some r) :
    Leads allowed b₀ (b.detachAll r) owed none := by
  have hclear (i : Nat) : r.clearAll.slots.count (some i) = 0 := by
    simp [Registry.clearAll, List.count_eq_zero]
  have hemptied : Leads allowed b₀ { b with registry := some r.clearAll } (r.cards ++ owed) none := by
    refine h.aside rfl rfl (fun i => ?_) (fun i => rfl) fun r' hr' => ?_
    · rw [refs, refs, hr, List.count_append, r.count_cards]
      simp only [Option.elim_some, hclear]
      omega
    · obtain rfl := Option.some.inj hr'
      exact h.ledger.config r hr
  exact hemptied.removeAll

/-- Giving up the registry. -/
theorem dropRegistry (h : Leads allowed b₀ b owed none) : Leads allowed b₀ b.dropRegistry owed none := by
  unfold Bench.dropRegistry
  split
  · rename_i r hr
    have hdone := h.detachAll hr
    refine hdone.aside rfl rfl (fun i => ?_) (fun i => rfl) fun r' hr' => by simp at hr'
    rw [refs, refs, b.registry_detachAll r, Option.elim_some, r.count_clearAll]
    rfl
  · exact h

/-- A new registry has no cards. -/
theorem registry (h : Leads allowed b₀ b owed none) {config : Config} {r : Registry} (hconfig : allowed config)
    (hr : Registry.new config = .ok r) :
    Leads allowed b₀ { b.dropRegistry with registry := some r } owed none := by
  have hdone := h.dropRegistry
  unfold Registry.new at hr
  split at hr
  · simp at hr
  · split at hr
    · obtain rfl := Except.ok.inj hr
      refine hdone.aside rfl rfl (fun i => ?_) (fun i => rfl) fun r' hr' => ?_
      · rw [refs, refs, b.registry_dropRegistry]
        simp [List.count_replicate]
      · obtain rfl := Option.some.inj hr'
        exact hconfig
    · simp at hr

/-- A slot that was emptied owes its reference. -/
theorem emptied {r : Registry} {slot i : Nat} (h : Leads allowed b₀ b owed none) (hr : b.registry = some r)
    (hslot : r.get? slot = some i) :
    Leads allowed b₀ { b with registry := some (r.clear slot) } (i :: owed) none := by
  refine h.aside rfl rfl (fun j => ?_) (fun j => rfl) fun r' hr' => ?_
  · have hcount := Registry.count_clear hslot j
    rw [List.count_singleton] at hcount
    rw [refs, refs, hr, List.count_cons]
    simp only [Option.elim_some]
    omega
  · obtain rfl := Option.some.inj hr'
    exact h.ledger.config r hr

/-- Detaching the card in a slot whose card nobody else uses. -/
theorem detachSlot {r : Registry} (h : Leads allowed b₀ b owed none) (hr : b.registry = some r) (slot : Nat) :
    Leads allowed b₀ (b.detachSlot r slot).2 owed none := by
  have hends := b.detachSlot_ends r slot
  generalize b.detachSlot r slot = done at hends ⊢
  cases hends with
  | missing => exact h
  | used => exact h.still rfl rfl rfl rfl rfl
  | emptied hslot => exact (h.emptied hr hslot).remove

/-- An attachment that is made is referred to once. -/
theorem arrive (h : Leads allowed b₀ b owed none) {a : Attachment} (hchange : Change allowed b b')
    (hattachments : b'.attachments = b.attachments.push a)
    (hnew : a.handles = 1 ∧ a.sessions = 0 ∧ a.released = false)
    (hrefs : ∀ j, b'.refs j = b.refs j + [b.attachments.size].count j)
    (hopenings : ∀ j, b'.openings j = b.openings j) (hconfig : ∀ r, b'.registry = some r → allowed r.config) :
    Leads allowed b₀ b' owed none := by
  obtain ⟨hhandles, hsessions, hheld⟩ := hnew
  have hknown := h.ledger.known b.attachments.size (Nat.le_refl _)
  have hother (j : Nat) (hj : j ≠ b.attachments.size) : b'.refs j = b.refs j := by
    rw [hrefs, List.count_singleton, if_neg (by simpa using Ne.symm hj), Nat.add_zero]
  have hmine : b'.refs b.attachments.size = b.refs b.attachments.size + 1 := by
    rw [hrefs, List.count_singleton_self]
  refine ⟨⟨hchange.fit h.ledger.fit, fun i x hx => ?_, fun i x hx _ hzero hnone => ?_, fun i hi => ?_, hconfig⟩,
    h.history.tail hchange⟩
  · rw [hopenings]
    rw [hattachments, Array.getElem?_push] at hx
    split at hx
    · rename_i hi
      subst hi
      obtain rfl := Option.some.inj hx
      refine ⟨?_, ?_, fun hzero => ?_, fun hreleased => ?_⟩
      · omega
      · omega
      · omega
      · rw [hheld] at hreleased
        contradiction
    · rename_i hi
      rw [hother i hi]
      exact h.ledger.owned i x hx
  · rw [hattachments, Array.getElem?_push] at hx
    split at hx
    · obtain rfl := Option.some.inj hx
      omega
    · exact h.ledger.prompt i x hx (Option.some_ne_none i).symm hzero hnone
  · rw [hattachments, Array.size_push] at hi
    rw [hopenings, hother i (by omega)]
    exact h.ledger.known i (by omega)

end Leads

/-- The bench after a driver was to be attached to a card: the card is put back. -/
def seated (b : Bench) (k : Nat) (s : Sim) (h : Host Board) : Bench :=
  { b with
    sims := b.sims.setIfInBounds k { s with host := { h with journal := #[] } }
    journal := b.journal ++ h.journal }

/-- Attaching a driver to a card with which it shares its memory. -/
theorem attach_eq {k : Nat} {s : Sim} (hs : b.sims[k]? = some s) (hcalm : Calm s) (name : String) (slot : Nat)
    (config : Config) (baseHdwr baseLen : Nat) :
    b.attach k name slot config baseHdwr baseLen none =
      match Device.attach s.host name s.address baseHdwr baseLen config with
      | (.error e, h') => some (.error e, b.seated k s h')
      | (.ok d, h') =>
        some (.ok b.attachments.size,
          { b.seated k s h' with attachments := b.attachments.push ⟨d, k, none, slot, 1, 0, false⟩ }) := by
  have hhost : b.hostFor s none = s.host := by rw [hostFor, Option.bind_none, ← hcalm.shared]
  have hput (h : Host Board) (hshared : h.apart = none) : b.putHost k none h = b.seated k s h := by
    have hkept : ({ h with apart := none, journal := #[] } : Host Board) = { h with journal := #[] } := by
      rw [← hshared]
    simp only [putHost, Table.modify_eq _ hs, hkept]
    rfl
  simp only [attach, hs, Option.bind_eq_bind, Option.bind_some, hhost]
  generalize hdone : Device.attach s.host name s.address baseHdwr baseLen config = done
  obtain ⟨result, h'⟩ := done
  have hshared : h'.apart = none := (hcalm.attach hdone).shared
  rw [hput h' hshared]
  cases result <;> rfl

/-- How a probe of a simulated card ends: at the first obstacle, or with the slot of the driver that was attached. -/
inductive ProbeEnds (b : Bench) (r : Registry) (k : Nat) (s : Sim) (vendor device baseHdwr baseLen : Nat) :
    Except (Setback CardError) Nat × Bench → Prop
  | foreign (hforeign : vendor ≠ Registry.vendorId ∨ device ≠ Registry.deviceId) :
      ProbeEnds b r k s vendor device baseHdwr baseLen
        (.error (.failed (.notSupported (Registry.foreignText vendor device s.address))), b)
  | known {journal : Journal} (hkind : vendor = Registry.vendorId ∧ device = Registry.deviceId)
      (hfound : (b.findCard? r s.address).isSome = true) :
      ProbeEnds b r k s vendor device baseHdwr baseLen (.error (.failed .busy), { b with journal := journal })
  | full {journal : Journal} (hkind : vendor = Registry.vendorId ∧ device = Registry.deviceId)
      (hnew : (b.findCard? r s.address).isSome = false) (hfull : r.emptySlot? = none) :
      ProbeEnds b r k s vendor device baseHdwr baseLen (.error (.failed .registryFull), { b with journal := journal })
  | unattached {slot : Nat} {e : Setback CardError} {h' : Host Board}
      (hkind : vendor = Registry.vendorId ∧ device = Registry.deviceId)
      (hnew : (b.findCard? r s.address).isSome = false) (hempty : r.emptySlot? = some slot)
      (hattach : Device.attach s.host (Registry.cardName slot) s.address baseHdwr baseLen r.config = (.error e, h')) :
      ProbeEnds b r k s vendor device baseHdwr baseLen (.error e, b.seated k s h')
  | attached {slot : Nat} {d : Device} {h' : Host Board} {journal : Journal}
      (hkind : vendor = Registry.vendorId ∧ device = Registry.deviceId)
      (hnew : (b.findCard? r s.address).isSome = false) (hempty : r.emptySlot? = some slot)
      (hattach : Device.attach s.host (Registry.cardName slot) s.address baseHdwr baseLen r.config = (.ok d, h')) :
      ProbeEnds b r k s vendor device baseHdwr baseLen
        (.ok slot,
          { b.seated k s h' with
            attachments := b.attachments.push ⟨d, k, none, slot, 1, 0, false⟩
            registry := some (r.put slot b.attachments.size)
            journal := journal })

/-- Every probe of a card that shares its memory ends so. -/
theorem probe_ends (r : Registry) {k : Nat} {s : Sim} (hs : b.sims[k]? = some s) (hcalm : Calm s)
    (vendor device baseHdwr baseLen : Nat) :
    b.ProbeEnds r k s vendor device baseHdwr baseLen
      (b.probe r k s.address vendor device baseHdwr baseLen none) := by
  unfold probe
  split
  · rename_i hforeign
    exact .foreign hforeign
  · rename_i hkind
    obtain ⟨hvendor, hdevice⟩ := not_or.mp hkind
    replace hkind := And.intro (not_not.mp hvendor) (not_not.mp hdevice)
    split
    · rename_i hfound
      exact .known hkind hfound
    · rename_i hnew
      rw [Bool.not_eq_true] at hnew
      split
      · rename_i hfull
        exact .full hkind hnew hfull
      · rename_i slot hempty
        rw [attach_eq hs hcalm]
        generalize hattach :
          Device.attach s.host (Registry.cardName slot) s.address baseHdwr baseLen r.config = done
        obtain ⟨result, h'⟩ := done
        cases result with
        | error e => exact .unattached hkind hnew hempty hattach
        | ok d => exact .attached hkind hnew hempty hattach

/-- What comes of a probe that gives a slot: a driver was attached to the card, which had none that was not
detached, and the slot, which was empty, has its attachment. -/
theorem probe_ok {r : Registry} {k slot : Nat} {s : Sim} (hs : b.sims[k]? = some s) (hcalm : Calm s)
    {vendor device baseHdwr baseLen : Nat}
    (hprobe : b.probe r k s.address vendor device baseHdwr baseLen none = (.ok slot, b')) :
    ∃ d h', (b.findCard? r s.address).isSome = false ∧
      Device.attach s.host (Registry.cardName slot) s.address baseHdwr baseLen r.config = (.ok d, h') ∧
      b'.sims = b.sims.setIfInBounds k { s with host := { h' with journal := #[] } } ∧
      b'.attachments = b.attachments.push ⟨d, k, none, slot, 1, 0, false⟩ := by
  have hends := b.probe_ends r hs hcalm vendor device baseHdwr baseLen
  rw [hprobe] at hends
  cases hends with
  | attached _ hnew _ hattach => exact ⟨_, _, hnew, hattach, rfl, rfl⟩

namespace Leads

/-- Probing attaches a driver at most, and puts it into a slot. -/
theorem probe {r : Registry} {k : Nat} {s : Sim} (h : Leads allowed b₀ b owed none) (hr : b.registry = some r)
    (hs : b.sims[k]? = some s) (hfree : b.isLive k = true → (b.findCard? r s.address).isSome = true)
    (vendor device baseHdwr baseLen : Nat) :
    Leads allowed b₀ (b.probe r k s.address vendor device baseHdwr baseLen none).2 owed none := by
  have hends := b.probe_ends r hs (h.ledger.fit.calm _ _ hs) vendor device baseHdwr baseLen
  generalize b.probe r k s.address vendor device baseHdwr baseLen none = probed at hends ⊢
  have hlive (hnew : (b.findCard? r s.address).isSome = false) : b.isLive k = false := by
    cases hlive : b.isLive k with
    | false => rfl
    | true =>
      rw [hfree hlive] at hnew
      contradiction
  have hconfig := h.ledger.config r hr
  cases hends with
  | foreign => exact h
  | known | full => exact h.still rfl rfl rfl rfl rfl
  | unattached _ hnew _ hattach =>
    have hchange : Change allowed b (b.seated k s _) :=
      .unattached hs hconfig (canNameHandler_cardName _) (hlive hnew) hattach rfl rfl
    exact ⟨{ h.ledger with fit := hchange.fit h.ledger.fit }, h.history.tail hchange⟩
  | attached _ hnew hempty hattach =>
    refine h.arrive (.attached hs hconfig (canNameHandler_cardName _) (hlive hnew) hattach rfl rfl) rfl
      ⟨rfl, rfl, rfl⟩ (fun j => ?_) (fun j => rfl) fun r' hr' => ?_
    · rw [refs, refs, hr]
      simp only [Option.elim_some, seated]
      rw [Registry.count_put hempty]
      omega
    · obtain rfl := Option.some.inj hr'
      exact hconfig

/-! ## Handles and sessions -/

/-- Showing a card and keeping a handle of it. -/
theorem showCard (h : Leads allowed b₀ b owed none) {attachment : Option Nat} (keep : Bool)
    (hused : ∀ i, attachment = some i → 0 < b.refs i) :
    Leads allowed b₀ (b.showCard attachment keep).2 owed none := by
  unfold Bench.showCard
  split
  · exact h
  · rename_i i a hfound
    obtain ⟨j, hj, hfound⟩ := Option.bind_eq_some_iff.mp hfound
    obtain ⟨x, hx, hsame⟩ := Option.map_eq_some_iff.mp hfound
    obtain ⟨rfl, rfl⟩ := Prod.mk.inj hsame
    obtain ⟨s, hs⟩ := h.ledger.fit.exists_sim hx
    have howned := h.ledger.owned _ _ hx
    have hpos := hused _ hj
    cases keep with
    | false => exact h
    | true =>
      have hmore : b.addHandle j =
          { b with attachments := b.attachments.setIfInBounds j { x with handles := x.handles + 1 } } := by
        rw [addHandle, changeAttachment, Table.modify_eq _ hx]
      have hrefs (k : Nat) : ({ b with cards := b.cards.push (some j) } : Bench).refs k =
          b.refs k + [j].count k := by
        simp only [refs, Array.toList_push, List.count_append, List.count_singleton]
        simp [Nat.add_assoc]
      have hcount := howned.handles
      have hmine := hrefs j
      rw [List.count_singleton_self] at hmine
      rw [if_pos rfl, hmore]
      refine h.turn ⟨hx, hs, rfl, (Table.setIfInBounds_self hs).symm⟩ (.tended (.refl _) ⟨rfl, rfl, rfl⟩ rfl) rfl
        (fun k hk => ⟨?_, rfl⟩) ⟨?_, howned.sessions, fun hzero => ?_, fun hreleased => ?_⟩ (.inl rfl)
        (.inr ⟨rfl, fun hzero => absurd hzero (Nat.succ_ne_zero _)⟩)
      · have hsame := hrefs k
        rw [List.count_singleton, if_neg (by simpa using Ne.symm hk), Nat.add_zero] at hsame
        exact congrArg (· + owed.count k) hsame
      · change x.handles + 1 = ({ b with cards := b.cards.push (some j) } : Bench).refs j + owed.count j
        omega
      · change ({ b with cards := b.cards.push (some j) } : Bench).refs j + owed.count j = 0 at hzero
        omega
      · have hzero := (howned.unused hreleased).1
        omega

/-- Dropping a handle that the caller holds. -/
theorem dropCard (h : Leads allowed b₀ b owed none) {card i : Nat} (hcard : b.cardOf card = some i) :
    Leads allowed b₀ ({ b with cards := b.cards.setIfInBounds card none }.dropHandle i) owed none := by
  have hemptied : Leads allowed b₀ { b with cards := b.cards.setIfInBounds card none } (i :: owed) none := by
    refine h.aside rfl rfl (fun j => ?_) (fun j => rfl) h.ledger.config
    have hentry : b.cards.toList[card]? = some (some i) := by
      rw [Array.getElem?_toList]
      exact Option.join_eq_some_iff.mp hcard
    have htraded := (perm_cons_set hentry none).count_eq (some j)
    have hcount : (b.cards.toList.set card none).count (some j) + (if i == j then 1 else 0) =
        b.cards.toList.count (some j) := by
      simpa [List.count_cons] using htraded
    simp only [refs, Array.toList_setIfInBounds, List.count_cons]
    omega
  exact hemptied.dropHandle

/-- Opening a card. -/
theorem openSession (h : Leads allowed b₀ b owed none) {i : Nat} {nonblock : Bool}
    {result : Except CardError Nat} (hopen : b.openSession i nonblock = some (result, b')) :
    Leads allowed b₀ b' owed none := by
  cases ha : b.attachments[i]? with
  | none => simp [Bench.openSession, Bench.onCard, ha] at hopen
  | some a =>
    obtain ⟨s, hs, hcard, hdone⟩ :=
      h.ledger.fit.onCard ha (fun c => c.openSession nonblock) fun c _ _ => c.tended_openSession nonblock
    have howned := h.ledger.owned _ _ ha
    rw [Bench.openSession, hdone, Option.bind_eq_bind, Option.bind_some] at hopen
    generalize hwork : Card.openSession ⟨s.host, a.device⟩ nonblock = work at hcard hopen
    obtain ⟨outcome, c⟩ := work
    cases outcome with
    | error e =>
      obtain ⟨-, rfl⟩ := Prod.mk.inj (Option.some.inj hopen)
      exact h.worked ha hs hcard
    | ok _ =>
      obtain ⟨-, rfl⟩ := Prod.mk.inj (Option.some.inj hopen)
      have hattached : a.device.detached ≠ true := by
        intro hdetached
        rw [Card.openSession, if_pos hdetached] at hwork
        simp at hwork
      have hmore : (b.worked i a s c).changeAttachment i (fun a => { a with sessions := a.sessions + 1 }) =
          { b.worked i a s c with
            attachments :=
              b.attachments.setIfInBounds i { a with device := c.device, sessions := a.sessions + 1 } } := by
        rw [changeAttachment, Bench.worked, Table.modify_setIfInBounds _ _ ha]
      have hopenings (j : Nat) :
          ({ b with sessions := b.sessions.push ⟨i, nonblock, true, 0⟩ } : Bench).openings j =
            b.openings j + (i == j).toNat := by
        simp only [openings, Array.toList_push, List.countP_append, List.countP_singleton, Bool.true_and]
        cases i == j <;> rfl
      have hmine := hopenings i
      rw [beq_self_eq_true] at hmine
      have haltered : Altered a { a with device := c.device, sessions := a.sessions + 1 } s
          { s with host := { c.host with journal := #[] } } := .tended { hcard with } ⟨rfl, rfl, rfl⟩ rfl
      dsimp only
      rw [hmore]
      refine h.turn (.of_worked ha hs rfl rfl) haltered rfl (fun j hj => ⟨rfl, ?_⟩)
        ⟨howned.handles, ?_, fun hzero => absurd (howned.detached hzero) hattached,
          fun hreleased => absurd (howned.detached (howned.unused hreleased).1) hattached⟩ (.inl rfl)
        (.inr ⟨rfl, fun _ hzero => absurd hzero (Nat.succ_ne_zero _)⟩)
      · have hsame := hopenings j
        rwa [beq_false_of_ne (Ne.symm hj)] at hsame
      · have hcount := howned.sessions
        change a.sessions + 1 = ({ b with sessions := b.sessions.push ⟨i, nonblock, true, 0⟩ } : Bench).openings i
        rw [hmine, hcount]
        rfl

/-- The answer to opening a card comes with the card opened. -/
theorem openAttachment (h : Leads allowed b₀ b owed none) {i : Nat} {nonblock : Bool} {answer : Outcome × Bench}
    (hopen : b.openAttachment i nonblock = some answer) : Leads allowed b₀ answer.2 owed none := by
  obtain ⟨⟨result, b'⟩, hdone, rfl⟩ := Option.map_eq_some_iff.mp hopen
  exact h.openSession hdone

/-- Closing a session that is open: with the last one of an attachment to which nothing else refers, its
buffers are released. -/
theorem closeSession (h : Leads allowed b₀ b owed none) {id : Nat} {session : Session}
    (hsession : b.sessionOf id = some session) : Leads allowed b₀ (b.closeSession id) owed none := by
  obtain ⟨hfound, hopen⟩ := Option.filter_eq_some_iff.mp hsession
  obtain ⟨i, nonblock, isOpen, notices⟩ := session
  obtain rfl : isOpen = true := hopen
  have hopenings (j : Nat) :
      ({ b with sessions := b.sessions.setIfInBounds id ⟨i, nonblock, false, notices⟩ } : Bench).openings j +
        (i == j).toNat = b.openings j := by
    have htraded := (perm_cons_set ((Array.getElem?_toList).trans hfound) ⟨i, nonblock, false, notices⟩).countP_eq
      (fun s : Session => s.isOpen && s.attachment == j)
    simp only [List.countP_cons, Bool.true_and, Bool.false_and] at htraded
    simp only [openings, Array.toList_setIfInBounds]
    cases hij : i == j <;> simpa [hij] using htraded
  have hmine := hopenings i
  rw [beq_self_eq_true, Bool.toNat_true] at hmine
  cases ha : b.attachments[i]? with
  | none =>
    have hnone := (h.ledger.known i (by simpa using ha)).2
    omega
  | some a =>
    obtain ⟨s, hs, hcard, hdone⟩ :=
      h.ledger.fit.changeCard ha Card.closeSession fun c hunread _ => c.tended_closeSession hunread
    have howned := h.ledger.owned _ _ ha
    have hcount := howned.sessions
    set c := Card.closeSession ⟨s.host, a.device⟩
    have hkept := howned.tended hcard
    have hclosed : b.closeSession id =
        Bench.releaseUnused
          { b.worked i a s c with
            attachments := b.attachments.setIfInBounds i { a with device := c.device, sessions := a.sessions - 1 }
            sessions := b.sessions.setIfInBounds id ⟨i, nonblock, false, notices⟩ } i := by
      rw [Bench.closeSession, hfound]
      dsimp only
      rw [hdone, changeAttachment]
      simp only [Bench.worked, Table.modify_eq _ hfound, Table.modify_setIfInBounds _ _ ha]
    have haltered : Altered a { a with device := c.device, sessions := a.sessions - 1 } s
        { s with host := { c.host with journal := #[] } } := .tended { hcard with } ⟨rfl, rfl, rfl⟩ rfl
    rw [hclosed]
    apply releaseUnused
    refine h.turn (.of_worked ha hs rfl rfl) haltered rfl (fun j hj => ⟨rfl, ?_⟩)
      ⟨howned.handles, ?_, hkept.detached, fun hreleased => ?_⟩ (.inl rfl) (.inl rfl)
    · have hsame := hopenings j
      rwa [beq_false_of_ne (Ne.symm hj), Bool.toNat_false, Nat.add_zero] at hsame
    · change a.sessions - 1 =
        ({ b with sessions := b.sessions.setIfInBounds id ⟨i, nonblock, false, notices⟩ } : Bench).openings i
      omega
    · have hzero := (howned.unused hreleased).2
      omega

/-! ## Every step -/

/-- A step that is refused changes nothing. -/
theorem orRefuse (h : Leads allowed b₀ b owed none) {r : Refusal} {answer : Option (Outcome × Bench)}
    (hanswer : ∀ x, answer = some x → Leads allowed b₀ x.2 owed none) :
    Leads allowed b₀ (b.orRefuse r answer).2 owed none := by
  cases answer with
  | none => exact h
  | some x => exact hanswer x rfl

/-- What is done with the registry keeps the books if it does so with the registry that there is. -/
theorem withRegistry (h : Leads allowed b₀ b owed none) {work : Registry → Outcome × Bench}
    (hwork : ∀ r, b.registry = some r → Leads allowed b₀ (work r).2 owed none) :
    Leads allowed b₀ (b.withRegistry work).2 owed none := by
  unfold Bench.withRegistry
  split
  · rename_i r hr
    exact hwork r hr
  · exact h

/-- A card of the registry is referred to. -/
theorem refs_pos {r : Registry} {i : Nat} (hr : b.registry = some r) (hi : i ∈ r.cards) : 0 < b.refs i := by
  have hpos := List.count_pos_iff.mpr hi
  rw [r.count_cards] at hpos
  rw [refs, hr, Option.elim_some]
  omega

/-- Every step of a lifecycle keeps the books. -/
theorem act (h : Leads allowed b₀ b [] none) {step : Step} (hstep : step.isLifecycle = true)
    (hconfig : ∀ config, step = .registry config → allowed config) : Leads allowed b₀ (b.act step).2 [] none := by
  cases step with
  | addSim address =>
    have hchange : Change allowed b (b.addSim address) := .sim rfl rfl
    exact ⟨{ h.ledger with fit := hchange.fit h.ledger.fit }, h.history.tail hchange⟩
  | registry config =>
    unfold Bench.act
    dsimp only
    split
    · exact h
    · rename_i r hr
      exact h.registry (hconfig config rfl) hr
  | dropRegistry => exact h.dropRegistry
  | probe k vendor device r =>
    refine h.withRegistry fun registry hr => ?_
    split
    · exact h
    · rename_i s hs
      split
      · exact h
      · rename_i hfree
        have hnone : r.apart = none := by simpa [Step.isLifecycle] using hstep
        have hprobe := h.probe hr hs (fun hlive => by simpa [hlive, Option.isSome_iff_ne_none] using hfree)
          vendor device r.baseHdwr r.baseLen
        rw [hnone]
        generalize b.probe registry k s.address vendor device r.baseHdwr r.baseLen none = probed at hprobe
        obtain ⟨result, b'⟩ := probed
        cases result <;> exact hprobe
  | slotCard slot keep =>
    exact h.withRegistry fun r hr =>
      h.showCard keep fun i hi => refs_pos hr (Registry.mem_cards_of_get? hi)
  | findCard address keep =>
    exact h.withRegistry fun r hr =>
      h.showCard keep fun i hi => refs_pos hr (List.mem_of_find?_eq_some hi)
  | openSlot slot nonblock =>
    refine h.withRegistry fun r _ => ?_
    split
    · rename_i answer hanswer
      obtain ⟨i, -, hopen⟩ := Option.bind_eq_some_iff.mp hanswer
      exact h.openAttachment hopen
    · exact h
  | openCard card nonblock =>
    refine h.orRefuse fun answer hanswer => ?_
    obtain ⟨i, -, hopen⟩ := Option.bind_eq_some_iff.mp hanswer
    exact h.openAttachment hopen
  | dropCard card =>
    unfold Bench.act
    dsimp only
    split
    · rename_i i hi
      exact h.dropCard hi
    · exact h
  | cardDetach card =>
    refine h.orRefuse fun answer hanswer => ?_
    obtain ⟨i, -, hwork⟩ := Option.bind_eq_some_iff.mp hanswer
    cases ha : b.attachments[i]? with
    | none => simp [Bench.onCard, ha] at hwork
    | some a =>
      obtain ⟨s, hs, hcard, hdone⟩ :=
        h.ledger.fit.onCard ha (fun c => (Outcome.nothing, c.detach)) fun c _ _ => c.tended_detach
      obtain rfl := Option.some.inj (hdone.symm.trans hwork)
      exact h.worked ha hs hcard
  | detachSlot slot => exact h.withRegistry fun r hr => h.detachSlot hr slot
  | detachAll => exact h.withRegistry fun r hr => h.detachAll hr
  | session id step =>
    cases step with
    | close =>
      unfold Bench.act
      dsimp only
      split
      · rename_i s hs
        exact h.closeSession hs
      · exact h
    | _ => contradiction
  | _ => contradiction

/-- What was noted of the last step is forgotten before the next. -/
theorem cleared (h : Leads allowed b₀ b owed none) :
    Leads allowed b₀ { b with journal := #[], irqJournal := #[] } owed none :=
  h.still rfl rfl rfl rfl rfl

/-- So does playing it, with the interrupts that are handled afterwards. -/
theorem play (h : Leads allowed b₀ b [] none) {step : Step} (hstep : step.isLifecycle = true)
    (hconfig : ∀ config, step = .registry config → allowed config) : Leads allowed b₀ (b.play step).2 [] none := by
  exact (h.cleared.act hstep hconfig).settle.1

/-- A slot whose card was detached from the registry held a card that is detached then. -/
theorem play_detachSlot (h : Leads allowed b₀ b [] none) {r : Registry} (hr : b.registry = some r) {slot i : Nat}
    {a : Attachment} (hslot : r.get? slot = some i) (ha : b.attachments[i]? = some a)
    (hdone : (b.play (.detachSlot slot)).1 = .nothing) :
    ∃ a', (b.play (.detachSlot slot)).2.attachments[i]? = some a' ∧ Becomes a a' ∧ a'.device.detached = true := by
  have hlifecycle : Step.isLifecycle (.detachSlot slot) = true := rfl
  obtain ⟨-, halike⟩ := (h.cleared.act hlifecycle nofun).settle
  unfold Bench.play at hdone ⊢
  set fresh : Bench := { b with journal := #[], irqJournal := #[] }
  have hregistry : fresh.registry = some r := hr
  have hplaced : fresh.attachments[i]? = some a := ha
  dsimp only at hdone ⊢
  rw [halike.attachments]
  unfold Bench.act Bench.withRegistry at hdone ⊢
  rw [hregistry] at hdone ⊢
  dsimp only at hdone ⊢
  have hends := fresh.detachSlot_ends r slot
  generalize fresh.detachSlot r slot = done at hends hdone ⊢
  cases hends with
  | missing => contradiction
  | used => contradiction
  | emptied hslot' =>
    obtain rfl := Option.some.inj (hslot.symm.trans hslot')
    exact (h.cleared.emptied hregistry hslot).detached_remove hplaced

/-- A probe that was answered with a slot has attached a driver to a card that had none. -/
theorem play_probe (h : Leads allowed b₀ b [] none) {r : Registry} (hr : b.registry = some r)
    {k vendor device slot : Nat} {resources : Resources} (hapart : resources.apart = none)
    (hprobe : (b.play (.probe k vendor device resources)).1 = .slot slot) :
    ∃ s d h', b.sims[k]? = some s ∧ b.isLive k = false ∧
      Device.attach s.host (Registry.cardName slot) s.address resources.baseHdwr resources.baseLen r.config =
        (.ok d, h') ∧
      (b.play (.probe k vendor device resources)).2.attachments =
        b.attachments.push ⟨d, k, none, slot, 1, 0, false⟩ ∧
      ∃ s', (b.play (.probe k vendor device resources)).2.sims[k]? = some s' ∧ s'.host.bus = h'.bus ∧
        s'.host.line.closed = s.host.line.closed := by
  have hlifecycle : Step.isLifecycle (.probe k vendor device resources) = true := by
    simpa [Step.isLifecycle] using hapart
  have hsettled := (h.cleared.act hlifecycle nofun).settle
  unfold Bench.play at hprobe ⊢
  set fresh : Bench := { b with journal := #[], irqJournal := #[] }
  generalize hacted : fresh.act (.probe k vendor device resources) = acted at hprobe hsettled ⊢
  obtain ⟨outcome, b'⟩ := acted
  obtain rfl : outcome = .slot slot := hprobe
  obtain ⟨hleads, halike⟩ := hsettled
  have hregistry : fresh.registry = some r := hr
  unfold Bench.act Bench.withRegistry at hacted
  rw [hregistry] at hacted
  dsimp only at hacted
  split at hacted
  · simp [refuse] at hacted
  · rename_i s hs
    split at hacted
    · simp [refuse] at hacted
    · rename_i hguard
      rw [hapart] at hacted
      split at hacted
      · rename_i e _ _
        cases e <;> simp [Outcome.ofSetback] at hacted
      · rename_i hdone
        obtain ⟨hslot, rfl⟩ := Prod.mk.inj hacted
        obtain rfl := (Outcome.slot.inj hslot).symm
        have hcalm := h.ledger.fit.calm _ _ hs
        obtain ⟨d, h', hnone, hattach, hsims, hattachments⟩ := probe_ok hs hcalm hdone
        have hattached := halike.attachments.trans hattachments
        have hlive : b.isLive k = false := by
          cases hlive : b.isLive k with
          | false => rfl
          | true =>
            have hsame : fresh.isLive k = true := hlive
            rw [hsame, Bool.true_and, Option.isNone_iff_eq_none, ← Option.not_isSome_iff_eq_none, hnone] at hguard
            exact absurd Bool.false_ne_true hguard
        obtain ⟨s', hs'⟩ := hleads.ledger.fit.exists_sim
          (hattached ▸ Array.getElem?_push_size : _ = some (⟨d, k, none, slot, 1, 0, false⟩ : Attachment))
        obtain ⟨x, hx, hbus, hclosed⟩ := halike.sims k s' hs'
        rw [hsims, Table.getElem?_setIfInBounds_self _ hs] at hx
        obtain rfl := Option.some.inj hx
        have hpersists := Device.attach_persists s.host (Registry.cardName slot) s.address resources.baseHdwr
          resources.baseLen r.config hcalm.completions
        rw [hattach] at hpersists
        exact ⟨s, d, h', hs, hlive, hattach, hattached, s', hs', hbus, hclosed.trans (by rw [← hpersists.line])⟩

end Leads

/-- So does playing one step after another. -/
theorem Leads.playAll (h : Leads allowed b₀ b [] none) {steps : List Step}
    (hsteps : ∀ step ∈ steps, step.isLifecycle = true)
    (hconfig : ∀ config, .registry config ∈ steps → allowed config) :
    Leads allowed b₀ (b.playAll steps) [] none := by
  induction steps generalizing b with
  | nil => exact h
  | cons step rest ih =>
    have hfirst := h.play (hsteps step List.mem_cons_self) fun config hsame =>
      hconfig config (hsame ▸ List.mem_cons_self)
    exact ih hfirst (fun s hs => hsteps s (List.mem_cons_of_mem _ hs))
      fun config hs => hconfig config (List.mem_cons_of_mem _ hs)

/-- Lifecycles keep the books: every counter is right, and the bench comes from the one before by changes. -/
theorem Ledger.playAll (h : b.Ledger allowed [] none) {steps : List Step}
    (hsteps : ∀ step ∈ steps, step.isLifecycle = true)
    (hconfig : ∀ config, .registry config ∈ steps → allowed config) :
    Leads allowed b (b.playAll steps) [] none :=
  Leads.playAll ⟨h, .refl⟩ hsteps hconfig

end Bench

end LaneCard
