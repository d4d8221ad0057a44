import LaneCard.Proofs.Lifecycle

/-!
# What refers to an attachment

An attachment counts the slots and handles that refer to it, and the sessions that are open on it. These
counters are right in every state that a lifecycle can reach, so that an attachment was released exactly
if nothing refers to it. In the middle of a step a slot or handle may be gone whose attachment still
counts it: such references are owed. `Bench.Ledger` says what holds of a bench with debts, and
`Bench.Leads` that a bench with a ledger comes from an earlier one by changes.
-/

namespace LaneCard

namespace Bench

/-! ## Counting -/

/-- How many slots and handles refer to an attachment. -/
def refs (b : Bench) (i : Nat) : Nat :=
  (b.registry.elim 0 fun r => r.slots.count (some i)) + b.cards.toList.count (some i)

/-- How many sessions are open on an attachment. -/
def openings (b : Bench) (i : Nat) : Nat :=
  b.sessions.toList.countP fun s => s.isOpen && s.attachment == i

/-- Whether a slot, a handle or an open session refers to an attachment. -/
def refersTo (b : Bench) (i : Nat) : Bool :=
  (b.registry.any fun r => r.slots.contains (some i)) || b.cards.toList.contains (some i) ||
    b.sessions.toList.any fun s => s.isOpen && s.attachment == i

/-- Nothing refers to an attachment that is referred to by nothing of each kind. -/
theorem refersTo_eq_false_iff (b : Bench) (i : Nat) :
    b.refersTo i = false ↔ b.refs i = 0 ∧ b.openings i = 0 := by
  simp only [refersTo, refs, openings, Bool.or_eq_false_iff, Nat.add_eq_zero_iff, List.count_eq_zero,
    List.countP_eq_zero]
  refine and_congr (and_congr ?_ ?_) ?_
  · cases b.registry <;> simp [List.count_eq_zero]
  · simp
  · exact List.any_eq_false

/-- An attachment to which so many slots and handles refer, and on which so many sessions are open. -/
structure Owned (a : Attachment) (refs openings : Nat) : Prop where
  handles : a.handles = refs
  sessions : a.sessions = openings
  detached : refs = 0 → a.device.detached = true
  unused : a.released = true → refs = 0 ∧ openings = 0

/-- Work that tends a card leaves the attachment with as many references. -/
theorem Owned.tended {a : Attachment} {n k : Nat} (h : Owned a n k) {host : Host Board}
    {c : Card Board} (hcard : Card.Tended ⟨host, a.device⟩ c) : Owned { a with device := c.device } n k := by
  refine ⟨h.handles, h.sessions, fun hzero => ?_, h.unused⟩
  rcases hcard.ending with ⟨hsame, -⟩ | ⟨-, hnow, -⟩
  · exact hsame.trans (h.detached hzero)
  · exact hnow

/-- The counters of all attachments are right, if the references that are owed are counted too. All that
is not referred to was released, but for the attachment that is due. -/
structure Ledger (allowed : Config → Prop) (b : Bench) (owed : List Nat) (due : Option Nat) : Prop where
  fit : b.Fit
  owned : ∀ (i : Nat) (a : Attachment), b.attachments[i]? = some a →
    Owned a (b.refs i + owed.count i) (b.openings i)
  prompt : ∀ (i : Nat) (a : Attachment), b.attachments[i]? = some a → due ≠ some i → a.handles = 0 →
    a.sessions = 0 → a.released = true
  known : ∀ i, b.attachments.size ≤ i → b.refs i + owed.count i = 0 ∧ b.openings i = 0
  config : ∀ r, b.registry = some r → allowed r.config

/-- An empty bench owes nothing. -/
theorem ledger_empty (allowed : Config → Prop) : Ledger allowed empty [] none where
  fit := fit_empty
  owned i a ha := by simp [empty] at ha
  prompt i a ha := by simp [empty] at ha
  known i _ := ⟨rfl, rfl⟩
  config r hr := by simp [empty] at hr

/-- If nothing is owed and nothing is due, an attachment was released exactly if nothing refers to it. -/
theorem Ledger.released_iff {allowed : Config → Prop} {b : Bench} (h : b.Ledger allowed [] none) {i : Nat}
    {a : Attachment} (ha : b.attachments[i]? = some a) : a.released = true ↔ b.refersTo i = false := by
  have howned := h.owned i a ha
  rw [List.count_nil, Nat.add_zero] at howned
  rw [refersTo_eq_false_iff]
  refine ⟨howned.unused, fun ⟨hrefs, hopenings⟩ => ?_⟩
  exact h.prompt i a ha (Option.some_ne_none i).symm (howned.handles.trans hrefs) (howned.sessions.trans hopenings)

/-- A bench with a ledger that comes from an earlier one by changes. -/
structure Leads (allowed : Config → Prop) (b₀ b : Bench) (owed : List Nat) (due : Option Nat) : Prop where
  ledger : b.Ledger allowed owed due
  history : History allowed b₀ b

variable {allowed : Config → Prop} {b₀ b b' : Bench} {owed owed' : List Nat} {due due' : Option Nat}

/-- An attachment that exists has a number that is known. -/
theorem lt_size_of_getElem? {i : Nat} {a : Attachment} (ha : b.attachments[i]? = some a) :
    i < b.attachments.size :=
  (Array.getElem?_eq_some_iff.mp ha).1

/-- Benches with the same attachments, whose cards differ at most in what is pending on their lines and in what
was noted of them. -/
structure Alike (b b' : Bench) : Prop where
  attachments : b'.attachments = b.attachments
  sims : ∀ (k : Nat) (s' : Sim), b'.sims[k]? = some s' →
    ∃ s, b.sims[k]? = some s ∧ s'.host.bus = s.host.bus ∧ s'.host.line.closed = s.host.line.closed

/-- A bench is like itself. -/
theorem Alike.refl (b : Bench) : Alike b b := ⟨rfl, fun _ s hs => ⟨s, hs, rfl, rfl⟩⟩

/-- Benches like the same one are alike. -/
theorem Alike.trans {b'' : Bench} (h : Alike b b') (h' : Alike b' b'') : Alike b b'' := by
  refine ⟨h'.attachments.trans h.attachments, fun k s'' hs'' => ?_⟩
  obtain ⟨s', hs', hbus', hclosed'⟩ := h'.sims k s'' hs''
  obtain ⟨s, hs, hbus, hclosed⟩ := h.sims k s' hs'
  exact ⟨s, hs, hbus'.trans hbus, hclosed'.trans hclosed⟩

namespace Leads

/-- References may move, as long as each attachment has as many as before. -/
theorem aside (h : Leads allowed b₀ b owed due) (hsims : b'.sims = b.sims)
    (hattachments : b'.attachments = b.attachments)
    (hrefs : ∀ j, b'.refs j + owed'.count j = b.refs j + owed.count j)
    (hopenings : ∀ j, b'.openings j = b.openings j) (hconfig : ∀ r, b'.registry = some r → allowed r.config) :
    Leads allowed b₀ b' owed' due := by
  have hchange : Change allowed b b' := .aside hsims hattachments
  refine ⟨⟨hchange.fit h.ledger.fit, fun i a ha => ?_, fun i a ha => ?_, fun i hi => ?_, hconfig⟩,
    h.history.tail hchange⟩
  · rw [hattachments] at ha
    rw [hrefs, hopenings]
    exact h.ledger.owned i a ha
  · rw [hattachments] at ha
    exact h.ledger.prompt i a ha
  · rw [hattachments] at hi
    rw [hrefs, hopenings]
    exact h.ledger.known i hi

/-- A change of anything but references, attachments and cards. -/
theorem still (h : Leads allowed b₀ b owed due) (hsims : b'.sims = b.sims)
    (hattachments : b'.attachments = b.attachments) (hregistry : b'.registry = b.registry)
    (hcards : b'.cards = b.cards) (hsessions : b'.sessions = b.sessions) : Leads allowed b₀ b' owed due := by
  refine h.aside hsims hattachments (fun j => ?_) (fun j => ?_) fun r hr => ?_
  · rw [refs, refs, hregistry, hcards]
  · rw [openings, openings, hsessions]
  · exact h.ledger.config r (hregistry ▸ hr)

/-- A line in the journal changes nothing else. -/
theorem noteModule (h : Leads allowed b₀ b owed due) (level : Level) (text : String) :
    Leads allowed b₀ (b.noteModule level text) owed due := h.still rfl rfl rfl rfl rfl

/-- One attachment may change together with its references. -/
theorem turn (h : Leads allowed b₀ b owed due) {i : Nat} {a a' : Attachment} {s s' : Sim}
    (hturn : b.Turn b' i a a' s s') (haltered : Altered a a' s s') (hregistry : b'.registry = b.registry)
    (hothers : ∀ j ≠ i, b'.refs j + owed'.count j = b.refs j + owed.count j ∧ b'.openings j = b.openings j)
    (howned : Owned a' (b'.refs i + owed'.count i) (b'.openings i)) (hdue : due = none ∨ due = some i)
    (hprompt : due' = some i ∨ (due' = none ∧ (a'.handles = 0 → a'.sessions = 0 → a'.released = true))) :
    Leads allowed b₀ b' owed' due' := by
  have hchange : Change allowed b b' := .turn hturn haltered
  have hi := lt_size_of_getElem? hturn.attachment
  refine ⟨⟨hchange.fit h.ledger.fit, ?_, ?_, fun j hj => ?_, ?_⟩, h.history.tail hchange⟩
  · intro j x hx
    rw [hturn.attachments, Array.getElem?_setIfInBounds] at hx
    by_cases hji : i = j
    · subst hji
      rw [if_pos rfl, if_pos hi] at hx
      obtain rfl := Option.some.inj hx
      exact howned
    · rw [if_neg hji] at hx
      obtain ⟨hrefs, hopenings⟩ := hothers j (Ne.symm hji)
      rw [hrefs, hopenings]
      exact h.ledger.owned j x hx
  · intro j x hx hlate
    rw [hturn.attachments, Array.getElem?_setIfInBounds] at hx
    by_cases hji : i = j
    · subst hji
      rw [if_pos rfl, if_pos hi] at hx
      obtain rfl := Option.some.inj hx
      rcases hprompt with hsome | ⟨-, hdone⟩
      · exact absurd hsome hlate
      · exact hdone
    · rw [if_neg hji] at hx
      refine h.ledger.prompt j x hx ?_
      rcases hdue with hnone | hsome
      · rw [hnone]
        exact (Option.some_ne_none j).symm
      · rw [hsome]
        exact fun hsame => hji (Option.some.inj hsame)
  · rw [hturn.attachments, Array.size_setIfInBounds] at hj
    obtain ⟨hrefs, hopenings⟩ := hothers j (by omega)
    rw [hrefs, hopenings]
    exact h.ledger.known j hj
  · rw [hregistry]
    exact h.ledger.config

/-! ## Work on one card -/

/-- Work that tends a card changes no reference. -/
theorem worked (h : Leads allowed b₀ b owed none) {i : Nat} {a : Attachment} {s : Sim} {c : Card Board}
    (ha : b.attachments[i]? = some a) (hs : b.sims[a.sim]? = some s)
    (hcard : Card.Tended ⟨s.host, a.device⟩ c) : Leads allowed b₀ (b.worked i a s c) owed none :=
  h.turn (.of_worked ha hs rfl rfl) (.tended { hcard with } ⟨rfl, rfl, rfl⟩ rfl) rfl (fun _ _ => ⟨rfl, rfl⟩)
    ((h.ledger.owned i a ha).tended hcard) (.inl rfl)
    (.inr ⟨rfl, h.ledger.prompt i a ha (Option.some_ne_none i).symm⟩)

/-- Tending a card changes no reference. -/
theorem changeCard (h : Leads allowed b₀ b owed none) (i : Nat) (work : Card Board → Card Board)
    (htended : ∀ c : Card Board, c.device.rxReady.toList = [] → c.host.bus.hasCompletions = false →
      c.Tended (work c)) :
    Leads allowed b₀ (b.changeCard i work) owed none := by
  cases ha : b.attachments[i]? with
  | none => rwa [changeCard_of_none ha]
  | some a =>
    obtain ⟨s, hs, hcard, hdone⟩ := h.ledger.fit.changeCard ha work htended
    rw [hdone]
    exact h.worked ha hs hcard

/-- An attachment that handles its interrupts changes no reference, and no card but for what is pending on its
line. -/
theorem settleOne (h : Leads allowed b₀ b owed none) (i : Nat) :
    Leads allowed b₀ (b.settleOne i) owed none ∧ Alike b (b.settleOne i) := by
  have hclear : Leads allowed b₀ { b with journal := #[] } owed none := h.still rfl rfl rfl rfl rfl
  refine ⟨(hclear.changeCard i Card.settle fun c _ hidle => c.tended_settle hidle).still rfl rfl rfl rfl rfl, ?_⟩
  cases ha : b.attachments[i]? with
  | none =>
    have hnone : ({ b with journal := #[] } : Bench).attachments[i]? = none := ha
    rw [Bench.settleOne, changeCard_of_none hnone]
    exact ⟨rfl, fun _ s hs => ⟨s, hs, rfl, rfl⟩⟩
  | some a =>
    obtain ⟨s, hs, hcard, hdone⟩ :=
      hclear.ledger.fit.changeCard ha Card.settle fun c _ hidle => c.tended_settle hidle
    have hidle := (h.ledger.fit.calm _ _ hs).completions
    obtain ⟨line, hsettled, hclosed⟩ := Card.settleFor_of_idle
      (s.host.bus.txReturns.length + s.host.bus.rxReturns.length + 1) ⟨s.host, a.device⟩ hidle
    rw [Bench.settleOne, hdone]
    refine ⟨?_, Table.forall_setIfInBounds (fun k x hx => ⟨x, hx, rfl, rfl⟩) ⟨s, hs, ?_, ?_⟩⟩
    · change b.attachments.setIfInBounds i { a with device := (Card.settle ⟨s.host, a.device⟩).device } = _
      rw [Card.settle, hsettled]
      exact Table.setIfInBounds_self ha
    · rw [Card.settle, hsettled]
    · rw [Card.settle, hsettled]
      exact hclosed

/-- Neither do all attachments together. -/
theorem settle (h : Leads allowed b₀ b owed none) : Leads allowed b₀ b.settle owed none ∧ Alike b b.settle := by
  refine List.foldlRecOn _ _ (motive := fun b' => Leads allowed b₀ b' owed none ∧ Alike b b') ⟨h, .refl b⟩ ?_
  intro b' hbefore i _
  split
  · split
    · obtain ⟨hleads, halike⟩ := hbefore.1.settleOne i
      exact ⟨hleads, hbefore.2.trans halike⟩
    · exact hbefore
  · exact hbefore

/-! ## Dropping what refers to an attachment -/

/-- Buffers that are due are released, if nothing refers to them. -/
theorem releaseUnused {i : Nat} (h : Leads allowed b₀ b owed (some i)) :
    Leads allowed b₀ (b.releaseUnused i) owed none := by
  cases ha : b.attachments[i]? with
  | none =>
    have hsame : b.releaseUnused i = b := by rw [Bench.releaseUnused, ha]
    rw [hsame]
    refine ⟨{ h.ledger with prompt := fun j x hx _ => h.ledger.prompt j x hx fun hsame => ?_ }, h.history⟩
    rw [← Option.some.inj hsame, ha] at hx
    contradiction
  | some a =>
    have howned := h.ledger.owned i a ha
    by_cases hunused : a.handles = 0 ∧ a.sessions = 0 ∧ (!a.released) = true
    · obtain ⟨s, hs⟩ := h.ledger.fit.exists_sim ha
      have hcalm := h.ledger.fit.calm _ _ hs
      have hunvisited := h.ledger.fit.unvisited _ _ ha
      have hquitted := Card.quitted_release ⟨s.host, a.device⟩ hcalm.shared
      have hwork := onCard_eq ha hs hunvisited hcalm (fun c => ((), { c with host := c.release })) hquitted.apart
        hunvisited.unnoticed
      obtain ⟨hhandles, hsessions, hheld⟩ := hunused
      have hdone : b.releaseUnused i =
          { b.worked i a s ⟨Card.release ⟨s.host, a.device⟩, a.device⟩ with
            attachments := b.attachments.setIfInBounds i { a with released := true } } := by
        rw [Bench.releaseUnused, ha]
        dsimp only
        rw [if_pos ⟨hhandles, hsessions, hheld⟩, Bench.changeCard, hwork]
        dsimp only
        rw [changeAttachment, Bench.worked, Table.modify_setIfInBounds _ _ ha]
      have hrefs := howned.handles.symm.trans hhandles
      rw [hdone]
      refine h.turn (.of_worked ha hs rfl rfl)
        (.released (by simpa using hheld) (howned.detached hrefs) { hquitted with } rfl rfl) rfl
        (fun j _ => ⟨rfl, rfl⟩) ?_ (.inr rfl) (.inr ⟨rfl, fun _ _ => rfl⟩)
      exact ⟨howned.handles, howned.sessions, howned.detached,
        fun _ => ⟨hrefs, howned.sessions.symm.trans hsessions⟩⟩
    · have hdone : b.releaseUnused i = b := by
        rw [Bench.releaseUnused, ha]
        dsimp only
        rw [if_neg hunused]
      rw [hdone]
      refine ⟨{ h.ledger with prompt := fun j x hx _ hhandles hsessions => ?_ }, h.history⟩
      by_cases hji : j = i
      · subst hji
        obtain rfl := Option.some.inj (ha.symm.trans hx)
        by_contra hheld
        exact hunused ⟨hhandles, hsessions, by simpa using hheld⟩
      · exact h.ledger.prompt j x hx (fun hsame => hji (Option.some.inj hsame).symm) hhandles hsessions

/-- Dropping a slot or handle that is owed: with the last one the attachment is detached, and released if
no session is open. -/
theorem dropHandle {i : Nat} (h : Leads allowed b₀ b (i :: owed) none) :
    Leads allowed b₀ (b.dropHandle i) owed none := by
  cases ha : b.attachments[i]? with
  | none =>
    have hnone := (h.ledger.known i (by simpa using ha)).1
    rw [List.count_cons_self] at hnone
    omega
  | some a =>
    obtain ⟨s, hs⟩ := h.ledger.fit.exists_sim ha
    have howned := h.ledger.owned i a ha
    have hother (j : Nat) (hj : j ≠ i) : (i :: owed).count j = owed.count j := List.count_cons_of_ne (Ne.symm hj)
    have hone : (i :: owed).count i = owed.count i + 1 := List.count_cons_self
    rw [hone] at howned
    have hmodified : (b.changeAttachment i fun a => { a with handles := a.handles - 1 }) =
        { b with attachments := b.attachments.setIfInBounds i { a with handles := a.handles - 1 } } := by
      rw [changeAttachment, Table.modify_eq _ ha]
    have hcount := howned.handles
    have hfewer : b.Turn
        { b with attachments := b.attachments.setIfInBounds i { a with handles := a.handles - 1 } } i a
        { a with handles := a.handles - 1 } s s := ⟨ha, hs, rfl, (Table.setIfInBounds_self hs).symm⟩
    have hput : (b.attachments.setIfInBounds i { a with handles := a.handles - 1 })[i]? =
        some { a with handles := a.handles - 1 } := Table.getElem?_setIfInBounds_self _ ha
    have hothers (j : Nat) (hj : j ≠ i) : b.refs j + owed.count j = b.refs j + (i :: owed).count j := by
      rw [hother j hj]
    rw [Bench.dropHandle, hmodified]
    dsimp only
    rw [hput]
    dsimp only
    have hunused : a.released ≠ true := fun hreleased => by
      have hzero := (howned.unused hreleased).1
      omega
    by_cases hlast : a.handles - 1 = 0
    · rw [if_pos hlast]
      have hchange : Change allowed b _ := .turn hfewer (.tended (.refl _) ⟨rfl, rfl, rfl⟩ rfl)
      obtain ⟨s', hs', hcard, hdone⟩ :=
        (hchange.fit h.ledger.fit).changeCard hput Card.detach fun c _ _ => c.tended_detach
      obtain rfl := Option.some.inj (hs.symm.trans hs')
      have hdetached := Card.detached_detach ⟨s.host, a.device⟩
      rw [hdone]
      set c : Card Board := Card.detach ⟨s.host, a.device⟩
      have haltered : Altered a { a with handles := a.handles - 1, device := c.device } s
          { s with host := { c.host with journal := #[] } } := .tended { hcard with } ⟨rfl, rfl, rfl⟩ rfl
      apply releaseUnused
      refine h.turn (.of_worked ha hs (Array.setIfInBounds_setIfInBounds _) rfl) haltered rfl
        (fun j hj => ⟨hothers j hj, rfl⟩) ?_ (.inl rfl) (.inl rfl)
      refine ⟨?_, howned.sessions, fun _ => hdetached, fun hreleased => absurd hreleased hunused⟩
      change a.handles - 1 = b.refs i + owed.count i
      omega
    · rw [if_neg hlast]
      refine h.turn hfewer (.tended (.refl _) ⟨rfl, rfl, rfl⟩ rfl) rfl (fun j hj => ⟨hothers j hj, rfl⟩)
        ⟨?_, howned.sessions, fun hzero => ?_, fun hreleased => absurd hreleased hunused⟩ (.inl rfl)
        (.inr ⟨rfl, fun hzero => absurd hzero hlast⟩)
      · change a.handles - 1 = b.refs i + owed.count i
        omega
      · change b.refs i + owed.count i = 0 at hzero
        omega

end Leads

end Bench

end LaneCard
