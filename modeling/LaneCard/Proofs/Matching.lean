import LaneCard.Proofs.References
import LaneCard.Proofs.Signal

/-!
# Benches that match

Two runs are compared, in one of which some cancellation handles are used and in the other not.
`Bench.Matches` says in what their benches may differ meanwhile: in the cancellation signal of the one
attachment on which the handles act, and only as long as no session of it is open. This module has what is
done with attachments, hosts and the registry: it gives the same on benches that match, and they match
afterwards. A session that is opened drops the signal, and with it the difference.
-/

namespace LaneCard

/-- An attachment with the cancellation signal of its card as given. -/
def Attachment.signalled (a : Attachment) (raised : Bool) : Attachment :=
  { a with device := a.device.signalled raised }

namespace Bench

variable {α : Type} {b b' : Bench} {i j : Nat} {raised : Bool}

/-- A bench with the cancellation signal of one attachment as given. -/
def signalled (b : Bench) (i : Nat) (raised : Bool) : Bench :=
  b.changeAttachment i fun a => a.signalled raised

/-! ## Work on a card -/

/-- A bench after an attached card was worked on. -/
def putCard (b : Bench) (j : Nat) (a : Attachment) (c : Card Board) : Bench :=
  { b.putHost a.sim a.apart c.host with
    attachments := b.attachments.setIfInBounds j { a with device := { c.device with notices := [] } }
    sessions := deliverNotices b.sessions c.device.notices }

/-- Work on a card needs the attachment and its simulated card. -/
theorem onCard_eq_bind (b : Bench) (j : Nat) (work : Card Board → α × Card Board) :
    b.onCard j work = (b.attachments[j]?).bind fun a => (b.sims[a.sim]?).map fun s =>
      ((work ⟨b.hostFor s a.apart, a.device⟩).1, b.putCard j a (work ⟨b.hostFor s a.apart, a.device⟩).2) := by
  unfold onCard
  cases b.attachments[j]? with
  | none => rfl
  | some a =>
    cases h : b.sims[a.sim]? with
    | none => simp [h]
    | some s => simp [h, putCard]

/-- Its signal is all that is given of an attachment. -/
theorem getElem?_signalled_self (b : Bench) (i : Nat) (raised : Bool) :
    (b.signalled i raised).attachments[i]? = (b.attachments[i]?).map fun a => a.signalled raised := by
  change (b.attachments.modify i _)[i]? = _
  rw [Array.getElem?_modify, if_pos rfl]

/-- Other attachments are left alone. -/
theorem getElem?_signalled_of_ne (b : Bench) (hj : j ≠ i) (raised : Bool) :
    (b.signalled i raised).attachments[j]? = b.attachments[j]? := by
  change (b.attachments.modify i _)[j]? = _
  rw [Array.getElem?_modify, if_neg (Ne.symm hj)]

/-- A card with a signal is put back. -/
theorem putCard_signalled {a : Attachment} (ha : b.attachments[j]? = some a) (c : Card Board) :
    b.putCard j a (c.signalled raised) = (b.putCard j a c).signalled j raised := by
  simp only [signalled, changeAttachment, putCard, Table.modify_setIfInBounds _ _ ha]
  rfl

/-- The signal from before is gone when a card is put back. -/
theorem signalled_putCard_self (a : Attachment) (c : Card Board) :
    (b.signalled i raised).putCard i (a.signalled raised) c = b.putCard i a c := by
  simp only [signalled, changeAttachment, putCard, Table.setIfInBounds_modify]
  rfl

/-- The signal of another card stays. -/
theorem signalled_putCard_of_ne (hj : j ≠ i) (a : Attachment) (c : Card Board) :
    (b.signalled i raised).putCard j a c = (b.putCard j a c).signalled i raised := by
  simp only [signalled, changeAttachment, putCard, Table.setIfInBounds_modify_of_ne hj]
  rfl

/-- Work on a card whose signal was given. -/
theorem onCard_signalled_self (b : Bench) (i : Nat) (raised : Bool) (work : Card Board → α × Card Board) :
    (b.signalled i raised).onCard i work = b.onCard i fun c => work (c.signalled raised) := by
  rw [onCard_eq_bind, onCard_eq_bind, getElem?_signalled_self]
  cases b.attachments[i]? with
  | none => rfl
  | some a =>
    simp only [Option.map_some, Option.bind_some, signalled_putCard_self]
    rfl

/-- Work on another card. -/
theorem onCard_signalled_of_ne (b : Bench) (hj : j ≠ i) (raised : Bool) (work : Card Board → α × Card Board) :
    (b.signalled i raised).onCard j work =
      (b.onCard j work).map fun done => (done.1, done.2.signalled i raised) := by
  rw [onCard_eq_bind, onCard_eq_bind, getElem?_signalled_of_ne b hj]
  cases b.attachments[j]? with
  | none => rfl
  | some a =>
    simp only [Option.bind_some, signalled_putCard_of_ne hj, Option.map_map]
    rfl

/-- Work that has given something has put a card back. -/
theorem onCard_cases {work : Card Board → α × Card Board} {done : α × Bench}
    (hdone : b.onCard j work = some done) : ∃ a c, b.attachments[j]? = some a ∧ done.2 = b.putCard j a c := by
  rw [onCard_eq_bind] at hdone
  obtain ⟨a, ha, hdone⟩ := Option.bind_eq_some_iff.mp hdone
  obtain ⟨s, -, rfl⟩ := Option.map_eq_some_iff.mp hdone
  exact ⟨a, _, ha, rfl⟩

/-- Work that does not look at the signal, or is done on another card, leaves it to be raised or not. -/
theorem onCard_signalled (b : Bench) (i j : Nat) (raised : Bool) {work : Card Board → α × Card Board}
    (hwork : j = i → Card.Blind work) :
    ∃ after, (b.signalled i raised).onCard j work =
      (b.onCard j work).map fun done => (done.1, done.2.signalled i after) := by
  by_cases hj : j = i
  · subst hj
    rw [onCard_signalled_self, onCard_eq_bind, onCard_eq_bind]
    cases ha : b.attachments[j]? with
    | none => exact ⟨raised, rfl⟩
    | some a =>
      simp only [Option.bind_some]
      cases b.sims[a.sim]? with
      | none => exact ⟨raised, rfl⟩
      | some s =>
        obtain ⟨after, hafter⟩ := hwork rfl ⟨b.hostFor s a.apart, a.device⟩ raised
        refine ⟨after, ?_⟩
        simp only [Option.map_some, hafter, putCard_signalled ha]
  · exact ⟨raised, onCard_signalled_of_ne b hj raised work⟩

/-! ## Benches that match -/

/-- No host has kept a line of its journal or a separate allocator, and all notices were delivered. -/
structure Tidy (b : Bench) : Prop where
  hosts : ∀ (k : Nat) (s : Sim), b.sims[k]? = some s → s.host.apart = none ∧ s.host.journal = #[]
  notices : ∀ (j : Nat) (a : Attachment), b.attachments[j]? = some a → a.device.notices = []

/-- No session of an attachment is open. -/
def IsIdle (b : Bench) (i : Nat) : Prop :=
  ∀ (id : Nat) (s : Session), b.sessions[id]? = some s → s.attachment = i → s.isOpen = false

/-- Two tidy benches on which the stale cancellation handles act on one attachment. They are the same, but
for the signal of that attachment as long as none of its sessions is open. -/
structure Matches (stale : Nat → Bool) (i : Nat) (b b' : Bench) : Prop where
  tidy : b.Tidy
  handles : ∀ k, stale k = true → b.interrupters[k]? = some i
  same : b' = b ∨ (i < b.attachments.size ∧ b.IsIdle i ∧ ∃ raised, b' = b.signalled i raised)

/-- Two steps were answered alike, and leave benches that match. -/
def Both {α : Type} (stale : Nat → Bool) (i : Nat) (done done' : α × Bench) : Prop :=
  done'.1 = done.1 ∧ Matches stale i done.2 done'.2

variable {stale : Nat → Bool}

/-- Let one attachment handle its interrupts, if it has any. -/
def settleWanted (b : Bench) (j : Nat) : Bench :=
  match b.attachments[j]? with
  | some a => if b.wantsSettling a then b.settleOne j else b
  | none => b

/-- All attachments handle their interrupts one after the other, if they have any. -/
theorem settle_eq (b : Bench) : b.settle = (List.range b.attachments.size).foldl settleWanted b := rfl

/-- Two steps that may be refused are both refused, or both answered. -/
theorem both_cases {x x' : Option (α × Bench)} (h : Option.Rel (Both stale i) x x') :
    (x = none ∧ x' = none) ∨
      ∃ result b₁ b₁', x = some (result, b₁) ∧ x' = some (result, b₁') ∧ Matches stale i b₁ b₁' := by
  cases h with
  | none => exact .inl ⟨rfl, rfl⟩
  | @some done done' hdone =>
    obtain ⟨result, b₁⟩ := done
    obtain ⟨result', b₁'⟩ := done'
    obtain ⟨rfl, hmatch⟩ : result' = result ∧ Matches stale i b₁ b₁' := hdone
    exact .inr ⟨_, b₁, b₁', rfl, rfl, hmatch⟩

/-- A step in two parts is answered alike if its first part is and what follows on benches that match is. -/
theorem both_bind {γ : Type} {x x' : Option (α × Bench)} (h : Option.Rel (Both stale i) x x')
    {next next' : α × Bench → Option (γ × Bench)}
    (hnext : ∀ result b₁ b₁', x = some (result, b₁) → x' = some (result, b₁') → Matches stale i b₁ b₁' →
      Option.Rel (Both stale i) (next (result, b₁)) (next' (result, b₁'))) :
    Option.Rel (Both stale i) (x.bind next) (x'.bind next') := by
  rcases both_cases h with ⟨hx, hx'⟩ | ⟨result, b₁, b₁', hx, hx', hmatch⟩
  · rw [hx, hx']
    exact .none
  · have hdone := hnext result b₁ b₁' hx hx' hmatch
    rw [hx, hx']
    exact hdone

namespace Matches

variable (h : Matches stale i b b')
include h

/-- They differ in attachments at most. -/
theorem rest : { b' with attachments := b.attachments } = b := by
  rcases h.same with rfl | ⟨-, -, _, rfl⟩ <;> rfl

/-- The simulated cards are the same. -/
theorem sims : b'.sims = b.sims := congrArg (fun b => b.sims) h.rest

/-- The separate allocators are the same. -/
theorem allocators : b'.allocators = b.allocators := congrArg (fun b => b.allocators) h.rest

/-- The references to cards are the same. -/
theorem cards : b'.cards = b.cards := congrArg (fun b => b.cards) h.rest

/-- The sessions are the same. -/
theorem sessions : b'.sessions = b.sessions := congrArg (fun b => b.sessions) h.rest

/-- The windows on registers are the same. -/
theorem windows : b'.windows = b.windows := congrArg (fun b => b.windows) h.rest

/-- The cancellation handles are the same. -/
theorem interrupters : b'.interrupters = b.interrupters := congrArg (fun b => b.interrupters) h.rest

/-- The registry is the same. -/
theorem registry : b'.registry = b.registry := congrArg (fun b => b.registry) h.rest

/-- The memory of the caller is the same. -/
theorem memory : b'.memory = b.memory := congrArg (fun b => b.memory) h.rest

/-- The journal is the same. -/
theorem journal : b'.journal = b.journal := congrArg (fun b => b.journal) h.rest

/-- A reference leads to the same attachment. -/
theorem cardOf (card : Nat) : b'.cardOf card = b.cardOf card := by
  unfold Bench.cardOf
  rw [h.cards]

/-- There are as many attachments. -/
theorem size : b'.attachments.size = b.attachments.size := by
  rcases h.same with rfl | ⟨-, -, _, rfl⟩
  · rfl
  · exact Array.size_modify

/-- An attachment is the same but for its signal. -/
theorem attachment (j : Nat) :
    (b.attachments[j]? = none ∧ b'.attachments[j]? = none) ∨
      ∃ a raised, b.attachments[j]? = some a ∧ b'.attachments[j]? = some (a.signalled raised) := by
  have hentry : ∃ raised, b'.attachments[j]? = b.attachments[j]? ∨
      b'.attachments[j]? = (b.attachments[j]?).map fun a => a.signalled raised := by
    rcases h.same with rfl | ⟨-, -, raised, rfl⟩
    · exact ⟨false, .inl rfl⟩
    · by_cases hj : j = i
      · exact ⟨raised, .inr (hj ▸ getElem?_signalled_self b j raised)⟩
      · exact ⟨raised, .inl (getElem?_signalled_of_ne b hj raised)⟩
  obtain ⟨raised, hentry⟩ := hentry
  cases ha : b.attachments[j]? with
  | none =>
    rw [ha] at hentry
    exact .inl ⟨rfl, hentry.elim id id⟩
  | some a =>
    rw [ha] at hentry
    rcases hentry with hsame | hsignal
    · exact .inr ⟨a, a.device.signal, rfl, hsame⟩
    · exact .inr ⟨a, raised, rfl, hsignal⟩

/-- What does not show the signal of an attachment is the same. -/
theorem look {γ : Type} (j : Nat) (p : Attachment → γ) (hp : ∀ a raised, p (a.signalled raised) = p a) :
    (b'.attachments[j]?).map p = (b.attachments[j]?).map p := by
  rcases h.attachment j with ⟨ha, ha'⟩ | ⟨a, raised, ha, ha'⟩
  · rw [ha, ha']
  · rw [ha, ha', Option.map_some, Option.map_some, hp]

/-- A change that keeps a bench tidy and has nothing to do with the signal of an attachment without a session
is made on both benches. -/
theorem alter (f : Bench → Bench) (htidy : (f b).Tidy)
    (hhandles : ∀ k : Nat, b.interrupters[k]? = some i → (f b).interrupters[k]? = some i)
    (hsame : i < b.attachments.size → b.IsIdle i → i < (f b).attachments.size ∧ (f b).IsIdle i ∧
      ∀ raised, f (b.signalled i raised) = (f b).signalled i raised) : Matches stale i (f b) (f b') where
  tidy := htidy
  handles k hk := hhandles k (h.handles k hk)
  same := by
    rcases h.same with rfl | ⟨hi, hidle, raised, rfl⟩
    · exact .inl rfl
    · obtain ⟨hi', hidle', hcomm⟩ := hsame hi hidle
      exact .inr ⟨hi', hidle', raised, hcomm raised⟩

/-- Something that no attachment, host, session or cancellation handle has to do with is changed. -/
theorem aside (f : Bench → Bench) (hcomm : ∀ raised, f (b.signalled i raised) = (f b).signalled i raised)
    (hsims : (f b).sims = b.sims) (hattachments : (f b).attachments = b.attachments)
    (hsessions : (f b).sessions = b.sessions) (hinterrupters : (f b).interrupters = b.interrupters) :
    Matches stale i (f b) (f b') := by
  refine h.alter f ⟨hsims ▸ h.tidy.hosts, hattachments ▸ h.tidy.notices⟩ (fun _ hk => hinterrupters ▸ hk)
    fun hi hidle => ⟨hattachments ▸ hi, ?_, hcomm⟩
  rw [IsIdle, hsessions]
  exact hidle

end Matches

/-- Work on a card leaves a bench tidy. -/
theorem Tidy.putCard (h : b.Tidy) (j : Nat) (a : Attachment) (c : Card Board) : (b.putCard j a c).Tidy where
  hosts := Table.forall_modify h.hosts fun _ _ _ => ⟨rfl, rfl⟩
  notices := Table.forall_setIfInBounds h.notices rfl

/-- Work on a card opens no session. -/
theorem IsIdle.putCard (h : b.IsIdle i) (j : Nat) (a : Attachment) (c : Card Board) :
    (b.putCard j a c).IsIdle i := by
  have hnotices (notices : List Nat) (sessions : Array Session)
      (h : ∀ (id : Nat) (s : Session), sessions[id]? = some s → s.attachment = i → s.isOpen = false) :
      ∀ (id : Nat) (s : Session), (deliverNotices sessions notices)[id]? = some s → s.attachment = i →
        s.isOpen = false := by
    induction notices generalizing sessions with
    | nil => exact h
    | cons k rest ih => exact ih _ (Table.forall_modify h fun _ _ hs => hs)
  exact hnotices c.device.notices b.sessions h

/-- A card that could be opened with another signal is opened just so. -/
theorem onCard_openSession_of_signalled {nonblock : Bool} {b₁ : Bench}
    (hopened : (b.signalled i raised).onCard i (fun c => c.openSession nonblock) = some (.ok (), b₁)) :
    b.onCard i (fun c => c.openSession nonblock) = some (.ok (), b₁) := by
  rw [onCard_signalled_self, onCard_eq_bind] at hopened
  rw [onCard_eq_bind]
  obtain ⟨a, ha, hopened⟩ := Option.bind_eq_some_iff.mp hopened
  obtain ⟨s, hs, hopened⟩ := Option.map_eq_some_iff.mp hopened
  have hcard := Card.openSession_signalled ⟨b.hostFor s a.apart, a.device⟩ raised nonblock
  cases hresult : (Card.openSession ⟨b.hostFor s a.apart, a.device⟩ nonblock).1 with
  | error e =>
    rw [hresult] at hcard
    rw [hcard] at hopened
    cases hopened
  | ok =>
    rw [hresult] at hcard
    rw [hcard] at hopened
    rw [ha, Option.bind_some, hs, Option.map_some, hopened]

namespace Matches

/-- The same work on a card gives the same on benches that match, if it does not look at the signal or the
benches are the same. -/
theorem onCard (h : Matches stale i b b') (j : Nat) (work : Card Board → α × Card Board)
    (hwork : j = i → b' = b ∨ Card.Blind work) :
    Option.Rel (Both stale i) (b.onCard j work) (b'.onCard j work) := by
  have hafter : b'.onCard j work = b.onCard j work ∨ (i < b.attachments.size ∧ b.IsIdle i ∧
      ∃ after, b'.onCard j work = (b.onCard j work).map fun done => (done.1, done.2.signalled i after)) := by
    rcases h.same with rfl | ⟨hi, hidle, raised, rfl⟩
    · exact .inl rfl
    · by_cases hblind : j = i → Card.Blind work
      · exact .inr ⟨hi, hidle, b.onCard_signalled i j raised hblind⟩
      · push Not at hblind
        exact .inl (by rw [(hwork hblind.1).resolve_right hblind.2])
  cases hdone : b.onCard j work with
  | none =>
    rw [hdone] at hafter
    rcases hafter with hnone | ⟨-, -, after, hnone⟩
    · rw [hnone]
      exact .none
    · rw [hnone]
      exact .none
  | some done =>
    obtain ⟨a, c, -, hput⟩ := onCard_cases hdone
    have htidy : done.2.Tidy := hput ▸ h.tidy.putCard j a c
    have hhandles : ∀ k, stale k = true → done.2.interrupters[k]? = some i := hput ▸ h.handles
    rw [hdone] at hafter
    rcases hafter with hsame | ⟨hi, hidle, after, hsame⟩
    · rw [hsame]
      exact .some ⟨rfl, htidy, hhandles, .inl rfl⟩
    · rw [hsame]
      refine .some ⟨rfl, htidy, hhandles, .inr ⟨?_, hput ▸ hidle.putCard j a c, after, rfl⟩⟩
      have hsize : (b.putCard j a c).attachments.size = b.attachments.size := Array.size_setIfInBounds
      rw [hput, hsize]
      exact hi

/-- The same change of a card is made on both benches. -/
theorem changeCard (h : Matches stale i b b') (j : Nat) {work : Card Board → Card Board}
    (hwork : Card.Blind fun c => ((), work c)) : Matches stale i (b.changeCard j work) (b'.changeCard j work) := by
  unfold Bench.changeCard
  rcases both_cases (h.onCard j _ fun _ => .inr hwork) with ⟨hx, hx'⟩ | ⟨_, b₁, b₁', hx, hx', hmatch⟩
  · rw [hx, hx']
    exact h
  · rw [hx, hx']
    exact hmatch

/-- An attachment is changed in something else than its signal. -/
theorem changeAttachment (h : Matches stale i b b') (j : Nat) (change : Attachment → Attachment)
    (hcomm : ∀ a raised, change (a.signalled raised) = (change a).signalled raised)
    (hnotices : ∀ a, (change a).device.notices = a.device.notices) :
    Matches stale i (b.changeAttachment j change) (b'.changeAttachment j change) := by
  refine h.alter (fun b => b.changeAttachment j change) ⟨h.tidy.hosts, ?_⟩ (fun _ => id) fun hi hidle => ⟨?_, hidle, ?_⟩
  · exact Table.forall_modify h.tidy.notices fun _ a ha => (hnotices a).trans ha
  · exact Nat.lt_of_lt_of_eq hi Array.size_modify.symm
  · intro raised
    simp only [Bench.changeAttachment, signalled, Table.modify_modify_of_comm change _ fun a => hcomm a raised]

/-! ## Hosts -/

/-- Work on a simulated card, which does not touch the separate allocator of a driver. -/
theorem onSim (h : Matches stale i b b') (sim : Nat) (work : Host Board → α × Host Board)
    (hwork : ∀ host, (work host).2.apart = host.apart) :
    Option.Rel (Both stale i) (b.onSim sim work) (b'.onSim sim work) := by
  unfold Bench.onSim
  rw [h.sims]
  cases hs : b.sims[sim]? with
  | none => exact .none
  | some s =>
    have hhost : (work s.host).2.apart = none := (hwork s.host).trans (h.tidy.hosts sim s hs).1
    exact .some ⟨rfl, h.alter
      (fun w =>
        { w with
          sims := b.sims.setIfInBounds sim { s with host := { (work s.host).2 with journal := #[] } }
          journal := w.journal ++ (work s.host).2.journal })
      ⟨Table.forall_setIfInBounds h.tidy.hosts ⟨hhost, rfl⟩, h.tidy.notices⟩ (fun _ => id)
      fun hi hidle => ⟨hi, hidle, fun _ => rfl⟩⟩

/-- The same change of a simulated card is made on both benches. -/
theorem changeSim (h : Matches stale i b b') (sim : Nat) {work : Host Board → Host Board}
    (hwork : ∀ host, (work host).apart = host.apart) :
    Matches stale i (b.changeSim sim work) (b'.changeSim sim work) := by
  unfold Bench.changeSim
  rcases both_cases (h.onSim sim (fun host => ((), work host)) hwork) with
    ⟨hx, hx'⟩ | ⟨_, b₁, b₁', hx, hx', hmatch⟩
  · rw [hx, hx']
    exact h
  · rw [hx, hx']
    exact hmatch

/-- A simulated card is added. -/
theorem addSim (h : Matches stale i b b') (address : PciAddress) :
    Matches stale i (b.addSim address) (b'.addSim address) :=
  h.alter (fun b => b.addSim address) ⟨Table.forall_push h.tidy.hosts ⟨rfl, rfl⟩, h.tidy.notices⟩ (fun _ => id)
    fun hi hidle => ⟨hi, hidle, fun _ => rfl⟩

/-- A host is put back. -/
theorem putHost (h : Matches stale i b b') (sim : Nat) (apart : Option Nat) (host : Host Board) :
    Matches stale i (b.putHost sim apart host) (b'.putHost sim apart host) :=
  h.alter (fun b => b.putHost sim apart host)
    ⟨Table.forall_modify h.tidy.hosts fun _ _ _ => ⟨rfl, rfl⟩, h.tidy.notices⟩ (fun _ => id)
    fun hi hidle => ⟨hi, hidle, fun _ => rfl⟩

/-! ## Handling interrupts -/

/-- One attachment handles its interrupts. -/
theorem settleOne (h : Matches stale i b b') (j : Nat) : Matches stale i (b.settleOne j) (b'.settleOne j) := by
  have hcleared := h.aside (fun b => { b with journal := #[] }) (fun _ => rfl) rfl rfl rfl rfl
  have hdone := (hcleared.changeCard j Card.blind_settle).aside
    (fun b₁ => { b₁ with journal := b.journal, irqJournal := b₁.irqJournal ++ b₁.journal })
    (fun _ => rfl) rfl rfl rfl rfl
  unfold Bench.settleOne
  rw [h.journal]
  exact hdone

/-- It does so if it has any. -/
theorem settleWanted (h : Matches stale i b b') (j : Nat) :
    Matches stale i (b.settleWanted j) (b'.settleWanted j) := by
  unfold Bench.settleWanted
  rcases h.attachment j with ⟨ha, ha'⟩ | ⟨a, raised, ha, ha'⟩
  · rw [ha, ha']
    exact h
  · have hwants : b'.wantsSettling (a.signalled raised) = b.wantsSettling a := by
      unfold wantsSettling
      rw [h.sims]
      rfl
    rw [ha, ha']
    dsimp only
    rw [hwants]
    split
    · exact h.settleOne j
    · exact h

/-- All attachments handle their interrupts. -/
theorem settle (h : Matches stale i b b') : Matches stale i b.settle b'.settle := by
  have hfold (js : List Nat) {b b' : Bench} (h : Matches stale i b b') :
      Matches stale i (js.foldl Bench.settleWanted b) (js.foldl Bench.settleWanted b') := by
    induction js generalizing b b' with
    | nil => exact h
    | cons j rest ih => exact ih (h.settleWanted j)
  rw [settle_eq, settle_eq, h.size]
  exact hfold _ h

/-! ## Attachments and sessions -/

/-- A driver is attached to a simulated card, or refused. -/
theorem attach (h : Matches stale i b b') (sim : Nat) (name : String) (slot : Nat) (config : Config)
    (baseHdwr baseLen : Nat) (apart : Option Nat) :
    Option.Rel (Both stale i) (b.attach sim name slot config baseHdwr baseLen apart)
      (b'.attach sim name slot config baseHdwr baseLen apart) := by
  unfold Bench.attach
  rw [h.sims]
  cases b.sims[sim]? with
  | none => exact .none
  | some s =>
    have hhost : b'.hostFor s apart = b.hostFor s apart := by
      unfold hostFor
      rw [h.allocators]
    simp only [Option.bind_eq_bind, Option.bind_some, hhost]
    cases hdone : Device.attach (b.hostFor s apart) name s.address baseHdwr baseLen config with
    | mk result host =>
      have hput := h.putHost sim apart host
      cases result with
      | error e => exact .some ⟨rfl, hput⟩
      | ok device =>
        have hnotices : device.notices = [] := by
          obtain ⟨-, _, _, _, _, -, -, rfl, -⟩ := Device.attach_cases hdone
          rfl
        refine .some ⟨congrArg Except.ok hput.size, hput.alter
          (fun b => { b with attachments := b.attachments.push ⟨device, sim, apart, slot, 1, 0, false⟩ })
          ⟨hput.tidy.hosts, Table.forall_push hput.tidy.notices hnotices⟩ (fun _ => id) fun hi hidle => ⟨?_, hidle, ?_⟩⟩
        · rw [Array.size_push]
          exact Nat.lt_succ_of_lt hi
        · intro raised
          simp only [signalled, Bench.changeAttachment, Table.modify_push hi]

/-- The memory of a card that nobody uses any more is given back. -/
theorem releaseUnused (h : Matches stale i b b') (j : Nat) :
    Matches stale i (b.releaseUnused j) (b'.releaseUnused j) := by
  have hdone := (h.changeCard j Card.blind_release).changeAttachment j
    (fun a => { a with released := true }) (fun _ _ => rfl) fun _ => rfl
  unfold Bench.releaseUnused
  rcases h.attachment j with ⟨ha, ha'⟩ | ⟨a, raised, ha, ha'⟩
  · rw [ha, ha']
    exact h
  · rw [ha, ha']
    change Matches stale i (if a.handles = 0 ∧ a.sessions = 0 ∧ (!a.released) = true then _ else b)
      (if a.handles = 0 ∧ a.sessions = 0 ∧ (!a.released) = true then _ else b')
    split
    · exact hdone
    · exact h

/-- One more handle of a card is held. -/
theorem addHandle (h : Matches stale i b b') (j : Nat) : Matches stale i (b.addHandle j) (b'.addHandle j) :=
  h.changeAttachment j _ (fun _ _ => rfl) fun _ => rfl

/-- A handle of a card is dropped; with the last one the driver is stopped. -/
theorem dropHandle (h : Matches stale i b b') (j : Nat) : Matches stale i (b.dropHandle j) (b'.dropHandle j) := by
  have hfewer := h.changeAttachment j (fun a => { a with handles := a.handles - 1 }) (fun _ _ => rfl) fun _ => rfl
  unfold Bench.dropHandle
  dsimp only
  generalize (b.changeAttachment j fun a => { a with handles := a.handles - 1 }) = b₁ at hfewer ⊢
  generalize (b'.changeAttachment j fun a => { a with handles := a.handles - 1 }) = b₁' at hfewer ⊢
  rcases hfewer.attachment j with ⟨ha, ha'⟩ | ⟨a, raised, ha, ha'⟩
  · rw [ha, ha']
    exact hfewer
  · rw [ha, ha']
    change Matches stale i (if a.handles = 0 then _ else b₁) (if a.handles = 0 then _ else b₁')
    split
    · exact (hfewer.changeCard j Card.blind_detach).releaseUnused j
    · exact hfewer

/-- A session is changed, but neither opened nor moved to another card. -/
theorem changeSession (h : Matches stale i b b') (id : Nat) (change : Session → Session)
    (hattachment : ∀ s, (change s).attachment = s.attachment)
    (hopen : ∀ s, s.isOpen = false → (change s).isOpen = false) :
    Matches stale i { b with sessions := b.sessions.modify id change }
      { b' with sessions := b'.sessions.modify id change } := by
  refine h.alter (fun b => { b with sessions := b.sessions.modify id change }) ⟨h.tidy.hosts, h.tidy.notices⟩
    (fun _ hk => hk) fun hi hidle => ⟨hi, ?_, fun _ => rfl⟩
  exact Table.forall_modify hidle fun _ s hs hi => hopen s (hs ((hattachment s).symm.trans hi))

/-- A session is closed. -/
theorem closeSession (h : Matches stale i b b') (id : Nat) :
    Matches stale i (b.closeSession id) (b'.closeSession id) := by
  unfold Bench.closeSession
  rw [h.sessions]
  split
  · rename_i s _
    have hclosed := h.changeCard s.attachment Card.blind_closeSession
    have hshut := hclosed.changeSession id (fun s => { s with isOpen := false }) (fun _ => rfl) fun _ _ => rfl
    have hfewer := hshut.changeAttachment s.attachment (fun a => { a with sessions := a.sessions - 1 })
      (fun _ _ => rfl) fun _ => rfl
    exact hfewer.releaseUnused s.attachment
  · exact h

/-- A session that was opened is added to the others. If it is one of the attachment in whose signal the
benches could differ, they have to be the same by now. -/
theorem addSession (h : Matches stale i b b') {j : Nat} (hsame : b' = b ∨ j ≠ i) (nonblock : Bool) :
    Matches stale i { b with sessions := b.sessions.push ⟨j, nonblock, true, 0⟩ }
      { b' with sessions := b'.sessions.push ⟨j, nonblock, true, 0⟩ } := by
  rcases hsame with rfl | hj
  · exact ⟨⟨h.tidy.hosts, h.tidy.notices⟩, h.handles, .inl rfl⟩
  · refine h.alter (fun b => { b with sessions := b.sessions.push ⟨j, nonblock, true, 0⟩ })
      ⟨h.tidy.hosts, h.tidy.notices⟩ (fun _ hk => hk) fun hi hidle => ⟨hi, ?_, fun _ => rfl⟩
    exact Table.forall_push hidle fun hi => absurd hi hj

/-- A session is opened, and with it the signal is dropped: if that was all in which the benches differed,
they are the same from now on. -/
theorem openSession (h : Matches stale i b b') (j : Nat) (nonblock : Bool) :
    Option.Rel (Both stale i) (b.openSession j nonblock) (b'.openSession j nonblock) := by
  have hsame (b₁ b₁' : Bench) (hopened : b.onCard j (fun c => c.openSession nonblock) = some (.ok (), b₁))
      (hopened' : b'.onCard j (fun c => c.openSession nonblock) = some (.ok (), b₁')) : b₁' = b₁ ∨ j ≠ i := by
    by_cases hj : j = i
    · subst hj
      have hagain : b.onCard j (fun c => c.openSession nonblock) = some (.ok (), b₁') := by
        rcases h.same with rfl | ⟨-, -, raised, rfl⟩
        · exact hopened'
        · exact onCard_openSession_of_signalled hopened'
      exact .inl (Prod.mk.inj (Option.some.inj (hagain.symm.trans hopened))).2
    · exact .inr hj
  refine both_bind (h.onCard j _ fun _ => .inr (Card.blind_openSession nonblock)) fun result b₁ b₁' hx hx' hmatch => ?_
  cases result with
  | error e => exact .some ⟨rfl, hmatch⟩
  | ok =>
    have hmore := hmatch.changeAttachment j (fun a => { a with sessions := a.sessions + 1 })
      (fun _ _ => rfl) fun _ => rfl
    refine .some ⟨congrArg (fun sessions => Except.ok sessions.size) hmore.sessions, hmore.addSession ?_ nonblock⟩
    exact (hsame b₁ b₁' hx hx').imp_left fun hsame => by rw [hsame]

/-- A cancellation handle is made. -/
theorem addInterrupter (h : Matches stale i b b') (j : Nat) :
    Matches stale i { b with interrupters := b.interrupters.push j }
      { b' with interrupters := b'.interrupters.push j } := by
  refine h.alter (fun b => { b with interrupters := b.interrupters.push j }) ⟨h.tidy.hosts, h.tidy.notices⟩
    (fun k hk => ?_) fun hi hidle => ⟨hi, hidle, fun _ => rfl⟩
  obtain ⟨hlt, -⟩ := Array.getElem?_eq_some_iff.mp hk
  rw [Array.getElem?_push, if_neg (Nat.ne_of_lt hlt), hk]

/-! ## The registry -/

/-- A simulated card is in use on both benches, or on neither. -/
theorem isLive (h : Matches stale i b b') (sim : Nat) : b'.isLive sim = b.isLive sim := by
  rcases h.same with rfl | ⟨-, -, raised, rfl⟩
  · rfl
  · have hmap := Table.map_modify_of_same b.attachments i (fun a => a.signalled raised)
      (fun a => a.sim == sim && !a.device.detached) fun _ => rfl
    have hany := congrArg (fun live : Array Bool => live.any id) hmap
    simp only [Array.any_map, Function.id_comp] at hany
    exact hany

/-- The card at an address is found in the same slot. -/
theorem findCard? (h : Matches stale i b b') (r : Registry) (address : PciAddress) :
    b'.findCard? r address = b.findCard? r address := by
  unfold Bench.findCard?
  congr 1
  funext j
  have hlook := h.look j (fun a => a.device.address == address) fun _ _ => rfl
  simpa only [Option.any_map, id_eq] using congrArg (fun found : Option Bool => found.any id) hlook

/-- A line is added to the journal. -/
theorem noteModule (h : Matches stale i b b') (level : Level) (text : String) :
    Matches stale i (b.noteModule level text) (b'.noteModule level text) :=
  h.aside (fun b => b.noteModule level text) (fun _ => rfl) rfl rfl rfl rfl

/-- Probing a card. -/
theorem probe (h : Matches stale i b b') (r : Registry) (sim : Nat) (address : PciAddress)
    (vendor device baseHdwr baseLen : Nat) (apart : Option Nat) :
    Both stale i (b.probe r sim address vendor device baseHdwr baseLen apart)
      (b'.probe r sim address vendor device baseHdwr baseLen apart) := by
  unfold Bench.probe
  rw [h.findCard?]
  split
  · exact ⟨rfl, h⟩
  · split
    · exact ⟨rfl, h.noteModule _ _⟩
    · split
      · exact ⟨rfl, h.noteModule _ _⟩
      · rename_i slot _
        rcases both_cases (h.attach sim (Registry.cardName slot) slot r.config baseHdwr baseLen apart) with
          ⟨hx, hx'⟩ | ⟨result, b₁, b₁', hx, hx', hmatch⟩
        · rw [hx, hx']
          exact ⟨rfl, h⟩
        · rw [hx, hx']
          cases result with
          | error e => exact ⟨rfl, hmatch⟩
          | ok card =>
            have hnoted := hmatch.noteModule .info
              s!"Probe: attached {Registry.cardName slot} at {address.text}"
            exact ⟨rfl, hnoted.aside (fun b => { b with registry := some (r.put slot card) })
              (fun _ => rfl) rfl rfl rfl rfl⟩

/-- A card is taken out of the registry. -/
theorem remove (h : Matches stale i b b') (card : Nat) : Matches stale i (b.remove card) (b'.remove card) := by
  have hname := h.look card (fun a => a.device.name) fun _ _ => rfl
  unfold Bench.remove
  dsimp only
  rw [hname]
  exact ((h.changeCard card Card.blind_detach).noteModule _ _).dropHandle card

/-- The card of a slot is detached, unless it is in use. -/
theorem detachSlot (h : Matches stale i b b') (r : Registry) (slot : Nat) :
    Both stale i (b.detachSlot r slot) (b'.detachSlot r slot) := by
  unfold Bench.detachSlot
  cases r.get? slot with
  | none => exact ⟨rfl, h⟩
  | some card =>
    rcases h.attachment card with ⟨ha, ha'⟩ | ⟨a, raised, ha, ha'⟩
    · simp only [Option.bind_some, ha, ha']
      exact ⟨rfl, h⟩
    · simp only [Option.bind_some, ha, ha']
      change Both stale i (if a.device.isOpen = true ∨ 1 < a.handles then _ else _)
        (if a.device.isOpen = true ∨ 1 < a.handles then _ else _)
      split
      · exact ⟨rfl, h.noteModule _ _⟩
      · have hcleared := h.aside (fun b => { b with registry := some (r.clear slot) }) (fun _ => rfl) rfl rfl rfl rfl
        exact ⟨rfl, hcleared.remove card⟩

/-- All cards of the registry are detached. -/
theorem detachAll (h : Matches stale i b b') (r : Registry) :
    Matches stale i (b.detachAll r) (b'.detachAll r) := by
  have hfold (cards : List Nat) {b b' : Bench} (h : Matches stale i b b') :
      Matches stale i (cards.foldl Bench.remove b) (cards.foldl Bench.remove b') := by
    induction cards generalizing b b' with
    | nil => exact h
    | cons card rest ih => exact ih (h.remove card)
  exact hfold _ (h.aside (fun b => { b with registry := some r.clearAll }) (fun _ => rfl) rfl rfl rfl rfl)

/-- The registry is given up. -/
theorem dropRegistry (h : Matches stale i b b') : Matches stale i b.dropRegistry b'.dropRegistry := by
  unfold Bench.dropRegistry
  rw [h.registry]
  split
  · rename_i r _
    exact (h.detachAll r).aside (fun b => { b with registry := none }) (fun _ => rfl) rfl rfl rfl rfl
  · exact h

end Matches

end Bench

end LaneCard
