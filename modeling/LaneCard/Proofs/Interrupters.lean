import LaneCard.Proofs.ClosedLine
import LaneCard.Proofs.MatchingSteps
import LaneCard.Proofs.Settling

/-!
# Cancellation handles

A cancellation handle acts on the card of the session it was taken from, and outlives the session. Two runs
are compared that differ in the use of such handles only, on benches that match (`Bench.Matches`). A handle
that is used while no session of its card is open makes no difference: it raises a signal that the next
session drops. While a session is open, it cancels the calls of that session, whichever session it was taken
from.

Interrupts are handled after every step, also after one that uses a handle. That this makes no difference
either is the first part: once interrupts were handled none is left (`Bench.Settled`), and handling them again
changes nothing.
-/

namespace LaneCard

/-! ## Nothing left to handle -/

namespace IrqLine

/-- No interrupt can be taken off a line. -/
def IsCalm (l : IrqLine) : Prop := ∀ n rest, l.wait? ≠ some (.ok n, rest)

/-- So it is when nothing is pending. -/
theorem isCalm_of_pending {l : IrqLine} (hpending : l.pending = 0) : l.IsCalm := by
  intro n rest
  unfold wait?
  split
  · simp
  · simp [hpending]

/-- So it is on a closed line. -/
theorem isCalm_of_closed {l : IrqLine} (hclosed : l.closed = true) : l.IsCalm := by
  intro n rest
  simp [wait?, hclosed]

end IrqLine

namespace Card

/-- Where no interrupt can be taken, none is handled. -/
theorem settle_of_isCalm {c : Card Board} (h : c.host.line.IsCalm) : c.settle = c := by
  unfold settle settleFor
  split
  · rename_i line hwait
    exact absurd hwait (h _ line)
  · rfl

/-- After interrupts were handled none can be taken. -/
theorem isCalm_settle (c : Card Board) : c.settle.host.line.IsCalm := by
  cases hclosed : c.host.line.closed with
  | true =>
    rw [settle, settleFor_of_closed hclosed]
    exact IrqLine.isCalm_of_closed hclosed
  | false =>
    by_cases hpending : c.host.line.pending = 0
    · rw [settle_of_isCalm (IrqLine.isCalm_of_pending hpending)]
      exact IrqLine.isCalm_of_pending hpending
    · cases hfull : c.host.bus.hasCompletions with
      | true =>
        obtain ⟨-, -, hidles⟩ := settleFor_processes
          (c.host.bus.txReturns.length + c.host.bus.rxReturns.length + 1) c hclosed (Nat.pos_of_ne_zero hpending)
          hfull (Nat.le_succ _)
        exact IrqLine.isCalm_of_pending hidles.pending
      | false =>
        have hwait := c.host.line.wait?_of_pending (Nat.pos_of_ne_zero hpending) hclosed
        unfold settle settleFor
        rw [hwait]
        dsimp only
        set taken : Card Board := { c with host := { c.host with line := { c.host.line with pending := 0 } } }
        have hstill :=
          taken.settleFor_of_quiet (c.host.bus.txReturns.length + c.host.bus.rxReturns.length) rfl hclosed
        rw [taken.handleInterrupt_of_idle hfull, hstill]
        exact IrqLine.isCalm_of_pending rfl

end Card

/-- Whether a call was cancelled. -/
def Outcome.isRestart : Outcome → Bool
  | failed .restart => true
  | _ => false

/-- Whether a step uses a stale cancellation handle. -/
def Step.fires (stale : Nat → Bool) : Step → Bool
  | .fire k => stale k
  | _ => false

/-- Such a step is no other. -/
theorem Step.eq_fire_of_fires {stale : Nat → Bool} {step : Step} (h : step.fires stale = true) :
    ∃ k, step = .fire k ∧ stale k = true := by
  cases step with
  | fire k => exact ⟨k, rfl, h⟩
  | _ => contradiction

namespace Bench

variable {b b' : Bench} {stale : Nat → Bool} {i : Nat}

/-- None of the first attachments has an interrupt to take, but for those that were detached. -/
def CalmBelow (b : Bench) (n : Nat) : Prop :=
  ∀ (j : Nat) (a : Attachment) (s : Sim), j < n → b.attachments[j]? = some a → a.device.detached = false →
    b.sims[a.sim]? = some s → s.host.line.IsCalm

/-- No attachment has one. -/
def Settled (b : Bench) : Prop := b.CalmBelow b.attachments.size

/-- An attachment has no interrupt to handle, or its card is put back when they were handled. -/
theorem settleWanted_cases (b : Bench) (j : Nat) :
    (b.settleWanted j = b ∧
        ∀ (a : Attachment) (s : Sim), b.attachments[j]? = some a → a.device.detached = false →
          b.sims[a.sim]? = some s → s.host.line.IsCalm) ∨
      ∃ (a : Attachment) (s : Sim) (done : Bench), b.attachments[j]? = some a ∧ a.device.detached = false ∧
        b.sims[a.sim]? = some s ∧
        done = { b with journal := #[] }.putCard j a (Card.settle ⟨b.hostFor s a.apart, a.device⟩) ∧
        b.settleWanted j = { done with journal := b.journal, irqJournal := b.irqJournal ++ done.journal } := by
  unfold settleWanted
  cases ha : b.attachments[j]? with
  | none => exact .inl ⟨rfl, fun a s ha => nomatch ha⟩
  | some a =>
    dsimp only
    cases hwants : b.wantsSettling a with
    | false =>
      refine .inl ⟨rfl, fun a' s ha' hdetached hs n rest hwait => ?_⟩
      obtain rfl := Option.some.inj ha'
      simp [wantsSettling, hdetached, hs, hwait] at hwants
    | true =>
      obtain ⟨hdetached, hany⟩ : a.device.detached = false ∧
          (b.sims[a.sim]?).any (fun s => s.host.line.wait?.isSome) = true := by
        simpa [wantsSettling] using hwants
      obtain ⟨s, hs, -⟩ := (Option.any_eq_true _ _).mp hany
      have hdone : ({ b with journal := #[] } : Bench).changeCard j Card.settle =
          { b with journal := #[] }.putCard j a (Card.settle ⟨b.hostFor s a.apart, a.device⟩) := by
        rw [changeCard, onCard_eq_bind]
        simp only [ha, hs, Option.bind_some, Option.map_some]
        rfl
      refine .inr ⟨a, s, _, rfl, hdetached, hs, rfl, ?_⟩
      rw [if_pos rfl, settleOne, hdone]
      rfl

/-- No attachment is added. -/
theorem size_settleWanted (b : Bench) (j : Nat) : (b.settleWanted j).attachments.size = b.attachments.size := by
  rcases b.settleWanted_cases j with ⟨hsame, -⟩ | ⟨a, s, done, -, -, -, hdone, hsettled⟩
  · rw [hsame]
  · rw [hsettled, hdone]
    exact Array.size_setIfInBounds

/-- Once an attachment has handled its interrupts, it has none to take, and neither has any that had none. -/
theorem calmBelow_settleWanted {n : Nat} (h : b.CalmBelow n) : (b.settleWanted n).CalmBelow (n + 1) := by
  intro j a s hj
  rcases b.settleWanted_cases n with ⟨hsame, hcalm⟩ | ⟨a₀, s₀, done, ha₀, -, hs₀, hdone, hsettled⟩
  · rw [hsame]
    rcases Nat.lt_succ_iff_lt_or_eq.mp hj with hlt | rfl
    · exact h j a s hlt
    · exact hcalm a s
  · rw [hsettled, hdone]
    intro ha hdetached hs
    replace hs : (b.sims.modify a₀.sim _)[a.sim]? = some s := hs
    replace ha : (b.attachments.setIfInBounds n _)[j]? = some a := ha
    rw [Array.getElem?_modify] at hs
    rw [Array.getElem?_setIfInBounds] at ha
    by_cases hsim : a₀.sim = a.sim
    · rw [if_pos hsim, ← hsim, hs₀] at hs
      obtain rfl := Option.some.inj hs
      exact Card.isCalm_settle _
    · rw [if_neg hsim] at hs
      by_cases hjn : n = j
      · subst hjn
        rw [if_pos rfl, if_pos (Array.getElem?_eq_some_iff.mp ha₀).1] at ha
        obtain rfl := Option.some.inj ha
        exact absurd rfl hsim
      · rw [if_neg hjn] at ha
        exact h j a s (by omega) ha hdetached hs

/-- When all have handled their interrupts, none has one to take. -/
theorem settled_settle (b : Bench) : b.settle.Settled := by
  have hfold (n : Nat) : ((List.range n).foldl settleWanted b).CalmBelow n ∧
      ((List.range n).foldl settleWanted b).attachments.size = b.attachments.size := by
    induction n with
    | zero => exact ⟨fun j a s hj => absurd hj (Nat.not_lt_zero j), rfl⟩
    | succ n ih =>
      rw [List.range_succ, List.foldl_append]
      exact ⟨calmBelow_settleWanted ih.1, (size_settleWanted _ n).trans ih.2⟩
  obtain ⟨hcalm, hsize⟩ := hfold b.attachments.size
  rw [settle_eq, Settled, hsize]
  exact hcalm

/-- A card that is put back as it was changes nothing on a tidy bench. -/
theorem Tidy.putCard_self (h : b.Tidy) {j : Nat} {a : Attachment} {s : Sim} (ha : b.attachments[j]? = some a)
    (hs : b.sims[a.sim]? = some s) : b.putCard j a ⟨b.hostFor s a.apart, a.device⟩ = b := by
  obtain ⟨hshared, hempty⟩ := h.hosts _ s hs
  have hnotices := h.notices j a ha
  have hallocators : (b.putHost a.sim a.apart (b.hostFor s a.apart)).allocators = b.allocators := by
    simp only [putHost, hostFor]
    split
    · rename_i k x happart hx
      rw [happart, Option.bind_some] at hx
      exact Table.setIfInBounds_self hx
    · rfl
  have hsims : (b.putHost a.sim a.apart (b.hostFor s a.apart)).sims = b.sims := by
    have hself : { s with host := { s.host with apart := none, journal := #[] } } = s := by
      rw [← hshared, ← hempty]
    change b.sims.modify a.sim (fun s' => { s' with host := { s.host with apart := none, journal := #[] } }) = _
    rw [Table.modify_eq _ hs, hself]
    exact Table.setIfInBounds_self hs
  have hattachments : b.attachments.setIfInBounds j { a with device := { a.device with notices := [] } } =
      b.attachments := by
    rw [← hnotices]
    exact Table.setIfInBounds_self ha
  have hjournal : b.journal ++ s.host.journal = b.journal := by rw [hempty, Array.append_empty]
  have hsessions : deliverNotices b.sessions a.device.notices = b.sessions := by
    rw [hnotices]
    rfl
  have hput : b.putCard j a ⟨b.hostFor s a.apart, a.device⟩ =
      { b with
        allocators := (b.putHost a.sim a.apart (b.hostFor s a.apart)).allocators
        sims := (b.putHost a.sim a.apart (b.hostFor s a.apart)).sims
        attachments := b.attachments.setIfInBounds j { a with device := { a.device with notices := [] } }
        sessions := deliverNotices b.sessions a.device.notices
        journal := b.journal ++ s.host.journal } := rfl
  rw [hput, hallocators, hsims, hattachments, hsessions, hjournal]

/-- Where no interrupt can be taken, letting interrupts be handled changes nothing. -/
theorem Tidy.settle_of_settled (h : b.Tidy) (hsettled : b.Settled) : b.settle = b := by
  have hone (j : Nat) : b.settleWanted j = b := by
    rcases b.settleWanted_cases j with ⟨hsame, -⟩ | ⟨a, s, done, ha, hdetached, hs, hdone, hafter⟩
    · exact hsame
    · have hcalm := hsettled j a s (Array.getElem?_eq_some_iff.mp ha).1 ha hdetached hs
      have hcleared : ({ b with journal := #[] } : Bench).Tidy := ⟨h.hosts, h.notices⟩
      have hself : Card.settle ⟨b.hostFor s a.apart, a.device⟩ = ⟨b.hostFor s a.apart, a.device⟩ :=
        Card.settle_of_isCalm hcalm
      have hsame : done = { b with journal := #[] } := by
        rw [hdone, hself]
        exact hcleared.putCard_self ha hs
      rw [hafter, hsame, Array.append_empty]
  have hfold (js : List Nat) : js.foldl settleWanted b = b := by
    induction js with
    | nil => rfl
    | cons j rest ih => rw [List.foldl_cons, hone, ih]
  exact hfold _

/-! ## A handle that is used -/

/-- Of two signals given in turn the second stays. -/
theorem signalled_signalled (b : Bench) (i : Nat) (raised after : Bool) :
    (b.signalled i raised).signalled i after = b.signalled i after := by
  have hmodify : (b.attachments.modify i fun a => a.signalled raised).modify i (fun a => a.signalled after) =
      b.attachments.modify i fun a => a.signalled after := by
    apply Array.ext_getElem?
    intro k
    simp only [Array.getElem?_modify]
    split
    · rw [Option.map_map]
      rfl
    · rfl
  simp only [signalled, changeAttachment, hmodify]

/-- A signal is no notice. -/
theorem Tidy.signalled (h : b.Tidy) (i : Nat) (raised : Bool) : (b.signalled i raised).Tidy :=
  ⟨h.hosts, Table.forall_modify h.notices fun _ _ hnone => hnone⟩

/-- Using a handle raises the signal of its card, and does nothing else. -/
theorem Tidy.changeCard_interruptSession (h : b.Tidy) (i : Nat) :
    b.changeCard i Card.interruptSession = b ∨
      i < b.attachments.size ∧ b.changeCard i Card.interruptSession = b.signalled i true := by
  rw [changeCard, onCard_eq_bind]
  cases ha : b.attachments[i]? with
  | none => exact .inl rfl
  | some a =>
    rw [Option.bind_some]
    cases hs : b.sims[a.sim]? with
    | none => exact .inl rfl
    | some s =>
      have hput := (putCard_signalled ha ⟨b.hostFor s a.apart, a.device⟩).trans
        (congrArg (fun b => b.signalled i true) (h.putCard_self ha hs))
      exact .inr ⟨(Array.getElem?_eq_some_iff.mp ha).1, hput⟩

/-- A handle that is used while no session of its card is open leaves benches matching that match. -/
theorem Matches.interrupted (h : Matches stale i b b') (hidle : b.IsIdle i) :
    Matches stale i b (b'.changeCard i Card.interruptSession) := by
  rcases h.same with rfl | ⟨hi, -, raised, rfl⟩
  · rcases h.tidy.changeCard_interruptSession i with hsame | ⟨hi, hraised⟩
    · rw [hsame]
      exact h
    · exact ⟨h.tidy, h.handles, .inr ⟨hi, hidle, true, hraised⟩⟩
  · rcases (h.tidy.signalled i raised).changeCard_interruptSession i with hsame | ⟨-, hraised⟩
    · rw [hsame]
      exact h
    · rw [signalled_signalled] at hraised
      exact ⟨h.tidy, h.handles, .inr ⟨hi, hidle, true, hraised⟩⟩

/-! ## Two runs -/

/-- A bench whose journals were read. -/
def cleared (b : Bench) : Bench := { b with journal := #[], irqJournal := #[] }

/-- Journals that were read are in no other way part of a bench. -/
theorem Matches.cleared (h : Matches stale i b b') : Matches stale i b.cleared b'.cleared :=
  h.aside Bench.cleared (fun _ => rfl) rfl rfl rfl rfl

/-- A step is played on both benches, and answered alike. -/
theorem Matches.play (h : Matches stale i b.cleared b'.cleared) (step : Step) :
    (b'.play step).1 = (b.play step).1 ∧ Matches stale i (b.play step).2.cleared (b'.play step).2.cleared := by
  obtain ⟨houtcome, hmatch⟩ := h.act step
  exact ⟨houtcome, hmatch.settle.cleared⟩

/-- A stale handle is used on one of the benches only. -/
theorem Matches.fire (h : Matches stale i b.cleared b'.cleared) (hsettled : b.Settled) (hidle : b.IsIdle i)
    {k : Nat} (hk : stale k = true) : Matches stale i b.cleared (b'.play (.fire k)).2.cleared := by
  have hact : b'.cleared.act (.fire k) = (.nothing, b'.cleared.changeCard i Card.interruptSession) := by
    rw [Bench.act, h.interrupters, h.handles k hk]
  have hplay : (b'.play (.fire k)).2 = (b'.cleared.changeCard i Card.interruptSession).settle :=
    congrArg (fun done : Outcome × Bench => done.2.settle) hact
  have hstill : b.cleared.settle = b.cleared := h.tidy.settle_of_settled hsettled
  have hafter := (h.interrupted hidle).settle.cleared
  rw [hstill] at hafter
  rw [hplay]
  exact hafter

/-- Every step leaves no interrupt to take. -/
theorem settled_play (b : Bench) (step : Step) : (b.play step).2.Settled := settled_settle _

/-- No session of an attachment is open if none is counted. -/
theorem isIdle_of_openings (h : b.openings i = 0) : b.IsIdle i := by
  intro id s hs hi
  have hnone := List.countP_eq_zero.mp h s (Array.mem_toList_iff.mpr (Array.mem_of_getElem? hs))
  simpa [hi] using hnone

/-- Steps are played on both benches. -/
theorem Matches.playAll (h : Matches stale i b.cleared b'.cleared) (steps : List Step) :
    Matches stale i (b.playAll steps).cleared (b'.playAll steps).cleared := by
  induction steps generalizing b b' with
  | nil => exact h
  | cons step rest ih => exact ih (h.play step).2

/-- A bench on which steps were played has no interrupt to take, if it had none before. -/
theorem settled_playAll (h : b.Settled) (steps : List Step) : (b.playAll steps).Settled := by
  induction steps generalizing b with
  | nil => exact h
  | cons step rest ih => exact ih (b.settled_play step)

/-- Whatever was done on a bench from the start, it is tidy. -/
theorem tidy_playAll_empty (steps : List Step) : (empty.playAll steps).cleared.Tidy := by
  have hempty : Matches (fun _ => false) 0 empty.cleared empty.cleared :=
    ⟨⟨by simp [cleared, empty], by simp [cleared, empty]⟩, by simp, .inl rfl⟩
  exact (hempty.playAll steps).tidy

/-- So no interrupt is left to take. -/
theorem settled_playAll_empty (steps : List Step) : (empty.playAll steps).Settled :=
  settled_playAll (by simp [Settled, CalmBelow, empty]) steps

/-- What is answered to steps that are played one after the other. -/
def answers : Bench → List Step → List (Step × Outcome)
  | _, [] => []
  | b, step :: rest => (step, (b.play step).1) :: (b.play step).2.answers rest

/-- Whenever a step uses a stale handle, no session of the attachment is open. -/
def UsedWhileIdle (stale : Nat → Bool) (i : Nat) : Bench → List Step → Prop
  | _, [] => True
  | b, step :: rest =>
    (step.fires stale = true → b.openings i = 0) ∧ UsedWhileIdle stale i (b.play step).2 rest

instance decidableUsedWhileIdle (stale : Nat → Bool) (i : Nat) :
    (b : Bench) → (steps : List Step) → Decidable (UsedWhileIdle stale i b steps)
  | _, [] => .isTrue trivial
  | b, step :: rest =>
    have := decidableUsedWhileIdle stale i (b.play step).2 rest
    inferInstanceAs (Decidable ((step.fires stale = true → b.openings i = 0) ∧ _))

/-- As many sessions are open. -/
theorem Matches.openings (h : Matches stale i b.cleared b'.cleared) : b'.openings i = b.openings i := by
  have hsame : b'.sessions = b.sessions := h.sessions
  rw [Bench.openings, Bench.openings, hsame]

/-- Without the steps that use stale handles, and that are played on one of the benches only, all is answered
alike. -/
theorem Matches.answers (h : Matches stale i b.cleared b'.cleared) (hsettled : b.Settled) (steps : List Step)
    (hidle : UsedWhileIdle stale i b' steps) :
    (b'.answers steps).filter (fun e => !e.1.fires stale) =
      b.answers (steps.filter fun step => !step.fires stale) := by
  induction steps generalizing b b' with
  | nil => rfl
  | cons step rest ih =>
    obtain ⟨hnow, hlater⟩ := hidle
    cases hfires : step.fires stale with
    | true =>
      have hnone : b.openings i = 0 := h.openings.symm.trans (hnow hfires)
      obtain ⟨k, rfl, hk⟩ := Step.eq_fire_of_fires hfires
      have hafter := ih (h.fire hsettled (isIdle_of_openings hnone) hk) hsettled hlater
      simpa [Bench.answers, hfires] using hafter
    | false =>
      obtain ⟨houtcome, hmatch⟩ := h.play step
      have hafter := ih hmatch (b.settled_play step) hlater
      simpa [Bench.answers, hfires, houtcome] using hafter

/-- Cancellation handles of a card, used while no session of it is open, change the answer to no other step
of any run: whatever is done before and afterwards, the answers are those of the run without them. While one
of its sessions is open, such a handle does what that session does when it cancels its own calls, whichever
session it was taken from. -/
theorem stale_handles (before : List Step) (stale : Nat → Bool) (i : Nat)
    (hstale : ∀ k, stale k = true → (empty.playAll before).interrupters[k]? = some i) :
    (∀ steps, UsedWhileIdle stale i (empty.playAll before) steps →
      ((empty.playAll before).answers steps).filter (fun e => !e.1.fires stale) =
        (empty.playAll before).answers (steps.filter fun step => !step.fires stale)) ∧
    ∀ (after : List Step) (k id : Nat) (s : Session), stale k = true →
      (empty.playAll (before ++ after)).sessionOf id = some s → s.attachment = i →
        (empty.playAll (before ++ after)).play (.fire k) =
          (empty.playAll (before ++ after)).play (.session id .interrupt) := by
  have hstart : Matches stale i (empty.playAll before).cleared (empty.playAll before).cleared :=
    ⟨tidy_playAll_empty before, hstale, .inl rfl⟩
  refine ⟨fun steps => hstart.answers (settled_playAll_empty before) steps, ?_⟩
  rintro after k id s hk hid rfl
  have hhandle : (empty.playAll (before ++ after)).interrupters[k]? = some s.attachment := by
    rw [playAll_append]
    exact (hstart.playAll after).handles k hk
  generalize empty.playAll (before ++ after) = b at hid hhandle
  have hsame : b.cleared.act (.fire k) = b.cleared.act (.session id .interrupt) := by
    have hid' : b.cleared.sessionOf id = some s := hid
    have hhandle' : b.cleared.interrupters[k]? = some s.attachment := hhandle
    simp only [act, hid', hhandle', sessionStep]
  exact congrArg (fun done : Outcome × Bench => (done.1, done.2.settle)) hsame

/-- A card is opened, a cancellation handle of the session is taken, and the session is closed. -/
def keepHandle : List Step :=
  [.addSim .standard, .registry .small, probeFirst, .openSlot 0 true, .session 0 .interrupter, .session 0 .close]

/-- The second session of the card asks whether a frame can be read. -/
def askSecond : Step := .session 1 (.call (.pollWait ⟨true, false⟩ true) none)

/-- The handle of the first session is used before the second session is opened, and afterwards. -/
theorem stale_handles_small :
    (∀ k, (k == 0) = true → (empty.playAll keepHandle).interrupters[k]? = some 0) ∧
      UsedWhileIdle (· == 0) 0 (empty.playAll keepHandle) [.fire 0, .openSlot 0 true, askSecond] ∧
      (((empty.playAll keepHandle).answers [.fire 0, .openSlot 0 true, askSecond]).filter
          fun e => !e.1.fires (· == 0)) =
        (empty.playAll keepHandle).answers [.openSlot 0 true, askSecond] ∧
      ∃ s, (empty.playAll (keepHandle ++ [.openSlot 0 true])).sessionOf 1 = some s ∧ s.attachment = 0 ∧
        (empty.playAll (keepHandle ++ [.openSlot 0 true])).play (.fire 0) =
          (empty.playAll (keepHandle ++ [.openSlot 0 true])).play (.session 1 .interrupt) := by
  have hhandle : (empty.playAll keepHandle).interrupters[0]? = some 0 := by decide +kernel
  have hstale (k : Nat) (hk : (k == 0) = true) : (empty.playAll keepHandle).interrupters[k]? = some 0 :=
    eq_of_beq hk ▸ hhandle
  have hidle : UsedWhileIdle (· == 0) 0 (empty.playAll keepHandle) [.fire 0, .openSlot 0 true, askSecond] := by
    decide +kernel
  obtain ⟨s, hs, hi⟩ := Option.map_eq_some_iff.mp
    (show ((empty.playAll (keepHandle ++ [.openSlot 0 true])).sessionOf 1).map Session.attachment = some 0 by
      decide +kernel)
  obtain ⟨hanswers, hact⟩ := stale_handles keepHandle (· == 0) 0 hstale
  exact ⟨hstale, hidle, hanswers _ hidle, s, hs, hi, hact [.openSlot 0 true] 0 1 s rfl hs hi⟩

/-- The first session is closed and the second open. The handle of the first is used, and then the second is
told that its wait was cancelled, though it only asks. -/
theorem cancelled_by_stale_handle :
    ∃ b, b = empty.playAll (keepHandle ++ [.openSlot 0 true]) ∧
      (b.sessions.map Session.isOpen).toList = [false, true] ∧ b.interrupters[0]? = some 0 ∧
      (b.play askSecond).1.isRestart = false ∧ ((b.play (.fire 0)).2.play askSecond).1.isRestart = true :=
  ⟨_, rfl, by decide +kernel, by decide +kernel, by decide +kernel, by decide +kernel⟩

end Bench
end LaneCard
