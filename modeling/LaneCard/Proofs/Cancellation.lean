import LaneCard.Proofs.SignalUse
import Mathlib.Data.List.Induction

/-!
# A cancellation is delivered once

A session may be cancelled at any time. If a call waits it is cancelled; if none does, the next one that
has to wait is, however many calls come before that need not. The first part is about one wait, which is a
sequence of looks at a condition and at the signal; the second is about whole runs of a card, where what is
pending is read off what has happened.
-/

namespace LaneCard

/-! ## One wait -/

namespace WaitQueue

/-- Looks that have ended no wait: the condition was false at each of them, and the signal, which may be
raised between any two, was not. -/
def Fruitless (signal : Bool) (looks : List Look) : Prop :=
  (∀ l ∈ looks, l.condition = false ∧ l.raised = false) ∧ (looks ≠ [] → signal = false)

/-- How a wait ends: at the first look that finds the condition true or the signal raised. If it finds both,
the condition counts, and the signal stays raised; only a wait that is cancelled lowers it. Without such a
look the caller sleeps on, or gives up if its time is limited. -/
inductive Ending (unmet : WaitResult) (signal : Bool) : List Look → WaitResult × Bool × Nat → Prop
  | unmet {looks : List Look} (hlooks : Fruitless signal looks) :
      Ending unmet signal looks (unmet, signal, looks.length)
  | ready {before after : List Look} {l : Look} (hbefore : Fruitless signal before)
      (hcondition : l.condition = true) :
      Ending unmet signal (before ++ l :: after) (.ready, signal || l.raised, before.length + 1)
  | interrupted {before after : List Look} {l : Look} (hbefore : Fruitless signal before)
      (hcondition : l.condition = false) (hraised : (signal || l.raised) = true) :
      Ending unmet signal (before ++ l :: after) (.interrupted, false, before.length + 1)

/-- A look that has ended no wait is one more of them. -/
theorem Fruitless.cons {l : Look} {looks : List Look} (hcondition : l.condition = false) (hraised : l.raised = false)
    (hlooks : Fruitless false looks) : Fruitless false (l :: looks) :=
  ⟨List.forall_mem_cons.mpr ⟨⟨hcondition, hraised⟩, hlooks.1⟩, fun _ => rfl⟩

/-- Nothing has been looked at yet. -/
theorem fruitless_nil (signal : Bool) : Fruitless signal [] := ⟨nofun, fun h => absurd rfl h⟩

/-- A wait that goes on past a look ends as it does from there. -/
theorem Ending.cons {unmet : WaitResult} {l : Look} {looks : List Look} {result : WaitResult} {last : Bool} {n : Nat}
    (hcondition : l.condition = false) (hraised : l.raised = false)
    (h : Ending unmet false looks (result, last, n)) : Ending unmet false (l :: looks) (result, last, n + 1) := by
  cases h with
  | unmet hlooks => exact .unmet (hlooks.cons hcondition hraised)
  | ready hbefore hready => exact .ready (hbefore.cons hcondition hraised) hready
  | interrupted hbefore hunready hpending => exact .interrupted (hbefore.cons hcondition hraised) hunready hpending

/-- A wait without a time limit ends so. -/
theorem ending_waitUntil (signal : Bool) (looks : List Look) :
    Ending .asleep signal looks (waitUntil signal looks) := by
  induction looks generalizing signal with
  | nil => exact .unmet (fruitless_nil signal)
  | cons l rest ih =>
    unfold waitUntil look
    cases hcondition : l.condition with
    | true => exact .ready (fruitless_nil signal) hcondition
    | false =>
      cases hpending : (signal || l.raised) with
      | true => exact .interrupted (fruitless_nil signal) hcondition hpending
      | false =>
        obtain ⟨rfl, hraised⟩ := Bool.or_eq_false_iff.mp hpending
        exact (ih false).cons hcondition hraised

/-- A wait with a time limit ends in the same way, but that it gives up where it would sleep. -/
theorem ending_waitTimeout (signal : Bool) (looks : List Look) :
    Ending .timedOut signal looks (waitTimeout signal looks) := by
  have hends := ending_waitUntil signal looks
  unfold waitTimeout
  generalize waitUntil signal looks = ended at hends
  cases hends with
  | unmet hlooks => exact .unmet hlooks
  | ready hbefore hcondition => exact .ready hbefore hcondition
  | interrupted hbefore hcondition hraised => exact .interrupted hbefore hcondition hraised

end WaitQueue

/-! ## A caller that waits in a queue -/

/-- What has become of a caller whose looks have come to this. -/
def Waiter.ofLooks : WaitResult → Waiter
  | .asleep => .sleeping
  | result => .returned result

namespace WaitRoom

/-- Set the flag, raise the signal where asked for, and wake whoever sleeps. -/
def stir (w : WaitRoom) (l : Look) : WaitRoom :=
  ({ w with flag := l.condition, signal := w.signal || l.raised }).wake.2

/-- A caller that has returned looks no more. -/
theorem waiter_stir_of_returned {w : WaitRoom} {result : WaitResult} (hreturned : w.waiter = .returned result)
    (looks : List Look) : (looks.foldl stir w).waiter = .returned result := by
  induction looks generalizing w with
  | nil => exact hreturned
  | cons l rest ih =>
    have hstirred : (w.stir l).waiter = .returned result := by
      have hgone : ({ w with flag := l.condition, signal := w.signal || l.raised } : WaitRoom).hasWaiters = false := by
        simp [hasWaiters, hreturned]
      rw [stir, wake, hgone, if_neg Bool.false_ne_true]
      exact hreturned
    exact ih hstirred

/-- A caller that looks now, and again whenever it is woken, comes to what the wait comes to through these
looks. -/
theorem waiter_stir_lookAgain (w : WaitRoom) (looks : List Look) :
    (looks.foldl stir w.lookAgain).waiter =
      .ofLooks (WaitQueue.waitUntil w.signal (⟨false, w.flag⟩ :: looks)).1 := by
  induction looks generalizing w with
  | nil => cases hflag : w.flag <;> cases hsignal : w.signal <;>
      simp [lookAgain, WaitQueue.waitUntil, WaitQueue.look, Waiter.ofLooks, hflag, hsignal]
  | cons l rest ih =>
    cases hflag : w.flag with
    | true =>
      have hready : w.lookAgain.waiter = .returned .ready := by simp [lookAgain, WaitQueue.look, hflag]
      rw [waiter_stir_of_returned hready]
      simp [WaitQueue.waitUntil, WaitQueue.look, Waiter.ofLooks]
    | false =>
      cases hsignal : w.signal with
      | true =>
        have hinterrupted : w.lookAgain.waiter = .returned .interrupted := by
          simp [lookAgain, WaitQueue.look, hflag, hsignal]
        rw [waiter_stir_of_returned hinterrupted]
        simp [WaitQueue.waitUntil, WaitQueue.look, Waiter.ofLooks]
      | false =>
        have hwoken : w.lookAgain.stir l = (⟨l.raised, l.condition, .sleeping⟩ : WaitRoom).lookAgain := by
          simp [lookAgain, WaitQueue.look, stir, wake, hasWaiters, hflag, hsignal]
        rw [List.foldl_cons, hwoken, ih]
        simp [WaitQueue.waitUntil, WaitQueue.look]

/-- A caller is counted in the queue exactly as long as its wait goes on. -/
theorem waits_in_queue {w w' : WaitRoom} (hspawn : w.spawn? = some w') (looks : List Look) :
    (looks.foldl stir w').waiter = .ofLooks (WaitQueue.waitUntil w.signal (⟨false, w.flag⟩ :: looks)).1 ∧
      ((looks.foldl stir w').hasWaiters = true ↔
        (WaitQueue.waitUntil w.signal (⟨false, w.flag⟩ :: looks)).1 = .asleep) := by
  have hlooked : w' = w.lookAgain := by
    unfold spawn? at hspawn
    split at hspawn
    · exact (Option.some.inj hspawn).symm
    · contradiction
  have hwaiter := w.waiter_stir_lookAgain looks
  rw [← hlooked] at hwaiter
  refine ⟨hwaiter, ?_⟩
  rw [hasWaiters, hwaiter]
  cases (WaitQueue.waitUntil w.signal (⟨false, w.flag⟩ :: looks)).1 <;> simp [Waiter.ofLooks]

end WaitRoom

/-! ## What is pending -/

namespace Happening

/-- The move has used a pending cancellation up, or has dropped it. -/
def Drops (h : Happening) : Prop := h.before.drops h.move = true

/-- A call was cancelled. -/
def Cancelled (h : Happening) : Prop := h.outcome.isCancelled = true

end Happening

/-- A cancellation is pending: one has come, or was pending at first, and nothing has used it up since. -/
def Pending (atFirst : Prop) (past : List Happening) : Prop :=
  (atFirst ∧ ∀ g ∈ past, ¬ g.Drops) ∨
    ∃ before h after, past = before ++ h :: after ∧ h.move = .interrupt ∧ ∀ g ∈ after, ¬ g.Drops

/-- Before anything has happened there is what was pending at first. -/
theorem pending_nil (atFirst : Prop) : Pending atFirst [] ↔ atFirst := by
  constructor
  · rintro (⟨hfirst, -⟩ | ⟨before, h, after, hpast, -⟩)
    · exact hfirst
    · exact absurd hpast.symm (by simp)
  · exact fun hfirst => .inl ⟨hfirst, by simp⟩

/-- What is pending after one more move. -/
theorem pending_concat (atFirst : Prop) (past : List Happening) (h : Happening) :
    Pending atFirst (past ++ [h]) ↔ h.move = .interrupt ∨ (Pending atFirst past ∧ ¬ h.Drops) := by
  constructor
  · rintro (⟨hfirst, hnone⟩ | ⟨before, i, after, hpast, hmove, hnone⟩)
    · exact .inr ⟨.inl ⟨hfirst, fun g hg => hnone g (List.mem_append_left _ hg)⟩, hnone h (by simp)⟩
    · rcases split_concat hpast with ⟨-, -, rfl⟩ | ⟨rest, rfl, rfl⟩
      · exact .inl hmove
      · exact .inr ⟨.inr ⟨before, i, rest, rfl, hmove, fun g hg => hnone g (List.mem_append_left _ hg)⟩,
          hnone h (by simp)⟩
  · rintro (hmove | ⟨⟨hfirst, hnone⟩ | ⟨before, i, after, rfl, hmove, hnone⟩, hkeeps⟩)
    · exact .inr ⟨past, h, [], rfl, hmove, by simp⟩
    · exact .inl ⟨hfirst, List.forall_mem_append.mpr ⟨hnone, by simpa using hkeeps⟩⟩
    · have hnone' : ∀ g ∈ after ++ [h], ¬ g.Drops := List.forall_mem_append.mpr ⟨hnone, by simpa using hkeeps⟩
      exact .inr ⟨before, i, after ++ [h], by simp, hmove, hnone'⟩

/-- What was pending earlier is what is pending at first from there. -/
theorem pending_append (atFirst : Prop) (past later : List Happening) :
    Pending atFirst (past ++ later) ↔ Pending (Pending atFirst past) later := by
  induction later using List.reverseRecOn with
  | nil => rw [List.append_nil, pending_nil]
  | append_singleton later h ih => rw [← List.append_assoc, pending_concat, pending_concat, ih]

namespace Run

variable {allowed : List Happening → Card Board → Move → Prop} {start c : Card Board} {past : List Happening}

/-- The signal is raised while a cancellation is pending. -/
theorem signal_iff (hrun : Run allowed start past c) :
    c.device.signal = true ↔ Pending (start.device.signal = true) past := by
  refine hrun.invariant (fun past c => c.device.signal = true ↔ Pending (start.device.signal = true) past)
    (pending_nil _).symm fun past c m hpast _ => ?_
  rw [c.signal_play, pending_concat, hpast, Happening.Drops, Bool.not_eq_true]

end Run

/-! ## Runs -/

/-- What becomes of cancellations while a card runs. -/
structure Card.CancelsOnce (start c : Card Board) (past : List Happening) : Prop where
  /-- The signal is raised while a cancellation is pending, and only then. -/
  signal : c.device.signal = true ↔ Pending (start.device.signal = true) past
  /-- A call is cancelled exactly if it has to wait while a cancellation is pending. -/
  call : ∀ (before after : List Happening) (h : Happening) (patience : Patience) (memory : CallerMemory)
    (call : Call), past = before ++ h :: after → h.move = .call patience memory call →
      (h.Cancelled ↔ h.before.mustWait patience call = true ∧ Pending (start.device.signal = true) before)
  /-- It has then used the cancellation up, and moved nothing, neither on the card nor in the caller's memory. -/
  cancelled : ∀ (before after : List Happening) (h : Happening) (patience : Patience) (memory : CallerMemory)
    (call : Call), past = before ++ h :: after → h.move = .call patience memory call → h.Cancelled →
      h.after.device.signal = false ∧ h.before.Unmoved h.after ∧
        (Bench.makeCall h.before memory patience call).1.2 = memory
  /-- Every other end of a call leaves what is pending; and a call sleeps only if nothing is. -/
  kept : ∀ (before after : List Happening) (h : Happening) (patience : Patience) (memory : CallerMemory)
    (call : Call), past = before ++ h :: after → h.move = .call patience memory call →
      (¬ h.Cancelled → h.after.device.signal = h.before.device.signal) ∧
      (h.outcome = .asleep ↔ h.before.mustWait patience call = true ∧
        ¬ Pending (start.device.signal = true) before ∧ call.isLimited = false)
  /-- Nothing but calls is cancelled. -/
  calls : ∀ h ∈ past, h.Cancelled → ∃ patience memory call, h.move = .call patience memory call
  /-- However many cancellations come, the first call after them that has to wait is cancelled. -/
  delivered : ∀ (before between after : List Happening) (i h : Happening) (patience : Patience)
    (memory : CallerMemory) (call : Call), past = before ++ i :: (between ++ h :: after) → i.move = .interrupt →
      (∀ g ∈ between, ¬ g.Drops) → h.move = .call patience memory call →
        h.before.mustWait patience call = true → h.Cancelled
  /-- Between two calls that were cancelled there was a cancellation. -/
  apart : ∀ (before between after : List Happening) (h h' : Happening),
    past = before ++ h :: (between ++ h' :: after) → h.Cancelled → h'.Cancelled →
      ∃ g ∈ between, g.move = .interrupt
  /-- The end of a session drops what is pending. -/
  closed : ∀ h ∈ past, h.move = .closeSession → h.after.device.signal = false

namespace Run

variable {allowed : List Happening → Card Board → Move → Prop} {start c : Card Board} {past : List Happening}

/-- A call that was cancelled has used a cancellation up. -/
theorem drops_of_cancelled {h : Happening} (hcancelled : h.Cancelled) : h.Drops ∧ h.move ≠ .interrupt := by
  obtain ⟨patience, memory, call, hmove⟩ := h.before.isCancelled_play h.move hcancelled
  have hheeded := h.before.heeded_makeCall patience memory call
  have hmust : (Bench.makeCall h.before memory patience call).1.1.isCancelled = true := by
    have houtcome : h.outcome = (Bench.makeCall h.before memory patience call).1.1 := by
      rw [Happening.outcome, hmove]
      rfl
    rw [← houtcome]
    exact hcancelled
  rw [hheeded.cancelled, Bool.and_eq_true] at hmust
  refine ⟨?_, by rw [hmove]; nofun⟩
  rw [Happening.Drops, hmove]
  exact hmust.1

/-- A card that runs delivers each cancellation once. -/
theorem cancelsOnce (hrun : Run allowed start past c) : start.CancelsOnce c past := by
  have hplayed {h : Happening} {patience : Patience} {memory : CallerMemory} {call : Call}
      (hmove : h.move = .call patience memory call) :
      h.before.HeededCall patience memory call
        ((h.outcome, (Bench.makeCall h.before memory patience call).1.2), h.after) := by
    have hheeded := h.before.heeded_makeCall patience memory call
    rw [Happening.outcome, Happening.after, hmove]
    exact hheeded
  have hpending {before after : List Happening} {h : Happening} (hpast : past = before ++ h :: after) :
      h.before.device.signal = true ↔ Pending (start.device.signal = true) before :=
    (hrun.earlier hpast).signal_iff
  have hcall {before after : List Happening} {h : Happening} {patience : Patience} {memory : CallerMemory}
      {call : Call} (hpast : past = before ++ h :: after) (hmove : h.move = .call patience memory call) :
      h.Cancelled ↔ h.before.mustWait patience call = true ∧ Pending (start.device.signal = true) before := by
    rw [← hpending hpast, ← Bool.and_eq_true, ← (hplayed hmove).cancelled]
    rfl
  refine
    { signal := hrun.signal_iff
      call := fun before after h patience memory call hpast hmove => hcall hpast hmove
      cancelled := fun before after h patience memory call hpast hmove hcancelled => ?_
      kept := fun before after h patience memory call hpast hmove => ⟨fun hnot => ?_, ?_⟩
      calls := fun h _ hcancelled => h.before.isCancelled_play h.move hcancelled
      delivered := fun before between after i h patience memory call hpast hi hnone hmove hmust => ?_
      apart := fun before between after h h' hpast hcancelled hcancelled' => ?_
      closed := fun h _ hmove => ?_ }
  · obtain ⟨hunmoved, hmemory⟩ := (hplayed hmove).unmoved hcancelled
    have hmust := ((hcall hpast hmove).mp hcancelled).1
    exact ⟨by rw [(hplayed hmove).signal, hmust, Bool.not_true, Bool.and_false], hunmoved, hmemory⟩
  · have hends := (hplayed hmove).signal
    have hanswer := (hplayed hmove).cancelled
    rw [Happening.Cancelled, hanswer] at hnot
    rw [hends]
    cases hsignal : h.before.device.signal <;> simp_all
  · rw [← hpending hpast, Bool.not_eq_true]
    exact (hplayed hmove).asleep
  · rw [← List.cons_append, ← List.append_assoc] at hpast
    refine (hcall hpast hmove).mpr ⟨hmust, .inr ⟨before, i, between, rfl, hi, hnone⟩⟩
  · obtain ⟨hdrops, hother⟩ := drops_of_cancelled hcancelled
    obtain ⟨patience, memory, call, hmove⟩ := h'.before.isCancelled_play h'.move hcancelled'
    rw [← List.cons_append, ← List.append_assoc] at hpast
    have hleft := ((hcall hpast hmove).mp hcancelled').2
    rw [List.append_cons, pending_append, pending_concat] at hleft
    rcases hleft with ⟨hstill, -⟩ | ⟨first, i, rest, rfl, hi, -⟩
    · exact absurd hstill (by simp [hother, hdrops])
    · exact ⟨i, by simp, hi⟩
  · have hsignal := h.before.signal_play h.move
    rw [hmove] at hsignal
    rw [Happening.after, hmove, ← Bool.not_eq_true, hsignal]
    simp [Card.drops]

end Run

/-- A cancellation is delivered once, and never lost within a session. On a card that runs, however its
calls, its cancellations and its completions follow each other, a cancellation stays pending until a call
has to wait, which is then cancelled and moves nothing, or until the session ends; and no call is cancelled
without one. In a single wait the first look decides that finds the condition true or the signal raised, the
condition before the signal, and only a wait that is cancelled uses the signal up, with a time limit or
without; and the caller is counted in the queue as long as its wait goes on, and no longer. -/
theorem cancellation_delivered_once {allowed : List Happening → Card Board → Move → Prop} {start c : Card Board}
    {past : List Happening} (hrun : Run allowed start past c) :
    start.CancelsOnce c past ∧
      (∀ (signal : Bool) (looks : List Look),
        WaitQueue.Ending .asleep signal looks (WaitQueue.waitUntil signal looks)) ∧
      (∀ (signal : Bool) (looks : List Look),
        WaitQueue.Ending .timedOut signal looks (WaitQueue.waitTimeout signal looks)) ∧
      ∀ (w w' : WaitRoom) (looks : List Look), w.spawn? = some w' →
        (looks.foldl WaitRoom.stir w').waiter =
            .ofLooks (WaitQueue.waitUntil w.signal (⟨false, w.flag⟩ :: looks)).1 ∧
          ((looks.foldl WaitRoom.stir w').hasWaiters = true ↔
            (WaitQueue.waitUntil w.signal (⟨false, w.flag⟩ :: looks)).1 = .asleep) :=
  ⟨hrun.cancelsOnce, WaitQueue.ending_waitUntil, WaitQueue.ending_waitTimeout,
    fun _ _ looks hspawn => WaitRoom.waits_in_queue hspawn looks⟩

/-- Two cancellations come before a call that finds a buffer free; the next one has to wait and is
cancelled, and the one after it sleeps. -/
theorem cancellation_delivered_once_small :
    ∃ past c, Run (fun _ _ _ => True) Card.small past c ∧
      past.map Happening.outcome = [.nothing, .nothing, .nothing, .number 1, .failed .restart, .asleep] ∧
      Card.small.CancelsOnce c past := by
  have hrun : Run (fun _ _ _ => True) Card.small _ _ :=
    (((((Run.nil.snoc (.openSession false) trivial).snoc .interrupt trivial).snoc .interrupt trivial).snoc
      (.call .sleeps .empty (.send 0#32 0#32 [5#32])) trivial).snoc
        (.call .sleeps .empty (.recv [0#32])) trivial).snoc (.call .sleeps .empty (.recv [0#32])) trivial
  exact ⟨_, _, hrun, rfl, (cancellation_delivered_once hrun).1⟩

end LaneCard
