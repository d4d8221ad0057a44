import LaneCard.Proofs.Wires

/-!
# Interrupts are counted

However a line is raised, waited on and closed, no interrupt is lost before it is closed: what the waits
have taken and what is still to take are together as many as have arrived. A closed line stays closed, and
sends everybody away who waits.
-/

namespace LaneCard

/-- Something that is done to a line. -/
inductive LineStep where
  | raise
  | wait
  | waitTimeout
  | close
  deriving Repr, DecidableEq

/-- The answer of a closed line: whoever waits is told that it was closed. -/
def LineStep.closedAnswer : LineStep → Option (Except PlatformError Nat)
  | wait | waitTimeout => some (.error .disconnected)
  | raise | close => none

namespace IrqLine

/-- Do a step. Gives the answer of a wait that has come to its end; one without a time limit goes on while
nothing has arrived. -/
def play (l : IrqLine) : LineStep → Option (Except PlatformError Nat) × IrqLine
  | .raise => (none, l.raise)
  | .wait =>
    match l.wait? with
    | some (answer, l) => (some answer, l)
    | none => (none, l)
  | .waitTimeout => (some l.waitTimeout.1, l.waitTimeout.2)
  | .close => (none, l.close)

/-- Do one step after the other. -/
def playAll (l : IrqLine) : List LineStep → List (Option (Except PlatformError Nat)) × IrqLine
  | [] => ([], l)
  | step :: rest => ((l.play step).1 :: ((l.play step).2.playAll rest).1, ((l.play step).2.playAll rest).2)

/-- The number of interrupts that an answer has taken. -/
def count : Option (Except PlatformError Nat) → Nat
  | some (.ok n) => n
  | _ => 0

/-- The number of interrupts that the waits have taken together. -/
def taken : List (Option (Except PlatformError Nat)) → Nat
  | [] => 0
  | answer :: rest => count answer + taken rest

/-- The interrupts that arrive before a line is closed. -/
def arrivals (steps : List LineStep) : Nat := (steps.takeWhile (· != .close)).count .raise

/-- Steps are done in order. -/
theorem playAll_append (l : IrqLine) (before after : List LineStep) :
    l.playAll (before ++ after) =
      ((l.playAll before).1 ++ ((l.playAll before).2.playAll after).1, ((l.playAll before).2.playAll after).2) := by
  induction before generalizing l with
  | nil => rfl
  | cons step rest ih => simp only [List.cons_append, playAll, ih]

/-- A wait on a closed line fails at once. -/
theorem wait?_of_closed {l : IrqLine} (hclosed : l.closed = true) : l.wait? = some (.error .disconnected, l) :=
  if_pos hclosed

/-- A closed line is left as it is, and answers as one. -/
theorem play_of_closed {l : IrqLine} (hclosed : l.closed = true) (step : LineStep) :
    l.play step = (step.closedAnswer, l) := by
  cases step with
  | raise => rw [play, raise, if_pos hclosed, LineStep.closedAnswer]
  | wait => rw [play, wait?_of_closed hclosed, LineStep.closedAnswer]
  | waitTimeout => rw [play, waitTimeout, wait?_of_closed hclosed, LineStep.closedAnswer, Option.getD_some]
  | close =>
    have hsame : l.close = l := by rw [close, ← hclosed]
    rw [play, hsame, LineStep.closedAnswer]

/-- So it stays. -/
theorem playAll_of_closed {l : IrqLine} (hclosed : l.closed = true) (steps : List LineStep) :
    l.playAll steps = (steps.map LineStep.closedAnswer, l) := by
  induction steps with
  | nil => rfl
  | cons step rest ih => rw [playAll, play_of_closed hclosed, ih, List.map_cons]

/-- A closed line gives nobody an interrupt. -/
theorem taken_closedAnswers (steps : List LineStep) : taken (steps.map LineStep.closedAnswer) = 0 := by
  induction steps with
  | nil => rfl
  | cons step rest ih => cases step <;> simp [taken, ih, LineStep.closedAnswer, count]

/-- While a line is open a step that does not close it leaves it open, and what has arrived by then is
either taken or still there. -/
theorem play_of_open {l : IrqLine} (hopen : l.closed = false) {step : LineStep} (hstep : step ≠ .close) :
    (l.play step).2.closed = false ∧
      count (l.play step).1 + (l.play step).2.pending = l.pending + if step = .raise then 1 else 0 := by
  have hwait : l.wait? = if 0 < l.pending then some (.ok l.pending, { l with pending := 0 }) else none := by
    rw [wait?, hopen, if_neg Bool.false_ne_true]
  cases step with
  | raise =>
    have hraised : l.raise = { l with pending := l.pending + 1 } := by rw [raise, hopen, if_neg Bool.false_ne_true]
    rw [play, hraised]
    exact ⟨hopen, by simp [count]⟩
  | wait =>
    by_cases hpending : 0 < l.pending
    · rw [play, hwait, if_pos hpending]
      exact ⟨hopen, by simp [count]⟩
    · rw [play, hwait, if_neg hpending]
      exact ⟨hopen, by simp [count]⟩
  | waitTimeout =>
    by_cases hpending : 0 < l.pending
    · rw [play, waitTimeout, hwait, if_pos hpending]
      exact ⟨hopen, by simp [count]⟩
    · rw [play, waitTimeout, hwait, if_neg hpending]
      exact ⟨hopen, by simp [count]⟩
  | close => contradiction

/-- What has arrived before a line is closed is either taken or still there. -/
theorem taken_playAll {l : IrqLine} (hopen : l.closed = false) (steps : List LineStep) :
    taken (l.playAll steps).1 + (l.playAll steps).2.pending = l.pending + arrivals steps := by
  induction steps generalizing l with
  | nil => simp [playAll, taken, arrivals]
  | cons step rest ih =>
    by_cases hclose : step = .close
    · subst hclose
      have hclosed : l.close.closed = true := rfl
      rw [playAll, play, playAll_of_closed hclosed]
      simp [taken, count, taken_closedAnswers, arrivals, close]
    · obtain ⟨hstill, hcount⟩ := l.play_of_open hopen hclose
      have hrest := ih hstill
      have harrivals : arrivals (step :: rest) = (if step = .raise then 1 else 0) + arrivals rest := by
        rw [arrivals, List.takeWhile_cons_of_pos (by simpa using hclose), List.count_cons, arrivals, Nat.add_comm]
        simp
      rw [playAll]
      dsimp only
      rw [taken, harrivals]
      omega

/-- A line is closed by the step that closes it, and by no other. -/
theorem closed_playAll (l : IrqLine) (steps : List LineStep) :
    (l.playAll steps).2.closed = true ↔ l.closed = true ∨ .close ∈ steps := by
  induction steps generalizing l with
  | nil => simp [playAll]
  | cons step rest ih =>
    rw [playAll, ih]
    cases hclosed : l.closed with
    | true => rw [play_of_closed hclosed]; simp [hclosed]
    | false =>
      by_cases hclose : step = .close
      · subst hclose
        simp [play, close]
      · rw [(l.play_of_open hclosed hclose).1]
        simp [Ne.symm hclose]

end IrqLine

end LaneCard
