import LaneCard.Card.Session
import LaneCard.Proofs.Holdings
import LaneCard.Proofs.Ring

/-!
# Waiting moves no buffer

A call that waits for a ring goes on exactly when the ring is not empty. Whether it goes on or not,
all that it has changed is the journal, and the cancellation signal if it used that up.
-/

namespace LaneCard

instance {α : Type} [DecidableEq α] : DecidableEq (Reply α)
  | .returned a, .returned b => decidable_of_iff (a = b) (by rw [Reply.returned.injEq])
  | .asleep, .asleep => isTrue rfl
  | .returned _, .asleep => isFalse nofun
  | .asleep, .returned _ => isFalse nofun

/-- Whether a call was cancelled. -/
def Reply.isCancelled {α : Type} : Reply α → Bool
  | returned (.error .restart) => true
  | _ => false

namespace Card

/-- A card after some work differs from before in the journal at most, and in a cancellation signal
that may have been used up. -/
structure Unmoved (c c' : Card Board) : Prop where
  host : c'.host = { c.host with journal := c'.host.journal }
  device : c'.device = { c.device with signal := c'.device.signal }
  signal : c'.device.signal = true → c.device.signal = true

namespace Unmoved

variable {c c' c'' : Card Board}

/-- No work changes nothing. -/
theorem refl (c : Card Board) : c.Unmoved c := ⟨rfl, rfl, id⟩

/-- Work that moves nothing may follow on such work. -/
theorem trans (h : c.Unmoved c') (h' : c'.Unmoved c'') : c.Unmoved c'' := by
  refine ⟨?_, ?_, fun hs => h.signal (h'.signal hs)⟩
  · rw [h'.host, h.host]
  · rw [h'.device, h.device]

/-- The buffers stay where they are. -/
theorem holdings (h : c.Unmoved c') : c'.holdings = c.holdings := by
  rw [Card.holdings, h.host, h.device]
  rfl

/-- Adding a line to the journal moves nothing. -/
theorem note (c : Card Board) (level : Level) (text : String) : c.Unmoved (c.note level text) :=
  ⟨rfl, rfl, id⟩

/-- Neither does a line for debugging. -/
theorem trace (c : Card Board) (threshold : Nat) (text : String) :
    c.Unmoved (c.trace threshold text) :=
  c.trace_induction c.Unmoved (refl c) (note c) threshold text

end Unmoved

/-- Looking once in the wait queue moves nothing, and the look ends the wait well only if the ring is
not empty. -/
theorem lookAt_unmoved (c : Card Board) (ring : Ring) :
    c.Unmoved (c.lookAt ring).2 ∧
      ((c.lookAt ring).1 = .returned (.ok ()) ↔ ring.isEmpty = false) := by
  unfold lookAt WaitQueue.look
  cases hempty : ring.isEmpty with
  | false =>
    simp only [Bool.not_false, Bool.true_or, if_true, Bool.false_eq_true, if_false, and_true]
    exact Unmoved.trace c _ _
  | true =>
    cases hdetached : c.device.detached with
    | true =>
      simp only [Bool.not_true, Bool.false_or, if_true]
      exact ⟨Unmoved.trace c _ _, by simp⟩
    | false =>
      cases hsignal : c.device.signal with
      | true => exact ⟨⟨rfl, rfl, fun _ => hsignal⟩, by simp⟩
      | false => exact ⟨Unmoved.refl c, by simp⟩

/-- A call that was not woken looks at the ring, at the card and at its own patience before it sleeps. -/
theorem waitFor_of_ne_woken (c : Card Board) {patience : Patience} (hpatience : patience ≠ .woken) (ring : Ring) :
    c.waitFor patience ring =
      if !ring.isEmpty then (.returned (.ok ()), c)
      else if c.device.detached then (.returned (.error .noDevice), c)
      else if patience = .refuses then (.returned (.error .wouldBlock), c)
      else (c.trace 2 "going to sleep").lookAt ring := by
  cases patience with
  | woken => contradiction
  | refuses | sleeps => rfl

/-- Waiting for a ring moves nothing, and goes on exactly when the ring is not empty. -/
theorem waitFor_unmoved (c : Card Board) (patience : Patience) (ring : Ring) :
    c.Unmoved (c.waitFor patience ring).2 ∧
      ((c.waitFor patience ring).1 = .returned (.ok ()) ↔ ring.isEmpty = false) := by
  have hwaiting : patience ≠ .woken →
      c.Unmoved (c.waitFor patience ring).2 ∧
        ((c.waitFor patience ring).1 = .returned (.ok ()) ↔ ring.isEmpty = false) := fun hpatience => by
    rw [c.waitFor_of_ne_woken hpatience]
    cases hempty : ring.isEmpty with
    | false => exact ⟨Unmoved.refl c, by simp⟩
    | true =>
      simp only [Bool.not_true, Bool.false_eq_true, if_false]
      split
      · exact ⟨Unmoved.refl c, by simp⟩
      · split
        · exact ⟨Unmoved.refl c, by simp⟩
        · obtain ⟨hlook, hends⟩ := (c.trace 2 "going to sleep").lookAt_unmoved ring
          exact ⟨(Unmoved.trace c _ _).trans hlook, by rw [hends, hempty]⟩
  cases patience with
  | woken => exact c.lookAt_unmoved ring
  | refuses => exact hwaiting nofun
  | sleeps => exact hwaiting nofun

/-- A wait that fails has not touched the caller's memory. -/
theorem waitFor_error (c : Card Board) (patience : Patience) (ring : Ring) (e : CardError)
    (he : (c.waitFor patience ring).1 = .returned (.error e)) :
    e = .noDevice ∨ e = .restart ∨ e = .wouldBlock := by
  have hlook (d : Card Board) (hd : (d.lookAt ring).1 = .returned (.error e)) :
      e = .noDevice ∨ e = .restart ∨ e = .wouldBlock := by
    unfold lookAt at hd
    split at hd
    · dsimp only at hd
      split at hd
      · exact Or.inl (Except.error.inj (Reply.returned.inj hd)).symm
      · cases hd
    · exact Or.inr (Or.inl (Except.error.inj (Reply.returned.inj hd)).symm)
    · cases hd
  unfold waitFor at he
  split at he
  · exact hlook c he
  · split at he
    · cases he
    · split at he
      · exact Or.inl (Except.error.inj (Reply.returned.inj he)).symm
      · split at he
        · exact Or.inr (Or.inr (Except.error.inj (Reply.returned.inj he)).symm)
        · exact hlook _ he

/-- On a card in use that nobody has cancelled, a call for an empty ring fails or sleeps. -/
theorem waitFor_of_isEmpty (c : Card Board) (patience : Patience) (ring : Ring)
    (hempty : ring.isEmpty = true) (hdetached : c.device.detached = false)
    (hsignal : c.device.signal = false) :
    (c.waitFor patience ring).1 =
      if patience = .refuses then .returned (.error .wouldBlock) else .asleep := by
  have hlook (d : Card Board) (hd : d.device = c.device) : (d.lookAt ring).1 = .asleep := by
    simp [lookAt, WaitQueue.look, hempty, hd, hdetached, hsignal]
  have htrace : (c.trace 2 "going to sleep").device = c.device := by
    unfold trace
    split <;> rfl
  cases patience with
  | woken => exact hlook c rfl
  | refuses => simp [waitFor, hempty, hdetached]
  | sleeps => simp [waitFor, hempty, hdetached, hlook _ htrace]

/-! ## The answer of a wait -/

/-- What waiting for a ring comes to. -/
def waitAnswer (c : Card Board) (patience : Patience) (ring : Ring) : Reply Unit :=
  if !ring.isEmpty then .returned (.ok ())
  else if c.device.detached then .returned (.error .noDevice)
  else if patience = .refuses then .returned (.error .wouldBlock)
  else if c.device.signal then .returned (.error .restart)
  else .asleep

/-- The card after a wait: the journal may have gone on, and a call that was cancelled has used the signal
up. -/
def waited (c : Card Board) (journal : Journal) (cancelled : Bool) : Card Board :=
  { host := { c.host with journal := journal }
    device := { c.device with signal := c.device.signal && !cancelled } }

/-- If neither the journal has gone on nor the call was cancelled, the card is as it was. -/
theorem waited_false (c : Card Board) : c.waited c.host.journal false = c := by
  rw [waited, Bool.not_false, Bool.and_true]

/-- A line in the journal leaves all else as it is. -/
theorem note_eq_waited (c : Card Board) (level : Level) (text : String) :
    ∃ journal, c.note level text = c.waited journal false := by
  refine ⟨(c.note level text).host.journal, ?_⟩
  rw [waited, Bool.not_false, Bool.and_true]
  rfl

/-- So does a line for debugging. -/
theorem trace_eq_waited (c : Card Board) (threshold : Nat) (text : String) :
    ∃ journal, c.trace threshold text = c.waited journal false :=
  c.trace_induction (fun d => ∃ journal, d = c.waited journal false) ⟨_, c.waited_false.symm⟩ c.note_eq_waited
    threshold text

/-- Looking once answers as a wait that does not give up. -/
theorem lookAt_eq (c : Card Board) (ring : Ring) :
    ∃ journal, c.lookAt ring =
      (c.waitAnswer .woken ring, c.waited journal (c.waitAnswer .woken ring).isCancelled) := by
  obtain ⟨journal, htrace⟩ := c.trace_eq_waited 2 "woke up"
  unfold lookAt WaitQueue.look waitAnswer
  cases hempty : ring.isEmpty with
  | false => exact ⟨journal, by simp [htrace, Reply.isCancelled]⟩
  | true =>
    cases hdetached : c.device.detached with
    | true => exact ⟨journal, by simp [htrace, Reply.isCancelled]⟩
    | false =>
      refine ⟨c.host.journal, ?_⟩
      cases hsignal : c.device.signal with
      | true => simp [Reply.isCancelled, waited, hsignal]
      | false => simp [Reply.isCancelled, waited_false]

/-- A wait answers by the ring, the card and the patience of the caller, in that order. -/
theorem waitFor_eq (c : Card Board) (patience : Patience) (ring : Ring) :
    ∃ journal, c.waitFor patience ring =
      (c.waitAnswer patience ring, c.waited journal (c.waitAnswer patience ring).isCancelled) := by
  have hwaiting : patience ≠ .woken → ∃ journal, c.waitFor patience ring =
      (c.waitAnswer patience ring, c.waited journal (c.waitAnswer patience ring).isCancelled) := by
    intro hpatience
    rw [c.waitFor_of_ne_woken hpatience, waitAnswer]
    cases hempty : ring.isEmpty with
    | false => exact ⟨_, Prod.ext rfl c.waited_false.symm⟩
    | true =>
      cases hdetached : c.device.detached with
      | true => exact ⟨_, Prod.ext rfl c.waited_false.symm⟩
      | false =>
        by_cases hrefuses : patience = .refuses
        · simp only [if_pos hrefuses]
          exact ⟨_, Prod.ext rfl c.waited_false.symm⟩
        · obtain ⟨asleep, htrace⟩ := c.trace_eq_waited 2 "going to sleep"
          obtain ⟨journal, hlook⟩ := (c.waited asleep false).lookAt_eq ring
          refine ⟨journal, ?_⟩
          rw [htrace, hlook]
          simp [waitAnswer, waited, hempty, hdetached, hrefuses]
  cases patience with
  | woken => exact c.lookAt_eq ring
  | refuses => exact hwaiting nofun
  | sleeps => exact hwaiting nofun

end Card

end LaneCard
