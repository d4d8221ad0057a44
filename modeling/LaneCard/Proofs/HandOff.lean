import LaneCard.Proofs.Ring
import Mathlib.Data.List.Perm.Basic

/-!
# Handing buffer numbers between a caller and the card

A caller takes the oldest number of a ring in three steps: it looks at the number, gives it to
the card, and only then takes it off the ring. In between the card may be done with it, and the
completion handler then writes the same number behind itself. The numbers that are not in the
ring are the card's, so the ring never holds more than one number above its capacity, which is
what its two additional slots are for.

The steps of both sides come in any order; each operation of the ring is one step.
-/

namespace LaneCard.HandOff

/-- How far the caller has come with the oldest number. -/
inductive Progress where
  | idle
  | looked (entry : Nat)
  /-- The number belongs to the card, and is in the ring still. -/
  | gave (entry : Nat)
  deriving Repr, DecidableEq

/-- The ring, the numbers that belong to the card, and the caller. -/
structure State where
  ring : Ring
  owned : List Nat
  caller : Progress

/-- One step of the caller, or of the completion handler. -/
inductive Act where
  | peek
  | give
  | pop
  /-- The handler writes a number to the ring, which the card is done with. -/
  | push (entry : Nat)
  deriving Repr, DecidableEq

namespace State

/-- All numbers are in the ring. -/
def transmit (n : Nat) : State := ⟨Ring.ofList n (List.range n), [], .idle⟩

/-- All numbers are the card's. -/
def receive (n : Nat) : State := ⟨Ring.new n, List.range n, .idle⟩

/-- What comes after one step, if the step can be made. -/
def step? (s : State) : Act → Option State
  | .peek =>
    match s.caller with
    | .idle => some { s with caller := (s.ring.peek?.map Progress.looked).getD .idle }
    | _ => none
  | .give =>
    match s.caller with
    | .looked entry => some { s with owned := entry :: s.owned, caller := .gave entry }
    | _ => none
  | .pop =>
    match s.caller with
    | .gave _ => some { s with ring := s.ring.pop.2, caller := .idle }
    | _ => none
  | .push entry =>
    if entry ∈ s.owned then some { s with ring := (s.ring.push entry).2, owned := s.owned.erase entry }
    else none

/-- What comes after steps in the given order, if they can be made. -/
def run? (s : State) : List Act → Option State
  | [] => some s
  | act :: rest => (s.step? act).bind (·.run? rest)

/-- The numbers that stay in the ring once the caller is done with the oldest. -/
def settled (s : State) : List Nat :=
  match s.caller with
  | .gave _ => s.ring.toList.tail
  | _ => s.ring.toList

end State

/-- A ring has room for all numbers from the start. -/
private theorem toList_transmit (n : Nat) : (State.transmit n).ring.toList = List.range n :=
  Ring.toList_ofList _ _ (Nat.le_of_eq List.length_range)

/-- What the slots of a ring for `n` numbers are there to ensure. -/
structure Safe (n : Nat) (s : State) : Prop where
  stored : ∀ entry ∈ s.owned, (s.ring.push entry).1 = .stored
  collisions : s.ring.collisions = 0
  length : s.ring.length ≤ n + 1
  /-- The caller gives no number that belongs to the card. -/
  fresh : ∀ entry, s.caller = .looked entry → entry ∉ s.owned
  /-- The caller takes off the number it has given, and no other. -/
  popped : ∀ entry, s.caller = .gave entry →
    s.ring.pop.1 = some entry ∧ s.ring.toList = entry :: s.ring.pop.2.toList
  /-- Each number is the card's or in the ring, once. -/
  accounted : s.caller = .idle → ∀ entry,
    s.ring.toList.count entry + s.owned.count entry = if entry < n then 1 else 0

/-- What every step keeps. -/
structure Invariant (n : Nat) (s : State) : Prop where
  capacity : s.ring.capacity = n
  collisions : s.ring.collisions = 0
  head : ∀ entry, s.caller = .looked entry ∨ s.caller = .gave entry → s.ring.toList.head? = some entry
  accounted : (s.settled ++ s.owned).Perm (List.range n)

namespace Invariant

variable {n : Nat} {s : State}

/-- At most one number is in the ring that the caller is about to take off. -/
private theorem length_le_settled (s : State) : s.ring.length ≤ s.settled.length + 1 := by
  rw [← Ring.length_toList, State.settled]
  split
  · rw [List.length_tail]
    omega
  · omega

/-- What is to stay in the ring and what the card has are `n` numbers together. -/
theorem length_add (hinv : Invariant n s) : s.settled.length + s.owned.length = n := by
  simpa using hinv.accounted.length_eq

/-- While the card has a number there is room for it. -/
theorem room (hinv : Invariant n s) {entry : Nat} (hentry : entry ∈ s.owned) :
    s.ring.length ≤ s.ring.capacity := by
  have howned := List.length_pos_of_mem hentry
  have hsettled := length_le_settled s
  have htotal := hinv.length_add
  rw [hinv.capacity]
  omega

/-- The number that the caller deals with is followed by the rest of the ring. -/
theorem toList_eq_cons (hinv : Invariant n s) {entry : Nat}
    (hcaller : s.caller = .looked entry ∨ s.caller = .gave entry) :
    s.ring.toList = entry :: s.ring.toList.tail := by
  obtain ⟨rest, hrest⟩ := List.head?_eq_some_iff.mp (hinv.head entry hcaller)
  rw [hrest, List.tail_cons]

/-- It holds at the start of the ring of free transmit buffers, which has all of them. -/
theorem transmit (n : Nat) : Invariant n (.transmit n) where
  capacity := rfl
  collisions := rfl
  head entry hcaller := by rcases hcaller with h | h <;> cases h
  accounted := by
    change ((State.transmit n).ring.toList ++ []).Perm (List.range n)
    rw [toList_transmit, List.append_nil]

/-- It holds at the start of the ring of readable frames, which has none. -/
theorem receive (n : Nat) : Invariant n (.receive n) where
  capacity := rfl
  collisions := rfl
  head entry hcaller := by rcases hcaller with h | h <;> cases h
  accounted := by simp [State.settled, State.receive]

/-- Looking moves no number. -/
theorem peek (hinv : Invariant n s) (hcaller : s.caller = .idle) :
    Invariant n { s with caller := (s.ring.peek?.map Progress.looked).getD .idle } := by
  have haccounted : (s.ring.toList ++ s.owned).Perm (List.range n) := by
    simpa [State.settled, hcaller] using hinv.accounted
  cases hpeek : s.ring.peek? with
  | none =>
    refine ⟨hinv.capacity, hinv.collisions, fun entry hentry => ?_, haccounted⟩
    rcases hentry with h | h <;> cases h
  | some first =>
    refine ⟨hinv.capacity, hinv.collisions, fun entry hentry => ?_, haccounted⟩
    rcases hentry with h | h <;> cases h
    rw [← Ring.peek?_eq_head?, hpeek]

/-- The card gets the number that is about to leave the ring. -/
theorem give (hinv : Invariant n s) {entry : Nat} (hcaller : s.caller = .looked entry) :
    Invariant n { s with owned := entry :: s.owned, caller := .gave entry } where
  capacity := hinv.capacity
  collisions := hinv.collisions
  head other hother := by
    rcases hother with h | h <;> cases h
    exact hinv.head entry (.inl hcaller)
  accounted := by
    have haccounted : (s.ring.toList ++ s.owned).Perm (List.range n) := by
      simpa [State.settled, hcaller] using hinv.accounted
    rw [hinv.toList_eq_cons (.inl hcaller)] at haccounted
    exact List.perm_middle.trans haccounted

/-- The number that leaves the ring has been given before. -/
theorem pop (hinv : Invariant n s) {entry : Nat} (hcaller : s.caller = .gave entry) :
    Invariant n { s with ring := s.ring.pop.2, caller := .idle } where
  capacity := (Ring.drop_capacity s.ring).trans hinv.capacity
  collisions := (Ring.drop_collisions s.ring).trans hinv.collisions
  head other hother := by rcases hother with h | h <;> cases h
  accounted := by
    have haccounted : (s.ring.toList.tail ++ s.owned).Perm (List.range n) := by
      simpa [State.settled, hcaller] using hinv.accounted
    rwa [← Ring.toList_drop] at haccounted

/-- A number that the card is done with is the last that stays in the ring. -/
private theorem settled_push (hinv : Invariant n s) {entry : Nat} (hentry : entry ∈ s.owned) (owned : List Nat) :
    State.settled { s with ring := (s.ring.push entry).2, owned := owned } = s.settled ++ [entry] := by
  have hpush := Ring.toList_push s.ring entry (hinv.room hentry)
  cases hcaller : s.caller with
  | idle => simp [State.settled, hcaller, hpush]
  | looked first => simp [State.settled, hcaller, hpush]
  | gave first =>
    -- The list is not empty here, so the new number is behind the one that leaves.
    have hcons := hinv.toList_eq_cons (.inr hcaller)
    simp only [State.settled, hcaller, hpush]
    rw [hcons, List.cons_append, List.tail_cons, List.tail_cons]

/-- A number goes from the card to the ring. -/
theorem push (hinv : Invariant n s) {entry : Nat} (hentry : entry ∈ s.owned) :
    Invariant n { s with ring := (s.ring.push entry).2, owned := s.owned.erase entry } where
  capacity := (Ring.push_capacity s.ring entry).trans hinv.capacity
  collisions := (Ring.collisions_push s.ring entry (hinv.room hentry)).trans hinv.collisions
  head other hother := by
    have hpush := Ring.toList_push s.ring entry (hinv.room hentry)
    have hcons := hinv.toList_eq_cons hother
    change (s.ring.push entry).2.toList.head? = some other
    rw [hpush, hcons, List.cons_append, List.head?_cons]
  accounted := by
    rw [hinv.settled_push hentry, List.append_assoc]
    exact ((List.perm_cons_erase hentry).symm.append_left s.settled).trans hinv.accounted

/-- Every step keeps the invariant. -/
theorem step (hinv : Invariant n s) {act : Act} {t : State} (hstep : s.step? act = some t) : Invariant n t := by
  cases act with
  | peek =>
    cases hcaller : s.caller with
    | idle =>
      simp only [State.step?, hcaller, Option.some.injEq] at hstep
      exact hstep ▸ hinv.peek hcaller
    | looked | gave => simp [State.step?, hcaller] at hstep
  | give =>
    cases hcaller : s.caller with
    | looked entry =>
      simp only [State.step?, hcaller, Option.some.injEq] at hstep
      exact hstep ▸ hinv.give hcaller
    | idle | gave => simp [State.step?, hcaller] at hstep
  | pop =>
    cases hcaller : s.caller with
    | gave entry =>
      simp only [State.step?, hcaller, Option.some.injEq] at hstep
      exact hstep ▸ hinv.pop hcaller
    | idle | looked => simp [State.step?, hcaller] at hstep
  | push entry =>
    by_cases hentry : entry ∈ s.owned
    · simp only [State.step?, hentry, if_true, Option.some.injEq] at hstep
      exact hstep ▸ hinv.push hentry
    · simp [State.step?, hentry] at hstep

/-- Steps in any order keep the invariant. -/
theorem run (hinv : Invariant n s) {acts : List Act} {t : State} (hrun : s.run? acts = some t) :
    Invariant n t := by
  induction acts generalizing s with
  | nil =>
    cases hrun
    exact hinv
  | cons act rest ih =>
    obtain ⟨next, hstep, hrest⟩ := Option.bind_eq_some_iff.mp hrun
    exact ih (hinv.step hstep) hrest

/-- What holds of the numbers is enough for the ring. -/
theorem safe (hinv : Invariant n s) : Safe n s where
  stored entry hentry := by rw [Ring.push_of_room _ _ (hinv.room hentry)]
  collisions := hinv.collisions
  length := by
    have hsettled := length_le_settled s
    have htotal := hinv.length_add
    omega
  fresh entry hcaller hentry := by
    -- The number is in the ring already, and no number occurs twice.
    have hnodup : (s.ring.toList ++ s.owned).Nodup := by
      have hperm := hinv.accounted
      rw [State.settled, hcaller] at hperm
      exact hperm.nodup_iff.mpr List.nodup_range
    rw [hinv.toList_eq_cons (.inl hcaller), List.cons_append, List.nodup_cons] at hnodup
    exact hnodup.1 (List.mem_append_right _ hentry)
  popped entry hcaller :=
    ⟨(Ring.peek?_eq_head? s.ring).trans (hinv.head entry (.inr hcaller)),
      (hinv.toList_eq_cons (.inr hcaller)).trans (congrArg _ (Ring.toList_drop s.ring).symm)⟩
  accounted hcaller entry := by
    have hcount := hinv.accounted.count_eq entry
    rw [State.settled, hcaller, List.count_append, List.nodup_range.count] at hcount
    simpa using hcount

end Invariant

/-- Whatever the order of the steps, a ring for `n` numbers has a slot for each number that the
card is done with, each number taken off is the one given before, none is given twice, and none
is lost. -/
theorem run_safe (n : Nat) {start : State} (hstart : start = .transmit n ∨ start = .receive n)
    (acts : List Act) {s : State} (hrun : start.run? acts = some s) : Safe n s := by
  rcases hstart with rfl | rfl
  · exact ((Invariant.transmit n).run hrun).safe
  · exact ((Invariant.receive n).run hrun).safe

/-- The card is done with the only number before the caller has taken it off. -/
theorem run_safe_single :
    ∃ s, (State.transmit 1).run? [.peek, .give, .push 0] = some s ∧ s.ring.toList = [0, 0] ∧ Safe 1 s :=
  ⟨_, rfl, rfl, run_safe 1 (.inl rfl) [.peek, .give, .push 0] rfl⟩

/-- Some order of steps brings the ring to one number above its capacity, so the second of the
additional slots is needed. -/
theorem length_attained (n : Nat) (hn : 0 < n) :
    ∃ s, (State.transmit n).run? [.peek, .give, .push 0] = some s ∧ s.ring.length = n + 1 := by
  have hpeek : (State.transmit n).ring.peek? = some 0 := by
    rw [Ring.peek?_eq_head?, toList_transmit, List.head?_range, if_neg (by omega)]
  have hlength : (State.transmit n).ring.length = n := by
    rw [← Ring.length_toList, toList_transmit, List.length_range]
  refine ⟨⟨((State.transmit n).ring.push 0).2, [], .gave 0⟩, ?_, ?_⟩
  · simp only [State.transmit] at hpeek
    simp [State.run?, State.step?, State.transmit, hpeek]
  · rw [← Ring.length_toList, Ring.toList_push _ _ (Nat.le_of_eq hlength), toList_transmit]
    simp

end LaneCard.HandOff
