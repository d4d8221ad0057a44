import LaneCard.Proofs.Ring

/-!
# A ring is a queue that overflows

Seen from outside, a ring is a list that takes one entry more than its capacity and loses all of them
to the next one. Its indices go around the slots, and the slots outside of them keep old numbers; none
of that shows, whatever was written to the ring and taken from it, and however often it has overflowed.

A ring is listed by going from the read index to the write index. `walk?` is that way with a bound on
the steps; as many steps as there are entries are enough, and fewer are not.
-/

namespace LaneCard.Ring

/-! ## What is done with a ring -/

/-- A use of a ring. -/
inductive Act where
  | push (entry : Nat)
  | pop
  | peek
  deriving Repr, DecidableEq

/-- What is answered to a use. -/
inductive Answer where
  | pushed (result : PushResult)
  | oldest (entry : Option Nat)
  deriving Repr, DecidableEq

/-- The answer to one use, and the ring after it. -/
def act (r : Ring) : Act → Answer × Ring
  | .push entry => (.pushed (r.push entry).1, (r.push entry).2)
  | .pop => (.oldest r.pop.1, r.pop.2)
  | .peek => (.oldest r.peek?, r)

/-- The answers to uses in the given order, and the ring after them. -/
def acts (r : Ring) : List Act → List Answer × Ring
  | [] => ([], r)
  | first :: rest => ((r.act first).1 :: ((r.act first).2.acts rest).1, ((r.act first).2.acts rest).2)

/-- The entries on the way from an index to the write index, if it takes at most so many steps. -/
def walk? (r : Ring) : Nat → Fin (r.capacity + 2) → Option (List Nat)
  | 0, i => if i = r.write then some [] else none
  | n + 1, i => if i = r.write then some [] else (r.walk? n (r.succ i)).map (r.slots[i] :: ·)

/-! ## The list that a ring stands for -/

/-- A list of limited length that counts how often it has lost everything. -/
structure Queue where
  capacity : Nat
  entries : List Nat
  overflows : Nat
  deriving Repr, DecidableEq

namespace Queue

/-- The answer to one use, and the list after it. -/
def act (q : Queue) : Act → Answer × Queue
  | .push entry =>
    if q.entries.length < q.capacity + 1 then (.pushed .stored, { q with entries := q.entries ++ [entry] })
    else (.pushed .collision, { q with entries := [], overflows := q.overflows + 1 })
  | .pop => (.oldest q.entries.head?, { q with entries := q.entries.tail })
  | .peek => (.oldest q.entries.head?, q)

/-- The answers to uses in the given order, and the list after them. -/
def acts (q : Queue) : List Act → List Answer × Queue
  | [] => ([], q)
  | first :: rest => ((q.act first).1 :: ((q.act first).2.acts rest).1, ((q.act first).2.acts rest).2)

end Queue

/-- The list that a ring stands for. -/
def queue (r : Ring) : Queue := ⟨r.capacity, r.toList, r.collisions⟩

/-- Each use does to the ring what it does to the list, and is answered alike. -/
theorem act_queue (r : Ring) (a : Act) : (r.act a).1 = (r.queue.act a).1 ∧ (r.act a).2.queue = (r.queue.act a).2 := by
  cases a with
  | push entry =>
    have hlength := r.length_lt
    have hentries : r.queue.entries.length = r.length := r.length_toList
    by_cases hroom : r.length ≤ r.capacity
    · have hlist : r.queue.entries.length < r.queue.capacity + 1 := by
        rw [hentries]
        change r.length < r.capacity + 1
        omega
      rw [Queue.act, if_pos hlist]
      refine ⟨congrArg Answer.pushed (congrArg Prod.fst (r.push_of_room entry hroom)), ?_⟩
      simp only [act, queue, push_capacity, toList_push r entry hroom, collisions_push r entry hroom]
    · have hlist : ¬ r.queue.entries.length < r.queue.capacity + 1 := by
        rw [hentries]
        change ¬ r.length < r.capacity + 1
        omega
      have hfull : r.length = r.capacity + 1 := by omega
      rw [Queue.act, if_neg hlist]
      refine ⟨congrArg Answer.pushed (congrArg Prod.fst (r.push_of_full entry hfull)), ?_⟩
      rw [act, queue, toList_push_of_full r entry hfull, push_of_full r entry hfull]
      rfl
  | pop =>
    refine ⟨congrArg Answer.oldest r.peek?_eq_head?, ?_⟩
    simp only [act, pop, queue, Queue.act, drop_capacity, toList_drop, drop_collisions]
  | peek => exact ⟨congrArg Answer.oldest r.peek?_eq_head?, rfl⟩

/-- So do any number of uses. -/
theorem acts_queue (r : Ring) (uses : List Act) :
    (r.acts uses).1 = (r.queue.acts uses).1 ∧ (r.acts uses).2.queue = (r.queue.acts uses).2 := by
  induction uses generalizing r with
  | nil => exact ⟨rfl, rfl⟩
  | cons first rest ih =>
    obtain ⟨hanswer, hqueue⟩ := r.act_queue first
    obtain ⟨hanswers, hlast⟩ := ih (r.act first).2
    rw [hqueue] at hanswers hlast
    exact ⟨congrArg₂ List.cons hanswer hanswers, hlast⟩

/-! ## Going from the read index to the write index -/

/-- The way does not depend on where the read index is. -/
private theorem walk?_read (r : Ring) (j : Fin (r.capacity + 2)) (n : Nat) (i : Fin (r.capacity + 2)) :
    ({ r with read := j } : Ring).walk? n i = r.walk? n i := by
  induction n generalizing i with
  | zero => rfl
  | succ n ih =>
    rw [walk?, walk?]
    exact if_congr Iff.rfl rfl (congrArg _ (ih (r.succ i)))

/-- A ring is empty when its indices meet. -/
private theorem toList_eq_nil {r : Ring} (hmet : r.read = r.write) : r.toList = [] :=
  r.isEmpty_iff.mp (beq_iff_eq.mpr hmet)

/-- A ring that is not empty consists of its oldest number and of what is left without it. -/
private theorem toList_eq_cons {r : Ring} (hne : r.read ≠ r.write) :
    r.drop = { r with read := r.succ r.read } ∧ r.toList = r.slots.get r.read :: r.drop.toList := by
  have hempty : ¬ r.isEmpty = true := by
    rw [isEmpty, beq_iff_eq]
    exact hne
  have hpeek : r.peek? = some (r.slots.get r.read) := if_neg hempty
  rw [r.peek?_eq_head?] at hpeek
  obtain ⟨rest, hrest⟩ := List.head?_eq_some_iff.mp hpeek
  refine ⟨by rw [drop, if_neg hempty], ?_⟩
  rw [r.toList_drop, hrest, List.tail_cons]

/-- The way to the write index takes as many steps as there are entries, and comes upon them in order. -/
theorem walk?_eq (r : Ring) (n : Nat) :
    r.walk? n r.read = if r.toList.length ≤ n then some r.toList else none := by
  induction n generalizing r with
  | zero =>
    rw [walk?]
    by_cases hmet : r.read = r.write
    · rw [if_pos hmet, toList_eq_nil hmet]
      rfl
    · rw [if_neg hmet, (toList_eq_cons hmet).2]
      rfl
  | succ n ih =>
    rw [walk?]
    by_cases hmet : r.read = r.write
    · rw [if_pos hmet, toList_eq_nil hmet]
      rfl
    · -- Behind the first step lies the way through the ring without its oldest number.
      obtain ⟨hdrop, hcons⟩ := toList_eq_cons hmet
      have hrest : r.walk? n (r.succ r.read) = r.drop.walk? n r.drop.read := by
        rw [hdrop]
        exact (r.walk?_read (r.succ r.read) n (r.succ r.read)).symm
      rw [if_neg hmet, hrest, ih r.drop, hcons, List.length_cons, apply_ite (Option.map _)]
      exact if_congr Nat.succ_le_succ_iff.symm rfl rfl

/-! ## Any use of a ring -/

/-- What can be seen of a ring is the list, and its indices are among the slots. -/
structure Shows (r : Ring) (q : Queue) : Prop where
  capacity : r.capacity = q.capacity
  read_lt : r.read.val < r.depth
  write_lt : r.write.val < r.depth
  toList : r.toList = q.entries
  /-- Listing the ring ends, after as many steps as there are entries. -/
  walk : ∀ n, r.walk? n r.read = if q.entries.length ≤ n then some q.entries else none
  length : r.length = q.entries.length
  isEmpty : r.isEmpty = true ↔ q.entries = []
  collisions : r.collisions = q.overflows
  /-- The list never holds more than one entry above the capacity. -/
  bounded : q.entries.length ≤ q.capacity + 1

/-- A ring shows the list that it stands for. -/
theorem shows_queue (r : Ring) : r.Shows r.queue where
  capacity := rfl
  read_lt := r.read.isLt
  write_lt := r.write.isLt
  toList := rfl
  walk := r.walk?_eq
  length := r.length_toList.symm
  isEmpty := r.isEmpty_iff
  collisions := rfl
  bounded := by
    have hlength : r.queue.entries.length = r.length := r.length_toList
    rw [hlength]
    exact Nat.le_of_lt_succ r.length_lt

/-- Whatever is done with a ring, new or with some numbers from the start, it answers as the list that it
started as does, and shows that list in the end. -/
theorem refines_queue (capacity : Nat) (entries : List Nat) (uses : List Act) :
    (((new capacity).acts uses).1 = (Queue.acts ⟨capacity, [], 0⟩ uses).1 ∧
        ((new capacity).acts uses).2.Shows (Queue.acts ⟨capacity, [], 0⟩ uses).2) ∧
      ((ofList capacity entries).acts uses).1 = (Queue.acts ⟨capacity, entries.take capacity, 0⟩ uses).1 ∧
        ((ofList capacity entries).acts uses).2.Shows (Queue.acts ⟨capacity, entries.take capacity, 0⟩ uses).2 := by
  have hrefines (r : Ring) : (r.acts uses).1 = (r.queue.acts uses).1 ∧ (r.acts uses).2.Shows (r.queue.acts uses).2 := by
    obtain ⟨hanswers, hlast⟩ := r.acts_queue uses
    exact ⟨hanswers, hlast ▸ (r.acts uses).2.shows_queue⟩
  have hnew : (new capacity).queue = ⟨capacity, [], 0⟩ := congrArg (Queue.mk capacity · 0) (toList_new capacity)
  have hofList : (ofList capacity entries).queue = ⟨capacity, entries.take capacity, 0⟩ :=
    congrArg (Queue.mk capacity · 0) (toList_ofList_eq_take capacity entries)
  exact ⟨hnew ▸ hrefines (new capacity), hofList ▸ hrefines (ofList capacity entries)⟩

/-- A ring for no numbers takes one, loses it to the next, and goes on from there. -/
example :
    ((new 0).acts [.push 7, .push 8, .peek, .push 9, .pop]).1 =
      [.pushed .stored, .pushed .collision, .oldest none, .pushed .stored, .oldest (some 9)] := by decide

end LaneCard.Ring
