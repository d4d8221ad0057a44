import LaneCard.Card.Completion

/-!
# What the steps of the completion handler keep

The handler reads registers, files what it has found, and writes the interrupt register; the interrupts that
it handles are taken from the line. A relation between a card and what becomes of it that every such step
keeps is kept when a FIFO is emptied, by a call of the handler, and by calls for as long as interrupts are
pending. The theories of the handler that look at one side of a card only are instances.
-/

namespace LaneCard

/-! ## Waiting on a line -/

namespace IrqLine

/-- On an open line, interrupts that are pending are taken together. -/
theorem wait?_of_pending (l : IrqLine) (hpending : 0 < l.pending) (hclosed : l.closed = false) :
    l.wait? = some (.ok l.pending, { l with pending := 0 }) := by
  rw [wait?, hclosed, if_neg Bool.false_ne_true, if_pos hpending]

/-- On an open line without interrupts, the wait goes on. -/
theorem wait?_of_quiet (l : IrqLine) (hpending : l.pending = 0) (hclosed : l.closed = false) :
    l.wait? = none := by
  rw [wait?, hclosed, if_neg Bool.false_ne_true, hpending, if_neg (Nat.lt_irrefl 0)]

/-- A wait takes everything that has arrived on an open line, if anything has. -/
theorem wait?_eq_ok {l line : IrqLine} {n : Nat} (h : l.wait? = some (.ok n, line)) :
    l.closed = false ∧ 0 < n ∧ n = l.pending ∧ line = { l with pending := 0 } := by
  unfold wait? at h
  split at h
  · simp at h
  · rename_i hopen
    split at h
    · rename_i hpending
      obtain ⟨hcount, rfl⟩ := Prod.mk.inj (Option.some.inj h)
      obtain rfl := Except.ok.inj hcount
      exact ⟨eq_false_of_ne_true hopen, hpending, rfl, rfl⟩
    · contradiction

/-- It fails on a closed line only, and leaves it as it is. -/
theorem wait?_eq_error {l line : IrqLine} {e : PlatformError} (h : l.wait? = some (.error e, line)) :
    l.closed = true ∧ e = .disconnected ∧ line = l := by
  unfold wait? at h
  split at h
  · rename_i hclosed
    obtain ⟨he, rfl⟩ := Prod.mk.inj (Option.some.inj h)
    exact ⟨hclosed, (Except.error.inj he).symm, rfl⟩
  · split at h
    · simp at h
    · contradiction

/-- A wait neither opens nor closes a line. -/
theorem closed_of_wait? {l line : IrqLine} {n : Nat} (h : l.wait? = some (.ok n, line)) :
    line.closed = l.closed := by
  obtain ⟨-, -, -, rfl⟩ := wait?_eq_ok h
  rfl

end IrqLine

/-! ## The steps -/

namespace Card

variable {R : Card Board → Card Board → Prop}

/-- Every step of emptying the two FIFOs keeps the relation. -/
structure KeptEmptying (R : Card Board → Card Board → Prop) : Prop where
  refl (c : Card Board) : R c c
  trans {a b c : Card Board} : R a b → R b c → R a c
  read (c : Card Board) (offset : Nat) : R c (c.read offset).2
  finishTx (c : Card Board) (addr : Word) : R c (c.finishTx addr)
  finishRx (c : Card Board) (desc : RxDescriptor) : R c (c.finishRx desc)

/-- Every step of handling interrupts keeps the relation. -/
structure KeptHandling (R : Card Board → Card Board → Prop) : Prop extends KeptEmptying R where
  trace (c : Card Board) (text : String) : R c (c.trace 0 text)
  writeIrq (c : Card Board) (value : Word) : R c (c.write Offset.irq value)
  takeLine {c : Card Board} {count : Nat} {line : IrqLine} :
    c.host.line.wait? = some (.ok count, line) → R c { c with host := { c.host with line := line } }

/-! ## The handler -/

namespace KeptEmptying

/-- Words are taken from the transmit FIFO. -/
theorem takeTx (h : KeptEmptying R) (n : Nat) (c : Card Board) : R c (takeTx n c) := by
  induction n generalizing c with
  | zero => exact h.refl c
  | succ n ih =>
    unfold Card.takeTx
    dsimp only
    split
    · exact h.trans (h.trans (h.read c _) (h.finishTx _ _)) (ih _)
    · exact h.read c _

/-- Pairs are taken from the FIFO of received frames. -/
theorem takeRx (h : KeptEmptying R) (n : Nat) (c : Card Board) : R c (takeRx n c) := by
  induction n generalizing c with
  | zero => exact h.refl c
  | succ n ih =>
    have hread : R c ((c.read Offset.rxRead).2.read (Offset.rxRead + 4)).2 :=
      h.trans (h.read c _) (h.read _ _)
    unfold Card.takeRx
    dsimp only
    split
    · exact h.trans (h.trans hread (h.finishRx _ _)) (ih _)
    · exact hread

/-- The transmit FIFO is emptied, if it is ready. -/
theorem drainTx (h : KeptEmptying R) (c : Card Board) : R c c.drainTx := by
  unfold Card.drainTx
  dsimp only
  split
  · exact h.trans (h.read c _) (h.takeTx _ _)
  · exact h.read c _

/-- The FIFO of received frames is emptied, if it is ready. -/
theorem drainRx (h : KeptEmptying R) (c : Card Board) : R c c.drainRx := by
  unfold Card.drainRx
  dsimp only
  split
  · exact h.trans (h.read c _) (h.takeRx _ _)
  · exact h.read c _

end KeptEmptying

namespace KeptHandling

/-- The handler is called. -/
theorem handleInterrupt (h : KeptHandling R) (c : Card Board) : R c c.handleInterrupt.2 := by
  unfold Card.handleInterrupt
  dsimp only
  split
  · have hmasked (text : String) : R c (((c.read Offset.irq).2.trace 0 text).write Offset.irq 0#32) :=
      h.trans (h.trans (h.read c _) (h.trace _ text)) (h.writeIrq _ _)
    exact h.trans (h.trans (h.trans (hmasked _) (h.drainTx _)) (h.drainRx _)) (h.writeIrq _ _)
  · exact h.read c _

/-- The handler is called while interrupts are pending, up to a number of times. -/
theorem settleFor (h : KeptHandling R) (n : Nat) (c : Card Board) : R c (settleFor n c) := by
  induction n generalizing c with
  | zero => exact h.refl c
  | succ n ih =>
    unfold Card.settleFor
    split
    · rename_i line hwait
      exact h.trans (h.trans (h.takeLine hwait) (h.handleInterrupt _)) (ih _)
    · exact h.refl c

end KeptHandling

end Card

end LaneCard
