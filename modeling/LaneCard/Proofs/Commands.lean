import LaneCard.Card.Attach
import LaneCard.Card.Control
import LaneCard.Proofs.Holdings

/-!
# Control moves no buffer

Control commands, the status of the card and detaching it write registers, but none that a buffer
depends on.
-/

namespace LaneCard.Card

/-- Setting bits of a plain register moves no buffer. -/
theorem holdings_setBits (c : Card Board) {offset : Nat} (bits : Word) (hplain : Board.IsPlain offset) :
    (c.setBits offset bits).holdings = c.holdings :=
  c.host.holdings_modify_of_isPlain c.device _ hplain

/-- Neither does clearing them. -/
theorem holdings_clearBits (c : Card Board) {offset : Nat} (bits : Word) (hplain : Board.IsPlain offset) :
    (c.clearBits offset bits).holdings = c.holdings :=
  c.host.holdings_modify_of_isPlain c.device _ hplain

/-- Writing one of eight registers below the free lists moves no buffer. -/
theorem holdings_writeIndexed {c c' : Card Board} {command : Command} {offset : Nat} {index : UInt8}
    {value : Word} (h : c.writeIndexed command offset index value = .ok c')
    (hoffset : offset + 32 ≤ Offset.rxFree) : c'.holdings = c.holdings := by
  obtain ⟨hindex, rfl⟩ := of_writeIndexed_ok h
  exact c.holdings_write_of_isPlain _ (Board.isPlain_of_lt (by omega))

/-- The diagnostics are only looked at. -/
theorem holdings_dumpDiagnostics (c : Card Board) : c.dumpDiagnostics.holdings = c.holdings :=
  dumpDiagnostics_induction (fun d => d.holdings = c.holdings) (fun _ _ _ hd => hd) c rfl

/-- A command that was performed has moved no buffer. -/
theorem holdings_perform {c c' : Card Board} {command : Command} {arg : Word}
    (h : c.perform command arg = .ok c') : c'.holdings = c.holdings := by
  cases command <;> simp only [perform, Except.ok.injEq, reduceCtorEq] at h <;> try subst h
  case countReset =>
    rw [holdings_clearBits _ _ (by decide), holdings_setBits _ _ (by decide)]
  case evrRunCode index => exact holdings_writeIndexed h (by decide)
  case evrAcceptCode index => exact holdings_writeIndexed h (by decide)
  case evrRunDelay index => exact holdings_writeIndexed h (by decide)
  case evrAcceptDelay index => exact holdings_writeIndexed h (by decide)
  case dumpDebug => exact c.holdings_dumpDiagnostics
  case setLoop | setRxReset | setTxReset | evrEnable | evrSetReset | evrSetPllRst =>
    exact c.holdings_setBits _ (by decide)
  case clrLoop | clrRxReset | clrTxReset | evrDisable | evrClrReset | evrClrPllRst =>
    exact c.holdings_clearBits _ (by decide)
  case pgpOpCode | evrMask => exact c.holdings_write_of_isPlain _ (by decide)
  case nop | setDebug => rfl

/-- Taking the status writes a register that nothing depends on. -/
theorem holdings_snapshot (c : Card Board) : c.snapshot.2.holdings = c.holdings :=
  c.holdings_write_of_isPlain _ (by decide)

/-- Control moves no buffer, whether the command is carried out or not. -/
theorem holdings_control (c : Card Board) (command : Command) (arg : Pointer) :
    (c.control command arg).2.holdings = c.holdings := by
  unfold control
  split
  · exact (holdings_snapshot _).trans (c.holdings_trace _ _)
  · dsimp only
    split
    · rfl
    · rename_i hperform
      rw [holdings_trace]
      exact holdings_perform hperform

/-- Detaching moves no buffer. -/
theorem holdings_detach (c : Card Board) : c.detach.holdings = c.holdings := by
  unfold detach
  split
  · rfl
  · rw [holdings_note]
    set stopped : Card Board := { c with device := { c.device with detached := true } }
    change (stopped.write Offset.irq 0#32).holdings = _
    rw [holdings_write_of_isPlain _ _ (by decide)]
    rfl

end LaneCard.Card
