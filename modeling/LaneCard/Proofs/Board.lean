import LaneCard.Board
import LaneCard.Proofs.Field
import Mathlib.Data.List.Basic
import Mathlib.Logic.Function.Basic

/-!
# Accesses to the simulated card

Which registers of the card do something when they are written: those of the free lists, those that
send, and the interrupt register. Every other register only keeps what is written to it. Raising an
interrupt moves no buffer, and the free list of one lane changes without the others.
-/

namespace LaneCard

namespace Board

/-! ## Free lists -/

/-- Replacing the free buffers of a lane leaves those of the others. -/
theorem freeList_setFree (b : Board) (lane : Nat) (addrs : List Word) (hlane : lane < laneCount) :
    (b.setFree lane addrs).freeList = Function.update b.freeList lane addrs := by
  funext k
  rw [freeList, setFree, Vector.getElem?_setIfInBounds, Function.update_apply]
  by_cases hk : k = lane
  · subst hk
    simp [hlane]
  · simp [hk, Ne.symm hk, freeList]

/-- Only the eight lanes have free buffers. -/
theorem freeList_eq_nil (b : Board) (lane : Nat) (hlane : laneCount ≤ lane) : b.freeList lane = [] := by
  rw [freeList, Vector.getElem?_eq_none (by omega)]
  rfl

/-- A lane with a free buffer exists. -/
theorem lt_of_freeList_eq_cons {b : Board} {lane : Nat} {addr : Word} {rest : List Word}
    (h : b.freeList lane = addr :: rest) : lane < laneCount := by
  by_contra hlane
  rw [b.freeList_eq_nil lane (by omega)] at h
  contradiction

/-- The buffer taken from a lane is its first one. -/
theorem takeFrom?_eq_some {b b' : Board} {lane : Nat} {addr : Word} (h : b.takeFrom? lane = some (addr, b')) :
    ∃ rest, b.freeList lane = addr :: rest ∧ b' = b.setFree lane rest := by
  unfold takeFrom? at h
  split at h
  · rename_i rest hlist
    obtain ⟨rfl, rfl⟩ := Prod.mk.inj (Option.some.inj h)
    exact ⟨rest, hlist, rfl⟩
  · contradiction

/-- A lane gives nothing only if it has nothing. -/
theorem takeFrom?_eq_none {b : Board} {lane : Nat} (h : b.takeFrom? lane = none) : b.freeList lane = [] := by
  unfold takeFrom? at h
  split at h
  · contradiction
  · assumption

/-- The buffer taken for a frame is the first one of some lane. -/
theorem takeFree?_eq_some {b b' : Board} {lane : Nat} {addr : Word} (h : b.takeFree? lane = some (addr, b')) :
    ∃ k rest, b.freeList k = addr :: rest ∧ b' = b.setFree k rest := by
  obtain ⟨k, -, hk⟩ := List.exists_of_findSome?_eq_some h
  exact ⟨k, takeFrom?_eq_some hk⟩

/-- There is no buffer for a frame only if no lane has one. -/
theorem takeFree?_eq_none {b : Board} {lane : Nat} (h : b.takeFree? lane = none) (k : Nat) :
    b.freeList k = [] := by
  by_cases hk : k < laneCount
  · apply takeFrom?_eq_none
    rw [takeFree?, List.findSome?_eq_none_iff] at h
    exact h k (List.mem_cons_of_mem _ (List.mem_range.mpr hk))
  · exact b.freeList_eq_nil k (by omega)

/-! ## Interrupts -/

/-- Raising an interrupt changes the line and marks the card as being handled, if anything. -/
theorem interrupt_eq (h : Host Board) :
    ∃ handling line, interrupt h = { h with bus := { h.bus with handling := handling }, line := line } := by
  unfold interrupt
  split
  · exact ⟨true, h.line.raise, rfl⟩
  · exact ⟨h.bus.handling, h.line, rfl⟩

/-- The interrupt register shows a completion as pending. -/
theorem pending_look (b : Board) : IrqWord.pending.isSet (b.look Offset.irq) = b.hasCompletions := by
  have hindex : indexIn Offset.irq Offset.rxFreeStat laneCount = none := by decide
  have hlook : b.look Offset.irq =
      if b.hasCompletions then IrqWord.pending.set (b.regs.get Offset.irq &&& IrqWord.enable.mask) 1#32
      else b.regs.get Offset.irq &&& IrqWord.enable.mask := by
    rw [look, hindex]
    rfl
  rw [hlook, IrqWord.pending.isSet_eq_getLsbD rfl]
  cases b.hasCompletions with
  | true => rw [if_pos rfl, IrqWord.pending.getLsbD_set (by decide)]; rfl
  | false =>
    rw [if_neg Bool.false_ne_true, BitVec.getLsbD_and, IrqWord.enable.getLsbD_mask (by decide),
      Bool.and_eq_false_iff]
    exact Or.inr (by decide)

/-- A FIFO is ready if it is not empty. -/
theorem ready_fifoWord (length : Nat) : FifoWord.ready.isSet (fifoWord length) = (length != 0) := by
  rw [fifoWord, Field.isSet_set_of_apart _ _ (by decide) (by decide) (by decide),
    FifoWord.ready.isSet_eq_getLsbD rfl, FifoWord.ready.getLsbD_set (by decide)]
  cases length != 0 <;> rfl

/-! ## Writes -/

/-- The card with a register write noted. -/
def logged (b : Board) (offset : Nat) (value : Word) : Board :=
  { b with writes := b.writes.push (offset, value) }

/-- The buffer addresses that were written to the registers that send, in order. -/
def submissions (b : Board) : List Word :=
  b.writes.toList.filterMap fun w =>
    if (indexIn w.1 Offset.txWrB laneCount).isSome then some w.2 else none

/-- A write to a register that does not send is no submission. -/
theorem submissions_logged_of_none (b : Board) {offset : Nat} (value : Word)
    (hoffset : indexIn offset Offset.txWrB laneCount = none) :
    (b.logged offset value).submissions = b.submissions := by
  simp [submissions, logged, hoffset]

/-- A write to a register that sends is one. -/
theorem submissions_logged_of_some (b : Board) {offset lane : Nat} (value : Word)
    (hoffset : indexIn offset Offset.txWrB laneCount = some lane) :
    (b.logged offset value).submissions = b.submissions ++ [value] := by
  simp [submissions, logged, hoffset]

/-- A register that does nothing with buffers, written or read, and does not limit frames. -/
def IsPlain (offset : Nat) : Prop :=
  indexIn offset Offset.rxFree laneCount = none ∧ indexIn offset Offset.txWrB laneCount = none ∧
    offset ≠ Offset.rxMaxFrame ∧ offset ≠ Offset.txRead ∧ offset ≠ Offset.rxRead + 4

instance (offset : Nat) : Decidable (IsPlain offset) := inferInstanceAs (Decidable (_ ∧ _))

/-- A register through which the card is not given the address of a buffer. -/
def TakesNoAddress (offset : Nat) : Prop :=
  indexIn offset Offset.rxFree laneCount = none ∧ indexIn offset Offset.txWrB laneCount = none

instance (offset : Nat) : Decidable (TakesNoAddress offset) := inferInstanceAs (Decidable (_ ∧ _))

/-- A register that does nothing with buffers takes no address of one. -/
theorem IsPlain.takesNoAddress {offset : Nat} (h : IsPlain offset) : TakesNoAddress offset := ⟨h.1, h.2.1⟩

/-- The registers below the free lists are plain. -/
theorem isPlain_of_lt {offset : Nat} (h : offset < Offset.rxFree) : IsPlain offset := by
  simp only [Offset.rxFree] at h
  refine ⟨?_, ?_, ?_, ?_, ?_⟩
  · rw [indexIn, if_neg (by simp only [Offset.rxFree]; omega)]
  · rw [indexIn, if_neg (by simp only [Offset.txWrB]; omega)]
  all_goals simp only [Offset.rxMaxFrame, Offset.txRead, Offset.rxRead]; omega

/-- Reading a register below the free lists gives what is stored there, apart from the interrupt register. -/
theorem look_of_lt (b : Board) {offset : Nat} (h : offset < Offset.rxFree) (hirq : offset ≠ Offset.irq) :
    b.look offset = b.regs.get offset := by
  simp only [Offset.rxFree] at h
  have hindex : indexIn offset Offset.rxFreeStat laneCount = none := by
    rw [indexIn, if_neg (by simp only [Offset.rxFreeStat]; omega)]
  have hbelow {k : Nat} (hk : 0x400 ≤ k) : offset ≠ k := by omega
  simp only [look, hindex, if_neg hirq, if_neg (hbelow (k := Offset.rxStatus) (by decide)),
    if_neg (hbelow (k := Offset.txRead) (by decide)), if_neg (hbelow (k := Offset.rxRead) (by decide)),
    if_neg (hbelow (k := Offset.rxRead + 4) (by decide)), if_neg (hbelow (k := Offset.txStat + 4) (by decide))]

/-- The position of a lane in a block of eight registers. -/
theorem indexIn_lane (base lane : Nat) (hbase : base % 4 = 0) (hlane : lane < laneCount) :
    indexIn (base + 4 * lane) base laneCount = some lane := by
  rw [indexIn, if_pos (by omega)]
  congr 1
  omega

/-- The state word of a lane shows how many free buffers it has. -/
theorem look_rxFreeStat (b : Board) {lane : Nat} (hlane : lane < laneCount) :
    b.look (Offset.rxFreeStat + 4 * lane) = freeWord (b.freeList lane).length := by
  rw [look, indexIn_lane _ _ (by decide) hlane]

/-- The registers of the free lists do not send. -/
theorem indexIn_rxFree_txWrB (lane : Nat) (hlane : lane < laneCount) :
    indexIn (Offset.rxFree + 4 * lane) Offset.txWrB laneCount = none := by
  simp only [laneCount] at hlane
  rw [indexIn, if_neg (by simp only [Offset.rxFree, Offset.txWrB, laneCount]; omega)]

/-- The registers that send are not those of the free lists. -/
theorem indexIn_txWrB_rxFree (lane : Nat) (hlane : lane < laneCount) :
    indexIn (Offset.txWrB + 4 * lane) Offset.rxFree laneCount = none := by
  simp only [laneCount] at hlane
  rw [indexIn, if_neg (by simp only [Offset.rxFree, Offset.txWrB, laneCount]; omega)]

/-- The registers that describe a frame to be sent are plain. -/
theorem isPlain_txWrA (lane : Nat) (hlane : lane < laneCount) : IsPlain (Offset.txWrA + 4 * lane) := by
  simp only [laneCount] at hlane
  refine ⟨?_, ?_, ?_, ?_, ?_⟩
  · rw [indexIn, if_neg (by simp only [Offset.rxFree, Offset.txWrA, laneCount]; omega)]
  · rw [indexIn, if_neg (by simp only [Offset.txWrB, Offset.txWrA, laneCount]; omega)]
  all_goals simp only [Offset.rxMaxFrame, Offset.txRead, Offset.rxRead, Offset.txWrA]; omega

/-- Reading a plain register changes nothing. -/
theorem fetch_of_isPlain (b : Board) {offset : Nat} (h : IsPlain offset) : b.fetch offset = b := by
  obtain ⟨-, -, -, htx, hrx⟩ := h
  rw [fetch, if_neg htx, if_neg hrx]

/-- Writing a register that neither frees nor sends a buffer stores the word; and if that enables interrupts,
one is raised for the completions that wait. -/
theorem store_eq_of_isPlain (h : Host Board) {offset : Nat} (value : Word) (hplain : IsPlain offset)
    {stored : Board} (hstored : stored = { h.bus.logged offset value with regs := h.bus.regs.set offset value }) :
    store h offset value =
      if offset = Offset.irq ∧ IrqWord.enable.isSet value = true then
        if stored.hasCompletions then interrupt { h with bus := stored }
        else { h with bus := { stored with handling := false } }
      else { h with bus := stored } := by
  obtain ⟨hfree, hsend, -⟩ := hplain
  subst hstored
  unfold store
  rw [hfree]
  dsimp only
  rw [hsend]
  rfl

/-- Whatever register it is, nothing but an interrupt comes of it. -/
theorem store_of_isPlain (h : Host Board) {offset : Nat} (value : Word) (hplain : IsPlain offset) :
    ∃ handling line,
      store h offset value =
        { h with
          bus := { h.bus.logged offset value with regs := h.bus.regs.set offset value, handling := handling }
          line := line } := by
  rw [store_eq_of_isPlain h value hplain rfl]
  split
  · split
    · obtain ⟨handling, line, hraise⟩ := interrupt_eq
        { h with bus := { h.bus.logged offset value with regs := h.bus.regs.set offset value } }
      exact ⟨handling, line, hraise⟩
    · exact ⟨_, _, rfl⟩
  · exact ⟨_, _, rfl⟩

/-- If the register is not the interrupt register, not even an interrupt comes of it. -/
theorem store_of_isPlain_of_ne (h : Host Board) {offset : Nat} (value : Word) (hplain : IsPlain offset)
    (hirq : offset ≠ Offset.irq) :
    store h offset value =
      { h with bus := { h.bus.logged offset value with regs := h.bus.regs.set offset value } } := by
  rw [store_eq_of_isPlain h value hplain rfl, if_neg fun h => hirq h.1]

/-- Disabling interrupts raises none. -/
theorem store_irq_of_disable (h : Host Board) (value : Word) (hvalue : IrqWord.enable.isSet value = false) :
    store h Offset.irq value =
      { h with
        bus := { h.bus.logged Offset.irq value with regs := h.bus.regs.set Offset.irq value } } := by
  have hother : ¬ (Offset.irq = Offset.irq ∧ IrqWord.enable.isSet value = true) := by simp [hvalue]
  rw [store_eq_of_isPlain h value (by decide) rfl, if_neg hother]

/-- Enabling interrupts raises none if no completion waits. -/
theorem store_irq_of_idle (h : Host Board) (value : Word) (hidle : h.bus.hasCompletions = false) :
    ∃ handling, store h Offset.irq value =
      { h with
        bus :=
          { h.bus.logged Offset.irq value with
            regs := h.bus.regs.set Offset.irq value
            handling := handling } } := by
  have hkept (regs : RegisterFile) :
      Board.hasCompletions { h.bus.logged Offset.irq value with regs := regs } = false := hidle
  rw [store_eq_of_isPlain h value (by decide) rfl, hkept, if_neg Bool.false_ne_true]
  split
  · exact ⟨false, rfl⟩
  · exact ⟨_, rfl⟩

/-- Enabling interrupts raises one if a completion waits, and else nothing is being handled. -/
theorem store_irq_of_enable (h : Host Board) (value : Word) (hvalue : IrqWord.enable.isSet value = true) :
    store h Offset.irq value =
      { h with
        bus :=
          { h.bus.logged Offset.irq value with
            regs := h.bus.regs.set Offset.irq value
            handling := h.bus.hasCompletions }
        line := if h.bus.hasCompletions then h.line.raise else h.line } := by
  set stored : Board := { h.bus.logged Offset.irq value with regs := h.bus.regs.set Offset.irq value } with hstored
  have hkept : stored.hasCompletions = h.bus.hasCompletions := rfl
  have henabled : stored.irqEnabled = true := by
    rw [irqEnabled, RegisterFile.get_set, if_pos rfl, hvalue]
  rw [store_eq_of_isPlain h value (by decide) hstored, if_pos ⟨rfl, hvalue⟩, hkept]
  cases hfull : h.bus.hasCompletions with
  | true =>
    rw [if_pos rfl, if_pos rfl, interrupt, hkept, hfull, henabled]
    rfl
  | false => rfl

/-- Writing an address to the free list of a lane appends it. -/
theorem store_rxFree (h : Host Board) (lane : Nat) (addr : Word) (hlane : lane < laneCount) :
    store h (Offset.rxFree + 4 * lane) addr =
      { h with
        bus :=
          (h.bus.logged (Offset.rxFree + 4 * lane) addr).setFree lane (h.bus.freeList lane ++ [addr]) } := by
  rw [store, indexIn_lane _ _ (by decide) hlane]
  rfl

/-- Writing an address to the register that sends on a lane transmits. -/
theorem store_txWrB (h : Host Board) (lane : Nat) (addr : Word) (hlane : lane < laneCount) :
    store h (Offset.txWrB + 4 * lane) addr =
      transmit { h with bus := h.bus.logged (Offset.txWrB + 4 * lane) addr } lane addr := by
  simp only [store, indexIn_txWrB_rxFree lane hlane, indexIn_lane _ _ (show Offset.txWrB % 4 = 0 by decide) hlane]
  rfl

end Board

end LaneCard
