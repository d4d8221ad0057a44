import LaneCard.Card.Basic
import LaneCard.Register.Layout

/-!
# Diagnostics

Where the buffers of a card are, and what has gone wrong so far.
-/

namespace LaneCard

/-- Where the buffers are. -/
structure Diagnostics where
  /-- Frames to be read. -/
  rxQueued : Nat
  rxBuffers : Nat
  /-- Receive buffers that the card says it has. -/
  rxFifo : Nat
  /-- Free transmit buffers. -/
  txQueued : Nat
  txBuffers : Nat
  /-- The addresses of the free transmit buffers, in order. -/
  txQueue : List Word
  /-- The transmit buffers that are not free. -/
  txMissing : List (Word × FrameMeta)
  unmatched : Nat
  /-- The collisions of both rings. -/
  collisions : Nat
  droppedClosed : Nat
  deriving Repr, DecidableEq

namespace Card

variable {β : Type} [RegisterBus β]

/-- The receive buffers that the card says it has on a lane. -/
def freeCount (c : Card β) (lane : Nat) : Nat :=
  let word := c.host.look (Offset.rxFreeStat + 4 * lane)
  (FreeWord.valid.get word).toNat + (FreeWord.count.get word).toNat

/-- Collect the diagnostics. -/
def diagnostics (c : Card β) : Diagnostics :=
  let d := c.device
  let queue := d.txFree.toList.filterMap fun i => (d.txPool.buffers[i]?).map Buffer.addr
  { rxQueued := d.rxReady.length
    rxBuffers := d.rxPool.size
    rxFifo := (List.range laneCount).foldl (fun total lane => total + c.freeCount lane) 0
    txQueued := d.txFree.length
    txBuffers := d.txPool.size
    txQueue := queue
    txMissing :=
      (d.txPool.buffers.toList.filter fun b => !queue.contains b.addr).map
        fun b => (b.addr, b.frame)
    unmatched := d.unmatched
    collisions := d.txFree.collisions + d.rxReady.collisions
    droppedClosed := d.droppedClosed }

/-- The diagnostics as lines of text. -/
def diagnosticLines (d : Diagnostics) : List String :=
  [s!"Rx Queue contains {d.rxQueued} out of {d.rxBuffers} buffers",
    s!"Rx Fifo contains {d.rxFifo} out of {d.rxBuffers} buffers",
    s!"Tx Queue contains {d.txQueued} out of {d.txBuffers} buffers"] ++
  (d.txMissing.map fun m =>
    "Tx Buffer " ++ Text.hexWord m.1.toNat ++ s!" is missing! Lane={m.2.lane.toNat}, " ++
      s!"Vc={m.2.vc.toNat}, Length={m.2.length.toNat}") ++
  (d.txQueue.map fun addr => "Tx Queue Entry " ++ Text.hexWord addr.toNat) ++
  [s!"unmatched={d.unmatched}, collisions={d.collisions}, " ++
    s!"dropped while closed={d.droppedClosed}"]

/-- Write the diagnostics to the journal, unless its level of detail is zero. -/
def dumpDiagnostics (c : Card β) : Card β :=
  if c.device.debug = 0#32 then
    c.note .warn "attempt to dump debug with debug level of zero"
  else (diagnosticLines c.diagnostics).foldl (fun c line => c.note .debug line) c

/-- What holds of a card, and of it after any line in the journal, holds after the diagnostics were written. -/
theorem dumpDiagnostics_induction (P : Card β → Prop) (hnote : ∀ c level text, P c → P (c.note level text))
    (c : Card β) (hc : P c) : P c.dumpDiagnostics := by
  have hlines (lines : List String) (d : Card β) (hd : P d) :
      P (lines.foldl (fun c line => c.note .debug line) d) := by
    induction lines generalizing d with
    | nil => exact hd
    | cons line rest ih => exact ih _ (hnote d .debug line hd)
  unfold dumpDiagnostics
  split
  · exact hnote c _ _ hc
  · exact hlines _ c hc

end Card

end LaneCard
