import LaneCard.Interrupt.Line

/-!
# Interrupt handlers

A handler waits on a line and calls back once per successful wait, until the callback
declines, the handler is stopped or the line is closed. The callback may itself raise and
close the line and stop the handler; here it is given by what it does at each call.
-/

namespace LaneCard

/-- What one call of the callback does. -/
structure Reaction where
  /-- The number of interrupts it raises first. -/
  raises : Nat
  /-- Whether it closes the line then. -/
  closes : Bool
  /-- Whether it stops the handler then. -/
  stops : Bool
  /-- Whether it asks to be called again. -/
  again : Bool
  deriving Repr, DecidableEq

/-- A reaction that asks to be called again only if something will wake the handler. -/
def Reaction.prudent (raises : Nat) (closes stops quits : Bool) : Reaction :=
  ⟨raises, closes, stops, !quits && (raises != 0 || closes || stops)⟩

/-- A handler on a line. -/
structure IrqHandler where
  line : IrqLine
  running : Bool
  deriving Repr, DecidableEq

namespace IrqHandler

/-- A handler that has not been started. -/
def new (number : Nat) : IrqHandler := ⟨IrqLine.new number, false⟩

/-- Stop the handler and wake it by closing its line. -/
def stop (h : IrqHandler) : IrqHandler := ⟨h.line.close, false⟩

/-- The handler after one call of the callback. -/
def react (h : IrqHandler) (r : Reaction) : IrqHandler :=
  let raised := { h with line := h.line.raiseTimes r.raises }
  let closed := if r.closes then { raised with line := raised.line.close } else raised
  if r.stops then closed.stop else closed

/-- How a run of a handler ends. -/
inductive RunEnd where
  /-- The loop was left. -/
  | finished
  /-- The handler sleeps on its line. -/
  | asleep
  deriving Repr, DecidableEq

/-- The loop of a handler, which looks before each wait and after it whether the handler is running.
Each call notes whether it is; a callback with nothing more to do is called once more, which is noted
as nothing, and declines. -/
def loop (h : IrqHandler) (script : List Reaction) :
    List (Option Bool) × RunEnd × IrqHandler :=
  if !h.running then ([], .finished, { h with running := false })
  else
    match h.line.wait? with
    | none => ([], .asleep, h)
    | some (.error _, line) => ([], .finished, ⟨line, false⟩)
    | some (.ok _, line) =>
      if !h.running then ([], .finished, ⟨line, false⟩)
      else
        match script with
        | [] => ([none], .finished, ⟨line, false⟩)
        | r :: rest =>
          let after := react ⟨line, h.running⟩ r
          if r.again then
            let (calls, ending, last) := after.loop rest
            (some h.running :: calls, ending, last)
          else ([some h.running], .finished, { after with running := false })

/-- Start the handler and run its loop. -/
def run (h : IrqHandler) (script : List Reaction) : List (Option Bool) × RunEnd × IrqHandler :=
  loop { h with running := true } script

end IrqHandler

end LaneCard
