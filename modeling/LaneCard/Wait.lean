import LaneCard.Error.Platform

/-!
# Waiting

A caller waits for a condition. Each time it is woken it looks at the condition first and at
the cancellation signal second: a true condition ends the wait, a raised signal cancels it
and is used up, and otherwise the caller sleeps again.
-/

namespace LaneCard

/-- The end of a wait, or that it goes on. -/
inductive WaitResult where
  | ready
  /-- The signal was raised, and is now used up. -/
  | interrupted
  /-- The time was over. -/
  | timedOut
  | asleep
  deriving Repr, DecidableEq

/-- What a waiting caller finds when it looks: whether the signal has been raised since it
last looked, and the condition. -/
structure Look where
  raised : Bool
  condition : Bool
  deriving Repr, DecidableEq

namespace WaitQueue

/-- Look at the condition and the signal once. -/
def look (condition signal : Bool) : WaitResult × Bool :=
  if condition then (.ready, signal)
  else if signal then (.interrupted, false)
  else (.asleep, signal)

/-- Wait through a sequence of looks. Gives the result, the signal, and the number of looks. -/
def waitUntil (signal : Bool) : List Look → WaitResult × Bool × Nat
  | [] => (.asleep, signal, 0)
  | l :: rest =>
    match look l.condition (signal || l.raised) with
    | (.asleep, s) =>
      let (result, last, looks) := waitUntil s rest
      (result, last, looks + 1)
    | (result, s) => (result, s, 1)

/-- Wait with a time limit: a caller that would sleep at the last look gives up. -/
def waitTimeout (signal : Bool) (looks : List Look) : WaitResult × Bool × Nat :=
  match waitUntil signal looks with
  | (.asleep, s, n) => (.timedOut, s, n)
  | other => other

end WaitQueue

/-- Another caller that waits in a queue. -/
inductive Waiter where
  | absent
  | sleeping
  | returned (result : WaitResult)
  deriving Repr, DecidableEq

/-- A queue with one signal and one condition, on which one other caller may wait. -/
structure WaitRoom where
  signal : Bool
  flag : Bool
  waiter : Waiter
  deriving Repr, DecidableEq

namespace WaitRoom

/-- A room with nobody in it. -/
def new : WaitRoom := ⟨false, false, .absent⟩

/-- Whether somebody sleeps in the queue. -/
def hasWaiters (w : WaitRoom) : Bool := w.waiter == .sleeping

/-- The other caller looks at the flag and the signal. -/
def lookAgain (w : WaitRoom) : WaitRoom :=
  match WaitQueue.look w.flag w.signal with
  | (.asleep, s) => { w with signal := s, waiter := .sleeping }
  | (result, s) => { w with signal := s, waiter := .returned result }

/-- Let the other caller wait, unless there is one already. -/
def spawn? (w : WaitRoom) : Option WaitRoom :=
  if w.waiter = .absent then some w.lookAgain else none

/-- Wake whoever sleeps: how many did. -/
def wake (w : WaitRoom) : Nat × WaitRoom :=
  if w.hasWaiters then (1, w.lookAgain) else (0, w)

/-- Collect the other caller, if it has returned. -/
def join (w : WaitRoom) : Option WaitResult × WaitRoom :=
  match w.waiter with
  | .returned result => (some result, { w with waiter := .absent })
  | _ => (none, w)

/-- Make the flag true or raise the signal, where asked for, and wake whoever sleeps. If there
is then a reason to return, the other caller is collected; its result comes with the number of
callers woken. -/
def wakeWith (w : WaitRoom) (set raise : Bool) : Nat × Option (Option WaitResult) × WaitRoom :=
  let w := { w with flag := w.flag || set, signal := w.signal || raise }
  let reason := w.flag || w.signal
  let (woken, w) := w.wake
  if reason then
    let (result, w) := w.join
    (woken, some result, w)
  else (woken, none, w)

end WaitRoom

end LaneCard
