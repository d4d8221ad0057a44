import LaneCard.Interrupt.Handler
import LaneCard.Proofs.InterruptLine
import LaneCard.Proofs.Moves

/-!
# The loop of an interrupt handler

The loop of a handler in its single steps: it looks whether it is running, waits, looks again, and calls
back. Meanwhile interrupts may come from elsewhere, and until a wait has come to its end somebody may stop
the handler or close its line. What each step keeps gives what holds of every trace, whatever the callback
does; and the loop as a function makes such traces.
-/

namespace LaneCard

namespace IrqLine

/-- Raising a line, however often, does not close it. -/
@[simp] theorem closed_raiseTimes (l : IrqLine) (n : Nat) : (l.raiseTimes n).closed = l.closed := by
  induction n generalizing l with
  | zero => rfl
  | succ n ih => rw [raiseTimes, ih, closed_raise]

/-- An open line counts every interrupt. -/
theorem pending_raiseTimes {l : IrqLine} (hopen : l.closed = false) (n : Nat) :
    (l.raiseTimes n).pending = l.pending + n := by
  induction n generalizing l with
  | zero => rfl
  | succ n ih =>
    have hraised : l.raise.pending = l.pending + 1 := by rw [raise, hopen, if_neg Bool.false_ne_true]
    rw [raiseTimes, ih ((closed_raise l).trans hopen), hraised]
    omega

end IrqLine

/-- A reaction that declines and does nothing else. -/
def Reaction.declines : Reaction := ⟨0, false, false, false⟩

namespace IrqHandler

/-! ## Steps -/

/-- Where the loop of a handler stands. -/
inductive Place where
  /-- Before it looks whether the handler is running. -/
  | entering
  | waiting
  /-- After a wait has come to its end, and before the callback is called. -/
  | woken
  | left (result : Except PlatformError Unit)

/-- Whether a call of the callback is due. -/
def Place.isWoken : Place → Bool
  | woken => true
  | _ => false

/-- What happens in a loop, or around it. -/
inductive LoopEvent where
  /-- An interrupt comes from elsewhere. -/
  | raised
  /-- Somebody else stops the handler. -/
  | stopped
  /-- Somebody else closes the line. -/
  | closed
  /-- A wait has taken so many interrupts. -/
  | woke (n : Nat)
  /-- The callback was called, and did this. -/
  | called (r : Reaction)

/-- A handler and the place of its loop. -/
structure LoopState where
  handler : IrqHandler
  place : Place

/-- One step of a loop, with what can be seen of it. The loop tests the running flag before each wait and
after it; a closed line ends it, and any other failure of a wait would be its result. -/
inductive Step : LoopState → List LoopEvent → LoopState → Prop
  | enter {h : IrqHandler} (hrunning : h.running = true) : Step ⟨h, .entering⟩ [] ⟨h, .waiting⟩
  | halt {h : IrqHandler} (hstopped : h.running = false) :
      Step ⟨h, .entering⟩ [] ⟨{ h with running := false }, .left (.ok ())⟩
  | wake {h : IrqHandler} {n : Nat} {line : IrqLine} (hwait : h.line.wait? = some (.ok n, line)) :
      Step ⟨h, .waiting⟩ [.woke n] ⟨{ h with line := line }, .woken⟩
  | disconnect {h : IrqHandler} {line : IrqLine} (hwait : h.line.wait? = some (.error .disconnected, line)) :
      Step ⟨h, .waiting⟩ [] ⟨⟨line, false⟩, .left (.ok ())⟩
  | fail {h : IrqHandler} {e : PlatformError} {line : IrqLine} (hwait : h.line.wait? = some (.error e, line))
      (he : e ≠ .disconnected) : Step ⟨h, .waiting⟩ [] ⟨⟨line, false⟩, .left (.error e)⟩
  | dismiss {h : IrqHandler} (hstopped : h.running = false) :
      Step ⟨h, .woken⟩ [] ⟨{ h with running := false }, .left (.ok ())⟩
  | decline {h : IrqHandler} (r : Reaction) (hrunning : h.running = true) (hagain : r.again = false) :
      Step ⟨h, .woken⟩ [.called r] ⟨{ h.react r with running := false }, .left (.ok ())⟩
  | again {h : IrqHandler} (r : Reaction) (hrunning : h.running = true) (hagain : r.again = true) :
      Step ⟨h, .woken⟩ [.called r] ⟨h.react r, .entering⟩
  | raised (h : IrqHandler) (place : Place) :
      Step ⟨h, place⟩ [.raised] ⟨{ h with line := h.line.raise }, place⟩
  | stopped (h : IrqHandler) {place : Place} (hplace : place.isWoken = false) :
      Step ⟨h, place⟩ [.stopped] ⟨h.stop, place⟩
  | closed (h : IrqHandler) {place : Place} (hplace : place.isWoken = false) :
      Step ⟨h, place⟩ [.closed] ⟨{ h with line := h.line.close }, place⟩

/-- Steps one after the other, and everything that can be seen of them. -/
inductive Trace (start : LoopState) : List LoopEvent → LoopState → Prop
  | nil : Trace start [] start
  | snoc {seen more : List LoopEvent} {s t : LoopState} (htrace : Trace start seen s) (hstep : Step s more t) :
      Trace start (seen ++ more) t

/-- Traces follow each other. -/
theorem Trace.trans {s t u : LoopState} {seen more : List LoopEvent} (h : Trace s seen t) (h' : Trace t more u) :
    Trace s (seen ++ more) u := by
  induction h' with
  | nil => simpa using h
  | snoc _ hstep ih => simpa using ih.snoc hstep

/-- One step is a trace. -/
theorem Trace.single {s t : LoopState} {seen : List LoopEvent} (hstep : Step s seen t) : Trace s seen t :=
  Trace.nil.snoc hstep

namespace LoopEvent

/-- The loop may go on after this. -/
def goesOn : LoopEvent → Bool
  | raised | woke _ => true
  | stopped | closed => false
  | called r => r.again && !r.closes && !r.stops

/-- This closes the line. -/
def closesLine : LoopEvent → Bool
  | stopped | closed => true
  | called r => r.closes || r.stops
  | raised | woke _ => false

/-- How many interrupts there are to take after this. -/
def arrive (pending : Nat) : LoopEvent → Nat
  | raised => pending + 1
  | called r => pending + r.raises
  | woke _ => 0
  | stopped | closed => pending

/-- Whether an event is that the loop wakes up. -/
def isWoke : LoopEvent → Bool
  | woke _ => true
  | _ => false

/-- Whether an event is that the handler is called. -/
def isCalled : LoopEvent → Bool
  | called _ => true
  | _ => false

/-- What somebody else than the loop does. -/
def isOutside : LoopEvent → Bool
  | raised | stopped | closed => true
  | woke _ | called _ => false

/-- What the callback did, if it was called. -/
def reaction? : LoopEvent → Option Reaction
  | called r => some r
  | _ => none

end LoopEvent

/-- The number of waits that have succeeded. -/
def wakes (seen : List LoopEvent) : Nat := seen.countP LoopEvent.isWoke

/-- The number of calls. -/
def calls (seen : List LoopEvent) : Nat := seen.countP LoopEvent.isCalled

/-- The interrupts that have arrived since the last wait that succeeded. -/
def arrived (pending : Nat) (seen : List LoopEvent) : Nat := seen.foldl LoopEvent.arrive pending

/-! ## What the callback does to a handler -/

/-- After a reaction the line is closed if it was, or the reaction closes or stops it. -/
theorem closed_react (h : IrqHandler) (r : Reaction) :
    (h.react r).line.closed = (h.line.closed || r.closes || r.stops) := by
  cases hcloses : r.closes <;> cases hstops : r.stops <;> simp [react, stop, IrqLine.close, hcloses, hstops]

/-- On an open line a reaction adds what it raises to what is pending. -/
theorem pending_react {h : IrqHandler} (hopen : h.line.closed = false) (r : Reaction) :
    (h.react r).line.pending = h.line.pending + r.raises := by
  have hraised := IrqLine.pending_raiseTimes hopen r.raises
  cases hcloses : r.closes <;> cases hstops : r.stops <;> simp [react, stop, IrqLine.close, hcloses, hstops, hraised]

/-! ## What a step keeps -/

namespace Step

variable {s t : LoopState} {seen more : List LoopEvent}

/-- A line is closed by what is seen to close it. -/
theorem closed_eq (hstep : Step s more t) :
    t.handler.line.closed = (s.handler.line.closed || more.any LoopEvent.closesLine) := by
  cases hstep with
  | wake hwait =>
    obtain ⟨-, -, -, rfl⟩ := IrqLine.wait?_eq_ok hwait
    simp [LoopEvent.closesLine]
  | disconnect hwait | fail hwait =>
    obtain ⟨-, -, rfl⟩ := IrqLine.wait?_eq_error hwait
    simp
  | decline r | again r => simp [closed_react, LoopEvent.closesLine, Bool.or_assoc]
  | _ => simp [stop, IrqLine.close, LoopEvent.closesLine]

/-- An open line has what is seen to have arrived. -/
theorem pending_eq (hstep : Step s more t) (hopen : t.handler.line.closed = false) :
    t.handler.line.pending = arrived s.handler.line.pending more := by
  have hbefore : s.handler.line.closed = false := by
    rw [hstep.closed_eq, Bool.or_eq_false_iff] at hopen
    exact hopen.1
  cases hstep with
  | wake hwait =>
    obtain ⟨-, -, -, rfl⟩ := IrqLine.wait?_eq_ok hwait
    rfl
  | disconnect hwait | fail hwait =>
    obtain ⟨hclosed, -, -⟩ := IrqLine.wait?_eq_error hwait
    exact absurd hbefore (by rw [hclosed]; nofun)
  | decline r | again r => exact pending_react hbefore r
  | raised h =>
    change h.line.raise.pending = h.line.pending + 1
    rw [IrqLine.raise, hbefore, if_neg Bool.false_ne_true]
  | enter | halt | dismiss | stopped | closed => rfl

/-- A call is due after a wait that has succeeded, until it is made. -/
theorem due_eq (hstep : Step s more t) (hrunning : s.place = .woken → s.handler.running = true)
    (hdue : wakes seen = calls seen + s.place.isWoken.toNat) :
    wakes (seen ++ more) = calls (seen ++ more) + t.place.isWoken.toNat := by
  cases hstep with
  | dismiss hstopped => exact absurd (hrunning rfl) (by rw [hstopped]; nofun)
  | _ => simp_all [wakes, calls, LoopEvent.isWoke, LoopEvent.isCalled, Place.isWoken]

end Step

/-- What is known of a loop from what can be seen of it. -/
structure Tracked (first : IrqLine) (seen : List LoopEvent) (s : LoopState) : Prop where
  /-- Every wait that has succeeded was followed by one call, but for the one that is due. -/
  due : wakes seen = calls seen + s.place.isWoken.toNat
  pending : s.handler.line.closed = false → s.handler.line.pending = arrived first.pending seen
  closed : s.handler.line.closed = (first.closed || seen.any LoopEvent.closesLine)
  /-- Whoever stops a handler that waits closes its line, too. -/
  waiting : s.place = .waiting → s.handler.running = true ∨ s.handler.line.closed = true
  /-- Nobody has stopped the handler or closed its line when a call is due. -/
  woken : s.place = .woken → s.handler.running = true ∧ s.handler.line.closed = false
  /-- After a call that declined the loop has been left. -/
  declined : ∀ r, .called r ∈ seen → r.again = false → ∃ result, s.place = .left result
  left : ∀ result, s.place = .left result → result = .ok () ∧ s.handler.running = false

namespace Tracked

variable {first : IrqLine} {seen : List LoopEvent} {s : LoopState}

/-- Nothing is known of a handler that has just been started. -/
theorem start (h : IrqHandler) : Tracked h.line [] ⟨h, .entering⟩ where
  due := rfl
  pending _ := rfl
  closed := by simp
  waiting := nofun
  woken := nofun
  declined := nofun
  left := nofun

/-- A step keeps what is known. -/
theorem step (h : Tracked first seen s) {more : List LoopEvent} {t : LoopState} (hstep : Step s more t) :
    Tracked first (seen ++ more) t := by
  refine
    { due := hstep.due_eq (fun hwoken => (h.woken hwoken).1) h.due
      pending := fun hopen => ?_
      closed := by rw [hstep.closed_eq, h.closed, List.any_append, Bool.or_assoc]
      waiting := ?_
      woken := ?_
      declined := ?_
      left := ?_ }
  · have hbefore : s.handler.line.closed = false := by
      have hboth := hstep.closed_eq.symm.trans hopen
      exact (Bool.or_eq_false_iff.mp hboth).1
    rw [hstep.pending_eq hopen, h.pending hbefore, arrived, arrived, arrived, List.foldl_append]
  · cases hstep with
    | enter hrunning => exact fun _ => .inl hrunning
    | raised h' =>
      exact fun hplace => (h.waiting hplace).imp_right fun hclosed => (h'.line.closed_raise).trans hclosed
    | stopped | closed => exact fun _ => .inr rfl
    | _ => exact nofun
  · cases hstep with
    | wake hwait =>
      obtain ⟨hopen, -, -, rfl⟩ := IrqLine.wait?_eq_ok hwait
      exact fun _ => ⟨(h.waiting rfl).resolve_right (by rw [hopen]; nofun), hopen⟩
    | raised h' => exact fun hplace => ⟨(h.woken hplace).1, (h'.line.closed_raise).trans (h.woken hplace).2⟩
    | stopped _ hplace | closed _ hplace =>
      exact fun hwoken => nomatch hplace.symm.trans (congrArg Place.isWoken hwoken)
    | _ => exact nofun
  · intro r hr hagain
    rcases List.mem_append.mp hr with hbefore | hnow
    · obtain ⟨result, hleft⟩ := h.declined r hbefore hagain
      cases hstep with
      | raised | stopped | closed => exact ⟨result, hleft⟩
      | _ => exact nomatch hleft
    · cases hstep with
      | decline => exact ⟨_, rfl⟩
      | again r' _ hagain' =>
        obtain rfl : r = r' := by simpa using hnow
        exact absurd hagain (by rw [hagain']; nofun)
      | _ => simp at hnow
  · intro result hleft
    cases hstep with
    | halt | disconnect | dismiss | decline => exact ⟨(Place.left.inj hleft).symm, rfl⟩
    | fail hwait he => exact absurd (IrqLine.wait?_eq_error hwait).2.1 he
    | raised | closed => exact h.left result hleft
    | stopped => exact ⟨(h.left result hleft).1, rfl⟩
    | _ => exact nomatch hleft

/-- What is known holds after every trace of a handler that was started. -/
theorem of_trace {first : IrqHandler} (htrace : Trace ⟨first, .entering⟩ seen s) : Tracked first.line seen s := by
  induction htrace with
  | nil => exact start first
  | snoc _ hstep ih => exact ih.step hstep

end Tracked

/-! ## What has been seen by a time -/

/-- The loop may go on only while all that was seen lets it. -/
theorem Tracked.goesOn {first : IrqLine} {seen : List LoopEvent} {s : LoopState} (h : Tracked first seen s)
    (hopen : s.handler.line.closed = false) (hplace : ∀ result, s.place ≠ .left result) :
    first.closed = false ∧ ∀ e ∈ seen, e.goesOn = true := by
  rw [h.closed, Bool.or_eq_false_iff] at hopen
  refine ⟨hopen.1, fun e he => ?_⟩
  have hcloses : e.closesLine = false := by
    have hnone := List.any_eq_false.mp hopen.2 e he
    simpa using hnone
  cases e with
  | raised | woke => rfl
  | stopped | closed => contradiction
  | called r =>
    have hagain : r.again = true := by
      by_contra hno
      obtain ⟨result, hleft⟩ := h.declined r he (eq_false_of_ne_true hno)
      exact hplace result hleft
    have hboth : r.closes = false ∧ r.stops = false := by simpa [LoopEvent.closesLine] using hcloses
    simp [LoopEvent.goesOn, hagain, hboth.1, hboth.2]

/-- When an event may come: waits that succeed and calls take turns, a wait takes what has arrived since the
last one, which is something, and neither comes after anything that ends the loop. -/
def Timely (first : IrqLine) (before : List LoopEvent) : LoopEvent → Prop
  | .woke n =>
    first.closed = false ∧ (∀ e ∈ before, e.goesOn = true) ∧ wakes before = calls before ∧
      n = arrived first.pending before ∧ 0 < n
  | .called _ => first.closed = false ∧ (∀ e ∈ before, e.goesOn = true) ∧ wakes before = calls before + 1
  | _ => True

/-- What is known before a step makes what is seen of it timely. -/
theorem Tracked.timely {first : IrqLine} {seen : List LoopEvent} {s t : LoopState} (h : Tracked first seen s)
    {e : LoopEvent} (hstep : Step s [e] t) : Timely first seen e := by
  have hdue := h.due
  cases hstep with
  | wake hwait =>
    obtain ⟨hopen, hpositive, rfl, -⟩ := IrqLine.wait?_eq_ok hwait
    obtain ⟨hfirst, hall⟩ := h.goesOn hopen nofun
    exact ⟨hfirst, hall, hdue, h.pending hopen, hpositive⟩
  | decline | again =>
    obtain ⟨hfirst, hall⟩ := h.goesOn (h.woken rfl).2 nofun
    exact ⟨hfirst, hall, hdue⟩
  | raised | stopped | closed => trivial

/-- A step is seen as one event, or not at all. -/
theorem Step.seen_cases {s t : LoopState} {more : List LoopEvent} (hstep : Step s more t) :
    more = [] ∨ ∃ e, more = [e] := by
  cases hstep <;> simp

/-- Every event of a trace is timely. -/
theorem timely_of_trace {first : IrqHandler} {seen : List LoopEvent} {s : LoopState}
    (htrace : Trace ⟨first, .entering⟩ seen s) {before after : List LoopEvent} {e : LoopEvent}
    (hseen : seen = before ++ e :: after) : Timely first.line before e := by
  induction htrace generalizing after with
  | nil => simp at hseen
  | @snoc seen more s t htrace hstep ih =>
    rcases hstep.seen_cases with rfl | ⟨e', rfl⟩
    · exact ih (by simpa using hseen)
    · rcases split_concat hseen with ⟨-, rfl, rfl⟩ | ⟨rest, -, hrest⟩
      · exact (Tracked.of_trace htrace).timely hstep
      · exact ih hrest

/-! ## The loop makes such traces -/

/-- What a loop notes of its calls, and what the callback did at them: it follows its script, and declines
when that has come to its end. -/
inductive Follows : List Reaction → List (Option Bool) → List Reaction → Prop
  | nil (script : List Reaction) : Follows script [] []
  | exhausted : Follows [] [none] [.declines]
  | cons {script : List Reaction} {notes : List (Option Bool)} {made : List Reaction} (r : Reaction)
      (h : Follows script notes made) : Follows (r :: script) (some true :: notes) (r :: made)

/-- How a loop has run from a state: by a trace in which nobody else did anything, with the calls that are
noted. It was left without an error, or sleeps on its line. -/
structure Performed (start : LoopState) (script : List Reaction) (done : List (Option Bool) × RunEnd × IrqHandler)
    (seen : List LoopEvent) (place : Place) : Prop where
  trace : Trace start seen ⟨done.2.2, place⟩
  alone : ∀ e ∈ seen, e.isOutside = false
  follows : Follows script done.1 (seen.filterMap LoopEvent.reaction?)
  ending :
    match done.2.1 with
    | .finished => place = .left (.ok ())
    | .asleep => place = .waiting ∧ done.2.2.line.wait? = none

/-- A loop whose handler was stopped is left. -/
theorem performed_stopped {h : IrqHandler} (hstopped : h.running = false) (script : List Reaction) :
    Performed ⟨h, .entering⟩ script ([], .finished, { h with running := false }) [] (.left (.ok ())) where
  trace := .single (.halt hstopped)
  alone := nofun
  follows := .nil script
  ending := rfl

/-- A loop sleeps while nothing has arrived. -/
theorem performed_asleep {h : IrqHandler} (hrunning : h.running = true) (hwait : h.line.wait? = none)
    (script : List Reaction) : Performed ⟨h, .entering⟩ script ([], .asleep, h) [] .waiting where
  trace := .single (.enter hrunning)
  alone := nofun
  follows := .nil script
  ending := ⟨rfl, hwait⟩

/-- A loop whose line was closed is left. -/
theorem performed_closed {h : IrqHandler} (hrunning : h.running = true) {e : PlatformError} {line : IrqLine}
    (hwait : h.line.wait? = some (.error e, line)) (script : List Reaction) :
    Performed ⟨h, .entering⟩ script ([], .finished, ⟨line, false⟩) [] (.left (.ok ())) := by
  obtain ⟨-, rfl, -⟩ := IrqLine.wait?_eq_error hwait
  exact
    { trace := (Trace.single (.enter hrunning)).trans (.single (.disconnect hwait))
      alone := nofun
      follows := .nil script
      ending := rfl }

/-- A wait that succeeds makes a call due. -/
theorem trace_woken {h : IrqHandler} (hrunning : h.running = true) {n : Nat} {line : IrqLine}
    (hwait : h.line.wait? = some (.ok n, line)) :
    Trace ⟨h, .entering⟩ [.woke n] ⟨{ h with line := line }, .woken⟩ :=
  (Trace.single (.enter hrunning)).trans (.single (.wake hwait))

/-- The loop of a handler makes a trace. -/
theorem performed_loop (h : IrqHandler) (script : List Reaction) :
    ∃ seen place, Performed ⟨h, .entering⟩ script (h.loop script) seen place := by
  induction script generalizing h with
  | nil =>
    unfold loop
    cases hrunning : h.running with
    | false => exact ⟨_, _, performed_stopped hrunning []⟩
    | true =>
      simp only [Bool.not_true, Bool.false_eq_true, if_false]
      split
      · exact ⟨_, _, performed_asleep hrunning ‹_› []⟩
      · exact ⟨_, _, performed_closed hrunning ‹_› []⟩
      · rename_i n line hwait
        have hcalled : Step ⟨{ h with line := line }, .woken⟩ [.called .declines]
            ⟨⟨line, false⟩, .left (.ok ())⟩ := .decline .declines hrunning rfl
        exact ⟨_, _,
          { trace := (trace_woken hrunning hwait).snoc hcalled
            alone := by simp [LoopEvent.isOutside]
            follows := .exhausted
            ending := rfl }⟩
  | cons r rest ih =>
    unfold loop
    cases hrunning : h.running with
    | false => exact ⟨_, _, performed_stopped hrunning (r :: rest)⟩
    | true =>
      simp only [Bool.not_true, Bool.false_eq_true, if_false]
      split
      · exact ⟨_, _, performed_asleep hrunning ‹_› (r :: rest)⟩
      · exact ⟨_, _, performed_closed hrunning ‹_› (r :: rest)⟩
      · rename_i n line hwait
        have hwoken := trace_woken hrunning hwait
        rw [hrunning] at hwoken
        cases hagain : r.again with
        | true =>
          obtain ⟨seen, place, hrest⟩ := ih (react ⟨line, true⟩ r)
          have hcalled : Trace ⟨⟨line, true⟩, .woken⟩ [.called r] ⟨react ⟨line, true⟩ r, .entering⟩ :=
            .single (.again r rfl hagain)
          exact ⟨_, _,
            { trace := (hwoken.trans hcalled).trans hrest.trace
              alone := by simpa [LoopEvent.isOutside] using hrest.alone
              follows := .cons r hrest.follows
              ending := hrest.ending }⟩
        | false =>
          exact ⟨_, _,
            { trace := hwoken.snoc (.decline r rfl hagain)
              alone := by simp [LoopEvent.isOutside]
              follows := .cons r (.nil rest)
              ending := rfl }⟩

/-! ## Every loop -/

/-- A loop has been left, or sleeps on its line, or takes a step by itself, whatever the callback would do. -/
def LoopState.Proceeds (s : LoopState) : Prop :=
  (∃ result, s.place = .left result) ∨ (s.place = .waiting ∧ s.handler.line.wait? = none) ∨
    ∀ r : Reaction, ∃ more t, Step s more t ∧ (more = [] ∨ (∃ n, more = [.woke n]) ∨ more = [.called r])

/-- No loop is stuck. -/
theorem proceeds (s : LoopState) : s.Proceeds := by
  unfold LoopState.Proceeds
  obtain ⟨h, place⟩ := s
  cases place with
  | left result => exact .inl ⟨result, rfl⟩
  | entering =>
    refine .inr (.inr fun r => ?_)
    cases hrunning : h.running with
    | true => exact ⟨_, _, .enter hrunning, .inl rfl⟩
    | false => exact ⟨_, _, .halt hrunning, .inl rfl⟩
  | waiting =>
    refine .inr ?_
    cases hwait : h.line.wait? with
    | none => exact .inl ⟨rfl, rfl⟩
    | some ended =>
      refine .inr fun r => ?_
      obtain ⟨answer, line⟩ := ended
      cases answer with
      | ok n => exact ⟨_, _, .wake hwait, .inr (.inl ⟨n, rfl⟩)⟩
      | error e =>
        obtain ⟨-, rfl, -⟩ := IrqLine.wait?_eq_error hwait
        exact ⟨_, _, .disconnect hwait, .inl rfl⟩
  | woken =>
    refine .inr (.inr fun r => ?_)
    cases hrunning : h.running with
    | false => exact ⟨_, _, .dismiss hrunning, .inl rfl⟩
    | true =>
      cases hagain : r.again with
      | true => exact ⟨_, _, .again r hrunning hagain, .inr (.inr rfl)⟩
      | false => exact ⟨_, _, .decline r hrunning hagain, .inr (.inr rfl)⟩

/-- What holds of every loop of a handler from its start on, whatever its callback does. -/
structure Conducted (first : IrqHandler) (seen : List LoopEvent) (s : LoopState) : Prop where
  /-- Each wait that succeeds is followed by one call, which is due between the two. -/
  turns : wakes seen = calls seen + s.place.isWoken.toNat
  timely : ∀ (before : List LoopEvent) (e : LoopEvent) (after : List LoopEvent), seen = before ++ e :: after →
    Timely first.line before e
  /-- A loop that has been left has no failure to report, and its handler is not running. -/
  left : ∀ result, s.place = .left result → result = .ok () ∧ s.handler.running = false
  proceeds : s.Proceeds

/-- Interrupts are merged, and none is lost before the line is closed. What the waits on a line take and what
is left are the interrupts raised before it is first closed, and from then on every wait is told that it was.
A handler that was started calls back once for each wait that succeeds, and calls again only if the callback
asked for it, the handler was not stopped, the line was not closed, and an interrupt came since the wait
before; when its loop is left it reports no failure, and is not running. So runs the loop as a function, too:
it makes such traces. -/
theorem interrupts_merged_never_lost {first : IrqHandler} {seen : List LoopEvent} {s : LoopState}
    (htrace : Trace ⟨{ first with running := true }, .entering⟩ seen s) :
    (∀ (number : Nat) (steps : List LineStep),
      IrqLine.taken ((IrqLine.new number).playAll steps).1 + ((IrqLine.new number).playAll steps).2.pending =
        IrqLine.arrivals steps ∧
      (((IrqLine.new number).playAll steps).2.closed = true ↔ .close ∈ steps) ∧
      ∀ before after : List LineStep, steps = before ++ .close :: after →
        ((IrqLine.new number).playAll steps).1 =
          ((IrqLine.new number).playAll before).1 ++ none :: after.map LineStep.closedAnswer) ∧
    Conducted first seen s ∧
    ∀ (h : IrqHandler) (script : List Reaction), ∃ seen place,
      Performed ⟨{ h with running := true }, .entering⟩ script (h.run script) seen place := by
  refine ⟨fun number steps => ⟨?_, ?_, fun before after hsteps => ?_⟩, ?_, fun h script => ?_⟩
  · have hopen : (IrqLine.new number).closed = false := rfl
    simpa [IrqLine.new] using IrqLine.taken_playAll hopen steps
  · simpa [IrqLine.new] using (IrqLine.new number).closed_playAll steps
  · have hclosed : ((IrqLine.new number).playAll before).2.close.closed = true := rfl
    rw [hsteps, IrqLine.playAll_append, IrqLine.playAll, IrqLine.play, IrqLine.playAll_of_closed hclosed]
  · have htracked := Tracked.of_trace htrace
    exact
      { turns := htracked.due
        timely := fun before e after hseen => timely_of_trace htrace hseen
        left := htracked.left
        proceeds := proceeds s }
  · exact performed_loop { h with running := true } script

/-- Two interrupts are taken by one wait, and the callback raises a third, which is taken by the next; then
it closes the line, and the loop is left. -/
theorem interrupts_merged_never_lost_small :
    ∃ (seen : List LoopEvent) (s : LoopState),
      Trace ⟨{ IrqHandler.new 5 with running := true }, .entering⟩ seen s ∧
      s.place = .left (.ok ()) ∧ wakes seen = 2 ∧ calls seen = 2 ∧ Conducted (IrqHandler.new 5) seen s := by
  have hraised : Trace ⟨{ IrqHandler.new 5 with running := true }, .entering⟩ _ _ :=
    (Trace.nil.snoc (.raised _ _)).snoc (.raised _ _)
  have hfirst : Trace ⟨{ IrqHandler.new 5 with running := true }, .entering⟩ _ _ :=
    ((hraised.snoc (.enter rfl)).snoc (.wake rfl)).snoc (.again ⟨1, false, false, true⟩ rfl rfl)
  have hsecond : Trace ⟨{ IrqHandler.new 5 with running := true }, .entering⟩ _ _ :=
    ((hfirst.snoc (.enter rfl)).snoc (.wake rfl)).snoc (.again ⟨0, true, false, true⟩ rfl rfl)
  have hleft : Trace ⟨{ IrqHandler.new 5 with running := true }, .entering⟩ _ _ :=
    (hsecond.snoc (.enter rfl)).snoc (.disconnect rfl)
  exact ⟨_, _, hleft, rfl, rfl, rfl, (interrupts_merged_never_lost hleft).2.1⟩

end IrqHandler

end LaneCard
