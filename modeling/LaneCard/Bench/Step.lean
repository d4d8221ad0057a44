import LaneCard.Bench.Registry

/-!
# Steps

Everything that can be done on the bench, as data, and what each step answers. After each
step, and after each repetition of one, the attached cards handle their interrupts until none
is pending.

A call that would have to wait is cancelled at once, so that it returns. Where the step names
something that happens meanwhile, the call is not cancelled: it sleeps, the thing happens, its
interrupts are handled, and the call goes on.
-/

namespace LaneCard

/-- Why a step is not carried out. -/
inductive Refusal where
  | noSim
  | noCard
  | noSession
  | noWindow
  | noInterrupter
  | noAllocator
  | noRegistry
  | noRegister
  | interruptPoke
  | alreadyAttached
  | threadTiming
  deriving Repr, DecidableEq

/-- The text shown for a step that is not carried out. -/
def Refusal.message : Refusal → String
  | noSim => "no such sim"
  | noCard => "no such card"
  | noSession => "no such session"
  | noWindow => "no such window"
  | noInterrupter => "no such interrupter"
  | noAllocator => "no such dma"
  | noRegistry => "no registry"
  | noRegister => "no such register"
  | interruptPoke => "poke of the interrupt register"
  | alreadyAttached => "already attached"
  | threadTiming => "the queue would depend on thread timing"

/-- A way to change a register. -/
inductive Access where
  | read
  | offset
  | write (value : Word)
  | set (bits : Word)
  | clear (bits : Word)
  | flip (bits : Word)
  deriving Repr, DecidableEq

/-- What replaces the usual resources of a card. -/
structure Resources where
  baseHdwr : Nat
  baseLen : Nat
  /-- A separate allocator for the buffers. -/
  apart : Option Nat
  deriving Repr, DecidableEq

/-- The usual resources of a simulated card. -/
def Resources.standard : Resources := ⟨Board.windowBase, Offset.regionSize, none⟩

/-- A call of a session that may wait. -/
inductive Call where
  | send (lane vc : Word) (data : List Word)
  | recv (buffer : List Word)
  | write (record : Bytes)
  | read (record : Bytes)
  | pollWait (interest : PollFlags) (limited : Bool)

/-- Something that happens while a call waits. -/
inductive Meanwhile where
  | interrupt
  | injectRx (desc : RxDescriptor)
  | injectTx (word : Word)
  /-- Held transmit completions are given. -/
  | release
  | detach (card : Nat)

/-- A step of a session. -/
inductive SessionStep where
  | close
  | flags
  | setFlags (nonblock : Bool)
  | call (c : Call) (meanwhile : Option Meanwhile)
  | control (command : Command) (arg : Pointer)
  | poll
  | interrupt
  | interrupter
  | notify (on : Bool)
  | map (length : Nat) (readable writable : Bool)
  | status
  | diagnostics

/-- A step on the bench. -/
inductive Step where
  | addSim (address : PciAddress)
  | peek (sim offset : Nat)
  | poke (sim offset : Nat) (value : Word)
  | bus (sim offset times : Nat) (access : Access)
  | register (sim : Nat) (name : String) (index : Nat) (access : Access)
  | freeFifo (sim lane : Nat)
  | takeFree (sim lane : Nat)
  | writeCount (sim : Nat)
  | hold (sim : Nat) (on : Bool)
  | injectRx (sim times : Nat) (desc : RxDescriptor)
  | injectTx (sim times : Nat) (word : Word)
  | raiseIrq (sim : Nat)
  | dmaRead (sim addr length : Nat)
  | dmaWrite (sim addr : Nat) (data : Bytes)
  | addAllocator (base limit : Nat)
  | simStats (sim : Nat)
  | allocatorStats (allocator : Nat)
  | memInsert (addr : Nat) (data : Bytes)
  | memRead (addr length : Nat)
  | memStatus (addr length : Nat)
  | attach (sim : Nat) (config : Config) (name : String) (slot : Nat) (resources : Resources)
  | dropCard (card : Nat)
  | cardInfo (card : Nat)
  | cardDetach (card : Nat)
  | cardDiagnostics (card : Nat)
  | cardStatus (card : Nat)
  | openCard (card : Nat) (nonblock : Bool)
  | registry (config : Config)
  | dropRegistry
  | probe (sim vendor device : Nat) (resources : Resources)
  | slotCard (slot : Nat) (keep : Bool)
  | findCard (address : PciAddress) (keep : Bool)
  | openSlot (slot : Nat) (nonblock : Bool)
  | detachSlot (slot : Nat)
  | detachAll
  | slotCount
  | windowInfo (window : Nat)
  | windowRead (window offset : Nat)
  | windowWrite (window offset : Nat) (value : Word)
  | fire (interrupter : Nat)
  | flatStatus (regs : List (Nat × Word)) (config : Config)
  | notified (session : Nat)
  | session (session : Nat) (step : SessionStep)

/-- What is shown of a card. -/
structure CardInfo where
  name : String
  slot : Nat
  address : String
  isOpen : Bool
  detached : Bool
  debug : Word

/-- What a step answers. -/
inductive Outcome where
  | nothing
  | refused (r : Refusal)
  /-- The step names a lane or a register of a block that does not exist. -/
  | outOfRange
  /-- The step would need a number or a table that is too large. -/
  | cutShort
  | failed (e : CardError)
  | recordFailed (e : RecordError)
  | asleep
  | number (n : Nat)
  | numbers (ns : List Nat)
  | truth (b : Bool)
  | words (ws : List Word)
  | bytes (b : Bytes)
  | stats (allocated released liveBytes live : Nat)
  | card (n : Nat)
  | session (n : Nat)
  | slot (n : Nat)
  | window (n : Nat)
  | interrupter (n : Nat)
  | info (i : CardInfo)
  | diagnostics (d : Diagnostics)
  | status (s : CardStatus)
  | done
  | slotCard (card : Nat) (name : String) (slot : Nat)
  | slotCount (length : Nat)
  | windowInfo (w : RegisterWindow)
  | frame (f : RxFrame) (buffer : List Word)
  | record (result : Except CardError Nat) (record : Bytes)
  | flat (s : CardStatus) (d : Diagnostics) (after : List (Nat × Word))
  | notified (count : Nat)

namespace Outcome

/-- The outcome of a call that gives something or fails. -/
def ofExcept {α : Type} (f : α → Outcome) : Except CardError α → Outcome
  | .ok a => f a
  | .error e => failed e

/-- The outcome of work that was not done. -/
def ofSetback : Setback CardError → Outcome
  | .failed e => failed e
  | .cutShort => cutShort

/-- The outcome of an access through a window, whose fault has to be a pointer. -/
def ofWindow {α : Type} (f : α → Outcome) : Except CardError α → Outcome
  | .ok a => f a
  | .error (.fault address) => if address < pointerSpan then failed (.fault address) else cutShort
  | .error e => failed e

/-- The outcome of a call that may wait. -/
def ofReply {α : Type} (f : α → Outcome) : Reply α → Outcome
  | .returned r => ofExcept f r
  | .asleep => asleep

/-- The counters of an allocator. -/
def ofAllocator (a : Allocator) : Outcome := stats a.allocated a.released a.liveBytes a.liveCount

end Outcome

end LaneCard
