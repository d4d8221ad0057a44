import LaneCard.Card.Attach
import LaneCard.Card.Completion
import LaneCard.Card.Session
import LaneCard.Card.Window
import LaneCard.Registry

/-!
# The bench

Simulated cards, the attachments of drivers to them, and everything that refers to an
attachment: handles, registry slots and sessions. All are known by number, in the order in
which they were made. An attachment is detached when its last handle goes, and its buffers are
released when no session is left either.
-/

namespace LaneCard

/-- A simulated card at its place. -/
structure Sim where
  address : PciAddress
  host : Host Board

/-- A driver attached to a simulated card. -/
structure Attachment where
  device : Device
  /-- The simulated card. -/
  sim : Nat
  /-- A separate allocator for the buffers. -/
  apart : Option Nat
  slot : Nat
  /-- The number of handles, a registry slot counting as one. -/
  handles : Nat
  /-- The number of sessions that are open. -/
  sessions : Nat
  /-- Whether the buffers have been released. -/
  released : Bool

/-- A session, open or closed. -/
structure Session where
  attachment : Nat
  nonblock : Bool
  isOpen : Bool
  /-- How many notices of frames it has had. -/
  notices : Nat

/-- A register window on a simulated card. -/
structure BenchWindow where
  sim : Nat
  window : RegisterWindow

/-- Everything on the bench. -/
structure Bench where
  sims : Array Sim
  allocators : Array Allocator
  attachments : Array Attachment
  /-- Handles; a dropped one is nothing. -/
  cards : Array (Option Nat)
  sessions : Array Session
  windows : Array BenchWindow
  /-- Cancellation handles: the attachments they act on. -/
  interrupters : Array Nat
  registry : Option Registry
  /-- The memory of all callers. -/
  memory : CallerMemory
  /-- What callers have caused to be written. -/
  journal : Journal
  /-- What interrupt handlers have written. -/
  irqJournal : Journal

namespace Bench

/-- An empty bench. -/
def empty : Bench := ⟨#[], #[], #[], #[], #[], #[], #[], none, CallerMemory.empty, #[], #[]⟩

/-- The number of the interrupt line of the card at an address. -/
def irqNumber (address : PciAddress) : Nat := 16 + address.device

/-- Put a simulated card on the bench. -/
def addSim (b : Bench) (address : PciAddress) : Bench :=
  { b with
    sims := b.sims.push
      { address := address
        host :=
          { bus := Board.new
            memory := Allocator.standard b.sims.size
            line := IrqLine.new (irqNumber address)
            apart := none
            journal := #[] } } }

/-- Whether a simulated card has an attachment that has not been detached. -/
def isLive (b : Bench) (sim : Nat) : Bool :=
  b.attachments.any fun a => a.sim == sim && !a.device.detached

/-- Count notices for the sessions they are addressed to. -/
def deliverNotices (sessions : Array Session) (notices : List Nat) : Array Session :=
  notices.foldl
    (fun sessions i => sessions.modify i fun s => { s with notices := s.notices + 1 }) sessions

/-- Work on a simulated card directly. -/
def onSim {α : Type} (b : Bench) (sim : Nat) (work : Host Board → α × Host Board) :
    Option (α × Bench) :=
  (b.sims[sim]?).map fun s =>
    let (result, host) := work s.host
    (result,
      { b with
        sims := b.sims.setIfInBounds sim { s with host := { host with journal := #[] } }
        journal := b.journal ++ host.journal })

/-- The host of a simulated card, with a separate allocator if there is one. -/
def hostFor (b : Bench) (s : Sim) (apart : Option Nat) : Host Board :=
  { s.host with apart := apart.bind fun k => b.allocators[k]? }

/-- Put back a host that has been worked on, and what it has noted. -/
def putHost (b : Bench) (sim : Nat) (apart : Option Nat) (host : Host Board) : Bench :=
  let allocators :=
    match apart, host.apart with
    | some k, some a => b.allocators.setIfInBounds k a
    | _, _ => b.allocators
  { b with
    allocators := allocators
    sims := b.sims.modify sim fun s =>
      { s with host := { host with apart := none, journal := #[] } }
    journal := b.journal ++ host.journal }

/-- Work on an attached card. -/
def onCard {α : Type} (b : Bench) (attachment : Nat) (work : Card Board → α × Card Board) :
    Option (α × Bench) := do
  let a ← b.attachments[attachment]?
  let s ← b.sims[a.sim]?
  let (result, c) := work { host := b.hostFor s a.apart, device := a.device }
  let device := { c.device with notices := [] }
  some
    (result,
      { b.putHost a.sim a.apart c.host with
        attachments := b.attachments.setIfInBounds attachment { a with device := device }
        sessions := deliverNotices b.sessions c.device.notices })

/-- Change an attached card. -/
def changeCard (b : Bench) (attachment : Nat) (work : Card Board → Card Board) : Bench :=
  match b.onCard attachment fun c => ((), work c) with
  | some ((), b) => b
  | none => b

/-- Let one attachment handle its interrupts. -/
def settleOne (b : Bench) (attachment : Nat) : Bench :=
  let before := b.journal
  let b := { b with journal := #[] }.changeCard attachment Card.settle
  { b with journal := before, irqJournal := b.irqJournal ++ b.journal }

/-- Whether an attachment has an interrupt to handle. -/
def wantsSettling (b : Bench) (a : Attachment) : Bool :=
  !a.device.detached && ((b.sims[a.sim]?).any fun s => s.host.line.wait?.isSome)

/-- Let all attachments that have not been detached handle their interrupts. -/
def settle (b : Bench) : Bench :=
  (List.range b.attachments.size).foldl
    (fun b i =>
      match b.attachments[i]? with
      | some a => if b.wantsSettling a then b.settleOne i else b
      | none => b)
    b

/-- Do something so many times, letting interrupts be handled after each. -/
def repeated (b : Bench) (work : Bench → Bench) : Nat → Bench
  | 0 => b
  | n + 1 => (work b).settle.repeated work n

/-- Change an attachment. -/
def changeAttachment (b : Bench) (attachment : Nat) (change : Attachment → Attachment) : Bench :=
  { b with attachments := b.attachments.modify attachment change }

/-- Release the buffers of an attachment to which nothing refers any more. -/
def releaseUnused (b : Bench) (attachment : Nat) : Bench :=
  match b.attachments[attachment]? with
  | some a =>
    if a.handles = 0 ∧ a.sessions = 0 ∧ !a.released then
      (b.changeCard attachment fun c => { c with host := c.release }).changeAttachment attachment
        fun a => { a with released := true }
    else b
  | none => b

/-- Add a handle of an attachment. -/
def addHandle (b : Bench) (attachment : Nat) : Bench :=
  b.changeAttachment attachment fun a => { a with handles := a.handles + 1 }

/-- Drop a handle of an attachment; with the last one it is detached. -/
def dropHandle (b : Bench) (attachment : Nat) : Bench :=
  let b := b.changeAttachment attachment fun a => { a with handles := a.handles - 1 }
  match b.attachments[attachment]? with
  | some a =>
    if a.handles = 0 then (b.changeCard attachment Card.detach).releaseUnused attachment else b
  | none => b

/-- Attach a driver to a simulated card; the caller holds the one handle. -/
def attach (b : Bench) (sim : Nat) (name : String) (slot : Nat) (config : Config)
    (baseHdwr baseLen : Nat) (apart : Option Nat) :
    Option (Except (Setback CardError) Nat × Bench) := do
  let s ← b.sims[sim]?
  let (result, host) :=
    Device.attach (b.hostFor s apart) name s.address baseHdwr baseLen config
  let b := b.putHost sim apart host
  match result with
  | .error e => some (.error e, b)
  | .ok device =>
    let a : Attachment := ⟨device, sim, apart, slot, 1, 0, false⟩
    some (.ok b.attachments.size, { b with attachments := b.attachments.push a })

/-- Open an attached card for a new session. -/
def openSession (b : Bench) (attachment : Nat) (nonblock : Bool) :
    Option (Except CardError Nat × Bench) := do
  let (result, b) ← b.onCard attachment fun c => c.openSession nonblock
  match result with
  | .error e => some (.error e, b)
  | .ok () =>
    let b := b.changeAttachment attachment fun a => { a with sessions := a.sessions + 1 }
    some (.ok b.sessions.size,
      { b with sessions := b.sessions.push ⟨attachment, nonblock, true, 0⟩ })

/-- Close a session. -/
def closeSession (b : Bench) (session : Nat) : Bench :=
  match b.sessions[session]? with
  | some s =>
    let b := b.changeCard s.attachment Card.closeSession
    let b := { b with sessions := b.sessions.modify session fun s => { s with isOpen := false } }
    (b.changeAttachment s.attachment fun a => { a with sessions := a.sessions - 1 }).releaseUnused
      s.attachment
  | none => b

/-- Add a line to the journal of the callers. -/
def note (b : Bench) (level : Level) (text : String) : Bench :=
  { b with journal := b.journal.push ⟨level, text⟩ }

end Bench

end LaneCard
