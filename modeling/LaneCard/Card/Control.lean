import LaneCard.Card.Diagnostics
import LaneCard.Card.Snapshot
import LaneCard.Command
import LaneCard.Error.Card

/-!
# Control commands

Most commands set or clear bits of one register or write their argument to one. The argument
is a word, and where it is a lane only its low three bits count.
-/

namespace LaneCard

/-- The result of a control command. -/
inductive ControlReply where
  | done
  /-- The status, for the caller to store. -/
  | status (s : CardStatus)

namespace Card

variable {β : Type} [RegisterBus β]

/-- Set bits of a register. -/
def setBits (c : Card β) (offset : Nat) (bits : Word) : Card β :=
  { c with host := c.host.setBits offset bits }

/-- Clear bits of a register. -/
def clearBits (c : Card β) (offset : Nat) (bits : Word) : Card β :=
  { c with host := c.host.clearBits offset bits }

/-- Write a word to one of eight registers, if the index names one. -/
def writeIndexed (c : Card β) (command : Command) (offset : Nat) (index : UInt8) (value : Word) :
    Except CardError (Card β) :=
  if index.toNat < 8 then .ok (c.write (offset + 4 * index.toNat) value)
  else .error (.unknownCommand command.code)

/-- A word that was written went to the register that the index names. -/
theorem of_writeIndexed_ok {c c' : Card β} {command : Command} {offset : Nat} {index : UInt8} {value : Word}
    (h : c.writeIndexed command offset index value = .ok c') :
    index.toNat < 8 ∧ c' = c.write (offset + 4 * index.toNat) value := by
  unfold writeIndexed at h
  split at h
  · exact ⟨‹_›, (Except.ok.inj h).symm⟩
  · contradiction

/-- The effect of a command other than a frame or a status. -/
def perform (c : Card β) (command : Command) (arg : Word) : Except CardError (Card β) :=
  let lane := arg.toNat % laneCount
  let link := Offset.pgpCardStat
  let evr := Offset.evrCardStat + 4
  match command with
  | .normalWrite | .readStatus => .error (.unknownCommand command.code)
  | .countReset =>
    let bit := ResetWord.countReset.mask
    .ok ((c.setBits Offset.cardRstStat bit).clearBits Offset.cardRstStat bit)
  | .pgpOpCode => .ok (c.write Offset.pgpOpCode arg)
  | .setLoop => .ok (c.setBits link (LinkWord.loopBack.shifted lane).mask)
  | .clrLoop => .ok (c.clearBits link (LinkWord.loopBack.shifted lane).mask)
  | .setRxReset => .ok (c.setBits link (LinkWord.rxReset.shifted lane).mask)
  | .clrRxReset => .ok (c.clearBits link (LinkWord.rxReset.shifted lane).mask)
  | .setTxReset => .ok (c.setBits link (LinkWord.txReset.shifted lane).mask)
  | .clrTxReset => .ok (c.clearBits link (LinkWord.txReset.shifted lane).mask)
  | .evrEnable => .ok (c.setBits evr EvrWord.enable.mask)
  | .evrDisable => .ok (c.clearBits evr EvrWord.enable.mask)
  | .evrSetReset => .ok (c.setBits evr EvrWord.reset.mask)
  | .evrClrReset => .ok (c.clearBits evr EvrWord.reset.mask)
  | .evrSetPllRst => .ok (c.setBits evr EvrWord.pllRst.mask)
  | .evrClrPllRst => .ok (c.clearBits evr EvrWord.pllRst.mask)
  | .evrMask => .ok (c.write (Offset.evrCardStat + 8) arg)
  | .evrRunCode index => c.writeIndexed command Offset.runCode index arg
  | .evrAcceptCode index => c.writeIndexed command Offset.acceptCode index arg
  | .evrRunDelay index => c.writeIndexed command Offset.runDelay index arg
  | .evrAcceptDelay index => c.writeIndexed command Offset.acceptDelay index arg
  | .nop => .ok (c.note .warn s!"NOP to {arg.toNat}")
  | .setDebug =>
    .ok ({ c with device := { c.device with debug := arg } }.note .warn
      s!"debug set to {arg.toNat}")
  | .dumpDebug => .ok c.dumpDiagnostics

/-- Carry out a control command; of its argument only the low word counts. -/
def control (c : Card β) (command : Command) (arg : Pointer) :
    Except CardError ControlReply × Card β :=
  let word : Word := arg.setWidth 32
  match command with
  | .readStatus =>
    let (status, c) := (c.trace 0 "ReadStatus").snapshot
    (.ok (.status status), c)
  | _ =>
    match c.perform command word with
    | .error e => (.error e, c)
    | .ok c => (.ok .done, c.trace 0 (command.text ++ " arg=" ++ Text.hexMarked word.toNat))

end Card

end LaneCard
