import LaneCard.Record.Model
import LaneCard.Text.Hexadecimal

/-!
# Transmit records

A transmit record asks for a frame to be sent or for a control command. Both layouts hold the
same things and decode to one request.
-/

namespace LaneCard

/-- What a caller asks for. -/
structure TxRequest where
  model : Model
  cmd : Word
  /-- Where the frame lies, or the argument of a command. -/
  data : Pointer
  lane : Word
  vc : Word
  /-- The length of the frame in words. -/
  size : Word
  deriving Repr, DecidableEq

/-- A pointer that a narrow record cannot hold. -/
def pointerFault (data : Pointer) : RecordError :=
  .malformed ("data pointer " ++ Text.hexMarked data.toNat ++ " needs the wide model")

namespace TxRequest

/-- A request to send a frame. -/
def write (model : Model) (lane vc : Word) (data : Pointer) (size : Word) : TxRequest :=
  ⟨model, 0#32, data, lane, vc, size⟩

/-- A request for a control command. -/
def command (model : Model) (cmd : Word) (arg : Pointer) : TxRequest :=
  ⟨model, cmd, arg, 0#32, 0#32, 0#32⟩

/-- The request in the words of a record of the given layout. -/
def ofWords? : Model → List Word → Option TxRequest
  | .narrow, [_, cmd, data, lane, vc, size] =>
    some ⟨.narrow, cmd, Pointer.ofWord data, lane, vc, size⟩
  | .wide, [_, cmd, low, high, lane, vc, size, _] =>
    some ⟨.wide, cmd, Pointer.ofWords low high, lane, vc, size⟩
  | _, _ => none

/-- Read a record, which has to be exactly as long as its layout. -/
def decode (record : Bytes) : Except RecordError TxRequest := do
  let (model, _) ← Model.detect record
  let mismatch := RecordError.sizeMismatch model.txSize record.size
  if record.size < model.txSize then .error (.truncated model.txSize record.size)
  else if model.txSize < record.size then .error mismatch
  else
    match ofWords? model record.words with
    | some request => .ok request
    | none => .error mismatch

/-- The words of the record in its own layout; a narrow record needs a pointer below 4 GiB. -/
def words (r : TxRequest) : Except RecordError (List Word) :=
  match r.model with
  | .narrow =>
    if r.data.toNat < wordSpan then
      .ok [r.model.tag, r.cmd, r.data.setWidth 32, r.lane, r.vc, r.size]
    else .error (pointerFault r.data)
  | .wide =>
    .ok ([r.model.tag, r.cmd] ++ r.data.words ++ [r.lane, r.vc, r.size, 0#32])

/-- Write a record. -/
def encode (r : TxRequest) : Except RecordError Bytes := r.words.map Bytes.ofWords

end TxRequest

end LaneCard
