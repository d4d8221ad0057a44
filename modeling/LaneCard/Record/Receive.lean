import LaneCard.Frame
import LaneCard.Record.Transmit

/-!
# Receive records

A receive record says where a frame may be stored and how long it may be. The same record
comes back with what is known of the frame filled in; the tag, the size limit and the
pointer stay as the caller wrote them.
-/

namespace LaneCard

/-- A caller's room for a frame. -/
structure RxRequest where
  model : Model
  /-- The tag as the caller wrote it. -/
  tag : Word
  /-- The room in words. -/
  maxSize : Word
  data : Pointer
  deriving Repr, DecidableEq

/-- What is reported of a received frame. -/
structure RxReply where
  lane : Word
  vc : Word
  /-- The length of the frame in words. -/
  size : Word
  flags : FrameFlags
  deriving Repr, DecidableEq

/-- The reply of a record that has not been answered. -/
def RxReply.blank : RxReply := ⟨0#32, 0#32, 0#32, FrameFlags.none⟩

namespace RxRequest

/-- A request under the tag of its layout. -/
def new (model : Model) (maxSize : Word) (data : Pointer) : RxRequest :=
  ⟨model, model.tag, maxSize, data⟩

/-- The reply in the last six words of a record; any non-zero word sets its flag. -/
def replyOfWords? : List Word → Option RxReply
  | [lane, vc, size, eofe, fifoErr, lengthErr] =>
    some ⟨lane, vc, size, ⟨eofe != 0#32, fifoErr != 0#32, lengthErr != 0#32⟩⟩
  | _ => none

/-- The request and the reply in the words of a record of the given layout. -/
def ofWords? : Model → List Word → Option (RxRequest × RxReply)
  | .narrow, tag :: maxSize :: data :: rest =>
    (replyOfWords? rest).map fun reply => (⟨.narrow, tag, maxSize, Pointer.ofWord data⟩, reply)
  | .wide, tag :: maxSize :: low :: high :: rest =>
    (replyOfWords? rest).map fun reply =>
      (⟨.wide, tag, maxSize, Pointer.ofWords low high⟩, reply)
  | _, _ => none

/-- Read an answered record, which has to be exactly as long as its layout. -/
def decodeReply (record : Bytes) : Except RecordError (RxRequest × RxReply) := do
  let (model, _) ← Model.detect record
  let mismatch := RecordError.sizeMismatch model.rxSize record.size
  if record.size = model.rxSize then
    match ofWords? model record.words with
    | some answered => .ok answered
    | none => .error mismatch
  else .error mismatch

/-- Read the request of a record. -/
def decode (record : Bytes) : Except RecordError RxRequest :=
  (decodeReply record).map Prod.fst

/-- A flag as a word of a record. -/
def flagWord (b : Bool) : Word := if b then 1#32 else 0#32

/-- The last six words of a record. -/
def replyWords (c : RxReply) : List Word :=
  [c.lane, c.vc, c.size, flagWord c.flags.eofe, flagWord c.flags.fifoErr,
    flagWord c.flags.lengthErr]

/-- The words of an answered record; a narrow record needs a pointer below 4 GiB. -/
def words (r : RxRequest) (c : RxReply) : Except RecordError (List Word) :=
  match r.model with
  | .narrow =>
    if r.data.toNat < wordSpan then
      .ok ([r.tag, r.maxSize, r.data.setWidth 32] ++ replyWords c)
    else .error (pointerFault r.data)
  | .wide => .ok ([r.tag, r.maxSize] ++ r.data.words ++ replyWords c)

/-- Write an answered record. -/
def encodeReply (r : RxRequest) (c : RxReply) : Except RecordError Bytes :=
  (r.words c).map Bytes.ofWords

/-- Write a record that has not been answered. -/
def encode (r : RxRequest) : Except RecordError Bytes := r.encodeReply RxReply.blank

end RxRequest

end LaneCard
