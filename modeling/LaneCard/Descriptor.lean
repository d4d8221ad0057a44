import LaneCard.Frame
import LaneCard.Register.Layout

/-!
# Descriptors

The words by which the driver and the card hand buffers to each other. To send, the driver
writes a transmit descriptor and then the buffer address. The card gives a transmit buffer
back as its address with a valid bit, and a received frame as a pair of words.
-/

namespace LaneCard

/-- What to send: the lane and virtual channel, and the number of words. -/
structure TxDescriptor where
  lane : Word
  vc : Word
  length : Word
  deriving Repr, DecidableEq

namespace TxDescriptor

/-- The descriptor word. -/
def encode (d : TxDescriptor) : Word :=
  TxWord.length.set (TxWord.vc.set (TxWord.lane.set 0#32 d.lane) d.vc) d.length

/-- The descriptor in a word. -/
def decode (word : Word) : TxDescriptor :=
  ⟨TxWord.lane.get word, TxWord.vc.get word, TxWord.length.get word⟩

end TxDescriptor

namespace TxReturn

/-- The address of a returned transmit buffer, if the word is valid. -/
def decode? (word : Word) : Option Word :=
  if TxReturnWord.valid.isSet word then some (word &&& TxReturnWord.addr.mask) else none

/-- The word by which a transmit buffer is returned. -/
def encode (addr : Word) : Word :=
  (addr &&& TxReturnWord.addr.mask) ||| TxReturnWord.valid.encode 1#32

end TxReturn

/-- A received frame: what the card knows of it, and the bus address of its buffer. -/
structure RxDescriptor extends FrameMeta where
  addr : Word
  deriving Repr, DecidableEq

/-- A truth value as a bit of a word. -/
def bitWord (b : Bool) : Word := if b then 1#32 else 0#32

namespace RxDescriptor

/-- The descriptor in a pair of words, if the second is valid. -/
def decode? (a b : Word) : Option RxDescriptor :=
  if RxWordB.valid.isSet b then
    some
      { lane := RxWordA.lane.get a
        vc := RxWordA.vc.get a
        length := RxWordA.length.get a
        flags := ⟨RxWordA.eofe.isSet a, RxWordA.fifoErr.isSet a, RxWordB.lengthErr.isSet b⟩
        addr := b &&& RxWordB.addr.mask }
  else none

/-- The pair of words of a descriptor; the second is valid. -/
def encode (d : RxDescriptor) : Word × Word :=
  (RxWordA.length.set
    (RxWordA.vc.set
      (RxWordA.lane.set
        (RxWordA.eofe.set (RxWordA.fifoErr.set 0#32 (bitWord d.flags.fifoErr))
          (bitWord d.flags.eofe))
        d.lane)
      d.vc)
    d.length,
   RxWordB.valid.set
    (RxWordB.lengthErr.set (d.addr &&& RxWordB.addr.mask) (bitWord d.flags.lengthErr)) 1#32)

end RxDescriptor

end LaneCard
