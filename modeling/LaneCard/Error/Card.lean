import LaneCard.Error.Platform
import LaneCard.Error.Record
import LaneCard.Text.Hexadecimal

/-!
# Failed calls

Every call on a card either succeeds or fails for one of these causes. A cause has an error
number and a text; the causes of the layers below are carried over.
-/

namespace LaneCard

/-- What is wrong with a configuration. -/
inductive ConfigFault where
  | noBuffers
  | noDevices
  | oddBufferSize
  | descriptorLength
  | maxFrame
  deriving Repr, DecidableEq

/-- The text shown for a refused configuration. -/
def ConfigFault.message : ConfigFault → String
  | .noBuffers => "buffer count must be non-zero"
  | .noDevices => "max_devices must be non-zero"
  | .oddBufferSize => "buffer size must be a non-zero multiple of 4"
  | .descriptorLength => "buffer size exceeds the descriptor length field"
  | .maxFrame => "rx buffer size exceeds the max-frame register"

/-- Why a call on a card failed. -/
inductive CardError where
  /-- The record is not as long as its layout. -/
  | recordSize (expected actual : Nat)
  /-- The record cannot be read. -/
  | malformed (text : String)
  /-- The frame does not fit a transmit buffer. -/
  | oversize (bytes capacity : Nat)
  | unknownCommand (code : Nat)
  /-- Nothing is available now, and the caller does not want to wait. -/
  | wouldBlock
  /-- The wait was cancelled. -/
  | restart
  | busy
  /-- The caller's address cannot be accessed. -/
  | fault (address : Nat)
  | noDevice
  | registryFull
  /-- The device is of another kind. -/
  | notSupported (device : String)
  | invalidConfig (text : String)
  /-- A platform service failed. -/
  | platform (cause : PlatformError)
  deriving Repr, DecidableEq

namespace CardError

/-- The error number of a failed call. -/
def errno : CardError → Int
  | recordSize .. | malformed _ | invalidConfig _ => Errno.einval
  | oversize .. => Errno.emsgsize
  | unknownCommand _ => Errno.enotty
  | wouldBlock => Errno.eagain
  | restart => Errno.erestartsys
  | busy => Errno.ebusy
  | fault _ => Errno.efault
  | noDevice => Errno.enodev
  | registryFull => Errno.enospc
  | notSupported _ => Errno.eopnotsupp
  | platform cause => cause.errno

/-- The text shown for a failed call. -/
def message : CardError → String
  | recordSize expected actual => s!"record is {actual} bytes, layout needs {expected}"
  | malformed text => "malformed record: " ++ text
  | oversize bytes capacity => s!"frame of {bytes} bytes exceeds the {capacity}-byte buffer"
  | unknownCommand code => "unknown command " ++ Text.hexMarked code
  | wouldBlock => "operation would block"
  | restart => "wait interrupted, restart the call"
  | busy => "device busy"
  | fault address => "bad caller address " ++ Text.hexMarked address
  | noDevice => "no such device"
  | registryFull => "too many devices"
  | notSupported device => "unsupported device " ++ device
  | invalidConfig text => "invalid configuration: " ++ text
  | platform cause => "driver error: " ++ cause.label

/-- A refused configuration as a failed call. -/
def ofConfig (f : ConfigFault) : CardError := invalidConfig f.message

/-- A platform failure as a failed call: the three that callers act on have causes of their
own, the others are carried along. -/
def ofPlatform : PlatformError → CardError
  | .wouldBlock => wouldBlock
  | .interrupted => restart
  | .deviceBusy => busy
  | cause => platform cause

/-- A refused record as a failed call: both wrong lengths are the same to a caller. -/
def ofRecord : RecordError → CardError
  | .truncated expected actual | .sizeMismatch expected actual => recordSize expected actual
  | .malformed text => malformed text

end CardError

end LaneCard
