import LaneCard.Error.Errno

/-!
# Failures of the platform

The causes for which the services below the card driver fail: memory, interrupt lines,
register windows and waits.
-/

namespace LaneCard

/-- Why a platform service failed. -/
inductive PlatformError where
  | invalidArgument
  | outOfMemory
  /-- The interrupt line was closed. -/
  | disconnected
  | timeout
  | bufferTooSmall
  | deviceBusy
  | ioError
  | notSupported
  /-- Nothing is available now, and the caller does not want to wait. -/
  | wouldBlock
  /-- A wait was ended by a cancellation. -/
  | interrupted
  /-- The operating system failed with the given number. -/
  | systemError (code : Int)
  deriving Repr, DecidableEq

namespace PlatformError

/-- The error number of a failure. -/
def errno : PlatformError → Int
  | invalidArgument => Errno.einval
  | outOfMemory => Errno.enomem
  | disconnected => Errno.epipe
  | timeout => Errno.etimedout
  | bufferTooSmall => Errno.emsgsize
  | deviceBusy => Errno.ebusy
  | ioError => Errno.eio
  | notSupported => Errno.eopnotsupp
  | wouldBlock => Errno.eagain
  | interrupted => Errno.erestartsys
  | systemError code => code

/-- The name of a failure, with the number where it carries one. -/
def label : PlatformError → String
  | invalidArgument => "InvalidArgument"
  | outOfMemory => "OutOfMemory"
  | disconnected => "Disconnected"
  | timeout => "Timeout"
  | bufferTooSmall => "BufferTooSmall"
  | deviceBusy => "DeviceBusy"
  | ioError => "IoError"
  | notSupported => "NotSupported"
  | wouldBlock => "WouldBlock"
  | interrupted => "Interrupted"
  | systemError code => s!"SystemError({code})"

/-- The failures that carry no number. -/
def plain : List PlatformError :=
  [invalidArgument, outOfMemory, disconnected, timeout, bufferTooSmall, deviceBusy, ioError,
    notSupported, wouldBlock, interrupted]

/-- The failure of a kind; a failed system call has the given number. -/
def ofKind? (kind : String) (code : Int) : Option PlatformError :=
  if kind = "SystemError" then some (systemError code) else plain.find? fun e => e.label == kind

/-- A failed system call keeps its number; without one it is an input/output error. -/
def ofSystem : Option Int → PlatformError
  | some code => systemError code
  | none => ioError

end PlatformError

end LaneCard
