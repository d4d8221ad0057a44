/-!
# Error numbers

The numbers that callers see for a failed call, and the names they are known by.
-/

namespace LaneCard.Errno

def eperm : Int := 1
def eintr : Int := 4
def eio : Int := 5
def eagain : Int := 11
def enomem : Int := 12
def efault : Int := 14
def ebusy : Int := 16
def enodev : Int := 19
def einval : Int := 22
def enotty : Int := 25
def enospc : Int := 28
def epipe : Int := 32
def emsgsize : Int := 90
def eopnotsupp : Int := 95
def etimedout : Int := 110

/-- A wait was interrupted and the call may be made again. -/
def erestartsys : Int := 512

/-- Every number under its usual name. -/
def table : List (String × Int) :=
  [("EPERM", eperm), ("EINTR", eintr), ("EIO", eio), ("EAGAIN", eagain), ("ENOMEM", enomem),
    ("EFAULT", efault), ("EBUSY", ebusy), ("ENODEV", enodev), ("EINVAL", einval),
    ("ENOTTY", enotty), ("ENOSPC", enospc), ("EPIPE", epipe), ("EMSGSIZE", emsgsize),
    ("EOPNOTSUPP", eopnotsupp), ("ETIMEDOUT", etimedout), ("ERESTARTSYS", erestartsys)]

end LaneCard.Errno
