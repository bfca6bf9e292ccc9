/-!
# Refusals of the system

Files, directories, sockets and programs are the system's.  What it can refuse is named
here, with the words it has for it.
-/

namespace FrameCourier

/-- Why the system refuses an operation on a path or a program. -/
inductive SystemFault where
  | notPermitted
  | noEntry
  | permissionDenied
  | entryExists
  | notDirectory
  | isDirectory
  | nameTooLong
  | notEmpty
  | pathHoldsNul
  | addressInUse
  | socketPathTooLong
  | connectionRefused
  | brokenPipe
  /-- A refusal that some other program words. -/
  | other (text : String)
  deriving DecidableEq, Repr

def SystemFault.message : SystemFault → String
  | notPermitted => "Operation not permitted (os error 1)"
  | noEntry => "No such file or directory (os error 2)"
  | permissionDenied => "Permission denied (os error 13)"
  | entryExists => "File exists (os error 17)"
  | notDirectory => "Not a directory (os error 20)"
  | isDirectory => "Is a directory (os error 21)"
  | nameTooLong => "File name too long (os error 36)"
  | notEmpty => "Directory not empty (os error 39)"
  | pathHoldsNul => "file name contained an unexpected NUL byte"
  | addressInUse => "Address already in use (os error 98)"
  | socketPathTooLong => "path must be shorter than SUN_LEN"
  | connectionRefused => "Connection refused (os error 111)"
  | brokenPipe => "Broken pipe (os error 32)"
  | other text => text

end FrameCourier
