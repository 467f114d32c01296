/-!
# Errors of the operating system

The errors that operations on files and sockets report, with their text.
-/

namespace Switchboard

/-- Why an operation on a file or a socket failed. -/
inductive SystemError where
  | notFound
  | noDevice
  | fileExists
  | notDirectory
  | isDirectory
  | wouldBlock
  | nameTooLong
  | connectionRefused
  | pathTooLong
  /-- A NUL in a path. -/
  | nulInPath
  /-- A NUL in the path of a socket. -/
  | nulInAddress
deriving DecidableEq, Repr

namespace SystemError

def message : SystemError → String
  | .notFound => "No such file or directory (os error 2)"
  | .noDevice => "No such device or address (os error 6)"
  | .fileExists => "File exists (os error 17)"
  | .notDirectory => "Not a directory (os error 20)"
  | .isDirectory => "Is a directory (os error 21)"
  | .wouldBlock => "Resource temporarily unavailable (os error 11)"
  | .nameTooLong => "File name too long (os error 36)"
  | .connectionRefused => "Connection refused (os error 111)"
  | .pathTooLong => "path must be shorter than SUN_LEN"
  | .nulInPath => "file name contained an unexpected NUL byte"
  | .nulInAddress => "paths must not contain interior null bytes"

end SystemError

end Switchboard
