/-
This file lists the ways in which a path cannot be used.
-/

namespace RoutineAtlas

/-- An access fault says why a path names no usable entry, or why it cannot be told. -/
inductive AccessFault where
  | notFound
  | denied
  | notDirectory
  | isDirectory
  | nameTooLong
  | linkLoop
  | nulInPath
  | notUtf8
  | pathNotUtf8
  deriving DecidableEq, Repr

/-- The faults of the operating system carry its number. -/
def AccessFault.message : AccessFault → String
  | .notFound => "No such file or directory (os error 2)"
  | .denied => "Permission denied (os error 13)"
  | .notDirectory => "Not a directory (os error 20)"
  | .isDirectory => "Is a directory (os error 21)"
  | .nameTooLong => "File name too long (os error 36)"
  | .linkLoop => "Too many levels of symbolic links (os error 40)"
  | .nulInPath => "file name contained an unexpected NUL byte"
  | .notUtf8 => "stream did not contain valid UTF-8"
  | .pathNotUtf8 => "path contains invalid UTF-8 characters"

end RoutineAtlas
