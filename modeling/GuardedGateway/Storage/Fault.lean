/-!
# Why a file operation fails

The causes that the operations of a file system have, with the wording and the number that the
operating system gives to each.
-/

namespace GuardedGateway.Storage

/-- Why an operation on a file fails. -/
inductive Fault where
  | notFound
  | alreadyExists
  | notADirectory
  | isADirectory
  | nameTooLong
  | intoItself
  | busy
  | containsNul
  | notUtf8
  deriving DecidableEq, Repr

/-- The wording of a failure. -/
def Fault.message : Fault → String
  | .notFound => "No such file or directory (os error 2)"
  | .alreadyExists => "File exists (os error 17)"
  | .notADirectory => "Not a directory (os error 20)"
  | .isADirectory => "Is a directory (os error 21)"
  | .nameTooLong => "File name too long (os error 36)"
  | .intoItself => "Invalid argument (os error 22)"
  | .busy => "Device or resource busy (os error 16)"
  | .containsNul => "file name contained an unexpected NUL byte"
  | .notUtf8 => "stream did not contain valid UTF-8"

end GuardedGateway.Storage
