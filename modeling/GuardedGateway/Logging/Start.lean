import GuardedGateway.Settings.Basic
import GuardedGateway.Storage.RotatingFile
import GuardedGateway.Text.Blank

/-!
# Starting the log

The log goes to a file that must be configured and must open.  Then the program becomes the one that
listens to its diagnostics, which can happen once in a process.
-/

namespace GuardedGateway.Logging

open Calendar (Moment)
open Storage (FileSystem RotatingFile)

/-- Why the log does not start. -/
inductive StartFault where
  | fileNotConfigured
  | unopened (path : String) (fault : Storage.Fault)
  | alreadyListening
  deriving DecidableEq, Repr

/-- The wording of a failure to start. -/
def StartFault.message : StartFault → String
  | .fileNotConfigured => "log file path is not configured"
  | .unopened path fault => "failed to open log file " ++ path ++ ": " ++ fault.message
  | .alreadyListening =>
    "failed to install subscriber: a global default trace dispatcher has already been set"

/-- Opens the log file and begins to listen, unless somebody else does already. -/
def start (listening : Bool) (fs : FileSystem) (now : Moment) (settings : ObservabilitySettings) :
    FileSystem × Except StartFault RotatingFile :=
  if Text.trim settings.logFile = "" then (fs, .error .fileNotConfigured)
  else
    match RotatingFile.start fs settings.logFile now with
    | (next, .error fault) => (next, .error (.unopened settings.logFile fault))
    | (next, .ok sink) => (next, if listening then .error .alreadyListening else .ok sink)

end GuardedGateway.Logging
