import GuardedGateway.Gateway.Session

/-!
# The command line

`tool-gateway [--config FILE]` loads its settings from a file and the environment, and serves MCP
messages until the input ends: one message on each line of the standard input, one reply on each line
of the standard output.  The records of calls go to the standard error, stamped with the milliseconds
of a clock that never goes back.

Everything that is decided here is decided by `Mcp.handle`.  This module reads and writes.
-/

namespace GuardedGateway.CommandLine

/-- The variables that settings may come from. -/
def recognised : List String := [
  "TOOL_SERVER_ADDR", "K8S_ALLOWED_NAMESPACES", "TOOL_MAX_OUTPUT_BYTES", "TOOL_TIMEOUT_MS",
  "CLUSTER_SNAPSHOT_PATH", "TOOL_SERVER_LOG_FILE", "LOG_LEVEL"]

/-- How the program is called. -/
def usage : String := "usage: tool-gateway [--config FILE]"

/-- The settings file that the arguments name, if they are arguments of this program. -/
def configPath? : List String → Option (Option String)
  | [] => some none
  | ["--config", path] => some (some path)
  | ["-c", path] => some (some path)
  | _ => none

/-- The bytes of a file, or why it cannot be read. -/
def readFile (path : String) : IO (Except Storage.Fault Bytes) := do
  try return .ok (← IO.FS.readBinFile path).data.toList
  catch
    | .inappropriateType .. => return .error .isADirectory
    | _ => return .error .notFound

/-- The variables of the environment. -/
def environment : IO Settings.Environment := do
  let values ← recognised.mapM fun name => do return (name, ← IO.getEnv name)
  return fun name => (values.lookup name).join

/-- The inventory that the settings name, as it is now. -/
def inventory (settings : Settings) : IO Cluster.Inventory := do
  match settings.cluster.snapshotPath with
  | none => return .notConfigured
  | some path => return .file path (← readFile path)

/-- Numbers for a new trace and a new span. -/
def draw : IO Trace.Draw := do
  return ⟨← IO.rand 0 ((1 <<< 128) - 1), ← IO.rand 0 (UInt64.size - 1)⟩

/-- Answers one message. -/
def answer (frame : Gateway.Frame) (settings : Settings) (line : String) : IO Unit := do
  let connection := (← inventory settings).connect
  let ambient : Gateway.Ambient := ⟨← draw, 0, 0, 0⟩
  let state : Gateway.State := ⟨settings, connection, .working, []⟩
  let work := Gateway.Mcp.handle frame ambient (Text.bytes line) state
  let stamp := toString (← IO.monoMsNow)
  for record in work.done.audit.records do
    (← IO.getStderr).putStr (record.line stamp)
  match work.result.reply with
  | .accepted => return
  | .message v =>
    let out ← IO.getStdout
    out.putStrLn v.text
    out.flush

/-- Answers messages until there are no more. -/
partial def serve (frame : Gateway.Frame) (settings : Settings) : IO Unit := do
  let line ← (← IO.getStdin).getLine
  if line.isEmpty then return
  answer frame settings line
  serve frame settings

/-- Loads the settings and serves with them. -/
def start (path : Option String) : IO UInt32 := do
  let file ← path.mapM readFile
  match Settings.load (← environment) file with
  | .error fault =>
    IO.eprintln fault.message
    return 1
  | .ok settings =>
    serve (.ofSettings .builtin settings) settings
    return 0

end GuardedGateway.CommandLine

def main (args : List String) : IO UInt32 := do
  match GuardedGateway.CommandLine.configPath? args with
  | some path => GuardedGateway.CommandLine.start path
  | none =>
    IO.eprintln GuardedGateway.CommandLine.usage
    return 2
