import GuardedGateway.Lifecycle.Shutdown
import GuardedGateway.Settings.Loading

/-!
# A running gateway

What happens to a gateway from outside while it runs.  Its settings file is written and removed, and
signals arrive.  A hangup makes it read the file again; a request to terminate triggers the shutdown,
upon which the server finishes what it is doing and stops.  Both go on being heard after the shutdown.

The file may be watched, and then a change of the file is followed by a reload.  A watch follows the
file and not its name: once the file has been removed there is nothing left to watch, whatever is
written under the name later.
-/

namespace GuardedGateway.Lifecycle

/-- A server: waiting for the shutdown, or stopped. -/
inductive Server where
  | running (receiver : Receiver)
  | stopped
  deriving DecidableEq, Repr

/-- Stops a server that gets the event. -/
def Server.settle (channel : Channel) : Server → Server
  | .running receiver =>
    match channel.receive receiver with
    | (.empty, _) => .running receiver
    | _ => .stopped
  | .stopped => .stopped

/-- A running gateway. -/
structure Daemon where
  env : Settings.Environment
  file : Settings.File
  watched : Bool
  live : Settings
  shutdown : Shutdown
  server : Option Server

/-- What happens to a gateway from outside. -/
inductive Event where
  | write (content : Bytes)
  | remove
  | hangup
  | terminate
  | trigger

namespace Daemon

/-- Reads the settings file again. -/
def reload (daemon : Daemon) : Daemon :=
  { daemon with live := (Settings.reload daemon.env daemon.file daemon.live).1 }

/-- Triggers the shutdown. -/
def trigger (daemon : Daemon) : Daemon :=
  let shutdown := daemon.shutdown.trigger
  { daemon with shutdown, server := daemon.server.map (Server.settle shutdown.channel) }

/-- One event, and all that follows from it. -/
def step (daemon : Daemon) : Event → Daemon
  | .write content =>
    let daemon := { daemon with file := .ok content }
    if daemon.watched then daemon.reload else daemon
  | .remove => { daemon with file := .error .notFound, watched := false }
  | .hangup => daemon.reload
  | .terminate => daemon.trigger
  | .trigger => daemon.trigger

/-- A gateway that has just started from a settings file, unless the file cannot be loaded. -/
def start (env : Settings.Environment) (content : Bytes) (watched serving : Bool) :
    Except Settings.LoadFault Daemon :=
  (Settings.load env (some (.ok content))).map fun live =>
    { env
      file := .ok content
      watched
      live
      shutdown := .new
      server := if serving then some (.running Shutdown.new.channel.subscribe) else none }

end Daemon

end GuardedGateway.Lifecycle
