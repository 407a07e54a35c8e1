import GuardedGateway.Gateway.Http
import GuardedGateway.Settings.Loading

/-!
# Sessions

What can happen to a gateway while it runs, one event after another: calls arrive on one of its
surfaces, an operator replaces the settings or has them reloaded, and the cluster changes.  A session
is a fold of `step` over its events, so what holds before and after every step holds at the end.
-/

namespace GuardedGateway.Gateway

/-- An event in the life of a gateway. -/
inductive Event where
  | body (content : Bytes)
  | call (call : Tool.Call)
  | message (content : Bytes)
  | request (request : Http.Request)
  | configure (settings : Settings)
  | reload (env : Settings.Environment) (file : Settings.File)
  | reconnect (connection : Cluster.Connection)
  | askDefaultTimeout

/-- What an event is answered with. -/
inductive Answer where
  | dispatched (dispatched : Dispatched)
  | handled (handled : Mcp.Handled)
  | responded (response : Http.Response)
  | configured
  | reloaded (replaced : Bool) (tools : ToolSettings)
  | reconnected
  | defaultTimeout (ms : Nat)

/-- One event. -/
def step (frame : Frame) (ambient : Ambient) (state : State) : Event → State × Answer
  | .body content =>
    let work := dispatchBody frame ambient content state
    (work.done, .dispatched work.result)
  | .call call =>
    let work := dispatch frame ambient call state
    (work.done, .dispatched work.result)
  | .message content =>
    let work := Mcp.handle frame ambient content state
    (work.done, .handled work.result)
  | .request request =>
    let (response, next) := Http.serve frame ambient request state
    (next, .responded response)
  | .configure settings => ({ state with live := settings }, .configured)
  | .reload env file =>
    let (live, replaced) := Settings.reload env file state.live
    ({ state with live }, .reloaded replaced live.tools)
  | .reconnect connection => ({ state with connection }, .reconnected)
  | .askDefaultTimeout => (state, .defaultTimeout state.live.tools.defaultTimeoutMs)

/-- The state after a session. -/
def run (frame : Frame) (state : State) (events : List (Ambient × Event)) : State :=
  events.foldl (fun state event => (step frame event.1 state event.2).1) state

@[simp] theorem run_nil (frame : Frame) (state : State) : run frame state [] = state := rfl

@[simp] theorem run_cons (frame : Frame) (state : State) (event : Ambient × Event)
    (events : List (Ambient × Event)) :
    run frame state (event :: events) = run frame (step frame event.1 state event.2).1 events :=
  rfl

end GuardedGateway.Gateway
