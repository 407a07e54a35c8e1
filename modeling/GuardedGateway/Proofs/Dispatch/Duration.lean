import GuardedGateway.Gateway.Dispatch

/-!
# How long a call takes

A call that is turned away takes no time.  Any other takes as long as its connection, and once there
is a client as long as its capability, which the deadline cuts off.  `callMs` is that sum, and
`duration_dispatch` says that it is what a dispatch takes.

The connection is not under the deadline.  The deadline makes up for it as far as the clock has
counted the connection before the deadline is set (`spentMs`): then the connection and the
capability together stay below the ceiling, unless the connection alone goes beyond it
(`callMs_le_of_counted`).
-/

namespace GuardedGateway

/-- A race takes as long as the work, but no longer than until its deadline. -/
theorem Timed.duration_within {α : Type} (limitMs : Nat) (work : Timed α) :
    (work.within limitMs).duration = min work.duration (limitMs) := by
  unfold Timed.within
  split
  · rename_i h
    rcases h with h | h
    · exact (Nat.min_eq_left (Nat.le_of_lt h)).symm
    · exact (Nat.min_eq_left (Nat.le_of_eq h.1)).symm
  · rename_i h
    have hle : limitMs ≤ work.duration := Nat.not_lt.mp fun hlt => h (.inl hlt)
    exact (Nat.min_eq_right hle).symm

namespace Gateway

/-- How long it takes to decide a request: its connection and its capability under the deadline, or
nothing if it is turned away. -/
def decisionMs (frame : Frame) (ambient : Ambient) (settings : Settings)
    (connection : Cluster.Connection) (request : Tool.Request) : Nat :=
  let allowed := Guard.Allowlist.parse settings.tools.allowedNamespaces
  match authorize frame.registry allowed request with
  | .error _ => 0
  | .ok spec =>
    connection.duration +
      match connection.value with
      | .error _ => 0
      | .ok client =>
        min (spec.capability.run ⟨client, request.args, allowed⟩).duration
          (deadlineMs frame ambient request)

/-- How long a call takes. -/
def callMs (frame : Frame) (ambient : Ambient) (call : Tool.Call) (state : State) : Nat :=
  decisionMs frame ambient state.live state.connection
    (Tool.Request.ofCall state.live.tools.defaultTimeoutMs call)

variable (frame : Frame) (ambient : Ambient)

theorem duration_execute (settings : Settings) (connection : Cluster.Connection)
    (request : Tool.Request) :
    (execute frame ambient settings connection request).duration =
      decisionMs frame ambient settings connection request := by
  cases hauth : authorize frame.registry (.parse settings.tools.allowedNamespaces) request with
  | error cause => simp only [execute, decisionMs, hauth, Timed.duration_now]
  | ok spec =>
    simp only [execute, decisionMs, hauth, Timed.duration_andThen]
    cases connection.value with
    | error fault => rfl
    | ok client => simp only [runWithin, Timed.duration_map, Timed.duration_within]

/-- A dispatch takes the time of its connection and of its capability. -/
theorem duration_dispatch (call : Tool.Call) (state : State) :
    (dispatch frame ambient call state).duration = callMs frame ambient call state :=
  duration_execute frame ambient state.live state.connection _

/-- When the clock has counted the connection, a call is over by the ceiling or with its
connection. -/
theorem callMs_le_of_counted (call : Tool.Call) {state : State}
    (h : state.connection.duration ≤ ambient.spentMs) :
    callMs frame ambient call state ≤ max state.connection.duration frame.toolCeilingMs := by
  unfold callMs
  generalize Tool.Request.ofCall state.live.tools.defaultTimeoutMs call = request
  cases hauth : authorize frame.registry (.parse state.live.tools.allowedNamespaces) request with
  | error cause => simp only [decisionMs, hauth, Nat.zero_le]
  | ok spec =>
    simp only [decisionMs, hauth]
    cases state.connection.value with
    | error fault => exact Nat.le_max_left _ _
    | ok client =>
      have hdeadline : deadlineMs frame ambient request ≤ frame.toolCeilingMs - ambient.spentMs :=
        Nat.min_le_right _ _
      simp only
      omega

end Gateway

end GuardedGateway
