import GuardedGateway.Tool.Failure

/-!
# Responses

A call ends in a result or in a failure, never in both.  The envelope that goes back shows both
members, one of them null, and states the latency of a failure twice: once for the call and once
inside the error.
-/

namespace GuardedGateway.Tool

/-- How a call ended. -/
structure Response where
  toolName : String
  latencyNanos : Nat
  truncated : Bool
  outcome : Except Failure Json

namespace Response

/-- A successful call. -/
def success (toolName : String) (result : Json) (truncated : Bool) : Response :=
  ⟨toolName, 0, truncated, .ok result⟩

/-- A failed call. -/
def failed (toolName : String) (failure : Failure) : Response :=
  ⟨toolName, 0, false, .error failure⟩

def withLatency (nanos : Nat) (response : Response) : Response :=
  { response with latencyNanos := nanos }

def failure? (response : Response) : Option Failure :=
  match response.outcome with
  | .ok _ => none
  | .error failure => some failure

def result? (response : Response) : Option Json :=
  match response.outcome with
  | .ok result => some result
  | .error _ => none

/-- The word for how the call ended. -/
def status (response : Response) : String :=
  match response.outcome with
  | .ok _ => "success"
  | .error _ => "error"

/-- The HTTP status of a response. -/
def statusCode (response : Response) : Nat :=
  match response.outcome with
  | .ok _ => 200
  | .error failure => failure.kind.status

/-- The latency in whole milliseconds, at most `2 ^ 64 - 1`. -/
def latencyMs (response : Response) : Nat :=
  min (response.latencyNanos / 1000000) (UInt64.size - 1)

/-- A failure as a member of the envelope. -/
def failureJson (latencyMs : Nat) (failure : Failure) : Json :=
  .obj [
    ("error_type", .str failure.kind.name),
    ("message", .str failure.message),
    ("tool_name", .str failure.toolName),
    ("duration_ms", .ofNat latencyMs)]

/-- The envelope. -/
def toJson (response : Response) : Json :=
  .obj [
    ("tool_name", .str response.toolName),
    ("status", .str response.status),
    ("latency_ms", .ofNat response.latencyMs),
    ("truncated", .bool response.truncated),
    ("result", response.result?.getD .null),
    ("error", (response.failure?.map (failureJson response.latencyMs)).getD .null)]

end Response

end GuardedGateway.Tool
