import GuardedGateway.Text.Order

/-!
# Metrics

Each call adds one to a counter of calls, one observation to the durations of its tool, and, when its
result was too long, one to a counter of those.  An audit record that could not be written is counted
too.  What has been recorded is a list of series, and the value of a series is the number of times it
stands there, so every law about metrics is a law about `List.count`.

The text has one line for each series that was recorded, in the order of the lines.  Escaping can
make the labels of two series look the same, and then they share a line: observations are added up,
and of counters the one that was first recorded last is shown.
-/

namespace GuardedGateway

/-- A series: one kind of thing that is counted, with its labels. -/
inductive Series where
  | calls (tool status errorType : String)
  | durations (tool : String)
  | truncated (tool : String)
  | auditFailures
  deriving DecidableEq, Repr

namespace Series

/-- The name under which a series is shown. -/
def name : Series → String
  | .calls .. => "tool_calls_total"
  | .durations _ => "tool_call_duration_seconds_count"
  | .truncated _ => "tool_output_truncated_total"
  | .auditFailures => "audit_write_failures_total"

/-- The labels of a series, in order. -/
def labels : Series → List (String × String)
  | .calls tool status errorType =>
    [("tool", tool), ("status", status), ("error_type", errorType)]
  | .durations tool => [("tool", tool)]
  | .truncated tool => [("tool", tool)]
  | .auditFailures => []

/-- The value of a label with newlines, quotes and backslashes escaped.  Two backslashes in a row are
taken for one that is escaped already, and so is a backslash before a quote: `held` tells that one is
waiting for what comes next. -/
def escapeLabel : Bool → List Char → List Char
  | false, [] => []
  | true, [] => ['\\', '\\']
  | held, '\n' :: rest => '\\' :: 'n' :: escapeLabel held rest
  | _, '"' :: rest => '\\' :: '"' :: escapeLabel false rest
  | false, '\\' :: rest => escapeLabel true rest
  | true, '\\' :: rest => '\\' :: '\\' :: escapeLabel false rest
  | false, c :: rest => c :: escapeLabel false rest
  | true, c :: rest => '\\' :: '\\' :: c :: escapeLabel false rest

/-- A label with its value. -/
def labelText (label : String × String) : String :=
  label.1 ++ "=\"" ++ String.ofList (escapeLabel false label.2.toList) ++ "\""

/-- A series with its labels. -/
def text (series : Series) : String :=
  match series.labels with
  | [] => series.name
  | labels => series.name ++ "\x7b" ++ ",".intercalate (labels.map labelText) ++ "\x7d"

end Series

/-- Everything that was recorded, in order. -/
abbrev Metrics := List Series

namespace Metrics

/-- The value of a series. -/
def value (metrics : Metrics) (series : Series) : Nat :=
  metrics.count series

/-- Records a call that ended. -/
def recordCall (tool status errorType : String) (metrics : Metrics) : Metrics :=
  metrics ++ [.calls tool status errorType, .durations tool]

/-- Records a result that was too long. -/
def recordTruncated (tool : String) (metrics : Metrics) : Metrics :=
  metrics ++ [.truncated tool]

/-- Records an audit record that could not be written. -/
def recordAuditFailure (metrics : Metrics) : Metrics :=
  metrics ++ [.auditFailures]

/-- The number on the line of a series. -/
def shown (metrics : Metrics) (series : Series) : Nat :=
  let sharing := metrics.filter fun other => other.text == series.text
  match series with
  | .durations _ => sharing.length
  | _ => metrics.value (sharing.eraseDups.getLastD series)

/-- The lines of the text form. -/
def lines (metrics : Metrics) : List String :=
  Text.orderBy id (metrics.map fun series =>
    series.text ++ " " ++ toString (metrics.shown series))

end Metrics

end GuardedGateway
