import GuardedGateway.Json.Basic
import GuardedGateway.Text.Case

/-!
# Redaction

Whatever a tool finds, a member of an object whose key looks like the name of a secret never leaves
the gateway with its value.  A key looks so when it contains one of five markers, in any case of its
ASCII letters.  The value is replaced whatever its type, so nothing below such a key is looked at;
everywhere else redaction descends and changes nothing.
-/

namespace GuardedGateway.Guard

/-- What stands in the place of a secret. -/
def redacted : String := "[REDACTED]"

/-- The words that make a key look like the name of a secret. -/
def secretMarkers : List String :=
  ["token", "secret", "password", "apikey", "api_key"]

/-- Whether `word` occurs in a text. -/
def occurs (word : List Char) : List Char → Bool
  | [] => word.isEmpty
  | c :: rest => word.isPrefixOf (c :: rest) || occurs word rest

/-- Whether a key looks like the name of a secret. -/
def isSecretKey (key : String) : Bool :=
  secretMarkers.any fun marker => occurs marker.toList (key.toList.map Text.lowerAscii)

mutual

/-- A value with every secret in it replaced. -/
def redact : Json → Json
  | .arr items => .arr (redactItems items)
  | .obj fields => .obj (redactFields fields)
  | v => v
termination_by structural v => v

/-- The items of an array with every secret in them replaced. -/
def redactItems : List Json → List Json
  | [] => []
  | v :: rest => redact v :: redactItems rest
termination_by structural vs => vs

/-- The members of an object with every secret in them replaced. -/
def redactFields : List (String × Json) → List (String × Json)
  | [] => []
  | f :: rest => redactField f :: redactFields rest
termination_by structural fs => fs

/-- A member with its value replaced, if the key is secret, or redacted. -/
def redactField : String × Json → String × Json
  | (key, v) => (key, if isSecretKey key then .str redacted else redact v)
termination_by structural f => f

end

@[simp] theorem redact_arr (items : List Json) : redact (.arr items) = .arr (redactItems items) :=
  rfl

@[simp] theorem redact_obj (fields : Fields) : redact (.obj fields) = .obj (redactFields fields) :=
  rfl

@[simp] theorem redact_str (s : String) : redact (.str s) = .str s := rfl

/-- Items are redacted one by one. -/
theorem redactItems_eq_map (items : List Json) : redactItems items = items.map redact := by
  induction items with
  | nil => rfl
  | cons v rest ih => rw [redactItems, ih, List.map_cons]

/-- Members are redacted one by one. -/
theorem redactFields_eq_map (fields : Fields) : redactFields fields = fields.map redactField := by
  induction fields with
  | nil => rfl
  | cons f rest ih => rw [redactFields, ih, List.map_cons]

/-- Redaction keeps the keys and their order. -/
theorem keys_redactFields (fields : Fields) :
    Fields.keys (redactFields fields) = Fields.keys fields := by
  rw [redactFields_eq_map, Fields.keys, Fields.keys, List.map_map]
  exact List.map_congr_left fun f _ => by cases f; rfl

end GuardedGateway.Guard
