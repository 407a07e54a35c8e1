import GuardedGateway.Text.Order
import GuardedGateway.Text.Pieces

/-!
# The namespaces a deployment may act on

The setting is a comma-separated list; each entry is trimmed and the empty ones are dropped.  What is
left is a set, kept as the strictly increasing list of its members, and membership is exact.  The
empty set allows nothing, so a forgotten setting never opens access.
-/

namespace GuardedGateway.Guard

/-- A set of namespaces, in increasing order. -/
structure Allowlist where
  names : List String
  increasing : Text.Increasing id names

namespace Allowlist

/-- The set that the setting describes. -/
def parse (raw : String) : Allowlist where
  names := Text.orderBy id (Text.entries raw)
  increasing := Text.increasing_orderBy id _

/-- Whether a namespace may be acted on. -/
def allows (allowlist : Allowlist) (ns : String) : Bool :=
  allowlist.names.contains ns

def isEmpty (allowlist : Allowlist) : Bool :=
  allowlist.names.isEmpty

def size (allowlist : Allowlist) : Nat :=
  allowlist.names.length

theorem allows_iff (allowlist : Allowlist) (ns : String) :
    allowlist.allows ns = true ↔ ns ∈ allowlist.names := by
  rw [allows, List.contains_iff_mem]

/-- A namespace is allowed exactly when it is an entry of the setting. -/
theorem allows_parse_iff (raw ns : String) :
    (parse raw).allows ns = true ↔ ns ∈ Text.entries raw := by
  rw [allows_iff]
  exact Text.mem_orderBy_id (Text.entries raw) ns

/-- The empty set allows nothing. -/
theorem not_allows_of_isEmpty {allowlist : Allowlist} (h : allowlist.isEmpty = true)
    (ns : String) : allowlist.allows ns = false := by
  have hnil : allowlist.names = [] := List.isEmpty_iff.mp h
  rw [allows, hnil]
  rfl

end Allowlist

end GuardedGateway.Guard
