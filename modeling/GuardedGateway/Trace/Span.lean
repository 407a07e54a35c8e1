import GuardedGateway.Json.Printer
import GuardedGateway.Trace.Context

/-!
# Spans and their attributes

A call is one span.  When it ends, attributes are recorded on it: strings, booleans, integers of 64
bits and floating point numbers.  A value that is none of these is passed over, so an absent
namespace leaves no attribute.
-/

namespace GuardedGateway.Trace

/-- The value of an attribute. -/
inductive Attribute where
  | string (value : String)
  | flag (value : Bool)
  | integer (value : Int)
  | float (value : Binary64)
  deriving DecidableEq, Repr

namespace Attribute

/-- The attribute that holds a value.  A whole number is one if it fits into a signed word of 64
bits. -/
def ofJson? : Json → Option Attribute
  | .str s => some (.string s)
  | .bool b => some (.flag b)
  | .num (.int n) => if n < (1 <<< 63 : Nat) then some (.integer n) else none
  | .num (.float x) => some (.float x)
  | _ => none

/-- The text of an attribute. -/
def text : Attribute → String
  | .string s => s
  | .flag b => toString b
  | .integer n => toString n
  | .float x => x.plain

end Attribute

/-- A span that has ended: its context and what was recorded on it, in order. -/
structure Span where
  context : Context
  attributes : List (String × Attribute)
  deriving Repr

namespace Span

/-- Ends a span, recording every value that is an attribute. -/
def finish (context : Context) (values : List (String × Json)) : Span where
  context := context
  attributes := values.filterMap fun value => (Attribute.ofJson? value.2).map (value.1, ·)

/-- The first attribute with a name. -/
def attribute? (span : Span) (name : String) : Option Attribute :=
  (span.attributes.find? fun a => a.1 == name).map Prod.snd

end Span

end GuardedGateway.Trace
