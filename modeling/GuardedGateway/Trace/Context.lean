import GuardedGateway.Text.Hex
import GuardedGateway.Text.Pieces

/-!
# Trace context

A caller may say, in a `traceparent`, which trace and which span a call is part of.  A well-formed
one is continued: the call gets a span of its own in the same trace, and the caller's span is its
parent.  Anything else starts a new trace.

A `traceparent` is four parts between hyphens: the version `00`, thirty-two digits of the trace,
sixteen of the span, and two for the flags.  The digits are hexadecimal and in lower case, and
neither id is all zeros.  The lowest bit of the flags says whether the trace is sampled.
-/

namespace GuardedGateway.Trace

/-- What a well-formed `traceparent` says. -/
structure Parent where
  traceId : String
  spanId : String
  sampled : Bool
  deriving DecidableEq, Repr

/-- Whether a text is `width` lower-case hexadecimal digits. -/
def isHex (width : Nat) (text : List Char) : Bool :=
  text.length == width && text.all fun c => (Text.hexDigitValue? c).isSome

/-- Whether a text is an id of `width` digits that are not all zero. -/
def isId (width : Nat) (text : List Char) : Bool :=
  isHex width text && !text.all (· == '0')

/-- Whether the number that the digits denote is odd. -/
def isOdd (digits : List Char) : Bool :=
  (digits.getLast?.bind Text.hexDigitValue?).any (· % 2 == 1)

/-- What a `traceparent` says, if it is well-formed. -/
def Parent.parse? (raw : String) : Option Parent :=
  match Text.pieces '-' (Text.trimChars raw.toList) with
  | [version, trace, span, flags] =>
    if version = ['0', '0'] ∧ isId 32 trace ∧ isId 16 span ∧ isHex 2 flags then
      some ⟨.ofList trace, .ofList span, isOdd flags⟩
    else none
  | _ => none

/-- The identity of a span in its trace. -/
structure Context where
  traceId : String
  spanId : String
  parentSpanId : Option String
  traceState : Option String
  sampled : Bool
  deriving DecidableEq, Repr

/-- Numbers drawn for new ids. -/
structure Draw where
  trace : Nat
  span : Nat

/-- A new id of `width` digits from a drawn number; the id of all zeros is passed over. -/
def newId (width : Nat) (draw : Nat) : String :=
  String.ofList (Text.hexPadded width (max (draw % Nat.pow 16 width) 1))

namespace Context

/-- Continues the trace of a well-formed `traceparent`, or starts one. -/
def continueOrStart (draw : Draw) (traceparent tracestate : Option String) : Context :=
  match traceparent.bind Parent.parse? with
  | some parent =>
    { traceId := parent.traceId
      spanId := newId 16 draw.span
      parentSpanId := some parent.spanId
      traceState := tracestate
      sampled := parent.sampled }
  | none =>
    { traceId := newId 32 draw.trace
      spanId := newId 16 draw.span
      parentSpanId := none
      traceState := none
      sampled := true }

/-- The `traceparent` that hands this context on. -/
def render (context : Context) : String :=
  "00-" ++ context.traceId ++ "-" ++ context.spanId ++ (if context.sampled then "-01" else "-00")

end Context

end GuardedGateway.Trace
