import GuardedGateway.Text.Case
import GuardedGateway.Text.Number

/-!
# Levels of diagnostics

How much a program says about itself, from nothing at all to everything.  Each level lets through
what the ones before it let through.
-/

namespace GuardedGateway.Logging

/-- How much is let through. -/
inductive Level where
  | off
  | error
  | warn
  | info
  | debug
  | trace
  deriving DecidableEq, Repr

namespace Level

/-- The place of a level among the others. -/
def rank : Level → Nat
  | .off => 0
  | .error => 1
  | .warn => 2
  | .info => 3
  | .debug => 4
  | .trace => 5

/-- The name of a level. -/
def name : Level → String
  | .off => "off"
  | .error => "error"
  | .warn => "warn"
  | .info => "info"
  | .debug => "debug"
  | .trace => "trace"

/-- Every level, in order. -/
def all : List Level := [.off, .error, .warn, .info, .debug, .trace]

/-- The level with this rank. -/
def ofRank? (n : Nat) : Option Level := all[n]?

/-- The level that a text names, by its rank or by its name in any case.  The empty text names the
level of errors. -/
def ofText? (text : List Char) : Option Level :=
  match (Text.word? text).bind ofRank? with
  | some level => some level
  | none =>
    if text = [] then some .error
    else
      let word := String.ofList (text.map Text.lowerAscii)
      all.find? fun level => level.name == word

/-- The level that lets through more. -/
def max (a b : Level) : Level :=
  if a.rank ≤ b.rank then b else a

end Level

end GuardedGateway.Logging
