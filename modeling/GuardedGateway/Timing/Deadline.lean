import GuardedGateway.Timing.Timed

/-!
# Deadlines

A call runs until it is done or until its deadline passes.  When the deadline passes first, the call
is abandoned and whatever still works for it is told to stop.  What is done in the very millisecond
of the deadline is done in time, unless it had to be relayed.
-/

namespace GuardedGateway

/-- A deadline has passed. -/
structure DeadlineExceeded where
  afterMs : Nat
  deriving DecidableEq, Repr

def DeadlineExceeded.message (passed : DeadlineExceeded) : String :=
  "deadline of " ++ toString passed.afterMs ++ "ms exceeded"

/-- How a race against a deadline ends: the outcome, and whether the work was told to stop. -/
structure Race (α : Type) where
  outcome : Except DeadlineExceeded α
  cancelled : Bool

/-- Whether work is ready before the deadline, or in its millisecond without being relayed. -/
def Timed.inTime {α : Type} (limitMs : Nat) (work : Timed α) : Prop :=
  work.duration < limitMs ∨ (work.duration = limitMs ∧ work.relayed = false)

instance {α : Type} (limitMs : Nat) (work : Timed α) : Decidable (work.inTime limitMs) :=
  inferInstanceAs (Decidable (_ ∨ _))

/-- Runs work until it is done or `limitMs` milliseconds have passed. -/
def Timed.within {α : Type} (limitMs : Nat) (work : Timed α) : Timed (Race α) :=
  if work.inTime limitMs then ⟨⟨.ok work.value, false⟩, work.duration, work.relayed⟩
  else ⟨⟨.error ⟨limitMs⟩, true⟩, limitMs, false⟩

end GuardedGateway
