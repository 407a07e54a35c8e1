/-!
# Answers that take time

An answer of the cluster comes with the time it takes, in milliseconds of a clock on which nothing
else takes any.  One question after another adds the times up; questions asked at once take as long
as the slowest.

An answer that is awaited is there in the very millisecond in which it is ready.  An answer that
somebody else awaits and passes on is `relayed`: it comes at the end of its millisecond, after
everything else that falls due in it.  The two differ only for whoever looks in that millisecond.
-/

namespace GuardedGateway

/-- A value, the time after which it is there, and whether it comes at the end of that
millisecond. -/
structure Timed (α : Type) where
  value : α
  duration : Nat
  relayed : Bool
  deriving Repr

namespace Timed

variable {α β : Type}

/-- A value that is there at once. -/
def now (value : α) : Timed α := ⟨value, 0, false⟩

/-- The value under a function, at the same time. -/
def map (f : α → β) (x : Timed α) : Timed β := ⟨f x.value, x.duration, x.relayed⟩

/-- One answer after another. -/
def andThen (x : Timed α) (f : α → Timed β) : Timed β :=
  let y := f x.value
  ⟨y.value, x.duration + y.duration, y.relayed || (x.relayed && y.duration == 0)⟩

/-- Answers awaited together, each by a helper of its own that passes it on. -/
def all (xs : List (Timed α)) : Timed (List α) :=
  ⟨xs.map value, (xs.map duration).foldl max 0, !xs.isEmpty⟩

/-- A value after a wait of some milliseconds. -/
def later (delay : Nat) (x : Timed α) : Timed α :=
  ⟨x.value, delay + x.duration, x.relayed⟩

@[simp] theorem value_now (a : α) : (now a).value = a := rfl

@[simp] theorem duration_now (a : α) : (now a).duration = 0 := rfl

@[simp] theorem relayed_now (a : α) : (now a).relayed = false := rfl

@[simp] theorem value_map (f : α → β) (x : Timed α) : (x.map f).value = f x.value := rfl

@[simp] theorem duration_map (f : α → β) (x : Timed α) : (x.map f).duration = x.duration := rfl

@[simp] theorem relayed_map (f : α → β) (x : Timed α) : (x.map f).relayed = x.relayed := rfl

@[simp] theorem value_andThen (x : Timed α) (f : α → Timed β) :
    (x.andThen f).value = (f x.value).value := rfl

@[simp] theorem duration_andThen (x : Timed α) (f : α → Timed β) :
    (x.andThen f).duration = x.duration + (f x.value).duration := rfl

@[simp] theorem value_all (xs : List (Timed α)) : (all xs).value = xs.map value := rfl

end Timed

end GuardedGateway
