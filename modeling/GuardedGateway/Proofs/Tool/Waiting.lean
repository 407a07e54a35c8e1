import GuardedGateway.Tool.Capability
import Mathlib.Data.List.MinMax

/-!
# Waiting for several helpers

The checks of the listing of namespaces set out together, and then they are awaited one after the
other.  A helper that is awaited when it has long been done costs nothing, so the wait is over with
the slowest of them (`awaitedInTurn_eq`), in whatever order they are awaited and in whatever order
they are done (`awaitedInTurn_perm`).

`awaitedInTurn` follows the clock from one helper to the next.  It is pinned down by what it is at
most (`awaitedInTurn_le_iff`), and everything else about it follows from that.
-/

namespace GuardedGateway

/-- The clock when the last of some helpers has been awaited.  All of them set out at `start`, they
take these times, and they are awaited one after the other from `clock` on. -/
def awaitedInTurn (start clock : Nat) : List Nat → Nat
  | [] => clock
  | duration :: rest => awaitedInTurn start (max clock (start + duration)) rest

/-- The wait is over by some time exactly when every helper is done by then. -/
theorem awaitedInTurn_le_iff {start clock time : Nat} {durations : List Nat} :
    awaitedInTurn start clock durations ≤ time ↔
      clock ≤ time ∧ ∀ duration ∈ durations, start + duration ≤ time := by
  induction durations generalizing clock with
  | nil => simp [awaitedInTurn]
  | cons duration rest ih =>
    rw [awaitedInTurn, ih, Nat.max_le, List.forall_mem_cons, and_assoc]

/-- The order in which the helpers are awaited does not matter. -/
theorem awaitedInTurn_perm {durations order : List Nat} (h : order.Perm durations)
    (start clock : Nat) :
    awaitedInTurn start clock order = awaitedInTurn start clock durations := by
  refine eq_of_forall_ge_iff fun time => ?_
  simp only [awaitedInTurn_le_iff, h.mem_iff]

/-- **The wait takes as long as the slowest helper**, when the first one is awaited at once. -/
theorem awaitedInTurn_eq (start : Nat) (durations : List Nat) :
    awaitedInTurn start start durations = start + durations.max?.getD 0 := by
  refine eq_of_forall_ge_iff fun time => ?_
  rw [awaitedInTurn_le_iff]
  cases hslowest : durations.max? with
  | none =>
    obtain rfl : durations = [] := List.max?_eq_none_iff.mp hslowest
    simp
  | some slowest =>
    obtain ⟨hmem, hle⟩ := List.max?_eq_some_iff.mp hslowest
    rw [Option.getD_some]
    constructor
    · exact fun h => h.2 slowest hmem
    · intro h
      refine ⟨Nat.le_of_add_right_le h, fun duration hduration => ?_⟩
      exact Nat.le_trans (Nat.add_le_add_left (hle duration hduration) start) h

/-- Answers that are awaited together are there when their helpers have been awaited in turn. -/
theorem Timed.duration_all {α : Type} (xs : List (Timed α)) :
    (Timed.all xs).duration = (xs.map duration).max?.getD 0 := by
  have hfold : ∀ (start : Nat) (durations : List Nat),
      durations.foldl max start = awaitedInTurn 0 start durations := by
    intro start durations
    induction durations generalizing start with
    | nil => rfl
    | cons duration rest ih => rw [List.foldl_cons, ih, awaitedInTurn, Nat.zero_add]
  rw [Timed.all, hfold, awaitedInTurn_eq, Nat.zero_add]

namespace Tool

/-- How long it takes to check that the pods of these namespaces can be listed, for each of them. -/
def checkMs (client : Cluster.Client) (names : List String) : List Nat :=
  names.map fun ns => (client.listPods ns none).duration

/-- The namespaces that are checked. -/
def Invocation.candidates (inv : Invocation) : List String :=
  Tool.candidates inv.allowed inv.client.listNamespaces.value

/-- **Namespaces are listed in the time of the listing and of the slowest check.** -/
theorem duration_listNamespaces {inv : Invocation} (h : inv.allowed.isEmpty = false) :
    (listNamespaces inv).duration =
      inv.client.listNamespaces.duration + (checkMs inv.client inv.candidates).max?.getD 0 := by
  rw [listNamespaces, if_neg (by rw [h]; decide), Timed.duration_andThen, Timed.duration_map,
    Timed.duration_all, List.map_map]
  rfl

/-- Under the empty allowlist nothing is asked. -/
theorem duration_listNamespaces_of_isEmpty {inv : Invocation} (h : inv.allowed.isEmpty = true) :
    (listNamespaces inv).duration = 0 := by
  rw [listNamespaces, if_pos h, Timed.duration_now]

end Tool

end GuardedGateway
