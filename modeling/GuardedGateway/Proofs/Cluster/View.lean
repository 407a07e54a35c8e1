import GuardedGateway.Cluster.Client
import GuardedGateway.Guard.Allowlist

/-!
# What an allowlist lets one see of a snapshot

The view of a snapshot under an allowlist keeps the entries with an allowed name, in their order,
and of a forbidden entry only its name and that it is forbidden.  Every question about an allowed
namespace has the same answer for the snapshot and for its view: a question first looks for the
entry with the name (`entry?_view`), then refuses a forbidden one (`readable_view`), and looks at
nothing else.

The listing of namespaces does tell names that are not allowed, so the view changes it; its allowed
part stays as it is (`mem_listNamespaces_view`).
-/

namespace GuardedGateway.Cluster

open Guard (Allowlist)

/-- An entry as its readers see it: nothing is in a forbidden one. -/
def Namespace.veiled (n : Namespace) : Namespace :=
  if n.forbidden then { n with pods := [], deployments := [] } else n

@[simp] theorem Namespace.name_veiled (n : Namespace) : n.veiled.name = n.name := by
  unfold veiled
  split <;> rfl

@[simp] theorem Namespace.forbidden_veiled (n : Namespace) : n.veiled.forbidden = n.forbidden := by
  unfold veiled
  split <;> rfl

/-- An entry that may be read is seen as it is. -/
theorem Namespace.veiled_of_readable {n : Namespace} (h : n.forbidden = false) : n.veiled = n := by
  rw [veiled, h, if_neg Bool.false_ne_true]

namespace Snapshot

/-- The entries of a snapshot that an allowlist lets one see, in order. -/
def view (allowed : Allowlist) (snapshot : Snapshot) : List Namespace :=
  (snapshot.namespaces.filter fun n => allowed.allows n.name).map Namespace.veiled

variable {allowed : Allowlist} {ns : String} (snapshot : Snapshot)

/-! ## Questions about one namespace -/

/-- The first entry with an allowed name is the first one of the view. -/
theorem entry?_view (h : allowed.allows ns = true) {found : Option Namespace}
    (hentry : snapshot.entry? ns = found) :
    Snapshot.entry? ⟨snapshot.view allowed⟩ ns = found.map Namespace.veiled := by
  have hname :
      ((fun n : Namespace => n.name == ns) ∘ Namespace.veiled) = fun n => n.name == ns := by
    funext n
    exact congrArg (· == ns) n.name_veiled
  have hallowed :
      (fun n : Namespace => decide (allowed.allows n.name = true ∧ (n.name == ns) = true)) =
        fun n => n.name == ns := by
    funext n
    cases hn : n.name == ns with
    | false => simp
    | true => simp [eq_of_beq hn, h]
  unfold entry? at hentry ⊢
  rw [view, List.find?_map, hname, List.find?_filter, hallowed, hentry]

/-- An allowed namespace is readable in the view as it is in the snapshot. -/
theorem readable_view (h : allowed.allows ns = true) :
    (Snapshot.mk (snapshot.view allowed)).readable ns = snapshot.readable ns := by
  cases hentry : snapshot.entry? ns with
  | none => rw [readable, readable, entry?_view snapshot h hentry, hentry, Option.map_none]
  | some n =>
    rw [readable, readable, entry?_view snapshot h hentry, hentry, Option.map_some]
    cases hforbidden : n.forbidden with
    | true => simp only [Namespace.forbidden_veiled, hforbidden, if_true]
    | false => simp only [Namespace.veiled_of_readable hforbidden, hforbidden]

theorem pod_view (h : allowed.allows ns = true) (pod : String) :
    (Snapshot.mk (snapshot.view allowed)).pod ns pod = snapshot.pod ns pod := by
  rw [Snapshot.pod, Snapshot.pod, readable_view snapshot h]

theorem listPods_view (h : allowed.allows ns = true) (selector : Option String) :
    (Snapshot.mk (snapshot.view allowed)).listPods ns selector = snapshot.listPods ns selector := by
  rw [listPods, listPods, readable_view snapshot h]

theorem describePod_view (h : allowed.allows ns = true) (pod : String) :
    (Snapshot.mk (snapshot.view allowed)).describePod ns pod = snapshot.describePod ns pod := by
  rw [describePod, describePod, pod_view snapshot h]

theorem podEvents_view (h : allowed.allows ns = true) (pod : String) :
    (Snapshot.mk (snapshot.view allowed)).podEvents ns pod = snapshot.podEvents ns pod := by
  rw [podEvents, podEvents, pod_view snapshot h]

theorem podLogs_view (h : allowed.allows ns = true) (pod : String) (container : Option String)
    (tailLines : Nat) :
    (Snapshot.mk (snapshot.view allowed)).podLogs ns pod container tailLines =
      snapshot.podLogs ns pod container tailLines := by
  rw [podLogs, podLogs, pod_view snapshot h]

theorem describeDeployment_view (h : allowed.allows ns = true) (deployment : String) :
    (Snapshot.mk (snapshot.view allowed)).describeDeployment ns deployment =
      snapshot.describeDeployment ns deployment := by
  rw [describeDeployment, describeDeployment, readable_view snapshot h]

/-! ## The listing of namespaces -/

/-- The names that are listed are the names of the entries. -/
theorem mem_listNamespaces :
    ns ∈ snapshot.listNamespaces ↔ ∃ n ∈ snapshot.namespaces, n.name = ns := by
  rw [listNamespaces, List.mem_mergeSort, List.mem_map]

/-- Of the allowed names, the view lists those that the snapshot lists. -/
theorem mem_listNamespaces_view (h : allowed.allows ns = true) :
    ns ∈ (Snapshot.mk (snapshot.view allowed)).listNamespaces ↔ ns ∈ snapshot.listNamespaces := by
  simp only [mem_listNamespaces, view, List.mem_map, List.mem_filter]
  constructor
  · rintro ⟨_, ⟨n, ⟨hn, -⟩, rfl⟩, hname⟩
    exact ⟨n, hn, n.name_veiled.symm.trans hname⟩
  · rintro ⟨n, hn, rfl⟩
    exact ⟨n.veiled, ⟨n, ⟨hn, h⟩, rfl⟩, n.name_veiled⟩

end Snapshot

end GuardedGateway.Cluster
