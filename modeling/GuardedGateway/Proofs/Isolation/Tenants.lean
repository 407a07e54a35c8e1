import GuardedGateway.Proofs.Cluster.View
import GuardedGateway.Proofs.Dispatch.Decision
import GuardedGateway.Proofs.Tool.Registry

/-!
# Tenants do not see each other

Whatever a caller asks, the answer is determined by the view of the cluster under the live
allowlist: what stands in a namespace that is not allowed, or in a forbidden one, has no influence
on any response, be it a result, a failure or the size in a truncation marker.

A capability about one namespace asks about that namespace only, and it runs only when the namespace
is allowed.  The listing of namespaces asks about the allowed names only, although the cluster tells
it all of them.  So a capability comes to the same for a snapshot and for its view (`run_view`), and
two snapshots with one view give one response (`response_eq_of_view_eq`).

A snapshot answers at once.  So the clock has no influence either, unless no time at all is left when
the deadline is set; then a listing that waits for its helpers is cut off.
-/

namespace GuardedGateway

open Cluster (Client Snapshot)

/-- A connection that ends in the client of a snapshot, however long it takes. -/
def Cluster.Connection.Serves (connection : Cluster.Connection) (snapshot : Snapshot) : Prop :=
  connection.value = .ok (.ofSnapshot snapshot)

/-! ## A snapshot answers at once -/

/-- Answers that are there at once are there together at once. -/
theorem Timed.duration_all_eq_zero {α : Type} {xs : List (Timed α)} (h : ∀ x ∈ xs, x.duration = 0) :
    (Timed.all xs).duration = 0 := by
  show (xs.map Timed.duration).foldl max 0 = 0
  induction xs with
  | nil => rfl
  | cons x xs ih =>
    rw [List.map_cons, List.foldl_cons, h x List.mem_cons_self, Nat.max_self]
    exact ih fun y hy => h y (List.mem_cons_of_mem x hy)

namespace Tool

variable {allowed : Guard.Allowlist} (snapshot : Snapshot)

/-- Of a snapshot every capability does its work at once. -/
theorem Capability.duration_run_ofSnapshot (capability : Capability) (args : Fields)
    (allowed : Guard.Allowlist) :
    (capability.run ⟨.ofSnapshot snapshot, args, allowed⟩).duration = 0 := by
  have hwith {α : Type} (argument : Except Raised α) (next : α → Timed Outcome)
      (hnext : ∀ a, (next a).duration = 0) : (withArgument argument next).duration = 0 := by
    cases argument with
    | error raised => rfl
    | ok a => exact hnext a
  cases capability with
  | listPods => rfl
  | listNamespaces =>
    rw [run, Tool.listNamespaces]
    split
    · rfl
    · refine (Nat.zero_add _).trans (Timed.duration_all_eq_zero fun x hx => ?_)
      obtain ⟨ns, -, rfl⟩ := List.mem_map.mp hx
      rfl
  | describePod => exact hwith _ _ fun pod => rfl
  | getPodEvents => exact hwith _ _ fun pod => rfl
  | getPodLogs =>
    refine hwith _ _ fun pod => ?_
    cases tailLines? (Fields.get? args "tail_lines") <;> rfl
  | describeDeployment => exact hwith _ _ fun deployment => rfl

/-! ## Capabilities look at the view only -/

/-- The candidates of the listing are allowed names, so the view has the same ones. -/
theorem candidates_view :
    candidates allowed (.ok (Snapshot.mk (snapshot.view allowed)).listNamespaces) =
      candidates allowed (.ok snapshot.listNamespaces) := by
  refine List.filter_congr fun ns hns => ?_
  have hallows : allowed.allows ns = true := (allowed.allows_iff ns).mpr hns
  rw [Bool.eq_iff_iff, List.contains_iff_mem, List.contains_iff_mem,
    Snapshot.mem_listNamespaces_view snapshot hallows]

/-- The candidates of the listing are allowed. -/
theorem allows_of_mem_candidates {listing : Except Cluster.Fault (List String)} {ns : String}
    (h : ns ∈ candidates allowed listing) : allowed.allows ns = true := by
  rw [allowed.allows_iff]
  cases listing with
  | ok listed => exact (List.mem_filter.mp h).1
  | error fault => exact h

theorem accessible_view {ns : String} (h : allowed.allows ns = true) :
    accessible (.ofSnapshot ⟨snapshot.view allowed⟩) ns = accessible (.ofSnapshot snapshot) ns := by
  rw [accessible, accessible]
  simp only [Client.ofSnapshot, Snapshot.listPods_view snapshot h]

/-- Listing the namespaces comes to the same for a snapshot and for its view. -/
theorem listNamespaces_view (args : Fields) :
    listNamespaces ⟨.ofSnapshot ⟨snapshot.view allowed⟩, args, allowed⟩ =
      listNamespaces ⟨.ofSnapshot snapshot, args, allowed⟩ := by
  have hchecks : (candidates allowed (.ok snapshot.listNamespaces)).map
        (accessible (.ofSnapshot ⟨snapshot.view allowed⟩)) =
      (candidates allowed (.ok snapshot.listNamespaces)).map (accessible (.ofSnapshot snapshot)) :=
    List.map_congr_left fun ns hns => accessible_view snapshot (allows_of_mem_candidates hns)
  rw [listNamespaces, listNamespaces]
  split
  · rfl
  · simp only [Client.ofSnapshot, Timed.now, Timed.andThen] at hchecks ⊢
    rw [candidates_view, hchecks]

/-- **A capability looks at the view only**, provided that a capability about one namespace has been
given an allowed one. -/
theorem Capability.run_view (capability : Capability) (args : Fields)
    (h : capability ≠ .listNamespaces →
      allowed.allows ((stringArg args "namespace").getD "") = true) :
    capability.run ⟨.ofSnapshot ⟨snapshot.view allowed⟩, args, allowed⟩ =
      capability.run ⟨.ofSnapshot snapshot, args, allowed⟩ := by
  cases capability with
  | listNamespaces => exact listNamespaces_view snapshot args
  | listPods =>
    simp only [run, Invocation.ns, Client.ofSnapshot,
      Snapshot.listPods_view snapshot (h (by decide))]
  | describePod =>
    simp only [run, Invocation.required, Invocation.ns, Client.ofSnapshot,
      Snapshot.describePod_view snapshot (h (by decide))]
  | getPodEvents =>
    simp only [run, Invocation.required, Invocation.ns, Client.ofSnapshot,
      Snapshot.podEvents_view snapshot (h (by decide))]
  | getPodLogs =>
    simp only [run, Invocation.required, Invocation.ns, Client.ofSnapshot,
      Snapshot.podLogs_view snapshot (h (by decide))]
  | describeDeployment =>
    simp only [run, Invocation.required, Invocation.ns, Client.ofSnapshot,
      Snapshot.describeDeployment_view snapshot (h (by decide))]

end Tool

/-! ## Requests look at the view only -/

namespace Gateway

/-- A tool of the gateway that does not do its own checking runs with an allowed namespace. -/
theorem allows_ns_of_authorize {allowed : Guard.Allowlist} {request : Tool.Request}
    {spec : Tool.Spec} (h : authorize .builtin allowed request = .ok spec)
    (hcapability : spec.capability ≠ .listNamespaces) :
    allowed.allows ((Tool.stringArg request.args "namespace").getD "") = true := by
  have hscope : spec.scope = .namespaced := by
    cases hscope : spec.scope with
    | namespaced => rfl
    | cluster =>
      have hget := get?_of_authorize h
      exact absurd (Tool.Registry.capability_of_get?_builtin hget hscope) hcapability
  obtain ⟨ns, hns, hallows⟩ := exists_allowed_ns_of_authorize h hscope
  have harg : Tool.stringArg request.args "namespace" = some ns := hns
  rw [harg]
  exact hallows

/-- The capability of an authorised request does the same work on two snapshots with one view. -/
theorem run_eq_of_view_eq {allowed : Guard.Allowlist} {request : Tool.Request} {spec : Tool.Spec}
    {snapshot₁ snapshot₂ : Snapshot} (h : authorize .builtin allowed request = .ok spec)
    (hview : snapshot₁.view allowed = snapshot₂.view allowed) :
    spec.capability.run ⟨.ofSnapshot snapshot₁, request.args, allowed⟩ =
      spec.capability.run ⟨.ofSnapshot snapshot₂, request.args, allowed⟩ := by
  have hallowed := allows_ns_of_authorize h
  rw [← Tool.Capability.run_view snapshot₁ spec.capability request.args hallowed, hview,
    Tool.Capability.run_view snapshot₂ spec.capability request.args hallowed]

/-- **Tenant isolation.**  Two snapshots of which the live allowlist shows the same give every call
the same response, apart from the latency, when there is time left in both runs, or in neither. -/
theorem response_eq_of_view_eq (initial : Settings) (call : Tool.Call) {ambient₁ ambient₂ : Ambient}
    {state₁ state₂ : State} {snapshot₁ snapshot₂ : Snapshot}
    (hlive : state₁.live = state₂.live)
    (htime : ambient₁.HasTime (.ofSettings .builtin initial) ↔
      ambient₂.HasTime (.ofSettings .builtin initial))
    (h₁ : state₁.connection.Serves snapshot₁) (h₂ : state₂.connection.Serves snapshot₂)
    (hview : snapshot₁.view (.parse state₁.live.tools.allowedNamespaces) =
      snapshot₂.view (.parse state₁.live.tools.allowedNamespaces)) :
    (dispatch (.ofSettings .builtin initial) ambient₁ call state₁).result.response.AlikeButLatency
      (dispatch (.ofSettings .builtin initial) ambient₂ call state₂).result.response := by
  rw [response_dispatch, response_dispatch, ← hlive,
    execute_value_congr htime h₁ h₂
      (fun spec => spec.capability.duration_run_ofSnapshot snapshot₁ _ _)
      fun spec hauth => run_eq_of_view_eq hauth hview ▸ SameWhenReleased.refl _]
  exact respond_alike call.toolName ambient₁.latencyNanos ambient₂.latencyNanos _

/-- A cluster with a namespace of one's own, a forbidden one, and one of somebody else. -/
def sharedCluster (closed foreign : List Cluster.Pod) : Snapshot :=
  ⟨[⟨"default", false, [], []⟩, ⟨"sealed", true, closed, []⟩, ⟨"other", false, foreign, []⟩]⟩

/-- A pod that appears in the forbidden namespace and in the foreign one changes no answer about
them. -/
theorem response_eq_of_view_eq_sharedCluster :
    let live := Settings.allowing "sealed, default"
    let pod := { Cluster.Pod.record.start with name := "web" }
    let call : Tool.Call := ⟨"k8s.describe_pod",
      [("namespace", .str "sealed"), ("pod_name", .str "web")], 0⟩
    let ambient := fun (spent : Nat) => Ambient.mk ⟨1, 1⟩ 0 (1000000 * spent) spent
    let response := fun (spent : Nat) (snapshot : Snapshot) =>
      (dispatch (.ofSettings .builtin live) (ambient spent) call
        (.fresh live (.now (.ok (.ofSnapshot snapshot))))).result.response
    sharedCluster [] [] ≠ sharedCluster [pod] [pod] ∧
      (ambient 5).HasTime (.ofSettings .builtin live) ∧
      (ambient 7).HasTime (.ofSettings .builtin live) ∧
      (sharedCluster [] []).view (.parse live.tools.allowedNamespaces) =
        (sharedCluster [pod] [pod]).view (.parse live.tools.allowedNamespaces) ∧
      (response 5 (sharedCluster [] [])).AlikeButLatency
        (response 7 (sharedCluster [pod] [pod])) := by
  intro live pod call ambient response
  have htime₁ : (ambient 5).HasTime (.ofSettings .builtin live) := by decide
  have htime₂ : (ambient 7).HasTime (.ofSettings .builtin live) := by decide
  have hview : (sharedCluster [] []).view (.parse live.tools.allowedNamespaces) =
      (sharedCluster [pod] [pod]).view (.parse live.tools.allowedNamespaces) := by decide
  refine ⟨by decide, htime₁, htime₂, hview, ?_⟩
  exact response_eq_of_view_eq live call rfl (iff_of_true htime₁ htime₂) rfl rfl hview

end Gateway

end GuardedGateway
