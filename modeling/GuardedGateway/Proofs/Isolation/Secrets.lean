import GuardedGateway.Proofs.Cluster.Blotting
import GuardedGateway.Proofs.Dispatch.Observation
import GuardedGateway.Proofs.Isolation.Tenants
import GuardedGateway.Proofs.Tool.Arguments

/-!
# Secrets do not leave the gateway

A cluster may keep secrets as labels and annotations, under keys that look like the names of
secrets.  Whatever a caller asks, what the gateway tells does not depend on them: neither the
response nor the size in a truncation marker, nor the span, nor a record.

Only the description of a pod contains labels and annotations, and everything that leaves the
gateway of a result has been redacted before.  So a capability does for a snapshot and for the
blotted one work of which the same is released (`run_blotted`), and the decision is the same.

A selector asks the cluster about labels, secret ones included, so the listing of pods with a
selector is left out.
-/

namespace GuardedGateway

open Cluster (Client Snapshot)
open Gateway (SameWhenReleased)

namespace Tool

/-- A call that asks the cluster which pods have certain labels. -/
def Call.Selects (call : Call) : Prop :=
  call.toolName = Capability.listPods.toolName ∧ "label_selector" ∈ call.args.keys

/-! ## Capabilities do not tell secrets -/

section

variable (snapshot : Snapshot) {args : Fields} (allowed : Guard.Allowlist)

/-- Two answers release the same when they are, once shaped and redacted, the same. -/
theorem sameWhenReleased_answered {α : Type} (capability : Capability) (attempt : Attempt)
    (member : String) {toJson : α → Json} {x y : Except Cluster.Fault α} (f : α → α)
    (hx : x = y.map f) (hredact : ∀ a, Guard.redact (toJson (f a)) = Guard.redact (toJson a)) :
    SameWhenReleased (answered capability attempt member toJson (.now x))
      (answered capability attempt member toJson (.now y)) := by
  refine ⟨rfl, rfl, ?_⟩
  subst hx
  cases y with
  | error fault => rfl
  | ok a =>
    have hmember := Cluster.redactField_congr member (hredact a)
    simp only [answered, Timed.map, Timed.now, Except.map, Guard.redact_obj,
      Guard.redactFields_eq_map, List.map_cons, hmember]

theorem listNamespaces_blotted :
    listNamespaces ⟨.ofSnapshot snapshot.blotted, args, allowed⟩ =
      listNamespaces ⟨.ofSnapshot snapshot, args, allowed⟩ := by
  have haccessible :
      accessible (.ofSnapshot snapshot.blotted) = accessible (.ofSnapshot snapshot) := by
    funext ns
    rw [accessible, accessible]
    simp only [Client.ofSnapshot, Snapshot.listPods_blotted]
  rw [listNamespaces, listNamespaces, haccessible]
  simp only [Client.ofSnapshot, Snapshot.listNamespaces_blotted]

/-- **A capability does not tell secrets**, unless it lists the pods that a selector selects. -/
theorem Capability.run_blotted (capability : Capability)
    (h : capability = .listPods → stringArg args "label_selector" = none) :
    SameWhenReleased (capability.run ⟨.ofSnapshot snapshot.blotted, args, allowed⟩)
      (capability.run ⟨.ofSnapshot snapshot, args, allowed⟩) := by
  have same {x y : Timed Outcome} (heq : x = y) : SameWhenReleased x y := heq ▸ .refl x
  cases capability with
  | listNamespaces => exact same (listNamespaces_blotted snapshot allowed)
  | listPods =>
    refine same ?_
    simp only [run, Invocation.ns, h rfl, Client.ofSnapshot, Snapshot.listPods_blotted]
  | describePod =>
    simp only [run, Invocation.required, Invocation.ns]
    cases stringArg args "pod_name" with
    | none => exact .refl _
    | some pod =>
      exact sameWhenReleased_answered .describePod .describePod "pod" Cluster.PodDetail.blotted
        (snapshot.describePod_blotted _ pod) Cluster.PodDetail.redact_toJson_blotted
  | getPodEvents =>
    refine same ?_
    simp only [run, Invocation.required, Invocation.ns, Client.ofSnapshot,
      Snapshot.podEvents_blotted]
  | getPodLogs =>
    refine same ?_
    simp only [run, Invocation.required, Invocation.ns, Client.ofSnapshot, Snapshot.podLogs_blotted]
  | describeDeployment =>
    refine same ?_
    simp only [run, Invocation.required, Invocation.ns, Client.ofSnapshot,
      Snapshot.describeDeployment_blotted]

end

end Tool

/-! ## Dispatches do not tell secrets -/

namespace Gateway

/-- The capability of an authorised request that selects nothing releases the same of two snapshots
that are equal but for their secrets. -/
theorem run_of_equalButSecrets {allowed : Guard.Allowlist} {call : Tool.Call}
    {defaultTimeoutMs : Nat} {spec : Tool.Spec} {snapshot₁ snapshot₂ : Snapshot}
    (hselects : ¬ call.Selects)
    (h : authorize .builtin allowed (.ofCall defaultTimeoutMs call) = .ok spec)
    (hequal : snapshot₁.EqualButSecrets snapshot₂) :
    SameWhenReleased
      (spec.capability.run ⟨.ofSnapshot snapshot₁, Tool.strip call.args, allowed⟩)
      (spec.capability.run ⟨.ofSnapshot snapshot₂, Tool.strip call.args, allowed⟩) := by
  have hname : spec.capability.toolName = call.toolName :=
    Tool.Registry.toolName_of_get?_builtin (get?_of_authorize h)
  have hselector : spec.capability = .listPods →
      Tool.stringArg (Tool.strip call.args) "label_selector" = none := by
    intro hlistPods
    refine Tool.stringArg_strip_of_not_mem fun hkey => hselects ⟨?_, hkey⟩
    rw [← hname, hlistPods]
  have hblotted₁ := Tool.Capability.run_blotted snapshot₁ allowed spec.capability hselector
  have hblotted₂ := Tool.Capability.run_blotted snapshot₂ allowed spec.capability hselector
  rw [hequal] at hblotted₁
  exact hblotted₁.symm.trans hblotted₂

/-- **Secrets do not leave the gateway.**  Two snapshots that are equal but for their secrets give
every call that selects no pods by their labels the same decision, so it tells the same, apart from
drawn ids and latencies, when there is time left in both runs, or in neither; and to the letter when
nothing was drawn or measured differently. -/
theorem toldAlike_of_equalButSecrets (initial : Settings) (call : Tool.Call) (state : State)
    {ambient₁ ambient₂ : Ambient} {connection₁ connection₂ : Cluster.Connection}
    {snapshot₁ snapshot₂ : Snapshot}
    (htime : ambient₁.HasTime (.ofSettings .builtin initial) ↔
      ambient₂.HasTime (.ofSettings .builtin initial))
    (h₁ : connection₁.Serves snapshot₁) (h₂ : connection₂.Serves snapshot₂)
    (hequal : snapshot₁.EqualButSecrets snapshot₂) (hselects : ¬ call.Selects) :
    ToldAlike
        (dispatch (.ofSettings .builtin initial) ambient₁ call
          { state with connection := connection₁ })
        (dispatch (.ofSettings .builtin initial) ambient₂ call
          { state with connection := connection₂ }) ∧
      (ambient₁ = ambient₂ →
        (dispatch (.ofSettings .builtin initial) ambient₁ call
            { state with connection := connection₁ }).result =
          (dispatch (.ofSettings .builtin initial) ambient₂ call
            { state with connection := connection₂ }).result ∧
        (dispatch (.ofSettings .builtin initial) ambient₁ call
            { state with connection := connection₁ }).done.audit =
          (dispatch (.ofSettings .builtin initial) ambient₂ call
            { state with connection := connection₂ }).done.audit) := by
  have hvalue :
      (execute (.ofSettings .builtin initial) ambient₁ state.live connection₁
        (.ofCall state.live.tools.defaultTimeoutMs call)).value =
      (execute (.ofSettings .builtin initial) ambient₂ state.live connection₂
        (.ofCall state.live.tools.defaultTimeoutMs call)).value := by
    refine execute_value_congr htime h₁ h₂ (fun spec => ?_) fun spec hauth => ?_
    · exact spec.capability.duration_run_ofSnapshot snapshot₁ _ _
    · exact run_of_equalButSecrets hselects hauth hequal
  refine ⟨toldAlike_of_value_eq (.refl _) rfl hvalue, ?_⟩
  rintro rfl
  exact told_of_value_eq hvalue

/-- A cluster with a pod that has a token among its labels. -/
def labelledCluster (token : String) : Snapshot :=
  let labels := [("api-token", token), ("app", "web")]
  ⟨[⟨"default", false, [{ Cluster.Pod.record.start with name := "web", labels }], []⟩]⟩

/-- The description of the pod does not depend on its token. -/
theorem toldAlike_of_equalButSecrets_labelledCluster :
    let call : Tool.Call := ⟨"k8s.describe_pod",
      [("namespace", .str "default"), ("pod_name", .str "web")], 0⟩
    let run := fun (ambient : Ambient) (token : String) =>
      dispatch (.ofSettings .builtin (.allowing "default")) ambient call
        (.fresh (.allowing "default") (.now (.ok (.ofSnapshot (labelledCluster token)))))
    labelledCluster "swordfish" ≠ labelledCluster "" ∧
      (labelledCluster "swordfish").EqualButSecrets (labelledCluster "") ∧ ¬ call.Selects ∧
      ToldAlike (run ⟨⟨1, 1⟩, 0, 5, 0⟩ "swordfish") (run ⟨⟨2, 2⟩, 0, 7, 1⟩ "") := by
  intro call run
  have hequal : (labelledCluster "swordfish").EqualButSecrets (labelledCluster "") := by
    unfold Snapshot.EqualButSecrets
    decide
  have hselects : ¬ call.Selects := fun h => absurd h.1 (by decide)
  have hserves (token : String) : Cluster.Connection.Serves
      (.now (.ok (.ofSnapshot (labelledCluster token)))) (labelledCluster token) := rfl
  have htime : (Ambient.mk ⟨1, 1⟩ 0 5 0).HasTime (.ofSettings .builtin (.allowing "default")) ↔
      (Ambient.mk ⟨2, 2⟩ 0 7 1).HasTime (.ofSettings .builtin (.allowing "default")) := by
    decide
  refine ⟨by decide, hequal, hselects, ?_⟩
  exact (toldAlike_of_equalButSecrets (.allowing "default") call
    (.fresh (.allowing "default") (.now (.error (.backend "unused")))) htime
    (hserves "swordfish") (hserves "") hequal hselects).1

end Gateway

end GuardedGateway
