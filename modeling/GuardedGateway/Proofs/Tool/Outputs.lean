import GuardedGateway.Guard.OutputBound
import GuardedGateway.Guard.Redaction
import GuardedGateway.Proofs.Cluster.Representable
import GuardedGateway.Proofs.Json.RoundTrip
import GuardedGateway.Tool.Capability
import GuardedGateway.Tool.Response

/-!
# Envelopes are read back from their texts

What a capability comes to is made of strings, of counts and of maps of strings, so its text can be
read back (`Capability.plain_run`).  Redaction keeps it so, and so does bounding, since the marker
is made of two sizes; and an envelope adds strings and one more number, which is within 64 bits
(`Response.plain_toJson`).

What the cluster tells is not under the control of the gateway, only what its answers are made of:
the client is `Representable`.
-/

namespace GuardedGateway

open Json (Plain)

/-! ## Strings and counts -/

namespace Json

theorem plain_ofStrings (depth : Nat) (names : List String) :
    Plain (depth + 1) (.ofStrings names) :=
  .arr (List.forall_mem_map.mpr fun name _ => .str depth name)

/-- A natural number of 64 bits is read back. -/
theorem plain_ofNat (depth : Nat) {n : Nat} (h : n < 2 ^ 64) : Plain depth (.ofNat n) :=
  .int depth (by omega) (by omega)

/-- A count of 32 bits is read back. -/
theorem plain_ofInt32 (depth : Nat) {n : Int} (h : Cluster.IsInt32 n) : Plain depth (.ofInt n) := by
  obtain ⟨hlow, hhigh⟩ := h
  exact .int depth (by omega) (by omega)

end Json

/-! ## Redaction and bounding -/

namespace Guard

/-- A value stays plain when its secrets are replaced. -/
theorem plain_redact {depth : Nat} {v : Json} (h : Plain depth v) : Plain depth (redact v) := by
  induction h with
  | null depth => exact .null depth
  | bool depth b => exact .bool depth b
  | int depth hlow hhigh => exact .int depth hlow hhigh
  | str depth s => exact .str depth s
  | arr _ ih =>
    rw [redact_arr, redactItems_eq_map]
    exact .arr (List.forall_mem_map.mpr ih)
  | @obj depth fields hkeys _ ih =>
    rw [redact_obj]
    refine .obj (by rwa [keys_redactFields]) ?_
    rw [redactFields_eq_map]
    refine List.forall_mem_map.mpr fun f hf => ?_
    obtain ⟨key, v⟩ := f
    rw [redactField]
    simp only
    split
    · exact .str depth redacted
    · exact ih _ hf

theorem plain_truncationMarker (depth : Nat) {originalSize returnedSize : Nat}
    (horiginal : originalSize < 2 ^ 64) (hreturned : returnedSize < 2 ^ 64) :
    Plain (depth + 1) (truncationMarker originalSize returnedSize) := by
  refine .obj ?_ ?_
  · show ["truncated", "original_size", "returned_size"].Nodup
    decide
  · simp only [List.forall_mem_cons]
    exact ⟨.bool depth true, Json.plain_ofNat depth horiginal, Json.plain_ofNat depth hreturned,
      List.forall_mem_nil _⟩

end Guard

/-! ## Capabilities -/

namespace Cluster

variable (depth : Nat)

theorem PodSummary.plain_toJson (pod : PodSummary) : Plain (depth + 1) pod.toJson := by
  refine .obj ?_ ?_
  · show ["name", "namespace", "status", "node"].Nodup
    decide
  · simp only [List.forall_mem_cons]
    exact ⟨.str depth _, .str depth _, .str depth _, .str depth _, List.forall_mem_nil _⟩

theorem PodEvent.plain_toJson (event : PodEvent) : Plain (depth + 1) event.toJson := by
  refine .obj ?_ ?_
  · show ["reason", "message", "type", "time"].Nodup
    decide
  · simp only [List.forall_mem_cons]
    exact ⟨.str depth _, .str depth _, .str depth _, .str depth _, List.forall_mem_nil _⟩

theorem Labels.plain_toJson {labels : Labels} (h : Labels.Distinct labels) :
    Plain (depth + 1) (Labels.toJson labels) := by
  refine .obj ?_ (List.forall_mem_map.mpr fun label _ => .str depth label.2)
  rw [Fields.keys, List.map_map]
  exact h

theorem PodDetail.plain_toJson {pod : PodDetail} (hlabels : Labels.Distinct pod.labels)
    (hannotations : Labels.Distinct pod.annotations) : Plain (depth + 2) pod.toJson := by
  refine .obj ?_ ?_
  · show ["name", "namespace", "phase", "node", "reason", "message", "start_time", "labels",
      "annotations"].Nodup
    decide
  · simp only [List.forall_mem_cons]
    exact ⟨.str _ _, .str _ _, .str _ _, .str _ _, .str _ _, .str _ _, .str _ _,
      Labels.plain_toJson depth hlabels, Labels.plain_toJson depth hannotations,
      List.forall_mem_nil _⟩

theorem DeploymentDetail.plain_toJson {deployment : DeploymentDetail}
    (h : IsInt32 deployment.replicas ∧ IsInt32 deployment.ready ∧ IsInt32 deployment.updated ∧
      IsInt32 deployment.available) : Plain (depth + 1) deployment.toJson := by
  obtain ⟨hreplicas, hready, hupdated, havailable⟩ := h
  refine .obj ?_ ?_
  · show ["name", "namespace", "replicas", "ready", "updated", "available"].Nodup
    decide
  · simp only [List.forall_mem_cons]
    exact ⟨.str depth _, .str depth _, Json.plain_ofInt32 depth hreplicas,
      Json.plain_ofInt32 depth hready, Json.plain_ofInt32 depth hupdated,
      Json.plain_ofInt32 depth havailable, List.forall_mem_nil _⟩

end Cluster

namespace Tool

/-- An answer of the cluster is plain when it is shaped to something plain. -/
theorem plain_answered {α : Type} {depth : Nat} {capability : Capability} {attempt : Attempt}
    {member : String} {toJson : α → Json} {answer : Cluster.Answer α} {output : Json}
    (hmember : member ≠ "tool_name")
    (hanswer : ∀ a, answer.value = .ok a → Plain depth (toJson a))
    (h : (answered capability attempt member toJson answer).value = .ok output) :
    Plain (depth + 1) output := by
  obtain ⟨a, hvalue, rfl⟩ := value_answered_eq_ok_iff.mp h
  refine .obj ?_ ?_
  · show ["tool_name", member].Nodup
    simpa using hmember.symm
  · simp only [List.forall_mem_cons]
    exact ⟨.str depth _, hanswer a hvalue, List.forall_mem_nil _⟩

/-- What is gone on with after an argument was found. -/
theorem value_withArgument {α : Type} {argument : Except Raised α}
    {next : α → Timed Outcome} {output : Json}
    (h : (withArgument argument next).value = .ok output) : ∃ a, (next a).value = .ok output := by
  cases argument with
  | error raised => cases h
  | ok a => exact ⟨a, h⟩

theorem plain_listNamespaces (depth : Nat) {inv : Invocation} {output : Json}
    (h : (listNamespaces inv).value = .ok output) : Plain (depth + 2) output := by
  rw [listNamespaces] at h
  split at h
  · cases h
  · cases h
    refine .obj ?_ ?_
    · show ["tool_name", "allowed_namespaces", "matching_namespaces", "items"].Nodup
      decide
    · simp only [List.forall_mem_cons]
      exact ⟨.str _ _, Json.plain_ofStrings depth _, Json.plain_ofStrings depth _,
        Json.plain_ofStrings depth _, List.forall_mem_nil _⟩

/-- **Whatever a capability comes to is plain.** -/
theorem Capability.plain_run (depth : Nat) {capability : Capability} {inv : Invocation}
    {output : Json} (hclient : inv.client.Representable)
    (h : (capability.run inv).value = .ok output) : Plain (depth + 3) output := by
  cases capability with
  | listPods =>
    refine plain_answered (by decide) (fun pods _ => ?_) h
    exact .arr (List.forall_mem_map.mpr fun pod _ => pod.plain_toJson depth)
  | listNamespaces => exact plain_listNamespaces (depth + 1) h
  | describePod =>
    obtain ⟨pod, h⟩ := value_withArgument h
    refine plain_answered (by decide) (fun detail hdetail => ?_) h
    obtain ⟨hlabels, hannotations⟩ := hclient.pod _ _ detail hdetail
    exact Cluster.PodDetail.plain_toJson depth hlabels hannotations
  | getPodEvents =>
    obtain ⟨pod, h⟩ := value_withArgument h
    refine plain_answered (by decide) (fun events _ => ?_) h
    exact .arr (List.forall_mem_map.mpr fun event _ => event.plain_toJson depth)
  | getPodLogs =>
    obtain ⟨pod, h⟩ := value_withArgument h
    split at h
    · cases h
    · exact plain_answered (by decide) (fun logs _ => .str (depth + 2) logs) h
  | describeDeployment =>
    obtain ⟨deployment, h⟩ := value_withArgument h
    refine plain_answered (by decide) (fun detail hdetail => ?_) h
    exact Cluster.DeploymentDetail.plain_toJson (depth + 1) (hclient.deployment _ _ detail hdetail)

/-! ## Envelopes -/

namespace Response

theorem latencyMs_lt (response : Response) : response.latencyMs < 2 ^ 64 :=
  Nat.lt_of_le_of_lt (Nat.min_le_right _ _) (by decide)

theorem plain_failureJson (depth : Nat) {latencyMs : Nat} (h : latencyMs < 2 ^ 64)
    (failure : Failure) : Plain (depth + 1) (failureJson latencyMs failure) := by
  refine .obj ?_ ?_
  · show ["error_type", "message", "tool_name", "duration_ms"].Nodup
    decide
  · simp only [List.forall_mem_cons]
    exact ⟨.str depth _, .str depth _, .str depth _, Json.plain_ofNat depth h,
      List.forall_mem_nil _⟩

/-- **The envelope of a plain result is plain**, and so is the envelope of a failure. -/
theorem plain_toJson {depth : Nat} {response : Response}
    (h : ∀ result, response.outcome = .ok result → Plain (depth + 1) result) :
    Plain (depth + 2) response.toJson := by
  have hresult : Plain (depth + 1) (response.result?.getD .null) := by
    rw [result?]
    cases houtcome : response.outcome with
    | ok result => exact h result houtcome
    | error failure => exact .null _
  have herror : Plain (depth + 1)
      ((response.failure?.map (failureJson response.latencyMs)).getD .null) := by
    cases response.failure? with
    | none => exact .null _
    | some failure => exact plain_failureJson depth response.latencyMs_lt failure
  refine .obj ?_ ?_
  · show ["tool_name", "status", "latency_ms", "truncated", "result", "error"].Nodup
    decide
  · simp only [List.forall_mem_cons]
    exact ⟨.str _ _, .str _ _, Json.plain_ofNat _ response.latencyMs_lt, .bool _ _, hresult,
      herror, List.forall_mem_nil _⟩

end Response

end Tool

end GuardedGateway
