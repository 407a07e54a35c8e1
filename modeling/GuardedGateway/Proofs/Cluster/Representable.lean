import GuardedGateway.Cluster.Connection
import GuardedGateway.Proofs.Json.Reading
import Mathlib.Algebra.Group.Int.Defs

/-!
# What a cluster can tell

The answers of a client are taken as they come, and a client can be anything that answers.  What
they can be is limited by what they are made of: labels and annotations are maps, so no key stands
twice in them, and counts have 32 bits.  Such a client is `Representable`.

A snapshot that was read from a file is made of such things (`representable_of_parse`), so every
client that an inventory gives is representable (`representable_of_connect`).
-/

namespace GuardedGateway.Cluster

/-- An integer of 32 bits. -/
def IsInt32 (n : Int) : Prop :=
  -(2 ^ 31) ≤ n ∧ n < 2 ^ 31

instance (n : Int) : Decidable (IsInt32 n) :=
  inferInstanceAs (Decidable (_ ∧ _))

/-- No key stands twice. -/
def Labels.Distinct (labels : Labels) : Prop :=
  (labels.map Prod.fst).Nodup

instance (labels : Labels) : Decidable (Labels.Distinct labels) :=
  inferInstanceAs (Decidable (List.Nodup _))

/-- The labels of a pod are maps. -/
def Pod.Representable (pod : Pod) : Prop :=
  Labels.Distinct pod.labels ∧ Labels.Distinct pod.annotations

instance (pod : Pod) : Decidable pod.Representable :=
  inferInstanceAs (Decidable (_ ∧ _))

/-- The counts of a deployment have 32 bits. -/
def Deployment.Representable (deployment : Deployment) : Prop :=
  IsInt32 deployment.replicas ∧ IsInt32 deployment.ready ∧ IsInt32 deployment.updated ∧
    IsInt32 deployment.available

instance (deployment : Deployment) : Decidable deployment.Representable :=
  inferInstanceAs (Decidable (_ ∧ _))

def Namespace.Representable (ns : Namespace) : Prop :=
  (∀ pod ∈ ns.pods, pod.Representable) ∧ ∀ deployment ∈ ns.deployments, deployment.Representable

instance (ns : Namespace) : Decidable ns.Representable :=
  inferInstanceAs (Decidable (_ ∧ _))

/-- Everything in a snapshot is representable. -/
def Snapshot.Representable (snapshot : Snapshot) : Prop :=
  ∀ ns ∈ snapshot.namespaces, ns.Representable

instance (snapshot : Snapshot) : Decidable snapshot.Representable :=
  inferInstanceAs (Decidable (∀ _ ∈ _, _))

/-- The answers of a client are made of maps without repeated keys and of counts of 32 bits. -/
structure Client.Representable (client : Client) : Prop where
  pod : ∀ ns name detail, (client.describePod ns name).value = .ok detail →
    Labels.Distinct detail.labels ∧ Labels.Distinct detail.annotations
  deployment : ∀ ns name detail, (client.describeDeployment ns name).value = .ok detail →
    IsInt32 detail.replicas ∧ IsInt32 detail.ready ∧ IsInt32 detail.updated ∧
      IsInt32 detail.available

/-! ## Snapshots that were read -/

open Json (Record)
open Json.Field (optional_gives optional_gives_of_put)

theorem Labels.distinct_of_increasing {labels : Labels} (h : Text.Increasing Prod.fst labels) :
    labels.Distinct :=
  h.nodup

theorem Pod.keeps_representable : Pod.record.Keeps Pod.Representable where
  start := by decide
  field := by
    simp only [Pod.record, List.forall_mem_cons]
    refine ⟨?_, ?_, ?_, ?_, ?_, ?_, ?_, ?_, ?_, ?_, List.forall_mem_nil _⟩
    case refine_7 =>
      exact fun depth r hr => optional_gives (Json.mapOf_gives_increasing _ depth) fun labels h =>
        ⟨Labels.distinct_of_increasing h, hr.2⟩
    case refine_8 =>
      exact fun depth r hr => optional_gives (Json.mapOf_gives_increasing _ depth) fun labels h =>
        ⟨hr.1, Labels.distinct_of_increasing h⟩
    all_goals exact fun depth r hr => optional_gives_of_put fun _ => hr

theorem Deployment.keeps_representable : Deployment.record.Keeps Deployment.Representable where
  start := by decide
  field := by
    have hcount := Json.integer_gives "i32" (-(2 ^ 31)) (2 ^ 31)
    simp only [Deployment.record, List.forall_mem_cons]
    refine ⟨?_, ?_, ?_, ?_, ?_, List.forall_mem_nil _⟩
    · exact fun depth r hr => optional_gives_of_put fun _ => hr
    · exact fun depth r ⟨_, hready, hupdated, havailable⟩ =>
        optional_gives (hcount depth) fun _ h => ⟨h, hready, hupdated, havailable⟩
    · exact fun depth r ⟨hreplicas, _, hupdated, havailable⟩ =>
        optional_gives (hcount depth) fun _ h => ⟨hreplicas, h, hupdated, havailable⟩
    · exact fun depth r ⟨hreplicas, hready, _, havailable⟩ =>
        optional_gives (hcount depth) fun _ h => ⟨hreplicas, hready, h, havailable⟩
    · exact fun depth r ⟨hreplicas, hready, hupdated, _⟩ =>
        optional_gives (hcount depth) fun _ h => ⟨hreplicas, hready, hupdated, h⟩

theorem Namespace.keeps_representable : Namespace.record.Keeps Namespace.Representable where
  start := by decide
  field := by
    simp only [Namespace.record, List.forall_mem_cons]
    refine ⟨?_, ?_, ?_, ?_, List.forall_mem_nil _⟩
    · exact fun depth r hr => optional_gives_of_put fun _ => hr
    · exact fun depth r hr => optional_gives_of_put fun _ => hr
    · exact fun depth r hr => optional_gives
        (Json.listOf_gives (Record.shape_gives Pod.keeps_representable) depth) fun _ h => ⟨h, hr.2⟩
    · exact fun depth r hr => optional_gives
        (Json.listOf_gives (Record.shape_gives Deployment.keeps_representable) depth)
        fun _ h => ⟨hr.1, h⟩

/-- **A snapshot that was read is representable.** -/
theorem Snapshot.representable_of_parse {content : Bytes} {snapshot : Snapshot}
    (h : parse content = .ok snapshot) : snapshot.Representable := by
  refine Record.keeps_of_parse (p := Snapshot.Representable) ⟨by decide, ?_⟩ h
  simp only [record, List.forall_mem_cons]
  refine ⟨fun depth r hr => ?_, List.forall_mem_nil _⟩
  exact optional_gives
    (Json.listOf_gives (Record.shape_gives Namespace.keeps_representable) depth) fun _ h => h

/-! ## Clients of a snapshot -/

namespace Snapshot

variable {snapshot : Snapshot}

/-- What can be read of a namespace is in the snapshot. -/
theorem mem_of_readable {ns : String} {found : Namespace}
    (h : snapshot.readable ns = .ok (some found)) : found ∈ snapshot.namespaces := by
  rw [readable] at h
  split at h
  · rename_i entry hentry
    split at h
    · cases h
    · cases h
      exact List.mem_of_find?_eq_some hentry
  · cases h

theorem exists_mem_of_describePod {ns name : String} {detail : PodDetail}
    (h : snapshot.describePod ns name = .ok detail) :
    ∃ found ∈ snapshot.namespaces, ∃ pod ∈ found.pods,
      detail.labels = pod.labels ∧ detail.annotations = pod.annotations := by
  simp only [describePod, Snapshot.pod] at h
  cases hread : snapshot.readable ns with
  | error fault =>
    rw [hread] at h
    cases h
  | ok found =>
    cases found with
    | none =>
      rw [hread] at h
      cases h
    | some found =>
      simp only [hread, bind, Except.bind, Option.bind_some] at h
      cases hfind : found.pods.find? fun p => p.name == name with
      | none =>
        rw [hfind] at h
        cases h
      | some pod =>
        rw [hfind] at h
        cases h
        exact ⟨found, mem_of_readable hread, pod, List.mem_of_find?_eq_some hfind, rfl, rfl⟩

theorem exists_mem_of_describeDeployment {ns name : String} {detail : DeploymentDetail}
    (h : snapshot.describeDeployment ns name = .ok detail) :
    ∃ found ∈ snapshot.namespaces, ∃ deployment ∈ found.deployments,
      detail = ⟨deployment.name, ns, deployment.replicas, deployment.ready, deployment.updated,
        deployment.available⟩ := by
  simp only [describeDeployment] at h
  cases hread : snapshot.readable ns with
  | error fault =>
    rw [hread] at h
    cases h
  | ok found =>
    cases found with
    | none =>
      rw [hread] at h
      cases h
    | some found =>
      simp only [hread, bind, Except.bind, Option.bind_some] at h
      cases hfind : found.deployments.find? fun d => d.name == name with
      | none =>
        rw [hfind] at h
        cases h
      | some deployment =>
        rw [hfind] at h
        cases h
        exact ⟨found, mem_of_readable hread, deployment, List.mem_of_find?_eq_some hfind, rfl⟩

/-- The client of a representable snapshot is representable. -/
theorem representable_ofSnapshot (h : snapshot.Representable) :
    (Client.ofSnapshot snapshot).Representable where
  pod ns name detail hdetail := by
    obtain ⟨found, hfound, pod, hpod, hlabels, hannotations⟩ := exists_mem_of_describePod hdetail
    rw [hlabels, hannotations]
    exact (h found hfound).1 pod hpod
  deployment ns name detail hdetail := by
    obtain ⟨found, hfound, deployment, hdeployment, rfl⟩ :=
      exists_mem_of_describeDeployment hdetail
    exact (h found hfound).2 deployment hdeployment

end Snapshot

/-- **Every client that an inventory gives is representable.** -/
theorem Inventory.representable_of_connect {inventory : Inventory} {client : Client}
    (h : inventory.connect.value = .ok client) : client.Representable := by
  cases inventory with
  | notConfigured => cases h
  | file path content =>
    cases content with
    | error fault => cases h
    | ok content =>
      cases hparse : Snapshot.parse content with
      | error fault =>
        simp only [connect, snapshot, hparse, Timed.value_now] at h
        cases h
      | ok snapshot =>
        simp only [connect, Inventory.snapshot, hparse, Timed.value_now] at h
        cases h
        exact Snapshot.representable_ofSnapshot (Snapshot.representable_of_parse hparse)

end GuardedGateway.Cluster
