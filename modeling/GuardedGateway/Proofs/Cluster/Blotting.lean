import GuardedGateway.Cluster.Client
import GuardedGateway.Guard.Redaction
import Mathlib.Data.List.Basic

/-!
# Snapshots with their secrets blotted out

A label and an annotation may have a key that looks like the name of a secret.  Blotting a snapshot
replaces the values under such keys and nothing else, so two snapshots are `EqualButSecrets` when
they are the same once blotted.

Of the six questions only the description of a pod tells labels and annotations, and only the
listing of pods looks at them, and only when it has a selector.  Every other answer is the same for
a snapshot and for the blotted one, and the description is, as JSON, the same once redacted
(`PodDetail.redact_toJson_blotted`).
-/

namespace GuardedGateway.Cluster

open Guard (isSecretKey redact redactField redacted)

/-! ## Blotting -/

/-- Labels of which the values under secret keys have been replaced. -/
def Labels.blotted (labels : Labels) : Labels :=
  labels.map fun l => (l.1, if isSecretKey l.1 then redacted else l.2)

/-- A pod with its labels and its annotations blotted. -/
def Pod.blotted (p : Pod) : Pod :=
  { p with labels := Labels.blotted p.labels, annotations := Labels.blotted p.annotations }

/-- A namespace with its pods blotted. -/
def Namespace.blotted (n : Namespace) : Namespace :=
  { n with pods := n.pods.map Pod.blotted }

/-- The description of a pod with its labels and its annotations blotted. -/
def PodDetail.blotted (p : PodDetail) : PodDetail :=
  { p with labels := Labels.blotted p.labels, annotations := Labels.blotted p.annotations }

namespace Snapshot

/-- A snapshot with its pods blotted. -/
def blotted (snapshot : Snapshot) : Snapshot :=
  ⟨snapshot.namespaces.map Namespace.blotted⟩

/-- Two snapshots that are equal except for the values under secret keys of labels and
annotations. -/
def EqualButSecrets (a b : Snapshot) : Prop :=
  a.blotted = b.blotted

end Snapshot

/-! ## What redaction leaves of labels -/

/-- Redaction leaves the same of two members with one key whose values it makes equal. -/
theorem redactField_congr (key : String) {v w : Json} (h : redact v = redact w) :
    redactField (key, v) = redactField (key, w) := by
  rw [redactField, redactField, h]

/-- Redaction leaves of labels what blotting leaves. -/
theorem Labels.redact_toJson_blotted (labels : Labels) :
    redact (Labels.toJson (Labels.blotted labels)) = redact (Labels.toJson labels) := by
  rw [toJson, toJson, blotted, Guard.redact_obj, Guard.redact_obj, Guard.redactFields_eq_map,
    Guard.redactFields_eq_map, List.map_map, List.map_map, List.map_map]
  refine congrArg Json.obj (List.map_congr_left fun l _ => ?_)
  simp only [Function.comp_apply, redactField, Guard.redact_str]
  cases isSecretKey l.1 <;> rfl

/-- Redaction leaves the same of the description of a pod and of the blotted one. -/
theorem PodDetail.redact_toJson_blotted (p : PodDetail) :
    redact p.blotted.toJson = redact p.toJson := by
  have hlabels := redactField_congr "labels" (Labels.redact_toJson_blotted p.labels)
  have hannotations := redactField_congr "annotations" (Labels.redact_toJson_blotted p.annotations)
  simp only [toJson, blotted, Guard.redact_obj, Guard.redactFields_eq_map, List.map_cons, hlabels,
    hannotations]

namespace Snapshot

variable (snapshot : Snapshot) (ns : String)

/-! ## The questions -/

theorem listNamespaces_blotted : snapshot.blotted.listNamespaces = snapshot.listNamespaces := by
  rw [listNamespaces, listNamespaces, blotted, List.map_map]
  rfl

/-- Entries keep their names, so the first one with a name is still the first. -/
theorem entry?_blotted :
    snapshot.blotted.entry? ns = Option.map Namespace.blotted (snapshot.entry? ns) := by
  unfold entry?
  rw [blotted, List.find?_map]
  rfl

theorem readable_blotted :
    snapshot.blotted.readable ns = (snapshot.readable ns).map (Option.map Namespace.blotted) := by
  rw [readable, readable, entry?_blotted]
  cases hentry : snapshot.entry? ns with
  | none => rfl
  | some n =>
    have hforbidden : n.blotted.forbidden = n.forbidden := rfl
    simp only [Option.map_some, hforbidden]
    split <;> rfl

/-- Pods keep their names, so the first one with a name is still the first. -/
theorem pod_blotted (pod : String) :
    snapshot.blotted.pod ns pod = (snapshot.pod ns pod).map Pod.blotted := by
  rw [Snapshot.pod, Snapshot.pod, readable_blotted]
  cases snapshot.readable ns with
  | error fault => rfl
  | ok found =>
    cases found with
    | none => rfl
    | some n =>
      have hfind : n.blotted.pods.find? (fun p => p.name == pod) =
          (n.pods.find? fun p => p.name == pod).map Pod.blotted := List.find?_map
      simp only [bind, Except.bind, Except.map, Option.map_some, Option.bind_some, hfind]
      cases n.pods.find? fun p => p.name == pod <;> rfl

/-- Without a selector nobody looks at labels. -/
theorem listPods_blotted : snapshot.blotted.listPods ns none = snapshot.listPods ns none := by
  rw [listPods, listPods, readable_blotted]
  cases snapshot.readable ns with
  | error fault => rfl
  | ok found => cases found with
    | none => rfl
    | some n =>
      have hsummary : (fun p : Pod => PodSummary.mk p.name n.name p.phase p.node) ∘ Pod.blotted =
          fun p => ⟨p.name, n.name, p.phase, p.node⟩ := rfl
      simp only [bind, Except.bind, Except.map, Option.map_some, Option.all_none, List.filter_true,
        Namespace.blotted, List.map_map, hsummary]

theorem describePod_blotted (pod : String) :
    snapshot.blotted.describePod ns pod = (snapshot.describePod ns pod).map PodDetail.blotted := by
  rw [describePod, describePod, pod_blotted]
  cases snapshot.pod ns pod <;> rfl

theorem podEvents_blotted (pod : String) :
    snapshot.blotted.podEvents ns pod = snapshot.podEvents ns pod := by
  rw [podEvents, podEvents, pod_blotted]
  cases snapshot.pod ns pod <;> rfl

theorem podLogs_blotted (pod : String) (container : Option String) (tailLines : Nat) :
    snapshot.blotted.podLogs ns pod container tailLines =
      snapshot.podLogs ns pod container tailLines := by
  rw [podLogs, podLogs, pod_blotted]
  cases snapshot.pod ns pod <;> rfl

theorem describeDeployment_blotted (deployment : String) :
    snapshot.blotted.describeDeployment ns deployment =
      snapshot.describeDeployment ns deployment := by
  rw [describeDeployment, describeDeployment, readable_blotted]
  cases snapshot.readable ns with
  | error fault => rfl
  | ok found => cases found <;> rfl

end Snapshot

end GuardedGateway.Cluster
