import GuardedGateway.Proofs.Text.Tail
import GuardedGateway.Proofs.Tool.Arguments
import GuardedGateway.Tool.Registry
import Mathlib.Data.List.Basic

/-!
# Questions about one namespace

Five of the tools ask about one namespace: for its pods, for one of its pods, for the events or the
log of a pod, or for a deployment.  A snapshot may repeat names, close namespaces and leave things
out, and what is then said depends on what is looked at first.

`Question` is what such a call asks.  Its answer is described without the code that finds it:

* `Snapshot.Entry` and `Snapshot.Holds` say which namespace and which pod are meant, each the first
  with its name;
* `Missing` says that something that was asked for is not there;
* `Answered` says what is to be told about what is there.

`comes_ask` says that these are all the ways that a question can end: a namespace that is forbidden
is forbidden whatever is asked about it, and otherwise the question is missing something or
answered, and never both.
-/

namespace GuardedGateway

/-! ## The first with a name -/

section

variable {α : Type} {name : α → String} {wanted : String} {l : List α} {a b : α}

/-- An element of a list is the first one with a name. -/
def FirstNamed (name : α → String) (wanted : String) (l : List α) (a : α) : Prop :=
  ∃ before after, l = before ++ a :: after ∧ name a = wanted ∧ ∀ b ∈ before, name b ≠ wanted

theorem find?_eq_some_iff_firstNamed :
    l.find? (fun a => name a == wanted) = some a ↔ FirstNamed name wanted l a := by
  rw [List.find?_eq_some_iff_append]
  constructor
  · rintro ⟨hname, before, after, hl, hbefore⟩
    exact ⟨before, after, hl, by simpa using hname, fun b hb => by simpa using hbefore b hb⟩
  · rintro ⟨before, after, hl, hname, hbefore⟩
    exact ⟨by simpa using hname, before, after, hl, fun b hb => by simpa using hbefore b hb⟩

theorem find?_eq_none_iff_not_named :
    l.find? (fun a => name a == wanted) = none ↔ ∀ a ∈ l, name a ≠ wanted := by
  rw [List.find?_eq_none]
  exact forall₂_congr fun a _ => by simp

namespace FirstNamed

theorem unique (ha : FirstNamed name wanted l a) (hb : FirstNamed name wanted l b) : a = b :=
  Option.some.inj ((find?_eq_some_iff_firstNamed.mpr ha).symm.trans
    (find?_eq_some_iff_firstNamed.mpr hb))

theorem mem (h : FirstNamed name wanted l a) : a ∈ l := by
  obtain ⟨before, after, rfl, -⟩ := h
  exact List.mem_append_right _ List.mem_cons_self

theorem name_eq (h : FirstNamed name wanted l a) : name a = wanted := by
  obtain ⟨_, _, -, hname, -⟩ := h
  exact hname

/-- What is not there is not the first. -/
theorem not_absent (h : FirstNamed name wanted l a) : ¬ ∀ b ∈ l, name b ≠ wanted :=
  fun habsent => habsent a h.mem h.name_eq

end FirstNamed

end

/-! ## What a snapshot holds -/

namespace Cluster.Snapshot

variable {snapshot : Snapshot} {ns pod : String} {n : Namespace} {p : Pod}

/-- The namespace that a name stands for: the first entry with it. -/
def Entry (snapshot : Snapshot) (ns : String) (n : Namespace) : Prop :=
  FirstNamed Namespace.name ns snapshot.namespaces n

/-- The pod that a name stands for: the first of its namespace with it. -/
def Holds (snapshot : Snapshot) (ns pod : String) (p : Pod) : Prop :=
  ∃ n, snapshot.Entry ns n ∧ FirstNamed Pod.name pod n.pods p

/-- There is no entry with a name. -/
def Absent (snapshot : Snapshot) (ns : String) : Prop :=
  ∀ n ∈ snapshot.namespaces, n.name ≠ ns

/-- The entry with a name may not be read. -/
def Forbidden (snapshot : Snapshot) (ns : String) : Prop :=
  ∃ n, snapshot.Entry ns n ∧ n.forbidden = true

theorem Holds.unique {q : Pod} (hp : snapshot.Holds ns pod p) (hq : snapshot.Holds ns pod q) :
    p = q := by
  obtain ⟨n, hn, hfirst⟩ := hp
  obtain ⟨m, hm, hother⟩ := hq
  obtain rfl := hn.unique hm
  exact hfirst.unique hother

theorem Entry.not_forbidden (hn : snapshot.Entry ns n) (h : n.forbidden = false) :
    ¬ snapshot.Forbidden ns := by
  rintro ⟨m, hm, hforbidden⟩
  obtain rfl := hn.unique hm
  rw [h] at hforbidden
  cases hforbidden

theorem Absent.not_forbidden (h : snapshot.Absent ns) : ¬ snapshot.Forbidden ns := by
  rintro ⟨m, hm, -⟩
  exact hm.not_absent h

/-- What access to a namespace comes to. -/
inductive Access (snapshot : Snapshot) (ns : String) : Except Fault (Option Namespace) → Prop
  | absent (h : snapshot.Absent ns) : Access snapshot ns (.ok none)
  | forbidden (h : snapshot.Forbidden ns) : Access snapshot ns (.error (.forbidden ns))
  | readable {n : Namespace} (h : snapshot.Entry ns n) (hreadable : n.forbidden = false) :
      Access snapshot ns (.ok (some n))

theorem access_readable (snapshot : Snapshot) (ns : String) :
    snapshot.Access ns (snapshot.readable ns) := by
  cases hentry : snapshot.entry? ns with
  | none =>
    simp only [readable, hentry]
    exact .absent (find?_eq_none_iff_not_named.mp hentry)
  | some n =>
    have hn : snapshot.Entry ns n := find?_eq_some_iff_firstNamed.mp hentry
    cases hforbidden : n.forbidden with
    | true =>
      simp only [readable, hentry, hforbidden, if_true]
      exact .forbidden ⟨n, hn, hforbidden⟩
    | false =>
      simp only [readable, hentry, hforbidden, if_neg Bool.false_ne_true]
      exact .readable hn hforbidden

end Cluster.Snapshot

/-! ## Questions -/

namespace Tool

open Cluster (Fault Namespace Pod PodDetail PodEvent PodSummary DeploymentDetail Snapshot)

/-- No two capabilities have tools of one name. -/
theorem Capability.toolName_injective : Function.Injective Capability.toolName := by
  intro a b h
  cases a <;> cases b <;> first | rfl | exact absurd h (by decide)

/-- What a call asks about a namespace. -/
inductive Question where
  | pods (selector : Option String)
  | podNamed (name : String)
  | eventsOf (pod : String)
  | logOf (pod : String) (container : Option String) (count : Nat)
  | deploymentNamed (name : String)

namespace Question

/-- What a tool does to answer. -/
def capability : Question → Capability
  | .pods _ => .listPods
  | .podNamed _ => .describePod
  | .eventsOf _ => .getPodEvents
  | .logOf .. => .getPodLogs
  | .deploymentNamed _ => .describeDeployment

def attempt : Question → Attempt
  | .pods _ => .listPods
  | .podNamed _ => .describePod
  | .eventsOf _ => .getPodEvents
  | .logOf .. => .getPodLogs
  | .deploymentNamed _ => .describeDeployment

/-- The member of a result that holds the answer. -/
def member : Question → String
  | .pods _ => "items"
  | .podNamed _ => "pod"
  | .eventsOf _ => "events"
  | .logOf .. => "logs"
  | .deploymentNamed _ => "deployment"

/-- The arguments ask a question: they are there, and valid. -/
def AskedBy (args : Fields) : Question → Prop
  | .pods selector => stringArg args "label_selector" = selector
  | .podNamed name => stringArg args "pod_name" = some name
  | .eventsOf pod => stringArg args "pod_name" = some pod
  | .logOf pod container count =>
    stringArg args "pod_name" = some pod ∧ stringArg args "container" = container ∧
      tailLines? (args.get? "tail_lines") = some count
  | .deploymentNamed name => stringArg args "deployment_name" = some name

/-- Valid arguments stay valid when the instrumentation is taken out. -/
theorem AskedBy.strip {args : Fields} {question : Question} (h : question.AskedBy args)
    (hkeys : args.keys.Nodup) : question.AskedBy (strip args) := by
  cases question with
  | pods selector => exact (stringArg_strip hkeys (by decide)).trans h
  | podNamed name => exact (stringArg_strip hkeys (by decide)).trans h
  | eventsOf pod => exact (stringArg_strip hkeys (by decide)).trans h
  | logOf pod container count =>
    obtain ⟨hpod, hcontainer, hcount⟩ := h
    refine ⟨(stringArg_strip hkeys (by decide)).trans hpod,
      (stringArg_strip hkeys (by decide)).trans hcontainer, ?_⟩
    rw [get?_strip hkeys (by decide), hcount]
  | deploymentNamed name => exact (stringArg_strip hkeys (by decide)).trans h

/-- There is a tool that answers a question. -/
theorem exists_spec (question : Question) :
    ∃ spec, Registry.builtin.get? question.capability.toolName = some spec ∧
      spec.scope = .namespaced ∧ spec.capability = question.capability := by
  cases question <;> exact ⟨_, rfl, rfl, rfl⟩

/-- The arguments of a tool about one namespace ask a question when those that must be there are, and
the number of lines of a log, if that is asked for, is one. -/
theorem exists_askedBy {spec : Spec} (hspec : spec ∈ builtinSpecs)
    (hscope : spec.scope = .namespaced) {args : Fields}
    (hrequired : ∀ p ∈ spec.params, p.required = true → (stringArg args p.name).isSome = true)
    (hlines : spec.capability = .getPodLogs →
      (tailLines? (args.get? "tail_lines")).isSome = true) :
    ∃ question : Question, question.capability = spec.capability ∧ question.AskedBy args := by
  simp only [builtinSpecs, List.mem_cons, List.not_mem_nil, or_false] at hspec
  obtain rfl | rfl | rfl | rfl | rfl | rfl := hspec
  · exact ⟨.pods _, rfl, rfl⟩
  · cases hscope
  · obtain ⟨name, hname⟩ := Option.isSome_iff_exists.mp (hrequired podName (by simp) rfl)
    exact ⟨.podNamed name, rfl, hname⟩
  · obtain ⟨name, hname⟩ := Option.isSome_iff_exists.mp (hrequired podName (by simp) rfl)
    exact ⟨.eventsOf name, rfl, hname⟩
  · obtain ⟨name, hname⟩ := Option.isSome_iff_exists.mp (hrequired podName (by simp) rfl)
    obtain ⟨count, hcount⟩ := Option.isSome_iff_exists.mp (hlines rfl)
    exact ⟨.logOf name _ count, rfl, hname, rfl, hcount⟩
  · obtain ⟨name, hname⟩ := Option.isSome_iff_exists.mp (hrequired _ List.mem_cons_self rfl)
    exact ⟨.deploymentNamed name, rfl, hname⟩

/-- The tool of a question tells what was attempted. -/
theorem attempt_eq_of_toolName_eq {q r : Question}
    (h : q.capability.toolName = r.capability.toolName) : q.attempt = r.attempt := by
  have hcapability := Capability.toolName_injective h
  cases q <;> cases r <;> first | rfl | cases hcapability

/-- The result that gives an answer. -/
def result (question : Question) (answer : Json) : Json :=
  .obj [("tool_name", .str question.capability.toolName), (question.member, answer)]

/-! ### What the answer should be -/

section

variable (snapshot : Snapshot) (ns : String)

/-- There is no namespace, or no pod with a name in it. -/
def NoPod (pod : String) : Prop :=
  snapshot.Absent ns ∨ ∃ n, snapshot.Entry ns n ∧ ∀ p ∈ n.pods, p.name ≠ pod

/-- There is no namespace, or no deployment with a name in it. -/
def NoDeployment (name : String) : Prop :=
  snapshot.Absent ns ∨ ∃ n, snapshot.Entry ns n ∧ ∀ d ∈ n.deployments, d.name ≠ name

/-- Something that is asked for is not there.  Of a pod that is there, the container may not be. -/
def Missing : Question → Prop
  | .pods _ => False
  | .podNamed name => NoPod snapshot ns name
  | .eventsOf pod => NoPod snapshot ns pod
  | .logOf pod container _ =>
    NoPod snapshot ns pod ∨
      ∃ p, snapshot.Holds ns pod p ∧ ∃ wanted, container = some wanted ∧
        ∀ c ∈ p.containers, c.name ≠ wanted
  | .deploymentNamed name => NoDeployment snapshot ns name

/-- The log of a pod that is meant: that of the container with the name, or of the first one, and
nothing if there is none. -/
def LogOf (p : Pod) : Option String → String → Prop
  | some wanted, log => ∃ c, FirstNamed Cluster.Container.name wanted p.containers c ∧ c.logs = log
  | none, log => log = (p.containers.head?.map Cluster.Container.logs).getD ""

/-- What is to be told of what is there. -/
def Answered : Question → Json → Prop
  | .pods selector, answer =>
    (snapshot.Absent ns ∧ answer = .arr []) ∨
      ∃ n, snapshot.Entry ns n ∧ answer = .arr ((n.pods.filter fun p =>
        selector.all (Cluster.matchesSelector p.labels)).map fun p =>
          PodSummary.toJson ⟨p.name, ns, p.phase, p.node⟩)
  | .podNamed name, answer =>
    ∃ p, snapshot.Holds ns name p ∧ answer = PodDetail.toJson
      ⟨name, ns, p.phase, p.node, p.reason, p.message, p.startTime, p.labels, p.annotations⟩
  | .eventsOf pod, answer =>
    ∃ p, snapshot.Holds ns pod p ∧ answer = .arr (p.events.map PodEvent.toJson)
  | .logOf pod container count, answer =>
    ∃ p log, snapshot.Holds ns pod p ∧ LogOf p container log ∧ answer = .str (Text.tail count log)
  | .deploymentNamed name, answer =>
    ∃ n d, snapshot.Entry ns n ∧ FirstNamed Cluster.Deployment.name name n.deployments d ∧
      answer = DeploymentDetail.toJson
        ⟨name, ns, d.replicas, d.ready, d.updated, d.available⟩

end

variable {snapshot : Snapshot} {ns : String} {question : Question}

theorem not_noPod_of_holds {pod : String} {p : Pod} (h : snapshot.Holds ns pod p) :
    ¬ NoPod snapshot ns pod := by
  obtain ⟨n, hn, hfirst⟩ := h
  rintro (habsent | ⟨m, hm, hnone⟩)
  · exact hn.not_absent habsent
  · obtain rfl := hn.unique hm
    exact hfirst.not_absent hnone

/-- What is answered misses nothing. -/
theorem not_missing_of_answered {answer : Json} (h : question.Answered snapshot ns answer) :
    ¬ question.Missing snapshot ns := by
  cases question with
  | pods selector => exact id
  | podNamed name =>
    obtain ⟨p, hp, -⟩ := h
    exact not_noPod_of_holds hp
  | eventsOf pod =>
    obtain ⟨p, hp, -⟩ := h
    exact not_noPod_of_holds hp
  | logOf pod container count =>
    obtain ⟨p, log, hp, hlog, -⟩ := h
    rintro (hnone | ⟨q, hq, wanted, rfl, hcontainers⟩)
    · exact not_noPod_of_holds hp hnone
    · obtain ⟨c, hc, -⟩ := hlog
      obtain rfl := hp.unique hq
      exact hc.not_absent hcontainers
  | deploymentNamed name =>
    obtain ⟨n, d, hn, hd, -⟩ := h
    rintro (habsent | ⟨m, hm, hnone⟩)
    · exact hn.not_absent habsent
    · obtain rfl := hn.unique hm
      exact hd.not_absent hnone

/-! ### What the answer is -/

/-- What a snapshot says to a question. -/
def ask (snapshot : Snapshot) (ns : String) : Question → Except Fault Json
  | .pods selector =>
    (snapshot.listPods ns selector).map fun pods => .arr (pods.map PodSummary.toJson)
  | .podNamed name => (snapshot.describePod ns name).map PodDetail.toJson
  | .eventsOf pod => (snapshot.podEvents ns pod).map fun events => .arr (events.map PodEvent.toJson)
  | .logOf pod container count => (snapshot.podLogs ns pod container count).map .str
  | .deploymentNamed name => (snapshot.describeDeployment ns name).map DeploymentDetail.toJson

/-- What a capability makes of it. -/
def outcome (question : Question) : Except Fault Json → Outcome
  | .ok answer => .ok (question.result answer)
  | .error fault => .error (question.capability.raise (.cluster question.attempt fault))

/-- A tool puts its question to the snapshot, and has the answer at once. -/
theorem run_of_askedBy {args : Fields} (h : question.AskedBy args)
    (hns : stringArg args "namespace" = some ns) (allowed : Guard.Allowlist) :
    question.capability.run ⟨.ofSnapshot snapshot, args, allowed⟩ =
      .now (question.outcome (question.ask snapshot ns)) := by
  have hnamed : Invocation.ns ⟨.ofSnapshot snapshot, args, allowed⟩ = ns := by
    rw [Invocation.ns, hns, Option.getD_some]
  have hanswered {α : Type} (toJson : α → Json) (answer : Except Fault α) :
      answered question.capability question.attempt question.member toJson (.now answer) =
        .now (question.outcome (answer.map toJson)) := by
    cases answer <;> rfl
  cases question with
  | pods selector =>
    have hselector : stringArg args "label_selector" = selector := h
    simp only [capability, Capability.run, hnamed, hselector]
    exact hanswered _ (snapshot.listPods ns selector)
  | podNamed name =>
    have hname : stringArg args "pod_name" = some name := h
    simp only [capability, Capability.run, hnamed, Invocation.required, hname, withArgument]
    exact hanswered _ (snapshot.describePod ns name)
  | eventsOf pod =>
    have hname : stringArg args "pod_name" = some pod := h
    simp only [capability, Capability.run, hnamed, Invocation.required, hname, withArgument]
    exact hanswered _ (snapshot.podEvents ns pod)
  | logOf pod container count =>
    obtain ⟨hpod, hcontainer, hcount⟩ := h
    simp only [capability, Capability.run, hnamed, Invocation.required, hpod, hcontainer, hcount,
      withArgument]
    exact hanswered _ (snapshot.podLogs ns pod container count)
  | deploymentNamed name =>
    have hname : stringArg args "deployment_name" = some name := h
    simp only [capability, Capability.run, hnamed, Invocation.required, hname, withArgument]
    exact hanswered _ (snapshot.describeDeployment ns name)

/-- The ways that a question can end. -/
inductive Comes (question : Question) (snapshot : Snapshot) (ns : String) :
    Except Fault Json → Prop
  | forbidden (h : snapshot.Forbidden ns) : Comes question snapshot ns (.error (.forbidden ns))
  | missing (hreadable : ¬ snapshot.Forbidden ns) (h : question.Missing snapshot ns)
      (resource : Cluster.Resource) (name : String) :
      Comes question snapshot ns (.error (.notFound resource ns name))
  | answered (hreadable : ¬ snapshot.Forbidden ns) {answer : Json}
      (h : question.Answered snapshot ns answer) : Comes question snapshot ns (.ok answer)

/-- What looking for a pod comes to. -/
inductive Found (snapshot : Snapshot) (ns pod : String) : Except Fault Pod → Prop
  | forbidden (h : snapshot.Forbidden ns) : Found snapshot ns pod (.error (.forbidden ns))
  | missing (hreadable : ¬ snapshot.Forbidden ns) (h : NoPod snapshot ns pod) :
      Found snapshot ns pod (.error (.notFound .pod ns pod))
  | found (hreadable : ¬ snapshot.Forbidden ns) {p : Pod} (h : snapshot.Holds ns pod p) :
      Found snapshot ns pod (.ok p)

theorem found_pod (snapshot : Snapshot) (ns pod : String) :
    Found snapshot ns pod (snapshot.pod ns pod) := by
  rw [Snapshot.pod]
  have haccess := snapshot.access_readable ns
  generalize snapshot.readable ns = access at haccess
  cases haccess with
  | absent h => exact .missing h.not_forbidden (.inl h)
  | forbidden h => exact .forbidden h
  | @readable n hn hreadable =>
    have hopen := hn.not_forbidden hreadable
    cases hfind : n.pods.find? fun p => p.name == pod with
    | none =>
      simp only [bind, Except.bind, Option.bind_some, hfind]
      exact .missing hopen (.inr ⟨n, hn, find?_eq_none_iff_not_named.mp hfind⟩)
    | some p =>
      simp only [bind, Except.bind, Option.bind_some, hfind]
      exact .found hopen ⟨n, hn, find?_eq_some_iff_firstNamed.mp hfind⟩

/-- A question that starts with a pod ends as the search for the pod does, and after that it is
missing something or answered. -/
theorem comes_of_pod {pod : String} {next : Pod → Except Fault Json}
    (hmissing : NoPod snapshot ns pod → question.Missing snapshot ns)
    (hnext : ¬ snapshot.Forbidden ns → ∀ p, snapshot.Holds ns pod p →
      question.Comes snapshot ns (next p)) :
    question.Comes snapshot ns ((snapshot.pod ns pod).bind next) := by
  have hfound := found_pod snapshot ns pod
  generalize snapshot.pod ns pod = found at hfound
  cases hfound with
  | forbidden h => exact .forbidden h
  | missing hreadable h => exact .missing hreadable (hmissing h) .pod pod
  | found hreadable h => exact hnext hreadable _ h

/-! ### One kind of question after the other -/

theorem comes_ask_pods (snapshot : Snapshot) (ns : String) (selector : Option String) :
    Comes (.pods selector) snapshot ns (ask snapshot ns (.pods selector)) := by
  have haccess := snapshot.access_readable ns
  rw [ask, Snapshot.listPods]
  generalize snapshot.readable ns = access at haccess
  cases haccess with
  | absent h => exact .answered h.not_forbidden (.inl ⟨h, rfl⟩)
  | forbidden h => exact .forbidden h
  | @readable n hn hreadable =>
    refine .answered (hn.not_forbidden hreadable) (.inr ⟨n, hn, ?_⟩)
    simp only [List.map_map, ← hn.name_eq]
    rfl

theorem comes_ask_podNamed (snapshot : Snapshot) (ns name : String) :
    Comes (.podNamed name) snapshot ns (ask snapshot ns (.podNamed name)) := by
  have hask : ask snapshot ns (.podNamed name) = (snapshot.pod ns name).bind fun p =>
      .ok (PodDetail.toJson ⟨p.name, ns, p.phase, p.node, p.reason, p.message, p.startTime,
        p.labels, p.annotations⟩) := by
    rw [ask, Snapshot.describePod]
    cases snapshot.pod ns name <;> rfl
  rw [hask]
  refine comes_of_pod id fun hreadable p hp => .answered hreadable ⟨p, hp, ?_⟩
  obtain ⟨n, -, hfirst⟩ := hp
  rw [hfirst.name_eq]

theorem comes_ask_eventsOf (snapshot : Snapshot) (ns pod : String) :
    Comes (.eventsOf pod) snapshot ns (ask snapshot ns (.eventsOf pod)) := by
  have hask : ask snapshot ns (.eventsOf pod) = (snapshot.pod ns pod).bind fun p =>
      .ok (.arr (p.events.map PodEvent.toJson)) := by
    rw [ask, Snapshot.podEvents]
    cases snapshot.pod ns pod <;> rfl
  rw [hask]
  exact comes_of_pod id fun hreadable p hp => .answered hreadable ⟨p, hp, rfl⟩

/-- Without a name the first container is meant, and there is an answer even if there is none. -/
theorem comes_ask_logOf_none (snapshot : Snapshot) (ns pod : String) (count : Nat) :
    Comes (.logOf pod none count) snapshot ns (ask snapshot ns (.logOf pod none count)) := by
  have hask : ask snapshot ns (.logOf pod none count) = (snapshot.pod ns pod).bind fun p =>
      .ok (.str (Text.tail count ((p.containers.head?.map Cluster.Container.logs).getD ""))) := by
    rw [ask, Snapshot.podLogs]
    cases snapshot.pod ns pod with
    | error fault => rfl
    | ok p =>
      cases hfirst : p.containers.head? <;>
        simp [bind, Except.bind, Except.map, hfirst, Text.tail_empty]
  rw [hask]
  exact comes_of_pod .inl fun hreadable p hp => .answered hreadable ⟨p, _, hp, rfl, rfl⟩

/-- With a name the first container with it is meant, which may be missing from a pod that is
there. -/
theorem comes_ask_logOf_some (snapshot : Snapshot) (ns pod wanted : String) (count : Nat) :
    Comes (.logOf pod (some wanted) count) snapshot ns
      (ask snapshot ns (.logOf pod (some wanted) count)) := by
  have hask : ask snapshot ns (.logOf pod (some wanted) count) =
      (snapshot.pod ns pod).bind fun p =>
        (p.containers.find? fun c => c.name == wanted).elim
          (.error (.notFound .container ns (pod ++ "/" ++ wanted)))
          fun c => .ok (.str (Text.tail count c.logs)) := by
    rw [ask, Snapshot.podLogs]
    cases snapshot.pod ns pod with
    | error fault => rfl
    | ok p =>
      cases hfind : p.containers.find? fun c => c.name == wanted <;>
        simp [bind, Except.bind, Except.map, hfind]
  rw [hask]
  refine comes_of_pod .inl fun hreadable p hp => ?_
  cases hfind : p.containers.find? fun c => c.name == wanted with
  | none =>
    have hmissing : Missing snapshot ns (.logOf pod (some wanted) count) :=
      .inr ⟨p, hp, wanted, rfl, find?_eq_none_iff_not_named.mp hfind⟩
    exact .missing hreadable hmissing .container (pod ++ "/" ++ wanted)
  | some c =>
    have hlog : LogOf p (some wanted) c.logs :=
      ⟨c, find?_eq_some_iff_firstNamed.mp hfind, rfl⟩
    exact .answered hreadable ⟨p, c.logs, hp, hlog, rfl⟩

theorem comes_ask_deploymentNamed (snapshot : Snapshot) (ns name : String) :
    Comes (.deploymentNamed name) snapshot ns (ask snapshot ns (.deploymentNamed name)) := by
  have haccess := snapshot.access_readable ns
  rw [ask, Snapshot.describeDeployment]
  generalize snapshot.readable ns = access at haccess
  cases haccess with
  | absent h =>
    have hmissing : Missing snapshot ns (.deploymentNamed name) := Or.inl h
    exact .missing h.not_forbidden hmissing .deployment name
  | forbidden h => exact .forbidden h
  | @readable n hn hreadable =>
    have hopen := hn.not_forbidden hreadable
    cases hfind : n.deployments.find? fun d => d.name == name with
    | none =>
      simp only [bind, Except.bind, Option.bind_some, hfind]
      have hmissing : Missing snapshot ns (.deploymentNamed name) :=
        Or.inr ⟨n, hn, find?_eq_none_iff_not_named.mp hfind⟩
      exact .missing hopen hmissing .deployment name
    | some d =>
      simp only [bind, Except.bind, Option.bind_some, hfind]
      have hd := find?_eq_some_iff_firstNamed.mp hfind
      refine .answered hopen ⟨n, d, hn, hd, ?_⟩
      rw [hd.name_eq]

/-- **There is no other way for a question to end.** -/
theorem comes_ask (question : Question) (snapshot : Snapshot) (ns : String) :
    question.Comes snapshot ns (question.ask snapshot ns) := by
  cases question with
  | pods selector => exact comes_ask_pods snapshot ns selector
  | podNamed name => exact comes_ask_podNamed snapshot ns name
  | eventsOf pod => exact comes_ask_eventsOf snapshot ns pod
  | logOf pod container count =>
    cases container with
    | none => exact comes_ask_logOf_none snapshot ns pod count
    | some wanted => exact comes_ask_logOf_some snapshot ns pod wanted count
  | deploymentNamed name => exact comes_ask_deploymentNamed snapshot ns name

end Question

end Tool

end GuardedGateway
