import GuardedGateway.Proofs.Cluster.Selection
import GuardedGateway.Proofs.Isolation.Secrets

/-!
# What the listing of pods tells about secret labels

The summary of a pod contains no labels, so there is nothing in a list of pods to redact.  But which
pods are in the list tells something about their labels.  A caller who guesses the value of a secret
label and selects the pods that have it learns whether the guess is right: from the items, or from
the size in the marker when the list is too long.

So a listing tells nothing about secret labels just when its selector is discreet
(`selector_tells_iff`).  A caller who is turned away, or selects nothing, learns nothing either.
-/

namespace GuardedGateway

/-! ## Sizes -/

namespace Guard

/-- What is left after bounding tells how large the value was. -/
theorem size_eq_of_bound_eq {maxBytes : Nat} {v w : Json}
    (h : bound maxBytes v = bound maxBytes w) : v.size = w.size := by
  rw [bound, bound] at h
  split at h
  · split at h
    · rw [(Bounded.mk.inj h).1]
    · cases (Bounded.mk.inj h).2
  · split at h
    · cases (Bounded.mk.inj h).2
    · have hmarker := (Bounded.mk.inj h).1
      simp only [truncationMarker, Json.ofNat, Json.obj.injEq, List.cons.injEq, Prod.mk.injEq,
        Json.num.injEq, Json.Number.int.injEq] at hmarker
      exact Int.natCast_inj.mp hmarker.2.1.2

end Guard

namespace Tool

open Cluster (PodSummary)

/-- A list of pods as a result. -/
def listing (pods : List PodSummary) : Json :=
  .obj [("tool_name", .str Capability.listPods.toolName),
    ("items", .arr (pods.map PodSummary.toJson))]

theorem redact_listing (pods : List PodSummary) :
    Guard.redact (listing pods) = .obj [("tool_name", .str Capability.listPods.toolName),
      ("items", .arr ((pods.map PodSummary.toJson).map Guard.redact))] := by
  have hname : Guard.isSecretKey "tool_name" = false := by decide
  have hitems : Guard.isSecretKey "items" = false := by decide
  rw [listing, Guard.redact_obj, Guard.redactFields_eq_map, List.map_cons, List.map_singleton,
    Guard.redactField, Guard.redactField, hname, hitems, ← Guard.redactItems_eq_map]
  rfl

/-- A list with a pod in it is larger than the empty one. -/
theorem size_listing_lt (pod : PodSummary) :
    (Guard.redact (listing [])).size < (Guard.redact (listing [pod])).size := by
  have hpod : 0 < (Guard.redact pod.toJson).text.utf8ByteSize := by
    have hbrace : 0 < "\x7b".utf8ByteSize := by decide
    rw [PodSummary.toJson, Guard.redact_obj, Json.text, String.utf8ByteSize_append,
      String.utf8ByteSize_append]
    omega
  have hempty : "".utf8ByteSize = 0 := rfl
  rw [redact_listing, redact_listing]
  simp only [Json.size, Json.text, Json.fieldsText, Json.fieldText, Json.itemsText, List.map_nil,
    List.map_cons, String.utf8ByteSize_append]
  omega

/-- The table has one tool that lists pods, and it is about one namespace. -/
theorem Registry.listPods_of_get?_builtin {spec : Spec}
    (h : Registry.builtin.get? Capability.listPods.toolName = some spec) :
    spec.scope = .namespaced ∧ spec.capability = .listPods := by
  have hall : ∀ s ∈ builtinSpecs, s.name = Capability.listPods.toolName →
      s.scope = .namespaced ∧ s.capability = .listPods := by decide
  exact hall spec (Registry.mem_builtinSpecs_of_get? h) (Registry.name_eq_of_get? h)

end Tool

/-! ## Decisions -/

namespace Gateway

open Cluster (Snapshot PodSummary)

/-- What is told of the answer to a listing of pods. -/
def toldListing (settings : Settings) :
    Except Cluster.Fault (List PodSummary) → Except Tool.Raised Guard.Bounded
  | .ok pods => .ok (release settings (Tool.listing pods))
  | .error fault => .error (Tool.Capability.listPods.raise (.cluster .listPods fault))

section

variable {initial settings : Settings} {ambient : Ambient} {connection : Cluster.Connection}
  {snapshot : Snapshot} {request : Tool.Request} {spec : Tool.Spec}

/-- A snapshot lists its pods at once, so a listing that is authorised is never too late. -/
theorem value_execute_listPods (hname : request.toolName = Tool.Capability.listPods.toolName)
    (hauth : authorize .builtin (.parse settings.tools.allowedNamespaces) request = .ok spec)
    (hserves : connection.Serves snapshot) :
    (execute (.ofSettings .builtin initial) ambient settings connection request).value =
      toldListing settings (snapshot.listPods (request.ns?.getD "")
        (Tool.stringArg request.args "label_selector")) := by
  obtain ⟨-, hcapability⟩ :=
    Tool.Registry.listPods_of_get?_builtin (hname ▸ get?_of_authorize hauth)
  have hclient : connection.value = .ok (.ofSnapshot snapshot) := hserves
  have hdecides : authorize (Frame.ofSettings .builtin initial).registry
      (.parse settings.tools.allowedNamespaces) request = .ok spec := hauth
  let work := Tool.Capability.listPods.run
    ⟨.ofSnapshot snapshot, request.args, .parse settings.tools.allowedNamespaces⟩
  have hin (limitMs : Nat) : work.inTime limitMs :=
    (Nat.eq_zero_or_pos (limitMs)).elim (fun hzero => .inr ⟨hzero.symm, rfl⟩) .inl
  simp only [execute, hdecides, Timed.value_andThen, hclient, hcapability]
  rw [runWithin, Timed.within, if_pos (hin _)]
  have hasks : work = Tool.answered .listPods .listPods "items"
      (fun pods => .arr (pods.map PodSummary.toJson))
      (.now (snapshot.listPods (request.ns?.getD "")
        (Tool.stringArg request.args "label_selector"))) := rfl
  show work.value.map (release settings) = _
  rw [hasks]
  cases snapshot.listPods (request.ns?.getD "") (Tool.stringArg request.args "label_selector") <;>
    rfl

end

/-- A listing with these arguments is let through to the pods of a namespace that a selector
selects. -/
structure Selects (live : Settings) (args : Fields) (ns selector : String) : Prop where
  named : Tool.stringArg (Tool.strip args) "namespace" = some ns
  allowed : (Guard.Allowlist.parse live.tools.allowedNamespaces).allows ns = true
  asked : Tool.stringArg (Tool.strip args) "label_selector" = some selector

/-- The response to a listing of pods, when the cluster is reached over this connection. -/
def listingResponse (initial : Settings) (ambient : Ambient) (state : State) (args : Fields)
    (timeoutMs : Nat) (connection : Cluster.Connection) : Tool.Response :=
  (dispatch (.ofSettings .builtin initial) ambient
    ⟨Tool.Capability.listPods.toolName, args, timeoutMs⟩
    { state with connection }).result.response

/-- The responses to a listing do not tell snapshots apart that differ only in secret labels.  Labels
stand in the order of their keys, as those of every snapshot that was read do
(`Snapshot.ordered_of_parse`). -/
def TellsNoSecretLabels (initial : Settings) (state : State) (args : Fields) (timeoutMs : Nat) :
    Prop :=
  ∀ (ambient₁ ambient₂ : Ambient) (connection₁ connection₂ : Cluster.Connection)
    (snapshot₁ snapshot₂ : Snapshot),
    connection₁.Serves snapshot₁ → connection₂.Serves snapshot₂ →
    snapshot₁.Ordered → snapshot₂.Ordered → snapshot₁.EqualButSecretLabels snapshot₂ →
    (listingResponse initial ambient₁ state args timeoutMs connection₁).AlikeButLatency
      (listingResponse initial ambient₂ state args timeoutMs connection₂)

section

variable {initial : Settings} {state : State} {args : Fields} {timeoutMs : Nat}

/-- A response tells the decision. -/
theorem listingResponse_eq (ambient : Ambient) (connection : Cluster.Connection) :
    listingResponse initial ambient state args timeoutMs connection =
      respond Tool.Capability.listPods.toolName ambient.latencyNanos
        (execute (.ofSettings .builtin initial) ambient state.live connection
          (.ofCall state.live.tools.defaultTimeoutMs
            ⟨Tool.Capability.listPods.toolName, args, timeoutMs⟩)).value :=
  rfl

/-- A discreet selector tells no secret labels. -/
theorem tellsNoSecretLabels_of_discreet
    (h : ∀ ns selector, Selects state.live args ns selector → Cluster.Discreet selector) :
    TellsNoSecretLabels initial state args timeoutMs := by
  intro ambient₁ ambient₂ connection₁ connection₂ snapshot₁ snapshot₂ h₁ h₂ hordered₁ hordered₂
    hequal
  let request := Tool.Request.ofCall state.live.tools.defaultTimeoutMs
    ⟨Tool.Capability.listPods.toolName, args, timeoutMs⟩
  have hvalue :
      (execute (.ofSettings .builtin initial) ambient₁ state.live connection₁ request).value =
        (execute (.ofSettings .builtin initial) ambient₂ state.live connection₂ request).value := by
    cases hauth : authorize .builtin (.parse state.live.tools.allowedNamespaces) request with
    | error cause =>
      have hdecides : authorize (Frame.ofSettings .builtin initial).registry
          (.parse state.live.tools.allowedNamespaces) request = .error cause := hauth
      rw [execute_of_not_authorized hdecides, execute_of_not_authorized hdecides]
    | ok spec =>
      rw [value_execute_listPods rfl hauth h₁, value_execute_listPods rfl hauth h₂]
      refine congrArg (toldListing state.live) ?_
      obtain ⟨hscope, -⟩ := Tool.Registry.listPods_of_get?_builtin (get?_of_authorize hauth)
      obtain ⟨ns, hns, hallowed⟩ := exists_allowed_ns_of_authorize hauth hscope
      exact Snapshot.listPods_eq_of_discreet hordered₁ hordered₂ hequal
        (fun selector hasked => h ns selector ⟨hns, hallowed, hasked⟩) _
  rw [listingResponse_eq, listingResponse_eq, hvalue]
  exact respond_alike _ _ _ _

/-- A listing that selects is authorised. -/
theorem exists_authorize_of_selects (timeoutMs : Nat) {ns selector : String}
    (h : Selects state.live args ns selector) :
    ∃ spec, authorize .builtin (.parse state.live.tools.allowedNamespaces)
      (.ofCall state.live.tools.defaultTimeoutMs
        ⟨Tool.Capability.listPods.toolName, args, timeoutMs⟩) = .ok spec := by
  obtain ⟨spec, hget⟩ : ∃ spec,
      Tool.Registry.builtin.get? Tool.Capability.listPods.toolName = some spec :=
    Option.isSome_iff_exists.mp (by decide +kernel)
  obtain ⟨hscope, -⟩ := Tool.Registry.listPods_of_get?_builtin hget
  exact ⟨spec, authorize_of_allows hget hscope h.named h.allowed⟩

/-- So its response tells which pods match. -/
theorem listingResponse_of_selects {ns selector : String} (h : Selects state.live args ns selector)
    {ambient : Ambient} {connection : Cluster.Connection} {snapshot : Snapshot}
    (hserves : connection.Serves snapshot) :
    listingResponse initial ambient state args timeoutMs connection =
      respond Tool.Capability.listPods.toolName ambient.latencyNanos
        (toldListing state.live (snapshot.listPods ns (some selector))) := by
  obtain ⟨spec, hauth⟩ := exists_authorize_of_selects timeoutMs h
  have hns : (Tool.Request.ofCall state.live.tools.defaultTimeoutMs
      ⟨Tool.Capability.listPods.toolName, args, timeoutMs⟩).ns? = some ns := h.named
  have hselector : Tool.stringArg (Tool.Request.ofCall state.live.tools.defaultTimeoutMs
      ⟨Tool.Capability.listPods.toolName, args, timeoutMs⟩).args "label_selector" =
        some selector := h.asked
  rw [listingResponse_eq, value_execute_listPods rfl hauth hserves, hns, hselector]
  rfl

/-- Two lists of different sizes are told apart, however they are bounded. -/
theorem not_alike_of_toldListing {latency₁ latency₂ : Nat} {settings : Settings}
    {pod : PodSummary} :
    ¬ (respond Tool.Capability.listPods.toolName latency₁
        (toldListing settings (.ok [pod]))).AlikeButLatency
      (respond Tool.Capability.listPods.toolName latency₂ (toldListing settings (.ok []))) := by
  intro halike
  obtain ⟨-, htruncated, houtcome⟩ := Tool.Response.alikeButLatency_iff.mp halike
  have hbound : release settings (Tool.listing [pod]) = release settings (Tool.listing []) :=
    congrArg₂ Guard.Bounded.mk (Except.ok.inj houtcome) htruncated
  exact absurd (Guard.size_eq_of_bound_eq hbound) (Nat.ne_of_gt (Tool.size_listing_lt pod))

end

/-- **A listing of pods tells nothing about secret labels just when its selector is discreet.** -/
theorem selector_tells_iff (initial : Settings) (state : State) (args : Fields) (timeoutMs : Nat) :
    TellsNoSecretLabels initial state args timeoutMs ↔
      ∀ ns selector, Selects state.live args ns selector → Cluster.Discreet selector := by
  refine ⟨fun htells ns selector hselects => ?_, tellsNoSecretLabels_of_discreet⟩
  by_contra hindiscreet
  obtain ⟨labels, key, value, other, hordered, hsecret, hvalue, hother⟩ :=
    Cluster.exists_revealing hindiscreet
  let pods (shown : String) : Snapshot := .singlePod ns (labels.set key shown)
  have hserves (shown : String) :
      Cluster.Connection.Serves (.now (.ok (.ofSnapshot (pods shown)))) (pods shown) := rfl
  have hpods (shown : String) : (pods shown).Ordered :=
    Snapshot.ordered_singlePod ns (Cluster.Labels.ordered_set key shown hordered)
  have hequal : (pods value).EqualButSecretLabels (pods other) :=
    Snapshot.equalButSecretLabels_singlePod ns
      (Cluster.Labels.blotted_set key value labels hsecret other)
  let ambient : Ambient := ⟨⟨1, 1⟩, 0, 0, 0⟩
  have halike := htells ambient ambient _ _ _ _ (hserves value) (hserves other) (hpods value)
    (hpods other) hequal
  rw [listingResponse_of_selects hselects (hserves value),
    listingResponse_of_selects hselects (hserves other), Snapshot.listPods_singlePod,
    Snapshot.listPods_singlePod, hvalue, hother] at halike
  exact not_alike_of_toldListing halike

/-- Whoever guesses the token is told. -/
example :
    (labelledCluster "swordfish").listPods "default" (some "api-token=swordfish") =
        .ok [⟨"web", "default", "", ""⟩] ∧
      (labelledCluster "").listPods "default" (some "api-token=swordfish") = .ok [] := by
  decide +kernel

end Gateway

end GuardedGateway
