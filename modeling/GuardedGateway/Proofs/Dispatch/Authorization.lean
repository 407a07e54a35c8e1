import GuardedGateway.Proofs.Dispatch.Decision
import GuardedGateway.Proofs.Text.Pieces
import GuardedGateway.Proofs.Tool.Arguments
import GuardedGateway.Proofs.Tool.Registry

/-!
# Who is turned away

A call can be turned away for three reasons, and they are looked at in this order: its tool does not
exist, it names no namespace although its tool is about one, or the namespace is not allowed.  All
of this comes before the cluster: a call that is turned away is answered in the same way, and at
once, whatever connecting to the cluster would have come to (`TurnedAway`).

So a tool about one namespace succeeds for an allowed one only.  The one tool that is about the
whole cluster refuses to work under an empty allowlist, and then no call succeeds at all.
-/

namespace GuardedGateway

/-- Nothing is allowed when the setting holds nothing but commas and blanks. -/
theorem Guard.Allowlist.isEmpty_parse_iff {raw : String} :
    (parse raw).isEmpty = true ↔ ∀ c ∈ raw.toList, c = ',' ∨ Text.isBlank c = true := by
  rw [← Text.entries_eq_nil_iff, isEmpty, List.isEmpty_iff, List.eq_nil_iff_forall_not_mem,
    List.eq_nil_iff_forall_not_mem]
  exact forall_congr' fun ns => not_congr (Text.mem_orderBy_id (Text.entries raw) ns)

/-- Under the empty allowlist the namespaces are not listed. -/
theorem Tool.listNamespaces_of_isEmpty {inv : Tool.Invocation} (h : inv.allowed.isEmpty = true) :
    Tool.listNamespaces inv =
      .now (.error (Tool.Capability.listNamespaces.raise .nothingAllowed)) := by
  rw [listNamespaces, if_pos h]

namespace Gateway

open Tool (FailureCause)

/-- A call is answered with a result. -/
def Succeeds (work : Underway Dispatched) : Prop :=
  ∃ result, work.result.response.outcome = .ok result

/-- A call is turned away with a failure: whatever connecting to the cluster comes to, and however
long it takes, the call is answered with the failure, and at once. -/
def TurnedAway (frame : Frame) (ambient : Ambient) (call : Tool.Call) (state : State)
    (kind : Tool.FailureKind) (message : String) : Prop :=
  ∀ connection : Cluster.Connection,
    (dispatch frame ambient call { state with connection }).result.response =
        (Tool.Response.failed call.toolName ⟨kind, message, call.toolName⟩).withLatency
          ambient.latencyNanos ∧
      (dispatch frame ambient call { state with connection }).duration = 0

section

variable {frame : Frame} {call : Tool.Call} {state : State}

/-- A request that is not authorised is turned away. -/
theorem turnedAway_of_not_authorized (ambient : Ambient) (cause : FailureCause)
    (h : authorize frame.registry (.parse state.live.tools.allowedNamespaces)
      (.ofCall state.live.tools.defaultTimeoutMs call) = .error cause) :
    TurnedAway frame ambient call state cause.kind cause.message := by
  intro connection
  have hdecided : execute frame ambient state.live connection
      (.ofCall state.live.tools.defaultTimeoutMs call) = .now (.error ⟨call.toolName, cause⟩) :=
    execute_of_not_authorized h
  constructor
  · rw [response_dispatch, hdecided]
    rfl
  · exact congrArg Timed.duration hdecided

/-- The namespace of a request is the argument that the caller has sent under that name. -/
theorem ns?_ofCall (hkeys : call.args.keys.Nodup) (defaultTimeoutMs : Nat) :
    (Tool.Request.ofCall defaultTimeoutMs call).ns? = Tool.stringArg call.args "namespace" :=
  Tool.stringArg_strip hkeys (by decide)

/-- A call of a tool about one namespace succeeds for an allowed one only. -/
theorem exists_allowed_argument_of_succeeds {ambient : Ambient} {spec : Tool.Spec}
    (hkeys : call.args.keys.Nodup) (hget : frame.registry.get? call.toolName = some spec)
    (hscope : spec.scope = .namespaced) (h : Succeeds (dispatch frame ambient call state)) :
    ∃ ns, call.args.get? "namespace" = some (.str ns) ∧
      (Guard.Allowlist.parse state.live.tools.allowedNamespaces).allows ns = true := by
  obtain ⟨result, hresult⟩ := h
  obtain ⟨found, -, -, hauth, -⟩ := exists_output_of_success hresult
  obtain rfl : found = spec := Option.some.inj ((get?_of_authorize hauth).symm.trans hget)
  obtain ⟨ns, hns, hallows⟩ := exists_allowed_ns_of_authorize hauth hscope
  rw [ns?_ofCall hkeys, Tool.stringArg_eq_some_iff] at hns
  exact ⟨ns, hns.1, hallows⟩

/-- Under the empty allowlist no tool of the gateway succeeds. -/
theorem not_succeeds_of_isEmpty {ambient : Ambient} (hbuiltin : frame.registry = .builtin)
    (hempty : (Guard.Allowlist.parse state.live.tools.allowedNamespaces).isEmpty = true) :
    ¬ Succeeds (dispatch frame ambient call state) := by
  rintro ⟨result, hresult⟩
  obtain ⟨spec, client, output, hauth, -, hrun, -⟩ := exists_output_of_success hresult
  cases hscope : spec.scope with
  | namespaced =>
    obtain ⟨ns, -, hallows⟩ := exists_allowed_ns_of_authorize hauth hscope
    rw [Guard.Allowlist.not_allows_of_isEmpty hempty ns] at hallows
    cases hallows
  | cluster =>
    have hget := get?_of_authorize hauth
    rw [hbuiltin] at hget
    rw [Tool.Registry.capability_of_get?_builtin hget hscope, Tool.Capability.run,
      Tool.listNamespaces_of_isEmpty hempty] at hrun
    cases hrun

end

/-- **Authorisation fails closed**, and before the cluster is asked.  A call of a tool that does not
exist is turned away first; then a call of a tool about one namespace that names none, because the
argument is absent, empty or not a string; then one whose namespace the live allowlist does not
have.  So such a tool succeeds for an allowed namespace only, and while the allowlist holds nothing
but commas and blanks no tool of the gateway succeeds at all.  The arguments have distinct names, as
those of every call that was read do (`Tool.Call.nodup_keys_of_parse`). -/
theorem authorization_fails_closed (frame : Frame) (ambient : Ambient) (call : Tool.Call)
    (state : State) (hkeys : call.args.keys.Nodup) :
    (frame.registry.get? call.toolName = none →
      TurnedAway frame ambient call state .executionError "tool not implemented") ∧
    (∀ spec, frame.registry.get? call.toolName = some spec → spec.scope = .namespaced →
      ((∀ ns, call.args.get? "namespace" = some (.str ns) → ns = "") →
        TurnedAway frame ambient call state .invalidInput "namespace required") ∧
      (∀ ns, call.args.get? "namespace" = some (.str ns) → ns ≠ "" →
        (Guard.Allowlist.parse state.live.tools.allowedNamespaces).allows ns = false →
        TurnedAway frame ambient call state .permissionDenied "namespace not allowed") ∧
      (Succeeds (dispatch frame ambient call state) →
        ∃ ns, call.args.get? "namespace" = some (.str ns) ∧
          (Guard.Allowlist.parse state.live.tools.allowedNamespaces).allows ns = true)) ∧
    (frame.registry = .builtin →
      (∀ c ∈ state.live.tools.allowedNamespaces.toList, c = ',' ∨ Text.isBlank c = true) →
      ¬ Succeeds (dispatch frame ambient call state)) := by
  refine ⟨fun hnone => ?_, fun spec hget hscope => ⟨fun habsent => ?_, ?_, ?_⟩, ?_⟩
  · refine turnedAway_of_not_authorized ambient .notImplemented ?_
    rw [authorize]
    simp only [Tool.Request.ofCall, hnone]
  · have hns := Tool.stringArg_eq_none_iff.mpr habsent
    rw [← ns?_ofCall hkeys state.live.tools.defaultTimeoutMs] at hns
    refine turnedAway_of_not_authorized ambient (.argumentRequired "namespace") ?_
    rw [authorize_of_namespaced hget hscope, authorizedNs, hns]
    rfl
  · intro ns hget' hne hallows
    have hns := Tool.stringArg_eq_some_iff.mpr ⟨hget', hne⟩
    rw [← ns?_ofCall hkeys state.live.tools.defaultTimeoutMs] at hns
    refine turnedAway_of_not_authorized ambient .namespaceNotAllowed ?_
    rw [authorize_of_namespaced hget hscope, authorizedNs, hns]
    simp only [hallows]
    rfl
  · exact exists_allowed_argument_of_succeeds hkeys hget hscope
  · exact fun hbuiltin hblank =>
      not_succeeds_of_isEmpty hbuiltin (Guard.Allowlist.isEmpty_parse_iff.mpr hblank)

/-- A cluster that fails, and one that has everything but is slow to connect, answer alike about a
namespace that is not allowed; and a setting that is forgotten opens nothing. -/
theorem authorization_fails_closed_sealedNamespace :
    let live := Settings.allowing "default"
    let frame := Frame.ofSettings .builtin live
    let ambient : Ambient := ⟨⟨1, 1⟩, 0, 5000000, 0⟩
    let call : Tool.Call := ⟨"k8s.list_pods",
      [("__session_id", .str "s"), ("namespace", .str "sealed"), ("label_selector", .null)], 0⟩
    let snapshot : Cluster.Snapshot := ⟨[⟨"default", false, [], []⟩, ⟨"sealed", false, [], []⟩]⟩
    let slow : Cluster.Connection := (Timed.now (.ok (.ofSnapshot snapshot))).later 7000
    let failing : Cluster.Connection := .now (.error (.backend "unreachable"))
    let denied : Tool.Response := ⟨"k8s.list_pods", 5000000, false,
      .error ⟨.permissionDenied, "namespace not allowed", "k8s.list_pods"⟩⟩
    call.args.keys.Nodup ∧
      (dispatch frame ambient call (.fresh live slow)).result.response = denied ∧
      (dispatch frame ambient call (.fresh live failing)).result.response = denied ∧
      ¬ Succeeds (dispatch frame ambient ⟨"k8s.list_namespaces", [], 0⟩
        (.fresh (.allowing " , ,") slow)) := by
  intro live frame ambient call snapshot slow failing denied
  have hkeys : call.args.keys.Nodup := by decide
  obtain ⟨spec, hget, hscope⟩ :
      ∃ spec, Tool.Registry.builtin.get? "k8s.list_pods" = some spec ∧ spec.scope = .namespaced :=
    ⟨_, rfl, by decide⟩
  obtain ⟨-, hnamespaced, -⟩ :=
    authorization_fails_closed frame ambient call (.fresh live slow) hkeys
  have hturned := (hnamespaced spec hget hscope).2.1 "sealed" rfl (by decide) (by decide)
  obtain ⟨-, -, hblank⟩ := authorization_fails_closed frame ambient
    ⟨"k8s.list_namespaces", [], 0⟩ (.fresh (.allowing " , ,") slow) List.nodup_nil
  have hcommas : ∀ c ∈ " , ,".toList, c = ',' ∨ Text.isBlank c = true :=
    Guard.Allowlist.isEmpty_parse_iff.mp rfl
  exact ⟨hkeys, (hturned slow).1, (hturned failing).1, hblank rfl hcommas⟩

end Gateway

end GuardedGateway
