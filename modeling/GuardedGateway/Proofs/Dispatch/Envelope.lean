import GuardedGateway.Gateway.Http
import GuardedGateway.Proofs.Dispatch.Decision
import GuardedGateway.Proofs.Dispatch.Phases
import GuardedGateway.Proofs.Tool.Outputs
import GuardedGateway.Proofs.Tool.Registry

/-!
# Every envelope is well formed

The type of a response leaves room for an envelope that says nothing: a result that is null is shown
like a result that is missing.  That does not happen.  Whatever a capability comes to is an object
(`Capability.exists_fields_of_run`), redaction keeps it one, and what may take its place is the
marker, which is an object too (`exists_fields_of_release`).

An envelope names the tool of the call, and its error once more the tool that raised it.  Up to the
capability a failure is raised in the name that was called.  The capability does not see that name:
whatever it fails with is raised in its own (`Capability.failsAs_run`), and only the table says that
the two are the same (`Registry.NamesItsTools`).

`Tool.Envelope` is an envelope seen from outside, by its six members.  It is `WellFormed` when it
has a result or an error, when its status and its flag agree with which of the two it has, and when
its error repeats the latency of the call and, where the table names its tools, the tool, and is one
of five, with the HTTP status that belongs to it.
-/

namespace GuardedGateway

namespace Tool

/-! ## What a capability comes to -/

/-- An answer of the cluster is shaped to an object. -/
theorem exists_fields_of_answered {α : Type} {capability : Capability} {attempt : Attempt}
    {member : String} {toJson : α → Json} {answer : Cluster.Answer α} {output : Json}
    (h : (answered capability attempt member toJson answer).value = .ok output) :
    ∃ fields, output = .obj fields := by
  obtain ⟨a, -, rfl⟩ := value_answered_eq_ok_iff.mp h
  exact ⟨_, rfl⟩

/-- **Whatever a capability comes to is an object.** -/
theorem Capability.exists_fields_of_run {capability : Capability} {inv : Invocation}
    {output : Json} (h : (capability.run inv).value = .ok output) :
    ∃ fields, output = .obj fields := by
  cases capability with
  | listPods => exact exists_fields_of_answered h
  | listNamespaces =>
    rw [run, Tool.listNamespaces] at h
    split at h
    · cases h
    · cases h
      exact ⟨_, rfl⟩
  | describePod =>
    obtain ⟨pod, h⟩ := value_withArgument h
    exact exists_fields_of_answered h
  | getPodEvents =>
    obtain ⟨pod, h⟩ := value_withArgument h
    exact exists_fields_of_answered h
  | getPodLogs =>
    obtain ⟨pod, h⟩ := value_withArgument h
    split at h
    · cases h
    · exact exists_fields_of_answered h
  | describeDeployment =>
    obtain ⟨deployment, h⟩ := value_withArgument h
    exact exists_fields_of_answered h

/-! ## In whose name a capability fails -/

/-- Whatever failure work comes to, it is raised in the name of a capability. -/
def FailsAs (capability : Capability) (work : Timed Outcome) : Prop :=
  ∀ raised, work.value = .error raised → raised.toolName = capability.toolName

section

variable {capability : Capability} {inv : Invocation}

theorem failsAs_raise (cause : FailureCause) :
    FailsAs capability (.now (.error (capability.raise cause))) := by
  intro raised h
  cases h
  rfl

theorem failsAs_answered {α : Type} {attempt : Attempt} {member : String} {toJson : α → Json}
    {answer : Cluster.Answer α} :
    FailsAs capability (answered capability attempt member toJson answer) := by
  intro raised h
  obtain ⟨fault, -, rfl⟩ := value_answered_eq_error_iff.mp h
  rfl

/-- A capability that misses an argument says so itself. -/
theorem failsAs_withArgument {key : String} {next : String → Timed Outcome}
    (hnext : ∀ value, FailsAs capability (next value)) :
    FailsAs capability (withArgument (inv.required capability key) next) := by
  rw [Invocation.required]
  cases stringArg inv.args key with
  | none => exact failsAs_raise (.argumentRequired key)
  | some value => exact hnext value

theorem failsAs_listNamespaces : FailsAs .listNamespaces (listNamespaces inv) := by
  rw [listNamespaces]
  split
  · exact failsAs_raise .nothingAllowed
  · intro raised h
    cases h

/-- **Whatever a capability fails with is raised in its own name.** -/
theorem Capability.failsAs_run : FailsAs capability (capability.run inv) := by
  cases capability with
  | listPods => exact failsAs_answered
  | listNamespaces => exact failsAs_listNamespaces
  | describePod => exact failsAs_withArgument fun pod => failsAs_answered
  | getPodEvents => exact failsAs_withArgument fun pod => failsAs_answered
  | getPodLogs =>
    refine failsAs_withArgument fun pod => ?_
    split
    · exact failsAs_raise .badTailLines
    · exact failsAs_answered
  | describeDeployment => exact failsAs_withArgument fun deployment => failsAs_answered

end

/-! ## Envelopes from outside -/

/-- The members of an envelope. -/
structure Envelope where
  toolName : String
  status : String
  latencyMs : Nat
  truncated : Bool
  result : Json
  error : Json

/-- The envelope with these members. -/
def Envelope.toJson (envelope : Envelope) : Json :=
  .obj [
    ("tool_name", .str envelope.toolName),
    ("status", .str envelope.status),
    ("latency_ms", .ofNat envelope.latencyMs),
    ("truncated", .bool envelope.truncated),
    ("result", envelope.result),
    ("error", envelope.error)]

/-- The kinds of errors with the HTTP statuses that belong to them. -/
def errorStatuses : List (String × Nat) := [
  ("invalid_input", 400),
  ("permission_denied", 403),
  ("timeout", 408),
  ("not_found", 404),
  ("execution_error", 500)]

theorem mem_errorStatuses (kind : FailureKind) : (kind.name, kind.status) ∈ errorStatuses := by
  cases kind <;> decide

/-- What holds of an envelope that is sent with an HTTP status, for a table of tools. -/
structure Envelope.WellFormed (envelope : Envelope) (registry : Registry) (statusCode : Nat) :
    Prop where
  /-- Either the result or the error is null, and never both. -/
  either : envelope.result = .null ↔ envelope.error ≠ .null
  success_iff : envelope.status = "success" ↔
    (∃ fields, envelope.result = .obj fields) ∧ envelope.error = .null
  failed : envelope.error ≠ .null → ∃ errorType message raiser,
    (errorType, statusCode) ∈ errorStatuses ∧
    envelope.error = .obj [
      ("error_type", .str errorType),
      ("message", .str message),
      ("tool_name", .str raiser),
      ("duration_ms", .ofNat envelope.latencyMs)] ∧
    (registry.NamesItsTools → raiser = envelope.toolName)
  succeeded : envelope.error = .null → statusCode = 200
  truncated : envelope.truncated = true → envelope.status = "success" ∧
    ∃ originalSize returnedSize,
      envelope.result = Guard.truncationMarker originalSize returnedSize

/-- The envelope of a response, by its members. -/
def Response.envelope (response : Response) : Envelope where
  toolName := response.toolName
  status := response.status
  latencyMs := response.latencyMs
  truncated := response.truncated
  result := response.result?.getD .null
  error := (response.failure?.map (failureJson response.latencyMs)).getD .null

theorem Response.toJson_envelope (response : Response) :
    response.envelope.toJson = response.toJson := rfl

end Tool

namespace Gateway

open Tool (Raised)

/-! ## What is released -/

/-- An object that is released stays one, or the marker takes its place. -/
theorem exists_fields_of_release (settings : Settings) (fields : Fields) :
    ∃ released, (release settings (.obj fields)).value = .obj released := by
  rw [release, Guard.redact_obj, Guard.bound]
  split
  · exact ⟨_, rfl⟩
  · exact ⟨_, rfl⟩

/-- What is flagged as truncated is the marker. -/
theorem exists_sizes_of_truncated {settings : Settings} {output : Json}
    (h : (release settings output).truncated = true) :
    ∃ originalSize returnedSize,
      (release settings output).value = Guard.truncationMarker originalSize returnedSize := by
  rw [release, Guard.bound] at h ⊢
  split at h
  · cases h
  · rename_i hexceeds
    rw [if_neg hexceeds]
    exact ⟨_, _, rfl⟩

/-! ## Envelopes of decisions -/

section

variable (registry : Tool.Registry) (toolName : String) (latency : Nat)

/-- A failure is told in a well-formed envelope, if it is raised in the name of the call wherever
the table names its tools. -/
theorem wellFormed_of_failure (raised : Raised)
    (hname : registry.NamesItsTools → raised.toolName = toolName) :
    let response := respond toolName latency (.error raised)
    response.envelope.WellFormed registry response.statusCode where
  either := iff_of_true rfl nofun
  success_iff := iff_of_false (by show "error" ≠ "success"; decide) fun h => nomatch h.2
  failed _ := ⟨raised.cause.kind.name, raised.cause.message, raised.toolName,
    Tool.mem_errorStatuses raised.cause.kind, rfl, hname⟩
  succeeded h := nomatch h
  truncated h := nomatch h

/-- So is a result that was released, if it is what a capability came to. -/
theorem wellFormed_of_release (settings : Settings) (fields : Fields) :
    let response := respond toolName latency (.ok (release settings (.obj fields)))
    response.envelope.WellFormed registry response.statusCode := by
  intro response
  obtain ⟨released, hreleased⟩ := exists_fields_of_release settings fields
  have hresult : response.envelope.result = .obj released := hreleased
  exact {
    either := iff_of_false (by rw [hresult]; exact nofun) (not_not_intro rfl)
    success_iff := iff_of_true rfl ⟨⟨released, hresult⟩, rfl⟩
    failed := fun h => absurd rfl h
    succeeded := fun _ => rfl
    truncated := fun h => ⟨rfl, exists_sizes_of_truncated h⟩ }

end

/-- Where the table names its tools, whatever a decision fails with is raised in the name that was
called. -/
theorem toolName_of_execute {frame : Frame} {ambient : Ambient} {settings : Settings}
    {connection : Cluster.Connection} {request : Tool.Request} {raised : Raised}
    (hnames : frame.registry.NamesItsTools)
    (h : (execute frame ambient settings connection request).value = .error raised) :
    raised.toolName = request.toolName := by
  have hdecides := decides_execute frame ambient settings connection request
  rw [h] at hdecides
  cases hdecides with
  | turnedAway | unconnected | late => rfl
  | @failed spec _ _ hauth _ _ hrun =>
    rw [Tool.Capability.failsAs_run raised hrun, hnames _ spec (get?_of_authorize hauth)]

/-! ## Envelopes of dispatches -/

/-- What a dispatch tells is a decision.  A result among the decisions is what a capability came to,
as it may leave the gateway, and a failure is raised in the name that was called, where the table
names its tools. -/
theorem Incoming.exists_decision (frame : Frame) (ambient : Ambient) (incoming : Incoming)
    (state : State) :
    ∃ toolName decided,
      (incoming.dispatch frame ambient state).result.response =
        respond toolName ambient.latencyNanos decided ∧
      (∀ bounded, decided = .ok bounded →
        ∃ fields, bounded = release state.live (.obj fields)) ∧
      (∀ raised, decided = .error raised →
        frame.registry.NamesItsTools → raised.toolName = toolName) := by
  cases hcall : incoming.call? with
  | none =>
    have hended := (dispatch_eq_conclude_begin frame ambient state incoming).2
    have hresponse := congrArg (fun ended => ended.2.response) hended
    simp only [begin, hcall] at hresponse
    refine ⟨"", .error ⟨"", .malformedCall⟩, hresponse, fun bounded hbounded => ?_,
      fun raised hraised _ => ?_⟩
    · cases hbounded
    · cases hraised
      rfl
  | some call =>
    rw [dispatch_of_call? frame ambient state hcall, response_dispatch]
    refine ⟨_, _, rfl, fun bounded hbounded => ?_,
      fun raised hraised hnames => toolName_of_execute hnames hraised⟩
    obtain ⟨spec, client, output, -, -, hrun, hrelease⟩ := exists_output_of_execute hbounded
    obtain ⟨fields, rfl⟩ := Tool.Capability.exists_fields_of_run hrun
    exact ⟨fields, hrelease.symm⟩

/-- **Every envelope is well formed**, whatever was dispatched, and it is sent with the HTTP status
that belongs to it.  The table of the gateway names its tools, so the tool that an error names is
there the one that its envelope names. -/
theorem envelope_well_formed (frame : Frame) (ambient : Ambient) (incoming : Incoming)
    (state : State) :
    let dispatched := (incoming.dispatch frame ambient state).result
    (∃ (envelope : Tool.Envelope) (statusCode : Nat),
      dispatched.response.toJson = envelope.toJson ∧
        dispatched.response.toolName = envelope.toolName ∧
        dispatched.response.statusCode = statusCode ∧
        Http.executeAnswer dispatched = Http.jsonAnswer statusCode envelope.toJson ∧
        envelope.WellFormed frame.registry statusCode) ∧
      Tool.Registry.builtin.NamesItsTools := by
  intro dispatched
  refine ⟨⟨dispatched.response.envelope, dispatched.response.statusCode,
    (Tool.Response.toJson_envelope _).symm, rfl, rfl, rfl, ?_⟩,
    Tool.Registry.namesItsTools_builtin⟩
  obtain ⟨toolName, decided, hresponse, hreleased, hraised⟩ :=
    incoming.exists_decision frame ambient state
  have hdispatched : dispatched.response = respond toolName ambient.latencyNanos decided :=
    hresponse
  rw [hdispatched]
  cases decided with
  | error raised =>
    exact wellFormed_of_failure frame.registry toolName ambient.latencyNanos raised
      (hraised raised rfl)
  | ok bounded =>
    obtain ⟨fields, rfl⟩ := hreleased bounded rfl
    exact wellFormed_of_release frame.registry toolName ambient.latencyNanos state.live fields

/-- A pod that is not there: the envelope of the failure goes with a 404, and its error, which the
capability has raised, names the tool that was called. -/
theorem envelope_well_formed_missingPod :
    let live := Settings.allowing "default"
    let missing : Incoming := .call ⟨"k8s.describe_pod",
      [("namespace", .str "default"), ("pod_name", .str "web")], 0⟩
    let state : State := .fresh live (.now (.ok (.ofSnapshot ⟨[⟨"default", false, [], []⟩]⟩)))
    let response :=
      (missing.dispatch (.ofSettings .builtin live) ⟨⟨1, 1⟩, 0, 7000000, 0⟩ state).result.response
    ∃ envelope : Tool.Envelope, response.toJson = envelope.toJson ∧
      envelope.WellFormed .builtin 404 ∧ ∃ errorType message, envelope.error = .obj [
        ("error_type", .str errorType),
        ("message", .str message),
        ("tool_name", .str "k8s.describe_pod"),
        ("duration_ms", .ofNat envelope.latencyMs)] := by
  intro live missing state response
  obtain ⟨⟨envelope, statusCode, hjson, hname, hstatus, -, hformed⟩, hnames⟩ :=
    envelope_well_formed (.ofSettings .builtin live) ⟨⟨1, 1⟩, 0, 7000000, 0⟩ missing state
  have hcode : response.statusCode = 404 := by decide
  obtain rfl : statusCode = 404 := hstatus.symm.trans hcode
  have hfailed : envelope.error ≠ .null :=
    fun hnull => absurd (hformed.succeeded hnull) (by decide)
  obtain ⟨errorType, message, raiser, -, herror, hraiser⟩ := hformed.failed hfailed
  have hcalled : response.toolName = "k8s.describe_pod" := by decide
  obtain rfl : raiser = "k8s.describe_pod" :=
    (hraiser hnames).trans (hname.symm.trans hcalled)
  exact ⟨envelope, hjson, hformed, errorType, message, herror⟩

/-- In a table that does not name its tools the two names part: here a pod is described under the
name `pod`, but the capability does not know. -/
example :
    let live := Settings.allowing "default"
    let frame := Frame.ofSettings (.ofSpecs [⟨"pod", "", .cluster, [], .describePod⟩]) live
    let state := State.fresh live (.now (.ok (.ofSnapshot ⟨[]⟩)))
    let response := (dispatch frame ⟨⟨1, 1⟩, 0, 0, 0⟩ ⟨"pod", [], 0⟩ state).result.response
    response.toolName = "pod" ∧
      response.failure? = some ⟨.invalidInput, "pod_name required", "k8s.describe_pod"⟩ := by
  decide

end Gateway

end GuardedGateway
