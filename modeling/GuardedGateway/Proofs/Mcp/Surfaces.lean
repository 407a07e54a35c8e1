import GuardedGateway.Proofs.Dispatch.Release
import GuardedGateway.Proofs.Isolation.History
import GuardedGateway.Proofs.Json.TypedReading
import GuardedGateway.Proofs.Mcp.Replies
import GuardedGateway.Proofs.Tool.Outputs

/-!
# The two surfaces agree

A tool is called by a body of its own or by a message.  The first is decoded straight into a call,
the second is read as a value, then as a request, and its parameters are looked at last.  When the
two say the same, they come to one call (`Tool.Call.eq_of_parse`, `Mcp.handle_of_asksFor`), so they
are dispatched alike.

What comes back is put differently.  The one answer is the envelope; the other has the envelope
twice, once as text and once as it is.  `Mcp.TellsOf` says what that is worth: the result shows the
envelope apart from its latency, flags a failure just where the envelope and its status do, and its
text is read back as the envelope that it shows.
-/

namespace GuardedGateway

/-! ## The call that a body spells -/

namespace Tool.Call

open Json.Field (makes_optional leaves_optional)

theorem sets_toolName : record.Sets "tool_name" .string toolName fun v => v where
  own := ⟨_, rfl, makes_optional fun _ _ => rfl⟩
  other := by
    simp only [record, List.forall_mem_cons]
    exact ⟨.inl rfl, .inr (leaves_optional fun _ _ => rfl), .inr (leaves_optional fun _ _ => rfl),
      List.forall_mem_nil _⟩

theorem sets_args : record.Sets "args" .object args fun v => v where
  own := ⟨_, rfl, makes_optional fun _ _ => rfl⟩
  other := by
    simp only [record, List.forall_mem_cons]
    exact ⟨.inr (leaves_optional fun _ _ => rfl), .inl rfl, .inr (leaves_optional fun _ _ => rfl),
      List.forall_mem_nil _⟩

theorem sets_timeoutMs : record.Sets "timeout_ms" .word timeoutMs fun v => v where
  own := ⟨_, rfl, makes_optional fun _ _ => rfl⟩
  other := by
    simp only [record, List.forall_mem_cons]
    exact ⟨.inr (leaves_optional fun _ _ => rfl), .inr (leaves_optional fun _ _ => rfl), .inl rfl,
      List.forall_mem_nil _⟩

/-- What a call sets from bytes is what it sets from a value. -/
theorem faithful_record : ∀ f ∈ record.fields, f.Faithful := by
  simp only [record, List.forall_mem_cons]
  exact ⟨Json.Field.faithful_optional (Json.Shape.faithful_scalar _ _),
    Json.Field.faithful_optional Json.Shape.faithful_object,
    Json.Field.faithful_optional (Json.Shape.faithful_map (Json.Shape.faithful_scalar _ _) _),
    List.forall_mem_nil _⟩

/-- The members of an object are the name of a tool and arguments, in any order, and no other. -/
structure Names (fields : Fields) (name : String) (args : Fields) : Prop where
  toolName : fields.get? "tool_name" = some (.str name)
  args : fields.get? "args" = some (.obj args)
  only : ∀ key ∈ fields.keys, key = "tool_name" ∨ key = "args"

/-- **A body that names a tool and arguments is decoded as the call of that tool with these
arguments**, and without a deadline of its own. -/
theorem eq_of_parse {body : Bytes} {fields : Fields} {name : String} {args : Fields} {call : Call}
    (hread : Json.read body = .ok (.obj fields)) (hnames : Names fields name args)
    (hparse : parse body = .ok call) : call = ⟨name, args, 0⟩ := by
  have hkeys := Json.nodup_keys_of_read hread
  have hknown : ∀ key ∈ fields.keys, record.field? key ≠ none := by
    intro key hkey
    obtain rfl | rfl := hnames.only key hkey
    · exact Option.some_ne_none _
    · exact Option.some_ne_none _
  have hof := Json.Record.ofFields_of_parse faithful_record hparse hread hknown
  obtain ⟨text, htext, htoolName⟩ := sets_toolName.exists_of_get? hkeys hof hnames.toolName
  obtain ⟨members, hmembers, hargs⟩ := sets_args.exists_of_get? hkeys hof hnames.args
  have htimeout : fields.get? "timeout_ms" = none := by
    refine Fields.get?_of_not_mem_keys fun hkey => ?_
    obtain h | h := hnames.only _ hkey
    · exact absurd h (by decide)
    · exact absurd h (by decide)
  have htimeoutMs := sets_timeoutMs.get_eq_start hkeys hof htimeout
  cases htext
  cases hmembers
  cases call
  congr

end Tool.Call

/-! ## The envelope -/

namespace Tool.Response

variable {response : Response}

/-- Alike responses are the same at one latency. -/
theorem withLatency_of_alike {other : Response} (h : response.AlikeButLatency other) :
    response.withLatency other.latencyNanos = other := by
  obtain ⟨hname, htruncated, houtcome⟩ := alikeButLatency_iff.mp h
  rw [withLatency, hname, htruncated, houtcome]

/-- The error of an envelope is null just when the call did not fail. -/
theorem error_toJson_eq_null_iff :
    response.toJson.field? "error" = some .null ↔ response.failure? = none := by
  show some ((response.failure?.map (failureJson response.latencyMs)).getD .null) = some .null ↔ _
  cases response.failure? with
  | none => exact iff_of_true rfl rfl
  | some failure => exact iff_of_false nofun nofun

/-- The status is 200 just when the call did not fail. -/
theorem statusCode_eq_ok_iff : response.statusCode = 200 ↔ response.failure? = none := by
  rw [statusCode, failure?]
  cases response.outcome with
  | ok result => exact iff_of_true rfl rfl
  | error failure =>
    refine iff_of_false ?_ (Option.some_ne_none _)
    show failure.kind.status ≠ 200
    cases failure.kind <;> decide

/-- The sizes that are told in place of a result that was too long are sizes in memory. -/
def SizesFit (response : Response) : Prop :=
  response.truncated = true → ∀ originalSize returnedSize,
    response.outcome = .ok (Guard.truncationMarker originalSize returnedSize) →
    originalSize < 2 ^ 64 ∧ returnedSize < 2 ^ 64

theorem sizesFit_of_alike {other : Response} (h : response.AlikeButLatency other)
    (hsizes : response.SizesFit) : other.SizesFit := by
  obtain ⟨-, htruncated, houtcome⟩ := alikeButLatency_iff.mp h
  rwa [SizesFit, htruncated, houtcome] at hsizes

end Tool.Response

namespace Gateway

/-- **The envelope of every dispatch is read back from its text.** -/
theorem read_envelope (frame : Frame) (ambient : Ambient) (call : Tool.Call) {state : State}
    (hclient : ∀ client, state.connection.value = .ok client → client.Representable)
    (hsizes : (dispatch frame ambient call state).result.response.SizesFit) :
    Json.read (Text.bytes (dispatch frame ambient call state).result.response.toJson.text) =
      .ok (dispatch frame ambient call state).result.response.toJson := by
  have hplain (response : Tool.Response)
      (h : ∀ result, response.outcome = .ok result → Json.Plain 126 result) :
      Json.Plain Json.depthLimit response.toJson := Tool.Response.plain_toJson h
  refine Json.read_text (hplain _ fun result hresult => ?_)
  obtain ⟨spec, client, output, -, hconnected, hrun, hrelease⟩ := exists_output_of_success hresult
  have houtput : Json.Plain 126 (Guard.redact output) :=
    Guard.plain_redact (Tool.Capability.plain_run 123 (hclient client hconnected) hrun)
  rw [release, Guard.bound] at hrelease
  split at hrelease
  · obtain ⟨rfl, -⟩ := Guard.Bounded.mk.inj hrelease
    exact houtput
  · obtain ⟨rfl, htruncated⟩ := Guard.Bounded.mk.inj hrelease
    obtain ⟨horiginal, hreturned⟩ := hsizes htruncated.symm _ _ hresult
    exact Guard.plain_truncationMarker 125 horiginal hreturned

namespace Mcp

/-- A result shows a response, apart from its latency: as its envelope, with a flag for failures,
and as a text that is read back as the envelope that is shown. -/
structure TellsOf (result : Json) (response : Tool.Response) : Prop where
  envelope : ∃ text nanos,
    result.field? "structuredContent" = some (response.withLatency nanos).toJson ∧
      result.field? "content" = some (.arr [.obj [("type", .str "text"), ("text", .str text)]]) ∧
      Json.read (Text.bytes text) = .ok (response.withLatency nanos).toJson
  isError : ∃ flag, result.field? "isError" = some (.bool flag) ∧
    (flag = true ↔ response.toJson.field? "error" ≠ some .null) ∧
    (flag = true ↔ response.statusCode ≠ 200)

/-- The result of a call tells of every response that is alike. -/
theorem tellsOf_callResult {called : Dispatched} {response : Tool.Response}
    (halike : response.AlikeButLatency called.response)
    (hread : Json.read (Text.bytes called.response.toJson.text) = .ok called.response.toJson) :
    TellsOf (callResult called) response := by
  have hlatency := Tool.Response.withLatency_of_alike halike
  have hfailure := failure?_of_alike halike
  constructor
  · refine ⟨called.response.toJson.text, called.response.latencyNanos, ?_, rfl, ?_⟩
    · rw [hlatency]
      rfl
    · rw [hlatency]
      exact hread
  · refine ⟨called.response.failure?.isSome, rfl, ?_, ?_⟩
    · rw [ne_eq, Tool.Response.error_toJson_eq_null_iff, hfailure, ← ne_eq,
        Option.isSome_iff_ne_none]
    · rw [ne_eq, Tool.Response.statusCode_eq_ok_iff, hfailure, ← ne_eq, Option.isSome_iff_ne_none]

/-- **The two surfaces agree.**  A body that names a tool and arguments and a message that asks for
the same call are dispatched alike in one state, and the result of the message tells of the response
to the body. -/
theorem surfaces_agree (frame : Frame) (state : State) (ambient₁ ambient₂ : Ambient)
    {body messageBody : Bytes} {fields message : Fields} {name : String} {args : Fields} {id : Json}
    {call : Tool.Call}
    (hbody : Json.read body = .ok (.obj fields)) (hnames : Tool.Call.Names fields name args)
    (hparse : Tool.Call.parse body = .ok call)
    (hmessage : Json.read messageBody = .ok (.obj message))
    (hasks : AsksFor message id ⟨name, args, 0⟩)
    (hclock : ClockAgrees frame ambient₁ ambient₂ state ⟨name, args, 0⟩)
    (hclient : ∀ client, state.connection.value = .ok client → client.Representable)
    (hsizes : (dispatchBody frame ambient₁ body state).result.response.SizesFit) :
    ∃ called result,
      (handle frame ambient₂ messageBody state).result = ⟨.result id result, some called⟩ ∧
      (dispatchBody frame ambient₁ body state).result.Alike called ∧
      TellsOf result (dispatchBody frame ambient₁ body state).result.response := by
  obtain rfl := Tool.Call.eq_of_parse hbody hnames hparse
  have hdispatch : dispatchBody frame ambient₁ body state =
      dispatch frame ambient₁ ⟨name, args, 0⟩ state := by
    rw [dispatchBody, hparse]
  have halike := (alike_dispatch (.refl state) hclock).result
  rw [hdispatch] at hsizes ⊢
  have hread := read_envelope frame ambient₂ ⟨name, args, 0⟩ hclient
    (Tool.Response.sizesFit_of_alike halike.response hsizes)
  refine ⟨_, _, ?_, halike, tellsOf_callResult halike.response hread⟩
  rw [handle_of_asksFor frame ambient₂ state hmessage hasks]
  rfl

/-- A cluster with a pod whose annotation has quotes, a line break and letters beyond ASCII. -/
def annotatedCluster : Cluster.Snapshot :=
  let annotations := [("note", "\"caf\u00e9\"\n\u0001\\ \u2603")]
  ⟨[⟨"default", false, [{ Cluster.Pod.record.start with name := "web", annotations }], []⟩]⟩

/-- A body that calls for the description of the pod. -/
def describeBody : Bytes :=
  Text.bytes ("\x7b \"args\": \x7b\"namespace\":\"default\",\"pod_name\":\"web\"\x7d," ++
    "\"tool_name\":\"k8s.describe\\u005fpod\"\x7d")

/-- A message that asks for the same. -/
def describeMessage : Bytes :=
  Text.bytes ("\x7b\"jsonrpc\":\"2.0\",\"id\":7,\"method\":\"tools/call\",\"params\":" ++
    "\x7b\"name\":\"k8s.describe_pod\"," ++
    "\"arguments\":\x7b\"namespace\":\"default\",\"pod_name\":\"web\"\x7d\x7d\x7d")

/-- The pod is described alike on both surfaces, and its description is read back from the text. -/
theorem surfaces_agree_annotatedPod :
    let frame : Frame := .ofSettings .builtin (.allowing "default")
    let state : State := .fresh (.allowing "default") (.now (.ok (.ofSnapshot annotatedCluster)))
    let executed := (dispatchBody frame ⟨⟨1, 1⟩, 0, 5, 0⟩ describeBody state).result
    ∃ called result,
      (handle frame ⟨⟨2, 2⟩, 0, 7, 0⟩ describeMessage state).result =
        ⟨.result (.ofNat 7) result, some called⟩ ∧
      executed.response.status = "success" ∧ TellsOf result executed.response := by
  intro frame state executed
  let args : Fields := [("namespace", .str "default"), ("pod_name", .str "web")]
  let fields : Fields := [("args", .obj args), ("tool_name", .str "k8s.describe_pod")]
  let params : Fields := [("name", .str "k8s.describe_pod"), ("arguments", .obj args)]
  let message : Fields := [("jsonrpc", .str "2.0"), ("id", .ofNat 7), ("method", .str "tools/call"),
    ("params", .obj params)]
  have hbody : Json.read describeBody = .ok (.obj fields) := rfl
  have hparse : Tool.Call.parse describeBody = .ok ⟨"k8s.describe_pod", args, 0⟩ := rfl
  have hmessage : Json.read describeMessage = .ok (.obj message) := by
    set_option maxRecDepth 2000 in rfl
  have hnames : Tool.Call.Names fields "k8s.describe_pod" args :=
    ⟨rfl, rfl, by simp [fields, Fields.keys]⟩
  have hasks : AsksFor message (.ofNat 7) ⟨"k8s.describe_pod", args, 0⟩ :=
    ⟨rfl, rfl, rfl, params, rfl, rfl, by decide, .inl rfl, rfl⟩
  have hclient : ∀ client, state.connection.value = .ok client → client.Representable := by
    rintro client ⟨⟩
    exact Cluster.Snapshot.representable_ofSnapshot (by decide)
  have hexecuted : executed =
      (dispatch frame ⟨⟨1, 1⟩, 0, 5, 0⟩ ⟨"k8s.describe_pod", args, 0⟩ state).result := by
    show (dispatchBody _ _ _ _).result = _
    rw [dispatchBody, hparse]
  have hstatus : executed.response.status = "success" := by
    rw [hexecuted]
    decide
  have htruncated : executed.response.truncated = false := by
    rw [hexecuted]
    decide
  have hsizes : executed.response.SizesFit :=
    fun h => absurd (htruncated.symm.trans h) Bool.false_ne_true
  obtain ⟨called, result, hhandled, -, htells⟩ := surfaces_agree frame state ⟨⟨1, 1⟩, 0, 5, 0⟩
    ⟨⟨2, 2⟩, 0, 7, 0⟩ hbody hnames hparse hmessage hasks (clockAgrees_of_spentMs_eq rfl) hclient
    hsizes
  exact ⟨called, result, hhandled, hstatus, htells⟩

end Mcp

end Gateway

end GuardedGateway
