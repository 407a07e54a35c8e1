import GuardedGateway.Proofs.Dispatch.NotFound

/-!
# Which argument a call is told to add

That an argument is required is said twice.  The schema of a tool lists the required names: the
namespace, if the tool is about one, and then those of its parameters that must be there.  And the
call is checked, in several places: the namespace by the dispatch, before it connects to the
cluster, and the rest by the capability, each in its own body, after it has.  Nothing in the program
holds the two together.

They agree all the same.  A call is answered with `k required` just when `k` is the first name of
the advertised list that is not bound to a non-empty string (`required_iff_first_unbound`), whatever
else is wrong with the call.

## What could come between

Two other refusals stand between the checks: the namespace may not be allowed, and there may be no
client.  They are why the theorem asks for both before it says that a missing argument is told.  In
the other direction nothing is asked for, since no other refusal has the form `k required`
(`kind_message_eq_required_iff`).

The deadline cannot come between, although the capability runs under it.  A missing argument is told
at once, and what is there at once is in time even for a deadline of no time at all.
-/

namespace GuardedGateway

namespace Tool

/-! ## Arguments that are bound -/

/-- A name is bound to a string that is not empty. -/
def Bound (args : Fields) (name : String) : Prop :=
  ∃ text, args.get? name = some (.str text) ∧ text ≠ ""

/-- A schema lists these names as required. -/
def Requires (schema : Json) (names : List String) : Prop :=
  schema.field? "required" = some (.ofStrings names)

/-- The first name that a schema requires and that is not bound. -/
def FirstUnbound (schema : Json) (args : Fields) (name : String) : Prop :=
  ∃ before after, Requires schema (before ++ name :: after) ∧
    (∀ earlier ∈ before, Bound args earlier) ∧ ¬ Bound args name

/-- The first of some names that is not bound. -/
def unbound? (args : Fields) (names : List String) : Option String :=
  names.find? fun name => (stringArg args name).isNone

section

variable {args : Fields} {name : String} {names : List String}

theorem isNone_stringArg_iff : (stringArg args name).isNone = true ↔ ¬ Bound args name := by
  rw [Option.isNone_iff_eq_none, Option.eq_none_iff_forall_ne_some, Bound, not_exists]
  exact forall_congr' fun text => not_congr stringArg_eq_some_iff

theorem unbound?_eq_some_iff :
    unbound? args names = some name ↔
      ∃ before after, names = before ++ name :: after ∧
        (∀ earlier ∈ before, Bound args earlier) ∧ ¬ Bound args name := by
  rw [unbound?, List.find?_eq_some_iff_append, isNone_stringArg_iff]
  have hbound (earlier : String) :
      (!(stringArg args earlier).isNone) = true ↔ Bound args earlier := by
    rw [Bool.not_eq_true', ← Bool.not_eq_true, isNone_stringArg_iff, not_not]
  simp only [hbound]
  constructor
  · rintro ⟨hname, before, after, hnames, hbefore⟩
    exact ⟨before, after, hnames, hbefore, hname⟩
  · rintro ⟨before, after, hnames, hbefore, hname⟩
    exact ⟨hname, before, after, hnames, hbefore⟩

/-- There is a first name that is not bound when there is one at all. -/
theorem exists_unbound?_iff :
    (∃ name, unbound? args names = some name) ↔ ∃ name ∈ names, ¬ Bound args name := by
  rw [← Option.isSome_iff_exists, unbound?, List.find?_isSome]
  exact exists_congr fun name => and_congr_right fun _ => isNone_stringArg_iff

theorem unbound?_cons_of_none (h : stringArg args name = none) :
    unbound? args (name :: names) = some name :=
  List.find?_cons_of_pos (Option.isNone_iff_eq_none.mpr h)

theorem unbound?_cons_of_some {text : String} (h : stringArg args name = some text) :
    unbound? args (name :: names) = unbound? args names :=
  List.find?_cons_of_neg (by simp [h])

/-- Only the names that are looked for matter. -/
theorem unbound?_congr {other : Fields}
    (h : ∀ name ∈ names, stringArg other name = stringArg args name) :
    unbound? other names = unbound? args names := by
  unfold unbound?
  induction names with
  | nil => rfl
  | cons first rest ih =>
    obtain ⟨hfirst, hrest⟩ := List.forall_mem_cons.mp h
    rw [List.find?_cons, List.find?_cons, hfirst, ih hrest]

end

/-! ## What the schema says -/

namespace Spec

/-- The parameters that must be there, in order. -/
def requiredParams (spec : Spec) : List String :=
  (spec.params.filter Param.required).map Param.name

variable {spec : Spec}

theorem requiredArgs_of_namespaced (h : spec.scope = .namespaced) :
    spec.requiredArgs = "namespace" :: spec.requiredParams := by
  rw [requiredArgs, if_pos h]
  rfl

theorem requiredArgs_of_cluster (h : spec.scope = .cluster) :
    spec.requiredArgs = spec.requiredParams := by
  rw [requiredArgs, if_neg (by rw [h]; decide)]
  rfl

/-- A schema has one list of required names. -/
theorem requires_inputSchema_iff {names : List String} :
    Requires spec.inputSchema names ↔ spec.requiredArgs = names := by
  have hlist : spec.inputSchema.field? "required" = some (.ofStrings spec.requiredArgs) := rfl
  have hinjective : Function.Injective Json.str := fun _ _ => Json.str.inj
  rw [Requires, hlist, Option.some.injEq, Json.ofStrings, Json.ofStrings, Json.arr.injEq]
  exact (List.map_injective_iff.mpr hinjective).eq_iff

theorem firstUnbound_inputSchema_iff {args : Fields} {name : String} :
    FirstUnbound spec.inputSchema args name ↔ unbound? args spec.requiredArgs = some name := by
  simp only [FirstUnbound, requires_inputSchema_iff, unbound?_eq_some_iff]

/-- No required argument is taken for instrumentation. -/
theorem not_isReserved_of_mem_requiredArgs (hspec : spec ∈ builtinSpecs) :
    ∀ name ∈ spec.requiredArgs, isReserved name = false := by
  have hall : ∀ s ∈ builtinSpecs, ∀ name ∈ s.requiredArgs, isReserved name = false := by decide
  exact hall spec hspec

end Spec

/-! ## What the capabilities check -/

/-- What is raised, if anything, says that an argument is required, in whatever name. -/
def FindsMissing {α : Type} (decided : Except Raised α) (name : String) : Prop :=
  ∃ raised, decided = .error raised ∧ raised.cause = .argumentRequired name

section

variable {α β : Type} {name : String}

@[simp] theorem findsMissing_error_iff {raised : Raised} :
    FindsMissing (.error raised : Except Raised α) name ↔
      raised.cause = .argumentRequired name := by
  constructor
  · rintro ⟨_, heq, hcause⟩
    cases heq
    exact hcause
  · exact fun hcause => ⟨raised, rfl, hcause⟩

@[simp] theorem not_findsMissing_ok {a : α} : ¬ FindsMissing (.ok a) name := by
  rintro ⟨_, heq, -⟩
  cases heq

@[simp] theorem findsMissing_map_iff {decided : Except Raised α} {f : α → β} :
    FindsMissing (decided.map f) name ↔ FindsMissing decided name := by
  cases decided with
  | ok a => exact iff_of_false not_findsMissing_ok not_findsMissing_ok
  | error raised => exact findsMissing_error_iff.trans findsMissing_error_iff.symm

end

/-- Work that looks for some arguments first.  When one of them is missing it has failed at once,
and otherwise it does not fail because an argument is missing. -/
inductive Checked : Option String → Timed Outcome → Prop
  | missing (toolName name : String) :
      Checked (some name) (.now (.error ⟨toolName, .argumentRequired name⟩))
  | passed {work : Timed Outcome} (h : ∀ name, ¬ FindsMissing work.value name) : Checked none work

/-- The cluster does not ask for arguments. -/
theorem checked_answered {α : Type} (capability : Capability) (attempt : Attempt) (member : String)
    (toJson : α → Json) (answer : Cluster.Answer α) :
    Checked none (answered capability attempt member toJson answer) := by
  refine .passed fun name => ?_
  rintro ⟨raised, hraised, hcause⟩
  obtain ⟨fault, -, rfl⟩ := value_answered_eq_error_iff.mp hraised
  cases hcause

theorem checked_listNamespaces (inv : Invocation) : Checked none (listNamespaces inv) := by
  refine .passed fun name => ?_
  rw [listNamespaces]
  split
  · simp [Capability.raise]
  · exact not_findsMissing_ok

theorem checked_withArgument {capability : Capability} {inv : Invocation} {key : String}
    {next : String → Timed Outcome} (hnext : ∀ text, Checked none (next text)) :
    Checked (unbound? inv.args [key]) (withArgument (inv.required capability key) next) := by
  rw [Invocation.required]
  cases htext : stringArg inv.args key with
  | none =>
    rw [unbound?_cons_of_none htext]
    exact .missing capability.toolName key
  | some text =>
    rw [unbound?_cons_of_some htext]
    exact hnext text

/-- **Every capability looks for the parameters that its tool requires**, and for no others. -/
theorem checked_run {spec : Spec} (hspec : spec ∈ builtinSpecs) (inv : Invocation) :
    Checked (unbound? inv.args spec.requiredParams) (spec.capability.run inv) := by
  simp only [builtinSpecs, List.mem_cons, List.not_mem_nil, or_false] at hspec
  obtain rfl | rfl | rfl | rfl | rfl | rfl := hspec
  · exact checked_answered ..
  · exact checked_listNamespaces inv
  · exact checked_withArgument fun pod => checked_answered ..
  · exact checked_withArgument fun pod => checked_answered ..
  · refine checked_withArgument fun pod => ?_
    split
    · -- the number of lines is wrong, which is another refusal
      exact .passed fun name => by simp [Capability.raise]
    · exact checked_answered ..
  · exact checked_withArgument fun deployment => checked_answered ..

/-! ## What is told -/

/-- Only a missing argument is told as `k required`. -/
theorem FailureCause.kind_message_eq_required_iff {cause : FailureCause} {name : String} :
    cause.kind = .invalidInput ∧ cause.message = name ++ " required" ↔
      cause = .argumentRequired name := by
  -- the last letter tells the three wordings of an invalid input apart
  have hlast (text : String) (h : text = name ++ " required") :
      text.toList.getLast? = some 'd' := by
    rw [h, String.toList_append, List.getLast?_append]
    rfl
  constructor
  · rintro ⟨hkind, hmessage⟩
    cases cause with
    | argumentRequired other => exact congrArg _ ((String.append_left_inj _).mp hmessage)
    | malformedCall => exact absurd (hlast _ hmessage) (by decide)
    | badTailLines => exact absurd (hlast _ hmessage) (by decide)
    | cluster attempt fault => cases fault <;> cases hkind
    | _ => cases hkind
  · rintro rfl
    exact ⟨rfl, rfl⟩

/-- A response tells the caller that an argument is required. -/
def Response.Demands (response : Response) (name : String) : Prop :=
  ∃ failure, response.failure? = some failure ∧
    failure.kind = .invalidInput ∧ failure.message = name ++ " required"

end Tool

namespace Gateway

open Tool (FindsMissing Bound FailureCause FirstUnbound Raised Requires unbound?)

/-- A response demands what its decision found missing. -/
theorem demands_respond_iff {toolName : String} {latencyNanos : Nat} {name : String}
    {decided : Except Raised Guard.Bounded} :
    (respond toolName latencyNanos decided).Demands name ↔ FindsMissing decided name := by
  cases decided with
  | ok bounded =>
    refine iff_of_false ?_ Tool.not_findsMissing_ok
    rintro ⟨failure, hfailure, -⟩
    cases hfailure
  | error raised =>
    rw [Tool.findsMissing_error_iff, ← FailureCause.kind_message_eq_required_iff]
    constructor
    · rintro ⟨failure, hfailure, htold⟩
      obtain rfl : raised.failure = failure := Option.some.inj hfailure
      exact htold
    · exact fun htold => ⟨_, rfl, htold⟩

/-! ## What the dispatch checks -/

section

variable {frame : Frame} {ambient : Ambient} {settings : Settings}
  {connection : Cluster.Connection} {request : Tool.Request} {spec : Tool.Spec} {name : String}
  {registry : Tool.Registry} {allowed : Guard.Allowlist}

/-- Under a deadline, too, a missing argument is told, and nothing else is told as one. -/
theorem findsMissing_runWithin_iff {missing : Option String} {work : Timed Tool.Outcome}
    (h : Tool.Checked missing work) (toolName : String) (limitMs : Nat) (settings : Settings) :
    FindsMissing (runWithin toolName limitMs settings work).value name ↔ missing = some name := by
  rw [runWithin_eq, Timed.value_map]
  cases h with
  | missing raiser first =>
    rw [Timed.within_now, Option.some.injEq]
    have hcause := FailureCause.argumentRequired.injEq first name
    exact Tool.findsMissing_error_iff.trans (.of_eq hcause)
  | passed hwork =>
    refine iff_of_false ?_ (Option.some_ne_none name).symm
    rw [Timed.within]
    split
    · exact fun htold => hwork name (Tool.findsMissing_map_iff.mp htold)
    · intro htold
      cases Tool.findsMissing_error_iff.mp htold

/-- The dispatch asks for the namespace of a tool that is about one. -/
theorem unbound?_of_not_authorized
    (h : authorize registry allowed request = .error (.argumentRequired name)) :
    ∃ spec, registry.get? request.toolName = some spec ∧
      unbound? request.args spec.requiredArgs = some name := by
  cases hget : registry.get? request.toolName with
  | none =>
    simp only [authorize, hget] at h
    cases h
  | some spec =>
    refine ⟨spec, rfl, ?_⟩
    cases hscope : spec.scope with
    | cluster =>
      rw [authorize_of_cluster hget hscope] at h
      cases h
    | namespaced =>
      cases hns : request.ns? with
      | none =>
        rw [authorize_of_unnamed hget hscope hns] at h
        obtain rfl : "namespace" = name := FailureCause.argumentRequired.inj (Except.error.inj h)
        rw [Tool.Spec.requiredArgs_of_namespaced hscope]
        exact Tool.unbound?_cons_of_none hns
      | some ns =>
        cases hallows : allowed.allows ns with
        | false =>
          rw [authorize_of_not_allows hget hscope hns hallows] at h
          cases h
        | true =>
          rw [authorize_of_allows hget hscope hns hallows] at h
          cases h

/-- An authorised request lacks no argument but the parameters of its tool. -/
theorem unbound?_of_authorized (h : authorize registry allowed request = .ok spec) :
    unbound? request.args spec.requiredArgs = unbound? request.args spec.requiredParams := by
  cases hscope : spec.scope with
  | cluster => rw [Tool.Spec.requiredArgs_of_cluster hscope]
  | namespaced =>
    obtain ⟨ns, hns, -⟩ := exists_allowed_ns_of_authorize h hscope
    rw [Tool.Spec.requiredArgs_of_namespaced hscope]
    exact Tool.unbound?_cons_of_some hns

/-- Once a request is authorised and has a client, it is told what its arguments lack. -/
theorem findsMissing_execute_iff_of_authorized {client : Cluster.Client}
    (hbuiltin : frame.registry = .builtin)
    (hauth : authorize frame.registry (.parse settings.tools.allowedNamespaces) request = .ok spec)
    (hclient : connection.value = .ok client) :
    FindsMissing (execute frame ambient settings connection request).value name ↔
      unbound? request.args spec.requiredArgs = some name := by
  have hget := get?_of_authorize hauth
  rw [hbuiltin] at hget
  have hspec := Tool.Registry.mem_builtinSpecs_of_get? hget
  rw [unbound?_of_authorized hauth]
  simp only [execute, hauth, Timed.value_andThen, hclient]
  exact findsMissing_runWithin_iff (Tool.checked_run hspec _) _ _ settings

/-- Whatever an argument is required for, the tool of the request requires it, and it is the first
that is missing. -/
theorem unbound?_of_execute (hbuiltin : frame.registry = .builtin)
    (h : FindsMissing (execute frame ambient settings connection request).value name) :
    ∃ spec, frame.registry.get? request.toolName = some spec ∧
      unbound? request.args spec.requiredArgs = some name := by
  obtain ⟨raised, hvalue, hcause⟩ := h
  have hdecides := decides_execute frame ambient settings connection request
  rw [hvalue] at hdecides
  cases hdecides with
  | turnedAway hauth =>
    cases hcause
    exact unbound?_of_not_authorized hauth
  | unconnected | late => cases hcause
  | failed hauth hclient =>
    exact ⟨_, get?_of_authorize hauth,
      (findsMissing_execute_iff_of_authorized hbuiltin hauth hclient).mp ⟨raised, hvalue, hcause⟩⟩

/-- The first argument that is missing is told, when the namespace is allowed or is that argument
itself, and there is a client. -/
theorem execute_of_unbound? {client : Cluster.Client} (hbuiltin : frame.registry = .builtin)
    (hget : frame.registry.get? request.toolName = some spec)
    (hclient : connection.value = .ok client)
    (hallowed : ∀ ns, request.ns? = some ns →
      (Guard.Allowlist.parse settings.tools.allowedNamespaces).allows ns = true)
    (hname : unbound? request.args spec.requiredArgs = some name) :
    FindsMissing (execute frame ambient settings connection request).value name := by
  have hauthorized (hauth : authorize frame.registry
      (.parse settings.tools.allowedNamespaces) request = .ok spec) :
      FindsMissing (execute frame ambient settings connection request).value name :=
    (findsMissing_execute_iff_of_authorized hbuiltin hauth hclient).mpr hname
  cases hscope : spec.scope with
  | cluster => exact hauthorized (authorize_of_cluster hget hscope)
  | namespaced =>
    cases hns : request.ns? with
    | none =>
      rw [Tool.Spec.requiredArgs_of_namespaced hscope, Tool.unbound?_cons_of_none hns] at hname
      obtain rfl : "namespace" = name := Option.some.inj hname
      rw [execute_of_not_authorized (authorize_of_unnamed hget hscope hns)]
      exact Tool.findsMissing_error_iff.mpr rfl
    | some ns => exact hauthorized (authorize_of_allows hget hscope hns (hallowed ns hns))

end

/-! ## The schema and the checks -/

/-- The tool of a call exists, and `name` is the first argument that its schema requires and the
call does not bind. -/
def Lacks (call : Tool.Call) (name : String) : Prop :=
  ∃ spec, Tool.Registry.builtin.get? call.toolName = some spec ∧
    FirstUnbound spec.inputSchema call.args name

section

variable {frame : Frame} {call : Tool.Call} {state : State} {spec : Tool.Spec} {name : String}

/-- The instrumentation does not change what a call lacks. -/
theorem unbound?_ofCall (hkeys : call.args.keys.Nodup) (hspec : spec ∈ Tool.builtinSpecs)
    (defaultTimeoutMs : Nat) :
    unbound? (Tool.Request.ofCall defaultTimeoutMs call).args spec.requiredArgs =
      unbound? call.args spec.requiredArgs := by
  refine Tool.unbound?_congr fun name hname => ?_
  have hreserved := Tool.Spec.not_isReserved_of_mem_requiredArgs hspec name hname
  exact Tool.stringArg_strip hkeys hreserved

/-- What a response demands, the call lacks. -/
theorem lacks_of_demands (hbuiltin : frame.registry = .builtin) (ambient : Ambient)
    (hkeys : call.args.keys.Nodup)
    (h : (dispatch frame ambient call state).result.response.Demands name) : Lacks call name := by
  rw [response_dispatch, demands_respond_iff] at h
  obtain ⟨spec, hget, hname⟩ := unbound?_of_execute hbuiltin h
  rw [hbuiltin] at hget
  rw [unbound?_ofCall hkeys (Tool.Registry.mem_builtinSpecs_of_get? hget)] at hname
  exact ⟨spec, hget, Tool.Spec.firstUnbound_inputSchema_iff.mpr hname⟩

/-- What a call lacks, the response demands, when the namespace is allowed and there is a client. -/
theorem demands_of_lacks {client : Cluster.Client} (hbuiltin : frame.registry = .builtin)
    (ambient : Ambient) (hkeys : call.args.keys.Nodup)
    (hclient : state.connection.value = .ok client)
    (hallowed : ∀ ns, call.args.get? "namespace" = some (.str ns) → ns ≠ "" →
      (Guard.Allowlist.parse state.live.tools.allowedNamespaces).allows ns = true)
    (h : Lacks call name) :
    (dispatch frame ambient call state).result.response.Demands name := by
  obtain ⟨spec, hget, hname⟩ := h
  rw [Tool.Spec.firstUnbound_inputSchema_iff,
    ← unbound?_ofCall hkeys (Tool.Registry.mem_builtinSpecs_of_get? hget)
      state.live.tools.defaultTimeoutMs] at hname
  rw [← hbuiltin] at hget
  rw [response_dispatch, demands_respond_iff]
  refine execute_of_unbound? hbuiltin hget hclient (fun ns hns => ?_) hname
  rw [ns?_ofCall hkeys, Tool.stringArg_eq_some_iff] at hns
  exact hallowed ns hns.1 hns.2

theorem not_demands_malformed (latencyNanos : Nat) :
    ¬ (respond "" latencyNanos (.error ⟨"", .malformedCall⟩)).Demands name := by
  rw [demands_respond_iff, Tool.findsMissing_error_iff]
  exact nofun

end

/-- **The schema and the checks agree** about the arguments that must be there.

A response that says `k required` is given to a call only, and then the schema of its tool requires
`k`, and `k` is the first of the required names that the call does not bind.  This holds under every
allowlist, and whether or not there is a client.

And where the namespace of a call is allowed, if it names one, and there is a client, the converse
holds too: the response says `k required` for the first `k` that the schema requires and the call
does not bind, and so it says this of some `k` just when there is such a name. -/
theorem required_iff_first_unbound {frame : Frame} (hbuiltin : frame.registry = .builtin)
    (ambient : Ambient) (state : State) :
    (∀ body name, (dispatchBody frame ambient body state).result.response.Demands name →
      ∃ call, Tool.Call.parse body = .ok call ∧ Lacks call name) ∧
    ∀ call : Tool.Call, call.args.keys.Nodup →
      let response := (dispatch frame ambient call state).result.response
      (∀ name, response.Demands name → Lacks call name) ∧
      ∀ spec client, Tool.Registry.builtin.get? call.toolName = some spec →
        state.connection.value = .ok client →
        (∀ ns, call.args.get? "namespace" = some (.str ns) → ns ≠ "" →
          (Guard.Allowlist.parse state.live.tools.allowedNamespaces).allows ns = true) →
        (∀ name, response.Demands name ↔ FirstUnbound spec.inputSchema call.args name) ∧
        ((∃ name, response.Demands name) ↔
          ∃ names, Requires spec.inputSchema names ∧ ∃ name ∈ names, ¬ Bound call.args name) := by
  refine ⟨fun body name h => ?_, fun call hkeys => ?_⟩
  · cases hparse : Tool.Call.parse body with
    | error fault =>
      simp only [dispatchBody, hparse] at h
      exact absurd h (not_demands_malformed ambient.latencyNanos)
    | ok call =>
      simp only [dispatchBody, hparse] at h
      exact ⟨call, rfl,
        lacks_of_demands hbuiltin ambient (Tool.Call.nodup_keys_of_parse hparse) h⟩
  · intro response
    refine ⟨fun name => lacks_of_demands hbuiltin ambient hkeys, ?_⟩
    intro spec client hget hclient hallowed
    have hdemands (name : String) :
        response.Demands name ↔ FirstUnbound spec.inputSchema call.args name := by
      constructor
      · intro h
        obtain ⟨found, hfound, hname⟩ := lacks_of_demands hbuiltin ambient hkeys h
        obtain rfl : found = spec := Option.some.inj (hfound.symm.trans hget)
        exact hname
      · exact fun hname => demands_of_lacks hbuiltin ambient hkeys hclient hallowed
          ⟨spec, hget, hname⟩
    refine ⟨hdemands, ?_⟩
    simp only [hdemands, Tool.Spec.firstUnbound_inputSchema_iff, Tool.exists_unbound?_iff,
      Tool.Spec.requires_inputSchema_iff, exists_eq_left']

/-- A call for a log with nothing right is told to add a namespace, even when no time is left.  With
a namespace it is told to add a pod.  With a pod it is not told to add anything, although the number
of lines is still none. -/
theorem required_iff_first_unbound_badLines :
    let live := Settings.allowing "default"
    let frame := Frame.ofSettings .builtin live
    let client := Cluster.Client.ofSnapshot ⟨[]⟩
    let state := State.fresh live (.now (.ok client))
    let ambient : Ambient := ⟨⟨1, 1⟩, 0, 0, frame.toolCeilingMs⟩
    let logs (ns pod : Json) : Tool.Call := ⟨"k8s.get_pod_logs", [("__session_id", .str "s"),
      ("tail_lines", .str "many"), ("pod_name", pod), ("namespace", ns)], 1⟩
    let response := fun call => (dispatch frame ambient call state).result.response
    let allowed := Guard.Allowlist.parse live.tools.allowedNamespaces
    frame.registry = .builtin ∧ state.connection.value = .ok client ∧
      (∀ ns pod, (logs ns pod).args.keys.Nodup) ∧ allowed.allows "default" = true ∧
      (response (logs (.str "") .null)).Demands "namespace" ∧
      (response (logs (.str "default") (.str ""))).Demands "pod_name" ∧
      ∀ name, ¬ (response (logs (.str "default") (.str "web"))).Demands name := by
  intro live frame client state ambient logs response allowed
  have hbuiltin : frame.registry = .builtin := rfl
  have hclient : state.connection.value = .ok client := rfl
  have hkeys (ns pod : Json) : (logs ns pod).args.keys.Nodup :=
    (by decide : ["__session_id", "tail_lines", "pod_name", "namespace"].Nodup)
  have hdefault : allowed.allows "default" = true := by decide
  have hallowed (given : String) (pod : Json) (hgiven : given = "" ∨ given = "default") :
      ∀ ns, (logs (.str given) pod).args.get? "namespace" = some (.str ns) → ns ≠ "" →
        allowed.allows ns = true := by
    intro ns hns hne
    obtain rfl : given = ns := Json.str.inj (Option.some.inj hns)
    rw [hgiven.resolve_left hne]
    exact hdefault
  obtain ⟨spec, hget, hrequires⟩ :
      ∃ spec, Tool.Registry.builtin.get? "k8s.get_pod_logs" = some spec ∧
        spec.requiredArgs = ["namespace", "pod_name"] := ⟨_, rfl, rfl⟩
  obtain ⟨-, hcalls⟩ := required_iff_first_unbound hbuiltin ambient state
  have hdemands (given : String) (pod : Json) (hgiven : given = "" ∨ given = "default")
      (name : String) := ((hcalls _ (hkeys (.str given) pod)).2 spec client hget hclient
        (hallowed given pod hgiven)).1 name
  simp only [Tool.Spec.firstUnbound_inputSchema_iff, hrequires] at hdemands
  refine ⟨hbuiltin, hclient, hkeys, hdefault, ?_, ?_, fun name => ?_⟩
  · exact (hdemands "" .null (.inl rfl) "namespace").mpr rfl
  · exact (hdemands "default" (.str "") (.inr rfl) "pod_name").mpr rfl
  · exact fun h => absurd ((hdemands "default" (.str "web") (.inr rfl) name).mp h)
      (Option.some_ne_none name).symm

end Gateway

end GuardedGateway
