import GuardedGateway.Proofs.Dispatch.Authorization
import GuardedGateway.Proofs.Dispatch.Race
import GuardedGateway.Proofs.Guard.Allowlist
import GuardedGateway.Proofs.Guard.Redaction
import GuardedGateway.Proofs.Isolation.History

/-!
# An allowlist decides name by name

Two gateways that differ in their allowlists, and in nothing else, answer a call about one namespace
alike as soon as they agree on that namespace (`alike_of_allows_eq`).  The capability has nothing
else to do with the allowlist: the only one that looks at it is the listing of namespaces.

The listing asks about every allowed namespace, and whether a namespace is listed depends on that
namespace alone (`kept_eq_filter`).  So the listing under the smaller of two allowlists is the part
of the listing under the larger one that is allowed.  This needs care with the order: each allowlist
is put in order by itself, and the smaller one is in the order of the larger
(`names_eq_filter_of_le`).  More namespaces can take longer to check, so it is said of listings of
which neither is cut off.
-/

namespace GuardedGateway

/-! ## Allowlists -/

namespace Guard.Allowlist

/-- Every namespace that the one allows, the other allows too. -/
def Le (few many : Allowlist) : Prop :=
  ∀ ns, few.allows ns = true → many.allows ns = true

/-- A smaller allowlist is the part of a larger one that it allows, in the same order. -/
theorem names_eq_filter_of_le {few many : Allowlist} (h : few.Le many) :
    few.names = many.names.filter few.allows := by
  have hfew : few.names.Pairwise Text.Before := few.increasing
  have hmany : many.names.Pairwise Text.Before := many.increasing
  refine Text.eq_of_mem_iff hfew (hmany.filter _) fun ns => ?_
  rw [List.mem_filter, ← allows_iff, ← allows_iff, iff_and_self]
  exact h ns

end Guard.Allowlist

/-! ## Listing namespaces -/

namespace Tool

open Guard (Allowlist)

/-- What stands in a list of strings is no object. -/
theorem redact_ofStrings (names : List String) :
    Guard.redact (.ofStrings names) = .ofStrings names := by
  rw [Json.ofStrings, Guard.redact_arr, Guard.redactItems_eq_map, List.map_map]
  rfl

/-- The namespaces that are listed: the candidates whose pods can be listed. -/
def Invocation.kept (inv : Invocation) : List String :=
  inv.candidates.filter fun ns => (accessible inv.client ns).value

/-- The answer to a listing of namespaces. -/
def namespacesFound (allowed found : List String) : Json :=
  .obj [
    ("tool_name", .str Capability.listNamespaces.toolName),
    ("allowed_namespaces", .ofStrings allowed),
    ("matching_namespaces", .ofStrings found),
    ("items", .ofStrings found)]

/-- No key of it is secret. -/
theorem redact_namespacesFound (allowed found : List String) :
    Guard.redact (namespacesFound allowed found) = namespacesFound allowed found := by
  have hplain : ∀ key ∈ ["tool_name", "allowed_namespaces", "matching_namespaces", "items"],
      Guard.isSecretKey key = false := by decide
  simp only [List.forall_mem_cons] at hplain
  obtain ⟨hname, hallowed, hmatching, hitems, -⟩ := hplain
  simp [namespacesFound, Guard.redactFields_eq_map, Guard.redactField_of_not_secret, hname,
    hallowed, hmatching, hitems, redact_ofStrings]

/-- Names that are zipped with what becomes of each of them are kept one by one. -/
theorem filterMap_zip_map (names : List String) (check : String → Bool) :
    ((names.zip (names.map check)).filterMap fun (name, ok) => if ok then some name else none) =
      names.filter check := by
  induction names with
  | nil => rfl
  | cons name rest ih =>
    rw [List.map_cons, List.zip_cons_cons, List.filterMap_cons, List.filter_cons, ih]
    cases check name <;> rfl

/-- **Namespaces are kept one by one.** -/
theorem value_listNamespaces {inv : Invocation} (h : inv.allowed.isEmpty = false) :
    (listNamespaces inv).value = .ok (namespacesFound inv.allowed.names inv.kept) := by
  rw [listNamespaces, if_neg (by rw [h]; decide)]
  simp only [Timed.value_andThen, Timed.value_map, Timed.value_all, List.map_map]
  have hkept := filterMap_zip_map inv.candidates (Timed.value ∘ accessible inv.client)
  exact congrArg (fun found => Except.ok (namespacesFound inv.allowed.names found)) hkept

/-- **A smaller allowlist lists the part of what a larger one lists that it allows.** -/
theorem kept_eq_filter {client : Cluster.Client} {args₁ args₂ : Fields} {few many : Allowlist}
    (h : few.Le many) :
    (Invocation.mk client args₁ few).kept =
      (Invocation.mk client args₂ many).kept.filter few.allows := by
  have hcandidates : (Invocation.mk client args₁ few).candidates =
      (Invocation.mk client args₂ many).candidates.filter few.allows := by
    simp only [Invocation.candidates, candidates]
    cases client.listNamespaces.value with
    | ok listed =>
      rw [Guard.Allowlist.names_eq_filter_of_le h]
      exact List.filter_comm ..
    | error fault => exact Guard.Allowlist.names_eq_filter_of_le h
  rw [Invocation.kept, Invocation.kept, hcandidates]
  exact List.filter_comm ..

/-- Only the listing of namespaces looks at the allowlist. -/
theorem Capability.run_eq_of_ne_listNamespaces {capability : Capability}
    (h : capability ≠ .listNamespaces) (client : Cluster.Client) (args : Fields)
    (allowed₁ allowed₂ : Allowlist) :
    capability.run ⟨client, args, allowed₁⟩ = capability.run ⟨client, args, allowed₂⟩ := by
  cases capability with
  | listNamespaces => exact absurd rfl h
  | _ => rfl

namespace Registry

variable {spec : Spec} {name : String}

/-- A tool about one namespace does not list them. -/
theorem capability_ne_of_get?_builtin (h : builtin.get? name = some spec)
    (hscope : spec.scope = .namespaced) : spec.capability ≠ .listNamespaces := by
  have hall : ∀ s ∈ builtinSpecs, s.scope = .namespaced → s.capability ≠ .listNamespaces := by
    decide
  exact hall spec (mem_builtinSpecs_of_get? h) hscope

/-- There is a tool that lists namespaces. -/
theorem exists_listNamespaces :
    ∃ spec, builtin.get? Capability.listNamespaces.toolName = some spec ∧
      spec.scope = .cluster ∧ spec.capability = .listNamespaces :=
  ⟨_, rfl, rfl, rfl⟩

end Registry

end Tool

/-! ## Two runs -/

namespace Gateway

open Guard (Allowlist)

/-- A state in which the live allowlist is another one. -/
def State.withAllowlist (state : State) (raw : String) : State :=
  { state with live := { state.live with
      tools := { state.live.tools with allowedNamespaces := raw } } }

/-- A call was cut off. -/
def TimedOut (response : Tool.Response) : Prop :=
  ∃ failure, response.outcome = .error failure ∧ failure.kind = .timeout

theorem not_timedOut_of_isOk {response : Tool.Response} (h : response.outcome.isOk = true) :
    ¬ TimedOut response := by
  rintro ⟨failure, hfailure, -⟩
  rw [hfailure] at h
  cases h

/-- A response tells of these items. -/
def Lists (response : Tool.Response) (items : List String) : Prop :=
  ∃ result, response.outcome = .ok result ∧ result.field? "items" = some (.ofStrings items)

section

variable {initial : Settings} {ambient ambient₁ ambient₂ : Ambient} {call : Tool.Call}
  {state : State} {raw₁ raw₂ : String} {spec : Tool.Spec}

/-! ### Calls about one namespace -/

/-- A request to a tool about one namespace is decided alike under two allowlists that agree on that
namespace. -/
theorem execute_withAllowlist {request : Tool.Request}
    (hget : Tool.Registry.builtin.get? request.toolName = some spec)
    (hscope : spec.scope = .namespaced)
    (hns : ∀ ns, request.ns? = some ns →
      (Allowlist.parse raw₁).allows ns = (Allowlist.parse raw₂).allows ns) :
    execute (.ofSettings .builtin initial) ambient (state.withAllowlist raw₁).live
        (state.withAllowlist raw₁).connection request =
      execute (.ofSettings .builtin initial) ambient (state.withAllowlist raw₂).live
        (state.withAllowlist raw₂).connection request := by
  have hsame : authorizedNs (.parse raw₁) request = authorizedNs (.parse raw₂) request := by
    unfold authorizedNs
    cases h : request.ns? with
    | none => rfl
    | some ns => simp only [hns ns h]
  have hauth (raw : String) : authorize .builtin (.parse raw) request =
      (authorizedNs (.parse raw) request).map fun _ => spec := authorize_of_namespaced hget hscope
  have hauth₁ := hauth raw₁
  have hauth₂ := hauth raw₂
  rw [hsame] at hauth₁
  -- a request that is let through has a capability that does not look at the allowlist again
  cases hnamed : authorizedNs (.parse raw₂) request with
  | error cause =>
    rw [hnamed] at hauth₁ hauth₂
    exact (execute_of_not_authorized hauth₁).trans (execute_of_not_authorized hauth₂).symm
  | ok ns =>
    rw [hnamed] at hauth₁ hauth₂
    have hne := Tool.Registry.capability_ne_of_get?_builtin hget hscope
    simp only [execute, State.withAllowlist, Frame.ofSettings, hauth₁, hauth₂, Except.map]
    congr 1
    funext answer
    cases answer with
    | error fault => rfl
    | ok client =>
      simp only [Tool.Capability.run_eq_of_ne_listNamespaces hne client request.args (.parse raw₁)
        (.parse raw₂)]
      rfl

/-- A request that names a namespace which is not allowed has no deadline. -/
theorem clockAgrees_of_not_allowed {frame : Frame}
    (hget : frame.registry.get? call.toolName = some spec) (hscope : spec.scope = .namespaced)
    (hns : ∀ ns, (Tool.Request.ofCall state.live.tools.defaultTimeoutMs call).ns? = some ns →
      (Allowlist.parse state.live.tools.allowedNamespaces).allows ns = false) :
    ClockAgrees frame ambient₁ ambient₂ state call := by
  intro found client hauth _
  obtain rfl : found = spec := Option.some.inj ((get?_of_authorize hauth).symm.trans hget)
  obtain ⟨ns, hnamed, hallows⟩ := exists_allowed_ns_of_authorize hauth hscope
  rw [hns ns hnamed] at hallows
  cases hallows

/-- **A call about one namespace is answered alike under two allowlists that agree on that
namespace.** -/
theorem alike_of_allows_eq (hkeys : call.args.keys.Nodup)
    (hget : Tool.Registry.builtin.get? call.toolName = some spec)
    (hscope : spec.scope = .namespaced) {ns : String}
    (hns : call.args.get? "namespace" = some (.str ns))
    (hallows : (Allowlist.parse raw₁).allows ns = (Allowlist.parse raw₂).allows ns)
    (hclock : ClockAgrees (.ofSettings .builtin initial) ambient₁ ambient₂
      (state.withAllowlist raw₁) call) :
    (dispatch (.ofSettings .builtin initial) ambient₁ call
        (state.withAllowlist raw₁)).result.response.AlikeButLatency
      (dispatch (.ofSettings .builtin initial) ambient₂ call
        (state.withAllowlist raw₂)).result.response := by
  have hrequest (name : String)
      (h : (Tool.Request.ofCall state.live.tools.defaultTimeoutMs call).ns? = some name) :
      (Allowlist.parse raw₁).allows name = (Allowlist.parse raw₂).allows name := by
    rw [ns?_ofCall hkeys, Tool.stringArg_eq_some_iff, hns] at h
    cases h.1
    exact hallows
  have hdecided : execute (.ofSettings .builtin initial) ambient₂ (state.withAllowlist raw₁).live
        (state.withAllowlist raw₁).connection
        (.ofCall (state.withAllowlist raw₁).live.tools.defaultTimeoutMs call) =
      execute (.ofSettings .builtin initial) ambient₂ (state.withAllowlist raw₂).live
        (state.withAllowlist raw₂).connection
        (.ofCall (state.withAllowlist raw₂).live.tools.defaultTimeoutMs call) :=
    execute_withAllowlist hget hscope hrequest
  rw [response_dispatch, response_dispatch,
    execute_eq_of_clockAgrees (State.Agrees.refl (state.withAllowlist raw₁)) hclock, hdecided]
  exact respond_alike call.toolName ambient₁.latencyNanos ambient₂.latencyNanos _

/-! ### The listing of namespaces -/

/-- A listing that is not cut off tells what was found. -/
theorem response_of_listNamespaces (state : State) {client : Cluster.Client}
    (hname : call.toolName = "k8s.list_namespaces") (hclient : state.connection.value = .ok client)
    (hsome : (Allowlist.parse state.live.tools.allowedNamespaces).isEmpty = false)
    (hdone : ¬ TimedOut
      (dispatch (.ofSettings .builtin initial) ambient call state).result.response) :
    (dispatch (.ofSettings .builtin initial) ambient call state).result.response =
      respond call.toolName ambient.latencyNanos (.ok (release state.live
        (Tool.namespacesFound (Allowlist.parse state.live.tools.allowedNamespaces).names
          (invocation call state client).kept))) := by
  obtain ⟨spec, hget, hscope, hcapability⟩ := Tool.Registry.exists_listNamespaces
  have hfound : Tool.Registry.builtin.get? call.toolName = some spec := hname.symm ▸ hget
  have hauth : authorize .builtin (.parse state.live.tools.allowedNamespaces)
      (.ofCall state.live.tools.defaultTimeoutMs call) = .ok spec :=
    authorize_of_cluster hfound hscope
  obtain ⟨hresponse, -⟩ := runsUnder_deadlineMs (.ofSettings .builtin initial) ambient call state
    spec client ⟨hauth, hclient⟩
  have hwork : (work call state spec client).value =
      .ok (Tool.namespacesFound (Allowlist.parse state.live.tools.allowedNamespaces).names
        (invocation call state client).kept) := by
    rw [work, hcapability]
    exact Tool.value_listNamespaces hsome
  -- the race is won, since it would have told of a timeout otherwise
  rw [hresponse] at hdone ⊢
  simp only [Timed.within] at hdone ⊢
  split at hdone
  case isFalse => exact absurd ⟨_, rfl, rfl⟩ hdone
  case isTrue hin =>
    rw [if_pos hin, hwork]
    rfl

/-- A listing that is not cut off and not too long tells what can be listed. -/
theorem lists_kept {raw : String} {client : Cluster.Client}
    (hname : call.toolName = "k8s.list_namespaces") (hclient : state.connection.value = .ok client)
    (hsize : state.live.tools.maxOutputBytes = 0) (hsome : (Allowlist.parse raw).isEmpty = false)
    (h : ¬ TimedOut (dispatch (.ofSettings .builtin initial) ambient call
      (state.withAllowlist raw)).result.response) :
    Lists (dispatch (.ofSettings .builtin initial) ambient call
        (state.withAllowlist raw)).result.response
      (Tool.Invocation.mk client (Tool.strip call.args) (.parse raw)).kept := by
  have hresponse := response_of_listNamespaces (state.withAllowlist raw) hname hclient hsome h
  have hreleased (found : Json) (hplain : Guard.redact found = found) :
      release (state.withAllowlist raw).live found = ⟨found, false⟩ := by
    rw [release, hplain]
    exact Guard.bound_of_fits (.inl hsize)
  rw [hresponse, hreleased _ (Tool.redact_namespacesFound _ _)]
  exact ⟨_, rfl, rfl⟩

end

/-- **An allowlist decides name by name.**  Take a gateway under two allowlists.  A call about one
namespace is answered alike when neither allows it, and, unless the clock decides between the two
runs, when both do; so nothing changes for a namespace that is allowed when others are allowed too.

If the first allowlist is not empty and the second allows all that it allows, then the namespaces
listed under the first are those listed under the second that the first allows, in the same order,
whatever the cluster answers, unless a listing is cut off or a result can be too long. -/
theorem allowlist_decides_by_name (initial : Settings) (call : Tool.Call) (state : State)
    (raw₁ raw₂ : String) (ambient₁ ambient₂ : Ambient) (hkeys : call.args.keys.Nodup) :
    let frame := Frame.ofSettings .builtin initial
    let allowed₁ := Allowlist.parse raw₁
    let allowed₂ := Allowlist.parse raw₂
    let response₁ := (dispatch frame ambient₁ call (state.withAllowlist raw₁)).result.response
    let response₂ := (dispatch frame ambient₂ call (state.withAllowlist raw₂)).result.response
    (∀ spec ns, Tool.Registry.builtin.get? call.toolName = some spec →
      spec.scope = .namespaced → call.args.get? "namespace" = some (.str ns) →
      (allowed₁.allows ns = false → allowed₂.allows ns = false →
        response₁.AlikeButLatency response₂) ∧
      (ClockAgrees frame ambient₁ ambient₂ (state.withAllowlist raw₁) call →
        (allowed₁.allows ns = true → allowed₂.allows ns = true →
          response₁.AlikeButLatency response₂) ∧
        (allowed₁.Le allowed₂ → allowed₁.allows ns = true →
          response₁.AlikeButLatency response₂))) ∧
    (∀ client, call.toolName = "k8s.list_namespaces" → state.connection.value = .ok client →
      state.live.tools.maxOutputBytes = 0 → allowed₁.isEmpty = false → allowed₁.Le allowed₂ →
      ¬ TimedOut response₁ → ¬ TimedOut response₂ →
        ∃ items, Lists response₂ items ∧ Lists response₁ (items.filter allowed₁.allows)) := by
  intro frame allowed₁ allowed₂ response₁ response₂
  refine ⟨fun spec ns hget hscope hns => ⟨fun h₁ h₂ => ?neither, fun hclock => ?both⟩, ?listing⟩
  case neither =>
    have hclock : ClockAgrees frame ambient₁ ambient₂ (state.withAllowlist raw₁) call := by
      refine clockAgrees_of_not_allowed hget hscope fun name hname => ?_
      rw [ns?_ofCall hkeys, Tool.stringArg_eq_some_iff, hns] at hname
      cases hname.1
      exact h₁
    exact alike_of_allows_eq hkeys hget hscope hns (h₁.trans h₂.symm) hclock
  case both =>
    have halike (h₁ : allowed₁.allows ns = true) (h₂ : allowed₂.allows ns = true) :
        response₁.AlikeButLatency response₂ :=
      alike_of_allows_eq hkeys hget hscope hns (h₁.trans h₂.symm) hclock
    exact ⟨halike, fun hle h₁ => halike h₁ (hle ns h₁)⟩
  case listing =>
    intro client hname hclient hsize hsome hle hdone₁ hdone₂
    obtain ⟨ns, hns⟩ := List.exists_mem_of_ne_nil _ (List.isEmpty_eq_false_iff.mp hsome)
    have hmany : ns ∈ allowed₂.names := by
      rw [← Allowlist.allows_iff] at hns ⊢
      exact hle ns hns
    have hsome₂ : allowed₂.isEmpty = false :=
      List.isEmpty_eq_false_iff.mpr (List.ne_nil_of_mem hmany)
    have hlisted₁ := lists_kept hname hclient hsize hsome hdone₁
    have hlisted₂ := lists_kept hname hclient hsize hsome₂ hdone₂
    rw [Tool.kept_eq_filter hle] at hlisted₁
    exact ⟨_, hlisted₂, hlisted₁⟩

/-- A listing of which the first question fails and one check as well, and a call about one
namespace, under an allowlist and under a part of it that is spelled differently. -/
theorem allowlist_decides_by_name_disturbed :
    let live := Settings.allowing ""
    let unbounded := { live with tools := { live.tools with maxOutputBytes := 0 } }
    let cluster : Cluster.Snapshot := ⟨[⟨"default", false, [], []⟩, ⟨"sealed", true, [], []⟩]⟩
    let disturbances : Cluster.Disturbances :=
      ⟨.none, .none, ⟨5, some "down"⟩, [("team-a", ⟨7, some "down"⟩)]⟩
    let state := State.fresh unbounded (disturbances.connect (.ofSnapshot cluster))
    let response := fun (call : Tool.Call) (nanos : Nat) (raw : String) =>
      (dispatch (.ofSettings .builtin live) ⟨⟨1, 1⟩, 0, nanos, 0⟩ call
        (state.withAllowlist raw)).result.response
    let listing : Tool.Call := ⟨"k8s.list_namespaces", [], 0⟩
    let pods : Tool.Call := ⟨"k8s.list_pods", [("namespace", .str "team-a")], 0⟩
    let part := " default ,,team-a,default"
    let whole := "team-a,other, default,sealed"
    (Allowlist.parse part).Le (.parse whole) ∧ pods.args.keys.Nodup ∧
      ¬ TimedOut (response listing 3 part) ∧ ¬ TimedOut (response listing 4 whole) ∧
      (∃ items, Lists (response listing 4 whole) items ∧
        Lists (response listing 3 part) (items.filter (Allowlist.parse part).allows)) ∧
      (response pods 3 part).AlikeButLatency (response pods 4 whole) := by
  intro live unbounded cluster disturbances state response listing pods part whole
  have hle : (Allowlist.parse part).Le (.parse whole) := by
    intro ns hns
    have hentry : ns ∈ ["default", "team-a", "default"] :=
      (Allowlist.allows_parse_iff " default ,,team-a,default" ns).mp hns
    simp only [List.mem_cons, List.not_mem_nil, or_false] at hentry
    obtain rfl | rfl | rfl := hentry <;> decide
  have hdone₁ : ¬ TimedOut (response listing 3 part) := not_timedOut_of_isOk (by decide +kernel)
  have hdone₂ : ¬ TimedOut (response listing 4 whole) := not_timedOut_of_isOk (by decide +kernel)
  have hkeys : pods.args.keys.Nodup := by decide
  have hlisting := allowlist_decides_by_name live listing state part whole ⟨⟨1, 1⟩, 0, 3, 0⟩
    ⟨⟨1, 1⟩, 0, 4, 0⟩ (by decide)
  have hpods := allowlist_decides_by_name live pods state part whole ⟨⟨1, 1⟩, 0, 3, 0⟩
    ⟨⟨1, 1⟩, 0, 4, 0⟩ hkeys
  refine ⟨hle, hkeys, hdone₁, hdone₂, ?_, ?_⟩
  · exact hlisting.2 _ rfl rfl rfl (by decide) hle hdone₁ hdone₂
  · exact ((hpods.1 _ "team-a" rfl rfl rfl).2 (clockAgrees_of_spentMs_eq rfl)).1 (by decide)
      (by decide)

end Gateway

end GuardedGateway
