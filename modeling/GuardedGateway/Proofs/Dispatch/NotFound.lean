import GuardedGateway.Proofs.Dispatch.Authorization
import GuardedGateway.Proofs.Dispatch.Race
import GuardedGateway.Proofs.Guard.Allowlist
import GuardedGateway.Proofs.Isolation.Tenants
import GuardedGateway.Proofs.Tool.Questions

/-!
# Not found means missing

A call about one namespace can fail in two ways once it is authorised and its arguments are valid:
the namespace is forbidden, which is a failed execution, or something is not there, which is not
found.  The caller of a 404 may conclude that the thing does not exist, and the caller of a 500 may
not conclude anything, so neither may stand for the other.

`Puts` says that a call puts a question about an allowed namespace, as every authorised call does
whose arguments are valid (`exists_puts_of_authorize`).  A snapshot answers at once, and what is
there at once is in time for every deadline, even for one of no time at all (`within_now`).  So the
response tells what the snapshot said (`response_of_puts`), and it remains to read off the ways that
a question can end.

A forbidden namespace comes first.  Nothing in it is looked at, and its failure names the tool and
the namespace alone, so that two questions of one kind about it cannot be told apart by their
answers.
-/

namespace GuardedGateway

open Cluster (Snapshot)

/-- What is there at once is in time, even when there is no time at all. -/
theorem Timed.within_now {α : Type} (limitMs : Nat) (value : α) :
    (Timed.now value).within limitMs = .now ⟨.ok value, false⟩ := by
  refine if_pos ?_
  rcases Nat.eq_zero_or_pos (limitMs) with hzero | hpos
  · exact .inr ⟨hzero.symm, rfl⟩
  · exact .inl hpos

/-- The empty name is no entry of an allowlist. -/
theorem Guard.Allowlist.ne_empty_of_allows_parse {raw ns : String}
    (h : (parse raw).allows ns = true) : ns ≠ "" :=
  (Text.isEntry_of_mem ((allows_parse_iff raw ns).mp h)).ne_empty

namespace Tool.Response

/-- The kind of failure that a response tells of, if it tells of one. -/
def kind? (response : Response) : Option FailureKind :=
  response.failure?.map Failure.kind

theorem statusCode_eq_404_iff {response : Response} :
    response.statusCode = 404 ↔ response.kind? = some .notFound := by
  rw [statusCode, kind?, failure?]
  cases response.outcome with
  | ok result => simp
  | error failure =>
    simp only [Option.map_some, Option.some.injEq]
    cases failure.kind <;> decide

end Tool.Response

namespace Gateway

open Tool (Question)

/-- A call puts a question about a namespace that is allowed. -/
structure Puts (call : Tool.Call) (live : Settings) (ns : String) (question : Question) : Prop where
  keys : call.args.keys.Nodup
  toolName : call.toolName = question.capability.toolName
  args : question.AskedBy call.args
  named : call.args.get? "namespace" = some (.str ns)
  allowed : (Guard.Allowlist.parse live.tools.allowedNamespaces).allows ns = true

section

variable {initial : Settings} {ambient : Ambient} {call : Tool.Call} {state : State}
  {snapshot : Snapshot} {ns : String} {question : Question}

/-- A call of a tool about one namespace puts a question when it is authorised and its arguments are
valid. -/
theorem exists_puts_of_authorize {spec : Tool.Spec} (hkeys : call.args.keys.Nodup)
    (hauth : authorize .builtin (.parse state.live.tools.allowedNamespaces)
      (.ofCall state.live.tools.defaultTimeoutMs call) = .ok spec)
    (hscope : spec.scope = .namespaced)
    (hrequired : ∀ p ∈ spec.params, p.required = true →
      (Tool.stringArg call.args p.name).isSome = true)
    (hlines : spec.capability = .getPodLogs →
      (Tool.tailLines? (call.args.get? "tail_lines")).isSome = true) :
    ∃ ns question, Puts call state.live ns question := by
  have hget := get?_of_authorize hauth
  obtain ⟨ns, hns, hallowed⟩ := exists_allowed_ns_of_authorize hauth hscope
  rw [ns?_ofCall hkeys, Tool.stringArg_eq_some_iff] at hns
  obtain ⟨question, hcapability, hargs⟩ := Question.exists_askedBy
    (Tool.Registry.mem_builtinSpecs_of_get? hget) hscope hrequired hlines
  have hname : call.toolName = question.capability.toolName := by
    rw [hcapability]
    exact (Tool.Registry.toolName_of_get?_builtin hget).symm
  exact ⟨ns, question, hkeys, hname, hargs, hns.1, hallowed⟩

/-- The namespace of a call is still there when the instrumentation has been taken out. -/
theorem Puts.ns?_eq (h : Puts call state.live ns question) (defaultTimeoutMs : Nat) :
    (Tool.Request.ofCall defaultTimeoutMs call).ns? = some ns := by
  rw [ns?_ofCall h.keys]
  exact Tool.stringArg_eq_some_iff.mpr
    ⟨h.named, Guard.Allowlist.ne_empty_of_allows_parse h.allowed⟩

/-- A call that puts a question is authorised. -/
theorem Puts.runs (initial : Settings) (h : Puts call state.live ns question)
    (hserves : state.connection.Serves snapshot) :
    ∃ spec, spec.capability = question.capability ∧
      Runs (.ofSettings .builtin initial) call state spec (.ofSnapshot snapshot) := by
  obtain ⟨spec, hget, hscope, hcapability⟩ := question.exists_spec
  rw [← h.toolName] at hget
  exact ⟨spec, hcapability, authorize_of_allows hget hscope (h.ns?_eq _) h.allowed, hserves⟩

/-- **The response tells what the snapshot said.** -/
theorem response_of_puts (h : Puts call state.live ns question)
    (hserves : state.connection.Serves snapshot) :
    (dispatch (.ofSettings .builtin initial) ambient call state).result.response =
      respond call.toolName ambient.latencyNanos
        ((question.outcome (question.ask snapshot ns)).map (release state.live)) := by
  obtain ⟨spec, hcapability, hruns⟩ := h.runs initial hserves
  have hnamed : Tool.stringArg (Tool.strip call.args) "namespace" = some ns :=
    h.ns?_eq state.live.tools.defaultTimeoutMs
  have hwork : work call state spec (.ofSnapshot snapshot) =
      .now (question.outcome (question.ask snapshot ns)) := by
    rw [work, hcapability]
    exact Question.run_of_askedBy (h.args.strip h.keys) hnamed _
  obtain ⟨hresponse, -⟩ :=
    runsUnder_deadlineMs (.ofSettings .builtin initial) ambient call state spec _ hruns
  rw [hresponse, hwork, Timed.within_now]
  rfl

/-! ### The ways that a call can end -/

/-- The response to a question about a forbidden namespace names that namespace, and nothing else
that the question was about. -/
theorem response_of_forbidden (h : Puts call state.live ns question)
    (hserves : state.connection.Serves snapshot) (hforbidden : snapshot.Forbidden ns) :
    (dispatch (.ofSettings .builtin initial) ambient call state).result.response =
      respond call.toolName ambient.latencyNanos
        (.error ⟨call.toolName, .cluster question.attempt (.forbidden ns)⟩) := by
  have hcomes := question.comes_ask snapshot ns
  rw [response_of_puts h hserves]
  generalize question.ask snapshot ns = said at hcomes
  cases hcomes with
  | forbidden _ =>
    rw [h.toolName]
    rfl
  | missing hreadable _ _ _ => exact absurd hforbidden hreadable
  | answered hreadable _ => exact absurd hforbidden hreadable

/-- The response to a question that is missing something says that it is not found. -/
theorem kind_of_missing (h : Puts call state.live ns question)
    (hserves : state.connection.Serves snapshot) (hreadable : ¬ snapshot.Forbidden ns)
    (hmissing : question.Missing snapshot ns) :
    (dispatch (.ofSettings .builtin initial) ambient call state).result.response.kind? =
      some .notFound := by
  have hcomes := question.comes_ask snapshot ns
  rw [response_of_puts h hserves]
  generalize question.ask snapshot ns = said at hcomes
  cases hcomes with
  | forbidden hforbidden => exact absurd hforbidden hreadable
  | missing _ _ resource name => rfl
  | answered _ hanswered => exact absurd hmissing (Question.not_missing_of_answered hanswered)

/-- The response to a question that is missing nothing is a success. -/
theorem exists_answer_of_not_missing (h : Puts call state.live ns question)
    (hserves : state.connection.Serves snapshot) (hreadable : ¬ snapshot.Forbidden ns)
    (hthere : ¬ question.Missing snapshot ns) :
    ∃ answer, question.Answered snapshot ns answer ∧
      (dispatch (.ofSettings .builtin initial) ambient call state).result.response =
        respond call.toolName ambient.latencyNanos
          (.ok (release state.live (question.result answer))) := by
  have hcomes := question.comes_ask snapshot ns
  rw [response_of_puts h hserves]
  generalize question.ask snapshot ns = said at hcomes
  cases hcomes with
  | forbidden hforbidden => exact absurd hforbidden hreadable
  | missing _ hmissing _ _ => exact absurd hmissing hthere
  | answered _ hanswered => exact ⟨_, hanswered, rfl⟩

theorem kind_eq_notFound_iff (h : Puts call state.live ns question)
    (hserves : state.connection.Serves snapshot) (hreadable : ¬ snapshot.Forbidden ns) :
    (dispatch (.ofSettings .builtin initial) ambient call state).result.response.kind? =
        some .notFound ↔
      question.Missing snapshot ns := by
  refine ⟨fun hkind => ?_, kind_of_missing h hserves hreadable⟩
  by_contra hthere
  obtain ⟨answer, -, hresponse⟩ := exists_answer_of_not_missing h hserves hreadable hthere
  rw [hresponse] at hkind
  cases hkind

/-- Two questions that are put to one tool about a forbidden namespace are answered alike. -/
theorem alike_of_forbidden {ambient' : Ambient} {other : Tool.Call} {question' : Question}
    (h : Puts call state.live ns question) (h' : Puts other state.live ns question')
    (hserves : state.connection.Serves snapshot) (hforbidden : snapshot.Forbidden ns)
    (hname : other.toolName = call.toolName) :
    (dispatch (.ofSettings .builtin initial) ambient' other state).result.response.AlikeButLatency
      (dispatch (.ofSettings .builtin initial) ambient call state).result.response := by
  have hattempt : question'.attempt = question.attempt :=
    Question.attempt_eq_of_toolName_eq (h'.toolName.symm.trans (hname.trans h.toolName))
  rw [response_of_forbidden h' hserves hforbidden, response_of_forbidden h hserves hforbidden,
    hname, hattempt]
  exact respond_alike _ _ _ _

/-- The question of a call that lists pods. -/
theorem Puts.eq_pods (h : Puts call state.live ns question)
    (hname : call.toolName = "k8s.list_pods") : ∃ selector, question = .pods selector := by
  have hcapability : question.capability = .listPods :=
    Tool.Capability.toolName_injective (h.toolName.symm.trans hname)
  cases question with
  | pods selector => exact ⟨selector, rfl⟩
  | _ => cases hcapability

/-- What a list of pods may be answered with: a failed execution just when the namespace is
forbidden, never a 404, and the empty list when there is no such namespace. -/
structure ListsPods (snapshot : Snapshot) (ns : String) (live : Settings) (latencyNanos : Nat)
    (response : Tool.Response) : Prop where
  found : response.kind? ≠ some .notFound
  statusCode : response.statusCode ≠ 404
  executionError_iff : response.kind? = some .executionError ↔ snapshot.Forbidden ns
  absent : snapshot.Absent ns → response = respond "k8s.list_pods" latencyNanos
    (.ok (release live (.obj [("tool_name", .str "k8s.list_pods"), ("items", .arr [])])))

theorem listsPods (h : Puts call state.live ns question)
    (hserves : state.connection.Serves snapshot) (hname : call.toolName = "k8s.list_pods") :
    ListsPods snapshot ns state.live ambient.latencyNanos
      (dispatch (.ofSettings .builtin initial) ambient call state).result.response := by
  obtain ⟨selector, rfl⟩ := h.eq_pods hname
  by_cases hforbidden : snapshot.Forbidden ns
  · rw [response_of_forbidden h hserves hforbidden]
    have hfound : some Tool.FailureKind.executionError ≠ some .notFound := by decide
    exact ⟨hfound, mt Tool.Response.statusCode_eq_404_iff.mp hfound, iff_of_true rfl hforbidden,
      fun habsent => absurd hforbidden habsent.not_forbidden⟩
  · obtain ⟨answer, hanswered, hresponse⟩ := exists_answer_of_not_missing h hserves hforbidden id
    rw [hresponse, hname]
    have hnone (kind : Tool.FailureKind) : none ≠ some kind := nofun
    refine ⟨hnone _, mt Tool.Response.statusCode_eq_404_iff.mp (hnone _),
      iff_of_false (hnone _) hforbidden, fun habsent => ?_⟩
    obtain ⟨-, rfl⟩ | ⟨n, hn, -⟩ := hanswered
    · rfl
    · exact absurd habsent hn.not_absent

end

/-- **Not found means missing.**  Take a call that puts a question about an allowed namespace to a
gateway that serves a snapshot, under whatever deadline.

If the first entry of the namespace is forbidden, the call is a failed execution, and every call of
the same tool about that namespace is answered alike, whatever it asks for.

Otherwise the call is not found just when something that it asks for is missing, and if nothing is,
it succeeds with what is to be told of the first pod or deployment with the name.

A list of pods is never missing anything: it is empty when there is no such namespace, and it fails
just when the namespace is forbidden. -/
theorem not_found_iff_missing (initial : Settings) (ambient : Ambient) {call : Tool.Call}
    {state : State} {snapshot : Snapshot} {ns : String} {question : Question}
    (hserves : state.connection.Serves snapshot) (hputs : Puts call state.live ns question) :
    let frame := Frame.ofSettings .builtin initial
    let response := (dispatch frame ambient call state).result.response
    (snapshot.Forbidden ns →
      response.kind? = some .executionError ∧
      ∀ other ambient' question', other.toolName = call.toolName →
        Puts other state.live ns question' →
        (dispatch frame ambient' other state).result.response.AlikeButLatency response) ∧
    (¬ snapshot.Forbidden ns →
      (response.kind? = some .notFound ↔ question.Missing snapshot ns) ∧
      (response.statusCode = 404 ↔ question.Missing snapshot ns) ∧
      (¬ question.Missing snapshot ns → ∃ answer, question.Answered snapshot ns answer ∧
        response = respond call.toolName ambient.latencyNanos
          (.ok (release state.live (question.result answer))))) ∧
    (call.toolName = "k8s.list_pods" →
      ListsPods snapshot ns state.live ambient.latencyNanos response) := by
  intro frame response
  refine ⟨fun hforbidden => ⟨?_, fun other ambient' question' hname hother => ?_⟩,
    fun hreadable => ⟨?_, ?_, ?_⟩, listsPods hputs hserves⟩
  · have hresponse : response = _ := response_of_forbidden hputs hserves hforbidden
    rw [hresponse]
    rfl
  · exact alike_of_forbidden hputs hother hserves hforbidden hname
  · exact kind_eq_notFound_iff hputs hserves hreadable
  · exact Tool.Response.statusCode_eq_404_iff.trans (kind_eq_notFound_iff hputs hserves hreadable)
  · exact exists_answer_of_not_missing hputs hserves hreadable

/-- A cluster in which names repeat: the second pod with the name of the first has the container
that the first one lacks, and the second entry of a namespace has a pod that the first one lacks. -/
def repeatingCluster : Snapshot :=
  let pod (name : String) (containers : List Cluster.Container) : Cluster.Pod :=
    { Cluster.Pod.record.start with name, containers }
  ⟨[⟨"default", false, [pod "web" [⟨"app", "ready\n"⟩], pod "web" [⟨"sidecar", ""⟩]], []⟩,
    ⟨"sealed", true, [pod "web" []], []⟩, ⟨"default", false, [pod "worker" []], []⟩]⟩

/-- What stands behind the first entry of its name is not found, and a pod that a forbidden
namespace has is not told from one that it lacks. -/
theorem not_found_iff_missing_repeatingCluster :
    let live := Settings.allowing "default,sealed"
    let state := State.fresh live (.now (.ok (.ofSnapshot repeatingCluster)))
    let ambient : Ambient := ⟨⟨1, 1⟩, 0, 5, 0⟩
    let response := fun call : Tool.Call =>
      (dispatch (.ofSettings .builtin live) ambient call state).result.response
    let logs : Tool.Call := ⟨"k8s.get_pod_logs", [("namespace", .str "default"),
      ("__session_id", .str "s"), ("pod_name", .str "web"), ("container", .str "sidecar")], 1⟩
    let detail (ns pod : String) : Tool.Call :=
      ⟨"k8s.describe_pod", [("pod_name", .str pod), ("namespace", .str ns)], 1⟩
    Puts logs live "default" (.logOf "web" (some "sidecar") 100) ∧
      (response logs).kind? = some .notFound ∧
      (response (detail "default" "worker")).statusCode = 404 ∧
      (∃ answer, response (detail "default" "web") =
        respond "k8s.describe_pod" 5 (.ok (release live
          (.obj [("tool_name", .str "k8s.describe_pod"), ("pod", answer)])))) ∧
      (response (detail "sealed" "web")).kind? = some .executionError ∧
      (response (detail "sealed" "nothing")).AlikeButLatency
        (response (detail "sealed" "web")) := by
  intro live state ambient response logs detail
  have hserves : state.connection.Serves repeatingCluster := rfl
  have hlogs : Puts logs live "default" (.logOf "web" (some "sidecar") 100) :=
    ⟨by decide, rfl, ⟨rfl, rfl, rfl⟩, rfl, by decide⟩
  have hdetail (ns pod : String) (hpod : Tool.stringArg (detail ns pod).args "pod_name" = some pod)
      (hallowed : (Guard.Allowlist.parse live.tools.allowedNamespaces).allows ns = true) :
      Puts (detail ns pod) live ns (.podNamed pod) :=
    ⟨(by decide : ["pod_name", "namespace"].Nodup), rfl, hpod, rfl, hallowed⟩
  have hworker := hdetail "default" "worker" rfl (by decide)
  have hweb := hdetail "default" "web" rfl (by decide)
  have hsealed := hdetail "sealed" "web" rfl (by decide)
  have hnothing := hdetail "sealed" "nothing" rfl (by decide)
  -- the entry and the pod that the names stand for
  have hentry : repeatingCluster.Entry "default" _ := find?_eq_some_iff_firstNamed.mp rfl
  have hpod : repeatingCluster.Holds "default" "web" _ :=
    ⟨_, hentry, find?_eq_some_iff_firstNamed.mp rfl⟩
  have hreadable : ¬ repeatingCluster.Forbidden "default" := hentry.not_forbidden rfl
  have hforbidden : repeatingCluster.Forbidden "sealed" :=
    ⟨_, find?_eq_some_iff_firstNamed.mp rfl, rfl⟩
  have hlacking : Question.Missing repeatingCluster "default" (.logOf "web" (some "sidecar") 100) :=
    Or.inr ⟨_, hpod, "sidecar", rfl, by decide⟩
  have hhidden : Question.Missing repeatingCluster "default" (.podNamed "worker") :=
    Or.inr ⟨_, hentry, by decide⟩
  obtain ⟨-, hread, -⟩ := not_found_iff_missing live ambient hserves hlogs
  obtain ⟨-, hread', -⟩ := not_found_iff_missing live ambient hserves hworker
  obtain ⟨-, hread'', -⟩ := not_found_iff_missing live ambient hserves hweb
  obtain ⟨hclosed, -⟩ := not_found_iff_missing live ambient hserves hsealed
  obtain ⟨hkind, hsame⟩ := hclosed hforbidden
  obtain ⟨answer, -, hanswer⟩ := (hread'' hreadable).2.2 (Question.not_noPod_of_holds hpod)
  exact ⟨hlogs, (hread hreadable).1.mpr hlacking, (hread' hreadable).2.1.mpr hhidden,
    ⟨answer, hanswer⟩, hkind, hsame (detail "sealed" "nothing") ambient _ rfl hnothing⟩

end Gateway

end GuardedGateway
