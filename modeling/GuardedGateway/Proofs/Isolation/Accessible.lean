import GuardedGateway.Proofs.Isolation.Locality
import GuardedGateway.Proofs.Tool.Checks

/-!
# The accessible namespaces

The listing of namespaces answers with a set, and a set is written as the strictly increasing list
of its members.  A namespace is accessible when three things hold of it, and each is asked in a
place of its own: it is allowed; the cluster lists it, or cannot list anything; and its pods can be
listed.

`AccessibleTo` says that a list is written in this way.  There is one such list
(`AccessibleTo.unique`), so everything else that a client does cannot matter: in what order it lists
the namespaces and how often each, how long it takes to answer, and in what order the checks are
done.  The last is said of the collection of the verdicts, step by step (`collected_accessible`).
-/

namespace GuardedGateway

namespace Cluster.Client

/-- A client that cannot rule out a namespace: it lists it, or cannot list the namespaces. -/
def Admits (client : Client) (ns : String) : Prop :=
  (∃ fault, client.listNamespaces.value = .error fault) ∨
    ∃ listed, client.listNamespaces.value = .ok listed ∧ ns ∈ listed

/-- The pods of a namespace can be listed. -/
def Opens (client : Client) (ns : String) : Prop :=
  ∃ pods, (client.listPods ns none).value = .ok pods

end Cluster.Client

namespace Tool

open Guard (Allowlist)

/-- A list holds the accessible namespaces, each once and in order. -/
structure AccessibleTo (client : Cluster.Client) (allowed : Allowlist) (found : List String) :
    Prop where
  increasing : found.Pairwise Text.Before
  mem_iff (ns : String) : ns ∈ found ↔ allowed.allows ns = true ∧ client.Admits ns ∧ client.Opens ns

/-- There is one list of the accessible namespaces, and it depends on what is said of the allowed
ones alone. -/
theorem AccessibleTo.unique {client other : Cluster.Client} {allowed : Allowlist}
    {found found' : List String} (h : AccessibleTo client allowed found)
    (h' : AccessibleTo other allowed found')
    (hsame : ∀ ns, allowed.allows ns = true →
      (other.Admits ns ↔ client.Admits ns) ∧ (other.Opens ns ↔ client.Opens ns)) :
    found' = found := by
  refine Text.eq_of_mem_iff h'.increasing h.increasing fun ns => ?_
  rw [h'.mem_iff, h.mem_iff]
  refine and_congr_right fun hallows => ?_
  rw [(hsame ns hallows).1, (hsame ns hallows).2]

/-- A namespace is a candidate when it is allowed and not ruled out. -/
theorem mem_candidates_iff {inv : Invocation} {ns : String} :
    ns ∈ inv.candidates ↔ inv.allowed.allows ns = true ∧ inv.client.Admits ns := by
  rw [Invocation.candidates, Cluster.Client.Admits, Allowlist.allows_iff]
  cases inv.client.listNamespaces.value with
  | ok listed => simp [candidates]
  | error fault => simp [candidates]

/-- A namespace passes its check when its pods can be listed. -/
theorem accessible_iff {client : Cluster.Client} {ns : String} :
    (accessible client ns).value = true ↔ client.Opens ns := by
  rw [accessible, Timed.value_map, Cluster.Client.Opens]
  cases (client.listPods ns none).value <;> simp

/-- **The namespaces that are kept are the accessible ones.** -/
theorem accessibleTo_kept (inv : Invocation) : AccessibleTo inv.client inv.allowed inv.kept where
  increasing := by
    have hallowed : inv.allowed.names.Pairwise Text.Before := inv.allowed.increasing
    have hcandidates : inv.candidates.Sublist inv.allowed.names := by
      rw [Invocation.candidates]
      cases inv.client.listNamespaces.value with
      | ok listed => exact List.filter_sublist
      | error fault => exact .refl _
    exact hallowed.sublist (List.filter_sublist.trans hcandidates)
  mem_iff ns := by
    rw [Invocation.kept, List.mem_filter, mem_candidates_iff, accessible_iff, and_assoc]

/-- Verdicts that are collected from the helpers of an invocation. -/
def Invocation.Collects (inv : Invocation) (c : Collection) : Prop :=
  Collection.Steps (fun ns => (accessible inv.client ns).value) (.start inv.candidates) c

/-- **In whatever order the checks are done**, what is kept when every verdict has been taken is the
list of the accessible namespaces, and the verdicts can all be taken. -/
theorem collected_accessible (inv : Invocation) :
    (∀ c, inv.Collects c → c.Collected → c.kept = inv.kept) ∧
      ∃ c, inv.Collects c ∧ c.Collected := by
  refine ⟨fun c hsteps hdone => Collection.kept_of_collected hsteps hdone, ?_⟩
  obtain ⟨c, hsteps, hdone, -⟩ := Collection.exists_collected
    (fun ns => (accessible inv.client ns).value) (c := .start inv.candidates) rfl
  exact ⟨c, hsteps, hdone⟩

end Tool

namespace Gateway

open Guard (Allowlist)

/-- **The listing of namespaces computes the accessible ones.**  Under an allowlist that is not
empty, and unless it is cut off, it comes to the allowed namespaces in order and to the accessible
ones in order, and what it comes to is released.

That list is the one that is collected, in whatever order the checks are done.  And it is the one
that any other client gives which admits and opens the same of the allowed namespaces, in whatever
order and however often it lists them, and whatever time it takes. -/
theorem listing_computes_accessible (initial : Settings) (ambient : Ambient) {call : Tool.Call}
    {state : State} {client : Cluster.Client} (hname : call.toolName = "k8s.list_namespaces")
    (hclient : state.connection.value = .ok client)
    (hsome : (Allowlist.parse state.live.tools.allowedNamespaces).isEmpty = false)
    (hdone : ¬ TimedOut
      (dispatch (.ofSettings .builtin initial) ambient call state).result.response) :
    let frame := Frame.ofSettings .builtin initial
    let raw := state.live.tools.allowedNamespaces
    let allowed := Allowlist.parse raw
    let inv := invocation call state client
    let response := (dispatch frame ambient call state).result.response
    allowed.names.Pairwise Text.Before ∧ (∀ ns, ns ∈ allowed.names ↔ ns ∈ Text.entries raw) ∧
    ∃ found, Tool.AccessibleTo client allowed found ∧
      (Tool.listNamespaces inv).value = .ok (Tool.namespacesFound allowed.names found) ∧
      response = respond call.toolName ambient.latencyNanos
        (.ok (release state.live (Tool.namespacesFound allowed.names found))) ∧
      (∀ c, inv.Collects c → c.Collected → c.kept = found) ∧
      (∃ c, inv.Collects c ∧ c.Collected) ∧
      ∀ ambient' connection other, connection.value = .ok other →
        (∀ ns, allowed.allows ns = true →
          (other.Admits ns ↔ client.Admits ns) ∧ (other.Opens ns ↔ client.Opens ns)) →
        let response' := (dispatch frame ambient' call { state with connection }).result.response
        ¬ TimedOut response' → response'.AlikeButLatency response := by
  intro frame raw allowed inv response
  have hincreasing : allowed.names.Pairwise Text.Before := allowed.increasing
  have hresponse : response = _ := response_of_listNamespaces state hname hclient hsome hdone
  obtain ⟨hcollected, hcollects⟩ := Tool.collected_accessible inv
  refine ⟨hincreasing, Text.mem_orderBy_id (Text.entries raw), inv.kept,
    Tool.accessibleTo_kept inv, Tool.value_listNamespaces hsome, hresponse, hcollected, hcollects,
    ?_⟩
  intro ambient' connection other hother hsame response' hdone'
  have hresponse' : response' = _ :=
    response_of_listNamespaces { state with connection } hname hother hsome hdone'
  have hkept : (invocation call { state with connection } other).kept = inv.kept :=
    (Tool.accessibleTo_kept inv).unique
      (Tool.accessibleTo_kept (invocation call { state with connection } other)) hsame
  rw [hresponse', hresponse, hkept]
  exact respond_alike _ _ _ _

/-- A cluster that lists its namespaces out of order and one of them twice, is slowest with the
first of the allowed ones, has closed another, and fails for a third. -/
theorem listing_computes_accessible_disturbed :
    let live := Settings.allowing "team-b, team-a,sealed,down,absent,team-a"
    let cluster : Cluster.Snapshot := ⟨[⟨"team-b", false, [], []⟩, ⟨"down", false, [], []⟩,
      ⟨"sealed", true, [], []⟩, ⟨"team-a", false, [], []⟩, ⟨"other", false, [], []⟩]⟩
    let disturbances : Cluster.Disturbances :=
      ⟨.none, .none, .none, [("team-a", ⟨90, none⟩), ("down", ⟨3, some "down"⟩)]⟩
    let listed := ["team-b", "other", "down", "team-a", "sealed", "team-a"]
    let client := { disturbances.client (.ofSnapshot cluster) with
      listNamespaces := (Timed.now (.ok listed)).later 20 }
    let state := State.fresh live (.now (.ok client))
    let call : Tool.Call := ⟨"k8s.list_namespaces", [], 500⟩
    let ambient : Ambient := ⟨⟨1, 1⟩, 0, 7, 0⟩
    let allowed := Allowlist.parse live.tools.allowedNamespaces
    let response := (dispatch (.ofSettings .builtin live) ambient call state).result.response
    allowed.isEmpty = false ∧ ¬ TimedOut response ∧
      Tool.AccessibleTo client allowed ["team-a", "team-b"] ∧
      response = respond "k8s.list_namespaces" 7
        (.ok (release live (Tool.namespacesFound allowed.names ["team-a", "team-b"]))) ∧
      ∀ c, (invocation call state client).Collects c → c.Collected →
        c.kept = ["team-a", "team-b"] := by
  intro live cluster disturbances listed client state call ambient allowed response
  have hsome : allowed.isEmpty = false := by decide
  have hdone : ¬ TimedOut response := not_timedOut_of_isOk (by decide +kernel)
  obtain ⟨-, -, found, haccessible, -, hresponse, hcollected, -⟩ :=
    listing_computes_accessible live ambient rfl (rfl : state.connection.value = .ok client) hsome
      hdone
  have hkept : (invocation call state client).kept = ["team-a", "team-b"] := by decide +kernel
  obtain rfl : found = ["team-a", "team-b"] := by
    rw [← hkept]
    exact (Tool.accessibleTo_kept (invocation call state client)).unique haccessible
      fun _ _ => ⟨.rfl, .rfl⟩
  exact ⟨hsome, hdone, haccessible, hresponse, hcollected⟩

end Gateway

end GuardedGateway
