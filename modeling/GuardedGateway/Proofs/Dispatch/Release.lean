import GuardedGateway.Proofs.Dispatch.Decision
import GuardedGateway.Proofs.Dispatch.Phases
import GuardedGateway.Proofs.Guard.Redaction

/-!
# What leaves the gateway

A result is what a capability came to, redacted and then bounded.  So whatever the cluster holds, no
secret is left in a result, and a result is either the redacted output, within the bound, or the
marker that says how long the redacted output was.
-/

namespace GuardedGateway

/-- A response that says so is a success. -/
theorem Tool.Response.exists_result_of_status {response : Tool.Response}
    (h : response.status = "success") : ∃ result, response.outcome = .ok result := by
  cases houtcome : response.outcome with
  | ok result => exact ⟨result, rfl⟩
  | error failure =>
    have hword : response.status = "error" := by rw [status, houtcome]
    rw [hword] at h
    exact absurd h (by decide)

namespace Gateway

open Guard (Scrubbed redact scrubbed_bound scrubbed_redact redact_eq_self_iff)

/-- What is released holds no secrets. -/
theorem scrubbed_release (settings : Settings) (output : Json) :
    Scrubbed (release settings output).value :=
  scrubbed_bound (scrubbed_redact output) settings.tools.maxOutputBytes

/-- A result is the redacted output of the capability, within the bound, or the marker in its
place. -/
structure Released (output : Json) (maxBytes : Nat) (result : Json) (truncated : Bool) : Prop where
  unbounded : maxBytes = 0 → result = redact output ∧ truncated = false
  bounded : 0 < maxBytes →
    (truncated = false ∧ result = redact output ∧ result.size ≤ maxBytes) ∨
    (truncated = true ∧ maxBytes < (redact output).size ∧
      result = .obj [
        ("truncated", .bool true),
        ("original_size", .ofNat (redact output).size),
        ("returned_size", .ofNat maxBytes)])

theorem released_release (settings : Settings) (output : Json) :
    Released output settings.tools.maxOutputBytes (release settings output).value
      (release settings output).truncated := by
  constructor
  · intro hzero
    rw [release, Guard.bound_of_fits (.inl hzero)]
    exact ⟨rfl, rfl⟩
  · intro hpos
    rcases Nat.lt_or_ge settings.tools.maxOutputBytes (redact output).size with hexceeds | hfits
    · rw [release, Guard.bound_of_exceeds (Nat.pos_iff_ne_zero.mp hpos) hexceeds]
      exact .inr ⟨rfl, hexceeds, rfl⟩
    · rw [release, Guard.bound_of_fits (.inr hfits)]
      exact .inl ⟨rfl, rfl, hfits⟩

/-- **Every successful result is scrubbed and bounded.** -/
theorem success_scrubbed_and_bounded (frame : Frame) (ambient : Ambient) (incoming : Incoming)
    (state : State) {result : Json}
    (h : (incoming.dispatch frame ambient state).result.response.outcome = .ok result) :
    Scrubbed result ∧ redact result = result ∧
      ∃ call spec client output,
        incoming.call? = some call ∧
        frame.registry.get? call.toolName = some spec ∧
        state.connection.value = .ok client ∧
        (spec.capability.run ⟨client, Tool.strip call.args,
          .parse state.live.tools.allowedNamespaces⟩).value = .ok output ∧
        Released output state.live.tools.maxOutputBytes result
          (incoming.dispatch frame ambient state).result.response.truncated := by
  obtain ⟨call, hcall, heq⟩ := Incoming.exists_call_of_success h
  rw [heq] at h ⊢
  obtain ⟨spec, client, output, hauth, hclient, hrun, hrelease⟩ := exists_output_of_success h
  have hscrubbed : Scrubbed result := by
    have hvalue := scrubbed_release state.live output
    rwa [hrelease] at hvalue
  have hreleased := released_release state.live output
  rw [hrelease] at hreleased
  exact ⟨hscrubbed, redact_eq_self_iff.mpr hscrubbed, call, spec, client, output, hcall,
    get?_of_authorize hauth, hclient, hrun, hreleased⟩

/-- What a tool says about a pod with a token among its labels, under a bound on results. -/
def askAboutLabelled (capability : Tool.Capability) (maxBytes : Nat) : Underway Dispatched :=
  let tools := (Settings.allowing "default").tools
  let live := { Settings.allowing "default" with
    tools := { tools with maxOutputBytes := maxBytes } }
  let pod := { Cluster.Pod.record.start with name := "web", labels := [("api_token", "x")] }
  let snapshot : Cluster.Snapshot := ⟨[⟨"default", false, [pod], []⟩]⟩
  Incoming.dispatch (.ofSettings .builtin live) ⟨⟨1, 1⟩, 0, 0, 0⟩
    (.call ⟨capability.toolName, [("namespace", .str "default"), ("pod_name", .str "web")], 0⟩)
    (.fresh live (.now (.ok (.ofSnapshot snapshot))))

/-- Without a bound the description leaves the gateway without the token, and under a bound that is
too small for a list of pods the marker does in its place. -/
theorem success_scrubbed_and_bounded_labelledPod :
    let described := (askAboutLabelled .describePod 0).result.response
    let listed := (askAboutLabelled .listPods 40).result.response
    (∃ result, described.outcome = .ok result ∧ Scrubbed result ∧ described.truncated = false) ∧
      ∃ size, 40 < size ∧ listed.outcome = .ok (Guard.truncationMarker size 40) := by
  intro described listed
  have hdescribed : described.status = "success" := by decide
  have hlisted : listed.status = "success" := by decide
  have htruncated : listed.truncated = true := by decide
  obtain ⟨result, hresult⟩ := Tool.Response.exists_result_of_status hdescribed
  obtain ⟨marker, hmarker⟩ := Tool.Response.exists_result_of_status hlisted
  obtain ⟨hscrubbed, -, _, _, _, _, -, -, -, -, hwhole⟩ :=
    success_scrubbed_and_bounded _ _ _ _ hresult
  obtain ⟨-, -, _, _, _, _, -, -, -, -, hcut⟩ := success_scrubbed_and_bounded _ _ _ _ hmarker
  refine ⟨⟨result, hresult, hscrubbed, (hwhole.unbounded rfl).2⟩, ?_⟩
  rcases hcut.bounded (by decide) with ⟨hfalse, -⟩ | ⟨-, hexceeds, hvalue⟩
  · exact absurd (htruncated.symm.trans hfalse) (by decide)
  · exact ⟨_, hexceeds, hmarker.trans (congrArg Except.ok hvalue)⟩

end Gateway

end GuardedGateway
