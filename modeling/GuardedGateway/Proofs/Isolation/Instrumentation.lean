import GuardedGateway.Proofs.Isolation.History
import GuardedGateway.Proofs.Tool.Arguments
import Mathlib.Data.List.Forall2

/-!
# Instrumentation does not change an answer

The reserved keys are taken out of the arguments before anything is decided.  That leaves two calls
that differ only in their instrumentation, or in the order of their arguments, with the same
members, but it may leave them in two different orders: which argument moves where depends on the
reserved keys that stood between.  So it is not enough that the reserved keys are gone.  What
decides has to look arguments up and never to walk through them.

`Capability.run_congr` and `execute_congr` say that it does.  What walks through the arguments is
the record of the call, which lists their keys; there the order may differ, and only there.
-/

namespace GuardedGateway

/-! ## Arguments -/

namespace Tool

/-- Two calls that say the same apart from their instrumentation, in any order. -/
structure Call.AgreesButReserved (a b : Call) : Prop where
  toolName : a.toolName = b.toolName
  timeoutMs : a.timeoutMs = b.timeoutMs
  args : ∀ key, isReserved key = false → a.args.get? key = b.args.get? key

/-- Under every key two calls that agree have the same argument left. -/
theorem Call.AgreesButReserved.get?_strip {a b : Call} (h : a.AgreesButReserved b)
    (ha : a.args.keys.Nodup) (hb : b.args.keys.Nodup) (key : String) :
    (strip a.args).get? key = (strip b.args).get? key := by
  cases hkey : isReserved key with
  | true => rw [get?_strip_of_isReserved ha hkey, get?_strip_of_isReserved hb hkey]
  | false => rw [Tool.get?_strip ha hkey, Tool.get?_strip hb hkey, h.args key hkey]

/-- Objects in which the same is found have the same keys, in some order. -/
theorem keys_perm_of_get?_eq {a b : Fields} (ha : a.keys.Nodup) (hb : b.keys.Nodup)
    (h : ∀ key, a.get? key = b.get? key) : a.keys.Perm b.keys := by
  refine (List.perm_ext_iff_of_nodup ha hb).mpr fun key => not_iff_not.mp ?_
  rw [← Fields.get?_eq_none_iff, ← Fields.get?_eq_none_iff, h key]

/-- **A capability looks its arguments up.**  Where it finds the same it does the same. -/
theorem Capability.run_congr {args₁ args₂ : Fields} (h : ∀ key, args₁.get? key = args₂.get? key)
    (capability : Capability) (client : Cluster.Client) (allowed : Guard.Allowlist) :
    capability.run ⟨client, args₁, allowed⟩ = capability.run ⟨client, args₂, allowed⟩ := by
  have htext (key : String) : stringArg args₁ key = stringArg args₂ key := by
    rw [stringArg, stringArg, h]
  cases capability with
  | listPods => simp only [run, Invocation.ns, htext]
  | listNamespaces => rfl
  | describePod => simp only [run, Invocation.ns, Invocation.required, htext]
  | getPodEvents => simp only [run, Invocation.ns, Invocation.required, htext]
  | getPodLogs => simp only [run, Invocation.ns, Invocation.required, htext, h]
  | describeDeployment => simp only [run, Invocation.ns, Invocation.required, htext]

/-- Two requests that ask for the same: what is found in one is found in the other. -/
structure Request.AsksTheSame (a b : Request) : Prop where
  toolName : a.toolName = b.toolName
  timeoutMs : a.timeoutMs = b.timeoutMs
  args : ∀ key, a.args.get? key = b.args.get? key

/-- Calls that agree ask for the same once their instrumentation is taken out. -/
theorem Call.AgreesButReserved.asksTheSame {a b : Call} (h : a.AgreesButReserved b)
    (ha : a.args.keys.Nodup) (hb : b.args.keys.Nodup) (defaultTimeoutMs : Nat) :
    (Request.ofCall defaultTimeoutMs a).AsksTheSame (.ofCall defaultTimeoutMs b) where
  toolName := h.toolName
  timeoutMs := by rw [Request.ofCall, Request.ofCall, h.timeoutMs]
  args := h.get?_strip ha hb

end Tool

/-! ## Records -/

namespace Audit

/-- The keys of the arguments that a record lists, if it is that of a call. -/
def Record.argKeys? (record : Record) : Option (List String) :=
  match record.event with
  | .called _ _ argKeys => some argKeys
  | .ended .. => none

/-- Whether the next record will be kept. -/
def Log.takesNext (log : Log) : Bool :=
  log.enabled && (log.disk log.attempts).isNone

theorem Log.records_write_eq (log : Log) (record : Record) :
    (log.write record).1.records = log.records ++ if log.takesNext then [record] else [] := by
  rw [write, takesNext]
  cases log.enabled with
  | false => exact (List.append_nil _).symm
  | true =>
    cases log.disk log.attempts with
    | none => rfl
    | some fault => exact (List.append_nil _).symm

end Audit

/-! ## Decisions -/

namespace Gateway

section

variable {a b : Tool.Request} (h : a.AsksTheSame b)
include h

theorem ns?_congr : a.ns? = b.ns? := by
  rw [Tool.Request.ns?, Tool.Request.ns?, Tool.stringArg, Tool.stringArg, h.args]

theorem authorize_congr (registry : Tool.Registry) (allowed : Guard.Allowlist) :
    authorize registry allowed a = authorize registry allowed b := by
  rw [authorize, authorize, authorizedNs, authorizedNs, h.toolName, ns?_congr h]

/-- **Requests that ask for the same are decided the same**, and in the same time. -/
theorem execute_congr (frame : Frame) (ambient : Ambient) (settings : Settings)
    (connection : Cluster.Connection) :
    execute frame ambient settings connection a = execute frame ambient settings connection b := by
  have hdeadline : deadlineMs frame ambient a = deadlineMs frame ambient b := by
    rw [deadlineMs, deadlineMs, h.timeoutMs]
  have hrun := Tool.Capability.run_congr h.args
  simp only [execute, authorize_congr h, hdeadline, hrun, h.toolName]

end

/-- Calls that agree apart from their instrumentation get the same response. -/
theorem response_alike_of_agreesButReserved {frame : Frame} {ambient₁ ambient₂ : Ambient}
    {state : State} {a b : Tool.Call} (h : a.AgreesButReserved b) (ha : a.args.keys.Nodup)
    (hb : b.args.keys.Nodup) (hclock : ClockAgrees frame ambient₁ ambient₂ state a) :
    (dispatch frame ambient₁ a state).result.response.AlikeButLatency
      (dispatch frame ambient₂ b state).result.response := by
  have hsame := h.asksTheSame ha hb state.live.tools.defaultTimeoutMs
  rw [response_dispatch, response_dispatch, execute_eq_of_clockAgrees (.refl state) hclock,
    execute_congr hsame, h.toolName]
  exact respond_alike _ _ _ _

/-! ## Calls -/

/-- The lists of keys in the records that a call leaves, one for each record that lists keys. -/
def auditedKeys (frame : Frame) (ambient : Ambient) (call : Tool.Call) (state : State) :
    List (List String) :=
  ((dispatch frame ambient call state).done.audit.records.drop
    state.audit.records.length).filterMap Audit.Record.argKeys?

/-- The keys that are listed are those that are left, once if the log takes the record. -/
theorem auditedKeys_eq (frame : Frame) (ambient : Ambient) (call : Tool.Call) (state : State) :
    auditedKeys frame ambient call state =
      if state.audit.takesNext then [Fields.keys (Tool.strip call.args)] else [] := by
  have hdone : (dispatch frame ambient call state).done.audit =
      ((state.audit.write (calledRecord ambient call state)).1.write
        (endedRecord frame ambient call state)).1 := rfl
  have hended (kept : Bool) :
      (if kept then [endedRecord frame ambient call state] else []).filterMap
        Audit.Record.argKeys? = [] := by
    cases kept <;> rfl
  rw [auditedKeys, hdone, Audit.Log.records_write_eq, Audit.Log.records_write_eq, List.append_assoc,
    List.drop_left, List.filterMap_append, hended, List.append_nil]
  cases state.audit.takesNext <;> rfl

/-- **Instrumentation does not change an answer.**  Two calls that agree apart from it get the same
response, latencies aside, and their records list the same keys, none of them reserved. -/
theorem instrumentation_inert (frame : Frame) {ambient₁ ambient₂ : Ambient} {state : State}
    {a b : Tool.Call} (h : a.AgreesButReserved b) (ha : a.args.keys.Nodup)
    (hb : b.args.keys.Nodup) (hclock : ClockAgrees frame ambient₁ ambient₂ state a) :
    (dispatch frame ambient₁ a state).result.response.AlikeButLatency
        (dispatch frame ambient₂ b state).result.response ∧
      List.Forall₂ List.Perm (auditedKeys frame ambient₁ a state)
        (auditedKeys frame ambient₂ b state) ∧
      (∀ keys ∈ auditedKeys frame ambient₁ a state ++ auditedKeys frame ambient₂ b state,
        ∀ key ∈ keys, Tool.isReserved key = false) ∧
      (state.audit.Works → (auditedKeys frame ambient₁ a state).length = 1) := by
  refine ⟨response_alike_of_agreesButReserved h ha hb hclock, ?_⟩
  rw [auditedKeys_eq, auditedKeys_eq]
  cases htakes : state.audit.takesNext with
  | false =>
    refine ⟨.nil, List.forall_mem_nil _, fun hworks => ?_⟩
    rw [Audit.Log.takesNext, hworks.1, hworks.2] at htakes
    cases htakes
  | true =>
    refine ⟨.cons ?_ .nil, ?_, fun _ => rfl⟩
    · exact Tool.keys_perm_of_get?_eq (Tool.nodup_keys_strip ha) (Tool.nodup_keys_strip hb)
        (h.get?_strip ha hb)
    · refine List.forall_mem_cons.mpr ⟨?_, List.forall_mem_singleton.mpr ?_⟩
      · exact fun key hkey => Tool.not_isReserved_of_mem_keys_strip ha hkey
      · exact fun key hkey => Tool.not_isReserved_of_mem_keys_strip hb hkey

/-- One caller lists pods and says which session it is in; another gives the same arguments with a
key that is reserved for nothing in between. -/
theorem instrumentation_inert_reordered :
    let live := Settings.allowing "default"
    let ns : String × Json := ("namespace", .str "default")
    let selector : String × Json := ("label_selector", .str "app")
    let a : Tool.Call := ⟨"k8s.list_pods", [("__session_id", .str "s"), ns, selector], 0⟩
    let b : Tool.Call := ⟨"k8s.list_pods", [ns, ("__run", .null), selector], 0⟩
    let state : State := .fresh live (.now (.ok (.ofSnapshot ⟨[⟨"default", false, [], []⟩]⟩)))
    let frame : Frame := .ofSettings .builtin live
    a.AgreesButReserved b ∧
      a.args.keys.Nodup ∧ b.args.keys.Nodup ∧
      ClockAgrees frame ⟨⟨1, 1⟩, 0, 0, 0⟩ ⟨⟨2, 2⟩, 0, 5, 0⟩ state a ∧
      (dispatch frame ⟨⟨1, 1⟩, 0, 0, 0⟩ a state).result.response.AlikeButLatency
        (dispatch frame ⟨⟨2, 2⟩, 0, 5, 0⟩ b state).result.response ∧
      auditedKeys frame ⟨⟨1, 1⟩, 0, 0, 0⟩ a state = [["label_selector", "namespace"]] := by
  intro live ns selector a b state frame
  have hagree : a.AgreesButReserved b := by
    refine ⟨rfl, rfl, fun key hkey => ?_⟩
    have hsession : "__session_id" ≠ key := by
      rintro rfl
      cases hkey
    have hrun : "__run" ≠ key := by
      rintro rfl
      cases hkey
    have hfirst : a.args.get? key = Fields.get? [ns, selector] key := if_neg hsession
    have hrest : Fields.get? [("__run", .null), selector] key = Fields.get? [selector] key :=
      if_neg hrun
    have hsecond : b.args.get? key = Fields.get? [ns, selector] key :=
      congrArg (fun rest => if ns.1 = key then some ns.2 else rest) hrest
    exact hfirst.trans hsecond.symm
  have ha : a.args.keys.Nodup := by decide
  have hb : b.args.keys.Nodup := by decide
  have hclock : ClockAgrees frame ⟨⟨1, 1⟩, 0, 0, 0⟩ ⟨⟨2, 2⟩, 0, 5, 0⟩ state a :=
    clockAgrees_of_spentMs_eq rfl
  obtain ⟨halike, -⟩ := instrumentation_inert frame hagree ha hb hclock
  refine ⟨hagree, ha, hb, hclock, halike, ?_⟩
  decide +kernel

end Gateway

end GuardedGateway
