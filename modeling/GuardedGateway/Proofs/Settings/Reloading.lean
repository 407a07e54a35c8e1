import GuardedGateway.Lifecycle.Daemon

/-!
# What a reload can do to the live settings

The settings in use change only when a whole new record of settings has been read, overlaid with the
environment and found valid.  `Valid` says what that means, rule by rule, and `Holds` says which
settings a file holds; neither mentions how they are computed.

A reload then has two ways to end (`reloadWith_cases`).  Nothing that was in use before enters the
new settings, and nothing of a file that is refused enters the old ones, so there is no third way in
which the two are mixed.  Validity is therefore an invariant of any sequence of reloads
(`valid_liveAfter`), and `reload_is_atomic` says both at every point of such a sequence.

## Where reloads come from

A running gateway reloads when its file changes and when it is told to.  It starts from settings
that have been loaded in the same way, so whatever happens to it, its settings are valid
(`Daemon.valid_foldl_step`).
-/

namespace GuardedGateway

namespace Settings

variable {s next live : Settings} {decode : Decoder} {env : Environment} {file : File}

/-! ## Valid settings -/

/-- The settings on which a gateway can run. -/
structure Valid (s : Settings) : Prop where
  bindAddress : isSocketAddress s.listener.bindAddress = true
  metricsAddress : s.observability.metricsEnabled = true →
    isSocketAddress s.observability.metricsAddress = true
  defaultTimeout : 0 < s.tools.defaultTimeoutMs
  requestTimeout : 0 < s.timeouts.requestSecs
  bodyLimit : 0 < s.security.maxBodySize
  logFile : ∃ c ∈ s.observability.logFile.toList, Text.isBlank c = false

theorem isBlankPath_eq_false_iff {path : String} :
    isBlankPath path = false ↔ ∃ c ∈ path.toList, Text.isBlank c = false := by
  rw [isBlankPath, List.all_eq_false]
  simp only [Bool.not_eq_true]

/-- Nothing is wrong with settings exactly when they are valid. -/
theorem violations_eq_nil_iff : s.violations = [] ↔ s.Valid := by
  have hzero {n : Nat} : (n == 0) = false ↔ 0 < n := by
    rw [beq_eq_false_iff_ne]
    exact Nat.pos_iff_ne_zero.symm
  have hmetrics : (s.observability.metricsEnabled &&
        !isSocketAddress s.observability.metricsAddress) = false ↔
      (s.observability.metricsEnabled = true →
        isSocketAddress s.observability.metricsAddress = true) := by
    cases s.observability.metricsEnabled <;> simp
  simp only [violations, List.append_eq_nil_iff, violationIf_eq_nil, Bool.not_eq_false', hmetrics,
    hzero, isBlankPath_eq_false_iff]
  constructor
  · rintro ⟨⟨⟨⟨⟨hbind, hmetrics⟩, hdefault⟩, hrequest⟩, hbody⟩, hlog⟩
    exact ⟨hbind, hmetrics, hdefault, hrequest, hbody, hlog⟩
  · rintro ⟨hbind, hmetrics, hdefault, hrequest, hbody, hlog⟩
    exact ⟨⟨⟨⟨⟨hbind, hmetrics⟩, hdefault⟩, hrequest⟩, hbody⟩, hlog⟩

/-! ## Loading -/

/-- A file can be read, its content is text, and the text spells these settings. -/
def Holds (decode : Decoder) (file : File) (s : Settings) : Prop :=
  ∃ content text, file = .ok content ∧ Text.ofBytes? content = some text ∧ decode text = some s

theorem ofFile_eq_ok_iff : ofFile decode file = .ok s ↔ Holds decode file s := by
  constructor
  · intro h
    unfold ofFile at h
    split at h
    · cases h
    · rename_i content
      split at h
      · cases h
      · rename_i text htext
        split at h
        · cases h
        · rename_i found hfound
          cases h
          exact ⟨content, text, rfl, htext, hfound⟩
  · rintro ⟨content, text, rfl, htext, hfound⟩
    simp only [ofFile, htext, hfound]

/-- Settings are loaded from a file exactly when it holds settings that are valid under the
environment, and then they are these. -/
theorem loadWith_eq_ok_iff :
    loadWith decode env (some file) = .ok next ↔
      ∃ s, Holds decode file s ∧ next = s.overlay env ∧ next.Valid := by
  have hbind : loadWith decode env (some file) =
      (ofFile decode file).bind fun base => accept (base.overlay env) := rfl
  rw [hbind]
  constructor
  · intro h
    cases hfile : ofFile decode file with
    | error fault =>
      rw [hfile] at h
      cases h
    | ok s =>
      simp only [hfile, Except.bind] at h
      obtain ⟨hoverlay, hviolations⟩ := accept_eq_ok_iff.mp h
      exact ⟨s, ofFile_eq_ok_iff.mp hfile, hoverlay.symm,
        hoverlay ▸ violations_eq_nil_iff.mp hviolations⟩
  · rintro ⟨s, hholds, rfl, hvalid⟩
    simp only [ofFile_eq_ok_iff.mpr hholds, Except.bind]
    exact accept_eq_ok_iff.mpr ⟨rfl, violations_eq_nil_iff.mpr hvalid⟩

/-! ## One reload -/

/-- **A reload replaces the settings whole, or keeps them.**  It replaces them exactly when the file
holds settings that are valid under the environment. -/
theorem reloadWith_cases (decode : Decoder) (env : Environment) (file : File) (live : Settings) :
    (∃ s, Holds decode file s ∧ (s.overlay env).Valid ∧
        reloadWith decode env file live = (s.overlay env, true)) ∨
      ((¬ ∃ s, Holds decode file s ∧ (s.overlay env).Valid) ∧
        reloadWith decode env file live = (live, false)) := by
  unfold reloadWith
  cases hload : loadWith decode env (some file) with
  | ok next =>
    obtain ⟨s, hholds, rfl, hvalid⟩ := loadWith_eq_ok_iff.mp hload
    exact .inl ⟨s, hholds, hvalid, rfl⟩
  | error fault =>
    refine .inr ⟨?_, rfl⟩
    rintro ⟨s, hholds, hvalid⟩
    rw [loadWith_eq_ok_iff.mpr ⟨s, hholds, rfl, hvalid⟩] at hload
    cases hload

/-- A reload leaves valid settings. -/
theorem valid_reloadWith (decode : Decoder) (env : Environment) (file : File) (h : live.Valid) :
    (reloadWith decode env file live).1.Valid := by
  obtain ⟨s, -, hvalid, heq⟩ | ⟨-, heq⟩ := reloadWith_cases decode env file live
  · rw [heq]
    exact hvalid
  · rw [heq]
    exact h

/-! ## Any number of reloads -/

/-- What a reload finds: the environment and the file at that moment. -/
structure Attempt where
  env : Environment
  file : File

/-- The settings in use after some reloads. -/
def liveAfter (decode : Decoder) (initial : Settings) (attempts : List Attempt) : Settings :=
  attempts.foldl (fun live attempt => (reloadWith decode attempt.env attempt.file live).1) initial

/-- Whatever the reloads find, the settings in use stay valid. -/
theorem valid_liveAfter (decode : Decoder) {initial : Settings} (h : initial.Valid)
    (attempts : List Attempt) : (liveAfter decode initial attempts).Valid := by
  induction attempts generalizing initial with
  | nil => exact h
  | cons attempt attempts ih => exact ih (valid_reloadWith decode attempt.env attempt.file h)

/-- **A reload is atomic and keeps the live settings valid**, after any number of reloads that have
found anything at all. -/
theorem reload_is_atomic (decode : Decoder) {initial : Settings} (h : initial.Valid)
    (earlier : List Attempt) (env : Environment) (file : File) :
    let live := liveAfter decode initial earlier
    let next := reloadWith decode env file live
    live.Valid ∧ next.1.Valid ∧ next.1 = liveAfter decode initial (earlier ++ [⟨env, file⟩]) ∧
      (next = (live, false) ∨ ∃ s, Holds decode file s ∧ next = (s.overlay env, true)) ∧
      (next.2 = true ↔ ∃ s, Holds decode file s ∧ (s.overlay env).Valid) := by
  intro live next
  have hlive : live.Valid := valid_liveAfter decode h earlier
  have hafter : next.1 = liveAfter decode initial (earlier ++ [⟨env, file⟩]) := by
    rw [liveAfter, List.foldl_append]
    rfl
  refine ⟨hlive, valid_reloadWith decode env file hlive, hafter, ?_⟩
  obtain ⟨s, hholds, hvalid, heq⟩ | ⟨hnone, heq⟩ := reloadWith_cases decode env file live
  · exact ⟨.inr ⟨s, hholds, heq⟩, iff_of_true (congrArg Prod.snd heq) ⟨s, hholds, hvalid⟩⟩
  · refine ⟨.inl heq, iff_of_false ?_ hnone⟩
    rw [show next.2 = false from congrArg Prod.snd heq]
    exact Bool.false_ne_true

/-- The default settings with a log file. -/
def logged : Settings :=
  { default with observability := { default.observability with logFile := "gateway.log" } }

theorem valid_logged : logged.Valid :=
  violations_eq_nil_iff.mp (by decide +kernel)

/-- A file whose calls have no time is refused, until a variable gives them some; a file that is
gone changes nothing. -/
theorem reload_is_atomic_rescuedDeadline :
    let decode : Decoder := fun _ => some { logged with tools := ⟨"dev", 0, 0⟩ }
    let quarter : Environment := fun name => if name = "TOOL_TIMEOUT_MS" then some "250" else none
    let earlier : List Attempt := [⟨fun _ => none, .error .notFound⟩, ⟨fun _ => none, .ok []⟩]
    let live := liveAfter decode logged earlier
    let next := reloadWith decode quarter (.ok []) live
    logged.Valid ∧ live = logged ∧ next = ({ logged with tools := ⟨"dev", 0, 250⟩ }, true) ∧
      next.1.Valid := by
  intro decode quarter earlier live next
  have hrefused : live = logged := by decide +kernel
  have hnext : next = ({ logged with tools := ⟨"dev", 0, 250⟩ }, true) := by decide +kernel
  have hatomic := reload_is_atomic decode valid_logged earlier quarter (.ok [])
  exact ⟨valid_logged, hrefused, hnext, hatomic.2.1⟩

end Settings

/-! ## A running gateway -/

namespace Lifecycle.Daemon

open Settings (loadWith_eq_ok_iff valid_reloadWith)

/-- A gateway starts with valid settings. -/
theorem valid_start {env : Settings.Environment} {content : Bytes} {watched serving : Bool}
    {daemon : Daemon} (h : start env content watched serving = .ok daemon) : daemon.live.Valid := by
  cases hload : Settings.load env (some (.ok content)) with
  | error fault =>
    rw [start, hload] at h
    cases h
  | ok live =>
    rw [start, hload] at h
    obtain rfl := Except.ok.inj h
    rw [Settings.load] at hload
    obtain ⟨s, -, -, hvalid⟩ := loadWith_eq_ok_iff.mp hload
    exact hvalid

/-- Whatever happens to a gateway, its settings stay valid. -/
theorem valid_step {daemon : Daemon} (h : daemon.live.Valid) (event : Event) :
    (daemon.step event).live.Valid := by
  have hreload (daemon : Daemon) (h : daemon.live.Valid) : daemon.reload.live.Valid :=
    valid_reloadWith Settings.ofToml daemon.env daemon.file h
  cases event with
  | write content =>
    simp only [step]
    split
    · exact hreload _ h
    · exact h
  | remove => exact h
  | hangup => exact hreload daemon h
  | terminate => exact h
  | trigger => exact h

/-- **A running gateway has valid settings**, from its start on and whatever happens to it. -/
theorem valid_foldl_step {env : Settings.Environment} {content : Bytes} {watched serving : Bool}
    {daemon : Daemon} (h : start env content watched serving = .ok daemon) (events : List Event) :
    (events.foldl step daemon).live.Valid := by
  have hstart := valid_start h
  clear h
  induction events generalizing daemon with
  | nil => exact hstart
  | cons event events ih => exact ih (valid_step hstart event)

end Lifecycle.Daemon

end GuardedGateway
