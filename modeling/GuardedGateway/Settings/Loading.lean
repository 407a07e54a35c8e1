import GuardedGateway.Settings.Environment
import GuardedGateway.Settings.Validation
import GuardedGateway.Storage.Fault
import GuardedGateway.Toml.Document

/-!
# Loading settings

Settings come from a file, if there is one, then from the environment, and are accepted only if they
are valid.  A reload goes the same way, and keeps the settings that are in use unless every step
succeeds.

How the text of a file is decoded is a parameter: nothing below depends on the notation.
-/

namespace GuardedGateway.Settings

/-- Why settings cannot be loaded. -/
inductive LoadFault where
  | unreadable (fault : Storage.Fault)
  | malformed
  | invalid (violations : List Violation)
  deriving DecidableEq, Repr

/-- The wordings of violations, with commas between them. -/
def joinMessages (violations : List Violation) : String :=
  ", ".intercalate (violations.map Violation.message)

/-- The wording of a failure to load. -/
def LoadFault.message : LoadFault → String
  | .unreadable fault => "IO error: " ++ fault.message
  | .malformed => "Parse error"
  | .invalid violations => "Validation failed: " ++ joinMessages violations

/-- The content of a settings file, or why it cannot be read. -/
abbrev File := Except Storage.Fault Bytes

/-- What decodes the text of a settings file. -/
abbrev Decoder := String → Option Settings

/-- Decodes settings in TOML. -/
def ofToml : Decoder := fun text => do
  (Settings.ofJson (← Toml.parse? text).toJson).toOption

/-- The settings that a file holds. -/
def ofFile (decode : Decoder) (file : File) : Except LoadFault Settings :=
  match file with
  | .error fault => .error (.unreadable fault)
  | .ok content =>
    match Text.ofBytes? content with
    | none => .error (.unreadable .notUtf8)
    | some text =>
      match decode text with
      | none => .error .malformed
      | some settings => .ok settings

/-- Accepts settings that are valid. -/
def accept (settings : Settings) : Except LoadFault Settings :=
  match settings.violations with
  | [] => .ok settings
  | v :: more => .error (.invalid (v :: more))

/-- Loads settings from a file, or from the defaults where there is none, and from the environment. -/
def loadWith (decode : Decoder) (env : Environment) (file : Option File) :
    Except LoadFault Settings := do
  let base ← match file with
    | some file => ofFile decode file
    | none => .ok default
  accept (base.overlay env)

/-- Loads settings from a TOML file and the environment. -/
def load (env : Environment) (file : Option File) : Except LoadFault Settings :=
  loadWith ofToml env file

/-- The settings in use after a reload, and whether they were replaced. -/
def reloadWith (decode : Decoder) (env : Environment) (file : File) (live : Settings) :
    Settings × Bool :=
  match loadWith decode env (some file) with
  | .ok next => (next, true)
  | .error _ => (live, false)

/-- The settings in use after a reload from a TOML file, and whether they were replaced. -/
def reload (env : Environment) (file : File) (live : Settings) : Settings × Bool :=
  reloadWith ofToml env file live

theorem accept_eq_ok_iff {settings s : Settings} :
    accept settings = .ok s ↔ settings = s ∧ settings.violations = [] := by
  unfold accept
  split
  · rename_i h; simp [h]
  · rename_i h; simp [h]

end GuardedGateway.Settings
