import CreationCommit.Folder
import CreationCommit.Problem
import CreationCommit.Settings.Format
import CreationCommit.Text.Blank

/-!
# Loading of settings

Settings are read from a text or a file and validated; then variables of the
environment may override them, after which they are validated again.  A number
in a variable may be surrounded by blanks.  Reading comes before validating,
and of several variables the first that is no number is reported.
-/

namespace CreationCommit

/-- The variables of the environment that are set. -/
abbrev Environment :=
  String → Option String

namespace Settings

def timeoutVariable : String :=
  "REPLICA_COMMIT_TIMEOUT_MS"

def thresholdVariable : String :=
  "REPLICA_COMMIT_FAILURE_THRESHOLD"

def sendTimeoutVariable : String :=
  "REPLICA_COMMIT_SEND_TIMEOUT_MS"

def levelVariable : String :=
  "REPLICA_COMMIT_LOG_LEVEL"

def check (settings : Settings) : Except SettingsError Settings :=
  match settings.validate with
  | .ok _ => .ok settings
  | .error violation => .error (.invalid violation)

/-- Load settings from a text, which a file may have held. -/
def load (file : Option String) (text : String) :
    Except SettingsError Settings :=
  match ofText? text with
  | some settings => settings.check
  | none => .error (.malformed file)

def loadFile (path : String) (found : Found) : Except SettingsError Settings :=
  match found with
  | .nothing => .error (.notFound path)
  | .folder => .error .unreachable
  | .file content =>
      match String.fromUTF8? content with
      | some text => load (some path) text
      | none => .error .unreachable

/-- The number that a variable overrides another one with. -/
def overriddenWord (environment : Environment) (name : String)
    (current : UInt64) : Except SettingsError UInt64 :=
  match environment name with
  | none => .ok current
  | some value =>
      match Decimal.readWord (Text.trim value.toList) with
      | .ok word => .ok word
      | .error _ => .error (.override name value)

/-- Override settings by the variables that are set, whatever is valid. -/
def override (settings : Settings) (environment : Environment) :
    Except SettingsError Settings := do
  let transaction := settings.transaction
  let timeoutMs ←
    overriddenWord environment timeoutVariable transaction.timeoutMs
  let failureThreshold ←
    overriddenWord environment thresholdVariable transaction.failureThreshold
  let sendTimeoutMs ←
    overriddenWord environment sendTimeoutVariable transaction.sendTimeoutMs
  return {
    transaction := { timeoutMs, failureThreshold, sendTimeoutMs }
    log := { settings.log with
      level := (environment levelVariable).getD settings.log.level } }

/-- Override settings by the variables that are set, and validate them. -/
def withEnvironment (settings : Settings) (environment : Environment) :
    Except SettingsError Settings := do
  (← settings.override environment).check

/-- Load settings from what is found at a path, overridden by variables. -/
def loadFileWithEnvironment (path : String) (found : Found)
    (environment : Environment) : Except SettingsError Settings := do
  (← loadFile path found).withEnvironment environment

def loadDefault (environment : Environment) : Except SettingsError Settings :=
  default.withEnvironment environment

def defaultContent : ByteArray :=
  default.toText.toUTF8

end Settings

end CreationCommit
