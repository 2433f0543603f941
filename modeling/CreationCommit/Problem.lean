import CreationCommit.Failure
import CreationCommit.Settings.Basic
import CreationCommit.Text.Quoted

/-!
# Problems of a run

Settings may be missing, unreadable, malformed, invalid or overridden by
something that is no number; a creation may be aborted.  Every problem has a
text.  Where a text would quote what a reader or the file system has to say,
which is theirs to word, a star stands for it.
-/

namespace CreationCommit

/-- Why settings could not be obtained or stored. -/
inductive SettingsError
  | notFound (path : String)
  | malformed (path : Option String)
  | invalid (violation : Violation)
  | override (name value : String)
  | unreachable
deriving DecidableEq, Repr

def SettingsError.message : SettingsError → String
  | notFound path => s!"Configuration file not found: {path}"
  | malformed none => "Failed to parse configuration: *"
  | malformed (some path) =>
      "Failed to parse configuration: Failed to parse JSON: * at " ++
        Text.quote path
  | invalid violation =>
      s!"Configuration validation failed: {violation.message}"
  | override name value =>
      s!"Environment variable error: {name}: Invalid number: {value}"
  | unreachable => "I/O error reading configuration: *"

/-- Why a run did not lead to a commit. -/
inductive Problem
  | settings (error : SettingsError)
  | aborted (report : AbortReport)
deriving DecidableEq

namespace Problem

def message : Problem → String
  | settings error => s!"Configuration error: {error.message}"
  | aborted report => s!"Transaction error: {report.message}"

def cause : Problem → String
  | settings error => error.message
  | aborted report => report.message

/-- Whether another attempt may succeed: not before the settings change. -/
def isRecoverable : Problem → Bool
  | settings _ => false
  | aborted report => report.isRecoverable

end Problem

end CreationCommit
