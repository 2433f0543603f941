import CreationCommit.Clock

/-!
# Settings

The settings of the program are those of a creation and those of its log.
Both time limits have to be positive and the log has one of two formats; of
several violations the first in this order is reported.
-/

namespace CreationCommit

/-- The settings of one creation, its time limits in milliseconds. -/
structure TransactionSettings where
  timeoutMs : UInt64
  failureThreshold : UInt64
  sendTimeoutMs : UInt64
deriving DecidableEq, Repr

/-- The settings of the log. -/
structure LogSettings where
  level : String
  format : String
  timestamps : Bool
  target : Bool
deriving DecidableEq, Repr

/-- All settings of the program. -/
structure Settings where
  transaction : TransactionSettings
  log : LogSettings
deriving DecidableEq, Repr

/-- A rule that settings or the shape of a group break. -/
inductive Violation
  | zeroTimeout
  | zeroSendTimeout
  | unknownFormat (format : String)
  | tooManyMisbehaving (misbehaving replicas : Nat)
deriving DecidableEq, Repr

def Violation.message : Violation → String
  | zeroTimeout => "transaction.timeout_ms must be greater than 0"
  | zeroSendTimeout => "transaction.send_timeout_ms must be greater than 0"
  | unknownFormat format =>
      s!"log.format must be \"json\" or \"text\", got \"{format}\""
  | tooManyMisbehaving misbehaving replicas =>
      s!"{misbehaving} misbehaving replicas requested but only " ++
        s!"{replicas} replicas"

namespace TransactionSettings

/-- Half a minute for the votes, five seconds for a send and no failure. -/
def default : TransactionSettings where
  timeoutMs := 30000
  failureThreshold := 0
  sendTimeoutMs := 5000

def timeout (settings : TransactionSettings) : Duration :=
  .ofMillis settings.timeoutMs.toNat

def sendTimeout (settings : TransactionSettings) : Duration :=
  .ofMillis settings.sendTimeoutMs.toNat

/-- The number of failures that do not yet abort the creation. -/
def threshold (settings : TransactionSettings) : Nat :=
  settings.failureThreshold.toNat

/-- Wait for the votes for the whole milliseconds of a duration. -/
def waitingFor (settings : TransactionSettings) (timeout : Duration) :
    TransactionSettings :=
  { settings with timeoutMs := timeout.cappedMillis }

def validate (settings : TransactionSettings) : Except Violation Unit :=
  if settings.timeoutMs = 0 then .error .zeroTimeout
  else if settings.sendTimeoutMs = 0 then .error .zeroSendTimeout
  else .ok ()

end TransactionSettings

namespace LogSettings

/-- Informative lines of text with timestamps and targets. -/
def default : LogSettings where
  level := "info"
  format := "text"
  timestamps := true
  target := true

def validate (settings : LogSettings) : Except Violation Unit :=
  if settings.format = "json" ∨ settings.format = "text" then .ok ()
  else .error (.unknownFormat settings.format)

end LogSettings

namespace Settings

def default : Settings where
  transaction := .default
  log := .default

def validate (settings : Settings) : Except Violation Unit := do
  settings.transaction.validate
  settings.log.validate

end Settings

end CreationCommit
