import CreationCommit.Json.Printer
import CreationCommit.Json.Record
import CreationCommit.Settings.Basic

/-!
# Settings as JSON

Settings are a record of two records.  Every field has a default, so a text
gives what differs from the defaults.
-/

namespace CreationCommit

open Json (Value)

namespace TransactionSettings

def fields : List String :=
  ["timeout_ms", "failure_threshold", "send_timeout_ms"]

def toValue (settings : TransactionSettings) : Value :=
  .ofFields
    [("timeout_ms", .ofInt settings.timeoutMs.toNat),
      ("failure_threshold", .ofInt settings.failureThreshold.toNat),
      ("send_timeout_ms", .ofInt settings.sendTimeoutMs.toNat)]

def ofValue? (value : Value) : Option TransactionSettings := do
  if !value.isRecord fields then none
  let timeoutMs ←
    value.optional? fields "timeout_ms" Value.toWord? default.timeoutMs
  let failureThreshold ←
    value.optional? fields "failure_threshold" Value.toWord?
      default.failureThreshold
  let sendTimeoutMs ←
    value.optional? fields "send_timeout_ms" Value.toWord?
      default.sendTimeoutMs
  return { timeoutMs, failureThreshold, sendTimeoutMs }

end TransactionSettings

namespace LogSettings

def fields : List String :=
  ["level", "format", "timestamps", "target"]

def toValue (settings : LogSettings) : Value :=
  .ofFields
    [("level", .ofText settings.level),
      ("format", .ofText settings.format),
      ("timestamps", .bool settings.timestamps),
      ("target", .bool settings.target)]

def ofValue? (value : Value) : Option LogSettings := do
  if !value.isRecord fields then none
  let level ← value.optional? fields "level" Value.toText? default.level
  let format ← value.optional? fields "format" Value.toText? default.format
  let timestamps ←
    value.optional? fields "timestamps" Value.toBool? default.timestamps
  let target ← value.optional? fields "target" Value.toBool? default.target
  return { level, format, timestamps, target }

end LogSettings

namespace Settings

def fields : List String :=
  ["transaction", "log"]

def toValue (settings : Settings) : Value :=
  .ofFields
    [("transaction", settings.transaction.toValue),
      ("log", settings.log.toValue)]

def toText (settings : Settings) : String :=
  settings.toValue.toPrettyText

def ofValue? (value : Value) : Option Settings := do
  if !value.isRecord fields then none
  let transaction ←
    value.optional? fields "transaction" TransactionSettings.ofValue? .default
  let log ← value.optional? fields "log" LogSettings.ofValue? .default
  return { transaction, log }

/-- Read the settings from a text, whether they are valid or not. -/
def ofText? (text : String) : Option Settings := do
  ofValue? (← Value.read? text)

end Settings

end CreationCommit
