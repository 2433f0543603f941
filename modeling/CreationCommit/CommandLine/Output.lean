import CreationCommit.CommandLine.Arguments

/-!
# Output of the command line

A run ends with an exit code and what it printed.  An error that ends the run
is printed with its causes: a single cause is indented, several are numbered,
and the further lines of a cause are indented like its first.
-/

namespace CreationCommit.CommandLine

/-- What a run printed, text by text, and how it ended. -/
structure Output where
  code : UInt8
  stdout : List String
  stderr : List String
deriving DecidableEq, Repr

/-- An error and what is behind it, the nearest cause first. -/
structure ErrorChain where
  text : String
  causes : List String
deriving DecidableEq, Repr

namespace ErrorChain

/-- Indent the first line of a text by one string and the others by another. -/
def indent (first others text : String) : String :=
  first ++ ("\n" ++ others).intercalate (text.splitOn "\n")

/-- A cause among several, under its number. -/
def numbered (cause : String) (number : Nat) : String :=
  let digits := toString number
  let padding := String.ofList (List.replicate (5 - digits.length) ' ')
  indent (padding ++ digits ++ ": ") "       " cause

def causeTexts (chain : ErrorChain) : List String :=
  match chain.causes with
  | [] => []
  | [cause] => [indent "    " "    " cause]
  | causes => causes.zipIdx.map fun (cause, number) => numbered cause number

def texts (chain : ErrorChain) : List String :=
  s!"Error: {chain.text}" ::
    (if chain.causes.isEmpty then []
    else "" :: "Caused by:" :: chain.causeTexts)

def ofSettingsError (error : SettingsError) : ErrorChain where
  text := error.message
  causes :=
    match error with
    | .unreachable => ["*"]
    | _ => []

def ofProblem (problem : Problem) : ErrorChain where
  text := problem.message
  causes :=
    problem.cause ::
      (match problem with
      | .settings error => (ofSettingsError error).causes
      | .aborted _ => [])

/-- The chain with a text in front that says what failed. -/
def within (chain : ErrorChain) (text : String) : ErrorChain where
  text := text
  causes := chain.text :: chain.causes

def output (chain : ErrorChain) (stdout : List String) : Output where
  code := 1
  stdout := stdout
  stderr := chain.texts

end ErrorChain

def versionText : String :=
  "replica-commit v0.1.0"

def helpText : List String := [
  versionText,
  "",
  "Simulate a two-phase commit of a replicated object creation.",
  "",
  "USAGE:",
  "    replica-commit [OPTIONS]",
  "",
  "OPTIONS:",
  "    -c, --config <PATH>           Configuration file path " ++
    "[default: built-in defaults]",
  "    -g, --generate-config <PATH>  Write the default configuration and exit",
  "    -n, --replicas <N>            Replicas in the group [default: 3]",
  "        --failing <N>             Replicas that reject the creation " ++
    "[default: 0]",
  "        --departing <N>           Replicas that leave instead of " ++
    "answering [default: 0]",
  "        --silent <N>              Replicas that never answer [default: 0]",
  "        --late-joiners <N>        Peers joining after voting started " ++
    "[default: 0]",
  "    -h, --help                    Print help information",
  "    -v, --version                 Print version information",
  "",
  "ENVIRONMENT:",
  "    REPLICA_COMMIT_TIMEOUT_MS          Override the vote timeout",
  "    REPLICA_COMMIT_FAILURE_THRESHOLD   Override the failure threshold",
  "    REPLICA_COMMIT_SEND_TIMEOUT_MS     Override the per-send timeout",
  "    REPLICA_COMMIT_LOG_LEVEL           Override log level " ++
    "(trace, debug, info, warn, error)",
  ""]

/-- The first line of the report on a rehearsal that took some milliseconds. -/
def verdict (rehearsal : Rehearsal) (elapsed : String) : String :=
  match rehearsal.outcome with
  | some (.aborted report) => s!"ABORTED in {elapsed}ms: {report.message}"
  | _ => s!"COMMITTED in {elapsed}ms"

/-- The report on a rehearsal that took some milliseconds. -/
def report (rehearsal : Rehearsal) (elapsed : String) : List String :=
  let tally := rehearsal.primary.tally
  [verdict rehearsal elapsed,
    s!"  acknowledged: {tally.acknowledged.length}"] ++
    tally.failures.entries.map (fun (peer, failure) =>
      s!"  failed:       {peer.name} ({failure.message})") ++
    tally.outstanding.toList.map (fun peer =>
      s!"  outstanding:  {peer.name}") ++
    tally.lateRefusals.map (fun late => s!"  late failure: {late.message}") ++
    [s!"  replicas:     {rehearsal.countIn .committed} committed, " ++
      s!"{rehearsal.countIn .prepared} prepared, " ++
      s!"{rehearsal.countIn .aborted} aborted"]

end CreationCommit.CommandLine
