import CreationCommit.CommandLine.Output
import CreationCommit.Settings.Loading

/-!
# Runs of the program

Most requests are answered at once.  Storing the default settings needs to
know whether the file could be written, and a rehearsal needs what is found at
the path of its settings; neither looks at anything else outside.
-/

namespace CreationCommit.CommandLine

/-- What a request needs from outside before its output is known. -/
inductive Run
  | done (output : Output)
  | storeDefaults (path : String)
  | rehearse (path : Option String) (shape : GroupShape)
deriving DecidableEq, Repr

def printed (texts : List String) : Output where
  code := 0
  stdout := texts
  stderr := []

/-- The run of a request; storing the default settings comes before all else. -/
def Run.ofRequest : Request → Run
  | .help => done (printed helpText)
  | .version => done (printed [versionText])
  | .unknownArgument argument =>
      done
        { code := 1
          stdout := helpText
          stderr := [s!"Unknown argument: {argument}"] }
  | .missingValue flag =>
      let chain : ErrorChain :=
        { text := s!"{flag} requires a value", causes := [] }
      done (chain.output [])
  | .invalidNumber flag value error =>
      let chain : ErrorChain :=
        { text :=
            s!"{flag}: invalid number " ++ Text.quote value
          causes := [error.message] }
      done (chain.output [])
  | .rehearse arguments =>
      match arguments.defaultsPath with
      | some path => storeDefaults path
      | none => rehearse arguments.settingsPath arguments.shape

/-- The output after the default settings were stored, or could not be. -/
def storedDefaults (path : String) (stored : Bool) : Output :=
  if stored then
    printed
      ["Generated default configuration at " ++ Text.quote path]
  else
    (ErrorChain.ofSettingsError .unreachable).output []

/-- The settings of a rehearsal, or the error that ends the run. -/
def settingsFor (path : Option (String × Found)) (environment : Environment) :
    Except ErrorChain Settings :=
  match path with
  | some (path, found) =>
      (Settings.loadFileWithEnvironment path found environment).mapError
        fun error => (ErrorChain.ofSettingsError error).within
          ("Failed to load configuration from " ++
            Text.quote path)
  | none =>
      (Settings.loadDefault environment).mapError fun error =>
        (ErrorChain.ofSettingsError error).within
          "Invalid environment override"

def rehearseUnder (settings : Settings) (shape : GroupShape) :
    Except ErrorChain Rehearsal :=
  (Rehearsal.run shape settings.transaction).mapError fun error =>
    ErrorChain.ofProblem (.settings error)

def rehearse (path : Option (String × Found)) (environment : Environment)
    (shape : GroupShape) : Except ErrorChain Rehearsal := do
  rehearseUnder (← settingsFor path environment) shape

/-- The output of a rehearsal that took some milliseconds. -/
def rehearsed (rehearsal : Rehearsal) (elapsed : String) : Output :=
  let lines := report rehearsal elapsed
  match rehearsal.ensureCommitted with
  | .ok _ => printed lines
  | .error problem =>
      ((ErrorChain.ofProblem problem).within
        "Simulated creation did not commit").output lines

/-- The output of a rehearsal or of the error that prevented it. -/
def outputOf (result : Except ErrorChain Rehearsal) (elapsed : String) :
    Output :=
  match result with
  | .ok rehearsal => rehearsed rehearsal elapsed
  | .error chain => chain.output []

end CreationCommit.CommandLine
