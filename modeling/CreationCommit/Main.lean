import CreationCommit.CommandLine.Run

/-!
# The program

The program reads its command line, the files it names and the environment,
runs, waits as long as the rehearsal lasted on its clock, and prints.
-/

namespace CreationCommit

/-- The number of the error that a path leads through something else than a
folder, which is given with either sign. -/
def notFolderCode : UInt32 :=
  20

/-- What a failed attempt to read a file says about its path. -/
def foundAfter : IO.Error → Found
  | .noFileOrDirectory _ _ _ => .nothing
  | .invalidArgument _ _ _ => .nothing
  | .inappropriateType _ code _ =>
      if code = notFolderCode ∨ code = - notFolderCode then .nothing
      else .folder
  | _ => .folder

def findPath (path : String) : IO Found := do
  match ← (IO.FS.readBinFile path).toBaseIO with
  | .ok content => return .file content
  | .error error => return foundAfter error

def writePath (path : String) (content : ByteArray) : IO Bool := do
  try
    IO.FS.writeBinFile path content
    return true
  catch _ =>
    return false

def readEnvironment : IO Environment := do
  let mut held : List (String × String) := []
  for name in [Settings.timeoutVariable, Settings.thresholdVariable,
      Settings.sendTimeoutVariable, Settings.levelVariable] do
    if let some value ← IO.getEnv name then
      held := (name, value) :: held
  let entries := held
  return fun name => entries.lookup name

/-- A number of nanoseconds as milliseconds with two decimals. -/
def millisText (nanos : Nat) : String :=
  let hundredths := (nanos + 5000) / 10000
  let rest := hundredths % 100
  s!"{hundredths / 100}.{rest / 10}{rest % 10}"

def waitFor (result : Except CommandLine.ErrorChain Rehearsal) : IO Unit :=
  match result with
  | .ok rehearsal => IO.sleep (UInt32.ofNat rehearsal.now.millis)
  | .error _ => return

def printOutput (output : CommandLine.Output) : IO UInt32 := do
  for text in output.stdout do
    IO.println text
  for text in output.stderr do
    IO.eprintln text
  return output.code.toUInt32

def carryOut : CommandLine.Run → IO CommandLine.Output
  | .done output => return output
  | .storeDefaults path => do
      let stored ← writePath path Settings.defaultContent
      return CommandLine.storedDefaults path stored
  | .rehearse path shape => do
      let environment ← readEnvironment
      let found ← path.mapM fun path => do return (path, ← findPath path)
      let start ← IO.monoNanosNow
      let result := CommandLine.rehearse found environment shape
      waitFor result
      let elapsed := (← IO.monoNanosNow) - start
      return CommandLine.outputOf result (millisText elapsed)

end CreationCommit

open CreationCommit in
def main (arguments : List String) : IO UInt32 := do
  printOutput (← carryOut (.ofRequest (.parse arguments)))
