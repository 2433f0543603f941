import CreationCommit.Decimal
import CreationCommit.Rehearsal

/-!
# Arguments of the command line

A flag is either a request of its own or takes the next argument as its value,
whatever that looks like.  Arguments are read from left to right; a value
replaces the one given before, and the first argument that is a request of its
own or cannot be read decides.
-/

namespace CreationCommit.CommandLine

/-- What the arguments ask for: where the settings come from, where the
default settings go, and the shape of the group. -/
structure Arguments where
  settingsPath : Option String
  defaultsPath : Option String
  shape : GroupShape
deriving DecidableEq, Repr

def Arguments.default : Arguments where
  settingsPath := none
  defaultsPath := none
  shape := .default

/-- What a flag gives a value to. -/
inductive Parameter
  | settingsPath
  | defaultsPath
  | replicas
  | failing
  | departing
  | silent
  | lateJoiners
deriving DecidableEq, Repr

def Parameter.ofFlag? : String → Option Parameter
  | "-c" => some settingsPath
  | "--config" => some settingsPath
  | "-g" => some defaultsPath
  | "--generate-config" => some defaultsPath
  | "-n" => some replicas
  | "--replicas" => some replicas
  | "--failing" => some failing
  | "--departing" => some departing
  | "--silent" => some silent
  | "--late-joiners" => some lateJoiners
  | _ => none

/-- What a command line comes to. -/
inductive Request
  | rehearse (arguments : Arguments)
  | help
  | version
  | unknownArgument (argument : String)
  | missingValue (flag : String)
  | invalidNumber (flag value : String) (error : DecimalError)
deriving DecidableEq, Repr

def readCount (value : String) : Except DecimalError Nat :=
  Decimal.read UInt64.size value.toList

def Arguments.give (arguments : Arguments) (parameter : Parameter)
    (value : String) : Except DecimalError Arguments :=
  match parameter with
  | .settingsPath => .ok { arguments with settingsPath := some value }
  | .defaultsPath => .ok { arguments with defaultsPath := some value }
  | .replicas => do
      return { arguments with shape.replicas := ← readCount value }
  | .failing => do
      return { arguments with shape.failing := ← readCount value }
  | .departing => do
      return { arguments with shape.departing := ← readCount value }
  | .silent => do
      return { arguments with shape.silent := ← readCount value }
  | .lateJoiners => do
      return { arguments with shape.lateJoiners := ← readCount value }

def Request.ofFlag : String → Request
  | "-h" => help
  | "--help" => help
  | "-v" => version
  | "--version" => version
  | argument => unknownArgument argument

def Request.parseFrom (arguments : Arguments) : List String → Request
  | [] => rehearse arguments
  | [flag] =>
      match Parameter.ofFlag? flag with
      | none => ofFlag flag
      | some _ => missingValue flag
  | flag :: value :: rest =>
      match Parameter.ofFlag? flag with
      | none => ofFlag flag
      | some parameter =>
          match arguments.give parameter value with
          | .ok arguments => parseFrom arguments rest
          | .error error => invalidNumber flag value error

def Request.parse (arguments : List String) : Request :=
  parseFrom .default arguments

end CreationCommit.CommandLine
