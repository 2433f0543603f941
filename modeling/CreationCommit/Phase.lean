/-!
# Phases of a creation

A creation is active until it is decided.  On the primary it may pass through
voting, on a replica through prepared; committed and aborted are final.
-/

namespace CreationCommit

/-- How far a party has come with a creation. -/
inductive Phase
  | active
  | voting
  | prepared
  | committed
  | aborted
deriving DecidableEq, Repr

namespace Phase

def name : Phase → String
  | active => "active"
  | voting => "voting"
  | prepared => "prepared"
  | committed => "committed"
  | aborted => "aborted"

def isDecided : Phase → Bool
  | committed => true
  | aborted => true
  | _ => false

end Phase

end CreationCommit
