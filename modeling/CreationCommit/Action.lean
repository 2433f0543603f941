import CreationCommit.Party.Basic

/-!
# Actions on a party

An action is something that is done to a party from outside: an event reaches
it, somebody waits for its decision, time passes, or its surroundings change.
Only waiting and changing the group have an answer.
-/

namespace CreationCommit

/-- What is done to a party. -/
inductive Action
  | event (event : Event)
  | lead (view : GroupView)
  | enroll (refusal : Option String)
  | await (limit : Duration)
  | pause (duration : Duration)
  | setDelay (delay : Duration)
  | refuse (refusal : Refusal)
  | closeCarrier
  | group (change : Group.Change)
  | look
deriving DecidableEq, Repr

/-- What an action answers; a wait without outcome was given up. -/
structure Answer where
  outcome : Option Outcome
  changed : Option Bool
deriving DecidableEq

namespace Answer

def silent : Answer where
  outcome := none
  changed := none

def ofOutcome (outcome : Option Outcome) : Answer where
  outcome := outcome
  changed := none

def ofChange (changed : Option Bool) : Answer where
  outcome := none
  changed := changed

end Answer

end CreationCommit
