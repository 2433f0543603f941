import CreationCommit.Party.Conduct

/-!
# Calls on a party that overlap

A session is a party with the calls that were started on it.  A call owes a
list of tasks and does the first of them when its turn comes; which call has
the next turn, how each send ends and what the clock shows is left open, so
every way in which calls may overlap is a list of moves.

A send has two moves: it begins, and later it ends with a result.  To wait, a
call first notes how many changes were announced, then looks for the decision,
and sleeps as long as nothing more is announced and the deadline is not
reached.  The session keeps what it attempted to send and what it reported to
the local object.
-/

namespace CreationCommit

/-- What a call still has to do. -/
inductive Task
  | duty (duty : Duty)
  | watch
  | examine (seen : Nat)
  | sleep (seen : Nat) (deadline : Option Instant)
  | answer (outcome : Outcome)
deriving DecidableEq

/-- What a call is asked for. -/
inductive Command
  | handle (event : Event) (view : GroupView)
  | lead (view : GroupView)
  | enroll (refusal : Option String)
  | await
deriving DecidableEq, Repr

/-- A call: its tasks, the letter it is sending, and the outcome it answered. -/
structure Call where
  agenda : List Task
  sending : Option Letter
  outcome : Option Outcome
deriving DecidableEq

namespace Call

def ofTasks (agenda : List Task) : Call where
  agenda := agenda
  sending := none
  outcome := none

def hasReturned (call : Call) : Bool :=
  call.agenda.isEmpty

end Call

/-- A party with the calls on it, and what came of them. -/
structure Session where
  party : Party
  calls : List Call
  attempts : List Letter
  callbacks : List Decision

/-- One step of a session. -/
inductive Move
  | start (command : Command)
  | begin (call : Nat)
  | finish (call : Nat) (result : Except DeliveryError Unit)
  | proceed (call : Nat) (now : Instant)
  | abandon (call : Nat)

namespace Session

def start (setup : Setup) : Session where
  party := .start setup
  calls := []
  attempts := []
  callbacks := []

/-- The tasks of duties. -/
def tasksOf (duties : List Duty) : List Task :=
  duties.map .duty

/-- The tasks of closing duties. -/
def closingTasks (closings : List Closing) : List Task :=
  closings.map fun closing => .duty (.closing closing)

/-- What a command does at once, and the tasks it leaves. -/
def accept (party : Party) : Command → Party × List Task
  | .handle event view =>
      let (party, duties) := party.handle event view
      (party, tasksOf duties)
  | .lead view =>
      let (party, openings) := party.lead view
      (party, tasksOf (openings.map .opening))
  | .enroll refusal =>
      let (party, openings) := party.enroll refusal
      (party, tasksOf (openings.map .opening))
  | .await => (party, [.watch])

/-- Start a call, which comes after all others. -/
def launch (session : Session) (command : Command) : Session :=
  let (party, agenda) := accept session.party command
  { session with party, calls := session.calls ++ [.ofTasks agenda] }

def setCall (session : Session) (index : Nat) (call : Call) : Session :=
  { session with calls := session.calls.set index call }

def compose (party : Party) : Duty → Party × Option Letter
  | .opening opening => party.compose opening
  | .closing (.notify decision peer) =>
      (party, some (party.noticeFor decision peer))
  | .closing (.report _) => (party, none)

/-- Begin the send that a call owes first. -/
def begin? (session : Session) (index : Nat) : Option Session :=
  match session.calls[index]? with
  | some ⟨.duty duty :: rest, none, outcome⟩ =>
      match compose session.party duty with
      | (_, none) => none
      | (party, some letter) =>
          some { session.setCall index ⟨.duty duty :: rest, some letter, outcome⟩
            with party, attempts := session.attempts ++ [letter] }
  | _ => none

/-- End the send of a call; what follows from the result comes first then. -/
def finish? (session : Session) (index : Nat)
    (result : Except DeliveryError Unit) : Option Session :=
  match session.calls[index]? with
  | some ⟨.duty (.opening opening) :: rest, some _, outcome⟩ =>
      let (party, closings) := session.party.noteResult opening result
      some { session.setCall index ⟨closingTasks closings ++ rest, none, outcome⟩
        with party }
  | some ⟨.duty (.closing _) :: rest, some _, outcome⟩ =>
      some (session.setCall index ⟨rest, none, outcome⟩)
  | _ => none

/-- Whether a sleeping call is to wake up. -/
def isAwake (party : Party) (now : Instant) (seen : Nat)
    (deadline : Option Instant) : Bool :=
  seen < party.announcements || deadline.any (· ≤ now)

/-- Look for the decision on behalf of a call that has other tasks left. -/
def examine (session : Session) (index : Nat) (now : Instant) (seen : Nat)
    (rest : List Task) : Session :=
  let (party, finding) := session.party.examine now
  let agenda := match finding with
    | .pending deadline => .sleep seen deadline :: rest
    | .decided closings outcome =>
        closingTasks closings ++ .answer outcome :: rest
  { session.setCall index (.ofTasks agenda) with party }

/-- Let a call do its first task, if that is no send. -/
def proceed? (session : Session) (index : Nat) (now : Instant) :
    Option Session :=
  match session.calls[index]? with
  | some ⟨.duty (.closing (.report decision)) :: rest, none, outcome⟩ =>
      some { session.setCall index ⟨rest, none, outcome⟩
        with callbacks := session.callbacks ++ [decision] }
  | some ⟨.watch :: rest, none, outcome⟩ =>
      let seen := session.party.announcements
      some (session.setCall index ⟨.examine seen :: rest, none, outcome⟩)
  | some ⟨.examine seen :: rest, none, _⟩ =>
      some (session.examine index now seen rest)
  | some ⟨.sleep seen deadline :: rest, none, outcome⟩ =>
      if isAwake session.party now seen deadline then
        some (session.setCall index ⟨.watch :: rest, none, outcome⟩)
      else
        none
  | some ⟨.answer outcome :: rest, none, _⟩ =>
      some (session.setCall index ⟨rest, none, some outcome⟩)
  | _ => none

/-- Give up a call where it stands. -/
def abandon? (session : Session) (index : Nat) : Option Session :=
  match session.calls[index]? with
  | some call => some (session.setCall index ⟨[], none, call.outcome⟩)
  | none => none

def move? (session : Session) : Move → Option Session
  | .start command => some (session.launch command)
  | .begin index => session.begin? index
  | .finish index result => session.finish? index result
  | .proceed index now => session.proceed? index now
  | .abandon index => session.abandon? index

/-- Make moves one after the other, if all are possible. -/
def run? (session : Session) (moves : List Move) : Option Session :=
  moves.foldlM move? session

/-- Whether every call has returned. -/
def isIdle (session : Session) : Bool :=
  session.calls.all Call.hasReturned

end Session

end CreationCommit
