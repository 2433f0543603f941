import CreationCommit.Action
import CreationCommit.Party.Conduct

/-!
# A party that does one thing at a time

A station is a party with its carrier, its group and a clock.  It deals with
one event or one wait at a time and carries out every duty to its end before it
turns to the next, so the clock moves only while a send or a wait lasts.  What
it attempted to send and what it reported to the local object is kept.

A wait may be given up at a bound: it is then left where it stands, and a
decision that falls on the bound still counts.
-/

namespace CreationCommit

/-- A party at work, with its surroundings. -/
structure Station where
  party : Party
  carrier : Carrier
  group : Group
  now : Instant
  attempts : List Letter
  callbacks : List Decision

namespace Station

def start (setup : Setup) (carrier : Carrier) (group : Group) : Station where
  party := .start setup
  carrier := carrier
  group := group
  now := 0
  attempts := []
  callbacks := []

def report (station : Station) (decision : Decision) : Station :=
  { station with callbacks := station.callbacks ++ [decision] }

def send (station : Station) (letter : Letter) :
    Station × Except DeliveryError Unit :=
  let (carrier, result, now) := station.carrier.send station.now letter
    (some station.party.setup.settings.sendTimeout)
  ({ station with
      carrier, now, attempts := station.attempts ++ [letter] }, result)

/-- The instant at which a send that begins now would end. -/
def sendEnd (station : Station) : Instant :=
  station.now.after
    (station.carrier.passage
      (some station.party.setup.settings.sendTimeout)).duration

def close (station : Station) : Closing → Station
  | .notify decision peer =>
      (station.send (station.party.noticeFor decision peer)).1
  | .report decision => station.report decision

/-- Carry out closing duties, one after the other. -/
def closeAll (station : Station) (closings : List Closing) : Station :=
  closings.foldl close station

def abandonSend (station : Station) (letter : Letter) (bound : Instant) :
    Station :=
  { station with
    now := bound
    attempts := station.attempts ++ [letter] }

/-- Carry out closing duties, but give up at the first send that would end
after `bound`; the answer tells whether all were carried out. -/
def closeUntil (bound : Instant) : Station → List Closing → Station × Bool
  | station, [] => (station, true)
  | station, .report decision :: rest =>
      closeUntil bound (station.report decision) rest
  | station, .notify decision peer :: rest =>
      if station.sendEnd ≤ bound then
        closeUntil bound (station.close (.notify decision peer)) rest
      else
        (station.abandonSend (station.party.noticeFor decision peer) bound,
          false)

/-- Carry out one opening duty and what follows from its result. -/
def perform (station : Station) (opening : Opening) : Station :=
  match station.party.compose opening with
  | (party, none) => { station with party }
  | (party, some letter) =>
      let (station, result) := { station with party }.send letter
      let (party, closings) := station.party.noteResult opening result
      { station with party }.closeAll closings

/-- Vote, whatever the tally says, and answer the number of the vote; a
primary has nobody to vote to and answers nothing. -/
def vote (station : Station) (refusal : Option String) :
    Station × Option (Except DeliveryError Int64) :=
  match station.party.castVote refusal with
  | (party, none) => ({ station with party }, none)
  | (party, some letter) =>
      let number := station.party.numbering.next
      let (station, result) := { station with party }.send letter
      (station, some (result.map fun _ => number))

def discharge (station : Station) : Duty → Station
  | .opening opening => station.perform opening
  | .closing closing => station.close closing

/-- Take the party after a look at its tally, and carry out its duties. -/
def follow (station : Station) (result : Party × List Duty) : Station :=
  result.2.foldl discharge { station with party := result.1 }

def handle (station : Station) (event : Event) : Station :=
  station.follow (station.party.handle event station.group.view)

/-- Begin the creation on the primary with a view of the group. -/
def lead (station : Station) (view : GroupView) : Station :=
  station.follow (Party.opened (station.party.lead view))

def enroll (station : Station) (refusal : Option String) : Station :=
  station.follow (Party.opened (station.party.enroll refusal))

def pass (station : Station) (duration : Duration) : Station :=
  { station with now := station.now.after duration }

/-- Carry out what follows a decision, and answer it unless the bound came
first. -/
def concludeWait (station : Station) (bound : Instant)
    (closings : List Closing) (outcome : Outcome) : Station × Option Outcome :=
  let (station, finished) := station.closeUntil bound closings
  (station, if finished then some outcome else none)

/-- Look for a decision at a deadline that may have come. -/
def awaitDeadline (station : Station) (bound deadline : Instant) :
    Station × Option Outcome :=
  if deadline ≤ bound then
    let (party, finding) := station.party.examine deadline
    let station := { station with party, now := deadline }
    match finding with
    | .decided closings outcome =>
        station.concludeWait bound closings outcome
    | .pending _ => ({ station with now := bound }, none)
  else
    ({ station with now := bound }, none)

/-- Wait for the decision, at most for `limit`; no answer means that the wait
was given up. -/
def await (station : Station) (limit : Duration) : Station × Option Outcome :=
  let bound := station.now.after limit
  let (party, finding) := station.party.examine station.now
  let station := { station with party }
  match finding with
  | .decided closings outcome => station.concludeWait bound closings outcome
  | .pending (some deadline) => station.awaitDeadline bound deadline
  | .pending none => ({ station with now := bound }, none)

/-- Do something to the party and let it finish with that. -/
def act (station : Station) : Action → Station × Answer
  | .event event => (station.handle event, .silent)
  | .lead view => (station.lead view, .silent)
  | .enroll refusal => (station.enroll refusal, .silent)
  | .await limit =>
      let (station, outcome) := station.await limit
      (station, .ofOutcome outcome)
  | .pause duration => (station.pass duration, .silent)
  | .setDelay delay =>
      ({ station with carrier := station.carrier.setDelay delay }, .silent)
  | .refuse refusal =>
      ({ station with carrier := station.carrier.refuse refusal }, .silent)
  | .closeCarrier =>
      ({ station with carrier := station.carrier.close }, .silent)
  | .group change =>
      let (group, changed) := station.group.change change
      ({ station with group }, .ofChange changed)
  | .look => (station, .silent)

end Station

end CreationCommit
