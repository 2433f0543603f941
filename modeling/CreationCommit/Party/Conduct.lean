import CreationCommit.Party.Basic

/-!
# The conduct of a party

Each definition here is one undivided look at the tally: it changes the tally,
announces the change, and leaves the duties that follow from it.  Between two
such looks, and while a duty is carried out, other looks may happen.

An event that does not concern the party's role, its object or the current
phase leaves no duty.  Whoever first finds the creation decided finalizes it,
so that the local object is told once.
-/

namespace CreationCommit

namespace Party

/-- The notices of a decision to some peers, then the report of it. -/
def broadcast (decision : Decision) (peers : List PeerId) : List Closing :=
  peers.map (.notify decision) ++ [.report decision]

/-- The peers that the party tells about an abort: a replica tells nobody. -/
def teardownAudience (party : Party) : List PeerId :=
  match party.setup.role with
  | .primary => party.tally.abortAudience
  | .replica _ => []

/-- Tear an aborted creation down, unless that was done before. -/
def settle (party : Party) : Party × List Closing :=
  if party.tally.phase = .aborted then
    let (tally, first) := party.tally.finalizeOnce
    ({ party with tally },
      if first then broadcast .abort party.teardownAudience else [])
  else
    (party, [])

/-- End a look at the tally: tear down what is aborted and announce the
change. -/
def conclude (party : Party) : Party × List Closing :=
  let (party, closings) := party.settle
  (party.announce, closings)

/-- Decide the creation, if the votes allow it under the party's threshold. -/
def resolve (party : Party) : Party :=
  { party with
    tally := (party.tally.resolve party.setup.settings.threshold).1 }

/-- Begin the creation on the primary: commit alone without a group, or else
open the voting with the selected members and ask each of them. -/
def lead (party : Party) (view : GroupView) : Party × List Opening :=
  if party.isPrimary then
    let (tally, first) := party.tally.activateOnce
    if first then
      match view with
      | .disconnected =>
          ({ party with tally := tally.commitAlone.1 }.announce, [])
      | .connected members =>
          let (tally, admitted) :=
            tally.openVoting (party.setup.selection.choose members)
              party.setup.localPeer
          ({ party with tally }.resolve.announce, admitted.map .request)
    else
      (party, [])
  else
    (party, [])

/-- Begin the creation on a replica: vote once, for or against it. -/
def enroll (party : Party) (refusal : Option String) : Party × List Opening :=
  if party.isPrimary then
    (party, [])
  else
    let (tally, first) := party.tally.activateOnce
    ({ party with tally }, if first then [.vote refusal] else [])

def welcome (party : Party) (peer : PeerId) : Party × List Opening :=
  if party.isPrimary ∧ peer ≠ party.setup.localPeer then
    let (tally, admitted) := party.tally.enlist peer
    if admitted then ({ party with tally }.announce, [.request peer])
    else (party, [])
  else
    (party, [])

/-- Record a failure of a peer and decide the creation if it allows that. -/
def noteFailure (party : Party) (peer : PeerId) (failure : Failure) :
    Party × List Closing :=
  let (tally, recorded) := party.tally.noteFailure peer failure
  if recorded then { party with tally }.resolve.conclude
  else party.conclude

def dismiss (party : Party) (peer : PeerId) : Party × List Closing :=
  if party.isPrimary then party.noteFailure peer .departed
  else (party, [])

/-- What a vote does to the tally of the primary, and the notice it deserves
when it comes after the decision: a late yes is told the commit, and an abort
unless the broadcast of the abort reached the voter already. -/
def weigh (party : Party) (vote : Vote) : Party × List Closing :=
  match party.tally.phase, vote.refusal with
  | .voting, none =>
      ({ party with tally := (party.tally.noteYes vote.voter).1 }.resolve,
        [])
  | .voting, some cause =>
      ({ party with
          tally := (party.tally.noteFailure vote.voter
            (.refused cause)).1 }.resolve, [])
  | .committed, none => (party, [.notify .commit vote.voter])
  | .committed, some cause =>
      ({ party with
          tally := party.tally.noteLateRefusal
            { objectId := party.setup.objectId
              voter := vote.voter
              sequence := vote.sequence
              cause } }, [])
  | .aborted, none =>
      (party,
        if vote.voter ∈ party.tally.abortAudience then []
        else [.notify .abort vote.voter])
  | _, _ => (party, [])

def hearVote (party : Party) (vote : Vote) : Party × List Closing :=
  if party.isPrimary ∧ vote.objectId = party.setup.objectId then
    let (party, notices) := party.weigh vote
    let (party, closings) := party.conclude
    (party, closings ++ notices)
  else
    (party, [])

/-- Commit the prepared replica because the primary said so. -/
def obeyCommit (party : Party) : Party × List Closing :=
  let (tally, committed) := party.tally.commitIfPrepared
  if committed then
    let (tally, first) := tally.finalizeOnce
    ({ party with tally }.announce, if first then [.report .commit] else [])
  else
    (party.announce, [])

/-- Abort the replica because the primary said so; a replica that is not yet
activated never votes then. -/
def obeyAbort (party : Party) : Party × List Closing :=
  { party with
    tally := party.tally.activateOnce.1.abort .toldByPrimary }.conclude

def hearNotice (party : Party) (decision : Decision) (objectId : ObjectId) :
    Party × List Closing :=
  if !party.isPrimary ∧ objectId = party.setup.objectId then
    match decision with
    | .commit => party.obeyCommit
    | .abort => party.obeyAbort
  else
    (party, [])

/-- The duties that only open. -/
def opened (result : Party × List Opening) : Party × List Duty :=
  (result.1, result.2.map .opening)

/-- The duties that only close. -/
def closed (result : Party × List Closing) : Party × List Duty :=
  (result.1, result.2.map .closing)

/-- Take an event, where the group is as `view` says. -/
def handle (party : Party) (event : Event) (view : GroupView) :
    Party × List Duty :=
  match event with
  | .activated =>
      if party.isPrimary then opened (party.lead view)
      else opened (party.enroll none)
  | .memberJoined peer => opened (party.welcome peer)
  | .voteReceived vote => closed (party.hearVote vote)
  | .memberDeparted peer => closed (party.dismiss peer)
  | .noticeReceived decision objectId =>
      closed (party.hearNotice decision objectId)

/-- What the result of an opening duty does to the tally: a request that was
not delivered fails its peer, and a vote prepares the replica only if it was a
yes that was accepted. -/
def noteResult (party : Party) (opening : Opening)
    (result : Except DeliveryError Unit) : Party × List Closing :=
  match opening, result with
  | .request _, .ok _ => (party, [])
  | .request peer, .error error =>
      party.noteFailure peer (.undelivered error)
  | .vote none, .ok _ =>
      { party with tally := party.tally.prepare.1 }.conclude
  | .vote (some cause), .ok _ =>
      { party with tally := party.tally.abort (.refusedLocally cause) }.conclude
  | .vote _, .error error =>
      { party with tally := party.tally.abort (.voteUndelivered error) }.conclude

/-- What someone who waits for the decision finds. -/
inductive Finding
  | pending (deadline : Option Instant)
  | decided (closings : List Closing) (outcome : Outcome)
deriving DecidableEq

/-- On the primary, decide what the votes allow, fix the deadline, and abort
when it has passed; a replica has no deadline. -/
def checkDeadline (party : Party) (now : Instant) : Party × Option Instant :=
  if party.isPrimary then
    let party := party.resolve
    let (tally, deadline) :=
      party.tally.fixDeadline now party.setup.settings.timeout
    let party := { party with tally }
    if deadline ≤ now then
      let (tally, expired) := party.tally.timeOut party.setup.settings.timeout
      let party := { party with tally }
      (if expired then party.announce else party, some deadline)
    else
      (party, some deadline)
  else
    (party, none)

/-- Look for a decision; whoever first finds a commit broadcasts it. -/
def examine (party : Party) (now : Instant) : Party × Finding :=
  let (party, deadline) := party.checkDeadline now
  match party.tally.phase, party.tally.abortReport with
  | .committed, _ =>
      let (tally, first) := party.tally.finalizeOnce
      ({ party with tally },
        .decided
          (if first then broadcast .commit party.tally.acknowledged else [])
          .committed)
  | .aborted, some report =>
      let (party, closings) := party.settle
      (party, .decided closings (.aborted report))
  | _, _ => (party, .pending deadline)

end Party

end CreationCommit
