import CreationCommit.Failure
import CreationCommit.Phase

/-!
# The tally of a creation

A tally says where one creation stands: its phase, the peers whose votes are
outstanding, those that acknowledged, in the order of their votes, and those
that failed, each with its first failure.  An operation that does not apply in
the current phase changes nothing, and no operation undoes a decision.
An operation that may be refused answers whether it took effect.
-/

namespace CreationCommit

/-- Where one creation stands. -/
structure Tally where
  objectId : ObjectId
  phase : Phase
  outstanding : PeerSet
  failures : PeerMap Failure
  acknowledged : List PeerId
  lateRefusals : List LateRefusal
  abortReport : Option AbortReport
  deadline : Option Instant
  activated : Bool
  finalized : Bool
deriving DecidableEq

namespace Tally

def start (objectId : ObjectId) : Tally where
  objectId := objectId
  phase := .active
  outstanding := ∅
  failures := ∅
  acknowledged := []
  lateRefusals := []
  abortReport := none
  deadline := none
  activated := false
  finalized := false

def isDecided (tally : Tally) : Bool :=
  tally.phase.isDecided

/-- The peers an abort must reach: those that acknowledged, in the order of
their votes, then the outstanding ones in the order of their names. -/
def abortAudience (tally : Tally) : List PeerId :=
  tally.acknowledged ++ tally.outstanding.toList

/-- Activate the party; the answer tells whether this was the first time. -/
def activateOnce (tally : Tally) : Tally × Bool :=
  ({ tally with activated := true }, !tally.activated)

/-- Finalize a decided creation; the answer tells whether this was the first
time. -/
def finalizeOnce (tally : Tally) : Tally × Bool :=
  if tally.isDecided && !tally.finalized then
    ({ tally with finalized := true }, true)
  else
    (tally, false)

/-- Admit peers that are not yet outstanding, and list them in order. -/
def enlistAll (outstanding : PeerSet) : List PeerId → PeerSet × List PeerId
  | [] => (outstanding, [])
  | peer :: rest =>
      if peer ∈ outstanding then
        enlistAll outstanding rest
      else
        let (outstanding, admitted) := enlistAll (outstanding.insert peer) rest
        (outstanding, peer :: admitted)

/-- Open the voting with the peers of a list, without the local peer, and list
the peers admitted. -/
def openVoting (tally : Tally) (peers : List PeerId) (localPeer : PeerId) :
    Tally × List PeerId :=
  if tally.phase = .active then
    let (outstanding, admitted) :=
      enlistAll tally.outstanding (peers.filter (· ≠ localPeer))
    ({ tally with phase := .voting, outstanding }, admitted)
  else
    (tally, [])

/-- Admit a peer that joined while the voting was open. -/
def enlist (tally : Tally) (peer : PeerId) : Tally × Bool :=
  if tally.phase = .voting ∧ peer ∉ tally.failures ∧
      peer ∉ tally.acknowledged then
    ({ tally with outstanding := tally.outstanding.insert peer },
      peer ∉ tally.outstanding)
  else
    (tally, false)

/-- Record the yes of an outstanding peer. -/
def noteYes (tally : Tally) (peer : PeerId) : Tally × Bool :=
  if tally.phase = .voting ∧ peer ∈ tally.outstanding then
    ({ tally with
        outstanding := tally.outstanding.erase peer
        acknowledged := tally.acknowledged ++ [peer] }, true)
  else
    (tally, false)

/-- Record the first failure of a peer that is outstanding or acknowledged. -/
def noteFailure (tally : Tally) (peer : PeerId) (failure : Failure) :
    Tally × Bool :=
  if tally.phase = .voting ∧ peer ∉ tally.failures ∧
      (peer ∈ tally.outstanding ∨ peer ∈ tally.acknowledged) then
    ({ tally with
        outstanding := tally.outstanding.erase peer
        acknowledged := tally.acknowledged.erase peer
        failures := tally.failures.insert peer failure }, true)
  else
    (tally, false)

/-- Abort for `cause`, unless the creation is decided, and report the peers
outstanding and failed. -/
def abort (tally : Tally) (cause : AbortCause) : Tally :=
  if tally.isDecided then
    tally
  else
    { tally with
      phase := .aborted
      abortReport := some
        { objectId := tally.objectId
          cause
          outstanding := tally.outstanding
          failures := tally.failures } }

/-- Decide an open voting as soon as possible: abort when more than
`threshold` peers failed, or else commit when no vote is outstanding.  The
answer is the decision made. -/
def resolve (tally : Tally) (threshold : Nat) : Tally × Option Phase :=
  if tally.phase = .voting then
    if threshold < tally.failures.size then
      (tally.abort (.tooManyFailures tally.failures.size threshold),
        some .aborted)
    else if tally.outstanding.isEmpty then
      ({ tally with phase := .committed }, some .committed)
    else
      (tally, none)
  else
    (tally, none)

/-- Abort because the time limit passed, unless the creation is decided. -/
def timeOut (tally : Tally) (limit : Duration) : Tally × Bool :=
  (tally.abort (.timedOut limit), !tally.isDecided)

/-- Commit without a vote. -/
def commitAlone (tally : Tally) : Tally × Bool :=
  if tally.phase = .active then
    ({ tally with phase := .committed }, true)
  else
    (tally, false)

/-- Prepare the replica once its yes was accepted. -/
def prepare (tally : Tally) : Tally × Bool :=
  if tally.phase = .active then
    ({ tally with phase := .prepared }, true)
  else
    (tally, false)

def commitIfPrepared (tally : Tally) : Tally × Bool :=
  if tally.phase = .prepared then
    ({ tally with phase := .committed }, true)
  else
    (tally, false)

/-- Keep a refusal that arrived after the commit. -/
def noteLateRefusal (tally : Tally) (late : LateRefusal) : Tally :=
  { tally with lateRefusals := tally.lateRefusals ++ [late] }

/-- Fix the deadline at `limit` from now, unless it is fixed already. -/
def fixDeadline (tally : Tally) (now : Instant) (limit : Duration) :
    Tally × Instant :=
  let deadline := tally.deadline.getD (now.after limit)
  ({ tally with deadline := some deadline }, deadline)

end Tally

end CreationCommit
