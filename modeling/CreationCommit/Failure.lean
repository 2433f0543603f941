import CreationCommit.Clock
import CreationCommit.PeerMap

/-!
# Failures and their wording

A message may fail to reach a peer, a peer may fail the creation, and the
creation as a whole may be aborted.  Each of these is a cause of its own, with
the text in which it is reported and whether the operation is worth another
attempt.
-/

namespace CreationCommit

/-- Why a message did not reach its recipient. -/
inductive DeliveryError
  | timedOut (recipient : PeerId) (millis : UInt64)
  | rejected (recipient : PeerId) (reason : String)
  | channelClosed (recipient : PeerId)
deriving DecidableEq, Repr

namespace DeliveryError

/-- The error of a delivery that was not complete within `limit`. -/
def ofTimeout (recipient : PeerId) (limit : Duration) : DeliveryError :=
  timedOut recipient limit.cappedMillis

def recipient : DeliveryError → PeerId
  | timedOut recipient _ => recipient
  | rejected recipient _ => recipient
  | channelClosed recipient => recipient

/-- Whether another attempt may succeed: never through a closed channel. -/
def isRecoverable : DeliveryError → Bool
  | timedOut _ _ => true
  | rejected _ _ => true
  | channelClosed _ => false

def message : DeliveryError → String
  | timedOut recipient millis =>
      s!"Send to {recipient.name} timed out after {millis.toNat}ms"
  | rejected recipient reason => s!"Send to {recipient.name} rejected: {reason}"
  | channelClosed recipient => s!"Delivery channel to {recipient.name} is closed"

end DeliveryError

/-- Why a peer that takes part counts as failed. -/
inductive Failure
  | departed
  | refused (cause : String)
  | undelivered (error : DeliveryError)
deriving DecidableEq, Repr

def Failure.message : Failure → String
  | departed => "peer left the group"
  | refused cause => s!"remote creation failed: {cause}"
  | undelivered error => s!"creation request not delivered: {error.message}"

/-- Why a creation was aborted. -/
inductive AbortCause
  | tooManyFailures (failed threshold : Nat)
  | timedOut (limit : Duration)
  | voteUndelivered (error : DeliveryError)
  | refusedLocally (cause : String)
  | toldByPrimary
deriving DecidableEq, Repr

def AbortCause.message : AbortCause → String
  | tooManyFailures failed threshold =>
      s!"{failed} participant(s) failed, threshold is {threshold}"
  | timedOut limit => s!"timed out after {limit.wholeMillis}ms"
  | voteUndelivered error => s!"acknowledgment failed: {error.message}"
  | refusedLocally cause => s!"rejected locally: {cause}"
  | toldByPrimary => "aborted by the coordinator"

/-- An abort as it stood when it was decided. -/
structure AbortReport where
  objectId : ObjectId
  cause : AbortCause
  outstanding : PeerSet
  failures : PeerMap Failure
deriving DecidableEq

namespace AbortReport

def isTimeout (report : AbortReport) : Bool :=
  match report.cause with
  | .timedOut _ => true
  | _ => false

/-- Whether the creation is worth another attempt: not once it was refused. -/
def isRecoverable (report : AbortReport) : Bool :=
  match report.cause with
  | .refusedLocally _ => false
  | _ => true

def message (report : AbortReport) : String :=
  s!"Creation of {report.objectId.name} aborted: {report.cause.message} " ++
    s!"({report.outstanding.size} outstanding, {report.failures.size} failed)"

end AbortReport

/-- A refusal that arrived after the commit was decided. -/
structure LateRefusal where
  objectId : ObjectId
  voter : PeerId
  sequence : Int64
  cause : String
deriving DecidableEq, Repr

def LateRefusal.message (late : LateRefusal) : String :=
  s!"Late failure from {late.voter.name} for {late.objectId.name} " ++
    s!"(sequence {late.sequence.toInt}): {late.cause}"

end CreationCommit
