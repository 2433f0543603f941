import CreationCommit.Delivery
import CreationCommit.Membership
import CreationCommit.Numbering
import CreationCommit.Settings.Basic
import CreationCommit.Tally

/-!
# Parties to a creation

The primary decides whether an object is created and every replica answers the
primary.  A party is its setup, which never changes, together with its tally,
the numbering of its votes and the count of changes it has announced to those
who wait for its decision.

What a party has to do outside its tally is a duty.  An opening duty sends a
message that may still change the tally; a closing duty follows a decision and
changes it no more.
-/

namespace CreationCommit

/-- Whether a party decides the creation or answers the peer that does. -/
inductive Role
  | primary
  | replica (home : PeerId)
deriving DecidableEq, Repr

def Role.name : Role → String
  | primary => "primary"
  | replica _ => "replica"

/-- What is fixed about a party. -/
structure Setup where
  objectId : ObjectId
  localPeer : PeerId
  role : Role
  payload : List UInt8
  settings : TransactionSettings
  selection : Selection

namespace Setup

/-- The primary of a creation under the default settings. -/
def primary (objectId : ObjectId) (localPeer : PeerId) : Setup where
  objectId := objectId
  localPeer := localPeer
  role := .primary
  payload := []
  settings := .default
  selection := .everyone

/-- A replica under the default settings that answers the peer `home`. -/
def replica (objectId : ObjectId) (localPeer home : PeerId) : Setup where
  objectId := objectId
  localPeer := localPeer
  role := .replica home
  payload := []
  settings := .default
  selection := .everyone

end Setup

/-- How a wait for the decision ends. -/
inductive Outcome
  | committed
  | aborted (report : AbortReport)
deriving DecidableEq

/-- A send whose result the tally still awaits. -/
inductive Opening
  | request (peer : PeerId)
  | vote (refusal : Option String)
deriving DecidableEq, Repr

/-- A consequence of a decision: a notice to a peer, or the report to the
local object. -/
inductive Closing
  | notify (decision : Decision) (peer : PeerId)
  | report (decision : Decision)
deriving DecidableEq, Repr

/-- What a party has to do outside its tally. -/
inductive Duty
  | opening (opening : Opening)
  | closing (closing : Closing)
deriving DecidableEq, Repr

/-- A party to a creation. -/
structure Party where
  setup : Setup
  tally : Tally
  numbering : Numbering
  announcements : Nat

namespace Party

def start (setup : Setup) : Party where
  setup := setup
  tally := .start setup.objectId
  numbering := .start
  announcements := 0

/-- Whether the party decides the creation. -/
def isPrimary (party : Party) : Bool :=
  party.setup.role = .primary

/-- Tell everyone who waits that the tally may have changed. -/
def announce (party : Party) : Party :=
  { party with announcements := party.announcements + 1 }

def requestFor (party : Party) (peer : PeerId) : Letter where
  recipient := peer
  message := .request
    { sender := party.setup.localPeer
      objectId := party.setup.objectId
      payload := party.setup.payload }

/-- The notice of a decision for a peer. -/
def noticeFor (party : Party) (decision : Decision) (peer : PeerId) :
    Letter where
  recipient := peer
  message := .notice decision party.setup.objectId

/-- Number a vote and address it to the primary; a primary itself has nobody
to vote to. -/
def castVote (party : Party) (refusal : Option String) :
    Party × Option Letter :=
  match party.setup.role with
  | .primary => (party, none)
  | .replica home =>
      ({ party with numbering := party.numbering.advance },
        some
          { recipient := home
            message := .vote
              { voter := party.setup.localPeer
                objectId := party.setup.objectId
                sequence := party.numbering.next
                refusal } })

def compose (party : Party) : Opening → Party × Option Letter
  | .request peer => (party, some (party.requestFor peer))
  | .vote refusal => party.castVote refusal

end Party

end CreationCommit
