import CreationCommit.Identity

/-!
# Messages between peers and events of a party

The primary asks a peer to create its replica, the peer votes, and the primary
tells it the decision.  What a party reacts to is an event: its own
activation, a change of the group, or a vote or notice that reached it.
-/

namespace CreationCommit

/-- The two decisions about a creation. -/
inductive Decision
  | commit
  | abort
deriving DecidableEq, Repr

/-- The request that a peer create its replica of an object. -/
structure CreationRequest where
  sender : PeerId
  objectId : ObjectId
  payload : List UInt8
deriving DecidableEq, Repr

/-- A peer's vote, a yes unless it carries the cause of a refusal. -/
structure Vote where
  voter : PeerId
  objectId : ObjectId
  sequence : Int64
  refusal : Option String
deriving DecidableEq, Repr

def Vote.isYes (vote : Vote) : Bool :=
  vote.refusal.isNone

/-- What one peer may send to another. -/
inductive Message
  | request (request : CreationRequest)
  | vote (vote : Vote)
  | notice (decision : Decision) (objectId : ObjectId)
deriving DecidableEq, Repr

/-- The four kinds of message. -/
inductive MessageKind
  | request
  | vote
  | notice (decision : Decision)
deriving DecidableEq, Repr

namespace MessageKind

def name : MessageKind → String
  | request => "create_request"
  | vote => "create_response"
  | notice .commit => "commit_notice"
  | notice .abort => "abort_notice"

def ofName? : String → Option MessageKind
  | "create_request" => some request
  | "create_response" => some vote
  | "commit_notice" => some (notice .commit)
  | "abort_notice" => some (notice .abort)
  | _ => none

theorem ofName?_name (kind : MessageKind) : ofName? kind.name = some kind := by
  rcases kind with _ | _ | (_ | _) <;> rfl

end MessageKind

/-- What a party reacts to. -/
inductive Event
  | activated
  | memberJoined (peer : PeerId)
  | voteReceived (vote : Vote)
  | memberDeparted (peer : PeerId)
  | noticeReceived (decision : Decision) (objectId : ObjectId)
deriving DecidableEq, Repr

def Event.kindName : Event → String
  | activated => "activated"
  | memberJoined _ => "member_joined"
  | voteReceived _ => "create_response"
  | memberDeparted _ => "member_departed"
  | noticeReceived .commit _ => "commit_received"
  | noticeReceived .abort _ => "abort_received"

namespace Message

def kind : Message → MessageKind
  | .request _ => .request
  | .vote _ => .vote
  | .notice decision _ => .notice decision

def objectId : Message → ObjectId
  | .request ask => ask.objectId
  | .vote ballot => ballot.objectId
  | .notice _ objectId => objectId

/-- The event of a message's arrival; a request first creates the party that
will react, so it is no event. -/
def event? : Message → Option Event
  | .request _ => none
  | .vote ballot => some (.voteReceived ballot)
  | .notice decision objectId => some (.noticeReceived decision objectId)

end Message

end CreationCommit
