import CreationCommit.Failure
import CreationCommit.Message.Basic

/-!
# Delivery of messages

A carrier takes letters from one peer.  The silent carrier accepts every
letter and keeps none; the recorder keeps what it accepts, takes its delay for
every letter and rejects what its refusals name; the channel queues envelopes
that several peers may write and one reader takes, in order, until it closes.

A send has two phases.  When it begins, the carrier's delay and the time limit
fix the passage: when it ends and whether that is in time.  When it ends, the
letter is either handed over, in which case it was accepted, or lost.
-/

namespace CreationCommit

/-- A message and the peer it is addressed to. -/
structure Letter where
  recipient : PeerId
  message : Message
deriving DecidableEq, Repr

/-- A letter and the peer that sent it. -/
structure Envelope where
  sender : PeerId
  recipient : PeerId
  message : Message
deriving DecidableEq, Repr

def Envelope.letter (envelope : Envelope) : Letter :=
  ⟨envelope.recipient, envelope.message⟩

/-- A refusal of all messages of one kind to one peer. -/
structure Refusal where
  kind : MessageKind
  recipient : PeerId
  reason : String
deriving DecidableEq, Repr

/-- A carrier that keeps what it accepts and refuses what it is told to. -/
structure Recorder where
  refusals : List Refusal
  delay : Duration
  accepted : List Letter
deriving DecidableEq, Repr

namespace Recorder

def start : Recorder where
  refusals := []
  delay := ⟨0⟩
  accepted := []

/-- Refuse a kind of message to a peer from now on; the latest reason counts. -/
def refuse (recorder : Recorder) (refusal : Refusal) : Recorder :=
  { recorder with refusals := refusal :: recorder.refusals }

/-- The reason for which a letter is refused now. -/
def reason? (recorder : Recorder) (letter : Letter) : Option String :=
  (recorder.refusals.find? (fun refusal =>
    refusal.kind = letter.message.kind ∧
      refusal.recipient = letter.recipient)).map (·.reason)

/-- Accept a letter, unless it is refused. -/
def hand (recorder : Recorder) (letter : Letter) :
    Recorder × Except DeliveryError Unit :=
  match recorder.reason? letter with
  | some reason => (recorder, .error (.rejected letter.recipient reason))
  | none =>
      ({ recorder with accepted := recorder.accepted ++ [letter] }, .ok ())

/-- The peers that were sent a message of the given kind, in order. -/
def recipients (recorder : Recorder) (kind : MessageKind) : List PeerId :=
  (recorder.accepted.filter (fun letter => letter.message.kind = kind)).map
    (·.recipient)

def votes (recorder : Recorder) : List Letter :=
  recorder.accepted.filter (fun letter => letter.message.kind = .vote)

end Recorder

/-- A queue of envelopes that its reader may close. -/
structure Channel where
  queue : List Envelope
  isOpen : Bool
deriving DecidableEq, Repr

namespace Channel

def start : Channel where
  queue := []
  isOpen := true

def hand (channel : Channel) (envelope : Envelope) :
    Channel × Except DeliveryError Unit :=
  if channel.isOpen then
    ({ channel with queue := channel.queue ++ [envelope] }, .ok ())
  else
    (channel, .error (.channelClosed envelope.recipient))

/-- Take the next envelope from an open channel. -/
def take? (channel : Channel) : Option (Envelope × Channel) :=
  match channel.queue with
  | [] => none
  | envelope :: rest =>
      if channel.isOpen then some (envelope, { channel with queue := rest })
      else none

/-- Close the channel; what it still holds is never read. -/
def close (channel : Channel) : Channel :=
  { channel with isOpen := false }

end Channel

/-- What carries the letters of one peer. -/
inductive Carrier
  | silent
  | recording (recorder : Recorder)
  | queueing (sender : PeerId) (channel : Channel)
deriving DecidableEq, Repr

/-- How long a send takes and whether it ends within its limit. -/
structure Passage where
  duration : Duration
  inTime : Bool
deriving DecidableEq, Repr

namespace Carrier

def sender? : Carrier → Option PeerId
  | .queueing sender _ => some sender
  | _ => none

/-- The same channel as another peer writes to it. -/
def writtenBy (carrier : Carrier) (sender : PeerId) : Carrier :=
  match carrier with
  | .queueing _ channel => .queueing sender channel
  | other => other

/-- Refuse a kind of message to a peer from now on, where the carrier can. -/
def refuse (carrier : Carrier) (refusal : Refusal) : Carrier :=
  match carrier with
  | .recording recorder => .recording (recorder.refuse refusal)
  | other => other

/-- Take a delay for every send from now on, where the carrier can. -/
def setDelay (carrier : Carrier) (delay : Duration) : Carrier :=
  match carrier with
  | .recording recorder => .recording { recorder with delay }
  | other => other

def close (carrier : Carrier) : Carrier :=
  match carrier with
  | .queueing sender channel => .queueing sender channel.close
  | other => other

def delay : Carrier → Duration
  | .recording recorder => recorder.delay
  | _ => ⟨0⟩

/-- Hand a letter over at the end of its passage. -/
def hand (carrier : Carrier) (letter : Letter) :
    Carrier × Except DeliveryError Unit :=
  match carrier with
  | .silent => (.silent, .ok ())
  | .recording recorder =>
      let (recorder, result) := recorder.hand letter
      (.recording recorder, result)
  | .queueing sender channel =>
      let (channel, result) :=
        channel.hand ⟨sender, letter.recipient, letter.message⟩
      (.queueing sender channel, result)

/-- Begin a send that has to end within `limit`; a delay equal to the limit is
still in time. -/
def passage (carrier : Carrier) (limit : Option Duration) : Passage :=
  match limit with
  | none => ⟨carrier.delay, true⟩
  | some limit =>
      if carrier.delay.nanos ≤ limit.nanos then
        ⟨carrier.delay, true⟩
      else
        ⟨limit, false⟩

/-- End a send: hand the letter over, or lose it when the limit was passed. -/
def finish (carrier : Carrier) (letter : Letter) (passage : Passage) :
    Carrier × Except DeliveryError Unit :=
  if passage.inTime then
    carrier.hand letter
  else
    (carrier, .error (.ofTimeout letter.recipient passage.duration))

def send (carrier : Carrier) (now : Instant) (letter : Letter)
    (limit : Option Duration) : Carrier × Except DeliveryError Unit × Instant :=
  let passage := carrier.passage limit
  let (carrier, result) := carrier.finish letter passage
  (carrier, result, now.after passage.duration)

def accepted : Carrier → List Letter
  | .silent => []
  | .recording recorder => recorder.accepted
  | .queueing _ channel => channel.queue.map Envelope.letter

end Carrier

end CreationCommit
