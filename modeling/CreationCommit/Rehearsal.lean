import CreationCommit.Problem
import CreationCommit.Station

/-!
# Rehearsals of a creation

A rehearsal plays one creation in a group whose peers share one channel.  The
first peers reject the creation, the next ones leave the group instead of
answering, the next ones stay silent and the others are healthy; healthy peers
that join late follow.  Routing an envelope lets the addressed party react to
it, and a creation request founds the replica that reacts.

The waiter looks for the decision, all envelopes are routed, and the waiter
looks again; if the creation is then still undecided, the clock goes on to the
deadline.  At the end the remaining envelopes are routed.
-/

namespace CreationCommit

/-- How a peer reacts to the creation request. -/
inductive Behaviour
  | healthy
  | failing
  | departing
  | silent
deriving DecidableEq, Repr

/-- How many peers of each behaviour a rehearsal has. -/
structure GroupShape where
  replicas : Nat
  failing : Nat
  departing : Nat
  silent : Nat
  lateJoiners : Nat
  payload : List UInt8
deriving DecidableEq, Repr

namespace GroupShape

def defaultPayload : List UInt8 :=
  "replicated-state".toUTF8.toList

def default : GroupShape where
  replicas := 3
  failing := 0
  departing := 0
  silent := 0
  lateJoiners := 0
  payload := defaultPayload

/-- How many replicas misbehave.  Counts are numbers without a bound: no overflow of
a sum is meant. -/
def misbehaving (shape : GroupShape) : Nat :=
  shape.failing + shape.departing + shape.silent

/-- There have to be as many replicas as misbehave. -/
def validate (shape : GroupShape) : Except Violation Unit :=
  if shape.replicas < shape.misbehaving then
    .error (.tooManyMisbehaving shape.misbehaving shape.replicas)
  else
    .ok ()

def behaviours (shape : GroupShape) : List Behaviour :=
  List.replicate shape.failing .failing ++
    List.replicate shape.departing .departing ++
    List.replicate shape.silent .silent ++
    List.replicate (shape.replicas - shape.misbehaving) .healthy

def primaryPeer : PeerId :=
  ⟨"node-0"⟩

def replicaPeer (index : Nat) : PeerId :=
  ⟨s!"node-{index + 1}"⟩

def latePeer (index : Nat) : PeerId :=
  ⟨s!"node-late-{index + 1}"⟩

def peers (shape : GroupShape) : List (PeerId × Behaviour) :=
  shape.behaviours.zipIdx.map fun (behaviour, index) =>
    (replicaPeer index, behaviour)

def latePeers (shape : GroupShape) : List PeerId :=
  (List.range shape.lateJoiners).map latePeer

end GroupShape

/-- A rehearsal under way. -/
structure Rehearsal where
  settings : TransactionSettings
  primary : Party
  replicas : PeerMap Party
  behaviours : PeerMap Behaviour
  channel : Channel
  group : Group
  now : Instant
  callbacks : List Decision
  outcome : Option Outcome

namespace Rehearsal

def objectId : ObjectId :=
  ⟨"sim-object"⟩

/-- What the peers of a rehearsal say that reject the creation. -/
def rejection : String :=
  "simulated creation failure"

def start (shape : GroupShape) (settings : TransactionSettings) :
    Rehearsal where
  settings := settings
  primary := .start
    { Setup.primary objectId GroupShape.primaryPeer with
      payload := shape.payload
      settings := settings }
  replicas := ∅
  behaviours := .ofList
    (shape.peers ++ shape.latePeers.map fun peer => (peer, .healthy))
  channel := .start
  group := .ofList (GroupShape.primaryPeer :: shape.peers.map (·.1))
  now := 0
  callbacks := []
  outcome := none

def stationOf (rehearsal : Rehearsal) (party : Party) : Station where
  party := party
  carrier := .queueing party.setup.localPeer rehearsal.channel
  group := rehearsal.group
  now := rehearsal.now
  attempts := []
  callbacks := []

def channelAfter (rehearsal : Rehearsal) (station : Station) : Channel :=
  match station.carrier with
  | .queueing _ channel => channel
  | _ => rehearsal.channel

def withPrimary (rehearsal : Rehearsal) (work : Station → Station) :
    Rehearsal :=
  let station := work (rehearsal.stationOf rehearsal.primary)
  { rehearsal with
    primary := station.party
    channel := rehearsal.channelAfter station
    callbacks := rehearsal.callbacks ++ station.callbacks }

def withReplica (rehearsal : Rehearsal) (replica : Party)
    (work : Station → Station) : Rehearsal :=
  let station := work (rehearsal.stationOf replica)
  { rehearsal with
    replicas :=
      rehearsal.replicas.insert replica.setup.localPeer station.party
    channel := rehearsal.channelAfter station }

/-- The replica that a creation request founds at a peer. -/
def replicaFor (rehearsal : Rehearsal) (peer : PeerId)
    (request : CreationRequest) : Party :=
  .start
    { Setup.replica request.objectId peer request.sender with
      payload := request.payload
      settings := rehearsal.settings }

/-- A creation request reaches a peer, which behaves as it does. -/
def receiveRequest (rehearsal : Rehearsal) (peer : PeerId)
    (request : CreationRequest) : Rehearsal :=
  match (rehearsal.behaviours.get? peer).getD .healthy with
  | .departing =>
      { rehearsal with group := (rehearsal.group.leave peer).1 }.withPrimary
        (·.handle (.memberDeparted peer))
  | .silent => rehearsal
  | .failing =>
      rehearsal.withReplica (rehearsal.replicaFor peer request)
        (·.enroll (some rejection))
  | .healthy =>
      rehearsal.withReplica (rehearsal.replicaFor peer request)
        (·.handle .activated)

def receive (rehearsal : Rehearsal) (envelope : Envelope) : Rehearsal :=
  match envelope.message with
  | .request request => rehearsal.receiveRequest envelope.recipient request
  | .vote vote =>
      if envelope.recipient = rehearsal.primary.setup.localPeer then
        rehearsal.withPrimary (·.handle (.voteReceived vote))
      else
        rehearsal
  | .notice decision objectId =>
      match rehearsal.replicas.get? envelope.recipient with
      | some replica =>
          rehearsal.withReplica replica
            (·.handle (.noticeReceived decision objectId))
      | none => rehearsal

def route? (rehearsal : Rehearsal) : Option Rehearsal :=
  rehearsal.channel.take?.map fun (envelope, channel) =>
    { rehearsal with channel }.receive envelope

/-- Route envelopes until none is left, at most as many as given. -/
def drain : Nat → Rehearsal → Rehearsal
  | 0, rehearsal => rehearsal
  | count + 1, rehearsal =>
      match rehearsal.route? with
      | some rehearsal => drain count rehearsal
      | none => rehearsal

/-- The waiter looks for the decision, unless it has found it already. -/
def look (rehearsal : Rehearsal) : Rehearsal :=
  if rehearsal.outcome.isSome then
    rehearsal
  else
    let (primary, finding) := rehearsal.primary.examine rehearsal.now
    let rehearsal := { rehearsal with primary }
    match finding with
    | .pending _ => rehearsal
    | .decided closings outcome =>
        { rehearsal.withPrimary (·.closeAll closings) with
          outcome := some outcome }

/-- Let the time until the deadline pass, unless the decision was found. -/
def passToDeadline (rehearsal : Rehearsal) : Rehearsal :=
  match rehearsal.outcome, rehearsal.primary.tally.deadline with
  | none, some deadline =>
      { rehearsal with now := max rehearsal.now deadline }
  | _, _ => rehearsal

def activate (rehearsal : Rehearsal) (late : List PeerId) : Rehearsal :=
  late.foldl
    (fun rehearsal peer =>
      { rehearsal with group := (rehearsal.group.join peer).1 }.withPrimary
        (·.handle (.memberJoined peer)))
    (rehearsal.withPrimary (·.handle .activated))

/-- More envelopes than a group of the shape exchanges. -/
def envelopeBound (shape : GroupShape) : Nat :=
  4 * (shape.replicas + shape.lateJoiners) + 4

def play (shape : GroupShape) (settings : TransactionSettings) : Rehearsal :=
  let bound := envelopeBound shape
  let opened := (start shape settings).activate shape.latePeers
  let voted := (opened.look.drain bound).look
  (voted.passToDeadline.look).drain bound

/-- The phases of the replicas, in the order of their peers. -/
def phases (rehearsal : Rehearsal) : List (PeerId × Phase) :=
  rehearsal.replicas.entries.map fun entry => (entry.1, entry.2.tally.phase)

def countIn (rehearsal : Rehearsal) (phase : Phase) : Nat :=
  (rehearsal.phases.map (·.2)).count phase

/-- Whether the waiter found a commit, or the problem that stands against it. -/
def ensureCommitted (rehearsal : Rehearsal) : Except Problem Unit :=
  match rehearsal.outcome with
  | some (.aborted report) => .error (.aborted report)
  | _ => .ok ()

/-- Play a creation, if the shape of the group and the settings are valid. -/
def run (shape : GroupShape) (settings : TransactionSettings) :
    Except SettingsError Rehearsal := do
  (shape.validate).mapError .invalid
  (settings.validate).mapError .invalid
  return play shape settings

end Rehearsal

end CreationCommit
