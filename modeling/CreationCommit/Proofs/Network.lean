import CreationCommit.Proofs.Sites

/-!
# A primary, its replicas and the network between them

The network keeps every letter that the transport ever took, and those still
in transit.  A move of the network is an act at the primary or at a replica, or
the arrival of an envelope: a vote or a notice is an event of the party it is
addressed to, if there is one, and a request founds a replica, which is
activated or refuses at once.

Which moves are allowed is a discipline of the network.  Each discipline has
its reachable states.
-/

namespace CreationCommit

/-- An envelope with a letter of a sender. -/
def Letter.sentBy (letter : Letter) (sender : PeerId) : Envelope :=
  ⟨sender, letter.recipient, letter.message⟩

/-- How a peer founds its replica when a request reaches it. -/
structure Founding where
  settings : TransactionSettings
  refusal : Option String

/-- The setup of the replica that a request founds at a peer. -/
def Founding.setup (founding : Founding) (peer : PeerId)
    (request : CreationRequest) : Setup :=
  { Setup.replica request.objectId peer request.sender with
    payload := request.payload
    settings := founding.settings }

/-- The replica that a request founds at a peer, as it activates or refuses. -/
def Founding.site (founding : Founding) (peer : PeerId)
    (request : CreationRequest) : Site where
  session := (Session.start (founding.setup peer request)).launch
    (.enroll founding.refusal)
  carried := []

/-- The peer whose departure an act has the party note. -/
def Site.Act.departure? : Site.Act → Option PeerId
  | .own (.start (.handle (.memberDeparted peer) _)) => some peer
  | _ => none

/-- A primary, the replicas by their peers, the envelopes ever posted, those
still in transit, and the peers whose departure the primary noted. -/
structure Network where
  primary : Site
  replicas : PeerMap Site
  posted : List Envelope
  transit : List Envelope
  departed : List PeerId

namespace Network

/-- The peer of the primary. -/
def home (network : Network) : PeerId :=
  network.primary.setup.localPeer

/-- The network of a primary and some replicas before anything happened. -/
def start (primary : Setup) (replicas : PeerMap Site) : Network where
  primary := .start primary
  replicas := replicas
  posted := []
  transit := []
  departed := []

/-- Post the letter that the transport took from a sender, if it took one. -/
def post (network : Network) (sender : PeerId) (taken : Option Letter) :
    Network :=
  { network with
    posted := network.posted ++ (taken.map (·.sentBy sender)).toList
    transit := network.transit ++ (taken.map (·.sentBy sender)).toList }

/-- What may happen in a network. -/
inductive Move
  | primary (act : Site.Act)
  | replica (peer : PeerId) (act : Site.Act)
  | deliver (envelope : Envelope) (founding : Founding)

/-- Let something happen at the primary. -/
def actAtPrimary? (network : Network) (act : Site.Act) : Option Network :=
  (network.primary.act? act).map fun (primary, taken) =>
    { network with
      primary
      departed := act.departure?.toList ++ network.departed }.post
        network.home taken

/-- Let something happen at a replica. -/
def actAtReplica? (network : Network) (peer : PeerId) (act : Site.Act) :
    Option Network :=
  match network.replicas.get? peer with
  | some replica =>
      (replica.act? act).map fun (replica, taken) =>
        { network with
          replicas := network.replicas.insert peer replica }.post peer taken
  | none => none

/-- Tell an event to the party at a peer, if there is one. -/
def tell (network : Network) (peer : PeerId) (event : Event) : Network :=
  if peer = network.home then
    { network with
      primary :=
        { network.primary with
          session :=
            network.primary.session.launch (.handle event .disconnected) } }
  else
    match network.replicas.get? peer with
    | some replica =>
        { network with
          replicas := network.replicas.insert peer
            { replica with
              session := replica.session.launch (.handle event .disconnected) } }
    | none => network

/-- Let an envelope arrive. -/
def arrive (network : Network) (envelope : Envelope) (founding : Founding) :
    Network :=
  match envelope.message with
  | .request request =>
      if envelope.recipient = network.home then
        network
      else
        { network with
          replicas := network.replicas.insert envelope.recipient
            (founding.site envelope.recipient request) }
  | .vote vote => network.tell envelope.recipient (.voteReceived vote)
  | .notice decision objectId =>
      network.tell envelope.recipient (.noticeReceived decision objectId)

/-- Make a move, if it is possible. -/
def move? (network : Network) : Move → Option Network
  | .primary act => network.actAtPrimary? act
  | .replica peer act => network.actAtReplica? peer act
  | .deliver envelope founding =>
      some ({ network with
        transit := network.transit.erase envelope }.arrive envelope founding)

/-- The states that moves allowed by a discipline reach from an origin. -/
inductive Reachable (allows : Network → Move → Prop) (origin : Network) :
    Network → Prop
  | origin : Reachable allows origin origin
  | step {network next : Network} {move : Move}
      (reachable : Reachable allows origin network)
      (allowed : allows network move)
      (moved : network.move? move = some next) :
      Reachable allows origin next

/-- Make moves one after the other, if all are allowed and possible. -/
def runUnder (allows : Network → Move → Prop)
    [∀ network move, Decidable (allows network move)] (network : Network) :
    List Move → Option Network
  | [] => some network
  | move :: rest =>
      if allows network move then
        (network.move? move).bind fun next => next.runUnder allows rest
      else
        none

/-- What a run of allowed moves arrives at is reachable. -/
theorem reachable_of_runUnder {allows : Network → Move → Prop}
    [∀ network move, Decidable (allows network move)]
    {origin network last : Network} {moves : List Move}
    (reachable : Reachable allows origin network)
    (arrives : network.runUnder allows moves = some last) :
    Reachable allows origin last := by
  induction moves generalizing network with
  | nil =>
      obtain rfl : network = last := by simpa [runUnder] using arrives
      exact reachable
  | cons move rest ih =>
      unfold runUnder at arrives
      split at arrives
      · rename_i allowed
        obtain ⟨next, moved, onward⟩ := Option.bind_eq_some_iff.1 arrives
        exact ih (reachable.step allowed moved) onward
      · simp at arrives

/-- Whether nothing is in transit and no call is in progress. -/
def isIdle (network : Network) : Bool :=
  network.transit.isEmpty && network.primary.isIdle &&
    network.replicas.entries.all (·.2.isIdle)

theorem isIdle_replica {network : Network} (idle : network.isIdle = true)
    {peer : PeerId} {replica : Site}
    (found : network.replicas.get? peer = some replica) :
    replica.isIdle = true := by
  obtain ⟨entry, isEntry, rfl⟩ := Option.map_eq_some_iff.1 found
  simp only [isIdle, Bool.and_eq_true, List.all_eq_true] at idle
  exact idle.2 entry (List.mem_of_find?_eq_some isEntry)

/-- Whether the transport ever took a vote of the peer, for or against. -/
def HasVoted (network : Network) (peer : PeerId) (refusal : Option String) :
    Prop :=
  ∃ envelope ∈ network.posted, envelope.sender = peer ∧
    envelope.letter.duty = .opening (.vote refusal)

instance (network : Network) (peer : PeerId) (refusal : Option String) :
    Decidable (network.HasVoted peer refusal) :=
  inferInstanceAs (Decidable (∃ envelope ∈ network.posted,
    envelope.sender = peer ∧ envelope.letter.duty = .opening (.vote refusal)))

/-- An act at the primary, with what it comes to. -/
structure AtPrimary (network next : Network) (act : Site.Act)
    (cause : Option Trigger) (gone : Multiset Duty) (taken : Option Letter) :
    Prop where
  stepped : network.primary.Stepped next.primary act
  turn : network.primary.Turn act cause gone taken
  effect : network.primary.Effect next.primary cause gone taken
  replicas : next.replicas = network.replicas
  posted : next.posted =
    network.posted ++ (taken.map (·.sentBy network.home)).toList

/-- An act at the replica of a peer, with what it comes to. -/
structure AtReplica (network next : Network) (peer : PeerId)
    (replica after : Site) (act : Site.Act) (cause : Option Trigger)
    (gone : Multiset Duty) (taken : Option Letter) : Prop where
  found : network.replicas.get? peer = some replica
  stepped : replica.Stepped after act
  turn : replica.Turn act cause gone taken
  effect : replica.Effect after cause gone taken
  primary : next.primary = network.primary
  replicas : next.replicas = network.replicas.insert peer after
  posted : next.posted = network.posted ++ (taken.map (·.sentBy peer)).toList

theorem AtReplica.found_cases {network next : Network} {peer other : PeerId}
    {replica after site : Site} {act : Site.Act} {cause : Option Trigger}
    {gone : Multiset Duty} {taken : Option Letter}
    (change : AtReplica network next peer replica after act cause gone taken)
    (found : next.replicas.get? other = some site) :
    other = peer ∧ site = after ∨
      other ≠ peer ∧ network.replicas.get? other = some site :=
  PeerMap.get?_insert_cases (change.replicas ▸ found)

/-- The act by which a site takes an event. -/
def hearing (event : Event) : Site.Act :=
  .own (.start (.handle event .disconnected))

/-- The cause of taking an event. -/
def heard (event : Event) : Trigger :=
  .command (.handle event .disconnected)

/-- What a move changes. -/
inductive Change (network next : Network) : Move → Prop
  | primaryActs (act : Site.Act) (cause : Option Trigger)
      (gone : Multiset Duty) (taken : Option Letter)
      (change : AtPrimary network next act cause gone taken)
      (transit : next.transit =
        network.transit ++ (taken.map (·.sentBy network.home)).toList)
      (departed : next.departed =
        act.departure?.toList ++ network.departed) :
      Change network next (.primary act)
  | replicaActs (peer : PeerId) (replica after : Site) (act : Site.Act)
      (cause : Option Trigger) (gone : Multiset Duty) (taken : Option Letter)
      (change : AtReplica network next peer replica after act cause gone taken)
      (transit : next.transit =
        network.transit ++ (taken.map (·.sentBy peer)).toList)
      (departed : next.departed = network.departed) :
      Change network next (.replica peer act)
  | primaryHears (envelope : Envelope) (founding : Founding) (event : Event)
      (isEvent : envelope.message.event? = some event)
      (isHome : envelope.recipient = network.home)
      (change : AtPrimary network next (hearing event) (some (heard event)) 0
        none)
      (transit : next.transit = network.transit.erase envelope)
      (departed : next.departed = network.departed) :
      Change network next (.deliver envelope founding)
  | replicaHears (envelope : Envelope) (founding : Founding) (event : Event)
      (replica after : Site)
      (isEvent : envelope.message.event? = some event)
      (isAway : envelope.recipient ≠ network.home)
      (change : AtReplica network next envelope.recipient replica after
        (hearing event) (some (heard event)) 0 none)
      (transit : next.transit = network.transit.erase envelope)
      (departed : next.departed = network.departed) :
      Change network next (.deliver envelope founding)
  | founds (envelope : Envelope) (founding : Founding)
      (request : CreationRequest)
      (isRequest : envelope.message = .request request)
      (isAway : envelope.recipient ≠ network.home)
      (primary : next.primary = network.primary)
      (replicas : next.replicas = network.replicas.insert envelope.recipient
        (founding.site envelope.recipient request))
      (posted : next.posted = network.posted)
      (transit : next.transit = network.transit.erase envelope)
      (departed : next.departed = network.departed) :
      Change network next (.deliver envelope founding)
  | loses (envelope : Envelope) (founding : Founding)
      (nobody : envelope.recipient = network.home ∨
        envelope.recipient ∉ network.replicas)
      (isRequest : envelope.recipient = network.home →
        ∃ request, envelope.message = .request request)
      (isNotRequest : envelope.recipient ≠ network.home →
        ∀ request, envelope.message ≠ .request request)
      (primary : next.primary = network.primary)
      (replicas : next.replicas = network.replicas)
      (posted : next.posted = network.posted)
      (transit : next.transit = network.transit.erase envelope)
      (departed : next.departed = network.departed) :
      Change network next (.deliver envelope founding)

/-- All sites of the network are fit. -/
structure Fit (network : Network) : Prop where
  primary : network.primary.Fit
  replicas : ∀ peer replica, network.replicas.get? peer = some replica →
    replica.Fit

variable {network next : Network}

theorem change_of_tell (fit : network.Fit) (envelope : Envelope)
    (founding : Founding) (event : Event)
    (isEvent : envelope.message.event? = some event) :
    Change network ({ network with
      transit := network.transit.erase envelope }.tell envelope.recipient event)
      (.deliver envelope founding) := by
  unfold tell
  split
  · rename_i isHome
    exact .primaryHears envelope founding event isEvent isHome
      ⟨.inr ⟨_, rfl, .launches _⟩, .launches _,
        Site.effect_of_start fit.primary _, rfl, (List.append_nil _).symm⟩
      rfl rfl
  · rename_i isAway
    split
    · rename_i replica found
      exact .replicaHears envelope founding event replica _ isEvent isAway
        ⟨found, .inr ⟨_, rfl, .launches _⟩, .launches _,
          Site.effect_of_start (fit.replicas _ _ found) _, rfl, rfl,
          (List.append_nil _).symm⟩ rfl rfl
    · rename_i nobody
      exact .loses envelope founding (.inr (PeerMap.get?_eq_none.1 nobody))
        (absurd · isAway)
        (fun _ request isRequest => by
          simp [isRequest, Message.event?] at isEvent)
        rfl rfl rfl rfl rfl

theorem change_of_arrive (fit : network.Fit) (envelope : Envelope)
    (founding : Founding) :
    Change network ({ network with
      transit := network.transit.erase envelope }.arrive envelope founding)
      (.deliver envelope founding) := by
  unfold arrive
  split
  · rename_i request isRequest
    split
    · rename_i isHome
      exact .loses envelope founding (.inl isHome)
        (fun _ => ⟨request, isRequest⟩) (absurd isHome ·) rfl rfl rfl rfl rfl
    · rename_i isAway
      exact .founds envelope founding request isRequest isAway rfl rfl rfl rfl
        rfl
  · rename_i vote isVote
    exact change_of_tell fit envelope founding _ (by
      simp [isVote, Message.event?])
  · rename_i decision objectId isNotice
    exact change_of_tell fit envelope founding _ (by
      simp [isNotice, Message.event?])

/-- Every move that is possible changes what one of the changes says. -/
theorem change_of_move? (fit : network.Fit) {move : Move}
    (moved : network.move? move = some next) : Change network next move := by
  cases move with
  | primary act =>
      obtain ⟨⟨primary, taken⟩, acted, rfl⟩ := Option.map_eq_some_iff.1 moved
      obtain ⟨cause, gone, turn, effect⟩ :=
        Site.turn_of_act? fit.primary acted
      exact .primaryActs act cause gone taken
        ⟨Site.stepped_of_act? acted, turn, effect, rfl, rfl⟩ rfl rfl
  | replica peer act =>
      simp only [move?, actAtReplica?] at moved
      split at moved
      · rename_i replica found
        obtain ⟨⟨after, taken⟩, acted, rfl⟩ := Option.map_eq_some_iff.1 moved
        obtain ⟨cause, gone, turn, effect⟩ :=
          Site.turn_of_act? (fit.replicas peer replica found) acted
        exact .replicaActs peer replica after act cause gone taken
          ⟨found, Site.stepped_of_act? acted, turn, effect, rfl, rfl, rfl⟩
          rfl rfl
      · simp at moved
  | deliver envelope founding =>
      cases moved
      exact change_of_arrive fit envelope founding

/-- What holds at the origin, is only said of fit networks and is kept by every
allowed change holds in all states that are reached. -/
theorem holds_of_reachable {allows : Network → Move → Prop}
    {holds : Network → Prop} {origin : Network} (atOrigin : holds origin)
    (fit : ∀ network, holds network → network.Fit)
    (keeps : ∀ network next move, holds network →
      (network.move? move).isSome → allows network move →
        Change network next move → holds next)
    (reachable : Reachable allows origin network) : holds network := by
  induction reachable with
  | origin => exact atOrigin
  | step reachable allowed moved before =>
      exact keeps _ _ _ before (by simp [moved]) allowed
        (change_of_move? (fit _ before) moved)

end Network

end CreationCommit
