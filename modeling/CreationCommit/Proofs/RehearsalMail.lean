import CreationCommit.Proofs.ReplicaLooks
import CreationCommit.Rehearsal

/-!
# What is written at a rehearsal

The channel of a rehearsal stays open, so every send is accepted at once and no
time passes.  What a look of the primary leaves to do therefore only adds
requests and notices at the end of the queue, and a replica that is founded
adds its vote.
-/

namespace CreationCommit

/-- What may lie in the channel of a rehearsal. -/
inductive Post
  | request (peer : PeerId)
  | ballot (peer : PeerId) (refusal : Option String)
  | notice (decision : Decision) (peer : PeerId)
deriving DecidableEq

/-- The letter of a post at the rehearsal of an object with the payload. -/
def Post.envelope (payload : List UInt8) : Post → Envelope
  | request peer =>
      ⟨GroupShape.primaryPeer, peer,
        .request ⟨GroupShape.primaryPeer, Rehearsal.objectId, payload⟩⟩
  | ballot peer refusal =>
      ⟨peer, GroupShape.primaryPeer,
        .vote ⟨peer, Rehearsal.objectId, Numbering.start.next, refusal⟩⟩
  | notice decision peer =>
      ⟨GroupShape.primaryPeer, peer, .notice decision Rehearsal.objectId⟩

/-- What a duty adds to the channel. -/
def Duty.post? : Duty → Option Post
  | .opening (.request peer) => some (.request peer)
  | .closing (.notify decision peer) => some (.notice decision peer)
  | _ => none

/-- What a duty reports to the local object. -/
def Duty.report? : Duty → Option Decision
  | .closing (.report decision) => some decision
  | _ => none

namespace Station

variable {station : Station} {sender : PeerId} {queue : List Envelope}

/-- A send through an open channel is accepted at once. -/
theorem send_open (onChannel : station.carrier = .queueing sender ⟨queue, true⟩)
    (letter : Letter) :
    station.send letter =
      ({ station with
          carrier := .queueing sender
            ⟨queue ++ [⟨sender, letter.recipient, letter.message⟩], true⟩
          attempts := station.attempts ++ [letter] }, .ok ()) := by
  simp [send, Carrier.send, Carrier.passage, Carrier.delay, Carrier.finish,
    Carrier.hand, Channel.hand, onChannel, Instant.after]

/-- The station of a party that writes to an open channel. -/
structure Holds (station : Station) (party : Party) (queue : List Envelope)
    (callbacks : List Decision) : Prop where
  atParty : station.party = party
  carrier : station.carrier =
    .queueing party.setup.localPeer ⟨queue, true⟩
  reported : station.callbacks = callbacks

namespace Holds

variable {party : Party} {callbacks : List Decision}

theorem send (holds : station.Holds party queue callbacks) (letter : Letter) :
    (station.send letter).1.Holds party
        (queue ++ [⟨party.setup.localPeer, letter.recipient, letter.message⟩])
        callbacks ∧
      (station.send letter).2 = .ok () := by
  rw [send_open holds.carrier]
  exact ⟨⟨holds.atParty, rfl, holds.reported⟩, rfl⟩

theorem take (holds : station.Holds party queue callbacks) {other : Party}
    (same : other.setup = party.setup) :
    { station with party := other }.Holds other queue callbacks :=
  ⟨rfl, same ▸ holds.carrier, holds.reported⟩

theorem report (holds : station.Holds party queue callbacks)
    (decision : Decision) :
    (station.report decision).Holds party queue (callbacks ++ [decision]) :=
  ⟨holds.atParty, holds.carrier, by simp [Station.report, holds.reported]⟩

end Holds

end Station

/-- The setup of the primary of a rehearsal. -/
def Rehearsal.primarySetup (payload : List UInt8)
    (settings : TransactionSettings) : Setup :=
  { Setup.primary objectId GroupShape.primaryPeer with payload, settings }

namespace Station.Holds

variable {station : Station} {party : Party} {queue : List Envelope}
  {callbacks : List Decision} {payload : List UInt8}
  {settings : TransactionSettings}

theorem request (holds : station.Holds party queue callbacks)
    (leads : party.setup = Rehearsal.primarySetup payload settings)
    (peer : PeerId) :
    (station.perform (.request peer)).Holds party
      (queue ++ [(Post.request peer).envelope payload]) callbacks := by
  have composed : station.party.compose (.request peer) =
      (party, some (party.requestFor peer)) := by
    simp [Party.compose, holds.atParty]
  have same : { station with party } = station := by rw [← holds.atParty]
  obtain ⟨sent, accepted⟩ := holds.send (party.requestFor peer)
  have envelope : (⟨party.setup.localPeer, (party.requestFor peer).recipient,
      (party.requestFor peer).message⟩ : Envelope) =
        (Post.request peer).envelope payload := by
    simp [Party.requestFor, leads, Rehearsal.primarySetup, Setup.primary,
      Post.envelope]
  rw [envelope] at sent
  simp only [Station.perform, composed, same, accepted, Party.noteResult,
    Station.closeAll, List.foldl_nil]
  exact sent

theorem discharge (holds : station.Holds party queue callbacks)
    (leads : party.setup = Rehearsal.primarySetup payload settings) (duty : Duty)
    (noVote : ∀ refusal, duty ≠ .opening (.vote refusal)) :
    (station.discharge duty).Holds party
      (queue ++ duty.post?.toList.map (Post.envelope payload))
      (callbacks ++ duty.report?.toList) := by
  cases duty with
  | opening opening =>
      cases opening with
      | request peer =>
          simpa [Station.discharge, Duty.post?, Duty.report?] using
            holds.request leads peer
      | vote refusal => exact absurd rfl (noVote refusal)
  | closing closing =>
      cases closing with
      | notify decision peer =>
          have sent := (holds.send (party.noticeFor decision peer)).1
          simpa [Station.discharge, Station.close, holds.atParty, Duty.post?,
            Duty.report?, Party.noticeFor, leads, Post.envelope,
            Rehearsal.primarySetup, Setup.primary] using sent
      | report decision =>
          simpa [Station.discharge, Station.close, Duty.post?, Duty.report?] using
            holds.report decision

theorem discharges {duties : List Duty}
    (holds : station.Holds party queue callbacks)
    (leads : party.setup = Rehearsal.primarySetup payload settings)
    (noVotes : ∀ refusal, .opening (.vote refusal) ∉ duties) :
    (duties.foldl Station.discharge station).Holds party
      (queue ++ (duties.filterMap Duty.post?).map (Post.envelope payload))
      (callbacks ++ duties.filterMap Duty.report?) := by
  induction duties generalizing station queue callbacks with
  | nil => simpa using holds
  | cons duty rest ih =>
      have first := holds.discharge leads duty fun refusal isVote =>
        noVotes refusal (isVote ▸ List.mem_cons_self)
      have later := ih first fun refusal isVote =>
        noVotes refusal (List.mem_cons_of_mem _ isVote)
      cases posted : duty.post? <;> cases reported : duty.report? <;>
        simpa [posted, reported] using later

end Station.Holds

namespace Rehearsal

variable {rehearsal : Rehearsal} {payload : List UInt8}
  {settings : TransactionSettings} {posts : List Post}

/-- What is left of the primary's work: the channel holds the posts of its
duties at the end of the queue, and what it reports was reported. -/
theorem withPrimary_follow {duties : List Duty} {party : Party}
    (leads : rehearsal.primary.setup = primarySetup payload settings)
    (channel : rehearsal.channel = ⟨posts.map (Post.envelope payload), true⟩)
    (sameSetup : party.setup = rehearsal.primary.setup)
    (noVotes : ∀ refusal, .opening (.vote refusal) ∉ duties)
    {work : Station → Station}
    (works : work (rehearsal.stationOf rehearsal.primary) =
      (rehearsal.stationOf rehearsal.primary).follow (party, duties)) :
    rehearsal.withPrimary work =
      { rehearsal with
        primary := party
        channel := ⟨(posts ++ duties.filterMap Duty.post?).map
          (Post.envelope payload), true⟩
        callbacks := rehearsal.callbacks ++ duties.filterMap Duty.report? } := by
  have begins : { rehearsal.stationOf rehearsal.primary with party }.Holds party
      (posts.map (Post.envelope payload)) [] :=
    ⟨rfl, by simp [stationOf, channel, sameSetup], rfl⟩
  have ends := begins.discharges (sameSetup.trans leads) noVotes
  have followed : (rehearsal.stationOf rehearsal.primary).follow
      (party, duties) = duties.foldl Station.discharge
        { rehearsal.stationOf rehearsal.primary with party } := rfl
  rw [← followed, ← works] at ends
  simp only [withPrimary, channelAfter, ends.atParty, ends.carrier,
    ends.reported, List.nil_append, List.map_append]

theorem no_votes_of_look (leads : rehearsal.primary.setup =
      primarySetup payload settings)
    (sound : rehearsal.primary.tally.Sound) (trigger : Trigger)
    (refusal : Option String) :
    .opening (.vote refusal) ∉ (rehearsal.primary.look trigger).2 := by
  have role : rehearsal.primary.setup.role = .primary := by rw [leads]; rfl
  obtain ⟨peers, closings, opens, -, -⟩ := Party.look_opens role sound trigger
  simp [opens]

/-- The primary takes an event and does what it then has to. -/
theorem withPrimary_handle
    (leads : rehearsal.primary.setup = primarySetup payload settings)
    (sound : rehearsal.primary.tally.Sound)
    (channel : rehearsal.channel = ⟨posts.map (Post.envelope payload), true⟩)
    (event : Event) {party : Party} {duties : List Duty}
    (looked : rehearsal.primary.look
      (.command (.handle event rehearsal.group.view)) = (party, duties)) :
    rehearsal.withPrimary (·.handle event) =
      { rehearsal with
        primary := party
        channel := ⟨(posts ++ duties.filterMap Duty.post?).map
          (Post.envelope payload), true⟩
        callbacks := rehearsal.callbacks ++ duties.filterMap Duty.report? } := by
  have advances := Party.advancesOn_look rehearsal.primary
    (.command (.handle event rehearsal.group.view))
  have noVotes := no_votes_of_look leads sound
    (.command (.handle event rehearsal.group.view))
  rw [looked] at advances noVotes
  refine withPrimary_follow leads channel advances.setup noVotes ?_
  exact congrArg (rehearsal.stationOf rehearsal.primary).follow looked

/-- The primary does what closes a decision. -/
theorem withPrimary_closeAll
    (leads : rehearsal.primary.setup = primarySetup payload settings)
    (channel : rehearsal.channel = ⟨posts.map (Post.envelope payload), true⟩)
    (closings : List Closing) :
    rehearsal.withPrimary (·.closeAll closings) =
      { rehearsal with
        channel := ⟨(posts ++ (closings.map Duty.closing).filterMap
          Duty.post?).map (Post.envelope payload), true⟩
        callbacks := rehearsal.callbacks ++
          (closings.map Duty.closing).filterMap Duty.report? } := by
  refine withPrimary_follow leads channel rfl (by simp) ?_
  simp only [Station.follow, Station.closeAll, List.foldl_map]
  rfl

end Rehearsal

namespace Party.Finding

/-- The outcome that was found. -/
def outcome? : Finding → Option Outcome
  | .pending _ => none
  | .decided _ outcome => some outcome

end Party.Finding

namespace Rehearsal

variable {rehearsal : Rehearsal} {payload : List UInt8}
  {settings : TransactionSettings} {posts : List Post}

/-- The waiter looks, and does what follows from a decision. -/
theorem look_eq
    (leads : rehearsal.primary.setup = primarySetup payload settings)
    (sound : rehearsal.primary.tally.Sound)
    (channel : rehearsal.channel = ⟨posts.map (Post.envelope payload), true⟩)
    (waiting : rehearsal.outcome = none) {party : Party} {duties : List Duty}
    (looked : rehearsal.primary.look (.clock rehearsal.now) = (party, duties)) :
    rehearsal.look =
      { rehearsal with
        primary := party
        channel := ⟨(posts ++ duties.filterMap Duty.post?).map
          (Post.envelope payload), true⟩
        callbacks := rehearsal.callbacks ++ duties.filterMap Duty.report?
        outcome :=
          (rehearsal.primary.examine rehearsal.now).2.outcome? } := by
  have advances := Party.advancesOn_look rehearsal.primary (.clock rehearsal.now)
  have noVotes := no_votes_of_look leads sound (.clock rehearsal.now)
  rw [looked] at advances noVotes
  have undecided : rehearsal.outcome.isSome = false := by simp [waiting]
  cases found : (rehearsal.primary.examine rehearsal.now).2 with
  | pending deadline =>
      rw [Party.look_clock_of_pending _ found] at looked
      obtain ⟨rfl, rfl⟩ := Prod.mk.inj looked
      simp [look, waiting, found, Party.Finding.outcome?, channel]
  | decided closings outcome =>
      rw [Party.look_clock_of_decided _ found] at looked
      obtain ⟨rfl, rfl⟩ := Prod.mk.inj looked
      have leadsStill :
          { rehearsal with
            primary := (rehearsal.primary.examine rehearsal.now).1 }.primary.setup =
              primarySetup payload settings :=
        advances.setup.trans leads
      have closed := withPrimary_closeAll leadsStill channel closings
      simp only [look, undecided, found, closed, Bool.false_eq_true, if_false]
      rfl

end Rehearsal

/-- An accepted vote prepares the replica or, if it refused, aborts it. -/
theorem Party.phase_of_vote {party : Party}
    (active : party.tally.phase = .active) (refusal : Option String) :
    (party.noteResult (.vote refusal) (.ok ())).1.tally.phase =
      if refusal = none then .prepared else .aborted := by
  cases refusal with
  | none =>
      simp only [noteResult, (sameRecord_conclude _).phase, Tally.prepare,
        active, if_true]
  | some cause =>
      simp [noteResult, (sameRecord_conclude _).phase, Tally.abort,
        Tally.isDecided, Phase.isDecided, active]

namespace Station.Holds

variable {station : Station} {party : Party} {queue : List Envelope}
  {callbacks : List Decision}

theorem reports (holds : station.Holds party queue callbacks)
    (decisions : List Decision) :
    (station.closeAll (decisions.map .report)).Holds party queue
      (callbacks ++ decisions) := by
  induction decisions generalizing station callbacks with
  | nil => simpa [Station.closeAll] using holds
  | cons decision rest ih =>
      simpa [Station.closeAll, Station.close] using ih (holds.report decision)

/-- A replica that votes sends its vote, which is accepted. -/
theorem vote (holds : station.Holds party queue callbacks) {home : PeerId}
    (role : party.setup.role = .replica home) (refusal : Option String) :
    ∃ reports, (station.perform (.vote refusal)).Holds
      ({ party with numbering := party.numbering.advance }.noteResult
        (.vote refusal) (.ok ())).1
      (queue ++ [⟨party.setup.localPeer, home,
        .vote ⟨party.setup.localPeer, party.setup.objectId,
          party.numbering.next, refusal⟩⟩])
      (callbacks ++ reports) := by
  obtain ⟨numbered, isNumbered⟩ : ∃ numbered : Party,
      numbered = { party with numbering := party.numbering.advance } := ⟨_, rfl⟩
  have cast : party.castVote refusal =
      (numbered, some
        { recipient := home
          message := .vote
            { voter := party.setup.localPeer
              objectId := party.setup.objectId
              sequence := party.numbering.next
              refusal } }) := by
    simp [Party.castVote, role, isNumbered]
  have sameSetup : numbered.setup = party.setup := by rw [isNumbered]
  obtain ⟨sent, accepted⟩ := (holds.take sameSetup).send
    { recipient := home
      message := .vote
        { voter := party.setup.localPeer
          objectId := party.setup.objectId
          sequence := party.numbering.next
          refusal } }
  have isReplica : numbered.setup.role ≠ .primary := by
    rw [sameSetup, role]
    simp
  obtain ⟨reports, closes⟩ :=
    Party.noteResult_reports isReplica (.vote refusal) (.ok ())
  have noted := Party.advancesOn_noteResult numbered (.vote refusal) (.ok ())
  have concluded := (sent.take noted.setup).reports reports
  refine ⟨reports, ?_⟩
  simp only [Station.perform, Party.compose, holds.atParty, cast, accepted,
    sent.atParty, closes]
  rw [sameSetup, isNumbered] at concluded
  simpa only [isNumbered] using concluded

end Station.Holds

namespace Rehearsal

variable {rehearsal : Rehearsal} {payload : List UInt8} {posts : List Post}

/-- What is left of a replica's work: the replica, and the channel with what it
wrote. -/
theorem withReplica_eq {replica after : Party} {written : List Post}
    {reports : List Decision} {work : Station → Station}
    (holds : (work (rehearsal.stationOf replica)).Holds after
      ((posts ++ written).map (Post.envelope payload)) reports) :
    rehearsal.withReplica replica work =
      { rehearsal with
        replicas := rehearsal.replicas.insert replica.setup.localPeer after
        channel := ⟨(posts ++ written).map (Post.envelope payload), true⟩ } := by
  simp only [withReplica, channelAfter, holds.atParty, holds.carrier]

/-- The replica of a peer, which answers the primary. -/
structure IsReplica (peer : PeerId) (replica : Party) : Prop where
  localPeer : replica.setup.localPeer = peer
  role : replica.setup.role = .replica GroupShape.primaryPeer
  about : replica.setup.objectId = objectId

/-- A replica that is founded votes, and is then prepared or aborted. -/
theorem found_replica
    (channel : rehearsal.channel = ⟨posts.map (Post.envelope payload), true⟩)
    (peer : PeerId) (refusal : Option String) :
    ∃ replica, IsReplica peer replica ∧
      replica.tally.phase = (if refusal = none then .prepared else .aborted) ∧
      rehearsal.withReplica
          (rehearsal.replicaFor peer
            ⟨GroupShape.primaryPeer, Rehearsal.objectId, payload⟩)
          (·.enroll refusal) =
        { rehearsal with
          replicas := rehearsal.replicas.insert peer replica
          channel := ⟨(posts ++ [Post.ballot peer refusal]).map
            (Post.envelope payload), true⟩ } := by
  obtain ⟨founded, isFounded⟩ : ∃ founded, founded = rehearsal.replicaFor peer
      ⟨GroupShape.primaryPeer, Rehearsal.objectId, payload⟩ := ⟨_, rfl⟩
  obtain ⟨enrolled, isEnrolled⟩ : ∃ enrolled : Party, enrolled =
      { founded with tally := founded.tally.activateOnce.1 } := ⟨_, rfl⟩
  have sameSetup : enrolled.setup = founded.setup := by rw [isEnrolled]
  have role : enrolled.setup.role = .replica GroupShape.primaryPeer := by
    rw [sameSetup, isFounded]; rfl
  have localPeer : enrolled.setup.localPeer = peer := by
    rw [sameSetup, isFounded]; rfl
  have begins : { rehearsal.stationOf founded with party := enrolled }.Holds
      enrolled (posts.map (Post.envelope payload)) [] :=
    ⟨rfl, by simp [stationOf, channel, sameSetup], rfl⟩
  obtain ⟨reports, votes⟩ := begins.vote role refusal
  have enrolls : founded.enroll refusal = (enrolled, [.vote refusal]) := by
    rw [isEnrolled, isFounded]; rfl
  have works : (rehearsal.stationOf founded).enroll refusal =
      { rehearsal.stationOf founded with party := enrolled }.perform
        (.vote refusal) := by
    simp only [Station.enroll, stationOf, enrolls, Party.opened, Station.follow,
      List.map_cons, List.map_nil, List.foldl_cons, List.foldl_nil,
      Station.discharge]
  have envelope : (⟨enrolled.setup.localPeer, GroupShape.primaryPeer,
      .vote ⟨enrolled.setup.localPeer, enrolled.setup.objectId,
        enrolled.numbering.next, refusal⟩⟩ : Envelope) =
        (Post.ballot peer refusal).envelope payload := by
    rw [isEnrolled, isFounded]; rfl
  rw [← works, envelope] at votes
  obtain ⟨numbered, isNumbered⟩ : ∃ numbered : Party, numbered =
      { enrolled with numbering := enrolled.numbering.advance } := ⟨_, rfl⟩
  rw [← isNumbered] at votes
  have active : numbered.tally.phase = .active := by
    rw [isNumbered, isEnrolled, isFounded]; rfl
  have noted := Party.advancesOn_noteResult numbered (.vote refusal) (.ok ())
  have afterSetup : (numbered.noteResult (.vote refusal) (.ok ())).1.setup =
      enrolled.setup := noted.setup.trans (by rw [isNumbered])
  refine ⟨_, ⟨?_, ?_, ?_⟩, Party.phase_of_vote active refusal, ?_⟩
  · rw [afterSetup, localPeer]
  · rw [afterSetup, role]
  · rw [afterSetup, sameSetup, isFounded]
    rfl
  · rw [← isFounded]
    have held : (List.map (Post.envelope payload) posts ++
        [(Post.ballot peer refusal).envelope payload]) =
          (posts ++ [Post.ballot peer refusal]).map (Post.envelope payload) := by
      simp
    rw [held] at votes
    rw [withReplica_eq votes, ← sameSetup, localPeer]

/-- A prepared replica that is told the decision obeys it; a decided one stays
as it is. -/
theorem phase_of_notice {peer : PeerId} {replica : Party}
    (isReplica : IsReplica peer replica) (decision : Decision)
    (view : GroupView) :
    (replica.tally.phase = .prepared →
      (replica.handle (.noticeReceived decision objectId) view).1.tally.phase =
        decision.phase) ∧
    (replica.tally.isDecided →
      (replica.handle (.noticeReceived decision objectId) view).1.tally.phase =
        replica.tally.phase) := by
  have role : replica.setup.role ≠ .primary := by
    rw [isReplica.role]
    simp
  rw [← isReplica.about]
  constructor
  · intro prepared
    cases decision with
    | commit => exact Party.committed_of_commit_notice view role prepared
    | abort =>
        have aborted := Party.look_notice view role .abort
        simp only [Party.look] at aborted
        rw [aborted]
        simp [Party.closed, Party.obeyAbort, Decision.phase,
          (Party.sameRecord_conclude _).phase, Tally.abort, Tally.isDecided,
          Tally.activateOnce, Phase.isDecided, prepared]
  · intro decided
    exact ((Party.advancesOn_handle replica _ view).sameRecord decided).phase

/-- A replica that is told the decision writes nothing. -/
theorem tell_replica
    (channel : rehearsal.channel = ⟨posts.map (Post.envelope payload), true⟩)
    {peer : PeerId} {replica : Party} (isReplica : IsReplica peer replica)
    (decision : Decision) :
    ∃ after, IsReplica peer after ∧
      (replica.tally.phase = .prepared →
        after.tally.phase = decision.phase) ∧
      (replica.tally.isDecided → after.tally.phase = replica.tally.phase) ∧
      rehearsal.withReplica replica
          (·.handle (.noticeReceived decision objectId)) =
        { rehearsal with replicas := rehearsal.replicas.insert peer after } := by
  have role : replica.setup.role ≠ .primary := by
    rw [isReplica.role]
    simp
  have phases := phase_of_notice isReplica decision rehearsal.group.view
  have advances := Party.advancesOn_handle replica
    (.noticeReceived decision objectId) rehearsal.group.view
  obtain ⟨reports, closes⟩ :=
    Party.hearNotice_reports role decision objectId
  obtain ⟨after, isAfter⟩ : ∃ after, after = (replica.handle
    (.noticeReceived decision objectId) rehearsal.group.view).1 := ⟨_, rfl⟩
  rw [← isAfter] at phases advances
  have begins : { rehearsal.stationOf replica with party := after }.Holds after
      ((posts ++ []).map (Post.envelope payload)) [] :=
    ⟨rfl, by simp [stationOf, channel, advances.setup], rfl⟩
  have ends := begins.reports reports
  have works : (rehearsal.stationOf replica).handle
      (.noticeReceived decision objectId) =
        { rehearsal.stationOf replica with party := after }.closeAll
          (reports.map .report) := by
    rw [isAfter, ← closes]
    simp only [Station.handle, Station.follow, Station.closeAll]
    simp only [Party.handle, Party.closed, List.foldl_map]
    rfl
  rw [← works] at ends
  refine ⟨after, ⟨?_, ?_, ?_⟩, phases.1, phases.2, ?_⟩
  · rw [advances.setup, isReplica.localPeer]
  · rw [advances.setup, isReplica.role]
  · rw [advances.setup, isReplica.about]
  · rw [withReplica_eq ends, isReplica.localPeer, List.append_nil, ← channel]

end Rehearsal

end CreationCommit
