import CreationCommit.Proofs.Mail

/-!
# Atomic commitment

The network may lose, repeat and reorder what was posted, but it forges nothing.
Then a replica commits only if the transport took its yes and the primary
committed, it is told to abort only if the primary aborted, and no peer that the
primary counts among those that acknowledged is aborted once the primary has
committed.
-/

namespace CreationCommit

/-- Whether an act is anything but the arrival of a vote or a notice. -/
def Site.Act.isLocal : Site.Act → Bool
  | .own (.start (.handle (.voteReceived _) _)) => false
  | .own (.start (.handle (.noticeReceived _ _) _)) => false
  | _ => true

namespace Network

/-- The discipline of a network that forges nothing: what arrives was posted at
some time, and a request finds no replica where it founds one. -/
def Unforged (network : Network) : Move → Prop
  | .primary act => act.isLocal
  | .replica _ act => act.isLocal
  | .deliver envelope _ => envelope ∈ network.posted ∧
      (envelope.message.kind = .request →
        envelope.recipient ∉ network.replicas)

instance : (network : Network) → (move : Move) →
    Decidable (network.Unforged move)
  | _, .primary act => inferInstanceAs (Decidable (act.isLocal = true))
  | _, .replica _ act => inferInstanceAs (Decidable (act.isLocal = true))
  | network, .deliver envelope _ =>
      inferInstanceAs (Decidable (envelope ∈ network.posted ∧
        (envelope.message.kind = .request →
          envelope.recipient ∉ network.replicas)))

/-- A primary and replicas of its object, each at a peer of its own, before
anything happened. -/
structure Fresh (network : Network) : Prop where
  primary : ∃ setup, setup.role = .primary ∧ network.primary = .start setup
  replicas : ∀ peer replica, network.replicas.get? peer = some replica →
    ∃ setup, setup.role ≠ .primary ∧ setup.localPeer = peer ∧
      setup.objectId = network.primary.setup.objectId ∧ replica = .start setup
  away : network.home ∉ network.replicas
  posted : network.posted = []
  transit : network.transit = []
  departed : network.departed = []

/-- What the tally of a replica says about its vote and about the primary. -/
structure Record (network : Network) (peer : PeerId) (replica : Site) :
    Prop where
  accepted : replica.tally.phase = .prepared ∨
    replica.tally.phase = .committed → network.HasVoted peer none
  committed : replica.tally.phase = .committed →
    network.primary.tally.phase = .committed
  aborted : ∀ report, replica.tally.abortReport = some report →
    (report.cause = .toldByPrimary ∧
      network.primary.tally.phase = .aborted) ∨
    (report.cause ≠ .toldByPrimary ∧ replica.tally.activated = true ∧
      replica.votesDue = 0 ∧ ¬ network.HasVoted peer none)

/-- What the primary and the replicas know of one another is true. -/
structure Agrees (network : Network) : Prop where
  orderly : network.Orderly
  records : ∀ peer replica, network.replicas.get? peer = some replica →
    network.Record peer replica
  acknowledged : ∀ peer ∈ network.primary.tally.acknowledged,
    network.HasVoted peer none

variable {network next : Network} {peer : PeerId}

section Replica

variable {replica after : Site} {act : Site.Act} {cause : Option Trigger}
  {gone : Multiset Duty} {taken : Option Letter}

/-- When the result of a vote is that it was accepted, it was posted. -/
theorem hasVoted_of_result (orderly : network.Orderly)
    (change : AtReplica network next peer replica after act cause gone taken)
    {refusal : Option String}
    (accepted : cause = some (.result (.vote refusal) (.ok ()))) :
    next.HasVoted peer refusal := by
  have turn := change.turn
  cases turn with
  | delivers index opening letter duty sends =>
      obtain rfl : opening = .vote refusal := by simpa using accepted
      exact ⟨letter.sentBy peer, (mem_posted change.posted).2
        (.inr ⟨letter, rfl, rfl⟩), rfl, duty⟩
  | learns index opening letter duty carries =>
      obtain rfl : opening = .vote refusal := by simpa using accepted
      exact ⟨letter.sentBy peer, (mem_posted change.posted).2
        (.inl (orderly.carried peer replica change.found letter carries)),
        rfl, duty⟩
  | launches | examines | fails => simp at accepted
  | hands | tells | drops | reports | rests | abandons => simp at accepted

/-- When the result of a vote is an error, it is not posted and no vote is left. -/
theorem mute_of_error (orderly : network.Orderly)
    (change : AtReplica network next peer replica after act cause gone taken)
    {refusal : Option String} {error : DeliveryError}
    (failed : cause = some (.result (.vote refusal) (.error error))) :
    after.votesDue = 0 ∧ next.votesPosted peer = 0 ∧
      after.tally.activated = true := by
  obtain ⟨atMostOne, quiet⟩ := orderly.votes peer replica change.found
  obtain ⟨-, same⟩ :=
    (orderly.follows peer replica change.found).votesDue_effect change.effect
  have spent := same (.inr (.inr ⟨_, _, failed⟩))
  have turn := change.turn
  have posted := change.posted
  cases turn with
  | fails index opening letter _ duty sends =>
      obtain ⟨rfl, -⟩ : opening = .vote refusal ∧ _ = error := by
        simpa using failed
      rw [countP_singleton_vote rfl] at spent
      have samePosted : next.votesPosted peer = network.votesPosted peer := by
        rw [votesPosted, posted, votesPosted]
        simp
      refine ⟨by omega, by omega, ?_⟩
      by_contra notAfter
      have notBefore : replica.tally.activated = false := by
        rw [← Bool.not_eq_true]
        exact fun before => notAfter (change.effect.activated before)
      have := quiet notBefore
      omega
  | launches | examines | delivers | learns => simp at failed
  | hands | tells | drops | reports | rests | abandons => simp at failed

/-- A replica that has no vote left, and has not voted for, never will. -/
theorem stays_mute (orderly : network.Orderly)
    (change : AtReplica network next peer replica after act cause gone taken)
    (activated : replica.tally.activated = true) (noneDue : replica.votesDue = 0)
    (notYes : ¬ network.HasVoted peer none) :
    after.tally.activated = true ∧ after.votesDue = 0 ∧
      ¬ next.HasVoted peer none := by
  obtain ⟨-, same⟩ :=
    (orderly.follows peer replica change.found).votesDue_effect change.effect
  have spent := same (.inl activated)
  refine ⟨change.effect.activated activated, by omega, fun yes => ?_⟩
  rcases hasVoted_cases change.posted yes with earlier | ⟨-, letter, rfl, duty⟩
  · exact notYes earlier
  · obtain ⟨rfl, -⟩ := change.turn.taken
    rw [duty, countP_singleton_vote rfl] at spent
    omega

end Replica

/-- A notice that reaches a replica tells what the primary decided. -/
def ToldTruly (network : Network) (cause : Option Trigger) : Prop :=
  ∀ decision objectId view,
    cause = some (.command
      (.handle (.noticeReceived decision objectId) view)) →
    network.primary.tally.phase = decision.phase

/-- A vote that reaches the primary was cast by its voter. -/
def HeardTruly (network : Network) (cause : Option Trigger) : Prop :=
  ∀ vote view, cause = some (.command (.handle (.voteReceived vote) view)) →
    network.HasVoted vote.voter vote.refusal

namespace Record

variable {replica after : Site} {act : Site.Act} {cause : Option Trigger}
  {gone : Multiset Duty} {taken : Option Letter}

/-- The record stays true as long as the replica's record does not change. -/
theorem stays (record : network.Record peer replica)
    (orderly : network.Orderly)
    (change : AtReplica network next peer replica after act cause gone taken)
    (phase : after.tally.phase = replica.tally.phase)
    (report : after.tally.abortReport = replica.tally.abortReport) :
    next.Record peer after where
  accepted := by
    rw [phase]
    exact fun accepted =>
      hasVoted_of_posted change.posted (record.accepted accepted)
  committed := by
    rw [phase, change.primary]
    exact record.committed
  aborted := by
    rw [report, change.primary]
    intro report reported
    rcases record.aborted report reported with
      told | ⟨notTold, activated, noneDue, notYes⟩
    · exact .inl told
    · exact .inr ⟨notTold, stays_mute orderly change activated noneDue notYes⟩

/-- A report that a look of the replica makes is true. -/
theorem of_abort (orderly : network.Orderly) (nextOrderly : next.Orderly)
    (change : AtReplica network next peer replica after act cause gone taken)
    (toldTruly : network.ToldTruly cause) {trigger : Trigger}
    (isCause : cause = some trigger)
    (aborted : after.tally.phase = .aborted) {report : AbortReport}
    (reported : after.tally.abortReport = some report)
    (caused : trigger.Causes replica.setup (.abort report.cause)) :
    next.Record peer after := by
  refine ⟨by simp [aborted], by simp [aborted], ?_⟩
  intro other otherReported
  obtain rfl : report = other := by simpa [reported] using otherReported
  have found : next.replicas.get? peer = some after := by
    simp [change.replicas]
  cases cause : report.cause with
  | toldByPrimary =>
      rw [cause] at caused
      obtain ⟨-, view, rfl⟩ := caused
      rw [change.primary]
      exact .inl ⟨rfl, toldTruly .abort _ view isCause⟩
  | refusedLocally refusal =>
      rw [cause] at caused
      obtain rfl : trigger = .result (.vote (some refusal)) (.ok ()) := caused
      have refused := hasVoted_of_result orderly change isCause
      obtain ⟨atMostOne, quiet⟩ := nextOrderly.votes peer after found
      have posted := refused.votesPosted_pos
      refine .inr ⟨by simp, ?_, by omega, fun yes => ?_⟩
      · by_contra notActivated
        have := quiet (by simpa using notActivated)
        omega
      · simpa using refused.unique (by omega) yes
  | voteUndelivered error =>
      rw [cause] at caused
      obtain ⟨refusal, rfl⟩ := caused
      obtain ⟨noneDue, nonePosted, activated⟩ :=
        mute_of_error orderly change isCause
      refine .inr ⟨by simp, activated, noneDue, fun yes => ?_⟩
      have := yes.votesPosted_pos
      omega
  | tooManyFailures | timedOut =>
      rw [cause] at caused
      exact absurd caused id

/-- A replica's act keeps its record true. -/
theorem atReplica (record : network.Record peer replica)
    (orderly : network.Orderly) (nextOrderly : next.Orderly)
    (change : AtReplica network next peer replica after act cause gone taken)
    (toldTruly : network.ToldTruly cause) : next.Record peer after := by
  have follows := orderly.follows peer replica change.found
  rcases change.effect.tally_cases with
    ⟨-, same, -⟩ | ⟨trigger, isCause, looked, -⟩
  · exact record.stays orderly change (by rw [same]) (by rw [same])
  · have changed := Party.replicaChange_look follows.role follows.notVoting
      trigger
    rw [← looked] at changed
    cases changed with
    | stays phase report => exact record.stays orderly change phase report
    | prepares _ prepared accepted =>
        have noReport := (follows.effect change.effect).sound.abortReport_eq_none
          (by simp [prepared])
        refine ⟨fun _ => ?_, by simp [prepared], by simp [noReport]⟩
        exact hasVoted_of_result orderly change (by rw [isCause, accepted])
    | commits prepared committed told =>
        have noReport := (follows.effect change.effect).sound.abortReport_eq_none
          (by simp [committed])
        obtain ⟨-, view, rfl⟩ := told
        refine ⟨fun _ => ?_, fun _ => ?_, by simp [noReport]⟩
        · exact hasVoted_of_posted change.posted
            (record.accepted (.inl prepared))
        · rw [change.primary]
          exact toldTruly .commit _ view isCause
    | aborts report _ aborted reported caused =>
        exact of_abort orderly nextOrderly change toldTruly isCause aborted
          reported caused

/-- What happens elsewhere leaves a record true. -/
theorem elsewhere (record : network.Record peer replica)
    {sender : PeerId} {taken : Option Letter}
    (posted : next.posted =
      network.posted ++ (taken.map (·.sentBy sender)).toList)
    (differs : sender ≠ peer)
    (decided : network.primary.tally.isDecided →
      next.primary.tally.phase = network.primary.tally.phase) :
    next.Record peer replica where
  accepted := fun accepted =>
    hasVoted_of_posted posted (record.accepted accepted)
  committed := by
    intro committed
    have phase := record.committed committed
    rw [decided (Tally.isDecided_iff.2 (.inl phase)), phase]
  aborted := by
    intro report reported
    rcases record.aborted report reported with
      ⟨told, phase⟩ | ⟨notTold, activated, noneDue, notYes⟩
    · refine .inl ⟨told, ?_⟩
      rw [decided (Tally.isDecided_iff.2 (.inr phase)), phase]
    · refine .inr ⟨notTold, activated, noneDue, fun yes => ?_⟩
      rcases hasVoted_cases posted yes with earlier | ⟨isSender, -⟩
      · exact notYes earlier
      · exact differs isSender

end Record

section Arrival

variable {envelope : Envelope}

theorem message_of_vote {message : Message} {vote : Vote}
    (isEvent : message.event? = some (.voteReceived vote)) :
    message = .vote vote := by
  cases message <;> simp_all [Message.event?]

theorem message_of_notice {message : Message} {decision : Decision}
    {objectId : ObjectId}
    (isEvent : message.event? = some (.noticeReceived decision objectId)) :
    message = .notice decision objectId := by
  cases message <;> simp_all [Message.event?]

theorem event_of_heard {event known : Event} {view : GroupView}
    (isCause : some (heard event) = some (.command (.handle known view))) :
    event = known := by
  simp only [heard, Option.some.injEq, Trigger.command.injEq,
    Command.handle.injEq] at isCause
  exact isCause.1

/-- A vote that was posted is a vote of its voter. -/
theorem heardTruly_of_posted (orderly : network.Orderly)
    (isPosted : envelope ∈ network.posted) {event : Event}
    (isEvent : envelope.message.event? = some event) :
    network.HeardTruly (some (heard event)) := by
  intro vote view isCause
  obtain rfl : event = .voteReceived vote := event_of_heard isCause
  have isVote := message_of_vote isEvent
  have duty := Envelope.duty_of_vote isVote
  by_cases isHome : envelope.sender = network.home
  · have noVote := (orderly.fromHome envelope isPosted isHome).2.1
    simp [duty, Duty.isVote] at noVote
  · obtain ⟨-, replica, found, writes⟩ :=
      orderly.fromReplica envelope isPosted isHome
    simp only [Setup.Writes, Envelope.letter, isVote] at writes
    refine ⟨envelope, isPosted, ?_, duty⟩
    rw [writes.2.1, orderly.localPeer _ replica found]

/-- A notice that was posted tells what the primary decided. -/
theorem toldTruly_of_posted (orderly : network.Orderly)
    (isPosted : envelope ∈ network.posted) {event : Event}
    (isEvent : envelope.message.event? = some event) :
    network.ToldTruly (some (heard event)) := by
  intro decision objectId view isCause
  obtain rfl : event = .noticeReceived decision objectId :=
    event_of_heard isCause
  have isNotice := message_of_notice isEvent
  have duty := Envelope.duty_of_notice isNotice
  by_cases isHome : envelope.sender = network.home
  · exact (orderly.fromHome envelope isPosted isHome).2.2 _ _ duty
  · have isVote := (orderly.fromReplica envelope isPosted isHome).1
    simp [duty, Duty.isVote] at isVote

/-- A command that is the cause of an act is the one the act starts. -/
theorem act_of_command {site : Site} {act : Site.Act} {command : Command}
    {gone : Multiset Duty} {taken : Option Letter}
    (turn : site.Turn act (some (.command command)) gone taken) :
    act = .own (.start command) := by
  cases turn with
  | launches => rfl

theorem heardTruly_of_isLocal {site : Site} {act : Site.Act}
    {cause : Option Trigger} {gone : Multiset Duty} {taken : Option Letter}
    (turn : site.Turn act cause gone taken) (isLocal : act.isLocal = true) :
    network.HeardTruly cause := by
  rintro vote view rfl
  simp [act_of_command turn, Site.Act.isLocal] at isLocal

theorem toldTruly_of_isLocal {site : Site} {act : Site.Act}
    {cause : Option Trigger} {gone : Multiset Duty} {taken : Option Letter}
    (turn : site.Turn act cause gone taken) (isLocal : act.isLocal = true) :
    network.ToldTruly cause := by
  rintro decision objectId view rfl
  simp [act_of_command turn, Site.Act.isLocal] at isLocal

end Arrival

theorem phase_founding (founding : Founding) (peer : PeerId)
    (request : CreationRequest) :
    (founding.site peer request).tally.phase = .active := by
  rw [(Orderly.effect_founding founding request).tally]
  simp only [Site.react, Party.look, Party.opened, Party.enroll]
  split <;> rfl

namespace Agrees

variable {act : Site.Act} {cause : Option Trigger} {gone : Multiset Duty}
  {taken : Option Letter}

theorem fresh (fresh : network.Fresh) : network.Agrees := by
  obtain ⟨setup, role, primary⟩ := fresh.primary
  have started (peer : PeerId) (replica : Site)
      (found : network.replicas.get? peer = some replica) :
      ∃ setup, setup.role ≠ .primary ∧ setup.localPeer = peer ∧
        replica = .start setup := by
    obtain ⟨setup, role, localPeer, -, isStart⟩ :=
      fresh.replicas peer replica found
    exact ⟨setup, role, localPeer, isStart⟩
  refine ⟨?_, ?_, ?_⟩
  · refine
      { leads := primary ▸ .start role
        follows := ?_
        localPeer := ?_
        away := fresh.away
        fromHome := by simp [fresh.posted]
        fromReplica := by simp [fresh.posted]
        carriedHome := ?_
        carried := ?_
        votes := ?_ }
    · intro peer replica found
      obtain ⟨setup, role, -, rfl⟩ := started peer replica found
      exact .start role
    · intro peer replica found
      obtain ⟨setup, -, localPeer, rfl⟩ := started peer replica found
      exact localPeer
    · intro letter carries
      rw [primary] at carries
      exact absurd carries (Site.not_carries_start setup letter)
    · intro peer replica found letter carries
      obtain ⟨setup, -, -, rfl⟩ := started peer replica found
      exact absurd carries (Site.not_carries_start setup letter)
    · intro peer replica found
      obtain ⟨setup, -, -, rfl⟩ := started peer replica found
      simp [votesPosted, fresh.posted, Site.votesDue]
  · intro peer replica found
    obtain ⟨setup, -, -, rfl⟩ := started peer replica found
    constructor <;>
      simp [Site.start, Session.start, Party.start, Site.tally, Tally.start]
  · rw [primary]
    simp [Site.start, Session.start, Party.start, Site.tally, Tally.start]

theorem atPrimary (agrees : network.Agrees)
    (change : AtPrimary network next act cause gone taken)
    (heardTruly : network.HeardTruly cause) : next.Agrees where
  orderly := agrees.orderly.atPrimary change
  records := by
    intro peer replica found
    rw [change.replicas] at found
    exact (agrees.records peer replica found).elsewhere change.posted
      (agrees.orderly.ne_home found)
      (fun decided => (change.effect.sameRecord decided).phase)
  acknowledged := by
    intro peer acknowledged
    suffices network.HasVoted peer none from
      hasVoted_of_posted change.posted this
    rcases change.effect.tally_cases with
      ⟨-, same, -⟩ | ⟨trigger, isCause, looked, -⟩
    · exact agrees.acknowledged peer (same ▸ acknowledged)
    · rw [looked] at acknowledged
      rcases (Party.advancesOn_look _ trigger).mem_acknowledged acknowledged with
        earlier | ⟨-, vote, view, -, rfl, yes, rfl⟩
      · exact agrees.acknowledged peer earlier
      · exact yes ▸ heardTruly vote view isCause

theorem atReplica (agrees : network.Agrees) {replica after : Site}
    (change : AtReplica network next peer replica after act cause gone taken)
    (toldTruly : network.ToldTruly cause) : next.Agrees where
  orderly := agrees.orderly.atReplica change
  records := by
    intro other site found
    rcases change.found_cases found with ⟨rfl, rfl⟩ | ⟨differs, earlier⟩
    · exact (agrees.records other replica change.found).atReplica agrees.orderly
        (agrees.orderly.atReplica change) change toldTruly
    · exact (agrees.records other site earlier).elsewhere change.posted
        (Ne.symm differs) (fun _ => by rw [change.primary])
  acknowledged := by
    rw [change.primary]
    exact fun other acknowledged =>
      hasVoted_of_posted change.posted (agrees.acknowledged other acknowledged)

/-- A change of nothing but the transit keeps the agreement. -/
theorem of_same (agrees : network.Agrees)
    (primary : next.primary = network.primary)
    (replicas : next.replicas = network.replicas)
    (posted : next.posted = network.posted) : next.Agrees := by
  refine ⟨agrees.orderly.of_same primary replicas posted, ?_, ?_⟩
  · intro peer replica found
    rw [replicas] at found
    obtain ⟨accepted, committed, aborted⟩ := agrees.records peer replica found
    constructor
    · simpa only [HasVoted, posted] using accepted
    · simpa only [primary] using committed
    · simpa only [HasVoted, posted, primary] using aborted
  · simpa only [HasVoted, posted, primary] using agrees.acknowledged

/-- A replica that has just been founded has nothing on record. -/
theorem record_founding (founding : Founding) (request : CreationRequest) :
    network.Record peer (founding.site peer request) := by
  have phase := phase_founding founding peer request
  have noReport : (founding.site peer request).tally.abortReport = none :=
    (Orderly.follows_founding founding request).sound.abortReport_eq_none
      (by simp [phase])
  exact ⟨by simp [phase], by simp [phase], by simp [noReport]⟩

theorem founds (agrees : network.Agrees) (founding : Founding)
    (request : CreationRequest) (notHome : peer ≠ network.home)
    (vacant : peer ∉ network.replicas)
    (primary : next.primary = network.primary)
    (replicas : next.replicas =
      network.replicas.insert peer (founding.site peer request))
    (posted : next.posted = network.posted) : next.Agrees where
  orderly := agrees.orderly.founds founding request notHome vacant primary
    replicas posted
  records := by
    intro other site found
    rcases PeerMap.get?_insert_cases (replicas ▸ found) with
      ⟨rfl, rfl⟩ | ⟨-, earlier⟩
    · exact record_founding founding request
    · obtain ⟨accepted, committed, aborted⟩ := agrees.records other site earlier
      constructor
      · simpa only [HasVoted, posted] using accepted
      · simpa only [primary] using committed
      · simpa only [HasVoted, posted, primary] using aborted
  acknowledged := by
    simpa only [HasVoted, posted, primary] using agrees.acknowledged

/-- Every change that forges nothing keeps the agreement. -/
theorem change (agrees : network.Agrees) {move : Move}
    (change : Change network next move) (unforged : network.Unforged move) :
    next.Agrees := by
  cases change with
  | primaryActs act cause gone taken change =>
      exact agrees.atPrimary change (heardTruly_of_isLocal change.turn unforged)
  | replicaActs peer replica after act cause gone taken change =>
      exact agrees.atReplica change (toldTruly_of_isLocal change.turn unforged)
  | primaryHears envelope founding event isEvent isHome change =>
      exact agrees.atPrimary change
        (heardTruly_of_posted agrees.orderly unforged.1 isEvent)
  | replicaHears envelope founding event replica after isEvent isAway change =>
      exact agrees.atReplica change
        (toldTruly_of_posted agrees.orderly unforged.1 isEvent)
  | founds envelope founding request isRequest isAway primary replicas posted =>
      exact agrees.founds founding request isAway
        (unforged.2 (by simp [isRequest, Message.kind])) primary replicas posted
  | loses _ _ _ _ _ primary replicas posted =>
      exact agrees.of_same primary replicas posted

end Agrees

/-- The agreement holds in every state that a network reaches without forging
anything. -/
theorem agrees_of_reachable {origin : Network} (fresh : origin.Fresh)
    (reachable : Reachable Unforged origin network) : network.Agrees :=
  holds_of_reachable (.fresh fresh) (fun _ agrees => agrees.orderly.fit)
    (fun _ _ _ agrees _ unforged change => agrees.change change unforged)
    reachable

/-- A replica commits only after the transport took its yes, and only together
with the primary; it is told to abort only if the primary aborted; a peer that
the primary counts as acknowledged is not aborted once the primary committed;
and so no replica commits while another is told to abort. -/
theorem atomic_commitment {origin : Network} (fresh : origin.Fresh)
    (reachable : Reachable Unforged origin network) :
    (∀ peer replica, network.replicas.get? peer = some replica →
      replica.tally.phase = .committed →
      network.HasVoted peer none ∧ network.primary.tally.phase = .committed) ∧
    (∀ peer replica report, network.replicas.get? peer = some replica →
      replica.tally.abortReport = some report →
      report.cause = .toldByPrimary →
      network.primary.tally.phase = .aborted) ∧
    (network.primary.tally.phase = .committed →
      ∀ peer ∈ network.primary.tally.acknowledged,
      ∀ replica, network.replicas.get? peer = some replica →
      replica.tally.phase ≠ .aborted) ∧
    ¬ ∃ peer replica other site report,
      network.replicas.get? peer = some replica ∧
      replica.tally.phase = .committed ∧
      network.replicas.get? other = some site ∧
      site.tally.abortReport = some report ∧
      report.cause = .toldByPrimary := by
  have agrees := agrees_of_reachable fresh reachable
  have commits (peer : PeerId) (replica : Site)
      (found : network.replicas.get? peer = some replica)
      (committed : replica.tally.phase = .committed) :
      network.HasVoted peer none ∧
        network.primary.tally.phase = .committed :=
    have record := agrees.records peer replica found
    ⟨record.accepted (.inr committed), record.committed committed⟩
  have aborts (peer : PeerId) (replica : Site) (report : AbortReport)
      (found : network.replicas.get? peer = some replica)
      (reported : replica.tally.abortReport = some report)
      (told : report.cause = .toldByPrimary) :
      network.primary.tally.phase = .aborted := by
    rcases (agrees.records peer replica found).aborted report reported with
      ⟨-, aborted⟩ | ⟨notTold, -⟩
    · exact aborted
    · exact absurd told notTold
  refine ⟨commits, aborts, ?_, ?_⟩
  · intro committed peer acknowledged replica found aborted
    have sound := (agrees.orderly.follows peer replica found).sound
    obtain ⟨report, reported⟩ := Option.isSome_iff_exists.1
      (sound.reported.2 aborted)
    rcases (agrees.records peer replica found).aborted report reported with
      ⟨-, primaryAborted⟩ | ⟨-, -, -, notYes⟩
    · simp [committed] at primaryAborted
    · exact notYes (agrees.acknowledged peer acknowledged)
  · rintro ⟨peer, replica, other, site, report, found, committed, otherFound,
      reported, told⟩
    have primaryCommitted := (commits peer replica found committed).2
    have primaryAborted := aborts other site report otherFound reported told
    simp [primaryCommitted] at primaryAborted

/-- A primary and the replica of one other peer before anything happened. -/
def pair : Network :=
  .start (.primary ⟨"doc"⟩ ⟨"home"⟩)
    ((∅ : PeerMap Site).insert ⟨"away"⟩
      (.start (.replica ⟨"doc"⟩ ⟨"away"⟩ ⟨"home"⟩)))

theorem fresh_pair : pair.Fresh where
  primary := ⟨_, rfl, rfl⟩
  replicas := by
    intro peer replica found
    rcases PeerMap.get?_insert_cases found with ⟨rfl, rfl⟩ | ⟨-, earlier⟩
    · exact ⟨.replica ⟨"doc"⟩ ⟨"away"⟩ ⟨"home"⟩, by simp [Setup.replica], rfl,
        rfl, rfl⟩
    · simp at earlier
  away := by decide
  posted := rfl
  transit := rfl
  departed := rfl

/-- The replica's vote arrives while its send still lasts, and the primary's
notice arrives before the replica's peer is asked at all. -/
def pairCommits : List Move :=
  [.replica ⟨"away"⟩ (.own (.start (.enroll none))),
    .replica ⟨"away"⟩ (.own (.begin 0)),
    .replica ⟨"away"⟩ (.hand 0),
    .primary (.own (.start (.lead (.connected [⟨"home"⟩, ⟨"away"⟩])))),
    .deliver ⟨⟨"away"⟩, ⟨"home"⟩, .vote ⟨⟨"away"⟩, ⟨"doc"⟩, 0, none⟩⟩
      ⟨.default, none⟩,
    .replica ⟨"away"⟩ (.own (.finish 0 (.ok ()))),
    .primary (.own (.start .await)),
    .primary (.own (.proceed 2 0)),
    .primary (.own (.proceed 2 0)),
    .primary (.own (.begin 2)),
    .primary (.own (.finish 2 (.ok ()))),
    .deliver ⟨⟨"home"⟩, ⟨"away"⟩, .notice .commit ⟨"doc"⟩⟩ ⟨.default, none⟩]

/-- The replica of the pair commits in a run, and then the transport took its
yes and the primary has committed. -/
theorem atomic_commitment_of_pair :
    ∃ network, Reachable Unforged pair network ∧
      ∃ replica, network.replicas.get? ⟨"away"⟩ = some replica ∧
        replica.tally.phase = .committed ∧ network.HasVoted ⟨"away"⟩ none ∧
        network.primary.tally.phase = .committed := by
  have run : (pair.runUnder Unforged pairCommits).map (fun network =>
      (network.replicas.get? ⟨"away"⟩).map (·.tally.phase)) =
        some (some .committed) := by rfl
  obtain ⟨network, arrives, isCommitted⟩ := Option.map_eq_some_iff.1 run
  obtain ⟨replica, found, committed⟩ := Option.map_eq_some_iff.1 isCommitted
  have reachable := reachable_of_runUnder .origin arrives
  have commits := (atomic_commitment fresh_pair reachable).1
  exact ⟨network, reachable, replica, found, committed,
    commits _ replica found committed⟩

end Network

end CreationCommit
