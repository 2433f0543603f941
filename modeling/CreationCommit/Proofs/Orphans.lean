import CreationCommit.Proofs.Lanes

/-!
# Replicas that outlive an abort

Over a network that keeps the order on every lane and loses nothing but
requests, the primary that aborts tells every peer that took part and did not
fail.  A notice that overtakes the request of its peer finds no replica,
however, and the request then founds one that nobody tells to abort.  These are
the only replicas that stay prepared.
-/

namespace CreationCommit

/-- Whether a duty is to send a request. -/
def Duty.isRequest : Duty → Bool
  | .opening (.request _) => true
  | _ => false

/-- Whether an act is local, gives up no call and loses nothing but requests. -/
def Site.losesOnlyRequests (site : Site) (act : Site.Act) : Bool :=
  act.isLocal && !act.isAbandon && (site.lost? act).all (·.duty.isRequest)

theorem Site.keeps_of_losesOnlyRequests {site : Site} {act : Site.Act}
    (loses : site.losesOnlyRequests act = true) : site.keeps act = true := by
  simp only [losesOnlyRequests, keeps, Bool.and_eq_true] at loses ⊢
  refine ⟨loses.1, ?_⟩
  cases isLost : site.lost? act with
  | none => rfl
  | some letter =>
      have isRequest : letter.duty.isRequest = true := by
        simpa [isLost] using loses.2
      cases duty : letter.duty with
      | opening opening => simp [duty, Duty.isNotice]
      | closing closing => simp [duty, Duty.isRequest] at isRequest

namespace Network

variable {network next : Network} {peer : PeerId}

/-- The discipline of a network that keeps the order on every lane, loses
nothing but requests, and founds replicas that activate. -/
def Ordered (network : Network) : Move → Prop
  | .primary act => network.primary.losesOnlyRequests act
  | .replica peer act =>
      (network.replicas.get? peer).all (·.losesOnlyRequests act)
  | .deliver envelope founding =>
      network.transit.find? (·.sharesLane envelope) = some envelope ∧
        founding.refusal = none

instance : (network : Network) → (move : Move) →
    Decidable (network.Ordered move)
  | network, .primary act =>
      inferInstanceAs (Decidable (network.primary.losesOnlyRequests act = true))
  | network, .replica peer act =>
      inferInstanceAs (Decidable
        ((network.replicas.get? peer).all (·.losesOnlyRequests act) = true))
  | network, .deliver envelope founding =>
      inferInstanceAs (Decidable
        (network.transit.find? (·.sharesLane envelope) = some envelope ∧
          founding.refusal = none))

theorem reliable_of_ordered {move : Move} (ordered : network.Ordered move) :
    network.Reliable move := by
  cases move with
  | primary act => exact Site.keeps_of_losesOnlyRequests ordered
  | replica peer act =>
      simp only [Ordered, Reliable] at ordered ⊢
      cases found : network.replicas.get? peer with
      | none => rfl
      | some replica =>
          rw [found] at ordered
          exact Site.keeps_of_losesOnlyRequests ordered
  | deliver envelope founding => exact List.mem_of_find?_eq_some ordered.1

/-- Whether the notice of an abort to a peer was posted before its request. -/
def AbortPrecedesRequest (network : Network) (peer : PeerId) : Prop :=
  Precedes (.closing (.notify .abort peer)) (.opening (.request peer))
    network.posted

section Telling

variable {act : Site.Act} {cause : Option Trigger} {gone : Multiset Duty}
  {taken : Option Letter}

theorem Asks.mem_abortAudience (accounted : network.Accounted)
    (votesFor : ∀ peer cause, ¬ network.HasVoted peer (some cause))
    (asks : network.Asks peer) (stayed : peer ∉ network.departed) :
    peer ∈ network.primary.tally.abortAudience := by
  rw [Tally.mem_abortAudience]
  rcases asks.involves accounted.asksOnce with
    outstanding | acknowledged | failed
  · exact .inr outstanding
  · exact .inl acknowledged
  · rcases accounted.failsFor peer failed with
      departed | ⟨cause, voted⟩ | notAsked
    · exact absurd departed stayed
    · exact absurd voted (votesFor peer cause)
    · exact absurd asks notAsked

/-- Nothing is told but what was decided. -/
theorem Orderly.not_told (orderly : network.Orderly) (decision : Decision)
    (peer : PeerId)
    (otherwise : network.primary.tally.phase ≠ decision.phase) :
    network.owed (.closing (.notify decision peer)) = 0 ∧
      network.sent (.closing (.notify decision peer)) = 0 := by
  constructor
  · exact Multiset.count_eq_zero.2 fun isDue =>
      otherwise (orderly.leads.told decision peer isDue)
  · apply List.countP_eq_zero.2
    intro envelope isPosted isDuty
    have duty : envelope.letter.duty = .closing (.notify decision peer) := by
      simpa using isDuty
    by_cases isHome : envelope.sender = network.home
    · exact otherwise
        ((orderly.fromHome envelope isPosted isHome).2.2 decision peer duty)
    · have isVote := (orderly.fromReplica envelope isPosted isHome).1
      simp [duty, Duty.isVote] at isVote

/-- Each peer that is asked and does not fail is told an abort once. -/
def TellsAbort (network : Network) : Prop :=
  network.primary.tally.phase = .aborted → ∀ peer, network.Asks peer →
    peer ∈ network.primary.tally.abortAudience →
    network.owed (.closing (.notify .abort peer)) +
      network.sent (.closing (.notify .abort peer)) = 1

/-- A decided primary asks nobody new. -/
theorem AtPrimary.asks_of_decided
    (change : AtPrimary network next act cause gone taken)
    (leads : network.primary.Leads) (asksOnce : next.AsksOnce)
    (decided : network.primary.tally.isDecided) (asks : next.Asks peer) :
    network.Asks peer := by
  by_contra notAsked
  have same := change.effect.sameRecord decided
  have involved : network.primary.tally.Involves peer := by
    have nextInvolved := asks.involves asksOnce
    rw [Tally.Involves, same.outstanding, same.acknowledged,
      same.failures] at nextInvolved
    exact nextInvolved
  exact change.not_asks leads involved notAsked asks

theorem TellsAbort.atPrimary (tells : network.TellsAbort)
    (orderly : network.Orderly) (asksOnce : next.AsksOnce)
    (change : AtPrimary network next act cause gone taken)
    (notLost : ∀ decision peer, taken = none →
      .closing (.notify decision peer) ∉ gone) : next.TellsAbort := by
  intro aborted peer asks reached
  have conserved := (change.conserved (.closing (.notify .abort peer))).2
    (notLost .abort peer)
  have leads := orderly.leads
  by_cases already : network.primary.tally.phase = .aborted
  · have decided : network.primary.tally.isDecided :=
      Tally.isDecided_iff.2 (.inr already)
    have same := change.effect.sameRecord decided
    rw [same.abortAudience] at reached
    have told := tells already peer
      (change.asks_of_decided leads asksOnce decided asks) reached
    have nothingNew : (network.primary.react cause).2.count
        (.closing (.notify .abort peer)) = 0 := by
      apply List.count_eq_zero.2
      intro isNew
      rcases change.effect.tally_cases with
        ⟨-, -, nothing⟩ | ⟨trigger, -, -, duties⟩
      · simp [nothing] at isNew
      · rw [duties] at isNew
        exact (Party.consequence_look leads.role leads.sound leads.tidy
          trigger).not_mem_abort_again leads.tidy already reached isNew
    omega
  · obtain ⟨noneOwed, noneSent⟩ := orderly.not_told .abort peer already
    rcases change.effect.tally_cases with
      ⟨-, same, -⟩ | ⟨trigger, -, looked, duties⟩
    · exact absurd (same ▸ aborted) already
    · have undecided : ¬ network.primary.tally.isDecided := by
        intro decided
        exact already
          ((change.effect.sameRecord decided).phase ▸ aborted)
      have isCount : (network.primary.party.look trigger).2.count
          (.closing (.notify .abort peer)) =
            next.primary.tally.abortAudience.count peer := by
        rw [looked]
        exact (Party.consequence_look leads.role leads.sound leads.tidy
          trigger).count_abort undecided (looked ▸ aborted)
      have once : next.primary.tally.abortAudience.count peer = 1 :=
        List.count_eq_one_of_mem
          (leads.effect change.effect).sound.nodup_abortAudience reached
      rw [duties] at conserved
      omega

end Telling

/-- No vote against the creation is due or was posted. -/
structure VotesFor (network : Network) : Prop where
  due : ∀ peer replica, network.replicas.get? peer = some replica →
    ∀ refusal, .opening (.vote refusal) ∈ replica.dues → refusal = none
  posted : ∀ peer cause, ¬ network.HasVoted peer (some cause)

namespace VotesFor

variable {act : Site.Act} {cause : Option Trigger} {gone : Multiset Duty}
  {taken : Option Letter}

theorem atPrimary (votesFor : network.VotesFor) (nextOrderly : next.Orderly)
    (change : AtPrimary network next act cause gone taken) :
    next.VotesFor where
  due := change.replicas ▸ votesFor.due
  posted := by
    intro peer refusal voted
    have sameHome : next.home = network.home :=
      congrArg Setup.localPeer change.effect.setup
    rcases hasVoted_cases change.posted voted with
      earlier | ⟨rfl, letter, rfl, duty⟩
    · exact votesFor.posted peer refusal earlier
    · have isPosted : letter.sentBy network.home ∈ next.posted :=
        (mem_posted change.posted).2 (.inr ⟨letter, rfl, rfl⟩)
      have noVote := (nextOrderly.fromHome _ isPosted sameHome.symm).2.1
      simp [duty, Duty.isVote] at noVote

/-- An activated replica has no other votes than it had. -/
theorem due_of_activated {replica after : Site}
    (follows : replica.Follows)
    (effect : replica.Effect after cause gone taken)
    (activated : replica.tally.activated = true) {refusal : Option String}
    (isDuty : .opening (.vote refusal) ∈ replica.dues ∨
      .opening (.vote refusal) ∈ (replica.react cause).2) :
    .opening (.vote refusal) ∈ replica.dues := by
  rcases isDuty with isDue | isNew
  · exact isDue
  · rcases effect.tally_cases with ⟨-, -, nothing⟩ | ⟨trigger, -, -, duties⟩
    · simp [nothing] at isNew
    · rw [duties] at isNew
      have someVote : 0 < (replica.party.look trigger).2.countP Duty.isVote :=
        List.countP_pos_iff.2 ⟨_, isNew, rfl⟩
      have notBefore := ((follows.votes_look trigger).2 someVote).1
      simp [activated] at notBefore

theorem atReplica (votesFor : network.VotesFor)
    (accounted : network.Accounted) {replica after : Site}
    (change : AtReplica network next peer replica after act cause gone taken) :
    next.VotesFor := by
  have follows := accounted.agrees.orderly.follows peer replica change.found
  have activated := (accounted.setups peer replica change.found).2.2
  constructor
  · intro other site found refusal isDue
    rcases change.found_cases found with ⟨rfl, rfl⟩ | ⟨-, earlier⟩
    · exact votesFor.due other replica change.found refusal
        (due_of_activated follows change.effect activated
          (change.effect.mem_dues isDue))
    · exact votesFor.due other site earlier refusal isDue
  · intro other cause voted
    rcases hasVoted_cases change.posted voted with
      earlier | ⟨-, letter, rfl, duty⟩
    · exact votesFor.posted other cause earlier
    · obtain ⟨rfl, -⟩ := change.turn.taken
      have isGone : Duty.opening (.vote (some cause)) ∈
          ({letter.duty} : Multiset Duty) := by simp [duty]
      have isDue := due_of_activated follows change.effect activated
        (change.effect.mem_gone isGone)
      simpa using votesFor.due peer replica change.found (some cause) isDue

theorem founds (votesFor : network.VotesFor) {founding : Founding}
    {request : CreationRequest} (activates : founding.refusal = none)
    (replicas : next.replicas =
      network.replicas.insert peer (founding.site peer request))
    (posted : next.posted = network.posted) : next.VotesFor := by
  refine ⟨?_, by simpa only [HasVoted, posted] using votesFor.posted⟩
  intro other site found refusal isDue
  rcases PeerMap.get?_insert_cases (replicas ▸ found) with
    ⟨rfl, rfl⟩ | ⟨-, stayed⟩
  · rcases (Orderly.effect_founding founding request).mem_dues isDue with
      earlier | isNew
    · simp at earlier
    · simp only [Site.react, Party.look, Party.opened, Party.enroll,
        activates] at isNew
      split at isNew
      · simp at isNew
      · dsimp only at isNew
        split at isNew
        · simpa using isNew
        · simp at isNew
  · exact votesFor.due other site stayed refusal isDue

theorem of_same (votesFor : network.VotesFor)
    (replicas : next.replicas = network.replicas)
    (posted : next.posted = network.posted) : next.VotesFor where
  due := replicas ▸ votesFor.due
  posted := by simpa only [HasVoted, posted] using votesFor.posted

end VotesFor

section Aborting

variable {replica after : Site} {act : Site.Act} {cause : Option Trigger}
  {gone : Multiset Duty} {taken : Option Letter}

/-- A replica whose vote is for the creation, and is not lost, aborts only when
it is told. -/
theorem told_of_aborted (orderly : network.Orderly) (votesFor : next.VotesFor)
    (change : AtReplica network next peer replica after act cause gone taken)
    (notLost : (replica.lost? act).all (·.duty.isRequest) = true)
    (aborted : after.tally.phase = .aborted) :
    replica.tally.phase = .aborted ∨ ∃ view, cause = some (.command (.handle
      (.noticeReceived .abort replica.setup.objectId) view)) := by
  have follows := orderly.follows peer replica change.found
  rcases change.effect.tally_cases with
    ⟨-, same, -⟩ | ⟨trigger, rfl, looked, -⟩
  · exact .inl (same ▸ aborted)
  · have changed := Party.replicaChange_look follows.role follows.notVoting
      trigger
    rw [← looked] at changed
    cases changed with
    | stays phase => exact .inl (phase ▸ aborted)
    | prepares _ prepared => simp [prepared] at aborted
    | commits _ committed => simp [committed] at aborted
    | aborts report _ _ _ caused =>
        cases reason : report.cause with
        | toldByPrimary =>
            rw [reason] at caused
            obtain ⟨-, view, rfl⟩ := caused
            exact .inr ⟨view, rfl⟩
        | refusedLocally refusal =>
            rw [reason] at caused
            obtain rfl : trigger = .result (.vote (some refusal)) (.ok ()) :=
              caused
            exact absurd (hasVoted_of_result orderly change rfl)
              (votesFor.posted peer refusal)
        | voteUndelivered error =>
            rw [reason] at caused
            obtain ⟨refusal, rfl⟩ := caused
            have turn := change.turn
            cases turn with
            | fails index _ letter _ duty sends =>
                simp [Site.lost?, sends, duty, Duty.isRequest] at notLost
        | tooManyFailures | timedOut =>
            rw [reason] at caused
            exact absurd caused id

end Aborting

/-- Whether the notice of an abort reached a peer after its request. -/
def Heeds (network : Network) (peer : PeerId) : Prop :=
  0 < network.sent (.closing (.notify .abort peer)) ∧
    network.underway (.closing (.notify .abort peer)) = 0 ∧
    ¬ network.AbortPrecedesRequest peer

section Heeding

variable {sender : PeerId} {taken : Option Letter} {envelope : Envelope}

/-- A new letter that is neither the notice nor the request changes nothing. -/
theorem heeds_of_posted
    (posted : next.posted =
      network.posted ++ (taken.map (·.sentBy sender)).toList)
    (transit : next.transit =
      network.transit ++ (taken.map (·.sentBy sender)).toList)
    (noNotice : ∀ letter, taken = some letter →
      letter.duty ≠ .closing (.notify .abort peer))
    (noRequest : ∀ letter, taken = some letter →
      letter.duty ≠ .opening (.request peer)) :
    next.Heeds peer ↔ network.Heeds peer := by
  cases taken with
  | none =>
      simp only [Option.map_none, Option.toList_none,
        List.append_nil] at posted transit
      simp only [Heeds, AbortPrecedesRequest, sent, underway, posted, transit]
  | some letter =>
      have notNotice := noNotice letter rfl
      have notRequest := noRequest letter rfl
      have sameSent : next.sent (.closing (.notify .abort peer)) = _ :=
        sent_of_posted posted
      have sameUnderway : next.underway (.closing (.notify .abort peer)) = _ :=
        underway_of_transit transit
      have sameOrder : next.AbortPrecedesRequest peer ↔
          network.AbortPrecedesRequest peer := by
        rw [AbortPrecedesRequest, AbortPrecedesRequest, posted]
        exact ⟨fun precedes =>
          (precedes_concat precedes).resolve_right notRequest,
          fun precedes => precedes_append precedes _⟩
      simp only [Option.map_some, Option.toList_some, List.count_singleton,
        beq_iff_eq, notNotice, if_false, add_zero] at sameSent sameUnderway
      rw [Heeds, Heeds, sameSent, sameUnderway, sameOrder]

/-- Another letter that arrives changes nothing. -/
theorem heeds_of_erase (isMember : envelope ∈ network.transit)
    (posted : next.posted = network.posted)
    (transit : next.transit = network.transit.erase envelope)
    (notNotice : envelope.letter.duty ≠ .closing (.notify .abort peer)) :
    next.Heeds peer ↔ network.Heeds peer := by
  have erased : next.underway (.closing (.notify .abort peer)) + _ = _ :=
    underway_of_erase isMember transit
  rw [if_neg notNotice, add_zero] at erased
  rw [Heeds, Heeds, erased, AbortPrecedesRequest, AbortPrecedesRequest, sent,
    posted, sent]

end Heeding

/-- What a network that keeps the order always satisfies. -/
structure InOrder (network : Network) : Prop where
  accounted : network.Accounted
  votesFor : network.VotesFor
  tells : network.TellsAbort
  lanes : ∀ sender recipient, lane sender recipient network.transit <:+
    lane sender recipient network.posted
  heeds : ∀ peer replica, network.replicas.get? peer = some replica →
    peer ∉ network.departed →
    (replica.tally.phase = .aborted ↔ network.Heeds peer)

namespace InOrder

variable {act : Site.Act} {cause : Option Trigger} {gone : Multiset Duty}
  {taken : Option Letter} {envelope : Envelope} {replica : Site}

/-- The aborted primary has told each replica, or is about to. -/
theorem told (accounted : network.Accounted) (votesFor : network.VotesFor)
    (tells : network.TellsAbort)
    (found : network.replicas.get? peer = some replica)
    (stayed : peer ∉ network.departed)
    (aborted : network.primary.tally.phase = .aborted) :
    network.owed (.closing (.notify .abort peer)) +
      network.sent (.closing (.notify .abort peer)) = 1 := by
  have asks := accounted.asks_of_found found
  exact tells aborted peer asks
    (asks.mem_abortAudience accounted votesFor.posted stayed)

theorem precedes_iff_lane (orderly : network.Orderly) (peer : PeerId) :
    Precedes (.closing (.notify .abort peer)) (.opening (.request peer))
        (lane network.home peer network.posted) ↔
      network.AbortPrecedesRequest peer := by
  refine precedes_lane ?_ ?_
  · intro envelope isPosted isDuty
    exact ⟨orderly.sender_of_not_vote isPosted (by simp [isDuty, Duty.isVote]),
      recipient_of_notice isDuty⟩
  · intro envelope isPosted isDuty
    exact ⟨orderly.sender_of_not_vote isPosted (by simp [isDuty, Duty.isVote]),
      recipient_of_request isDuty⟩

end InOrder

theorem TellsAbort.of_same (tells : network.TellsAbort)
    (primary : next.primary = network.primary)
    (sent : ∀ duty : Duty, duty.isVote = false →
      next.sent duty = network.sent duty) : next.TellsAbort := by
  intro aborted peer asks reached
  rw [primary] at aborted reached
  rw [Asks, owed, primary, sent _ rfl] at asks
  rw [owed, primary, sent _ rfl]
  exact tells aborted peer asks reached

theorem InOrder.tells_change (inOrder : network.InOrder) {move : Move}
    (change : Change network next move) (reliable : network.Reliable move)
    (accounted : next.Accounted) : next.TellsAbort := by
  have orderly := inOrder.accounted.agrees.orderly
  have samePosted (posted : next.posted = network.posted) (duty : Duty)
      (_ : duty.isVote = false) : next.sent duty = network.sent duty := by
    rw [sent, posted, sent]
  cases change with
  | primaryActs act cause gone taken change =>
      apply inOrder.tells.atPrimary orderly accounted.asksOnce change
      rintro decision peer rfl
      simp only [Reliable, Site.keeps, Bool.and_eq_true,
        Bool.not_eq_true'] at reliable
      exact change.turn.notice_not_lost reliable.1.2 reliable.2 decision peer
  | replicaActs peer replica after act cause gone taken change =>
      exact inOrder.tells.of_same change.primary fun _ notVote =>
        (change.sent_eq orderly notVote).2
  | primaryHears envelope founding event isEvent isHome change =>
      exact inOrder.tells.atPrimary orderly accounted.asksOnce change (by simp)
  | replicaHears envelope founding event replica after isEvent isAway change =>
      exact inOrder.tells.of_same change.primary fun _ notVote =>
        (change.sent_eq orderly notVote).2
  | founds envelope founding request isRequest isAway primary replicas posted =>
      exact inOrder.tells.of_same primary (samePosted posted)
  | loses envelope founding nobody isRequest isNotRequest primary replicas
      posted =>
      exact inOrder.tells.of_same primary (samePosted posted)

theorem InOrder.votesFor_change (inOrder : network.InOrder) {move : Move}
    (change : Change network next move) (ordered : network.Ordered move)
    (accounted : next.Accounted) : next.VotesFor := by
  have votesFor := inOrder.votesFor
  cases change with
  | primaryActs _ _ _ _ change =>
      exact votesFor.atPrimary accounted.agrees.orderly change
  | replicaActs _ _ _ _ _ _ _ change =>
      exact votesFor.atReplica inOrder.accounted change
  | primaryHears _ _ _ _ _ change =>
      exact votesFor.atPrimary accounted.agrees.orderly change
  | replicaHears _ _ _ _ _ _ _ change =>
      exact votesFor.atReplica inOrder.accounted change
  | founds _ _ _ _ _ _ replicas posted =>
      exact votesFor.founds ordered.2 replicas posted
  | loses _ _ _ _ _ _ replicas posted => exact votesFor.of_same replicas posted

theorem InOrder.lanes_change (inOrder : network.InOrder) {move : Move}
    (change : Change network next move) (ordered : network.Ordered move)
    (sender recipient : PeerId) :
    lane sender recipient next.transit <:+
      lane sender recipient next.posted := by
  have isEnd := inOrder.lanes sender recipient
  have arrives {envelope : Envelope} {founding : Founding}
      (ordered : network.Ordered (.deliver envelope founding))
      (transit : next.transit = network.transit.erase envelope)
      (posted : next.posted = network.posted) :
      lane sender recipient next.transit <:+
        lane sender recipient next.posted := by
    rw [transit, posted]
    exact (lane_erase_suffix ordered.1).trans isEnd
  cases change with
  | primaryActs _ _ _ _ change transit =>
      rw [transit, change.posted]
      exact lane_append_suffix isEnd _
  | replicaActs _ _ _ _ _ _ _ change transit =>
      rw [transit, change.posted]
      exact lane_append_suffix isEnd _
  | primaryHears _ _ _ _ _ change transit =>
      exact arrives ordered transit (by simpa using change.posted)
  | replicaHears _ _ _ _ _ _ _ change transit =>
      exact arrives ordered transit (by simpa using change.posted)
  | founds _ _ _ _ _ _ _ posted transit => exact arrives ordered transit posted
  | loses _ _ _ _ _ _ _ posted transit => exact arrives ordered transit posted

section Heeding

variable {act : Site.Act} {cause : Option Trigger} {gone : Multiset Duty}
  {taken : Option Letter} {envelope : Envelope} {replica after : Site}

/-- What the primary posts makes no replica heed an abort. -/
theorem InOrder.heeds_atPrimary (inOrder : network.InOrder)
    (change : AtPrimary network next act cause gone taken)
    (transit : next.transit =
      network.transit ++ (taken.map (·.sentBy network.home)).toList)
    (accounted : next.Accounted) (votesFor : next.VotesFor)
    (tells : next.TellsAbort)
    (found : network.replicas.get? peer = some replica)
    (stays : peer ∉ network.departed) (stayed : peer ∉ next.departed) :
    replica.tally.phase = .aborted ↔ next.Heeds peer := by
  have nextFound : next.replicas.get? peer = some replica := by
    rw [change.replicas, found]
  rw [inOrder.heeds peer replica found stays]
  by_cases isNotice : ∃ letter, taken = some letter ∧
      letter.duty = .closing (.notify .abort peer)
  · obtain ⟨letter, rfl, duty⟩ := isNotice
    have aborted : next.primary.tally.phase = .aborted := by
      have isPosted : letter.sentBy network.home ∈ next.posted :=
        (mem_posted change.posted).2 (.inr ⟨letter, rfl, rfl⟩)
      have sameHome : next.home = network.home :=
        congrArg Setup.localPeer change.effect.setup
      exact (accounted.agrees.orderly.fromHome _ isPosted sameHome.symm).2.2
        .abort peer duty
    have told := InOrder.told accounted votesFor tells nextFound stayed aborted
    have nowSent : next.sent (.closing (.notify .abort peer)) = _ :=
      sent_of_posted change.posted
    have nowUnderway : next.underway (.closing (.notify .abort peer)) = _ :=
      underway_of_transit transit
    simp only [Option.map_some, Option.toList_some, duty,
      List.count_singleton_self] at nowSent nowUnderway
    constructor
    · rintro ⟨before, -⟩
      omega
    · rintro ⟨-, arrived, -⟩
      omega
  · refine (heeds_of_posted change.posted transit ?_ ?_).symm
    · intro letter isTaken duty
      exact isNotice ⟨letter, isTaken, duty⟩
    · rintro letter rfl duty
      have once := (inOrder.accounted.asked found).1
      have onceMore := (accounted.asked nextFound).1
      have nowSent : next.sent (.opening (.request peer)) = _ :=
        sent_of_posted change.posted
      simp only [Option.map_some, Option.toList_some, duty,
        List.count_singleton_self] at nowSent
      omega

/-- A replica that the notice of an abort reaches aborts. -/
theorem InOrder.aborted_of_notice (inOrder : network.InOrder)
    (accounted : next.Accounted)
    (aborted : network.primary.tally.phase = .aborted)
    (change : AtReplica network next peer replica after act
      (some (.command (.handle (.noticeReceived .abort replica.setup.objectId)
        .disconnected))) gone none) :
    after.tally.phase = .aborted := by
  have follows := inOrder.accounted.agrees.orderly.follows peer replica
    change.found
  have decided : after.tally.isDecided := by
    rw [change.effect.tally]
    exact Party.decided_of_abort_notice .disconnected follows.role
  apply (Tally.isDecided_iff.1 decided).resolve_left
  intro committed
  have found : next.replicas.get? peer = some after := by
    simp [change.replicas]
  have primaryCommitted :=
    (accounted.agrees.records peer after found).committed committed
  simp [change.primary, aborted] at primaryCommitted

/-- The notice of an abort that finds a replica came after its request. -/
theorem InOrder.heeds_of_notice (inOrder : network.InOrder)
    (inTransit : envelope ∈ network.transit)
    (isNotice : envelope.letter.duty = .closing (.notify .abort peer))
    (aborted : network.primary.tally.phase = .aborted)
    (found : network.replicas.get? peer = some replica)
    (posted : next.posted = network.posted)
    (transit : next.transit = network.transit.erase envelope)
    (stayed : peer ∉ network.departed) : next.Heeds peer := by
  have orderly := inOrder.accounted.agrees.orderly
  have isPosted := inOrder.accounted.transit.mem inTransit
  have told := InOrder.told inOrder.accounted inOrder.votesFor inOrder.tells
    found stayed aborted
  have erased : next.underway (.closing (.notify .abort peer)) + _ = _ :=
    underway_of_erase inTransit transit
  rw [if_pos isNotice] at erased
  have fewer : network.underway (.closing (.notify .abort peer)) ≤
      network.sent (.closing (.notify .abort peer)) :=
    inOrder.accounted.transit.countP_le
  have isSent : 0 < network.sent (.closing (.notify .abort peer)) := by omega
  refine ⟨by rwa [sent, posted, ← sent], by omega, fun precedes => ?_⟩
  have noneLeft := (inOrder.accounted.asked found).2
  have arrived : ∀ envelope ∈ lane network.home peer network.transit,
      envelope.letter.duty ≠ .opening (.request peer) := by
    intro other inLane isRequest
    exact absurd isRequest
      (by simpa using List.countP_eq_zero.1 noneLeft other (mem_lane.1 inLane).1)
  rw [AbortPrecedesRequest, posted, ← AbortPrecedesRequest,
    ← InOrder.precedes_iff_lane orderly] at precedes
  refine arrived_of_precedes (inOrder.lanes network.home peer) precedes ?_
    arrived envelope (mem_lane.2 ⟨inTransit, ?_, ?_⟩) isNotice
  · refine Nat.le_trans ?_ (Nat.le_of_add_left_le told.le)
    exact List.filter_sublist.countP_le
  · exact orderly.sender_of_not_vote isPosted (by simp [isNotice, Duty.isVote])
  · exact recipient_of_notice isNotice

/-- When the request of a peer arrives, no abort took effect there before. -/
theorem InOrder.not_heeds_of_request (inOrder : network.InOrder)
    (inTransit : envelope ∈ network.transit)
    (isRequest : envelope.letter.duty = .opening (.request peer)) :
    ¬ network.Heeds peer := by
  rintro ⟨isSent, arrived, inTime⟩
  have orderly := inOrder.accounted.agrees.orderly
  have inLane (other : Envelope) (isPosted : other ∈ network.posted)
      (notVote : other.letter.duty.isVote = false)
      (recipient : other.recipient = peer) :
      other ∈ lane network.home peer network.posted :=
    mem_lane.2 ⟨isPosted, orderly.sender_of_not_vote isPosted notVote, recipient⟩
  have isPosted := inOrder.accounted.transit.mem inTransit
  obtain ⟨notice, noticePosted, isNotice⟩ := List.countP_pos_iff.1 isSent
  simp only [decide_eq_true_eq] at isNotice
  refine inTime ((InOrder.precedes_iff_lane orderly peer).1
    (precedes_of_arrived (inOrder.lanes network.home peer) ⟨notice, ?_, isNotice⟩
      ?_ ⟨envelope, mem_lane.2 ⟨inTransit, ?_, ?_⟩, isRequest⟩))
  · exact inLane notice noticePosted (by simp [isNotice, Duty.isVote])
      (recipient_of_notice isNotice)
  · intro other isLeft isDuty
    exact absurd isDuty (by
      simpa using List.countP_eq_zero.1 arrived other (mem_lane.1 isLeft).1)
  · exact orderly.sender_of_not_vote isPosted (by simp [isRequest, Duty.isVote])
  · exact recipient_of_request isRequest

end Heeding

/-- An event aborts a replica just if it is the notice of an abort. -/
theorem InOrder.heeds_event (inOrder : network.InOrder)
    (accounted : next.Accounted) (votesFor : next.VotesFor)
    {envelope : Envelope} {event : Event} {replica after : Site}
    (inTransit : envelope ∈ network.transit)
    (isEvent : envelope.message.event? = some event)
    (change : AtReplica network next envelope.recipient replica after
      (hearing event) (some (heard event)) 0 none)
    (transit : next.transit = network.transit.erase envelope)
    (stayed : envelope.recipient ∉ network.departed) :
    after.tally.phase = .aborted ↔ next.Heeds envelope.recipient := by
  have orderly := inOrder.accounted.agrees.orderly
  by_cases isNotice : envelope.letter.duty =
      .closing (.notify .abort envelope.recipient)
  · have isAbort : event = .noticeReceived .abort replica.setup.objectId := by
      rw [(inOrder.accounted.setups _ replica change.found).2.1]
      exact orderly.event_of_notice (inOrder.accounted.transit.mem inTransit)
        isNotice isEvent
    subst isAbort
    have isPosted := inOrder.accounted.transit.mem inTransit
    have aborted : network.primary.tally.phase = .aborted :=
      (orderly.fromHome envelope isPosted (orderly.sender_of_not_vote isPosted
        (by simp [isNotice, Duty.isVote]))).2.2 .abort _ isNotice
    exact iff_of_true (inOrder.aborted_of_notice accounted aborted change)
      (inOrder.heeds_of_notice inTransit isNotice aborted change.found
        (by simpa using change.posted) transit stayed)
  · rw [heeds_of_erase inTransit (by simpa using change.posted) transit isNotice,
      ← inOrder.heeds _ replica change.found stayed]
    refine ⟨fun aborted => ?_, change.effect.decision_stays .abort⟩
    apply (told_of_aborted orderly votesFor change rfl aborted).resolve_right
    rintro ⟨view, told⟩
    apply isNotice
    have message := message_of_notice (event_of_heard told ▸ isEvent)
    exact Envelope.duty_of_notice message

namespace InOrder

/-- A letter to another peer does not matter to a replica. -/
theorem heeds_elsewhere (inOrder : network.InOrder) {envelope : Envelope}
    {replica : Site} (inTransit : envelope ∈ network.transit)
    (found : network.replicas.get? peer = some replica)
    (posted : next.posted = network.posted)
    (transit : next.transit = network.transit.erase envelope)
    (differs : envelope.recipient ≠ peer) (stayed : peer ∉ network.departed) :
    replica.tally.phase = .aborted ↔ next.Heeds peer := by
  rw [heeds_of_erase inTransit posted transit fun isNotice =>
    differs (recipient_of_notice isNotice)]
  exact inOrder.heeds peer replica found stayed

/-- What a replica does by itself, all its sends being accepted, does not abort
it. -/
theorem heeds_atReplica (inOrder : network.InOrder) (votesFor : next.VotesFor)
    {other : PeerId} {replica site after : Site} {act : Site.Act}
    {cause : Option Trigger} {gone : Multiset Duty} {taken : Option Letter}
    (change : AtReplica network next other site after act cause gone taken)
    (losesOnlyRequests : site.losesOnlyRequests act = true)
    (transit : next.transit =
      network.transit ++ (taken.map (·.sentBy other)).toList)
    (found : next.replicas.get? peer = some replica)
    (stayed : peer ∉ network.departed) :
    replica.tally.phase = .aborted ↔ next.Heeds peer := by
  have orderly := inOrder.accounted.agrees.orderly
  have notTaken (duty : Duty) (notVote : duty.isVote = false)
      (letter : Letter) (isTaken : taken = some letter) :
      letter.duty ≠ duty := by
    rintro rfl
    have noneTaken := (change.sent_eq orderly notVote).1
    simp [isTaken] at noneTaken
  rw [heeds_of_posted change.posted transit (notTaken _ rfl) (notTaken _ rfl)]
  rcases change.found_cases found with ⟨rfl, rfl⟩ | ⟨-, earlier⟩
  · rw [← inOrder.heeds _ site change.found stayed]
    simp only [Site.losesOnlyRequests, Bool.and_eq_true] at losesOnlyRequests
    refine ⟨fun aborted => ?_, change.effect.decision_stays .abort⟩
    refine (told_of_aborted orderly votesFor change losesOnlyRequests.2
      aborted).resolve_right ?_
    rintro ⟨view, rfl⟩
    simp [act_of_command change.turn, Site.Act.isLocal] at losesOnlyRequests
  · exact inOrder.heeds peer replica earlier stayed

theorem heeds_change (inOrder : network.InOrder) {move : Move}
    (change : Change network next move) (ordered : network.Ordered move)
    (reliable : network.Reliable move) (accounted : next.Accounted)
    (votesFor : next.VotesFor) (tells : next.TellsAbort) {replica : Site}
    (found : next.replicas.get? peer = some replica)
    (stayed : peer ∉ next.departed) :
    replica.tally.phase = .aborted ↔ next.Heeds peer := by
  have orderly := inOrder.accounted.agrees.orderly
  cases change with
  | primaryActs act cause gone taken change transit departed =>
      have stayedBefore : peer ∉ network.departed := fun isDeparted =>
        stayed (by simp [departed, isDeparted])
      rw [change.replicas] at found
      exact inOrder.heeds_atPrimary change transit accounted votesFor tells
        found stayedBefore stayed
  | replicaActs other site after act cause gone taken change transit departed =>
      simp only [Ordered, change.found, Option.all_some] at ordered
      exact inOrder.heeds_atReplica votesFor change ordered transit found
        (departed ▸ stayed)
  | primaryHears envelope founding event isEvent isHome change transit
      departed =>
      rw [change.replicas] at found
      exact inOrder.heeds_elsewhere reliable found (by simpa using change.posted)
        transit (isHome ▸ orderly.ne_home found) (departed ▸ stayed)
  | replicaHears envelope founding event site after isEvent isAway change
      transit departed =>
      rw [departed] at stayed
      rcases change.found_cases found with ⟨rfl, rfl⟩ | ⟨differs, earlier⟩
      · exact inOrder.heeds_event accounted votesFor reliable isEvent change
          transit stayed
      · exact inOrder.heeds_elsewhere reliable earlier
          (by simpa using change.posted) transit differs.symm stayed
  | founds envelope founding request isRequest isAway primary replicas posted
      transit departed =>
      rw [departed] at stayed
      rcases PeerMap.get?_insert_cases (replicas ▸ found) with
        ⟨rfl, rfl⟩ | ⟨differs, earlier⟩
      · have duty := Envelope.duty_of_request isRequest
        rw [heeds_of_erase reliable posted transit (by simp [duty])]
        refine iff_of_false ?_ (inOrder.not_heeds_of_request reliable duty)
        simp [phase_founding]
      · exact inOrder.heeds_elsewhere reliable earlier posted transit
          differs.symm stayed
  | loses envelope founding nobody isRequest isNotRequest primary replicas posted
      transit departed =>
      rw [replicas] at found
      refine inOrder.heeds_elsewhere reliable found posted transit ?_
        (departed ▸ stayed)
      rintro rfl
      rcases nobody with isHome | vacant
      · exact orderly.ne_home found isHome.symm
      · exact vacant (PeerMap.mem_of_get? found)

/-- Every change keeps the order. -/
theorem change (inOrder : network.InOrder) {move : Move}
    (change : Change network next move) (ordered : network.Ordered move)
    (unforged : network.Unforged move) : next.InOrder := by
  have reliable := reliable_of_ordered ordered
  have accounted := inOrder.accounted.change change reliable unforged
  have votesFor := inOrder.votesFor_change change ordered accounted
  have tells := inOrder.tells_change change reliable accounted
  exact ⟨accounted, votesFor, tells, inOrder.lanes_change change ordered,
    fun _ _ found stayed => inOrder.heeds_change change ordered reliable
      accounted votesFor tells found stayed⟩

theorem fresh (fresh : network.Fresh) (noReplicas : network.replicas = ∅) :
    network.InOrder where
  accounted := .fresh fresh noReplicas
  votesFor := by
    refine ⟨by simp [noReplicas], ?_⟩
    simp [HasVoted, fresh.posted]
  tells := by
    intro aborted
    obtain ⟨setup, -, primary⟩ := fresh.primary
    simp [primary, Site.start, Session.start, Party.start, Tally.start]
      at aborted
  lanes := by simp [fresh.transit, fresh.posted]
  heeds := by simp [noReplicas]

end InOrder

/-- The order holds in every state of a network that keeps it and starts without
replicas. -/
theorem inOrder_of_reachable {origin : Network} (fresh : origin.Fresh)
    (noReplicas : origin.replicas = ∅)
    (reachable : Reachable Ordered origin network) : network.InOrder :=
  holds_of_reachable (.fresh fresh noReplicas)
    (fun _ inOrder => inOrder.accounted.agrees.orderly.fit)
    (fun _ _ _ inOrder possible ordered change =>
      inOrder.change change ordered
        (inOrder.accounted.unforged possible (reliable_of_ordered ordered)))
    reachable

/-- When everything is at rest after an abort, the replicas of peers that did
not depart are aborted, but for those whose notice was posted before their
request: these stay prepared. -/
theorem prepared_iff_abort_precedes_request {origin : Network}
    (fresh : origin.Fresh) (noReplicas : origin.replicas = ∅)
    (reachable : Reachable Ordered origin network)
    (idle : network.isIdle = true)
    (aborted : network.primary.tally.phase = .aborted) {replica : Site}
    (found : network.replicas.get? peer = some replica)
    (stayed : peer ∉ network.departed) :
    (replica.tally.phase = .prepared ↔ network.AbortPrecedesRequest peer) ∧
      (replica.tally.phase ≠ .prepared → replica.tally.phase = .aborted) := by
  have inOrder := inOrder_of_reachable fresh noReplicas reachable
  have accounted := inOrder.accounted
  have follows := accounted.agrees.orderly.follows peer replica found
  have record := accounted.agrees.records peer replica found
  have notActive := accounted.not_active_of_idle idle found
  simp only [isIdle, Bool.and_eq_true, List.isEmpty_iff] at idle
  obtain ⟨⟨noTransit, primaryRests⟩, -⟩ := idle
  -- At rest the notice was sent and arrived, so only the order is left to ask.
  have heeds : network.Heeds peer ↔ ¬ network.AbortPrecedesRequest peer := by
    have told := InOrder.told accounted inOrder.votesFor inOrder.tells found
      stayed aborted
    rw [owed, Site.dues_of_isIdle primaryRests, Multiset.count_zero,
      zero_add] at told
    simp [Heeds, told, underway, noTransit]
  have notCommitted : replica.tally.phase ≠ .committed := by
    intro committed
    simp [record.committed committed] at aborted
  have isAborted := inOrder.heeds peer replica found stayed
  rw [heeds] at isAborted
  cases phase : replica.tally.phase with
  | active => exact absurd phase notActive
  | voting => exact absurd phase follows.notVoting
  | committed => exact absurd phase notCommitted
  | prepared => simpa [phase] using isAborted
  | aborted => simpa [phase] using isAborted

/-- The request to the second peer is rejected after that to the first was sent,
and the first peer is told the abort. -/
def abortsInTime : List Move :=
  [.primary (.own (.start (.lead (.connected [⟨"home"⟩, ⟨"one"⟩, ⟨"two"⟩])))),
    .primary (.own (.begin 0)),
    .primary (.own (.finish 0 (.ok ()))),
    .primary (.own (.begin 0)),
    .primary (.own (.finish 0 (.error (.rejected ⟨"two"⟩ "unreachable")))),
    .deliver ⟨⟨"home"⟩, ⟨"one"⟩, .request ⟨⟨"home"⟩, ⟨"doc"⟩, []⟩⟩
      ⟨.default, none⟩,
    .replica ⟨"one"⟩ (.own (.begin 0)),
    .replica ⟨"one"⟩ (.own (.finish 0 (.ok ()))),
    .primary (.own (.begin 0)),
    .primary (.own (.finish 0 (.ok ()))),
    .primary (.own (.proceed 0 0)),
    .deliver ⟨⟨"home"⟩, ⟨"one"⟩, .notice .abort ⟨"doc"⟩⟩ ⟨.default, none⟩,
    .replica ⟨"one"⟩ (.own (.proceed 1 0)),
    .deliver ⟨⟨"one"⟩, ⟨"home"⟩, .vote ⟨⟨"one"⟩, ⟨"doc"⟩, 0, none⟩⟩
      ⟨.default, none⟩]

/-- In that run the replica of the first peer is aborted in the end, and so its
notice was not posted before its request. -/
theorem abort_in_time_of_lone :
    ∃ network, Reachable Ordered lone network ∧ network.isIdle = true ∧
      network.primary.tally.phase = .aborted ∧ ∃ replica,
        network.replicas.get? ⟨"one"⟩ = some replica ∧
        replica.tally.phase = .aborted ∧
        ¬ network.AbortPrecedesRequest ⟨"one"⟩ := by
  have run : (lone.runUnder Ordered abortsInTime).map (fun network =>
      (network.isIdle, network.primary.tally.phase,
        decide (⟨"one"⟩ ∈ network.departed),
        (network.replicas.get? ⟨"one"⟩).map (·.tally.phase))) =
        some (true, .aborted, false, some .aborted) := by rfl
  obtain ⟨network, arrives, observed⟩ := Option.map_eq_some_iff.1 run
  simp only [Prod.mk.injEq, decide_eq_false_iff_not] at observed
  obtain ⟨idle, aborted, stayed, isAborted⟩ := observed
  obtain ⟨replica, found, replicaAborted⟩ := Option.map_eq_some_iff.1 isAborted
  have reachable := reachable_of_runUnder .origin arrives
  have orphaned := (prepared_iff_abort_precedes_request fresh_lone rfl reachable
    idle aborted found stayed).1
  refine ⟨network, reachable, idle, aborted, replica, found, replicaAborted, ?_⟩
  rw [← orphaned, replicaAborted]
  simp

/-- The request to the first peer is rejected before that to the second is sent,
so that the second peer is told the abort first and asked then. -/
def abortsTooEarly : List Move :=
  [.primary (.own (.start (.lead (.connected [⟨"home"⟩, ⟨"one"⟩, ⟨"two"⟩])))),
    .primary (.own (.begin 0)),
    .primary (.own (.finish 0 (.error (.rejected ⟨"one"⟩ "unreachable")))),
    .primary (.own (.begin 0)),
    .primary (.own (.finish 0 (.ok ()))),
    .primary (.own (.proceed 0 0)),
    .primary (.own (.begin 0)),
    .primary (.own (.finish 0 (.ok ()))),
    .deliver ⟨⟨"home"⟩, ⟨"two"⟩, .notice .abort ⟨"doc"⟩⟩ ⟨.default, none⟩,
    .deliver ⟨⟨"home"⟩, ⟨"two"⟩, .request ⟨⟨"home"⟩, ⟨"doc"⟩, []⟩⟩
      ⟨.default, none⟩,
    .replica ⟨"two"⟩ (.own (.begin 0)),
    .replica ⟨"two"⟩ (.own (.finish 0 (.ok ()))),
    .deliver ⟨⟨"two"⟩, ⟨"home"⟩, .vote ⟨⟨"two"⟩, ⟨"doc"⟩, 0, none⟩⟩
      ⟨.default, none⟩]

/-- In that run the replica of the second peer is prepared in the end, though
the primary aborted, the second peer did not depart and everything is at
rest. -/
theorem orphan_of_lone :
    ∃ origin network peer replica, origin.Fresh ∧ origin.replicas = ∅ ∧
      Reachable Ordered origin network ∧ network.isIdle = true ∧
      network.primary.tally.phase = .aborted ∧
      network.replicas.get? peer = some replica ∧ peer ∉ network.departed ∧
      replica.tally.phase = .prepared := by
  have run : (lone.runUnder Ordered abortsTooEarly).map (fun network =>
      (network.isIdle, network.primary.tally.phase,
        decide (⟨"two"⟩ ∈ network.departed),
        (network.replicas.get? ⟨"two"⟩).map (·.tally.phase))) =
        some (true, .aborted, false, some .prepared) := by rfl
  obtain ⟨network, arrives, observed⟩ := Option.map_eq_some_iff.1 run
  simp only [Prod.mk.injEq, decide_eq_false_iff_not] at observed
  obtain ⟨idle, aborted, stayed, isPrepared⟩ := observed
  obtain ⟨replica, found, prepared⟩ := Option.map_eq_some_iff.1 isPrepared
  exact ⟨lone, network, ⟨"two"⟩, replica, fresh_lone, rfl,
    reachable_of_runUnder .origin arrives, idle, aborted, found, stayed,
    prepared⟩

end Network

end CreationCommit
