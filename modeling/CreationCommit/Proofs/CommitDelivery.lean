import CreationCommit.Proofs.Reliable

/-!
# A commit reaches all that acknowledged

Over a reliable network on which a replica records the result of its vote at
once, every yes arrives while the primary still waits for it, and its voter is
acknowledged from then on.  So the peers that the primary tells of the commit
are just those whose replicas are prepared.
-/

namespace CreationCommit

/-- Whether an act does not let the transport take a vote whose send lasts. -/
def Site.recordsVote (site : Site) : Act → Bool
  | .hand index => (site.sending? index).all (!·.duty.isVote)
  | _ => true

theorem Tally.acknowledged_resolve (tally : Tally) (threshold : Nat) :
    (tally.resolve threshold).1.acknowledged = tally.acknowledged := by
  unfold Tally.resolve Tally.abort
  (repeat' split) <;> rfl

/-- A yes of an outstanding peer acknowledges the peer. -/
theorem Party.acknowledged_of_yes {party : Party} {vote : Vote}
    (role : party.setup.role = .primary)
    (about : vote.objectId = party.setup.objectId) (yes : vote.refusal = none)
    (voting : party.tally.phase = .voting)
    (outstanding : vote.voter ∈ party.tally.outstanding) (view : GroupView) :
    vote.voter ∈ (party.look (.command
      (.handle (.voteReceived vote) view))).1.tally.acknowledged := by
  have primary := Party.isPrimary_iff.2 role
  simp only [look, handle, closed, hearVote, primary, about, and_self, if_true,
    weigh, voting, yes]
  rw [(sameRecord_conclude _).acknowledged]
  simp [resolve, Tally.acknowledged_resolve, Tally.noteYes, voting, outstanding]

namespace Network

variable {network next : Network} {peer : PeerId}

/-- The discipline of a reliable network on which a vote is taken only as its
send ends, so that its result is recorded at once. -/
def Prompt (network : Network) : Move → Prop
  | .primary act => network.primary.keeps act
  | .replica peer act => (network.replicas.get? peer).all fun replica =>
      replica.keeps act && replica.recordsVote act
  | .deliver envelope _ => envelope ∈ network.transit

instance : (network : Network) → (move : Move) → Decidable (network.Prompt move)
  | network, .primary act =>
      inferInstanceAs (Decidable (network.primary.keeps act = true))
  | network, .replica peer act =>
      inferInstanceAs (Decidable ((network.replicas.get? peer).all
        (fun replica => replica.keeps act && replica.recordsVote act) = true))
  | network, .deliver envelope _ =>
      inferInstanceAs (Decidable (envelope ∈ network.transit))

theorem reliable_of_prompt {move : Move} (prompt : network.Prompt move) :
    network.Reliable move := by
  cases move with
  | primary act => exact prompt
  | replica peer act =>
      simp only [Prompt, Reliable, Option.all_eq_true, Bool.and_eq_true]
        at prompt ⊢
      exact fun replica found => (prompt replica found).1
  | deliver envelope founding => exact prompt

/-- The number of votes of a peer that are in transit. -/
def votesUnderway (network : Network) (peer : PeerId) : Nat :=
  network.transit.countP (Envelope.isVoteOf peer)

/-- The peers that the primary has set out to tell of the commit. -/
def commitAudience (network : Network) : List PeerId :=
  if network.primary.tally.finalized = true ∧
      network.primary.tally.phase = .committed then
    network.primary.tally.acknowledged
  else
    []

/-- Whether the yes of a peer is in transit or was counted, unless the primary
aborted. -/
def Arrives (network : Network) (peer : PeerId) : Prop :=
  0 < network.votesUnderway peer ∨
    peer ∈ network.primary.tally.acknowledged ∨
    network.primary.tally.phase = .aborted

/-- What a network always satisfies that records votes at once. -/
structure InTouch (network : Network) : Prop where
  accounted : network.Accounted
  recorded : ∀ peer replica, network.replicas.get? peer = some replica →
    ∀ refusal, network.HasVoted peer refusal → replica.tally.phase ≠ .active
  spent : ∀ peer ∈ network.primary.tally.acknowledged,
    network.votesUnderway peer = 0
  arrives : ∀ peer, network.HasVoted peer none → peer ∉ network.departed →
    network.Arrives peer
  tells : ∀ peer, peer ∉ network.departed →
    network.owed (.closing (.notify .commit peer)) +
        network.sent (.closing (.notify .commit peer)) =
      network.commitAudience.count peer
  obeyed : ∀ peer replica, network.replicas.get? peer = some replica →
    peer ∉ network.departed →
    0 < network.sent (.closing (.notify .commit peer)) →
    network.underway (.closing (.notify .commit peer)) = 0 →
    replica.tally.phase = .committed

section Votes

variable {envelope : Envelope} {replica : Site}

/-- A vote that was posted goes from its voter's replica to the primary. -/
theorem Accounted.vote_of_posted (accounted : network.Accounted)
    (isPosted : envelope ∈ network.posted) {vote : Vote}
    (isVote : envelope.message = .vote vote) :
    envelope.sender = vote.voter ∧ envelope.recipient = network.home ∧
      vote.objectId = network.primary.setup.objectId := by
  have orderly := accounted.agrees.orderly
  have duty := Envelope.duty_of_vote isVote
  have isAway : envelope.sender ≠ network.home := by
    intro isHome
    have noVote := (orderly.fromHome envelope isPosted isHome).2.1
    simp [duty, Duty.isVote] at noVote
  obtain ⟨-, replica, found, writes⟩ :=
    orderly.fromReplica envelope isPosted isAway
  obtain ⟨role, objectId, -⟩ := accounted.setups _ replica found
  simp only [Setup.Writes, Envelope.letter, isVote] at writes
  refine ⟨?_, ?_, ?_⟩
  · rw [writes.2.1, orderly.localPeer _ replica found]
  · rw [role] at writes
    simpa [eq_comm] using writes.1
  · rw [writes.2.2, objectId]

/-- Who has voted has a replica that was asked. -/
theorem Accounted.replica_of_hasVoted (accounted : network.Accounted)
    {refusal : Option String} (voted : network.HasVoted peer refusal) :
    ∃ replica, network.replicas.get? peer = some replica := by
  obtain ⟨envelope, isPosted, rfl, duty⟩ := voted
  have isAway : envelope.sender ≠ network.home := by
    intro isHome
    have noVote :=
      (accounted.agrees.orderly.fromHome envelope isPosted isHome).2.1
    simp [duty, Duty.isVote] at noVote
  obtain ⟨-, replica, found, -⟩ :=
    accounted.agrees.orderly.fromReplica envelope isPosted isAway
  exact ⟨replica, found⟩

/-- The votes in transit are among those posted. -/
theorem Accounted.votesUnderway_le (accounted : network.Accounted)
    (peer : PeerId) : network.votesUnderway peer ≤ network.votesPosted peer :=
  accounted.transit.countP_le

theorem Accounted.votesPosted_le_one (accounted : network.Accounted)
    {refusal : Option String} (voted : network.HasVoted peer refusal) :
    network.votesPosted peer ≤ 1 := by
  obtain ⟨replica, found⟩ := accounted.replica_of_hasVoted voted
  have := (accounted.agrees.orderly.votes peer replica found).1
  omega

theorem votesUnderway_pos (inTransit : envelope ∈ network.transit)
    (isVote : envelope.isVoteOf peer = true) : 0 < network.votesUnderway peer :=
  List.countP_pos_iff.2 ⟨envelope, inTransit, isVote⟩

theorem votesUnderway_of_erase (isMember : envelope ∈ network.transit)
    (transit : next.transit = network.transit.erase envelope) :
    next.votesUnderway peer +
        (if envelope.isVoteOf peer = true then 1 else 0) =
      network.votesUnderway peer := by
  rw [votesUnderway, transit]
  exact countP_erase_add (Envelope.isVoteOf peer) isMember

/-- What is posted is in transit, so both counts of votes grow alike. -/
theorem votesUnderway_of_posted {new : List Envelope}
    (posted : next.posted = network.posted ++ new)
    (transit : next.transit = network.transit ++ new) :
    next.votesUnderway peer + network.votesPosted peer =
      network.votesUnderway peer + next.votesPosted peer := by
  rw [votesUnderway, votesUnderway, votesPosted, votesPosted, posted, transit,
    List.countP_append, List.countP_append]
  omega

theorem votesUnderway_mono {new : List Envelope}
    (transit : next.transit = network.transit ++ new) :
    network.votesUnderway peer ≤ next.votesUnderway peer := by
  rw [votesUnderway, votesUnderway, transit, List.countP_append]
  omega

end Votes

theorem phase_of_outstanding {tally : Tally} (sound : tally.Sound)
    (outstanding : peer ∈ tally.outstanding) :
    tally.phase = .voting ∨ tally.phase = .aborted := by
  cases phase : tally.phase with
  | voting => exact .inl rfl
  | aborted => exact .inr rfl
  | committed => simp [sound.committed phase] at outstanding
  | active => simp [(sound.unopened (.inl phase)).1] at outstanding
  | prepared => simp [(sound.unopened (.inr phase)).1] at outstanding

namespace InTouch

variable {act : Site.Act} {cause : Option Trigger} {gone : Multiset Duty}
  {taken : Option Letter} {envelope : Envelope} {replica after : Site}

/-- The primary still waits for the vote of a peer whose yes is in transit. -/
theorem outstanding_of_yes (inTouch : network.InTouch)
    (isUnderway : 0 < network.votesUnderway peer)
    (yes : network.HasVoted peer none) (stayed : peer ∉ network.departed) :
    peer ∈ network.primary.tally.outstanding := by
  have accounted := inTouch.accounted
  obtain ⟨replica, found⟩ := accounted.replica_of_hasVoted yes
  have asks := accounted.asks_of_found found
  rcases asks.involves accounted.asksOnce with
    outstanding | acknowledged | failed
  · exact outstanding
  · have := inTouch.spent peer acknowledged
    omega
  · rcases accounted.failsFor peer failed with
      departed | ⟨cause, refused⟩ | notAsked
    · exact absurd departed stayed
    · simpa using refused.unique (accounted.votesPosted_le_one yes) yes
    · exact absurd asks notAsked

theorem phase_of_yes (inTouch : network.InTouch)
    (isUnderway : 0 < network.votesUnderway peer)
    (yes : network.HasVoted peer none) (stayed : peer ∉ network.departed) :
    network.primary.tally.phase = .voting ∨
      network.primary.tally.phase = .aborted :=
  phase_of_outstanding inTouch.accounted.agrees.orderly.leads.sound
    (inTouch.outstanding_of_yes isUnderway yes stayed)

/-- An acknowledged peer that does not depart stays acknowledged, as long as no
vote of it arrives. -/
theorem stays_acknowledged (inTouch : network.InTouch)
    (change : AtPrimary network next act cause gone taken)
    (departs : ∀ peer view,
      cause = some (.command (.handle (.memberDeparted peer) view)) →
      peer ∈ next.departed)
    (noVote : ∀ vote view,
      cause = some (.command (.handle (.voteReceived vote) view)) →
      vote.voter ≠ peer)
    (asks : next.Asks peer) (stayed : peer ∉ next.departed)
    (acknowledged : peer ∈ network.primary.tally.acknowledged) :
    peer ∈ next.primary.tally.acknowledged := by
  have accounted := inTouch.accounted
  rcases change.effect.tally_cases with
    ⟨-, same, -⟩ | ⟨trigger, isCause, looked, -⟩
  · exact same ▸ acknowledged
  · rw [looked]
    refine (Party.advancesOn_look _ trigger).stays_acknowledged
      accounted.agrees.orderly.leads.sound acknowledged ?_
    intro failure caused
    cases failure with
    | departed =>
        obtain ⟨-, view, rfl⟩ := caused
        exact stayed (departs peer view isCause)
    | refused reason =>
        obtain ⟨-, vote, view, -, isVoter, -, rfl⟩ := caused
        exact noVote vote view isCause isVoter
    | undelivered error =>
        obtain rfl : trigger = .result (.request peer) (.error error) := caused
        exact change.not_asks_of_error accounted.asksOnce isCause asks

/-- The commit is told once to each peer that acknowledged, and to nobody else
that did not depart. -/
theorem tells_atPrimary (inTouch : network.InTouch)
    (change : AtPrimary network next act cause gone taken)
    (notLost : taken = none → .closing (.notify .commit peer) ∉ gone)
    (notLate : ∀ vote view,
      cause = some (.command (.handle (.voteReceived vote) view)) →
      vote.refusal = none → vote.voter = peer →
      network.primary.tally.phase ≠ .committed)
    (stayed : peer ∉ network.departed) :
    next.owed (.closing (.notify .commit peer)) +
        next.sent (.closing (.notify .commit peer)) =
      next.commitAudience.count peer := by
  have conserved :=
    (change.conserved (.closing (.notify .commit peer))).2 notLost
  have told := inTouch.tells peer stayed
  have leads := inTouch.accounted.agrees.orderly.leads
  rcases change.effect.tally_cases with
    ⟨-, same, nothing⟩ | ⟨trigger, isCause, looked, duties⟩
  · rw [nothing, List.count_nil] at conserved
    rw [conserved, told, commitAudience, commitAudience, same]
    rfl
  · have consequence := Party.consequence_look leads.role leads.sound leads.tidy
      trigger
    rw [← looked] at consequence
    rw [duties] at conserved
    -- A commit that was or is not yet finalized is told to late voters only.
    have nothingNew (sameFinalized : next.primary.tally.finalized =
          network.primary.tally.finalized) :
        (network.primary.party.look trigger).2.count
          (.closing (.notify .commit peer)) = 0 := by
      apply List.count_eq_zero.2
      intro isTold
      obtain ⟨committed, vote, view, isVoter, yes, rfl⟩ :=
        consequence.late_of_notify_commit sameFinalized isTold
      exact notLate vote view isCause yes isVoter committed
    by_cases already : network.primary.tally.finalized = true
    · have decided := leads.tidy.decided already
      have same := change.effect.sameRecord decided
      have finalized := change.effect.finalized already
      have none := nothingNew (finalized.trans already.symm)
      have sameAudience : next.commitAudience = network.commitAudience := by
        simp [commitAudience, finalized, already, same.phase, same.acknowledged]
      rw [sameAudience]
      omega
    · have noAudience : network.commitAudience = [] := by
        simp [commitAudience, already]
      rw [noAudience, List.count_nil] at told
      by_cases now : next.primary.tally.finalized = true
      · by_cases committed : next.primary.tally.phase = .committed
        · have isCount : (network.primary.party.look trigger).2.count
              (.closing (.notify .commit peer)) =
                next.primary.tally.acknowledged.count peer :=
            consequence.count_commit (by simpa using already) committed now
          rw [commitAudience, if_pos ⟨now, committed⟩]
          omega
        · have none : (network.primary.party.look trigger).2.count
              (.closing (.notify .commit peer)) = 0 :=
            List.count_eq_zero.2 fun isTold =>
              committed (consequence.phase_of_notify isTold)
          rw [commitAudience, if_neg fun both => committed both.2,
            List.count_nil]
          omega
      · have none := nothingNew (by simp [now, already])
        rw [commitAudience, if_neg fun both => now both.1, List.count_nil]
        omega

/-- What a replica whose vote was just taken has recorded. -/
theorem recorded_atReplica (inTouch : network.InTouch)
    (change : AtReplica network next peer replica after act cause gone taken)
    (recordsVote : replica.recordsVote act = true) {refusal : Option String}
    (voted : next.HasVoted peer refusal) : after.tally.phase ≠ .active := by
  have follows := inTouch.accounted.agrees.orderly.follows peer replica
    change.found
  rcases hasVoted_cases change.posted voted with
    earlier | ⟨-, letter, rfl, duty⟩
  · have notActive := inTouch.recorded peer replica change.found refusal earlier
    rcases change.effect.tally_cases with
      ⟨-, same, -⟩ | ⟨trigger, -, looked, -⟩
    · exact same ▸ notActive
    · rw [looked]
      cases Party.replicaChange_look follows.role follows.notVoting trigger with
      | stays phase => exact phase ▸ notActive
      | prepares active => exact absurd active notActive
      | commits _ committed => simp [committed]
      | aborts _ _ aborted => simp [aborted]
  · have turn := change.turn
    have tally := change.effect.tally
    cases turn with
    | delivers index opening _ isOpening =>
        obtain rfl : opening = .vote refusal := by
          simpa [isOpening] using duty
        rw [tally]
        exact Party.not_active_of_vote_result refusal (.ok ())
    | hands index _ sends =>
        simp [Site.recordsVote, sends, duty, Duty.isVote] at recordsVote
    | tells index closing _ isClosing => simp [isClosing] at duty

theorem recorded_change (inTouch : network.InTouch) {move : Move}
    (change : Change network next move) (prompt : network.Prompt move)
    (found : next.replicas.get? peer = some replica) {refusal : Option String}
    (voted : next.HasVoted peer refusal) : replica.tally.phase ≠ .active := by
  have orderly := inTouch.accounted.agrees.orderly
  have recorded := inTouch.recorded
  cases change with
  | primaryActs act cause gone taken change =>
      rw [change.replicas] at found
      rcases hasVoted_cases change.posted voted with earlier | ⟨isHome, -⟩
      · exact recorded peer replica found refusal earlier
      · exact absurd isHome (orderly.ne_home found)
  | replicaActs other site after act cause gone taken change =>
      rcases change.found_cases found with ⟨rfl, rfl⟩ | ⟨differs, stayed⟩
      · simp only [Prompt, change.found, Option.all_some,
          Bool.and_eq_true] at prompt
        exact inTouch.recorded_atReplica change prompt.2 voted
      · rcases hasVoted_cases change.posted voted with earlier | ⟨isOther, -⟩
        · exact recorded peer replica stayed refusal earlier
        · exact absurd isOther.symm differs
  | primaryHears envelope founding event isEvent isHome change =>
      rw [change.replicas] at found
      rcases hasVoted_cases change.posted voted with earlier | ⟨-, letter, none, -⟩
      · exact recorded peer replica found refusal earlier
      · simp at none
  | replicaHears envelope founding event site after isEvent isAway change =>
      rcases change.found_cases found with ⟨rfl, rfl⟩ | ⟨-, stayed⟩
      · exact inTouch.recorded_atReplica change rfl voted
      · rcases hasVoted_cases change.posted voted with
          earlier | ⟨-, letter, none, -⟩
        · exact recorded peer replica stayed refusal earlier
        · simp at none
  | founds envelope founding request isRequest isAway primary replicas posted =>
      rw [HasVoted, posted] at voted
      rcases PeerMap.get?_insert_cases (replicas ▸ found) with
        ⟨rfl, -⟩ | ⟨-, stayed⟩
      · have vacant := inTouch.accounted.vacant_of_request prompt
          (by simp [isRequest, Message.kind])
        obtain ⟨site, isThere⟩ := inTouch.accounted.replica_of_hasVoted voted
        exact absurd (PeerMap.mem_of_get? isThere) vacant
      · exact recorded peer replica stayed refusal voted
  | loses envelope founding nobody isRequest isNotRequest primary replicas
      posted =>
      rw [HasVoted, posted] at voted
      rw [replicas] at found
      exact recorded peer replica found refusal voted

/-- What is posted brings no vote of a peer that acknowledged. -/
theorem spent_of_posted (inTouch : network.InTouch) (accounted : next.Accounted)
    {sender : PeerId}
    (posted : next.posted =
      network.posted ++ (taken.map (·.sentBy sender)).toList)
    (transit : next.transit =
      network.transit ++ (taken.map (·.sentBy sender)).toList)
    (acknowledged : peer ∈ network.primary.tally.acknowledged) :
    next.votesUnderway peer = 0 := by
  have voted := inTouch.accounted.agrees.acknowledged peer acknowledged
  have already := voted.votesPosted_pos
  have atMostOne :=
    accounted.votesPosted_le_one (hasVoted_of_posted posted voted)
  have noneBefore := inTouch.spent peer acknowledged
  have alike : next.votesUnderway peer + network.votesPosted peer =
      network.votesUnderway peer + next.votesPosted peer :=
    votesUnderway_of_posted posted transit
  omega

/-- A vote that arrives is not in transit any more. -/
theorem spent_of_erase (inTouch : network.InTouch)
    (isMember : envelope ∈ network.transit)
    (transit : next.transit = network.transit.erase envelope)
    (spent : network.votesUnderway peer = 0 ∨ envelope.isVoteOf peer = true) :
    next.votesUnderway peer = 0 := by
  have erased : next.votesUnderway peer + _ = _ :=
    votesUnderway_of_erase isMember transit
  rcases spent with none | isVote
  · omega
  · obtain ⟨vote, message⟩ := Envelope.message_of_isVoteOf isVote
    have isPosted := inTouch.accounted.transit.mem isMember
    have voted : network.HasVoted peer vote.refusal :=
      ⟨envelope, isPosted, Envelope.sender_of_isVoteOf isVote,
        Envelope.duty_of_vote message⟩
    have atMostOne := inTouch.accounted.votesPosted_le_one voted
    have fewer := inTouch.accounted.votesUnderway_le peer
    rw [if_pos isVote] at erased
    omega

/-- A peer that is acknowledged anew is one whose yes is the cause. -/
theorem acknowledged_cases
    (change : AtPrimary network next act cause gone taken)
    (acknowledged : peer ∈ next.primary.tally.acknowledged) :
    peer ∈ network.primary.tally.acknowledged ∨
      ∃ vote view, vote.voter = peer ∧
        cause = some (.command (.handle (.voteReceived vote) view)) := by
  rcases change.effect.tally_cases with
    ⟨-, same, -⟩ | ⟨trigger, isCause, looked, -⟩
  · exact .inl (same ▸ acknowledged)
  · rw [looked] at acknowledged
    rcases (Party.advancesOn_look _ trigger).mem_acknowledged acknowledged with
      earlier | ⟨-, vote, view, -, isVoter, -, rfl⟩
    · exact .inl earlier
    · exact .inr ⟨vote, view, isVoter, isCause⟩

theorem spent_change (inTouch : network.InTouch) {move : Move}
    (change : Change network next move) (prompt : network.Prompt move)
    (accounted : next.Accounted)
    (acknowledged : peer ∈ next.primary.tally.acknowledged) :
    next.votesUnderway peer = 0 := by
  have spent := inTouch.spent peer
  cases change with
  | primaryActs act cause gone taken change transit =>
      apply inTouch.spent_of_posted accounted change.posted transit
      rcases acknowledged_cases change acknowledged with
        earlier | ⟨vote, view, -, rfl⟩
      · exact earlier
      · simp only [Prompt, Site.keeps, Bool.and_eq_true] at prompt
        simp [act_of_command change.turn, Site.Act.isLocal] at prompt
  | replicaActs other site after act cause gone taken change transit =>
      rw [change.primary] at acknowledged
      exact inTouch.spent_of_posted accounted change.posted transit acknowledged
  | primaryHears envelope founding event isEvent isHome change transit =>
      apply inTouch.spent_of_erase prompt transit
      rcases acknowledged_cases change acknowledged with
        earlier | ⟨vote, view, isVoter, isCause⟩
      · exact .inl (spent earlier)
      · right
        have message := message_of_vote (event_of_heard isCause ▸ isEvent)
        have isPosted := inTouch.accounted.transit.mem prompt
        rw [← isVoter,
          ← (inTouch.accounted.vote_of_posted isPosted message).1]
        exact Envelope.isVoteOf_sender message
  | replicaHears envelope founding event site after isEvent isAway change
      transit =>
      rw [change.primary] at acknowledged
      exact inTouch.spent_of_erase prompt transit (.inl (spent acknowledged))
  | founds _ _ _ _ _ primary _ _ transit =>
      rw [primary] at acknowledged
      exact inTouch.spent_of_erase prompt transit (.inl (spent acknowledged))
  | loses _ _ _ _ _ primary _ _ transit =>
      rw [primary] at acknowledged
      exact inTouch.spent_of_erase prompt transit (.inl (spent acknowledged))

/-- A yes that arrives at the primary in time is counted. -/
theorem arrives_of_vote (inTouch : network.InTouch)
    (isMember : envelope ∈ network.transit) {event : Event}
    (isEvent : envelope.message.event? = some event)
    (isVote : envelope.isVoteOf peer = true)
    (change : AtPrimary network next (hearing event) (some (heard event)) 0
      none)
    (yes : network.HasVoted peer none) (stayed : peer ∉ network.departed) :
    peer ∈ next.primary.tally.acknowledged ∨
      next.primary.tally.phase = .aborted := by
  have accounted := inTouch.accounted
  have isPosted := accounted.transit.mem isMember
  have isUnderway := votesUnderway_pos isMember isVote
  have outstanding := inTouch.outstanding_of_yes isUnderway yes stayed
  rcases inTouch.phase_of_yes isUnderway yes stayed with voting | aborted
  · left
    obtain ⟨vote, message⟩ := Envelope.message_of_isVoteOf isVote
    obtain ⟨isSender, -, about⟩ := accounted.vote_of_posted isPosted message
    obtain rfl : envelope.sender = peer := Envelope.sender_of_isVoteOf isVote
    have isYes : vote.refusal = none := by
      have voted : network.HasVoted envelope.sender vote.refusal :=
        ⟨envelope, isPosted, rfl, Envelope.duty_of_vote message⟩
      exact voted.unique (accounted.votesPosted_le_one yes) yes
    obtain rfl : event = .voteReceived vote := by
      simpa [message, Message.event?, eq_comm] using isEvent
    rw [change.effect.tally, isSender]
    rw [isSender] at outstanding
    exact Party.acknowledged_of_yes accounted.agrees.orderly.leads.role about
      isYes voting outstanding .disconnected
  · exact .inr (change.effect.decision_stays .abort aborted)

/-- Another letter that arrives leaves the vote of a peer where it is. -/
theorem arrives_of_erase (inTouch : network.InTouch)
    (isMember : envelope ∈ network.transit)
    (notVote : envelope.isVoteOf peer = false)
    (primary : next.primary = network.primary)
    (posted : next.posted = network.posted)
    (transit : next.transit = network.transit.erase envelope)
    (yes : next.HasVoted peer none) (stayed : peer ∉ network.departed) :
    next.Arrives peer := by
  have erased : next.votesUnderway peer + _ = _ :=
    votesUnderway_of_erase isMember transit
  rw [if_neg (by simp [notVote]), add_zero] at erased
  rw [HasVoted, posted] at yes
  rw [Arrives, erased, primary]
  exact inTouch.arrives peer yes stayed

/-- A letter that is not for the primary is no vote. -/
theorem not_vote_of_away (inTouch : network.InTouch)
    (isMember : envelope ∈ network.transit)
    (isAway : envelope.recipient ≠ network.home) :
    envelope.isVoteOf peer = false := by
  rw [← Bool.not_eq_true]
  intro isVote
  obtain ⟨vote, message⟩ := Envelope.message_of_isVoteOf isVote
  exact isAway (inTouch.accounted.vote_of_posted
    (inTouch.accounted.transit.mem isMember) message).2.1

theorem arrives_of_act (inTouch : network.InTouch)
    (change : AtPrimary network next act cause gone taken)
    (isLocal : act.isLocal = true)
    (transit : next.transit =
      network.transit ++ (taken.map (·.sentBy network.home)).toList)
    (departed : next.departed = act.departure?.toList ++ network.departed)
    (asks : next.Asks peer) (yes : network.HasVoted peer none)
    (stayed : peer ∉ next.departed) : next.Arrives peer := by
  have stayedBefore : peer ∉ network.departed := fun isDeparted =>
    stayed (by simp [departed, isDeparted])
  have more : network.votesUnderway peer ≤ next.votesUnderway peer :=
    votesUnderway_mono transit
  rcases inTouch.arrives peer yes stayedBefore with
    isUnderway | acknowledged | aborted
  · exact .inl (Nat.lt_of_lt_of_le isUnderway more)
  · refine .inr (.inl (inTouch.stays_acknowledged change
      (departs_of_turn change.turn departed) ?_ asks stayed acknowledged))
    rintro vote view rfl
    simp [act_of_command change.turn, Site.Act.isLocal] at isLocal
  · exact .inr (.inr (change.effect.decision_stays .abort aborted))

theorem arrives_of_event (inTouch : network.InTouch)
    (isMember : envelope ∈ network.transit) {event : Event}
    (isEvent : envelope.message.event? = some event)
    (change : AtPrimary network next (hearing event) (some (heard event)) 0
      none)
    (transit : next.transit = network.transit.erase envelope)
    (departed : next.departed = network.departed) (asks : next.Asks peer)
    (yes : network.HasVoted peer none) (stayed : peer ∉ network.departed) :
    next.Arrives peer := by
  by_cases isVote : envelope.isVoteOf peer = true
  · exact .inr (inTouch.arrives_of_vote isMember isEvent isVote change yes
      stayed)
  · have erased : next.votesUnderway peer + _ = _ :=
      votesUnderway_of_erase isMember transit
    rw [if_neg isVote, add_zero] at erased
    rcases inTouch.arrives peer yes stayed with
      isUnderway | acknowledged | aborted
    · exact .inl (erased ▸ isUnderway)
    · refine .inr (.inl (inTouch.stays_acknowledged change
        (fun peer view isCause =>
          absurd isCause (not_departure_of_heard isEvent peer view))
        ?_ asks (departed ▸ stayed) acknowledged))
      rintro vote view isCause rfl
      have message := message_of_vote (event_of_heard isCause ▸ isEvent)
      have isSender := (inTouch.accounted.vote_of_posted
        (inTouch.accounted.transit.mem isMember) message).1
      exact isVote (isSender ▸ Envelope.isVoteOf_sender message)
    · exact .inr (.inr (change.effect.decision_stays .abort aborted))

theorem arrives_change (inTouch : network.InTouch) {move : Move}
    (change : Change network next move) (prompt : network.Prompt move)
    (accounted : next.Accounted) (yes : next.HasVoted peer none)
    (stayed : peer ∉ next.departed) : next.Arrives peer := by
  obtain ⟨replica, found⟩ := accounted.replica_of_hasVoted yes
  have asks := accounted.asks_of_found found
  cases change with
  | primaryActs act cause gone taken change transit departed =>
      have isLocal : act.isLocal = true := by
        simp only [Prompt, Site.keeps, Bool.and_eq_true] at prompt
        exact prompt.1.1
      have earlier : network.HasVoted peer none := by
        apply (hasVoted_cases change.posted yes).resolve_right
        rintro ⟨isHome, -⟩
        have notHome := accounted.agrees.orderly.ne_home found
        rw [home, change.effect.setup] at notHome
        exact notHome isHome
      exact inTouch.arrives_of_act change isLocal transit departed asks earlier
        stayed
  | replicaActs other site after act cause gone taken change transit departed =>
      rcases hasVoted_cases change.posted yes with
        earlier | ⟨rfl, letter, rfl, duty⟩
      · have more : network.votesUnderway peer ≤ next.votesUnderway peer :=
          votesUnderway_mono transit
        rcases inTouch.arrives peer earlier (departed ▸ stayed) with
          isUnderway | known
        · exact .inl (Nat.lt_of_lt_of_le isUnderway more)
        · rw [Arrives, change.primary]
          exact .inr known
      · have isVote : (letter.sentBy other).isVoteOf other = true := by
          simp [Envelope.isVoteOf, duty, Duty.isVote]
        exact .inl (votesUnderway_pos (by simp [transit]) isVote)
  | primaryHears envelope founding event isEvent isHome change transit
      departed =>
      have earlier : network.HasVoted peer none := by
        simpa [HasVoted, change.posted] using yes
      exact inTouch.arrives_of_event prompt isEvent change transit departed asks
        earlier (departed ▸ stayed)
  | replicaHears envelope founding event site after isEvent isAway change
      transit departed =>
      exact inTouch.arrives_of_erase prompt
        (inTouch.not_vote_of_away prompt isAway) change.primary
        (by simpa using change.posted) transit yes (departed ▸ stayed)
  | founds envelope founding request isRequest isAway primary replicas posted
      transit departed =>
      exact inTouch.arrives_of_erase prompt
        (inTouch.not_vote_of_away prompt isAway) primary posted transit yes
        (departed ▸ stayed)
  | loses envelope founding nobody isRequest isNotRequest primary replicas
      posted transit departed =>
      refine inTouch.arrives_of_erase prompt ?_ primary posted transit yes
        (departed ▸ stayed)
      by_cases isHome : envelope.recipient = network.home
      · obtain ⟨request, message⟩ := isRequest isHome
        simp [Envelope.isVoteOf, Envelope.duty_of_request message, Duty.isVote]
      · exact inTouch.not_vote_of_away prompt isHome

theorem tells_change (inTouch : network.InTouch) {move : Move}
    (change : Change network next move) (prompt : network.Prompt move)
    (stayed : peer ∉ next.departed) :
    next.owed (.closing (.notify .commit peer)) +
        next.sent (.closing (.notify .commit peer)) =
      next.commitAudience.count peer := by
  have accounted := inTouch.accounted
  have elsewhere (primary : next.primary = network.primary)
      (sent : next.sent (.closing (.notify .commit peer)) =
        network.sent (.closing (.notify .commit peer)))
      (departed : next.departed = network.departed) :
      next.owed (.closing (.notify .commit peer)) +
          next.sent (.closing (.notify .commit peer)) =
        next.commitAudience.count peer := by
    rw [owed, primary, sent, commitAudience, primary]
    exact inTouch.tells peer (departed ▸ stayed)
  cases change with
  | primaryActs act cause gone taken change transit departed =>
      simp only [Prompt, Site.keeps, Bool.and_eq_true,
        Bool.not_eq_true'] at prompt
      refine inTouch.tells_atPrimary change ?_ ?_ fun isDeparted =>
        stayed (by simp [departed, isDeparted])
      · rintro rfl
        exact change.turn.notice_not_lost prompt.1.2 prompt.2 .commit peer
      · rintro vote view rfl
        simp [act_of_command change.turn, Site.Act.isLocal] at prompt
  | replicaActs other site after act cause gone taken change transit departed =>
      exact elsewhere change.primary
        (change.sent_eq accounted.agrees.orderly rfl).2 departed
  | primaryHears envelope founding event isEvent isHome change transit
      departed =>
      refine inTouch.tells_atPrimary change (by simp) ?_ (departed ▸ stayed)
      rintro vote view isCause isYes rfl committed
      have message := message_of_vote (event_of_heard isCause ▸ isEvent)
      have isPosted := accounted.transit.mem prompt
      have isSender := (accounted.vote_of_posted isPosted message).1
      have yes : network.HasVoted vote.voter none :=
        ⟨envelope, isPosted, isSender, isYes ▸ Envelope.duty_of_vote message⟩
      have isVote : envelope.isVoteOf vote.voter = true :=
        isSender ▸ Envelope.isVoteOf_sender message
      have isUnderway := votesUnderway_pos prompt isVote
      have phase := inTouch.phase_of_yes isUnderway yes (departed ▸ stayed)
      simp [committed] at phase
  | replicaHears envelope founding event site after isEvent isAway change
      transit departed =>
      exact elsewhere change.primary
        (change.sent_eq accounted.agrees.orderly rfl).2 departed
  | founds _ _ _ _ _ primary _ posted _ departed =>
      exact elsewhere primary (by rw [sent, posted, sent]) departed
  | loses _ _ _ _ _ primary _ posted _ departed =>
      exact elsewhere primary (by rw [sent, posted, sent]) departed

/-- Who is told the commit has said yes, and the primary committed. -/
theorem yes_of_told (inTouch : network.InTouch) (stayed : peer ∉ network.departed)
    (told : 0 < network.sent (.closing (.notify .commit peer))) :
    network.HasVoted peer none ∧ network.primary.tally.phase = .committed := by
  have counted := inTouch.tells peer stayed
  have isMember : peer ∈ network.commitAudience :=
    List.count_pos_iff.1 (by omega)
  unfold commitAudience at isMember
  split at isMember
  · rename_i both
    exact ⟨inTouch.accounted.agrees.acknowledged peer isMember, both.2⟩
  · simp at isMember

/-- A replica that said yes is prepared or committed, once the primary has
committed. -/
theorem phase_of_yes_of_committed (inTouch : network.InTouch)
    (found : network.replicas.get? peer = some replica)
    (yes : network.HasVoted peer none)
    (committed : network.primary.tally.phase = .committed) :
    replica.tally.phase = .prepared ∨ replica.tally.phase = .committed := by
  have agrees := inTouch.accounted.agrees
  have follows := agrees.orderly.follows peer replica found
  cases phase : replica.tally.phase with
  | active => exact absurd phase (inTouch.recorded peer replica found none yes)
  | voting => exact absurd phase follows.notVoting
  | prepared => exact .inl rfl
  | committed => exact .inr rfl
  | aborted =>
      obtain ⟨report, reported⟩ := Option.isSome_iff_exists.1
        (follows.sound.reported.2 phase)
      rcases (agrees.records peer replica found).aborted report reported with
        ⟨-, aborted⟩ | ⟨-, -, -, notYes⟩
      · simp [committed] at aborted
      · exact absurd yes notYes

/-- A replica that is told the commit commits. -/
theorem obeyed_notice (inTouch : network.InTouch)
    (inTransit : envelope ∈ network.transit)
    (isNotice : envelope.letter.duty = .closing (.notify .commit peer))
    {event : Event} (isEvent : envelope.message.event? = some event)
    (change : AtReplica network next peer replica after (hearing event)
      (some (heard event)) 0 none)
    (stayed : peer ∉ network.departed) : after.tally.phase = .committed := by
  have accounted := inTouch.accounted
  have isPosted := accounted.transit.mem inTransit
  have follows := accounted.agrees.orderly.follows peer replica change.found
  obtain ⟨yes, committed⟩ := inTouch.yes_of_told stayed
    (List.countP_pos_iff.2 ⟨envelope, isPosted, by simp [isNotice]⟩)
  rcases inTouch.phase_of_yes_of_committed change.found yes committed with
    prepared | already
  · obtain rfl : event = .noticeReceived .commit replica.setup.objectId := by
      rw [(accounted.setups peer replica change.found).2.1]
      exact accounted.agrees.orderly.event_of_notice isPosted isNotice isEvent
    rw [change.effect.tally]
    exact Party.committed_of_commit_notice .disconnected follows.role prepared
  · exact change.effect.decision_stays .commit already

/-- A letter that arrived was posted before: what is posted now is in transit. -/
theorem told_before_of_posted {sender : PeerId} {duty : Duty}
    (posted : next.posted =
      network.posted ++ (taken.map (·.sentBy sender)).toList)
    (transit : next.transit =
      network.transit ++ (taken.map (·.sentBy sender)).toList)
    (told : 0 < next.sent duty) (arrived : next.underway duty = 0) :
    0 < network.sent duty ∧ network.underway duty = 0 := by
  have nowSent : next.sent duty = _ := sent_of_posted posted
  have nowUnderway : next.underway duty = _ := underway_of_transit transit
  omega

theorem told_before_of_erase {duty : Duty}
    (isMember : envelope ∈ network.transit)
    (posted : next.posted = network.posted)
    (transit : next.transit = network.transit.erase envelope)
    (another : envelope.letter.duty ≠ duty) (told : 0 < next.sent duty)
    (arrived : next.underway duty = 0) :
    0 < network.sent duty ∧ network.underway duty = 0 := by
  have erased : next.underway duty + _ = _ :=
    underway_of_erase isMember transit
  rw [if_neg another, add_zero] at erased
  rw [sent, posted, ← sent] at told
  exact ⟨told, erased ▸ arrived⟩

theorem obeyed_change (inTouch : network.InTouch) {move : Move}
    (change : Change network next move) (prompt : network.Prompt move)
    (found : next.replicas.get? peer = some replica)
    (stayed : peer ∉ next.departed)
    (told : 0 < next.sent (.closing (.notify .commit peer)))
    (arrived : next.underway (.closing (.notify .commit peer)) = 0) :
    replica.tally.phase = .committed := by
  have accounted := inTouch.accounted
  have orderly := accounted.agrees.orderly
  have obeyed := inTouch.obeyed peer
  cases change with
  | primaryActs act cause gone taken change transit departed =>
      obtain ⟨sentBefore, arrivedBefore⟩ :=
        told_before_of_posted change.posted transit told arrived
      rw [change.replicas] at found
      exact obeyed replica found
        (fun isDeparted => stayed (by simp [departed, isDeparted]))
        sentBefore arrivedBefore
  | replicaActs other site after act cause gone taken change transit departed =>
      obtain ⟨sentBefore, arrivedBefore⟩ :=
        told_before_of_posted change.posted transit told arrived
      rw [departed] at stayed
      rcases change.found_cases found with ⟨rfl, rfl⟩ | ⟨-, foundBefore⟩
      · exact change.effect.decision_stays .commit
          (obeyed site change.found stayed sentBefore arrivedBefore)
      · exact obeyed replica foundBefore stayed sentBefore arrivedBefore
  | primaryHears envelope founding event isEvent isHome change transit
      departed =>
      rw [change.replicas] at found
      have notNotice : envelope.letter.duty ≠ .closing (.notify .commit peer) :=
        fun isNotice => orderly.ne_home found
          (isHome.symm.trans (recipient_of_notice isNotice))
      obtain ⟨sentBefore, arrivedBefore⟩ := told_before_of_erase prompt
        (by simpa using change.posted) transit notNotice told arrived
      exact obeyed replica found (departed ▸ stayed) sentBefore arrivedBefore
  | replicaHears envelope founding event site after isEvent isAway change
      transit departed =>
      rw [departed] at stayed
      have samePosted : next.posted = network.posted := by
        simpa using change.posted
      rcases change.found_cases found with ⟨rfl, rfl⟩ | ⟨differs, foundBefore⟩
      · by_cases isNotice : envelope.letter.duty =
            .closing (.notify .commit envelope.recipient)
        · exact inTouch.obeyed_notice prompt isNotice isEvent change stayed
        · obtain ⟨sentBefore, arrivedBefore⟩ := told_before_of_erase prompt
            samePosted transit isNotice told arrived
          exact change.effect.decision_stays .commit
            (obeyed site change.found stayed sentBefore arrivedBefore)
      · have notNotice : envelope.letter.duty ≠
            .closing (.notify .commit peer) :=
          fun isNotice => differs (recipient_of_notice isNotice).symm
        obtain ⟨sentBefore, arrivedBefore⟩ := told_before_of_erase prompt
          samePosted transit notNotice told arrived
        exact obeyed replica foundBefore stayed sentBefore arrivedBefore
  | founds envelope founding request isRequest isAway primary replicas posted
      transit departed =>
      rw [departed] at stayed
      have duty := Envelope.duty_of_request isRequest
      obtain ⟨sentBefore, arrivedBefore⟩ := told_before_of_erase prompt posted
        transit (by simp [duty]) told arrived
      rcases PeerMap.get?_insert_cases (replicas ▸ found) with
        ⟨rfl, -⟩ | ⟨-, foundBefore⟩
      · obtain ⟨site, isThere⟩ := accounted.replica_of_hasVoted
          (inTouch.yes_of_told stayed sentBefore).1
        have vacant := accounted.vacant_of_request prompt
          (by simp [isRequest, Message.kind])
        exact absurd (PeerMap.mem_of_get? isThere) vacant
      · exact obeyed replica foundBefore stayed sentBefore arrivedBefore
  | loses envelope founding nobody isRequest isNotRequest primary replicas
      posted transit departed =>
      rw [replicas] at found
      have notNotice : envelope.letter.duty ≠
          .closing (.notify .commit peer) := by
        intro isNotice
        have isRecipient : envelope.recipient = peer :=
          recipient_of_notice isNotice
        rcases nobody with isHome | vacant
        · exact orderly.ne_home found (isHome.symm.trans isRecipient)
        · exact vacant (isRecipient ▸ PeerMap.mem_of_get? found)
      obtain ⟨sentBefore, arrivedBefore⟩ := told_before_of_erase prompt posted
        transit notNotice told arrived
      exact obeyed replica found (departed ▸ stayed) sentBefore arrivedBefore

/-- Every change keeps the network in touch. -/
theorem change (inTouch : network.InTouch) {move : Move}
    (change : Change network next move) (prompt : network.Prompt move)
    (unforged : network.Unforged move) : next.InTouch := by
  have accounted := inTouch.accounted.change change (reliable_of_prompt prompt)
    unforged
  exact
    { accounted
      recorded := fun _ _ found _ voted =>
        inTouch.recorded_change change prompt found voted
      spent := fun _ acknowledged =>
        inTouch.spent_change change prompt accounted acknowledged
      arrives := fun _ yes stayed =>
        inTouch.arrives_change change prompt accounted yes stayed
      tells := fun _ stayed => inTouch.tells_change change prompt stayed
      obeyed := fun _ _ found stayed told arrived =>
        inTouch.obeyed_change change prompt found stayed told arrived }

theorem fresh (fresh : network.Fresh) (noReplicas : network.replicas = ∅) :
    network.InTouch where
  accounted := .fresh fresh noReplicas
  recorded := by simp [noReplicas]
  spent := by simp [votesUnderway, fresh.transit]
  arrives := by simp [HasVoted, fresh.posted]
  tells := by
    obtain ⟨setup, -, primary⟩ := fresh.primary
    have noAudience : network.commitAudience = [] := by
      simp [commitAudience, primary, Site.start, Session.start, Party.start,
        Tally.start]
    simp [owed, sent, noAudience, primary, fresh.posted]
  obeyed := by simp [noReplicas]

end InTouch

/-- The network is in touch in every state that it reaches from one without
replicas, if votes are recorded at once. -/
theorem inTouch_of_reachable {origin : Network} (fresh : origin.Fresh)
    (noReplicas : origin.replicas = ∅)
    (reachable : Reachable Prompt origin network) : network.InTouch :=
  holds_of_reachable (.fresh fresh noReplicas)
    (fun _ inTouch => inTouch.accounted.agrees.orderly.fit)
    (fun _ _ _ inTouch possible prompt change =>
      inTouch.change change prompt
        (inTouch.accounted.unforged possible (reliable_of_prompt prompt)))
    reachable

/-- When everything is at rest after a commit that somebody waited for, the
replicas that said yes are committed and were told so once, and all other
replicas of peers that did not depart are aborted. -/
theorem commit_reaches_all_that_said_yes {origin : Network}
    (fresh : origin.Fresh) (noReplicas : origin.replicas = ∅)
    (reachable : Reachable Prompt origin network)
    (idle : network.isIdle = true)
    (committed : network.primary.tally.phase = .committed)
    (returned : ∃ call ∈ network.primary.session.calls, call.outcome.isSome)
    {replica : Site} (found : network.replicas.get? peer = some replica)
    (stayed : peer ∉ network.departed) :
    (network.HasVoted peer none → replica.tally.phase = .committed ∧
      network.sent (.closing (.notify .commit peer)) = 1) ∧
    (¬ network.HasVoted peer none → replica.tally.phase = .aborted) := by
  have inTouch := inTouch_of_reachable fresh noReplicas reachable
  have accounted := inTouch.accounted
  have orderly := accounted.agrees.orderly
  have notActive := accounted.not_active_of_idle idle found
  simp only [isIdle, Bool.and_eq_true, List.isEmpty_iff] at idle
  obtain ⟨⟨noTransit, primaryRests⟩, -⟩ := idle
  obtain ⟨call, callMem, answered⟩ := returned
  have finalized : network.primary.tally.finalized = true :=
    accounted.truthful call callMem (.inl answered)
  refine ⟨fun yes => ?_, fun notYes => ?_⟩
  · have acknowledged : peer ∈ network.primary.tally.acknowledged := by
      rcases inTouch.arrives peer yes stayed with
        isUnderway | acknowledged | aborted
      · simp [votesUnderway, noTransit] at isUnderway
      · exact acknowledged
      · simp [committed] at aborted
    have told := inTouch.tells peer stayed
    rw [owed, Site.dues_of_isIdle primaryRests, Multiset.count_zero, zero_add,
      commitAudience, if_pos ⟨finalized, committed⟩,
      List.count_eq_one_of_mem orderly.leads.sound.acknowledged_nodup
        acknowledged] at told
    exact ⟨inTouch.obeyed peer replica found stayed (by omega)
      (by simp [underway, noTransit]), told⟩
  · have record := accounted.agrees.records peer replica found
    cases phase : replica.tally.phase with
    | active => exact absurd phase notActive
    | voting => exact absurd phase (orderly.follows peer replica found).notVoting
    | prepared => exact absurd (record.accepted (.inl phase)) notYes
    | committed => exact absurd (record.accepted (.inr phase)) notYes
    | aborted => rfl

/-- A primary that has no replicas yet and tolerates one failure. -/
def forgiving : Network :=
  .start { Setup.primary ⟨"doc"⟩ ⟨"home"⟩ with
    settings := { TransactionSettings.default with failureThreshold := 1 } } ∅

theorem fresh_forgiving : forgiving.Fresh where
  primary := ⟨_, rfl, rfl⟩
  replicas := by simp [forgiving, Network.start]
  away := by simp [forgiving, Network.start]
  posted := rfl
  transit := rfl
  departed := rfl

/-- The first peer says yes and the second no, and the commit is waited for. -/
def commitsForgiving : List Move :=
  [.primary (.own (.start (.lead (.connected [⟨"home"⟩, ⟨"one"⟩, ⟨"two"⟩])))),
    .primary (.own (.begin 0)),
    .primary (.own (.finish 0 (.ok ()))),
    .primary (.own (.begin 0)),
    .primary (.own (.finish 0 (.ok ()))),
    .deliver ⟨⟨"home"⟩, ⟨"two"⟩, .request ⟨⟨"home"⟩, ⟨"doc"⟩, []⟩⟩
      ⟨.default, some "full"⟩,
    .deliver ⟨⟨"home"⟩, ⟨"one"⟩, .request ⟨⟨"home"⟩, ⟨"doc"⟩, []⟩⟩
      ⟨.default, none⟩,
    .replica ⟨"two"⟩ (.own (.begin 0)),
    .replica ⟨"two"⟩ (.own (.finish 0 (.ok ()))),
    .replica ⟨"two"⟩ (.own (.proceed 0 0)),
    .replica ⟨"one"⟩ (.own (.begin 0)),
    .replica ⟨"one"⟩ (.own (.finish 0 (.ok ()))),
    .deliver ⟨⟨"one"⟩, ⟨"home"⟩, .vote ⟨⟨"one"⟩, ⟨"doc"⟩, 0, none⟩⟩
      ⟨.default, none⟩,
    .deliver ⟨⟨"two"⟩, ⟨"home"⟩, .vote ⟨⟨"two"⟩, ⟨"doc"⟩, 0, some "full"⟩⟩
      ⟨.default, none⟩,
    .primary (.own (.start .await)),
    .primary (.own (.proceed 3 0)),
    .primary (.own (.proceed 3 0)),
    .primary (.own (.begin 3)),
    .primary (.own (.finish 3 (.ok ()))),
    .primary (.own (.proceed 3 0)),
    .primary (.own (.proceed 3 0)),
    .deliver ⟨⟨"home"⟩, ⟨"one"⟩, .notice .commit ⟨"doc"⟩⟩ ⟨.default, none⟩,
    .replica ⟨"one"⟩ (.own (.proceed 1 0))]

/-- In that run the replica of the first peer is committed in the end and was
told once, and that of the second peer is aborted. -/
theorem commit_reaches_all_of_forgiving :
    ∃ network, Reachable Prompt forgiving network ∧ network.isIdle = true ∧
      network.primary.tally.phase = .committed ∧
      (∃ replica, network.replicas.get? ⟨"one"⟩ = some replica ∧
        replica.tally.phase = .committed ∧
        network.sent (.closing (.notify .commit ⟨"one"⟩)) = 1) ∧
      ∃ replica, network.replicas.get? ⟨"two"⟩ = some replica ∧
        replica.tally.phase = .aborted := by
  have run : (forgiving.runUnder Prompt commitsForgiving).map (fun network =>
      (network.isIdle, network.primary.tally.phase,
        network.primary.session.calls.any (·.outcome.isSome), network.departed,
        (network.replicas.get? ⟨"one"⟩).isSome,
        (network.replicas.get? ⟨"two"⟩).isSome,
        decide (network.HasVoted ⟨"one"⟩ none),
        decide (network.HasVoted ⟨"two"⟩ none))) =
        some (true, .committed, true, [], true, true, true, false) := by rfl
  obtain ⟨network, arrives, observed⟩ := Option.map_eq_some_iff.1 run
  simp only [Prod.mk.injEq, List.any_eq_true, Option.isSome_iff_exists,
    decide_eq_true_eq, decide_eq_false_iff_not] at observed
  obtain ⟨idle, committed, ⟨call, callMem, outcome, answered⟩, noneDeparted,
    ⟨first, firstFound⟩, ⟨second, secondFound⟩, yes, notYes⟩ := observed
  have reachable := reachable_of_runUnder .origin arrives
  have returned : ∃ call ∈ network.primary.session.calls,
      call.outcome.isSome := ⟨call, callMem, by simp [answered]⟩
  have stayed (peer : PeerId) : peer ∉ network.departed := by
    simp [noneDeparted]
  have told := (commit_reaches_all_that_said_yes fresh_forgiving rfl reachable
    idle committed returned firstFound (stayed _)).1 yes
  have aborted := (commit_reaches_all_that_said_yes fresh_forgiving rfl
    reachable idle committed returned secondFound (stayed _)).2 notYes
  exact ⟨network, reachable, idle, committed, ⟨first, firstFound, told⟩,
    second, secondFound, aborted⟩

end Network

end CreationCommit
