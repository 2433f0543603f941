import CreationCommit.Proofs.Network
import CreationCommit.Proofs.SiteInvariants

/-!
# Who posts what

The primary posts requests and notices of its decision, a replica posts one vote
at most, and nobody posts what is not of its own making.  This holds whatever
moves the network makes, as long as no replica is founded where there is one.
-/

namespace CreationCommit

@[simp]
theorem Letter.letter_sentBy (letter : Letter) (sender : PeerId) :
    (letter.sentBy sender).letter = letter :=
  rfl

@[simp]
theorem Letter.sender_sentBy (letter : Letter) (sender : PeerId) :
    (letter.sentBy sender).sender = sender :=
  rfl

/-- Whether an envelope carries a vote of the peer. -/
def Envelope.isVoteOf (peer : PeerId) (envelope : Envelope) : Bool :=
  envelope.sender = peer && envelope.letter.duty.isVote

namespace Envelope

variable {envelope : Envelope} {peer : PeerId}

theorem duty_of_request {request : CreationRequest}
    (isRequest : envelope.message = .request request) :
    envelope.letter.duty = .opening (.request envelope.recipient) := by
  simp [Letter.duty, letter, isRequest]

theorem duty_of_vote {vote : Vote} (isVote : envelope.message = .vote vote) :
    envelope.letter.duty = .opening (.vote vote.refusal) := by
  simp [Letter.duty, letter, isVote]

theorem duty_of_notice {decision : Decision} {objectId : ObjectId}
    (isNotice : envelope.message = .notice decision objectId) :
    envelope.letter.duty = .closing (.notify decision envelope.recipient) := by
  simp [Letter.duty, letter, isNotice]

theorem isVoteOf_sender {vote : Vote} (isVote : envelope.message = .vote vote) :
    envelope.isVoteOf envelope.sender = true := by
  simp [isVoteOf, duty_of_vote isVote, Duty.isVote]

theorem sender_of_isVoteOf (isVote : envelope.isVoteOf peer = true) :
    envelope.sender = peer := by
  simp only [isVoteOf, Bool.and_eq_true, decide_eq_true_eq] at isVote
  exact isVote.1

theorem message_of_isVoteOf (isVote : envelope.isVoteOf peer = true) :
    ∃ vote, envelope.message = .vote vote := by
  simp only [isVoteOf, Bool.and_eq_true] at isVote
  cases message : envelope.message with
  | vote vote => exact ⟨vote, rfl⟩
  | request request => simp [duty_of_request message, Duty.isVote] at isVote
  | notice decision objectId =>
      simp [duty_of_notice message, Duty.isVote] at isVote

end Envelope

namespace Network

variable {network next : Network} {peer : PeerId}

/-- The number of votes of a peer that the transport took. -/
def votesPosted (network : Network) (peer : PeerId) : Nat :=
  network.posted.countP (Envelope.isVoteOf peer)

/-- What the network always satisfies about its sites and their mail. -/
structure Orderly (network : Network) : Prop where
  leads : network.primary.Leads
  follows : ∀ peer replica, network.replicas.get? peer = some replica →
    replica.Follows
  localPeer : ∀ peer replica, network.replicas.get? peer = some replica →
    replica.setup.localPeer = peer
  away : network.home ∉ network.replicas
  fromHome : ∀ envelope ∈ network.posted, envelope.sender = network.home →
    network.primary.setup.Writes envelope.letter ∧
      envelope.letter.duty.isVote = false ∧
      ∀ decision peer, envelope.letter.duty = .closing (.notify decision peer) →
        network.primary.tally.phase = decision.phase
  fromReplica : ∀ envelope ∈ network.posted, envelope.sender ≠ network.home →
    envelope.letter.duty.isVote = true ∧
      ∃ replica, network.replicas.get? envelope.sender = some replica ∧
        replica.setup.Writes envelope.letter
  carriedHome : ∀ letter, network.primary.Carries letter →
    letter.sentBy network.home ∈ network.posted
  carried : ∀ peer replica, network.replicas.get? peer = some replica →
    ∀ letter, replica.Carries letter → letter.sentBy peer ∈ network.posted
  votes : ∀ peer replica, network.replicas.get? peer = some replica →
    replica.votesDue + network.votesPosted peer ≤ 1 ∧
      (replica.tally.activated = false →
        replica.votesDue + network.votesPosted peer = 0)

theorem HasVoted.votesPosted_pos {refusal : Option String}
    (hasVoted : network.HasVoted peer refusal) :
    0 < network.votesPosted peer := by
  obtain ⟨envelope, posted, sender, duty⟩ := hasVoted
  exact List.countP_pos_iff.2
    ⟨envelope, posted, by simp [Envelope.isVoteOf, sender, duty, Duty.isVote]⟩

/-- A peer that posted one vote at most has not voted both ways. -/
theorem HasVoted.unique {first second : Option String}
    (atMostOne : network.votesPosted peer ≤ 1)
    (hasVoted : network.HasVoted peer first)
    (alsoVoted : network.HasVoted peer second) : first = second := by
  obtain ⟨one, oneMem, oneSender, oneDuty⟩ := hasVoted
  obtain ⟨other, otherMem, otherSender, otherDuty⟩ := alsoVoted
  obtain rfl := eq_of_countP_le_one atMostOne
    oneMem (by simp [Envelope.isVoteOf, oneSender, oneDuty, Duty.isVote])
    otherMem (by simp [Envelope.isVoteOf, otherSender, otherDuty, Duty.isVote])
  simpa [oneDuty] using otherDuty

theorem countP_singleton_vote {duty : Duty} (isVote : duty.isVote = true) :
    ({duty} : Multiset Duty).countP (·.isVote = true) = 1 := by
  have counted := Multiset.countP_cons_of_pos
    (p := fun duty : Duty => duty.isVote = true) 0 isVote
  simpa using counted

section Posting

variable {sender : PeerId} {taken : Option Letter} {envelope : Envelope}

theorem mem_posted (posted : next.posted =
      network.posted ++ (taken.map (·.sentBy sender)).toList) :
    envelope ∈ next.posted ↔ envelope ∈ network.posted ∨
      ∃ letter, taken = some letter ∧ letter.sentBy sender = envelope := by
  simp [posted]

theorem hasVoted_of_posted {refusal : Option String}
    (posted : next.posted =
      network.posted ++ (taken.map (·.sentBy sender)).toList)
    (hasVoted : network.HasVoted peer refusal) :
    next.HasVoted peer refusal := by
  obtain ⟨envelope, isPosted, facts⟩ := hasVoted
  exact ⟨envelope, (mem_posted posted).2 (.inl isPosted), facts⟩

/-- A new vote of a peer is one that the peer itself posts. -/
theorem hasVoted_cases {refusal : Option String}
    (posted : next.posted =
      network.posted ++ (taken.map (·.sentBy sender)).toList)
    (hasVoted : next.HasVoted peer refusal) :
    network.HasVoted peer refusal ∨ sender = peer ∧
      ∃ letter, taken = some letter ∧
        letter.duty = .opening (.vote refusal) := by
  obtain ⟨envelope, isPosted, isSender, duty⟩ := hasVoted
  rcases (mem_posted posted).1 isPosted with
    earlier | ⟨letter, isTaken, rfl⟩
  · exact .inl ⟨envelope, earlier, isSender, duty⟩
  · exact .inr ⟨isSender, letter, isTaken, duty⟩

theorem votesPosted_of_posted_elsewhere (posted : next.posted =
      network.posted ++ (taken.map (·.sentBy sender)).toList)
    (elsewhere : sender ≠ peer) :
    next.votesPosted peer = network.votesPosted peer := by
  rw [votesPosted, posted, List.countP_append, votesPosted]
  cases taken with
  | none => rfl
  | some letter => simp [Envelope.isVoteOf, elsewhere]

/-- A letter that an act posts is a vote only if a vote is gone from the dues. -/
theorem votesPosted_of_turn {site : Site} {act : Site.Act}
    {cause : Option Trigger} {gone : Multiset Duty}
    (turn : site.Turn act cause gone taken)
    (posted : next.posted =
      network.posted ++ (taken.map (·.sentBy peer)).toList) :
    next.votesPosted peer ≤
      network.votesPosted peer + gone.countP (·.isVote = true) := by
  rw [votesPosted, posted, List.countP_append, votesPosted]
  cases taken with
  | none => simp
  | some letter =>
      obtain ⟨rfl, -⟩ := turn.taken
      by_cases isVote : letter.duty.isVote = true
      · rw [countP_singleton_vote isVote]
        simp [Envelope.isVoteOf, isVote]
      · simp [Envelope.isVoteOf, isVote]

end Posting

theorem recipient_of_notice {letter : Letter} {decision : Decision}
    (isDuty : letter.duty = .closing (.notify decision peer)) :
    letter.recipient = peer := by
  unfold Letter.duty at isDuty
  split at isDuty
  · simp at isDuty
  · simp at isDuty
  · simp only [Duty.closing.injEq, Closing.notify.injEq] at isDuty
    exact isDuty.2

theorem recipient_of_request {letter : Letter}
    (isDuty : letter.duty = .opening (.request peer)) :
    letter.recipient = peer := by
  unfold Letter.duty at isDuty
  split at isDuty
  · simpa using isDuty
  · simp at isDuty
  · simp at isDuty

namespace Orderly

theorem sender_of_not_vote (orderly : network.Orderly)
    {envelope : Envelope} (isPosted : envelope ∈ network.posted)
    (notVote : envelope.letter.duty.isVote = false) :
    envelope.sender = network.home := by
  by_contra isAway
  have isVote := (orderly.fromReplica envelope isPosted isAway).1
  simp [notVote] at isVote

/-- The event of a notice that was posted is about the primary's object. -/
theorem event_of_notice (orderly : network.Orderly) {envelope : Envelope}
    (isPosted : envelope ∈ network.posted) {decision : Decision}
    (isNotice : envelope.letter.duty = .closing (.notify decision peer))
    {event : Event} (isEvent : envelope.message.event? = some event) :
    event = .noticeReceived decision network.primary.setup.objectId := by
  have isHome := orderly.sender_of_not_vote isPosted
    (by simp [isNotice, Duty.isVote])
  have writes := (orderly.fromHome envelope isPosted isHome).1
  unfold Letter.duty Envelope.letter at isNotice
  unfold Setup.Writes Envelope.letter at writes
  cases message : envelope.message with
  | notice told objectId =>
      simp only [message, Duty.closing.injEq, Closing.notify.injEq] at isNotice
      simp only [message] at writes
      rw [← writes, ← isNotice.1]
      simpa [message, Message.event?, eq_comm] using isEvent
  | request | vote => simp [message] at isNotice

end Orderly

namespace Orderly

variable {act : Site.Act} {cause : Option Trigger} {gone : Multiset Duty}
  {taken : Option Letter}

theorem fit (orderly : network.Orderly) : network.Fit where
  primary := orderly.leads.fit
  replicas := fun peer replica found => (orderly.follows peer replica found).fit

theorem ne_home (orderly : network.Orderly) {replica : Site}
    (found : network.replicas.get? peer = some replica) :
    network.home ≠ peer := by
  rintro rfl
  exact orderly.away (PeerMap.mem_of_get? found)

theorem atPrimary (orderly : network.Orderly)
    (change : AtPrimary network next act cause gone taken) : next.Orderly := by
  have sameHome : next.home = network.home :=
    congrArg Setup.localPeer change.effect.setup
  refine
    { leads := orderly.leads.effect change.effect
      follows := change.replicas ▸ orderly.follows
      localPeer := change.replicas ▸ orderly.localPeer
      away := by rw [sameHome, change.replicas]; exact orderly.away
      fromHome := ?_
      fromReplica := ?_
      carriedHome := ?_
      carried := ?_
      votes := ?_ }
  · intro envelope isPosted isSender
    rw [sameHome] at isSender
    rw [change.effect.setup]
    rcases (mem_posted change.posted).1 isPosted with
      earlier | ⟨letter, rfl, rfl⟩
    · obtain ⟨writes, noVote, told⟩ :=
        orderly.fromHome envelope earlier isSender
      refine ⟨writes, noVote, fun decision peer duty => ?_⟩
      have phase := told decision peer duty
      have decided : network.primary.tally.isDecided := by
        cases decision with
        | commit => exact Tally.isDecided_iff.2 (.inl phase)
        | abort => exact Tally.isDecided_iff.2 (.inr phase)
      rw [(change.effect.sameRecord decided).phase]
      exact phase
    · obtain ⟨rfl, index, sends⟩ := change.turn.taken
      obtain ⟨noVote, told⟩ := orderly.leads.duties_after change.effect
        (change.effect.mem_gone (Multiset.mem_singleton_self letter.duty))
      refine ⟨orderly.leads.fit.writes sends, ?_, told⟩
      rw [Letter.letter_sentBy, ← Bool.not_eq_true]
      intro isVote
      unfold Duty.isVote at isVote
      split at isVote
      · rename_i refusal duty
        exact noVote refusal duty
      · simp at isVote
  · intro envelope isPosted isSender
    rw [sameHome] at isSender
    rw [change.replicas]
    rcases (mem_posted change.posted).1 isPosted with
      earlier | ⟨letter, -, rfl⟩
    · exact orderly.fromReplica envelope earlier isSender
    · exact absurd rfl isSender
  · intro letter carries
    rw [sameHome, mem_posted change.posted]
    rcases change.effect.carries letter carries with earlier | isTaken
    · exact .inl (orderly.carriedHome letter earlier)
    · exact .inr ⟨letter, isTaken, rfl⟩
  · intro peer replica found letter carries
    rw [change.replicas] at found
    exact (mem_posted change.posted).2
      (.inl (orderly.carried peer replica found letter carries))
  · intro peer replica found
    rw [change.replicas] at found
    rw [votesPosted_of_posted_elsewhere change.posted (orderly.ne_home found)]
    exact orderly.votes peer replica found

theorem atReplica (orderly : network.Orderly) {replica after : Site}
    (change : AtReplica network next peer replica after act cause gone taken) :
    next.Orderly := by
  have sameHome : next.home = network.home := by rw [home, change.primary, home]
  have follows := orderly.follows peer replica change.found
  have notHome := orderly.ne_home change.found
  refine
    { leads := change.primary ▸ orderly.leads
      follows := ?_
      localPeer := ?_
      away := ?_
      fromHome := ?_
      fromReplica := ?_
      carriedHome := ?_
      carried := ?_
      votes := ?_ }
  · intro other site found
    rcases change.found_cases found with ⟨-, rfl⟩ | ⟨-, earlier⟩
    · exact follows.effect change.effect
    · exact orderly.follows other site earlier
  · intro other site found
    rcases change.found_cases found with ⟨rfl, rfl⟩ | ⟨-, earlier⟩
    · rw [change.effect.setup]
      exact orderly.localPeer other replica change.found
    · exact orderly.localPeer other site earlier
  · rw [sameHome, change.replicas, PeerMap.mem_insert]
    exact not_or.2 ⟨notHome, orderly.away⟩
  · intro envelope isPosted isSender
    rw [sameHome] at isSender
    rw [change.primary]
    rcases (mem_posted change.posted).1 isPosted with
      earlier | ⟨letter, -, rfl⟩
    · exact orderly.fromHome envelope earlier isSender
    · exact absurd isSender.symm notHome
  · intro envelope isPosted isSender
    rw [sameHome] at isSender
    rw [change.replicas, PeerMap.get?_insert]
    rcases (mem_posted change.posted).1 isPosted with
      earlier | ⟨letter, rfl, rfl⟩
    · obtain ⟨isVote, site, found, writes⟩ :=
        orderly.fromReplica envelope earlier isSender
      refine ⟨isVote, ?_⟩
      split
      · rename_i isPeer
        rw [isPeer, change.found] at found
        refine ⟨after, rfl, ?_⟩
        rw [change.effect.setup, Option.some.inj found]
        exact writes
      · exact ⟨site, found, writes⟩
    · obtain ⟨-, index, sends⟩ := change.turn.taken
      refine ⟨follows.isVote_of_taken change.turn change.effect, after,
        by simp, ?_⟩
      rw [change.effect.setup]
      exact follows.fit.writes sends
  · intro letter carries
    rw [change.primary] at carries
    rw [sameHome]
    exact (mem_posted change.posted).2
      (.inl (orderly.carriedHome letter carries))
  · intro other site found letter carries
    rw [mem_posted change.posted]
    rcases change.found_cases found with ⟨rfl, rfl⟩ | ⟨-, earlier⟩
    · rcases change.effect.carries letter carries with already | isTaken
      · exact .inl (orderly.carried other replica change.found letter already)
      · exact .inr ⟨letter, isTaken, rfl⟩
    · exact .inl (orderly.carried other site earlier letter carries)
  · intro other site found
    rcases change.found_cases found with ⟨rfl, rfl⟩ | ⟨differs, earlier⟩
    · obtain ⟨atMostOne, quiet⟩ := orderly.votes other replica change.found
      obtain ⟨spent, same⟩ := follows.votesDue_effect change.effect
      have posted := votesPosted_of_turn change.turn change.posted
      refine ⟨?_, fun notActivated => ?_⟩
      · by_cases activated : replica.tally.activated = true
        · have := same (.inl activated)
          omega
        · have := quiet (by simpa using activated)
          omega
      · have notBefore : replica.tally.activated = false := by
          rw [← Bool.not_eq_true]
          intro activated
          simp [change.effect.activated activated] at notActivated
        have := quiet notBefore
        have := same (.inr (.inl notActivated))
        omega
    · rw [votesPosted_of_posted_elsewhere change.posted differs.symm]
      exact orderly.votes other site earlier

/-- A peer without a site has posted nothing. -/
theorem votesPosted_eq_zero (orderly : network.Orderly)
    (notHome : peer ≠ network.home) (vacant : peer ∉ network.replicas) :
    network.votesPosted peer = 0 := by
  apply List.countP_eq_zero.2
  intro envelope isPosted isVote
  obtain rfl : envelope.sender = peer := Envelope.sender_of_isVoteOf isVote
  obtain ⟨-, replica, found, -⟩ :=
    orderly.fromReplica envelope isPosted notHome
  exact vacant (PeerMap.mem_of_get? found)

/-- Founding a replica is what its activation does to a new site. -/
theorem effect_founding (founding : Founding) (request : CreationRequest) :
    Site.Effect (.start (founding.setup peer request))
      (founding.site peer request)
      (some (.command (.enroll founding.refusal))) 0 none :=
  Site.effect_of_start (Site.fit_start _) _

theorem follows_founding (founding : Founding) (request : CreationRequest) :
    (founding.site peer request).Follows :=
  (Site.Follows.start (by simp [Founding.setup, Setup.replica])).effect
    (effect_founding founding request)

theorem founds (orderly : network.Orderly) (founding : Founding)
    (request : CreationRequest) (notHome : peer ≠ network.home)
    (vacant : peer ∉ network.replicas)
    (primary : next.primary = network.primary)
    (replicas : next.replicas =
      network.replicas.insert peer (founding.site peer request))
    (posted : next.posted = network.posted) : next.Orderly := by
  have sameHome : next.home = network.home := by rw [home, primary, home]
  have lookup (other : PeerId) (site : Site)
      (found : next.replicas.get? other = some site) :
      other = peer ∧ site = founding.site peer request ∨
        other ≠ peer ∧ network.replicas.get? other = some site :=
    PeerMap.get?_insert_cases (replicas ▸ found)
  have effect : Site.Effect (.start (founding.setup peer request)) _ _ _ _ :=
    effect_founding founding request
  refine
    { leads := primary ▸ orderly.leads
      follows := ?_
      localPeer := ?_
      away := ?_
      fromHome := by rw [posted, sameHome, primary]; exact orderly.fromHome
      fromReplica := ?_
      carriedHome := by rw [posted, sameHome, primary]; exact orderly.carriedHome
      carried := ?_
      votes := ?_ }
  · intro other site found
    rcases lookup other site found with ⟨rfl, rfl⟩ | ⟨-, earlier⟩
    · exact follows_founding founding request
    · exact orderly.follows other site earlier
  · intro other site found
    rcases lookup other site found with ⟨rfl, rfl⟩ | ⟨-, earlier⟩
    · rw [effect.setup]
      rfl
    · exact orderly.localPeer other site earlier
  · rw [sameHome, replicas, PeerMap.mem_insert]
    exact not_or.2 ⟨notHome.symm, orderly.away⟩
  · intro envelope isPosted isSender
    rw [posted] at isPosted
    rw [sameHome] at isSender
    obtain ⟨isVote, site, found, writes⟩ :=
      orderly.fromReplica envelope isPosted isSender
    have differs : envelope.sender ≠ peer := by
      intro isPeer
      rw [isPeer, PeerMap.get?_eq_none.2 vacant] at found
      simp at found
    refine ⟨isVote, site, ?_, writes⟩
    rw [replicas, PeerMap.get?_insert, if_neg differs]
    exact found
  · intro other site found letter carries
    rw [posted]
    rcases lookup other site found with ⟨rfl, rfl⟩ | ⟨-, earlier⟩
    · rcases effect.carries letter carries with already | isTaken
      · exact absurd already (Site.not_carries_start _ letter)
      · simp at isTaken
    · exact orderly.carried other site earlier letter carries
  · intro other site found
    have sameVotes : next.votesPosted other = network.votesPosted other := by
      rw [votesPosted, posted, votesPosted]
    rw [sameVotes]
    rcases lookup other site found with ⟨rfl, rfl⟩ | ⟨-, earlier⟩
    · obtain ⟨spent, same⟩ := Site.Follows.votesDue_effect
        (Site.Follows.start (by simp [Founding.setup, Setup.replica])) effect
      simp only [Multiset.countP_zero, Nat.add_zero, Site.votesDue,
        Site.dues_start] at spent same
      rw [orderly.votesPosted_eq_zero notHome vacant]
      exact ⟨spent, fun notActivated => same (.inr (.inl notActivated))⟩
    · exact orderly.votes other site earlier

/-- The order concerns only the sites and what was posted. -/
theorem of_same (orderly : network.Orderly)
    (primary : next.primary = network.primary)
    (replicas : next.replicas = network.replicas)
    (posted : next.posted = network.posted) : next.Orderly := by
  obtain ⟨nextPrimary, nextReplicas, nextPosted, transit, departed⟩ := next
  cases primary
  cases replicas
  cases posted
  exact ⟨orderly.leads, orderly.follows, orderly.localPeer, orderly.away,
    orderly.fromHome, orderly.fromReplica, orderly.carriedHome,
    orderly.carried, orderly.votes⟩

/-- Every change keeps the order, if it founds no replica where there is one. -/
theorem change (orderly : network.Orderly) {move : Move}
    (change : Change network next move)
    (vacant : ∀ envelope founding request, move = .deliver envelope founding →
      envelope.message = .request request →
      envelope.recipient ∉ network.replicas) : next.Orderly := by
  cases change with
  | primaryActs _ _ _ _ change => exact orderly.atPrimary change
  | replicaActs _ _ _ _ _ _ _ change => exact orderly.atReplica change
  | primaryHears _ _ _ _ _ change => exact orderly.atPrimary change
  | replicaHears _ _ _ _ _ _ _ change => exact orderly.atReplica change
  | founds envelope founding request isRequest isAway primary replicas posted =>
      exact orderly.founds founding request isAway
        (vacant envelope founding request rfl isRequest) primary replicas posted
  | loses _ _ _ _ _ primary replicas posted =>
      exact orderly.of_same primary replicas posted

end Orderly

end Network

end CreationCommit
