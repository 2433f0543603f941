import CreationCommit.Proofs.Decisiveness
import CreationCommit.Proofs.Finalization

/-!
# Events that a party has heeded

A party has heeded an event if nothing is left that the event could change: it
is activated, the peer that joined takes part, the voter's yes or failure is
noted, the notice is obeyed, or the event does not concern it.  Taking an event
leaves it heeded, and the results of the sends that follow keep it so.

When an event is taken that was heeded before, the tally stays as it is, except
that another late refusal may be kept.  Nothing follows either, except that a
voter that said yes is told the decision.
-/

namespace CreationCommit

namespace Tally

theorem activateOnce_of_activated {tally : Tally}
    (activated : tally.activated = true) :
    tally.activateOnce = (tally, false) := by
  cases tally
  simp_all [activateOnce]

/-- The peer does not take part, so that it cannot fail. -/
def IsAway (tally : Tally) (peer : PeerId) : Prop :=
  peer ∈ tally.failures ∨
    peer ∉ tally.outstanding ∧ peer ∉ tally.acknowledged

theorem SameVotes.isAway {first second : Tally} {peer : PeerId}
    (same : first.SameVotes second) (away : first.IsAway peer) :
    second.IsAway peer := by
  rwa [IsAway, same.failures, same.outstanding, same.acknowledged]

theorem IsAway.noteFailure_eq {tally : Tally} {peer : PeerId}
    (away : tally.IsAway peer) (failure : Failure) :
    tally.noteFailure peer failure = (tally, false) := by
  rcases away with failed | ⟨notOutstanding, notAcknowledged⟩
  · simp [noteFailure, failed]
  · simp [noteFailure, notOutstanding, notAcknowledged]

theorem isAway_noteFailure {tally : Tally} (voting : tally.phase = .voting)
    (peer : PeerId) (failure : Failure) :
    (tally.noteFailure peer failure).1.IsAway peer := by
  unfold noteFailure
  split
  · exact .inl (PeerMap.mem_insert.2 (.inl rfl))
  · rename_i refused
    simp only [IsAway]
    simp only [voting, true_and, not_and_or, not_or, Decidable.not_not] at refused
    exact refused

theorem not_mem_outstanding_noteYes {tally : Tally} (voting : tally.phase = .voting)
    (peer : PeerId) : peer ∉ (tally.noteYes peer).1.outstanding := by
  unfold noteYes
  split
  · simp
  · rename_i refused
    exact fun outstanding => refused ⟨voting, outstanding⟩

/-- The tallies differ at most in late refusals that the second has besides. -/
structure SameButLate (first second : Tally) : Prop where
  rest : second = { first with lateRefusals := second.lateRefusals }
  late : first.lateRefusals <+: second.lateRefusals

theorem SameButLate.refl (tally : Tally) : tally.SameButLate tally :=
  ⟨rfl, List.prefix_refl _⟩

theorem SameButLate.sameRecord {first second : Tally}
    (same : first.SameButLate second) : first.SameRecord second := by
  rw [same.rest]
  exact ⟨rfl, rfl, rfl, rfl, rfl⟩

end Tally

namespace Party

/-- Nothing is left that the event could change. -/
def Heeded (party : Party) : Event → Prop
  | .activated => party.tally.activated = true
  | .memberJoined peer =>
      party.isPrimary = true → peer ≠ party.setup.localPeer →
        party.tally.phase = .voting → party.tally.Involves peer
  | .voteReceived vote =>
      party.isPrimary = true → vote.objectId = party.setup.objectId →
        party.tally.phase = .voting →
          match vote.refusal with
          | none => vote.voter ∉ party.tally.outstanding
          | some _ => party.tally.IsAway vote.voter
  | .memberDeparted peer =>
      party.isPrimary = true → party.tally.phase = .voting →
        party.tally.IsAway peer
  | .noticeReceived decision objectId =>
      party.isPrimary = false → objectId = party.setup.objectId →
        match decision with
        | .commit => party.tally.phase ≠ .prepared
        | .abort => party.tally.activated = true ∧ party.tally.isDecided

theorem Heeded.of_same {party other : Party} {event : Event}
    (heeded : party.Heeded event) (setup : other.setup = party.setup)
    (tally : other.tally = party.tally) : other.Heeded event := by
  cases event <;> simpa only [Heeded, isPrimary, setup, tally] using heeded

section Taking

variable {party : Party} {view : GroupView}

/-- The voting is opened by nothing but an activation. -/
theorem was_voting {trigger : Trigger}
    (voting : (party.look trigger).1.tally.phase = .voting)
    (notOpened : ∀ peers localPeer,
      ¬ trigger.Causes party.setup (.openVoting peers localPeer)) :
    party.tally.phase = .voting := by
  revert voting
  refine (advancesOn_look party trigger).induction (motive := fun tally =>
    tally.phase = .voting → party.tally.phase = .voting) id ?_
  intro operation caused tally known voting
  rcases Tally.voting_perform voting with earlier | ⟨peers, localPeer, rfl⟩
  · exact known earlier
  · exact absurd caused (notOpened peers localPeer)

/-- So any other event finds the voting open if it leaves it open. -/
theorem was_voting_of_event {event : Event} (other : event ≠ .activated)
    (voting : (party.handle event view).1.tally.phase = .voting) :
    party.tally.phase = .voting := by
  have opened : (party.look (.command (.handle event view))).1.tally.phase =
    .voting := voting
  exact was_voting opened (by simp [Trigger.Causes, other])

theorem isPrimary_handle (event : Event) :
    (party.handle event view).1.isPrimary = party.isPrimary := by
  rw [isPrimary, isPrimary, (advancesOn_handle party event view).setup]

theorem heeded_activation :
    (party.handle .activated view).1.Heeded .activated := by
  unfold handle
  dsimp only
  split
  · rename_i primary
    exact activated_lead primary view
  · rename_i notPrimary
    simp [opened, enroll, notPrimary, Tally.activateOnce, Heeded]

theorem heeded_join (peer : PeerId) :
    (party.handle (.memberJoined peer) view).1.Heeded (.memberJoined peer) := by
  have advances := advancesOn_handle party (.memberJoined peer) view
  intro primary notLocal voting
  have wasVoting := was_voting_of_event (by simp) voting
  rw [isPrimary_handle] at primary
  rw [advances.setup] at notLocal
  by_cases already : party.tally.Involves peer
  · exact advances.involves already
  · left
    simp only [Tally.Involves, not_or] at already
    simp [handle, opened, welcome, primary, notLocal, Tally.enlist, wasVoting,
      already, announce]

theorem heeded_vote (vote : Vote) :
    (party.handle (.voteReceived vote) view).1.Heeded (.voteReceived vote) := by
  intro primary about voting
  have wasVoting := was_voting_of_event (by simp) voting
  rw [isPrimary_handle] at primary
  rw [(advancesOn_handle party (.voteReceived vote) view).setup] at about
  have concluded : (party.weigh vote).1.tally.SameVotes
      (party.handle (.voteReceived vote) view).1.tally := by
    simp only [handle, closed, hearVote, primary, about, and_self, if_true]
    exact sameVotes_conclude _
  cases refusal : vote.refusal with
  | none =>
      have noted := (weigh_yes refusal).trans concluded
      dsimp only
      rw [noted.outstanding]
      exact Tally.not_mem_outstanding_noteYes wasVoting vote.voter
  | some cause =>
      have noted := (weigh_refusal refusal (by simp [wasVoting])).trans concluded
      exact noted.isAway (Tally.isAway_noteFailure wasVoting _ _)

theorem heeded_departure (peer : PeerId) :
    (party.handle (.memberDeparted peer) view).1.Heeded
      (.memberDeparted peer) := by
  intro primary voting
  have wasVoting := was_voting_of_event (by simp) voting
  rw [isPrimary_handle] at primary
  have noted : (party.tally.noteFailure peer .departed).1.SameVotes
      (party.handle (.memberDeparted peer) view).1.tally := by
    simp only [handle, closed, dismiss, primary, if_true]
    exact sameVotes_noteFailure peer .departed
  exact noted.isAway (Tally.isAway_noteFailure wasVoting _ _)

theorem heeded_notice (decision : Decision) (objectId : ObjectId) :
    (party.handle (.noticeReceived decision objectId) view).1.Heeded
      (.noticeReceived decision objectId) := by
  have advances :=
    advancesOn_handle party (.noticeReceived decision objectId) view
  intro notPrimary about
  rw [isPrimary_handle] at notPrimary
  rw [advances.setup] at about
  subst about
  have role : party.setup.role ≠ .primary := by
    rw [Ne, ← isPrimary_iff, notPrimary]
    simp
  cases decision with
  | commit =>
      by_cases prepared : party.tally.phase = .prepared
      · have committed := committed_of_commit_notice view role prepared
        exact fun still => by simp [look, still] at committed
      · simp [handle, closed, hearNotice, notPrimary, obeyCommit,
          Tally.commitIfPrepared, prepared, announce]
  | abort =>
      refine ⟨?_, decided_of_abort_notice view role⟩
      have told : (party.tally.activateOnce.1.abort .toldByPrimary).activated =
          true :=
        (Tally.activated_perform _ (.abort .toldByPrimary)).2 (.inl rfl)
      have concluded : AdvancesOn (.clock 0) _ _ := (AdvancesOn.refl
        { party with
          tally := party.tally.activateOnce.1.abort .toldByPrimary }).conclude
      simpa [handle, closed, hearNotice, notPrimary, obeyAbort] using
        concluded.activated told

/-- Whoever takes an event has heeded it. -/
theorem heeded_handle (event : Event) :
    (party.handle event view).1.Heeded event := by
  cases event with
  | activated => exact heeded_activation
  | memberJoined peer => exact heeded_join peer
  | voteReceived vote => exact heeded_vote vote
  | memberDeparted peer => exact heeded_departure peer
  | noticeReceived decision objectId => exact heeded_notice decision objectId

end Taking

/-- Only an activation and a join leave something to open, and these stay heeded
whatever comes of it. -/
theorem heeded_result {party other : Party} {event : Event} {view : GroupView}
    {opening : Opening}
    (isLeft : .opening opening ∈ (party.handle event view).2)
    (heeded : other.Heeded event) (result : Except DeliveryError Unit) :
    (other.look (.result opening result)).1.Heeded event := by
  have advances := advancesOn_look other (.result opening result)
  cases event with
  | activated => exact advances.activated heeded
  | memberJoined peer =>
      intro primary notLocal voting
      rw [isPrimary, advances.setup] at primary
      rw [advances.setup] at notLocal
      exact advances.involves (heeded primary notLocal
        (was_voting voting (by simp [Trigger.Causes])))
  | voteReceived | memberDeparted | noticeReceived =>
      simp [handle, closed] at isLeft

section Again

variable {party : Party} {view : GroupView}

/-- The closing that a voter deserves whose yes comes again. -/
def Reminds (party : Party) (event : Event) (closings : List Closing) : Prop :=
  closings = [] ∨ ∃ vote decision, event = .voteReceived vote ∧
    vote.refusal = none ∧ party.tally.phase = decision.phase ∧
    closings = [.notify decision vote.voter]

theorem conclude_of_final
    (final : party.tally.phase = .aborted → party.tally.finalized = true) :
    party.conclude = (party.announce, []) := by
  by_cases aborted : party.tally.phase = .aborted
  · simp [conclude, settle_of_finalized (final aborted)]
  · simp [conclude, settle_of_not_aborted aborted]

/-- What a party does that takes an event it has heeded: nothing of importance. -/
structure Shrugs (party : Party) (event : Event) (result : Party × List Duty) :
    Prop where
  tally : party.tally.SameButLate result.1.tally
  closings : ∃ closings, result.2 = closings.map .closing ∧
    party.Reminds event closings

theorem Shrugs.nothing (event : Event) : Shrugs party event (party, []) :=
  ⟨.refl _, [], rfl, .inl rfl⟩

theorem Shrugs.announces (event : Event) :
    Shrugs party event (party.announce, []) :=
  ⟨.refl _, [], rfl, .inl rfl⟩

theorem shrugs_activation (heeded : party.Heeded .activated) :
    Shrugs party .activated (party.handle .activated view) := by
  have activated : party.tally.activated = true := heeded
  have same := Tally.activateOnce_of_activated activated
  unfold handle
  dsimp only
  split
  · rename_i primary
    simpa [opened, lead, primary, same] using .nothing .activated
  · rename_i notPrimary
    simpa [opened, enroll, notPrimary, same] using .nothing .activated

theorem shrugs_join {peer : PeerId} (heeded : party.Heeded (.memberJoined peer)) :
    Shrugs party (.memberJoined peer)
      (party.handle (.memberJoined peer) view) := by
  simp only [handle, opened, welcome]
  split
  · rename_i concerned
    have notAdmitted : (party.tally.enlist peer).2 = false := by
      unfold Tally.enlist
      split
      · rename_i allowed
        have involved := heeded concerned.1 concerned.2 allowed.1
        simpa [Tally.Involves, allowed] using involved
      · rfl
    simpa [notAdmitted] using .nothing (.memberJoined peer)
  · exact .nothing _

/-- A failure of a peer that takes no part is announced, but not recorded. -/
theorem noteFailure_of_away {peer : PeerId} (failure : Failure)
    (away : party.tally.phase = .voting → party.tally.IsAway peer)
    (final : party.tally.phase = .aborted → party.tally.finalized = true) :
    party.noteFailure peer failure = (party.announce, []) := by
  have notRecorded : (party.tally.noteFailure peer failure).2 = false := by
    by_cases voting : party.tally.phase = .voting
    · rw [(away voting).noteFailure_eq]
    · simp [Tally.noteFailure, voting]
  simpa [noteFailure, notRecorded] using conclude_of_final final

/-- A heeded vote that comes before the decision weighs nothing. -/
theorem weigh_of_undecided {vote : Vote}
    (heard : party.tally.phase = .voting →
      match vote.refusal with
      | none => vote.voter ∉ party.tally.outstanding
      | some _ => party.tally.IsAway vote.voter)
    (resolved : party.resolve = party)
    (undecided : ¬ party.tally.isDecided) : party.weigh vote = (party, []) := by
  cases phase : party.tally.phase with
  | voting =>
      cases refusal : vote.refusal with
      | none =>
          have notOutstanding : vote.voter ∉ party.tally.outstanding := by
            simpa [refusal] using heard phase
          simpa [weigh, phase, refusal, Tally.noteYes, notOutstanding] using
            resolved
      | some cause =>
          have away : party.tally.IsAway vote.voter := by
            simpa [refusal] using heard phase
          simpa [weigh, phase, refusal, away.noteFailure_eq] using resolved
  | active | prepared => simp [weigh, phase]
  | committed | aborted => simp [Tally.isDecided_iff, phase] at undecided

theorem shrugs_vote {vote : Vote} (heeded : party.Heeded (.voteReceived vote))
    (final : party.tally.phase = .aborted → party.tally.finalized = true)
    (decisive : party.isPrimary = true →
      party.tally.Decisive party.setup.settings.threshold) :
    Shrugs party (.voteReceived vote)
      (party.handle (.voteReceived vote) view) := by
  have concluded := conclude_of_final final
  simp only [handle, closed, hearVote]
  split
  · rename_i concerned
    have unmoved (same : party.weigh vote = (party, [])) :
        Shrugs party (.voteReceived vote)
          ((party.weigh vote).1.conclude.1,
            ((party.weigh vote).1.conclude.2 ++ (party.weigh vote).2).map
              .closing) := by
      rw [same, concluded]
      exact .announces _
    cases phase : party.tally.phase with
    | committed =>
        cases refusal : vote.refusal with
        | none =>
            simp only [weigh, phase, refusal, concluded]
            exact ⟨.refl _, _, rfl, .inr ⟨vote, .commit, rfl, refusal, phase, rfl⟩⟩
        | some cause =>
            simp only [weigh, phase, refusal, conclude]
            rw [settle_of_not_aborted (by simp [Tally.noteLateRefusal, phase])]
            exact ⟨⟨rfl, List.prefix_append _ _⟩, [], rfl, .inl rfl⟩
    | aborted =>
        cases refusal : vote.refusal with
        | none =>
            simp only [weigh, phase, refusal, concluded]
            split
            · exact .announces _
            · exact ⟨.refl _, _, rfl, .inr ⟨vote, .abort, rfl, refusal, phase, rfl⟩⟩
        | some cause => exact unmoved (by simp [weigh, phase, refusal])
    | active | voting | prepared =>
        exact unmoved (weigh_of_undecided (heeded concerned.1 concerned.2)
          (resolve_of_decisive (decisive concerned.1))
          (by simp [Tally.isDecided_iff, phase]))
  · exact .nothing _

theorem shrugs_notice {decision : Decision} {objectId : ObjectId}
    (heeded : party.Heeded (.noticeReceived decision objectId))
    (final : party.tally.phase = .aborted → party.tally.finalized = true) :
    Shrugs party (.noticeReceived decision objectId)
      (party.handle (.noticeReceived decision objectId) view) := by
  simp only [handle, hearNotice]
  split
  · rename_i concerned
    have heard := heeded (by simpa using concerned.1) concerned.2
    cases decision with
    | commit =>
        have notPrepared : party.tally.phase ≠ .prepared := heard
        simpa [obeyCommit, Tally.commitIfPrepared, notPrepared, closed] using
          .announces _
    | abort =>
        obtain ⟨activated, decided⟩ := heard
        have same := Tally.activateOnce_of_activated activated
        simpa [obeyAbort, same, Tally.abort_of_isDecided decided,
          conclude_of_final final, closed] using .announces _
  · exact .nothing _

/-- A party that takes an event that it has heeded does nothing of importance. -/
theorem shrugs_handle {event : Event} (heeded : party.Heeded event)
    (final : party.tally.phase = .aborted → party.tally.finalized = true)
    (decisive : party.isPrimary = true →
      party.tally.Decisive party.setup.settings.threshold) :
    Shrugs party event (party.handle event view) := by
  cases event with
  | activated => exact shrugs_activation heeded
  | memberJoined peer => exact shrugs_join heeded
  | voteReceived vote => exact shrugs_vote heeded final decisive
  | memberDeparted peer =>
      simp only [handle, dismiss]
      split
      · rename_i primary
        rw [noteFailure_of_away .departed (heeded primary) final]
        exact .announces _
      · exact .nothing _
  | noticeReceived decision objectId => exact shrugs_notice heeded final

end Again

end Party

end CreationCommit
