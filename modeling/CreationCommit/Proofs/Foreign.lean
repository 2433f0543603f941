import CreationCommit.Proofs.Announcements
import CreationCommit.Proofs.Heeding
import CreationCommit.Proofs.Wakeups

/-!
# Events that do not concern the creation

A replica does not care who joins, departs or votes, a primary takes no notices,
and neither cares about another object.  A primary does not care about itself
joining, nor about anybody as long as the creation is not begun, and while the
voting is open it hears only from peers that were admitted.

Such an event may be announced all the same, but it changes nothing else and
leaves nothing to do.
-/

namespace CreationCommit

namespace Party

/-- The votes of the peer are of no use: the creation is not begun, or the voting
is open and the peer is not among the admitted. -/
def NeedsNoVoteOf (party : Party) (admitted : List PeerId) (peer : PeerId) :
    Prop :=
  party.tally.phase = .active ∨
    party.tally.phase = .voting ∧ peer ∉ admitted

end Party

/-- Whether the event does not concern the creation, as the party stands after it
admitted the peers. -/
def Event.Foreign (party : Party) (admitted : List PeerId) : Event → Prop
  | .activated => False
  | .memberJoined peer =>
      party.setup.role = .primary →
        peer = party.setup.localPeer ∨ party.tally.phase = .active
  | .voteReceived vote =>
      party.setup.role = .primary → vote.objectId = party.setup.objectId →
        party.NeedsNoVoteOf admitted vote.voter
  | .memberDeparted peer =>
      party.setup.role = .primary → party.NeedsNoVoteOf admitted peer
  | .noticeReceived _ objectId =>
      party.setup.role = .primary ∨ objectId ≠ party.setup.objectId

namespace Party

section Handling

variable {party : Party} {admitted : List PeerId} {view : GroupView}

/-- The event left nothing to do, and changed at most how much was announced. -/
def Ignores (party : Party) (result : Party × List Duty) : Prop :=
  ∃ count, result = (party.ahead count, [])

theorem Ignores.nothing (party : Party) : Ignores party (party, []) :=
  ⟨0, by rw [ahead_zero]⟩

theorem Ignores.announces (party : Party) : Ignores party (party.announce, []) :=
  ⟨1, by rw [announce_eq_ahead]⟩

theorem NeedsNoVoteOf.undecided {peer : PeerId}
    (needless : party.NeedsNoVoteOf admitted peer) :
    ¬ party.tally.isDecided := by
  rcases needless with active | ⟨voting, -⟩
  · simp [Tally.isDecided_iff, active]
  · simp [Tally.isDecided_iff, voting]

/-- A peer that was not admitted takes no part. -/
theorem NeedsNoVoteOf.not_involves {peer : PeerId}
    (needless : party.NeedsNoVoteOf admitted peer)
    (involved : party.tally.Involves peer → peer ∈ admitted)
    (voting : party.tally.phase = .voting) : ¬ party.tally.Involves peer := by
  rcases needless with active | ⟨-, stranger⟩
  · simp [active] at voting
  · exact fun takesPart => stranger (involved takesPart)

theorem isAway_of_not_involves {peer : PeerId}
    (notInvolved : ¬ party.tally.Involves peer) : party.tally.IsAway peer := by
  simp only [Tally.Involves, not_or] at notInvolved
  exact .inr ⟨notInvolved.1, notInvolved.2.1⟩

theorem ignores_join {peer : PeerId}
    (foreign : (Event.memberJoined peer).Foreign party admitted) :
    Ignores party (party.handle (.memberJoined peer) view) := by
  simp only [handle, opened, welcome]
  split
  · rename_i concerned
    have active := (foreign (isPrimary_iff.1 concerned.1)).resolve_left concerned.2
    simpa [Tally.enlist, active] using .nothing party
  · exact .nothing party

section Votes

variable (involved : party.setup.role = .primary →
    ∀ peer, party.tally.Involves peer → peer ∈ admitted)
  (final : party.tally.phase = .aborted → party.tally.finalized = true)

include involved final

theorem ignores_vote {vote : Vote}
    (foreign : (Event.voteReceived vote).Foreign party admitted)
    (decisive : party.isPrimary = true →
      party.tally.Decisive party.setup.settings.threshold) :
    Ignores party (party.handle (.voteReceived vote) view) := by
  simp only [handle, closed, hearVote]
  split
  · rename_i concerned
    have role := isPrimary_iff.1 concerned.1
    have needless := foreign role concerned.2
    have unheard : party.weigh vote = (party, []) := by
      refine weigh_of_undecided (fun voting => ?_)
        (resolve_of_decisive (decisive concerned.1)) needless.undecided
      have stranger := needless.not_involves (involved role _) voting
      cases vote.refusal with
      | none => exact fun outstanding => stranger (.inl outstanding)
      | some cause => exact isAway_of_not_involves stranger
    simpa [unheard, conclude_of_final final] using .announces party
  · exact .nothing party

theorem ignores_departure {peer : PeerId}
    (foreign : (Event.memberDeparted peer).Foreign party admitted) :
    Ignores party (party.handle (.memberDeparted peer) view) := by
  simp only [handle, closed, dismiss]
  split
  · rename_i primary
    have role := isPrimary_iff.1 primary
    have away (voting : party.tally.phase = .voting) : party.tally.IsAway peer :=
      isAway_of_not_involves
        ((foreign role).not_involves (involved role peer) voting)
    rw [noteFailure_of_away .departed away final]
    exact .announces party
  · exact .nothing party

end Votes

theorem ignores_notice {decision : Decision} {objectId : ObjectId}
    (foreign : (Event.noticeReceived decision objectId).Foreign party admitted) :
    Ignores party (party.handle (.noticeReceived decision objectId) view) := by
  simp only [handle, closed, hearNotice]
  split
  · rename_i concerned
    rcases foreign with role | other
    · simp [isPrimary_iff.2 role] at concerned
    · exact absurd concerned.2 other
  · exact .nothing party

end Handling

end Party

namespace Session

variable {setup : Setup} {moves : List Move} {session : Session}

/-- A session ignores an event that does not concern its creation. -/
theorem ignores_foreign (ran : (start setup).run? moves = some session)
    {event : Event}
    (foreign : event.Foreign session.party
      (admissions ((start setup).history moves)))
    (view : GroupView) :
    session.party.Ignores (session.party.handle event view) := by
  have final := finalized_of_aborted ran
  have sameSetup : session.party.setup = setup := setup_of_run ran
  have involved (role : session.party.setup.role = .primary) (peer : PeerId)
      (takesPart : session.party.tally.Involves peer) :
      peer ∈ admissions ((start setup).history moves) :=
    (tells_of_run (sameSetup ▸ role) ran).involves_iff.1 takesPart
  cases event with
  | activated => exact foreign.elim
  | memberJoined peer => exact Party.ignores_join foreign
  | voteReceived vote =>
      exact Party.ignores_vote involved final foreign (decisive_of_isPrimary ran)
  | memberDeparted peer => exact Party.ignores_departure involved final foreign
  | noticeReceived decision objectId => exact Party.ignores_notice foreign

end Session

end CreationCommit
