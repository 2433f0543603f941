import CreationCommit.Proofs.VoteHistory

/-!
# No decision is missed or made too soon

A tally is decisive if its votes leave it as it is: while the voting is open a
vote is outstanding and no more peers failed than the threshold allows, and the
same bound holds after a commit.  Every look of the primary leaves its tally
decisive, although not every look takes a decision: welcoming a peer cannot
close the voting, and a failure that is not recorded changes nothing.  So
somebody who waits never finds a decision left to take, except that the time
has passed.
-/

namespace CreationCommit

namespace Tally

/-- The votes of the tally call for no decision under the threshold, and did
call for the commit if it was made. -/
structure Decisive (threshold : Nat) (tally : Tally) : Prop where
  outstanding : tally.phase = .voting → tally.outstanding ≠ ∅
  bounded : tally.phase = .voting ∨ tally.phase = .committed →
    tally.failures.size ≤ threshold

namespace Decisive

variable {threshold : Nat} {tally other : Tally}

theorem of_sameRecord (decisive : tally.Decisive threshold)
    (same : tally.SameRecord other) : other.Decisive threshold where
  outstanding := by
    rw [same.phase, same.outstanding]
    exact decisive.outstanding
  bounded := by
    rw [same.phase, same.failures]
    exact decisive.bounded

/-- A tally that neither votes nor committed is decisive. -/
theorem of_phase (notVoting : tally.phase ≠ .voting)
    (notCommitted : tally.phase ≠ .committed) : tally.Decisive threshold where
  outstanding := fun voting => absurd voting notVoting
  bounded := fun undecided => absurd undecided (by simp [notVoting, notCommitted])

theorem start (objectId : ObjectId) : (Tally.start objectId).Decisive threshold :=
  of_phase (by simp [Tally.start]) (by simp [Tally.start])

/-- Resolving takes the decision that the votes call for. -/
theorem resolve (decisive : tally.phase ≠ .voting → tally.Decisive threshold) :
    (tally.resolve threshold).1.Decisive threshold := by
  unfold Tally.resolve
  split
  · rename_i voting
    split
    · exact of_phase (by simp [Tally.abort, isDecided, Phase.isDecided, voting])
        (by simp [Tally.abort, isDecided, Phase.isDecided, voting])
    · rename_i notExceeded
      have bounded : tally.failures.size ≤ threshold :=
        Nat.le_of_not_lt notExceeded
      split
      · exact ⟨by simp, fun _ => bounded⟩
      · rename_i someOutstanding
        exact ⟨fun _ noneOutstanding =>
          someOutstanding (PeerMap.isEmpty_iff.2 noneOutstanding),
          fun _ => bounded⟩
  · rename_i notVoting
    exact decisive notVoting

/-- There is no decision left to take. -/
theorem resolve_eq (decisive : tally.Decisive threshold) :
    tally.resolve threshold = (tally, none) := by
  unfold Tally.resolve
  split
  · rename_i voting
    have bounded := decisive.bounded (.inl voting)
    have someOutstanding := decisive.outstanding voting
    rw [if_neg (Nat.not_lt.2 bounded), if_neg]
    exact fun none => someOutstanding (PeerMap.isEmpty_iff.1 none)
  · rfl

theorem abort (decisive : tally.Decisive threshold) (cause : AbortCause) :
    (tally.abort cause).Decisive threshold := by
  unfold Tally.abort
  split
  · exact decisive
  · exact of_phase (by simp) (by simp)

theorem commitAlone (decisive : tally.Decisive threshold)
    (sound : tally.Sound) : tally.commitAlone.1.Decisive threshold := by
  unfold Tally.commitAlone
  split
  · rename_i active
    have noFailures := (sound.unopened (.inl active)).2.1
    have bounded : tally.failures.size ≤ threshold := by
      rw [noFailures]
      exact Nat.zero_le threshold
    exact ⟨by simp, fun _ => bounded⟩
  · exact decisive

theorem prepare (decisive : tally.Decisive threshold) :
    tally.prepare.1.Decisive threshold := by
  unfold Tally.prepare
  split
  · exact of_phase (by simp) (by simp)
  · exact decisive

theorem enlist (decisive : tally.Decisive threshold) (peer : PeerId) :
    (tally.enlist peer).1.Decisive threshold := by
  unfold Tally.enlist
  split
  · rename_i allowed
    have nonempty : tally.outstanding.insert peer ≠ ∅ := fun none =>
      PeerMap.not_mem_empty peer (none ▸ PeerSet.mem_insert.2 (.inl rfl))
    exact ⟨fun _ => nonempty, fun _ => decisive.bounded (.inl allowed.1)⟩
  · exact decisive

/-- Opening the voting, like noting a vote, leaves the decision to whoever resolves
it. -/
theorem openVoting (decisive : tally.Decisive threshold)
    (peers : List PeerId) (localPeer : PeerId)
    (notVoting : (tally.openVoting peers localPeer).1.phase ≠ .voting) :
    (tally.openVoting peers localPeer).1.Decisive threshold := by
  unfold Tally.openVoting at notVoting ⊢
  split
  · simp_all
  · exact decisive

theorem noteYes (decisive : tally.Decisive threshold) (peer : PeerId)
    (notVoting : (tally.noteYes peer).1.phase ≠ .voting) :
    (tally.noteYes peer).1.Decisive threshold := by
  unfold Tally.noteYes at notVoting ⊢
  split
  · simp_all
  · exact decisive

theorem noteFailure (decisive : tally.Decisive threshold) (peer : PeerId)
    (failure : Failure)
    (notVoting : (tally.noteFailure peer failure).1.phase ≠ .voting) :
    (tally.noteFailure peer failure).1.Decisive threshold := by
  unfold Tally.noteFailure at notVoting ⊢
  split
  · simp_all
  · exact decisive

end Decisive

end Tally

namespace Tally

/-- An abort that changes the phase reports its cause. -/
theorem cause_of_abort {tally : Tally} {cause : AbortCause}
    (changes : (tally.abort cause).phase ≠ tally.phase) :
    ∃ report, (tally.abort cause).abortReport = some report ∧
      report.cause = cause := by
  unfold abort at changes ⊢
  split
  · simp_all
  · exact ⟨_, rfl, rfl⟩

end Tally

namespace Party

section Looks

variable {party : Party}

theorem decisive_conclude {threshold : Nat}
    (decisive : party.tally.Decisive threshold) :
    party.conclude.1.tally.Decisive threshold :=
  decisive.of_sameRecord (sameRecord_conclude party)

variable (decisive : party.tally.Decisive party.setup.settings.threshold)

include decisive

theorem decisive_lead (sound : party.tally.Sound) (view : GroupView) :
    (party.lead view).1.tally.Decisive party.setup.settings.threshold := by
  have activated : party.tally.activateOnce.1.Decisive
      party.setup.settings.threshold :=
    decisive.of_sameRecord ⟨rfl, rfl, rfl, rfl, rfl⟩
  unfold lead
  split
  · dsimp only
    split
    · split
      · exact activated.commitAlone (sound.perform .activateOnce)
      · exact .resolve (activated.openVoting _ _)
    · exact decisive
  · exact decisive

theorem decisive_welcome (peer : PeerId) :
    (party.welcome peer).1.tally.Decisive party.setup.settings.threshold := by
  unfold welcome
  split
  · dsimp only
    split
    · exact decisive.enlist peer
    · exact decisive
  · exact decisive

theorem decisive_noteFailure (peer : PeerId) (failure : Failure) :
    (party.noteFailure peer failure).1.tally.Decisive
      party.setup.settings.threshold := by
  unfold noteFailure
  dsimp only
  split
  · exact decisive_conclude (.resolve (decisive.noteFailure peer failure))
  · exact decisive_conclude decisive

theorem decisive_hearVote (vote : Vote) :
    (party.hearVote vote).1.tally.Decisive
      party.setup.settings.threshold := by
  unfold hearVote
  split
  · refine decisive_conclude ?_
    unfold weigh
    split
    · exact .resolve (decisive.noteYes _)
    · exact .resolve (decisive.noteFailure _ _)
    · exact decisive
    · exact decisive.of_sameRecord ⟨rfl, rfl, rfl, rfl, rfl⟩
    · exact decisive
    · exact decisive
  · exact decisive

theorem decisive_noteResult (opening : Opening)
    (result : Except DeliveryError Unit) :
    (party.noteResult opening result).1.tally.Decisive
      party.setup.settings.threshold := by
  unfold noteResult
  split
  · exact decisive
  · exact decisive_noteFailure decisive _ _
  · exact decisive_conclude decisive.prepare
  · exact decisive_conclude (decisive.abort _)
  · exact decisive_conclude (decisive.abort _)

theorem decisive_checkDeadline (now : Instant) :
    (party.checkDeadline now).1.tally.Decisive
      party.setup.settings.threshold := by
  have resolved : party.resolve.tally.Decisive party.setup.settings.threshold :=
    .resolve fun _ => decisive
  unfold checkDeadline
  split
  · have fixed : (party.resolve.tally.fixDeadline now
        party.setup.settings.timeout).1.Decisive
          party.setup.settings.threshold :=
      resolved.of_sameRecord ⟨rfl, rfl, rfl, rfl, rfl⟩
    dsimp only
    split
    · split <;> exact fixed.abort _
    · exact fixed
  · exact decisive

theorem decisive_examine (now : Instant) :
    (party.examine now).1.tally.Decisive party.setup.settings.threshold :=
  (decisive_checkDeadline decisive now).of_sameRecord
    (sameRecord_examine party now)

/-- Every look of the primary leaves its tally decisive. -/
theorem decisive_look (role : party.setup.role = .primary)
    (sound : party.tally.Sound) (trigger : Trigger) :
    (party.look trigger).1.tally.Decisive party.setup.settings.threshold := by
  have primary : party.isPrimary = true := isPrimary_iff.2 role
  cases trigger with
  | command command =>
      cases command with
      | handle event view =>
          cases event with
          | activated =>
              simpa [look, handle, primary, opened] using
                decisive_lead decisive sound view
          | memberJoined peer => exact decisive_welcome decisive peer
          | voteReceived vote => exact decisive_hearVote decisive vote
          | memberDeparted peer =>
              simpa [look, handle, primary, dismiss, closed] using
                decisive_noteFailure decisive peer .departed
          | noticeReceived decision objectId =>
              simpa [look, handle, primary, hearNotice, closed] using decisive
      | lead view => exact decisive_lead decisive sound view
      | enroll refusal => simpa [look, enroll, primary, opened] using decisive
      | await => exact decisive
  | result opening result => exact decisive_noteResult decisive opening result
  | clock now =>
      rw [look_clock_fst]
      exact decisive_examine decisive now

/-- There is nothing to resolve. -/
theorem resolve_of_decisive : party.resolve = party := by
  rw [resolve, decisive.resolve_eq]

/-- The deadline either has no effect on the phase, or it aborts. -/
theorem checkDeadline_cases (now : Instant) :
    (party.checkDeadline now).1.tally.phase = party.tally.phase ∨
      ∃ tally : Tally, tally.phase = party.tally.phase ∧
        (party.checkDeadline now).1.tally =
          tally.abort (.timedOut party.setup.settings.timeout) := by
  have resolved : party.resolve.tally.phase = party.tally.phase :=
    congrArg (·.1.phase) decisive.resolve_eq
  unfold checkDeadline
  split
  · dsimp only
    split
    · refine .inr ⟨(party.resolve.tally.fixDeadline now
        party.setup.settings.timeout).1, resolved, ?_⟩
      split <;> rfl
    · exact .inl resolved
  · exact .inl rfl

/-- Whoever waits changes the phase only because the time has passed. -/
theorem timed_out_of_examine {now : Instant}
    (changes : (party.examine now).1.tally.phase ≠ party.tally.phase) :
    ∃ report, (party.examine now).1.tally.abortReport = some report ∧
      report.cause = .timedOut party.setup.settings.timeout := by
  have checked := sameRecord_examine party now
  rw [checked.phase] at changes
  rw [checked.abortReport]
  rcases checkDeadline_cases decisive now with same | ⟨tally, same, aborted⟩
  · exact absurd same changes
  · rw [aborted, ← same] at changes
    rw [aborted]
    exact Tally.cause_of_abort changes

end Looks

end Party

namespace Session

variable {setup : Setup} {moves : List Move} {last : Session}

theorem decisive_of_run (role : setup.role = .primary)
    (ran : (start setup).run? moves = some last) :
    last.party.tally.Decisive setup.settings.threshold := by
  have kept := tally_of_run (motive := fun tally =>
      tally.Sound ∧ tally.Decisive setup.settings.threshold)
    ⟨.start setup.objectId, .start setup.objectId⟩
    (fun look sameSetup before => by
      subst sameSetup
      exact ⟨(Party.advancesOn_look look.party look.trigger).sound before.1,
        Party.decisive_look before.2 role before.1 look.trigger⟩) ran
  exact kept.2

/-- Whatever calls overlap on the primary, no decision is missed and none is
made too soon.  While the voting is open a vote is outstanding and no more peers
failed than the threshold allows; after a commit everyone ever admitted
acknowledged or failed, within the same bound.  Somebody who waits finds no
decision left to take, and changes the phase only because the time has
passed. -/
theorem decisions_neither_missed_nor_premature (role : setup.role = .primary)
    (ran : (start setup).run? moves = some last) :
    let tally := last.party.tally
    let threshold := setup.settings.threshold
    (tally.phase = .voting →
      tally.outstanding ≠ ∅ ∧ tally.failures.size ≤ threshold) ∧
    (tally.phase = .committed →
      (∀ peer ∈ admissions ((start setup).history moves),
        peer ∈ tally.acknowledged ∨ peer ∈ tally.failures) ∧
      tally.failures.size ≤ threshold) ∧
    tally.resolve threshold = (tally, none) ∧
    ∀ now, (last.party.examine now).1.tally.phase ≠ tally.phase →
      ∃ report, (last.party.examine now).1.tally.abortReport = some report ∧
        report.cause = .timedOut setup.settings.timeout := by
  have decisive := decisive_of_run role ran
  have sameSetup : last.party.setup = setup := setup_of_run ran
  refine ⟨fun voting => ⟨decisive.outstanding voting,
      decisive.bounded (.inl voting)⟩,
    fun committed => ⟨fun peer admitted => ?_,
      decisive.bounded (.inr committed)⟩, decisive.resolve_eq, ?_⟩
  · have noneOutstanding := (tidy_of_run role ran).1.committed committed
    have notOutstanding : peer ∉ last.party.tally.outstanding := by
      simp [noneOutstanding]
    exact ((tells_of_run role ran).involves_iff.2 admitted).resolve_left
      notOutstanding
  · intro now changes
    have timedOut := Party.timed_out_of_examine (sameSetup.symm ▸ decisive)
      changes
    rwa [sameSetup] at timedOut

/-- A peer joins before the last vote arrives, and votes after it. -/
def lateJoinMoves : List Move :=
  [.start (.lead (.connected [⟨"home"⟩, ⟨"near"⟩])),
    .start (.handle (.memberJoined ⟨"late"⟩) .disconnected),
    .start (.handle (.voteReceived ⟨⟨"near"⟩, ⟨"doc"⟩, 1, none⟩) .disconnected),
    .start (.handle (.voteReceived ⟨⟨"late"⟩, ⟨"doc"⟩, 1, none⟩) .disconnected)]

theorem commit_waited_for_late_join :
    ∃ session, (start (.primary ⟨"doc"⟩ ⟨"home"⟩)).run? lateJoinMoves =
        some session ∧
      (Setup.primary ⟨"doc"⟩ ⟨"home"⟩).role = .primary ∧
      session.party.tally.phase = .committed ∧
      (⟨"late"⟩ ∈ session.party.tally.acknowledged ∨
        ⟨"late"⟩ ∈ session.party.tally.failures) := by
  have run : ((start (.primary ⟨"doc"⟩ ⟨"home"⟩)).run? lateJoinMoves).map
      (fun session => session.party.tally.phase) = some .committed := by rfl
  obtain ⟨session, ran, committed⟩ := Option.map_eq_some_iff.1 run
  have role : (Setup.primary ⟨"doc"⟩ ⟨"home"⟩).role = .primary := rfl
  obtain ⟨-, decided, -⟩ := decisions_neither_missed_nor_premature role ran
  exact ⟨session, ran, role, committed,
    (decided committed).1 ⟨"late"⟩ (by decide)⟩

end Session

end CreationCommit
