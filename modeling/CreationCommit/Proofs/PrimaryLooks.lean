import CreationCommit.Proofs.Looks
import Mathlib.Data.List.Count

/-!
# What a look of the primary leaves to do

The duties that a look of the primary leaves are of six kinds.  Either it only
opens something, or it is the look that aborts the creation and it tells
everyone, or a waiter finds a commit first and tells everyone, or a yes came
too late and its voter alone is told.  Which kind it is depends on the decision
before and after the look alone.
-/

namespace CreationCommit

/-- The phase of a creation about which a decision was made. -/
def Decision.phase : Decision → Phase
  | .commit => .committed
  | .abort => .aborted

theorem Decision.phase_injective : Function.Injective Decision.phase := by
  intro first second same
  cases first <;> cases second <;> simp_all [Decision.phase]

namespace Tally

/-- Only a decision is finalized, an abort is as soon as it is made, and nobody
votes before the activation. -/
structure Tidy (tally : Tally) : Prop where
  decided : tally.finalized = true → tally.isDecided
  finalized : tally.phase = .aborted → tally.finalized = true
  activated : tally.phase = .voting → tally.activated = true

theorem Tidy.start (objectId : ObjectId) : (Tally.start objectId).Tidy where
  decided := by simp [Tally.start]
  finalized := by simp [Tally.start]
  activated := by simp [Tally.start]

theorem Tidy.not_finalized {tally : Tally} (tidy : tally.Tidy)
    (undecided : ¬ tally.isDecided) : tally.finalized = false := by
  rw [← Bool.not_eq_true]
  exact fun finalized => undecided (tidy.decided finalized)

/-- The peers that an abort must reach are those that did not fail. -/
theorem mem_abortAudience {tally : Tally} {peer : PeerId} :
    peer ∈ tally.abortAudience ↔
      peer ∈ tally.acknowledged ∨ peer ∈ tally.outstanding := by
  simp [abortAudience]

theorem Sound.nodup_abortAudience {tally : Tally} (sound : tally.Sound) :
    tally.abortAudience.Nodup := by
  rw [abortAudience, List.nodup_append]
  refine ⟨sound.acknowledged_nodup, PeerMap.nodup_keys _, ?_⟩
  rintro peer acknowledged other outstanding rfl
  exact sound.outstanding_acknowledged peer outstanding acknowledged

theorem SameRecord.abortAudience {first second : Tally}
    (same : first.SameRecord second) :
    second.abortAudience = first.abortAudience := by
  simp [Tally.abortAudience, same.acknowledged, same.outstanding]

/-- Whom a decision is told. -/
def audience (tally : Tally) : Decision → List PeerId
  | .commit => tally.acknowledged
  | .abort => tally.abortAudience

theorem Sound.nodup_audience {tally : Tally} (sound : tally.Sound)
    (decision : Decision) : (tally.audience decision).Nodup := by
  cases decision with
  | commit => exact sound.acknowledged_nodup
  | abort => exact sound.nodup_abortAudience

theorem SameRecord.audience {first second : Tally}
    (same : first.SameRecord second) (decision : Decision) :
    second.audience decision = first.audience decision := by
  cases decision with
  | commit => exact same.acknowledged
  | abort => exact same.abortAudience

theorem isDecided_of_phase {tally : Tally} {decision : Decision}
    (phase : tally.phase = decision.phase) : tally.isDecided := by
  rw [isDecided, phase]
  cases decision <;> rfl

theorem finalizeOnce_of_finalized {tally : Tally}
    (finalized : tally.finalized = true) : tally.finalizeOnce = (tally, false) := by
  simp [finalizeOnce, finalized]

theorem finalizeOnce_of_isDecided {tally : Tally} (decided : tally.isDecided)
    (notFinalized : tally.finalized = false) :
    tally.finalizeOnce = ({ tally with finalized := true }, true) := by
  simp [finalizeOnce, decided, notFinalized]

end Tally

namespace Party

/-- What a look of the primary leaves to do, by the tallies before and after
it. -/
inductive Consequence (before : Tally) (trigger : Trigger) (after : Tally) :
    List Duty → Prop
  | opens (openings : List Opening)
      (samePhase : after.phase = .aborted → before.phase = .aborted)
      (sameFinalized : after.finalized = before.finalized) :
      Consequence before trigger after (openings.map .opening)
  | aborts (undecided : ¬ before.isDecided) (aborted : after.phase = .aborted)
      (finalized : after.finalized = true) :
      Consequence before trigger after
        ((broadcast .abort after.abortAudience).map .closing)
  | commits (notFinalized : before.finalized = false)
      (committed : after.phase = .committed)
      (finalized : after.finalized = true) :
      Consequence before trigger after
        ((broadcast .commit after.acknowledged).map .closing)
  | tellsCommit (vote : Vote) (view : GroupView)
      (arrived : trigger = .command (.handle (.voteReceived vote) view))
      (yes : vote.refusal = none) (committed : before.phase = .committed)
      (same : after = before) :
      Consequence before trigger after
        [.closing (.notify .commit vote.voter)]
  | tellsAbort (vote : Vote) (view : GroupView)
      (arrived : trigger = .command (.handle (.voteReceived vote) view))
      (yes : vote.refusal = none) (aborted : before.phase = .aborted)
      (unreached : vote.voter ∉ before.abortAudience) (same : after = before) :
      Consequence before trigger after
        [.closing (.notify .abort vote.voter)]

section Settling

variable {party : Party}

theorem settle_of_not_aborted (notAborted : party.tally.phase ≠ .aborted) :
    party.settle = (party, []) := by
  simp [settle, notAborted]

theorem settle_of_finalized (finalized : party.tally.finalized = true) :
    party.settle = (party, []) := by
  unfold settle
  split
  · simp [Tally.finalizeOnce_of_finalized finalized]
  · rfl

theorem settle_of_aborted (aborted : party.tally.phase = .aborted)
    (notFinalized : party.tally.finalized = false) :
    party.settle =
      ({ party with tally := { party.tally with finalized := true } },
        broadcast .abort party.teardownAudience) := by
  have decided : party.tally.isDecided := Tally.isDecided_iff.2 (.inr aborted)
  simp [settle, aborted, Tally.finalizeOnce_of_isDecided decided notFinalized]

/-- Settling a tidy tally has no effect. -/
theorem settle_of_tidy (tidy : party.tally.Tidy) : party.settle = (party, []) := by
  by_cases aborted : party.tally.phase = .aborted
  · exact settle_of_finalized (tidy.finalized aborted)
  · exact settle_of_not_aborted aborted

theorem conclude_of_tidy (tidy : party.tally.Tidy) :
    party.conclude = (party.announce, []) := by
  simp [conclude, settle_of_tidy tidy]

theorem teardownAudience_of_primary (role : party.setup.role = .primary) :
    party.teardownAudience = party.tally.abortAudience := by
  simp [teardownAudience, role]

end Settling

section Consequences

variable {before : Tally} {trigger : Trigger} {party : Party}

/-- A look at an undecided creation that ends by settling aborts it or has no
consequence. -/
theorem consequence_settle (role : party.setup.role = .primary)
    (undecided : ¬ before.isDecided) (tidy : before.Tidy)
    (sameFinalized : party.tally.finalized = before.finalized) :
    Consequence before trigger party.settle.1.tally
      (party.settle.2.map .closing) := by
  have notFinalized : party.tally.finalized = false :=
    sameFinalized.trans (tidy.not_finalized undecided)
  by_cases aborted : party.tally.phase = .aborted
  · rw [settle_of_aborted aborted notFinalized, teardownAudience_of_primary role]
    exact .aborts undecided aborted rfl
  · rw [settle_of_not_aborted aborted]
    exact .opens [] (absurd · aborted) sameFinalized

theorem consequence_conclude (role : party.setup.role = .primary)
    (undecided : ¬ before.isDecided) (tidy : before.Tidy)
    (sameFinalized : party.tally.finalized = before.finalized) :
    Consequence before trigger party.conclude.1.tally
      (party.conclude.2.map .closing) :=
  consequence_settle role undecided tidy sameFinalized

/-- A look that leaves nothing to do and does not touch the decision. -/
theorem Consequence.nothing {after : Tally}
    (samePhase : after.phase = .aborted → before.phase = .aborted)
    (sameFinalized : after.finalized = before.finalized) :
    Consequence before trigger after [] :=
  .opens [] samePhase sameFinalized

theorem not_isDecided_of_voting {tally : Tally} (voting : tally.phase = .voting) :
    ¬ tally.isDecided := by
  simp [Tally.isDecided_iff, voting]

theorem finalized_resolve (tally : Tally) (threshold : Nat) :
    (tally.resolve threshold).1.finalized = tally.finalized := by
  unfold Tally.resolve Tally.abort
  (repeat' split) <;> rfl

theorem finalized_noteFailure (tally : Tally) (peer : PeerId)
    (failure : Failure) :
    (tally.noteFailure peer failure).1.finalized = tally.finalized := by
  unfold Tally.noteFailure
  split <;> rfl

theorem finalized_noteYes (tally : Tally) (peer : PeerId) :
    (tally.noteYes peer).1.finalized = tally.finalized := by
  unfold Tally.noteYes
  split <;> rfl

theorem consequence_noteFailure (role : party.setup.role = .primary)
    (tidy : party.tally.Tidy) (peer : PeerId) (failure : Failure) :
    Consequence party.tally trigger (party.noteFailure peer failure).1.tally
      ((party.noteFailure peer failure).2.map .closing) := by
  unfold noteFailure
  dsimp only
  split
  · rename_i recorded
    have voting : party.tally.phase = .voting := by
      unfold Tally.noteFailure at recorded
      split at recorded
      · rename_i allowed
        exact allowed.1
      · simp at recorded
    exact consequence_conclude role (not_isDecided_of_voting voting) tidy
      ((finalized_resolve _ _).trans (finalized_noteFailure _ _ _))
  · rw [conclude_of_tidy tidy]
    exact .nothing id rfl

theorem consequence_hearVote (role : party.setup.role = .primary)
    (tidy : party.tally.Tidy) (vote : Vote) (view : GroupView) :
    Consequence party.tally (.command (.handle (.voteReceived vote) view))
      (party.hearVote vote).1.tally ((party.hearVote vote).2.map .closing) := by
  unfold hearVote
  split
  · dsimp only
    unfold weigh
    split
    · rename_i voting _
      rw [List.append_nil]
      exact consequence_conclude role (not_isDecided_of_voting voting) tidy
        ((finalized_resolve _ _).trans (finalized_noteYes _ _))
    · rename_i voting _
      rw [List.append_nil]
      exact consequence_conclude role (not_isDecided_of_voting voting) tidy
        ((finalized_resolve _ _).trans (finalized_noteFailure _ _ _))
    · rename_i committed yes
      rw [conclude_of_tidy tidy]
      exact .tellsCommit vote view rfl yes committed rfl
    · rename_i committed _
      rw [List.append_nil, conclude, settle_of_not_aborted (by
        simp [Tally.noteLateRefusal, committed])]
      exact .nothing id rfl
    · rename_i aborted yes
      rw [conclude_of_tidy tidy]
      split
      · exact .nothing id rfl
      · rename_i unreached
        exact .tellsAbort vote view rfl yes aborted unreached rfl
    · rw [conclude_of_tidy tidy]
      exact .nothing id rfl
  · exact .nothing id rfl

/-- Opening the voting, with nobody failed, aborts nothing. -/
theorem aborted_of_resolve_openVoting {tally : Tally} (sound : tally.Sound)
    (notVoting : tally.phase ≠ .voting) (peers : List PeerId)
    (localPeer : PeerId) (threshold : Nat)
    (aborted : ((tally.openVoting peers localPeer).1.resolve threshold).1.phase =
      .aborted) : tally.phase = .aborted := by
  unfold Tally.openVoting at aborted
  split at aborted
  · rename_i active
    have noFailures := (sound.unopened (.inl active)).2.1
    simp only [Tally.resolve, noFailures, if_true,
      show (∅ : PeerMap Failure).size = 0 from rfl, Nat.not_lt_zero,
      if_false] at aborted
    split at aborted <;> simp at aborted
  · simpa [Tally.resolve, notVoting] using aborted

theorem aborted_of_commitAlone (tally : Tally)
    (aborted : tally.commitAlone.1.phase = .aborted) :
    tally.phase = .aborted := by
  unfold Tally.commitAlone at aborted
  split at aborted
  · simp at aborted
  · exact aborted

theorem finalized_commitAlone (tally : Tally) :
    tally.commitAlone.1.finalized = tally.finalized := by
  unfold Tally.commitAlone
  split <;> rfl

theorem finalized_openVoting (tally : Tally) (peers : List PeerId)
    (localPeer : PeerId) :
    (tally.openVoting peers localPeer).1.finalized = tally.finalized := by
  unfold Tally.openVoting
  split <;> rfl

theorem consequence_lead (sound : party.tally.Sound) (tidy : party.tally.Tidy)
    (view : GroupView) :
    Consequence party.tally trigger (party.lead view).1.tally
      ((party.lead view).2.map .opening) := by
  unfold lead
  split
  · dsimp only
    split
    · rename_i first
      have notVoting : party.tally.phase ≠ .voting := by
        intro voting
        simp [Tally.activateOnce, tidy.activated voting] at first
      split
      · exact .opens [] (aborted_of_commitAlone party.tally.activateOnce.1)
          (finalized_commitAlone _)
      · exact .opens _
          (aborted_of_resolve_openVoting (sound.perform .activateOnce)
            notVoting _ _ _)
          ((finalized_resolve _ _).trans (finalized_openVoting _ _ _))
    · exact .opens [] id rfl
  · exact .opens [] id rfl

theorem consequence_welcome (peer : PeerId) :
    Consequence party.tally trigger (party.welcome peer).1.tally
      ((party.welcome peer).2.map .opening) := by
  unfold welcome
  split
  · dsimp only
    split
    · refine .opens [.request peer] ?_ ?_
      · simp only [announce, Tally.enlist]
        split <;> exact id
      · simp only [announce, Tally.enlist]
        split <;> rfl
    · exact .opens [] id rfl
  · exact .opens [] id rfl

theorem finalized_abort (tally : Tally) (cause : AbortCause) :
    (tally.abort cause).finalized = tally.finalized := by
  unfold Tally.abort
  split <;> rfl

/-- A look that concludes has no consequence if it left the tally alone. -/
theorem consequence_conclude_of_same (role : party.setup.role = .primary)
    (tidy : before.Tidy)
    (same : before.isDecided → party.tally = before)
    (sameFinalized : party.tally.finalized = before.finalized) :
    Consequence before trigger party.conclude.1.tally
      (party.conclude.2.map .closing) := by
  by_cases decided : before.isDecided
  · obtain rfl := same decided
    rw [conclude_of_tidy tidy]
    exact .nothing id rfl
  · exact consequence_conclude role decided tidy sameFinalized

theorem consequence_noteResult (role : party.setup.role = .primary)
    (tidy : party.tally.Tidy) (opening : Opening)
    (result : Except DeliveryError Unit) :
    Consequence party.tally trigger (party.noteResult opening result).1.tally
      ((party.noteResult opening result).2.map .closing) := by
  unfold noteResult
  split
  · exact .nothing id rfl
  · exact consequence_noteFailure role tidy _ _
  · refine consequence_conclude_of_same role tidy ?_ ?_
    · intro decided
      have notActive : party.tally.phase ≠ .active := by
        intro active
        simp [Tally.isDecided_iff, active] at decided
      simp [Tally.prepare, notActive]
    · unfold Tally.prepare
      split <;> rfl
  · exact consequence_conclude_of_same role tidy
      (Tally.abort_of_isDecided · _) (finalized_abort _ _)
  · exact consequence_conclude_of_same role tidy
      (Tally.abort_of_isDecided · _) (finalized_abort _ _)

theorem finalized_checkDeadline (now : Instant) :
    (party.checkDeadline now).1.tally.finalized = party.tally.finalized := by
  unfold checkDeadline
  split
  · dsimp only
    have resolved : party.resolve.tally.finalized = party.tally.finalized :=
      finalized_resolve _ _
    split
    · split <;> exact (finalized_abort _ _).trans resolved
    · exact resolved
  · rfl

theorem consequence_examine (role : party.setup.role = .primary)
    (sound : party.tally.Sound) (tidy : party.tally.Tidy) (now : Instant) :
    Consequence party.tally trigger (party.look (.clock now)).1.tally
      (party.look (.clock now)).2 := by
  have advances := advancesOn_checkDeadline party now
  have sameFinalized : (party.checkDeadline now).1.tally.finalized =
      party.tally.finalized := finalized_checkDeadline now
  simp only [look, examine]
  generalize party.checkDeadline now = check at advances sameFinalized ⊢
  obtain ⟨checked, deadline⟩ := check
  dsimp only at advances sameFinalized ⊢
  cases phase : checked.tally.phase with
  | committed =>
      dsimp only
      cases finalized : checked.tally.finalized with
      | true =>
          rw [Tally.finalizeOnce_of_finalized finalized]
          exact .nothing (fun aborted => by simp [phase] at aborted) sameFinalized
      | false =>
          rw [Tally.finalizeOnce_of_isDecided
            (Tally.isDecided_iff.2 (.inl phase)) finalized]
          exact .commits (sameFinalized ▸ finalized) phase rfl
  | aborted =>
      cases report : checked.tally.abortReport with
      | none =>
          have reported := (advances.sound sound).reported.2 phase
          simp [report] at reported
      | some report =>
          dsimp only
          by_cases decided : party.tally.isDecided
          · have samePhase := (advances.sameRecord decided).phase
            have finalized : checked.tally.finalized = true :=
              sameFinalized.trans (tidy.finalized (samePhase ▸ phase))
            rw [settle_of_finalized finalized]
            exact .nothing (fun _ => samePhase ▸ phase) sameFinalized
          · exact consequence_settle (advances.setup ▸ role) decided tidy
              sameFinalized
  | active | voting | prepared =>
      dsimp only
      exact .nothing (fun aborted => by simp [phase] at aborted) sameFinalized

/-- The consequence of any look of the primary. -/
theorem consequence_look (role : party.setup.role = .primary)
    (sound : party.tally.Sound) (tidy : party.tally.Tidy) (trigger : Trigger) :
    Consequence party.tally trigger (party.look trigger).1.tally
      (party.look trigger).2 := by
  have primary : party.isPrimary = true := isPrimary_iff.2 role
  cases trigger with
  | command command =>
      cases command with
      | handle event view =>
          cases event with
          | activated =>
              simpa [look, handle, primary, opened] using
                consequence_lead sound tidy view
          | memberJoined peer => exact consequence_welcome peer
          | voteReceived vote => exact consequence_hearVote role tidy vote view
          | memberDeparted peer =>
              simpa [look, handle, primary, dismiss, closed] using
                consequence_noteFailure role tidy peer .departed
          | noticeReceived decision objectId =>
              simpa [look, handle, primary, hearNotice, closed] using
                Consequence.nothing id rfl
      | lead view => exact consequence_lead sound tidy view
      | enroll refusal =>
          simpa [look, enroll, primary, opened] using Consequence.nothing id rfl
      | await => exact .nothing id rfl
  | result opening result => exact consequence_noteResult role tidy opening result
  | clock now => exact consequence_examine role sound tidy now

end Consequences

section Tidiness

variable {party : Party} {trigger : Trigger}

theorem activated_lead (primary : party.isPrimary = true) (view : GroupView) :
    (party.lead view).1.tally.activated = true := by
  unfold lead
  rw [if_pos primary]
  dsimp only
  split
  · split
    · exact (Tally.activated_perform _ .commitAlone).2 (.inl rfl)
    · exact (Tally.activated_perform _ (.resolve _)).2
        (.inl ((Tally.activated_perform _ (.openVoting _ _)).2 (.inl rfl)))
  · rename_i notFirst
    simpa [Tally.activateOnce] using notFirst

/-- The look that opens the voting activates the party. -/
theorem activated_of_voting (role : party.setup.role = .primary)
    (tidy : party.tally.Tidy)
    (voting : (party.look trigger).1.tally.phase = .voting) :
    (party.look trigger).1.tally.activated = true := by
  have primary : party.isPrimary = true := isPrimary_iff.2 role
  have advances := advancesOn_look party trigger
  have opened : party.tally.phase = .voting ∨ ∃ peers localPeer,
      trigger.Causes party.setup (.openVoting peers localPeer) := by
    revert voting
    refine advances.induction (motive := fun tally =>
      tally.phase = .voting → party.tally.phase = .voting ∨
        ∃ peers localPeer,
          trigger.Causes party.setup (.openVoting peers localPeer)) Or.inl ?_
    intro operation caused tally known voting
    rcases Tally.voting_perform voting with earlier | ⟨peers, localPeer, rfl⟩
    · exact known earlier
    · exact .inr ⟨peers, localPeer, caused⟩
  rcases opened with earlier | ⟨_, _, -, -, view, rfl | rfl⟩
  · exact advances.activated (tidy.activated earlier)
  · exact activated_lead primary view
  · simpa [look, handle, primary, Party.opened] using
      activated_lead primary view

/-- Every look of the primary leaves its tally tidy. -/
theorem tidy_look (role : party.setup.role = .primary)
    (sound : party.tally.Sound) (tidy : party.tally.Tidy) (trigger : Trigger) :
    (party.look trigger).1.tally.Tidy where
  decided :=
    (advancesOn_look party trigger).isDecided_of_finalized tidy.decided
  finalized := by
    intro aborted
    have advances := advancesOn_look party trigger
    have consequence := consequence_look role sound tidy trigger
    generalize (party.look trigger).2 = duties at consequence
    cases consequence with
    | opens openings samePhase =>
        exact advances.finalized (tidy.finalized (samePhase aborted))
    | aborts _ _ finalized => exact finalized
    | commits _ _ finalized => exact finalized
    | tellsCommit _ _ _ _ _ same => exact same ▸ tidy.finalized (same ▸ aborted)
    | tellsAbort _ _ _ _ _ _ same => exact same ▸ tidy.finalized (same ▸ aborted)
  activated := activated_of_voting role tidy

end Tidiness

namespace Consequence

variable {before after : Tally} {trigger : Trigger} {duties : List Duty}
  {peer : PeerId}

theorem count_broadcast (decision : Decision) (peers : List PeerId) :
    ((broadcast decision peers).map Duty.closing).count
        (.closing (.notify decision peer)) = peers.count peer := by
  have injective : Function.Injective fun peer =>
      Duty.closing (.notify decision peer) := by
    intro first second same
    simpa using same
  simpa [broadcast, List.count_append, Function.comp_def] using
    List.count_map_of_injective peers _ injective peer

theorem mem_broadcast {decision told : Decision} {peers : List PeerId}
    (isTold : Duty.closing (.notify told peer) ∈
      (broadcast decision peers).map Duty.closing) :
    told = decision ∧ peer ∈ peers := by
  simp only [broadcast, List.map_append, List.map_map, List.map_cons,
    List.map_nil, List.mem_append, List.mem_map, Function.comp_apply,
    List.mem_singleton] at isTold
  rcases isTold with ⟨other, isPeer, same⟩ | isReport
  · obtain ⟨rfl, rfl⟩ : decision = told ∧ other = peer := by simpa using same
    exact ⟨rfl, isPeer⟩
  · simp at isReport

/-- A peer is told of a decision only once it is made. -/
theorem phase_of_notify {told : Decision}
    (consequence : Consequence before trigger after duties)
    (isTold : .closing (.notify told peer) ∈ duties) :
    after.phase = told.phase := by
  cases consequence with
  | opens => simp at isTold
  | aborts undecided aborted =>
      obtain ⟨rfl, -⟩ := mem_broadcast isTold
      exact aborted
  | commits notFinalized committed =>
      obtain ⟨rfl, -⟩ := mem_broadcast isTold
      exact committed
  | tellsCommit vote view arrived yes committed same =>
      obtain ⟨rfl, -⟩ : told = .commit ∧ peer = vote.voter := by
        simpa using isTold
      exact same ▸ committed
  | tellsAbort vote view arrived yes aborted unreached same =>
      obtain ⟨rfl, -⟩ : told = .abort ∧ peer = vote.voter := by
        simpa using isTold
      exact same ▸ aborted

/-- The look that aborts tells the abort to its audience. -/
theorem count_abort (consequence : Consequence before trigger after duties)
    (undecided : ¬ before.isDecided) (aborted : after.phase = .aborted) :
    duties.count (.closing (.notify .abort peer)) =
      after.abortAudience.count peer := by
  have notAborted := Tally.not_aborted_of_undecided undecided
  cases consequence with
  | opens openings samePhase => exact absurd (samePhase aborted) notAborted
  | aborts => exact count_broadcast _ _
  | commits notFinalized committed => simp [committed] at aborted
  | tellsCommit vote view arrived yes committed =>
      exact absurd (Tally.isDecided_iff.2 (.inl committed)) undecided
  | tellsAbort vote view arrived yes already => exact absurd already notAborted

/-- A peer that the abort reached is not told again. -/
theorem not_mem_abort_again
    (consequence : Consequence before trigger after duties)
    (tidy : before.Tidy) (aborted : before.phase = .aborted)
    (reached : peer ∈ before.abortAudience) :
    .closing (.notify .abort peer) ∉ duties := by
  cases consequence with
  | opens => simp
  | aborts undecided =>
      exact absurd (Tally.isDecided_iff.2 (.inr aborted)) undecided
  | commits notFinalized =>
      simp [tidy.finalized aborted] at notFinalized
  | tellsCommit => simp
  | tellsAbort vote view arrived yes already unreached =>
      have differs : peer ≠ vote.voter := ne_of_mem_of_not_mem reached unreached
      simpa using differs

/-- The look that finalizes a commit tells it to those that acknowledged. -/
theorem count_commit (consequence : Consequence before trigger after duties)
    (notFinalized : before.finalized = false)
    (committed : after.phase = .committed) (finalized : after.finalized = true) :
    duties.count (.closing (.notify .commit peer)) =
      after.acknowledged.count peer := by
  cases consequence with
  | opens openings samePhase sameFinalized =>
      simp [sameFinalized, notFinalized] at finalized
  | aborts undecided aborted => simp [aborted] at committed
  | commits => exact count_broadcast _ _
  | tellsCommit vote view arrived yes already same =>
      simp [same, notFinalized] at finalized
  | tellsAbort vote view arrived yes already unreached same =>
      simp [same, already] at committed

/-- Any other look tells a commit only to the voter of a late yes. -/
theorem late_of_notify_commit
    (consequence : Consequence before trigger after duties)
    (sameFinalized : after.finalized = before.finalized)
    (isTold : .closing (.notify .commit peer) ∈ duties) :
    before.phase = .committed ∧ ∃ vote view, vote.voter = peer ∧
      vote.refusal = none ∧
      trigger = .command (.handle (.voteReceived vote) view) := by
  cases consequence with
  | opens => simp at isTold
  | aborts => simpa using mem_broadcast isTold
  | commits notFinalized committed finalized =>
      simp [finalized, notFinalized] at sameFinalized
  | tellsCommit vote view arrived yes committed same =>
      have voter : peer = vote.voter := by simpa using isTold
      exact ⟨committed, vote, view, voter.symm, yes, arrived⟩
  | tellsAbort => simp at isTold

end Consequence

section Requests

variable {party : Party} {trigger : Trigger} {peer : PeerId}

/-- The peers that opening the voting admits are new and then take part. -/
theorem openVoting_admits {tally : Tally} (sound : tally.Sound)
    {peers : List PeerId} {localPeer : PeerId}
    (admitted : peer ∈ (tally.openVoting peers localPeer).2) :
    ¬ tally.Involves peer ∧
      peer ∈ (tally.openVoting peers localPeer).1.outstanding := by
  unfold Tally.openVoting at admitted ⊢
  split at admitted
  · rename_i active
    obtain ⟨noneOutstanding, noFailures, noneAcknowledged⟩ :=
      sound.unopened (.inl active)
    rw [if_pos active]
    refine ⟨by simp [Tally.Involves, noneOutstanding, noFailures,
      noneAcknowledged], ?_⟩
    exact Tally.mem_enlistAll_fst.2 (.inr (Tally.mem_enlistAll_snd.1 admitted).1)
  · simp at admitted

theorem nodup_openVoting (tally : Tally) (peers : List PeerId)
    (localPeer : PeerId) : (tally.openVoting peers localPeer).2.Nodup := by
  unfold Tally.openVoting
  split
  · exact Tally.nodup_enlistAll _ _
  · exact List.nodup_nil

/-- What leading opens are requests to distinct new peers. -/
theorem lead_opens (sound : party.tally.Sound) (view : GroupView) :
    ∃ peers : List PeerId, (party.lead view).2 = peers.map .request ∧
      peers.Nodup ∧ ∀ peer ∈ peers, ¬ party.tally.Involves peer ∧
        (party.lead view).1.tally.Involves peer := by
  unfold lead
  split
  · dsimp only
    split
    · split
      · exact ⟨[], rfl, List.nodup_nil, by simp⟩
      · refine ⟨_, rfl, nodup_openVoting _ _ _, fun peer admitted => ?_⟩
        have admits := openVoting_admits (sound.perform .activateOnce) admitted
        exact ⟨admits.1, Tally.involves_perform (.inl admits.2) (.resolve _)⟩
    · exact ⟨[], rfl, List.nodup_nil, by simp⟩
  · exact ⟨[], rfl, List.nodup_nil, by simp⟩

/-- What a welcome opens is a request to a new peer. -/
theorem welcome_opens (party : Party) (newcomer : PeerId) :
    ∃ peers : List PeerId, (party.welcome newcomer).2 = peers.map .request ∧
      peers.Nodup ∧ ∀ peer ∈ peers, ¬ party.tally.Involves peer ∧
        (party.welcome newcomer).1.tally.Involves peer := by
  unfold welcome
  split
  · dsimp only
    split
    · rename_i admitted
      refine ⟨[newcomer], rfl, by simp, ?_⟩
      unfold Tally.enlist at admitted ⊢
      split at admitted
      · rename_i allowed
        have new : newcomer ∉ party.tally.outstanding := by
          simpa using admitted
        simp [Tally.Involves, allowed, new, announce]
      · simp at admitted
    · exact ⟨[], rfl, List.nodup_nil, by simp⟩
  · exact ⟨[], rfl, List.nodup_nil, by simp⟩

/-- The openings that a look of the primary leaves are requests to distinct
peers that were new to it. -/
theorem look_opens (role : party.setup.role = .primary)
    (sound : party.tally.Sound) (trigger : Trigger) :
    ∃ (peers : List PeerId) (closings : List Closing),
      (party.look trigger).2 =
        (peers.map .request).map .opening ++ closings.map .closing ∧
      peers.Nodup ∧ ∀ peer ∈ peers, ¬ party.tally.Involves peer ∧
        (party.look trigger).1.tally.Involves peer := by
  have primary : party.isPrimary = true := isPrimary_iff.2 role
  have closes (closings : List Closing)
      (closed : (party.look trigger).2 = closings.map .closing) :
      ∃ (peers : List PeerId) (closings : List Closing),
        (party.look trigger).2 =
          (peers.map .request).map .opening ++ closings.map .closing ∧
        peers.Nodup ∧ ∀ peer ∈ peers, ¬ party.tally.Involves peer ∧
          (party.look trigger).1.tally.Involves peer :=
    ⟨[], closings, by simpa using closed, List.nodup_nil, by simp⟩
  cases trigger with
  | command command =>
      cases command with
      | handle event view =>
          cases event with
          | activated =>
              obtain ⟨peers, opened, facts⟩ := lead_opens sound view
              exact ⟨peers, [],
                by simp [look, handle, primary, Party.opened, opened],
                by simpa [look, handle, primary, Party.opened] using facts⟩
          | memberJoined newcomer =>
              obtain ⟨peers, opened, facts⟩ :=
                welcome_opens party newcomer
              exact ⟨peers, [], by simp [look, handle, Party.opened, opened],
                facts⟩
          | voteReceived | memberDeparted | noticeReceived => exact closes _ rfl
      | lead view =>
          obtain ⟨peers, opened, facts⟩ := lead_opens sound view
          exact ⟨peers, [], by simp [look, Party.opened, opened], facts⟩
      | enroll refusal =>
          exact closes [] (by simp [look, Party.opened, enroll, primary])
      | await => exact closes [] rfl
  | result opening result => exact closes _ rfl
  | clock now =>
      have closed : ∃ closings : List Closing,
          (party.look (.clock now)).2 = closings.map .closing := by
        simp only [look]
        split
        · exact ⟨[], rfl⟩
        · exact ⟨_, rfl⟩
      exact closed.elim closes

end Requests

end Party

end CreationCommit
