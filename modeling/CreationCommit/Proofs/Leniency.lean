import CreationCommit.Proofs.ReplicaLooks

/-!
# Looks under a higher threshold

The failure threshold is read in one place, where a party resolves its tally.
A party under a higher threshold does there what the same party does under a
lower one, unless the latter aborts because too many peers failed.  Whatever the
two look at their tallies for, they therefore end alike but for the threshold
and have the same to do, unless the stricter one ends aborted.
-/

namespace CreationCommit

/-- The setup with another failure threshold. -/
def Setup.withThreshold (setup : Setup) (threshold : UInt64) : Setup :=
  { setup with
    settings := { setup.settings with failureThreshold := threshold } }

/-- The setup under which at least so many failures do not yet abort. -/
def Setup.tolerating (setup : Setup) (least : UInt64) : Setup :=
  setup.withThreshold (max setup.settings.failureThreshold least)

theorem Setup.tolerating_withThreshold (setup : Setup) {low high : UInt64}
    (raised : low ≤ high) :
    (setup.withThreshold low).tolerating high = setup.withThreshold high := by
  have highest : max low high = high := if_pos raised
  simp only [tolerating, withThreshold, highest]

theorem Setup.threshold_le_tolerating (setup : Setup) (least : UInt64) :
    setup.settings.threshold ≤ (setup.tolerating least).settings.threshold := by
  change _ ≤ UInt64.toNat (if _ ≤ least then least else _)
  split
  · rename_i lower
    exact UInt64.le_iff_toNat_le.1 lower
  · exact Nat.le_refl _

/-- A higher threshold makes a difference only when the lower one aborts. -/
theorem Tally.resolve_of_le (tally : Tally) {low high : Nat}
    (raised : low ≤ high) :
    (tally.resolve low).1.phase = .aborted ∨
      tally.resolve high = tally.resolve low := by
  unfold resolve
  by_cases voting : tally.phase = .voting
  · by_cases exceeded : low < tally.failures.size
    · left
      simp [abort, isDecided, Phase.isDecided, voting, exceeded]
    · right
      have within : ¬ high < tally.failures.size := by omega
      rw [if_neg exceeded, if_neg within]
  · right
    rw [if_neg voting, if_neg voting]

namespace Party

/-- The party under a setup that tolerates more failures. -/
def tolerating (party : Party) (least : UInt64) : Party :=
  { party with setup := party.setup.tolerating least }

/-- Unless the stricter party ends aborted, the more lenient one ends like it
and has the same to do. -/
def AlikeUnlessAborted {α : Type} (least : UInt64) (strict lenient : Party × α) :
    Prop :=
  strict.1.tally.phase = .aborted ∨
    lenient = (strict.1.tolerating least, strict.2)

namespace AlikeUnlessAborted

variable {α β : Type} {least : UInt64} {strict lenient : Party × α}

theorem ite {condition : Prop} [Decidable condition]
    {otherStrict otherLenient : Party × α}
    (positive : AlikeUnlessAborted least strict lenient)
    (negative : AlikeUnlessAborted least otherStrict otherLenient) :
    AlikeUnlessAborted least (if condition then strict else otherStrict)
      (if condition then lenient else otherLenient) := by
  split
  · exact positive
  · exact negative

theorem map (alike : AlikeUnlessAborted least strict lenient)
    (recast : α → β) :
    AlikeUnlessAborted least (strict.1, recast strict.2)
      (lenient.1, recast lenient.2) := by
  rcases alike with aborted | rfl
  · exact .inl aborted
  · exact .inr rfl

theorem opened {strict lenient : Party × List Opening}
    (alike : AlikeUnlessAborted least strict lenient) :
    AlikeUnlessAborted least (Party.opened strict) (Party.opened lenient) :=
  alike.map (List.map Duty.opening)

theorem closed {strict lenient : Party × List Closing}
    (alike : AlikeUnlessAborted least strict lenient) :
    AlikeUnlessAborted least (Party.closed strict) (Party.closed lenient) :=
  alike.map (List.map Duty.closing)

end AlikeUnlessAborted

variable (party : Party) (least : UInt64)

theorem tally_tolerating : (party.tolerating least).tally = party.tally := rfl

theorem resolve_tolerating :
    party.resolve.tally.phase = .aborted ∨
      (party.tolerating least).resolve = party.resolve.tolerating least := by
  rcases party.tally.resolve_of_le
    (party.setup.threshold_le_tolerating least) with aborted | same
  · exact .inl aborted
  · right
    simp only [resolve, tolerating, same]

theorem alike_resolve {α : Type} (rest : α) :
    AlikeUnlessAborted least (party.resolve, rest)
      ((party.tolerating least).resolve, rest) := by
  rcases party.resolve_tolerating least with aborted | same
  · exact .inl aborted
  · exact .inr (Prod.ext same rfl)

/-- Tearing down an aborted creation does not depend on the threshold. -/
theorem settle_tolerating :
    (party.tolerating least).settle =
      (party.settle.1.tolerating least, party.settle.2) := by
  unfold settle
  by_cases aborted : party.tally.phase = .aborted
  · simp only [tolerating, aborted, if_true]
    rfl
  · simp only [tolerating, aborted, if_false]

theorem conclude_tolerating :
    (party.tolerating least).conclude =
      (party.conclude.1.tolerating least, party.conclude.2) := by
  unfold conclude
  rw [settle_tolerating]
  rfl

theorem alike_conclude :
    AlikeUnlessAborted least party.conclude (party.tolerating least).conclude :=
  .inr (party.conclude_tolerating least)

theorem phase_conclude : party.conclude.1.tally.phase = party.tally.phase :=
  (sameRecord_conclude party).phase

theorem alike_resolve_conclude :
    AlikeUnlessAborted least party.resolve.conclude
      (party.tolerating least).resolve.conclude := by
  rcases party.resolve_tolerating least with aborted | same
  · exact .inl ((phase_conclude _).trans aborted)
  · right
    rw [same, conclude_tolerating]

theorem alike_lead (view : GroupView) :
    AlikeUnlessAborted least (party.lead view)
      ((party.tolerating least).lead view) := by
  apply AlikeUnlessAborted.ite
  · apply AlikeUnlessAborted.ite
    · cases view with
      | disconnected => exact .inr rfl
      | connected members =>
          rcases resolve_tolerating _ least with aborted | same
          · exact .inl aborted
          · exact .inr (Prod.ext (congrArg announce same) rfl)
    · exact .inr rfl
  · exact .inr rfl

theorem alike_enroll (refusal : Option String) :
    AlikeUnlessAborted least (party.enroll refusal)
      ((party.tolerating least).enroll refusal) := by
  apply AlikeUnlessAborted.ite
  · exact .inr rfl
  · exact .inr rfl

theorem alike_welcome (peer : PeerId) :
    AlikeUnlessAborted least (party.welcome peer)
      ((party.tolerating least).welcome peer) := by
  apply AlikeUnlessAborted.ite
  · apply AlikeUnlessAborted.ite
    · exact .inr rfl
    · exact .inr rfl
  · exact .inr rfl

theorem alike_noteFailure (peer : PeerId) (failure : Failure) :
    AlikeUnlessAborted least (party.noteFailure peer failure)
      ((party.tolerating least).noteFailure peer failure) := by
  apply AlikeUnlessAborted.ite
  · exact alike_resolve_conclude _ least
  · exact party.alike_conclude least

theorem alike_dismiss (peer : PeerId) :
    AlikeUnlessAborted least (party.dismiss peer)
      ((party.tolerating least).dismiss peer) := by
  apply AlikeUnlessAborted.ite
  · exact party.alike_noteFailure least peer .departed
  · exact .inr rfl

theorem alike_weigh (vote : Vote) :
    AlikeUnlessAborted least (party.weigh vote)
      ((party.tolerating least).weigh vote) := by
  unfold weigh
  dsimp only [tolerating]
  split
  · exact alike_resolve _ least []
  · exact alike_resolve _ least []
  all_goals exact .inr rfl

/-- Weighing a vote may abort; the teardown that follows keeps the phase. -/
theorem alike_hearVote (vote : Vote) :
    AlikeUnlessAborted least (party.hearVote vote)
      ((party.tolerating least).hearVote vote) := by
  apply AlikeUnlessAborted.ite
  · rcases party.alike_weigh least vote with aborted | same
    · exact .inl ((phase_conclude _).trans aborted)
    · right
      dsimp only
      rw [same, conclude_tolerating]
  · exact .inr rfl

theorem alike_obeyCommit :
    AlikeUnlessAborted least party.obeyCommit
      (party.tolerating least).obeyCommit := by
  apply AlikeUnlessAborted.ite
  · exact .inr rfl
  · exact .inr rfl

theorem alike_obeyAbort :
    AlikeUnlessAborted least party.obeyAbort
      (party.tolerating least).obeyAbort :=
  alike_conclude _ least

theorem alike_hearNotice (decision : Decision) (objectId : ObjectId) :
    AlikeUnlessAborted least (party.hearNotice decision objectId)
      ((party.tolerating least).hearNotice decision objectId) := by
  apply AlikeUnlessAborted.ite
  · cases decision with
    | commit => exact party.alike_obeyCommit least
    | abort => exact party.alike_obeyAbort least
  · exact .inr rfl

/-- Whatever event comes, a higher threshold makes no difference unless the
party aborts. -/
theorem alike_handle (event : Event) (view : GroupView) :
    AlikeUnlessAborted least (party.handle event view)
      ((party.tolerating least).handle event view) := by
  cases event with
  | activated =>
      apply AlikeUnlessAborted.ite
      · exact (party.alike_lead least view).opened
      · exact (party.alike_enroll least none).opened
  | memberJoined peer => exact (party.alike_welcome least peer).opened
  | voteReceived vote => exact (party.alike_hearVote least vote).closed
  | memberDeparted peer => exact (party.alike_dismiss least peer).closed
  | noticeReceived decision objectId =>
      exact (party.alike_hearNotice least decision objectId).closed

theorem alike_noteResult (opening : Opening)
    (result : Except DeliveryError Unit) :
    AlikeUnlessAborted least (party.noteResult opening result)
      ((party.tolerating least).noteResult opening result) := by
  cases opening with
  | request peer =>
      cases result with
      | ok => exact .inr rfl
      | error error =>
          exact party.alike_noteFailure least peer (.undelivered error)
  | vote refusal =>
      cases refusal <;> cases result <;> exact alike_conclude _ least

theorem alike_checkDeadline (now : Instant) :
    AlikeUnlessAborted least (party.checkDeadline now)
      ((party.tolerating least).checkDeadline now) := by
  apply AlikeUnlessAborted.ite
  · dsimp only
    rcases party.resolve_tolerating least with aborted | same
    · left
      -- The deadline, even when it has passed, comes after the abort.
      have decided : (party.resolve.tally.fixDeadline now
          party.resolve.setup.settings.timeout).1.isDecided :=
        Tally.isDecided_iff.2 (.inr aborted)
      have late := Tally.sameRecord_perform decided
        (.timeOut party.resolve.setup.settings.timeout)
      split
      · split <;> exact late.phase.trans aborted
      · exact aborted
    · rw [same]
      apply AlikeUnlessAborted.ite
      · right
        apply Prod.ext
        · symm
          exact apply_ite (Party.tolerating · least) _ _ _
        · rfl
      · exact .inr rfl
  · exact .inr rfl

theorem alike_examine (now : Instant) :
    AlikeUnlessAborted least (party.examine now)
      ((party.tolerating least).examine now) := by
  rcases party.alike_checkDeadline least now with aborted | same
  · exact .inl ((sameRecord_examine party now).phase.trans aborted)
  · right
    unfold examine
    rw [same]
    dsimp only [tally_tolerating]
    split
    · rfl
    · rw [settle_tolerating]
    · rfl

/-- Whatever a party looks at its tally for, a higher threshold makes no
difference unless it aborts. -/
theorem alike_look (trigger : Trigger) :
    AlikeUnlessAborted least (party.look trigger)
      ((party.tolerating least).look trigger) := by
  cases trigger with
  | command command =>
      cases command with
      | handle event view => exact party.alike_handle least event view
      | lead view => exact (party.alike_lead least view).opened
      | enroll refusal => exact (party.alike_enroll least refusal).opened
      | await => exact .inr rfl
  | result opening result =>
      exact (party.alike_noteResult least opening result).closed
  | clock now =>
      rcases party.alike_examine least now with aborted | same
      · left
        rwa [look_clock_fst]
      · right
        have finding : ((party.tolerating least).examine now).2 =
            (party.examine now).2 := by
          rw [same]
        cases found : (party.examine now).2 with
        | pending deadline =>
            rw [look_clock_of_pending _ found,
              look_clock_of_pending _ (finding.trans found), same]
        | decided closings outcome =>
            rw [look_clock_of_decided _ found,
              look_clock_of_decided _ (finding.trans found), same]

theorem phase_look_of_aborted (aborted : party.tally.phase = .aborted)
    (trigger : Trigger) : (party.look trigger).1.tally.phase = .aborted := by
  have decided : party.tally.isDecided := Tally.isDecided_iff.2 (.inr aborted)
  exact ((party.advancesOn_look trigger).sameRecord decided).phase.trans aborted

theorem phase_examine_of_aborted (aborted : party.tally.phase = .aborted)
    (now : Instant) : (party.examine now).1.tally.phase = .aborted := by
  rw [← look_clock_fst]
  exact party.phase_look_of_aborted aborted (.clock now)

theorem tally_compose (opening : Opening) :
    (party.compose opening).1.tally = party.tally := by
  cases opening with
  | request peer => rfl
  | vote refusal =>
      simp only [compose, castVote]
      split <;> rfl

theorem compose_tolerating (opening : Opening) :
    (party.tolerating least).compose opening =
      ((party.compose opening).1.tolerating least,
        (party.compose opening).2) := by
  cases opening with
  | request peer => rfl
  | vote refusal =>
      unfold compose castVote
      dsimp only [tolerating, Setup.tolerating, Setup.withThreshold]
      split <;> rfl

end Party

end CreationCommit
