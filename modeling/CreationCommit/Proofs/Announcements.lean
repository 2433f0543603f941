import CreationCommit.Proofs.Looks

/-!
# Looks do not depend on announcements

A party counts the changes that it announced, but never reads the count: only
those who wait do.  So a party that announced more changes does the same at every
look, leaves the same to do, and stays as many announcements ahead.
-/

namespace CreationCommit

namespace Party

/-- The party if it had announced so many more changes. -/
def ahead (party : Party) (count : Nat) : Party :=
  { party with announcements := count + party.announcements }

variable (party : Party) (count : Nat)

@[simp] theorem setup_ahead : (party.ahead count).setup = party.setup := rfl

@[simp] theorem tally_ahead : (party.ahead count).tally = party.tally := rfl

@[simp] theorem isPrimary_ahead :
    (party.ahead count).isPrimary = party.isPrimary := rfl

@[simp] theorem ahead_zero : party.ahead 0 = party := by
  simp [ahead]

@[simp] theorem ahead_ahead (more : Nat) :
    (party.ahead count).ahead more = party.ahead (more + count) := by
  simp [ahead, Nat.add_assoc]

theorem announce_eq_ahead : party.announce = party.ahead 1 := by
  simp [announce, ahead, Nat.add_comm]

/-- Whoever is ahead by either branch is ahead. -/
theorem ite_ahead {α : Type} {condition : Prop} [Decidable condition]
    {behind front otherBehind otherFront : Party × α}
    (positive : front = (behind.1.ahead count, behind.2))
    (negative : otherFront = (otherBehind.1.ahead count, otherBehind.2)) :
    (if condition then front else otherFront) =
      ((if condition then behind else otherBehind).1.ahead count,
        (if condition then behind else otherBehind).2) := by
  split
  · exact positive
  · exact negative

theorem settle_ahead :
    (party.ahead count).settle =
      (party.settle.1.ahead count, party.settle.2) := by
  unfold settle
  rw [tally_ahead]
  split <;> rfl

theorem conclude_ahead :
    (party.ahead count).conclude =
      (party.conclude.1.ahead count, party.conclude.2) := by
  unfold conclude
  rw [settle_ahead]
  rfl

/-- A party that is handed another tally concludes like one that is ahead. -/
theorem conclude_with_ahead (tally : Tally) :
    { party.ahead count with tally }.conclude =
      ({ party with tally }.conclude.1.ahead count,
        { party with tally }.conclude.2) :=
  conclude_ahead { party with tally } count

theorem lead_ahead (view : GroupView) :
    (party.ahead count).lead view =
      ((party.lead view).1.ahead count, (party.lead view).2) := by
  unfold lead
  rw [isPrimary_ahead]
  split
  · cases view <;> dsimp only [tally_ahead] <;> split <;> rfl
  · rfl

theorem enroll_ahead (refusal : Option String) :
    (party.ahead count).enroll refusal =
      ((party.enroll refusal).1.ahead count, (party.enroll refusal).2) := by
  unfold enroll
  rw [isPrimary_ahead]
  split <;> rfl

theorem welcome_ahead (peer : PeerId) :
    (party.ahead count).welcome peer =
      ((party.welcome peer).1.ahead count, (party.welcome peer).2) := by
  unfold welcome
  rw [isPrimary_ahead, setup_ahead]
  split
  · dsimp only [tally_ahead]
    split <;> rfl
  · rfl

theorem noteFailure_ahead (peer : PeerId) (failure : Failure) :
    (party.ahead count).noteFailure peer failure =
      ((party.noteFailure peer failure).1.ahead count,
        (party.noteFailure peer failure).2) := by
  unfold noteFailure
  dsimp only [tally_ahead]
  split
  · exact party.conclude_with_ahead count _
  · exact party.conclude_ahead count

theorem weigh_ahead (vote : Vote) :
    (party.ahead count).weigh vote =
      ((party.weigh vote).1.ahead count, (party.weigh vote).2) := by
  unfold weigh
  rw [tally_ahead]
  split <;> rfl

theorem hearVote_ahead (vote : Vote) :
    (party.ahead count).hearVote vote =
      ((party.hearVote vote).1.ahead count, (party.hearVote vote).2) := by
  unfold hearVote
  rw [isPrimary_ahead, setup_ahead]
  split
  · dsimp only
    rw [weigh_ahead, conclude_ahead]
  · rfl

theorem dismiss_ahead (peer : PeerId) :
    (party.ahead count).dismiss peer =
      ((party.dismiss peer).1.ahead count, (party.dismiss peer).2) := by
  unfold dismiss
  rw [isPrimary_ahead]
  split
  · exact party.noteFailure_ahead count peer .departed
  · rfl

theorem obeyCommit_ahead :
    (party.ahead count).obeyCommit =
      (party.obeyCommit.1.ahead count, party.obeyCommit.2) := by
  unfold obeyCommit
  dsimp only [tally_ahead]
  split <;> rfl

theorem obeyAbort_ahead :
    (party.ahead count).obeyAbort =
      (party.obeyAbort.1.ahead count, party.obeyAbort.2) :=
  party.conclude_with_ahead count _

theorem hearNotice_ahead (decision : Decision) (objectId : ObjectId) :
    (party.ahead count).hearNotice decision objectId =
      ((party.hearNotice decision objectId).1.ahead count,
        (party.hearNotice decision objectId).2) := by
  unfold hearNotice
  rw [isPrimary_ahead, setup_ahead]
  split
  · cases decision with
    | commit => exact party.obeyCommit_ahead count
    | abort => exact party.obeyAbort_ahead count
  · rfl

theorem handle_ahead (event : Event) (view : GroupView) :
    (party.ahead count).handle event view =
      ((party.handle event view).1.ahead count, (party.handle event view).2) := by
  cases event with
  | activated =>
      simp only [handle, isPrimary_ahead, lead_ahead, enroll_ahead, opened]
      split <;> rfl
  | memberJoined peer => simp only [handle, opened, welcome_ahead]
  | voteReceived vote => simp only [handle, closed, hearVote_ahead]
  | memberDeparted peer => simp only [handle, closed, dismiss_ahead]
  | noticeReceived decision objectId =>
      simp only [handle, closed, hearNotice_ahead]

theorem noteResult_ahead (opening : Opening)
    (result : Except DeliveryError Unit) :
    (party.ahead count).noteResult opening result =
      ((party.noteResult opening result).1.ahead count,
        (party.noteResult opening result).2) := by
  unfold noteResult
  split
  · rfl
  · exact party.noteFailure_ahead count _ _
  all_goals exact party.conclude_with_ahead count _

theorem checkDeadline_ahead (now : Instant) :
    (party.ahead count).checkDeadline now =
      ((party.checkDeadline now).1.ahead count, (party.checkDeadline now).2) := by
  refine ite_ahead count ?_ rfl
  refine ite_ahead count ?_ rfl
  apply Prod.ext
  · symm
    exact apply_ite (Party.ahead · count) _ _ _
  · rfl

theorem examine_ahead (now : Instant) :
    (party.ahead count).examine now =
      ((party.examine now).1.ahead count, (party.examine now).2) := by
  unfold examine
  rw [checkDeadline_ahead]
  dsimp only [tally_ahead]
  split
  · rfl
  · rw [settle_ahead]
  · rfl

/-- Whatever a party looks at its tally for, the announcements before make no
difference. -/
theorem look_ahead (trigger : Trigger) :
    (party.ahead count).look trigger =
      ((party.look trigger).1.ahead count, (party.look trigger).2) := by
  cases trigger with
  | command command =>
      cases command with
      | handle event view => exact party.handle_ahead count event view
      | lead view => simp only [look, opened, lead_ahead]
      | enroll refusal => simp only [look, opened, enroll_ahead]
      | await => rfl
  | result opening result => simp only [look, closed, noteResult_ahead]
  | clock now =>
      have finding : ((party.ahead count).examine now).2 =
          (party.examine now).2 := by
        rw [examine_ahead]
      cases found : (party.examine now).2 with
      | pending deadline =>
          rw [look_clock_of_pending _ found,
            look_clock_of_pending _ (finding.trans found), examine_ahead]
      | decided closings outcome =>
          rw [look_clock_of_decided _ found,
            look_clock_of_decided _ (finding.trans found), examine_ahead]

theorem compose_ahead (opening : Opening) :
    (party.ahead count).compose opening =
      ((party.compose opening).1.ahead count, (party.compose opening).2) := by
  cases opening with
  | request peer => rfl
  | vote refusal =>
      unfold compose castVote
      dsimp only [setup_ahead]
      split <;> rfl

end Party

theorem Session.compose_ahead (party : Party) (count : Nat) (duty : Duty) :
    compose (party.ahead count) duty =
      ((compose party duty).1.ahead count, (compose party duty).2) := by
  cases duty with
  | opening opening => exact party.compose_ahead count opening
  | closing closing => cases closing <;> rfl

end CreationCommit
