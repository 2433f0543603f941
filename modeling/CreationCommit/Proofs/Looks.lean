import CreationCommit.Proofs.TallyInvariant
import CreationCommit.Session

/-!
# Looks at a tally

A party looks at its tally for one of three reasons: somebody commands it, a
send that opened something has its result, or someone who waits reads the
clock.  A look performs operations on the tally, and each operation has only
few reasons: a yes is noted only when the vote arrives, a failure only when the
peer departs, refuses or cannot be reached.  Everything that operations
preserve is therefore preserved by looks.
-/

namespace CreationCommit

open Tally (Operation)

/-- The reason for which a party looks at its tally. -/
inductive Trigger
  | command (command : Command)
  | result (opening : Opening) (result : Except DeliveryError Unit)
  | clock (now : Instant)

/-- Whether a trigger may cause an operation at a party of the given setup. -/
def Trigger.Causes (setup : Setup) (trigger : Trigger) : Operation → Prop
  | .openVoting _ localPeer =>
      setup.role = .primary ∧ localPeer = setup.localPeer ∧
        ∃ view, trigger = .command (.lead view) ∨
          trigger = .command (.handle .activated view)
  | .enlist peer =>
      setup.role = .primary ∧ peer ≠ setup.localPeer ∧
        ∃ view, trigger = .command (.handle (.memberJoined peer) view)
  | .noteYes peer =>
      setup.role = .primary ∧ ∃ vote view, vote.objectId = setup.objectId ∧
        vote.voter = peer ∧ vote.refusal = none ∧
        trigger = .command (.handle (.voteReceived vote) view)
  | .noteFailure peer .departed =>
      setup.role = .primary ∧
        ∃ view, trigger = .command (.handle (.memberDeparted peer) view)
  | .noteFailure peer (.refused cause) =>
      setup.role = .primary ∧ ∃ vote view, vote.objectId = setup.objectId ∧
        vote.voter = peer ∧ vote.refusal = some cause ∧
        trigger = .command (.handle (.voteReceived vote) view)
  | .noteFailure peer (.undelivered error) =>
      trigger = .result (.request peer) (.error error)
  | .resolve threshold => threshold = setup.settings.threshold
  | .timeOut limit =>
      setup.role = .primary ∧ limit = setup.settings.timeout ∧
        ∃ now, trigger = .clock now
  | .abort (.refusedLocally cause) =>
      trigger = .result (.vote (some cause)) (.ok ())
  | .abort (.voteUndelivered error) =>
      ∃ refusal, trigger = .result (.vote refusal) (.error error)
  | .abort .toldByPrimary =>
      setup.role ≠ .primary ∧ ∃ view,
        trigger = .command (.handle (.noticeReceived .abort setup.objectId) view)
  | .abort _ => False
  | .commitAlone => setup.role = .primary
  | .prepare => trigger = .result (.vote none) (.ok ())
  | .commitIfPrepared =>
      setup.role ≠ .primary ∧ ∃ view, trigger =
        .command (.handle (.noticeReceived .commit setup.objectId) view)
  | .activateOnce =>
      (∃ view, trigger = .command (.lead view) ∨
        trigger = .command (.handle .activated view)) ∨
      setup.role ≠ .primary ∧ ∃ command, trigger = .command command
  | .noteLateRefusal _ => True
  | .fixDeadline now limit =>
      setup.role = .primary ∧ limit = setup.settings.timeout ∧
        trigger = .clock now
  | .finalizeOnce => True

namespace Party

/-- Look at the tally; what the party has to do then are its duties. -/
def look (party : Party) : Trigger → Party × List Duty
  | .command (.handle event view) => party.handle event view
  | .command (.lead view) => opened (party.lead view)
  | .command (.enroll refusal) => opened (party.enroll refusal)
  | .command .await => (party, [])
  | .result opening result => closed (party.noteResult opening result)
  | .clock now =>
      match party.examine now with
      | (party, .pending _) => (party, [])
      | (party, .decided closings _) => (party, closings.map .closing)

/-- A party after operations that the trigger causes, the rest as before. -/
structure AdvancesOn (trigger : Trigger) (before after : Party) : Prop where
  setup : after.setup = before.setup
  numbering : after.numbering = before.numbering
  operations : ∃ operations, after.tally = before.tally.after operations ∧
    ∀ operation ∈ operations, trigger.Causes before.setup operation

namespace AdvancesOn

variable {trigger : Trigger} {before after : Party}

theorem refl (party : Party) : AdvancesOn trigger party party :=
  ⟨rfl, rfl, [], rfl, by simp⟩

theorem perform (lower : AdvancesOn trigger before after)
    (operation : Operation)
    (caused : trigger.Causes before.setup operation) :
    AdvancesOn trigger before
      { after with tally := (after.tally.perform operation).1 } := by
  obtain ⟨operations, reached, allCaused⟩ := lower.operations
  refine ⟨lower.setup, lower.numbering, operations ++ [operation], ?_, ?_⟩
  · simp [reached]
  · intro other otherMem
    rcases List.mem_append.1 otherMem with earlier | isLast
    · exact allCaused other earlier
    · rwa [List.mem_singleton.1 isLast]

theorem announce (lower : AdvancesOn trigger before after) :
    AdvancesOn trigger before after.announce :=
  ⟨lower.setup, lower.numbering, lower.operations⟩

theorem settle (lower : AdvancesOn trigger before after) :
    AdvancesOn trigger before after.settle.1 := by
  unfold Party.settle
  split
  · exact lower.perform .finalizeOnce trivial
  · exact lower

theorem conclude (lower : AdvancesOn trigger before after) :
    AdvancesOn trigger before after.conclude.1 :=
  lower.settle.announce

theorem resolve (lower : AdvancesOn trigger before after) :
    AdvancesOn trigger before after.resolve :=
  lower.perform (.resolve after.setup.settings.threshold)
    (by rw [lower.setup]; rfl)

end AdvancesOn

section Looks

variable (party : Party)

theorem isPrimary_iff {party : Party} :
    party.isPrimary = true ↔ party.setup.role = .primary := by
  simp [isPrimary]

theorem advancesOn_lead {trigger : Trigger} (view : GroupView)
    (leads : trigger = .command (.lead view) ∨
      trigger = .command (.handle .activated view)) :
    AdvancesOn trigger party (party.lead view).1 := by
  unfold lead
  split
  · rename_i primary
    have role := isPrimary_iff.1 primary
    have activated : AdvancesOn trigger party
        { party with tally := party.tally.activateOnce.1 } :=
      (AdvancesOn.refl party).perform .activateOnce (.inl ⟨view, leads⟩)
    dsimp only
    split
    · split
      · exact (activated.perform .commitAlone role).announce
      · exact (activated.perform (.openVoting _ _)
          ⟨role, rfl, _, leads⟩).resolve.announce
    · exact .refl party
  · exact .refl party

theorem advancesOn_enroll (command : Command) (refusal : Option String) :
    AdvancesOn (.command command) party (party.enroll refusal).1 := by
  unfold enroll
  split
  · exact .refl party
  · rename_i notPrimary
    have role : party.setup.role ≠ .primary := by rwa [Ne, ← isPrimary_iff]
    exact (AdvancesOn.refl party).perform .activateOnce
      (.inr ⟨role, command, rfl⟩)

theorem advancesOn_noteFailure {trigger : Trigger} (peer : PeerId)
    (failure : Failure)
    (caused : trigger.Causes party.setup (.noteFailure peer failure)) :
    AdvancesOn trigger party (party.noteFailure peer failure).1 := by
  unfold noteFailure
  have noted := (AdvancesOn.refl party).perform _ caused
  dsimp only
  split
  · exact noted.resolve.conclude
  · exact (AdvancesOn.refl party).conclude

theorem advancesOn_weigh (vote : Vote) (role : party.setup.role = .primary)
    (about : vote.objectId = party.setup.objectId) (view : GroupView) :
    AdvancesOn (.command (.handle (.voteReceived vote) view)) party
      (party.weigh vote).1 := by
  unfold weigh
  split
  · rename_i yes
    exact ((AdvancesOn.refl party).perform (.noteYes vote.voter)
      ⟨role, vote, view, about, rfl, yes, rfl⟩).resolve
  · rename_i cause _ no
    exact ((AdvancesOn.refl party).perform
      (.noteFailure vote.voter (.refused cause))
      ⟨role, vote, view, about, rfl, no, rfl⟩).resolve
  · exact .refl party
  · exact (AdvancesOn.refl party).perform (.noteLateRefusal _) trivial
  · exact .refl party
  · exact .refl party

theorem advancesOn_obeyCommit (role : party.setup.role ≠ .primary)
    (view : GroupView) :
    AdvancesOn (.command (.handle
        (.noticeReceived .commit party.setup.objectId) view)) party
      party.obeyCommit.1 := by
  unfold obeyCommit
  have committed : AdvancesOn (.command (.handle
      (.noticeReceived .commit party.setup.objectId) view)) party
      { party with tally := party.tally.commitIfPrepared.1 } :=
    (AdvancesOn.refl party).perform .commitIfPrepared ⟨role, view, rfl⟩
  dsimp only
  split
  · exact (committed.perform .finalizeOnce trivial).announce
  · exact (AdvancesOn.refl party).announce

theorem advancesOn_obeyAbort (role : party.setup.role ≠ .primary)
    (view : GroupView) :
    AdvancesOn (.command (.handle
        (.noticeReceived .abort party.setup.objectId) view)) party
      party.obeyAbort.1 := by
  exact (((AdvancesOn.refl party).perform .activateOnce
    (.inr ⟨role, _, rfl⟩)).perform
      (.abort .toldByPrimary) ⟨role, view, rfl⟩).conclude

theorem advancesOn_handle (event : Event) (view : GroupView) :
    AdvancesOn (.command (.handle event view)) party
      (party.handle event view).1 := by
  cases event with
  | activated =>
      unfold handle
      dsimp only
      split
      · exact advancesOn_lead party view (.inr rfl)
      · exact advancesOn_enroll party _ none
  | memberJoined peer =>
      simp only [handle, opened, welcome]
      split
      · rename_i concerned
        have joined := (AdvancesOn.refl party).perform (.enlist peer)
          ⟨isPrimary_iff.1 concerned.1, concerned.2, view, rfl⟩
        split
        · exact joined.announce
        · exact .refl party
      · exact .refl party
  | voteReceived vote =>
      simp only [handle, closed, hearVote]
      split
      · rename_i concerned
        exact (advancesOn_weigh party vote (isPrimary_iff.1 concerned.1)
          concerned.2 view).conclude
      · exact .refl party
  | memberDeparted peer =>
      simp only [handle, closed, dismiss]
      split
      · rename_i primary
        exact advancesOn_noteFailure party peer .departed
          ⟨isPrimary_iff.1 primary, view, rfl⟩
      · exact .refl party
  | noticeReceived decision objectId =>
      simp only [handle, closed, hearNotice]
      split
      · rename_i concerned
        obtain ⟨notPrimary, rfl⟩ := concerned
        have role : party.setup.role ≠ .primary := by
          rw [Ne, ← isPrimary_iff]
          simpa using notPrimary
        cases decision with
        | commit => exact advancesOn_obeyCommit party role view
        | abort => exact advancesOn_obeyAbort party role view
      · exact .refl party

theorem advancesOn_noteResult (opening : Opening)
    (result : Except DeliveryError Unit) :
    AdvancesOn (.result opening result) party
      (party.noteResult opening result).1 := by
  unfold noteResult
  split
  · exact .refl party
  · rename_i peer error
    exact advancesOn_noteFailure party peer (.undelivered error) rfl
  · exact ((AdvancesOn.refl party).perform .prepare rfl).conclude
  · rename_i cause _
    exact ((AdvancesOn.refl party).perform (.abort (.refusedLocally cause))
      rfl).conclude
  · rename_i refusal error
    exact ((AdvancesOn.refl party).perform (.abort (.voteUndelivered error))
      ⟨refusal, rfl⟩).conclude

theorem advancesOn_checkDeadline (now : Instant) :
    AdvancesOn (.clock now) party (party.checkDeadline now).1 := by
  unfold checkDeadline
  split
  · rename_i primary
    have fixed : AdvancesOn (.clock now) party
        { party.resolve with
          tally := (party.resolve.tally.fixDeadline now
            party.setup.settings.timeout).1 } :=
      (AdvancesOn.refl party).resolve.perform (.fixDeadline now _)
        ⟨isPrimary_iff.1 primary, rfl, rfl⟩
    dsimp only
    split
    · have expired := fixed.perform (.timeOut party.setup.settings.timeout)
        ⟨isPrimary_iff.1 primary, rfl, now, rfl⟩
      split
      · exact expired.announce
      · exact expired
    · exact fixed
  · exact .refl party

theorem advancesOn_examine (now : Instant) :
    AdvancesOn (.clock now) party (party.examine now).1 := by
  have checked := advancesOn_checkDeadline party now
  unfold examine
  dsimp only
  split
  · exact checked.perform .finalizeOnce trivial
  · exact checked.settle
  · exact checked

/-- The look of someone who waits leaves the party that the examination does. -/
theorem look_clock_fst (now : Instant) :
    (party.look (.clock now)).1 = (party.examine now).1 := by
  simp only [look]
  split <;> simp_all

theorem look_clock_of_pending {now : Instant} {deadline : Option Instant}
    (found : (party.examine now).2 = .pending deadline) :
    party.look (.clock now) = ((party.examine now).1, []) := by
  simp only [look]
  split <;> simp_all

theorem look_clock_of_decided {now : Instant} {closings : List Closing}
    {outcome : Outcome}
    (found : (party.examine now).2 = .decided closings outcome) :
    party.look (.clock now) =
      ((party.examine now).1, closings.map .closing) := by
  simp only [look]
  split <;> simp_all

theorem finalized_finalizeOnce {tally : Tally} (decided : tally.isDecided) :
    tally.finalizeOnce.1.finalized = true := by
  by_cases finalized : tally.finalized = true
  · simp [Tally.finalizeOnce, finalized]
  · simp [Tally.finalizeOnce, decided, finalized]

/-- Whoever finds a decision leaves it finalized. -/
theorem finalized_of_decided {now : Instant} {closings : List Closing}
    {outcome : Outcome}
    (found : (party.examine now).2 = .decided closings outcome) :
    (party.look (.clock now)).1.tally.finalized = true := by
  rw [look_clock_fst]
  simp only [examine] at found ⊢
  generalize (party.checkDeadline now).1 = checked at found ⊢
  cases phase : checked.tally.phase with
  | committed => exact finalized_finalizeOnce (Tally.isDecided_iff.2 (.inl phase))
  | aborted =>
      cases report : checked.tally.abortReport with
      | none => simp [phase, report] at found
      | some report =>
          simp only [settle, phase, if_true]
          exact finalized_finalizeOnce (Tally.isDecided_iff.2 (.inr phase))
  | active | voting | prepared => simp [phase] at found

/-- Every look performs operations that its trigger causes. -/
theorem advancesOn_look (trigger : Trigger) :
    AdvancesOn trigger party (party.look trigger).1 := by
  cases trigger with
  | command command =>
      cases command with
      | handle event view => exact advancesOn_handle party event view
      | lead view => exact advancesOn_lead party view (.inl rfl)
      | enroll refusal => exact advancesOn_enroll party _ refusal
      | await => exact .refl party
  | result opening result => exact advancesOn_noteResult party opening result
  | clock now =>
      rw [look_clock_fst]
      exact advancesOn_examine party now

end Looks

namespace AdvancesOn

variable {trigger : Trigger} {before after : Party} {peer : PeerId}

/-- What every operation caused by the trigger preserves holds after a look. -/
theorem induction {motive : Tally → Prop}
    (advances : AdvancesOn trigger before after) (start : motive before.tally)
    (step : ∀ operation, trigger.Causes before.setup operation →
      ∀ tally, motive tally → motive (tally.perform operation).1) :
    motive after.tally := by
  obtain ⟨operations, reached, caused⟩ := advances.operations
  rw [reached]
  exact Tally.after_induction start fun operation operationMem =>
    step operation (caused operation operationMem)

theorem sound (advances : AdvancesOn trigger before after)
    (sound : before.tally.Sound) : after.tally.Sound :=
  advances.induction sound fun operation _ _ current =>
    current.perform operation

theorem sameRecord (advances : AdvancesOn trigger before after)
    (decided : before.tally.isDecided) : before.tally.SameRecord after.tally := by
  obtain ⟨operations, reached, -⟩ := advances.operations
  rw [reached]
  exact Tally.sameRecord_after decided operations

theorem involves (advances : AdvancesOn trigger before after)
    (involved : before.tally.Involves peer) : after.tally.Involves peer :=
  advances.induction (motive := fun tally => tally.Involves peer) involved
    fun operation _ _ current => Tally.involves_perform current operation

theorem activated (advances : AdvancesOn trigger before after)
    (activated : before.tally.activated = true) :
    after.tally.activated = true := by
  obtain ⟨operations, reached, -⟩ := advances.operations
  rw [reached, Tally.activated_after]
  exact .inl activated

theorem finalized (advances : AdvancesOn trigger before after)
    (finalized : before.tally.finalized = true) :
    after.tally.finalized = true := by
  obtain ⟨operations, reached, -⟩ := advances.operations
  rw [reached]
  exact Tally.finalized_after finalized operations

/-- Nothing but a decision is ever finalized. -/
theorem isDecided_of_finalized (advances : AdvancesOn trigger before after)
    (decided : before.tally.finalized = true → before.tally.isDecided) :
    after.tally.finalized = true → after.tally.isDecided :=
  advances.induction
    (motive := fun tally => tally.finalized = true → tally.isDecided) decided
    fun operation _ _ known =>
      Tally.isDecided_of_finalized_perform known operation

/-- A peer acknowledges only by a yes that arrives. -/
theorem mem_acknowledged (advances : AdvancesOn trigger before after)
    (acknowledged : peer ∈ after.tally.acknowledged) :
    peer ∈ before.tally.acknowledged ∨
      trigger.Causes before.setup (.noteYes peer) := by
  revert acknowledged
  refine advances.induction (motive := fun tally =>
    peer ∈ tally.acknowledged → peer ∈ before.tally.acknowledged ∨
      trigger.Causes before.setup (.noteYes peer)) Or.inl ?_
  intro operation caused tally known acknowledged
  rcases Tally.mem_acknowledged_perform acknowledged with earlier | rfl
  · exact known earlier
  · exact .inr caused

/-- A peer fails only for a reason that the trigger gives. -/
theorem mem_failures (advances : AdvancesOn trigger before after)
    (failed : peer ∈ after.tally.failures) :
    peer ∈ before.tally.failures ∨
      ∃ failure, trigger.Causes before.setup (.noteFailure peer failure) := by
  revert failed
  refine advances.induction (motive := fun tally =>
    peer ∈ tally.failures → peer ∈ before.tally.failures ∨
      ∃ failure, trigger.Causes before.setup (.noteFailure peer failure))
    Or.inl ?_
  intro operation caused tally known failed
  rcases Tally.mem_failures_perform failed with earlier | ⟨failure, rfl⟩
  · exact known earlier
  · exact .inr ⟨failure, caused⟩

/-- A peer that took part and is no longer outstanding never is again. -/
theorem mem_outstanding (advances : AdvancesOn trigger before after)
    (sound : before.tally.Sound) (involved : before.tally.Involves peer)
    (outstanding : peer ∈ after.tally.outstanding) :
    peer ∈ before.tally.outstanding := by
  have kept : after.tally.Sound ∧ after.tally.Involves peer ∧
      (peer ∈ after.tally.outstanding → peer ∈ before.tally.outstanding) := by
    refine advances.induction (motive := fun tally =>
      tally.Sound ∧ tally.Involves peer ∧
        (peer ∈ tally.outstanding → peer ∈ before.tally.outstanding))
      ⟨sound, involved, id⟩ ?_
    intro operation _ tally ⟨currentSound, stillInvolved, known⟩
    refine ⟨currentSound.perform operation,
      Tally.involves_perform stillInvolved operation, fun admitted => ?_⟩
    rcases Tally.mem_outstanding_perform admitted with
      earlier | active | stranger
    · exact known earlier
    · obtain ⟨noneOutstanding, noFailures, noneAcknowledged⟩ :=
        currentSound.unopened (.inl active)
      simp [Tally.Involves, noneOutstanding, noFailures,
        noneAcknowledged] at stillInvolved
    · exact absurd stillInvolved stranger
  exact kept.2.2 outstanding

/-- Without a reason to fail, an acknowledged peer stays acknowledged. -/
theorem stays_acknowledged (advances : AdvancesOn trigger before after)
    (sound : before.tally.Sound)
    (acknowledged : peer ∈ before.tally.acknowledged)
    (noFailure : ∀ failure,
      ¬ trigger.Causes before.setup (.noteFailure peer failure)) :
    peer ∈ after.tally.acknowledged := by
  have involved : before.tally.Involves peer := .inr (.inl acknowledged)
  rcases advances.involves involved with outstanding | stays | failed
  · have earlier := advances.mem_outstanding sound involved outstanding
    exact absurd acknowledged (sound.outstanding_acknowledged peer earlier)
  · exact stays
  · rcases advances.mem_failures failed with earlier | ⟨failure, caused⟩
    · exact absurd earlier (sound.acknowledged_failures peer acknowledged)
    · exact absurd caused (noFailure failure)

end AdvancesOn

end Party

end CreationCommit
