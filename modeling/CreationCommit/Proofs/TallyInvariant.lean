import CreationCommit.Proofs.TallyOperations

/-!
# What a tally always satisfies

A peer that takes part is outstanding, acknowledged or failed, and never two of
these.  Nobody takes part before the voting is open or in a replica that is
prepared, nobody is outstanding after a commit, and a tally is aborted exactly
when it holds a report, which tells what the tally still says and is about the
same object.  All of this holds after any operations in any order.
-/

namespace CreationCommit

namespace Tally

/-- The representation invariant of a tally. -/
structure Sound (tally : Tally) : Prop where
  outstanding_failures : ∀ peer ∈ tally.outstanding, peer ∉ tally.failures
  outstanding_acknowledged :
    ∀ peer ∈ tally.outstanding, peer ∉ tally.acknowledged
  acknowledged_failures : ∀ peer ∈ tally.acknowledged, peer ∉ tally.failures
  acknowledged_nodup : tally.acknowledged.Nodup
  unopened : tally.phase = .active ∨ tally.phase = .prepared →
    tally.outstanding = ∅ ∧ tally.failures = ∅ ∧ tally.acknowledged = []
  committed : tally.phase = .committed → tally.outstanding = ∅
  reported : tally.abortReport.isSome ↔ tally.phase = .aborted
  report : ∀ report, tally.abortReport = some report →
    report.outstanding = tally.outstanding ∧ report.failures = tally.failures

namespace Sound

theorem start (objectId : ObjectId) : (Tally.start objectId).Sound where
  outstanding_failures := by simp [Tally.start]
  outstanding_acknowledged := by simp [Tally.start]
  acknowledged_failures := by simp [Tally.start]
  acknowledged_nodup := List.nodup_nil
  unopened := fun _ => ⟨rfl, rfl, rfl⟩
  committed := fun _ => rfl
  reported := by simp [Tally.start]
  report := by simp [Tally.start]

variable {tally : Tally}

/-- An undecided tally holds no report. -/
theorem abortReport_eq_none (sound : tally.Sound)
    (undecided : tally.phase ≠ .aborted) : tally.abortReport = none := by
  rw [← Option.not_isSome_iff_eq_none, sound.reported]
  exact undecided

/-- The invariant does not mention what is not recorded. -/
theorem of_sameRecord {other : Tally} (sound : tally.Sound)
    (same : tally.SameRecord other) : other.Sound := by
  obtain ⟨samePhase, sameOutstanding, sameFailures, sameAcknowledged,
    sameReport⟩ := same
  constructor
  · rw [sameOutstanding, sameFailures]
    exact sound.outstanding_failures
  · rw [sameOutstanding, sameAcknowledged]
    exact sound.outstanding_acknowledged
  · rw [sameAcknowledged, sameFailures]
    exact sound.acknowledged_failures
  · rw [sameAcknowledged]
    exact sound.acknowledged_nodup
  · rw [samePhase, sameOutstanding, sameFailures, sameAcknowledged]
    exact sound.unopened
  · rw [samePhase, sameOutstanding]
    exact sound.committed
  · rw [samePhase, sameReport]
    exact sound.reported
  · rw [sameOutstanding, sameFailures, sameReport]
    exact sound.report

theorem abort (sound : tally.Sound) (cause : AbortCause) :
    (tally.abort cause).Sound := by
  unfold Tally.abort
  split
  · exact sound
  · exact
      { sound with
        unopened := by simp
        committed := by simp
        reported := by simp
        report := by simp }

theorem openVoting (sound : tally.Sound) (peers : List PeerId)
    (localPeer : PeerId) : (tally.openVoting peers localPeer).1.Sound := by
  unfold Tally.openVoting
  split
  · rename_i active
    obtain ⟨-, noFailures, noneAcknowledged⟩ := sound.unopened (.inl active)
    have noReport := sound.abortReport_eq_none (by simp [active])
    constructor <;> simp [noFailures, noneAcknowledged, noReport]
  · exact sound

theorem enlist (sound : tally.Sound) (peer : PeerId) :
    (tally.enlist peer).1.Sound := by
  unfold Tally.enlist
  split
  · rename_i allowed
    obtain ⟨voting, notFailed, notAcknowledged⟩ := allowed
    exact
      { sound with
        outstanding_failures := by
          simpa [notFailed] using sound.outstanding_failures
        outstanding_acknowledged := by
          simpa [notAcknowledged] using sound.outstanding_acknowledged
        unopened := by simp [voting]
        committed := by simp [voting]
        report := by
          simp [sound.abortReport_eq_none (by simp [voting])] }
  · exact sound

theorem noteYes (sound : tally.Sound) (peer : PeerId) :
    (tally.noteYes peer).1.Sound := by
  unfold Tally.noteYes
  split
  · rename_i allowed
    obtain ⟨voting, outstanding⟩ := allowed
    have notAcknowledged := sound.outstanding_acknowledged peer outstanding
    constructor
    · intro other otherMem
      exact sound.outstanding_failures other (PeerMap.mem_erase.1 otherMem).2
    · intro other otherMem
      obtain ⟨differs, otherMem⟩ := PeerMap.mem_erase.1 otherMem
      simpa [differs] using sound.outstanding_acknowledged other otherMem
    · intro other otherMem
      rcases List.mem_append.1 otherMem with otherMem | isPeer
      · exact sound.acknowledged_failures other otherMem
      · obtain rfl := List.mem_singleton.1 isPeer
        exact sound.outstanding_failures other outstanding
    · simpa [List.nodup_append, sound.acknowledged_nodup] using
        fun other otherMem => ne_of_mem_of_not_mem otherMem notAcknowledged
    · simp [voting]
    · simp [voting]
    · exact sound.reported
    · simp [sound.abortReport_eq_none (by simp [voting])]
  · exact sound

theorem noteFailure (sound : tally.Sound) (peer : PeerId) (failure : Failure) :
    (tally.noteFailure peer failure).1.Sound := by
  unfold Tally.noteFailure
  split
  · rename_i allowed
    have voting := allowed.1
    constructor
    · intro other otherMem
      obtain ⟨differs, otherMem⟩ := PeerMap.mem_erase.1 otherMem
      simpa [differs] using sound.outstanding_failures other otherMem
    · intro other otherMem
      obtain ⟨-, otherMem⟩ := PeerMap.mem_erase.1 otherMem
      exact fun stillThere => sound.outstanding_acknowledged other otherMem
        (List.mem_of_mem_erase stillThere)
    · intro other otherMem
      obtain ⟨differs, otherMem⟩ :=
        (sound.acknowledged_nodup.mem_erase_iff).1 otherMem
      simpa [differs] using sound.acknowledged_failures other otherMem
    · exact sound.acknowledged_nodup.erase peer
    · simp [voting]
    · simp [voting]
    · exact sound.reported
    · simp [sound.abortReport_eq_none (by simp [voting])]
  · exact sound

theorem commit (sound : tally.Sound) (undecided : tally.phase ≠ .aborted)
    (noneOutstanding : tally.outstanding = ∅) :
    { tally with phase := .committed }.Sound :=
  { sound with
    unopened := by simp
    committed := fun _ => noneOutstanding
    reported := by simp [sound.abortReport_eq_none undecided] }

theorem resolve (sound : tally.Sound) (threshold : Nat) :
    (tally.resolve threshold).1.Sound := by
  unfold Tally.resolve
  split
  · rename_i voting
    split
    · exact sound.abort _
    · split
      · rename_i noneOutstanding
        exact sound.commit (by simp [voting])
          (PeerMap.isEmpty_iff.1 noneOutstanding)
      · exact sound
  · exact sound

/-- Every operation preserves the invariant. -/
theorem perform (sound : tally.Sound) (operation : Operation) :
    (tally.perform operation).1.Sound := by
  cases operation with
  | activateOnce | noteLateRefusal | fixDeadline =>
      exact sound.of_sameRecord ⟨rfl, rfl, rfl, rfl, rfl⟩
  | openVoting peers localPeer => exact sound.openVoting peers localPeer
  | enlist peer => exact sound.enlist peer
  | noteYes peer => exact sound.noteYes peer
  | noteFailure peer failure => exact sound.noteFailure peer failure
  | resolve threshold => exact sound.resolve threshold
  | timeOut limit => exact sound.abort _
  | abort cause => exact sound.abort cause
  | commitAlone =>
      simp only [Tally.perform, commitAlone]
      split
      · rename_i active
        exact sound.commit (by simp [active]) (sound.unopened (.inl active)).1
      · exact sound
  | prepare =>
      simp only [Tally.perform, prepare]
      split
      · rename_i active
        exact
          { sound with
            unopened := fun _ => sound.unopened (.inl active)
            committed := by simp
            reported := by
              simp [sound.abortReport_eq_none (by simp [active])] }
      · exact sound
  | commitIfPrepared =>
      simp only [Tally.perform, commitIfPrepared]
      split
      · rename_i prepared
        exact sound.commit (by simp [prepared])
          (sound.unopened (.inr prepared)).1
      · exact sound
  | finalizeOnce =>
      simp only [Tally.perform, finalizeOnce]
      split
      · exact sound.of_sameRecord ⟨rfl, rfl, rfl, rfl, rfl⟩
      · exact sound

theorem after (sound : tally.Sound) (operations : List Operation) :
    (tally.after operations).Sound :=
  after_induction sound fun operation _ _ currentSound =>
    currentSound.perform operation

end Sound

/-- The tally is about the object, and so is its report. -/
structure About (objectId : ObjectId) (tally : Tally) : Prop where
  object : tally.objectId = objectId
  report : ∀ report, tally.abortReport = some report →
    report.objectId = objectId

namespace About

variable {objectId : ObjectId} {tally : Tally}

theorem start (objectId : ObjectId) : (Tally.start objectId).About objectId :=
  ⟨rfl, by simp [Tally.start]⟩

theorem abort (about : tally.About objectId) (cause : AbortCause) :
    (tally.abort cause).About objectId := by
  unfold Tally.abort
  split
  · exact about
  · refine ⟨about.object, fun report isReport => ?_⟩
    rw [← Option.some.inj isReport]
    exact about.object

theorem perform (about : tally.About objectId) (operation : Operation) :
    (tally.perform operation).1.About objectId := by
  cases operation with
  | resolve threshold =>
      simp only [Tally.perform, Tally.resolve, Prod.map_fst, id]
      split
      · split
        · exact about.abort _
        · split <;> exact ⟨about.object, about.report⟩
      · exact about
  | timeOut limit => exact about.abort _
  | abort cause => exact about.abort cause
  | activateOnce | noteLateRefusal | fixDeadline =>
      exact ⟨about.object, about.report⟩
  | openVoting | enlist | noteYes | noteFailure | commitAlone | prepare
  | commitIfPrepared | finalizeOnce =>
      simp only [Tally.perform, Tally.openVoting, Tally.enlist, Tally.noteYes,
        Tally.noteFailure, Tally.commitAlone, Tally.prepare,
        Tally.commitIfPrepared, Tally.finalizeOnce, Prod.map_fst, id]
      split <;> exact ⟨about.object, about.report⟩

end About

theorem activated_perform (tally : Tally) (operation : Operation) :
    (tally.perform operation).1.activated = true ↔
      tally.activated = true ∨ operation = .activateOnce := by
  cases operation <;>
    simp only [perform, activateOnce, openVoting, enlist, noteYes, noteFailure,
      resolve, timeOut, abort, commitAlone, prepare, commitIfPrepared,
      noteLateRefusal, fixDeadline, finalizeOnce] <;>
    (repeat' split) <;> simp

theorem activated_after (tally : Tally) (operations : List Operation) :
    (tally.after operations).activated = true ↔
      tally.activated = true ∨ .activateOnce ∈ operations := by
  induction operations generalizing tally with
  | nil => simp
  | cons operation operations ih =>
      rw [after_cons, ih, activated_perform, List.mem_cons, or_assoc]
      simp only [eq_comm]

theorem finalized_perform {tally : Tally} (finalized : tally.finalized = true)
    (operation : Operation) :
    (tally.perform operation).1.finalized = true := by
  cases operation <;>
    simp only [perform, activateOnce, openVoting, enlist, noteYes, noteFailure,
      resolve, timeOut, abort, commitAlone, prepare, commitIfPrepared,
      noteLateRefusal, fixDeadline, finalizeOnce] <;>
    (repeat' split) <;> simp [finalized]

theorem finalized_after {tally : Tally} (finalized : tally.finalized = true)
    (operations : List Operation) :
    (tally.after operations).finalized = true :=
  after_induction (motive := fun current => current.finalized = true) finalized
    fun operation _ _ current => finalized_perform current operation

theorem finalizeOnce_answers {tally : Tally}
    (first : (tally.perform .finalizeOnce).2 = .truth true) :
    tally.isDecided ∧ (tally.perform .finalizeOnce).1.finalized = true := by
  simp only [perform, finalizeOnce] at first ⊢
  split at first <;> simp_all

theorem finalizeOnce_refuses {tally : Tally}
    (finalized : tally.finalized = true) :
    (tally.perform .finalizeOnce).2 = .truth false := by
  simp [perform, finalizeOnce, finalized]

/-- Nothing but a decision is ever finalized. -/
theorem isDecided_of_finalized_perform {tally : Tally}
    (decided : tally.finalized = true → tally.isDecided)
    (operation : Operation)
    (finalized : (tally.perform operation).1.finalized = true) :
    (tally.perform operation).1.isDecided := by
  cases earlier : tally.finalized with
  | true =>
      have same := sameRecord_perform (decided earlier) operation
      simpa [isDecided, same.phase] using decided earlier
  | false =>
      cases operation <;>
        simp only [perform, activateOnce, openVoting, enlist, noteYes,
          noteFailure, resolve, timeOut, abort, commitAlone, prepare,
          commitIfPrepared, noteLateRefusal, fixDeadline,
          finalizeOnce] at finalized ⊢ <;>
        (repeat' split at finalized) <;> simp_all [isDecided]

/-- The voting is opened by one operation alone. -/
theorem voting_perform {tally : Tally} {operation : Operation}
    (voting : (tally.perform operation).1.phase = .voting) :
    tally.phase = .voting ∨
      ∃ peers localPeer, operation = .openVoting peers localPeer := by
  cases operation with
  | openVoting peers localPeer => exact .inr ⟨peers, localPeer, rfl⟩
  | _ =>
      simp only [perform, activateOnce, enlist, noteYes, noteFailure, resolve,
        timeOut, abort, commitAlone, prepare, commitIfPrepared,
        noteLateRefusal, fixDeadline, finalizeOnce] at voting
      (repeat' split at voting) <;> simp_all

/-- After any operations on a tally that has just been started, its invariant
holds, what a decided tally records stays whatever else is done, an activation
answers yes exactly if none came before, and a finalization answers yes only of
a decided tally and never again later. -/
theorem consistent_after_any_operations (objectId : ObjectId)
    (operations : List Operation) :
    let tally := (start objectId).after operations
    tally.Sound ∧
      (tally.isDecided → ∀ later, tally.SameRecord (tally.after later)) ∧
      ((tally.perform .activateOnce).2 = .truth true ↔
        .activateOnce ∉ operations) ∧
      ((tally.perform .finalizeOnce).2 = .truth true →
        tally.isDecided ∧
        ∀ later, (((tally.perform .finalizeOnce).1.after later).perform
          .finalizeOnce).2 = .truth false) := by
  intro tally
  refine ⟨(Sound.start objectId).after operations, ?_, ?_, ?_⟩
  · exact fun decided later => sameRecord_after decided later
  · have activated : tally.activated = true ↔ .activateOnce ∈ operations := by
      have iff := activated_after (start objectId) operations
      rwa [show (start objectId).activated = false from rfl,
        Bool.false_eq_true, false_or] at iff
    rw [← activated]
    simp [perform, activateOnce]
  · intro first
    obtain ⟨decided, finalized⟩ := finalizeOnce_answers first
    exact ⟨decided, fun later =>
      finalizeOnce_refuses (finalized_after finalized later)⟩

end Tally

end CreationCommit
