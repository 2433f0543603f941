import CreationCommit.Tally

/-!
# Operations on a tally

Every change of a tally is one of fourteen operations.  A tally that went
through a list of them is followed peer by peer: which operation makes a peer
outstanding, which one moves it on, and that a peer once involved stays so.
-/

namespace CreationCommit

namespace Tally

/-- What may be done to a tally. -/
inductive Operation
  | activateOnce
  | openVoting (peers : List PeerId) (localPeer : PeerId)
  | enlist (peer : PeerId)
  | noteYes (peer : PeerId)
  | noteFailure (peer : PeerId) (failure : Failure)
  | resolve (threshold : Nat)
  | timeOut (limit : Duration)
  | abort (cause : AbortCause)
  | commitAlone
  | prepare
  | commitIfPrepared
  | noteLateRefusal (late : LateRefusal)
  | fixDeadline (now : Instant) (limit : Duration)
  | finalizeOnce

/-- What an operation answers. -/
inductive Reply
  | silence
  | truth (value : Bool)
  | admitted (peers : List PeerId)
  | decision (made : Option Phase)
  | instant (deadline : Instant)

/-- Perform an operation. -/
def perform (tally : Tally) : Operation → Tally × Reply
  | .activateOnce => tally.activateOnce.map id .truth
  | .openVoting peers localPeer =>
      (tally.openVoting peers localPeer).map id .admitted
  | .enlist peer => (tally.enlist peer).map id .truth
  | .noteYes peer => (tally.noteYes peer).map id .truth
  | .noteFailure peer failure => (tally.noteFailure peer failure).map id .truth
  | .resolve threshold => (tally.resolve threshold).map id .decision
  | .timeOut limit => (tally.timeOut limit).map id .truth
  | .abort cause => (tally.abort cause, .silence)
  | .commitAlone => tally.commitAlone.map id .truth
  | .prepare => tally.prepare.map id .truth
  | .commitIfPrepared => tally.commitIfPrepared.map id .truth
  | .noteLateRefusal late => (tally.noteLateRefusal late, .silence)
  | .fixDeadline now limit => (tally.fixDeadline now limit).map id .instant
  | .finalizeOnce => tally.finalizeOnce.map id .truth

/-- The tally after operations, one after the other. -/
def after (tally : Tally) (operations : List Operation) : Tally :=
  operations.foldl (fun tally operation => (tally.perform operation).1) tally

@[simp]
theorem after_nil (tally : Tally) : tally.after [] = tally :=
  rfl

@[simp]
theorem after_cons (tally : Tally) (operation : Operation)
    (operations : List Operation) :
    tally.after (operation :: operations) =
      (tally.perform operation).1.after operations :=
  rfl

@[simp]
theorem after_append (tally : Tally) (earlier later : List Operation) :
    tally.after (earlier ++ later) = (tally.after earlier).after later :=
  List.foldl_append

/-- What every operation preserves holds after any list of them. -/
theorem after_induction {motive : Tally → Prop} {tally : Tally}
    {operations : List Operation} (before : motive tally)
    (step : ∀ operation ∈ operations, ∀ current, motive current →
      motive (current.perform operation).1) :
    motive (tally.after operations) := by
  induction operations generalizing tally with
  | nil => exact before
  | cons operation operations ih =>
      apply ih (step operation (by simp) tally before)
      intro later laterMem
      exact step later (by simp [laterMem])

theorem mem_enlistAll_fst {outstanding : PeerSet} {peers : List PeerId}
    {peer : PeerId} :
    peer ∈ (enlistAll outstanding peers).1 ↔
      peer ∈ outstanding ∨ peer ∈ peers := by
  induction peers generalizing outstanding with
  | nil => simp [enlistAll]
  | cons first rest ih =>
      by_cases known : first ∈ outstanding
      · simp only [enlistAll, known, if_true, ih, List.mem_cons]
        by_cases isFirst : peer = first
        · simp [isFirst, known]
        · simp [isFirst]
      · simp only [enlistAll, known, if_false, ih, PeerSet.mem_insert,
          List.mem_cons]
        rw [or_assoc, or_left_comm]

theorem mem_enlistAll_snd {outstanding : PeerSet} {peers : List PeerId}
    {peer : PeerId} :
    peer ∈ (enlistAll outstanding peers).2 ↔
      peer ∈ peers ∧ peer ∉ outstanding := by
  induction peers generalizing outstanding with
  | nil => simp [enlistAll]
  | cons first rest ih =>
      by_cases known : first ∈ outstanding
      · simp only [enlistAll, known, if_true, ih, List.mem_cons]
        by_cases isFirst : peer = first
        · simp [isFirst, known]
        · simp [isFirst]
      · simp only [enlistAll, known, if_false, ih, PeerSet.mem_insert,
          List.mem_cons]
        by_cases isFirst : peer = first
        · simp [isFirst, known]
        · simp [isFirst]

theorem nodup_enlistAll (outstanding : PeerSet) (peers : List PeerId) :
    (enlistAll outstanding peers).2.Nodup := by
  induction peers generalizing outstanding with
  | nil => simp [enlistAll]
  | cons first rest ih =>
      by_cases known : first ∈ outstanding
      · simpa [enlistAll, known] using ih outstanding
      · simp only [enlistAll, known, if_false, List.nodup_cons]
        exact ⟨by simp [mem_enlistAll_snd], ih _⟩

/-- The tallies tell the same decision about the same peers. -/
structure SameRecord (first second : Tally) : Prop where
  phase : second.phase = first.phase
  outstanding : second.outstanding = first.outstanding
  failures : second.failures = first.failures
  acknowledged : second.acknowledged = first.acknowledged
  abortReport : second.abortReport = first.abortReport

namespace SameRecord

theorem refl (tally : Tally) : tally.SameRecord tally :=
  ⟨rfl, rfl, rfl, rfl, rfl⟩

theorem trans {first second third : Tally}
    (lower : first.SameRecord second) (upper : second.SameRecord third) :
    first.SameRecord third where
  phase := upper.phase.trans lower.phase
  outstanding := upper.outstanding.trans lower.outstanding
  failures := upper.failures.trans lower.failures
  acknowledged := upper.acknowledged.trans lower.acknowledged
  abortReport := upper.abortReport.trans lower.abortReport

end SameRecord

theorem isDecided_iff {tally : Tally} :
    tally.isDecided ↔ tally.phase = .committed ∨ tally.phase = .aborted := by
  cases phase : tally.phase <;> simp [isDecided, Phase.isDecided, phase]

theorem not_aborted_of_undecided {tally : Tally} (undecided : ¬ tally.isDecided) :
    tally.phase ≠ .aborted :=
  fun aborted => undecided (isDecided_iff.2 (.inr aborted))

/-- An undecided creation has its voting open, or is before that. -/
theorem unopened_of_undecided {tally : Tally} (undecided : ¬ tally.isDecided)
    (notVoting : tally.phase ≠ .voting) :
    tally.phase = .active ∨ tally.phase = .prepared := by
  rw [isDecided_iff] at undecided
  cases phase : tally.phase <;> simp_all

theorem abort_of_isDecided {tally : Tally} (decided : tally.isDecided)
    (cause : AbortCause) : tally.abort cause = tally :=
  if_pos decided

/-- No operation changes what a decided tally records. -/
theorem sameRecord_perform {tally : Tally} (decided : tally.isDecided)
    (operation : Operation) :
    tally.SameRecord (tally.perform operation).1 := by
  have notActive : tally.phase ≠ .active := by
    rintro active
    simp [isDecided_iff, active] at decided
  have notVoting : tally.phase ≠ .voting := by
    rintro voting
    simp [isDecided_iff, voting] at decided
  have notPrepared : tally.phase ≠ .prepared := by
    rintro prepared
    simp [isDecided_iff, prepared] at decided
  cases operation with
  | activateOnce | noteLateRefusal | fixDeadline => exact ⟨rfl, rfl, rfl, rfl, rfl⟩
  | timeOut limit =>
      simpa [perform, timeOut, abort_of_isDecided decided] using .refl tally
  | abort cause =>
      simpa [perform, abort_of_isDecided decided] using .refl tally
  | finalizeOnce =>
      simp only [perform, finalizeOnce]
      split <;> exact ⟨rfl, rfl, rfl, rfl, rfl⟩
  | openVoting | enlist | noteYes | noteFailure | resolve | commitAlone
  | prepare | commitIfPrepared =>
      simpa [perform, openVoting, enlist, noteYes, noteFailure, resolve,
        commitAlone, prepare, commitIfPrepared, notActive, notVoting,
        notPrepared] using .refl tally

theorem sameRecord_after {tally : Tally} (decided : tally.isDecided)
    (operations : List Operation) : tally.SameRecord (tally.after operations) := by
  apply after_induction (.refl tally)
  intro operation _ current same
  have stillDecided : current.isDecided := by
    simpa [isDecided, same.phase] using decided
  exact same.trans (sameRecord_perform stillDecided operation)

variable {tally : Tally} {operation : Operation} {peer : PeerId}

/-- The peer takes part, or took part until it failed. -/
def Involves (tally : Tally) (peer : PeerId) : Prop :=
  peer ∈ tally.outstanding ∨ peer ∈ tally.acknowledged ∨ peer ∈ tally.failures

theorem mem_acknowledged_perform
    (acknowledged : peer ∈ (tally.perform operation).1.acknowledged) :
    peer ∈ tally.acknowledged ∨ operation = .noteYes peer := by
  cases operation with
  | noteYes other =>
      simp only [perform, noteYes] at acknowledged
      split at acknowledged
      · simp only [Prod.map_fst, id_eq, List.mem_append,
          List.mem_singleton] at acknowledged
        exact acknowledged.imp_right fun same => by rw [same]
      · exact .inl acknowledged
  | noteFailure other failure =>
      simp only [perform, noteFailure] at acknowledged
      split at acknowledged
      · exact .inl (List.mem_of_mem_erase acknowledged)
      · exact .inl acknowledged
  | _ =>
      simp only [perform, activateOnce, openVoting, enlist, resolve, timeOut,
        abort, commitAlone, prepare, commitIfPrepared, noteLateRefusal,
        fixDeadline, finalizeOnce] at acknowledged
      (repeat' split at acknowledged) <;> exact .inl acknowledged

theorem mem_failures_perform
    (failed : peer ∈ (tally.perform operation).1.failures) :
    peer ∈ tally.failures ∨ ∃ failure, operation = .noteFailure peer failure := by
  cases operation with
  | noteFailure other failure =>
      simp only [perform, noteFailure] at failed
      split at failed
      · rcases PeerMap.mem_insert.1 failed with rfl | failed
        · exact .inr ⟨failure, rfl⟩
        · exact .inl failed
      · exact .inl failed
  | _ =>
      simp only [perform, activateOnce, openVoting, enlist, noteYes, resolve,
        timeOut, abort, commitAlone, prepare, commitIfPrepared,
        noteLateRefusal, fixDeadline, finalizeOnce] at failed
      (repeat' split at failed) <;> exact .inl failed

/-- A peer becomes outstanding only by being admitted, once the voting is open
and unless it took part before. -/
theorem mem_outstanding_perform
    (outstanding : peer ∈ (tally.perform operation).1.outstanding) :
    peer ∈ tally.outstanding ∨ tally.phase = .active ∨ ¬ tally.Involves peer := by
  cases operation with
  | openVoting peers localPeer =>
      simp only [perform, openVoting] at outstanding
      split at outstanding
      · rename_i active
        exact .inr (.inl active)
      · exact .inl outstanding
  | enlist other =>
      simp only [perform, enlist] at outstanding
      split at outstanding
      · rename_i allowed
        rcases PeerSet.mem_insert.1 outstanding with rfl | outstanding
        · by_cases already : peer ∈ tally.outstanding
          · exact .inl already
          · exact .inr (.inr (by simp [Involves, already, allowed.2]))
        · exact .inl outstanding
      · exact .inl outstanding
  | noteYes other =>
      simp only [perform, noteYes] at outstanding
      split at outstanding
      · exact .inl (PeerMap.mem_erase.1 outstanding).2
      · exact .inl outstanding
  | noteFailure other failure =>
      simp only [perform, noteFailure] at outstanding
      split at outstanding
      · exact .inl (PeerMap.mem_erase.1 outstanding).2
      · exact .inl outstanding
  | _ =>
      simp only [perform, activateOnce, resolve, timeOut, abort, commitAlone,
        prepare, commitIfPrepared, noteLateRefusal, fixDeadline,
        finalizeOnce] at outstanding
      (repeat' split at outstanding) <;> exact .inl outstanding

/-- A peer that took part is never forgotten. -/
theorem involves_perform (involved : tally.Involves peer)
    (operation : Operation) : (tally.perform operation).1.Involves peer := by
  cases operation with
  | openVoting peers localPeer =>
      simp only [perform, openVoting]
      split
      · exact involved.imp_left fun outstanding =>
          mem_enlistAll_fst.2 (.inl outstanding)
      · exact involved
  | enlist other =>
      simp only [perform, enlist]
      split
      · exact involved.imp_left fun outstanding =>
          PeerSet.mem_insert.2 (.inr outstanding)
      · exact involved
  | noteYes other =>
      simp only [perform, noteYes]
      split
      · by_cases same : peer = other
        · exact .inr (.inl (by simp [same]))
        · simpa [Involves, same] using involved
      · exact involved
  | noteFailure other failure =>
      simp only [perform, noteFailure]
      split
      · by_cases same : peer = other
        · exact .inr (.inr (by simp [same]))
        · simpa [Involves, same, List.mem_erase_of_ne same] using involved
      · exact involved
  | _ =>
      simp only [perform, activateOnce, resolve, timeOut, abort, commitAlone,
        prepare, commitIfPrepared, noteLateRefusal, fixDeadline, finalizeOnce]
      (repeat' split) <;> exact involved

end Tally

end CreationCommit
