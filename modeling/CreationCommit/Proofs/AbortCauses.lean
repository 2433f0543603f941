import CreationCommit.Proofs.Decisiveness
import CreationCommit.Proofs.Roles

/-!
# Why a creation is aborted

A tally is aborted by three operations alone: more peers failed than the
threshold allows, the time has passed, or a replica is told or refuses.  The
look in which this happens therefore tells the cause.  The primary resolves the
votes in the same look in which it notes a failure, so that the threshold is
exceeded by one when it aborts, never by more; and it resolves them before it
checks the time, so that it is not exceeded when the time has passed.
-/

namespace CreationCommit

namespace PeerMap

variable {α : Type}

theorem length_placeEntry_le (peer : PeerId) (value : α)
    (entries : List (PeerId × α)) :
    (placeEntry peer value entries).length ≤ entries.length + 1 := by
  induction entries with
  | nil => exact Nat.le_refl _
  | cons entry rest ih =>
      unfold placeEntry
      split
      · simp
      · split
        · simpa using ih
        · simp

theorem size_insert_le (map : PeerMap α) (peer : PeerId) (value : α) :
    (map.insert peer value).size ≤ map.size + 1 :=
  length_placeEntry_le peer value map.entries

@[simp]
theorem size_empty : (∅ : PeerMap α).size = 0 :=
  rfl

end PeerMap

namespace Tally

variable {tally : Tally} {operation : Operation} {report : AbortReport}

theorem size_failures_noteFailure (tally : Tally) (peer : PeerId)
    (failure : Failure) :
    (tally.noteFailure peer failure).1.failures.size ≤
      tally.failures.size + 1 := by
  unfold noteFailure
  split
  · exact PeerMap.size_insert_le _ _ _
  · exact Nat.le_succ _

/-- As long as the creation is undecided the threshold is kept to. -/
theorem Decisive.size_failures_le {threshold : Nat}
    (decisive : tally.Decisive threshold) (sound : tally.Sound)
    (undecided : ¬ tally.isDecided) : tally.failures.size ≤ threshold := by
  by_cases voting : tally.phase = .voting
  · exact decisive.bounded (.inl voting)
  · rw [(sound.unopened (unopened_of_undecided undecided voting)).2.1]
    exact Nat.zero_le threshold

/-- Why an operation aborts a creation with the report. -/
inductive Aborts (report : AbortReport) : Operation → Prop
  | exceeds (threshold : Nat) (exceeded : threshold < report.failures.size)
      (cause : report.cause =
        .tooManyFailures report.failures.size threshold) :
      Aborts report (.resolve threshold)
  | timesOut (limit : Duration) (cause : report.cause = .timedOut limit) :
      Aborts report (.timeOut limit)
  | aborts : Aborts report (.abort report.cause)

theorem cause_of_report {cause : AbortCause} (notYet : tally.abortReport = none)
    (reported : (tally.abort cause).abortReport = some report) :
    report.cause = cause ∧ report.failures = tally.failures := by
  unfold abort at reported
  split at reported
  · simp [notYet] at reported
  · cases reported
    exact ⟨rfl, rfl⟩

/-- Whatever operation aborts does so for one of these causes. -/
theorem aborts_perform (notYet : tally.abortReport = none)
    (reported : (tally.perform operation).1.abortReport = some report) :
    Aborts report operation := by
  cases operation with
  | resolve threshold =>
      simp only [perform, resolve, Prod.map_fst, id] at reported
      split at reported
      · split at reported
        · rename_i exceeded
          obtain ⟨cause, failures⟩ := cause_of_report notYet reported
          rw [← failures] at cause exceeded
          exact .exceeds threshold exceeded cause
        · split at reported <;> simp [notYet] at reported
      · simp [notYet] at reported
  | timeOut limit => exact .timesOut limit (cause_of_report notYet reported).1
  | abort cause =>
      obtain ⟨rfl, -⟩ := cause_of_report notYet reported
      exact .aborts
  | _ =>
      simp only [perform, activateOnce, openVoting, enlist, noteYes,
        noteFailure, commitAlone, prepare, commitIfPrepared, noteLateRefusal,
        fixDeadline, finalizeOnce, Prod.map_fst, id] at reported
      (repeat' split at reported) <;> simp [notYet] at reported

/-- A report that was made stays. -/
theorem abortReport_perform (sound : tally.Sound)
    (reported : tally.abortReport = some report) :
    (tally.perform operation).1.abortReport = some report := by
  have aborted : tally.phase = .aborted := sound.reported.1 (by simp [reported])
  have same := sameRecord_perform (isDecided_iff.2 (.inr aborted)) operation
  rw [same.abortReport, reported]

end Tally

/-- Why a look aborts a creation with the report. -/
inductive Look.Aborts (look : Look) (report : AbortReport) : Prop
  | exceeds
      (exceeded : look.party.setup.settings.threshold < report.failures.size)
      (cause : report.cause = .tooManyFailures report.failures.size
        look.party.setup.settings.threshold)
  | timesOut (now : Instant) (role : look.party.setup.role = .primary)
      (checks : look.trigger = .clock now)
      (cause : report.cause = .timedOut look.party.setup.settings.timeout)
  | aborts
      (caused : look.trigger.Causes look.party.setup (.abort report.cause))

namespace Look

variable {look : Look} {report : AbortReport}

theorem aborts_of_report (sound : look.party.tally.Sound)
    (notYet : look.party.tally.abortReport = none)
    (reported : look.tally.abortReport = some report) : look.Aborts report := by
  have advances := Party.advancesOn_look look.party look.trigger
  have told := advances.induction (motive := fun tally => tally.Sound ∧
      ∀ report, tally.abortReport = some report → look.Aborts report)
    ⟨sound, by simp [notYet]⟩ ?_
  · exact told.2 report reported
  · rintro operation caused tally ⟨tallySound, known⟩
    refine ⟨tallySound.perform operation, fun report reported => ?_⟩
    cases already : tally.abortReport with
    | some earlier =>
        rw [Tally.abortReport_perform tallySound already] at reported
        exact known report (already.trans reported)
    | none =>
        cases Tally.aborts_perform already reported with
        | exceeds threshold exceeded cause =>
            obtain rfl : threshold = _ := caused
            exact .exceeds exceeded cause
        | timesOut limit cause =>
            obtain ⟨role, rfl, now, checks⟩ := caused
            exact .timesOut now role checks cause
        | aborts => exact .aborts caused

/-- A look notes one failure at most, and the check of the time none. -/
theorem size_failures_le (role : look.party.setup.role = .primary)
    (sound : look.party.tally.Sound) :
    look.tally.failures.size ≤ look.party.tally.failures.size + 1 := by
  cases Party.voteChange_look role sound look.trigger with
  | admits _ _ _ votes => exact votes.failures ▸ Nat.le_succ _
  | yes peer _ _ _ _ votes =>
      have kept : (look.party.tally.noteYes peer).1.failures =
          look.party.tally.failures := by
        unfold Tally.noteYes
        split <;> rfl
      exact (votes.failures.trans kept) ▸ Nat.le_succ _
  | fails peer failure _ _ _ _ votes =>
      have failures := votes.failures
      change look.tally.failures = _ at failures
      rw [failures]
      exact Tally.size_failures_noteFailure _ _ _
  | refusesLate peer failure late _ _ _ _ _ votes =>
      exact votes.failures ▸ Nat.le_succ _

/-- The threshold is exceeded by one failure when the primary aborts. -/
theorem exceeded_by_one (role : look.party.setup.role = .primary)
    (sound : look.party.tally.Sound)
    (decisive : look.party.tally.Decisive look.party.setup.settings.threshold)
    (undecided : ¬ look.party.tally.isDecided)
    (reported : look.tally.abortReport = some report)
    (exceeded : look.party.setup.settings.threshold < report.failures.size) :
    report.failures.size = look.party.setup.settings.threshold + 1 := by
  have advances := Party.advancesOn_look look.party look.trigger
  have sameFailures := ((advances.sound sound).report report reported).2
  have atMostOne := look.size_failures_le role sound
  have bounded := decisive.size_failures_le sound undecided
  rw [sameFailures] at exceeded ⊢
  change _ < look.tally.failures.size at exceeded
  change look.tally.failures.size = _
  omega

end Look

end CreationCommit
