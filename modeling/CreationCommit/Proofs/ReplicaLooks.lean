import CreationCommit.Proofs.PrimaryLooks

/-!
# What a look of a replica does

A replica prepares when its yes was accepted, commits when it is prepared and
hears of the commit, and aborts for one of three causes.  It votes at most once,
when it is activated, and it tells nobody anything.
-/

namespace CreationCommit

/-- How the record of a replica's tally changes in one look. -/
inductive ReplicaChange (setup : Setup) (trigger : Trigger)
    (before after : Tally) : Prop
  | stays (phase : after.phase = before.phase)
      (report : after.abortReport = before.abortReport)
  | prepares (active : before.phase = .active)
      (prepared : after.phase = .prepared)
      (accepted : trigger = .result (.vote none) (.ok ()))
  | commits (prepared : before.phase = .prepared)
      (committed : after.phase = .committed)
      (told : trigger.Causes setup .commitIfPrepared)
  | aborts (report : AbortReport) (undecided : ¬ before.isDecided)
      (aborted : after.phase = .aborted)
      (reported : after.abortReport = some report)
      (caused : trigger.Causes setup (.abort report.cause))

theorem ReplicaChange.of_sameRecord {setup : Setup} {trigger : Trigger}
    {before after : Tally} (same : before.SameRecord after) :
    ReplicaChange setup trigger before after :=
  .stays same.phase same.abortReport

namespace Party

variable {party : Party} {trigger : Trigger}

theorem isPrimary_eq_false (role : party.setup.role ≠ .primary) :
    party.isPrimary = false := by
  rw [← Bool.not_eq_true, isPrimary_iff]
  exact role

theorem sameRecord_finalizeOnce (tally : Tally) :
    tally.SameRecord tally.finalizeOnce.1 := by
  unfold Tally.finalizeOnce
  split <;> exact ⟨rfl, rfl, rfl, rfl, rfl⟩

theorem sameRecord_settle (party : Party) :
    party.tally.SameRecord party.settle.1.tally := by
  unfold settle
  split
  · exact sameRecord_finalizeOnce party.tally
  · exact .refl _

theorem sameRecord_conclude (party : Party) :
    party.tally.SameRecord party.conclude.1.tally :=
  sameRecord_settle party

/-- Whoever waits changes the record only where the deadline is checked. -/
theorem sameRecord_examine (party : Party) (now : Instant) :
    (party.checkDeadline now).1.tally.SameRecord
      (party.examine now).1.tally := by
  unfold examine
  dsimp only
  split
  · exact sameRecord_finalizeOnce _
  · exact sameRecord_settle _
  · exact .refl _

/-- An abort changes the record of an undecided tally only. -/
theorem replicaChange_abort (before : Tally) (party : Party)
    (same : before.SameRecord party.tally) (cause : AbortCause)
    {setup : Setup} (caused : trigger.Causes setup (.abort cause)) :
    ReplicaChange setup trigger before
      { party with tally := party.tally.abort cause }.conclude.1.tally := by
  have concluded := sameRecord_conclude
    { party with tally := party.tally.abort cause }
  by_cases decided : party.tally.isDecided
  · simp only [Tally.abort_of_isDecided decided] at concluded ⊢
    exact .of_sameRecord (same.trans concluded)
  · have undecided : ¬ before.isDecided := by
      simpa [Tally.isDecided, same.phase] using decided
    simp only [Tally.abort, if_neg decided] at concluded ⊢
    exact .aborts _ undecided concluded.phase concluded.abortReport caused

theorem replicaChange_noteResult (notVoting : party.tally.phase ≠ .voting)
    (opening : Opening) (result : Except DeliveryError Unit) :
    ReplicaChange party.setup (.result opening result) party.tally
      (party.noteResult opening result).1.tally := by
  unfold noteResult
  split
  · exact .stays rfl rfl
  · simp only [noteFailure, Tally.noteFailure, notVoting, false_and, if_false]
    exact .of_sameRecord (sameRecord_conclude party)
  · have concluded := sameRecord_conclude
      { party with tally := party.tally.prepare.1 }
    by_cases active : party.tally.phase = .active
    · refine .prepares active ?_ rfl
      simpa [Tally.prepare, active] using concluded.phase
    · simp only [Tally.prepare, active, if_false] at concluded ⊢
      exact .of_sameRecord concluded
  · exact replicaChange_abort _ _ (.refl _) _ rfl
  · exact replicaChange_abort _ _ (.refl _) _ ⟨_, rfl⟩

theorem phase_obeyCommit (prepared : party.tally.phase = .prepared) :
    party.obeyCommit.1.tally.phase = .committed := by
  simp only [obeyCommit, Tally.commitIfPrepared, prepared, if_true, announce]
  exact (sameRecord_finalizeOnce _).phase

theorem replicaChange_hearNotice (role : party.setup.role ≠ .primary)
    (decision : Decision) (objectId : ObjectId) (view : GroupView) :
    ReplicaChange party.setup
      (.command (.handle (.noticeReceived decision objectId) view)) party.tally
      (party.hearNotice decision objectId).1.tally := by
  unfold hearNotice
  split
  · rename_i concerned
    obtain ⟨-, rfl⟩ := concerned
    cases decision with
    | commit =>
        by_cases prepared : party.tally.phase = .prepared
        · exact .commits prepared (phase_obeyCommit prepared) ⟨role, view, rfl⟩
        · simp only [obeyCommit, Tally.commitIfPrepared, prepared, if_false,
            Bool.false_eq_true]
          exact .stays rfl rfl
    | abort =>
        exact replicaChange_abort party.tally
          { party with tally := party.tally.activateOnce.1 }
          ⟨rfl, rfl, rfl, rfl, rfl⟩ .toldByPrimary ⟨role, view, rfl⟩
  · exact .stays rfl rfl

theorem replicaChange_look (role : party.setup.role ≠ .primary)
    (notVoting : party.tally.phase ≠ .voting) (trigger : Trigger) :
    ReplicaChange party.setup trigger party.tally
      (party.look trigger).1.tally := by
  have notPrimary := isPrimary_eq_false role
  cases trigger with
  | command command =>
      cases command with
      | handle event view =>
          cases event with
          | activated =>
              simp only [look, handle, enroll, notPrimary, Party.opened,
                Bool.false_eq_true, if_false]
              exact .stays rfl rfl
          | memberJoined peer =>
              simp only [look, handle, welcome, notPrimary, Party.opened,
                Bool.false_eq_true, false_and, if_false]
              exact .stays rfl rfl
          | voteReceived vote =>
              simp only [look, handle, hearVote, notPrimary, closed,
                Bool.false_eq_true, false_and, if_false]
              exact .stays rfl rfl
          | memberDeparted peer =>
              simp only [look, handle, dismiss, notPrimary, closed,
                Bool.false_eq_true, if_false]
              exact .stays rfl rfl
          | noticeReceived decision objectId =>
              exact replicaChange_hearNotice role decision objectId view
      | lead view =>
          simp only [look, lead, notPrimary, Party.opened, Bool.false_eq_true,
            if_false]
          exact .stays rfl rfl
      | enroll refusal =>
          simp only [look, enroll, notPrimary, Party.opened, Bool.false_eq_true,
            if_false]
          exact .stays rfl rfl
      | await => exact .stays rfl rfl
  | result opening result =>
      exact replicaChange_noteResult notVoting opening result
  | clock now =>
      rw [look_clock_fst]
      simp only [examine, checkDeadline, notPrimary, Bool.false_eq_true,
        if_false]
      split
      · exact .of_sameRecord (sameRecord_finalizeOnce party.tally)
      · exact .of_sameRecord (sameRecord_settle party)
      · exact .stays rfl rfl

/-- After the result of its vote a replica is no longer merely active. -/
theorem not_active_of_vote_result (refusal : Option String)
    (result : Except DeliveryError Unit) :
    (party.look (.result (.vote refusal) result)).1.tally.phase ≠ .active := by
  have notActive (cause : AbortCause) :
      { party with tally := party.tally.abort cause }.conclude.1.tally.phase ≠
        .active := by
    rw [(sameRecord_conclude _).phase]
    simp only [Tally.abort]
    split
    · rename_i decided
      intro active
      simp [Tally.isDecided_iff, active] at decided
    · simp
  cases result with
  | error error =>
      cases refusal with
      | none => exact notActive (.voteUndelivered error)
      | some cause => exact notActive (.voteUndelivered error)
  | ok =>
      cases refusal with
      | some cause => exact notActive (.refusedLocally cause)
      | none =>
          simp only [look, closed, noteResult, (sameRecord_conclude _).phase,
            Tally.prepare]
          split
          · simp
          · assumption

section Notices

variable (view : GroupView)

theorem look_notice (role : party.setup.role ≠ .primary)
    (decision : Decision) :
    party.look (.command (.handle
        (.noticeReceived decision party.setup.objectId) view)) =
      closed (match decision with
        | .commit => party.obeyCommit
        | .abort => party.obeyAbort) := by
  simp only [look, handle, hearNotice, isPrimary_eq_false role]
  rfl

theorem committed_of_commit_notice (role : party.setup.role ≠ .primary)
    (prepared : party.tally.phase = .prepared) :
    (party.look (.command (.handle
      (.noticeReceived .commit party.setup.objectId) view))).1.tally.phase =
        .committed := by
  rw [look_notice view role]
  exact phase_obeyCommit prepared

theorem decided_of_abort_notice (role : party.setup.role ≠ .primary) :
    (party.look (.command (.handle
      (.noticeReceived .abort party.setup.objectId) view))).1.tally.isDecided := by
  rw [look_notice view role]
  simp only [closed, obeyAbort, Tally.isDecided,
    (sameRecord_conclude _).phase]
  unfold Tally.abort
  split
  · assumption
  · rfl

end Notices

/-- A replica has nobody who acknowledges. -/
theorem acknowledged_look (role : party.setup.role ≠ .primary)
    (noneAcknowledged : party.tally.acknowledged = []) (trigger : Trigger) :
    (party.look trigger).1.tally.acknowledged = [] := by
  apply List.eq_nil_iff_forall_not_mem.2
  intro peer acknowledged
  rcases (advancesOn_look party trigger).mem_acknowledged acknowledged with
    earlier | ⟨primary, -⟩
  · simp [noneAcknowledged] at earlier
  · exact role primary

/-- What a look of a replica leaves: a vote at most, and then only if the look
activated it, and reports to the local object. -/
structure ReplicaDuties (before after : Tally) (duties : List Duty) : Prop where
  duties : ∃ (refusals : List (Option String)) (decisions : List Decision),
    duties = (refusals.map .vote).map .opening ++
      (decisions.map .report).map .closing ∧
    refusals.length ≤ 1 ∧
    (refusals ≠ [] → before.activated = false ∧ after.activated = true)

theorem ReplicaDuties.reports {before after : Tally}
    (decisions : List Decision) :
    ReplicaDuties before after ((decisions.map .report).map .closing) :=
  ⟨[], decisions, rfl, Nat.zero_le 1, by simp⟩

theorem settle_reports (role : party.setup.role ≠ .primary) :
    ∃ decisions : List Decision, party.settle.2 = decisions.map .report := by
  have nobody : party.teardownAudience = [] := by
    unfold teardownAudience
    split
    · contradiction
    · rfl
  unfold settle
  split
  · dsimp only
    split
    · exact ⟨[.abort], by simp [nobody, broadcast]⟩
    · exact ⟨[], rfl⟩
  · exact ⟨[], rfl⟩

theorem noteResult_reports (role : party.setup.role ≠ .primary)
    (opening : Opening) (result : Except DeliveryError Unit) :
    ∃ decisions : List Decision,
      (party.noteResult opening result).2 = decisions.map .report := by
  unfold noteResult
  split
  · exact ⟨[], rfl⟩
  · simp only [noteFailure]
    split <;> exact settle_reports role
  · exact settle_reports role
  · exact settle_reports role
  · exact settle_reports role

theorem hearNotice_reports (role : party.setup.role ≠ .primary)
    (decision : Decision) (objectId : ObjectId) :
    ∃ decisions : List Decision,
      (party.hearNotice decision objectId).2 = decisions.map .report := by
  unfold hearNotice
  split
  · cases decision with
    | commit =>
        simp only [obeyCommit]
        split
        · split
          · exact ⟨[.commit], rfl⟩
          · exact ⟨[], rfl⟩
        · exact ⟨[], rfl⟩
    | abort => exact settle_reports role
  · exact ⟨[], rfl⟩

theorem examine_reports (role : party.setup.role ≠ .primary)
    (noneAcknowledged : party.tally.acknowledged = []) (now : Instant) :
    ∃ decisions : List Decision,
      (party.look (.clock now)).2 = (decisions.map .report).map .closing := by
  simp only [look, examine, checkDeadline, isPrimary_eq_false role,
    Bool.false_eq_true, if_false]
  cases party.tally.phase with
  | committed =>
      dsimp only
      split
      · exact ⟨[.commit], by
          simp [broadcast, noneAcknowledged]⟩
      · exact ⟨[], rfl⟩
  | aborted =>
      cases party.tally.abortReport with
      | none => exact ⟨[], rfl⟩
      | some report =>
          obtain ⟨decisions, reports⟩ := settle_reports role
          exact ⟨decisions, by simp [reports]⟩
  | active | voting | prepared => exact ⟨[], rfl⟩

theorem enroll_duties (role : party.setup.role ≠ .primary)
    (refusal : Option String) :
    ReplicaDuties party.tally (party.enroll refusal).1.tally
      ((party.enroll refusal).2.map .opening) := by
  simp only [enroll, isPrimary_eq_false role, Bool.false_eq_true, if_false]
  split
  · rename_i first
    exact ⟨[refusal], [], rfl, Nat.le_refl 1, fun _ =>
      ⟨by simpa [Tally.activateOnce] using first, rfl⟩⟩
  · exact .reports []

/-- Every look of a replica leaves such duties. -/
theorem replicaDuties_look (role : party.setup.role ≠ .primary)
    (noneAcknowledged : party.tally.acknowledged = []) (trigger : Trigger) :
    ReplicaDuties party.tally (party.look trigger).1.tally
      (party.look trigger).2 := by
  have notPrimary := isPrimary_eq_false role
  have closes (decisions : List Decision)
      (closed : (party.look trigger).2 = (decisions.map .report).map .closing) :
      ReplicaDuties party.tally (party.look trigger).1.tally
        (party.look trigger).2 := by
    rw [closed]
    exact .reports decisions
  cases trigger with
  | command command =>
      cases command with
      | handle event view =>
          cases event with
          | activated =>
              simpa [look, handle, notPrimary, opened] using
                enroll_duties role none
          | memberJoined peer =>
              exact closes [] (by
                simp [look, handle, welcome, notPrimary, opened])
          | voteReceived vote =>
              exact closes [] (by
                simp [look, handle, hearVote, notPrimary, closed])
          | memberDeparted peer =>
              exact closes [] (by
                simp [look, handle, dismiss, notPrimary, closed])
          | noticeReceived decision objectId =>
              obtain ⟨decisions, reports⟩ :=
                hearNotice_reports role decision objectId
              exact closes decisions (congrArg (List.map Duty.closing) reports)
      | lead view =>
          exact closes [] (by
            simp [look, lead, notPrimary, opened])
      | enroll refusal => exact enroll_duties role refusal
      | await => exact closes [] rfl
  | result opening result =>
      obtain ⟨decisions, reports⟩ := noteResult_reports role opening result
      exact closes decisions (congrArg (List.map Duty.closing) reports)
  | clock now =>
      obtain ⟨decisions, reports⟩ := examine_reports role noneAcknowledged now
      exact closes decisions reports

/-- A replica that is activated and still active has just left its vote to be
sent. -/
theorem votes_on_activation (role : party.setup.role ≠ .primary)
    (notActivated : party.tally.activated = false)
    (activated : (party.look trigger).1.tally.activated = true)
    (active : (party.look trigger).1.tally.phase = .active) :
    ∃ refusal, .opening (.vote refusal) ∈ (party.look trigger).2 := by
  have notPrimary := isPrimary_eq_false role
  have enrolls (refusal : Option String) :
      Duty.opening (.vote refusal) ∈ (opened (party.enroll refusal)).2 := by
    simp [enroll, notPrimary, opened, Tally.activateOnce, notActivated]
  have byCommand : ∃ command, trigger = .command command := by
    revert activated
    refine (advancesOn_look party trigger).induction
      (motive := fun tally => tally.activated = true →
        ∃ command, trigger = .command command) (by simp [notActivated]) ?_
    intro operation caused tally known activated
    rcases (Tally.activated_perform tally operation).1 activated with
      earlier | rfl
    · exact known earlier
    · rcases caused with ⟨view, leads | activates⟩ | ⟨-, commanded⟩
      · exact ⟨_, leads⟩
      · exact ⟨_, activates⟩
      · exact commanded
  obtain ⟨command, rfl⟩ := byCommand
  cases command with
  | handle event view =>
      cases event with
      | activated =>
          exact ⟨none, by simpa [look, handle, notPrimary] using enrolls none⟩
      | memberJoined peer =>
          simp [look, handle, welcome, notPrimary, opened,
            notActivated] at activated
      | voteReceived vote =>
          simp [look, handle, hearVote, notPrimary, closed,
            notActivated] at activated
      | memberDeparted peer =>
          simp [look, handle, dismiss, notPrimary, closed,
            notActivated] at activated
      | noticeReceived decision objectId =>
          by_cases about : objectId = party.setup.objectId
          · subst about
            cases decision with
            | commit =>
                rw [look_notice view role] at activated
                simp only [closed, obeyCommit] at activated
                split at activated
                · simpa [notActivated] using (Tally.activated_perform
                    party.tally .commitIfPrepared).1
                      ((Tally.activated_perform _ .finalizeOnce).1
                        activated |>.resolve_right (by simp))
                · simp [announce, notActivated] at activated
            | abort =>
                have decided := decided_of_abort_notice view role
                rw [Tally.isDecided_iff, active] at decided
                simp at decided
          · simp [look, handle, hearNotice, about, closed,
              notActivated] at activated
  | lead view =>
      simp [look, lead, notPrimary, opened, notActivated] at activated
  | enroll refusal => exact ⟨refusal, enrolls refusal⟩
  | await => simp [look, notActivated] at activated

/-- A replica that is activated and active was so before the look, or the look
left its vote to be sent. -/
theorem votes_of_active (role : party.setup.role ≠ .primary)
    (notVoting : party.tally.phase ≠ .voting)
    (activated : (party.look trigger).1.tally.activated = true)
    (active : (party.look trigger).1.tally.phase = .active) :
    (party.tally.activated = true ∧ party.tally.phase = .active) ∨
      ∃ refusal, .opening (.vote refusal) ∈ (party.look trigger).2 := by
  by_cases already : party.tally.activated = true
  · refine .inl ⟨already, ?_⟩
    cases replicaChange_look role notVoting trigger with
    | stays phase => exact phase ▸ active
    | prepares _ prepared => simp [active] at prepared
    | commits _ committed => simp [active] at committed
    | aborts _ _ aborted => simp [active] at aborted
  · exact .inr (votes_on_activation role (by simpa using already) activated
      active)

end Party

end CreationCommit
