import CreationCommit.Proofs.AbortCauses
import CreationCommit.Proofs.Deadlines

/-!
# A replica while its vote is on the way

A replica votes once, to its primary and with the first number, and not at all
if it is told to abort before it is asked to vote.  Whatever happens while the
vote is on the way, the first cause for an abort that finds the replica
undecided aborts it for good, and is the cause that it reports.  It is prepared
only once its yes was accepted and commits only when it hears of that after
this, so that a replica that refused, or whose vote was not delivered, never
commits.
-/

namespace CreationCommit

/-- The one vote of a replica. -/
def Setup.ballot (setup : Setup) (home : PeerId) (refusal : Option String) :
    Letter where
  recipient := home
  message := .vote
    { voter := setup.localPeer
      objectId := setup.objectId
      sequence := 0
      refusal }

/-- The cause for an abort that the look brings to a replica. -/
def Look.abortCause? (look : Look) : Option AbortCause :=
  match look.trigger with
  | .result (.vote (some cause)) (.ok _) => some (.refusedLocally cause)
  | .result (.vote _) (.error error) => some (.voteUndelivered error)
  | .command _ =>
      if look.notice? = some .abort then some .toldByPrimary else none
  | _ => none

/-- The first cause for an abort that found the creation undecided. -/
def firstAbortCause? (history : List Look) : Option AbortCause :=
  (history.filter fun look => ¬ look.party.tally.isDecided).findSome?
    Look.abortCause?

namespace Look

variable {look : Look} {report : AbortReport}

/-- A replica reports no cause but the one that the look brings. -/
theorem abortCause_of_report (role : look.party.setup.role ≠ .primary)
    (sound : look.party.tally.Sound) (unopened : look.tally.Unopened)
    (notYet : look.party.tally.abortReport = none)
    (reported : look.tally.abortReport = some report) :
    look.abortCause? = some report.cause := by
  cases look.aborts_of_report sound notYet reported with
  | exceeds exceeded =>
      have stillSound :=
        (Party.advancesOn_look look.party look.trigger).sound sound
      have failures := (stillSound.report report reported).2
      change report.failures = look.tally.failures at failures
      rw [failures, unopened.failures] at exceeded
      simp at exceeded
  | timesOut now primary => exact absurd primary role
  | aborts caused =>
      unfold abortCause?
      generalize report.cause = cause at caused
      cases cause with
      | refusedLocally cause =>
          rw [show look.trigger = _ from caused]
      | voteUndelivered error =>
          obtain ⟨refusal, ends⟩ := caused
          rw [ends]
          cases refusal <;> rfl
      | toldByPrimary =>
          obtain ⟨-, view, told⟩ := caused
          simp [told, notice?]
      | tooManyFailures | timedOut => exact caused.elim

/-- Whatever brings a cause for an abort aborts an undecided replica. -/
theorem aborted_of_abortCause {cause : AbortCause}
    (role : look.party.setup.role ≠ .primary)
    (undecided : ¬ look.party.tally.isDecided)
    (brings : look.abortCause? = some cause) : look.tally.phase = .aborted := by
  have aborts (tally : Tally) (same : tally.phase = look.party.tally.phase)
      (cause : AbortCause) :
      { look.party with tally := tally.abort cause }.conclude.1.tally.phase =
        .aborted := by
    have notDecided : ¬ tally.isDecided := by
      simpa [Tally.isDecided, same] using undecided
    rw [(Party.sameRecord_conclude _).phase, Tally.abort, if_neg notDecided]
  unfold abortCause? at brings
  split at brings
  · rename_i cause _ ends
    rw [Look.tally, ends]
    exact aborts _ rfl (.refusedLocally cause)
  · rename_i refusal error ends
    rw [Look.tally, ends]
    cases refusal with
    | none => exact aborts _ rfl (.voteUndelivered error)
    | some cause => exact aborts _ rfl (.voteUndelivered error)
  · split at brings
    · rename_i heard
      obtain ⟨view, told⟩ := trigger_of_notice heard
      rw [Look.tally, told, Party.look_notice view role]
      exact aborts look.party.tally.activateOnce.1 rfl .toldByPrimary
    · simp at brings
  · simp at brings

/-- So an undecided replica reports what the look brings, if anything. -/
theorem cause_eq_abortCause (role : look.party.setup.role ≠ .primary)
    (sound : look.party.tally.Sound) (unopened : look.tally.Unopened)
    (undecided : ¬ look.party.tally.isDecided) :
    look.tally.abortReport.map (·.cause) = look.abortCause? := by
  have notYet : look.party.tally.abortReport = none :=
    sound.abortReport_eq_none (Tally.not_aborted_of_undecided undecided)
  cases reported : look.tally.abortReport with
  | some report =>
      exact (abortCause_of_report role sound unopened notYet reported).symm
  | none =>
      cases brings : look.abortCause? with
      | none => rfl
      | some cause =>
          have stillSound :=
            (Party.advancesOn_look look.party look.trigger).sound sound
          have isReported := stillSound.reported.2
            (aborted_of_abortCause role undecided brings)
          change look.tally.abortReport.isSome = true at isReported
          simp [reported] at isReported

theorem abortCause_of_notice (heard : look.notice? = some .abort) :
    look.abortCause? = some .toldByPrimary := by
  obtain ⟨view, told⟩ := trigger_of_notice heard
  simp [abortCause?, told, notice?]

end Look

namespace Session

variable {setup : Setup} {moves : List Move} {last : Session} {look : Look}

section Replica

variable (role : setup.role ≠ .primary)
  (ran : (start setup).run? moves = some last)

include role ran

/-- The cause reported is the first that came. -/
theorem cause_of_run :
    last.party.tally.abortReport.map (·.cause) =
      firstAbortCause? ((start setup).history moves) := by
  have kept := history_induction (motive := fun history tally =>
    (tally.Sound ∧ tally.Unopened) ∧
      tally.abortReport.map (·.cause) = firstAbortCause? history)
    ⟨⟨.start _, .start _⟩, rfl⟩ ?_ ran
  · exact kept.2
  · rintro known look sameSetup ⟨⟨sound, unopened⟩, cause⟩
    have role := sameSetup ▸ role
    have advances := Party.advancesOn_look look.party look.trigger
    have stillUnopened := Party.unopened_look role unopened look.trigger
    refine ⟨⟨advances.sound sound, stillUnopened⟩, ?_⟩
    rw [firstAbortCause?, List.filter_append, List.findSome?_append,
      ← firstAbortCause?, ← cause]
    by_cases decided : look.party.tally.isDecided
    · have same := (advances.sameRecord decided).abortReport
      change look.tally.abortReport = _ at same
      simp [decided, same]
    · have notYet : look.party.tally.abortReport = none :=
        sound.abortReport_eq_none (Tally.not_aborted_of_undecided decided)
      rw [look.cause_eq_abortCause role sound stillUnopened decided, notYet]
      simp [decided]

/-- A replica that was told to abort counts as activated. -/
theorem activated_of_abort_notice
    (isKnown : look ∈ (start setup).history moves)
    (heard : look.notice? = some .abort) :
    last.party.tally.activated = true := by
  obtain ⟨later, next, ranLater, left⟩ := resumed_of_look ran isKnown
  refine kept_of_run (motive := fun tally => tally.activated = true) ?_
    (fun look => (Party.advancesOn_look look.party look.trigger).activated)
    ranLater
  obtain ⟨view, told⟩ := Look.trigger_of_notice heard
  have replica := (setup_of_look ran isKnown).symm ▸ role
  rw [left, Look.tally, told, Party.look_notice view replica]
  have activated : (look.party.tally.activateOnce.1.abort
      .toldByPrimary).activated = true :=
    (Tally.activated_perform _ (.abort .toldByPrimary)).2 (.inl rfl)
  have concluded : Party.AdvancesOn look.trigger _ _ :=
    (Party.AdvancesOn.refl
      { look.party with
        tally := look.party.tally.activateOnce.1.abort .toldByPrimary }).conclude
  exact concluded.activated activated

/-- A replica that is told to abort before it is asked to vote never votes. -/
theorem attempts_eq_nil_of_early_abort {known rest : List Look}
    (split : (start setup).history moves = known ++ look :: rest)
    (notAsked : ∀ earlier ∈ known, earlier.trigger.activates = false)
    (heard : look.notice? = some .abort) : last.attempts = [] := by
  have silent (other : Look) (notActivates : other.trigger.activates = false)
      (isKnown : other ∈ (start setup).history moves) (refusal : Option String) :
      .opening (.vote refusal) ∉ other.duties := by
    intro votes
    rcases Party.trigger_of_vote ((setup_of_look ran isKnown).symm ▸ role)
        (unopened_of_look role ran isKnown).acknowledged votes with
      enrolls | ⟨-, view, activates⟩
    · simp [enrolls, Trigger.activates] at notActivates
    · simp [activates, Trigger.activates] at notActivates
  have noVote (other : Look) (isKnown : other ∈ (start setup).history moves)
      (refusal : Option String) : .opening (.vote refusal) ∉ other.duties := by
    have isOne := isKnown
    rw [split, List.mem_append, List.mem_cons] at isOne
    rcases isOne with isEarlier | rfl | isLater
    · exact silent other (notAsked other isEarlier) isKnown refusal
    · obtain ⟨view, told⟩ := Look.trigger_of_notice heard
      exact silent other (by simp [told, Trigger.activates]) isKnown refusal
    · -- the look that heard the notice left the replica activated
      obtain ⟨between, afterwards, rfl⟩ := List.append_of_mem isLater
      have splitHere : (start setup).history moves =
          (known ++ look :: between) ++ other :: afterwards := by simp [split]
      obtain ⟨earlier, move, -, session, -, ranEarlier, hasHeard, isLook⟩ :=
        taken_of_history ran splitHere
      obtain ⟨trigger, -, rfl⟩ := Option.map_eq_some_iff.1 isLook
      have activated := activated_of_abort_notice role ranEarlier
        (hasHeard ▸ List.mem_append_right _ List.mem_cons_self) heard
      intro votes
      have someVote : 0 <
          (session.party.look trigger).2.countP Duty.isVote :=
        List.countP_pos_iff.2 ⟨_, votes, rfl⟩
      have notActivated := ((Party.votes_look
        ((setup_of_run ranEarlier).symm ▸ role)
        (unopened_of_run role ranEarlier).acknowledged trigger).2 someVote).1
      simp [activated] at notActivated
  refine List.eq_nil_iff_forall_not_mem.2 fun letter attempted => ?_
  have isVote := isVote_of_attempted role ran attempted
  obtain ⟨other, isKnown, isLeft⟩ := left_of_attempted ran attempted
  unfold Duty.isVote at isVote
  split at isVote
  · rename_i refusal votes
    exact noVote other isKnown refusal (votes ▸ isLeft)
  · simp at isVote

/-- A replica is prepared, or committed, only for the right reasons. -/
theorem stages_of_run :
    (last.party.tally.phase = .prepared →
      YesAccepted ((start setup).history moves)) ∧
    (last.party.tally.phase = .committed →
      CommitHeardAfter ((start setup).history moves)) := by
  have kept := history_induction (motive := fun history tally =>
    tally.phase ≠ .voting ∧ (tally.phase = .prepared → YesAccepted history) ∧
      (tally.phase = .committed → CommitHeardAfter history))
    (by simp [Tally.start]) ?_ ran
  · exact kept.2
  · rintro known look sameSetup ⟨notVoting, prepared, committed⟩
    have change := Party.replicaChange_look (sameSetup ▸ role) notVoting
      look.trigger
    change ReplicaChange _ _ _ look.tally at change
    rw [yesAccepted_concat, commitHeardAfter_concat]
    cases change with
    | stays phase =>
        rw [phase]
        exact ⟨notVoting, fun isPrepared => .inl (prepared isPrepared),
          fun isCommitted => .inl (committed isCommitted)⟩
    | prepares _ nowPrepared accepted =>
        refine ⟨by simp [nowPrepared], fun _ => .inr ?_, by simp [nowPrepared]⟩
        simp [Look.acceptsYes, accepted]
    | commits wasPrepared nowCommitted told =>
        obtain ⟨-, view, arrived⟩ := told
        refine ⟨by simp [nowCommitted], by simp [nowCommitted],
          fun _ => .inr ⟨prepared wasPrepared, ?_⟩⟩
        simp [Look.notice?, arrived]
    | aborts _ _ aborted => simp [aborted]

/-- Once its yes was accepted, a replica does not refuse. -/
theorem not_refused_of_accepted
    (accepted : YesAccepted ((start setup).history moves))
    (isKnown : look ∈ (start setup).history moves) (cause : String) :
    .opening (.vote (some cause)) ∉ look.duties := by
  intro refuses
  obtain ⟨accepting, isAlso, accepts⟩ := accepted
  obtain ⟨letter, attempted, isYes⟩ := attempted_of_result ran isAlso
    (Look.trigger_of_acceptsYes accepts)
  obtain ⟨leaving, leavingKnown, isLeft⟩ := left_of_attempted ran attempted
  rw [isYes] at isLeft
  have same := eq_of_countP_le_one (votes_of_looks role ran)
    (List.mem_flatMap.2 ⟨look, isKnown, refuses⟩) rfl
    (List.mem_flatMap.2 ⟨leaving, leavingKnown, isLeft⟩) rfl
  simp at same

end Replica

/-- The first vote that a replica numbers is its ballot. -/
theorem ballot_of_compose {party after : Party} {home : PeerId}
    {refusal : Option String} {letter : Letter}
    (role : party.setup.role = .replica home)
    (first : party.numbering = .start)
    (composed : compose party (.opening (.vote refusal)) =
      (after, some letter)) : letter = party.setup.ballot home refusal := by
  simp only [compose, Party.compose, Party.castVote, role, first] at composed
  cases composed
  rfl

section Replica

variable {home : PeerId} (role : setup.role = .replica home)
  (ran : (start setup).run? moves = some last)

include role ran

theorem attempts_of_run :
    last.attempts = [] ∧ last.party.numbering = .start ∨
      ∃ refusal, last.attempts = [setup.ballot home refusal] := by
  have notPrimary : setup.role ≠ .primary := by simp [role]
  refine run_induction_on_moves (motive := fun _ session =>
    session.attempts = [] ∧ session.party.numbering = .start ∨
      ∃ refusal, session.attempts = [setup.ballot home refusal])
    (.inl ⟨rfl, rfl⟩) ?_ ran
  intro earlier session move next ranEarlier known moved
  have ranNext : (start setup).run? (earlier ++ [move]) = some next := by
    rw [run?_concat, ranEarlier]
    exact moved
  have looked {trigger : Trigger} (taken : next.attempts = session.attempts ∧
      next.party = (session.party.look trigger).1) :
      next.attempts = [] ∧ next.party.numbering = .start ∨
        ∃ refusal, next.attempts = [setup.ballot home refusal] := by
    rw [taken.1, taken.2,
      (Party.advancesOn_look session.party trigger).numbering]
    exact known
  cases step_of_move? moved with
  | launches command => exact looked (by rw [launch_eq]; exact ⟨rfl, rfl⟩)
  | hears | waits | learns => exact looked ⟨rfl, rfl⟩
  | closes | reports | watches | wakes | answers | abandons => exact known
  | begins index duty rest outcome party letter turn composed =>
      have atMostOne := attempts_length_le_one notPrimary ranNext
      have isVote := isVote_of_attempted notPrimary ranNext
        (List.mem_append_right _ (List.mem_singleton_self letter))
      rw [(compose_letter composed).1] at isVote
      rcases known with ⟨notYet, first⟩ | ⟨refusal, already⟩
      · unfold Duty.isVote at isVote
        split at isVote
        · rename_i refusal
          have sameSetup : session.party.setup = setup := setup_of_run ranEarlier
          have isBallot :=
            ballot_of_compose (sameSetup.symm ▸ role) first composed
          rw [sameSetup] at isBallot
          exact .inr ⟨refusal, by simp [notYet, isBallot]⟩
        · simp at isVote
      · simp [already] at atMostOne

/-- Whatever overlaps on a replica with the sending of its vote, and however
that ends: it attempts one vote at most, to its primary and with the first
number, and none if it is told to abort before it is asked to vote.  A notice of
the abort that finds it undecided aborts it for good.  The cause that it reports
is the first that came, and the report is never changed.  It is prepared only
if its yes was accepted, and committed only if it heard of the commit after
that, so never if it refused or its vote was not delivered. -/
theorem replica_keeps_to_first_cause :
    (last.attempts = [] ∨
      ∃ refusal, last.attempts = [setup.ballot home refusal]) ∧
    (∀ known look rest,
      (start setup).history moves = known ++ look :: rest →
      (∀ earlier ∈ known, earlier.trigger.activates = false) →
      look.notice? = some .abort → last.attempts = []) ∧
    (∀ look ∈ (start setup).history moves, look.notice? = some .abort →
      ¬ look.party.tally.isDecided →
      look.tally.phase = .aborted ∧ last.party.tally.phase = .aborted) ∧
    last.party.tally.abortReport.map (·.cause) =
      firstAbortCause? ((start setup).history moves) ∧
    (∀ report, last.party.tally.abortReport = some report →
      ∀ more later, last.run? more = some later →
        later.party.tally.abortReport = some report) ∧
    (last.party.tally.phase = .prepared →
      YesAccepted ((start setup).history moves)) ∧
    (last.party.tally.phase = .committed →
      CommitHeardAfter ((start setup).history moves)) ∧
    ∀ look ∈ (start setup).history moves,
      ((∃ cause, .opening (.vote (some cause)) ∈ look.duties) ∨
        ∃ refusal error, look.trigger = .result (.vote refusal) (.error error)) →
      last.party.tally.phase ≠ .committed := by
  have notPrimary : setup.role ≠ .primary := by simp [role]
  have stages := stages_of_run notPrimary ran
  refine ⟨(attempts_of_run role ran).imp_left (·.1), ?_, ?_,
    cause_of_run notPrimary ran, ?_, stages.1, stages.2, ?_⟩
  · exact fun known look rest split notAsked heard =>
      attempts_eq_nil_of_early_abort notPrimary ran split notAsked heard
  · intro look isKnown heard undecided
    have aborted := look.aborted_of_abortCause
      ((setup_of_look ran isKnown).symm ▸ notPrimary) undecided
      (look.abortCause_of_notice heard)
    obtain ⟨later, next, ranLater, left⟩ := resumed_of_look ran isKnown
    rw [← left] at aborted
    have same := sameRecord_of_run ranLater (Tally.isDecided_iff.2 (.inr aborted))
    exact ⟨left ▸ aborted, same.phase.trans aborted⟩
  · intro report reported more later ranMore
    have aborted : last.party.tally.phase = .aborted :=
      (sound_of_run ran).reported.1 (by simp [reported])
    have same := sameRecord_of_run ranMore (Tally.isDecided_iff.2 (.inr aborted))
    exact same.abortReport.trans reported
  · intro look isKnown failed committed
    have accepted := (stages.2 committed).accepted
    rcases failed with ⟨cause, refuses⟩ | ⟨refusal, error, ends⟩
    · exact not_refused_of_accepted notPrimary ran accepted isKnown cause refuses
    · have accepts := acceptsYes_of_endsVote notPrimary ran accepted isKnown
        (Look.endsVote_iff.2 ⟨refusal, _, ends⟩)
      simp [Look.acceptsYes, ends] at accepts

end Replica

/-- A replica is told to abort while its yes is on the way, and then learns that
the yes was accepted. -/
def abortOvertakesMoves : List Move :=
  [.start (.enroll none),
    .begin 0,
    .start (.handle (.noticeReceived .abort ⟨"doc"⟩) .disconnected),
    .finish 0 (.ok ()),
    .start (.handle (.noticeReceived .commit ⟨"doc"⟩) .disconnected)]

theorem abort_overtakes_accepted_yes :
    ∃ session,
      (start (.replica ⟨"doc"⟩ ⟨"near"⟩ ⟨"home"⟩)).run? abortOvertakesMoves =
        some session ∧
      (Setup.replica ⟨"doc"⟩ ⟨"near"⟩ ⟨"home"⟩).role = .replica ⟨"home"⟩ ∧
      YesAccepted ((start (.replica ⟨"doc"⟩ ⟨"near"⟩ ⟨"home"⟩)).history
        abortOvertakesMoves) ∧
      session.party.tally.abortReport.map (·.cause) = some .toldByPrimary ∧
      session.attempts =
        [(Setup.replica ⟨"doc"⟩ ⟨"near"⟩ ⟨"home"⟩).ballot ⟨"home"⟩ none] := by
  have run : ((start (.replica ⟨"doc"⟩ ⟨"near"⟩ ⟨"home"⟩)).run?
      abortOvertakesMoves).map (·.attempts.map Letter.duty) =
        some [.opening (.vote none)] := by rfl
  have first : firstAbortCause? ((start
      (.replica ⟨"doc"⟩ ⟨"near"⟩ ⟨"home"⟩)).history abortOvertakesMoves) =
        some .toldByPrimary := by rfl
  obtain ⟨session, ran, votes⟩ := Option.map_eq_some_iff.1 run
  have role : (Setup.replica ⟨"doc"⟩ ⟨"near"⟩ ⟨"home"⟩).role =
      .replica ⟨"home"⟩ := rfl
  obtain ⟨ballot, -, -, cause, -⟩ := replica_keeps_to_first_cause role ran
  refine ⟨session, ran, role, by decide, cause.trans first, ?_⟩
  rcases ballot with nothing | ⟨refusal, ballot⟩
  · simp [nothing] at votes
  · obtain rfl : refusal = none := by
      simpa [ballot, Letter.duty, Setup.ballot] using votes
    exact ballot

end Session

end CreationCommit
