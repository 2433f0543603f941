import CreationCommit.Proofs.Finalization

/-!
# What a replica comes to

A replica votes once.  If its yes was accepted and it hears of no abort, it is
active until it learns of that, then prepared, and committed once it hears of
the commit after that.  A notice of the commit that it hears earlier, while its
yes is still being sent, has no effect.
-/

namespace CreationCommit

namespace Look

/-- Whether the look learns that the yes of the replica was accepted. -/
def acceptsYes (look : Look) : Bool :=
  match look.trigger with
  | .result (.vote none) (.ok _) => true
  | _ => false

/-- Whether the look learns how the sending of a vote ended. -/
def endsVote (look : Look) : Bool :=
  match look.trigger with
  | .result (.vote _) _ => true
  | _ => false

/-- The decision that the look hears about the object of the party. -/
def notice? (look : Look) : Option Decision :=
  match look.trigger with
  | .command (.handle (.noticeReceived decision objectId) _) =>
      if objectId = look.party.setup.objectId then some decision else none
  | _ => none

end Look

/-- Whether the yes of the replica was found accepted. -/
def YesAccepted (history : List Look) : Prop :=
  ∃ look ∈ history, look.acceptsYes = true

instance (history : List Look) : Decidable (YesAccepted history) :=
  inferInstanceAs (Decidable (∃ look ∈ history, _))

/-- Whether the commit was heard after the yes was found accepted. -/
def CommitHeardAfter (history : List Look) : Prop :=
  ∃ known rest, history = known ++ rest ∧ YesAccepted known ∧
    ∃ look ∈ rest, look.notice? = some .commit

section Concat

variable {history : List Look} {look : Look}

theorem yesAccepted_concat :
    YesAccepted (history ++ [look]) ↔
      YesAccepted history ∨ look.acceptsYes = true := by
  simp [YesAccepted, or_and_right, exists_or]

theorem CommitHeardAfter.accepted (heard : CommitHeardAfter history) :
    YesAccepted history := by
  obtain ⟨known, rest, rfl, ⟨look, isKnown, accepts⟩, -⟩ := heard
  exact ⟨look, List.mem_append_left _ isKnown, accepts⟩

theorem commitHeardAfter_concat :
    CommitHeardAfter (history ++ [look]) ↔ CommitHeardAfter history ∨
      YesAccepted history ∧ look.notice? = some .commit := by
  constructor
  · rintro ⟨known, rest, split, accepted, notice, isLater, isCommit⟩
    rcases List.eq_nil_or_concat' rest with rfl | ⟨earlier, last, rfl⟩
    · simp at isLater
    · rw [← List.append_assoc] at split
      obtain ⟨rfl, same⟩ := List.append_inj' split rfl
      obtain rfl := List.singleton_inj.1 same
      rcases List.mem_append.1 isLater with inEarlier | isLast
      · exact .inl ⟨known, earlier, rfl, accepted, notice, inEarlier, isCommit⟩
      · obtain rfl := List.mem_singleton.1 isLast
        obtain ⟨accepting, isKnown, accepts⟩ := accepted
        exact .inr ⟨⟨accepting, List.mem_append_left _ isKnown, accepts⟩,
          isCommit⟩
  · rintro (⟨known, rest, rfl, accepted, notice, isLater, isCommit⟩ |
      ⟨accepted, isCommit⟩)
    · exact ⟨known, rest ++ [look], by simp, accepted, notice,
        List.mem_append_left _ isLater, isCommit⟩
    · exact ⟨history, [look], rfl, accepted, look, by simp, isCommit⟩

end Concat

/-- A look that hears of no abort and of no failed vote. -/
structure Look.Calm (look : Look) : Prop where
  noAbort : look.notice? ≠ some .abort
  accepted : look.endsVote = true → look.acceptsYes = true

/-- The phase that a replica is in if its yes was accepted, if at all. -/
structure Tally.Stage (tally : Tally) (history : List Look) : Prop where
  active : ¬ YesAccepted history → tally.phase = .active
  prepared : YesAccepted history → ¬ CommitHeardAfter history →
    tally.phase = .prepared
  committed : CommitHeardAfter history → tally.phase = .committed

namespace Look

variable {look : Look}

/-- A vote is one of the openings whose results are heard. -/
theorem endsVote_eq (look : Look) :
    look.endsVote =
      (look.answered?.map (Duty.isVote ∘ Duty.opening)).getD false := by
  unfold endsVote answered?
  cases look.trigger with
  | command | clock => rfl
  | result opening result => cases opening <;> rfl

theorem trigger_of_acceptsYes (accepts : look.acceptsYes = true) :
    look.trigger = .result (.vote none) (.ok ()) := by
  unfold acceptsYes at accepts
  split at accepts
  · assumption
  · simp at accepts

theorem trigger_of_notice {decision : Decision}
    (heard : look.notice? = some decision) :
    ∃ view, look.trigger = .command
      (.handle (.noticeReceived decision look.party.setup.objectId) view) := by
  unfold notice? at heard
  split at heard
  · rename_i told objectId view arrived
    split at heard
    · rename_i about
      exact ⟨view, by rw [arrived, about, Option.some.inj heard]⟩
    · simp at heard
  · simp at heard

/-- Nothing aborts a replica in a calm look. -/
theorem Calm.not_causes_abort (calm : look.Calm) (cause : AbortCause) :
    ¬ look.trigger.Causes look.party.setup (.abort cause) := by
  obtain ⟨noAbort, accepted⟩ := calm
  intro caused
  cases cause with
  | refusedLocally cause =>
      have ends : look.trigger = .result (.vote (some cause)) (.ok ()) := caused
      simp [endsVote, acceptsYes, ends] at accepted
  | voteUndelivered error =>
      obtain ⟨refusal, ends⟩ := caused
      cases refusal <;> simp [endsVote, acceptsYes, ends] at accepted
  | toldByPrimary =>
      obtain ⟨-, view, told⟩ := caused
      simp [notice?, told] at noAbort
  | tooManyFailures | timedOut => exact caused

end Look

namespace Tally.Stage

variable {history : List Look} {look : Look}

/-- What the history tells of the phase is one of three things. -/
theorem cases (stage : look.party.tally.Stage history) :
    ¬ YesAccepted history ∧ look.phase = .active ∨
      YesAccepted history ∧ ¬ CommitHeardAfter history ∧
        look.phase = .prepared ∨
      CommitHeardAfter history ∧ look.phase = .committed := by
  by_cases heard : CommitHeardAfter history
  · exact .inr (.inr ⟨heard, stage.committed heard⟩)
  · by_cases accepted : YesAccepted history
    · exact .inr (.inl ⟨accepted, heard, stage.prepared accepted heard⟩)
    · exact .inl ⟨accepted, stage.active accepted⟩

/-- A look at a replica that brings nothing new to the stage. -/
theorem of_same (stage : look.party.tally.Stage history)
    (phase : look.tally.phase = look.party.tally.phase)
    (sameAccepted : look.acceptsYes = true → YesAccepted history)
    (sameHeard : YesAccepted history → look.notice? = some .commit →
      CommitHeardAfter history) :
    look.tally.Stage (history ++ [look]) := by
  have accepted : YesAccepted (history ++ [look]) ↔ YesAccepted history := by
    rw [yesAccepted_concat, or_iff_left_iff_imp]
    exact sameAccepted
  have heard :
      CommitHeardAfter (history ++ [look]) ↔ CommitHeardAfter history := by
    rw [commitHeardAfter_concat, or_iff_left_iff_imp]
    exact fun new => sameHeard new.1 new.2
  constructor
  · rw [accepted, phase]
    exact stage.active
  · rw [accepted, heard, phase]
    exact stage.prepared
  · rw [heard, phase]
    exact stage.committed

/-- The look at an active replica that learns that the yes was accepted. -/
theorem of_prepares (stage : look.party.tally.Stage history)
    (active : look.phase = .active) (accepts : look.acceptsYes = true)
    (prepared : look.tally.phase = .prepared) :
    look.tally.Stage (history ++ [look]) := by
  have notBefore : ¬ YesAccepted history := by
    intro already
    rcases stage.cases with ⟨notYet, -⟩ | ⟨-, -, phase⟩ | ⟨-, phase⟩
    · exact notYet already
    · simp [active] at phase
    · simp [active] at phase
  refine ⟨fun notYet => absurd (yesAccepted_concat.2 (.inr accepts)) notYet,
    fun _ _ => prepared, fun heard => ?_⟩
  rcases commitHeardAfter_concat.1 heard with earlier | ⟨already, -⟩
  · exact absurd earlier.accepted notBefore
  · exact absurd already notBefore

/-- The look at a prepared replica that hears of the commit. -/
theorem of_commits (stage : look.party.tally.Stage history)
    (prepared : look.phase = .prepared)
    (isCommit : look.notice? = some .commit)
    (committed : look.tally.phase = .committed) :
    look.tally.Stage (history ++ [look]) := by
  have accepted : YesAccepted history := by
    rcases stage.cases with ⟨-, phase⟩ | ⟨accepted, -⟩ | ⟨-, phase⟩
    · simp [prepared] at phase
    · exact accepted
    · simp [prepared] at phase
  have heard : CommitHeardAfter (history ++ [look]) :=
    commitHeardAfter_concat.2 (.inr ⟨accepted, isCommit⟩)
  exact ⟨fun notYet => absurd heard.accepted notYet,
    fun _ notHeard => absurd heard notHeard, fun _ => committed⟩

/-- A calm look at a replica leads to the stage that the history tells then. -/
theorem after_look (stage : look.party.tally.Stage history)
    (role : look.party.setup.role ≠ .primary) (calm : look.Calm) :
    look.tally.Stage (history ++ [look]) := by
  have notVoting : look.party.tally.phase ≠ .voting := by
    intro voting
    rcases stage.cases with ⟨-, phase⟩ | ⟨-, -, phase⟩ | ⟨-, phase⟩ <;>
      simp [Look.phase, voting] at phase
  have change := Party.replicaChange_look role notVoting look.trigger
  change ReplicaChange _ _ _ look.tally at change
  cases change with
  | stays phase =>
      refine stage.of_same phase ?_ ?_
      · -- an active replica would have been prepared
        intro accepts
        by_contra notAccepted
        have left : look.tally.phase ≠ .active := by
          rw [Look.tally, Look.trigger_of_acceptsYes accepts]
          exact Party.not_active_of_vote_result none (.ok ())
        exact left (phase.trans (stage.active notAccepted))
      · -- and a prepared one would have committed
        intro accepted isCommit
        by_contra notHeard
        obtain ⟨view, told⟩ := Look.trigger_of_notice isCommit
        have prepared := stage.prepared accepted notHeard
        have left := Party.committed_of_commit_notice view role prepared
        rw [← told] at left
        simp [Look.tally, left, prepared] at phase
  | prepares active prepared accepted =>
      exact stage.of_prepares active (by simp [Look.acceptsYes, accepted])
        prepared
  | commits prepared committed told =>
      obtain ⟨-, view, arrived⟩ := told
      exact stage.of_commits prepared (by simp [Look.notice?, arrived]) committed
  | aborts report undecided aborted reported caused =>
      exact absurd caused (calm.not_causes_abort report.cause)

end Tally.Stage

namespace Session

variable {setup : Setup} {moves : List Move} {last : Session}

/-- The looks of a replica leave one vote at most. -/
theorem votes_of_looks (role : setup.role ≠ .primary)
    (ran : (start setup).run? moves = some last) :
    (((start setup).history moves).flatMap Look.duties).countP Duty.isVote ≤
      1 := by
  have kept := history_induction (motive := fun history tally =>
    tally.acknowledged = [] ∧
      (history.flatMap Look.duties).countP Duty.isVote ≤ 1 ∧
      (0 < (history.flatMap Look.duties).countP Duty.isVote →
        tally.activated = true)) ?_ ?_ ran
  · exact kept.2.1
  · simp [Tally.start]
  · rintro known look sameSetup ⟨noneAcknowledged, atMostOne, activated⟩
    have role := sameSetup ▸ role
    obtain ⟨oneVote, activates⟩ :=
      Party.votes_look role noneAcknowledged look.trigger
    have advances := Party.advancesOn_look look.party look.trigger
    rw [List.flatMap_append, List.flatMap_singleton, List.countP_append]
    change List.countP Duty.isVote look.duties ≤ 1 at oneVote
    change 0 < List.countP Duty.isVote look.duties → _ at activates
    refine ⟨Party.acknowledged_look role noneAcknowledged look.trigger, ?_, ?_⟩
    · by_contra twoVotes
      have already := activated (by omega)
      have notYet := (activates (by omega)).1
      simp [already] at notYet
    · intro someVote
      by_cases earlier : 0 < (known.flatMap Look.duties).countP Duty.isVote
      · exact advances.activated (activated earlier)
      · exact (activates (by omega)).2

/-- A replica hears of one vote at most how its sending ended. -/
theorem endsVote_of_run (role : setup.role ≠ .primary)
    (ran : (start setup).run? moves = some last) :
    ((start setup).history moves).countP Look.endsVote ≤ 1 := by
  have isResult : ((start setup).history moves).countP Look.endsVote =
      ((answered ((start setup).history moves)).map Duty.opening).countP
        Duty.isVote := by
    rw [answered, List.countP_map, List.countP_filterMap]
    congr 1
    funext look
    exact look.endsVote_eq
  have attempted := (results_subperm_of_run ran).countP_le Duty.isVote
  have left := (deeds_subperm_of_run ran).countP_le Duty.isVote
  have atMostOne := votes_of_looks role ran
  simp only [List.countP_append, deeds] at attempted left
  omega

/-- Once the yes of a replica was found accepted, that is the only result of a
vote that it hears of. -/
theorem acceptsYes_of_endsVote (role : setup.role ≠ .primary)
    (ran : (start setup).run? moves = some last)
    (accepted : YesAccepted ((start setup).history moves)) {look : Look}
    (isKnown : look ∈ (start setup).history moves)
    (ends : look.endsVote = true) : look.acceptsYes = true := by
  obtain ⟨accepting, isAlso, accepts⟩ := accepted
  have alsoEnds : accepting.endsVote = true := by
    simp [Look.endsVote, Look.trigger_of_acceptsYes accepts]
  rw [eq_of_countP_le_one (endsVote_of_run role ran) isKnown ends isAlso alsoEnds]
  exact accepts

/-- So it is calm if it hears of no abort. -/
theorem calm_of_run (role : setup.role ≠ .primary)
    (ran : (start setup).run? moves = some last)
    (accepted : YesAccepted ((start setup).history moves))
    (noAbort : ∀ look ∈ (start setup).history moves,
      look.notice? ≠ some .abort) :
    ∀ look ∈ (start setup).history moves, look.Calm :=
  fun look isKnown => ⟨noAbort look isKnown,
    acceptsYes_of_endsVote role ran accepted isKnown⟩

theorem stage_of_run (role : setup.role ≠ .primary)
    (ran : (start setup).run? moves = some last)
    (calm : ∀ look ∈ (start setup).history moves, look.Calm) :
    last.party.tally.Stage ((start setup).history moves) := by
  revert calm
  refine history_induction (motive := fun history tally =>
    (∀ look ∈ history, look.Calm) → tally.Stage history) ?_ ?_ ran
  · intro _
    exact ⟨fun _ => rfl, by simp [YesAccepted],
      fun heard => by simpa [YesAccepted] using heard.accepted⟩
  · intro known look sameSetup before calm
    have stage := before fun earlier isKnown =>
      calm earlier (List.mem_append_left _ isKnown)
    exact stage.after_look (sameSetup ▸ role) (calm look (by simp))

/-- A replica whose yes was accepted, and that hears of no abort, is in the end
committed, and told its local object so, if it hears of the commit after it
learnt that the yes was accepted.  Otherwise it is left prepared: a notice that
comes while the yes is still being sent is lost. -/
theorem commits_iff_heard_after_acceptance (role : setup.role ≠ .primary)
    (ran : (start setup).run? moves = some last)
    (notAbandoned : ∀ index, .abandon index ∉ moves)
    (idle : last.isIdle = true)
    (accepted : YesAccepted ((start setup).history moves))
    (noAbort : ∀ look ∈ (start setup).history moves,
      look.notice? ≠ some .abort) :
    let history := (start setup).history moves
    (CommitHeardAfter history →
      last.party.tally.phase = .committed ∧ last.callbacks = [.commit]) ∧
    (¬ CommitHeardAfter history →
      last.party.tally.phase = .prepared ∧ last.callbacks = []) := by
  intro history
  have stage := stage_of_run role ran (calm_of_run role ran accepted noAbort)
  refine ⟨fun heard => ?_, fun notHeard => ?_⟩
  · have phase : last.party.tally.phase = Decision.commit.phase :=
      stage.committed heard
    have finalized := sealed_of_run role ran (Tally.isDecided_of_phase phase)
    exact ⟨phase,
      callbacks_of_finalized ran notAbandoned idle finalized phase⟩
  · have prepared := stage.prepared accepted notHeard
    refine ⟨prepared, List.eq_nil_of_length_eq_zero ?_⟩
    have commits := count_callbacks_le ran .commit
    have aborts := count_callbacks_le ran .abort
    simp only [Tally.finalReports, prepared, Decision.phase, reduceCtorEq,
      and_false, if_false] at commits aborts
    rw [length_callbacks]
    omega

/-- The yes of a replica begins to be sent. -/
def yesUnderwayMoves : List Move :=
  [.start (.handle .activated .disconnected), .begin 0]

/-- The yes is accepted, and then the commit is heard. -/
def commitInTimeMoves : List Move :=
  yesUnderwayMoves ++
    [.finish 0 (.ok ()),
      .start (.handle (.noticeReceived .commit ⟨"doc"⟩) .disconnected),
      .proceed 1 0]

theorem commits_of_commit_in_time :
    ∃ session, (start (.replica ⟨"doc"⟩ ⟨"away"⟩ ⟨"home"⟩)).run?
        commitInTimeMoves = some session ∧
      (Setup.replica ⟨"doc"⟩ ⟨"away"⟩ ⟨"home"⟩).role ≠ .primary ∧
      (∀ index, .abandon index ∉ commitInTimeMoves) ∧
      session.isIdle = true ∧
      session.party.tally.phase = .committed ∧ session.callbacks = [.commit] := by
  have run : ((start (.replica ⟨"doc"⟩ ⟨"away"⟩ ⟨"home"⟩)).run?
      commitInTimeMoves).map (·.isIdle) = some true := by rfl
  obtain ⟨session, ran, idle⟩ := Option.map_eq_some_iff.1 run
  have role : (Setup.replica ⟨"doc"⟩ ⟨"away"⟩ ⟨"home"⟩).role ≠ .primary := by
    decide
  have notAbandoned (index : Nat) : .abandon index ∉ commitInTimeMoves := by
    simp [commitInTimeMoves, yesUnderwayMoves]
  have outcome := commits_iff_heard_after_acceptance role ran notAbandoned idle
    (by decide) (by decide)
  have heard : CommitHeardAfter
      ((start (.replica ⟨"doc"⟩ ⟨"away"⟩ ⟨"home"⟩)).history commitInTimeMoves) :=
    ⟨_, _, (List.take_append_drop 2 _).symm, by decide, by decide⟩
  exact ⟨session, ran, role, notAbandoned, idle, outcome.1 heard⟩

/-- The commit is heard before the sending of the yes ends. -/
def commitTooEarlyMoves : List Move :=
  [.start (.handle (.noticeReceived .commit ⟨"doc"⟩) .disconnected),
    .finish 0 (.ok ())]

/-- A replica whose yes was accepted, and that heard of the commit after it had
begun to send that yes and of no abort, may be left prepared. -/
theorem commit_lost_while_yes_underway :
    ∃ (setup : Setup) (earlier later : List Move) (midway last : Session),
      setup.role ≠ .primary ∧ (start setup).run? earlier = some midway ∧
      (∃ letter ∈ midway.attempts, letter.duty = .opening (.vote none)) ∧
      (start setup).run? (earlier ++ later) = some last ∧
      (∃ view, .start (.handle (.noticeReceived .commit setup.objectId) view) ∈
        later) ∧
      (∀ index, .abandon index ∉ earlier ++ later) ∧ last.isIdle = true ∧
      YesAccepted ((start setup).history (earlier ++ later)) ∧
      (∀ look ∈ (start setup).history (earlier ++ later),
        look.notice? ≠ some .abort) ∧
      last.party.tally.phase = .prepared ∧ last.callbacks = [] := by
  have begun : ((start (.replica ⟨"doc"⟩ ⟨"away"⟩ ⟨"home"⟩)).run?
      yesUnderwayMoves).map (·.attempts.map Letter.duty) =
        some [.opening (.vote none)] := by rfl
  have run : ((start (.replica ⟨"doc"⟩ ⟨"away"⟩ ⟨"home"⟩)).run?
      (yesUnderwayMoves ++ commitTooEarlyMoves)).map (fun session =>
        (session.isIdle, session.party.tally.phase, session.callbacks)) =
        some (true, .prepared, []) := by rfl
  obtain ⟨midway, ranEarlier, attempted⟩ := Option.map_eq_some_iff.1 begun
  obtain ⟨last, ran, observed⟩ := Option.map_eq_some_iff.1 run
  simp only [Prod.mk.injEq] at observed
  obtain ⟨idle, prepared, silent⟩ := observed
  refine ⟨.replica ⟨"doc"⟩ ⟨"away"⟩ ⟨"home"⟩, yesUnderwayMoves,
    commitTooEarlyMoves, midway, last, by decide, ranEarlier, ?_, ran,
    ⟨.disconnected, by simp [commitTooEarlyMoves, Setup.replica]⟩,
    by simp [yesUnderwayMoves, commitTooEarlyMoves], idle, by decide, by decide,
    prepared, silent⟩
  exact List.mem_map.1 (attempted ▸ List.mem_singleton_self _)

end Session

end CreationCommit
