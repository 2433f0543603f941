import CreationCommit.Proofs.Finalization
import CreationCommit.Proofs.VoteHistory

/-!
# Who is told the decision

The look that finalizes a decision leaves a notice to every peer of its
audience.  After the decision every yes that is heard leaves one to its voter,
unless the abort was announced to that voter.  No other look leaves a notice,
so once every call has returned these are the notices that were attempted.
-/

namespace CreationCommit

/-- The peer that a duty tells of the decision. -/
def Duty.notified? (decision : Decision) : Duty → Option PeerId
  | .closing (.notify told peer) => if told = decision then some peer else none
  | _ => none

namespace Tally

/-- The peers that are not told again when they say yes after the decision. -/
def reached (tally : Tally) : Decision → List PeerId
  | .commit => []
  | .abort => tally.abortAudience

/-- The audience of a decision, once it is finalized. -/
def announced (tally : Tally) (decision : Decision) : List PeerId :=
  if tally.finalized = true ∧ tally.phase = decision.phase then
    tally.audience decision
  else
    []

theorem SameRecord.reached {first second : Tally}
    (same : first.SameRecord second) (decision : Decision) :
    second.reached decision = first.reached decision := by
  cases decision with
  | commit => rfl
  | abort => exact same.abortAudience

end Tally

/-- The peers whose yes was heard in a phase, in the order of the looks. -/
def yeses (phase : Phase) (history : List Look) : List PeerId :=
  (history.filter (·.phase = phase)).filterMap Look.yes?

/-- The peers that said yes after the decision and are to be told for that. -/
def lateVoters (tally : Tally) (decision : Decision) (history : List Look) :
    List PeerId :=
  (yeses decision.phase history).filter (· ∉ tally.reached decision)

namespace Look

/-- The peers that the look tells of a decision. -/
def notified (look : Look) (decision : Decision) : List PeerId :=
  look.duties.filterMap (Duty.notified? decision)

/-- The voter of the look, if its yes comes after the decision and the voter is
to be told for that. -/
def lateYes? (look : Look) (decision : Decision) : Option PeerId :=
  if look.phase = decision.phase then
    look.yes?.filter (· ∉ look.party.tally.reached decision)
  else
    none

variable {look : Look} {decision : Decision} {peer : PeerId}

/-- A yes that is heard is a vote about the object that brings no refusal. -/
theorem vote_of_yes (isYes : look.yes? = some peer) :
    ∃ vote view, look.trigger = .command (.handle (.voteReceived vote) view) ∧
      vote.objectId = look.party.setup.objectId ∧ vote.refusal = none ∧
      vote.voter = peer := by
  unfold yes? at isYes
  split at isYes
  · rename_i vote view arrived
    split at isYes
    · rename_i counts
      exact ⟨vote, view, arrived, counts.1, counts.2, Option.some.inj isYes⟩
    · simp at isYes
  · simp at isYes

theorem yes_of_vote {vote : Vote} {view : GroupView}
    (arrived : look.trigger = .command (.handle (.voteReceived vote) view))
    (about : vote.objectId = look.party.setup.objectId)
    (yes : vote.refusal = none) : look.yes? = some vote.voter := by
  simp [yes?, arrived, about, yes]

/-- A vote about another object leaves nothing to do. -/
theorem duties_of_stray_vote {vote : Vote} {view : GroupView}
    (arrived : look.trigger = .command (.handle (.voteReceived vote) view))
    (stray : vote.objectId ≠ look.party.setup.objectId) : look.duties = [] := by
  simp [duties, Party.look, arrived, Party.handle, Party.closed, Party.hearVote,
    stray]

/-- A late yes leaves the tally as it is and one notice to its voter. -/
theorem duties_of_lateYes (role : look.party.setup.role = .primary)
    (tidy : look.party.tally.Tidy) (late : look.lateYes? decision = some peer) :
    look.duties = [.closing (.notify decision peer)] ∧
      look.tally = look.party.tally := by
  unfold lateYes? at late
  split at late
  · rename_i decided
    obtain ⟨isYes, unreached⟩ := Option.filter_eq_some_iff.1 late
    obtain ⟨vote, view, arrived, about, yes, rfl⟩ := vote_of_yes isYes
    have primary := Party.isPrimary_iff.2 role
    have phase : look.party.tally.phase = decision.phase := decided
    have concluded := Party.conclude_of_tidy tidy
    cases decision with
    | commit =>
        simp [duties, tally, Party.look, arrived, Party.handle, Party.closed,
          Party.hearVote, primary, about, Party.weigh, phase, Decision.phase,
          yes, concluded, Party.announce]
    | abort =>
        have outside : vote.voter ∉ look.party.tally.abortAudience :=
          of_decide_eq_true unreached
        simp [duties, tally, Party.look, arrived, Party.handle, Party.closed,
          Party.hearVote, primary, about, Party.weigh, phase, Decision.phase,
          yes, outside, concluded, Party.announce]
  · simp at late

/-- Nothing but a late yes leaves a lone notice. -/
theorem lateYes_of_duties (role : look.party.setup.role = .primary)
    (sound : look.party.tally.Sound) (tidy : look.party.tally.Tidy)
    (lone : look.duties = [.closing (.notify decision peer)]) :
    look.lateYes? decision = some peer := by
  have consequence := Party.consequence_look role sound tidy look.trigger
  change (look.party.look look.trigger).2 = _ at lone
  have about {vote : Vote} {view : GroupView}
      (arrived : look.trigger = .command (.handle (.voteReceived vote) view)) :
      vote.objectId = look.party.setup.objectId := by
    by_contra stray
    simp [show (look.party.look look.trigger).2 = [] from
      duties_of_stray_vote arrived stray] at lone
  generalize (look.party.look look.trigger).2 = duties at consequence lone
  cases consequence with
  | opens openings => cases openings <;> simp at lone
  | aborts =>
      have reports := congrArg (.closing (.report .abort) ∈ ·) lone
      simp [Party.broadcast] at reports
  | commits =>
      have reports := congrArg (.closing (.report .commit) ∈ ·) lone
      simp [Party.broadcast] at reports
  | tellsCommit vote view arrived yes committed =>
      obtain ⟨rfl, rfl⟩ : Decision.commit = decision ∧ vote.voter = peer := by
        simpa using lone
      have isYes := yes_of_vote arrived (about arrived) yes
      have phase : look.phase = Decision.commit.phase := committed
      simp [lateYes?, phase, isYes, Tally.reached]
  | tellsAbort vote view arrived yes aborted unreached =>
      obtain ⟨rfl, rfl⟩ : Decision.abort = decision ∧ vote.voter = peer := by
        simpa using lone
      have isYes := yes_of_vote arrived (about arrived) yes
      have phase : look.phase = Decision.abort.phase := aborted
      simp [lateYes?, phase, isYes, Tally.reached, unreached]

end Look

namespace Party.Consequence

variable {before after : Tally} {trigger : Trigger} {duties : List Duty}
  {decision : Decision}

theorem notified_broadcast (told decision : Decision) (peers : List PeerId) :
    ((broadcast told peers).map Duty.closing).filterMap
        (Duty.notified? decision) = if told = decision then peers else [] := by
  by_cases same : told = decision <;>
    simp [broadcast, List.filterMap_map, Function.comp_def, Duty.notified?,
      same]

/-- The notices of a look are those of the finalization, unless the look leaves
a lone one. -/
theorem notified (consequence : Consequence before trigger after duties)
    (tidy : before.Tidy)
    (notLone : ∀ peer, duties ≠ [.closing (.notify decision peer)]) :
    duties.filterMap (Duty.notified? decision) =
      if before.finalized then [] else after.announced decision := by
  cases consequence with
  | opens openings samePhase sameFinalized =>
      have none : (openings.map Duty.opening).filterMap
          (Duty.notified? decision) = [] := by
        simp [List.filterMap_map, Function.comp_def, Duty.notified?]
      rw [none]
      split <;> simp_all [Tally.announced]
  | aborts undecided aborted finalized =>
      rw [notified_broadcast, tidy.not_finalized undecided]
      cases decision <;>
        simp [Tally.announced, finalized, aborted, Decision.phase,
          Tally.audience]
  | commits notFinalized committed finalized =>
      rw [notified_broadcast, notFinalized]
      cases decision <;>
        simp [Tally.announced, finalized, committed, Decision.phase,
          Tally.audience]
  | tellsCommit vote view arrived yes committed same
  | tellsAbort vote view arrived yes aborted unreached same =>
      have other := notLone vote.voter
      rw [same]
      cases decision <;> simp_all [Duty.notified?, Tally.announced]

end Party.Consequence

section History

variable {look : Look} {tally : Tally} {history : List Look}
  {decision : Decision} {phase : Phase}

namespace Look

/-- The notices of a look: those of the finalization, if it is the look that
finalizes, and the one that a late yes deserves. -/
theorem notified_eq (role : look.party.setup.role = .primary)
    (sound : look.party.tally.Sound) (tidy : look.party.tally.Tidy)
    (decision : Decision) :
    look.notified decision =
      (if look.party.tally.finalized then []
        else look.tally.announced decision) ++
      (look.lateYes? decision).toList := by
  cases late : look.lateYes? decision with
  | some peer =>
      obtain ⟨left, same⟩ := duties_of_lateYes role tidy late
      rw [notified, left, same]
      split <;> simp_all [Duty.notified?, Tally.announced]
  | none =>
      have consequence := Party.consequence_look role sound tidy look.trigger
      rw [Option.toList_none, List.append_nil]
      apply consequence.notified tidy
      intro peer lone
      simp [lateYes_of_duties role sound tidy lone] at late

/-- What a look newly announces comes after what was announced before. -/
theorem announced_eq (tidy : look.party.tally.Tidy) (decision : Decision) :
    look.tally.announced decision = look.party.tally.announced decision ++
      if look.party.tally.finalized then []
      else look.tally.announced decision := by
  have advances := Party.advancesOn_look look.party look.trigger
  by_cases finalized : look.party.tally.finalized = true
  · have after : look.tally.finalized = true := advances.finalized finalized
    have same : look.party.tally.SameRecord look.tally :=
      advances.sameRecord (tidy.decided finalized)
    simp [Tally.announced, finalized, after, same.phase, same.audience]
  · simp [Tally.announced, finalized]

end Look

theorem yeses_concat :
    yeses phase (history ++ [look]) =
      yeses phase history ++
        (if look.phase = phase then look.yes? else none).toList := by
  by_cases inPhase : look.phase = phase
  · cases heard : look.yes? <;> simp [yeses, inPhase, heard]
  · simp [yeses, inPhase]

/-- The tally still records what it recorded when it was decided. -/
def Tally.Keeps (tally : Tally) (history : List Look) : Prop :=
  ∀ look ∈ history, look.party.tally.isDecided →
    look.party.tally.SameRecord tally

namespace Tally.Keeps

/-- Before a decision no yes was heard that came after it. -/
theorem yeses_eq_nil (keeps : tally.Keeps history)
    (notYet : tally.phase ≠ decision.phase) :
    yeses decision.phase history = [] := by
  refine List.filterMap_eq_nil_iff.2 fun look isLate => ?_
  obtain ⟨lookMem, inPhase⟩ := List.mem_filter.1 isLate
  have phase : look.party.tally.phase = decision.phase :=
    of_decide_eq_true inPhase
  have same := keeps look lookMem (isDecided_of_phase phase)
  exact absurd (same.phase.trans phase) notYet

theorem after_look (keeps : look.party.tally.Keeps history) :
    look.tally.Keeps (history ++ [look]) := by
  have advances := Party.advancesOn_look look.party look.trigger
  intro earlier earlierMem decided
  rcases List.mem_append.1 earlierMem with known | isLast
  · have same := keeps earlier known decided
    have stillDecided : look.party.tally.isDecided := by
      simpa [Tally.isDecided, same.phase] using decided
    exact same.trans (advances.sameRecord stillDecided)
  · obtain rfl := List.mem_singleton.1 isLast
    exact advances.sameRecord decided

theorem lateVoters_concat (keeps : look.party.tally.Keeps history) :
    lateVoters look.tally decision (history ++ [look]) =
      lateVoters look.party.tally decision history ++
        (look.lateYes? decision).toList := by
  by_cases inPhase : look.phase = decision.phase
  · have advances := Party.advancesOn_look look.party look.trigger
    have same : look.party.tally.SameRecord look.tally :=
      advances.sameRecord (isDecided_of_phase inPhase)
    rw [lateVoters, yeses_concat, same.reached, List.filter_append]
    cases heard : look.yes? <;>
      simp [lateVoters, Look.lateYes?, inPhase, heard, Option.filter]
    split <;> simp_all
  · have nobody := keeps.yeses_eq_nil inPhase
    simp [lateVoters, yeses_concat, nobody, inPhase, Look.lateYes?]

end Tally.Keeps

end History

namespace Session

variable {setup : Setup} {moves : List Move} {last : Session}

theorem keeps_of_run (ran : (start setup).run? moves = some last) :
    last.party.tally.Keeps ((start setup).history moves) :=
  history_induction (motive := fun history tally => tally.Keeps history)
    (by simp [Tally.Keeps]) (fun _ _ _ keeps => keeps.after_look) ran

/-- The looks of a run leave the notices that its tally calls for. -/
theorem notices_of_looks (role : setup.role = .primary)
    (ran : (start setup).run? moves = some last) (decision : Decision) :
    (((start setup).history moves).flatMap (Look.notified · decision)).Perm
      (last.party.tally.announced decision ++
        lateVoters last.party.tally decision ((start setup).history moves)) := by
  have counted := history_induction
    (motive := fun history tally =>
      (tally.Sound ∧ tally.Tidy) ∧ tally.Keeps history ∧
      ∀ peer, (history.flatMap (Look.notified · decision)).count peer =
        (tally.announced decision ++
          lateVoters tally decision history).count peer) ?_ ?_ ran
  · exact List.perm_iff_count.2 counted.2.2
  · refine ⟨⟨.start _, .start _⟩, by simp [Tally.Keeps], fun peer => ?_⟩
    simp [Tally.announced, Tally.start, lateVoters, yeses]
  · rintro known look sameSetup ⟨⟨sound, tidy⟩, keeps, counted⟩
    have role := sameSetup ▸ role
    refine ⟨⟨(Party.advancesOn_look look.party look.trigger).sound sound,
      Party.tidy_look role sound tidy look.trigger⟩, keeps.after_look, ?_⟩
    intro peer
    have before := counted peer
    rw [keeps.lateVoters_concat, look.announced_eq tidy decision,
      List.flatMap_append, List.flatMap_singleton,
      look.notified_eq role sound tidy]
    simp only [List.count_append] at before ⊢
    omega

/-- The peers to which a notice of the decision was attempted, in order. -/
def notified (session : Session) (decision : Decision) : List PeerId :=
  session.attempts.filterMap fun letter => letter.duty.notified? decision

/-- Once every call has returned, the peers told are the audience of the
decision, if it is finalized, and those that said yes too late to be in it. -/
theorem notified_perm_of_run (role : setup.role = .primary)
    (ran : (start setup).run? moves = some last)
    (notAbandoned : ∀ index, .abandon index ∉ moves)
    (idle : last.isIdle = true) (decision : Decision) :
    (last.notified decision).Perm
      (last.party.tally.announced decision ++
        lateVoters last.party.tally decision ((start setup).history moves)) := by
  have attempted := (deeds_perm_of_run ran notAbandoned idle).filterMap
    (Duty.notified? decision)
  rw [filterMap_deeds last fun _ => rfl, List.filterMap_flatMap] at attempted
  exact attempted.trans (notices_of_looks role ran decision)

/-- A peer that failed is in no audience. -/
theorem not_mem_audience_of_failed (role : setup.role = .primary)
    (ran : (start setup).run? moves = some last) {peer : PeerId}
    (failed : peer ∈ last.party.tally.failures) :
    peer ∉ last.party.tally.acknowledged ∧
      peer ∉ last.party.tally.abortAudience := by
  have sound := (tidy_of_run role ran).1
  have notAcknowledged : peer ∉ last.party.tally.acknowledged :=
    fun acknowledged => sound.acknowledged_failures peer acknowledged failed
  refine ⟨notAcknowledged, fun reached => ?_⟩
  rcases Tally.mem_abortAudience.1 reached with acknowledged | outstanding
  · exact notAcknowledged acknowledged
  · exact sound.outstanding_failures peer outstanding failed

/-- A peer that failed, for example because its request was reported as not
delivered, is told the decision once for each yes that is heard from it after
the decision.  So it is told at all only if it says yes then: a yes that was
heard while the voting was open earns it no notice. -/
theorem failed_peer_told_only_for_late_yes (role : setup.role = .primary)
    (ran : (start setup).run? moves = some last)
    (notAbandoned : ∀ index, .abandon index ∉ moves)
    (idle : last.isIdle = true) {decision : Decision} {peer : PeerId}
    (phase : last.party.tally.phase = decision.phase)
    (failed : peer ∈ last.party.tally.failures) :
    let heard := yeses decision.phase ((start setup).history moves)
    (peer ∈ last.notified decision ↔ peer ∈ heard) ∧
      (last.notified decision).count peer = heard.count peer := by
  intro heard
  obtain ⟨notAcknowledged, notReached⟩ :=
    not_mem_audience_of_failed role ran failed
  have unannounced : peer ∉ last.party.tally.announced decision := by
    cases decision <;> simp_all [Tally.announced, Tally.audience]
  have late : (lateVoters last.party.tally decision
      ((start setup).history moves)).count peer = heard.count peer := by
    refine List.count_filter (decide_eq_true ?_)
    cases decision <;> simp_all [Tally.reached]
  have told : (last.notified decision).count peer = heard.count peer := by
    rw [(notified_perm_of_run role ran notAbandoned idle decision).count_eq,
      List.count_append, List.count_eq_zero.2 unannounced, late, Nat.zero_add]
  refine ⟨?_, told⟩
  rw [← List.count_pos_iff, told, List.count_pos_iff]

/-- A primary that forgives one failure. -/
def lenient : Setup :=
  { Setup.primary ⟨"doc"⟩ ⟨"home"⟩ with
    settings := { TransactionSettings.default with failureThreshold := 1 } }

/-- The request to the first peer is reported as not delivered, yet its yes
arrives while the voting is open; then the second peer departs, which aborts,
and somebody waits for that. -/
def unexpectedYesMoves : List Move :=
  [.start (.lead (.connected [⟨"home"⟩, ⟨"one"⟩, ⟨"two"⟩])),
    .begin 0,
    .finish 0 (.error (.rejected ⟨"one"⟩ "unreachable")),
    .begin 0,
    .finish 0 (.ok ()),
    .start (.handle (.voteReceived ⟨⟨"one"⟩, ⟨"doc"⟩, 0, none⟩) .disconnected),
    .start (.handle (.memberDeparted ⟨"two"⟩) .disconnected),
    .proceed 2 0,
    .start .await,
    .proceed 3 0,
    .proceed 3 0,
    .proceed 3 0]

/-- The first peer says yes once more, now after the abort. -/
def repeatedYesMoves : List Move :=
  unexpectedYesMoves ++
    [.start (.handle (.voteReceived ⟨⟨"one"⟩, ⟨"doc"⟩, 1, none⟩) .disconnected),
      .begin 4,
      .finish 4 (.ok ())]

/-- The peer is told for the second yes alone. -/
theorem failed_peer_told_once_of_lenient :
    ∃ session, (start lenient).run? repeatedYesMoves = some session ∧
      lenient.role = .primary ∧ (∀ index, .abandon index ∉ repeatedYesMoves) ∧
      session.isIdle = true ∧ session.party.tally.phase = Decision.abort.phase ∧
      ⟨"one"⟩ ∈ session.party.tally.failures ∧
      (session.notified .abort).count ⟨"one"⟩ = 1 := by
  have run : ((start lenient).run? repeatedYesMoves).map (fun session =>
      (session.isIdle, session.party.tally.phase,
        decide (⟨"one"⟩ ∈ session.party.tally.failures))) =
        some (true, .aborted, true) := by rfl
  obtain ⟨session, ran, observed⟩ := Option.map_eq_some_iff.1 run
  simp only [Prod.mk.injEq, decide_eq_true_eq] at observed
  obtain ⟨idle, aborted, failed⟩ := observed
  have notAbandoned (index : Nat) : .abandon index ∉ repeatedYesMoves := by
    simp [repeatedYesMoves, unexpectedYesMoves]
  have phase : session.party.tally.phase = Decision.abort.phase := aborted
  have told :=
    (failed_peer_told_only_for_late_yes rfl ran notAbandoned idle phase failed).2
  exact ⟨session, ran, rfl, notAbandoned, idle, phase, failed, told⟩

/-- A peer whose request is reported as not delivered may say yes and never be
told of the abort, though somebody waited for it and everything is at rest. -/
theorem yes_while_voting_unanswered :
    ∃ setup moves session peer error,
      setup.role = .primary ∧ (start setup).run? moves = some session ∧
      (∀ index, .abandon index ∉ moves) ∧ .start .await ∈ moves ∧
      session.isIdle = true ∧ session.party.tally.phase = .aborted ∧
      session.party.tally.failures.get? peer = some (.undelivered error) ∧
      (∃ look ∈ (start setup).history moves, look.yes? = some peer) ∧
      peer ∉ session.notified .abort := by
  have run : ((start lenient).run? unexpectedYesMoves).map (fun session =>
      (session.isIdle, session.party.tally.phase,
        session.party.tally.failures.get? ⟨"one"⟩,
        session.notified .abort)) =
        some (true, .aborted,
          some (.undelivered (.rejected ⟨"one"⟩ "unreachable")), []) := by rfl
  obtain ⟨session, ran, observed⟩ := Option.map_eq_some_iff.1 run
  simp only [Prod.mk.injEq] at observed
  obtain ⟨idle, aborted, failed, told⟩ := observed
  refine ⟨lenient, unexpectedYesMoves, session, ⟨"one"⟩, _, rfl, ran,
    by simp [unexpectedYesMoves], by simp [unexpectedYesMoves], idle, aborted,
    failed, ?_, by simp [told]⟩
  have heard : ⟨"one"⟩ ∈ ((start lenient).history
      unexpectedYesMoves).filterMap Look.yes? := by decide
  exact List.mem_filterMap.1 heard

end Session

end CreationCommit
