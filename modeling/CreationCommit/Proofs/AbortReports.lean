import CreationCommit.Proofs.Admissions
import CreationCommit.Proofs.Outcomes
import CreationCommit.Proofs.ReplicaStates

/-!
# What the report of an abort says is true

The primary reports that one peer more failed than the threshold allows, and
exactly that many failed, or it reports that the time has passed, and then the
failures are within the threshold and some vote is outstanding if the voting was
ever opened.  Nobody is listed both as outstanding and as failed, and the local
peer is not listed at all.  A replica lists nobody.  It reports the refusal that
it was asked to send and that was accepted, or that its vote did not reach its
primary, or that it was told, and never that the time has passed.

The results of sends are those of the carriers, which name the recipient of the
letter in their errors.
-/

namespace CreationCommit

open Tally (Operation)

/-- The send of the letter may end with the result, by some carrier and for some
passage. -/
def Letter.Ends (letter : Letter) (result : Except DeliveryError Unit) : Prop :=
  ∃ (carrier : Carrier) (passage : Passage),
    (carrier.finish letter passage).2 = result

/-- An error names the recipient of the letter. -/
theorem Letter.Ends.recipient {letter : Letter} {error : DeliveryError}
    (ends : letter.Ends (.error error)) : error.recipient = letter.recipient := by
  obtain ⟨carrier, passage, result⟩ := ends
  unfold Carrier.finish at result
  split at result
  · cases carrier with
    | silent => simp [Carrier.hand] at result
    | recording recorder =>
        simp only [Carrier.hand, Recorder.hand] at result
        split at result
        · cases result
          rfl
        · simp at result
    | queueing sender channel =>
        simp only [Carrier.hand, Channel.hand] at result
        split at result
        · simp at result
        · cases result
          rfl
  · cases result
    rfl

namespace Session

/-- The letter that a call is sending. -/
def sending? (session : Session) (index : Nat) : Option Letter :=
  session.calls[index]?.bind (·.sending)

/-- Every send that ends with one of the moves ends as carriers have it. -/
def Carried (session : Session) : List Move → Prop
  | [] => True
  | move :: rest =>
      (∀ index result letter, move = .finish index result →
        session.sending? index = some letter → letter.Ends result) ∧
      ∀ next, session.move? move = some next → next.Carried rest

variable {origin session last : Session} {setup : Setup} {moves : List Move}
  {look : Look}

theorem Carried.later {earlier later : List Move}
    (carried : origin.Carried (earlier ++ later))
    (ran : origin.run? earlier = some session) : session.Carried later := by
  induction earlier generalizing origin with
  | nil =>
      obtain rfl : origin = session := by simpa [run?] using ran
      exact carried
  | cons move rest ih =>
      rw [run?_cons] at ran
      obtain ⟨next, moved, onward⟩ := Option.bind_eq_some_iff.1 ran
      exact ih (carried.2 next moved) onward

/-- What a result says of an opening is what a carrier says of the letter that
carried it out. -/
theorem letter_of_result (ran : (start setup).run? moves = some last)
    (carried : (start setup).Carried moves)
    (isKnown : look ∈ (start setup).history moves) {opening : Opening}
    {result : Except DeliveryError Unit}
    (heard : look.trigger = .result opening result) :
    ∃ letter, letter.duty = .opening opening ∧ setup.Writes letter ∧
      letter.Ends result := by
  obtain ⟨known, rest, split⟩ := List.append_of_mem isKnown
  obtain ⟨earlier, move, later, session, rfl, ranEarlier, -, isLook⟩ :=
    taken_of_history ran split
  obtain ⟨trigger, isTrigger, rfl⟩ := Option.map_eq_some_iff.1 isLook
  obtain rfl : trigger = .result opening result := heard
  have ends := (carried.later ranEarlier).1
  have composed := composed_of_run ranEarlier
  rw [Composed, setup_of_run ranEarlier] at composed
  cases move with
  | finish index reported =>
      simp only [trigger?] at isTrigger
      split at isTrigger
      · rename_i letter _ turn
        cases isTrigger
        obtain ⟨writes, others, isAgenda⟩ :=
          composed _ (List.mem_of_getElem? turn) letter rfl
        have carriesOut : Task.duty (.opening opening) = .duty letter.duty :=
          (List.cons.inj isAgenda).1
        refine ⟨letter, (Task.duty.inj carriesOut).symm, writes,
          ends index result letter rfl ?_⟩
        simp [sending?, turn]
      · simp at isTrigger
  | proceed index now =>
      simp only [trigger?] at isTrigger
      split at isTrigger <;> simp at isTrigger
  | start | begin | abandon => simp [trigger?] at isTrigger

end Session

/-- Whether somebody looked at the tally while the voting was open. -/
def Opened (history : List Look) : Prop :=
  ∃ look ∈ history, look.phase = .voting

/-- Why a primary reports an abort, if the voting was opened or not. -/
inductive AbortReport.DueAtPrimary (report : AbortReport) (setup : Setup)
    (opened : Prop) : Prop
  | exceeded
      (cause : report.cause = .tooManyFailures (setup.settings.threshold + 1)
        setup.settings.threshold)
      (failures : report.failures.size = setup.settings.threshold + 1)
  | late (cause : report.cause = .timedOut setup.settings.timeout)
      (failures : report.failures.size ≤ setup.settings.threshold)
      (someOutstanding : opened → report.outstanding ≠ ∅)
      (nobody : ¬ opened → report.outstanding = ∅ ∧ report.failures = ∅)

/-- What the report of a primary says is true of the history. -/
structure AbortReport.TrueOfPrimary (report : AbortReport) (setup : Setup)
    (history : List Look) : Prop where
  due : report.DueAtPrimary setup (Opened history)
  disjoint : ∀ peer ∈ report.outstanding, peer ∉ report.failures
  notOutstanding : setup.localPeer ∉ report.outstanding
  notFailed : setup.localPeer ∉ report.failures

/-- Once the voting was opened, the creation is never back before that. -/
theorem Tally.opened_perform {tally : Tally} {operation : Operation}
    (opened : tally.phase ≠ .active ∧ tally.phase ≠ .prepared) :
    (tally.perform operation).1.phase ≠ .active ∧
      (tally.perform operation).1.phase ≠ .prepared := by
  refine ⟨fun active => opened.1 (active_perform _ active), fun prepared => ?_⟩
  rcases prepared_perform prepared with earlier | rfl
  · exact opened.2 earlier
  · simp [perform, prepare, opened] at prepared

theorem AbortReport.DueAtPrimary.of_iff {report : AbortReport} {setup : Setup}
    {opened other : Prop} (due : report.DueAtPrimary setup opened)
    (same : other ↔ opened) : report.DueAtPrimary setup other := by
  rwa [same]

theorem opened_concat {history : List Look} {look : Look} :
    Opened (history ++ [look]) ↔ Opened history ∨ look.phase = .voting := by
  simp [Opened, or_and_right, exists_or]

namespace Look

variable {look : Look} {report : AbortReport}

/-- Nothing but the failures and the time abort a primary. -/
theorem not_causes_of_primary (role : look.party.setup.role = .primary)
    (noVote : look.endsVote = false) (cause : AbortCause) :
    ¬ look.trigger.Causes look.party.setup (.abort cause) := by
  rw [← Bool.not_eq_true, endsVote_iff] at noVote
  intro caused
  cases cause with
  | refusedLocally cause => exact noVote ⟨_, _, caused⟩
  | voteUndelivered error =>
      obtain ⟨refusal, ends⟩ := caused
      exact noVote ⟨refusal, _, ends⟩
  | toldByPrimary => exact caused.1 role
  | tooManyFailures | timedOut => exact caused

/-- What the look of the primary that aborts reports is due. -/
theorem due_of_aborts (role : look.party.setup.role = .primary)
    (noVote : look.endsVote = false) (sound : look.party.tally.Sound)
    (decisive : look.party.tally.Decisive look.party.setup.settings.threshold)
    (undecided : ¬ look.party.tally.isDecided)
    (reported : look.tally.abortReport = some report) :
    report.DueAtPrimary look.party.setup (look.phase = .voting) := by
  have notYet : look.party.tally.abortReport = none :=
    sound.abortReport_eq_none (Tally.not_aborted_of_undecided undecided)
  cases look.aborts_of_report sound notYet reported with
  | aborts caused => exact absurd caused (not_causes_of_primary role noVote _)
  | exceeds exceeded cause =>
      have size := look.exceeded_by_one role sound decisive undecided reported
        exceeded
      exact .exceeded (size ▸ cause) size
  | timesOut now _ checks cause =>
      -- the check of the time leaves the votes as they were
      have kept : look.party.tally.SameVotes (look.party.examine now).1.tally :=
        Party.sameVotes_examine now
      rw [← Party.look_clock_fst, ← checks] at kept
      have stillSound :=
        (Party.advancesOn_look look.party look.trigger).sound sound
      obtain ⟨outstanding, failures⟩ := stillSound.report report reported
      rw [kept.outstanding] at outstanding
      rw [kept.failures] at failures
      refine .late cause ?_ ?_ ?_
      · rw [failures]
        exact decisive.size_failures_le sound undecided
      · rw [outstanding]
        exact decisive.outstanding
      · intro notVoting
        rw [outstanding, failures]
        have nobody := sound.unopened
          (Tally.unopened_of_undecided undecided notVoting)
        exact ⟨nobody.1, nobody.2.1⟩

end Look

namespace Session

variable {setup : Setup} {moves : List Move} {last : Session}
  {report : AbortReport}

section Primary

variable (role : setup.role = .primary)
  (ran : (start setup).run? moves = some last)

include role ran

/-- Whatever the primary reports is due. -/
theorem due_of_run (reported : last.party.tally.abortReport = some report) :
    report.DueAtPrimary setup (Opened ((start setup).history moves)) := by
  have kept := history_induction (motive := fun history tally =>
    (∀ look ∈ history, look.endsVote = false) →
      (tally.Sound ∧ tally.Decisive setup.settings.threshold) ∧
      (Opened history → tally.phase ≠ .active ∧ tally.phase ≠ .prepared) ∧
      ∀ report, tally.abortReport = some report →
        report.DueAtPrimary setup (Opened history)) ?_ ?_ ran
  · have noVotes (look : Look)
        (isKnown : look ∈ (start setup).history moves) :
        look.endsVote = false := not_endsVote_of_primary role ran isKnown
    exact (kept noVotes).2.2 report reported
  · exact fun _ => ⟨⟨.start _, .start _⟩, by simp [Opened],
      by simp [Tally.start]⟩
  · intro known look sameSetup before noVotes
    subst sameSetup
    obtain ⟨⟨sound, decisive⟩, opened, due⟩ := before fun earlier isKnown =>
      noVotes earlier (List.mem_append_left _ isKnown)
    have advances := Party.advancesOn_look look.party look.trigger
    refine ⟨⟨advances.sound sound,
      Party.decisive_look decisive role sound look.trigger⟩, ?_, ?_⟩
    · intro openedNow
      have before : look.phase ≠ .active ∧ look.phase ≠ .prepared := by
        rcases opened_concat.1 openedNow with earlier | voting
        · exact opened earlier
        · simp [voting]
      exact advances.induction (motive := fun tally =>
        tally.phase ≠ .active ∧ tally.phase ≠ .prepared) before
        fun _ _ _ current => Tally.opened_perform current
    · intro report reported
      by_cases decided : look.party.tally.isDecided
      · have notVoting : look.phase ≠ .voting := fun voting =>
          Party.not_isDecided_of_voting voting decided
        refine (due report ?_).of_iff ?_
        · exact (advances.sameRecord decided).abortReport ▸ reported
        · rw [opened_concat, or_iff_left notVoting]
      · have noVote := noVotes look (by simp)
        refine (look.due_of_aborts role noVote sound decisive decided
          reported).of_iff ?_
        rw [opened_concat, or_iff_right_of_imp]
        intro earlier
        by_contra notVoting
        rcases Tally.unopened_of_undecided decided notVoting with
          active | prepared
        · exact (opened earlier).1 active
        · exact (opened earlier).2 prepared

theorem true_of_primary (reported : last.party.tally.abortReport = some report) :
    report.TrueOfPrimary setup ((start setup).history moves) := by
  have sound := sound_of_run ran
  obtain ⟨outstanding, failures⟩ := sound.report report reported
  have notInvolved : ¬ last.party.tally.Involves setup.localPeer :=
    fun involved => localPeer_not_admitted_of_run ran
      ((tells_of_run role ran).involves_iff.1 involved)
  refine ⟨due_of_run role ran reported, ?_, ?_, ?_⟩
  · rw [outstanding, failures]
    exact sound.outstanding_failures
  · rw [outstanding]
    exact fun isOutstanding => notInvolved (.inl isOutstanding)
  · rw [failures]
    exact fun failed => notInvolved (.inr (.inr failed))

end Primary

end Session

/-- Why a replica reports an abort. -/
inductive AbortCause.DueAtReplica (home : PeerId) (moves : List Move)
    (history : List Look) : AbortCause → Prop
  | refused (cause : String) (asked : .start (.enroll (some cause)) ∈ moves)
      (accepted : ∃ look ∈ history,
        look.trigger = .result (.vote (some cause)) (.ok ())) :
      DueAtReplica home moves history (.refusedLocally cause)
  | undelivered (error : DeliveryError) (addressed : error.recipient = home)
      (failed : ∃ look ∈ history, ∃ refusal,
        look.trigger = .result (.vote refusal) (.error error)) :
      DueAtReplica home moves history (.voteUndelivered error)
  | told (heard : ∃ look ∈ history, look.notice? = some .abort) :
      DueAtReplica home moves history .toldByPrimary

/-- What the report of a replica says is true of the run. -/
structure AbortReport.TrueOfReplica (report : AbortReport) (home : PeerId)
    (moves : List Move) (history : List Look) : Prop where
  due : report.cause.DueAtReplica home moves history
  outstanding : report.outstanding = ∅
  failures : report.failures = ∅

namespace Session

variable {setup : Setup} {moves : List Move} {last : Session}
  {report : AbortReport}

section Replica

variable {home : PeerId} (role : setup.role = .replica home)
  (ran : (start setup).run? moves = some last)

include role ran

omit role ran in
/-- A vote goes to the primary of the replica. -/
theorem role_of_vote {letter : Letter} {refusal : Option String}
    (isVote : letter.duty = .opening (.vote refusal))
    (writes : setup.Writes letter) : setup.role = .replica letter.recipient := by
  unfold Setup.Writes at writes
  unfold Letter.duty at isVote
  split at isVote
  · simp at isVote
  · rename_i vote isMessage
    rw [isMessage] at writes
    exact writes.1
  · simp at isVote

/-- A replica refuses only because it was asked to. -/
theorem enroll_of_refusal {look : Look} {cause : String}
    (isKnown : look ∈ (start setup).history moves)
    {result : Except DeliveryError Unit}
    (ends : look.trigger = .result (.vote (some cause)) result) :
    .start (.enroll (some cause)) ∈ moves := by
  have notPrimary : setup.role ≠ .primary := by simp [role]
  obtain ⟨letter, attempted, isVote⟩ := attempted_of_result ran isKnown ends
  obtain ⟨leaving, leavingKnown, isLeft⟩ := left_of_attempted ran attempted
  rw [isVote] at isLeft
  rcases Party.trigger_of_vote ((setup_of_look ran leavingKnown).symm ▸ notPrimary)
      (unopened_of_look notPrimary ran leavingKnown).acknowledged isLeft with
    enrolls | ⟨isYes, -⟩
  · exact start_of_look ran leavingKnown enrolls
  · simp at isYes

theorem true_of_replica (carried : (start setup).Carried moves)
    (reported : last.party.tally.abortReport = some report) :
    report.TrueOfReplica home moves ((start setup).history moves) := by
  have notPrimary : setup.role ≠ .primary := by simp [role]
  have unopened := unopened_of_run notPrimary ran
  obtain ⟨outstanding, failures⟩ := (sound_of_run ran).report report reported
  refine ⟨?_, outstanding.trans unopened.outstanding,
    failures.trans unopened.failures⟩
  have first := cause_of_run notPrimary ran
  rw [reported, Option.map_some] at first
  obtain ⟨look, isUndecided, brings⟩ :=
    List.exists_of_findSome?_eq_some first.symm
  have isKnown := List.mem_of_mem_filter isUndecided
  unfold Look.abortCause? at brings
  split at brings
  · rename_i cause _ ends
    rw [← Option.some.inj brings]
    exact .refused cause (enroll_of_refusal role ran isKnown ends)
      ⟨look, isKnown, ends⟩
  · rename_i refusal error ends
    rw [← Option.some.inj brings]
    obtain ⟨letter, isVote, writes, carries⟩ :=
      letter_of_result ran carried isKnown ends
    refine .undelivered error ?_ ⟨look, isKnown, refusal, ends⟩
    have toHome := role_of_vote isVote writes
    rw [role] at toHome
    rw [carries.recipient, Role.replica.inj toHome]
  · split at brings
    · rename_i heard
      rw [← Option.some.inj brings]
      exact .told ⟨look, isKnown, heard⟩
    · simp at brings
  · simp at brings

end Replica

/-- The abort is on record, or somebody who waited for the decision has answered
it. -/
def Reports (session : Session) (report : AbortReport) : Prop :=
  session.party.tally.abortReport = some report ∨
    ∃ call ∈ session.calls, call.outcome = some (.aborted report)

/-- Whatever calls overlap on a party, if their sends end as the carriers have
it, every report of an abort is about the party's object and true.  The primary
reports one failure more than its threshold allows, or that its time has passed
with no more failures than that; the votes outstanding are some if the voting
was opened and the local peer is never listed.  A replica lists nobody and
reports that its refusal was accepted, that its vote did not reach its primary,
or that it was told. -/
theorem abort_reports_are_true (ran : (start setup).run? moves = some last)
    (carried : (start setup).Carried moves) (reports : last.Reports report) :
    report.objectId = setup.objectId ∧
      (setup.role = .primary →
        report.TrueOfPrimary setup ((start setup).history moves)) ∧
      ∀ home, setup.role = .replica home →
        report.TrueOfReplica home moves ((start setup).history moves) := by
  have reported : last.party.tally.abortReport = some report := by
    rcases reports with onRecord | ⟨call, callMem, answers⟩
    · exact onRecord
    · have final := faithful_of_run ran call callMem _ (.inl answers)
      exact final.yields.2
  exact ⟨(about_of_run ran).report report reported,
    fun role => true_of_primary role ran reported,
    fun home role => true_of_replica role ran carried reported⟩

/-- The vote of a replica finds its channel closed. -/
def closedChannelMoves : List Move :=
  [.start (.enroll none),
    .begin 0,
    .finish 0 (.error (.channelClosed ⟨"home"⟩))]

theorem report_of_closed_channel :
    ∃ session report,
      (start (.replica ⟨"doc"⟩ ⟨"near"⟩ ⟨"home"⟩)).run? closedChannelMoves =
        some session ∧
      (start (.replica ⟨"doc"⟩ ⟨"near"⟩ ⟨"home"⟩)).Carried
        closedChannelMoves ∧
      session.Reports report ∧ report.objectId = ⟨"doc"⟩ ∧
      ∃ error, report.cause = .voteUndelivered error ∧
        error.recipient = ⟨"home"⟩ := by
  have run : ((start (.replica ⟨"doc"⟩ ⟨"near"⟩ ⟨"home"⟩)).run?
      closedChannelMoves).map (·.party.tally.abortReport.map (·.cause)) =
        some (some (.voteUndelivered (.channelClosed ⟨"home"⟩))) := by rfl
  obtain ⟨session, ran, caused⟩ := Option.map_eq_some_iff.1 run
  obtain ⟨report, reported, cause⟩ := Option.map_eq_some_iff.1 caused
  have carried : (start (.replica ⟨"doc"⟩ ⟨"near"⟩ ⟨"home"⟩)).Carried
      closedChannelMoves := by
    refine ⟨by simp, fun next launched => ?_⟩
    cases launched
    refine ⟨by simp, fun next begun => ?_⟩
    cases begun
    refine ⟨?_, fun next _ => trivial⟩
    rintro index result letter ⟨⟩ ⟨⟩
    exact ⟨.queueing ⟨"near"⟩ Channel.start.close, ⟨⟨0⟩, true⟩, rfl⟩
  have reports : session.Reports report := .inl reported
  obtain ⟨object, -, ofReplica⟩ := abort_reports_are_true ran carried reports
  have due := (ofReplica ⟨"home"⟩ rfl).due
  refine ⟨session, report, ran, carried, reports, object, _, cause, ?_⟩
  rw [cause] at due
  cases due with
  | undelivered _ addressed => exact addressed

end Session

end CreationCommit
