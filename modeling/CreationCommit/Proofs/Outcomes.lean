import CreationCommit.Proofs.History
import CreationCommit.Station

/-!
# What those who wait answer

Whoever waits answers the outcome that it found in the tally, and leaves the
tally finalized.  Nothing that is done later changes the outcome of such a
tally, so all answers agree.  Whoever waits from then on finds the outcome at
its first look, with nothing left to carry out: it answers at its third turn,
whatever the clock shows and whatever happens between its turns.
-/

namespace CreationCommit

namespace Tally

/-- The outcome is that of the tally. -/
def Yields (tally : Tally) : Outcome → Prop
  | .committed => tally.phase = .committed
  | .aborted report =>
      tally.phase = .aborted ∧ tally.abortReport = some report

/-- The tally is finalized with the outcome. -/
structure FinalizedAs (outcome : Outcome) (tally : Tally) : Prop where
  finalized : tally.finalized = true
  yields : tally.Yields outcome

variable {tally other : Tally} {outcome another : Outcome}

namespace Yields

theorem of_sameRecord (yields : tally.Yields outcome)
    (same : tally.SameRecord other) : other.Yields outcome := by
  cases outcome with
  | committed => exact same.phase.trans yields
  | aborted report =>
      exact ⟨same.phase.trans yields.1, same.abortReport.trans yields.2⟩

theorem isDecided (yields : tally.Yields outcome) : tally.isDecided := by
  cases outcome with
  | committed => exact Tally.isDecided_iff.2 (.inl yields)
  | aborted report => exact Tally.isDecided_iff.2 (.inr yields.1)

/-- A tally has one outcome at most. -/
theorem unique (yields : tally.Yields outcome)
    (yieldsAnother : tally.Yields another) : another = outcome := by
  cases outcome with
  | committed =>
      cases another with
      | committed => rfl
      | aborted report => cases yields.symm.trans yieldsAnother.1
  | aborted report =>
      cases another with
      | committed => cases yields.1.symm.trans yieldsAnother
      | aborted other =>
          obtain rfl : report = other :=
            Option.some.inj (yields.2.symm.trans yieldsAnother.2)
          rfl

theorem committed_iff (yields : tally.Yields outcome) :
    outcome = .committed ↔ tally.phase = .committed := by
  constructor
  · intro committed
    rw [committed] at yields
    exact yields
  · intro committed
    have yieldsCommit : tally.Yields .committed := committed
    exact yieldsCommit.unique yields

end Yields

end Tally

namespace Party

variable {party : Party} {now : Instant} {outcome : Outcome}

/-- The deadline of a decided creation may be fixed, but has no effect. -/
theorem checkDeadline_of_decided (decided : party.tally.isDecided)
    (now : Instant) :
    ∃ deadline, (party.checkDeadline now).1 =
      { party with tally := { party.tally with deadline } } := by
  have notVoting : party.tally.phase ≠ .voting := by
    intro voting
    simp [Tally.isDecided, Phase.isDecided, voting] at decided
  have resolved : party.resolve = party := by
    simp [resolve, Tally.resolve, notVoting]
  have decidedStill (deadline : Option Instant) :
      { party.tally with deadline }.isDecided = true := decided
  unfold checkDeadline
  split
  · dsimp only
    rw [resolved]
    split
    · refine ⟨some (party.tally.fixDeadline now
        party.setup.settings.timeout).2, ?_⟩
      simp [Tally.timeOut, Tally.fixDeadline, Tally.abort, decidedStill]
    · exact ⟨_, rfl⟩
  · exact ⟨party.tally.deadline, rfl⟩

/-- Whoever finds an outcome leaves the tally finalized with it. -/
theorem finalizedAs_of_found {closings : List Closing}
    (found : (party.examine now).2 = .decided closings outcome) :
    (party.look (.clock now)).1.tally.FinalizedAs outcome := by
  apply Tally.FinalizedAs.mk (finalized_of_decided party found)
  rw [look_clock_fst]
  simp only [examine] at found ⊢
  generalize (party.checkDeadline now).1 = checked at found ⊢
  cases phase : checked.tally.phase with
  | committed =>
      simp only [phase, Finding.decided.injEq] at found ⊢
      obtain ⟨-, rfl⟩ := found
      exact (sameRecord_finalizeOnce checked.tally).phase.trans phase
  | aborted =>
      cases reported : checked.tally.abortReport with
      | none => simp [phase, reported] at found
      | some report =>
          simp only [phase, reported, Finding.decided.injEq] at found ⊢
          obtain ⟨-, rfl⟩ := found
          have same := sameRecord_settle checked
          exact ⟨same.phase.trans phase, same.abortReport.trans reported⟩
  | active | voting | prepared => simp [phase] at found

/-- Whoever looks for the decision once it is finalized finds the outcome, and
nothing is left to do. -/
theorem examine_of_finalizedAs (final : party.tally.FinalizedAs outcome)
    (now : Instant) :
    ∃ deadline, party.examine now =
      ({ party with tally := { party.tally with deadline } },
        .decided [] outcome) := by
  obtain ⟨finalized, yields⟩ := final
  obtain ⟨deadline, checked⟩ := checkDeadline_of_decided yields.isDecided now
  refine ⟨deadline, ?_⟩
  cases outcome with
  | committed =>
      have committed : party.tally.phase = .committed := yields
      simp [examine, checked, committed, Tally.finalizeOnce, finalized]
  | aborted report =>
      simp [examine, checked, yields.1, yields.2, settle, Tally.finalizeOnce,
        finalized]

/-- Nobody finds an abort without its report. -/
theorem reported_of_checkDeadline (sound : party.tally.Sound)
    (aborted : (party.checkDeadline now).1.tally.phase = .aborted) :
    (party.checkDeadline now).1.tally.abortReport.isSome :=
  ((advancesOn_checkDeadline party now).sound sound).reported.2 aborted

theorem about_look {objectId : ObjectId} (about : party.tally.About objectId)
    (trigger : Trigger) : (party.look trigger).1.tally.About objectId :=
  (advancesOn_look party trigger).induction about
    fun operation _ _ current => current.perform operation

end Party

/-- The call waits and is as many turns away from answering the outcome. -/
inductive Call.Concludes (outcome : Outcome) : Nat → Call → Prop
  | watching : Concludes outcome 3 ⟨[.watch], none, none⟩
  | examining (seen : Nat) :
      Concludes outcome 2 ⟨[.examine seen], none, none⟩
  | answering : Concludes outcome 1 ⟨[.answer outcome], none, none⟩
  | answered : Concludes outcome 0 ⟨[], none, some outcome⟩

/-- Whether the call goes on with the move. -/
def Move.proceeds (index : Nat) : Move → Bool
  | .proceed call _ => call = index
  | _ => false

namespace Session

section Steps

variable {session next : Session} {move : Move} {outcome : Outcome}
  {index turns : Nat} {call : Call}

/-- Every outcome that a call has learnt is the one that the tally is finalized
with. -/
def Faithful (session : Session) : Prop :=
  ∀ call ∈ session.calls, ∀ outcome, call.Learned outcome →
    session.party.tally.FinalizedAs outcome

theorem Step.finalizedAs (step : Step session move next)
    (final : session.party.tally.FinalizedAs outcome) :
    next.party.tally.FinalizedAs outcome where
  finalized := step.finalized final.finalized
  yields := final.yields.of_sameRecord (step.sameRecord final.yields.isDecided)

theorem Step.faithful (step : Step session move next)
    (faithful : session.Faithful) : next.Faithful := by
  intro call callMem outcome learned
  rcases step.learned call callMem learned with
    ⟨earlier, earlierMem, already⟩ | ⟨now, closings, found, left⟩
  · exact step.finalizedAs (faithful earlier earlierMem outcome already)
  · rw [left]
    exact Party.finalizedAs_of_found found

/-- A call that concludes has its turn whatever the clock shows, and neither
sends nor reports anything then. -/
theorem proceeds_of_concludes (final : session.party.tally.FinalizedAs outcome)
    (here : session.calls[index]? = some call)
    (concludes : call.Concludes outcome (turns + 1)) (now : Instant) :
    ∃ next after, session.move? (.proceed index now) = some next ∧
      next.attempts = session.attempts ∧
      next.callbacks = session.callbacks ∧
      next.calls[index]? = some after ∧ after.Concludes outcome turns := by
  have inRange := (List.getElem?_eq_some_iff.1 here).1
  cases concludes with
  | watching =>
      refine ⟨session.setCall index
          ⟨[.examine session.party.announcements], none, none⟩, _,
        by simp only [move?, proceed?, here], rfl, rfl, ?_,
        .examining session.party.announcements⟩
      exact List.getElem?_set_self inRange
  | examining seen =>
      obtain ⟨deadline, examined⟩ :=
        Party.examine_of_finalizedAs final now
      refine ⟨session.examine index now seen [], _,
        by simp only [move?, proceed?, here], rfl, rfl, ?_, .answering⟩
      simp only [examine, examined]
      exact List.getElem?_set_self inRange
  | answering =>
      refine ⟨session.setCall index ⟨[], none, some outcome⟩, _,
        by simp only [move?, proceed?, here], rfl, rfl, ?_, .answered⟩
      exact List.getElem?_set_self inRange

/-- A move brings a call that concludes one turn nearer to its answer if it is
that call's turn, or gives the call up, or leaves it alone. -/
theorem concludes_of_move (moved : session.move? move = some next)
    (final : session.party.tally.FinalizedAs outcome)
    (here : session.calls[index]? = some call)
    (concludes : call.Concludes outcome turns) :
    move = .abandon index ∨ ∃ left after,
      next.calls[index]? = some after ∧ after.Concludes outcome left ∧
        left + (if move.proceeds index then 1 else 0) = turns := by
  by_cases elsewhere : move.turn? = some index
  · cases move with
    | start command => cases elsewhere
    | begin position =>
        cases elsewhere
        cases concludes <;> simp [move?, begin?, here] at moved
    | finish position result =>
        cases elsewhere
        cases concludes <;> simp [move?, finish?, here] at moved
    | proceed position now =>
        cases elsewhere
        cases turns with
        | zero =>
            cases concludes
            simp [move?, proceed?, here] at moved
        | succ left =>
            obtain ⟨reached, after, movedOn, -, -, there, concludesNow⟩ :=
              proceeds_of_concludes final here concludes now
            obtain rfl : reached = next :=
              Option.some.inj (movedOn.symm.trans moved)
            exact .inr ⟨left, after, there, concludesNow, by simp [Move.proceeds]⟩
    | abandon position =>
        cases elsewhere
        exact .inl rfl
  · have there := (step_of_move? moved).call_elsewhere here elsewhere
    refine .inr ⟨turns, call, there, concludes, ?_⟩
    cases move <;> simp_all [Move.proceeds, Move.turn?]

end Steps

variable {setup : Setup} {moves : List Move} {outcome : Outcome}
  {origin last answered session : Session}

theorem faithful_of_run (ran : (start setup).run? moves = some last) :
    last.Faithful :=
  run_induction (motive := fun _ session => session.Faithful)
    (by simp [start, Faithful])
    (fun _ _ _ _ _ faithful step => step.faithful faithful) ran

theorem finalizedAs_of_run (ran : origin.run? moves = some last)
    (final : origin.party.tally.FinalizedAs outcome) :
    last.party.tally.FinalizedAs outcome :=
  run_induction
    (motive := fun _ session => session.party.tally.FinalizedAs outcome) final
    (fun _ _ _ _ _ final step => step.finalizedAs final) ran

theorem about_of_run (ran : (start setup).run? moves = some last) :
    last.party.tally.About setup.objectId :=
  tally_of_run (motive := Tally.About setup.objectId) (.start setup.objectId)
    (fun look _ about => Party.about_look about look.trigger) ran

/-- Whoever starts to wait when the decision is finalized answers at its third
turn, unless it is given up. -/
theorem concludes_of_run (final : session.party.tally.FinalizedAs outcome)
    (ran : (session.launch .await).run? moves = some last) :
    .abandon session.calls.length ∈ moves ∨ ∃ turns call,
      last.calls[session.calls.length]? = some call ∧
        call.Concludes outcome turns ∧
        turns + moves.countP (·.proceeds session.calls.length) = 3 := by
  refine run_induction_on_moves (motive := fun moves reached =>
    .abandon session.calls.length ∈ moves ∨ ∃ turns call,
      reached.calls[session.calls.length]? = some call ∧
        call.Concludes outcome turns ∧
        turns + moves.countP (·.proceeds session.calls.length) = 3) ?_ ?_ ran
  · refine .inr ⟨3, _, ?_, .watching, rfl⟩
    simp [launch, accept, Call.ofTasks]
  · rintro earlier reached move next ranEarlier
      (given | ⟨turns, call, here, concludes, count⟩) moved
    · exact .inl (List.mem_append_left _ given)
    · have finalStill := finalizedAs_of_run ranEarlier final
      rcases concludes_of_move moved finalStill here concludes with
        rfl | ⟨left, after, there, concludesNow, nearer⟩
      · exact .inl (List.mem_append_right _ (List.mem_singleton_self _))
      · refine .inr ⟨left, after, there, concludesNow, ?_⟩
        rw [List.countP_append, List.countP_singleton]
        omega

end Session

/-- A station whose decision is finalized answers a wait at once: no time
passes, nothing is sent and nothing is reported. -/
theorem Station.await_of_finalizedAs {station : Station} {outcome : Outcome}
    (final : station.party.tally.FinalizedAs outcome) (limit : Duration) :
    ∃ party, station.await limit = ({ station with party }, some outcome) := by
  obtain ⟨deadline, examined⟩ :=
    Party.examine_of_finalizedAs final station.now
  refine ⟨{ station.party with
    tally := { station.party.tally with deadline } }, ?_⟩
  simp only [await, examined, concludeWait, closeUntil, if_true]

namespace Session

/-- What a session keeps to once somebody who waited answered the outcome. -/
structure KeepsTo (setup : Setup) (outcome : Outcome) (session : Session) :
    Prop where
  committed : outcome = .committed ↔ session.party.tally.phase = .committed
  report : ∀ report, outcome = .aborted report →
    session.party.tally.phase = .aborted ∧
      report.objectId = setup.objectId ∧
      report.outstanding = session.party.tally.outstanding ∧
      report.failures = session.party.tally.failures
  answers : ∀ call ∈ session.calls, ∀ other, call.outcome = some other →
    other = outcome
  awaits : ∀ moves last, (session.launch .await).run? moves = some last →
    .abandon session.calls.length ∈ moves ∨ ∃ turns call,
      last.calls[session.calls.length]? = some call ∧
        call.Concludes outcome turns ∧
        turns + moves.countP (·.proceeds session.calls.length) = 3 ∧
        (turns ≠ 0 → ∀ now, ∃ next,
          last.move? (.proceed session.calls.length now) = some next ∧
            next.attempts = last.attempts ∧ next.callbacks = last.callbacks)
  answersAtOnce : ∀ station : Station, station.party = session.party →
    ∀ limit, ∃ party,
      station.await limit = ({ station with party }, some outcome)

variable {setup : Setup} {moves : List Move} {outcome : Outcome}
  {answered session : Session}

theorem keepsTo_of_run (ran : (start setup).run? moves = some session)
    (final : session.party.tally.FinalizedAs outcome) :
    session.KeepsTo setup outcome where
  committed := final.yields.committed_iff
  report := by
    rintro report rfl
    obtain ⟨aborted, reported⟩ := final.yields
    obtain ⟨outstanding, failures⟩ := (sound_of_run ran).report report reported
    exact ⟨aborted, (about_of_run ran).report report reported, outstanding,
      failures⟩
  answers := by
    intro call callMem other answers
    have finalOther := faithful_of_run ran call callMem other (.inl answers)
    exact final.yields.unique finalOther.yields
  awaits := by
    intro moves last onward
    rcases concludes_of_run final onward with
      given | ⟨turns, call, here, concludes, count⟩
    · exact .inl given
    · refine .inr ⟨turns, call, here, concludes, count, ?_⟩
      intro notYet now
      obtain ⟨left, rfl⟩ := Nat.exists_eq_succ_of_ne_zero notYet
      have finalStill := finalizedAs_of_run onward final
      obtain ⟨next, -, moved, attempts, callbacks, -⟩ :=
        proceeds_of_concludes finalStill here concludes now
      exact ⟨next, moved, attempts, callbacks⟩
  answersAtOnce := by
    intro station atParty limit
    exact Station.await_of_finalizedAs (atParty ▸ final) limit

/-- Nobody who waits finds an abort without its report.  Once somebody who
waited answered an outcome, everybody who ever answers, whatever happens in
between, answers the same.  It is the commit if and only if the phase is
committed, and the report of an abort is about the object and lists the peers
that are outstanding and failed, at every later time.  Whoever waits from then
on has its answer after three turns; it can take each of them whatever the clock
shows, and sends and reports nothing. -/
theorem answers_stable_and_truthful
    (ran : (start setup).run? moves = some answered) :
    (∀ now, (answered.party.checkDeadline now).1.tally.phase = .aborted →
      (answered.party.checkDeadline now).1.tally.abortReport.isSome) ∧
    ∀ call ∈ answered.calls, ∀ outcome, call.outcome = some outcome →
      ∀ later session, answered.run? later = some session →
        session.KeepsTo setup outcome := by
  constructor
  · exact fun now => Party.reported_of_checkDeadline (sound_of_run ran)
  · intro call callMem outcome answers later session onward
    have final := faithful_of_run ran call callMem outcome (.inl answers)
    have ranSession : (start setup).run? (moves ++ later) = some session := by
      simpa [run?_append, ran] using onward
    exact keepsTo_of_run ranSession (finalizedAs_of_run onward final)

/-- The only peer does not vote in time, and whoever waits for it answers. -/
def timedOutMoves : List Move :=
  [.start (.lead (.connected [⟨"home"⟩, ⟨"near"⟩])),
    .begin 0,
    .finish 0 (.ok ()),
    .start .await,
    .proceed 1 0,
    .proceed 1 0,
    .proceed 1 30000000000,
    .proceed 1 30000000000,
    .proceed 1 30000000000,
    .begin 1,
    .finish 1 (.ok ()),
    .proceed 1 30000000000,
    .proceed 1 30000000000]

/-- The peer's yes comes too late. -/
def lateVoteMoves : List Move :=
  [.start (.handle (.voteReceived ⟨⟨"near"⟩, ⟨"doc"⟩, 1, none⟩) .disconnected)]

theorem later_wait_answers_the_same :
    ∃ answered call outcome session last,
      (start (.primary ⟨"doc"⟩ ⟨"home"⟩)).run? timedOutMoves = some answered ∧
      call ∈ answered.calls ∧ call.outcome = some outcome ∧
      answered.run? lateVoteMoves = some session ∧
      (session.launch .await).run?
        [.proceed 3 0, .proceed 3 0, .proceed 3 0] = some last ∧
      last.calls[3]? = some ⟨[], none, some outcome⟩ := by
  have run : ((start (.primary ⟨"doc"⟩ ⟨"home"⟩)).run? timedOutMoves).map
      (fun answered => ((answered.calls[1]?.bind Call.outcome).isSome,
        (answered.run? lateVoteMoves).map fun session =>
          (session.calls.length, ((session.launch .await).run?
            [.proceed 3 0, .proceed 3 0, .proceed 3 0]).isSome))) =
        some (true, some (3, true)) := by rfl
  obtain ⟨answered, ran, observed⟩ := Option.map_eq_some_iff.1 run
  obtain ⟨hasAnswered, goesOn⟩ := Prod.mk.inj observed
  obtain ⟨outcome, answer⟩ := Option.isSome_iff_exists.1 hasAnswered
  obtain ⟨call, here, answers⟩ := Option.bind_eq_some_iff.1 answer
  obtain ⟨session, onward, observedLate⟩ := Option.map_eq_some_iff.1 goesOn
  obtain ⟨length, waits⟩ := Prod.mk.inj observedLate
  obtain ⟨last, waited⟩ := Option.isSome_iff_exists.1 waits
  have callMem := List.mem_of_getElem? here
  have keeps := (answers_stable_and_truthful ran).2 call callMem outcome answers
    _ _ onward
  refine ⟨answered, call, outcome, session, last, ran, callMem, answers, onward,
    waited, ?_⟩
  rcases keeps.awaits _ _ waited with
    given | ⟨turns, waiter, there, concludes, count, -⟩
  · simp at given
  · simp only [length] at there count
    obtain rfl : turns = 0 := by simpa [Move.proceeds] using count
    cases concludes
    exact there

end Session

end CreationCommit
