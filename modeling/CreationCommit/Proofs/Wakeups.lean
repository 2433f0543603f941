import CreationCommit.Proofs.Decisiveness

/-!
# Nobody sleeps through a decision

Somebody who waits notes how many changes were announced before looking for the
decision, and sleeps until one more is announced.  Not every look announces
what it changes: an activation does not, and a waiter who resolves the votes
does not either.  But a look that makes the decision does, because the votes
never call for a decision that was not made yet.  So whoever still sleeps when
the creation is decided has an announcement to hear.
-/

namespace CreationCommit

namespace Party

/-- The second party comes from the first, and announced the decision if it made
one. -/
structure Alerts (before after : Party) : Prop where
  announcements : before.announcements ≤ after.announcements
  decision : after.tally.isDecided →
    before.tally.isDecided ∨ before.announcements < after.announcements

section Alerting

variable {party before after : Party}

theorem Alerts.of_announced
    (announced : before.announcements < after.announcements) :
    Alerts before after :=
  ⟨Nat.le_of_lt announced, fun _ => .inr announced⟩

theorem Alerts.of_samePhase (same : after.announcements = before.announcements)
    (phase : after.tally.phase = before.tally.phase) : Alerts before after where
  announcements := Nat.le_of_eq same.symm
  decision := fun decided => .inl (by
    simpa [Tally.isDecided, phase] using decided)

theorem Alerts.refl (party : Party) : Alerts party party :=
  .of_samePhase rfl rfl

theorem announcements_settle (party : Party) :
    party.settle.1.announcements = party.announcements := by
  unfold settle
  split <;> rfl

theorem announcements_conclude (party : Party) :
    party.conclude.1.announcements = party.announcements + 1 :=
  congrArg (· + 1) (announcements_settle party)

/-- A look that concludes announces the change. -/
theorem Alerts.of_conclude
    (same : party.announcements = before.announcements) :
    Alerts before party.conclude.1 := by
  apply Alerts.of_announced
  rw [announcements_conclude, same]
  exact Nat.lt_succ_self _

theorem alerts_lead (view : GroupView) : Alerts party (party.lead view).1 := by
  unfold lead
  split
  · dsimp only
    split
    · split
      · exact .of_announced (Nat.lt_succ_self _)
      · exact .of_announced (Nat.lt_succ_self _)
    · exact .refl party
  · exact .refl party

theorem alerts_enroll (refusal : Option String) :
    Alerts party (party.enroll refusal).1 := by
  unfold enroll
  split
  · exact .refl party
  · exact .of_samePhase rfl rfl

theorem alerts_welcome (peer : PeerId) :
    Alerts party (party.welcome peer).1 := by
  unfold welcome
  split
  · dsimp only
    split
    · exact .of_announced (Nat.lt_succ_self _)
    · exact .refl party
  · exact .refl party

theorem alerts_noteFailure (peer : PeerId) (failure : Failure) :
    Alerts party (party.noteFailure peer failure).1 := by
  unfold noteFailure
  dsimp only
  split
  · exact .of_conclude rfl
  · exact .of_conclude rfl

theorem announcements_weigh (vote : Vote) :
    (party.weigh vote).1.announcements = party.announcements := by
  unfold weigh
  split <;> rfl

theorem alerts_hearVote (vote : Vote) :
    Alerts party (party.hearVote vote).1 := by
  unfold hearVote
  split
  · exact .of_conclude (announcements_weigh vote)
  · exact .refl party

theorem alerts_obeyCommit : Alerts party party.obeyCommit.1 := by
  unfold obeyCommit
  dsimp only
  split
  · exact .of_announced (Nat.lt_succ_self _)
  · exact .of_announced (Nat.lt_succ_self _)

theorem alerts_hearNotice (decision : Decision) (objectId : ObjectId) :
    Alerts party (party.hearNotice decision objectId).1 := by
  unfold hearNotice
  split
  · cases decision with
    | commit => exact alerts_obeyCommit
    | abort => exact .of_conclude rfl
  · exact .refl party

theorem alerts_handle (event : Event) (view : GroupView) :
    Alerts party (party.handle event view).1 := by
  cases event with
  | activated =>
      unfold handle
      dsimp only
      split
      · exact alerts_lead view
      · exact alerts_enroll none
  | memberJoined peer => exact alerts_welcome peer
  | voteReceived vote => exact alerts_hearVote vote
  | memberDeparted peer =>
      simp only [handle, closed, dismiss]
      split
      · exact alerts_noteFailure peer .departed
      · exact .refl party
  | noticeReceived decision objectId =>
      exact alerts_hearNotice decision objectId

theorem alerts_noteResult (opening : Opening)
    (result : Except DeliveryError Unit) :
    Alerts party (party.noteResult opening result).1 := by
  unfold noteResult
  split
  · exact .refl party
  · exact alerts_noteFailure _ _
  · exact .of_conclude rfl
  · exact .of_conclude rfl
  · exact .of_conclude rfl

/-- A waiter does not announce that it resolved the votes, but finds nothing to
resolve; that the time has passed it announces. -/
theorem alerts_checkDeadline (now : Instant)
    (decisive : party.isPrimary = true →
      party.tally.Decisive party.setup.settings.threshold) :
    Alerts party (party.checkDeadline now).1 := by
  unfold checkDeadline
  split
  · rename_i primary
    dsimp only
    rw [resolve_of_decisive (decisive primary)]
    split
    · split
      · exact .of_announced (Nat.lt_succ_self _)
      · rename_i notExpired
        have decided : party.tally.isDecided := by
          simpa [Tally.timeOut, Tally.fixDeadline, Tally.isDecided] using
            notExpired
        exact ⟨Nat.le_refl _, fun _ => .inl decided⟩
    · exact .of_samePhase rfl rfl
  · exact .refl party

theorem alerts_examine (now : Instant)
    (decisive : party.isPrimary = true →
      party.tally.Decisive party.setup.settings.threshold) :
    Alerts party (party.examine now).1 := by
  have checked := alerts_checkDeadline now decisive
  unfold examine
  dsimp only
  split
  · rename_i committed
    have decided := Tally.isDecided_iff.2 (.inl committed)
    exact ⟨checked.announcements, fun _ => checked.decision decided⟩
  · rename_i aborted _
    have decided := Tally.isDecided_iff.2 (.inr aborted)
    have same := announcements_settle (party.checkDeadline now).1
    exact ⟨same ▸ checked.announcements,
      fun _ => same ▸ checked.decision decided⟩
  · exact checked

/-- A look that makes the decision announces it. -/
theorem alerts_look (trigger : Trigger)
    (decisive : party.isPrimary = true →
      party.tally.Decisive party.setup.settings.threshold) :
    Alerts party (party.look trigger).1 := by
  cases trigger with
  | command command =>
      cases command with
      | handle event view => exact alerts_handle event view
      | lead view => exact alerts_lead view
      | enroll refusal => exact alerts_enroll refusal
      | await => exact .refl party
  | result opening result => exact alerts_noteResult opening result
  | clock now =>
      rw [look_clock_fst]
      exact alerts_examine now decisive

/-- Whoever waits on finds no decision. -/
theorem undecided_of_pending {now : Instant} {deadline : Option Instant}
    (sound : (party.examine now).1.tally.Sound)
    (found : (party.examine now).2 = .pending deadline) :
    ¬ (party.examine now).1.tally.isDecided := by
  simp only [examine] at sound found ⊢
  generalize (party.checkDeadline now).1 = checked at sound found ⊢
  cases phase : checked.tally.phase with
  | committed => simp [phase] at found
  | aborted =>
      cases report : checked.tally.abortReport with
      | none =>
          simp only [phase, report] at sound
          have reported := sound.reported.2 phase
          simp [report] at reported
      | some report => simp [phase, report] at found
  | active | voting | prepared => simp [Tally.isDecided_iff, phase]

end Alerting

end Party

/-- What a task of a waiter counts on: it noted changes that were announced, and
if it sleeps although the creation is decided, another was announced since. -/
def Task.Alert (party : Party) : Task → Prop
  | .examine seen => seen ≤ party.announcements
  | .sleep seen _ =>
      seen ≤ party.announcements ∧
        (party.tally.isDecided → seen < party.announcements)
  | _ => True

/-- The call sleeps until a change is announced after the first `seen` ones, or
until its deadline. -/
def Call.SleepsSince (call : Call) (seen : Nat) : Prop :=
  ∃ deadline rest outcome, call = ⟨.sleep seen deadline :: rest, none, outcome⟩

/-- The task stays alert, as later looks announce what they decide. -/
theorem Task.Alert.after {task : Task} {before after : Party}
    (alert : task.Alert before) (alerts : Party.Alerts before after) :
    task.Alert after := by
  have grows := alerts.announcements
  cases task with
  | examine seen => exact Nat.le_trans alert grows
  | sleep seen deadline =>
      obtain ⟨noted, announced⟩ := alert
      constructor
      · exact Nat.le_trans noted grows
      · intro decided
        rcases alerts.decision decided with already | since
        · exact Nat.lt_of_lt_of_le (announced already) grows
        · exact Nat.lt_of_le_of_lt noted since
  | duty | watch | answer => trivial

namespace Session

/-- Every call of the session is alert. -/
def Alert (session : Session) : Prop :=
  ∀ call ∈ session.calls, ∀ task ∈ call.agenda, task.Alert session.party

section Steps

variable {session next : Session} {move : Move}

theorem announcements_compose {party after : Party} {duty : Duty}
    {letter : Option Letter} (composed : compose party duty = (after, letter)) :
    after.announcements = party.announcements := by
  have same : (compose party duty).1.announcements = party.announcements := by
    unfold compose
    split
    · unfold Party.compose
      split
      · rfl
      · unfold Party.castVote
        split <;> rfl
    · rfl
    · rfl
  rwa [composed] at same

namespace Step

/-- A step that makes the decision announces it. -/
theorem alerts (step : Step session move next)
    (decisive : session.party.isPrimary = true →
      session.party.tally.Decisive session.party.setup.settings.threshold) :
    Party.Alerts session.party next.party := by
  cases step with
  | launches command =>
      rw [launch_eq]
      exact Party.alerts_look _ decisive
  | begins index duty rest outcome party letter turn composed =>
      obtain ⟨-, -, -, sameTally⟩ := compose_letter composed
      exact .of_samePhase (announcements_compose composed)
        (congrArg Tally.phase sameTally)
  | hears | waits | learns => exact Party.alerts_look _ decisive
  | closes | reports | watches | wakes | answers | abandons => exact .refl _

/-- A step keeps the calls alert: it adds a sleeper only if the creation is
undecided after it. -/
theorem alert (step : Step session move next) (sound : session.party.tally.Sound)
    (alerts : Party.Alerts session.party next.party)
    (alert : session.Alert) : next.Alert := by
  intro call callMem task isOwed
  cases step.origin call callMem task isOwed with
  | kept earlier earlierMem _ wasOwed =>
      exact (alert earlier earlierMem task wasOwed).after alerts
  | watches => exact alerts.announcements
  | waits earlier earlierMem seen deadline now wasOwed found left =>
      have noted := (alert earlier earlierMem _ wasOwed).after alerts
      have stillSound :=
        (Party.advancesOn_examine session.party now).sound sound
      have undecided : ¬ next.party.tally.isDecided := by
        rw [left, Party.look_clock_fst]
        exact Party.undecided_of_pending stillSound found
      exact ⟨noted, fun decided => absurd decided undecided⟩
  | leaves | awaits | wakes | learns => trivial

end Step

end Steps

variable {setup : Setup} {moves : List Move} {last : Session}

/-- On a primary the votes call for no decision after any run. -/
theorem decisive_of_isPrimary (ran : (start setup).run? moves = some last)
    (primary : last.party.isPrimary = true) :
    last.party.tally.Decisive last.party.setup.settings.threshold := by
  have sameSetup : last.party.setup = setup := setup_of_run ran
  have role : setup.role = .primary :=
    sameSetup ▸ Party.isPrimary_iff.1 primary
  rw [sameSetup]
  exact decisive_of_run role ran

theorem alert_of_run (ran : (start setup).run? moves = some last) :
    last.Alert := by
  apply run_induction (motive := fun _ session => session.Alert) _ _ ran
  · simp [start, Alert]
  · intro earlier session move next ranEarlier alert step
    have alerts := step.alerts (decisive_of_isPrimary ranEarlier)
    exact step.alert (sound_of_run ranEarlier) alerts alert

/-- Whatever calls overlap on a party and however many of them wait: nobody
sleeps while the creation is decided unless a change was announced since the
sleeper noted how many there were, so that it may wake up at once, whatever the
clock shows.  And a move that makes the decision announces it. -/
theorem no_wakeup_lost (ran : (start setup).run? moves = some last) :
    (∀ index call seen, last.calls[index]? = some call →
      call.SleepsSince seen →
      seen ≤ last.party.announcements ∧
      (seen = last.party.announcements → ¬ last.party.tally.isDecided) ∧
      (last.party.tally.isDecided → ∀ now, ∃ next,
        last.move? (.proceed index now) = some next)) ∧
    ∀ move next, last.move? move = some next →
      ¬ last.party.tally.isDecided → next.party.tally.isDecided →
      last.party.announcements < next.party.announcements := by
  constructor
  · rintro index call seen atIndex ⟨deadline, rest, outcome, rfl⟩
    have asleep : (Task.sleep seen deadline).Alert last.party :=
      alert_of_run ran _ (List.mem_of_getElem? atIndex) _ (by simp)
    obtain ⟨noted, announced⟩ := asleep
    refine ⟨noted, ?_, ?_⟩
    · intro nothingNew decided
      have more := announced decided
      omega
    · intro decided now
      have awake : isAwake last.party now seen deadline = true := by
        simp [isAwake, announced decided]
      exact ⟨last.setCall index ⟨.watch :: rest, none, outcome⟩, by
        simp only [move?, proceed?, atIndex, awake, if_true]⟩
  · intro move next moved undecided decided
    have alerts := (step_of_move? moved).alerts (decisive_of_isPrimary ran)
    exact (alerts.decision decided).resolve_left undecided

/-- A replica hears of the abort while somebody waits for the decision. -/
def abortWhileWaitingMoves : List Move :=
  [.start .await,
    .proceed 0 0,
    .proceed 0 0,
    .start (.handle (.noticeReceived .abort ⟨"doc"⟩) .disconnected)]

theorem abort_wakes_waiter :
    ∃ session next,
      (start (.replica ⟨"doc"⟩ ⟨"near"⟩ ⟨"home"⟩)).run?
        abortWhileWaitingMoves = some session ∧
      session.party.tally.isDecided ∧
      session.calls[0]? = some ⟨[.sleep 0 none], none, none⟩ ∧
      session.move? (.proceed 0 0) = some next := by
  have run : ((start (.replica ⟨"doc"⟩ ⟨"near"⟩ ⟨"home"⟩)).run?
      abortWhileWaitingMoves).map (fun session =>
        (session.party.tally.isDecided, session.calls[0]?)) =
        some (true, some ⟨[.sleep 0 none], none, none⟩) := by rfl
  obtain ⟨session, ran, observed⟩ := Option.map_eq_some_iff.1 run
  obtain ⟨decided, asleep⟩ := Prod.mk.inj observed
  have sleeps : Call.SleepsSince ⟨[.sleep 0 none], none, none⟩ 0 :=
    ⟨none, [], none, rfl⟩
  obtain ⟨next, wakes⟩ :=
    ((no_wakeup_lost ran).1 0 _ 0 asleep sleeps).2.2 decided 0
  exact ⟨session, next, ran, decided, asleep, wakes⟩

end Session

end CreationCommit
