import CreationCommit.Proofs.Leniency
import CreationCommit.Station

/-!
# A commit under a higher threshold

An abort at a station is never undone.  Two stations that differ in nothing but
their failure thresholds stay alike while the same is done to both, for as long
as the stricter one has not aborted: they attempt to send the same letters,
which take as long, and so their clocks agree as well.  A creation that commits
therefore commits under every higher threshold, and in the same way.
-/

namespace CreationCommit

namespace Station

variable (station : Station)

theorem party_close (closing : Closing) :
    (station.close closing).party = station.party := by
  cases closing with
  | notify decision peer => rfl
  | report decision => rfl

theorem party_closeAll (closings : List Closing) :
    (station.closeAll closings).party = station.party := by
  induction closings generalizing station with
  | nil => rfl
  | cons closing rest ih =>
      exact (ih (station.close closing)).trans (station.party_close closing)

theorem party_closeUntil (bound : Instant) (closings : List Closing) :
    (station.closeUntil bound closings).1.party = station.party := by
  induction closings generalizing station with
  | nil => rfl
  | cons closing rest ih =>
      cases closing with
      | report decision => exact ih (station.report decision)
      | notify decision peer =>
          unfold closeUntil
          split
          · exact ih (station.close (.notify decision peer))
          · rfl

theorem party_concludeWait (bound : Instant) (closings : List Closing)
    (outcome : Outcome) :
    (station.concludeWait bound closings outcome).1.party = station.party :=
  station.party_closeUntil bound closings

section Aborted

variable {station} (aborted : station.party.tally.phase = .aborted)
include aborted

theorem phase_perform_of_aborted (opening : Opening) :
    (station.perform opening).party.tally.phase = .aborted := by
  have composed : (station.party.compose opening).1.tally.phase = .aborted := by
    rwa [station.party.tally_compose opening]
  unfold perform
  generalize station.party.compose opening = composition at composed
  rcases composition with ⟨party, _ | letter⟩
  · exact composed
  · rw [party_closeAll]
    exact party.phase_look_of_aborted composed (.result opening _)

theorem phase_discharge_of_aborted (duty : Duty) :
    (station.discharge duty).party.tally.phase = .aborted := by
  cases duty with
  | opening opening => exact phase_perform_of_aborted aborted opening
  | closing closing =>
      unfold discharge
      rwa [party_close]

theorem phase_discharges_of_aborted (duties : List Duty) :
    (duties.foldl discharge station).party.tally.phase = .aborted := by
  induction duties generalizing station with
  | nil => exact aborted
  | cons duty rest ih => exact ih (phase_discharge_of_aborted aborted duty)

theorem phase_follow_of_aborted (trigger : Trigger) :
    (station.follow (station.party.look trigger)).party.tally.phase =
      .aborted := by
  apply phase_discharges_of_aborted
  exact station.party.phase_look_of_aborted aborted trigger

theorem phase_awaitDeadline_of_aborted (bound deadline : Instant) :
    (station.awaitDeadline bound deadline).1.party.tally.phase = .aborted := by
  have examined := station.party.phase_examine_of_aborted aborted deadline
  unfold awaitDeadline
  split
  · dsimp only
    split
    · rwa [party_concludeWait]
    · exact examined
  · exact aborted

theorem phase_await_of_aborted (limit : Duration) :
    (station.await limit).1.party.tally.phase = .aborted := by
  have examined := station.party.phase_examine_of_aborted aborted station.now
  unfold await
  dsimp only
  split
  · rwa [party_concludeWait]
  · exact phase_awaitDeadline_of_aborted examined _ _
  · exact examined

theorem phase_act_of_aborted (action : Action) :
    (station.act action).1.party.tally.phase = .aborted := by
  cases action with
  | event event =>
      exact phase_follow_of_aborted aborted
        (.command (.handle event station.group.view))
  | lead view => exact phase_follow_of_aborted aborted (.command (.lead view))
  | enroll refusal =>
      exact phase_follow_of_aborted aborted (.command (.enroll refusal))
  | await limit => exact phase_await_of_aborted aborted limit
  | pause | setDelay | refuse | closeCarrier | group | look => exact aborted

end Aborted

/-- The station whose party tolerates more failures. -/
def tolerating (station : Station) (least : UInt64) : Station :=
  { station with party := station.party.tolerating least }

/-- The more lenient station is like the stricter one, unless the latter has
aborted. -/
def Mirrors (least : UInt64) (strict lenient : Station) : Prop :=
  strict.party.tally.phase = .aborted ∨ lenient = strict.tolerating least

variable (least : UInt64)

theorem close_tolerating (closing : Closing) :
    (station.tolerating least).close closing =
      (station.close closing).tolerating least := by
  cases closing with
  | notify decision peer => rfl
  | report decision => rfl

theorem closeAll_tolerating (closings : List Closing) :
    (station.tolerating least).closeAll closings =
      (station.closeAll closings).tolerating least := by
  induction closings generalizing station with
  | nil => rfl
  | cons closing rest ih =>
      change ((station.tolerating least).close closing).closeAll rest = _
      rw [close_tolerating]
      exact ih (station.close closing)

theorem closeUntil_tolerating (bound : Instant) (closings : List Closing) :
    (station.tolerating least).closeUntil bound closings =
      ((station.closeUntil bound closings).1.tolerating least,
        (station.closeUntil bound closings).2) := by
  induction closings generalizing station with
  | nil => rfl
  | cons closing rest ih =>
      cases closing with
      | report decision => exact ih (station.report decision)
      | notify decision peer =>
          by_cases inTime : station.sendEnd ≤ bound
          · have inTimeToo : (station.tolerating least).sendEnd ≤ bound :=
              inTime
            simp only [closeUntil, if_pos inTime, if_pos inTimeToo,
              close_tolerating, ih]
          · have lateToo : ¬ (station.tolerating least).sendEnd ≤ bound :=
              inTime
            simp only [closeUntil, if_neg inTime, if_neg lateToo]
            rfl

theorem mirrors_closeAll {strict lenient : Party × List Closing}
    (alike : Party.AlikeUnlessAborted least strict lenient) :
    Mirrors least ({ station with party := strict.1 }.closeAll strict.2)
      ({ station with party := lenient.1 }.closeAll lenient.2) := by
  rcases alike with aborted | rfl
  · left
    rwa [party_closeAll]
  · exact .inr (closeAll_tolerating { station with party := strict.1 } _ _)

theorem mirrors_perform (opening : Opening) :
    Mirrors least (station.perform opening)
      ((station.tolerating least).perform opening) := by
  unfold perform
  dsimp only [tolerating]
  rw [Party.compose_tolerating]
  rcases station.party.compose opening with ⟨party, _ | letter⟩
  · exact .inr rfl
  · exact mirrors_closeAll ({ station with party }.send letter).1 least
      (party.alike_noteResult least opening _)

theorem mirrors_discharge (duty : Duty) :
    Mirrors least (station.discharge duty)
      ((station.tolerating least).discharge duty) := by
  cases duty with
  | opening opening => exact station.mirrors_perform least opening
  | closing closing => exact .inr (station.close_tolerating least closing)

theorem mirrors_discharges (duties : List Duty) :
    Mirrors least (duties.foldl discharge station)
      (duties.foldl discharge (station.tolerating least)) := by
  induction duties generalizing station with
  | nil => exact .inr rfl
  | cons duty rest ih =>
      rcases station.mirrors_discharge least duty with aborted | same
      · exact .inl (phase_discharges_of_aborted aborted rest)
      · rw [List.foldl_cons, List.foldl_cons, same]
        exact ih (station.discharge duty)

theorem mirrors_follow (trigger : Trigger) :
    Mirrors least (station.follow (station.party.look trigger))
      ((station.tolerating least).follow
        ((station.tolerating least).party.look trigger)) := by
  rcases station.party.alike_look least trigger with aborted | same
  · exact .inl (phase_discharges_of_aborted aborted _)
  · unfold follow
    dsimp only [tolerating]
    rw [same]
    exact mirrors_discharges _ least _

/-- Unless the stricter station's party ends aborted, the more lenient station
ends like it and answers the same. -/
def AlikeUnlessAborted {α : Type} (least : UInt64)
    (strict lenient : Station × α) : Prop :=
  strict.1.party.tally.phase = .aborted ∨
    lenient = (strict.1.tolerating least, strict.2)

theorem concludeWait_tolerating (bound : Instant) (closings : List Closing)
    (outcome : Outcome) :
    (station.tolerating least).concludeWait bound closings outcome =
      ((station.concludeWait bound closings outcome).1.tolerating least,
        (station.concludeWait bound closings outcome).2) := by
  simp only [concludeWait, closeUntil_tolerating]

theorem alike_awaitDeadline (bound deadline : Instant) :
    AlikeUnlessAborted least (station.awaitDeadline bound deadline)
      ((station.tolerating least).awaitDeadline bound deadline) := by
  unfold awaitDeadline
  split
  · dsimp only [tolerating]
    rcases station.party.alike_examine least deadline with aborted | same
    · left
      split
      · rwa [party_concludeWait]
      · exact aborted
    · right
      rw [same]
      obtain ⟨party, finding⟩ := station.party.examine deadline
      cases finding with
      | decided closings outcome =>
          exact concludeWait_tolerating
            { station with party, now := deadline } least bound closings outcome
      | pending deadline => rfl
  · exact .inr rfl

theorem alike_await (limit : Duration) :
    AlikeUnlessAborted least (station.await limit)
      ((station.tolerating least).await limit) := by
  unfold await
  dsimp only [tolerating]
  rcases station.party.alike_examine least station.now with aborted | same
  · left
    split
    · rwa [party_concludeWait]
    · exact phase_awaitDeadline_of_aborted aborted _ _
    · exact aborted
  · rw [same]
    obtain ⟨party, finding⟩ := station.party.examine station.now
    cases finding with
    | decided closings outcome =>
        exact .inr (concludeWait_tolerating { station with party } least _
          closings outcome)
    | pending deadline =>
        cases deadline with
        | some deadline =>
            exact alike_awaitDeadline { station with party } least _ deadline
        | none => exact .inr rfl

theorem Mirrors.silent {strict lenient : Station} {least : UInt64}
    (mirrors : Mirrors least strict lenient) :
    AlikeUnlessAborted least (strict, Answer.silent)
      (lenient, Answer.silent) := by
  rcases mirrors with aborted | rfl
  · exact .inl aborted
  · exact .inr rfl

/-- Whatever is done to a party, a higher threshold makes no difference unless
it aborts. -/
theorem alike_act (action : Action) :
    AlikeUnlessAborted least (station.act action)
      ((station.tolerating least).act action) := by
  cases action with
  | event event =>
      exact (station.mirrors_follow least
        (.command (.handle event station.group.view))).silent
  | lead view =>
      exact (station.mirrors_follow least
        (.command (.lead view))).silent
  | enroll refusal =>
      exact (station.mirrors_follow least
        (.command (.enroll refusal))).silent
  | await limit =>
      rcases station.alike_await least limit with aborted | same
      · exact .inl aborted
      · right
        simp only [act, same]
  | pause | setDelay | refuse | closeCarrier | group | look => exact .inr rfl

/-- Do one thing after the other to the party, and list the answers. -/
def actAll (station : Station) : List Action → Station × List Answer
  | [] => (station, [])
  | action :: rest =>
      let (station, answer) := station.act action
      let (station, answers) := station.actAll rest
      (station, answer :: answers)

theorem phase_actAll_of_aborted {station : Station}
    (aborted : station.party.tally.phase = .aborted) (actions : List Action) :
    (station.actAll actions).1.party.tally.phase = .aborted := by
  induction actions generalizing station with
  | nil => exact aborted
  | cons action rest ih => exact ih (phase_act_of_aborted aborted action)

theorem alike_actAll (actions : List Action) :
    AlikeUnlessAborted least (station.actAll actions)
      ((station.tolerating least).actAll actions) := by
  -- Wherever the stricter station aborts, it is still aborted at the end.
  induction actions generalizing station with
  | nil => exact .inr rfl
  | cons action rest ih =>
      rcases station.alike_act least action with aborted | same
      · exact .inl (phase_actAll_of_aborted aborted rest)
      · rcases ih (station.act action).1 with aborted | sameRest
        · exact .inl aborted
        · right
          simp only [actAll, same, sameRest]

/-- What becomes of a party under a threshold, and what it answers. -/
def playUnder (threshold : UInt64) (setup : Setup) (carrier : Carrier)
    (group : Group) (actions : List Action) : Station × List Answer :=
  (start (setup.withThreshold threshold) carrier group).actAll actions

/-- A creation that commits under a threshold commits under every higher one
as well when the same is done to the party: with the same tally at the same
instant, after the same attempts to send, the same reports to the local object
and the same answers. -/
theorem commits_under_higher_threshold {low high : UInt64} (raised : low ≤ high)
    (setup : Setup) (carrier : Carrier) (group : Group) (actions : List Action)
    (commits : (playUnder low setup carrier group actions).1.party.tally.phase =
      .committed) :
    (playUnder high setup carrier group actions).1.party.tally.phase =
        .committed ∧
      (playUnder high setup carrier group actions).1.party.tally =
        (playUnder low setup carrier group actions).1.party.tally ∧
      (playUnder high setup carrier group actions).1.attempts =
        (playUnder low setup carrier group actions).1.attempts ∧
      (playUnder high setup carrier group actions).1.callbacks =
        (playUnder low setup carrier group actions).1.callbacks ∧
      (playUnder high setup carrier group actions).1.now =
        (playUnder low setup carrier group actions).1.now ∧
      (playUnder high setup carrier group actions).2 =
        (playUnder low setup carrier group actions).2 := by
  have alike := (start (setup.withThreshold low) carrier group).alike_actAll high
    actions
  have lenient : (start (setup.withThreshold low) carrier group).tolerating high =
      start (setup.withThreshold high) carrier group := by
    simp only [start, tolerating, Party.start, Party.tolerating,
      setup.tolerating_withThreshold raised]
    rfl
  rw [lenient] at alike
  rcases alike with aborted | same
  · rw [playUnder, aborted] at commits
    contradiction
  · have same : playUnder high setup carrier group actions =
        ((playUnder low setup carrier group actions).1.tolerating high,
          (playUnder low setup carrier group actions).2) := same
    rw [same]
    exact ⟨commits, rfl, rfl, rfl, rfl, rfl⟩

/-- One of two peers refuses, the other says yes, and somebody waits for the
decision. -/
def refusedOnce : List Action :=
  [.lead (.connected [⟨"home"⟩, ⟨"near"⟩, ⟨"far"⟩]),
    .event (.voteReceived ⟨⟨"near"⟩, ⟨"doc"⟩, 1, some "full"⟩),
    .event (.voteReceived ⟨⟨"far"⟩, ⟨"doc"⟩, 1, none⟩),
    .await ⟨1⟩]

/-- One failure is allowed, so two are. -/
theorem commits_when_two_may_fail :
    let setup := Setup.primary ⟨"doc"⟩ ⟨"home"⟩
    let group := Group.ofList [⟨"home"⟩, ⟨"near"⟩, ⟨"far"⟩]
    let carrier := Carrier.recording .start
    (1 : UInt64) ≤ 2 ∧
      (playUnder 1 setup carrier group refusedOnce).1.party.tally.phase =
        .committed ∧
      (playUnder 2 setup carrier group refusedOnce).1.party.tally.phase =
        .committed ∧
      (playUnder 2 setup carrier group refusedOnce).1.callbacks = [.commit] := by
  intro setup group carrier
  have raised : (1 : UInt64) ≤ 2 := by decide
  have commits : (playUnder 1 setup carrier group
      refusedOnce).1.party.tally.phase = .committed := by decide +kernel
  obtain ⟨commitsToo, -, -, callbacks, -, -⟩ :=
    commits_under_higher_threshold raised setup carrier group refusedOnce commits
  have told : (playUnder 1 setup carrier group refusedOnce).1.callbacks =
      [.commit] := by decide +kernel
  exact ⟨raised, commits, commitsToo, callbacks.trans told⟩

/-- Without a failure allowed, the refusal aborts what the threshold of one
commits. -/
example : (playUnder 0 (.primary ⟨"doc"⟩ ⟨"home"⟩) (.recording .start)
    (.ofList [⟨"home"⟩, ⟨"near"⟩, ⟨"far"⟩]) refusedOnce).1.party.tally.phase =
      .aborted := by
  rfl

end Station

end CreationCommit
