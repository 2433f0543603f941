import CreationCommit.Proofs.Tidings

/-!
# The order of the votes

Of every participant the primary hears once: it says yes, refuses or departs.
Whatever the order in which this happens, the creation is committed if the
threshold allows all the failures, and aborted otherwise.  What the order
decides is only which failures come before an abort; they are as many as exceed
the threshold.
-/

namespace CreationCommit

/-- What is heard of a participant. -/
inductive Ballot
  | yes (sequence : Int64)
  | refusal (sequence : Int64) (cause : String)
  | departure

namespace Ballot

/-- Why the participant fails by the ballot. -/
def failure? : Ballot → Option Failure
  | yes _ => none
  | refusal _ cause => some (.refused cause)
  | departure => some .departed

/-- The event by which the primary hears the ballot of the peer. -/
def event (objectId : ObjectId) (peer : PeerId) : Ballot → Event
  | yes sequence => .voteReceived ⟨peer, objectId, sequence, none⟩
  | refusal sequence cause =>
      .voteReceived ⟨peer, objectId, sequence, some cause⟩
  | departure => .memberDeparted peer

/-- The command to take the ballot, where the group is as its view says. -/
def command (objectId : ObjectId) (views : PeerId → GroupView)
    (ballot : PeerId × Ballot) : Command :=
  .handle (ballot.2.event objectId ballot.1) (views ballot.1)

def tiding (ballot : PeerId × Ballot) : Tiding :=
  (ballot.1, ballot.2.failure?)

/-- The number of ballots that are failures. -/
def failed (ballots : List (PeerId × Ballot)) : Nat :=
  ballots.countP fun ballot => ballot.2.failure?.isSome

theorem brings (setup : Setup) (views : PeerId → GroupView)
    (ballot : PeerId × Ballot) :
    (Trigger.command (command setup.objectId views ballot)).Brings setup
      (tiding ballot) := by
  obtain ⟨peer, ballot⟩ := ballot
  cases ballot with
  | yes sequence => exact .vote ⟨peer, setup.objectId, sequence, none⟩ _ rfl
  | refusal sequence cause =>
      exact .vote ⟨peer, setup.objectId, sequence, some cause⟩ _ rfl
  | departure => exact .departure peer _

variable {ballots : List (PeerId × Ballot)}

theorem map_tiding_fst :
    (ballots.map tiding).map Prod.fst = ballots.map Prod.fst := by
  simp [tiding, Function.comp_def]

theorem countP_tiding :
    (ballots.map tiding).countP Tiding.isFailure = failed ballots := by
  rw [List.countP_map]
  rfl

theorem mem_tidings {peer : PeerId} {failure : Failure}
    (isTiding : (peer, some failure) ∈ ballots.map tiding) :
    ∃ ballot, (peer, ballot) ∈ ballots ∧ ballot.failure? = some failure := by
  obtain ⟨⟨voter, ballot⟩, isBallot, same⟩ := List.mem_map.1 isTiding
  obtain ⟨rfl, fails⟩ := Prod.mk.inj same
  exact ⟨ballot, isBallot, fails⟩

end Ballot

/-- Peers that are admitted before anybody takes part have not been heard of. -/
theorem Tally.Heard.of_admits {before after : Tally} {peers : List PeerId}
    (unopened : before.outstanding = ∅ ∧ before.failures = ∅ ∧
      before.acknowledged = [])
    (admits : before.Admits peers after) : after.Heard peers [] where
  outstanding := by simp [admits.outstanding, unopened.1]
  failures := by simp [admits.failures, unopened.2.1]
  size := by
    rw [admits.failures, unopened.2.1]
    rfl
  acknowledged := admits.acknowledged.trans unopened.2.2

theorem Party.standing_of_lead {setup : Setup} (role : setup.role = .primary)
    {view : GroupView} {participants : List PeerId}
    (asks : ((Party.start setup).lead view).2 = participants.map .request) :
    participants.Nodup ∧
      ((Party.start setup).lead view).1.tally.Standing
        setup.settings.threshold participants [] := by
  have primary : (Party.start setup).isPrimary = true := isPrimary_iff.2 role
  have first : (Party.start setup).tally.activateOnce.2 = true := rfl
  have sound : (Party.start setup).tally.Sound := .start setup.objectId
  have injective : Function.Injective Opening.request := fun _ _ same =>
    Opening.request.inj same
  cases view with
  | disconnected =>
      obtain rfl : participants = [] := by
        simpa [lead, primary, first, eq_comm] using asks
      constructor
      · exact List.nodup_nil
      · simp only [lead, primary, first, if_true]
        have nobody :=
          (Tally.SameVotes.refl (Party.start setup).tally).admits_nil
        exact .commits rfl (.of_admits (sound.unopened (.inl rfl))
          (nobody.sameVotes ⟨rfl, rfl, rfl, rfl⟩))
  | connected members =>
      have activated := sound.perform .activateOnce
      have admits := Tally.admits_openVoting activated
        (setup.selection.choose members) setup.localPeer
      simp only [lead, primary, first, if_true] at asks ⊢
      obtain rfl := List.map_injective_iff.2 injective asks
      constructor
      · exact admits.nodup
      · exact .of_resolve_within rfl
          (.of_admits (activated.unopened (.inl rfl)) admits) (Nat.zero_le _)

/-- Whether a request turns out not to have been accepted. -/
def Trigger.rejectsRequest : Trigger → Bool
  | .result (.request _) (.error _) => true
  | _ => false

/-- The command that a move gives. -/
def Move.command? : Move → Option Command
  | .start command => some command
  | _ => none

namespace Session

/-- The commands given by the moves. -/
def commands (moves : List Move) : List Command :=
  moves.filterMap Move.command?

/-- No call of the session waits for the decision. -/
def NobodyWaits (session : Session) : Prop :=
  ∀ call ∈ session.calls, ∀ task ∈ call.agenda, ∃ duty, task = .duty duty

section Steps

variable {session next : Session} {move : Move}

theorem NobodyWaits.of_turn (nobody : session.NobodyWaits) {index : Nat}
    {call : Call} {task : Task} {rest : List Task}
    (turn : session.calls[index]? = some call)
    (agenda : call.agenda = task :: rest) : ∃ duty, task = .duty duty :=
  nobody call (List.mem_of_getElem? turn) task (by simp [agenda])

theorem Step.nobodyWaits (step : Step session move next)
    (notAwait : move ≠ .start .await) (nobody : session.NobodyWaits) :
    next.NobodyWaits := by
  intro call callMem task isOwed
  cases step.origin call callMem task isOwed with
  | kept earlier earlierMem _ wasOwed =>
      exact nobody earlier earlierMem task wasOwed
  | leaves duty => exact ⟨duty, rfl⟩
  | awaits isAwait => exact absurd isAwait notAwait
  | watches earlier earlierMem wasOwed
  | waits earlier earlierMem _ _ _ wasOwed
  | wakes earlier earlierMem _ _ wasOwed
  | learns earlier earlierMem _ _ _ _ wasOwed =>
      obtain ⟨duty, isDuty⟩ := nobody earlier earlierMem _ wasOwed
      cases isDuty

/-- On a primary that nobody waits on, only commands and rejected requests touch
the tally. -/
theorem Step.tally_of_no_command (step : Step session move next)
    (role : session.party.setup.role = .primary) (composed : session.Composed)
    (nobody : session.NobodyWaits) (noCommand : move.command? = none)
    (accepted : ∀ look, session.look? move = some look →
      look.trigger.rejectsRequest = false) :
    next.party.tally = session.party.tally := by
  cases step with
  | launches command => simp [Move.command?] at noCommand
  | begins index duty rest outcome party letter turn composes =>
      exact (compose_letter composes).2.2.2
  | hears index opening rest letter outcome result turn =>
      have isLook : session.look? (.finish index result) =
          some ⟨session.party, .result opening result⟩ := by
        simp [look?, trigger?, turn]
      cases opening with
      | request peer =>
          cases result with
          | ok => rfl
          | error error => cases accepted _ isLook
      | vote refusal =>
          obtain ⟨writes, tasks, agenda⟩ :=
            composed _ (List.mem_of_getElem? turn) letter rfl
          have isVote : letter.duty = .opening (.vote refusal) :=
            (Task.duty.inj (List.cons.inj agenda).1).symm
          obtain ⟨recipient, message⟩ := letter
          cases message with
          | vote vote =>
              have replica := writes.1
              simp [role] at replica
          | request | notice => cases isVote
  | waits _ _ _ _ _ _ turn | learns _ _ _ _ _ _ _ turn =>
      obtain ⟨duty, isDuty⟩ := nobody.of_turn turn rfl
      cases isDuty
  | closes | reports | watches | wakes | answers | abandons => rfl

end Steps

/-- The primary asks the participants, and then the ballots are taken in this
order.  Every request is accepted; whatever else is sent may fail, and the calls
may overlap. -/
structure Polls (setup : Setup) (participants : List PeerId)
    (ballots : List (PeerId × Ballot)) (moves : List Move) (last : Session) :
    Prop where
  ran : (start setup).run? moves = some last
  commands : ∃ begun view views,
    (begun = .lead view ∨ begun = .handle .activated view) ∧
      ((Party.start setup).lead view).2 = participants.map .request ∧
      commands moves = begun :: ballots.map (Ballot.command setup.objectId views)
  accepted : ∀ look ∈ (start setup).history moves,
    look.trigger.rejectsRequest = false

variable {setup : Setup} {participants : List PeerId}
  {ballots : List (PeerId × Ballot)} {moves : List Move} {last : Session}

/-- Before the first command there is no other move. -/
theorem starts_of_commands {begun : Command} {arrivals : List Command}
    (ran : (start setup).run? moves = some last)
    (given : commands moves = begun :: arrivals) :
    ∃ rest, moves = .start begun :: rest ∧ commands rest = arrivals := by
  cases moves with
  | nil => simp [commands] at given
  | cons move rest =>
      cases move with
      | start command =>
          obtain ⟨rfl, later⟩ := List.cons.inj given
          exact ⟨rest, rfl, later⟩
      | begin | finish | proceed | abandon =>
          rw [run?_cons] at ran
          obtain ⟨next, moved, -⟩ := Option.bind_eq_some_iff.1 ran
          simp [move?, begin?, finish?, proceed?, abandon?, start] at moved

theorem launch_of_begun (role : setup.role = .primary) {begun : Command}
    {view : GroupView}
    (begins : begun = .lead view ∨ begun = .handle .activated view) :
    ((start setup).launch begun).party = ((Party.start setup).lead view).1 := by
  have primary : (Party.start setup).isPrimary = true :=
    Party.isPrimary_iff.2 role
  rcases begins with rfl | rfl
  · rfl
  · simp [launch, accept, start, Party.handle, primary, Party.opened]

/-- One more ballot is heard as its tiding. -/
theorem Step.hears_ballot {session next : Session} {ballot : PeerId × Ballot}
    {views : PeerId → GroupView} (role : setup.role = .primary)
    (ran : (start setup).run? moves = some session)
    (step : Step session
      (.start (Ballot.command setup.objectId views ballot)) next)
    (standing : session.party.tally.Standing setup.settings.threshold
      participants (ballots.map Ballot.tiding))
    (admitted : ballot.1 ∈ participants)
    (new : ballot.1 ∉ ballots.map Prod.fst) :
    next.party.tally.Standing setup.settings.threshold participants
      (ballots.map Ballot.tiding ++ [Ballot.tiding ballot]) := by
  have sameSetup : session.party.setup = setup := setup_of_run ran
  have brings := Ballot.brings session.party.setup views ballot
  obtain ⟨sound, tidy⟩ := tidy_of_run role ran
  have isLook : next.party = (session.party.look
      (.command (Ballot.command setup.objectId views ballot))).1 := by
    cases step
    rw [launch_eq]
  rw [isLook]
  rw [← Ballot.map_tiding_fst] at new
  exact standing.hear (sameSetup ▸ role) (sameSetup ▸ rfl) sound tidy
    (decisive_of_run role ran) admitted new (sameSetup ▸ brings)

/-- The ballots taken so far are what the tally heard of. -/
theorem standing_of_run (role : setup.role = .primary) {begun : Command}
    {views : PeerId → GroupView}
    (notAwait : begun ≠ .await)
    (opens : ((start setup).launch begun).party.tally.Standing
      setup.settings.threshold participants [])
    (ran : ((start setup).launch begun).run? moves = some last)
    (accepted : ∀ look ∈ ((start setup).launch begun).history moves,
      look.trigger.rejectsRequest = false)
    (taken : commands moves =
      ballots.map (Ballot.command setup.objectId views))
    (distinct : (ballots.map Prod.fst).Nodup)
    (admitted : ballots.map Prod.fst ⊆ participants) :
    last.NobodyWaits ∧
      last.party.tally.Standing setup.settings.threshold participants
        (ballots.map Ballot.tiding) := by
  revert accepted taken distinct admitted
  revert ballots
  refine run_induction (motive := fun moves last =>
    ∀ {ballots : List (PeerId × Ballot)},
      (∀ look ∈ ((start setup).launch begun).history moves,
        look.trigger.rejectsRequest = false) →
      commands moves = ballots.map (Ballot.command setup.objectId views) →
      (ballots.map Prod.fst).Nodup → ballots.map Prod.fst ⊆ participants →
      last.NobodyWaits ∧
        last.party.tally.Standing setup.settings.threshold participants
          (ballots.map Ballot.tiding)) ?_ ?_ ran
  · intro ballots accepted taken distinct admitted
    obtain rfl : ballots = [] := List.map_eq_nil_iff.1 taken.symm
    have step : Step (start setup) (.start begun) _ := .launches begun
    have nobody : (start setup).NobodyWaits := by
      simp [start, NobodyWaits]
    refine ⟨step.nobodyWaits ?_ nobody, opens⟩
    exact fun isAwait => notAwait (Move.start.inj isAwait)
  · intro earlier session move next ranEarlier known step ballots accepted taken
      distinct admitted
    have ranSession : (start setup).run? (.start begun :: earlier) =
        some session := ranEarlier
    rw [history_concat ranEarlier] at accepted
    have acceptedBefore := fun look isLook =>
      accepted look (List.mem_append_left _ isLook)
    cases isCommand : move.command? with
    | none =>
        have takenBefore : commands earlier =
            ballots.map (Ballot.command setup.objectId views) := by
          simpa [commands, isCommand] using taken
        obtain ⟨nobody, standing⟩ :=
          known acceptedBefore takenBefore distinct admitted
        have same := step.tally_of_no_command
          (setup_of_run ranSession ▸ role) (composed_of_run ranSession) nobody
          isCommand fun look isLook =>
            accepted look (List.mem_append_right _ (by simp [isLook]))
        refine ⟨step.nobodyWaits ?_ nobody, same ▸ standing⟩
        rintro rfl
        cases isCommand
    | some command =>
        have split : commands earlier ++ [command] =
            ballots.map (Ballot.command setup.objectId views) := by
          rw [← taken]
          simp [commands, isCommand]
        obtain ⟨heard, latest, rfl, takenBefore, isLatest⟩ :=
          List.append_eq_map_iff.1 split
        obtain rfl : move = .start command := by
          cases move <;> simp_all [Move.command?]
        obtain ⟨ballot, rfl, rfl⟩ := List.map_eq_singleton_iff.1 isLatest
        simp only [List.map_append, List.map_cons, List.map_nil,
          List.nodup_append] at distinct admitted ⊢
        obtain ⟨distinctBefore, -, new⟩ := distinct
        obtain ⟨nobody, standing⟩ := known acceptedBefore takenBefore.symm
          distinctBefore (fun peer isHeard =>
            admitted (List.mem_append_left _ isHeard))
        have isNew : ballot.1 ∉ heard.map Prod.fst := fun already =>
          new _ already ballot.1 (List.mem_singleton_self _) rfl
        constructor
        · exact step.nobodyWaits (by simp [Ballot.command]) nobody
        · exact step.hears_ballot role ranSession standing
            (admitted (by simp)) isNew

end Session

namespace Tally

/-- What becomes of a creation once all the tidings are heard: it is committed
and everyone was heard of, or it is aborted and recorded one failure more than
the threshold allows. -/
inductive Verdict (threshold : Nat) (peers : List PeerId)
    (received : List Tiding) (tally : Tally) : Prop
  | commits (committed : tally.phase = .committed)
      (heard : tally.Heard peers received)
      (few : received.countP Tiding.isFailure ≤ threshold)
  | aborts (aborted : tally.phase = .aborted)
      (many : threshold < received.countP Tiding.isFailure)
      (size : tally.failures.size = threshold + 1)
      (failures : ∀ peer failure, tally.failures.get? peer = some failure →
        (peer, some failure) ∈ received)

variable {threshold : Nat} {peers : List PeerId} {received : List Tiding}
  {tally : Tally}

theorem Standing.verdict (standing : tally.Standing threshold peers received)
    (decisive : tally.Decisive threshold)
    (all : peers ⊆ received.map Prod.fst) :
    tally.Verdict threshold peers received := by
  cases standing with
  | votes voting heard =>
      apply absurd _ (decisive.outstanding voting)
      apply PeerSet.ext
      intro peer
      rw [heard.outstanding]
      constructor
      · exact fun awaited => absurd (all awaited.1) awaited.2
      · exact fun none => absurd none (PeerMap.not_mem_empty peer)
  | commits committed heard =>
      have few := decisive.bounded (.inr committed)
      rw [heard.size] at few
      exact .commits committed heard few
  | exceeds earlier last aborted before heard failing full =>
      have size : tally.failures.size = threshold + 1 := by
        rw [heard.size, List.countP_append, full, List.countP_singleton,
          if_pos failing]
      refine .aborts aborted ?_ size ?_
      · have among := before.sublist.countP_le (p := Tiding.isFailure)
        rw [← heard.size, size] at among
        exact among
      · exact fun peer failure isFailure =>
          before.subset ((heard.failures peer failure).1 isFailure)

namespace Verdict

/-- The phase depends on nothing but the number of failures. -/
theorem phase_eq (verdict : tally.Verdict threshold peers received) :
    tally.phase = if received.countP Tiding.isFailure ≤ threshold then
      .committed else .aborted := by
  cases verdict with
  | commits committed _ few => rw [if_pos few, committed]
  | aborts aborted many => rw [if_neg (Nat.not_le.2 many), aborted]

theorem heard (verdict : tally.Verdict threshold peers received)
    (committed : tally.phase = .committed) : tally.Heard peers received := by
  cases verdict with
  | commits _ heard => exact heard
  | aborts aborted => cases committed.symm.trans aborted

theorem recorded (verdict : tally.Verdict threshold peers received)
    (aborted : tally.phase = .aborted) :
    tally.failures.size = threshold + 1 ∧
      ∀ peer failure, tally.failures.get? peer = some failure →
        (peer, some failure) ∈ received := by
  cases verdict with
  | commits committed => cases aborted.symm.trans committed
  | aborts _ _ size failures => exact ⟨size, failures⟩

end Verdict

end Tally

namespace Session

variable {setup : Setup} {participants : List PeerId}
  {ballots others : List (PeerId × Ballot)} {moves otherMoves : List Move}
  {last other : Session}

theorem Polls.verdict (role : setup.role = .primary)
    (polls : Polls setup participants ballots moves last)
    (eachOnce : (ballots.map Prod.fst).Perm participants) :
    last.party.tally.Verdict setup.settings.threshold participants
      (ballots.map Ballot.tiding) := by
  obtain ⟨begun, view, views, begins, asks, given⟩ := polls.commands
  obtain ⟨rest, rfl, taken⟩ := starts_of_commands polls.ran given
  obtain ⟨distinct, opens⟩ := Party.standing_of_lead role asks
  have notAwait : begun ≠ .await := by
    rcases begins with rfl | rfl <;> simp
  rw [← launch_of_begun role begins] at opens
  obtain ⟨-, standing⟩ := standing_of_run role notAwait opens polls.ran
    (fun look isLook => polls.accepted look (List.mem_append_right _ isLook))
    taken (eachOnce.nodup_iff.2 distinct) eachOnce.subset
  apply standing.verdict (decisive_of_run role polls.ran)
  rw [Ballot.map_tiding_fst]
  exact eachOnce.symm.subset

/-- Once each participant was heard of, whatever the order: the creation is
committed if no more of them failed than the threshold allows, and aborted
otherwise.  If it is committed, the same failures are recorded in any order, and
the same peers acknowledged.  If it is aborted, one failure more than the
threshold allows is recorded, and each as its peer's ballot gave it. -/
theorem decision_independent_of_order (role : setup.role = .primary)
    (polls : Polls setup participants ballots moves last)
    (pollsOther : Polls setup participants others otherMoves other)
    (eachOnce : (ballots.map Prod.fst).Perm participants)
    (reordered : ballots.Perm others) :
    let threshold := setup.settings.threshold
    let phase : Phase :=
      if Ballot.failed ballots ≤ threshold then .committed else .aborted
    last.party.tally.phase = phase ∧ other.party.tally.phase = phase ∧
    (phase = .committed →
      last.party.tally.failures = other.party.tally.failures ∧
        last.party.tally.acknowledged.Perm other.party.tally.acknowledged) ∧
    (phase = .aborted → ∀ session ∈ [last, other],
      session.party.tally.failures.size = threshold + 1 ∧
        ∀ peer failure,
          session.party.tally.failures.get? peer = some failure →
            ∃ ballot, (peer, ballot) ∈ ballots ∧
              ballot.failure? = some failure) := by
  intro threshold phase
  have sameTidings := reordered.map Ballot.tiding
  have otherOnce : (others.map Prod.fst).Perm participants :=
    (reordered.map Prod.fst).symm.trans eachOnce
  have verdict := polls.verdict role eachOnce
  have verdictOther := pollsOther.verdict role otherOnce
  have phaseLast : last.party.tally.phase = phase := by
    rw [verdict.phase_eq, Ballot.countP_tiding]
  have phaseOther : other.party.tally.phase = phase := by
    rw [verdictOther.phase_eq, ← sameTidings.countP_eq, Ballot.countP_tiding]
  refine ⟨phaseLast, phaseOther, fun committed => ⟨?_, ?_⟩, fun aborted => ?_⟩
  · have heard := verdict.heard (phaseLast.trans committed)
    have heardOther := verdictOther.heard (phaseOther.trans committed)
    apply PeerMap.ext_get?
    intro peer
    ext failure
    rw [heard.failures, heardOther.failures, sameTidings.mem_iff]
  · have heard := verdict.heard (phaseLast.trans committed)
    have heardOther := verdictOther.heard (phaseOther.trans committed)
    rw [heard.acknowledged, heardOther.acknowledged]
    exact sameTidings.filterMap Tiding.yes?
  · obtain ⟨size, failures⟩ := verdict.recorded (phaseLast.trans aborted)
    obtain ⟨sizeOther, failuresOther⟩ :=
      verdictOther.recorded (phaseOther.trans aborted)
    intro session isEither
    rcases List.mem_pair.1 isEither with rfl | rfl
    · exact ⟨size, fun peer failure isFailure =>
        Ballot.mem_tidings (failures peer failure isFailure)⟩
    · exact ⟨sizeOther, fun peer failure isFailure => Ballot.mem_tidings
        (sameTidings.mem_iff.2 (failuresOther peer failure isFailure))⟩

/-- Three peers are asked, and the ballots are taken afterwards. -/
def pollMoves (ballots : List (PeerId × Ballot)) : List Move :=
  [.start (.lead (.connected [⟨"home"⟩, ⟨"near"⟩, ⟨"far"⟩, ⟨"away"⟩])),
    .begin 0,
    .finish 0 (.ok ()),
    .begin 0,
    .finish 0 (.ok ()),
    .begin 0,
    .finish 0 (.ok ())] ++
    ballots.map fun ballot =>
      .start (Ballot.command ⟨"doc"⟩ (fun _ => .disconnected) ballot)

/-- One peer departs, one refuses and one says yes. -/
def mixedBallots : List (PeerId × Ballot) :=
  [(⟨"near"⟩, .departure), (⟨"far"⟩, .refusal 1 "full"), (⟨"away"⟩, .yes 1)]

theorem polls_of_pollMoves
    (ran : (start (.primary ⟨"doc"⟩ ⟨"home"⟩)).run? (pollMoves ballots) =
      some last)
    (accepted : ((start (.primary ⟨"doc"⟩ ⟨"home"⟩)).history
      (pollMoves ballots)).all (!·.trigger.rejectsRequest) = true) :
    Polls (.primary ⟨"doc"⟩ ⟨"home"⟩) [⟨"near"⟩, ⟨"far"⟩, ⟨"away"⟩] ballots
      (pollMoves ballots) last where
  ran := ran
  commands := by
    refine ⟨_, .connected [⟨"home"⟩, ⟨"near"⟩, ⟨"far"⟩, ⟨"away"⟩],
      fun _ => .disconnected, .inl rfl, by rfl, ?_⟩
    simp [commands, pollMoves, Move.command?, List.filterMap_cons,
      List.filterMap_map, Function.comp_def, Setup.primary]
  accepted := by simpa using accepted

/-- Which of the two failures is recorded depends on the order, but not the
decision. -/
theorem decision_of_mixedBallots :
    ∃ last other,
      Polls (.primary ⟨"doc"⟩ ⟨"home"⟩) [⟨"near"⟩, ⟨"far"⟩, ⟨"away"⟩]
        mixedBallots (pollMoves mixedBallots) last ∧
      Polls (.primary ⟨"doc"⟩ ⟨"home"⟩) [⟨"near"⟩, ⟨"far"⟩, ⟨"away"⟩]
        mixedBallots.reverse (pollMoves mixedBallots.reverse) other ∧
      (Setup.primary ⟨"doc"⟩ ⟨"home"⟩).role = .primary ∧
      (mixedBallots.map Prod.fst).Perm [⟨"near"⟩, ⟨"far"⟩, ⟨"away"⟩] ∧
      mixedBallots.Perm mixedBallots.reverse ∧
      last.party.tally.phase = .aborted ∧
      other.party.tally.phase = .aborted ∧
      last.party.tally.failures ≠ other.party.tally.failures ∧
      last.party.tally.failures.size = 1 ∧
      other.party.tally.failures.size = 1 := by
  have run : ((start (.primary ⟨"doc"⟩ ⟨"home"⟩)).run?
      (pollMoves mixedBallots)).map (fun session =>
        session.party.tally.failures.get? ⟨"near"⟩) =
        some (some .departed) := by rfl
  have runOther : ((start (.primary ⟨"doc"⟩ ⟨"home"⟩)).run?
      (pollMoves mixedBallots.reverse)).map (fun session =>
        session.party.tally.failures.get? ⟨"near"⟩) = some none := by rfl
  obtain ⟨last, ran, failed⟩ := Option.map_eq_some_iff.1 run
  obtain ⟨other, ranOther, notFailed⟩ := Option.map_eq_some_iff.1 runOther
  have polls := polls_of_pollMoves ran (by rfl)
  have pollsOther := polls_of_pollMoves ranOther (by rfl)
  have reordered : mixedBallots.Perm mixedBallots.reverse :=
    (List.reverse_perm _).symm
  have eachOnce : (mixedBallots.map Prod.fst).Perm
      [⟨"near"⟩, ⟨"far"⟩, ⟨"away"⟩] := .refl _
  obtain ⟨phase, phaseOther, -, aborts⟩ :=
    decision_independent_of_order rfl polls pollsOther eachOnce reordered
  have recorded := aborts (by rfl)
  refine ⟨last, other, polls, pollsOther, rfl, eachOnce, reordered, phase,
    phaseOther, fun same => ?_, (recorded last (by simp)).1,
    (recorded other (by simp)).1⟩
  rw [same, notFailed] at failed
  cases failed

end Session

end CreationCommit
