import CreationCommit.Proofs.PrimaryLooks
import CreationCommit.Proofs.ReplicaLooks

/-!
# The steps of a session

A move launches a call, or gives one call its turn: the call begins or ends a
send, reports to the local object, looks for the decision, sleeps, wakes up,
answers, or is given up.  Only the launch, the end of an opening send and the
look for the decision touch the tally, and each of them is one look.
-/

namespace CreationCommit

/-- The duty that a letter carries out. -/
def Letter.duty (letter : Letter) : Duty :=
  match letter.message with
  | .request _ => .opening (.request letter.recipient)
  | .vote vote => .opening (.vote vote.refusal)
  | .notice decision _ => .closing (.notify decision letter.recipient)

/-- Whether a letter says what a party of the given setup says. -/
def Setup.Writes (setup : Setup) (letter : Letter) : Prop :=
  match letter.message with
  | .request request =>
      request.sender = setup.localPeer ∧ request.objectId = setup.objectId
  | .vote vote =>
      setup.role = .replica letter.recipient ∧
        vote.voter = setup.localPeer ∧ vote.objectId = setup.objectId
  | .notice _ objectId => objectId = setup.objectId

/-- The call that has its turn with a move. -/
def Move.turn? : Move → Option Nat
  | .start _ => none
  | .begin call => some call
  | .finish call _ => some call
  | .proceed call _ => some call
  | .abandon call => some call

namespace Session

/-- What one move does to a session. -/
inductive Step (session : Session) : Move → Session → Prop
  | launches (command : Command) :
      Step session (.start command) (session.launch command)
  | begins (index : Nat) (duty : Duty) (rest : List Task)
      (outcome : Option Outcome) (party : Party) (letter : Letter)
      (turn : session.calls[index]? = some ⟨.duty duty :: rest, none, outcome⟩)
      (composed : compose session.party duty = (party, some letter)) :
      Step session (.begin index)
        { session.setCall index ⟨.duty duty :: rest, some letter, outcome⟩ with
          party, attempts := session.attempts ++ [letter] }
  | hears (index : Nat) (opening : Opening) (rest : List Task)
      (letter : Letter) (outcome : Option Outcome)
      (result : Except DeliveryError Unit)
      (turn : session.calls[index]? =
        some ⟨.duty (.opening opening) :: rest, some letter, outcome⟩) :
      Step session (.finish index result)
        { session.setCall index
            ⟨tasksOf (session.party.look (.result opening result)).2 ++ rest,
              none, outcome⟩ with
          party := (session.party.look (.result opening result)).1 }
  | closes (index : Nat) (closing : Closing) (rest : List Task)
      (letter : Letter) (outcome : Option Outcome)
      (result : Except DeliveryError Unit)
      (turn : session.calls[index]? =
        some ⟨.duty (.closing closing) :: rest, some letter, outcome⟩) :
      Step session (.finish index result)
        (session.setCall index ⟨rest, none, outcome⟩)
  | reports (index : Nat) (now : Instant) (decision : Decision)
      (rest : List Task) (outcome : Option Outcome)
      (turn : session.calls[index]? =
        some ⟨.duty (.closing (.report decision)) :: rest, none, outcome⟩) :
      Step session (.proceed index now)
        { session.setCall index ⟨rest, none, outcome⟩ with
          callbacks := session.callbacks ++ [decision] }
  | watches (index : Nat) (now : Instant) (rest : List Task)
      (outcome : Option Outcome)
      (turn : session.calls[index]? = some ⟨.watch :: rest, none, outcome⟩) :
      Step session (.proceed index now)
        (session.setCall index
          ⟨.examine session.party.announcements :: rest, none, outcome⟩)
  | waits (index : Nat) (now : Instant) (seen : Nat) (rest : List Task)
      (outcome : Option Outcome) (deadline : Option Instant)
      (turn : session.calls[index]? =
        some ⟨.examine seen :: rest, none, outcome⟩)
      (found : (session.party.examine now).2 = .pending deadline)
      (idle : (session.party.look (.clock now)).2 = []) :
      Step session (.proceed index now)
        { session.setCall index (.ofTasks (.sleep seen deadline :: rest)) with
          party := (session.party.look (.clock now)).1 }
  | learns (index : Nat) (now : Instant) (seen : Nat) (rest : List Task)
      (before : Option Outcome) (closings : List Closing) (outcome : Outcome)
      (turn : session.calls[index]? =
        some ⟨.examine seen :: rest, none, before⟩)
      (found : (session.party.examine now).2 = .decided closings outcome) :
      Step session (.proceed index now)
        { session.setCall index
            (.ofTasks (tasksOf (session.party.look (.clock now)).2 ++
              .answer outcome :: rest)) with
          party := (session.party.look (.clock now)).1 }
  | wakes (index : Nat) (now : Instant) (seen : Nat)
      (deadline : Option Instant) (rest : List Task)
      (outcome : Option Outcome)
      (turn : session.calls[index]? =
        some ⟨.sleep seen deadline :: rest, none, outcome⟩)
      (awake : isAwake session.party now seen deadline = true) :
      Step session (.proceed index now)
        (session.setCall index ⟨.watch :: rest, none, outcome⟩)
  | answers (index : Nat) (now : Instant) (outcome : Outcome)
      (rest : List Task) (before : Option Outcome)
      (turn : session.calls[index]? =
        some ⟨.answer outcome :: rest, none, before⟩) :
      Step session (.proceed index now)
        (session.setCall index ⟨rest, none, some outcome⟩)
  | abandons (index : Nat) (call : Call)
      (turn : session.calls[index]? = some call) :
      Step session (.abandon index)
        (session.setCall index ⟨[], none, call.outcome⟩)

variable {session next : Session} {move : Move}

theorem tasksOf_closings (closings : List Closing) :
    tasksOf (closings.map .closing) = closingTasks closings := by
  simp [tasksOf, closingTasks, Function.comp_def]

/-- A launch is a look, and the duties of the look are the call's tasks. -/
theorem launch_eq (session : Session) (command : Command) :
    session.launch command =
      { session with
        party := (session.party.look (.command command)).1
        calls := session.calls ++ [.ofTasks
          (tasksOf (session.party.look (.command command)).2 ++
            if command = .await then [.watch] else [])] } := by
  cases command <;>
    simp [launch, accept, Party.look, Party.opened, tasksOf]

theorem step_of_begin? {index : Nat}
    (begun : session.begin? index = some next) :
    Step session (.begin index) next := by
  unfold begin? at begun
  split at begun
  · rename_i duty rest outcome turn
    split at begun
    · simp at begun
    · rename_i party letter composed
      cases begun
      exact .begins index duty rest outcome party letter turn composed
  · simp at begun

theorem step_of_finish? {index : Nat} {result : Except DeliveryError Unit}
    (finished : session.finish? index result = some next) :
    Step session (.finish index result) next := by
  unfold finish? at finished
  split at finished
  · rename_i opening rest letter outcome turn
    have heard := Step.hears index opening rest letter outcome result turn
    simp only [Party.look, Party.closed, tasksOf_closings] at heard
    rw [← Option.some.inj finished]
    exact heard
  · rename_i closing rest letter outcome turn
    cases finished
    exact .closes index closing rest letter outcome result turn
  · simp at finished

theorem step_of_examine {index seen : Nat} {now : Instant} {rest : List Task}
    {outcome : Option Outcome}
    (turn : session.calls[index]? =
      some ⟨.examine seen :: rest, none, outcome⟩) :
    Step session (.proceed index now)
      (session.examine index now seen rest) := by
  cases found : (session.party.examine now).2 with
  | pending deadline =>
      have look := Party.look_clock_of_pending session.party found
      have waited := Step.waits index now seen rest outcome deadline turn found
        (by rw [look])
      rw [look] at waited
      simpa only [examine, found] using waited
  | decided closings answer =>
      have learnt :=
        Step.learns index now seen rest outcome closings answer turn found
      rw [Party.look_clock_of_decided session.party found,
        tasksOf_closings] at learnt
      simpa only [examine, found, List.append_assoc] using learnt

theorem step_of_proceed? {index : Nat} {now : Instant}
    (proceeded : session.proceed? index now = some next) :
    Step session (.proceed index now) next := by
  unfold proceed? at proceeded
  split at proceeded
  · cases proceeded
    exact .reports index now _ _ _ ‹_›
  · cases proceeded
    exact .watches index now _ _ ‹_›
  · cases proceeded
    exact step_of_examine ‹_›
  · split at proceeded
    · cases proceeded
      exact .wakes index now _ _ _ _ ‹_› ‹_›
    · simp at proceeded
  · cases proceeded
    exact .answers index now _ _ _ ‹_›
  · simp at proceeded

/-- Every move that is possible is one of the steps. -/
theorem step_of_move? (moved : session.move? move = some next) :
    Step session move next := by
  cases move with
  | start command =>
      cases moved
      exact .launches command
  | begin index => exact step_of_begin? moved
  | finish index result => exact step_of_finish? moved
  | proceed index now => exact step_of_proceed? moved
  | abandon index =>
      simp only [move?, abandon?] at moved
      split at moved
      · rename_i call turn
        cases moved
        exact .abandons index call turn
      · simp at moved

/-- And every step is a move that is possible. -/
theorem Step.move?_eq (step : Step session move next) :
    session.move? move = some next := by
  cases step with
  | launches command => rfl
  | begins index duty rest outcome party letter turn composed =>
      simp only [move?, begin?, turn, composed]
  | hears index opening rest letter outcome result turn =>
      simp only [move?, finish?, turn, Party.look, Party.closed,
        tasksOf_closings]
  | closes index closing rest letter outcome result turn =>
      simp only [move?, finish?, turn]
  | reports _ _ _ _ _ turn | watches _ _ _ _ turn | answers _ _ _ _ _ turn =>
      simp only [move?, proceed?, turn]
  | waits index now seen rest outcome deadline turn found =>
      simp only [move?, proceed?, turn, examine, found,
        Party.look_clock_of_pending _ found]
  | learns index now seen rest before closings outcome turn found =>
      simp only [move?, proceed?, turn, examine, found,
        Party.look_clock_of_decided _ found, tasksOf_closings]
  | wakes index now seen deadline rest outcome turn awake =>
      simp only [move?, proceed?, turn, awake, if_true]
  | abandons index call turn => simp only [move?, abandon?, turn]

/-- Composing a letter touches neither the tally nor the setup. -/
theorem compose_letter {party after : Party} {duty : Duty} {letter : Letter}
    (composed : compose party duty = (after, some letter)) :
    letter.duty = duty ∧ party.setup.Writes letter ∧
      after.setup = party.setup ∧ after.tally = party.tally := by
  cases duty with
  | opening opening =>
      cases opening with
      | request peer =>
          cases composed
          exact ⟨rfl, ⟨rfl, rfl⟩, rfl, rfl⟩
      | vote refusal =>
          simp only [compose, Party.compose, Party.castVote] at composed
          split at composed
          · simp at composed
          · rename_i home role
            cases composed
            exact ⟨rfl, ⟨role, rfl, rfl⟩, rfl, rfl⟩
  | closing closing =>
      cases closing with
      | notify decision peer =>
          cases composed
          exact ⟨rfl, rfl, rfl, rfl⟩
      | report decision => simp [compose] at composed

end Session

/-- A call that sends is sending the letter of its first duty. -/
def Call.Composed (setup : Setup) (call : Call) : Prop :=
  ∀ letter, call.sending = some letter → setup.Writes letter ∧
    ∃ rest, call.agenda = .duty letter.duty :: rest

theorem Call.composed_of_not_sending {setup : Setup} {call : Call}
    (notSending : call.sending = none) : call.Composed setup := by
  simp [Call.Composed, notSending]

/-- Whether a call has a vote to send, or is sending it. -/
def Call.Votes (call : Call) : Prop :=
  ∃ refusal, .duty (.opening (.vote refusal)) ∈ call.agenda

/-- Whether a call has learnt the outcome it waited for. -/
def Call.Learned (outcome : Outcome) (call : Call) : Prop :=
  call.outcome = some outcome ∨ .answer outcome ∈ call.agenda

/-- Whether a call has learnt the decision it waited for. -/
def Call.Informed (call : Call) : Prop :=
  call.outcome.isSome ∨ ∃ outcome, .answer outcome ∈ call.agenda

theorem Call.informed_iff {call : Call} :
    call.Informed ↔ ∃ outcome, call.Learned outcome := by
  simp only [Informed, Learned, Option.isSome_iff_exists, exists_or]

namespace Session

variable {session next : Session} {move : Move}

/-- Every call of the session that sends is at the duty it carries out. -/
def Composed (session : Session) : Prop :=
  ∀ call ∈ session.calls, call.Composed session.party.setup

theorem forall_mem_set {holds : Call → Prop} {calls : List Call} {index : Nat}
    {new : Call} (all : ∀ call ∈ calls, holds call) (holdsNew : holds new) :
    ∀ call ∈ calls.set index new, holds call := by
  intro call callMem
  rcases List.mem_or_eq_of_mem_set callMem with old | isNew
  · exact all call old
  · exact isNew ▸ holdsNew

theorem forall_mem_concat {holds : Call → Prop} {calls : List Call} {new : Call}
    (all : ∀ call ∈ calls, holds call) (holdsNew : holds new) :
    ∀ call ∈ calls ++ [new], holds call := by
  intro call callMem
  rcases List.mem_append.1 callMem with old | isNew
  · exact all call old
  · exact List.mem_singleton.1 isNew ▸ holdsNew

namespace Step

theorem setup (step : Step session move next) :
    next.party.setup = session.party.setup := by
  cases step with
  | launches command =>
      rw [launch_eq]
      exact (Party.advancesOn_look _ _).setup
  | begins _ _ _ _ _ _ _ composed => exact (compose_letter composed).2.2.1
  | hears | waits | learns => exact (Party.advancesOn_look _ _).setup
  | closes | reports | watches | wakes | answers | abandons => rfl

theorem composed (step : Step session move next)
    (composed : session.Composed) : next.Composed := by
  have setup := step.setup
  unfold Composed
  rw [setup]
  cases step with
  | launches command =>
      apply forall_mem_concat composed
      exact Call.composed_of_not_sending rfl
  | begins index duty rest outcome party letter turn composes =>
      obtain ⟨rfl, writes, -, -⟩ := compose_letter composes
      apply forall_mem_set composed
      rintro _ ⟨⟩
      exact ⟨writes, rest, rfl⟩
  | hears | closes | reports | watches | waits | learns | wakes | answers |
      abandons =>
      apply forall_mem_set composed
      exact Call.composed_of_not_sending rfl

end Step

/-- Where a task comes from that a call has after a step: a call had it before,
it is a duty, or somebody who waits turns to it. -/
inductive TaskOrigin (session next : Session) (move : Move) : Task → Prop
  | kept (call : Call) (callMem : call ∈ session.calls) (task : Task)
      (isOwed : task ∈ call.agenda) : TaskOrigin session next move task
  | leaves (duty : Duty) : TaskOrigin session next move (.duty duty)
  | awaits (isAwait : move = .start .await) :
      TaskOrigin session next move .watch
  | watches (call : Call) (callMem : call ∈ session.calls)
      (isOwed : .watch ∈ call.agenda) :
      TaskOrigin session next move (.examine session.party.announcements)
  | waits (call : Call) (callMem : call ∈ session.calls) (seen : Nat)
      (deadline : Option Instant) (now : Instant)
      (isOwed : .examine seen ∈ call.agenda)
      (found : (session.party.examine now).2 = .pending deadline)
      (left : next.party = (session.party.look (.clock now)).1) :
      TaskOrigin session next move (.sleep seen deadline)
  | wakes (call : Call) (callMem : call ∈ session.calls) (seen : Nat)
      (deadline : Option Instant) (isOwed : .sleep seen deadline ∈ call.agenda) :
      TaskOrigin session next move .watch
  | learns (call : Call) (callMem : call ∈ session.calls) (seen : Nat)
      (now : Instant) (closings : List Closing) (outcome : Outcome)
      (isOwed : .examine seen ∈ call.agenda)
      (found : (session.party.examine now).2 = .decided closings outcome)
      (left : next.party = (session.party.look (.clock now)).1) :
      TaskOrigin session next move (.answer outcome)

theorem TaskOrigin.of_mem_tasksOf {duties : List Duty} {task : Task}
    (isDuty : task ∈ tasksOf duties) : TaskOrigin session next move task := by
  obtain ⟨duty, -, rfl⟩ := List.mem_map.1 isDuty
  exact .leaves duty

theorem Step.origin (step : Step session move next) :
    ∀ call ∈ next.calls, ∀ task ∈ call.agenda,
      TaskOrigin session next move task := by
  have kept {after : Session} (call : Call) (callMem : call ∈ session.calls)
      (task : Task) (isOwed : task ∈ call.agenda) :
      TaskOrigin session after move task := .kept call callMem task isOwed
  cases step with
  | launches command =>
      rw [launch_eq]
      apply forall_mem_concat kept
      intro task isOwed
      rcases List.mem_append.1 isOwed with isDuty | isWatch
      · exact .of_mem_tasksOf isDuty
      · split at isWatch
        · rename_i isAwait
          obtain rfl := List.mem_singleton.1 isWatch
          exact .awaits (congrArg _ isAwait)
        · simp at isWatch
  | begins index duty rest outcome party letter turn composed =>
      apply forall_mem_set kept
      exact fun task isOwed =>
        kept _ (List.mem_of_getElem? turn) task isOwed
  | hears index opening rest letter outcome result turn =>
      apply forall_mem_set kept
      intro task isOwed
      rcases List.mem_append.1 isOwed with isDuty | later
      · exact .of_mem_tasksOf isDuty
      · exact kept _ (List.mem_of_getElem? turn) task
          (List.mem_cons_of_mem _ later)
  | closes _ _ _ _ _ _ turn | reports _ _ _ _ _ turn
  | answers _ _ _ _ _ turn =>
      apply forall_mem_set kept
      exact fun task later => kept _ (List.mem_of_getElem? turn) task
        (List.mem_cons_of_mem _ later)
  | watches index now rest outcome turn =>
      have callMem := List.mem_of_getElem? turn
      refine forall_mem_set kept (List.forall_mem_cons.2 ⟨?_, ?_⟩)
      · exact .watches _ callMem List.mem_cons_self
      · exact fun task later => kept _ callMem task
          (List.mem_cons_of_mem _ later)
  | waits index now seen rest outcome deadline turn found idle =>
      have callMem := List.mem_of_getElem? turn
      refine forall_mem_set kept (List.forall_mem_cons.2 ⟨?_, ?_⟩)
      · exact .waits _ callMem seen deadline now List.mem_cons_self found rfl
      · exact fun task later => kept _ callMem task
          (List.mem_cons_of_mem _ later)
  | learns index now seen rest before closings outcome turn found =>
      have callMem := List.mem_of_getElem? turn
      apply forall_mem_set kept
      intro task isOwed
      rcases List.mem_append.1 isOwed with isDuty | later
      · exact .of_mem_tasksOf isDuty
      · rcases List.mem_cons.1 later with rfl | later
        · exact .learns _ callMem seen now closings outcome List.mem_cons_self
            found rfl
        · exact kept _ callMem task (List.mem_cons_of_mem _ later)
  | wakes index now seen deadline rest outcome turn awake =>
      have callMem := List.mem_of_getElem? turn
      refine forall_mem_set kept (List.forall_mem_cons.2 ⟨?_, ?_⟩)
      · exact .wakes _ callMem seen deadline List.mem_cons_self
      · exact fun task later => kept _ callMem task
          (List.mem_cons_of_mem _ later)
  | abandons index call turn => exact forall_mem_set kept (by simp)

theorem exists_mem_set {holds : Call → Prop} {calls : List Call} {index : Nat}
    {old new : Call} (turn : calls[index]? = some old)
    (kept : holds old → holds new) (found : ∃ call ∈ calls, holds call) :
    ∃ call ∈ calls.set index new, holds call := by
  obtain ⟨call, callMem, holdsCall⟩ := found
  obtain ⟨position, isAt⟩ := List.mem_iff_getElem?.1 callMem
  by_cases here : index = position
  · subst here
    obtain rfl : old = call := by simpa [turn] using isAt
    have inRange := (List.getElem?_eq_some_iff.1 turn).1
    exact ⟨new, List.mem_set inRange new, kept holdsCall⟩
  · refine ⟨call, List.mem_iff_getElem?.2 ⟨position, ?_⟩, holdsCall⟩
    rw [List.getElem?_set_ne here, isAt]

/-- Whoever has learnt a decision has learnt a finalized one. -/
def Truthful (session : Session) : Prop :=
  ∀ call ∈ session.calls, call.Informed →
    session.party.tally.finalized = true

/-- An activated replica is active only as long as its vote is on the way. -/
def Voting (session : Session) : Prop :=
  session.party.tally.activated = true →
    session.party.tally.phase = .active → ∃ call ∈ session.calls, call.Votes

namespace Step

/-- A call stays as it is while others have their turns. -/
theorem call_elsewhere (step : Step session move next) {index : Nat}
    {call : Call} (here : session.calls[index]? = some call)
    (elsewhere : move.turn? ≠ some index) : next.calls[index]? = some call := by
  cases step with
  | launches command =>
      have inRange := (List.getElem?_eq_some_iff.1 here).1
      rw [launch_eq]
      exact (List.getElem?_append_left inRange).trans here
  | begins turn | hears turn | closes turn | reports turn | watches turn
  | waits turn | learns turn | wakes turn | answers turn | abandons turn =>
      have differs : turn ≠ index := fun same =>
        elsewhere (congrArg some same)
      exact (List.getElem?_set_ne differs).trans here

theorem finalized (step : Step session move next)
    (finalized : session.party.tally.finalized = true) :
    next.party.tally.finalized = true := by
  cases step with
  | launches command =>
      rw [launch_eq]
      exact (Party.advancesOn_look _ _).finalized finalized
  | begins _ _ _ _ _ _ _ composed =>
      simpa [(compose_letter composed).2.2.2] using finalized
  | hears | waits | learns =>
      exact (Party.advancesOn_look _ _).finalized finalized
  | closes | reports | watches | wakes | answers | abandons => exact finalized

/-- Whoever has answered an outcome had learnt it. -/
theorem learned_of_outcome (step : Step session move next)
    {outcome : Outcome} :
    ∀ call ∈ next.calls, call.outcome = some outcome →
      ∃ earlier ∈ session.calls, earlier.Learned outcome := by
  have known (call : Call) (callMem : call ∈ session.calls)
      (answered : call.outcome = some outcome) :
      ∃ earlier ∈ session.calls, earlier.Learned outcome :=
    ⟨call, callMem, .inl answered⟩
  cases step with
  | launches command =>
      rw [launch_eq]
      exact forall_mem_concat known (by simp [Call.ofTasks])
  | begins _ _ _ _ _ _ turn | hears _ _ _ _ _ _ turn | closes _ _ _ _ _ _ turn
  | reports _ _ _ _ _ turn | watches _ _ _ _ turn | wakes _ _ _ _ _ _ turn
  | abandons _ _ turn =>
      apply forall_mem_set known
      exact fun answered => known _ (List.mem_of_getElem? turn) answered
  | waits | learns => exact forall_mem_set known (by simp [Call.ofTasks])
  | answers index now answer rest before turn =>
      apply forall_mem_set known
      rintro ⟨⟩
      exact ⟨_, List.mem_of_getElem? turn, .inr List.mem_cons_self⟩

/-- An outcome that a call has learnt after a step was learnt before it, or is
found by it. -/
theorem learned (step : Step session move next) {outcome : Outcome} :
    ∀ call ∈ next.calls, call.Learned outcome →
      (∃ earlier ∈ session.calls, earlier.Learned outcome) ∨
        ∃ now closings,
          (session.party.examine now).2 = .decided closings outcome ∧
            next.party = (session.party.look (.clock now)).1 := by
  rintro call callMem (answered | toAnswer)
  · exact .inl (step.learned_of_outcome call callMem answered)
  · cases step.origin call callMem _ toAnswer with
    | kept earlier earlierMem _ isOwed =>
        exact .inl ⟨earlier, earlierMem, .inr isOwed⟩
    | learns _ _ _ now closings _ _ found left =>
        exact .inr ⟨now, closings, found, left⟩

theorem truthful (step : Step session move next)
    (truthful : session.Truthful) : next.Truthful := by
  intro call callMem informed
  obtain ⟨outcome, learned⟩ := Call.informed_iff.1 informed
  rcases step.learned call callMem learned with
    ⟨earlier, earlierMem, already⟩ | ⟨now, closings, found, left⟩
  · have known := Call.informed_iff.2 ⟨outcome, already⟩
    exact step.finalized (truthful earlier earlierMem known)
  · rw [left]
    exact Party.finalized_of_decided session.party found

/-- What a look leaves to its call keeps the vote of an active replica. -/
theorem voting_of_look (role : session.party.setup.role ≠ .primary)
    (notVoting : session.party.tally.phase ≠ .voting)
    (voting : session.Voting) {trigger : Trigger} {calls : List Call}
    (kept : (∃ call ∈ session.calls, call.Votes) → ∃ call ∈ calls, call.Votes)
    (takes : ∀ refusal, .opening (.vote refusal) ∈
      (session.party.look trigger).2 → ∃ call ∈ calls, call.Votes)
    (activated :
      (session.party.look trigger).1.tally.activated = true)
    (active : (session.party.look trigger).1.tally.phase = .active) :
    ∃ call ∈ calls, call.Votes := by
  rcases Party.votes_of_active role notVoting activated active with
    ⟨already, still⟩ | ⟨refusal, isLeft⟩
  · exact kept (voting already still)
  · exact takes refusal isLeft

theorem voting (step : Step session move next)
    (role : session.party.setup.role ≠ .primary)
    (notVoting : session.party.tally.phase ≠ .voting)
    (notAbandoned : ∀ index, move ≠ .abandon index)
    (voting : session.Voting) : next.Voting := by
  intro activated active
  cases step with
  | launches command =>
      rw [launch_eq] at activated active ⊢
      refine voting_of_look role notVoting voting ?_ ?_ activated active
      · rintro ⟨call, callMem, votes⟩
        exact ⟨call, List.mem_append_left _ callMem, votes⟩
      · intro refusal isLeft
        refine ⟨_, List.mem_append_right _ (List.mem_singleton_self _), refusal,
          List.mem_append_left _ ?_⟩
        exact List.mem_map_of_mem isLeft
  | begins index duty rest outcome party letter turn composed =>
      obtain ⟨-, -, -, sameTally⟩ := compose_letter composed
      dsimp only at activated active
      rw [sameTally] at activated active
      exact exists_mem_set turn id (voting activated active)
  | hears index opening rest letter outcome result turn =>
      have inRange := (List.getElem?_eq_some_iff.1 turn).1
      refine voting_of_look role notVoting voting (exists_mem_set turn ?_) ?_
        activated active
      · rintro ⟨refusal, isOwed⟩
        rcases List.mem_cons.1 isOwed with isFirst | later
        · obtain rfl : Opening.vote refusal = opening := by simpa using isFirst
          exact absurd active (Party.not_active_of_vote_result refusal result)
        · exact ⟨refusal, List.mem_append_right _ later⟩
      · intro refusal isLeft
        refine ⟨_, List.mem_set inRange _, refusal, List.mem_append_left _ ?_⟩
        exact List.mem_map_of_mem isLeft
  | closes | reports | watches | answers =>
      rename_i turn
      refine exists_mem_set turn ?_ (voting activated active)
      simp [Call.Votes]
  | wakes _ _ _ _ _ _ turn =>
      refine exists_mem_set turn ?_ (voting activated active)
      simp [Call.Votes]
  | waits index now seen rest outcome deadline turn found idle =>
      refine voting_of_look role notVoting voting (exists_mem_set turn ?_) ?_
        activated active
      · simp [Call.Votes, Call.ofTasks]
      · simp [idle]
  | learns index now seen rest before closings outcome turn found =>
      have inRange := (List.getElem?_eq_some_iff.1 turn).1
      refine voting_of_look role notVoting voting (exists_mem_set turn ?_) ?_
        activated active
      · rintro ⟨refusal, isOwed⟩
        refine ⟨refusal, ?_⟩
        simp only [Call.ofTasks, List.mem_append, List.mem_cons, reduceCtorEq,
          false_or] at isOwed ⊢
        exact .inr isOwed
      · intro refusal isLeft
        refine ⟨_, List.mem_set inRange _, refusal, List.mem_append_left _ ?_⟩
        exact List.mem_map_of_mem isLeft
  | abandons index => exact absurd rfl (notAbandoned index)

end Step

end Session

end CreationCommit
