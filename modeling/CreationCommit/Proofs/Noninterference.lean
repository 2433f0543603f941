import CreationCommit.Proofs.Omission
import CreationCommit.Proofs.Roles

/-!
# Events that do not concern the creation leave no trace

They may be left out of any run, and they may be put into any run: either way the
tally, what is attempted and reported, and what the waiters answer stay the same.

To put them in is simpler than to leave them out.  All calls go in step then, and
those who wait noted at most as many announcements more as there are more of
them, so whoever is to wake up without the events is to wake up with them.

A primary therefore never gets to what only replicas do, and a replica never to
what only a primary does.
-/

namespace CreationCommit

/-- The tasks are the same, but whoever waits noted up to so many announcements
more in the first. -/
inductive Task.InStep (count : Nat) : Task → Task → Prop
  | same (task : Task) : InStep count task task
  | examines (seen another : Nat) (noted : seen ≤ count + another) :
      InStep count (.examine seen) (.examine another)
  | sleeps (seen another : Nat) (deadline : Option Instant)
      (noted : seen ≤ count + another) :
      InStep count (.sleep seen deadline) (.sleep another deadline)

theorem Task.InStep.eq_of_not_isWait {count : Nat} {task other : Task}
    (related : Task.InStep count task other) (active : other.isWait = false) :
    task = other := by
  cases related with
  | same => rfl
  | examines | sleeps => simp [isWait] at active

theorem Task.InStep.mono {count : Nat} {task other : Task} (more : Nat)
    (related : Task.InStep count task other) :
    Task.InStep (more + count) task other := by
  cases related with
  | same => exact .same _
  | examines seen another noted => exact .examines _ _ (by omega)
  | sleeps seen another deadline noted => exact .sleeps _ _ _ (by omega)

namespace Trail

variable {kept : Nat → Prop} [DecidablePred kept]
  {related weaker : Task → Task → Prop} {calls others : List Call} {index : Nat}

theorem mono (trail : Trail kept related calls others)
    (weakens : ∀ task other, related task other → weaker task other) :
    Trail kept weaker calls others where
  length := trail.length
  alike := by
    intro index call isKept here
    obtain ⟨other, there, alike⟩ := trail.alike index call isKept here
    exact ⟨other, there, alike.agenda.imp weakens, alike.sending, alike.outcome⟩
  silent := trail.silent

/-- A call with a new number is like a call that is kept. -/
theorem exists_alike (trail : Trail kept related calls others)
    (isKept : kept index) {other : Call}
    (there : others[Nat.count kept index]? = some other) :
    ∃ call, calls[index]? = some call ∧ call.Alike related other := by
  have inRange : index < calls.length := by
    by_contra outside
    have fewer := Nat.count_monotone kept (Nat.not_lt.1 outside)
    have inRangeThere := (List.getElem?_eq_some_iff.1 there).1
    rw [trail.length] at inRangeThere
    omega
  have here := List.getElem?_eq_getElem inRange
  obtain ⟨like, isThere, alike⟩ := trail.alike index _ isKept here
  obtain rfl : like = other := Option.some.inj (isThere.symm.trans there)
  exact ⟨_, here, alike⟩

/-- And what it has to do first the kept call has to do as well. -/
theorem turn_back (trail : Trail kept related calls others)
    (isKept : kept index) {task : Task} {rest : List Task}
    {sending : Option Letter} {outcome : Option Outcome}
    (there : others[Nat.count kept index]? =
      some ⟨task :: rest, sending, outcome⟩) :
    ∃ first later, calls[index]? = some ⟨first :: later, sending, outcome⟩ ∧
      related first task ∧ List.Forall₂ related later rest := by
  obtain ⟨⟨agenda, letter, answered⟩, here, alike⟩ :=
    trail.exists_alike isKept there
  obtain ⟨first, later, relates, others, rfl⟩ :=
    List.forall₂_cons_right_iff.1 alike.agenda
  obtain rfl : letter = sending := alike.sending
  obtain rfl : answered = outcome := alike.outcome
  exact ⟨first, later, here, relates, others⟩

/-- Without waiting it has to do the same. -/
theorem turn_back_active {count : Nat}
    (trail : Trail kept (Task.InStep count) calls others)
    (isKept : kept index) {task : Task} {rest : List Task}
    {sending : Option Letter} {outcome : Option Outcome}
    (there : others[Nat.count kept index]? =
      some ⟨task :: rest, sending, outcome⟩)
    (active : task.isWait = false) :
    ∃ later, calls[index]? = some ⟨task :: later, sending, outcome⟩ ∧
      List.Forall₂ (Task.InStep count) later rest := by
  obtain ⟨first, later, here, relates, others⟩ := trail.turn_back isKept there
  obtain rfl := relates.eq_of_not_isWait active
  exact ⟨later, here, others⟩

end Trail

namespace Session

section Preceding

variable {kept : Nat → Prop} [DecidablePred kept] {count : Nat}
  {session other after : Session} {move : Move}

/-- Whoever looks for the decision in the other session may look here as well. -/
theorem Trails.looks
    (trails : Trails kept (Task.InStep count) count session other)
    {index seen : Nat} {now : Instant} {rest : List Task}
    {outcome : Option Outcome} (isKept : kept index)
    (there : other.calls[Nat.count kept index]? =
      some ⟨.examine seen :: rest, none, outcome⟩)
    (step : Step other (.proceed (Nat.count kept index) now) after) :
    ∃ next, Step session (.proceed index now) next ∧
      Trails kept (Task.InStep count) count next after := by
  obtain ⟨first, later, here, relates, others⟩ :=
    trails.calls.turn_back isKept there
  obtain ⟨noted, rfl, atMost⟩ : ∃ noted, first = .examine noted ∧
      noted ≤ count + seen := by
    cases relates with
    | same => exact ⟨seen, rfl, Nat.le_add_left _ _⟩
    | examines noted _ atMost => exact ⟨noted, rfl, atMost⟩
  obtain rfl := step.eq_examine there
  exact ⟨_, step_of_examine here, trails.examine .same isKept now
    (fun deadline => .sleeps noted seen deadline atMost) others⟩

/-- And so may whoever does something else than to send. -/
theorem Trails.proceeds
    (trails : Trails kept (Task.InStep count) count session other)
    {index : Nat} {now : Instant} (isKept : kept index)
    (step : Step other (.proceed (Nat.count kept index) now) after) :
    ∃ next, Step session (.proceed index now) next ∧
      Trails kept (Task.InStep count) count next after := by
  cases step with
  | reports _ _ decision rest outcome turn =>
      obtain ⟨later, here, others⟩ :=
        trails.calls.turn_back_active isKept turn rfl
      exact ⟨_, .reports index now decision later outcome here,
        trails.party, trails.calls.set isKept ⟨others, rfl, rfl⟩,
        trails.attempts, congrArg (· ++ [decision]) trails.callbacks⟩
  | watches _ _ rest outcome turn =>
      obtain ⟨first, later, here, relates, others⟩ :=
        trails.calls.turn_back isKept turn
      cases relates
      have noted : session.party.announcements =
          count + other.party.announcements := by
        rw [trails.party]
        rfl
      exact ⟨_, .watches index now later outcome here,
        trails.set isKept ⟨.cons (.examines _ _ noted.le) others, rfl, rfl⟩⟩
  | waits _ _ seen rest outcome deadline turn found idle =>
      exact trails.looks isKept turn
        (.waits _ now seen rest outcome deadline turn found idle)
  | learns _ _ seen rest before closings outcome turn found =>
      exact trails.looks isKept turn
        (.learns _ now seen rest before closings outcome turn found)
  | wakes _ _ seen deadline rest outcome turn awake =>
      obtain ⟨first, later, here, relates, others⟩ :=
        trails.calls.turn_back isKept turn
      obtain ⟨noted, rfl, atMost⟩ : ∃ noted, first = .sleep noted deadline ∧
          noted ≤ count + seen := by
        cases relates with
        | same => exact ⟨seen, rfl, Nat.le_add_left _ _⟩
        | sleeps noted _ _ atMost => exact ⟨noted, rfl, atMost⟩
      have awakeHere : isAwake session.party now noted deadline = true := by
        rw [trails.party]
        simp only [isAwake, Bool.or_eq_true, decide_eq_true_eq] at awake ⊢
        refine awake.imp_left fun since => ?_
        change noted < count + other.party.announcements
        omega
      exact ⟨_, .wakes index now noted deadline later outcome here awakeHere,
        trails.set isKept ⟨.cons (.same _) others, rfl, rfl⟩⟩
  | answers _ _ outcome rest before turn =>
      obtain ⟨later, here, others⟩ :=
        trails.calls.turn_back_active isKept turn rfl
      exact ⟨_, .answers index now outcome later before here,
        trails.set isKept ⟨others, rfl, rfl⟩⟩

/-- Whatever the other session does, the session does the same in step. -/
theorem Trails.precedes
    (trails : Trails kept (Task.InStep count) count session other)
    (isKept : kept (move.turn?.getD session.calls.length))
    (step : Step other (move.renumber (Nat.count kept)) after) :
    ∃ next, Step session move next ∧
      Trails kept (Task.InStep count) count next after := by
  cases move with
  | start command =>
      cases step
      exact ⟨_, .launches command, trails.launch .same isKept command⟩
  | begin index =>
      cases step with
      | begins _ duty rest outcome party letter turn composed =>
          obtain ⟨later, here, others⟩ :=
            trails.calls.turn_back_active isKept turn rfl
          have composedHere : compose session.party duty =
              (party.ahead count, some letter) := by
            rw [trails.party, compose_ahead, composed]
          refine ⟨_, .begins index duty later outcome _ letter here composedHere,
            rfl, ?_, ?_, trails.callbacks⟩
          · exact trails.calls.set isKept ⟨.cons (.same _) others, rfl, rfl⟩
          · exact congrArg (· ++ [letter]) trails.attempts
  | finish index result =>
      cases step with
      | hears _ opening rest letter outcome _ turn =>
          obtain ⟨later, here, others⟩ :=
            trails.calls.turn_back_active isKept turn rfl
          refine ⟨_, .hears index opening later letter outcome result here, ?_⟩
          rw [trails.party, Party.look_ahead]
          refine ⟨rfl, trails.calls.set isKept ⟨?_, rfl, rfl⟩, trails.attempts,
            trails.callbacks⟩
          exact List.rel_append (List.forall₂_same.2 fun task _ => .same task)
            others
      | closes _ closing rest letter outcome _ turn =>
          obtain ⟨later, here, others⟩ :=
            trails.calls.turn_back_active isKept turn rfl
          exact ⟨_, .closes index closing later letter outcome result here,
            trails.set isKept ⟨others, rfl, rfl⟩⟩
  | proceed index now => exact trails.proceeds isKept step
  | abandon index =>
      cases step with
      | abandons _ like there =>
          obtain ⟨call, here, alike⟩ := trails.calls.exists_alike isKept there
          exact ⟨_, .abandons index call here,
            trails.set isKept ⟨.nil, rfl, alike.outcome⟩⟩

end Preceding

section Runs

variable {kept : Nat → Prop} [DecidablePred kept] {setup : Setup}
  {moves earlier : List Move} {session other last : Session} {count : Nat}

/-- Nothing is left out once all calls to come are kept. -/
theorem omits_of_kept {kept : Nat → Prop} {session : Session}
    (keeps : ∀ index, session.calls.length ≤ index → kept index)
    (known : List Look) (moves : List Move) : session.Omits kept known moves := by
  induction moves generalizing session known with
  | nil => trivial
  | cons move rest ih =>
      refine ⟨fun _ _ notKept => absurd (keeps _ le_rfl) notKept,
        fun next moved => ih (fun index within => keeps index ?_) _⟩
      have started := (step_of_move? moved).started
      have grows : session.calls.length ≤ move.started session.calls.length := by
        unfold Move.started
        split <;> omega
      omega

/-- With the events the session goes in step with the other through the whole
run. -/
theorem precedes_run (reached : (start setup).run? earlier = some session)
    (trails : Trails kept (Task.InStep count) count session other)
    (omits : session.Omits kept ((start setup).history earlier) moves)
    (turns : ∀ move ∈ moves, ∀ index, move.turn? = some index → kept index)
    (ran : other.run? (keepCalls kept session.calls.length moves) = some last) :
    ∃ full, session.run? moves = some full ∧
      ∃ count, Trails kept (Task.InStep count) count full last := by
  induction moves generalizing earlier session other count with
  | nil =>
      obtain rfl : other = last := by simpa [run?, keepCalls] using ran
      exact ⟨session, rfl, count, trails⟩
  | cons move rest ih =>
      obtain ⟨turn, turnsRest⟩ := List.forall_mem_cons.1 turns
      obtain ⟨next, step, after, onward, more, trailsNext⟩ :
          ∃ next, Step session move next ∧
            ∃ after, after.run? (keepCalls kept next.calls.length rest) =
                some last ∧
              ∃ count, Trails kept (Task.InStep count) count next after := by
        by_cases isKept : kept (move.turn?.getD session.calls.length)
        · rw [keepCalls, Move.keep?, if_pos isKept, Option.toList_some,
            List.singleton_append, run?_cons] at ran
          obtain ⟨after, moved, onward⟩ := Option.bind_eq_some_iff.1 ran
          obtain ⟨next, step, trailsNext⟩ :=
            trails.precedes isKept (step_of_move? moved)
          exact ⟨next, step, after, step.started ▸ onward, count, trailsNext⟩
        · rw [keepCalls, Move.keep?, if_neg isKept, Option.toList_none,
            List.nil_append] at ran
          cases move with
          | start command =>
              have notKept : ¬ kept session.calls.length := isKept
              obtain ⟨notAwait, more, ignored⟩ := omits.ignores reached rfl notKept
              have step : Step session _ _ := .launches command
              refine ⟨_, step, other, step.started ▸ ran, more + count, ?_⟩
              have silent := trails.launch_silent notKept notAwait ignored
              exact { silent with
                calls := silent.calls.mono fun _ _ => .mono more }
          | begin index | finish index | proceed index | abandon index =>
              exact absurd (turn index rfl) isKept
      have reachedNext : (start setup).run? (earlier ++ [move]) = some next := by
        rw [run?_concat, reached, Option.bind_some, step.move?_eq]
      obtain ⟨full, ranRest, trailsLast⟩ := ih reachedNext trailsNext
        (omits.later reached step.move?_eq) turnsRest onward
      refine ⟨full, ?_, trailsLast⟩
      rw [run?_cons, step.move?_eq, Option.bind_some, ranRest]

/-- A run comes to the same with the events that do not concern the creation,
wherever they are put in. -/
theorem sameTrace_with (omits : (start setup).Omits kept [] moves)
    (turns : ∀ move ∈ moves, ∀ index, move.turn? = some index → kept index)
    (ran : (start setup).run? (keepCalls kept 0 moves) = some other) :
    ∃ full, (start setup).run? moves = some full ∧
      SameTrace kept full other := by
  obtain ⟨full, ranFull, count, trails⟩ :=
    precedes_run (show (start setup).run? [] = some _ from rfl)
      (trails_start (Task.InStep 0) setup) omits turns ran
  exact ⟨full, ranFull, trails.sameTrace⟩

end Runs

/-- Events that do not concern the creation have no influence, whatever calls
overlap on the party: without any of them a run comes to the same tally, attempts
and reports the same, and every call that is kept answers the same, where those who
wait have their turns at the same instants if they need them.  And with any of
them, put in anywhere, a run comes to the same.  So a primary is never prepared and
never votes, and a replica never opens a voting and attempts nothing but votes. -/
theorem foreign_events_leave_no_trace (setup : Setup) (moves : List Move) :
    (∀ (kept : Nat → Prop) [DecidablePred kept],
      (start setup).Omits kept [] moves →
        (∀ last, (start setup).run? moves = some last →
          ∃ paced other, Move.Paced (keepCalls kept 0 moves) paced ∧
            (start setup).run? paced = some other ∧
            SameTrace kept last other) ∧
        ((∀ move ∈ moves, ∀ index, move.turn? = some index → kept index) →
          ∀ other, (start setup).run? (keepCalls kept 0 moves) = some other →
            ∃ last, (start setup).run? moves = some last ∧
              SameTrace kept last other)) ∧
      ∀ last, (start setup).run? moves = some last →
        (setup.role = .primary → last.party.tally.phase ≠ .prepared ∧
          ∀ letter ∈ last.attempts, letter.duty.isVote = false) ∧
        (setup.role ≠ .primary → last.party.tally.phase ≠ .voting ∧
          ∀ letter ∈ last.attempts, letter.duty.isVote = true) := by
  refine ⟨fun kept _ omits => ⟨fun last ran => sameTrace_without omits ran,
    fun turns other ran => sameTrace_with omits turns ran⟩, fun last ran => ⟨?_, ?_⟩⟩
  · exact fun role => ⟨not_prepared_of_primary role ran,
      fun letter attempted => not_vote_of_attempted role ran attempted⟩
  · exact fun role => ⟨(unopened_of_run role ran).notVoting,
      fun letter attempted => isVote_of_attempted role ran attempted⟩

/-- A peer departs that was never asked, which wakes up somebody who waits. -/
def strangerMoves : List Move :=
  [.start (.lead (.connected [⟨"home"⟩, ⟨"near"⟩])),
    .start .await,
    .proceed 1 0,
    .proceed 1 0,
    .start (.handle (.memberDeparted ⟨"far"⟩) .disconnected),
    .proceed 1 1,
    .start (.handle (.voteReceived ⟨⟨"near"⟩, ⟨"doc"⟩, 1, none⟩) .disconnected),
    .proceed 1 2,
    .proceed 1 2,
    .begin 1,
    .finish 1 (.ok ()),
    .proceed 1 3,
    .proceed 1 3]

theorem stranger_leaves_no_trace :
    ∃ last, (start (.primary ⟨"doc"⟩ ⟨"home"⟩)).run? strangerMoves = some last ∧
      (start (.primary ⟨"doc"⟩ ⟨"home"⟩)).Omits (· ≠ 2) [] strangerMoves ∧
      last.callbacks = [.commit] ∧
      ∃ paced other, Move.Paced (keepCalls (· ≠ 2) 0 strangerMoves) paced ∧
        (start (.primary ⟨"doc"⟩ ⟨"home"⟩)).run? paced = some other ∧
        other.callbacks = [.commit] ∧
        ∃ call, other.calls[1]? = some call ∧
          call.outcome = some .committed := by
  have run : ((start (.primary ⟨"doc"⟩ ⟨"home"⟩)).run? strangerMoves).map
      (fun session => (session.callbacks, session.calls[1]?)) =
        some ([.commit], some ⟨[], none, some .committed⟩) := by rfl
  obtain ⟨last, ran, came⟩ := Option.map_eq_some_iff.1 run
  obtain ⟨reported, answered⟩ := Prod.mk.inj came
  have omits :
      (start (.primary ⟨"doc"⟩ ⟨"home"⟩)).Omits (· ≠ 2) [] strangerMoves := by
    iterate 2
      refine ⟨fun _ _ leftOut => absurd (by decide) leftOut, fun next moved => ?_⟩
      cases moved
    iterate 2
      refine ⟨nofun, fun next moved => ?_⟩
      cases moved
    refine ⟨?_, fun next moved => ?_⟩
    · rintro _ ⟨⟩ -
      exact ⟨_, _, rfl, fun _ => .inr ⟨rfl, by decide⟩⟩
    · cases moved
      refine omits_of_kept (fun index within => ?_) _ _
      have later : 3 ≤ index := within
      omega
  obtain ⟨paced, other, isPaced, ranPaced, same⟩ :=
    ((foreign_events_leave_no_trace _ strangerMoves).1 _ omits).1 last ran
  obtain ⟨call, there, -, sameOutcome⟩ := same.calls 1 _ (by decide) answered
  exact ⟨last, ran, omits, reported, paced, other, isPaced, ranPaced,
    same.callbacks.symm.trans reported, call, there, sameOutcome.symm⟩

end Session

end CreationCommit
