import CreationCommit.Proofs.Foreign
import CreationCommit.Proofs.Sleepers
import Mathlib.Data.List.Forall2
import Mathlib.Data.Nat.Count

/-!
# Leaving events out

Calls may be left out of a run: the moves that start them or give them their turn
are dropped, and the calls that are kept are numbered anew.  If the calls left out
only handle events that do not concern the creation, the run without them attempts
and reports the same, ends with the same tally, and its calls answer the same.

The two runs go in step, but for those who wait for the decision.  An event that
does not concern the creation may wake them up, so that they look for the decision
and go back to sleep.  Without the event they sleep on until there is a decision
to be found, and then wake up, note what was announced and look in one go.
-/

namespace CreationCommit

/-- The move with its call numbered anew. -/
def Move.renumber (number : Nat → Nat) : Move → Move
  | .start command => .start command
  | .begin call => .begin (number call)
  | .finish call result => .finish (number call) result
  | .proceed call now => .proceed (number call) now
  | .abandon call => .abandon (number call)

/-- How many calls have been started once the move is made. -/
def Move.started (before : Nat) : Move → Nat
  | .start _ => before + 1
  | _ => before

section Keeping

variable (kept : Nat → Prop) [DecidablePred kept]

/-- The move, if its call is kept, where so many calls were started before.  The
calls that are kept are numbered in their order. -/
def Move.keep? (started : Nat) (move : Move) : Option Move :=
  if kept (move.turn?.getD started) then
    some (move.renumber (Nat.count kept))
  else
    none

/-- The moves whose calls are kept. -/
def keepCalls (started : Nat) : List Move → List Move
  | [] => []
  | move :: rest =>
      (move.keep? kept started).toList ++ keepCalls (move.started started) rest

end Keeping

/-- The same moves in the same order, except that a turn to proceed may be taken
several times at once, or not at all. -/
inductive Move.Paced : List Move → List Move → Prop
  | nil : Paced [] []
  | once {moves paced : List Move} (move : Move) (later : Paced moves paced) :
      Paced (move :: moves) (move :: paced)
  | turns {moves paced : List Move} (call : Nat) (now : Instant) (times : Nat)
      (later : Paced moves paced) :
      Paced (.proceed call now :: moves)
        (List.replicate times (.proceed call now) ++ paced)

theorem Move.Paced.append {first second other another : List Move}
    (earlier : Move.Paced first other) (later : Move.Paced second another) :
    Move.Paced (first ++ second) (other ++ another) := by
  induction earlier with
  | nil => exact later
  | once move _ ih => exact .once move ih
  | turns call now times _ ih =>
      rw [List.append_assoc]
      exact .turns call now times ih

/-- The calls stand alike, and their tasks are related one by one. -/
structure Call.Alike (related : Task → Task → Prop) (call other : Call) :
    Prop where
  agenda : List.Forall₂ related call.agenda other.agenda
  sending : call.sending = other.sending
  outcome : call.outcome = other.outcome

theorem Call.Alike.cons {related : Task → Task → Prop} {task : Task}
    {rest : List Task} {sending : Option Letter} {outcome : Option Outcome}
    {other : Call}
    (alike : Call.Alike related ⟨task :: rest, sending, outcome⟩ other) :
    ∃ first later, other = ⟨first :: later, sending, outcome⟩ ∧
      related task first ∧ List.Forall₂ related rest later := by
  obtain ⟨agenda, letter, answered⟩ := other
  obtain ⟨first, later, relates, others, rfl⟩ :=
    List.forall₂_cons_left_iff.1 alike.agenda
  obtain rfl : sending = letter := alike.sending
  obtain rfl : outcome = answered := alike.outcome
  exact ⟨first, later, rfl, relates, others⟩

/-- Every call that is kept is like the one with its new number, and the calls
left out have nothing to do. -/
structure Trail (kept : Nat → Prop) [DecidablePred kept]
    (related : Task → Task → Prop) (calls others : List Call) : Prop where
  length : others.length = Nat.count kept calls.length
  alike : ∀ index call, kept index → calls[index]? = some call →
    ∃ other, others[Nat.count kept index]? = some other ∧
      call.Alike related other
  silent : ∀ index call, ¬ kept index → calls[index]? = some call →
    call = ⟨[], none, none⟩

namespace Trail

variable {kept : Nat → Prop} [DecidablePred kept]
  {related : Task → Task → Prop} {calls others : List Call} {index : Nat}
  {call other : Call}

theorem nil : Trail kept related [] [] := by
  constructor <;> simp

/-- A call with something to do is kept, and so it has a like. -/
theorem turn (trail : Trail kept related calls others) {task : Task}
    {rest : List Task} {sending : Option Letter} {outcome : Option Outcome}
    (here : calls[index]? = some ⟨task :: rest, sending, outcome⟩) :
    kept index ∧ ∃ first later,
      others[Nat.count kept index]? = some ⟨first :: later, sending, outcome⟩ ∧
        related task first ∧ List.Forall₂ related rest later := by
  have isKept : kept index := by
    by_contra notKept
    simpa using trail.silent index _ notKept here
  obtain ⟨other, there, alike⟩ := trail.alike index _ isKept here
  obtain ⟨first, later, rfl, relates, rest⟩ := alike.cons
  exact ⟨isKept, first, later, there, relates, rest⟩

/-- Both calls may go on alike. -/
theorem set (trail : Trail kept related calls others) (isKept : kept index)
    (alike : call.Alike related other) :
    Trail kept related (calls.set index call)
      (others.set (Nat.count kept index) other) := by
  constructor
  · simpa using trail.length
  · intro position found positionKept here
    by_cases same : index = position
    · subst same
      have inRange : index < calls.length := by
        simpa using (List.getElem?_eq_some_iff.1 here).1
      obtain ⟨old, there, -⟩ :=
        trail.alike index _ isKept (List.getElem?_eq_getElem inRange)
      have inRangeThere := (List.getElem?_eq_some_iff.1 there).1
      rw [List.getElem?_set_self inRange] at here
      obtain rfl := Option.some.inj here
      exact ⟨other, List.getElem?_set_self inRangeThere, alike⟩
    · have differ : Nat.count kept index ≠ Nat.count kept position :=
        fun sameCount => same (Nat.count_injective isKept positionKept sameCount)
      rw [List.getElem?_set_ne same] at here
      rw [List.getElem?_set_ne differ]
      exact trail.alike position found positionKept here
  · intro position found notKept here
    have differ : index ≠ position := fun same => notKept (same ▸ isKept)
    rw [List.getElem?_set_ne differ] at here
    exact trail.silent position found notKept here

/-- The call may go on while its like stays as it is. -/
theorem set_left (trail : Trail kept related calls others) (isKept : kept index)
    (there : others[Nat.count kept index]? = some other)
    (alike : call.Alike related other) :
    Trail kept related (calls.set index call) others := by
  obtain ⟨inRange, isOther⟩ := List.getElem?_eq_some_iff.1 there
  have moved := trail.set isKept alike
  rwa [← isOther, List.set_getElem_self] at moved

/-- A call that is left out has nothing to give up. -/
theorem set_silent (trail : Trail kept related calls others)
    (notKept : ¬ kept index) (here : calls[index]? = some call) :
    Trail kept related (calls.set index ⟨[], none, call.outcome⟩) others := by
  obtain rfl := trail.silent index call notKept here
  obtain ⟨inRange, isCall⟩ := List.getElem?_eq_some_iff.1 here
  rwa [← isCall, List.set_getElem_self]

theorem getElem?_concat_cases {last found : Call}
    (here : (calls ++ [last])[index]? = some found) :
    calls[index]? = some found ∨ index = calls.length ∧ found = last := by
  by_cases earlier : index < calls.length
  · exact .inl (List.getElem?_append_left earlier ▸ here)
  · have inRange := (List.getElem?_eq_some_iff.1 here).1
    simp only [List.length_append, List.length_singleton] at inRange
    obtain rfl : index = calls.length := by omega
    rw [List.getElem?_concat_length] at here
    exact .inr ⟨rfl, (Option.some.inj here).symm⟩

theorem concat (trail : Trail kept related calls others)
    (isKept : kept calls.length) (alike : call.Alike related other) :
    Trail kept related (calls ++ [call]) (others ++ [other]) := by
  constructor
  · simp [Nat.count_succ, isKept, trail.length]
  · intro position found positionKept here
    rcases getElem?_concat_cases here with earlier | ⟨rfl, rfl⟩
    · obtain ⟨like, there, alike⟩ := trail.alike _ _ positionKept earlier
      have inRange := (List.getElem?_eq_some_iff.1 there).1
      exact ⟨like, (List.getElem?_append_left inRange).trans there, alike⟩
    · rw [← trail.length, List.getElem?_concat_length]
      exact ⟨other, rfl, alike⟩
  · intro position found notKept here
    rcases getElem?_concat_cases here with earlier | ⟨rfl, -⟩
    · exact trail.silent _ _ notKept earlier
    · exact absurd isKept notKept

/-- A call that is left out starts with nothing to do. -/
theorem concat_silent (trail : Trail kept related calls others)
    (notKept : ¬ kept calls.length) :
    Trail kept related (calls ++ [⟨[], none, none⟩]) others := by
  constructor
  · simp [Nat.count_succ, notKept, trail.length]
  · intro position found positionKept here
    rcases getElem?_concat_cases here with earlier | ⟨rfl, -⟩
    · exact trail.alike _ _ positionKept earlier
    · exact absurd positionKept notKept
  · intro position found positionNotKept here
    rcases getElem?_concat_cases here with earlier | ⟨-, rfl⟩
    · exact trail.silent _ _ positionNotKept earlier
    · rfl

end Trail

namespace Session

/-- The sessions differ in the calls left out and in how much was announced. -/
structure Trails (kept : Nat → Prop) [DecidablePred kept]
    (related : Task → Task → Prop) (count : Nat) (session other : Session) :
    Prop where
  party : session.party = other.party.ahead count
  calls : Trail kept related session.calls other.calls
  attempts : session.attempts = other.attempts
  callbacks : session.callbacks = other.callbacks

namespace Trails

variable {kept : Nat → Prop} [DecidablePred kept]
  {related : Task → Task → Prop} {count : Nat} {session other : Session}

/-- Both calls may go on alike. -/
theorem set (trails : Trails kept related count session other) {index : Nat}
    {call like : Call} (isKept : kept index) (alike : call.Alike related like) :
    Trails kept related count (session.setCall index call)
      (other.setCall (Nat.count kept index) like) :=
  { trails with calls := trails.calls.set isKept alike }

/-- A call may go on while its like stays as it is. -/
theorem set_left (trails : Trails kept related count session other) {index : Nat}
    {call like : Call} (isKept : kept index)
    (there : other.calls[Nat.count kept index]? = some like)
    (alike : call.Alike related like) :
    Trails kept related count (session.setCall index call) other :=
  { trails with calls := trails.calls.set_left isKept there alike }

/-- Both may start the same call. -/
theorem launch (trails : Trails kept related count session other)
    (same : ∀ task, related task task) (isKept : kept session.calls.length)
    (command : Command) :
    Trails kept related count (session.launch command)
      (other.launch command) := by
  rw [launch_eq, launch_eq, trails.party, Party.look_ahead]
  exact ⟨rfl, trails.calls.concat isKept
    ⟨List.forall₂_same.2 fun task _ => same task, rfl, rfl⟩,
    trails.attempts, trails.callbacks⟩

/-- A call that is left out may be started without the other session. -/
theorem launch_silent (trails : Trails kept related count session other)
    (notKept : ¬ kept session.calls.length) {command : Command}
    (notAwait : command ≠ .await) {more : Nat}
    (ignored : session.party.look (.command command) =
      (session.party.ahead more, [])) :
    Trails kept related (more + count) (session.launch command) other := by
  rw [launch_eq, ignored, trails.party, Party.ahead_ahead]
  simpa [notAwait, tasksOf, Call.ofTasks] using
    ⟨rfl, trails.calls.concat_silent notKept, trails.attempts,
      trails.callbacks⟩

/-- Both may look for the decision, and find the same. -/
theorem examine (trails : Trails kept related count session other)
    (same : ∀ task, related task task) {index : Nat} (isKept : kept index)
    (now : Instant) {seen another : Nat}
    (sleeps : ∀ deadline, related (.sleep seen deadline) (.sleep another deadline))
    {rest later : List Task} (others : List.Forall₂ related rest later) :
    Trails kept related count (session.examine index now seen rest)
      (other.examine (Nat.count kept index) now another later) := by
  unfold Session.examine
  rw [trails.party, Party.examine_ahead]
  refine ⟨rfl, trails.calls.set isKept ⟨?_, rfl, rfl⟩, trails.attempts,
    trails.callbacks⟩
  cases (other.party.examine now).2 with
  | pending deadline => exact .cons (sleeps deadline) others
  | decided closings outcome =>
      exact List.rel_append (List.forall₂_same.2 fun task _ => same task)
        (.cons (same _) others)

end Trails

end Session

/-- Whether the task is one of waiting for the decision. -/
def Task.isWait : Task → Bool
  | .watch | .examine _ | .sleep _ _ => true
  | _ => false

/-- The second task is the first as far as it matters, or sleeps while the first
was woken up. -/
inductive Task.Outsleeps : Task → Task → Prop
  | same (task : Task) : Outsleeps task task
  | examines (seen another : Nat) :
      Outsleeps (.examine seen) (.examine another)
  | asleep (task : Task) (waits : task.isWait = true) (seen : Nat)
      (deadline : Option Instant) : Outsleeps task (.sleep seen deadline)

theorem Task.Outsleeps.eq_of_not_isWait {task other : Task}
    (related : Task.Outsleeps task other) (active : task.isWait = false) :
    other = task := by
  cases related with
  | same => rfl
  | examines => simp [isWait] at active
  | asleep _ waits => simp [waits] at active

/-- A call with something to do besides waiting has a like that has to do it as
well. -/
theorem Trail.turn_active {kept : Nat → Prop} [DecidablePred kept]
    {calls others : List Call} {index : Nat} {task : Task} {rest : List Task}
    {sending : Option Letter} {outcome : Option Outcome}
    (trail : Trail kept Task.Outsleeps calls others)
    (here : calls[index]? = some ⟨task :: rest, sending, outcome⟩)
    (active : task.isWait = false) :
    kept index ∧ ∃ later,
      others[Nat.count kept index]? = some ⟨task :: later, sending, outcome⟩ ∧
        List.Forall₂ Task.Outsleeps rest later := by
  obtain ⟨isKept, first, later, there, relates, others⟩ := trail.turn here
  obtain rfl := relates.eq_of_not_isWait active
  exact ⟨isKept, later, there, others⟩

namespace Session

section Following

variable {kept : Nat → Prop} [DecidablePred kept] {count : Nat}
  {session other next : Session} {move : Move}

/-- Without the calls left out the other session can make the move as well. -/
def Follows (kept : Nat → Prop) [DecidablePred kept] (session other : Session)
    (move : Move) (next : Session) : Prop :=
  ∃ paced after,
    Move.Paced (move.keep? kept session.calls.length).toList paced ∧
      other.run? paced = some after ∧
      ∃ count, Trails kept Task.Outsleeps count next after

theorem Follows.of_step {after : Session}
    (isKept : kept (move.turn?.getD session.calls.length))
    (step : Step other (move.renumber (Nat.count kept)) after)
    (trails : Trails kept Task.Outsleeps count next after) :
    Follows kept session other move next := by
  refine ⟨[move.renumber (Nat.count kept)], after, ?_, ?_, count, trails⟩
  · rw [Move.keep?, if_pos isKept]
    exact .once _ .nil
  · rw [run?_cons, step.move?_eq]
    rfl

/-- A turn of a call whose like is asleep may be skipped. -/
theorem Follows.of_asleep {index : Nat} {now : Instant} (isKept : kept index)
    (trails : Trails kept Task.Outsleeps count next other) :
    Follows kept session other (.proceed index now) next := by
  refine ⟨[], other, ?_, rfl, count, trails⟩
  rw [Move.keep?, if_pos (by exact isKept)]
  exact .turns _ now 0 .nil

theorem examine_setCall {index : Nat} (call : Call) (now : Instant) (seen : Nat)
    (rest : List Task) :
    (session.setCall index call).examine index now seen rest =
      session.examine index now seen rest := by
  simp [Session.examine, setCall]

/-- What follows when a call looks for the decision. -/
theorem Step.eq_examine {index seen : Nat} {now : Instant} {rest : List Task}
    {outcome : Option Outcome} (step : Step session (.proceed index now) next)
    (here : session.calls[index]? =
      some ⟨.examine seen :: rest, none, outcome⟩) :
    next = session.examine index now seen rest := by
  have moved := step.move?_eq
  simp only [move?, proceed?, here, Option.some.injEq] at moved
  exact moved.symm

/-- Who is to wake up may wake up, note what was announced and look for the
decision in one go. -/
theorem run?_of_awake {index seen : Nat} {deadline : Option Instant}
    {rest : List Task} {outcome : Option Outcome} {now : Instant}
    (here : session.calls[index]? =
      some ⟨.sleep seen deadline :: rest, none, outcome⟩)
    (awake : isAwake session.party now seen deadline = true) :
    session.run? (List.replicate 3 (.proceed index now)) =
      some (session.examine index now session.party.announcements rest) := by
  have inRange := (List.getElem?_eq_some_iff.1 here).1
  let watching := session.setCall index ⟨.watch :: rest, none, outcome⟩
  let looking := watching.setCall index
    ⟨.examine session.party.announcements :: rest, none, outcome⟩
  have wakes : session.move? (.proceed index now) = some watching :=
    (Step.wakes index now seen deadline rest outcome here awake).move?_eq
  have watches : watching.move? (.proceed index now) = some looking :=
    (Step.watches index now rest outcome
      (List.getElem?_set_self inRange)).move?_eq
  have hereLooking : looking.calls[index]? = some
      ⟨.examine session.party.announcements :: rest, none, outcome⟩ :=
    List.getElem?_set_self (by simpa [watching, setCall] using inRange)
  have looks : looking.move? (.proceed index now) =
      some (looking.examine index now session.party.announcements rest) :=
    (step_of_examine hereLooking).move?_eq
  simp only [List.replicate, run?_cons, wakes, watches, looks, Option.bind_some]
  rw [examine_setCall, examine_setCall]
  rfl

/-- While somebody looks for the decision the other session looks as well, or
its call sleeps on until there is one to be found. -/
theorem Follows.examine {setup : Setup} {paced : List Move}
    (ran : (start setup).run? paced = some other)
    (trails : Trails kept Task.Outsleeps count session other) {index seen : Nat}
    {now : Instant} {rest : List Task} {outcome : Option Outcome}
    (here : session.calls[index]? =
      some ⟨.examine seen :: rest, none, outcome⟩)
    (step : Step session (.proceed index now) next) :
    Follows kept session other (.proceed index now) next := by
  obtain ⟨isKept, first, later, there, relates, others⟩ := trails.calls.turn here
  obtain rfl := step.eq_examine here
  have both (another : Nat) := trails.examine .same isKept now
    (fun deadline => .asleep (.sleep seen deadline) rfl another deadline) others
  cases relates with
  | same => exact .of_step isKept (step_of_examine there) (both seen)
  | examines _ another => exact .of_step isKept (step_of_examine there) (both another)
  | asleep _ _ noted deadline =>
      have callMem := List.mem_of_getElem? there
      have asleep : Task.sleep noted deadline ∈
          (Call.mk (.sleep noted deadline :: later) none outcome).agenda :=
        List.mem_cons_self
      cases found : (other.party.examine now).2 with
      | pending told =>
          have unmoved := unmoved_of_pending ran callMem asleep found
          obtain rfl : outcome = none := unanswered_of_pending ran callMem found
          refine .of_asleep isKept (?_ : Trails kept _ count _ _)
          unfold Session.examine
          rw [trails.party, Party.examine_ahead, unmoved, found]
          exact ⟨rfl, trails.calls.set_left isKept there
            ⟨.cons (.asleep _ rfl noted deadline) others, rfl, rfl⟩,
            trails.attempts, trails.callbacks⟩
      | decided closings decision =>
          have awake := awake_of_decided ran callMem asleep found
          refine ⟨_, _, ?_, run?_of_awake there awake, count,
            both other.party.announcements⟩
          rw [Move.keep?, if_pos (by exact isKept), Option.toList_some,
            ← List.append_nil (List.replicate 3 _)]
          exact .turns _ now 3 .nil

/-- Whatever move is made, the other session follows. -/
theorem Trails.follows {setup : Setup} {paced : List Move}
    (ran : (start setup).run? paced = some other)
    (trails : Trails kept Task.Outsleeps count session other)
    (step : Step session move next)
    (ignores : ∀ command, move = .start command → ¬ kept session.calls.length →
      command ≠ .await ∧
        session.party.Ignores (session.party.look (.command command))) :
    Follows kept session other move next := by
  cases step with
  | launches command =>
      by_cases isKept : kept session.calls.length
      · exact .of_step isKept (.launches command) (trails.launch .same isKept command)
      · obtain ⟨notAwait, more, ignored⟩ := ignores command rfl isKept
        refine ⟨[], other, ?_, rfl, more + count,
          trails.launch_silent isKept notAwait ignored⟩
        rw [Move.keep?, if_neg (by exact isKept)]
        exact .nil
  | begins index duty rest outcome party letter turn composed =>
      obtain ⟨isKept, later, there, others⟩ := trails.calls.turn_active turn rfl
      rw [trails.party, compose_ahead] at composed
      obtain ⟨rfl, isLetter⟩ := Prod.mk.inj composed
      have step := Step.begins (Nat.count kept index) duty later outcome
        (compose other.party duty).1 letter there (Prod.ext rfl isLetter)
      refine .of_step isKept step (?_ : Trails kept _ count _ _)
      refine ⟨rfl, ?_, ?_, trails.callbacks⟩
      · exact trails.calls.set isKept ⟨.cons (.same _) others, rfl, rfl⟩
      · exact congrArg (· ++ [letter]) trails.attempts
  | hears index opening rest letter outcome result turn =>
      obtain ⟨isKept, later, there, others⟩ := trails.calls.turn_active turn rfl
      have step := Step.hears (Nat.count kept index) opening later letter outcome
        result there
      refine .of_step isKept step (?_ : Trails kept _ count _ _)
      rw [trails.party, Party.look_ahead]
      refine ⟨rfl, trails.calls.set isKept ⟨?_, rfl, rfl⟩, trails.attempts,
        trails.callbacks⟩
      exact List.rel_append (List.forall₂_same.2 fun task _ => .same task) others
  | closes index closing rest letter outcome result turn =>
      obtain ⟨isKept, later, there, others⟩ := trails.calls.turn_active turn rfl
      exact .of_step isKept (.closes _ closing later letter outcome result there)
        (trails.set isKept ⟨others, rfl, rfl⟩)
  | reports index now decision rest outcome turn =>
      obtain ⟨isKept, later, there, others⟩ := trails.calls.turn_active turn rfl
      exact .of_step isKept (.reports _ now decision later outcome there)
        ⟨trails.party, trails.calls.set isKept ⟨others, rfl, rfl⟩,
          trails.attempts, congrArg (· ++ [decision]) trails.callbacks⟩
  | watches index now rest outcome turn =>
      obtain ⟨isKept, first, later, there, relates, others⟩ :=
        trails.calls.turn turn
      cases relates with
      | same =>
          exact .of_step isKept (.watches _ now later outcome there)
            (trails.set isKept ⟨.cons (.examines _ _) others, rfl, rfl⟩)
      | asleep _ _ seen deadline =>
          exact .of_asleep isKept (trails.set_left isKept there
            ⟨.cons (.asleep _ rfl seen deadline) others, rfl, rfl⟩)
  | waits index now seen rest outcome deadline turn found idle =>
      exact .examine ran trails turn
        (.waits index now seen rest outcome deadline turn found idle)
  | learns index now seen rest before closings outcome turn found =>
      exact .examine ran trails turn
        (.learns index now seen rest before closings outcome turn found)
  | wakes index now seen deadline rest outcome turn awake =>
      obtain ⟨isKept, first, later, there, relates, others⟩ :=
        trails.calls.turn turn
      cases relates with
      | same | asleep =>
          exact .of_asleep isKept (trails.set_left isKept there
            ⟨.cons (.asleep _ rfl _ _) others, rfl, rfl⟩)
  | answers index now outcome rest before turn =>
      obtain ⟨isKept, later, there, others⟩ := trails.calls.turn_active turn rfl
      exact .of_step isKept (.answers _ now outcome later before there)
        (trails.set isKept ⟨others, rfl, rfl⟩)
  | abandons index call turn =>
      by_cases isKept : kept index
      · obtain ⟨like, there, alike⟩ := trails.calls.alike index call isKept turn
        exact .of_step isKept (.abandons _ like there)
          (trails.set isKept ⟨.nil, rfl, alike.outcome⟩)
      · refine ⟨[], other, ?_, rfl, count,
          { trails with calls := trails.calls.set_silent isKept turn }⟩
        rw [Move.keep?, if_neg (by exact isKept)]
        exact .nil

theorem Step.started (step : Step session move next) :
    next.calls.length = move.started session.calls.length := by
  cases step with
  | launches command =>
      rw [launch_eq]
      simp [Move.started]
  | begins | hears | closes | reports | watches | waits | learns | wakes |
      answers | abandons => simp [Move.started, setCall]

end Following

section Omitting

variable (kept : Nat → Prop)

/-- Whatever is left out of the moves, which come after the known looks, are
events that do not concern the creation when they are handled. -/
def Omits (session : Session) (known : List Look) : List Move → Prop
  | [] => True
  | move :: rest =>
      (∀ command, move = .start command → ¬ kept session.calls.length →
        ∃ event view, command = .handle event view ∧
          event.Foreign session.party (admissions known)) ∧
      ∀ next, session.move? move = some next →
        next.Omits (known ++ (session.look? move).toList) rest

variable {kept} {setup : Setup} {earlier rest : List Move}
  {session next : Session} {move : Move}

/-- What is left out is ignored. -/
theorem Omits.ignores {command : Command}
    (reached : (start setup).run? earlier = some session)
    (omits : session.Omits kept ((start setup).history earlier) (move :: rest))
    (starts : move = .start command) (notKept : ¬ kept session.calls.length) :
    command ≠ .await ∧
      session.party.Ignores (session.party.look (.command command)) := by
  obtain ⟨event, view, rfl, foreign⟩ := omits.1 command starts notKept
  exact ⟨by simp, ignores_foreign reached foreign view⟩

theorem Omits.later (reached : (start setup).run? earlier = some session)
    (omits : session.Omits kept ((start setup).history earlier) (move :: rest))
    (moved : session.move? move = some next) :
    next.Omits kept ((start setup).history (earlier ++ [move])) rest := by
  rw [history_concat reached]
  exact omits.2 next moved

end Omitting

section Runs

variable (kept : Nat → Prop) [DecidablePred kept]

/-- The sessions came to the same: their tallies and the numbers of their votes
agree, they attempted and reported the same, and every call that is kept is
sending the same and answered the same as its like. -/
structure SameTrace (session other : Session) : Prop where
  setup : session.party.setup = other.party.setup
  tally : session.party.tally = other.party.tally
  numbering : session.party.numbering = other.party.numbering
  attempts : session.attempts = other.attempts
  callbacks : session.callbacks = other.callbacks
  length : other.calls.length = Nat.count kept session.calls.length
  calls : ∀ index call, kept index → session.calls[index]? = some call →
    ∃ like, other.calls[Nat.count kept index]? = some like ∧
      call.sending = like.sending ∧ call.outcome = like.outcome

variable {kept} {setup : Setup} {moves earlier paced : List Move}
  {session other last : Session} {count : Nat}

theorem Trails.sameTrace {related : Task → Task → Prop}
    (trails : Trails kept related count session other) :
    SameTrace kept session other := by
  obtain ⟨atParty, calls, attempts, callbacks⟩ := trails
  refine ⟨?_, ?_, ?_, attempts, callbacks, calls.length, ?_⟩
  · rw [atParty, Party.setup_ahead]
  · rw [atParty, Party.tally_ahead]
  · rw [atParty]
    rfl
  · intro index call isKept here
    obtain ⟨like, there, alike⟩ := calls.alike index call isKept here
    exact ⟨like, there, alike.sending, alike.outcome⟩

/-- Without the events the other session follows through the whole run. -/
theorem follows_run (reached : (start setup).run? earlier = some session)
    (reachedOther : (start setup).run? paced = some other)
    (trails : Trails kept Task.Outsleeps count session other)
    (omits : session.Omits kept ((start setup).history earlier) moves)
    (ran : session.run? moves = some last) :
    ∃ turns after, Move.Paced (keepCalls kept session.calls.length moves) turns ∧
      other.run? turns = some after ∧
      ∃ count, Trails kept Task.Outsleeps count last after := by
  induction moves generalizing earlier paced session other count with
  | nil =>
      obtain rfl : session = last := by simpa [run?] using ran
      exact ⟨[], other, .nil, rfl, count, trails⟩
  | cons move rest ih =>
      rw [run?_cons] at ran
      obtain ⟨next, moved, onward⟩ := Option.bind_eq_some_iff.1 ran
      have step := step_of_move? moved
      obtain ⟨turns, after, pacedMove, ranTurns, more, trailsNext⟩ :=
        trails.follows reachedOther step fun _ => omits.ignores reached
      have reachedNext : (start setup).run? (earlier ++ [move]) = some next := by
        rw [run?_concat, reached, Option.bind_some, moved]
      have reachedAfter : (start setup).run? (paced ++ turns) = some after := by
        rw [run?_append, reachedOther, Option.bind_some, ranTurns]
      obtain ⟨later, final, pacedRest, ranLater, trailsLast⟩ :=
        ih reachedNext reachedAfter trailsNext (omits.later reached moved) onward
      refine ⟨turns ++ later, final, ?_, ?_, trailsLast⟩
      · rw [step.started] at pacedRest
        exact pacedMove.append pacedRest
      · rw [run?_append, ranTurns, Option.bind_some, ranLater]

theorem trails_start (related : Task → Task → Prop) (setup : Setup) :
    Trails kept related 0 (start setup) (start setup) :=
  ⟨by rw [Party.ahead_zero], .nil, rfl, rfl⟩

/-- A run comes to the same without the events that do not concern the creation,
if the turns of those who wait are paced accordingly. -/
theorem sameTrace_without (omits : (start setup).Omits kept [] moves)
    (ran : (start setup).run? moves = some last) :
    ∃ paced other, Move.Paced (keepCalls kept 0 moves) paced ∧
      (start setup).run? paced = some other ∧ SameTrace kept last other := by
  obtain ⟨paced, other, isPaced, ranPaced, count, trails⟩ :=
    follows_run (show (start setup).run? [] = some _ from rfl)
      (show (start setup).run? [] = some _ from rfl)
      (trails_start Task.Outsleeps setup) omits ran
  exact ⟨paced, other, isPaced, ranPaced, trails.sameTrace⟩

end Runs

end Session

end CreationCommit
