import CreationCommit.Proofs.RehearsalCourse
import CreationCommit.Session

/-!
# Schedules of a rehearsal

The waiter and the router take turns in any order.  The waiter looks when it
begins to wait and whenever it wakes up; the router routes an envelope whenever
one is there; and because computing takes no time, the clock goes on to the
deadline only while the waiter sleeps and nothing is left to route.  Every
schedule comes to its end, and playing a rehearsal is one of them.
-/

namespace CreationCommit

/-- A rehearsal with its waiter, which may sleep: then it knows how many changes
were announced when it looked, and the deadline. -/
structure Interplay where
  rehearsal : Rehearsal
  asleep : Option (Nat × Option Instant)

namespace Interplay

/-- Whose turn it is. -/
inductive Turn
  | waiter
  | router
  | clock
deriving DecidableEq

/-- The waiter of a rehearsal has not looked yet. -/
def ofRehearsal (rehearsal : Rehearsal) : Interplay where
  rehearsal := rehearsal
  asleep := none

/-- Whether the waiter is to look: it has no outcome, and it does not sleep or
is to wake up. -/
def isLooking (interplay : Interplay) : Bool :=
  interplay.rehearsal.outcome.isNone &&
    match interplay.asleep with
    | none => true
    | some (seen, deadline) =>
        Session.isAwake interplay.rehearsal.primary interplay.rehearsal.now seen
          deadline

/-- What the waiter does when it has looked: it sleeps, unless it found the
outcome. -/
def sleepAfter (rehearsal : Rehearsal) : Option (Nat × Option Instant) :=
  match (rehearsal.primary.examine rehearsal.now).2 with
  | .pending deadline => some (rehearsal.primary.announcements, deadline)
  | .decided _ _ => none

/-- Take a turn, if it is possible. -/
def turn? (interplay : Interplay) : Turn → Option Interplay
  | .waiter =>
      if interplay.isLooking then
        some
          { rehearsal := interplay.rehearsal.look
            asleep := sleepAfter interplay.rehearsal }
      else
        none
  | .router =>
      interplay.rehearsal.route?.map fun rehearsal =>
        { interplay with rehearsal }
  | .clock =>
      if interplay.rehearsal.outcome.isNone && !interplay.isLooking &&
          interplay.rehearsal.channel.queue.isEmpty then
        some
          { interplay with rehearsal := interplay.rehearsal.passToDeadline }
      else
        none

/-- Take turns one after the other, if all are possible. -/
def run? (interplay : Interplay) (turns : List Turn) : Option Interplay :=
  turns.foldlM turn? interplay

/-- Whether the outcome was found and everything is routed. -/
def isOver (interplay : Interplay) : Bool :=
  interplay.rehearsal.outcome.isSome &&
    interplay.rehearsal.channel.queue.isEmpty

theorem run?_append (interplay : Interplay) (first second : List Turn) :
    interplay.run? (first ++ second) =
      (interplay.run? first).bind (·.run? second) := by
  simp [run?, List.foldlM_append]

end Interplay

theorem Cast.Stance.clock_cases {cast : Cast} {settings : TransactionSettings}
    {received : List Tiding} {now : Instant} {tally : Tally}
    (stance : cast.Stance settings received now tally) :
    now = 0 ∨ now = Instant.after 0 settings.timeout := by
  cases stance with
  | votes _ _ clock => exact clock.imp_right And.left
  | commits _ _ clock | exceeds _ _ _ _ _ _ _ _ clock => exact .inl clock
  | expires _ _ _ _ _ _ clock => exact .inr clock

namespace Rehearsal

open Interplay (sleepAfter)

/-- What holds while the waiter and the router take turns: the rehearsal is on
its course, and as long as no change was announced to a sleeping waiter, the
votes are awaited. -/
structure Stage (cast : Cast) (payload : List UInt8)
    (settings : TransactionSettings) (waiting : List (PeerId × Behaviour))
    (mail : List Post) (received : List Tiding) (interplay : Interplay) : Prop
    where
  course : Course cast payload settings waiting mail received
    interplay.rehearsal
  sleeper : interplay.rehearsal.outcome = none → ∀ seen deadline,
    interplay.asleep = some (seen, deadline) →
    deadline = some (Instant.after 0 settings.timeout) ∧
      seen ≤ interplay.rehearsal.primary.announcements ∧
      (seen = interplay.rehearsal.primary.announcements →
        interplay.rehearsal.primary.tally.phase = .voting ∧
          interplay.rehearsal.primary.tally.deadline = deadline)

/-- How many turns the waiter and the clock may take without an envelope that is
routed. -/
def alertness (interplay : Interplay) : Nat :=
  (if interplay.isLooking then 1 else 0) +
    if interplay.rehearsal.outcome.isNone ∧ interplay.rehearsal.now = 0 then 2
    else 0

/-- How many turns may still be taken. -/
def patience (cast : Cast) (waiting : List (PeerId × Behaviour))
    (mail : List Post) (interplay : Interplay) : Nat :=
  2 * budget cast waiting mail interplay.rehearsal.primary.tally +
    alertness interplay

section Alertness

variable {interplay next : Interplay}

theorem alertness_of_found (found : interplay.rehearsal.outcome.isSome) :
    alertness interplay = 0 := by
  have notNone : interplay.rehearsal.outcome.isNone = false := by
    simpa using found
  simp [alertness, Interplay.isLooking, notNone]

theorem alertness_of_looking (looking : interplay.isLooking) :
    0 < alertness interplay := by
  rw [alertness, if_pos looking]
  omega

theorem alertness_of_early (undecided : interplay.rehearsal.outcome = none)
    (early : interplay.rehearsal.now = 0) :
    alertness interplay = 2 + if interplay.isLooking then 1 else 0 := by
  have awaits : interplay.rehearsal.outcome.isNone ∧
      interplay.rehearsal.now = 0 := ⟨by simp [undecided], early⟩
  rw [alertness, if_pos awaits, Nat.add_comm]

theorem alertness_of_late (late : interplay.rehearsal.now ≠ 0) :
    alertness interplay ≤ 1 := by
  have passed : ¬(interplay.rehearsal.outcome.isNone ∧
      interplay.rehearsal.now = 0) := fun awaits => late awaits.2
  rw [alertness, if_neg passed]
  split <;> omega

theorem alertness_le (interplay : Interplay) : alertness interplay ≤ 3 := by
  unfold alertness
  split <;> split <;> omega

theorem alertness_of_route
    (sameOutcome : next.rehearsal.outcome = interplay.rehearsal.outcome)
    (sameNow : next.rehearsal.now = interplay.rehearsal.now) :
    alertness next ≤ alertness interplay + 1 := by
  rw [alertness, alertness, sameOutcome, sameNow]
  split <;> split <;> omega

end Alertness

namespace Stage

variable {cast : Cast} {payload : List UInt8}
  {settings : TransactionSettings} {waiting : List (PeerId × Behaviour)}
  {mail : List Post} {received : List Tiding} {interplay next : Interplay}

/-- Unless everything is over, somebody has a turn. -/
theorem exists_turn
    (stage : Stage cast payload settings waiting mail received interplay)
    (notOver : interplay.isOver = false) :
    ∃ turn next, interplay.turn? turn = some next := by
  rcases stage.course.route with ⟨noMail, rfl, rfl⟩ | ⟨routed, routes, -⟩
  · have emptied : interplay.rehearsal.channel.queue.isEmpty := by
      simp [stage.course.channel]
    have undecided : interplay.rehearsal.outcome.isNone := by
      simpa [Interplay.isOver, emptied] using notOver
    by_cases looking : interplay.isLooking
    · exact ⟨.waiter, _, if_pos looking⟩
    · exact ⟨.clock, _, if_pos (by simp [undecided, looking, emptied])⟩
  · exact ⟨.router, { interplay with rehearsal := routed },
      by simp [Interplay.turn?, routes]⟩

/-- A waiter that sleeps on awaits the votes, in time. -/
theorem asleep
    (stage : Stage cast payload settings waiting mail received interplay)
    (undecided : interplay.rehearsal.outcome = none)
    (notLooking : interplay.isLooking = false) :
    interplay.rehearsal.now = 0 ∧
      interplay.rehearsal.primary.tally.phase = .voting ∧
      interplay.rehearsal.primary.tally.deadline =
        some (Instant.after 0 settings.timeout) := by
  cases sleeps : interplay.asleep with
  | none => simp [Interplay.isLooking, undecided, sleeps] at notLooking
  | some noted =>
      obtain ⟨seen, deadline⟩ := noted
      obtain ⟨isLimit, noted, awaits⟩ := stage.sleeper undecided seen deadline sleeps
      obtain ⟨limit, isInstant⟩ : ∃ limit,
        limit = Instant.after 0 settings.timeout := ⟨_, rfl⟩
      have clock := stage.course.conducts.stance.clock_cases
      rw [← isInstant] at isLimit clock ⊢
      rw [isLimit] at sleeps awaits
      have quiet : interplay.rehearsal.primary.announcements ≤ seen ∧
          interplay.rehearsal.now < limit := by
        simpa [Interplay.isLooking, undecided, sleeps, Session.isAwake] using
          notLooking
      obtain ⟨voting, isDeadline⟩ := awaits (Nat.le_antisymm noted quiet.1)
      exact ⟨clock.resolve_right (Nat.ne_of_lt quiet.2), voting, isDeadline⟩

theorem not_isLooking {seen : Nat} {limit : Instant}
    (sleeps : interplay.asleep = some (seen, some limit))
    (noNews : interplay.rehearsal.primary.announcements ≤ seen)
    (early : interplay.rehearsal.now < limit) : interplay.isLooking = false := by
  simp [Interplay.isLooking, Session.isAwake, sleeps, noNews, early]

/-- One turn keeps the stage and takes some of the patience. -/
def Advances (cast : Cast) (payload : List UInt8)
    (settings : TransactionSettings) (left : Nat) (next : Interplay) : Prop :=
  ∃ waiting mail received,
    Stage cast payload settings waiting mail received next ∧
      patience cast waiting mail next < left

/-- The waiter looks; then it has the outcome, or it sleeps and has written
nothing. -/
theorem look
    (stage : Stage cast payload settings waiting mail received interplay)
    (positive : 0 < Instant.after 0 settings.timeout)
    (looking : interplay.isLooking)
    (looked : next.rehearsal = interplay.rehearsal.look)
    (sleeps : next.asleep = sleepAfter interplay.rehearsal) :
    Advances cast payload settings (patience cast waiting mail interplay) next ∧
      (next.rehearsal.outcome.isSome ∨ next.isLooking = false ∧
        next.rehearsal.channel = interplay.rehearsal.channel) := by
  have undecided : interplay.rehearsal.outcome = none := by
    have waits := looking
    simp only [Interplay.isLooking, Bool.and_eq_true] at waits
    exact Option.isNone_iff_eq_none.1 waits.1
  have alert := alertness_of_looking looking
  obtain ⟨looks, sameNow⟩ := stage.course.look positive undecided
  rw [← looked] at looks sameNow
  cases looks with
  | waits course early stillUndecided finds voting deadline announced adds =>
      have sleeping : next.asleep =
          some (interplay.rehearsal.primary.announcements,
            some (Instant.after 0 settings.timeout)) := by
        simp only [sleeps, sleepAfter, finds]
      have notLooking : next.isLooking = false :=
        not_isLooking sleeping (Nat.le_of_eq announced)
          (sameNow.trans early ▸ positive)
      refine ⟨⟨waiting, mail, received, ⟨course, ?_⟩, ?_⟩,
        .inr ⟨notLooking, course.channel.trans stage.course.channel.symm⟩⟩
      · intro _ seen until? isSleep
        obtain ⟨rfl, rfl⟩ := Prod.mk.inj
          (Option.some.inj (sleeping.symm.trans isSleep))
        exact ⟨rfl, Nat.le_of_eq announced.symm, fun _ => ⟨voting, deadline⟩⟩
      · have unchanged := adds.budget
        rw [List.length_nil, Nat.zero_add] at unchanged
        rw [patience, patience, alertness_of_early undecided early, if_pos looking,
          alertness_of_early stillUndecided (sameNow.trans early), notLooking,
          budget, budget]
        simp only [Bool.false_eq_true, if_false]
        omega
  | finds added course adds decided =>
      refine ⟨⟨waiting, mail ++ added, received, ⟨course, ?_⟩, ?_⟩, .inl decided⟩
      · intro none
        simp [none] at decided
      · have fewer := adds.budget
        rw [patience, patience, alertness_of_found decided, budget, budget,
          List.length_append]
        omega

/-- An envelope is routed. -/
theorem route
    (stage : Stage cast payload settings waiting mail received interplay)
    (routes : interplay.rehearsal.route? = some next.rehearsal)
    (sleepsOn : next.asleep = interplay.asleep) :
    Advances cast payload settings (patience cast waiting mail interplay)
      next := by
  rcases stage.course.route with ⟨noMail, -⟩ | ⟨other, isOther, proceeds⟩
  · simp [noMail] at routes
  obtain rfl := Option.some.inj (isOther.symm.trans routes)
  obtain ⟨nextWaiting, nextMail, heard, course, less, moves⟩ := proceeds
  refine ⟨nextWaiting, nextMail, heard, ⟨course, ?_⟩, ?_⟩
  · intro undecided seen deadline sleeps
    obtain ⟨isDeadline, noted, awaits⟩ := stage.sleeper
      (moves.sameOutcome ▸ undecided) seen deadline (sleepsOn ▸ sleeps)
    rcases moves.announced with same | announced
    · rw [same]
      exact ⟨isDeadline, noted, awaits⟩
    · exact ⟨isDeadline, by omega, fun seenAll => by omega⟩
  · have alert := alertness_of_route moves.sameOutcome moves.sameNow
    rw [patience, patience]
    omega

/-- While the waiter sleeps on, the time may pass until the deadline. -/
theorem clock
    (stage : Stage cast payload settings waiting mail received interplay)
    (undecided : interplay.rehearsal.outcome = none)
    (notLooking : interplay.isLooking = false)
    (noMail : interplay.rehearsal.channel.queue.isEmpty) :
    interplay.rehearsal.passToDeadline =
        { interplay.rehearsal with now := Instant.after 0 settings.timeout } ∧
      Course cast payload settings waiting mail received
        interplay.rehearsal.passToDeadline := by
  obtain ⟨early, voting, isDeadline⟩ := stage.asleep undecided notLooking
  have passes : interplay.rehearsal.passToDeadline =
      { interplay.rehearsal with now := Instant.after 0 settings.timeout } := by
    simp only [passToDeadline, undecided, isDeadline, early, Nat.zero_max]
  rw [passes]
  exact ⟨rfl, stage.course.pass voting isDeadline noMail⟩

/-- The time passes; then the waiter wakes up. -/
theorem pass
    (stage : Stage cast payload settings waiting mail received interplay)
    (positive : 0 < Instant.after 0 settings.timeout)
    (undecided : interplay.rehearsal.outcome = none)
    (notLooking : interplay.isLooking = false)
    (noMail : interplay.rehearsal.channel.queue.isEmpty)
    (passes : next.rehearsal = interplay.rehearsal.passToDeadline)
    (sleepsOn : next.asleep = interplay.asleep) :
    Advances cast payload settings (patience cast waiting mail interplay) next ∧
      next.isLooking := by
  have early := (stage.asleep undecided notLooking).1
  obtain ⟨clock, course⟩ := stage.clock undecided notLooking noMail
  rw [← passes] at clock course
  obtain ⟨limit, isLimit⟩ : ∃ limit,
    limit = Instant.after 0 settings.timeout := ⟨_, rfl⟩
  rw [← isLimit] at clock positive
  have looking : next.isLooking := by
    cases sleeps : interplay.asleep with
    | none => simp [Interplay.isLooking, clock, undecided, sleepsOn, sleeps]
    | some noted =>
        obtain ⟨seen, deadline⟩ := noted
        obtain ⟨until?, -⟩ := stage.sleeper undecided seen deadline sleeps
        rw [← isLimit] at until?
        simp [Interplay.isLooking, clock, undecided, sleepsOn, sleeps,
          Session.isAwake, until?]
  have late : next.rehearsal.now ≠ 0 := by
    rw [clock]
    exact Nat.ne_of_gt positive
  refine ⟨⟨waiting, mail, received, ⟨course, ?_⟩, ?_⟩, looking⟩
  · rw [clock, sleepsOn]
    exact stage.sleeper
  · have alert := alertness_of_late late
    have same : next.rehearsal.primary = interplay.rehearsal.primary := by
      rw [clock]
    rw [patience, patience, alertness_of_early undecided early, same]
    omega

/-- Somebody takes a turn. -/
theorem turn
    (stage : Stage cast payload settings waiting mail received interplay)
    (positive : 0 < Instant.after 0 settings.timeout) {turn : Interplay.Turn}
    (taken : interplay.turn? turn = some next) :
    Advances cast payload settings (patience cast waiting mail interplay)
      next := by
  cases turn with
  | waiter =>
      simp only [Interplay.turn?, Option.ite_none_right_eq_some] at taken
      obtain ⟨looking, isNext⟩ := taken
      obtain rfl := Option.some.inj isNext
      exact (stage.look positive looking rfl rfl).1
  | router =>
      simp only [Interplay.turn?, Option.map_eq_some_iff] at taken
      obtain ⟨routed, routes, rfl⟩ := taken
      exact stage.route routes rfl
  | clock =>
      simp only [Interplay.turn?, Option.ite_none_right_eq_some,
        Bool.and_eq_true, Bool.not_eq_true', Option.isNone_iff_eq_none] at taken
      obtain ⟨⟨⟨undecided, notLooking⟩, noMail⟩, isNext⟩ := taken
      obtain rfl := Option.some.inj isNext
      refine (stage.pass positive undecided notLooking noMail ?_ ?_).1 <;> rfl

/-- Many turns are taken, but not more than the patience allows. -/
theorem run {turns : List Interplay.Turn} {final : Interplay}
    (stage : Stage cast payload settings waiting mail received interplay)
    (positive : 0 < Instant.after 0 settings.timeout)
    (taken : interplay.run? turns = some final) :
    ∃ waiting' mail' received',
      Stage cast payload settings waiting' mail' received' final ∧
        turns.length + patience cast waiting' mail' final ≤
          patience cast waiting mail interplay := by
  induction turns generalizing interplay waiting mail received with
  | nil =>
      obtain rfl : interplay = final := Option.some.inj taken
      exact ⟨waiting, mail, received, stage, by simp⟩
  | cons turn rest ih =>
      obtain ⟨next, first, later⟩ : ∃ next,
          interplay.turn? turn = some next ∧ next.run? rest = some final := by
        simpa [Interplay.run?, List.foldlM_cons, Option.bind_eq_some_iff] using
          taken
      obtain ⟨nextWaiting, nextMail, heard, nextStage, less⟩ :=
        stage.turn positive first
      obtain ⟨lastWaiting, lastMail, all, lastStage, bound⟩ :=
        ih nextStage later
      refine ⟨lastWaiting, lastMail, all, lastStage, ?_⟩
      rw [List.length_cons]
      omega

/-- A waiter that sleeps on would not see anything new. -/
theorem look_idle
    (stage : Stage cast payload settings waiting mail received interplay)
    (positive : 0 < Instant.after 0 settings.timeout)
    (undecided : interplay.rehearsal.outcome = none)
    (notLooking : interplay.isLooking = false) :
    interplay.rehearsal.look = interplay.rehearsal := by
  obtain ⟨early, voting, isDeadline⟩ := stage.asleep undecided notLooking
  have conducts := stage.course.conducts
  have waits := Party.examine_of_voting conducts.role conducts.decisive_party
    voting conducts.fixed (early.symm ▸ positive)
  rw [← isDeadline] at waits
  have undecided : interplay.rehearsal.outcome.isSome = false := by
    simp [undecided]
  simp only [Rehearsal.look, undecided, waits, Bool.false_eq_true, if_false]

/-- When everything is over, the primary has heard all tidings. -/
theorem of_isOver
    (stage : Stage cast payload settings waiting mail received interplay)
    (ended : interplay.isOver) :
    Course cast payload settings [] [] cast.tidings interplay.rehearsal := by
  have noPosts : waiting = [] ∧ mail = [] := by
    simp only [Interplay.isOver, Bool.and_eq_true] at ended
    simpa [stage.course.channel] using ended.2
  obtain ⟨rfl, rfl⟩ := noPosts
  have all : received = cast.tidings := by
    simpa using stage.course.outlook
  exact all ▸ stage.course

end Stage

/-- Some turns lead from one interplay to the other. -/
def Leads (before after : Interplay) : Prop :=
  ∃ turns, before.run? turns = some after

namespace Leads

variable {first second third : Interplay}

theorem refl (interplay : Interplay) : Leads interplay interplay :=
  ⟨[], rfl⟩

theorem trans (earlier : Leads first second) (later : Leads second third) :
    Leads first third := by
  obtain ⟨turns, reaches⟩ := earlier
  obtain ⟨others, continues⟩ := later
  exact ⟨turns ++ others,
    by rw [Interplay.run?_append, reaches, Option.bind_some, continues]⟩

theorem of_turn {turn : Interplay.Turn} (taken : first.turn? turn = some second) :
    Leads first second :=
  ⟨[turn], by simp [Interplay.run?, taken]⟩

/-- Everything that is left is routed. -/
theorem drain (count : Nat) (rehearsal : Rehearsal)
    (asleep : Option (Nat × Option Instant)) :
    Leads ⟨rehearsal, asleep⟩ ⟨rehearsal.drain count, asleep⟩ := by
  induction count generalizing rehearsal with
  | zero => exact refl _
  | succ count ih =>
      cases routes : rehearsal.route? with
      | none =>
          simp only [Rehearsal.drain, routes]
          exact refl _
      | some routed =>
          have routing : Interplay.turn? ⟨rehearsal, asleep⟩ .router =
              some ⟨routed, asleep⟩ := by
            simp [Interplay.turn?, routes]
          simp only [Rehearsal.drain, routes]
          exact (of_turn routing).trans (ih routed)

end Leads

/-- Everything that is left is routed, which leaves the outcome as it is. -/
theorem Course.drain {cast : Cast} {payload : List UInt8}
    {settings : TransactionSettings} {waiting : List (PeerId × Behaviour)}
    {mail : List Post} {received : List Tiding} {rehearsal : Rehearsal}
    {count : Nat}
    (course : Course cast payload settings waiting mail received rehearsal)
    (enough : budget cast waiting mail rehearsal.primary.tally ≤ count) :
    (rehearsal.drain count).channel.queue.isEmpty ∧
      (rehearsal.drain count).outcome = rehearsal.outcome := by
  induction count generalizing rehearsal waiting mail received with
  | zero =>
      have nothing : waiting.length = 0 ∧ mail.length = 0 := by
        simp only [budget] at enough
        omega
      refine ⟨?_, rfl⟩
      simpa [Rehearsal.drain, course.channel] using nothing
  | succ count ih =>
      rcases course.route with ⟨noMail, rfl, rfl⟩ | ⟨routed, routes, proceeds⟩
      · simp [Rehearsal.drain, noMail, course.channel]
      · obtain ⟨nextWaiting, nextMail, heard, next, less, moves⟩ := proceeds
        obtain ⟨emptied, sameOutcome⟩ := ih next (by omega)
        simp only [Rehearsal.drain, routes]
        exact ⟨emptied, sameOutcome.trans moves.sameOutcome⟩

/-- The interplay is on its course and has no more than the given patience. -/
def Within (cast : Cast) (payload : List UInt8)
    (settings : TransactionSettings) (left : Nat) (interplay : Interplay) :
    Prop :=
  ∃ waiting mail received,
    Stage cast payload settings waiting mail received interplay ∧
      patience cast waiting mail interplay ≤ left

namespace Within

variable {cast : Cast} {payload : List UInt8}
  {settings : TransactionSettings} {left count : Nat}
  {interplay next : Interplay} {rehearsal : Rehearsal}
  {asleep : Option (Nat × Option Instant)}

theorem leads (within : Within cast payload settings left interplay)
    (positive : 0 < Instant.after 0 settings.timeout)
    (leads : Leads interplay next) :
    Within cast payload settings left next := by
  obtain ⟨waiting, mail, received, stage, bound⟩ := within
  obtain ⟨turns, taken⟩ := leads
  obtain ⟨nextWaiting, nextMail, heard, nextStage, nextBound⟩ :=
    stage.run positive taken
  exact ⟨nextWaiting, nextMail, heard, nextStage, by omega⟩

/-- The waiter looks, or would see that nothing happened. -/
theorem look (within : Within cast payload settings left ⟨rehearsal, asleep⟩)
    (positive : 0 < Instant.after 0 settings.timeout) :
    ∃ sleeps, Leads ⟨rehearsal, asleep⟩ ⟨rehearsal.look, sleeps⟩ ∧
      (rehearsal.look.outcome.isSome ∨
        Interplay.isLooking ⟨rehearsal.look, sleeps⟩ = false ∧
          rehearsal.look.channel = rehearsal.channel) := by
  obtain ⟨waiting, mail, received, stage, -⟩ := within
  cases undecided : rehearsal.outcome with
  | some outcome =>
      have same : rehearsal.look = rehearsal := by simp [Rehearsal.look, undecided]
      rw [same]
      exact ⟨asleep, .refl _, .inl (by simp [undecided])⟩
  | none =>
      cases looking : Interplay.isLooking ⟨rehearsal, asleep⟩ with
      | true =>
          have taken : Interplay.turn? ⟨rehearsal, asleep⟩ .waiter =
              some ⟨rehearsal.look, sleepAfter rehearsal⟩ := if_pos looking
          obtain ⟨next, isNext⟩ : ∃ next : Interplay,
            next = ⟨rehearsal.look, sleepAfter rehearsal⟩ := ⟨_, rfl⟩
          have found : next.rehearsal.outcome.isSome ∨ next.isLooking = false ∧
              next.rehearsal.channel = rehearsal.channel :=
            (stage.look positive looking (by rw [isNext]) (by rw [isNext])).2
          rw [isNext] at found
          exact ⟨sleepAfter rehearsal, .of_turn taken, found⟩
      | false =>
          have same : rehearsal.look = rehearsal :=
            stage.look_idle positive undecided looking
          rw [same]
          exact ⟨asleep, .refl _, .inr ⟨looking, rfl⟩⟩

/-- The time passes, if the waiter has found no outcome. -/
theorem pass (within : Within cast payload settings left ⟨rehearsal, asleep⟩)
    (positive : 0 < Instant.after 0 settings.timeout)
    (found : rehearsal.outcome.isSome ∨
      Interplay.isLooking ⟨rehearsal, asleep⟩ = false ∧
        rehearsal.channel.queue.isEmpty) :
    Leads ⟨rehearsal, asleep⟩ ⟨rehearsal.passToDeadline, asleep⟩ ∧
      rehearsal.passToDeadline.look.outcome.isSome := by
  obtain ⟨waiting, mail, received, stage, -⟩ := within
  cases undecided : rehearsal.outcome with
  | some outcome =>
      have same : rehearsal.passToDeadline = rehearsal := by
        simp [passToDeadline, undecided]
      have idle : rehearsal.look = rehearsal := by
        simp [Rehearsal.look, undecided]
      rw [same, idle]
      exact ⟨.refl _, by simp [undecided]⟩
  | none =>
      obtain ⟨notLooking, noMail⟩ := found.resolve_left (by simp [undecided])
      obtain ⟨clock, course⟩ := stage.clock undecided notLooking noMail
      have taken : Interplay.turn? ⟨rehearsal, asleep⟩ .clock =
          some ⟨rehearsal.passToDeadline, asleep⟩ :=
        if_pos (by simp [undecided, notLooking, noMail])
      refine ⟨.of_turn taken, ?_⟩
      cases (course.look positive (by rw [clock]; exact undecided)).1 with
      | waits _ early =>
          rw [clock] at early
          exact absurd early (Nat.ne_of_gt positive)
      | finds _ _ _ decided => exact decided

/-- Everything that is left is routed. -/
theorem drain (within : Within cast payload settings left ⟨rehearsal, asleep⟩)
    (enough : left ≤ 2 * count + 1) :
    (rehearsal.drain count).channel.queue.isEmpty ∧
      (rehearsal.drain count).outcome = rehearsal.outcome := by
  obtain ⟨waiting, mail, received, stage, bound⟩ := within
  have few : 2 * budget cast waiting mail rehearsal.primary.tally +
      alertness ⟨rehearsal, asleep⟩ ≤ left := bound
  exact stage.course.drain (by dsimp only; omega)

end Within

/-- A rehearsal that is played comes to the end of a schedule. -/
theorem play_ends {cast : Cast} {payload : List UInt8}
    {settings : TransactionSettings} {opened : Rehearsal} {left count : Nat}
    (within : Within cast payload settings left (.ofRehearsal opened))
    (positive : 0 < Instant.after 0 settings.timeout)
    (enough : left ≤ 2 * count + 1) :
    ∃ final, Leads (.ofRehearsal opened) final ∧ final.isOver ∧
      final.rehearsal =
        ((opened.look.drain count).look.passToDeadline.look).drain count := by
  obtain ⟨first, looks, -⟩ := within.look positive
  have routes := looks.trans (.drain count opened.look first)
  obtain ⟨second, looksAgain, found⟩ := (within.leads positive routes).look positive
  have looked := routes.trans looksAgain
  have noMail := ((within.leads positive looks).drain enough).1
  obtain ⟨passes, decided⟩ := (within.leads positive looked).pass positive
    (found.imp_right fun ⟨sleeps, sameChannel⟩ => ⟨sleeps, sameChannel ▸ noMail⟩)
  obtain ⟨third, looksLast, -⟩ :=
    (within.leads positive (looked.trans passes)).look positive
  have last := (looked.trans passes).trans looksLast
  obtain ⟨emptied, sameOutcome⟩ := (within.leads positive last).drain enough
  refine ⟨_, last.trans (.drain count _ third), ?_, rfl⟩
  simp only [Interplay.isOver, emptied, sameOutcome, decided, Bool.and_self]

end Rehearsal

end CreationCommit
