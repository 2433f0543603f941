import CreationCommit.Proofs.Deadlines
import CreationCommit.Proofs.Outcomes

/-!
# What a sleeper counts on

Whoever sleeps on the primary does so until the deadline that is fixed by then.
So somebody else who looks for the decision meanwhile either finds nothing and
leaves the party as it is, or finds a decision for which the sleeper may wake up
at once: the decision was announced, or the deadline has come.
-/

namespace CreationCommit

/-- Whoever sleeps on the primary knows the deadline. -/
def Task.Timed (party : Party) : Task → Prop
  | .sleep _ deadline =>
      party.isPrimary = true →
        ∃ fixed, deadline = some fixed ∧ party.tally.deadline = some fixed
  | _ => True

namespace Party

variable {party : Party} {now : Instant} {deadline : Option Instant}

/-- Whoever waits on was told the deadline. -/
theorem deadline_of_pending (role : party.setup.role = .primary)
    (found : (party.examine now).2 = .pending deadline) :
    deadline = some (party.deadlineAt now) := by
  have told : (party.checkDeadline now).2 = some (party.deadlineAt now) := by
    have sameDeadline : party.resolve.tally.deadline = party.tally.deadline :=
      party.tally.deadline_perform (.resolve _) (by simp)
    unfold checkDeadline
    rw [if_pos (isPrimary_iff.2 role)]
    simp only [Tally.fixDeadline, sameDeadline]
    split <;> rfl
  unfold examine at found
  dsimp only at found
  split at found
  · simp at found
  · simp at found
  · rw [← told]
    exact (Finding.pending.inj found).symm

/-- Whoever waits on leaves the party as the check did. -/
theorem examine_fst_of_pending
    (found : (party.examine now).2 = .pending deadline) :
    (party.examine now).1 = (party.checkDeadline now).1 := by
  simp only [examine] at found ⊢
  split at found
  · simp at found
  · simp at found
  · rfl

/-- A check before a deadline that is fixed leaves the party as it is. -/
theorem checkDeadline_of_early
    (decisive : party.tally.Decisive party.setup.settings.threshold)
    {fixed : Instant} (isFixed : party.tally.deadline = some fixed)
    (early : ¬ fixed ≤ now) : (party.checkDeadline now).1 = party := by
  unfold checkDeadline
  split
  · dsimp only
    rw [resolve_of_decisive decisive]
    simp only [Tally.fixDeadline, isFixed, Option.getD_some, if_neg early]
    rw [← isFixed]
  · rfl

theorem checkDeadline_of_replica (notPrimary : party.isPrimary = false) :
    (party.checkDeadline now).1 = party := by
  simp [checkDeadline, notPrimary]

end Party

namespace Session

variable {setup : Setup} {moves : List Move} {session next last : Session}
  {move : Move}

/-- Every sleeper of the session knows the deadline. -/
def Timed (session : Session) : Prop :=
  ∀ call ∈ session.calls, ∀ task ∈ call.agenda, task.Timed session.party

theorem Step.timed (step : Step session move next) (timed : session.Timed) :
    next.Timed := by
  intro call callMem task isOwed
  have ran : session.run? [move] = some next := by
    rw [run?_cons, step.move?_eq]
    rfl
  have samePrimary : next.party.isPrimary = session.party.isPrimary := by
    rw [Party.isPrimary, step.setup, Party.isPrimary]
  cases step.origin call callMem task isOwed with
  | kept earlier earlierMem _ wasOwed =>
      have before := timed earlier earlierMem task wasOwed
      cases task with
      | sleep seen deadline =>
          intro primary
          obtain ⟨fixed, isDeadline, isFixed⟩ := before (samePrimary ▸ primary)
          exact ⟨fixed, isDeadline, deadline_kept ran isFixed⟩
      | duty | watch | examine | answer => trivial
  | waits earlier earlierMem seen deadline now wasOwed found left =>
      intro primary
      have role := Party.isPrimary_iff.1 (samePrimary ▸ primary)
      refine ⟨_, Party.deadline_of_pending role found, ?_⟩
      rw [left]
      exact Party.deadline_check role now
  | leaves | awaits | watches | wakes | learns => trivial

theorem timed_of_run (ran : (start setup).run? moves = some last) :
    last.Timed :=
  run_induction (motive := fun _ session => session.Timed)
    (by simp [start, Timed])
    (fun _ _ _ _ _ timed step => step.timed timed) ran

section Sleeping

variable {call : Call} {seen : Nat} {deadline : Option Instant} {now : Instant}
  (ran : (start setup).run? moves = some session)
  (callMem : call ∈ session.calls)
  (asleep : .sleep seen deadline ∈ call.agenda)

include ran callMem asleep

/-- On a primary with a sleeper, a look before the deadline finds no decision
that was not made, and a look at the deadline or later is one for which the
sleeper wakes up. -/
theorem early_or_awake (primary : session.party.isPrimary = true) (now : Instant) :
    (session.party.checkDeadline now).1 = session.party ∨
      isAwake session.party now seen deadline = true := by
  obtain ⟨fixed, rfl, isFixed⟩ :=
    timed_of_run ran call callMem _ asleep primary
  by_cases due : fixed ≤ now
  · exact .inr (by simp [isAwake, due])
  · exact .inl (Party.checkDeadline_of_early
      (decisive_of_isPrimary ran primary) isFixed due)

/-- Whoever finds nothing while somebody sleeps leaves the party as it is. -/
theorem unmoved_of_pending {told : Option Instant}
    (found : (session.party.examine now).2 = .pending told) :
    (session.party.examine now).1 = session.party := by
  have left := Party.examine_fst_of_pending found
  rw [left]
  cases primary : session.party.isPrimary with
  | false => exact Party.checkDeadline_of_replica primary
  | true =>
      obtain ⟨fixed, -, isFixed⟩ :=
        timed_of_run ran call callMem _ asleep primary
      refine Party.checkDeadline_of_early (decisive_of_isPrimary ran primary)
        isFixed fun due => ?_
      have role := Party.isPrimary_iff.1 primary
      have sound := sound_of_run ran
      have isDue : session.party.deadlineAt now ≤ now := by
        rwa [Party.deadlineAt, isFixed]
      obtain ⟨closings, outcome, decides⟩ :=
        Party.found_of_due role sound isDue
      simp [found] at decides

omit asleep in
/-- Nobody answered an outcome as long as there is nothing to be found. -/
theorem unanswered_of_pending {told : Option Instant}
    (found : (session.party.examine now).2 = .pending told) :
    call.outcome = none := by
  rw [← Option.not_isSome_iff_eq_none, Option.isSome_iff_exists]
  rintro ⟨outcome, answered⟩
  have final := faithful_of_run ran call callMem outcome (.inl answered)
  obtain ⟨deadline, decides⟩ := Party.examine_of_finalizedAs final now
  simp [decides] at found

/-- Whoever finds the decision finds one for which every sleeper wakes up. -/
theorem awake_of_decided {closings : List Closing} {outcome : Outcome}
    (found : (session.party.examine now).2 = .decided closings outcome) :
    isAwake session.party now seen deadline = true := by
  have decidedBefore (same : (session.party.checkDeadline now).1 = session.party) :
      isAwake session.party now seen deadline = true := by
    have decided := (Party.finalizedAs_of_found found).yields.isDecided
    rw [Tally.isDecided, (Party.sameRecord_check now).phase, same] at decided
    have alert : (Task.sleep seen deadline).Alert session.party :=
      alert_of_run ran call callMem _ asleep
    simp [isAwake, alert.2 decided]
  cases primary : session.party.isPrimary with
  | false => exact decidedBefore (Party.checkDeadline_of_replica primary)
  | true =>
      rcases early_or_awake ran callMem asleep primary now with same | awake
      · exact decidedBefore same
      · exact awake

end Sleeping

end Session

end CreationCommit
