import CreationCommit.Proofs.AbortCauses
import CreationCommit.Proofs.Wakeups

/-!
# The deadline

Whoever first looks for the decision on the primary fixes the deadline, and no
later look moves it.  A look at the deadline or later first resolves the votes
and then gives up, so it always ends with a decision: the commit, if the last
vote was noted in time, or else the abort.  Nobody but those who look at the
clock gives up, and when they do, a vote is outstanding or the creation was
never begun.  To begin it after that has no effect.
-/

namespace CreationCommit

namespace Tally

variable {tally : Tally}

theorem deadline_perform (tally : Tally) (operation : Operation)
    (notFixed : ∀ now limit, operation ≠ .fixDeadline now limit) :
    (tally.perform operation).1.deadline = tally.deadline := by
  cases operation with
  | fixDeadline now limit => exact absurd rfl (notFixed now limit)
  | activateOnce | noteLateRefusal => rfl
  | _ =>
      simp only [perform, openVoting, enlist, noteYes, noteFailure, resolve,
        timeOut, abort, commitAlone, prepare, commitIfPrepared, finalizeOnce]
      (repeat' split) <;> rfl

/-- A creation that is no longer merely active never is again. -/
theorem active_perform (operation : Operation)
    (active : (tally.perform operation).1.phase = .active) :
    tally.phase = .active := by
  cases operation with
  | activateOnce | noteLateRefusal | fixDeadline => exact active
  | _ =>
      simp only [perform, openVoting, enlist, noteYes, noteFailure, resolve,
        timeOut, abort, commitAlone, prepare, commitIfPrepared,
        finalizeOnce] at active
      (repeat' split at active) <;> simp_all

theorem isDecided_abort (tally : Tally) (cause : AbortCause) :
    (tally.abort cause).isDecided := by
  unfold abort
  split
  · assumption
  · rfl

end Tally

/-- Whether the trigger is to begin the creation. -/
def Trigger.activates : Trigger → Bool
  | .command (.lead _) => true
  | .command (.enroll _) => true
  | .command (.handle .activated _) => true
  | _ => false

namespace Party

variable {party : Party} {now : Instant} {trigger : Trigger}

/-- The deadline that a check made now keeps to. -/
def deadlineAt (party : Party) (now : Instant) : Instant :=
  party.tally.deadline.getD (now.after party.setup.settings.timeout)

section Checks

variable (role : party.setup.role = .primary)

include role

/-- A check resolves the votes, fixes the deadline, and only then gives up. -/
theorem tally_checkDeadline (now : Instant) :
    (party.checkDeadline now).1.tally =
      let resolved :=
        { party.resolve.tally with deadline := some (party.deadlineAt now) }
      if party.deadlineAt now ≤ now then
        resolved.abort (.timedOut party.setup.settings.timeout)
      else
        resolved := by
  have sameDeadline : party.resolve.tally.deadline = party.tally.deadline :=
    party.tally.deadline_perform (.resolve _) (by simp)
  have isDeadline : party.resolve.tally.deadline.getD
      (now.after party.resolve.setup.settings.timeout) =
        party.deadlineAt now := by
    rw [sameDeadline]
    rfl
  unfold checkDeadline
  rw [if_pos (isPrimary_iff.2 role)]
  simp only [Tally.fixDeadline, Tally.timeOut, isDeadline]
  split
  · split <;> rfl
  · rfl

omit role in
theorem deadline_settle (party : Party) :
    party.settle.1.tally.deadline = party.tally.deadline := by
  unfold settle
  split
  · exact party.tally.deadline_perform .finalizeOnce (by simp)
  · rfl

theorem deadline_check (now : Instant) :
    (party.look (.clock now)).1.tally.deadline =
      some (party.deadlineAt now) := by
  have checked : (party.checkDeadline now).1.tally.deadline =
      some (party.deadlineAt now) := by
    rw [tally_checkDeadline role]
    dsimp only
    split
    · exact Tally.deadline_perform _ (.abort _) (by simp)
    · rfl
  rw [look_clock_fst, examine, ← checked]
  dsimp only
  split
  · exact Tally.deadline_perform _ .finalizeOnce (by simp)
  · exact deadline_settle _
  · rfl

omit role in
theorem sameRecord_check (now : Instant) :
    (party.checkDeadline now).1.tally.SameRecord
      (party.look (.clock now)).1.tally := by
  rw [look_clock_fst]
  exact sameRecord_examine party now

/-- A check at the deadline or later decides. -/
theorem isDecided_of_due (due : party.deadlineAt now ≤ now) :
    (party.look (.clock now)).1.tally.isDecided := by
  rw [Tally.isDecided, (sameRecord_check now).phase,
    tally_checkDeadline role, if_pos due]
  exact Tally.isDecided_abort _ _

/-- And whoever makes it is not left waiting. -/
theorem found_of_due (sound : party.tally.Sound)
    (due : party.deadlineAt now ≤ now) :
    ∃ closings outcome, (party.examine now).2 = .decided closings outcome := by
  have decided := isDecided_of_due role due
  rw [look_clock_fst] at decided
  cases found : (party.examine now).2 with
  | decided closings outcome => exact ⟨closings, outcome, rfl⟩
  | pending deadline =>
      have stillSound := (advancesOn_examine party now).sound sound
      exact absurd decided (undecided_of_pending stillSound found)

/-- A check before the deadline decides nothing that the votes do not. -/
theorem sameRecord_of_early
    (decisive : party.tally.Decisive party.setup.settings.threshold)
    (early : ¬ party.deadlineAt now ≤ now) :
    party.tally.SameRecord (party.look (.clock now)).1.tally := by
  refine Tally.SameRecord.trans ?_ (sameRecord_check now)
  rw [tally_checkDeadline role, if_neg early, resolve_of_decisive decisive]
  exact ⟨rfl, rfl, rfl, rfl, rfl⟩

/-- The votes are resolved first: a check that finds them all in commits, even
at the deadline or later. -/
theorem committed_of_votes_in (voting : party.tally.phase = .voting)
    (noneOutstanding : party.tally.outstanding = ∅)
    (bounded : party.tally.failures.size ≤ party.setup.settings.threshold)
    (now : Instant) :
    (party.look (.clock now)).1.tally.phase = .committed := by
  have commits : party.resolve.tally = { party.tally with phase := .committed } := by
    simp [resolve, Tally.resolve, voting, noneOutstanding,
      PeerMap.isEmpty_iff, Nat.not_lt.2 bounded]
  rw [(sameRecord_check now).phase, tally_checkDeadline role, commits]
  dsimp only
  split
  · rw [Tally.abort_of_isDecided rfl]
  · rfl

end Checks

section Activation

variable (role : party.setup.role = .primary)

include role

theorem look_of_activates (activates : trigger.activates = true) :
    (∃ view, party.look trigger = opened (party.lead view)) ∨
      party.look trigger = (party, []) := by
  have primary : party.isPrimary = true := isPrimary_iff.2 role
  unfold Trigger.activates at activates
  split at activates
  · exact .inl ⟨_, rfl⟩
  · exact .inr (by simp [look, enroll, primary, opened])
  · rename_i view
    exact .inl ⟨view, by simp [look, handle, primary]⟩
  · simp at activates

/-- To begin a creation that is decided asks nobody. -/
theorem duties_of_activates (activates : trigger.activates = true)
    (decided : party.tally.isDecided) : (party.look trigger).2 = [] := by
  have notActive : party.tally.phase ≠ .active := by
    intro active
    simp [Tally.isDecided_iff, active] at decided
  rcases look_of_activates role activates with ⟨view, leads⟩ | nothing
  · rw [leads]
    unfold opened lead
    rw [if_pos (isPrimary_iff.2 role)]
    dsimp only
    split
    · split
      · rfl
      · simp [Tally.openVoting, Tally.activateOnce, notActive]
    · rfl
  · rw [nothing]

theorem not_active_of_lead (notActivated : party.tally.activated = false)
    (view : GroupView) : (party.lead view).1.tally.phase ≠ .active := by
  intro active
  simp only [lead, isPrimary_iff.2 role, if_true, Tally.activateOnce,
    notActivated, Bool.not_false] at active
  cases view with
  | disconnected =>
      simp only [announce, Tally.commitAlone] at active
      split at active <;> simp_all
  | connected members =>
      have opened := Tally.active_perform (.resolve _) active
      simp only [Tally.openVoting] at opened
      split at opened <;> simp_all

/-- The primary is no longer merely active once it is activated. -/
theorem not_active_look
    (known : party.tally.activated = true → party.tally.phase ≠ .active)
    (activated : (party.look trigger).1.tally.activated = true) :
    (party.look trigger).1.tally.phase ≠ .active := by
  have advances := advancesOn_look party trigger
  cases already : party.tally.activated with
  | true =>
      exact advances.induction (motive := fun tally => tally.phase ≠ .active)
        (known already) fun _ _ _ notActive active =>
          notActive (Tally.active_perform _ active)
  | false =>
      have begun : ∃ view, trigger = .command (.lead view) ∨
          trigger = .command (.handle .activated view) := by
        revert activated
        refine advances.induction (motive := fun tally =>
          tally.activated = true → ∃ view, trigger = .command (.lead view) ∨
            trigger = .command (.handle .activated view))
          (by simp [already]) ?_
        intro operation caused tally known activated
        rcases (Tally.activated_perform tally operation).1 activated with
          earlier | rfl
        · exact known earlier
        · exact caused.resolve_right fun other => other.1 role
      obtain ⟨view, rfl | rfl⟩ := begun
      · exact not_active_of_lead role already view
      · simpa [look, handle, isPrimary_iff.2 role, opened] using
          not_active_of_lead role already view

end Activation

end Party

/-- The instant at which somebody looks for the decision. -/
def Look.check? (look : Look) : Option Instant :=
  match look.trigger with
  | .clock now => some now
  | _ => none

/-- The instant at which somebody first looked for the decision. -/
def firstCheck? (history : List Look) : Option Instant :=
  history.findSome? Look.check?

/-- Only a check fixes a deadline, and only where none is fixed. -/
theorem Look.deadline_eq {look : Look} {setup : Setup}
    (role : setup.role = .primary) (sameSetup : look.party.setup = setup) :
    look.tally.deadline = look.party.tally.deadline.or
      (look.check?.map (·.after setup.settings.timeout)) := by
  subst sameSetup
  have advances := Party.advancesOn_look look.party look.trigger
  cases checks : look.trigger with
  | clock now =>
      have fixes := Party.deadline_check role now
      rw [← checks] at fixes
      simp only [Look.check?, checks, Option.map_some, Option.or_some]
      exact fixes
  | command | result =>
      simp only [Look.check?, checks, Option.map_none, Option.or_none]
      refine advances.induction
        (motive := fun tally => tally.deadline = look.party.tally.deadline)
        rfl ?_
      intro operation caused tally known
      refine (tally.deadline_perform _ ?_).trans known
      rintro now limit rfl
      simp [checks, Trigger.Causes] at caused

/-- What the deadline means to one look of the primary. -/
structure Look.Punctual (look : Look) (fixed : Option Instant) : Prop where
  decides : ∀ now, look.trigger = .clock now →
    ∃ deadline, fixed = some deadline ∧
      (deadline ≤ now → look.tally.isDecided ∧
        ∃ closings outcome,
          (look.party.examine now).2 = .decided closings outcome)
  timesOut : ∀ report, ¬ look.party.tally.isDecided →
    look.tally.abortReport = some report → report.isTimeout = true →
    ∃ now deadline, look.trigger = .clock now ∧ fixed = some deadline ∧
      deadline ≤ now ∧
      look.party.tally.failures.size ≤ look.party.setup.settings.threshold ∧
      (look.party.tally.outstanding ≠ ∅ ∨
        look.phase = .active ∧ look.party.tally.activated = false)
  commits : ∀ now, look.trigger = .clock now →
    look.party.tally.activated = true → look.party.tally.outstanding = ∅ →
    look.phase ≠ .aborted → look.tally.phase = .committed
  activation : look.trigger.activates = true → look.party.tally.isDecided →
    look.duties = [] ∧ look.party.tally.SameRecord look.tally

namespace Session

variable {setup : Setup} {moves : List Move} {last : Session} {look : Look}

/-- The deadline stays as it was fixed, whatever is done. -/
theorem deadline_kept {origin : Session} {deadline : Instant}
    (ran : origin.run? moves = some last)
    (fixed : origin.party.tally.deadline = some deadline) :
    last.party.tally.deadline = some deadline := by
  refine kept_of_run (motive := fun tally => tally.deadline = some deadline)
    fixed (fun look known => ?_) ran
  refine (Party.advancesOn_look look.party look.trigger).induction
    (motive := fun tally => tally.deadline = some deadline) known ?_
  intro operation _ tally known
  cases operation with
  | fixDeadline now limit => simp [Tally.perform, Tally.fixDeadline, known]
  | _ => exact (tally.deadline_perform _ (by simp)).trans known

section Primary

variable (role : setup.role = .primary)
  (ran : (start setup).run? moves = some last)

include role ran

/-- The deadline is the time limit after the first check. -/
theorem deadline_of_run :
    last.party.tally.deadline =
      (firstCheck? ((start setup).history moves)).map
        (·.after setup.settings.timeout) := by
  refine history_induction (motive := fun history tally => tally.deadline =
    (firstCheck? history).map (·.after setup.settings.timeout)) rfl ?_ ran
  intro known look sameSetup before
  rw [Look.deadline_eq role sameSetup, before, firstCheck?, firstCheck?,
    List.findSome?_append]
  cases known.findSome? Look.check? <;> simp

theorem not_active_of_activated
    (activated : last.party.tally.activated = true) :
    last.party.tally.phase ≠ .active :=
  tally_of_run (motive := fun tally =>
      tally.activated = true → tally.phase ≠ .active) (by simp [Tally.start])
    (fun _ sameSetup known => Party.not_active_look (sameSetup ▸ role) known)
    ran activated

/-- Every look keeps to the deadline. -/
theorem punctual_of_look (isKnown : look ∈ (start setup).history moves) :
    look.Punctual last.party.tally.deadline := by
  obtain ⟨earlier, session, ranEarlier, atParty⟩ := reached_of_look ran isKnown
  obtain ⟨later, next, ranLater, left⟩ := resumed_of_look ran isKnown
  have sameSetup := setup_of_look ran isKnown
  have sound := sound_of_look ran isKnown
  have decisive := decisive_of_run role ranEarlier
  have notPrepared := not_prepared_of_primary role ranEarlier
  have notActive := not_active_of_activated role ranEarlier
  rw [← atParty] at decisive notPrepared notActive
  subst sameSetup
  have fixed (now : Instant) (checks : look.trigger = .clock now) :
      last.party.tally.deadline = some (look.party.deadlineAt now) := by
    refine deadline_kept ranLater ?_
    rw [left, Look.tally, checks]
    exact Party.deadline_check role now
  constructor
  · intro now checks
    refine ⟨_, fixed now checks, fun due => ?_⟩
    rw [Look.tally, checks]
    exact ⟨Party.isDecided_of_due role due, Party.found_of_due role sound due⟩
  · intro report undecided reported isTimeout
    have notYet : look.party.tally.abortReport = none :=
      sound.abortReport_eq_none (Tally.not_aborted_of_undecided undecided)
    cases look.aborts_of_report sound notYet reported with
    | exceeds _ cause => simp [AbortReport.isTimeout, cause] at isTimeout
    | aborts caused =>
        have noTimeout (limit : Duration) : report.cause ≠ .timedOut limit := by
          intro cause
          rw [cause] at caused
          exact caused
        unfold AbortReport.isTimeout at isTimeout
        split at isTimeout
        · exact absurd ‹_› (noTimeout _)
        · simp at isTimeout
    | timesOut now _ checks cause =>
        refine ⟨now, _, checks, fixed now checks, ?_,
          decisive.size_failures_le sound undecided, ?_⟩
        · by_contra early
          have same := Party.sameRecord_of_early role decisive early
          rw [← checks] at same
          have reportedBefore := same.abortReport
          change look.tally.abortReport = _ at reportedBefore
          rw [reported, notYet] at reportedBefore
          simp at reportedBefore
        · by_cases voting : look.party.tally.phase = .voting
          · exact .inl (decisive.outstanding voting)
          · have active := (Tally.unopened_of_undecided undecided voting).resolve_right
              notPrepared
            refine .inr ⟨active, ?_⟩
            rw [← Bool.not_eq_true]
            exact fun activated => notActive activated active
  · intro now checks activated noneOutstanding notAborted
    rw [Look.tally, checks]
    cases phase : look.party.tally.phase with
    | voting =>
        exact Party.committed_of_votes_in role phase noneOutstanding
          (decisive.bounded (.inl phase)) now
    | committed =>
        have advances := Party.advancesOn_look look.party (.clock now)
        exact (advances.sameRecord (Tally.isDecided_iff.2 (.inl phase))).phase.trans
          phase
    | active => exact absurd phase (notActive activated)
    | prepared => exact absurd phase notPrepared
    | aborted => exact absurd phase notAborted
  · intro activates decided
    exact ⟨Party.duties_of_activates role activates decided,
      (Party.advancesOn_look look.party look.trigger).sameRecord decided⟩

/-- Whatever calls overlap on the primary, and whatever their clocks show: the
deadline is the time limit after the first check that somebody who waits makes,
and is never moved.  Every check at the deadline or later leaves the creation
decided and has its waiter find the decision.  The time limit is given as the
cause of an abort only by such a check, with the failures within the threshold,
and with a vote outstanding or the creation never begun; a check that finds all
votes in commits instead.  And to begin a decided creation sends nothing and
leaves the decision alone. -/
theorem deadline_fixed_once_and_kept :
    last.party.tally.deadline =
        (firstCheck? ((start setup).history moves)).map
          (·.after setup.settings.timeout) ∧
      (∀ deadline, last.party.tally.deadline = some deadline →
        ∀ more later, last.run? more = some later →
          later.party.tally.deadline = some deadline) ∧
      ∀ look ∈ (start setup).history moves,
        look.Punctual last.party.tally.deadline :=
  ⟨deadline_of_run role ran,
    fun _ fixed _ _ ranMore => deadline_kept ranMore fixed,
    fun _ isKnown => punctual_of_look role ran isKnown⟩

end Primary

/-- Two wait for a creation that is begun only when the time has passed. -/
def belatedMoves : List Move :=
  [.start .await,
    .start .await,
    .proceed 0 5,
    .proceed 0 5,
    .proceed 1 20,
    .proceed 1 20,
    .proceed 0 30000000005,
    .proceed 0 30000000005,
    .proceed 0 30000000005,
    .start (.handle .activated (.connected [⟨"home"⟩, ⟨"near"⟩]))]

theorem deadline_kept_by_second_wait :
    ∃ session, (start (.primary ⟨"doc"⟩ ⟨"home"⟩)).run? belatedMoves =
        some session ∧
      (Setup.primary ⟨"doc"⟩ ⟨"home"⟩).role = .primary ∧
      session.party.tally.deadline = some 30000000005 ∧
      session.party.tally.phase = .aborted ∧
      ∀ look ∈ (start (.primary ⟨"doc"⟩ ⟨"home"⟩)).history belatedMoves,
        look.trigger.activates = true → look.party.tally.isDecided →
          look.duties = [] := by
  have run : ((start (.primary ⟨"doc"⟩ ⟨"home"⟩)).run? belatedMoves).map
      (fun session => session.party.tally.phase) = some .aborted := by rfl
  have first : firstCheck? ((start (.primary ⟨"doc"⟩ ⟨"home"⟩)).history
      belatedMoves) = some 5 := by rfl
  obtain ⟨session, ran, aborted⟩ := Option.map_eq_some_iff.1 run
  have role : (Setup.primary ⟨"doc"⟩ ⟨"home"⟩).role = .primary := rfl
  obtain ⟨fixed, -, punctual⟩ := deadline_fixed_once_and_kept role ran
  rw [first] at fixed
  exact ⟨session, ran, role, fixed, aborted, fun look isKnown activates decided =>
    ((punctual look isKnown).activation activates decided).1⟩

end Session

end CreationCommit
