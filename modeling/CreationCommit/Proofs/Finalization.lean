import CreationCommit.Proofs.Deeds

/-!
# A creation is finalized once

Whoever first finds a creation decided finalizes it, and owes the local object
one report from then on; nobody else ever owes one.  So the reports made and
the reports owed together are always one once the creation is finalized, and
none before.  An abort is finalized by the look that makes it, a commit of a
replica too, and a commit of the primary by the first who waits for it.
-/

namespace CreationCommit

namespace Party

/-- What a look does about the finalization, by the tallies before and after it:
it leaves it alone and no report to make, or it is the look that finalizes and
leaves one report, of the decision that the tally then tells. -/
inductive Finalization (before after : Tally) (duties : List Duty) : Prop
  | keeps (same : after.finalized = before.finalized)
      (silent : ∀ decision, .closing (.report decision) ∉ duties)
  | finalizes (decision : Decision) (notBefore : before.finalized = false)
      (finalized : after.finalized = true) (phase : after.phase = decision.phase)
      (once : ∀ told, duties.count (.closing (.report told)) =
        if told = decision then 1 else 0)

section Looks

variable {before : Tally} {party : Party}

theorem count_report_broadcast (decision told : Decision)
    (peers : List PeerId) :
    ((broadcast decision peers).map Duty.closing).count
        (.closing (.report told)) = if told = decision then 1 else 0 := by
  have noNotice : ((peers.map (.notify decision)).map Duty.closing).count
      (.closing (.report told)) = 0 := List.count_eq_zero.2 (by simp)
  rw [broadcast, List.map_append, List.count_append, noNotice, Nat.zero_add]
  cases told <;> cases decision <;> rfl

theorem Finalization.append_silent {after : Tally} {duties more : List Duty}
    (finalization : Finalization before after duties)
    (silent : ∀ decision, .closing (.report decision) ∉ more) :
    Finalization before after (duties ++ more) := by
  cases finalization with
  | keeps same silentBefore =>
      refine .keeps same fun decision => ?_
      simpa using ⟨silentBefore decision, silent decision⟩
  | finalizes decision notBefore finalized phase once =>
      refine .finalizes decision notBefore finalized phase fun told => ?_
      rw [List.count_append, once, List.count_eq_zero.2 (silent told),
        Nat.add_zero]

/-- Openings are no reports. -/
theorem Finalization.of_openings {after : Tally} (openings : List Opening)
    (same : after.finalized = before.finalized) :
    Finalization before after (openings.map .opening) :=
  .keeps same (by simp)

/-- Finalizing a decided tally and then telling the decision. -/
theorem finalization_finalizeOnce {tally : Tally}
    (same : tally.finalized = before.finalized) (decision : Decision)
    (phase : tally.phase = decision.phase) (peers : List PeerId) :
    Finalization before tally.finalizeOnce.1
      ((if tally.finalizeOnce.2 then broadcast decision peers else []).map
        .closing) := by
  have decided := Tally.isDecided_of_phase phase
  cases finalized : tally.finalized with
  | true =>
      rw [Tally.finalizeOnce_of_finalized finalized]
      exact .keeps same (by simp)
  | false =>
      rw [Tally.finalizeOnce_of_isDecided decided finalized]
      exact .finalizes decision (same ▸ finalized) rfl phase fun told =>
        count_report_broadcast decision told peers

theorem finalization_settle
    (same : party.tally.finalized = before.finalized) :
    Finalization before party.settle.1.tally
      (party.settle.2.map .closing) := by
  unfold settle
  split
  · rename_i aborted
    exact finalization_finalizeOnce same .abort aborted _
  · exact .keeps same (by simp)

theorem finalization_conclude
    (same : party.tally.finalized = before.finalized) :
    Finalization before party.conclude.1.tally
      (party.conclude.2.map .closing) :=
  finalization_settle same

theorem finalized_lead (view : GroupView) :
    (party.lead view).1.tally.finalized = party.tally.finalized := by
  unfold lead
  dsimp only
  split
  · split
    · split
      · exact finalized_commitAlone _
      · exact (finalized_resolve _ _).trans (finalized_openVoting _ _ _)
    · rfl
  · rfl

theorem finalized_enlist (tally : Tally) (peer : PeerId) :
    (tally.enlist peer).1.finalized = tally.finalized := by
  unfold Tally.enlist
  split <;> rfl

theorem finalized_welcome (peer : PeerId) :
    (party.welcome peer).1.tally.finalized = party.tally.finalized := by
  unfold welcome
  dsimp only
  split
  · split
    · exact finalized_enlist _ _
    · rfl
  · rfl

theorem finalized_enroll (refusal : Option String) :
    (party.enroll refusal).1.tally.finalized = party.tally.finalized := by
  unfold enroll
  split <;> rfl

theorem finalization_noteFailure (peer : PeerId) (failure : Failure) :
    Finalization party.tally (party.noteFailure peer failure).1.tally
      ((party.noteFailure peer failure).2.map .closing) := by
  unfold noteFailure
  dsimp only
  split
  · exact finalization_conclude
      ((finalized_resolve _ _).trans (finalized_noteFailure _ _ _))
  · exact finalization_conclude rfl

theorem finalized_weigh (vote : Vote) :
    (party.weigh vote).1.tally.finalized = party.tally.finalized := by
  unfold weigh
  split
  · exact (finalized_resolve _ _).trans (finalized_noteYes _ _)
  · exact (finalized_resolve _ _).trans (finalized_noteFailure _ _ _)
  · rfl
  · rfl
  · rfl
  · rfl

theorem weigh_silent (vote : Vote) (decision : Decision) :
    .closing (.report decision) ∉
      (party.weigh vote).2.map Duty.closing := by
  unfold weigh
  split
  · simp
  · simp
  · simp
  · simp
  · split <;> simp
  · simp

theorem finalization_hearVote (vote : Vote) :
    Finalization party.tally (party.hearVote vote).1.tally
      ((party.hearVote vote).2.map .closing) := by
  unfold hearVote
  split
  · rw [List.map_append]
    exact (finalization_conclude (finalized_weigh vote)).append_silent
      (weigh_silent vote)
  · exact .keeps rfl (by simp)

theorem finalization_obeyCommit :
    Finalization party.tally party.obeyCommit.1.tally
      (party.obeyCommit.2.map .closing) := by
  unfold obeyCommit
  by_cases prepared : party.tally.phase = .prepared
  · simp only [Tally.commitIfPrepared, prepared, if_true]
    have same : Tally.finalized { party.tally with phase := .committed } =
        party.tally.finalized := rfl
    exact finalization_finalizeOnce same .commit rfl []
  · simp only [Tally.commitIfPrepared, prepared, if_false, Bool.false_eq_true]
    exact .keeps rfl (by simp)

theorem finalization_hearNotice (decision : Decision) (objectId : ObjectId) :
    Finalization party.tally (party.hearNotice decision objectId).1.tally
      ((party.hearNotice decision objectId).2.map .closing) := by
  unfold hearNotice
  split
  · cases decision with
    | commit => exact finalization_obeyCommit
    | abort => exact finalization_conclude (finalized_abort _ _)
  · exact .keeps rfl (by simp)

theorem finalization_handle (event : Event) (view : GroupView) :
    Finalization party.tally (party.handle event view).1.tally
      (party.handle event view).2 := by
  cases event with
  | activated =>
      unfold handle
      dsimp only
      split
      · exact .of_openings _ (finalized_lead view)
      · exact .of_openings _ (finalized_enroll none)
  | memberJoined peer => exact .of_openings _ (finalized_welcome peer)
  | voteReceived vote => exact finalization_hearVote vote
  | memberDeparted peer =>
      simp only [handle, closed, dismiss]
      split
      · exact finalization_noteFailure peer .departed
      · exact .keeps rfl (by simp)
  | noticeReceived decision objectId =>
      exact finalization_hearNotice decision objectId

theorem finalization_noteResult (opening : Opening)
    (result : Except DeliveryError Unit) :
    Finalization party.tally (party.noteResult opening result).1.tally
      ((party.noteResult opening result).2.map .closing) := by
  unfold noteResult
  split
  · exact .keeps rfl (by simp)
  · exact finalization_noteFailure _ _
  · apply finalization_conclude
    unfold Tally.prepare
    split <;> rfl
  · exact finalization_conclude (finalized_abort _ _)
  · exact finalization_conclude (finalized_abort _ _)

theorem finalization_examine (now : Instant) :
    Finalization party.tally (party.look (.clock now)).1.tally
      (party.look (.clock now)).2 := by
  have same : (party.checkDeadline now).1.tally.finalized =
      party.tally.finalized := finalized_checkDeadline now
  simp only [look, examine]
  generalize (party.checkDeadline now).1 = checked at same ⊢
  cases phase : checked.tally.phase with
  | committed => exact finalization_finalizeOnce same .commit phase _
  | aborted =>
      cases checked.tally.abortReport with
      | none =>
          dsimp only
          exact .keeps same (by simp)
      | some report => exact finalization_settle same
  | active | voting | prepared =>
      dsimp only
      exact .keeps same (by simp)

/-- What any look of any party does about the finalization. -/
theorem finalization_look (party : Party) (trigger : Trigger) :
    Finalization party.tally (party.look trigger).1.tally
      (party.look trigger).2 := by
  cases trigger with
  | command command =>
      cases command with
      | handle event view => exact finalization_handle event view
      | lead view => exact .of_openings _ (finalized_lead view)
      | enroll refusal => exact .of_openings _ (finalized_enroll refusal)
      | await => exact .keeps rfl (by simp [look])
  | result opening result => exact finalization_noteResult opening result
  | clock now => exact finalization_examine now

end Looks

section Sealing

variable {party : Party} {trigger : Trigger}

theorem finalized_settle_of_aborted
    (aborted : party.settle.1.tally.phase = .aborted) :
    party.settle.1.tally.finalized = true := by
  have already : party.tally.phase = .aborted :=
    (sameRecord_settle party).phase ▸ aborted
  simp only [settle, already, if_true]
  exact finalized_finalizeOnce (Tally.isDecided_iff.2 (.inr already))

/-- The look by which a replica aborts finalizes the abort. -/
theorem finalized_of_replica_aborts {cause : AbortCause}
    (caused : trigger.Causes party.setup (.abort cause))
    (aborted : (party.look trigger).1.tally.phase = .aborted) :
    (party.look trigger).1.tally.finalized = true := by
  cases cause with
  | refusedLocally cause =>
      obtain rfl : trigger = .result (.vote (some cause)) (.ok ()) := caused
      exact finalized_settle_of_aborted aborted
  | voteUndelivered error =>
      obtain ⟨refusal, rfl⟩ := caused
      cases refusal <;> exact finalized_settle_of_aborted aborted
  | toldByPrimary =>
      obtain ⟨role, view, rfl⟩ := caused
      rw [look_notice view role] at aborted ⊢
      exact finalized_settle_of_aborted aborted
  | tooManyFailures | timedOut => exact caused.elim

/-- The look by which a replica commits finalizes the commit. -/
theorem finalized_of_replica_commits
    (prepared : party.tally.phase = .prepared)
    (told : trigger.Causes party.setup .commitIfPrepared) :
    (party.look trigger).1.tally.finalized = true := by
  obtain ⟨role, view, rfl⟩ := told
  rw [look_notice view role]
  simp only [closed, obeyCommit, Tally.commitIfPrepared, prepared, if_true]
  exact finalized_finalizeOnce rfl

/-- A replica whose decision is finalized as soon as it is made keeps to that,
and never votes on others. -/
theorem sealed_look (role : party.setup.role ≠ .primary)
    (notVoting : party.tally.phase ≠ .voting)
    (isSealed : party.tally.isDecided → party.tally.finalized = true) :
    (party.look trigger).1.tally.phase ≠ .voting ∧
      ((party.look trigger).1.tally.isDecided →
        (party.look trigger).1.tally.finalized = true) := by
  cases replicaChange_look role notVoting trigger with
  | stays phase =>
      refine ⟨phase ▸ notVoting, fun decided => ?_⟩
      have before : party.tally.isDecided := by
        simpa [Tally.isDecided, phase] using decided
      exact (advancesOn_look party trigger).finalized (isSealed before)
  | prepares _ prepared =>
      exact ⟨by simp [prepared], fun decided => by
        simp [Tally.isDecided_iff, prepared] at decided⟩
  | commits prepared committed told =>
      exact ⟨by simp [committed], fun _ =>
        finalized_of_replica_commits prepared told⟩
  | aborts _ _ aborted _ caused =>
      exact ⟨by simp [aborted], fun _ =>
        finalized_of_replica_aborts caused aborted⟩

end Sealing

end Party

namespace Session

variable {setup : Setup} {session next last : Session} {move : Move}
  {moves : List Move}

theorem sealed_of_run (role : setup.role ≠ .primary)
    (ran : (start setup).run? moves = some last)
    (decided : last.party.tally.isDecided) :
    last.party.tally.finalized = true := by
  have kept := tally_of_run (motive := fun tally => tally.phase ≠ .voting ∧
      (tally.isDecided → tally.finalized = true))
    (by simp [Tally.start, Tally.isDecided, Phase.isDecided])
    (fun look sameSetup before =>
      Party.sealed_look (sameSetup ▸ role) before.1 before.2) ran
  exact kept.2 decided

/-- An abort is finalized at once, whoever the party is. -/
theorem finalized_of_aborted (ran : (start setup).run? moves = some last)
    (aborted : last.party.tally.phase = .aborted) :
    last.party.tally.finalized = true := by
  by_cases role : setup.role = .primary
  · exact (tidy_of_run role ran).2.finalized aborted
  · exact sealed_of_run role ran (Tally.isDecided_iff.2 (.inr aborted))

end Session

/-- How often a decision is reported once all reports are made: one time if it
is finalized. -/
def Tally.finalReports (tally : Tally) (decision : Decision) : Nat :=
  if tally.finalized = true ∧ tally.phase = decision.phase then 1 else 0

/-- What a look newly has reported is what its finalization calls for. -/
theorem Party.Finalization.finalReports {before after : Tally}
    {duties : List Duty} (finalization : Finalization before after duties)
    (decided : before.finalized = true → before.isDecided)
    (sameRecord : before.isDecided → before.SameRecord after)
    (decision : Decision) :
    after.finalReports decision = before.finalReports decision +
      duties.count (.closing (.report decision)) := by
  cases finalization with
  | keeps same silent =>
      rw [List.count_eq_zero.2 (silent decision), Nat.add_zero,
        Tally.finalReports, Tally.finalReports, same]
      by_cases finalized : before.finalized = true
      · rw [(sameRecord (decided finalized)).phase]
      · simp [finalized]
  | finalizes made notBefore finalized phase once =>
      simp [Tally.finalReports, notBefore, finalized, phase, once,
        Decision.phase_injective.eq_iff, eq_comm]

/-- Whether a task leads to an answer, which only the tasks of a wait do. -/
def Task.leadsToAnswer : Task → Bool
  | .duty _ => false
  | _ => true

/-- Whether a call waits for the decision, or waited and has its answer. -/
def Call.Waits (call : Call) : Prop :=
  call.outcome.isSome ∨ ∃ task ∈ call.agenda, task.leadsToAnswer = true

namespace Session

variable {setup : Setup} {session next last : Session} {move : Move}
  {moves : List Move}

/-- Nobody who waits stops waiting without an answer. -/
theorem Step.keeps_waiting (step : Step session move next)
    (notAbandoned : ∀ index, move ≠ .abandon index)
    (waits : (∃ call ∈ session.calls, call.Waits) ∨ move = .start .await) :
    ∃ call ∈ next.calls, call.Waits := by
  cases step with
  | launches command =>
      rw [launch_eq]
      rcases waits with ⟨call, callMem, waits⟩ | isAwait
      · exact ⟨call, List.mem_append_left _ callMem, waits⟩
      · obtain rfl : command = .await := by simpa using isAwait
        refine ⟨_, List.mem_append_right _ (List.mem_singleton_self _), .inr ?_⟩
        exact ⟨.watch, by simp [Call.ofTasks], rfl⟩
  | begins index duty rest outcome party letter turn composed =>
      exact exists_mem_set turn id (waits.resolve_right (by simp))
  | hears index opening rest letter outcome result turn
  | closes index closing rest letter outcome result turn
  | reports index now decision rest outcome turn =>
      refine exists_mem_set turn ?_ (waits.resolve_right (by simp))
      rintro (answered | ⟨task, isOwed, waiting⟩)
      · exact .inl answered
      · rcases List.mem_cons.1 isOwed with rfl | later
        · simp [Task.leadsToAnswer] at waiting
        · exact .inr ⟨task, by simp [later], waiting⟩
  | watches index now rest outcome turn =>
      refine exists_mem_set turn (fun _ => ?_) (waits.resolve_right (by simp))
      exact .inr ⟨_, List.mem_cons_self, rfl⟩
  | wakes index now seen deadline rest outcome turn awake =>
      refine exists_mem_set turn (fun _ => ?_) (waits.resolve_right (by simp))
      exact .inr ⟨_, List.mem_cons_self, rfl⟩
  | waits index now seen rest outcome deadline turn found idle =>
      refine exists_mem_set turn (fun _ => ?_) (waits.resolve_right (by simp))
      exact .inr ⟨_, List.mem_cons_self, rfl⟩
  | learns index now seen rest before closings outcome turn found =>
      refine exists_mem_set turn (fun _ => ?_) (waits.resolve_right (by simp))
      exact .inr ⟨.answer outcome, by simp [Call.ofTasks], rfl⟩
  | answers index now outcome rest before turn =>
      refine exists_mem_set turn (fun _ => ?_) (waits.resolve_right (by simp))
      exact .inl rfl
  | abandons index => exact absurd rfl (notAbandoned index)

theorem waits_of_run (ran : (start setup).run? moves = some last)
    (notAbandoned : ∀ index, .abandon index ∉ moves)
    (awaited : .start .await ∈ moves) : ∃ call ∈ last.calls, call.Waits := by
  revert notAbandoned awaited
  refine run_induction (motive := fun moves session =>
    (∀ index, .abandon index ∉ moves) → .start .await ∈ moves →
      ∃ call ∈ session.calls, call.Waits) (by simp) ?_ ran
  intro earlier session move next _ known step notAbandoned awaited
  apply step.keeps_waiting
  · exact fun index given => notAbandoned index (by simp [given])
  · rcases List.mem_append.1 awaited with before | isLast
    · exact .inl (known (fun index given =>
        notAbandoned index (List.mem_append_left _ given)) before)
    · exact .inr (List.mem_singleton.1 isLast).symm

theorem truthful_of_run (ran : (start setup).run? moves = some last) :
    last.Truthful :=
  run_induction (motive := fun _ session => session.Truthful)
    (by simp [start, Truthful])
    (fun _ _ _ _ _ truthful step => step.truthful truthful) ran

/-- Once every call has returned and somebody waited, the decision is
finalized. -/
theorem finalized_of_waited (ran : (start setup).run? moves = some last)
    (notAbandoned : ∀ index, .abandon index ∉ moves)
    (awaited : .start .await ∈ moves) (idle : last.isIdle = true) :
    last.party.tally.finalized = true := by
  obtain ⟨call, callMem, waits⟩ := waits_of_run ran notAbandoned awaited
  have returned : call.agenda = [] := by
    simpa [Call.hasReturned] using List.all_eq_true.1 idle call callMem
  refine truthful_of_run ran call callMem (.inl ?_)
  simpa [Call.Waits, returned] using waits

/-- The looks of a run leave the reports that its tally calls for. -/
theorem reports_of_looks (ran : (start setup).run? moves = some last)
    (decision : Decision) :
    (((start setup).history moves).flatMap Look.duties).count
        (.closing (.report decision)) =
      last.party.tally.finalReports decision := by
  have counted := history_induction (motive := fun history tally =>
    (tally.finalized = true → tally.isDecided) ∧
      (history.flatMap Look.duties).count (.closing (.report decision)) =
        tally.finalReports decision) ?_ ?_ ran
  · exact counted.2
  · simp [Tally.start, Tally.finalReports]
  · rintro known look - ⟨decided, counted⟩
    have advances := Party.advancesOn_look look.party look.trigger
    have finalization := Party.finalization_look look.party look.trigger
    refine ⟨advances.isDecided_of_finalized decided, ?_⟩
    rw [List.flatMap_append, List.flatMap_singleton, List.count_append, counted]
    exact (finalization.finalReports decided advances.sameRecord decision).symm

/-- The reports made and owed are at most those that are called for, and as
many, if no call was given up. -/
theorem reports_of_run (ran : (start setup).run? moves = some last)
    (decision : Decision) :
    last.callbacks.count decision +
        last.owed.count (.closing (.report decision)) ≤
        last.party.tally.finalReports decision ∧
      ((∀ index, .abandon index ∉ moves) →
        last.callbacks.count decision +
          last.owed.count (.closing (.report decision)) =
            last.party.tally.finalReports decision) := by
  have counted := count_deeds_of_run ran (.closing (.report decision))
  rwa [reports_of_looks ran, count_reports] at counted

theorem length_callbacks (callbacks : List Decision) :
    callbacks.length = callbacks.count .commit + callbacks.count .abort := by
  induction callbacks with
  | nil => rfl
  | cons decision rest ih =>
      cases decision <;> simp [ih] <;> omega

theorem count_callbacks_le (ran : (start setup).run? moves = some last)
    (decision : Decision) :
    last.callbacks.count decision ≤
      last.party.tally.finalReports decision := by
  have counted := (reports_of_run ran decision).1
  omega

theorem length_callbacks_le_one (ran : (start setup).run? moves = some last) :
    last.callbacks.length ≤ 1 := by
  have commits := count_callbacks_le ran .commit
  have aborts := count_callbacks_le ran .abort
  have oneDecision : last.party.tally.finalReports .commit +
      last.party.tally.finalReports .abort ≤ 1 := by
    simp only [Tally.finalReports, Decision.phase]
    cases last.party.tally.phase <;> simp <;> split <;> omega
  rw [length_callbacks]
  omega

/-- Once every call has returned, a finalized decision was reported. -/
theorem callbacks_of_finalized (ran : (start setup).run? moves = some last)
    (notAbandoned : ∀ index, .abandon index ∉ moves)
    (idle : last.isIdle = true) (finalized : last.party.tally.finalized = true)
    {decision : Decision} (phase : last.party.tally.phase = decision.phase) :
    last.callbacks = [decision] := by
  have counted := (reports_of_run ran decision).2 notAbandoned
  rw [owed_of_isIdle idle, List.count_nil, Nat.add_zero, Tally.finalReports,
    if_pos ⟨finalized, phase⟩] at counted
  have reported : decision ∈ last.callbacks :=
    List.count_pos_iff.1 (by omega)
  have one : last.callbacks.length = 1 :=
    Nat.le_antisymm (length_callbacks_le_one ran)
      (List.length_pos_of_mem reported)
  obtain ⟨told, isTold⟩ := List.length_eq_one_iff.1 one
  rw [isTold, List.mem_singleton] at reported
  rw [isTold, reported]

/-- Whatever calls overlap on a party and however its sends end: at most one
decision is reported to the local object, and only the one that the tally then
tells.  Once every call has returned, and none was given up, an abort was
reported once, and so was a commit, on a replica always and on the primary if
anybody waited for it. -/
theorem decision_reported_exactly_once
    (ran : (start setup).run? moves = some last) :
    last.callbacks.length ≤ 1 ∧
      (∀ decision ∈ last.callbacks,
        last.party.tally.phase = decision.phase) ∧
      ((∀ index, .abandon index ∉ moves) → last.isIdle = true →
        (last.party.tally.phase = .aborted → last.callbacks = [.abort]) ∧
        (last.party.tally.phase = .committed →
          setup.role ≠ .primary ∨ .start .await ∈ moves →
          last.callbacks = [.commit])) := by
  refine ⟨length_callbacks_le_one ran, ?_, fun notAbandoned idle => ⟨?_, ?_⟩⟩
  · intro decision reported
    have called := count_callbacks_le ran decision
    have once := List.count_pos_iff.2 reported
    rw [Tally.finalReports] at called
    split at called
    · rename_i told
      exact told.2
    · omega
  · intro aborted
    exact callbacks_of_finalized ran notAbandoned idle
      (finalized_of_aborted ran aborted) aborted
  · intro committed expected
    have finalized : last.party.tally.finalized = true := by
      by_cases role : setup.role = .primary
      · have awaited := expected.resolve_left (not_not_intro role)
        exact finalized_of_waited ran notAbandoned awaited idle
      · exact sealed_of_run role ran (Tally.isDecided_iff.2 (.inl committed))
    exact callbacks_of_finalized ran notAbandoned idle finalized committed

/-- The only peer departs while its request is being sent and somebody sleeps
until the decision; the request fails after that. -/
def departureMoves : List Move :=
  [.start (.lead (.connected [⟨"home"⟩, ⟨"away"⟩])),
    .start .await,
    .begin 0,
    .proceed 1 0,
    .proceed 1 0,
    .start (.handle (.memberDeparted ⟨"away"⟩) .disconnected),
    .finish 0 (.error (.rejected ⟨"away"⟩ "gone")),
    .proceed 1 0,
    .proceed 1 0,
    .proceed 1 0,
    .proceed 2 0,
    .proceed 1 0]

theorem abort_reported_of_departure :
    ∃ session, (start (.primary ⟨"doc"⟩ ⟨"home"⟩)).run? departureMoves =
        some session ∧
      (∀ index, .abandon index ∉ departureMoves) ∧ session.isIdle = true ∧
      session.party.tally.phase = .aborted ∧ session.callbacks = [.abort] := by
  have run : ((start (.primary ⟨"doc"⟩ ⟨"home"⟩)).run? departureMoves).map
      (fun session => (session.isIdle, session.party.tally.phase)) =
        some (true, .aborted) := by rfl
  obtain ⟨session, ran, atEnd⟩ := Option.map_eq_some_iff.1 run
  obtain ⟨idle, aborted⟩ := Prod.mk.inj atEnd
  have notAbandoned (index : Nat) : .abandon index ∉ departureMoves := by
    simp [departureMoves]
  have once := (decision_reported_exactly_once ran).2.2 notAbandoned idle
  exact ⟨session, ran, notAbandoned, idle, aborted, once.1 aborted⟩

end Session

end CreationCommit
