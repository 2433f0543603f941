import CreationCommit.Proofs.ReplicaHistory

/-!
# What a role never does

Every letter that a party attempts carries out a duty that one of its looks
left, and a result is heard only of such a letter.  The looks of the primary
leave requests and notices, so it sends no vote, never hears how one ended, and
is never prepared.  The looks of a replica leave one vote and reports, so it
asks nobody and tells nobody; its voting is never opened, and nobody ever takes
part in it.
-/

namespace CreationCommit

namespace Tally

variable {tally : Tally} {operation : Operation}

/-- The voting was not opened, and nobody takes part. -/
structure Unopened (tally : Tally) : Prop where
  notVoting : tally.phase ≠ .voting
  outstanding : tally.outstanding = ∅
  failures : tally.failures = ∅
  acknowledged : tally.acknowledged = []

theorem Unopened.start (objectId : ObjectId) : (Tally.start objectId).Unopened :=
  ⟨by simp [Tally.start], rfl, rfl, rfl⟩

/-- Only where the voting is open do peers take part. -/
theorem Unopened.perform (unopened : tally.Unopened)
    (notOpened : ∀ peers localPeer, operation ≠ .openVoting peers localPeer) :
    (tally.perform operation).1.Unopened := by
  have notVoting : (tally.perform operation).1.phase ≠ .voting := by
    intro voting
    rcases voting_perform voting with earlier | ⟨peers, localPeer, opens⟩
    · exact unopened.notVoting earlier
    · exact notOpened peers localPeer opens
  obtain ⟨wasNotVoting, outstanding, failures, acknowledged⟩ := unopened
  cases operation with
  | openVoting peers localPeer => exact absurd rfl (notOpened peers localPeer)
  | activateOnce | noteLateRefusal | fixDeadline =>
      exact ⟨notVoting, outstanding, failures, acknowledged⟩
  | enlist | noteYes | noteFailure | resolve =>
      simpa [perform, enlist, noteYes, noteFailure, resolve, wasNotVoting] using
        ⟨wasNotVoting, outstanding, failures, acknowledged⟩
  | timeOut | abort | commitAlone | prepare | commitIfPrepared |
      finalizeOnce =>
      refine ⟨notVoting, ?_, ?_, ?_⟩ <;>
        simp only [perform, timeOut, abort, commitAlone, prepare,
          commitIfPrepared, finalizeOnce, Prod.map_fst, id] <;>
        split <;> assumption

/-- A replica is prepared by one operation alone. -/
theorem prepared_perform
    (prepared : (tally.perform operation).1.phase = .prepared) :
    tally.phase = .prepared ∨ operation = .prepare := by
  cases operation with
  | prepare => exact .inr rfl
  | _ =>
      simp only [perform, activateOnce, openVoting, enlist, noteYes,
        noteFailure, resolve, timeOut, abort, commitAlone, commitIfPrepared,
        noteLateRefusal, fixDeadline, finalizeOnce] at prepared
      (repeat' split at prepared) <;> simp_all

end Tally

namespace Look

variable {look : Look}

theorem endsVote_iff :
    look.endsVote = true ↔
      ∃ refusal result, look.trigger = .result (.vote refusal) result := by
  unfold endsVote
  split
  · rename_i refusal result ends
    simp [ends]
  · rename_i other
    simp only [Bool.false_eq_true, false_iff, not_exists]
    exact fun refusal result ends => other refusal result ends

end Look

/-- A replica never opens the voting. -/
theorem Party.unopened_look {party : Party} (role : party.setup.role ≠ .primary)
    (unopened : party.tally.Unopened) (trigger : Trigger) :
    (party.look trigger).1.tally.Unopened :=
  (advancesOn_look party trigger).induction unopened
    fun operation caused tally unopened => unopened.perform <| by
      rintro peers localPeer rfl
      exact role caused.1

/-- A replica votes when it is asked to enroll, and as it is asked to. -/
theorem Party.trigger_of_vote {party : Party} {trigger : Trigger}
    {refusal : Option String} (role : party.setup.role ≠ .primary)
    (noneAcknowledged : party.tally.acknowledged = [])
    (votes : .opening (.vote refusal) ∈ (party.look trigger).2) :
    trigger = .command (.enroll refusal) ∨
      refusal = none ∧ ∃ view, trigger = .command (.handle .activated view) := by
  have notPrimary := isPrimary_eq_false role
  have enrolled {asked : Option String}
      (isLeft : Duty.opening (.vote refusal) ∈ (opened (party.enroll asked)).2) :
      refusal = asked := by
    simp only [enroll, notPrimary, opened, Bool.false_eq_true, if_false] at isLeft
    split at isLeft
    · simpa using isLeft
    · simp at isLeft
  cases trigger with
  | command command =>
      cases command with
      | handle event view =>
          cases event with
          | activated =>
              simp only [look, handle, notPrimary, Bool.false_eq_true,
                if_false] at votes
              exact .inr ⟨enrolled votes, view, rfl⟩
          | memberJoined peer =>
              simp [look, handle, welcome, notPrimary, opened] at votes
          | voteReceived | memberDeparted | noticeReceived =>
              simp [look, handle, closed] at votes
      | lead view => simp [look, lead, notPrimary, opened] at votes
      | enroll asked => exact .inl (by rw [enrolled votes])
      | await => simp [look] at votes
  | result opening result => simp [look, closed] at votes
  | clock now =>
      obtain ⟨decisions, reports⟩ :=
        examine_reports role noneAcknowledged now
      simp [reports] at votes

namespace Session

variable {setup : Setup} {moves : List Move} {last : Session} {look : Look}

/-- What is attempted was left by a look. -/
theorem left_of_attempted (ran : (start setup).run? moves = some last)
    {letter : Letter} (attempted : letter ∈ last.attempts) :
    ∃ look ∈ (start setup).history moves, letter.duty ∈ look.duties := by
  have isDeed : letter.duty ∈ last.deeds ++ last.owed :=
    List.mem_append_left _
      (List.mem_append_left _ (List.mem_map_of_mem attempted))
  exact List.mem_flatMap.1 ((deeds_subperm_of_run ran).subset isDeed)

/-- A result is heard of a letter that was attempted. -/
theorem attempted_of_result (ran : (start setup).run? moves = some last)
    (isKnown : look ∈ (start setup).history moves) {opening : Opening}
    {result : Except DeliveryError Unit}
    (heard : look.trigger = .result opening result) :
    ∃ letter ∈ last.attempts, letter.duty = .opening opening := by
  have isAnswered : opening ∈ answered ((start setup).history moves) :=
    List.mem_filterMap.2 ⟨look, isKnown, by simp [Look.answered?, heard]⟩
  have isDuty := (results_subperm_of_run ran).subset
    (List.mem_append_left _ (List.mem_map_of_mem isAnswered))
  exact List.mem_map.1 isDuty

/-- A look of a run was taken at a session that the run reached. -/
theorem reached_of_look (ran : (start setup).run? moves = some last)
    (isKnown : look ∈ (start setup).history moves) :
    ∃ earlier session, (start setup).run? earlier = some session ∧
      look.party = session.party := by
  obtain ⟨known, rest, split⟩ := List.append_of_mem isKnown
  obtain ⟨earlier, move, -, session, -, ranEarlier, -, isLook⟩ :=
    taken_of_history ran split
  obtain ⟨trigger, -, rfl⟩ := Option.map_eq_some_iff.1 isLook
  exact ⟨earlier, session, ranEarlier, rfl⟩

/-- A look of a run left a session from which the run went on. -/
theorem resumed_of_look (ran : (start setup).run? moves = some last)
    (isKnown : look ∈ (start setup).history moves) :
    ∃ (later : List Move) (session : Session),
      session.run? later = some last ∧
        session.party.tally = look.tally := by
  obtain ⟨known, rest, split⟩ := List.append_of_mem isKnown
  obtain ⟨earlier, move, later, session, rfl, ranEarlier, -, isLook⟩ :=
    taken_of_history ran split
  rw [run?_append, ranEarlier, Option.bind_some, run?_cons] at ran
  obtain ⟨next, moved, ranLater⟩ := Option.bind_eq_some_iff.1 ran
  refine ⟨later, next, ranLater, ?_⟩
  rcases (step_of_move? moved).look_cases with ⟨noLook, -⟩ | ⟨other, isOther, -, left⟩
  · simp [isLook] at noLook
  · obtain rfl : look = other := Option.some.inj (isLook.symm.trans isOther)
    exact left

/-- A command that was heeded was given. -/
theorem start_of_look (ran : (start setup).run? moves = some last)
    (isKnown : look ∈ (start setup).history moves) {command : Command}
    (commanded : look.trigger = .command command) :
    .start command ∈ moves := by
  obtain ⟨known, rest, split⟩ := List.append_of_mem isKnown
  obtain ⟨earlier, move, later, session, rfl, -, -, isLook⟩ :=
    taken_of_history ran split
  obtain ⟨trigger, isTrigger, rfl⟩ := Option.map_eq_some_iff.1 isLook
  obtain rfl : trigger = .command command := commanded
  obtain rfl : move = .start command := by
    unfold trigger? at isTrigger
    split at isTrigger
    · simpa using isTrigger
    · split at isTrigger <;> simp at isTrigger
    · split at isTrigger <;> simp at isTrigger
    · simp at isTrigger
  simp

theorem setup_of_look (ran : (start setup).run? moves = some last)
    (isKnown : look ∈ (start setup).history moves) :
    look.party.setup = setup := by
  obtain ⟨earlier, session, ranEarlier, atParty⟩ := reached_of_look ran isKnown
  rw [atParty]
  exact setup_of_run ranEarlier

theorem sound_of_look (ran : (start setup).run? moves = some last)
    (isKnown : look ∈ (start setup).history moves) :
    look.party.tally.Sound := by
  obtain ⟨earlier, session, ranEarlier, atParty⟩ := reached_of_look ran isKnown
  rw [atParty]
  exact sound_of_run ranEarlier

section Primary

variable (role : setup.role = .primary)
  (ran : (start setup).run? moves = some last)

include role ran

theorem not_vote_of_attempted {letter : Letter}
    (attempted : letter ∈ last.attempts) : letter.duty.isVote = false := by
  obtain ⟨look, isKnown, isLeft⟩ := left_of_attempted ran attempted
  obtain ⟨peers, closings, opens, -, -⟩ :=
    Party.look_opens ((setup_of_look ran isKnown).symm ▸ role)
      (sound_of_look ran isKnown) look.trigger
  rw [Look.duties, opens] at isLeft
  simp only [List.map_map, List.mem_append, List.mem_map,
    Function.comp_apply] at isLeft
  rcases isLeft with ⟨peer, -, isRequest⟩ | ⟨closing, -, isClosing⟩
  · rw [← isRequest]
    rfl
  · rw [← isClosing]
    rfl

/-- The primary hears of no vote how it ended. -/
theorem not_endsVote_of_primary
    (isKnown : look ∈ (start setup).history moves) :
    look.endsVote = false := by
  rw [← Bool.not_eq_true, Look.endsVote_iff]
  rintro ⟨refusal, result, ends⟩
  obtain ⟨letter, attempted, isVote⟩ := attempted_of_result ran isKnown ends
  have noVote := not_vote_of_attempted role ran attempted
  simp [isVote, Duty.isVote] at noVote

theorem not_prepared_of_primary : last.party.tally.phase ≠ .prepared := by
  have kept := history_induction (motive := fun history tally =>
    (∀ look ∈ history, look.endsVote = false) → tally.phase ≠ .prepared)
    (by simp [Tally.start]) ?_ ran
  · exact kept fun look isKnown => not_endsVote_of_primary role ran isKnown
  · intro known look _ before noVotes prepared
    have notBefore := before fun earlier isKnown =>
      noVotes earlier (List.mem_append_left _ isKnown)
    refine notBefore ((Party.advancesOn_look look.party look.trigger).induction
      (motive := fun tally => tally.phase = .prepared →
        look.party.tally.phase = .prepared) id ?_ prepared)
    intro operation caused tally known nowPrepared
    rcases Tally.prepared_perform nowPrepared with earlier | rfl
    · exact known earlier
    · have ends := noVotes look (by simp)
      simp [Look.endsVote, show look.trigger = _ from caused] at ends

end Primary

section Replica

variable (role : setup.role ≠ .primary)
  (ran : (start setup).run? moves = some last)

include role ran

theorem unopened_of_run : last.party.tally.Unopened :=
  tally_of_run (motive := Tally.Unopened) (.start setup.objectId)
    (fun _ sameSetup unopened =>
      Party.unopened_look (sameSetup ▸ role) unopened _) ran

theorem unopened_of_look (isKnown : look ∈ (start setup).history moves) :
    look.party.tally.Unopened := by
  obtain ⟨earlier, session, ranEarlier, atParty⟩ := reached_of_look ran isKnown
  rw [atParty]
  exact unopened_of_run role ranEarlier

/-- What a replica attempts are votes. -/
theorem isVote_of_attempted {letter : Letter}
    (attempted : letter ∈ last.attempts) : letter.duty.isVote = true := by
  obtain ⟨look, isKnown, isLeft⟩ := left_of_attempted ran attempted
  obtain ⟨refusals, decisions, left, -, -⟩ :=
    (Party.replicaDuties_look ((setup_of_look ran isKnown).symm ▸ role)
      (unopened_of_look role ran isKnown).acknowledged look.trigger).duties
  rw [Look.duties, left] at isLeft
  simp only [List.map_map, List.mem_append, List.mem_map,
    Function.comp_apply] at isLeft
  rcases isLeft with ⟨refusal, -, isVote⟩ | ⟨decision, -, isReport⟩
  · rw [← isVote]
    rfl
  · exact absurd isReport.symm (letter.duty_ne_report decision)

/-- A replica attempts one vote at most. -/
theorem attempts_length_le_one : last.attempts.length ≤ 1 := by
  have allVotes : (last.attempts.map Letter.duty).countP Duty.isVote =
      last.attempts.length := by
    rw [List.countP_map]
    exact List.countP_eq_length.2 fun letter attempted =>
      isVote_of_attempted role ran attempted
  have left := (deeds_subperm_of_run ran).countP_le Duty.isVote
  have atMostOne := votes_of_looks role ran
  simp only [deeds, List.countP_append, allVotes] at left
  omega

end Replica

end Session

end CreationCommit
