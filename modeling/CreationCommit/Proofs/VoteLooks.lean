import CreationCommit.Proofs.History

/-!
# What a look of the primary does to the votes

A look admits peers, or it is about one peer that said yes or failed.  In the
first case the peers admitted are new and become outstanding; in the second the
votes change as the tally notes the yes or the failure, which it does only
while the voting is open.  A refusal that comes after the commit is kept apart.
-/

namespace CreationCommit

namespace Tally

/-- The tallies record the same votes. -/
structure SameVotes (first second : Tally) : Prop where
  outstanding : second.outstanding = first.outstanding
  failures : second.failures = first.failures
  acknowledged : second.acknowledged = first.acknowledged
  lateRefusals : second.lateRefusals = first.lateRefusals

namespace SameVotes

theorem refl (tally : Tally) : tally.SameVotes tally :=
  ⟨rfl, rfl, rfl, rfl⟩

theorem trans {first second third : Tally} (lower : first.SameVotes second)
    (upper : second.SameVotes third) : first.SameVotes third where
  outstanding := upper.outstanding.trans lower.outstanding
  failures := upper.failures.trans lower.failures
  acknowledged := upper.acknowledged.trans lower.acknowledged
  lateRefusals := upper.lateRefusals.trans lower.lateRefusals

end SameVotes

theorem sameVotes_abort (tally : Tally) (cause : AbortCause) :
    tally.SameVotes (tally.abort cause) := by
  unfold Tally.abort
  split <;> exact ⟨rfl, rfl, rfl, rfl⟩

theorem sameVotes_resolve (tally : Tally) (threshold : Nat) :
    tally.SameVotes (tally.resolve threshold).1 := by
  unfold resolve
  split
  · split
    · exact sameVotes_abort _ _
    · split <;> exact ⟨rfl, rfl, rfl, rfl⟩
  · exact .refl tally

theorem sameVotes_finalizeOnce (tally : Tally) :
    tally.SameVotes tally.finalizeOnce.1 := by
  unfold finalizeOnce
  split <;> exact ⟨rfl, rfl, rfl, rfl⟩

theorem sameVotes_commitAlone (tally : Tally) :
    tally.SameVotes tally.commitAlone.1 := by
  unfold commitAlone
  split <;> exact ⟨rfl, rfl, rfl, rfl⟩

theorem sameVotes_prepare (tally : Tally) :
    tally.SameVotes tally.prepare.1 := by
  unfold prepare
  split <;> exact ⟨rfl, rfl, rfl, rfl⟩

section Noting

variable {tally : Tally} {peer other : PeerId} {failure : Failure}

theorem noteYes_of_outstanding (voting : tally.phase = .voting)
    (outstanding : peer ∈ tally.outstanding) :
    (tally.noteYes peer).1 =
      { tally with
        outstanding := tally.outstanding.erase peer
        acknowledged := tally.acknowledged ++ [peer] } := by
  simp [noteYes, voting, outstanding]

theorem noteYes_of_not_voting (notVoting : tally.phase ≠ .voting) :
    (tally.noteYes peer).1 = tally := by
  simp [noteYes, notVoting]

theorem noteFailure_of_taking_part (voting : tally.phase = .voting)
    (notFailed : peer ∉ tally.failures)
    (takesPart : peer ∈ tally.outstanding ∨ peer ∈ tally.acknowledged) :
    (tally.noteFailure peer failure).1 =
      { tally with
        outstanding := tally.outstanding.erase peer
        acknowledged := tally.acknowledged.erase peer
        failures := tally.failures.insert peer failure } := by
  simp [noteFailure, voting, notFailed, takesPart]

theorem noteFailure_of_failed (failed : peer ∈ tally.failures) :
    (tally.noteFailure peer failure).1 = tally := by
  simp [noteFailure, failed]

theorem noteFailure_of_stranger (stranger : ¬ tally.Involves peer) :
    (tally.noteFailure peer failure).1 = tally := by
  simp only [Involves, not_or] at stranger
  simp [noteFailure, stranger]

theorem noteFailure_of_not_voting (notVoting : tally.phase ≠ .voting) :
    (tally.noteFailure peer failure).1 = tally := by
  simp [noteFailure, notVoting]

theorem noteFailure_of_not_recorded
    (notRecorded : (tally.noteFailure peer failure).2 = false) :
    (tally.noteFailure peer failure).1 = tally := by
  unfold noteFailure at notRecorded ⊢
  split at notRecorded
  · simp at notRecorded
  · rename_i refused
    rw [if_neg refused]

end Noting

/-- The first tally admits the peers, and is then the second. -/
structure Admits (before : Tally) (peers : List PeerId) (after : Tally) :
    Prop where
  nodup : peers.Nodup
  fresh : ∀ peer ∈ peers, ¬ before.Involves peer
  outstanding : ∀ peer, peer ∈ after.outstanding ↔
    peer ∈ before.outstanding ∨ peer ∈ peers
  failures : after.failures = before.failures
  acknowledged : after.acknowledged = before.acknowledged
  lateRefusals : after.lateRefusals = before.lateRefusals

section Admission

variable {before after later : Tally} {peers : List PeerId}

theorem SameVotes.admits_nil (same : before.SameVotes after) :
    before.Admits [] after where
  nodup := List.nodup_nil
  fresh := by simp
  outstanding := by simp [same.outstanding]
  failures := same.failures
  acknowledged := same.acknowledged
  lateRefusals := same.lateRefusals

theorem Admits.sameVotes (admits : before.Admits peers after)
    (same : after.SameVotes later) : before.Admits peers later where
  nodup := admits.nodup
  fresh := admits.fresh
  outstanding := same.outstanding ▸ admits.outstanding
  failures := same.failures.trans admits.failures
  acknowledged := same.acknowledged.trans admits.acknowledged
  lateRefusals := same.lateRefusals.trans admits.lateRefusals

theorem SameVotes.admits (same : before.SameVotes after)
    (admits : after.Admits peers later) : before.Admits peers later where
  nodup := admits.nodup
  fresh := by
    simpa [Involves, same.outstanding, same.acknowledged, same.failures]
      using admits.fresh
  outstanding := same.outstanding ▸ admits.outstanding
  failures := admits.failures.trans same.failures
  acknowledged := admits.acknowledged.trans same.acknowledged
  lateRefusals := admits.lateRefusals.trans same.lateRefusals

theorem admits_openVoting (sound : before.Sound) (peers : List PeerId)
    (localPeer : PeerId) :
    before.Admits (before.openVoting peers localPeer).2
      (before.openVoting peers localPeer).1 where
  nodup := Party.nodup_openVoting before peers localPeer
  fresh := fun _ admitted => (Party.openVoting_admits sound admitted).1
  outstanding := by
    intro peer
    unfold openVoting
    split
    · simp only [mem_enlistAll_fst, mem_enlistAll_snd]
      by_cases known : peer ∈ before.outstanding
      · simp [known]
      · simp [known]
    · simp
  failures := by unfold openVoting; split <;> rfl
  acknowledged := by unfold openVoting; split <;> rfl
  lateRefusals := by unfold openVoting; split <;> rfl

theorem admits_enlist {peer : PeerId}
    (admitted : (before.enlist peer).2 = true) :
    before.Admits [peer] (before.enlist peer).1 := by
  unfold enlist at admitted ⊢
  split at admitted
  · rename_i allowed
    rw [if_pos allowed]
    have new : peer ∉ before.outstanding := by simpa using admitted
    exact
      { nodup := by simp
        fresh := by simp [Involves, new, allowed]
        outstanding := by simp [or_comm]
        failures := rfl
        acknowledged := rfl
        lateRefusals := rfl }
  · simp at admitted

end Admission

end Tally

namespace Look

/-- The peer that a duty asks for its vote. -/
def askedBy? : Duty → Option PeerId
  | .opening (.request peer) => some peer
  | _ => none

/-- The peers that the look admits, which are those it sets out to ask. -/
def admitted (look : Look) : List PeerId :=
  look.duties.filterMap askedBy?

/-- The peer whose yes arrives with the look. -/
def yes? (look : Look) : Option PeerId :=
  match look.trigger with
  | .command (.handle (.voteReceived vote) _) =>
      if vote.objectId = look.party.setup.objectId ∧ vote.refusal = none then
        some vote.voter
      else
        none
  | _ => none

/-- The peer that the look finds failed, and why: it refused, it departed, or
it could not be reached. -/
def failure? (look : Look) : Option (PeerId × Failure) :=
  match look.trigger with
  | .command (.handle (.voteReceived vote) _) =>
      if vote.objectId = look.party.setup.objectId then
        vote.refusal.map fun cause => (vote.voter, .refused cause)
      else
        none
  | .command (.handle (.memberDeparted peer) _) => some (peer, .departed)
  | .result (.request peer) (.error error) => some (peer, .undelivered error)
  | _ => none

/-- The refusal that arrives with the look, if the creation is committed. -/
def lateRefusal? (look : Look) : Option LateRefusal :=
  match look.trigger with
  | .command (.handle (.voteReceived vote) _) =>
      if vote.objectId = look.party.setup.objectId ∧ look.phase = .committed then
        vote.refusal.map fun cause =>
          { objectId := vote.objectId
            voter := vote.voter
            sequence := vote.sequence
            cause }
      else
        none
  | _ => none

/-- How a look of the primary changes the votes. -/
inductive VoteChange (look : Look) : Prop
  | admits (noYes : look.yes? = none) (noFailure : look.failure? = none)
      (noRefusal : look.lateRefusal? = none)
      (votes : look.party.tally.Admits look.admitted look.tally)
  | yes (peer : PeerId) (isYes : look.yes? = some peer)
      (noFailure : look.failure? = none) (noRefusal : look.lateRefusal? = none)
      (admitsNobody : look.admitted = [])
      (votes : (look.party.tally.noteYes peer).1.SameVotes look.tally)
  | fails (peer : PeerId) (failure : Failure) (noYes : look.yes? = none)
      (isFailure : look.failure? = some (peer, failure))
      (noRefusal : look.lateRefusal? = none) (admitsNobody : look.admitted = [])
      (votes : (look.party.tally.noteFailure peer failure).1.SameVotes
        look.tally)
  | refusesLate (peer : PeerId) (failure : Failure) (late : LateRefusal)
      (noYes : look.yes? = none)
      (isFailure : look.failure? = some (peer, failure))
      (isRefusal : look.lateRefusal? = some late)
      (committed : look.phase = .committed) (admitsNobody : look.admitted = [])
      (votes : (look.party.tally.noteLateRefusal late).SameVotes look.tally)

end Look

namespace Party

variable {party : Party}

theorem sameVotes_settle (party : Party) :
    party.tally.SameVotes party.settle.1.tally := by
  unfold settle
  split
  · exact Tally.sameVotes_finalizeOnce party.tally
  · exact .refl _

theorem sameVotes_conclude (party : Party) :
    party.tally.SameVotes party.conclude.1.tally :=
  sameVotes_settle party

/-- A look that closes at most admits nobody. -/
theorem admitted_of_closings (closings : List Closing) :
    (closings.map Duty.closing).filterMap Look.askedBy? = [] := by
  simp [List.filterMap_map, Function.comp_def, Look.askedBy?]

theorem admitted_of_requests (peers : List PeerId) :
    ((peers.map Opening.request).map Duty.opening).filterMap Look.askedBy? =
      peers := by
  simp [List.filterMap_map, Function.comp_def, Look.askedBy?]

theorem sameVotes_resolve (party : Party) :
    party.tally.SameVotes party.resolve.tally :=
  Tally.sameVotes_resolve _ _

theorem sameVotes_noteFailure (peer : PeerId) (failure : Failure) :
    (party.tally.noteFailure peer failure).1.SameVotes
      (party.noteFailure peer failure).1.tally := by
  unfold noteFailure
  dsimp only
  split
  · have resolved := sameVotes_resolve
      { party with tally := (party.tally.noteFailure peer failure).1 }
    exact resolved.trans (sameVotes_conclude _)
  · rename_i notRecorded
    rw [Tally.noteFailure_of_not_recorded (by simpa using notRecorded)]
    exact sameVotes_conclude party

theorem sameVotes_checkDeadline (now : Instant) :
    party.tally.SameVotes (party.checkDeadline now).1.tally := by
  have resolved := sameVotes_resolve party
  have fixed : party.tally.SameVotes (party.resolve.tally.fixDeadline now
      party.setup.settings.timeout).1 := resolved.trans ⟨rfl, rfl, rfl, rfl⟩
  unfold checkDeadline
  split
  · dsimp only
    split
    · split <;> exact fixed.trans (Tally.sameVotes_abort _ _)
    · exact fixed
  · exact .refl _

theorem sameVotes_examine (now : Instant) :
    party.tally.SameVotes (party.examine now).1.tally := by
  have checked : party.tally.SameVotes (party.checkDeadline now).1.tally :=
    sameVotes_checkDeadline now
  unfold examine
  dsimp only
  split
  · exact checked.trans (Tally.sameVotes_finalizeOnce _)
  · exact checked.trans (sameVotes_settle _)
  · exact checked

section Votes

variable {view : GroupView}

/-- A look that is about nobody and admits nobody. -/
theorem voteChange_idle {trigger : Trigger} (closings : List Closing)
    (noYes : Look.yes? ⟨party, trigger⟩ = none)
    (noFailure : Look.failure? ⟨party, trigger⟩ = none)
    (noRefusal : Look.lateRefusal? ⟨party, trigger⟩ = none)
    (closed : (party.look trigger).2 = closings.map .closing)
    (same : party.tally.SameVotes (party.look trigger).1.tally) :
    Look.VoteChange ⟨party, trigger⟩ := by
  have admitsNobody : Look.admitted ⟨party, trigger⟩ = [] := by
    simp only [Look.admitted, Look.duties, closed, admitted_of_closings]
  exact .admits noYes noFailure noRefusal (admitsNobody ▸ same.admits_nil)

theorem admits_lead (sound : party.tally.Sound) :
    ∃ peers : List PeerId, (party.lead view).2 = peers.map .request ∧
      party.tally.Admits peers (party.lead view).1.tally := by
  have nobody : party.tally.Admits [] party.tally :=
    (Tally.SameVotes.refl _).admits_nil
  have activated : party.tally.SameVotes party.tally.activateOnce.1 :=
    ⟨rfl, rfl, rfl, rfl⟩
  unfold lead
  split
  · dsimp only
    split
    · split
      · exact ⟨[], rfl,
          (activated.trans (Tally.sameVotes_commitAlone _)).admits_nil⟩
      · have admits := Tally.admits_openVoting (sound.perform .activateOnce)
        exact ⟨_, rfl, (activated.admits (admits _ _)).sameVotes
          (Tally.sameVotes_resolve _ _)⟩
    · exact ⟨[], rfl, nobody⟩
  · exact ⟨[], rfl, nobody⟩

/-- A look that only opens requests to the peers it admits. -/
theorem voteChange_of_admits {trigger : Trigger} (openings : List Opening)
    (noYes : Look.yes? ⟨party, trigger⟩ = none)
    (noFailure : Look.failure? ⟨party, trigger⟩ = none)
    (noRefusal : Look.lateRefusal? ⟨party, trigger⟩ = none)
    (opened : (party.look trigger).2 = openings.map .opening)
    (admits : ∃ peers : List PeerId, openings = peers.map .request ∧
      party.tally.Admits peers (party.look trigger).1.tally) :
    Look.VoteChange ⟨party, trigger⟩ := by
  obtain ⟨peers, rfl, admits⟩ := admits
  have admitted : Look.admitted ⟨party, trigger⟩ = peers := by
    simp only [Look.admitted, Look.duties, opened, admitted_of_requests]
  exact .admits noYes noFailure noRefusal (admitted ▸ admits)

theorem admits_welcome (newcomer : PeerId) :
    ∃ peers : List PeerId, (party.welcome newcomer).2 = peers.map .request ∧
      party.tally.Admits peers (party.welcome newcomer).1.tally := by
  have nobody : party.tally.Admits [] party.tally :=
    (Tally.SameVotes.refl _).admits_nil
  unfold welcome
  split
  · dsimp only
    split
    · rename_i admitted
      exact ⟨[newcomer], rfl, Tally.admits_enlist admitted⟩
    · exact ⟨[], rfl, nobody⟩
  · exact ⟨[], rfl, nobody⟩

/-- A look that finds a failed peer, but no refusal that comes too late. -/
theorem voteChange_of_failure {trigger : Trigger} {peer : PeerId}
    {failure : Failure} {closings : List Closing}
    (noYes : Look.yes? ⟨party, trigger⟩ = none)
    (isFailure : Look.failure? ⟨party, trigger⟩ = some (peer, failure))
    (noRefusal : Look.lateRefusal? ⟨party, trigger⟩ = none)
    (closed : (party.look trigger).2 = closings.map .closing)
    (votes : (party.tally.noteFailure peer failure).1.SameVotes
      (party.look trigger).1.tally) :
    Look.VoteChange ⟨party, trigger⟩ := by
  have admitsNobody : Look.admitted ⟨party, trigger⟩ = [] := by
    simp only [Look.admitted, Look.duties, closed, admitted_of_closings]
  exact .fails peer failure noYes isFailure noRefusal admitsNobody votes

theorem weigh_yes {vote : Vote} (yes : vote.refusal = none) :
    (party.tally.noteYes vote.voter).1.SameVotes
      (party.weigh vote).1.tally := by
  unfold weigh
  split
  · exact sameVotes_resolve
      { party with tally := (party.tally.noteYes vote.voter).1 }
  all_goals
    simp_all [Tally.noteYes_of_not_voting, Tally.SameVotes.refl]

theorem weigh_refusal {vote : Vote} {cause : String}
    (refused : vote.refusal = some cause)
    (notCommitted : party.tally.phase ≠ .committed) :
    (party.tally.noteFailure vote.voter (.refused cause)).1.SameVotes
      (party.weigh vote).1.tally := by
  unfold weigh
  split
  · simp_all
  · rename_i sameCause
    obtain rfl : cause = _ := by simpa [refused] using sameCause
    exact sameVotes_resolve
      { party with
        tally := (party.tally.noteFailure vote.voter (.refused cause)).1 }
  all_goals
    simp_all [Tally.noteFailure_of_not_voting, Tally.SameVotes.refl]

theorem weigh_late_refusal {vote : Vote} {cause : String}
    (refused : vote.refusal = some cause)
    (committed : party.tally.phase = .committed) :
    (party.weigh vote).1.tally = party.tally.noteLateRefusal
      { objectId := party.setup.objectId
        voter := vote.voter
        sequence := vote.sequence
        cause } := by
  simp [weigh, refused, committed]

theorem voteChange_hearVote (role : party.setup.role = .primary)
    (vote : Vote) :
    Look.VoteChange
      ⟨party, .command (.handle (.voteReceived vote) view)⟩ := by
  have primary : party.isPrimary = true := isPrimary_iff.2 role
  by_cases about : vote.objectId = party.setup.objectId
  · have heard : party.hearVote vote =
        ((party.weigh vote).1.conclude.1,
          (party.weigh vote).1.conclude.2 ++ (party.weigh vote).2) := by
      simp [hearVote, primary, about]
    have concluded : (party.weigh vote).1.tally.SameVotes
        (party.hearVote vote).1.tally := by
      rw [heard]
      exact sameVotes_conclude _
    have admitsNobody : Look.admitted
        ⟨party, .command (.handle (.voteReceived vote) view)⟩ = [] :=
      admitted_of_closings _
    cases refusal : vote.refusal with
    | none =>
        refine .yes vote.voter ?_ ?_ ?_ admitsNobody
          ((weigh_yes refusal).trans concluded)
        · simp [Look.yes?, about, refusal]
        · simp [Look.failure?, about, refusal]
        · simp [Look.lateRefusal?, refusal]
    | some cause =>
        have noYes : Look.yes?
            ⟨party, .command (.handle (.voteReceived vote) view)⟩ = none := by
          simp [Look.yes?, refusal]
        have isFailure : Look.failure?
            ⟨party, .command (.handle (.voteReceived vote) view)⟩ =
              some (vote.voter, .refused cause) := by
          simp [Look.failure?, about, refusal]
        by_cases committed : party.tally.phase = .committed
        · refine .refusesLate _ _ _ noYes isFailure ?_ committed admitsNobody
            (weigh_late_refusal refusal committed ▸ concluded)
          simp [Look.lateRefusal?, Look.phase, about, refusal, committed]
        · refine .fails _ _ noYes isFailure ?_ admitsNobody
            ((weigh_refusal refusal committed).trans concluded)
          simp [Look.lateRefusal?, Look.phase, committed]
  · refine voteChange_idle [] ?_ ?_ ?_ ?_ ?_
    · simp [Look.yes?, about]
    · simp [Look.failure?, about]
    · simp [Look.lateRefusal?, about]
    · simp [look, handle, closed, hearVote, about]
    · simpa [look, handle, closed, hearVote, about] using .refl _

theorem voteChange_noteResult (opening : Opening)
    (result : Except DeliveryError Unit) :
    Look.VoteChange ⟨party, .result opening result⟩ := by
  cases opening with
  | request peer =>
      cases result with
      | ok => exact voteChange_idle _ rfl rfl rfl rfl (.refl _)
      | error error =>
          exact voteChange_of_failure rfl rfl rfl rfl
            (sameVotes_noteFailure peer (.undelivered error))
  | vote refusal =>
      have concludes {tally : Tally} (same : party.tally.SameVotes tally) :
          party.tally.SameVotes { party with tally }.conclude.1.tally :=
        same.trans (sameVotes_conclude { party with tally })
      refine voteChange_idle _ rfl rfl rfl rfl ?_
      cases result with
      | ok =>
          cases refusal with
          | none => exact concludes (Tally.sameVotes_prepare _)
          | some cause => exact concludes (Tally.sameVotes_abort _ _)
      | error error =>
          cases refusal <;> exact concludes (Tally.sameVotes_abort _ _)

theorem voteChange_examine (now : Instant) :
    Look.VoteChange ⟨party, .clock now⟩ := by
  have same : party.tally.SameVotes (party.look (.clock now)).1.tally := by
    rw [look_clock_fst]
    exact sameVotes_examine now
  cases found : (party.examine now).2 with
  | pending deadline =>
      exact voteChange_idle [] rfl rfl rfl
        (by rw [look_clock_of_pending party found]; rfl) same
  | decided closings outcome =>
      exact voteChange_idle _ rfl rfl rfl
        (by rw [look_clock_of_decided party found]) same

/-- How any look of the primary changes the votes. -/
theorem voteChange_look (role : party.setup.role = .primary)
    (sound : party.tally.Sound) (trigger : Trigger) :
    Look.VoteChange ⟨party, trigger⟩ := by
  have primary : party.isPrimary = true := isPrimary_iff.2 role
  cases trigger with
  | command command =>
      cases command with
      | handle event view =>
          cases event with
          | activated =>
              refine voteChange_of_admits (party.lead view).2
                rfl rfl rfl ?_ ?_
              · simp [look, handle, primary, opened]
              · simpa [look, handle, primary, opened] using
                  admits_lead sound
          | memberJoined peer =>
              exact voteChange_of_admits _ rfl rfl rfl rfl (admits_welcome peer)
          | voteReceived vote => exact voteChange_hearVote role vote
          | memberDeparted peer =>
              refine voteChange_of_failure rfl rfl rfl rfl ?_
              simpa [look, handle, primary, dismiss, closed] using
                sameVotes_noteFailure peer .departed
          | noticeReceived decision objectId =>
              refine voteChange_idle _ rfl rfl rfl rfl ?_
              simpa [look, handle, primary, hearNotice, closed] using .refl _
      | lead view =>
          exact voteChange_of_admits _ rfl rfl rfl rfl (admits_lead sound)
      | enroll refusal =>
          refine voteChange_idle [] rfl rfl rfl ?_ ?_
          · simp [look, enroll, primary, opened]
          · simpa [look, enroll, primary, opened] using .refl _
      | await => exact voteChange_idle [] rfl rfl rfl rfl (.refl _)
  | result opening result => exact voteChange_noteResult opening result
  | clock now => exact voteChange_examine now

end Votes

end Party

end CreationCommit
