import CreationCommit.Proofs.VoteLooks

/-!
# The votes told from the history

What the tally of a primary says about a peer depends only on the looks that
came after the peer was admitted, while the voting was open.  The first of them
that finds the peer failed decides; if there is none, the peer acknowledged as
soon as one of them brings its yes, and until then its vote is outstanding.
-/

namespace CreationCommit

namespace Look

/-- Why the look finds the peer failed. -/
def failureOf? (look : Look) (peer : PeerId) : Option Failure :=
  look.failure?.bind fun (failed, failure) =>
    if failed = peer then some failure else none

theorem failureOf?_eq {look : Look} {failed : PeerId} {failure : Failure}
    (isFailure : look.failure? = some (failed, failure)) (peer : PeerId) :
    look.failureOf? peer = if failed = peer then some failure else none := by
  rw [failureOf?, isFailure]
  rfl

end Look

/-- The peers that the looks admit, in their order. -/
def admissions (history : List Look) : List PeerId :=
  history.flatMap Look.admitted

/-- The looks of an open voting that come after the one that admits the
peer. -/
def votingLooks (peer : PeerId) : List Look → List Look
  | [] => []
  | look :: rest =>
      if peer ∈ look.admitted then rest.filter (·.phase = .voting)
      else votingLooks peer rest

/-- Why the peer failed first. -/
def firstFailure? (peer : PeerId) (history : List Look) : Option Failure :=
  (votingLooks peer history).findSome? (·.failureOf? peer)

/-- Whether the peer said yes. -/
def SaidYes (peer : PeerId) (history : List Look) : Prop :=
  ∃ look ∈ votingLooks peer history, look.yes? = some peer

instance (peer : PeerId) (history : List Look) :
    Decidable (SaidYes peer history) :=
  inferInstanceAs (Decidable (∃ look ∈ votingLooks peer history, _))

/-- The one peer had said yes when the other had not yet. -/
def SaidYesBefore (history : List Look) (earlier later : PeerId) : Prop :=
  ∃ known rest, history = known ++ rest ∧ SaidYes earlier known ∧
    ¬ SaidYes later known

section Concat

variable {history : List Look} {look : Look} {peer : PeerId}

theorem admissions_concat :
    admissions (history ++ [look]) = admissions history ++ look.admitted := by
  simp [admissions]

theorem admissions_of_nobody (nobody : look.admitted = []) :
    admissions (history ++ [look]) = admissions history := by
  rw [admissions_concat, nobody, List.append_nil]

theorem votingLooks_eq_nil (notAdmitted : peer ∉ admissions history) :
    votingLooks peer history = [] := by
  induction history with
  | nil => rfl
  | cons look rest ih =>
      simp only [admissions, List.flatMap_cons, List.mem_append,
        not_or] at notAdmitted
      rw [votingLooks, if_neg notAdmitted.1]
      exact ih notAdmitted.2

theorem votingLooks_concat :
    votingLooks peer (history ++ [look]) =
      votingLooks peer history ++
        if peer ∈ admissions history ∧ look.phase = .voting then [look]
        else [] := by
  induction history with
  | nil => simp [votingLooks, admissions]
  | cons first rest ih =>
      by_cases admits : peer ∈ first.admitted
      · by_cases voting : look.phase = .voting <;>
          simp [votingLooks, admissions, admits, voting]
      · simpa [votingLooks, admissions, admits] using ih

theorem firstFailure?_concat :
    firstFailure? peer (history ++ [look]) =
      (firstFailure? peer history).or
        (if peer ∈ admissions history ∧ look.phase = .voting then
          look.failureOf? peer
        else none) := by
  rw [firstFailure?, votingLooks_concat, List.findSome?_append]
  split <;> simp [firstFailure?]

theorem saidYes_concat :
    SaidYes peer (history ++ [look]) ↔ SaidYes peer history ∨
      peer ∈ admissions history ∧ look.phase = .voting ∧
        look.yes? = some peer := by
  simp only [SaidYes, votingLooks_concat, List.mem_append, or_and_right,
    exists_or]
  split <;> simp_all

theorem firstFailure?_of_not_admitted (notAdmitted : peer ∉ admissions history) :
    firstFailure? peer history = none := by
  simp [firstFailure?, votingLooks_eq_nil notAdmitted]

theorem not_saidYes_of_not_admitted (notAdmitted : peer ∉ admissions history) :
    ¬ SaidYes peer history := by
  simp [SaidYes, votingLooks_eq_nil notAdmitted]

end Concat

namespace Tally

/-- The tally says of every peer what the history tells. -/
structure Tells (tally : Tally) (history : List Look) : Prop where
  admittedOnce : (admissions history).Nodup
  outstanding : ∀ peer, peer ∈ tally.outstanding ↔
    peer ∈ admissions history ∧ firstFailure? peer history = none ∧
      ¬ SaidYes peer history
  failures : ∀ peer, tally.failures.get? peer = firstFailure? peer history
  acknowledged : ∀ peer, peer ∈ tally.acknowledged ↔
    firstFailure? peer history = none ∧ SaidYes peer history
  inOrder : tally.acknowledged.Pairwise (SaidYesBefore history)
  lateRefusals : tally.lateRefusals = history.filterMap Look.lateRefusal?

end Tally

section Telling

variable {history : List Look} {look : Look} {tally : Tally} {peer : PeerId}

theorem SaidYes.admitted (saidYes : SaidYes peer history) :
    peer ∈ admissions history := by
  by_contra notAdmitted
  exact not_saidYes_of_not_admitted notAdmitted saidYes

theorem admitted_of_firstFailure? {failure : Failure}
    (failed : firstFailure? peer history = some failure) :
    peer ∈ admissions history := by
  by_contra notAdmitted
  simp [firstFailure?_of_not_admitted notAdmitted] at failed

theorem SaidYesBefore.concat {earlier later : PeerId}
    (before : SaidYesBefore history earlier later) :
    SaidYesBefore (history ++ [look]) earlier later := by
  obtain ⟨known, rest, rfl, saidYes, notYet⟩ := before
  exact ⟨known, rest ++ [look], by simp, saidYes, notYet⟩

namespace Tally

theorem tells_start (objectId : ObjectId) : (Tally.start objectId).Tells [] where
  admittedOnce := List.nodup_nil
  outstanding := by simp [start, admissions]
  failures := fun _ => rfl
  acknowledged := by simp [start, SaidYes, votingLooks]
  inOrder := List.Pairwise.nil
  lateRefusals := rfl

namespace Tells

theorem of_sameVotes {other : Tally} (tells : tally.Tells history)
    (same : tally.SameVotes other) : other.Tells history where
  admittedOnce := tells.admittedOnce
  outstanding := same.outstanding ▸ tells.outstanding
  failures := same.failures ▸ tells.failures
  acknowledged := same.acknowledged ▸ tells.acknowledged
  inOrder := same.acknowledged ▸ tells.inOrder
  lateRefusals := same.lateRefusals.trans tells.lateRefusals

/-- The peers that take part, or took part, are those admitted. -/
theorem involves_iff (tells : tally.Tells history) :
    tally.Involves peer ↔ peer ∈ admissions history := by
  simp only [Involves, tells.outstanding, tells.acknowledged,
    PeerMap.mem_iff_isSome_get?, tells.failures]
  constructor
  · rintro (⟨admitted, -⟩ | ⟨-, saidYes⟩ | failed)
    · exact admitted
    · exact saidYes.admitted
    · obtain ⟨failure, failed⟩ := Option.isSome_iff_exists.1 failed
      exact admitted_of_firstFailure? failed
  · intro admitted
    cases failed : firstFailure? peer history with
    | some failure => simp
    | none =>
        by_cases saidYes : SaidYes peer history <;> simp [admitted, saidYes]

/-- Nobody acknowledges twice. -/
theorem acknowledged_nodup (tells : tally.Tells history) :
    tally.acknowledged.Nodup := by
  refine tells.inOrder.imp fun before same => ?_
  obtain ⟨known, rest, -, saidYes, notYet⟩ := before
  exact notYet (same ▸ saidYes)

/-- A look that finds nobody failed and hears no yes admits peers at most. -/
theorem admits {after : Tally} (tells : tally.Tells history)
    (noYes : look.yes? = none) (noFailure : look.failure? = none)
    (noRefusal : look.lateRefusal? = none)
    (votes : tally.Admits look.admitted after) :
    after.Tells (history ++ [look]) := by
  have sameFailure (peer : PeerId) :
      firstFailure? peer (history ++ [look]) = firstFailure? peer history := by
    simp [firstFailure?_concat, Look.failureOf?, noFailure]
  have sameYes (peer : PeerId) :
      SaidYes peer (history ++ [look]) ↔ SaidYes peer history := by
    simp [saidYes_concat, noYes]
  have fresh (peer : PeerId) (admitted : peer ∈ look.admitted) :
      peer ∉ admissions history := fun already =>
    votes.fresh peer admitted (tells.involves_iff.2 already)
  constructor
  · rw [admissions_concat, List.nodup_append]
    exact ⟨tells.admittedOnce, votes.nodup, fun earlier known later isNew same =>
      fresh later isNew (same ▸ known)⟩
  · intro peer
    rw [votes.outstanding, tells.outstanding, admissions_concat,
      List.mem_append, sameFailure, sameYes]
    by_cases isNew : peer ∈ look.admitted
    · have notKnown := fresh peer isNew
      simp [isNew, firstFailure?_of_not_admitted notKnown,
        not_saidYes_of_not_admitted notKnown]
    · simp [isNew]
  · simpa [sameFailure, votes.failures] using tells.failures
  · simpa [sameFailure, sameYes, votes.acknowledged] using tells.acknowledged
  · rw [votes.acknowledged]
    exact tells.inOrder.imp SaidYesBefore.concat
  · simp [noRefusal, votes.lateRefusals, tells.lateRefusals]

/-- A look that admits nobody and tells nothing new of the votes. -/
theorem nothing_new {after : Tally} (tells : tally.Tells history)
    (admitsNobody : look.admitted = [])
    (sameFailure : ∀ peer,
      firstFailure? peer (history ++ [look]) = firstFailure? peer history)
    (sameYes : ∀ peer, firstFailure? peer history = none →
      (SaidYes peer (history ++ [look]) ↔ SaidYes peer history))
    (outstanding : after.outstanding = tally.outstanding)
    (failures : after.failures = tally.failures)
    (acknowledged : after.acknowledged = tally.acknowledged)
    (lateRefusals :
      after.lateRefusals = tally.lateRefusals ++ look.lateRefusal?.toList) :
    after.Tells (history ++ [look]) := by
  have sameAdmissions : admissions (history ++ [look]) = admissions history :=
    admissions_of_nobody admitsNobody
  constructor
  · rw [sameAdmissions]
    exact tells.admittedOnce
  · intro peer
    rw [outstanding, tells.outstanding, sameAdmissions, sameFailure]
    exact and_congr_right fun _ => and_congr_right fun notFailed =>
      not_congr (sameYes peer notFailed).symm
  · simpa [sameFailure, failures] using tells.failures
  · intro peer
    rw [acknowledged, tells.acknowledged, sameFailure]
    exact and_congr_right fun notFailed => (sameYes peer notFailed).symm
  · rw [acknowledged]
    exact tells.inOrder.imp SaidYesBefore.concat
  · rw [lateRefusals, tells.lateRefusals]
    cases late : look.lateRefusal? <;> simp [late]

/-- A yes counts if the voting is open and the vote of the peer outstanding. -/
theorem yes (tells : tally.Tells history) (atTally : look.party.tally = tally)
    (isYes : look.yes? = some peer) (noFailure : look.failure? = none)
    (noRefusal : look.lateRefusal? = none) (admitsNobody : look.admitted = []) :
    (tally.noteYes peer).1.Tells (history ++ [look]) := by
  have samePhase : look.phase = tally.phase := congrArg Tally.phase atTally
  have sameFailure (other : PeerId) :
      firstFailure? other (history ++ [look]) = firstFailure? other history := by
    simp [firstFailure?_concat, Look.failureOf?, noFailure]
  have sameAdmissions : admissions (history ++ [look]) = admissions history :=
    admissions_of_nobody admitsNobody
  have yesOf (other : PeerId) : SaidYes other (history ++ [look]) ↔
      SaidYes other history ∨
        other ∈ admissions history ∧ tally.phase = .voting ∧ peer = other := by
    rw [saidYes_concat, isYes, samePhase, Option.some.injEq]
  by_cases noted : tally.phase = .voting ∧ peer ∈ tally.outstanding
  · obtain ⟨voting, outstanding⟩ := noted
    obtain ⟨admitted, notFailed, notYet⟩ := (tells.outstanding peer).1 outstanding
    rw [Tally.noteYes_of_outstanding voting outstanding]
    have nowYes : SaidYes peer (history ++ [look]) :=
      (yesOf peer).2 (.inr ⟨admitted, voting, rfl⟩)
    constructor
    · rw [sameAdmissions]
      exact tells.admittedOnce
    · intro other
      rw [PeerMap.mem_erase, tells.outstanding, sameFailure, sameAdmissions]
      by_cases isPeer : other = peer
      · subst isPeer
        simp [nowYes]
      · simp [isPeer, yesOf, Ne.symm isPeer]
    · simpa [sameFailure] using tells.failures
    · intro other
      rw [List.mem_append, List.mem_singleton, tells.acknowledged, sameFailure]
      by_cases isPeer : other = peer
      · subst isPeer
        simp [notFailed, nowYes]
      · simp [isPeer, yesOf, Ne.symm isPeer]
    · rw [List.pairwise_append]
      refine ⟨tells.inOrder.imp SaidYesBefore.concat,
        List.pairwise_singleton _ _, fun earlier acknowledged later isPeer => ?_⟩
      obtain rfl := List.mem_singleton.1 isPeer
      exact ⟨history, [look], rfl, ((tells.acknowledged earlier).1 acknowledged).2,
        notYet⟩
    · simp [noRefusal, tells.lateRefusals]
  · have unnoted : (tally.noteYes peer).1 = tally := by
      simp [noteYes, noted]
    rw [unnoted]
    refine tells.nothing_new admitsNobody sameFailure ?_ rfl rfl rfl
      (by simp [noRefusal])
    intro other notFailed
    rw [yesOf, or_iff_left_iff_imp]
    rintro ⟨admitted, voting, rfl⟩
    by_contra notYet
    exact noted ⟨voting, (tells.outstanding peer).2 ⟨admitted, notFailed, notYet⟩⟩

/-- A failure counts if the voting is open and the peer took part without
failing before. -/
theorem fails {failure : Failure} (tells : tally.Tells history)
    (atTally : look.party.tally = tally) (noYes : look.yes? = none)
    (isFailure : look.failure? = some (peer, failure))
    (noRefusal : look.lateRefusal? = none) (admitsNobody : look.admitted = []) :
    (tally.noteFailure peer failure).1.Tells (history ++ [look]) := by
  have samePhase : look.phase = tally.phase := congrArg Tally.phase atTally
  have sameYes (other : PeerId) :
      SaidYes other (history ++ [look]) ↔ SaidYes other history := by
    simp [saidYes_concat, noYes]
  have sameAdmissions : admissions (history ++ [look]) = admissions history :=
    admissions_of_nobody admitsNobody
  have failureOfPeer : firstFailure? peer (history ++ [look]) =
      (firstFailure? peer history).or
        (if peer ∈ admissions history ∧ tally.phase = .voting then some failure
        else none) := by
    rw [firstFailure?_concat, samePhase, Look.failureOf?_eq isFailure, if_pos rfl]
  have failureOfOther {other : PeerId} (differs : other ≠ peer) :
      firstFailure? other (history ++ [look]) = firstFailure? other history := by
    rw [firstFailure?_concat, Look.failureOf?_eq isFailure, if_neg differs.symm,
      ite_self, Option.or_none]
  by_cases counts : peer ∈ admissions history ∧ tally.phase = .voting ∧
      firstFailure? peer history = none
  · obtain ⟨admitted, voting, notYet⟩ := counts
    have notFailed : peer ∉ tally.failures :=
      PeerMap.get?_eq_none.1 ((tells.failures peer).trans notYet)
    have takesPart : peer ∈ tally.outstanding ∨ peer ∈ tally.acknowledged :=
      (or_assoc.2 (tells.involves_iff.2 admitted)).resolve_right notFailed
    rw [Tally.noteFailure_of_taking_part voting notFailed takesPart]
    have nowFailed : firstFailure? peer (history ++ [look]) = some failure := by
      rw [failureOfPeer, notYet, if_pos ⟨admitted, voting⟩, Option.none_or]
    constructor
    · rw [sameAdmissions]
      exact tells.admittedOnce
    · intro other
      rw [PeerMap.mem_erase, tells.outstanding, sameYes, sameAdmissions]
      by_cases isPeer : other = peer
      · subst isPeer
        simp [nowFailed]
      · simp [isPeer, failureOfOther isPeer]
    · intro other
      rw [PeerMap.get?_insert, tells.failures]
      by_cases isPeer : other = peer
      · subst isPeer
        rw [if_pos rfl, nowFailed]
      · rw [if_neg isPeer, failureOfOther isPeer]
    · intro other
      rw [tells.acknowledged_nodup.mem_erase_iff, tells.acknowledged, sameYes]
      by_cases isPeer : other = peer
      · subst isPeer
        simp [nowFailed]
      · simp [isPeer, failureOfOther isPeer]
    · exact (tells.inOrder.sublist List.erase_sublist).imp SaidYesBefore.concat
    · simp [noRefusal, tells.lateRefusals]
  · have unrecorded : (tally.noteFailure peer failure).1 = tally := by
      by_cases voting : tally.phase = .voting
      · by_cases failed : peer ∈ tally.failures
        · exact noteFailure_of_failed failed
        · refine noteFailure_of_stranger fun involved => counts ?_
          exact ⟨tells.involves_iff.1 involved, voting,
            (tells.failures peer).symm.trans (PeerMap.get?_eq_none.2 failed)⟩
      · exact noteFailure_of_not_voting voting
    rw [unrecorded]
    refine tells.nothing_new admitsNobody ?_ (fun other _ => sameYes other) rfl
      rfl rfl (by simp [noRefusal])
    intro other
    by_cases isPeer : other = peer
    · subst isPeer
      rw [failureOfPeer]
      cases failed : firstFailure? other history with
      | some earlier => rfl
      | none =>
          rw [if_neg fun now => counts ⟨now.1, now.2, failed⟩, Option.none_or]
    · exact failureOfOther isPeer

/-- A refusal after the commit changes no votes, but it is kept. -/
theorem refusesLate {late : LateRefusal} (tells : tally.Tells history)
    (noYes : look.yes? = none) (committed : look.phase = .committed)
    (isRefusal : look.lateRefusal? = some late)
    (admitsNobody : look.admitted = []) :
    (tally.noteLateRefusal late).Tells (history ++ [look]) := by
  refine tells.nothing_new admitsNobody ?_ ?_ rfl rfl rfl
    (by simp [isRefusal, noteLateRefusal])
  · simp [firstFailure?_concat, committed]
  · simp [saidYes_concat, noYes]

/-- A look of the primary keeps telling the history. -/
theorem after_look (tells : look.party.tally.Tells history)
    (role : look.party.setup.role = .primary)
    (sound : look.party.tally.Sound) : look.tally.Tells (history ++ [look]) := by
  cases Party.voteChange_look role sound look.trigger with
  | admits noYes noFailure noRefusal votes =>
      exact tells.admits noYes noFailure noRefusal votes
  | yes peer isYes noFailure noRefusal admitsNobody votes =>
      exact (tells.yes rfl isYes noFailure noRefusal
        admitsNobody).of_sameVotes votes
  | fails peer failure noYes isFailure noRefusal admitsNobody votes =>
      exact (tells.fails rfl noYes isFailure noRefusal
        admitsNobody).of_sameVotes votes
  | refusesLate peer failure late noYes _ isRefusal committed admitsNobody
      votes =>
      exact (tells.refusesLate noYes committed isRefusal
        admitsNobody).of_sameVotes votes

end Tells

end Tally

end Telling

namespace Session

variable {setup : Setup} {moves : List Move} {last : Session}

theorem tells_of_run (role : setup.role = .primary)
    (ran : (start setup).run? moves = some last) :
    last.party.tally.Tells ((start setup).history moves) := by
  have kept := history_induction
    (motive := fun history tally => tally.Sound ∧ tally.Tells history)
    ⟨.start setup.objectId, Tally.tells_start setup.objectId⟩
    (fun known look sameSetup before =>
      ⟨(Party.advancesOn_look look.party look.trigger).sound before.1,
        before.2.after_look (sameSetup ▸ role) before.1⟩) ran
  exact kept.2

/-- Whatever calls overlap on the primary, its tally is what the history of its
looks tells: no peer is admitted twice, and an admitted peer failed for the
reason that was found first after its admission while the voting was open, or
else acknowledged if it said yes then, or else is still to vote.  Who was not
admitted takes no part.  The acknowledgments are in the order of the first yes
of each peer, and the late refusals are those that came after the commit. -/
theorem votes_tell_history (role : setup.role = .primary)
    (ran : (start setup).run? moves = some last) :
    let history := (start setup).history moves
    let tally := last.party.tally
    (admissions history).Nodup ∧
      (∀ peer ∈ admissions history,
        tally.failures.get? peer = firstFailure? peer history ∧
        (peer ∈ tally.acknowledged ↔
          firstFailure? peer history = none ∧ SaidYes peer history) ∧
        (peer ∈ tally.outstanding ↔
          firstFailure? peer history = none ∧ ¬ SaidYes peer history)) ∧
      (∀ peer ∉ admissions history, ¬ tally.Involves peer) ∧
      tally.acknowledged.Nodup ∧
      tally.acknowledged.Pairwise (SaidYesBefore history) ∧
      tally.lateRefusals = history.filterMap Look.lateRefusal? := by
  have tells := tells_of_run role ran
  refine ⟨tells.admittedOnce, ?_, ?_, tells.acknowledged_nodup, tells.inOrder,
    tells.lateRefusals⟩
  · intro peer admitted
    refine ⟨tells.failures peer, tells.acknowledged peer, ?_⟩
    rw [tells.outstanding, and_iff_right admitted]
  · exact fun peer notAdmitted involved =>
      notAdmitted (tells.involves_iff.1 involved)

/-- Two peers are asked; one says yes and departs before the other votes. -/
def changeOfMindMoves : List Move :=
  [.start (.lead (.connected [⟨"home"⟩, ⟨"near"⟩, ⟨"far"⟩])),
    .begin 0,
    .finish 0 (.ok ()),
    .begin 0,
    .finish 0 (.ok ()),
    .start (.handle (.voteReceived ⟨⟨"near"⟩, ⟨"doc"⟩, 1, none⟩) .disconnected),
    .start (.handle (.memberDeparted ⟨"near"⟩) .disconnected)]

theorem votes_tell_change_of_mind :
    ∃ session, (start (.primary ⟨"doc"⟩ ⟨"home"⟩)).run? changeOfMindMoves =
        some session ∧
      (Setup.primary ⟨"doc"⟩ ⟨"home"⟩).role = .primary ∧
      session.party.tally.failures.get? ⟨"near"⟩ = some .departed ∧
      ⟨"near"⟩ ∉ session.party.tally.acknowledged ∧
      ⟨"far"⟩ ∈ session.party.tally.outstanding := by
  have run : ((start (.primary ⟨"doc"⟩ ⟨"home"⟩)).run?
      changeOfMindMoves).isSome = true := by rfl
  obtain ⟨session, ran⟩ := Option.isSome_iff_exists.1 run
  have role : (Setup.primary ⟨"doc"⟩ ⟨"home"⟩).role = .primary := rfl
  have told := (votes_tell_history role ran).2.1
  have departed : firstFailure? ⟨"near"⟩
      ((start (.primary ⟨"doc"⟩ ⟨"home"⟩)).history changeOfMindMoves) =
        some .departed := by rfl
  obtain ⟨failure, acknowledged, -⟩ := told ⟨"near"⟩ (by decide)
  obtain ⟨-, -, outstanding⟩ := told ⟨"far"⟩ (by decide)
  refine ⟨session, ran, role, failure.trans departed, ?_,
    outstanding.2 ⟨by rfl, by decide⟩⟩
  rw [acknowledged, departed]
  simp

end Session

end CreationCommit
