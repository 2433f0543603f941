import CreationCommit.Proofs.Notices

/-!
# The order of the notices

The notices of a finalization are all with the call whose look finalized.  That
call carries them out in the order of the audience and reports the decision
after them, whatever other calls do in between and however its sends end.  So
the audience is told in its order, each peer once, and notices for late votes
may only come between.
-/

namespace CreationCommit

/-- The look that finalizes a decision leaves its broadcast. -/
theorem Party.Consequence.broadcast_of_finalizes {before after : Tally}
    {trigger : Trigger} {duties : List Duty}
    (consequence : Consequence before trigger after duties)
    (notBefore : before.finalized = false) (finalized : after.finalized = true)
    {decision : Decision} (phase : after.phase = decision.phase) :
    duties = (broadcast decision (after.audience decision)).map .closing := by
  cases consequence with
  | opens _ _ same => simp [same, notBefore] at finalized
  | aborts _ aborted =>
      obtain rfl : decision = .abort :=
        Decision.phase_injective (phase.symm.trans aborted)
      rfl
  | commits _ committed =>
      obtain rfl : decision = .commit :=
        Decision.phase_injective (phase.symm.trans committed)
      rfl
  | tellsCommit _ _ _ _ _ same | tellsAbort _ _ _ _ _ _ same =>
      simp [same, notBefore] at finalized

namespace Session

/-- How far the broadcast of a decision has come.  While it goes on a call owes
the notices to the rest of the peers and then the report, and the peers before
were told in their order; when it has ended all were. -/
inductive Broadcasts (session : Session) (decision : Decision)
    (peers : List PeerId) : Prop
  | goesOn (told rest : List PeerId) (split : peers = told ++ rest)
      (inOrder : told.Sublist (session.notified decision))
      (index : Nat) (call : Call) (turn : session.calls[index]? = some call)
      (owes : (Party.broadcast decision rest).map .closing <:+: call.owed)
  | ended (inOrder : peers.Sublist (session.notified decision))

variable {session next : Session} {move : Move} {decision : Decision}
  {peers : List PeerId}

theorem Does.notified {duties : List Duty} (does : Does session next duties)
    (decision : Decision) :
    next.notified decision = session.notified decision ++
      duties.filterMap (Duty.notified? decision) := by
  cases does with
  | nothing attempts => simp [Session.notified, attempts]
  | sends letter attempts =>
      rw [Session.notified, attempts, List.filterMap_append]
      rfl
  | reports told attempts => simp [Session.notified, attempts, Duty.notified?]

/-- Who was told stays told. -/
theorem Does.sublist_notified {duties : List Duty} {told : List PeerId}
    (does : Does session next duties)
    (inOrder : told.Sublist (session.notified decision)) :
    told.Sublist (next.notified decision) := by
  rw [does.notified]
  exact inOrder.trans (List.sublist_append_left _ _)

theorem Does.at_most_one {duties : List Duty} (does : Does session next duties) :
    duties = [] ∨ ∃ duty, duties = [duty] := by
  cases does with
  | nothing => exact .inl rfl
  | sends letter => exact .inr ⟨_, rfl⟩
  | reports told => exact .inr ⟨_, rfl⟩

/-- The duty that a broadcast starts with is its report, if nobody is left to be
told, or the notice to the next peer. -/
theorem broadcast_next {rest : List PeerId} {duty : Duty} {others : List Duty}
    (starts : (Party.broadcast decision rest).map .closing <+: duty :: others) :
    rest = [] ∨ ∃ peer later, rest = peer :: later ∧
      duty = .closing (.notify decision peer) ∧
      (Party.broadcast decision later).map .closing <+: others := by
  cases rest with
  | nil => exact .inl rfl
  | cons peer later =>
      obtain ⟨rfl, onward⟩ := List.cons_prefix_cons.1 starts
      exact .inr ⟨peer, later, rfl, rfl, onward⟩

/-- The call that is at the broadcast has a turn. -/
theorem broadcasts_of_turn {told rest : List PeerId} {index : Nat}
    {old new : Call} {spent left others : List Duty}
    (split : peers = told ++ rest)
    (inOrder : told.Sublist (session.notified decision))
    (newTurn : next.calls[index]? = some new)
    (before : old.owed = spent ++ others) (after : new.owed = left ++ others)
    (does : Does session next spent)
    (owes : (Party.broadcast decision rest).map .closing <:+: old.owed) :
    next.Broadcasts decision peers := by
  have stillTold := does.sublist_notified inOrder
  have later (told rest : List PeerId) (split : peers = told ++ rest)
      (inOrder : told.Sublist (next.notified decision))
      (owes : (Party.broadcast decision rest).map .closing <:+: others) :
      next.Broadcasts decision peers := by
    refine .goesOn told rest split inOrder index new newTurn ?_
    rw [after]
    exact owes.trans (List.suffix_append left others).isInfix
  have notified := does.notified decision
  rw [before] at owes
  rcases does.at_most_one with rfl | ⟨duty, rfl⟩
  · exact later told rest split stillTold owes
  · rcases List.infix_cons_iff.1 owes with isNext | isLater
    · rcases broadcast_next isNext with rfl | ⟨peer, onward, rfl, rfl, isLater⟩
      · rw [List.append_nil] at split
        exact .ended (split ▸ stillTold)
      · refine later (told ++ [peer]) onward (by simp [split]) ?_ isLater.isInfix
        rw [notified]
        simpa [Duty.notified?] using inOrder.append_right [peer]
    · exact later told rest split stillTold isLater

/-- Every step but the giving up of a call keeps the broadcast in its order. -/
theorem Exchange.broadcasts (exchange : Exchange session next move)
    (notAbandoned : ∀ index, move ≠ .abandon index)
    (broadcasts : session.Broadcasts decision peers) :
    next.Broadcasts decision peers := by
  obtain ⟨duties, does⟩ := exchange.does
  cases broadcasts with
  | ended inOrder => exact .ended (does.sublist_notified inOrder)
  | goesOn told rest split inOrder index call turn owes =>
      rcases exchange.call_cases turn with
        stays | ⟨new, spent, others, there, before, after, doesSpent⟩ |
          ⟨given, -⟩
      · exact .goesOn told rest split (does.sublist_notified inOrder) index call
          stays owes
      · exact broadcasts_of_turn split inOrder there before after doesSpent owes
      · exact absurd given (notAbandoned index)

/-- A broadcast starts with the look that leaves it. -/
theorem Exchange.broadcasts_of_leaves (exchange : Exchange session next move)
    (leaves : session.leaves move =
      (Party.broadcast decision peers).map .closing) :
    next.Broadcasts decision peers := by
  cases exchange with
  | launches new calls takes does =>
      refine .goesOn [] peers rfl (List.nil_sublist _) session.calls.length new
        (by simp [calls]) ?_
      rw [takes, leaves]
  | turns index old new spent rest turn calls before after does =>
      have inRange := (List.getElem?_eq_some_iff.1 turn).1
      refine .goesOn [] peers rfl (List.nil_sublist _) index new
        (by simp [calls, inRange]) ?_
      rw [after, leaves]
      exact (List.prefix_append _ _).isInfix
  | drops index old new given turn calls after nothingNew does =>
      simp [leaves, Party.broadcast] at nothingNew

variable {setup : Setup} {moves : List Move} {last : Session}

/-- Once a decision is finalized it is broadcast to its audience. -/
theorem broadcasts_of_run (role : setup.role = .primary)
    (ran : (start setup).run? moves = some last)
    (notAbandoned : ∀ index, .abandon index ∉ moves)
    (finalized : last.party.tally.finalized = true)
    (phase : last.party.tally.phase = decision.phase) :
    last.Broadcasts decision (last.party.tally.audience decision) := by
  revert notAbandoned finalized phase
  refine run_induction (motive := fun moves session =>
    (∀ index, .abandon index ∉ moves) →
      session.party.tally.finalized = true →
      session.party.tally.phase = decision.phase →
      session.Broadcasts decision (session.party.tally.audience decision))
    (by simp [start, Party.start, Tally.start]) ?_ ran
  intro earlier session move next ranEarlier known step notAbandoned finalized
    phase
  have notGiven (index : Nat) : move ≠ .abandon index := fun given =>
    notAbandoned index (by simp [given])
  obtain ⟨sound, tidy⟩ := tidy_of_run role ranEarlier
  by_cases already : session.party.tally.finalized = true
  · have same := step.sameRecord (tidy.decided already)
    rw [same.audience]
    refine step.exchange.broadcasts notGiven (known ?_ already ?_)
    · exact fun index given => notAbandoned index (List.mem_append_left _ given)
    · exact same.phase.symm.trans phase
  · rcases step.look_cases with ⟨-, same⟩ | ⟨look, isLook, atParty, left⟩
    · exact absurd (same ▸ finalized) already
    · apply step.exchange.broadcasts_of_leaves
      rw [leaves_of_look isLook]
      rw [left] at finalized phase ⊢
      rw [← atParty] at sound tidy already
      have sameRole : look.party.setup.role = .primary := by
        rw [atParty, setup_of_run ranEarlier]
        exact role
      exact (Party.consequence_look sameRole sound tidy
        look.trigger).broadcast_of_finalizes (by simpa using already) finalized
          phase

/-- A decision that was reported was finalized. -/
theorem final_of_reported (ran : (start setup).run? moves = some last)
    (reported : decision ∈ last.callbacks) :
    last.party.tally.finalized = true ∧
      last.party.tally.phase = decision.phase := by
  have made := List.count_pos_iff.2 reported
  have called := count_callbacks_le ran decision
  rw [Tally.finalReports] at called
  split at called
  · assumption
  · omega

/-- A decision is reported only after its whole audience was told. -/
theorem told_before_report (role : setup.role = .primary)
    (ran : (start setup).run? moves = some last)
    (notAbandoned : ∀ index, .abandon index ∉ moves)
    (reported : decision ∈ last.callbacks) :
    (last.party.tally.audience decision).Sublist (last.notified decision) := by
  have final := final_of_reported ran reported
  cases broadcasts_of_run role ran notAbandoned final.1 final.2 with
  | ended inOrder => exact inOrder
  | goesOn told rest split inOrder index call turn owes =>
      -- the report would be owed although it was made
      have made := List.count_pos_iff.2 reported
      have isOwed : .closing (.report decision) ∈ last.owed :=
        List.mem_flatMap.2 ⟨call, List.mem_of_getElem? turn,
          owes.subset (by simp [Party.broadcast])⟩
      have owed := List.count_pos_iff.2 isOwed
      have counted := (reports_of_run ran decision).1
      rw [Tally.finalReports, if_pos final] at counted
      omega

/-- Whenever in a run a decision is reported, its whole audience was told. -/
theorem told_before_earlier_report {earlier later : List Move}
    (role : setup.role = .primary)
    (ran : (start setup).run? (earlier ++ later) = some last)
    (notAbandoned : ∀ index, .abandon index ∉ earlier ++ later)
    (ranEarlier : (start setup).run? earlier = some session)
    (reported : decision ∈ session.callbacks) :
    (last.party.tally.audience decision).Sublist
      (session.notified decision) := by
  have onward : session.run? later = some last := by
    simpa [run?_append, ranEarlier] using ran
  have decided :=
    Tally.isDecided_of_phase (final_of_reported ranEarlier reported).2
  rw [(sameRecord_of_run onward decided).audience]
  exact told_before_report role ranEarlier
    (fun index given => notAbandoned index (List.mem_append_left _ given))
    reported

/-- Once every call has returned the whole audience was told. -/
theorem audience_told_of_isIdle (role : setup.role = .primary)
    (ran : (start setup).run? moves = some last)
    (notAbandoned : ∀ index, .abandon index ∉ moves)
    (idle : last.isIdle = true)
    (finalized : last.party.tally.finalized = true)
    (phase : last.party.tally.phase = decision.phase) :
    (last.party.tally.audience decision).Sublist (last.notified decision) := by
  apply told_before_report role ran notAbandoned
  rw [callbacks_of_finalized ran notAbandoned idle finalized phase]
  exact List.mem_singleton_self decision

/-- The look that made the decision; what it recorded then is on record
still. -/
theorem deciding_look (ran : (start setup).run? moves = some last)
    (decided : last.party.tally.isDecided) :
    ∃ look ∈ (start setup).history moves, ¬ look.party.tally.isDecided ∧
      look.tally.SameRecord last.party.tally := by
  revert decided
  refine history_induction (motive := fun history tally => tally.isDecided →
    ∃ look ∈ history, ¬ look.party.tally.isDecided ∧
      look.tally.SameRecord tally)
    (by simp [Tally.start, Tally.isDecided, Phase.isDecided]) ?_ ran
  intro known look _ before decided
  by_cases already : look.party.tally.isDecided
  · obtain ⟨deciding, isKnown, undecided, same⟩ := before already
    have advances := Party.advancesOn_look look.party look.trigger
    exact ⟨deciding, List.mem_append_left _ isKnown, undecided,
      same.trans (advances.sameRecord already)⟩
  · exact ⟨look, by simp, already, .refl _⟩

/-- The notices attempted are one broadcast of the decision to its audience and
one more for each late voter, and nobody is told otherwise. -/
structure Accounts (session : Session) (decision : Decision)
    (audience late : List PeerId) : Prop where
  once : audience.Nodup
  inOrder : audience.Sublist (session.notified decision)
  counted : (session.notified decision).Perm (audience ++ late)
  otherwise : ∀ other, other ≠ decision → session.notified other = []

section Accounting

variable (role : setup.role = .primary)
  (ran : (start setup).run? moves = some last)
  (notAbandoned : ∀ index, .abandon index ∉ moves)
  (idle : last.isIdle = true)

include role ran notAbandoned idle

/-- Nobody is told of a decision that was not made. -/
theorem notified_eq_nil (notMade : last.party.tally.phase ≠ decision.phase) :
    last.notified decision = [] := by
  have told := notified_perm_of_run role ran notAbandoned idle decision
  have nobodyLate := (keeps_of_run ran).yeses_eq_nil notMade
  rwa [Tally.announced, if_neg fun made => notMade made.2, lateVoters,
    nobodyLate, List.filter_nil, List.append_nil, List.perm_nil] at told

theorem accounts_of_finalized
    (finalized : last.party.tally.finalized = true)
    (phase : last.party.tally.phase = decision.phase) :
    last.Accounts decision (last.party.tally.audience decision)
      (lateVoters last.party.tally decision ((start setup).history moves)) where
  once := (tidy_of_run role ran).1.nodup_audience decision
  inOrder := audience_told_of_isIdle role ran notAbandoned idle finalized phase
  counted := by
    have told := notified_perm_of_run role ran notAbandoned idle decision
    rwa [Tally.announced, if_pos ⟨finalized, phase⟩] at told
  otherwise := by
    intro other differs
    apply notified_eq_nil role ran notAbandoned idle
    intro made
    exact differs (Decision.phase_injective (made.symm.trans phase))

end Accounting

/-- However calls overlap on the primary and however its sends end, once every
call has returned the notices attempted are exactly these.  After a commit that
somebody waited for: one to each peer that acknowledged, in the order of their
votes, and one more for each yes that was heard after the commit.  After an
abort: one to each peer that had acknowledged at the decision, in the order of
their votes, and to each whose vote was then outstanding, in the order of their
names, one more for each yes heard after the abort from any other peer, and the
local object was told after that whole broadcast.  Without a decision: none. -/
theorem notices_accounted_for (role : setup.role = .primary)
    (ran : (start setup).run? moves = some last)
    (notAbandoned : ∀ index, .abandon index ∉ moves)
    (idle : last.isIdle = true) :
    let history := (start setup).history moves
    let tally := last.party.tally
    (tally.phase = .committed → .start .await ∈ moves →
      tally.acknowledged.Pairwise (SaidYesBefore history) ∧
      last.Accounts .commit tally.acknowledged (yeses .committed history)) ∧
    (tally.phase = .aborted → ∃ look ∈ history,
      ¬ look.party.tally.isDecided ∧ look.tally.SameRecord tally ∧
      look.tally.acknowledged.Pairwise (SaidYesBefore history) ∧
      look.tally.outstanding.toList.Pairwise (· < ·) ∧
      let audience := look.tally.acknowledged ++ look.tally.outstanding.toList
      last.Accounts .abort audience
        ((yeses .aborted history).filter (· ∉ audience)) ∧
      last.callbacks = [.abort] ∧
      ∀ earlier later session, moves = earlier ++ later →
        (start setup).run? earlier = some session →
        .abort ∈ session.callbacks →
        audience.Sublist (session.notified .abort)) ∧
    (¬ tally.isDecided → ∀ decision, last.notified decision = []) := by
  intro history tally
  have inOrder := (tells_of_run role ran).inOrder
  refine ⟨fun committed awaited => ⟨inOrder, ?_⟩, fun aborted => ?_,
    fun undecided decision => ?_⟩
  · have finalized := finalized_of_waited ran notAbandoned awaited idle
    have phase : last.party.tally.phase = Decision.commit.phase := committed
    have accounts :=
      accounts_of_finalized role ran notAbandoned idle finalized phase
    simpa [lateVoters, Tally.reached, Tally.audience, Decision.phase] using
      accounts
  · have finalized := finalized_of_aborted ran aborted
    obtain ⟨look, isKnown, undecided, same⟩ :=
      deciding_look ran (Tally.isDecided_iff.2 (.inr aborted))
    have phase : last.party.tally.phase = Decision.abort.phase := aborted
    have accounts :=
      accounts_of_finalized role ran notAbandoned idle finalized phase
    refine ⟨look, isKnown, undecided, same, same.acknowledged ▸ inOrder, ?_, ?_,
      callbacks_of_finalized ran notAbandoned idle finalized phase, ?_⟩
    · exact List.pairwise_map.2 look.tally.outstanding.sorted
    · change last.Accounts .abort look.tally.abortAudience
        ((yeses .aborted history).filter (· ∉ look.tally.abortAudience))
      rw [← same.abortAudience]
      exact accounts
    · rintro earlier later session rfl ranEarlier reported
      change look.tally.abortAudience.Sublist _
      rw [← same.abortAudience]
      exact told_before_earlier_report role ran notAbandoned ranEarlier reported
  · exact notified_eq_nil role ran notAbandoned idle fun made =>
      undecided (Tally.isDecided_of_phase made)

/-- One of three peers says yes and another departs, which aborts.  While the
first notice fails and the second is under way, the peer that departed says yes
and is told, too; the yes of the third comes last and earns nothing. -/
def departureOfThreeMoves : List Move :=
  [.start (.lead (.connected [⟨"home"⟩, ⟨"one"⟩, ⟨"two"⟩, ⟨"three"⟩])),
    .begin 0,
    .finish 0 (.ok ()),
    .begin 0,
    .finish 0 (.ok ()),
    .begin 0,
    .finish 0 (.ok ()),
    .start (.handle (.voteReceived ⟨⟨"two"⟩, ⟨"doc"⟩, 0, none⟩) .disconnected),
    .start (.handle (.memberDeparted ⟨"one"⟩) .disconnected),
    .begin 2,
    .finish 2 (.error (.rejected ⟨"two"⟩ "unreachable")),
    .begin 2,
    .start (.handle (.voteReceived ⟨⟨"one"⟩, ⟨"doc"⟩, 0, none⟩) .disconnected),
    .begin 3,
    .finish 3 (.ok ()),
    .finish 2 (.ok ()),
    .proceed 2 0,
    .start (.handle (.voteReceived ⟨⟨"three"⟩, ⟨"doc"⟩, 0, none⟩)
      .disconnected)]

theorem notices_of_departure_of_three :
    ∃ session, (start (.primary ⟨"doc"⟩ ⟨"home"⟩)).run?
        departureOfThreeMoves = some session ∧
      (Setup.primary ⟨"doc"⟩ ⟨"home"⟩).role = .primary ∧
      (∀ index, .abandon index ∉ departureOfThreeMoves) ∧
      session.isIdle = true ∧ session.party.tally.phase = .aborted ∧
      session.callbacks = [.abort] ∧
      [⟨"two"⟩, ⟨"three"⟩].Sublist (session.notified .abort) ∧
      (session.notified .abort).Perm [⟨"two"⟩, ⟨"three"⟩, ⟨"one"⟩] ∧
      session.notified .commit = [] := by
  have run : ((start (.primary ⟨"doc"⟩ ⟨"home"⟩)).run?
      departureOfThreeMoves).map (fun session =>
        (session.isIdle, session.party.tally.phase,
          session.party.tally.abortAudience)) =
        some (true, .aborted, [⟨"two"⟩, ⟨"three"⟩]) := by rfl
  obtain ⟨session, ran, observed⟩ := Option.map_eq_some_iff.1 run
  simp only [Prod.mk.injEq] at observed
  obtain ⟨idle, aborted, audience⟩ := observed
  have notAbandoned (index : Nat) : .abandon index ∉ departureOfThreeMoves := by
    simp [departureOfThreeMoves]
  have heard : yeses .aborted ((start (.primary ⟨"doc"⟩ ⟨"home"⟩)).history
      departureOfThreeMoves) = [⟨"one"⟩, ⟨"three"⟩] := by rfl
  obtain ⟨look, -, -, same, -, -, accounts, reported, -⟩ :=
    (notices_accounted_for rfl ran notAbandoned idle).2.1 aborted
  have known : look.tally.acknowledged ++ look.tally.outstanding.toList =
      [⟨"two"⟩, ⟨"three"⟩] := same.abortAudience.symm.trans audience
  rw [known, heard] at accounts
  exact ⟨session, ran, rfl, notAbandoned, idle, aborted, reported,
    accounts.inOrder, accounts.counted, accounts.otherwise .commit (by simp)⟩

end Session

end CreationCommit
