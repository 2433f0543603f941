import CreationCommit.Proofs.Notices

/-!
# Who is asked, and when

Every peer is asked at most once, and nobody is admitted after the decision.
But the requests to the peers admitted before it are carried out whatever comes
between: those that were not attempted yet when the decision fell are attempted
after it.
-/

namespace CreationCommit

/-- A look at a decided creation admits nobody. -/
theorem Look.admitted_of_decided {look : Look}
    (role : look.party.setup.role = .primary)
    (sound : look.party.tally.Sound) (decided : look.party.tally.isDecided) :
    look.admitted = [] := by
  have same : look.party.tally.SameRecord look.tally :=
    (Party.advancesOn_look look.party look.trigger).sameRecord decided
  cases Party.voteChange_look role sound look.trigger with
  | admits _ _ _ votes =>
      refine List.eq_nil_iff_forall_not_mem.2 fun peer admitted => ?_
      have outstanding := (votes.outstanding peer).2 (.inr admitted)
      rw [same.outstanding] at outstanding
      exact votes.fresh peer admitted (.inl outstanding)
  | yes _ _ _ _ admitsNobody => exact admitsNobody
  | fails _ _ _ _ _ admitsNobody => exact admitsNobody
  | refusesLate _ _ _ _ _ _ _ admitsNobody => exact admitsNobody

namespace Session

/-- The peers whose votes were asked for by a letter attempted, in order. -/
def asked (session : Session) : List PeerId :=
  session.attempts.filterMap fun letter => Look.askedBy? letter.duty

variable {setup : Setup} {earlier later moves : List Move}
  {decided last : Session}

/-- What was attempted stays so. -/
theorem attempts_prefix_of_run {origin : Session}
    (ran : origin.run? moves = some last) :
    origin.attempts <+: last.attempts := by
  refine run_induction (motive := fun _ session =>
    origin.attempts <+: session.attempts) (List.prefix_refl _) ?_ ran
  intro earlier session move next _ before step
  obtain ⟨duties, does⟩ := step.exchange.does
  exact before.trans does.attempts_prefix

/-- The peers that a run asks are among those that it admits, and once every
call has returned they are those. -/
theorem asked_of_run (ran : (start setup).run? moves = some last) :
    last.asked.Subperm (admissions ((start setup).history moves)) ∧
      ((∀ index, .abandon index ∉ moves) → last.isIdle = true →
        last.asked.Perm (admissions ((start setup).history moves))) := by
  have asked : last.deeds.filterMap Look.askedBy? = last.asked :=
    filterMap_deeds last fun _ => rfl
  have admitted : (((start setup).history moves).flatMap
      Look.duties).filterMap Look.askedBy? =
        admissions ((start setup).history moves) := List.filterMap_flatMap
  constructor
  · obtain ⟨done, same, among⟩ := deeds_subperm_of_run ran
    have attempted : (last.deeds.filterMap Look.askedBy?).Subperm
        ((last.deeds ++ last.owed).filterMap Look.askedBy?) := by
      rw [List.filterMap_append]
      exact (List.sublist_append_left _ _).subperm
    rw [asked] at attempted
    rw [← admitted]
    exact attempted.trans
      ⟨_, same.filterMap Look.askedBy?, among.filterMap Look.askedBy?⟩
  · intro notAbandoned idle
    rw [← asked, ← admitted]
    exact (deeds_perm_of_run ran notAbandoned idle).filterMap Look.askedBy?

/-- Nobody is admitted after the decision. -/
theorem admissions_of_decided (role : setup.role = .primary)
    (ran : (start setup).run? earlier = some decided)
    (isDecided : decided.party.tally.isDecided)
    (onward : decided.run? later = some last) :
    admissions ((start setup).history (earlier ++ later)) =
      admissions ((start setup).history earlier) := by
  refine run_induction (motive := fun later _ =>
    admissions ((start setup).history (earlier ++ later)) =
      admissions ((start setup).history earlier)) (by simp) ?_ onward
  intro between session move next ranBetween same step
  have ranSession : (start setup).run? (earlier ++ between) = some session := by
    simpa [run?_append, ran] using ranBetween
  rw [← List.append_assoc, history_concat ranSession]
  cases isLook : session.look? move with
  | none => simpa using same
  | some look =>
      have atParty : look.party = session.party := by
        obtain ⟨trigger, -, rfl⟩ := Option.map_eq_some_iff.1 isLook
        rfl
      have nobody : look.admitted = [] := by
        apply Look.admitted_of_decided <;> rw [atParty]
        · rw [setup_of_run ranSession]
          exact role
        · exact (tidy_of_run role ranSession).1
        · have since := sameRecord_of_run ranBetween isDecided
          simpa [Tally.isDecided, since.phase] using isDecided
      rw [Option.toList_some, admissions_concat, same, nobody, List.append_nil]

/-- Of the requests to the peers admitted before the decision those not yet
attempted may still be attempted after it, each once and no others: none, if
all were attempted before, and all, if every call returns. -/
theorem requests_after_decision (role : setup.role = .primary)
    (ran : (start setup).run? earlier = some decided)
    (isDecided : decided.party.tally.isDecided)
    (onward : decided.run? later = some last) :
    let admitted := admissions ((start setup).history earlier)
    ∃ late, last.asked = decided.asked ++ late ∧ last.asked.Nodup ∧
      late ⊆ admitted ∧ (admitted ⊆ decided.asked → late = []) ∧
      ((∀ index, .abandon index ∉ earlier ++ later) → last.isIdle = true →
        last.asked.Perm admitted) := by
  intro admitted
  have ranLast : (start setup).run? (earlier ++ later) = some last := by
    simpa [run?_append, ran] using onward
  obtain ⟨more, attempts⟩ := attempts_prefix_of_run onward
  obtain ⟨among, all⟩ := asked_of_run ranLast
  have once : (admissions ((start setup).history (earlier ++ later))).Nodup :=
    (tells_of_run role ranLast).admittedOnce
  rw [admissions_of_decided role ran isDecided onward] at among all once
  have split : last.asked = decided.asked ++
      more.filterMap fun letter => Look.askedBy? letter.duty := by
    rw [asked, asked, ← attempts, List.filterMap_append]
  have nodup : last.asked.Nodup := by
    obtain ⟨_, same, sub⟩ := among
    exact same.nodup_iff.1 (once.sublist sub)
  refine ⟨_, split, nodup, ?_, ?_, all⟩
  · intro peer isLate
    apply among.subset
    rw [split]
    exact List.mem_append_right _ isLate
  · intro allAsked
    refine List.eq_nil_iff_forall_not_mem.2 fun peer isLate => ?_
    have isLast : peer ∈ last.asked := by
      rw [split]
      exact List.mem_append_right _ isLate
    rw [split, List.nodup_append] at nodup
    exact nodup.2.2 peer (allAsked (among.subset isLast)) peer isLate rfl

/-- The only peer departs while its request is being sent: nothing is asked
after the decision. -/
theorem no_request_after_departure :
    ∃ decided last,
      (Setup.primary ⟨"doc"⟩ ⟨"home"⟩).role = .primary ∧
      (start (.primary ⟨"doc"⟩ ⟨"home"⟩)).run? (departureMoves.take 6) =
        some decided ∧
      decided.party.tally.isDecided ∧
      decided.run? (departureMoves.drop 6) = some last ∧
      last.asked = decided.asked := by
  have run : ((start (.primary ⟨"doc"⟩ ⟨"home"⟩)).run?
      (departureMoves.take 6)).map (fun session =>
        (session.party.tally.isDecided, session.asked,
          (session.run? (departureMoves.drop 6)).isSome)) =
        some (true, [⟨"away"⟩], true) := by rfl
  obtain ⟨decided, ran, observed⟩ := Option.map_eq_some_iff.1 run
  simp only [Prod.mk.injEq] at observed
  obtain ⟨isDecided, asked, goesOn⟩ := observed
  obtain ⟨last, onward⟩ := Option.isSome_iff_exists.1 goesOn
  obtain ⟨late, split, -, -, none, -⟩ :=
    requests_after_decision rfl ran isDecided onward
  have admitted : admissions ((start (.primary ⟨"doc"⟩ ⟨"home"⟩)).history
      (departureMoves.take 6)) = [⟨"away"⟩] := by rfl
  rw [admitted, asked] at none
  refine ⟨decided, last, rfl, ran, isDecided, onward, ?_⟩
  rw [split, none (List.Subset.refl _), List.append_nil]

/-- The request to the first peer is rejected, which aborts; the call tells the
second peer so and reports the abort. -/
def rejectedRequestMoves : List Move :=
  [.start (.lead (.connected [⟨"home"⟩, ⟨"one"⟩, ⟨"two"⟩])),
    .begin 0,
    .finish 0 (.error (.rejected ⟨"one"⟩ "unreachable")),
    .begin 0,
    .finish 0 (.ok ()),
    .proceed 0 0]

/-- A peer may be asked for the first time after it was told of the abort and
the abort was reported. -/
theorem request_follows_abort :
    ∃ (setup : Setup) (earlier later : List Move) (decided last : Session)
        (peer : PeerId),
      setup.role = .primary ∧ (start setup).run? earlier = some decided ∧
      decided.party.tally.isDecided ∧ decided.callbacks = [.abort] ∧
      peer ∈ decided.notified .abort ∧ peer ∉ decided.asked ∧
      decided.run? later = some last ∧ last.isIdle = true ∧
      peer ∈ last.asked := by
  have run : ((start (.primary ⟨"doc"⟩ ⟨"home"⟩)).run?
      rejectedRequestMoves).map (fun session =>
        (session.party.tally.isDecided, session.callbacks,
          session.notified .abort, session.asked,
          (session.run? [.begin 0, .finish 0 (.ok ())]).map fun last =>
            (last.isIdle, last.asked))) =
        some (true, [.abort], [⟨"two"⟩], [⟨"one"⟩],
          some (true, [⟨"one"⟩, ⟨"two"⟩])) := by rfl
  obtain ⟨decided, ran, observed⟩ := Option.map_eq_some_iff.1 run
  simp only [Prod.mk.injEq] at observed
  obtain ⟨isDecided, reported, told, asked, goesOn⟩ := observed
  obtain ⟨last, onward, atEnd⟩ := Option.map_eq_some_iff.1 goesOn
  obtain ⟨idle, askedLast⟩ := Prod.mk.inj atEnd
  exact ⟨.primary ⟨"doc"⟩ ⟨"home"⟩, rejectedRequestMoves, _, decided, last,
    ⟨"two"⟩, rfl, ran, isDecided, reported, by simp [told], by simp [asked],
    onward, idle, by simp [askedLast]⟩

end Session

end CreationCommit
