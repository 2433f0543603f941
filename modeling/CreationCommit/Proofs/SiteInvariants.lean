import CreationCommit.Proofs.Sites

/-!
# What holds at a site whatever happens there

A site that leads keeps a sound and tidy tally and tells nobody anything but
its decision.  A site that follows has nothing to send but its vote, and at
most one vote, which it has from its activation on.
-/

namespace CreationCommit

/-- What is counted once at most is one thing. -/
theorem eq_of_countP_le_one {α : Type} {counts : α → Bool} {members : List α}
    (one : members.countP counts ≤ 1) {first second : α}
    (firstMem : first ∈ members) (firstCounts : counts first = true)
    (secondMem : second ∈ members) (secondCounts : counts second = true) :
    first = second := by
  rw [List.countP_eq_length_filter] at one
  have here := List.mem_filter.2 ⟨firstMem, firstCounts⟩
  have there := List.mem_filter.2 ⟨secondMem, secondCounts⟩
  obtain ⟨only, isOnly⟩ := List.length_eq_one_iff.1
    (Nat.le_antisymm one (List.length_pos_of_mem here))
  rw [isOnly, List.mem_singleton] at here there
  rw [here, there]

/-- Whether a duty is to send a vote. -/
def Duty.isVote : Duty → Bool
  | .opening (.vote _) => true
  | _ => false

/-- A look of a replica leaves one vote at most, and only the look that
activates does. -/
theorem Party.votes_look {party : Party} (role : party.setup.role ≠ .primary)
    (noneAcknowledged : party.tally.acknowledged = []) (trigger : Trigger) :
    (party.look trigger).2.countP Duty.isVote ≤ 1 ∧
      (0 < (party.look trigger).2.countP Duty.isVote →
        party.tally.activated = false ∧
          (party.look trigger).1.tally.activated = true) := by
  obtain ⟨refusals, decisions, left, atMostOne, activates⟩ :=
    (replicaDuties_look role noneAcknowledged trigger).duties
  have isCount : (party.look trigger).2.countP Duty.isVote =
      refusals.length := by
    have allVotes : (refusals.map fun refusal =>
        Duty.opening (.vote refusal)).countP Duty.isVote = refusals.length := by
      rw [List.countP_map]
      exact List.countP_eq_length.2 fun _ _ => rfl
    have noVotes : (decisions.map fun decision =>
        Duty.closing (.report decision)).countP Duty.isVote = 0 := by
      rw [List.countP_map]
      exact List.countP_eq_zero.2 fun _ _ => by simp [Duty.isVote]
    simpa [left, Function.comp_def, allVotes] using noVotes
  rw [isCount]
  exact ⟨atMostOne, fun someVote =>
    activates (List.ne_nil_of_length_pos someVote)⟩

/-- The duty of a letter is never a report. -/
theorem Letter.duty_ne_report (letter : Letter) (decision : Decision) :
    letter.duty ≠ .closing (.report decision) := by
  unfold Letter.duty
  split <;> simp

namespace Site

variable {site next : Site} {cause : Option Trigger} {gone : Multiset Duty}
  {taken : Option Letter}

namespace Effect

theorem mem_dues (effect : Effect site next cause gone taken) {duty : Duty}
    (isDue : duty ∈ next.dues) :
    duty ∈ site.dues ∨ duty ∈ (site.react cause).2 := by
  have before : duty ∈ next.dues + gone := Multiset.mem_add.2 (.inl isDue)
  rw [effect.dues] at before
  exact (Multiset.mem_add.1 before).imp_right Multiset.mem_coe.1

theorem mem_gone (effect : Effect site next cause gone taken) {duty : Duty}
    (isGone : duty ∈ gone) : duty ∈ site.dues ∨ duty ∈ (site.react cause).2 := by
  have before : duty ∈ next.dues + gone := Multiset.mem_add.2 (.inr isGone)
  rw [effect.dues] at before
  exact (Multiset.mem_add.1 before).imp_right Multiset.mem_coe.1

/-- Every effect is that of a look, or leaves the tally alone. -/
theorem tally_cases (effect : Effect site next cause gone taken) :
    (cause = none ∧ next.tally = site.tally ∧
      (site.react cause).2 = []) ∨
    ∃ trigger, cause = some trigger ∧
      next.tally = (site.party.look trigger).1.tally ∧
      (site.react cause).2 = (site.party.look trigger).2 := by
  cases cause with
  | none => exact .inl ⟨rfl, effect.tally, rfl⟩
  | some trigger => exact .inr ⟨trigger, rfl, effect.tally, rfl⟩

theorem sound (effect : Effect site next cause gone taken)
    (sound : site.tally.Sound) : next.tally.Sound := by
  rcases effect.tally_cases with ⟨-, same, -⟩ | ⟨trigger, -, looked, -⟩
  · exact same ▸ sound
  · exact looked ▸ (Party.advancesOn_look site.party trigger).sound sound

theorem sameRecord (effect : Effect site next cause gone taken)
    (decided : site.tally.isDecided) : site.tally.SameRecord next.tally := by
  rcases effect.tally_cases with ⟨-, same, -⟩ | ⟨trigger, -, looked, -⟩
  · exact same ▸ .refl _
  · exact looked ▸ (Party.advancesOn_look site.party trigger).sameRecord decided

theorem decision_stays (effect : Effect site next cause gone taken)
    (decision : Decision) (decided : site.tally.phase = decision.phase) :
    next.tally.phase = decision.phase :=
  (effect.sameRecord (Tally.isDecided_of_phase decided)).phase.trans decided

theorem activated (effect : Effect site next cause gone taken)
    (activated : site.tally.activated = true) :
    next.tally.activated = true := by
  rcases effect.tally_cases with ⟨-, same, -⟩ | ⟨trigger, -, looked, -⟩
  · exact same ▸ activated
  · exact looked ▸
      (Party.advancesOn_look site.party trigger).activated activated

theorem finalized (effect : Effect site next cause gone taken)
    (finalized : site.tally.finalized = true) :
    next.tally.finalized = true := by
  rcases effect.tally_cases with ⟨-, same, -⟩ | ⟨trigger, -, looked, -⟩
  · exact same ▸ finalized
  · exact looked ▸
      (Party.advancesOn_look site.party trigger).finalized finalized

end Effect

/-- What holds at the primary. -/
structure Leads (site : Site) : Prop where
  role : site.setup.role = .primary
  fit : site.Fit
  sound : site.tally.Sound
  tidy : site.tally.Tidy
  noVotes : ∀ refusal, .opening (.vote refusal) ∉ site.dues
  told : ∀ decision peer, .closing (.notify decision peer) ∈ site.dues →
    site.tally.phase = decision.phase

namespace Leads

theorem start {setup : Setup} (role : setup.role = .primary) :
    (Site.start setup).Leads where
  role := role
  fit := fit_start setup
  sound := .start setup.objectId
  tidy := .start setup.objectId
  noVotes := by simp
  told := by simp

/-- What the primary had to do, or now has to do, is no vote, and it tells only
its decision. -/
theorem duties_after (leads : site.Leads)
    (effect : Effect site next cause gone taken) {duty : Duty}
    (isDuty : duty ∈ site.dues ∨ duty ∈ (site.react cause).2) :
    (∀ refusal, duty ≠ .opening (.vote refusal)) ∧
      ∀ decision peer, duty = .closing (.notify decision peer) →
        next.tally.phase = decision.phase := by
  rcases isDuty with earlier | isNew
  · refine ⟨fun refusal isVote => leads.noVotes refusal (isVote ▸ earlier), ?_⟩
    rintro decision peer rfl
    exact effect.decision_stays decision (leads.told decision peer earlier)
  · rcases effect.tally_cases with ⟨-, -, nothing⟩ | ⟨trigger, -, looked, duties⟩
    · simp [nothing] at isNew
    · rw [duties] at isNew
      constructor
      · rintro refusal rfl
        obtain ⟨peers, closings, opens, -, -⟩ :=
          Party.look_opens leads.role leads.sound trigger
        simp [opens] at isNew
      · rintro decision peer rfl
        rw [looked]
        exact (Party.consequence_look leads.role leads.sound leads.tidy
          trigger).phase_of_notify isNew

theorem effect (leads : site.Leads)
    (effect : Effect site next cause gone taken) : next.Leads where
  role := effect.setup ▸ leads.role
  fit := effect.fit
  sound := effect.sound leads.sound
  tidy := by
    rcases effect.tally_cases with ⟨-, same, -⟩ | ⟨trigger, -, looked, -⟩
    · exact same ▸ leads.tidy
    · exact looked ▸
        Party.tidy_look leads.role leads.sound leads.tidy trigger
  noVotes := fun refusal isDue =>
    (leads.duties_after effect (effect.mem_dues isDue)).1 refusal rfl
  told := fun decision peer isDue =>
    (leads.duties_after effect (effect.mem_dues isDue)).2 decision peer rfl

end Leads

/-- What holds at a replica. -/
structure Follows (site : Site) : Prop where
  role : site.setup.role ≠ .primary
  fit : site.Fit
  sound : site.tally.Sound
  notVoting : site.tally.phase ≠ .voting
  noneAcknowledged : site.tally.acknowledged = []
  duties : ∀ duty ∈ site.dues,
    duty.isVote = true ∨ ∃ decision, duty = .closing (.report decision)

/-- The number of votes that a site still has to send. -/
def votesDue (site : Site) : Nat :=
  site.dues.countP (·.isVote = true)

namespace Follows

theorem start {setup : Setup} (role : setup.role ≠ .primary) :
    (Site.start setup).Follows where
  role := role
  fit := fit_start setup
  sound := .start setup.objectId
  notVoting := by simp [Site.start, Session.start, Party.start, tally,
    Tally.start]
  noneAcknowledged := rfl
  duties := by simp

theorem notVoting_look (follows : site.Follows) (trigger : Trigger) :
    (site.party.look trigger).1.tally.phase ≠ .voting := by
  cases Party.replicaChange_look follows.role follows.notVoting trigger with
  | stays phase => exact phase ▸ follows.notVoting
  | prepares _ prepared => simp [prepared]
  | commits _ committed => simp [committed]
  | aborts _ _ aborted => simp [aborted]

/-- What a replica had to do, or now has to do, is a vote or a report. -/
theorem duties_after (follows : site.Follows)
    (effect : Effect site next cause gone taken) {duty : Duty}
    (isDuty : duty ∈ site.dues ∨ duty ∈ (site.react cause).2) :
    duty.isVote = true ∨ ∃ decision, duty = .closing (.report decision) := by
  rcases isDuty with earlier | isNew
  · exact follows.duties duty earlier
  · rcases effect.tally_cases with ⟨-, -, nothing⟩ | ⟨trigger, -, -, duties⟩
    · simp [nothing] at isNew
    · obtain ⟨refusals, decisions, left, -, -⟩ :=
        (Party.replicaDuties_look follows.role follows.noneAcknowledged
          trigger).duties
      rw [duties, left] at isNew
      simp only [List.map_map, List.mem_append, List.mem_map,
        Function.comp_apply] at isNew
      rcases isNew with ⟨refusal, -, rfl⟩ | ⟨decision, -, rfl⟩
      · exact .inl rfl
      · exact .inr ⟨decision, rfl⟩

theorem effect (follows : site.Follows)
    (effect : Effect site next cause gone taken) : next.Follows where
  role := effect.setup ▸ follows.role
  fit := effect.fit
  sound := effect.sound follows.sound
  notVoting := by
    rcases effect.tally_cases with ⟨-, same, -⟩ | ⟨trigger, -, looked, -⟩
    · exact same ▸ follows.notVoting
    · exact looked ▸ follows.notVoting_look trigger
  noneAcknowledged := by
    rcases effect.tally_cases with ⟨-, same, -⟩ | ⟨trigger, -, looked, -⟩
    · exact same ▸ follows.noneAcknowledged
    · exact looked ▸ Party.acknowledged_look follows.role
        follows.noneAcknowledged trigger
  duties := fun duty isDue =>
    follows.duties_after effect (effect.mem_dues isDue)

/-- The letters that the transport takes from a replica are votes. -/
theorem isVote_of_taken (follows : site.Follows) {act : Act} {letter : Letter}
    (turn : Turn site act cause gone (some letter))
    (effect : Effect site next cause gone taken) :
    letter.duty.isVote = true := by
  obtain ⟨rfl, -⟩ := turn.taken
  rcases follows.duties_after effect
      (effect.mem_gone (Multiset.mem_singleton_self letter.duty)) with
    isVote | ⟨decision, report⟩
  · exact isVote
  · exact absurd report (letter.duty_ne_report decision)

theorem votes_look (follows : site.Follows) (trigger : Trigger) :
    (site.party.look trigger).2.countP Duty.isVote ≤ 1 ∧
      (0 < (site.party.look trigger).2.countP Duty.isVote →
        site.tally.activated = false ∧
          (site.party.look trigger).1.tally.activated = true) :=
  Party.votes_look follows.role follows.noneAcknowledged trigger

theorem no_votes_of_result (follows : site.Follows) (opening : Opening)
    (result : Except DeliveryError Unit) :
    (site.party.look (.result opening result)).2.countP Duty.isVote = 0 := by
  obtain ⟨decisions, reports⟩ :=
    Party.noteResult_reports follows.role opening result
  apply List.countP_eq_zero.2
  intro duty isNew
  simp only [Party.look, Party.closed, reports, List.map_map, List.mem_map,
    Function.comp_apply] at isNew
  obtain ⟨decision, -, rfl⟩ := isNew
  simp [Duty.isVote]

/-- The votes due are only spent, but for the one vote of the activation. -/
theorem votesDue_effect (follows : site.Follows)
    (effect : Effect site next cause gone taken) :
    next.votesDue + gone.countP (·.isVote = true) ≤ site.votesDue + 1 ∧
      ((site.tally.activated = true ∨ next.tally.activated = false ∨
          ∃ opening result, cause = some (.result opening result)) →
        next.votesDue + gone.countP (·.isVote = true) = site.votesDue) := by
  have counted : next.votesDue + gone.countP (·.isVote = true) =
      site.votesDue + (site.react cause).2.countP Duty.isVote := by
    have both := congrArg (Multiset.countP (·.isVote = true)) effect.dues
    simpa [votesDue, Multiset.countP_add, Multiset.coe_countP] using both
  rcases effect.tally_cases with
    ⟨-, -, nothing⟩ | ⟨trigger, isCause, looked, duties⟩
  · rw [nothing, List.countP_nil] at counted
    exact ⟨by omega, fun _ => counted⟩
  · obtain ⟨atMostOne, activates⟩ := follows.votes_look trigger
    rw [duties] at counted
    refine ⟨by omega, fun quiet => ?_⟩
    suffices noVote :
        (site.party.look trigger).2.countP Duty.isVote = 0 by omega
    rcases quiet with already | notAfter | ⟨opening, result, isResult⟩
    · by_contra someVote
      have notBefore := (activates (Nat.pos_of_ne_zero someVote)).1
      simp [already] at notBefore
    · by_contra someVote
      have after := (activates (Nat.pos_of_ne_zero someVote)).2
      simp [← looked, notAfter] at after
    · obtain rfl : trigger = .result opening result := by
        simpa [isCause] using isResult
      exact follows.no_votes_of_result opening result

end Follows

end Site

end CreationCommit
