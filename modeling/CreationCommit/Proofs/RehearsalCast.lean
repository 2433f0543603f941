import CreationCommit.Proofs.Outcomes
import CreationCommit.Proofs.RehearsalMail
import CreationCommit.Proofs.Tidings
import Mathlib.Data.List.Nodup

/-!
# The cast of a rehearsal

The cast lists the peers that are asked, each once and with its behaviour.  It
fixes what the primary is going to hear and in which order: the departures come
first, because a departing peer is noticed when its request is routed, and the
votes later, because they lie behind all requests.  What the primary has heard
so far fixes its stance.
-/

namespace CreationCommit

/-- The peers that a rehearsal asks, with their behaviours. -/
@[ext]
structure Cast where
  members : List (PeerId × Behaviour)
  distinct : (members.map Prod.fst).Nodup

namespace Cast

def peers (cast : Cast) : List PeerId :=
  cast.members.map Prod.fst

/-- What is heard of a member when its request is routed. -/
def departure? : PeerId × Behaviour → Option Tiding
  | (peer, .departing) => some (peer, some .departed)
  | _ => none

/-- What is heard of a member by its vote. -/
def ballot? : PeerId × Behaviour → Option Tiding
  | (peer, .failing) => some (peer, some (.refused Rehearsal.rejection))
  | (peer, .healthy) => some (peer, none)
  | _ => none

/-- What the primary hears, in this order. -/
def tidings (cast : Cast) : List Tiding :=
  cast.members.filterMap departure? ++ cast.members.filterMap ballot?

section Members

variable {cast : Cast} {peer : PeerId} {behaviour other : Behaviour}
  {tiding : Tiding}

theorem mem_peers (isMember : (peer, behaviour) ∈ cast.members) :
    peer ∈ cast.peers :=
  List.mem_map_of_mem isMember

/-- A member has one behaviour. -/
theorem behaviour_unique (isMember : (peer, behaviour) ∈ cast.members)
    (isOther : (peer, other) ∈ cast.members) : behaviour = other := by
  have same := List.inj_on_of_nodup_map cast.distinct isMember isOther rfl
  exact (Prod.mk.inj same).2

theorem of_departure? {member : PeerId × Behaviour}
    (departs : departure? member = some tiding) :
    member = (tiding.1, .departing) := by
  obtain ⟨peer, behaviour⟩ := member
  cases behaviour <;> simp [departure?] at departs
  simp [← departs]

theorem of_ballot? {member : PeerId × Behaviour}
    (votes : ballot? member = some tiding) :
    member = (tiding.1, .failing) ∧ tiding.2.isSome ∨
      member = (tiding.1, .healthy) ∧ tiding.2 = none := by
  obtain ⟨peer, behaviour⟩ := member
  cases behaviour <;> simp [ballot?] at votes <;> simp [← votes]

/-- Who is heard of is a member. -/
theorem mem_peers_of_tiding (isTiding : tiding ∈ cast.tidings) :
    tiding.1 ∈ cast.peers := by
  rw [tidings, List.mem_append, List.mem_filterMap, List.mem_filterMap]
    at isTiding
  rcases isTiding with ⟨member, isMember, departs⟩ | ⟨member, isMember, votes⟩
  · exact mem_peers (of_departure? departs ▸ isMember)
  · rcases of_ballot? votes with ⟨rfl, -⟩ | ⟨rfl, -⟩ <;>
      exact mem_peers isMember

theorem nodup_filterMap {select : PeerId × Behaviour → Option Tiding}
    (keeps : ∀ member tiding, select member = some tiding →
      tiding.1 = member.1) {members : List (PeerId × Behaviour)}
    (distinct : (members.map Prod.fst).Nodup) :
    ((members.filterMap select).map Prod.fst).Nodup := by
  refine distinct.sublist ?_
  clear distinct
  induction members with
  | nil => simp
  | cons member rest ih =>
      cases selected : select member with
      | none => simpa [selected] using ih.cons _
      | some tiding =>
          simpa [selected, keeps member tiding selected] using ih

/-- Nobody is heard of twice. -/
theorem nodup_tidings (cast : Cast) : (cast.tidings.map Prod.fst).Nodup := by
  rw [tidings, List.map_append, List.nodup_append]
  refine ⟨nodup_filterMap ?_ cast.distinct, nodup_filterMap ?_ cast.distinct, ?_⟩
  · rintro member tiding departs
    rw [of_departure? departs]
  · rintro member tiding votes
    rcases of_ballot? votes with ⟨rfl, -⟩ | ⟨rfl, -⟩ <;> rfl
  · rintro peer departed other voted rfl
    obtain ⟨first, isFirst, rfl⟩ := List.mem_map.1 departed
    obtain ⟨second, isSecond, same⟩ := List.mem_map.1 voted
    obtain ⟨leaver, isLeaver, departs⟩ := List.mem_filterMap.1 isFirst
    obtain ⟨voter, isVoter, votes⟩ := List.mem_filterMap.1 isSecond
    rw [of_departure? departs] at isLeaver
    rcases of_ballot? votes with ⟨rfl, -⟩ | ⟨rfl, -⟩ <;>
      · rw [same] at isVoter
        have clash := behaviour_unique isLeaver isVoter
        cases clash

end Members

/-- Where the primary stands at an instant, after some of the tidings. -/
inductive Stance (cast : Cast) (settings : TransactionSettings)
    (received : List Tiding) (now : Instant) (tally : Tally) : Prop
  | votes (voting : tally.phase = .voting)
      (heard : tally.Heard cast.peers received)
      (clock : now = 0 ∨
        now = Instant.after 0 settings.timeout ∧ received = cast.tidings)
  | commits (committed : tally.phase = .committed)
      (heard : tally.Heard cast.peers received) (clock : now = 0)
  | exceeds (earlier : List Tiding) (last : Tiding)
      (aborted : tally.phase = .aborted)
      (before : earlier ++ [last] <+: received)
      (heard : tally.Heard cast.peers (earlier ++ [last]))
      (failing : last.isFailure)
      (full : earlier.countP Tiding.isFailure = settings.threshold)
      (cause : ∃ report, tally.abortReport = some report ∧
        report.cause =
          .tooManyFailures (settings.threshold + 1) settings.threshold)
      (clock : now = 0)
  | expires (aborted : tally.phase = .aborted)
      (heard : tally.Heard cast.peers received)
      (all : received = cast.tidings) (missing : tally.outstanding ≠ ∅)
      (bounded : received.countP Tiding.isFailure ≤ settings.threshold)
      (cause : ∃ report, tally.abortReport = some report ∧
        report.cause = .timedOut settings.timeout)
      (clock : now = Instant.after 0 settings.timeout)

namespace Stance

variable {cast : Cast} {settings : TransactionSettings}
  {received rest : List Tiding} {tiding : Tiding} {now : Instant}
  {tally other : Tally}

theorem of_sameRecord (stance : cast.Stance settings received now tally)
    (same : tally.SameRecord other) :
    cast.Stance settings received now other := by
  cases stance with
  | votes voting heard clock =>
      exact .votes (same.phase.trans voting) (heard.of_sameRecord same) clock
  | commits committed heard clock =>
      exact .commits (same.phase.trans committed) (heard.of_sameRecord same)
        clock
  | exceeds earlier last aborted before heard failing full cause clock =>
      exact .exceeds earlier last (same.phase.trans aborted) before
        (heard.of_sameRecord same) failing full (same.abortReport ▸ cause) clock
  | expires aborted heard all missing bounded cause clock =>
      exact .expires (same.phase.trans aborted) (heard.of_sameRecord same) all
        (same.outstanding ▸ missing) bounded (same.abortReport ▸ cause) clock

theorem phase (stance : cast.Stance settings received now tally) :
    tally.phase = .voting ∨ tally.phase = .committed ∨
      tally.phase = .aborted := by
  cases stance with
  | votes voting => exact .inl voting
  | commits committed => exact .inr (.inl committed)
  | exceeds _ _ aborted | expires aborted => exact .inr (.inr aborted)

/-- While the voting is open, every tiding counts. -/
theorem heard_of_voting (stance : cast.Stance settings received now tally)
    (voting : tally.phase = .voting) : tally.Heard cast.peers received := by
  cases stance with
  | votes _ heard => exact heard
  | commits committed => simp [voting] at committed
  | exceeds _ _ aborted | expires aborted => simp [voting] at aborted

/-- A stance at the start is where the voting stands. -/
theorem of_standing
    (standing : tally.Standing settings.threshold cast.peers received) :
    cast.Stance settings received 0 tally := by
  cases standing with
  | votes voting heard => exact .votes voting heard (.inl rfl)
  | commits committed heard => exact .commits committed heard rfl
  | exceeds earlier last aborted before heard failing full cause =>
      exact .exceeds earlier last aborted before heard failing full cause rfl

/-- As long as tidings are to come, no time has passed. -/
theorem standing (stance : cast.Stance settings received now tally)
    (notAll : received ≠ cast.tidings) :
    tally.Standing settings.threshold cast.peers received ∧ now = 0 := by
  cases stance with
  | votes voting heard clock =>
      exact ⟨.votes voting heard, clock.resolve_right fun late => notAll late.2⟩
  | commits committed heard clock => exact ⟨.commits committed heard, clock⟩
  | exceeds earlier last aborted before heard failing full cause clock =>
      exact ⟨.exceeds earlier last aborted before heard failing full cause,
        clock⟩
  | expires _ _ all => exact absurd all notAll

theorem new_of_upcoming (upcoming : received ++ tiding :: rest = cast.tidings) :
    tiding.1 ∈ cast.peers ∧ tiding.1 ∉ received.map Prod.fst ∧
      received ≠ cast.tidings := by
  refine ⟨mem_peers_of_tiding (by simp [← upcoming]), ?_, by simp [← upcoming]⟩
  have distinct := cast.nodup_tidings
  rw [← upcoming, List.map_append, List.nodup_append] at distinct
  exact fun already => distinct.2.2 _ already _ (by simp) rfl

/-- Who is still to be heard of is outstanding. -/
theorem outstanding (stance : cast.Stance settings received now tally)
    (upcoming : received ++ tiding :: rest = cast.tidings) :
    tiding.1 ∈ tally.outstanding := by
  obtain ⟨admitted, new, notAll⟩ := new_of_upcoming upcoming
  exact (stance.standing notAll).1.outstanding admitted new

/-- The primary hears the next tiding. -/
theorem hear {party : Party} {trigger : Trigger}
    (stance : cast.Stance settings received now party.tally)
    (role : party.setup.role = .primary)
    (sameSettings : party.setup.settings = settings)
    (sound : party.tally.Sound) (tidy : party.tally.Tidy)
    (decisive : party.tally.Decisive settings.threshold)
    (upcoming : received ++ tiding :: rest = cast.tidings)
    (brings : trigger.Brings party.setup tiding) :
    cast.Stance settings (received ++ [tiding]) now
      (party.look trigger).1.tally := by
  obtain ⟨admitted, new, notAll⟩ := new_of_upcoming upcoming
  obtain ⟨standing, rfl⟩ := stance.standing notAll
  exact of_standing (standing.hear role (congrArg _ sameSettings) sound tidy
    decisive admitted new brings)

end Stance

end Cast

namespace Party

variable {party : Party} {now : Instant}

/-- Whoever finds an outcome leaves the tally finalized with it. -/
theorem finalizedAs_of_outcome? {outcome : Outcome}
    (finds : (party.examine now).2.outcome? = some outcome) :
    (party.look (.clock now)).1.tally.FinalizedAs outcome := by
  cases found : (party.examine now).2 with
  | pending deadline => simp [found, Finding.outcome?] at finds
  | decided closings answer =>
      obtain rfl : answer = outcome := by
        simpa [found, Finding.outcome?] using finds
      exact finalizedAs_of_found found

theorem examine_of_decided (sound : party.tally.Sound)
    (decided : party.tally.isDecided) :
    ∃ outcome, (party.examine now).2.outcome? = some outcome := by
  have checked := (advancesOn_checkDeadline party now).sameRecord decided
  rcases Tally.isDecided_iff.1 decided with committed | aborted
  · refine ⟨.committed, ?_⟩
    simp [examine, checked.phase, committed, Finding.outcome?]
  · obtain ⟨report, reported⟩ :=
      Option.isSome_iff_exists.1 (sound.reported.2 aborted)
    refine ⟨.aborted report, ?_⟩
    simp [examine, checked.phase, aborted, checked.abortReport, reported,
      Finding.outcome?]

variable {limit : Instant}

/-- While the votes are awaited, whoever waits fixes the deadline. -/
theorem examine_of_voting (role : party.setup.role = .primary)
    (decisive : party.tally.Decisive party.setup.settings.threshold)
    (voting : party.tally.phase = .voting)
    (deadline : party.tally.deadline.getD
      (now.after party.setup.settings.timeout) = limit)
    (early : now < limit) :
    party.examine now =
      ({ party with tally := { party.tally with deadline := some limit } },
        .pending (some limit)) := by
  have primary : party.isPrimary = true := isPrimary_iff.2 role
  have resolved : party.resolve = party := resolve_of_decisive decisive
  have notPassed : ¬ limit ≤ now := Nat.not_le.2 early
  simp [examine, checkDeadline, primary, resolved, Tally.fixDeadline, deadline,
    notPassed, voting]

/-- Whoever waits when the time has passed aborts the creation. -/
theorem examine_of_passed (role : party.setup.role = .primary)
    (decisive : party.tally.Decisive party.setup.settings.threshold)
    (voting : party.tally.phase = .voting)
    (deadline : party.tally.deadline.getD
      (now.after party.setup.settings.timeout) = limit)
    (passed : limit ≤ now) :
    (party.tally.abort (.timedOut party.setup.settings.timeout)).SameRecord
        (party.examine now).1.tally ∧
      ∃ outcome, (party.examine now).2.outcome? = some outcome := by
  have primary : party.isPrimary = true := isPrimary_iff.2 role
  have resolved : party.resolve = party := resolve_of_decisive decisive
  have undecided : party.tally.isDecided = false := by
    simp [Tally.isDecided, Phase.isDecided, voting]
  have expired : (party.checkDeadline now).1.tally =
      { party.tally.abort (.timedOut party.setup.settings.timeout) with
        deadline := some limit } := by
    simp [checkDeadline, primary, resolved, Tally.fixDeadline, deadline, passed,
      Tally.timeOut, Tally.abort, announce, Tally.isDecided,
      Phase.isDecided, voting]
  have aborted : (party.checkDeadline now).1.tally.phase = .aborted := by
    simp [expired, Tally.abort, undecided]
  obtain ⟨report, reported⟩ :
      ∃ report, (party.checkDeadline now).1.tally.abortReport = some report := by
    simp [expired, Tally.abort, undecided]
  have settled := sameRecord_examine party now
  refine ⟨?_, .aborted report, ?_⟩
  · rw [expired] at settled
    exact ⟨settled.phase, settled.outstanding, settled.failures,
      settled.acknowledged, settled.abortReport⟩
  · simp [examine, aborted, reported, Finding.outcome?]

end Party

namespace Cast.Stance

variable {cast : Cast} {settings : TransactionSettings}
  {received : List Tiding} {now limit : Instant} {party : Party}

/-- The waiter waits on while votes are awaited in time, or finds an
outcome. -/
theorem examine (stance : cast.Stance settings received now party.tally)
    (role : party.setup.role = .primary)
    (sameSettings : party.setup.settings = settings)
    (sound : party.tally.Sound)
    (decisive : party.tally.Decisive settings.threshold)
    (isLimit : limit = Instant.after 0 settings.timeout) (positive : 0 < limit)
    (deadline : now = 0 ∧ party.tally.deadline = none ∨
      party.tally.deadline = some limit) :
    cast.Stance settings received now (party.examine now).1.tally ∧
      ((now = 0 ∧ party.tally.phase = .voting ∧ party.examine now =
          ({ party with tally := { party.tally with deadline := some limit } },
            .pending (some limit))) ∨
        ∃ outcome, (party.examine now).2.outcome? = some outcome) := by
  have fixed : party.tally.deadline.getD
      (now.after party.setup.settings.timeout) = limit := by
    rw [sameSettings]
    rcases deadline with ⟨rfl, none⟩ | some
    · rw [none, Option.getD_none, isLimit]
    · rw [some, Option.getD_some]
  by_cases decided : party.tally.isDecided
  · have kept := (Party.advancesOn_examine party now).sameRecord decided
    exact ⟨stance.of_sameRecord kept,
      .inr (Party.examine_of_decided sound decided)⟩
  cases stance with
  | votes voting heard clock =>
      rcases clock with rfl | ⟨late, all⟩
      · have waits := Party.examine_of_voting role (sameSettings ▸ decisive)
          voting fixed positive
        rw [waits]
        refine ⟨?_, .inl ⟨rfl, voting, rfl⟩⟩
        exact .of_sameRecord (.votes voting heard (.inl rfl))
          ⟨rfl, rfl, rfl, rfl, rfl⟩
      · have passed : limit ≤ now := Nat.le_of_eq (isLimit.trans late.symm)
        obtain ⟨aborts, found⟩ := Party.examine_of_passed role
          (sameSettings ▸ decisive) voting fixed passed
        refine ⟨.of_sameRecord ?_ aborts, .inr found⟩
        have bounded := heard.size ▸ decisive.bounded (.inl voting)
        simp only [Tally.abort, if_neg decided, sameSettings]
        exact .expires rfl ⟨heard.outstanding, heard.failures, heard.size,
          heard.acknowledged⟩ all (decisive.outstanding voting) bounded
          ⟨_, rfl, rfl⟩ late
  | commits committed => exact absurd (Tally.isDecided_iff.2 (.inl committed)) decided
  | exceeds _ _ aborted => exact absurd (Tally.isDecided_iff.2 (.inr aborted)) decided
  | expires aborted => exact absurd (Tally.isDecided_iff.2 (.inr aborted)) decided

end Cast.Stance

end CreationCommit
