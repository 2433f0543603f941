import CreationCommit.Proofs.RehearsalOpening
import CreationCommit.Proofs.RehearsalSchedule

/-!
# How a rehearsal ends

What comes of a rehearsal does not depend on the schedule: the shape of the
group and the settings determine the outcome, the votes that were counted and
the phases of the replicas.  The departures are heard before the refusals,
whichever are too many abort the creation, a silent peer lets the time pass,
and otherwise the creation is committed.
-/

namespace CreationCommit

/-- What is left of a rehearsal when it is over. -/
structure Rehearsal.Ending where
  outcome : Outcome
  outstanding : PeerSet
  failures : PeerMap Failure
  acknowledged : List PeerId
  phases : List (PeerId × Phase)
  callbacks : List Decision
  now : Instant

/-- What is left of a rehearsal whose outcome was found. -/
def Rehearsal.ending? (rehearsal : Rehearsal) : Option Rehearsal.Ending :=
  rehearsal.outcome.map fun outcome =>
    { outcome
      outstanding := rehearsal.primary.tally.outstanding
      failures := rehearsal.primary.tally.failures
      acknowledged := rehearsal.primary.tally.acknowledged
      phases := rehearsal.phases
      callbacks := rehearsal.callbacks
      now := rehearsal.now }

namespace GroupShape

variable (shape : GroupShape) (settings : TransactionSettings)

/-- The peers that fail with their failures, in the order in which they are
heard. -/
def troubles : List (PeerId × Failure) :=
  shape.leavers.map (·, .departed) ++
    shape.refusers.map (·, .refused Rehearsal.rejection)

/-- The phases of the replicas where those that said yes end in the given one. -/
def finalPhases (phase : Phase) : PeerMap Phase :=
  .ofList (shape.refusers.map (·, .aborted) ++ shape.voters.map (·, phase))

/-- What too many failures lead to: those that were heard count, and all other
peers stay outstanding. -/
def spoiledEnding : Rehearsal.Ending :=
  let count := settings.threshold + 1
  let outstanding : PeerSet := .ofList
    ((shape.troubles.drop count).map (·.1) ++ shape.silentPeers ++ shape.voters)
  let failures : PeerMap Failure := .ofList (shape.troubles.take count)
  { outcome := .aborted
      { objectId := Rehearsal.objectId
        cause := .tooManyFailures count settings.threshold
        outstanding
        failures }
    outstanding
    failures
    acknowledged := []
    phases := (shape.finalPhases .aborted).entries
    callbacks := [.abort]
    now := 0 }

/-- What silent peers lead to. -/
def expiredEnding : Rehearsal.Ending :=
  let outstanding : PeerSet := .ofList shape.silentPeers
  let failures : PeerMap Failure := .ofList shape.troubles
  { outcome := .aborted
      { objectId := Rehearsal.objectId
        cause := .timedOut settings.timeout
        outstanding
        failures }
    outstanding
    failures
    acknowledged := shape.voters
    phases := (shape.finalPhases .aborted).entries
    callbacks := [.abort]
    now := Instant.after 0 settings.timeout }

/-- What the votes of all peers lead to if few of them fail. -/
def committedEnding : Rehearsal.Ending where
  outcome := .committed
  outstanding := ∅
  failures := .ofList shape.troubles
  acknowledged := shape.voters
  phases := (shape.finalPhases .committed).entries
  callbacks := [.commit]
  now := 0

/-- How a rehearsal of the group ends. -/
def ending : Rehearsal.Ending :=
  if settings.threshold < shape.failing + shape.departing then
    shape.spoiledEnding settings
  else if shape.silent = 0 then
    shape.committedEnding
  else
    shape.expiredEnding settings

variable {shape settings}

theorem members_cast :
    shape.cast.members =
      shape.refusers.map (·, .failing) ++ shape.leavers.map (·, .departing) ++
        shape.silentPeers.map (·, .silent) ++ shape.voters.map (·, .healthy) := by
  simp [cast, peers_eq, voters]

theorem nodup_hosts (shape : GroupShape) (final : Phase) :
    ((shape.refusers.map (·, Phase.aborted) ++
      shape.voters.map (·, final)).map (·.1)).Nodup := by
  have distinct := shape.cast.distinct
  simp only [members_cast, List.map_append, List.map_map, Function.comp_def,
    List.map_id'] at distinct ⊢
  exact distinct.sublist (((List.sublist_append_left _ _).trans
    (List.sublist_append_left _ _)).append_right _)

theorem get?_finalPhases {peer : PeerId} {phase final : Phase} :
    (shape.finalPhases final).get? peer = some phase ↔
      peer ∈ shape.refusers ∧ phase = .aborted ∨
        peer ∈ shape.voters ∧ phase = final := by
  rw [finalPhases, PeerMap.get?_ofList (nodup_hosts shape final)]
  simp [eq_comm]

theorem length_peersFrom (first count : Nat) :
    (peersFrom first count).length = count := by
  simp [peersFrom]

theorem length_troubles :
    shape.troubles.length = shape.failing + shape.departing := by
  simp [troubles, leavers, refusers, length_peersFrom, Nat.add_comm]

/-- First the failures are heard and then the voters' yes. -/
theorem tidings_cast :
    shape.cast.tidings =
      shape.troubles.map (fun trouble => (trouble.1, some trouble.2)) ++
        shape.voters.map (·, none) := by
  simp [Cast.tidings, members_cast, List.filterMap_map, Function.comp_def,
    Cast.departure?, Cast.ballot?, troubles]

theorem peers_cast :
    shape.cast.peers.Perm
      (shape.troubles.map (·.1) ++ (shape.silentPeers ++ shape.voters)) := by
  have names : shape.cast.peers = shape.refusers ++ (shape.leavers ++
      (shape.silentPeers ++ shape.voters)) := by
    simp [Cast.peers, members_cast, Function.comp_def]
  have troubled : shape.troubles.map (·.1) = shape.leavers ++ shape.refusers := by
    simp [troubles, Function.comp_def]
  rw [names, troubled, List.append_assoc]
  exact List.perm_append_comm_assoc _ _ _

theorem silentPeers_eq_nil : shape.silentPeers = [] ↔ shape.silent = 0 := by
  rw [← List.length_eq_zero_iff, silentPeers, length_peersFrom]

/-- The peers that were not heard. -/
theorem mem_rest {heard rest : List PeerId}
    (perm : shape.cast.peers.Perm (heard ++ rest)) (peer : PeerId) :
    peer ∈ shape.cast.peers ∧ peer ∉ heard ↔ peer ∈ rest := by
  have distinct : (heard ++ rest).Nodup := perm.nodup_iff.1 shape.cast.distinct
  rw [perm.mem_iff, List.mem_append]
  constructor
  · rintro ⟨known, notHeard⟩
    exact known.resolve_left notHeard
  · intro isRest
    exact ⟨.inr isRest, fun isHeard =>
      (List.nodup_append.1 distinct).2.2 peer isHeard peer isRest rfl⟩

end GroupShape

namespace Tally.Heard

variable {shape : GroupShape} {tally : Tally} {troubles : List (PeerId × Failure)}
  {yes rest : List PeerId}

/-- The votes after some failures and then some acknowledgements. -/
theorem votes
    (heard : tally.Heard shape.cast.peers
      (troubles.map (fun trouble => (trouble.1, some trouble.2)) ++
        yes.map (·, none)))
    (perm : shape.cast.peers.Perm (troubles.map (·.1) ++ yes ++ rest)) :
    tally.outstanding = .ofList rest ∧ tally.failures = .ofList troubles ∧
      tally.acknowledged = yes ∧ tally.failures.size = troubles.length := by
  have distinct : (troubles.map (·.1)).Nodup := by
    have all := perm.nodup_iff.1 shape.cast.distinct
    rw [List.append_assoc] at all
    exact all.sublist (List.sublist_append_left _ _)
  refine ⟨PeerSet.ext fun peer => ?_, PeerMap.ext_get? fun peer => ?_, ?_, ?_⟩
  · rw [heard.outstanding, PeerSet.mem_ofList, ← GroupShape.mem_rest perm]
    simp [Function.comp_def]
  · refine Option.ext fun failure => ?_
    rw [heard.failures, PeerMap.get?_ofList distinct]
    simp
  · rw [heard.acknowledged]
    simp [List.filterMap_map, Function.comp_def, Tiding.yes?]
  · rw [heard.size]
    simp [List.countP_map, Function.comp_def, Tiding.isFailure]

/-- The votes when everything was heard. -/
theorem all_votes (heard : tally.Heard shape.cast.peers shape.cast.tidings) :
    tally.outstanding = .ofList shape.silentPeers ∧
      tally.failures = .ofList shape.troubles ∧
      tally.acknowledged = shape.voters ∧
      tally.failures.size = shape.failing + shape.departing := by
  rw [← GroupShape.length_troubles]
  refine votes (GroupShape.tidings_cast ▸ heard) (GroupShape.peers_cast.trans ?_)
  rw [List.append_assoc]
  exact List.perm_append_comm.append_left _

/-- The votes when only the first failures were heard. -/
theorem first_votes {count : Nat}
    (heard : tally.Heard shape.cast.peers ((shape.troubles.take count).map
      fun trouble => (trouble.1, some trouble.2))) :
    tally.outstanding = .ofList ((shape.troubles.drop count).map (·.1) ++
        shape.silentPeers ++ shape.voters) ∧
      tally.failures = .ofList (shape.troubles.take count) ∧
      tally.acknowledged = [] ∧
      tally.failures.size = (shape.troubles.take count).length := by
  have noYes : (shape.troubles.take count).map
        (fun trouble => (trouble.1, some trouble.2)) ++
      ([] : List PeerId).map (·, none) =
        (shape.troubles.take count).map
          (fun trouble => (trouble.1, some trouble.2)) := by
    simp
  refine votes (noYes ▸ heard) (GroupShape.peers_cast.trans ?_)
  have split : shape.troubles.map (·.1) =
      (shape.troubles.take count).map (·.1) ++
        (shape.troubles.drop count).map (·.1) := by
    rw [← List.map_append, List.take_append_drop]
  simp only [split, List.append_nil, List.append_assoc]
  exact .refl _

end Tally.Heard

/-- If failures come first, a failure after others is preceded only by
failures. -/
theorem Tiding.take_of_failure {failures others earlier : List Tiding}
    {last : Tiding} (allFail : ∀ tiding ∈ failures, tiding.isFailure)
    (noneFails : ∀ tiding ∈ others, tiding.isFailure = false)
    (before : earlier ++ [last] <+: failures ++ others)
    (failing : last.isFailure) :
    earlier ++ [last] = failures.take (earlier.countP isFailure + 1) ∧
      earlier.countP isFailure < failures.length := by
  have amongFailures : earlier ++ [last] <+: failures := by
    obtain ⟨later, split⟩ := before
    rcases List.append_eq_append_iff.1 split with
      ⟨rest, isFailures, -⟩ | ⟨rest, isHeard, isOthers⟩
    · exact ⟨rest, isFailures.symm⟩
    · rcases List.eq_nil_or_concat rest with rfl | ⟨front, other, rfl⟩
      · exact ⟨[], by simpa using isHeard⟩
      · rw [List.concat_eq_append, ← List.append_assoc] at isHeard
        have isLast : last = other :=
          List.singleton_inj.1 (List.append_inj_right' isHeard rfl)
        have isOther : other ∈ others := by simp [isOthers]
        simp [isLast, noneFails other isOther] at failing
  have onlyFailures : earlier.countP isFailure = earlier.length := by
    rw [List.countP_eq_length]
    intro tiding isEarlier
    exact allFail tiding
      (amongFailures.subset (List.mem_append_left _ isEarlier))
  have length := amongFailures.length_le
  rw [List.length_append, List.length_singleton] at length
  refine ⟨?_, by omega⟩
  rw [onlyFailures]
  simpa using List.prefix_iff_eq_take.1 amongFailures

/-- What the cast tells up to a failure is the first of the troubles. -/
theorem GroupShape.heard_up_to_failure {shape : GroupShape}
    {earlier : List Tiding} {last : Tiding}
    (before : earlier ++ [last] <+: shape.cast.tidings)
    (failing : last.isFailure) :
    earlier ++ [last] =
        (shape.troubles.take (earlier.countP Tiding.isFailure + 1)).map
          (fun trouble => (trouble.1, some trouble.2)) ∧
      earlier.countP Tiding.isFailure < shape.failing + shape.departing := by
  rw [tidings_cast] at before
  have allFail : ∀ tiding ∈ shape.troubles.map
      (fun trouble => (trouble.1, some trouble.2)), Tiding.isFailure tiding := by
    intro tiding isTrouble
    obtain ⟨trouble, -, rfl⟩ := List.mem_map.1 isTrouble
    rfl
  have noneFails : ∀ tiding ∈ shape.voters.map (·, none),
      Tiding.isFailure tiding = false := by
    intro tiding isYes
    obtain ⟨voter, -, rfl⟩ := List.mem_map.1 isYes
    rfl
  obtain ⟨isHeard, many⟩ :=
    Tiding.take_of_failure allFail noneFails before failing
  rw [List.length_map, length_troubles] at many
  exact ⟨isHeard.trans List.map_take.symm, many⟩

namespace Rehearsal

variable {shape : GroupShape} {settings : TransactionSettings}
  {rehearsal : Rehearsal}

/-- The replicas when everything is routed. -/
theorem replica_iff {received : List Tiding} {payload : List UInt8}
    (course : Course shape.cast payload settings [] [] received rehearsal)
    (finalized : rehearsal.primary.tally.finalized = true) (peer : PeerId)
    (phase : Phase) :
    (∃ replica, rehearsal.replicas.get? peer = some replica ∧
        replica.tally.phase = phase) ↔
      peer ∈ shape.refusers ∧ phase = .aborted ∨
        peer ∈ shape.voters ∧ phase = rehearsal.primary.tally.phase := by
  have failing : (peer, .failing) ∈ shape.cast.members ↔
      peer ∈ shape.refusers := by
    simp [GroupShape.members_cast]
  have healthy : (peer, .healthy) ∈ shape.cast.members ↔
      peer ∈ shape.voters := by
    simp [GroupShape.members_cast]
  have told (isVoter : peer ∈ shape.voters) :
      ∃ replica, rehearsal.replicas.get? peer = some replica ∧
        replica.tally.phase = rehearsal.primary.tally.phase :=
    (course.spread.told finalized peer (healthy.2 isVoter)).resolve_left (by simp)
  constructor
  · rintro ⟨replica, found, rfl⟩
    obtain ⟨behaviour, isMember, -, hosts⟩ :=
      course.hosted.behaviour_of_found found
    cases behaviour with
    | departing | silent => cases hosts
    | failing =>
        obtain ⟨_, ⟨⟩, -, aborted⟩ := hosts
        exact .inl ⟨failing.1 isMember, aborted⟩
    | healthy =>
        obtain ⟨other, isOther, phase⟩ := told (healthy.1 isMember)
        obtain rfl := Option.some.inj (found.symm.trans isOther)
        exact .inr ⟨healthy.1 isMember, phase⟩
  · rintro (⟨isRefuser, rfl⟩ | ⟨isVoter, rfl⟩)
    · obtain ⟨replica, found, -, aborted⟩ := course.hosted.asked peer .failing
        (failing.2 isRefuser) (by simp)
      exact ⟨replica, found, aborted⟩
    · exact told isVoter

theorem phases_of_course {received : List Tiding} {payload : List UInt8}
    (course : Course shape.cast payload settings [] [] received rehearsal)
    (finalized : rehearsal.primary.tally.finalized = true) :
    rehearsal.phases =
      (shape.finalPhases rehearsal.primary.tally.phase).entries := by
  have same : rehearsal.replicas.mapValues (fun replica => replica.tally.phase) =
      shape.finalPhases rehearsal.primary.tally.phase := by
    refine PeerMap.ext_get? fun peer => Option.ext fun phase => ?_
    rw [PeerMap.get?_mapValues, Option.map_eq_some_iff,
      GroupShape.get?_finalPhases]
    exact replica_iff course finalized peer phase
  rw [← same]
  rfl

/-- The outcome of an aborted creation is the report of the abort. -/
theorem outcome_of_aborted {cast : Cast} {payload : List UInt8}
    {received : List Tiding} {now : Instant} {party : Party} {outcome : Outcome}
    {cause : AbortCause}
    (conducts : Conducts cast payload settings received now party)
    (yields : party.tally.Yields outcome)
    (aborted : party.tally.phase = .aborted)
    (isCause : ∃ report, party.tally.abortReport = some report ∧
      report.cause = cause) :
    outcome = .aborted
      { objectId
        cause
        outstanding := party.tally.outstanding
        failures := party.tally.failures } := by
  obtain ⟨report, reported, rfl⟩ := isCause
  obtain ⟨outstanding, failures⟩ := conducts.sound.report report reported
  have about := conducts.about.report report reported
  cases outcome with
  | committed => simp [Tally.Yields, aborted] at yields
  | aborted other =>
      obtain rfl := Option.some.inj (reported.symm.trans yields.2)
      rw [← about, ← outstanding, ← failures]

/-- A rehearsal that is over has ended as its shape and its settings foretell. -/
theorem ends_as_foretold {payload : List UInt8} {outcome : Outcome}
    (course : Course shape.cast payload settings [] [] shape.cast.tidings
      rehearsal)
    (found : rehearsal.outcome = some outcome) :
    rehearsal.ending? = some (shape.ending settings) := by
  obtain ⟨finalized, yields⟩ := course.outcome outcome found
  have phases := phases_of_course course finalized
  have reported := course.spread.reported finalized
  have conducts := course.conducts
  rw [ending?, found, Option.map_some, phases]
  refine congrArg some ?_
  cases conducts.stance with
  | votes voting =>
      cases outcome <;> simp [Tally.Yields, voting] at yields
  | commits committed heard clock =>
      obtain ⟨outstanding, failures, acknowledged, size⟩ := heard.all_votes
      have few := conducts.decisive.bounded (.inr committed)
      have none := conducts.sound.committed committed
      have nobody : shape.silent = 0 := by
        rw [← GroupShape.silentPeers_eq_nil, List.eq_nil_iff_forall_not_mem]
        intro peer isSilent
        have isOutstanding := PeerSet.mem_ofList.2 isSilent
        rw [← outstanding, none] at isOutstanding
        exact PeerMap.not_mem_empty peer isOutstanding
      have isOutcome : outcome = .committed := by
        cases outcome with
        | committed => rfl
        | aborted report => simp [Tally.Yields, committed] at yields
      rw [GroupShape.ending, if_neg (by omega), if_pos nobody]
      simp only [GroupShape.committedEnding, isOutcome, none, failures,
        acknowledged, committed, reported .commit committed, clock]
  | exceeds earlier last aborted before heard failing full cause clock =>
      obtain ⟨isHeard, many⟩ := GroupShape.heard_up_to_failure before failing
      rw [full] at many
      rw [isHeard, full] at heard
      obtain ⟨outstanding, failures, acknowledged, size⟩ := heard.first_votes
      have isOutcome := outcome_of_aborted conducts yields aborted cause
      rw [GroupShape.ending, if_pos many]
      simp only [GroupShape.spoiledEnding, isOutcome, outstanding, failures,
        acknowledged, aborted, reported .abort aborted, clock]
  | expires aborted heard all missing bounded cause clock =>
      obtain ⟨outstanding, failures, acknowledged, size⟩ := heard.all_votes
      have somebody : shape.silent ≠ 0 := by
        intro nobody
        rw [outstanding, GroupShape.silentPeers_eq_nil.2 nobody] at missing
        exact missing rfl
      have isOutcome := outcome_of_aborted conducts yields aborted cause
      rw [heard.size] at size
      rw [GroupShape.ending, if_neg (by omega), if_neg somebody]
      simp only [GroupShape.expiredEnding, isOutcome, outstanding, failures,
        acknowledged, aborted, reported .abort aborted, clock]

end Rehearsal

/-- The waiter is about to wait at the rehearsal of a group. -/
def Interplay.opening (shape : GroupShape) (settings : TransactionSettings) :
    Interplay :=
  .ofRehearsal ((Rehearsal.start shape settings).activate shape.latePeers)

namespace GroupShape

variable {shape : GroupShape} {settings : TransactionSettings}

/-- The number of late peers that are asked. -/
def admittedLate (shape : GroupShape) : Nat :=
  if shape.replicas = 0 then 0 else shape.lateJoiners

theorem length_voters :
    shape.voters.length = shape.healthy + shape.admittedLate := by
  rw [voters, List.length_append, healthyPeers, length_peersFrom,
    admittedLatePeers, admittedLate]
  split <;> simp [latePeers]

theorem misbehaving_le (fits : shape.validate = .ok ()) :
    shape.misbehaving ≤ shape.replicas := by
  unfold validate at fits
  split at fits
  · cases fits
  · omega

theorem length_members (fits : shape.misbehaving ≤ shape.replicas) :
    shape.cast.members.length = shape.replicas + shape.admittedLate := by
  simp only [members_cast, List.length_append, List.length_map, length_voters,
    refusers, leavers, silentPeers, length_peersFrom]
  simp only [healthy, misbehaving] at fits ⊢
  omega

/-- How many replicas end in a phase. -/
theorem count_finalPhases (final phase : Phase) :
    ((shape.finalPhases final).entries.map (·.2)).count phase =
      (if phase = .aborted then shape.failing else 0) +
        if phase = final then shape.healthy + shape.admittedLate else 0 := by
  have perm := (PeerMap.perm_ofList (nodup_hosts shape final)).map (·.2)
  rw [finalPhases, perm.count_eq, List.map_append, List.count_append]
  simp only [List.map_map, Function.comp_def, List.map_const', List.count_replicate,
    length_voters, refusers, length_peersFrom, beq_iff_eq]
  simp only [eq_comm]

theorem size_failures (count : Nat) :
    (PeerMap.ofList (shape.troubles.take count)).size =
      min count (shape.failing + shape.departing) := by
  have distinct : ((shape.troubles.take count).map (·.1)).Nodup := by
    have all := (peers_cast.nodup_iff.1 shape.cast.distinct).sublist
      (List.sublist_append_left _ _)
    exact all.sublist ((List.take_sublist _ _).map _)
  rw [PeerMap.size_ofList distinct, List.length_take, length_troubles]

end GroupShape

/-- What the shape and the settings say about the end of a rehearsal. -/
structure Rehearsal.EndsAs (shape : GroupShape) (settings : TransactionSettings)
    (rehearsal : Rehearsal) : Prop where
  ending : rehearsal.ending? = some (shape.ending settings)
  committed : rehearsal.outcome = some .committed ↔
    shape.silent = 0 ∧ shape.failing + shape.departing ≤ settings.threshold
  failed : rehearsal.primary.tally.failures.size =
    min (shape.failing + shape.departing) (settings.threshold + 1)
  inCommitted : rehearsal.countIn .committed =
    if rehearsal.outcome = some .committed then
      shape.healthy + shape.admittedLate
    else 0
  inAborted : rehearsal.countIn .aborted =
    if rehearsal.outcome = some .committed then shape.failing
    else shape.failing + shape.healthy + shape.admittedLate

namespace Rehearsal

variable {shape : GroupShape} {settings : TransactionSettings}
  {rehearsal : Rehearsal}

theorem countIn_of_phases {final : Phase} (phase : Phase)
    (phases : rehearsal.phases = (shape.finalPhases final).entries) :
    rehearsal.countIn phase =
      (if phase = .aborted then shape.failing else 0) +
        if phase = final then shape.healthy + shape.admittedLate else 0 := by
  rw [countIn, phases, GroupShape.count_finalPhases]

/-- The numbers follow from the outcome, from how many of the troubles count and
from the phase in which the replicas of the voters end. -/
theorem EndsAs.of_final {outcome : Outcome} {count : Nat}
    (ends : rehearsal.ending? = some (shape.ending settings))
    (found : rehearsal.outcome = some outcome)
    (committed : outcome = .committed ↔
      shape.silent = 0 ∧ shape.failing + shape.departing ≤ settings.threshold)
    (failures : rehearsal.primary.tally.failures =
      .ofList (shape.troubles.take count))
    (counted : min count (shape.failing + shape.departing) =
      min (shape.failing + shape.departing) (settings.threshold + 1))
    (phases : rehearsal.phases = (shape.finalPhases
      (if outcome = .committed then .committed else .aborted)).entries) :
    rehearsal.EndsAs shape settings := by
  refine ⟨ends, ?_, ?_, ?_, ?_⟩
  · rw [found, Option.some.injEq]
    exact committed
  · rw [failures, GroupShape.size_failures, counted]
  · rw [countIn_of_phases .committed phases, found]
    by_cases isCommitted : outcome = .committed <;> simp [isCommitted]
  · rw [countIn_of_phases .aborted phases, found]
    by_cases isCommitted : outcome = .committed <;>
      simp [isCommitted, Nat.add_assoc]

theorem EndsAs.of_ending
    (ends : rehearsal.ending? = some (shape.ending settings)) :
    rehearsal.EndsAs shape settings := by
  obtain ⟨outcome, found, same⟩ := Option.map_eq_some_iff.1 ends
  have all : PeerMap.ofList shape.troubles =
      .ofList (shape.troubles.take (shape.failing + shape.departing)) := by
    rw [List.take_of_length_le (Nat.le_of_eq GroupShape.length_troubles)]
  unfold GroupShape.ending at same
  split at same
  · rename_i many
    obtain ⟨rfl, -, failures, -, phases, -⟩ := Ending.mk.inj same
    refine .of_final ends found ?_ failures (by omega) phases
    simp only [reduceCtorEq, false_iff]
    omega
  rename_i few
  split at same
  · rename_i nobody
    obtain ⟨rfl, -, failures, -, phases, -⟩ := Ending.mk.inj same
    refine .of_final ends found ?_ (failures.trans all) (by omega) phases
    simp only [true_iff]
    omega
  · rename_i somebody
    obtain ⟨rfl, -, failures, -, phases, -⟩ := Ending.mk.inj same
    refine .of_final ends found ?_ (failures.trans all) (by omega) phases
    simp only [reduceCtorEq, false_iff]
    omega

theorem within_opening (settings : TransactionSettings)
    (fits : shape.misbehaving ≤ shape.replicas) :
    Within shape.cast shape.payload settings
      (6 * (shape.replicas + shape.lateJoiners) + 3) (.opening shape settings) := by
  refine ⟨shape.cast.members, [], [], ⟨course_begins shape settings fits, ?_⟩, ?_⟩
  · intro _ seen deadline sleeps
    cases sleeps
  · have late : shape.admittedLate ≤ shape.lateJoiners := by
      unfold GroupShape.admittedLate
      split <;> omega
    have alert := alertness_le (.opening shape settings)
    have few : budget shape.cast shape.cast.members []
        (Interplay.opening shape settings).rehearsal.primary.tally ≤
          3 * (shape.replicas + shape.admittedLate) := by
      rw [budget, GroupShape.length_members fits, List.length_nil]
      split <;> omega
    rw [patience]
    omega

theorem Within.endsAs {payload : List UInt8} {left : Nat}
    {interplay : Interplay}
    (within : Within shape.cast payload settings left interplay)
    (ended : interplay.isOver) : interplay.rehearsal.EndsAs shape settings := by
  obtain ⟨waiting, mail, received, stage, -⟩ := within
  have found := ended
  simp only [Interplay.isOver, Bool.and_eq_true] at found
  obtain ⟨outcome, isOutcome⟩ := Option.isSome_iff_exists.1 found.1
  exact .of_ending (ends_as_foretold (stage.of_isOver ended) isOutcome)

theorem positive_of_validate (valid : settings.validate = .ok ()) :
    0 < Instant.after 0 settings.timeout := by
  unfold TransactionSettings.validate at valid
  split at valid
  · cases valid
  · rename_i notZero
    have millis : 0 < settings.timeoutMs.toNat := by
      refine Nat.pos_of_ne_zero fun zero => notZero ?_
      exact UInt64.toNat_inj.1 zero
    have nanos : Instant.after 0 settings.timeout =
        settings.timeoutMs.toNat * 1000000 := Nat.zero_add _
    rw [nanos]
    exact Nat.mul_pos millis (by decide)

/-- Whatever the schedule, a rehearsal of a valid shape under valid settings
comes to its end after a bounded number of turns, nobody is stuck before, and
it ends as the shape and the settings foretell; and so does the rehearsal that
is played. -/
theorem every_schedule_ends_as_foretold (shape : GroupShape)
    (settings : TransactionSettings) (fits : shape.validate = .ok ())
    (valid : settings.validate = .ok ()) :
    (∃ rehearsal, run shape settings = .ok rehearsal ∧
        rehearsal.EndsAs shape settings) ∧
      ∀ turns interplay,
        (Interplay.opening shape settings).run? turns = some interplay →
          turns.length ≤ 6 * (shape.replicas + shape.lateJoiners) + 3 ∧
          (interplay.isOver = false →
            ∃ turn next, interplay.turn? turn = some next) ∧
          (interplay.isOver → interplay.rehearsal.EndsAs shape settings) := by
  have positive := positive_of_validate valid
  have within := within_opening settings (GroupShape.misbehaving_le fits)
  constructor
  · have enough : 6 * (shape.replicas + shape.lateJoiners) + 3 ≤
        2 * envelopeBound shape + 1 := by
      unfold envelopeBound
      omega
    obtain ⟨final, leads, ended, isPlay⟩ := play_ends within positive enough
    refine ⟨play shape settings, ?_, ?_⟩
    · simp only [run, fits, valid]
      rfl
    · have ends := (within.leads positive leads).endsAs ended
      rw [isPlay] at ends
      exact ends
  · intro turns interplay taken
    obtain ⟨waiting, mail, received, stage, bound⟩ := within
    obtain ⟨nextWaiting, nextMail, heard, nextStage, length⟩ :=
      stage.run positive taken
    refine ⟨by omega, nextStage.exists_turn, fun ended => ?_⟩
    exact Within.endsAs ⟨_, _, _, nextStage, Nat.le_refl _⟩ ended

theorem schedules_of_mixed_group :
    let shape : GroupShape := ⟨3, 1, 1, 0, 1, []⟩
    let settings : TransactionSettings := ⟨1000, 1, 1000⟩
    shape.validate = .ok () ∧ settings.validate = .ok () ∧
      (∃ rehearsal, run shape settings = .ok rehearsal ∧
        rehearsal.EndsAs shape settings) ∧
      ∀ turns interplay,
        (Interplay.opening shape settings).run? turns = some interplay →
          turns.length ≤ 27 ∧
          (interplay.isOver = false →
            ∃ turn next, interplay.turn? turn = some next) ∧
          (interplay.isOver → interplay.rehearsal.EndsAs shape settings) :=
  ⟨rfl, rfl, every_schedule_ends_as_foretold ⟨3, 1, 1, 0, 1, []⟩ ⟨1000, 1, 1000⟩
    rfl rfl⟩

end Rehearsal

end CreationCommit
