import CreationCommit.Proofs.RehearsalCast
import Mathlib.Data.List.Perm.Subperm

/-!
# Scenes of a rehearsal

In a scene some members are still to be asked, and their requests come first in
the channel; behind them lie votes and notices.  A replica follows its
behaviour until it is told the decision, which happens to every healthy one,
because its notice comes behind its request.
-/

namespace CreationCommit

namespace Cast

variable {cast : Cast} {heard : List Tiding} {tally : Tally} {peer : PeerId}

/-- A healthy member is only heard to say yes. -/
theorem healthy_tiding (healthy : (peer, .healthy) ∈ cast.members)
    {failure : Option Failure} (isTiding : (peer, failure) ∈ cast.tidings) :
    failure = none := by
  rw [tidings, List.mem_append, List.mem_filterMap, List.mem_filterMap]
    at isTiding
  rcases isTiding with ⟨member, isMember, departs⟩ | ⟨member, isMember, votes⟩
  · rw [of_departure? departs] at isMember
    have clash := behaviour_unique healthy isMember
    cases clash
  · rcases of_ballot? votes with ⟨rfl, -⟩ | ⟨rfl, yes⟩
    · have clash := behaviour_unique healthy isMember
      cases clash
    · exact yes

/-- A healthy member acknowledged or is still to vote. -/
theorem healthy_takes_part (healthy : (peer, .healthy) ∈ cast.members)
    (isHeard : tally.Heard cast.peers heard) (within : heard ⊆ cast.tidings) :
    peer ∈ tally.acknowledged ∨ peer ∈ tally.outstanding := by
  by_cases silent : peer ∈ heard.map Prod.fst
  · obtain ⟨⟨voter, failure⟩, isTiding, rfl⟩ := List.mem_map.1 silent
    obtain rfl := healthy_tiding healthy (within isTiding)
    exact .inl (isHeard.mem_acknowledged.2 isTiding)
  · exact .inr ((isHeard.outstanding peer).2 ⟨mem_peers healthy, silent⟩)

/-- What counts was heard of members. -/
theorem Stance.exists_heard {settings : TransactionSettings} {received : List Tiding}
    {now : Instant} (stance : cast.Stance settings received now tally)
    (within : received ⊆ cast.tidings) :
    ∃ heard, tally.Heard cast.peers heard ∧ heard ⊆ cast.tidings := by
  cases stance with
  | votes _ heard | commits _ heard | expires _ heard =>
      exact ⟨received, heard, within⟩
  | exceeds earlier last _ before heard =>
      exact ⟨earlier ++ [last], heard, List.Subset.trans before.subset within⟩

/-- Only members are told a decision. -/
theorem Stance.audience_subset {settings : TransactionSettings}
    {received : List Tiding} {now : Instant}
    (stance : cast.Stance settings received now tally)
    (within : received ⊆ cast.tidings) (decision : Decision) :
    tally.audience decision ⊆ cast.peers := by
  obtain ⟨heard, isHeard, known⟩ := stance.exists_heard within
  have acknowledged (peer : PeerId) (isYes : peer ∈ tally.acknowledged) :
      peer ∈ cast.peers :=
    mem_peers_of_tiding (known (isHeard.mem_acknowledged.1 isYes))
  intro peer isTold
  cases decision with
  | commit => exact acknowledged peer isTold
  | abort =>
      rcases Tally.mem_abortAudience.1 isTold with isYes | outstanding
      · exact acknowledged peer isYes
      · exact ((isHeard.outstanding peer).1 outstanding).1

/-- A decision reaches every healthy member. -/
theorem Stance.reaches {settings : TransactionSettings}
    {received : List Tiding} {now : Instant}
    (stance : cast.Stance settings received now tally) (sound : tally.Sound)
    (within : received ⊆ cast.tidings) {decision : Decision}
    (decided : tally.phase = decision.phase)
    (healthy : (peer, .healthy) ∈ cast.members) :
    peer ∈ tally.audience decision := by
  obtain ⟨heard, isHeard, known⟩ := stance.exists_heard within
  have takesPart := healthy_takes_part healthy isHeard known
  cases decision with
  | commit =>
      have noneOutstanding := sound.committed decided
      simpa [noneOutstanding, Tally.audience] using takesPart
  | abort => exact Tally.mem_abortAudience.2 takesPart

end Cast

namespace Rehearsal

/-- What is found at a member that was asked. -/
def Hosts (tally : Tally) (peer : PeerId) (found : Option Party) :
    Behaviour → Prop
  | .departing | .silent => found = none
  | .failing => ∃ replica, found = some replica ∧ IsReplica peer replica ∧
      replica.tally.phase = .aborted
  | .healthy => ∃ replica, found = some replica ∧ IsReplica peer replica ∧
      (replica.tally.phase = .prepared ∨
        tally.finalized = true ∧ replica.tally.phase = tally.phase)

/-- The replicas that are there while some members wait to be asked. -/
structure Hosted (cast : Cast) (waiting : List (PeerId × Behaviour))
    (replicas : PeerMap Party) (tally : Tally) : Prop where
  asked : ∀ peer behaviour, (peer, behaviour) ∈ cast.members →
    (peer, behaviour) ∉ waiting →
      Hosts tally peer (replicas.get? peer) behaviour
  unasked : ∀ peer, (∀ behaviour, (peer, behaviour) ∈ cast.members →
      (peer, behaviour) ∈ waiting) →
    replicas.get? peer = none

/-- A decision that was finalized stays finalized. -/
def Keeps (before after : Tally) : Prop :=
  before.finalized = true →
    after.finalized = true ∧ after.phase = before.phase

section Hosting

variable {cast : Cast} {waiting rest : List (PeerId × Behaviour)}
  {replicas others : PeerMap Party} {tally after : Tally} {peer : PeerId}
  {behaviour : Behaviour} {found : Option Party}

theorem Hosts.look (hosts : Hosts tally peer found behaviour)
    (kept : Keeps tally after) : Hosts after peer found behaviour := by
  cases behaviour with
  | departing | silent | failing => exact hosts
  | healthy =>
      obtain ⟨replica, isFound, isReplica, phase⟩ := hosts
      refine ⟨replica, isFound, isReplica, phase.imp_right ?_⟩
      rintro ⟨finalized, same⟩
      obtain ⟨stillFinalized, samePhase⟩ := kept finalized
      exact ⟨stillFinalized, same.trans samePhase.symm⟩

/-- The replicas stay what they are while the primary looks. -/
theorem Hosted.look (hosted : Hosted cast waiting replicas tally)
    (kept : Keeps tally after) : Hosted cast waiting replicas after where
  asked := fun peer behaviour isMember notWaiting =>
    (hosted.asked peer behaviour isMember notWaiting).look kept
  unasked := hosted.unasked

/-- A member is asked. -/
theorem Hosted.ask
    (hosted : Hosted cast ((peer, behaviour) :: rest) replicas tally)
    (answered : (peer, behaviour) :: rest <:+ cast.members)
    (hosts : Hosts tally peer (others.get? peer) behaviour)
    (elsewhere : ∀ other, other ≠ peer →
      others.get? other = replicas.get? other) :
    Hosted cast rest others tally where
  asked := by
    intro other kind isMember notWaiting
    by_cases same : other = peer
    · subst same
      obtain rfl := Cast.behaviour_unique isMember
        (answered.subset List.mem_cons_self)
      exact hosts
    · rw [elsewhere other same]
      refine hosted.asked other kind isMember fun isWaiting => ?_
      rcases List.mem_cons.1 isWaiting with isHead | later
      · exact same (Prod.mk.inj isHead).1
      · exact notWaiting later
  unasked := by
    intro other allWait
    have differs : other ≠ peer := by
      rintro rfl
      have isMember := answered.subset List.mem_cons_self
      have distinct := cast.distinct.sublist (answered.sublist.map Prod.fst)
      rw [List.map_cons, List.nodup_cons] at distinct
      exact distinct.1 (List.mem_map_of_mem (allWait behaviour isMember))
    rw [elsewhere other differs]
    exact hosted.unasked other fun kind isMember =>
      List.mem_cons_of_mem _ (allWait kind isMember)

/-- A replica that is told the finalized decision obeys it, unless it is
decided. -/
theorem Hosts.told {decision : Decision} {replica told : Party}
    (hosts : Hosts tally peer (some replica) behaviour)
    (finalized : tally.finalized = true) (phase : tally.phase = decision.phase)
    (isReplica : IsReplica peer told)
    (obeys : replica.tally.phase = .prepared → told.tally.phase = decision.phase)
    (stays : replica.tally.isDecided →
      told.tally.phase = replica.tally.phase) :
    Hosts tally peer (some told) behaviour ∧
      (behaviour = .healthy → told.tally.phase = tally.phase) := by
  cases behaviour with
  | departing | silent => cases hosts
  | failing =>
      obtain ⟨_, ⟨⟩, -, aborted⟩ := hosts
      have stillAborted := stays (Tally.isDecided_iff.2 (.inr aborted))
      exact ⟨⟨told, rfl, isReplica, stillAborted.trans aborted⟩, by simp⟩
  | healthy =>
      have obeyed : told.tally.phase = tally.phase := by
        obtain ⟨_, ⟨⟩, -, prepared | ⟨-, already⟩⟩ := hosts
        · exact (obeys prepared).trans phase.symm
        · have decided : replica.tally.isDecided := by
            rw [Tally.isDecided_iff, already, phase]
            cases decision <;> simp [Decision.phase]
          exact (stays decided).trans already
      exact ⟨⟨told, rfl, isReplica, .inr ⟨finalized, obeyed⟩⟩, fun _ => obeyed⟩

/-- Whoever is found was asked. -/
theorem Hosted.behaviour_of_found {replica : Party}
    (hosted : Hosted cast [] replicas tally)
    (found : replicas.get? peer = some replica) :
    ∃ behaviour, (peer, behaviour) ∈ cast.members ∧ IsReplica peer replica ∧
      Hosts tally peer (some replica) behaviour := by
  have isMember : ∃ behaviour, (peer, behaviour) ∈ cast.members := by
    by_contra noMember
    have nobody := hosted.unasked peer fun behaviour isMember =>
      absurd ⟨behaviour, isMember⟩ noMember
    simp [found] at nobody
  obtain ⟨behaviour, isMember⟩ := isMember
  have hosts := hosted.asked peer behaviour isMember (by simp)
  rw [found] at hosts
  refine ⟨behaviour, isMember, ?_, hosts⟩
  cases behaviour with
  | departing | silent => cases hosts
  | failing | healthy =>
      obtain ⟨_, ⟨⟩, isReplica, -⟩ := hosts
      exact isReplica

/-- Only the replica of one peer changes. -/
theorem Hosted.insert {told : Party}
    (hosted : Hosted cast [] replicas tally)
    (isMember : (peer, behaviour) ∈ cast.members)
    (hosts : Hosts tally peer (some told) behaviour) :
    Hosted cast [] (replicas.insert peer told) tally where
  asked := by
    intro other kind isOther notWaiting
    rw [PeerMap.get?_insert]
    split
    · rename_i same
      subst same
      obtain rfl := Cast.behaviour_unique isOther isMember
      exact hosts
    · exact hosted.asked other kind isOther notWaiting
  unasked := by
    intro other allWait
    have differs : other ≠ peer := by
      rintro rfl
      simpa using allWait behaviour isMember
    rw [PeerMap.get?_insert, if_neg differs]
    exact hosted.unasked other allWait

end Hosting

/-- A peer was told the decision, or it will be. -/
def Told (mail : List Post) (replicas : PeerMap Party) (tally : Tally)
    (peer : PeerId) : Prop :=
  (∃ decision, .notice decision peer ∈ mail) ∨
    ∃ replica, replicas.get? peer = some replica ∧
      replica.tally.phase = tally.phase

/-- Once the decision is finalized it is reported to the local object, every
healthy member is told, and nobody hears of another decision. -/
structure Spread (cast : Cast) (mail : List Post) (replicas : PeerMap Party)
    (callbacks : List Decision) (tally : Tally) : Prop where
  noticed : ∀ decision peer, .notice decision peer ∈ mail →
    tally.finalized = true ∧ tally.phase = decision.phase
  told : tally.finalized = true → ∀ peer, (peer, .healthy) ∈ cast.members →
    Told mail replicas tally peer
  silent : tally.finalized = false → callbacks = []
  reported : tally.finalized = true → ∀ decision,
    tally.phase = decision.phase → callbacks = [decision]

namespace Spread

variable {cast : Cast} {mail others : List Post}
  {replicas hosts : PeerMap Party} {callbacks : List Decision}
  {tally after : Tally}

/-- Mail is delivered or added, and replicas change, so that nobody who was to
be told is forgotten. -/
theorem change (spread : Spread cast mail replicas callbacks tally)
    (noNews : ∀ decision peer, .notice decision peer ∈ others →
      .notice decision peer ∈ mail)
    (reaches : tally.finalized = true → ∀ peer,
      (peer, .healthy) ∈ cast.members → Told mail replicas tally peer →
        Told others hosts tally peer) :
    Spread cast others hosts callbacks tally where
  noticed := fun decision peer isNotice =>
    spread.noticed decision peer (noNews decision peer isNotice)
  told := fun finalized peer healthy =>
    reaches finalized peer healthy (spread.told finalized peer healthy)
  silent := spread.silent
  reported := spread.reported

theorem posts_of_broadcast (decision : Decision) (peers : List PeerId) :
    ((Party.broadcast decision peers).map Duty.closing).filterMap Duty.post? =
        peers.map (.notice decision) ∧
      ((Party.broadcast decision peers).map Duty.closing).filterMap
        Duty.report? = [decision] := by
  simp [Party.broadcast, List.filterMap_map, Function.comp_def, Duty.post?,
    Duty.report?]

/-- The primary looks. -/
theorem look {duties : List Duty}
    (spread : Spread cast mail replicas callbacks tally)
    (kept : Keeps tally after)
    (settles : Party.Settles tally after duties)
    (reaches : ∀ decision, after.phase = decision.phase → ∀ peer,
      (peer, .healthy) ∈ cast.members → peer ∈ after.audience decision) :
    Spread cast (mail ++ duties.filterMap Duty.post?) replicas
      (callbacks ++ duties.filterMap Duty.report?) after := by
  cases settles with
  | silently nothing sameFinalized =>
      have before (finalized : after.finalized = true) :
          tally.finalized = true ∧ after.phase = tally.phase := by
        rw [sameFinalized] at finalized
        exact ⟨finalized, (kept finalized).2⟩
      simp only [nothing, List.filterMap_nil, List.append_nil]
      refine ⟨fun decision peer isNotice => ?_, fun finalized peer healthy => ?_,
        fun notFinalized => ?_, fun finalized decision phase => ?_⟩
      · obtain ⟨finalized, phase⟩ := spread.noticed decision peer isNotice
        exact ⟨(kept finalized).1, (kept finalized).2.trans phase⟩
      · obtain ⟨already, samePhase⟩ := before finalized
        rw [Told, samePhase]
        exact spread.told already peer healthy
      · exact spread.silent (sameFinalized ▸ notFinalized)
      · obtain ⟨already, samePhase⟩ := before finalized
        exact spread.reported already decision (samePhase ▸ phase)
  | telling decision fresh finalized phase tells =>
      have noNotice (told : Decision) (peer : PeerId) :
          .notice told peer ∉ mail := by
        intro isNotice
        have already := (spread.noticed told peer isNotice).1
        simp [fresh] at already
      obtain ⟨posts, reports⟩ :=
        posts_of_broadcast decision (after.audience decision)
      rw [tells, posts, reports, spread.silent fresh, List.nil_append]
      refine ⟨fun told peer isNotice => ?_, fun _ peer healthy => ?_,
        fun notFinalized => ?_, fun _ other otherPhase => ?_⟩
      · rcases List.mem_append.1 isNotice with earlier | isNew
        · exact absurd earlier (noNotice told peer)
        · obtain ⟨other, -, same⟩ := List.mem_map.1 isNew
          obtain ⟨rfl, rfl⟩ : decision = told ∧ other = peer := by simpa using same
          exact ⟨finalized, phase⟩
      · exact .inl ⟨decision, List.mem_append_right _
          (List.mem_map_of_mem (reaches decision phase peer healthy))⟩
      · simp [finalized] at notFinalized
      · rw [Decision.phase_injective (phase.symm.trans otherPhase)]

end Spread

/-- What holds of the primary after some of the tidings. -/
structure Conducts (cast : Cast) (payload : List UInt8)
    (settings : TransactionSettings) (received : List Tiding) (now : Instant)
    (party : Party) : Prop where
  setup : party.setup = primarySetup payload settings
  about : party.tally.About objectId
  sound : party.tally.Sound
  tidy : party.tally.Tidy
  decisive : party.tally.Decisive settings.threshold
  stance : cast.Stance settings received now party.tally
  deadline : now = 0 ∧ party.tally.deadline = none ∨
    party.tally.deadline = some (Instant.after 0 settings.timeout)

theorem keeps_look {party : Party} (tidy : party.tally.Tidy)
    (trigger : Trigger) :
    Keeps party.tally (party.look trigger).1.tally := by
  intro finalized
  have advances := Party.advancesOn_look party trigger
  exact ⟨advances.finalized finalized,
    (advances.sameRecord (tidy.decided finalized)).phase⟩

theorem deadline_abort (tally : Tally) (cause : AbortCause) :
    (tally.abort cause).deadline = tally.deadline := by
  unfold Tally.abort
  split <;> rfl

theorem deadline_resolve (tally : Tally) (threshold : Nat) :
    (tally.resolve threshold).1.deadline = tally.deadline := by
  unfold Tally.resolve
  split
  · split
    · exact deadline_abort _ _
    · split <;> rfl
  · rfl

theorem deadline_finalizeOnce (tally : Tally) :
    tally.finalizeOnce.1.deadline = tally.deadline := by
  unfold Tally.finalizeOnce
  split <;> rfl

theorem deadline_settle (party : Party) :
    party.settle.1.tally.deadline = party.tally.deadline := by
  unfold Party.settle
  split
  · exact deadline_finalizeOnce _
  · rfl

/-- Hearing a tiding fixes no deadline, and whoever waits is told. -/
structure Passes (before after : Party) : Prop where
  deadline : after.tally.deadline = before.tally.deadline
  announced : after.announcements = before.announcements + 1

theorem passes_conclude (party : Party) : Passes party party.conclude.1 where
  deadline := deadline_settle party
  announced := by
    have quiet : party.settle.1.announcements = party.announcements := by
      unfold Party.settle
      split <;> rfl
    exact congrArg (· + 1) quiet

/-- Whoever waits on the primary fixes the deadline. -/
theorem deadline_examine {party : Party} (role : party.setup.role = .primary)
    (now : Instant) :
    (party.examine now).1.tally.deadline =
      some (party.tally.deadline.getD
        (now.after party.setup.settings.timeout)) := by
  have checked : (party.checkDeadline now).1.tally.deadline =
      some (party.tally.deadline.getD
        (now.after party.setup.settings.timeout)) := by
    have primary : party.isPrimary = true := Party.isPrimary_iff.2 role
    have resolved : party.resolve.tally.deadline = party.tally.deadline :=
      deadline_resolve _ _
    have sameSetup : party.resolve.setup = party.setup := rfl
    simp only [Party.checkDeadline, primary, if_true, Tally.fixDeadline,
      resolved, sameSetup]
    split
    · split <;> exact deadline_abort _ _
    · rfl
  unfold Party.examine
  dsimp only
  split
  · exact (deadline_finalizeOnce _).trans checked
  · exact (deadline_settle _).trans checked
  · exact checked

theorem deadline_hear (tally : Tally) (tiding : Tiding) :
    (tally.hear tiding).deadline = tally.deadline := by
  obtain ⟨peer, failure⟩ := tiding
  cases failure with
  | none => simp only [Tally.hear, Tally.noteYes]; split <;> rfl
  | some failure => simp only [Tally.hear, Tally.noteFailure]; split <;> rfl

namespace Conducts

variable {cast : Cast} {payload : List UInt8}
  {settings : TransactionSettings} {received rest : List Tiding}
  {now : Instant} {party : Party} {tiding : Tiding} {trigger : Trigger}

theorem role (conducts : Conducts cast payload settings received now party) :
    party.setup.role = .primary := by
  rw [conducts.setup]
  rfl

theorem settings_eq
    (conducts : Conducts cast payload settings received now party) :
    party.setup.settings = settings := by
  rw [conducts.setup]
  rfl

theorem decisive_party
    (conducts : Conducts cast payload settings received now party) :
    party.tally.Decisive party.setup.settings.threshold :=
  conducts.settings_eq ▸ conducts.decisive

theorem fixed (conducts : Conducts cast payload settings received now party) :
    party.tally.deadline.getD (now.after party.setup.settings.timeout) =
      Instant.after 0 settings.timeout := by
  rw [conducts.settings_eq]
  rcases conducts.deadline with ⟨rfl, none⟩ | some
  · rw [none, Option.getD_none]
  · rw [some, Option.getD_some]

/-- What any look of the primary keeps. -/
theorem look (conducts : Conducts cast payload settings received now party)
    {other : Cast} {heard : List Tiding}
    (stance : other.Stance settings heard now (party.look trigger).1.tally)
    (deadline : now = 0 ∧ (party.look trigger).1.tally.deadline = none ∨
      (party.look trigger).1.tally.deadline =
        some (Instant.after 0 settings.timeout)) :
    Conducts other payload settings heard now (party.look trigger).1 where
  setup := (Party.advancesOn_look party trigger).setup.trans conducts.setup
  about := Party.about_look conducts.about trigger
  sound := (Party.advancesOn_look party trigger).sound conducts.sound
  tidy := Party.tidy_look conducts.role conducts.sound conducts.tidy trigger
  decisive := conducts.settings_eq ▸ Party.decisive_look conducts.decisive_party
    conducts.role conducts.sound trigger
  stance := stance
  deadline := deadline

/-- The primary hears the next tiding. -/
theorem hear (conducts : Conducts cast payload settings received now party)
    (upcoming : received ++ tiding :: rest = cast.tidings)
    (brings : trigger.Brings party.setup tiding) :
    Conducts cast payload settings (received ++ [tiding]) now
        (party.look trigger).1 ∧
      Party.Settles party.tally (party.look trigger).1.tally
        (party.look trigger).2 ∧
      Passes party (party.look trigger).1 := by
  have outstanding := conducts.stance.outstanding upcoming
  have notCommitted : party.tally.phase ≠ .committed := by
    intro committed
    simp [conducts.sound.committed committed] at outstanding
  have stance := conducts.stance.hear conducts.role conducts.settings_eq
    conducts.sound conducts.tidy conducts.decisive upcoming brings
  have settles := Party.settles_of_brings conducts.role conducts.sound
    conducts.tidy brings notCommitted fun _ _ =>
      Tally.mem_abortAudience.2 (.inr outstanding)
  have passes : Passes party (party.look trigger).1 := by
    rcases conducts.stance.phase with voting | committed | aborted
    · rw [Party.look_of_voting conducts.role conducts.sound voting outstanding
        brings]
      have concluded := passes_conclude
        { party with
          tally := ((party.tally.hear tiding).resolve
            party.setup.settings.threshold).1 }
      refine ⟨?_, concluded.announced⟩
      rw [concluded.deadline, deadline_resolve, deadline_hear]
    · exact absurd committed notCommitted
    · rw [Party.look_of_aborted conducts.role conducts.tidy aborted brings]
      exact ⟨rfl, rfl⟩
  refine ⟨conducts.look stance ?_, settles, passes⟩
  rw [passes.deadline]
  exact conducts.deadline

/-- The waiter looks: it finds the outcome, or that votes are awaited until the
deadline. -/
theorem wait (conducts : Conducts cast payload settings received now party)
    (positive : 0 < Instant.after 0 settings.timeout) :
    Conducts cast payload settings received now (party.look (.clock now)).1 ∧
      (now = 0 ∧ party.tally.phase = .voting ∧
          (party.examine now).2 =
            .pending (some (Instant.after 0 settings.timeout)) ∧
          (party.look (.clock now)).1.tally.phase = .voting ∧
          (party.look (.clock now)).1.tally.deadline =
            some (Instant.after 0 settings.timeout) ∧
          (party.look (.clock now)).1.announcements = party.announcements ∨
        ∃ outcome, (party.examine now).2.outcome? = some outcome ∧
          (party.look (.clock now)).1.tally.finalized = true ∧
          (party.look (.clock now)).1.tally.Yields outcome) := by
  obtain ⟨stance, found⟩ := conducts.stance.examine conducts.role
    conducts.settings_eq conducts.sound conducts.decisive rfl positive
    conducts.deadline
  rw [← Party.look_clock_fst] at stance
  refine ⟨conducts.look stance (.inr ?_), ?_⟩
  · rw [Party.look_clock_fst, deadline_examine conducts.role, conducts.fixed]
  · rcases found with ⟨early, voting, waits⟩ | ⟨outcome, finds⟩
    · refine .inl ⟨early, voting, ?_, ?_, ?_, ?_⟩ <;>
        simp [Party.look_clock_fst, waits, voting]
    · have final := Party.finalizedAs_of_outcome? finds
      exact .inr ⟨outcome, finds, final.finalized, final.yields⟩

end Conducts

/-- What holds of a rehearsal in which some members wait to be asked, mail lies
behind their requests and the primary has heard some of the tidings. -/
structure Scene (cast : Cast) (payload : List UInt8)
    (settings : TransactionSettings) (waiting : List (PeerId × Behaviour))
    (mail : List Post) (received : List Tiding) (rehearsal : Rehearsal) :
    Prop where
  conducts : Conducts cast payload settings received rehearsal.now
    rehearsal.primary
  within : received <+: cast.tidings
  behaves : ∀ member ∈ cast.members,
    rehearsal.behaviours.get? member.1 = some member.2
  answered : waiting <:+ cast.members
  channel : rehearsal.channel =
    ⟨(waiting.map (fun member => Post.request member.1) ++ mail).map
      (Post.envelope payload), true⟩
  hosted : Hosted cast waiting rehearsal.replicas rehearsal.primary.tally
  spread : Spread cast mail rehearsal.replicas rehearsal.callbacks
    rehearsal.primary.tally
  outcome : ∀ outcome, rehearsal.outcome = some outcome →
    rehearsal.primary.tally.finalized = true ∧
      rehearsal.primary.tally.Yields outcome

/-- Nothing changes for the primary: it is the channel, the group and the
replicas that change. -/
structure SameLead (before after : Rehearsal) : Prop where
  primary : after.primary = before.primary
  now : after.now = before.now
  behaviours : after.behaviours = before.behaviours
  callbacks : after.callbacks = before.callbacks
  outcome : after.outcome = before.outcome

/-- How many envelopes may still be routed. -/
def budget (cast : Cast) (waiting : List (PeerId × Behaviour))
    (mail : List Post) (tally : Tally) : Nat :=
  2 * waiting.length + mail.length +
    if tally.finalized then 0 else cast.members.length

/-- Posts that a look of the primary adds: they are notices and within the
budget. -/
structure Adds (cast : Cast) (before after : Tally) (added : List Post) :
    Prop where
  notices : ∀ post ∈ added, ∃ decision peer, post = .notice decision peer
  budget : (added.length + if after.finalized then 0 else cast.members.length) ≤
    if before.finalized then 0 else cast.members.length

theorem Conducts.length_audience {cast : Cast} {payload : List UInt8}
    {settings : TransactionSettings} {received : List Tiding} {now : Instant}
    {party : Party}
    (conducts : Conducts cast payload settings received now party)
    (within : received <+: cast.tidings) (decision : Decision) :
    (party.tally.audience decision).length ≤ cast.members.length := by
  have nodup := conducts.sound.nodup_audience decision
  have members := conducts.stance.audience_subset within.subset decision
  simpa [Cast.peers] using (nodup.subperm members).length_le

theorem adds_of_settles {cast : Cast} {before after : Tally}
    {duties : List Duty} (settles : Party.Settles before after duties)
    (few : ∀ decision, (after.audience decision).length ≤ cast.members.length) :
    Adds cast before after (duties.filterMap Duty.post?) := by
  cases settles with
  | silently nothing sameFinalized =>
      simp only [nothing, List.filterMap_nil]
      exact ⟨by simp, by simp [sameFinalized]⟩
  | telling decision fresh finalized phase tells =>
      rw [tells, (Spread.posts_of_broadcast _ _).1]
      refine ⟨?_, by simpa [fresh, finalized] using few decision⟩
      intro post isNew
      obtain ⟨peer, -, rfl⟩ := List.mem_map.1 isNew
      exact ⟨decision, peer, rfl⟩

namespace Scene

variable {cast : Cast} {payload : List UInt8}
  {settings : TransactionSettings} {waiting rest : List (PeerId × Behaviour)}
  {mail : List Post} {received heard : List Tiding} {rehearsal : Rehearsal}
  {tiding : Tiding} {later : List Tiding}

/-- The primary looks, and what it then has to do is done. -/
theorem look (scene : Scene cast payload settings waiting mail received rehearsal)
    {trigger : Trigger} {party : Party} {duties : List Duty}
    {found : Option Outcome}
    (looked : rehearsal.primary.look trigger = (party, duties))
    (conducts : Conducts cast payload settings heard rehearsal.now party)
    (within : heard <+: cast.tidings)
    (settles : Party.Settles rehearsal.primary.tally party.tally duties)
    (outcome : ∀ outcome, found = some outcome →
      party.tally.finalized = true ∧ party.tally.Yields outcome) :
    Scene cast payload settings waiting (mail ++ duties.filterMap Duty.post?)
      heard
      { rehearsal with
        primary := party
        channel := ⟨(waiting.map (fun member => Post.request member.1) ++ mail ++
          duties.filterMap Duty.post?).map (Post.envelope payload), true⟩
        callbacks := rehearsal.callbacks ++ duties.filterMap Duty.report?
        outcome := found } := by
  have kept : Keeps rehearsal.primary.tally party.tally := by
    have keeps := keeps_look scene.conducts.tidy trigger
    rwa [looked] at keeps
  exact
    { conducts := conducts
      within := within
      behaves := scene.behaves
      answered := scene.answered
      channel := by rw [List.append_assoc]
      hosted := scene.hosted.look kept
      spread := scene.spread.look kept settles fun decision phase peer healthy =>
        conducts.stance.reaches conducts.sound within.subset phase healthy
      outcome := outcome }

/-- What an event that the primary takes does to a rehearsal. -/
structure Hears (cast : Cast) (payload : List UInt8)
    (settings : TransactionSettings) (waiting : List (PeerId × Behaviour))
    (mail : List Post) (received : List Tiding) (before after : Rehearsal)
    (added : List Post) : Prop where
  scene : Scene cast payload settings waiting (mail ++ added) received after
  adds : Adds cast before.primary.tally after.primary.tally added
  announced : before.primary.announcements < after.primary.announcements
  sameOutcome : after.outcome = before.outcome
  sameNow : after.now = before.now

/-- The primary takes the event that brings the next tiding. -/
theorem hear
    (scene : Scene cast payload settings waiting mail received rehearsal)
    (upcoming : received ++ tiding :: later = cast.tidings) {event : Event}
    (brings : Trigger.Brings rehearsal.primary.setup
      (.command (.handle event rehearsal.group.view)) tiding) :
    ∃ added, Hears cast payload settings waiting mail (received ++ [tiding])
      rehearsal (rehearsal.withPrimary (·.handle event)) added := by
  obtain ⟨conducts, settles, passes⟩ := scene.conducts.hear upcoming brings
  have within : received ++ [tiding] <+: cast.tidings :=
    ⟨later, by simp [← upcoming]⟩
  have kept := keeps_look scene.conducts.tidy
    (.command (.handle event rehearsal.group.view))
  have advances := Party.advancesOn_look rehearsal.primary
    (.command (.handle event rehearsal.group.view))
  obtain ⟨party, duties, looked⟩ : ∃ party duties, rehearsal.primary.look
      (.command (.handle event rehearsal.group.view)) = (party, duties) :=
    ⟨_, _, rfl⟩
  rw [looked] at conducts settles passes kept advances
  have handled := withPrimary_handle scene.conducts.setup scene.conducts.sound
    scene.channel event looked
  have outcome : ∀ outcome, rehearsal.outcome = some outcome →
      party.tally.finalized = true ∧ party.tally.Yields outcome := by
    intro outcome isOutcome
    obtain ⟨finalized, yields⟩ := scene.outcome outcome isOutcome
    have same := advances.sameRecord (scene.conducts.tidy.decided finalized)
    exact ⟨(kept finalized).1, yields.of_sameRecord same⟩
  refine ⟨duties.filterMap Duty.post?, ?_⟩
  rw [handled]
  exact
    { scene := scene.look looked conducts within settles outcome
      adds := adds_of_settles settles (conducts.length_audience within)
      announced := passes.announced ▸ Nat.lt_succ_self _
      sameOutcome := rfl
      sameNow := rfl }

/-- Nobody is found yet at a member that waits to be asked. -/
theorem none_at_waiting {peer : PeerId} {behaviour : Behaviour}
    (scene : Scene cast payload settings ((peer, behaviour) :: rest) mail received
      rehearsal) : rehearsal.replicas.get? peer = none := by
  refine scene.hosted.unasked peer fun kind isMember => ?_
  have isWaiting : (peer, behaviour) ∈ cast.members :=
    scene.answered.subset List.mem_cons_self
  rw [Cast.behaviour_unique isMember isWaiting]
  exact List.mem_cons_self

/-- Mail is delivered or added and replicas change, while the primary does
nothing. -/
theorem change {left : List (PeerId × Behaviour)} {others : List Post}
    {next : Rehearsal}
    (scene : Scene cast payload settings waiting mail received rehearsal)
    (same : SameLead rehearsal next) (answered : left <:+ cast.members)
    (channel : next.channel =
      ⟨(left.map (fun member => Post.request member.1) ++ others).map
        (Post.envelope payload), true⟩)
    (hosted : Hosted cast left next.replicas rehearsal.primary.tally)
    (noNews : ∀ decision peer, .notice decision peer ∈ others →
      .notice decision peer ∈ mail)
    (reaches : rehearsal.primary.tally.finalized = true → ∀ peer,
      (peer, .healthy) ∈ cast.members →
        Told mail rehearsal.replicas rehearsal.primary.tally peer →
          Told others next.replicas rehearsal.primary.tally peer) :
    Scene cast payload settings left others received next where
  conducts := by
    rw [same.now, same.primary]
    exact scene.conducts
  within := scene.within
  behaves := same.behaviours ▸ scene.behaves
  answered := answered
  channel := channel
  hosted := same.primary ▸ hosted
  spread := by
    rw [same.primary, same.callbacks]
    exact scene.spread.change noNews reaches
  outcome := by
    rw [same.primary, same.outcome]
    exact scene.outcome

/-- The request of the first member that waits is routed, which may found a
replica and add posts that are no notices. -/
theorem ask {peer : PeerId} {behaviour : Behaviour} {posts : List Post}
    {next : Rehearsal}
    (scene : Scene cast payload settings ((peer, behaviour) :: rest) mail received
      rehearsal)
    (same : SameLead rehearsal next)
    (hosts : Hosts rehearsal.primary.tally peer (next.replicas.get? peer)
      behaviour)
    (elsewhere : ∀ other, other ≠ peer →
      next.replicas.get? other = rehearsal.replicas.get? other)
    (noNotices : ∀ decision other, .notice decision other ∉ posts)
    (channel : next.channel =
      ⟨(rest.map (fun member => Post.request member.1) ++ (mail ++ posts)).map
        (Post.envelope payload), true⟩) :
    Scene cast payload settings rest (mail ++ posts) received next := by
  refine scene.change same ((List.suffix_cons _ _).trans scene.answered) channel
    (scene.hosted.ask scene.answered hosts elsewhere) ?_ ?_
  · intro decision other isNotice
    exact (List.mem_append.1 isNotice).resolve_right (noNotices decision other)
  · intro _ other _ told
    rcases told with ⟨decision, isNotice⟩ | ⟨replica, found, phase⟩
    · exact .inl ⟨decision, List.mem_append_left _ isNotice⟩
    · have differs : other ≠ peer := by
        rintro rfl
        simp [scene.none_at_waiting] at found
      exact .inr ⟨replica, (elsewhere other differs).trans found, phase⟩

end Scene

end Rehearsal

end CreationCommit
