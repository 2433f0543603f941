import CreationCommit.Proofs.Decisiveness
import CreationCommit.Proofs.PeerListings

/-!
# What the primary hears

Of every peer the primary hears at most once: that it failed, or its yes.  As
long as the voting is open, what it heard determines the votes.  The tiding
that makes one failure too many aborts the creation, the last one that is
missing commits it, and after an abort nothing that is heard counts any more.
-/

namespace CreationCommit

/-- What is heard of a peer: why it failed, or its yes. -/
abbrev Tiding :=
  PeerId × Option Failure

namespace Tiding

/-- The peer whose yes is heard. -/
def yes? : Tiding → Option PeerId
  | (peer, none) => some peer
  | (_, some _) => none

def isFailure (tiding : Tiding) : Bool :=
  tiding.2.isSome

end Tiding

namespace Tally

/-- The tally admitted the peers and heard the tidings. -/
structure Heard (peers : List PeerId) (heard : List Tiding) (tally : Tally) :
    Prop where
  outstanding : ∀ peer, peer ∈ tally.outstanding ↔
    peer ∈ peers ∧ peer ∉ heard.map Prod.fst
  failures : ∀ peer failure, tally.failures.get? peer = some failure ↔
    (peer, some failure) ∈ heard
  size : tally.failures.size = heard.countP Tiding.isFailure
  acknowledged : tally.acknowledged = heard.filterMap Tiding.yes?

/-- Note a tiding. -/
def hear (tally : Tally) : Tiding → Tally
  | (peer, none) => (tally.noteYes peer).1
  | (peer, some failure) => (tally.noteFailure peer failure).1

namespace Heard

variable {peers : List PeerId} {heard : List Tiding} {tally other : Tally}
  {peer : PeerId}

theorem of_sameRecord (isHeard : tally.Heard peers heard)
    (same : tally.SameRecord other) : other.Heard peers heard where
  outstanding := same.outstanding ▸ isHeard.outstanding
  failures := same.failures ▸ isHeard.failures
  size := same.failures ▸ isHeard.size
  acknowledged := same.acknowledged.trans isHeard.acknowledged

theorem mem_failures (isHeard : tally.Heard peers heard) :
    peer ∈ tally.failures ↔ ∃ failure, (peer, some failure) ∈ heard := by
  simp [PeerMap.mem_iff_isSome_get?, Option.isSome_iff_exists,
    isHeard.failures]

theorem mem_acknowledged (isHeard : tally.Heard peers heard) :
    peer ∈ tally.acknowledged ↔ (peer, none) ∈ heard := by
  rw [isHeard.acknowledged, List.mem_filterMap]
  constructor
  · rintro ⟨⟨voter, failure⟩, isHeard, isYes⟩
    cases failure with
    | none =>
        obtain rfl : voter = peer := by simpa [Tiding.yes?] using isYes
        exact isHeard
    | some failure => simp [Tiding.yes?] at isYes
  · exact fun isHeard => ⟨_, isHeard, rfl⟩

/-- A new tiding about an outstanding peer counts while the voting is open. -/
theorem hear (isHeard : tally.Heard peers heard) (voting : tally.phase = .voting)
    {tiding : Tiding} (admitted : tiding.1 ∈ peers)
    (new : tiding.1 ∉ heard.map Prod.fst) :
    (tally.hear tiding).Heard peers (heard ++ [tiding]) ∧
      (tally.hear tiding).phase = .voting := by
  obtain ⟨peer, failure⟩ := tiding
  have unheard (cause : Option Failure) : (peer, cause) ∉ heard :=
    fun isHeard => new (List.mem_map.2 ⟨_, isHeard, rfl⟩)
  have outstanding : peer ∈ tally.outstanding :=
    (isHeard.outstanding peer).2 ⟨admitted, new⟩
  have erased (other : PeerId) : other ∈ tally.outstanding.erase peer ↔
      other ∈ peers ∧ other ∉ (heard ++ [(peer, failure)]).map Prod.fst := by
    simp only [PeerMap.mem_erase, isHeard.outstanding, List.map_append,
      List.mem_append, List.map_cons, List.map_nil, List.mem_singleton, not_or]
    rw [and_comm, and_assoc]
  cases failure with
  | none =>
      rw [Tally.hear, noteYes_of_outstanding voting outstanding]
      refine ⟨⟨erased, ?_, ?_, ?_⟩, voting⟩
      · simpa using isHeard.failures
      · simpa [Tiding.isFailure] using isHeard.size
      · simp [isHeard.acknowledged, Tiding.yes?]
  | some failure =>
      have notFailed : peer ∉ tally.failures := by
        rw [isHeard.mem_failures]
        rintro ⟨cause, isHeard⟩
        exact unheard (some cause) isHeard
      have notAcknowledged : peer ∉ tally.acknowledged := by
        rw [isHeard.mem_acknowledged]
        exact unheard none
      rw [Tally.hear, noteFailure_of_taking_part voting notFailed
        (.inl outstanding)]
      refine ⟨⟨erased, ?_, ?_, ?_⟩, voting⟩
      · intro other cause
        simp only [PeerMap.get?_insert, List.mem_append, List.mem_singleton]
        split
        · rename_i same
          simp [same, unheard, eq_comm]
        · rename_i differs
          simp [isHeard.failures, differs]
      · simp [PeerMap.size_insert notFailed, isHeard.size, Tiding.isFailure]
      · have noYes : Tiding.yes? (peer, some failure) = none := rfl
        rw [List.erase_of_not_mem notAcknowledged, isHeard.acknowledged,
          List.filterMap_append]
        simp [noYes]

end Heard

end Tally

/-- What the primary hears by the trigger. -/
inductive Trigger.Brings (setup : Setup) : Trigger → Tiding → Prop
  | departure (peer : PeerId) (view : GroupView) :
      Brings setup (.command (.handle (.memberDeparted peer) view))
        (peer, some .departed)
  | vote (vote : Vote) (view : GroupView)
      (about : vote.objectId = setup.objectId) :
      Brings setup (.command (.handle (.voteReceived vote) view))
        (vote.voter, vote.refusal.map .refused)

namespace Party

variable {party : Party} {trigger : Trigger} {tiding : Tiding}

/-- While the voting is open, the primary notes the tiding and resolves. -/
theorem look_of_voting (role : party.setup.role = .primary)
    (sound : party.tally.Sound) (voting : party.tally.phase = .voting)
    (outstanding : tiding.1 ∈ party.tally.outstanding)
    (brings : trigger.Brings party.setup tiding) :
    (party.look trigger).1 =
      { party with
        tally := ((party.tally.hear tiding).resolve
          party.setup.settings.threshold).1 }.conclude.1 := by
  have primary : party.isPrimary = true := isPrimary_iff.2 role
  cases brings with
  | departure peer view =>
      have notFailed := sound.outstanding_failures peer outstanding
      have recorded : (party.tally.noteFailure peer .departed).2 = true := by
        simp [Tally.noteFailure, voting, notFailed, outstanding]
      simp only [look, handle, closed, dismiss, primary, noteFailure, recorded,
        if_true]
      rfl
  | vote vote view about =>
      cases refusal : vote.refusal with
      | none =>
          simp only [look, handle, closed, hearVote, primary, about, weigh,
            voting, refusal, and_self, if_true]
          rfl
      | some cause =>
          simp only [look, handle, closed, hearVote, primary, about, weigh,
            voting, refusal, and_self, if_true]
          rfl

/-- After an abort the primary only tells that something may have changed. -/
theorem look_of_aborted (role : party.setup.role = .primary)
    (tidy : party.tally.Tidy) (aborted : party.tally.phase = .aborted)
    (brings : trigger.Brings party.setup tiding) :
    (party.look trigger).1 = party.announce := by
  have primary : party.isPrimary = true := isPrimary_iff.2 role
  cases brings with
  | departure peer view =>
      have unrecorded :
          (party.tally.noteFailure peer .departed).2 = false := by
        simp [Tally.noteFailure, aborted]
      simp [look, handle, closed, dismiss, primary, noteFailure, unrecorded,
        conclude_of_tidy tidy]
  | vote vote view about =>
      cases refusal : vote.refusal <;>
        simp [look, handle, closed, hearVote, primary, about, weigh, aborted,
          refusal, conclude_of_tidy tidy]

end Party

namespace Tally

/-- Where the voting of the peers stands after the tidings: it is open, or
committed, or one of the tidings was a failure too many. -/
inductive Standing (threshold : Nat) (peers : List PeerId)
    (received : List Tiding) (tally : Tally) : Prop
  | votes (voting : tally.phase = .voting) (heard : tally.Heard peers received)
  | commits (committed : tally.phase = .committed)
      (heard : tally.Heard peers received)
  | exceeds (earlier : List Tiding) (last : Tiding)
      (aborted : tally.phase = .aborted)
      (before : earlier ++ [last] <+: received)
      (heard : tally.Heard peers (earlier ++ [last]))
      (failing : last.isFailure)
      (full : earlier.countP Tiding.isFailure = threshold)
      (cause : ∃ report, tally.abortReport = some report ∧
        report.cause = .tooManyFailures (threshold + 1) threshold)

namespace Standing

variable {threshold : Nat} {peers : List PeerId} {received : List Tiding}
  {tiding : Tiding} {tally other : Tally}

theorem of_sameRecord (standing : tally.Standing threshold peers received)
    (same : tally.SameRecord other) :
    other.Standing threshold peers received := by
  cases standing with
  | votes voting heard =>
      exact .votes (same.phase.trans voting) (heard.of_sameRecord same)
  | commits committed heard =>
      exact .commits (same.phase.trans committed) (heard.of_sameRecord same)
  | exceeds earlier last aborted before heard failing full cause =>
      exact .exceeds earlier last (same.phase.trans aborted) before
        (heard.of_sameRecord same) failing full (same.abortReport ▸ cause)

/-- Resolving commits at most, as long as the threshold allows the failures. -/
theorem of_resolve_within (voting : tally.phase = .voting)
    (heard : tally.Heard peers received)
    (bounded : received.countP Tiding.isFailure ≤ threshold) :
    (tally.resolve threshold).1.Standing threshold peers received := by
  have notExceeded : ¬ threshold < tally.failures.size := by
    rw [heard.size]
    exact Nat.not_lt.2 bounded
  unfold Tally.resolve
  rw [if_pos voting, if_neg notExceeded]
  split
  · exact .commits rfl ⟨heard.outstanding, heard.failures, heard.size,
      heard.acknowledged⟩
  · exact .votes voting heard

/-- Resolving after one more tiding was noted. -/
theorem of_resolve (voting : tally.phase = .voting)
    (heard : tally.Heard peers (received ++ [tiding]))
    (bounded : received.countP Tiding.isFailure ≤ threshold) :
    (tally.resolve threshold).1.Standing threshold peers
      (received ++ [tiding]) := by
  by_cases within : (received ++ [tiding]).countP Tiding.isFailure ≤ threshold
  · exact of_resolve_within voting heard within
  · have size := heard.size
    rw [List.countP_append, List.countP_singleton] at size within
    have failing : tiding.isFailure = true := by
      by_contra noFailure
      simp only [noFailure, if_false] at within
      omega
    rw [if_pos failing] at size within
    have full : received.countP Tiding.isFailure = threshold := by omega
    have sizeIs : tally.failures.size = threshold + 1 := by omega
    have exceeded : threshold < tally.failures.size := by omega
    have undecided : ¬ tally.isDecided := Party.not_isDecided_of_voting voting
    unfold Tally.resolve
    rw [if_pos voting, if_pos exceeded]
    simp only [Tally.abort, if_neg undecided, sizeIs]
    exact .exceeds received tiding rfl List.prefix_rfl
      ⟨heard.outstanding, heard.failures, heard.size, heard.acknowledged⟩
      failing full ⟨_, rfl, rfl⟩

/-- Who was not heard of is outstanding. -/
theorem outstanding (standing : tally.Standing threshold peers received)
    (admitted : tiding.1 ∈ peers) (new : tiding.1 ∉ received.map Prod.fst) :
    tiding.1 ∈ tally.outstanding := by
  cases standing with
  | votes _ heard | commits _ heard =>
      exact (heard.outstanding tiding.1).2 ⟨admitted, new⟩
  | exceeds earlier last _ before heard =>
      exact (heard.outstanding tiding.1).2 ⟨admitted, fun already =>
        new ((before.sublist.map Prod.fst).subset already)⟩

/-- The primary hears of one peer more. -/
theorem hear {party : Party} {trigger : Trigger}
    (standing : party.tally.Standing threshold peers received)
    (role : party.setup.role = .primary)
    (sameThreshold : party.setup.settings.threshold = threshold)
    (sound : party.tally.Sound) (tidy : party.tally.Tidy)
    (decisive : party.tally.Decisive threshold)
    (admitted : tiding.1 ∈ peers) (new : tiding.1 ∉ received.map Prod.fst)
    (brings : trigger.Brings party.setup tiding) :
    (party.look trigger).1.tally.Standing threshold peers
      (received ++ [tiding]) := by
  have outstanding := standing.outstanding admitted new
  cases standing with
  | votes voting heard =>
      obtain ⟨nextHeard, stillVoting⟩ := heard.hear voting admitted new
      have bounded := heard.size ▸ decisive.bounded (.inl voting)
      have resolved : ((party.tally.hear tiding).resolve threshold).1.Standing
          threshold peers (received ++ [tiding]) :=
        of_resolve stillVoting nextHeard bounded
      rw [Party.look_of_voting role sound voting outstanding brings,
        sameThreshold]
      exact resolved.of_sameRecord (Party.sameRecord_conclude
        { party with
          tally := ((party.tally.hear tiding).resolve threshold).1 })
  | commits committed heard =>
      simp [sound.committed committed] at outstanding
  | exceeds earlier last aborted before heard failing full cause =>
      rw [Party.look_of_aborted role tidy aborted brings]
      exact .exceeds earlier last aborted
        (before.trans (List.prefix_append _ _)) heard failing full cause

end Standing

end Tally

namespace Party

variable {party : Party} {trigger : Trigger} {tiding : Tiding}

/-- A look of the primary has no consequence, or it finalizes the decision and
tells it. -/
inductive Settles (before after : Tally) (duties : List Duty) : Prop
  | silently (nothing : duties = [])
      (sameFinalized : after.finalized = before.finalized)
  | telling (decision : Decision) (fresh : before.finalized = false)
      (finalized : after.finalized = true)
      (phase : after.phase = decision.phase)
      (tells : duties =
        (broadcast decision (after.audience decision)).map .closing)

theorem Settles.of_consequence {before after : Tally} {trigger : Trigger}
    {duties : List Duty} (tidy : before.Tidy)
    (consequence : Consequence before trigger after duties)
    (closes : ∃ closings : List Closing, duties = closings.map .closing)
    (noLateYes : ∀ vote view,
      trigger = .command (.handle (.voteReceived vote) view) →
      vote.refusal = none → before.phase ≠ .committed ∧
        (before.phase = .aborted → vote.voter ∈ before.abortAudience)) :
    Settles before after duties := by
  cases consequence with
  | opens openings samePhase sameFinalized =>
      obtain ⟨closings, same⟩ := closes
      have noOpenings : openings = [] := by
        cases openings with
        | nil => rfl
        | cons opening rest => cases closings <;> simp at same
      exact .silently (by simp [noOpenings]) sameFinalized
  | aborts undecided aborted finalized =>
      exact .telling .abort (tidy.not_finalized undecided) finalized aborted rfl
  | commits notFinalized committed finalized =>
      exact .telling .commit notFinalized finalized committed rfl
  | tellsCommit vote view arrived yes committed =>
      exact absurd committed (noLateYes vote view arrived yes).1
  | tellsAbort vote view arrived yes aborted unreached =>
      exact absurd ((noLateYes vote view arrived yes).2 aborted) unreached

theorem settles_of_brings (role : party.setup.role = .primary)
    (sound : party.tally.Sound) (tidy : party.tally.Tidy)
    (brings : trigger.Brings party.setup tiding)
    (notCommitted : party.tally.phase ≠ .committed)
    (reached : tiding.2 = none → party.tally.phase = .aborted →
      tiding.1 ∈ party.tally.abortAudience) :
    Settles party.tally (party.look trigger).1.tally (party.look trigger).2 := by
  refine .of_consequence tidy (consequence_look role sound tidy trigger) ?_ ?_
  · cases brings <;> exact ⟨_, rfl⟩
  · rintro vote view rfl yes
    cases brings with
    | vote _ _ about =>
        exact ⟨notCommitted, reached (by simp [yes])⟩

theorem settles_examine (role : party.setup.role = .primary)
    (sound : party.tally.Sound) (tidy : party.tally.Tidy) (now : Instant) :
    Settles party.tally (party.look (.clock now)).1.tally
      (party.look (.clock now)).2 := by
  refine .of_consequence tidy (consequence_look role sound tidy _) ?_ ?_
  · cases found : (party.examine now).2 with
    | pending deadline =>
        exact ⟨[], by simp [look_clock_of_pending party found]⟩
    | decided closings outcome =>
        exact ⟨closings, by rw [look_clock_of_decided party found]⟩
  · intro vote view isVote
    cases isVote

end Party

end CreationCommit
