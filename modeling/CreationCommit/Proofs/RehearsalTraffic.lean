import CreationCommit.Proofs.Notices
import CreationCommit.Proofs.RehearsalOpening

/-!
# The traffic of a rehearsal

The router takes the envelopes out of the channel one after the other, while
the waiter looks at any time and the clock shows any time.  A peer that waits
to be asked, or whose vote lies in the channel, is outstanding: the creation
does not commit without it, and an abort reaches it.  So no vote comes after the
commit and the decision is told once, and altogether a peer is asked once, votes
at most once and is told at most once.
-/

namespace CreationCommit

namespace Post

/-- The peer that a request asks. -/
def asked? : Post → Option PeerId
  | .request peer => some peer
  | _ => none

/-- The peer that votes. -/
def voter? : Post → Option PeerId
  | .ballot peer _ => some peer
  | _ => none

/-- The peer that is told the decision. -/
def told? (decision : Decision) : Post → Option PeerId
  | .notice other peer => if other = decision then some peer else none
  | _ => none

/-- Every post asks, votes, or tells one of the decisions. -/
theorem length_eq (posts : List Post) :
    posts.length =
      (posts.filterMap asked?).length + (posts.filterMap voter?).length +
        (posts.filterMap (told? .commit)).length +
        (posts.filterMap (told? .abort)).length := by
  induction posts with
  | nil => rfl
  | cons post rest ih =>
      cases post with
      | request peer =>
          simp [List.filterMap_cons, asked?, voter?, told?, ih]
          omega
      | ballot peer refusal =>
          simp [List.filterMap_cons, asked?, voter?, told?, ih]
          omega
      | notice decision peer =>
          cases decision with
          | commit =>
              simp [List.filterMap_cons, asked?, voter?, told?, ih]
              omega
          | abort =>
              simp [List.filterMap_cons, asked?, voter?, told?, ih]
              omega

end Post

namespace Tally

/-- Whoever votes or fails leaves the others outstanding, and nobody else has to
be told of an abort. -/
structure KeepsOthers (peer : PeerId) (before after : Tally) : Prop where
  audience : after.abortAudience ⊆ before.abortAudience
  outstanding : ∀ other ∈ before.outstanding, other ≠ peer →
    other ∈ after.outstanding

namespace KeepsOthers

variable {peer : PeerId} {before after later : Tally}

theorem refl (tally : Tally) : KeepsOthers peer tally tally :=
  ⟨fun _ => id, fun _ outstanding _ => outstanding⟩

theorem sameVotes (keeps : KeepsOthers peer before after)
    (same : after.SameVotes later) : KeepsOthers peer before later where
  audience := by
    have sameAudience : later.abortAudience = after.abortAudience := by
      simp only [abortAudience, same.acknowledged, same.outstanding]
    exact sameAudience ▸ keeps.audience
  outstanding := same.outstanding ▸ keeps.outstanding

theorem hear (tally : Tally) (tiding : Tiding) :
    KeepsOthers tiding.1 tally (tally.hear tiding) := by
  obtain ⟨peer, failure⟩ := tiding
  cases failure with
  | none =>
      simp only [Tally.hear, noteYes]
      split
      · rename_i taken
        refine ⟨fun other => ?_, fun other outstanding differs => ?_⟩
        · simp only [mem_abortAudience, List.mem_append, List.mem_singleton,
            PeerMap.mem_erase]
          rintro ((acknowledged | rfl) | ⟨-, outstanding⟩)
          · exact .inl acknowledged
          · exact .inr taken.2
          · exact .inr outstanding
        · exact PeerMap.mem_erase.2 ⟨differs, outstanding⟩
      · exact .refl tally
  | some failure =>
      simp only [Tally.hear, noteFailure]
      split
      · refine ⟨fun other => ?_, fun other outstanding differs => ?_⟩
        · simp only [mem_abortAudience, PeerMap.mem_erase]
          rintro (acknowledged | ⟨-, outstanding⟩)
          · exact .inl (List.mem_of_mem_erase acknowledged)
          · exact .inr outstanding
        · exact PeerMap.mem_erase.2 ⟨differs, outstanding⟩
      · exact .refl tally

end KeepsOthers

end Tally

namespace Party

variable {party : Party} {trigger : Trigger} {tiding : Tiding}

/-- The primary hears of an outstanding peer. -/
theorem keepsOthers_of_brings (role : party.setup.role = .primary)
    (sound : party.tally.Sound) (tidy : party.tally.Tidy)
    (outstanding : tiding.1 ∈ party.tally.outstanding)
    (brings : trigger.Brings party.setup tiding) :
    Tally.KeepsOthers tiding.1 party.tally (party.look trigger).1.tally := by
  cases phase : party.tally.phase with
  | active | prepared =>
      have nobody := (sound.unopened (by simp [phase])).1
      simp [nobody] at outstanding
  | committed => simp [sound.committed phase] at outstanding
  | voting =>
      rw [look_of_voting role sound phase outstanding brings]
      exact ((Tally.KeepsOthers.hear party.tally tiding).sameVotes
        (Tally.sameVotes_resolve _ _)).sameVotes (sameVotes_conclude
          { party with
            tally := ((party.tally.hear tiding).resolve
              party.setup.settings.threshold).1 })
  | aborted =>
      rw [look_of_aborted role tidy phase brings]
      exact .refl _

/-- What a look of the primary announces is told by the posts that it adds. -/
theorem announced_of_settles {before after : Tally} {duties : List Duty}
    (settles : Settles before after duties) (tidy : before.Tidy)
    (kept : before.isDecided → before.SameRecord after) (decision : Decision) :
    after.announced decision = before.announced decision ++
      (duties.filterMap Duty.post?).filterMap (Post.told? decision) := by
  cases settles with
  | silently nothing sameFinalized =>
      by_cases finalized : before.finalized = true
      · have same := kept (tidy.decided finalized)
        simp [nothing, Tally.announced, sameFinalized, same.phase, same.audience]
      · simp [nothing, Tally.announced, sameFinalized, finalized]
  | telling made fresh finalized phase tells =>
      rw [tells, (Rehearsal.Spread.posts_of_broadcast _ _).1]
      cases made <;> cases decision <;>
        simp [Tally.announced, fresh, finalized, phase, Decision.phase,
          List.filterMap_map, Function.comp_def, Post.told?]

/-- A look that settles adds neither requests nor votes. -/
theorem only_notices_of_settles {before after : Tally} {duties : List Duty}
    (settles : Settles before after duties) :
    (duties.filterMap Duty.post?).filterMap Post.asked? = [] ∧
      (duties.filterMap Duty.post?).filterMap Post.voter? = [] := by
  cases settles with
  | silently nothing => simp [nothing]
  | telling decision _ _ _ tells =>
      rw [tells, (Rehearsal.Spread.posts_of_broadcast _ _).1]
      simp [List.filterMap_map, Function.comp_def, Post.asked?, Post.voter?]

end Party

namespace Rehearsal

/-- The requests to some peers. -/
def requests (waiting : List PeerId) : List Post :=
  waiting.map .request

/-- What holds while some posts have been delivered, some peers wait to be asked
and mail lies behind their requests. -/
structure Traffic (peers : List PeerId) (payload : List UInt8)
    (settings : TransactionSettings) (delivered : List Post)
    (waiting : List PeerId) (mail : List Post) (rehearsal : Rehearsal) :
    Prop where
  setup : rehearsal.primary.setup = primarySetup payload settings
  sound : rehearsal.primary.tally.Sound
  tidy : rehearsal.primary.tally.Tidy
  channel : rehearsal.channel =
    ⟨(requests waiting ++ mail).map (Post.envelope payload), true⟩
  asked : delivered.filterMap Post.asked? ++ waiting = peers
  noRequests : mail.filterMap Post.asked? = []
  voters : ((delivered ++ mail).filterMap Post.voter? ++ waiting).Nodup
  known : (delivered ++ mail).filterMap Post.voter? ⊆ peers
  awaited : ∀ peer ∈ mail.filterMap Post.voter? ++ waiting,
    peer ∈ rehearsal.primary.tally.outstanding
  audience : rehearsal.primary.tally.abortAudience ⊆ peers
  told : ∀ decision, (delivered ++ mail).filterMap (Post.told? decision) =
    rehearsal.primary.tally.announced decision
  unasked : ∀ peer ∈ waiting, rehearsal.replicas.get? peer = none
  replicas : ∀ peer replica, rehearsal.replicas.get? peer = some replica →
    IsReplica peer replica
  outcome : rehearsal.outcome.isSome → rehearsal.primary.tally.finalized = true

namespace Traffic

variable {peers : List PeerId} {payload : List UInt8}
  {settings : TransactionSettings} {delivered : List Post}
  {waiting rest : List PeerId} {mail others : List Post}
  {rehearsal taken next : Rehearsal} {peer : PeerId}

theorem role (traffic : Traffic peers payload settings delivered waiting mail
    rehearsal) : rehearsal.primary.setup.role = .primary := by
  rw [traffic.setup]
  rfl

theorem length_announced (traffic : Traffic peers payload settings delivered
    waiting mail rehearsal) :
    (rehearsal.primary.tally.announced .commit).length +
      (rehearsal.primary.tally.announced .abort).length ≤ peers.length := by
  have few (decision : Decision) :
      (rehearsal.primary.tally.audience decision).length ≤ peers.length := by
    have known : rehearsal.primary.tally.audience decision ⊆ peers := by
      cases decision with
      | commit =>
          exact fun peer acknowledged =>
            traffic.audience (Tally.mem_abortAudience.2 (.inl acknowledged))
      | abort => exact traffic.audience
    exact ((traffic.sound.nodup_audience decision).subperm known).length_le
  have commits := few .commit
  have aborts := few .abort
  unfold Tally.announced
  split <;> split <;> simp_all [Decision.phase]

/-- Every peer is asked once, votes at most once and is told at most once. -/
theorem length_le (traffic : Traffic peers payload settings delivered waiting
    mail rehearsal) :
    (delivered ++ (requests waiting ++ mail)).length ≤ 3 * peers.length := by
  have requested : (requests waiting).length = waiting.length := by
    simp [requests]
  have asked := congrArg List.length traffic.asked
  have votes := ((List.nodup_append.1 traffic.voters).1.subperm
    traffic.known).length_le
  have announced := traffic.length_announced
  have counted := Post.length_eq (delivered ++ mail)
  rw [traffic.told, traffic.told, List.filterMap_append (f := Post.asked?),
    traffic.noRequests, List.append_nil] at counted
  simp only [List.length_append] at counted asked ⊢
  omega

/-- The primary looks, and what it tells comes behind the mail. -/
theorem lead (traffic : Traffic peers payload settings delivered waiting mail
    rehearsal)
    {trigger : Trigger} {party : Party} {duties : List Duty}
    {found : Option Outcome}
    (looked : rehearsal.primary.look trigger = (party, duties))
    (settles : Party.Settles rehearsal.primary.tally party.tally duties)
    (audience : party.tally.abortAudience ⊆
      rehearsal.primary.tally.abortAudience)
    (awaited : ∀ peer ∈ mail.filterMap Post.voter? ++ waiting,
      peer ∈ party.tally.outstanding)
    (outcome : found.isSome → party.tally.finalized = true) :
    Traffic peers payload settings delivered waiting
      (mail ++ duties.filterMap Duty.post?)
      { rehearsal with
        primary := party
        channel := ⟨(requests waiting ++ mail ++
          duties.filterMap Duty.post?).map (Post.envelope payload), true⟩
        callbacks := rehearsal.callbacks ++ duties.filterMap Duty.report?
        outcome := found } := by
  have advances := Party.advancesOn_look rehearsal.primary trigger
  have tidy := Party.tidy_look traffic.role traffic.sound traffic.tidy trigger
  rw [looked] at advances tidy
  obtain ⟨noRequests, noVotes⟩ := Party.only_notices_of_settles settles
  have voters : (delivered ++ (mail ++ duties.filterMap Duty.post?)).filterMap
      Post.voter? = (delivered ++ mail).filterMap Post.voter? := by
    simp [noVotes]
  exact
    { setup := advances.setup.trans traffic.setup
      sound := advances.sound traffic.sound
      tidy
      channel := by rw [List.append_assoc]
      asked := traffic.asked
      noRequests := by simp [traffic.noRequests, noRequests]
      voters := voters ▸ traffic.voters
      known := voters ▸ traffic.known
      awaited := by simpa [noVotes] using awaited
      audience := List.Subset.trans audience traffic.audience
      told := fun decision => by
        rw [Party.announced_of_settles settles traffic.tidy advances.sameRecord,
          ← traffic.told, ← List.filterMap_append, List.append_assoc]
      unasked := traffic.unasked
      replicas := traffic.replicas
      outcome }

/-- The primary hears of an outstanding peer that is not awaited any more. -/
theorem hear (traffic : Traffic peers payload settings delivered waiting mail
    rehearsal) {tiding : Tiding}
    (outstanding : tiding.1 ∈ rehearsal.primary.tally.outstanding)
    (apart : tiding.1 ∉ mail.filterMap Post.voter? ++ waiting) {event : Event}
    (brings : Trigger.Brings rehearsal.primary.setup
      (.command (.handle event rehearsal.group.view)) tiding) :
    ∃ added, Traffic peers payload settings delivered waiting (mail ++ added)
      (rehearsal.withPrimary (·.handle event)) := by
  obtain ⟨party, duties, looked⟩ : ∃ party duties, rehearsal.primary.look
      (.command (.handle event rehearsal.group.view)) = (party, duties) :=
    ⟨_, _, rfl⟩
  have notCommitted : rehearsal.primary.tally.phase ≠ .committed := by
    intro committed
    simp [traffic.sound.committed committed] at outstanding
  have keeps := Party.keepsOthers_of_brings traffic.role traffic.sound
    traffic.tidy outstanding brings
  have settles := Party.settles_of_brings traffic.role traffic.sound
    traffic.tidy brings notCommitted fun _ _ =>
      Tally.mem_abortAudience.2 (.inr outstanding)
  have advances := Party.advancesOn_look rehearsal.primary
    (.command (.handle event rehearsal.group.view))
  rw [looked] at keeps settles advances
  refine ⟨duties.filterMap Duty.post?, ?_⟩
  rw [withPrimary_handle traffic.setup traffic.sound traffic.channel event looked]
  refine traffic.lead looked settles keeps.audience ?_ ?_
  · intro other isAwaited
    refine keeps.outstanding other (traffic.awaited other isAwaited) ?_
    rintro rfl
    exact apart isAwaited
  · exact fun decided => advances.finalized (traffic.outcome decided)

/-- The waiter looks. -/
theorem look (traffic : Traffic peers payload settings delivered waiting mail
    rehearsal) (undecided : rehearsal.outcome = none) :
    ∃ added, Traffic peers payload settings delivered waiting (mail ++ added)
      rehearsal.look := by
  obtain ⟨party, duties, looked⟩ : ∃ party duties, rehearsal.primary.look
      (.clock rehearsal.now) = (party, duties) := ⟨_, _, rfl⟩
  have settles := Party.settles_examine traffic.role traffic.sound traffic.tidy
    rehearsal.now
  have same : rehearsal.primary.tally.SameVotes
      (rehearsal.primary.examine rehearsal.now).1.tally :=
    Party.sameVotes_examine rehearsal.now
  rw [← Party.look_clock_fst, looked] at same
  rw [looked] at settles
  refine ⟨duties.filterMap Duty.post?, ?_⟩
  rw [look_eq traffic.setup traffic.sound traffic.channel undecided looked]
  refine traffic.lead looked settles ?_ ?_ ?_
  · rw [Tally.abortAudience, same.acknowledged, same.outstanding]
    exact List.Subset.refl _
  · rw [same.outstanding]
    exact traffic.awaited
  · intro found
    obtain ⟨outcome, finds⟩ := Option.isSome_iff_exists.1 found
    have final := Party.finalizedAs_of_outcome? finds
    rw [looked] at final
    exact final.finalized

/-- The clock goes on. -/
theorem clock (traffic : Traffic peers payload settings delivered waiting mail
    rehearsal) (now : Instant) :
    Traffic peers payload settings delivered waiting mail
      { rehearsal with now } :=
  { traffic with }

/-- The request of the first peer that waits is delivered; the peer may found a
replica, which votes. -/
theorem ask {votes : List Post}
    (traffic : Traffic peers payload settings delivered (peer :: rest) mail
      rehearsal)
    (same : SameLead rehearsal next)
    (channel : next.channel =
      ⟨(requests rest ++ (mail ++ votes)).map (Post.envelope payload), true⟩)
    (ballot : votes = [] ∨ ∃ refusal, votes = [.ballot peer refusal])
    (elsewhere : ∀ other, other ≠ peer →
      next.replicas.get? other = rehearsal.replicas.get? other)
    (hosts : ∀ replica, next.replicas.get? peer = some replica →
      IsReplica peer replica) :
    Traffic peers payload settings (delivered ++ [.request peer]) rest
      (mail ++ votes) next := by
  have noRequests : votes.filterMap Post.asked? = [] := by
    rcases ballot with rfl | ⟨refusal, rfl⟩ <;> rfl
  have noNotices (decision : Decision) :
      votes.filterMap (Post.told? decision) = [] := by
    rcases ballot with rfl | ⟨refusal, rfl⟩ <;> rfl
  have alone : (votes.filterMap Post.voter?).Sublist [peer] := by
    rcases ballot with rfl | ⟨refusal, rfl⟩
    · exact List.nil_sublist _
    · exact List.Sublist.refl _
  have voters : (delivered ++ [Post.request peer] ++ (mail ++ votes)).filterMap
      Post.voter? =
        (delivered ++ mail).filterMap Post.voter? ++
          votes.filterMap Post.voter? := by
    simp [List.filterMap_cons, Post.voter?]
  have isPeer : peer ∈ peers := by
    simp [← traffic.asked]
  have notLater : peer ∉ rest := by
    have distinct := (List.nodup_append.1 traffic.voters).2.1
    exact (List.nodup_cons.1 distinct).1
  exact
    { setup := same.primary ▸ traffic.setup
      sound := same.primary ▸ traffic.sound
      tidy := same.primary ▸ traffic.tidy
      channel
      asked := by
        rw [← traffic.asked]
        simp [Post.asked?]
      noRequests := by simp [traffic.noRequests, noRequests]
      voters := by
        rw [voters]
        refine traffic.voters.sublist ?_
        rw [List.append_assoc]
        exact (alone.append_right rest).append_left _
      known := by
        rw [voters]
        refine List.append_subset.2 ⟨traffic.known, fun voter isVoter => ?_⟩
        rwa [List.mem_singleton.1 (alone.subset isVoter)]
      awaited := by
        intro voter isAwaited
        rw [same.primary]
        refine traffic.awaited voter ?_
        rw [List.filterMap_append, List.append_assoc] at isAwaited
        rcases List.mem_append.1 isAwaited with inMail | isNew
        · exact List.mem_append_left _ inMail
        · exact List.mem_append_right _
            ((alone.append_right rest).subset isNew)
      audience := same.primary ▸ traffic.audience
      told := by
        intro decision
        rw [same.primary, ← traffic.told]
        simp [List.filterMap_cons, noNotices, Post.told?]
      unasked := by
        intro other isLater
        have differs : other ≠ peer := fun isPeer => notLater (isPeer ▸ isLater)
        rw [elsewhere other differs]
        exact traffic.unasked other (List.mem_cons_of_mem _ isLater)
      replicas := by
        intro other replica found
        by_cases isPeer : other = peer
        · subst isPeer
          exact hosts replica found
        · rw [elsewhere other isPeer] at found
          exact traffic.replicas other replica found
      outcome := by
        rw [same.outcome, same.primary]
        exact traffic.outcome }

/-- A vote or a notice is delivered, which founds no replica. -/
theorem deliver {post : Post}
    (traffic : Traffic peers payload settings delivered [] (post :: others)
      rehearsal)
    (same : SameLead rehearsal next)
    (channel : next.channel = ⟨others.map (Post.envelope payload), true⟩)
    (hosts : ∀ other replica, next.replicas.get? other = some replica →
      IsReplica other replica) :
    Traffic peers payload settings (delivered ++ [post]) [] others next := by
  have noRequest : ∀ other ∈ post :: others, other.asked? = none :=
    List.filterMap_eq_nil_iff.1 traffic.noRequests
  have sameMail : delivered ++ [post] ++ others = delivered ++ post :: others := by
    simp
  exact
    { setup := same.primary ▸ traffic.setup
      sound := same.primary ▸ traffic.sound
      tidy := same.primary ▸ traffic.tidy
      channel
      asked := by
        rw [← traffic.asked]
        simp [noRequest post List.mem_cons_self]
      noRequests := List.filterMap_eq_nil_iff.2 fun other isOther =>
        noRequest other (List.mem_cons_of_mem _ isOther)
      voters := sameMail ▸ traffic.voters
      known := sameMail ▸ traffic.known
      awaited := by
        intro voter isAwaited
        rw [same.primary]
        refine traffic.awaited voter ?_
        rw [List.append_nil] at isAwaited ⊢
        exact ((List.sublist_cons_self post others).filterMap _).subset isAwaited
      audience := same.primary ▸ traffic.audience
      told := by
        intro decision
        rw [same.primary, ← traffic.told, sameMail]
      unasked := by simp
      replicas := hosts
      outcome := by
        rw [same.outcome, same.primary]
        exact traffic.outcome }

/-- Whoever waits to be asked has no vote in the channel and is asked once. -/
theorem apart (traffic : Traffic peers payload settings delivered
    (peer :: rest) mail rehearsal) :
    peer ∉ mail.filterMap Post.voter? ++ rest := by
  obtain ⟨-, once, differ⟩ := List.nodup_append.1 traffic.voters
  intro isAgain
  rcases List.mem_append.1 isAgain with inMail | isLater
  · have isVoter : peer ∈ (delivered ++ mail).filterMap Post.voter? := by
      rw [List.filterMap_append]
      exact List.mem_append_right _ inMail
    exact differ peer isVoter peer List.mem_cons_self rfl
  · exact (List.nodup_cons.1 once).1 isLater

/-- The first of the posts was delivered, and others came behind the rest. -/
def Delivers (peers : List PeerId) (payload : List UInt8)
    (settings : TransactionSettings) (delivered posts : List Post)
    (next : Rehearsal) : Prop :=
  ∃ first kept added waiting mail, posts = first :: kept ∧
    requests waiting ++ mail = kept ++ added ∧
      Traffic peers payload settings (delivered ++ [first]) waiting mail next

/-- The first request is routed. -/
theorem route_request
    (traffic : Traffic peers payload settings delivered (peer :: rest) mail
      rehearsal) :
    ∃ next, rehearsal.route? = some next ∧ next.outcome = rehearsal.outcome ∧
      Delivers peers payload settings delivered
        (requests (peer :: rest) ++ mail) next := by
  have head : rehearsal.channel =
      ⟨(Post.request peer :: (requests rest ++ mail)).map
        (Post.envelope payload), true⟩ := traffic.channel
  obtain ⟨taken, same, sameReplicas, channel, routed⟩ := Course.route_first head
  have asks (added : List Post) (next : Rehearsal)
      (after : Traffic peers payload settings (delivered ++ [.request peer])
        rest (mail ++ added) next) :
      Delivers peers payload settings delivered
        (requests (peer :: rest) ++ mail) next :=
    ⟨.request peer, requests rest ++ mail, added, rest, mail ++ added, rfl,
      by simp, after⟩
  have passes (group : Group) :
      Traffic peers payload settings (delivered ++ [.request peer]) rest
        (mail ++ []) { taken with group } := by
    refine traffic.ask (same.aside taken.replicas taken.channel group)
      (by rw [channel, List.append_nil]) (.inl rfl)
      (fun _ _ => by rw [sameReplicas]) ?_
    intro replica found
    rw [sameReplicas, traffic.unasked peer List.mem_cons_self] at found
    cases found
  have founds (refusal : Option String) (replica : Party)
      (isReplica : IsReplica peer replica) :
      Traffic peers payload settings (delivered ++ [.request peer]) rest
        (mail ++ [.ballot peer refusal])
        { taken with
          replicas := taken.replicas.insert peer replica
          channel := ⟨(requests rest ++ mail ++ [Post.ballot peer refusal]).map
            (Post.envelope payload), true⟩ } := by
    refine traffic.ask (same.aside _ _ _) (by simp) (.inr ⟨refusal, rfl⟩) ?_ ?_
    · intro other differs
      simp [PeerMap.get?_insert, differs, sameReplicas]
    · intro other found
      obtain rfl : replica = other := by
        simpa [PeerMap.get?_insert] using found
      exact isReplica
  refine ⟨_, routed, ?_⟩
  simp only [receive, Post.envelope, receiveRequest]
  cases (taken.behaviours.get? peer).getD .healthy with
  | departing =>
      have outstanding : peer ∈ taken.primary.tally.outstanding := by
        rw [same.primary]
        exact traffic.awaited peer (by simp)
      obtain ⟨added, hears⟩ := (passes (taken.group.leave peer).1).hear
        outstanding (by simpa using traffic.apart) (.departure peer _)
      rw [List.append_nil] at hears
      exact ⟨same.outcome, asks added _ hears⟩
  | silent => exact ⟨same.outcome, asks [] taken (passes taken.group)⟩
  | failing =>
      obtain ⟨replica, isReplica, -, founded⟩ :=
        found_replica channel peer (some rejection)
      rw [founded]
      exact ⟨same.outcome, asks _ _ (founds _ replica isReplica)⟩
  | healthy =>
      obtain ⟨replica, isReplica, -, founded⟩ :=
        found_replica channel peer none
      have enrolls : taken.withReplica
          (taken.replicaFor peer ⟨GroupShape.primaryPeer, objectId, payload⟩)
          (·.handle .activated) = taken.withReplica
            (taken.replicaFor peer ⟨GroupShape.primaryPeer, objectId, payload⟩)
            (·.enroll none) := rfl
      rw [enrolls, founded]
      exact ⟨same.outcome, asks _ _ (founds _ replica isReplica)⟩

/-- The first vote is routed, once all peers were asked. -/
theorem route_ballot {refusal : Option String}
    (traffic : Traffic peers payload settings delivered []
      (.ballot peer refusal :: others) rehearsal) :
    ∃ next, rehearsal.route? = some next ∧ next.outcome = rehearsal.outcome ∧
      Delivers peers payload settings delivered
        (.ballot peer refusal :: others) next := by
  obtain ⟨taken, same, sameReplicas, channel, routed⟩ :=
    Course.route_first traffic.channel
  have setup : taken.primary.setup = primarySetup payload settings := by
    rw [same.primary]
    exact traffic.setup
  have atPrimary : GroupShape.primaryPeer = taken.primary.setup.localPeer := by
    rw [setup]
    rfl
  have heard : taken.receive ((Post.ballot peer refusal).envelope payload) =
      taken.withPrimary (·.handle (.voteReceived
        ⟨peer, objectId, Numbering.start.next, refusal⟩)) := if_pos atPrimary
  have brings : Trigger.Brings taken.primary.setup
      (.command (.handle (.voteReceived
        ⟨peer, objectId, Numbering.start.next, refusal⟩) taken.group.view))
      (peer, refusal.map .refused) := by
    refine .vote _ _ ?_
    rw [setup]
    rfl
  have delivers := traffic.deliver same channel (sameReplicas ▸ traffic.replicas)
  have outstanding : peer ∈ taken.primary.tally.outstanding := by
    rw [same.primary]
    exact traffic.awaited peer (by simp [Post.voter?])
  have alone : peer ∉ others.filterMap Post.voter? ++ [] := by
    have distinct := traffic.voters
    simp only [List.filterMap_append, List.append_nil] at distinct
    have once := (List.nodup_append.1 distinct).2.1
    rw [List.append_nil]
    exact (List.nodup_cons.1 once).1
  obtain ⟨added, hears⟩ := delivers.hear outstanding alone brings
  refine ⟨_, routed, ?_⟩
  rw [heard]
  exact ⟨same.outcome, .ballot peer refusal, others, added, [], others ++ added,
    rfl, rfl, hears⟩

/-- The first notice is routed, once all peers were asked. -/
theorem route_notice {decision : Decision}
    (traffic : Traffic peers payload settings delivered []
      (.notice decision peer :: others) rehearsal) :
    ∃ next, rehearsal.route? = some next ∧ next.outcome = rehearsal.outcome ∧
      Delivers peers payload settings delivered
        (.notice decision peer :: others) next := by
  obtain ⟨taken, same, sameReplicas, channel, routed⟩ :=
    Course.route_first traffic.channel
  have delivers (next : Rehearsal) (after : Traffic peers payload settings
      (delivered ++ [.notice decision peer]) [] others next) :
      Delivers peers payload settings delivered
        (.notice decision peer :: others) next :=
    ⟨.notice decision peer, others, [], [], others, rfl, by simp [requests],
      after⟩
  refine ⟨_, routed, ?_⟩
  simp only [receive, Post.envelope]
  cases found : taken.replicas.get? peer with
  | none =>
      exact ⟨same.outcome, delivers taken
        (traffic.deliver same channel (sameReplicas ▸ traffic.replicas))⟩
  | some replica =>
      have isReplica := traffic.replicas peer replica (sameReplicas ▸ found)
      obtain ⟨told, isTold, -, -, tells⟩ :=
        tell_replica channel isReplica decision
      dsimp only
      rw [tells]
      refine ⟨same.outcome, delivers _
        (traffic.deliver (same.aside _ _ _) channel ?_)⟩
      intro other party isFound
      rcases PeerMap.get?_insert_cases isFound with ⟨rfl, rfl⟩ | ⟨-, earlier⟩
      · exact isTold
      · exact traffic.replicas other party (sameReplicas ▸ earlier)

/-- The next envelope is routed, unless none is left. -/
theorem route (traffic : Traffic peers payload settings delivered waiting mail
    rehearsal) :
    (rehearsal.route? = none ∧ waiting = [] ∧ mail = []) ∨
      ∃ next, rehearsal.route? = some next ∧ next.outcome = rehearsal.outcome ∧
        Delivers peers payload settings delivered (requests waiting ++ mail)
          next := by
  cases waiting with
  | cons peer rest => exact .inr traffic.route_request
  | nil =>
      cases mail with
      | nil =>
          refine .inl ⟨?_, rfl, rfl⟩
          simp [route?, traffic.channel, Channel.take?, requests]
      | cons post others =>
          cases post with
          | request peer =>
              have noRequests := traffic.noRequests
              simp [Post.asked?] at noRequests
          | ballot peer refusal => exact .inr traffic.route_ballot
          | notice decision peer => exact .inr traffic.route_notice

/-- When every peer was asked, the traffic begins. -/
theorem of_opens {cast : Cast} {behaviours : PeerMap Behaviour}
    (opens : Opens cast payload settings behaviours rehearsal) :
    Traffic cast.peers payload settings [] cast.peers [] rehearsal where
  setup := opens.conducts.setup
  sound := opens.conducts.sound
  tidy := opens.conducts.tidy
  channel := by
    rw [opens.channel]
    simp [requests, Cast.peers, Function.comp_def]
  asked := rfl
  noRequests := rfl
  voters := cast.distinct
  known := List.nil_subset _
  awaited := by
    intro peer isPeer
    have isMember : peer ∈ cast.peers := by simpa using isPeer
    cases opens.conducts.stance with
    | votes _ heard | commits _ heard | expires _ heard =>
        exact (heard.outstanding peer).2 ⟨isMember, by simp⟩
    | exceeds earlier last _ before => simp at before
  audience := opens.conducts.stance.audience_subset (List.nil_subset _) .abort
  told := by
    intro decision
    simp [Tally.announced, opens.fresh]
  unasked := by simp [opens.replicas]
  replicas := by simp [opens.replicas]
  outcome := by simp [opens.outcome]

end Traffic

end Rehearsal

end CreationCommit
