import CreationCommit.Proofs.RehearsalScene

/-!
# The course of a rehearsal

What the primary has heard, what the channel holds and what the waiting members
are going to say together always make up the tidings of the cast.  Routing an
envelope and looking for the decision keep to this course, and every envelope
that is routed leaves fewer to route.
-/

namespace CreationCommit

/-- What a post tells the primary. -/
def Post.tiding? : Post → Option Tiding
  | .ballot peer refusal => some (peer, refusal.map .refused)
  | _ => none

namespace Rehearsal

/-- What the primary has heard, the channel holds and the waiting members will
say are the tidings of the cast. -/
structure Course (cast : Cast) (payload : List UInt8)
    (settings : TransactionSettings) (waiting : List (PeerId × Behaviour))
    (mail : List Post) (received : List Tiding) (rehearsal : Rehearsal) : Prop
    extends Scene cast payload settings waiting mail received rehearsal where
  noRequests : ∀ peer, .request peer ∉ mail
  outlook : received ++ (waiting.filterMap Cast.departure? ++
    (mail.filterMap Post.tiding? ++ waiting.filterMap Cast.ballot?)) =
      cast.tidings

/-- What one envelope does, apart from the course. -/
structure Moves (before after : Rehearsal) : Prop where
  sameOutcome : after.outcome = before.outcome
  sameNow : after.now = before.now
  announced : after.primary = before.primary ∨
    before.primary.announcements < after.primary.announcements

/-- A later point of the course, with less left to route. -/
def Proceeds (cast : Cast) (payload : List UInt8)
    (settings : TransactionSettings) (left : Nat) (before after : Rehearsal) :
    Prop :=
  ∃ waiting mail received,
    Course cast payload settings waiting mail received after ∧
      budget cast waiting mail after.primary.tally < left ∧ Moves before after

theorem SameLead.moves {before after : Rehearsal}
    (same : SameLead before after) : Moves before after where
  sameOutcome := same.outcome
  sameNow := same.now
  announced := .inl same.primary

/-- The lead has no part in the replicas, the channel and the group. -/
theorem SameLead.aside {before after : Rehearsal} (same : SameLead before after)
    (replicas : PeerMap Party) (channel : Channel) (group : Group) :
    SameLead before { after with replicas, channel, group } :=
  ⟨same.primary, same.now, same.behaviours, same.callbacks, same.outcome⟩

namespace Course

variable {cast : Cast} {payload : List UInt8}
  {settings : TransactionSettings} {waiting rest : List (PeerId × Behaviour)}
  {mail : List Post} {received : List Tiding} {rehearsal stage : Rehearsal}
  {peer : PeerId} {behaviour : Behaviour} {tiding : Tiding} {left : Nat}

/-- The first envelope is taken, which changes nothing but the channel. -/
theorem route_first {first : Post} {posts : List Post}
    (channel : rehearsal.channel =
      ⟨(first :: posts).map (Post.envelope payload), true⟩) :
    ∃ taken, SameLead rehearsal taken ∧ taken.replicas = rehearsal.replicas ∧
      taken.channel = ⟨posts.map (Post.envelope payload), true⟩ ∧
      rehearsal.route? = some (taken.receive (first.envelope payload)) := by
  refine ⟨{ rehearsal with
    channel := ⟨posts.map (Post.envelope payload), true⟩ },
    ⟨rfl, rfl, rfl, rfl, rfl⟩, rfl, rfl, ?_⟩
  simp [route?, channel, Channel.take?]

/-- Notices at the end of the mail tell the primary nothing. -/
theorem tidings_append {added : List Post}
    (notices : ∀ post ∈ added, ∃ decision peer, post = .notice decision peer) :
    (mail ++ added).filterMap Post.tiding? = mail.filterMap Post.tiding? := by
  have silent : added.filterMap Post.tiding? = [] := by
    rw [List.filterMap_eq_nil_iff]
    intro post isPost
    obtain ⟨decision, peer, rfl⟩ := notices post isPost
    rfl
  rw [List.filterMap_append, silent, List.append_nil]

theorem noRequests_append {added : List Post}
    (noRequests : ∀ peer, .request peer ∉ mail)
    (notices : ∀ post ∈ added, ∃ decision peer, post = .notice decision peer) :
    ∀ peer, .request peer ∉ mail ++ added := by
  intro peer isRequest
  rcases List.mem_append.1 isRequest with earlier | isNew
  · exact noRequests peer earlier
  · obtain ⟨decision, other, isNotice⟩ := notices _ isNew
    cases isNotice

/-- The envelope that was taken brings the primary the next tiding. -/
theorem proceeds_by_hearing
    (scene : Scene cast payload settings waiting mail received stage)
    (same : SameLead rehearsal stage)
    (noRequests : ∀ peer, .request peer ∉ mail)
    (outlook : received ++ tiding :: (waiting.filterMap Cast.departure? ++
      (mail.filterMap Post.tiding? ++ waiting.filterMap Cast.ballot?)) =
        cast.tidings)
    (less : budget cast waiting mail stage.primary.tally < left) {event : Event}
    (brings : Trigger.Brings stage.primary.setup
      (.command (.handle event stage.group.view)) tiding) :
    Proceeds cast payload settings left rehearsal
      (stage.withPrimary (·.handle event)) := by
  obtain ⟨added, hears⟩ := scene.hear outlook brings
  refine ⟨waiting, mail ++ added, received ++ [tiding],
    { toScene := hears.scene
      noRequests := noRequests_append noRequests hears.adds.notices
      outlook := ?_ }, ?_, ?_⟩
  · rw [tidings_append hears.adds.notices, List.append_assoc]
    exact outlook
  · have added := hears.adds.budget
    simp only [budget, List.length_append] at less ⊢
    omega
  · exact ⟨hears.sameOutcome.trans same.outcome, hears.sameNow.trans same.now,
      .inr (same.primary ▸ hears.announced)⟩

/-- A request is routed to a member that founds no replica. -/
theorem pass_request
    (course : Course cast payload settings ((peer, behaviour) :: rest) mail
      received rehearsal)
    (hosts : Hosts rehearsal.primary.tally peer none behaviour)
    (same : SameLead rehearsal stage)
    (sameReplicas : stage.replicas = rehearsal.replicas)
    (channel : stage.channel =
      ⟨(rest.map (fun member => Post.request member.1) ++ mail).map
        (Post.envelope payload), true⟩) :
    Scene cast payload settings rest mail received stage := by
  have asked : Scene cast payload settings rest (mail ++ []) received stage := by
    refine course.toScene.ask same ?_ ?_ (by simp) (by simpa using channel)
    · rw [sameReplicas, course.none_at_waiting]
      exact hosts
    · intro other _
      rw [sameReplicas]
  simpa using asked

/-- A request is routed to a member that founds a replica, which votes. -/
theorem found_by_request {replica : Party} {refusal : Option String}
    (course : Course cast payload settings ((peer, behaviour) :: rest) mail
      received rehearsal)
    (same : SameLead rehearsal stage)
    (founded : stage.replicas = rehearsal.replicas.insert peer replica)
    (channel : stage.channel =
      ⟨(rest.map (fun member => Post.request member.1) ++ mail ++
        [Post.ballot peer refusal]).map (Post.envelope payload), true⟩)
    (hosts : Hosts rehearsal.primary.tally peer (some replica) behaviour)
    (stays : Cast.departure? (peer, behaviour) = none)
    (votes : Cast.ballot? (peer, behaviour) =
      some (peer, refusal.map .refused)) :
    Proceeds cast payload settings
      (budget cast ((peer, behaviour) :: rest) mail rehearsal.primary.tally)
      rehearsal stage := by
  have scene : Scene cast payload settings rest
      (mail ++ [Post.ballot peer refusal]) received stage := by
    refine course.toScene.ask same ?_ ?_ (by simp) ?_
    · simpa [founded, PeerMap.get?_insert] using hosts
    · intro other differs
      simp [founded, PeerMap.get?_insert, differs]
    · rw [channel, List.append_assoc]
  refine ⟨rest, mail ++ [Post.ballot peer refusal], received,
    { toScene := scene, noRequests := ?_, outlook := ?_ }, ?_, same.moves⟩
  · intro other isRequest
    rcases List.mem_append.1 isRequest with earlier | isNew
    · exact course.noRequests other earlier
    · simp at isNew
  · have outlook := course.outlook
    rw [List.filterMap_cons_none stays, List.filterMap_cons_some votes] at outlook
    rw [← outlook, List.filterMap_append]
    simp [Post.tiding?]
  · rw [same.primary]
    simp only [budget, List.length_append, List.length_cons, List.length_nil]
    omega

/-- The first request is routed. -/
theorem route_request
    (course : Course cast payload settings ((peer, behaviour) :: rest) mail
      received rehearsal) :
    ∃ next, rehearsal.route? = some next ∧
      Proceeds cast payload settings
        (budget cast ((peer, behaviour) :: rest) mail rehearsal.primary.tally)
        rehearsal next := by
  have isMember : (peer, behaviour) ∈ cast.members :=
    course.answered.subset List.mem_cons_self
  obtain ⟨taken, same, sameReplicas, channel, routed⟩ := route_first course.channel
  refine ⟨_, routed, ?_⟩
  have behaves : taken.behaviours.get? peer = some behaviour := by
    rw [same.behaviours]
    exact course.behaves _ isMember
  have fewer : budget cast rest mail rehearsal.primary.tally <
      budget cast ((peer, behaviour) :: rest) mail rehearsal.primary.tally := by
    simp only [budget, List.length_cons]
    omega
  have outlook := course.outlook
  simp only [receive, Post.envelope, receiveRequest, behaves, Option.getD_some]
  cases behaviour with
  | departing =>
      have left := same.aside taken.replicas taken.channel
        (taken.group.leave peer).1
      have scene := course.pass_request rfl left sameReplicas channel
      refine proceeds_by_hearing scene left course.noRequests outlook ?_
        (.departure peer _)
      exact same.primary ▸ fewer
  | silent =>
      have scene : Scene cast payload settings rest mail received taken :=
        course.pass_request rfl same sameReplicas channel
      exact ⟨rest, mail, received,
        { toScene := scene, noRequests := course.noRequests, outlook },
        same.primary ▸ fewer, same.moves⟩
  | failing =>
      obtain ⟨replica, isReplica, phase, founds⟩ :=
        found_replica channel peer (some rejection)
      rw [founds]
      exact course.found_by_request (same.aside _ _ _) (by rw [sameReplicas]) rfl
        ⟨replica, rfl, isReplica, phase⟩ rfl rfl
  | healthy =>
      obtain ⟨replica, isReplica, phase, founds⟩ :=
        found_replica channel peer none
      have enrolls : taken.withReplica
          (taken.replicaFor peer ⟨GroupShape.primaryPeer, objectId, payload⟩)
          (·.handle .activated) = taken.withReplica
            (taken.replicaFor peer ⟨GroupShape.primaryPeer, objectId, payload⟩)
            (·.enroll none) := rfl
      rw [enrolls, founds]
      exact course.found_by_request (same.aside _ _ _) (by rw [sameReplicas]) rfl
        ⟨replica, rfl, isReplica, .inl phase⟩ rfl rfl

/-- The first vote is routed, once all members were asked. -/
theorem route_ballot {refusal : Option String} {others : List Post}
    (course : Course cast payload settings [] (.ballot peer refusal :: others)
      received rehearsal) :
    ∃ next, rehearsal.route? = some next ∧
      Proceeds cast payload settings
        (budget cast [] (.ballot peer refusal :: others) rehearsal.primary.tally)
        rehearsal next := by
  obtain ⟨taken, same, sameReplicas, channel, routed⟩ := route_first course.channel
  refine ⟨_, routed, ?_⟩
  have setup : taken.primary.setup = primarySetup payload settings := by
    rw [same.primary]
    exact course.conducts.setup
  have atPrimary : GroupShape.primaryPeer = taken.primary.setup.localPeer := by
    rw [setup]
    rfl
  have scene : Scene cast payload settings [] others received taken := by
    refine course.toScene.change same course.answered channel ?_ ?_ ?_
    · rw [sameReplicas]
      exact course.hosted
    · exact fun decision other => List.mem_cons_of_mem _
    · intro _ other _ told
      rw [sameReplicas]
      refine told.imp_left ?_
      rintro ⟨decision, isNotice⟩
      exact ⟨decision, by simpa using isNotice⟩
  have heard : taken.receive ((Post.ballot peer refusal).envelope payload) =
      taken.withPrimary (·.handle (.voteReceived
        ⟨peer, objectId, Numbering.start.next, refusal⟩)) := if_pos atPrimary
  have brings : Trigger.Brings taken.primary.setup
      (.command (.handle (.voteReceived
        ⟨peer, objectId, Numbering.start.next, refusal⟩) taken.group.view))
      (peer, refusal.map .refused) := by
    refine .vote _ _ ?_
    rw [setup]
    rfl
  rw [heard]
  refine proceeds_by_hearing scene same ?_ course.outlook ?_ brings
  · exact fun other isRequest =>
      course.noRequests other (List.mem_cons_of_mem _ isRequest)
  · rw [same.primary]
    simp only [budget, List.length_cons]
    omega

/-- A notice was taken: it is enough that the addressed peer is told, if it is
healthy. -/
theorem proceeds_by_notice {decision : Decision} {others : List Post}
    (course : Course cast payload settings [] (.notice decision peer :: others)
      received rehearsal)
    (same : SameLead rehearsal stage)
    (channel : stage.channel = ⟨others.map (Post.envelope payload), true⟩)
    (hosted : Hosted cast [] stage.replicas rehearsal.primary.tally)
    (elsewhere : ∀ other, other ≠ peer →
      stage.replicas.get? other = rehearsal.replicas.get? other)
    (obeyed : (peer, .healthy) ∈ cast.members →
      Told others stage.replicas rehearsal.primary.tally peer) :
    Proceeds cast payload settings
      (budget cast [] (.notice decision peer :: others) rehearsal.primary.tally)
      rehearsal stage := by
  have scene : Scene cast payload settings [] others received stage := by
    refine course.toScene.change same course.answered channel hosted
      (fun _ _ => List.mem_cons_of_mem _) ?_
    intro _ other healthy told
    by_cases isPeer : other = peer
    · exact isPeer ▸ obeyed (isPeer ▸ healthy)
    rcases told with ⟨otherDecision, isNotice⟩ | ⟨replica, found, told⟩
    · exact .inl ⟨otherDecision, by simpa [isPeer] using isNotice⟩
    · exact .inr ⟨replica, (elsewhere other isPeer).trans found, told⟩
  refine ⟨[], others, received,
    { toScene := scene, noRequests := ?_, outlook := course.outlook }, ?_,
    same.moves⟩
  · exact fun other isRequest =>
      course.noRequests other (List.mem_cons_of_mem _ isRequest)
  · rw [same.primary]
    simp only [budget, List.length_cons]
    omega

/-- The first notice is routed, once all members were asked. -/
theorem route_notice {decision : Decision} {others : List Post}
    (course : Course cast payload settings [] (.notice decision peer :: others)
      received rehearsal) :
    ∃ next, rehearsal.route? = some next ∧
      Proceeds cast payload settings
        (budget cast [] (.notice decision peer :: others)
          rehearsal.primary.tally)
        rehearsal next := by
  obtain ⟨taken, same, sameReplicas, channel, routed⟩ := route_first course.channel
  refine ⟨_, routed, ?_⟩
  obtain ⟨finalized, phase⟩ :=
    course.spread.noticed decision peer List.mem_cons_self
  simp only [receive, Post.envelope]
  cases found : taken.replicas.get? peer with
  | none =>
      refine course.proceeds_by_notice same channel
        (sameReplicas ▸ course.hosted) (fun _ _ => by rw [sameReplicas])
        fun healthy => ?_
      obtain ⟨replica, isFound, -⟩ :=
        course.hosted.asked peer .healthy healthy (by simp)
      simp [← sameReplicas, found] at isFound
  | some replica =>
      obtain ⟨behaviour, isMember, isReplica, hosts⟩ :=
        course.hosted.behaviour_of_found (sameReplicas ▸ found)
      obtain ⟨told, isTold, obeys, stays, tells⟩ :=
        tell_replica channel isReplica decision
      obtain ⟨hosts, obeyed⟩ := hosts.told finalized phase isTold obeys stays
      dsimp only
      rw [tells]
      refine course.proceeds_by_notice (same.aside _ _ _) channel ?_ ?_
        fun healthy => ?_
      · rw [sameReplicas]
        exact course.hosted.insert isMember hosts
      · intro other differs
        simp [PeerMap.get?_insert, differs, sameReplicas]
      · have isHealthy := Cast.behaviour_unique isMember healthy
        exact .inr ⟨told, by simp [PeerMap.get?_insert], obeyed isHealthy⟩

/-- The next envelope is routed, unless none is left. -/
theorem route
    (course : Course cast payload settings waiting mail received rehearsal) :
    (rehearsal.route? = none ∧ waiting = [] ∧ mail = []) ∨
      ∃ next, rehearsal.route? = some next ∧
        Proceeds cast payload settings
          (budget cast waiting mail rehearsal.primary.tally) rehearsal next := by
  cases waiting with
  | cons member rest => exact .inr course.route_request
  | nil =>
      cases mail with
      | nil =>
          refine .inl ⟨?_, rfl, rfl⟩
          simp [route?, course.channel, Channel.take?]
      | cons post others =>
          cases post with
          | request peer =>
              exact absurd List.mem_cons_self (course.noRequests peer)
          | ballot peer refusal => exact .inr course.route_ballot
          | notice decision peer => exact .inr course.route_notice

end Course

/-- What the waiter's look at a rehearsal comes to: votes are awaited until the
deadline, or it finds the outcome. -/
inductive Looks (cast : Cast) (payload : List UInt8)
    (settings : TransactionSettings) (waiting : List (PeerId × Behaviour))
    (mail : List Post) (received : List Tiding) (before after : Rehearsal) :
    Prop
  | waits (course : Course cast payload settings waiting mail received after)
      (early : before.now = 0) (undecided : after.outcome = none)
      (finds : (before.primary.examine before.now).2 =
        .pending (some (Instant.after 0 settings.timeout)))
      (voting : after.primary.tally.phase = .voting)
      (deadline : after.primary.tally.deadline =
        some (Instant.after 0 settings.timeout))
      (announced : after.primary.announcements = before.primary.announcements)
      (adds : Adds cast before.primary.tally after.primary.tally [])
  | finds (added : List Post)
      (course : Course cast payload settings waiting (mail ++ added) received
        after)
      (adds : Adds cast before.primary.tally after.primary.tally added)
      (decided : after.outcome.isSome)

namespace Course

variable {cast : Cast} {payload : List UInt8}
  {settings : TransactionSettings} {waiting : List (PeerId × Behaviour)}
  {mail : List Post} {received : List Tiding} {rehearsal : Rehearsal}

/-- The waiter looks. -/
theorem look
    (course : Course cast payload settings waiting mail received rehearsal)
    (positive : 0 < Instant.after 0 settings.timeout)
    (undecided : rehearsal.outcome = none) :
    Looks cast payload settings waiting mail received rehearsal rehearsal.look ∧
      rehearsal.look.now = rehearsal.now := by
  obtain ⟨conducts, found⟩ := course.conducts.wait positive
  have settles := Party.settles_examine course.conducts.role
    course.conducts.sound course.conducts.tidy rehearsal.now
  obtain ⟨party, duties, looked⟩ : ∃ party duties, rehearsal.primary.look
      (.clock rehearsal.now) = (party, duties) := ⟨_, _, rfl⟩
  have looks := look_eq course.conducts.setup course.conducts.sound
    course.channel undecided looked
  rw [looked] at conducts found settles
  have adds := adds_of_settles settles (conducts.length_audience course.within)
  rw [looks]
  refine ⟨?_, rfl⟩
  rcases found with ⟨early, -, finds, voting, deadline, announced⟩ |
    ⟨outcome, finds, finalized, yields⟩
  · obtain rfl : duties = [] := by
      rw [Party.look_clock_of_pending _ finds] at looked
      exact (Prod.mk.inj looked).2.symm
    have pending : (rehearsal.primary.examine rehearsal.now).2.outcome? = none := by
      rw [finds]
      rfl
    rw [pending]
    have noOutcome (outcome : Outcome) (found : none = some outcome) :
        party.tally.finalized = true ∧ party.tally.Yields outcome := by
      cases found
    have scene :=
      course.toScene.look looked conducts course.within settles noOutcome
    rw [List.filterMap_nil, List.append_nil] at scene
    exact .waits { toScene := scene, noRequests := course.noRequests,
                   outlook := course.outlook }
      early rfl finds voting deadline announced adds
  · rw [finds]
    have scene := course.toScene.look looked conducts course.within settles
      fun found isFound => Option.some.inj isFound ▸ ⟨finalized, yields⟩
    exact .finds (duties.filterMap Duty.post?)
      { toScene := scene
        noRequests := noRequests_append course.noRequests adds.notices
        outlook := by
          rw [tidings_append adds.notices]
          exact course.outlook }
      adds rfl

/-- The time passes while the votes are awaited and nothing is left to route. -/
theorem pass
    (course : Course cast payload settings waiting mail received rehearsal)
    (voting : rehearsal.primary.tally.phase = .voting)
    (deadline : rehearsal.primary.tally.deadline =
      some (Instant.after 0 settings.timeout))
    (noMail : rehearsal.channel.queue.isEmpty) :
    Course cast payload settings waiting mail received
      { rehearsal with now := Instant.after 0 settings.timeout } := by
  have noPosts : waiting = [] ∧ mail = [] := by
    simpa [course.channel] using noMail
  have all : received = cast.tidings := by
    simpa [noPosts] using course.outlook
  have stance : cast.Stance settings received (Instant.after 0 settings.timeout)
      rehearsal.primary.tally := by
    cases course.conducts.stance with
    | votes _ heard => exact .votes voting heard (.inr ⟨rfl, all⟩)
    | commits committed => simp [voting] at committed
    | exceeds _ _ aborted | expires aborted => simp [voting] at aborted
  exact
    { conducts := { course.conducts with stance, deadline := .inr deadline }
      within := course.within
      behaves := course.behaves
      answered := course.answered
      channel := course.channel
      hosted := course.hosted
      spread := course.spread
      outcome := course.outcome
      noRequests := course.noRequests
      outlook := course.outlook }

end Course

end Rehearsal

end CreationCommit
