import CreationCommit.Proofs.RehearsalOutcome
import CreationCommit.Proofs.RehearsalTraffic

/-!
# The router of a rehearsal

The router selects between the next envelope and the signal that the waiter has
found the decision.  Once it has taken the signal it drains the channel and
returns when nothing is left.  When both are there it may take either, the
waiter may look at any time before it has found the decision, and the clock may
show any time, so every way in which the selection resolves is a list of turns.
-/

namespace CreationCommit

/-- The peer that an envelope asks for its vote. -/
def Envelope.asked? (envelope : Envelope) : Option PeerId :=
  match envelope.message with
  | .request _ => some envelope.recipient
  | _ => none

/-- The peer that an envelope tells the decision. -/
def Envelope.told? (decision : Decision) (envelope : Envelope) :
    Option PeerId :=
  match envelope.message with
  | .notice other _ =>
      if other = decision then some envelope.recipient else none
  | _ => none

namespace Post

variable (payload : List UInt8)

theorem filterMap_asked? (posts : List Post) :
    (posts.map (Post.envelope payload)).filterMap Envelope.asked? =
      posts.filterMap asked? := by
  rw [List.filterMap_map]
  refine List.filterMap_congr fun post _ => ?_
  cases post <;> rfl

theorem filterMap_told? (decision : Decision) (posts : List Post) :
    (posts.map (Post.envelope payload)).filterMap
        (Envelope.told? decision) = posts.filterMap (told? decision) := by
  rw [List.filterMap_map]
  refine List.filterMap_congr fun post _ => ?_
  cases post <;> rfl

end Post

/-- Whether the router selects between the channel and the signal, drains the
channel, or has returned. -/
inductive RouterStage
  | selecting
  | draining
  | returned
deriving DecidableEq, Repr

/-- A rehearsal with its router: what was sent altogether, and what the router
has routed. -/
structure Routing where
  rehearsal : Rehearsal
  stage : RouterStage
  sent : List Envelope
  routed : List Envelope

namespace Routing

/-- What happens next: the waiter looks, the clock goes on, or the router does
one thing. -/
inductive Turn
  | look
  | clock (now : Instant)
  | route
  | shutDown
  | finish
deriving DecidableEq, Repr

/-- Whether it is the router that takes the turn. -/
def Turn.isRouters : Turn → Bool
  | look | clock _ => false
  | route | shutDown | finish => true

/-- The router begins when the peers of the rehearsal were asked. -/
def opening (shape : GroupShape) (settings : TransactionSettings) :
    Routing where
  rehearsal :=
    (Rehearsal.start shape settings).activate shape.latePeers
  stage := .selecting
  sent :=
    ((Rehearsal.start shape settings).activate shape.latePeers).channel.queue
  routed := []

/-- The rehearsal goes on: what lies behind the envelopes that were kept was
sent. -/
def proceed (routing : Routing) (kept : List Envelope)
    (rehearsal : Rehearsal) : Routing :=
  { routing with
    rehearsal
    sent := routing.sent ++ rehearsal.channel.queue.drop kept.length }

/-- Take a turn, if it is possible. -/
def turn? (routing : Routing) : Turn → Option Routing
  | .look =>
      if routing.rehearsal.outcome.isNone then
        some (routing.proceed routing.rehearsal.channel.queue
          routing.rehearsal.look)
      else
        none
  | .clock now =>
      some
        { routing with
          rehearsal :=
            { routing.rehearsal with now := max routing.rehearsal.now now } }
  | .route =>
      if routing.stage = .returned then
        none
      else
        match routing.rehearsal.channel.queue, routing.rehearsal.route? with
        | envelope :: kept, some rehearsal =>
            some
              { routing.proceed kept rehearsal with
                routed := routing.routed ++ [envelope] }
        | _, _ => none
  | .shutDown =>
      if routing.stage = .selecting ∧ routing.rehearsal.outcome.isSome then
        some { routing with stage := .draining }
      else
        none
  | .finish =>
      if routing.stage = .draining ∧
          routing.rehearsal.channel.queue.isEmpty then
        some { routing with stage := .returned }
      else
        none

/-- Take turns one after the other, if all are possible. -/
def run? (routing : Routing) (turns : List Turn) : Option Routing :=
  turns.foldlM turn? routing

theorem run?_append (routing : Routing) (first second : List Turn) :
    routing.run? (first ++ second) =
      (routing.run? first).bind (·.run? second) := by
  simp [run?, List.foldlM_append]

theorem run?_cons_eq_some {routing last : Routing} {turn : Turn}
    {rest : List Turn} :
    routing.run? (turn :: rest) = some last ↔
      ∃ next, routing.turn? turn = some next ∧ next.run? rest = some last := by
  simp [run?, List.foldlM_cons, Option.bind_eq_some_iff]

/-- Routing an envelope leaves the outcome as it is. -/
theorem outcome_of_route {rehearsal next : Rehearsal}
    (routes : rehearsal.route? = some next) :
    next.outcome = rehearsal.outcome := by
  simp only [Rehearsal.route?, Option.map_eq_some_iff] at routes
  obtain ⟨⟨envelope, channel⟩, -, rfl⟩ := routes
  unfold Rehearsal.receive
  split
  · unfold Rehearsal.receiveRequest
    split <;> rfl
  · split <;> rfl
  · split <;> rfl

section Turns

variable {routing next : Routing} {turn : Turn}

/-- What routing an envelope comes to. -/
theorem of_route (taken : routing.turn? .route = some next) :
    ∃ envelope kept rehearsal, routing.stage ≠ .returned ∧
      routing.rehearsal.channel.queue = envelope :: kept ∧
      routing.rehearsal.route? = some rehearsal ∧
      next = { routing.proceed kept rehearsal with
        routed := routing.routed ++ [envelope] } := by
  simp only [turn?, Option.ite_none_left_eq_some] at taken
  obtain ⟨notReturned, taken⟩ := taken
  split at taken
  · rename_i envelope kept rehearsal queue routes
    exact ⟨envelope, kept, rehearsal, notReturned, queue, routes,
      (Option.some.inj taken).symm⟩
  · cases taken

/-- An envelope that is there can be routed. -/
theorem route_of_routes {rehearsal : Rehearsal}
    (notReturned : routing.stage ≠ .returned)
    (routes : routing.rehearsal.route? = some rehearsal) :
    ∃ next, routing.turn? .route = some next ∧ next.stage = routing.stage ∧
      next.rehearsal = rehearsal := by
  cases queue : routing.rehearsal.channel.queue with
  | nil => simp [Rehearsal.route?, Channel.take?, queue] at routes
  | cons envelope kept =>
      refine ⟨{ routing.proceed kept rehearsal with
        routed := routing.routed ++ [envelope] }, ?_, rfl, rfl⟩
      simp only [turn?, if_neg notReturned, queue, routes]

/-- How far the router has come. -/
def progress (routing : Routing) : Nat :=
  routing.routed.length +
    match routing.stage with
    | .selecting => 0
    | .draining => 1
    | .returned => 2

/-- Every turn of the router takes it one step further, and no other does. -/
theorem progress_of_turn (taken : routing.turn? turn = some next) :
    next.progress = routing.progress + if turn.isRouters then 1 else 0 := by
  cases turn with
  | look =>
      simp only [turn?, Option.ite_none_right_eq_some] at taken
      obtain ⟨-, isNext⟩ := taken
      obtain rfl := Option.some.inj isNext
      rfl
  | clock now =>
      obtain rfl := Option.some.inj taken
      rfl
  | route =>
      obtain ⟨envelope, kept, rehearsal, -, -, -, rfl⟩ := of_route taken
      simp [progress, proceed, Turn.isRouters]
      omega
  | shutDown =>
      simp only [turn?, Option.ite_none_right_eq_some] at taken
      obtain ⟨⟨selecting, -⟩, isNext⟩ := taken
      obtain rfl := Option.some.inj isNext
      simp [progress, selecting, Turn.isRouters]
  | finish =>
      simp only [turn?, Option.ite_none_right_eq_some] at taken
      obtain ⟨⟨draining, -⟩, isNext⟩ := taken
      obtain rfl := Option.some.inj isNext
      simp [progress, draining, Turn.isRouters]

/-- The router leaves the outcome as it is. -/
theorem outcome_of_turn (taken : routing.turn? turn = some next)
    (isRouters : turn.isRouters) :
    next.rehearsal.outcome = routing.rehearsal.outcome := by
  cases turn with
  | look | clock => cases isRouters
  | route =>
      obtain ⟨envelope, kept, rehearsal, -, -, routes, rfl⟩ := of_route taken
      exact outcome_of_route routes
  | shutDown | finish =>
      simp only [turn?, Option.ite_none_right_eq_some] at taken
      obtain ⟨-, isNext⟩ := taken
      obtain rfl := Option.some.inj isNext
      rfl

theorem progress_of_run {turns : List Turn}
    (taken : routing.run? turns = some next) :
    next.progress = routing.progress + turns.countP Turn.isRouters := by
  induction turns generalizing routing with
  | nil =>
      obtain rfl : routing = next := Option.some.inj taken
      simp
  | cons turn rest ih =>
      obtain ⟨second, first, later⟩ := run?_cons_eq_some.1 taken
      rw [ih later, progress_of_turn first, List.countP_cons]
      omega

end Turns

/-- What holds of a router that delivered some posts. -/
structure Follows (peers : List PeerId) (payload : List UInt8)
    (settings : TransactionSettings) (delivered : List Post)
    (waiting : List PeerId) (mail : List Post) (routing : Routing) : Prop where
  traffic : Rehearsal.Traffic peers payload settings delivered waiting mail
    routing.rehearsal
  routed : routing.routed = delivered.map (Post.envelope payload)
  sent : routing.sent = routing.routed ++ routing.rehearsal.channel.queue
  signalled : routing.stage ≠ .selecting →
    routing.rehearsal.outcome.isSome
  emptied : routing.stage = .returned →
    routing.rehearsal.channel.queue = []

namespace Follows

variable {peers : List PeerId} {payload : List UInt8}
  {settings : TransactionSettings} {delivered mail : List Post}
  {waiting : List PeerId} {routing next : Routing} {turn : Turn}

theorem queue (follows : Follows peers payload settings delivered waiting mail
    routing) :
    routing.rehearsal.channel.queue =
      (Rehearsal.requests waiting ++ mail).map (Post.envelope payload) := by
  rw [follows.traffic.channel]

theorem look (follows : Follows peers payload settings delivered waiting mail
    routing) (taken : routing.turn? .look = some next) :
    ∃ added, Follows peers payload settings delivered waiting (mail ++ added)
      next := by
  simp only [turn?, Option.ite_none_right_eq_some,
    Option.isNone_iff_eq_none] at taken
  obtain ⟨undecided, isNext⟩ := taken
  obtain rfl := Option.some.inj isNext
  have selecting : routing.stage = .selecting := by
    by_contra notSelecting
    simpa [undecided] using follows.signalled notSelecting
  obtain ⟨added, looked⟩ := follows.traffic.look undecided
  have queue : routing.rehearsal.look.channel.queue =
      routing.rehearsal.channel.queue ++ added.map (Post.envelope payload) := by
    rw [looked.channel, follows.queue]
    simp
  refine ⟨added, looked, follows.routed, ?_, fun notSelecting => ?_,
    fun returned => ?_⟩
  · simp only [proceed, follows.sent, queue, List.drop_left, List.append_assoc]
  · exact absurd selecting notSelecting
  · have clash := selecting.symm.trans returned
    cases clash

theorem route (follows : Follows peers payload settings delivered waiting mail
    routing) (taken : routing.turn? .route = some next) :
    ∃ post waiting mail, Follows peers payload settings (delivered ++ [post])
      waiting mail next := by
  obtain ⟨envelope, rest, rehearsal, notReturned, queue, routes, rfl⟩ :=
    of_route taken
  rcases follows.traffic.route with ⟨noMail, -⟩ |
    ⟨routed, isRouted, sameOutcome, first, kept, added, left, behind, posts,
      later, traffic⟩
  · simp [noMail] at routes
  obtain rfl := Option.some.inj (isRouted.symm.trans routes)
  obtain ⟨rfl, rfl⟩ : first.envelope payload = envelope ∧
      kept.map (Post.envelope payload) = rest := by
    have same := follows.queue.symm.trans queue
    rw [posts] at same
    simpa using same
  have queueThen : routed.channel.queue = kept.map (Post.envelope payload) ++
      added.map (Post.envelope payload) := by
    rw [traffic.channel, later, List.map_append]
  refine ⟨first, left, behind, traffic, ?_, ?_, ?_, ?_⟩
  · simp [follows.routed]
  · simp only [proceed, follows.sent, queue, queueThen, List.drop_left,
      List.append_assoc, List.cons_append, List.nil_append]
  · intro notSelecting
    simp only [proceed, sameOutcome]
    exact follows.signalled notSelecting
  · exact fun returned => absurd returned notReturned

/-- Every turn keeps what holds of the router. -/
theorem step (follows : Follows peers payload settings delivered waiting mail
    routing) (taken : routing.turn? turn = some next) :
    ∃ delivered waiting mail,
      Follows peers payload settings delivered waiting mail next := by
  cases turn with
  | look =>
      obtain ⟨added, looked⟩ := follows.look taken
      exact ⟨delivered, waiting, mail ++ added, looked⟩
  | route =>
      obtain ⟨post, left, behind, routed⟩ := follows.route taken
      exact ⟨delivered ++ [post], left, behind, routed⟩
  | clock now =>
      obtain rfl := Option.some.inj taken
      exact ⟨delivered, waiting, mail, follows.traffic.clock _, follows.routed,
        follows.sent, follows.signalled, follows.emptied⟩
  | shutDown =>
      simp only [turn?, Option.ite_none_right_eq_some] at taken
      obtain ⟨⟨-, decided⟩, isNext⟩ := taken
      obtain rfl := Option.some.inj isNext
      exact ⟨delivered, waiting, mail, follows.traffic, follows.routed,
        follows.sent, fun _ => decided, by simp⟩
  | finish =>
      simp only [turn?, Option.ite_none_right_eq_some,
        List.isEmpty_iff] at taken
      obtain ⟨⟨draining, emptied⟩, isNext⟩ := taken
      obtain rfl := Option.some.inj isNext
      exact ⟨delivered, waiting, mail, follows.traffic, follows.routed,
        follows.sent, fun _ => follows.signalled (by simp [draining]),
        fun _ => emptied⟩

theorem run {turns : List Turn}
    (follows : Follows peers payload settings delivered waiting mail routing)
    (taken : routing.run? turns = some next) :
    ∃ delivered waiting mail,
      Follows peers payload settings delivered waiting mail next := by
  induction turns generalizing routing delivered waiting mail with
  | nil =>
      obtain rfl : routing = next := Option.some.inj taken
      exact ⟨delivered, waiting, mail, follows⟩
  | cons turn rest ih =>
      obtain ⟨second, first, later⟩ := run?_cons_eq_some.1 taken
      obtain ⟨_, _, _, goesOn⟩ := follows.step first
      exact ih goesOn later

/-- No replica is there yet where a request is still to arrive. -/
theorem unasked {envelope : Envelope} {peer : PeerId}
    (follows : Follows peers payload settings delivered waiting mail routing)
    (queued : envelope ∈ routing.rehearsal.channel.queue)
    (asks : envelope.asked? = some peer) :
    routing.rehearsal.replicas.get? peer = none := by
  have isAsked : peer ∈ (Rehearsal.requests waiting ++ mail).filterMap
      Post.asked? := by
    rw [← Post.filterMap_asked? payload, ← follows.queue]
    exact List.mem_filterMap.2 ⟨envelope, queued, asks⟩
  refine follows.traffic.unasked peer ?_
  simpa [follows.traffic.noRequests, Rehearsal.requests, List.filterMap_map,
    Function.comp_def, Post.asked?] using isAsked

theorem length_routed
    (follows : Follows peers payload settings delivered waiting mail routing) :
    routing.routed.length ≤ 3 * peers.length := by
  have all := follows.traffic.length_le
  rw [List.length_append] at all
  rw [follows.routed, List.length_map]
  omega

/-- Once the waiter has the outcome, the router has a turn until it returns. -/
theorem goesOn
    (follows : Follows peers payload settings delivered waiting mail routing)
    (decided : routing.rehearsal.outcome.isSome)
    (notReturned : routing.stage ≠ .returned) :
    ∃ turn next, turn.isRouters ∧ routing.turn? turn = some next := by
  cases stage : routing.stage with
  | returned => exact absurd stage notReturned
  | selecting =>
      exact ⟨.shutDown, _, rfl, if_pos ⟨stage, decided⟩⟩
  | draining =>
      rcases follows.traffic.route with ⟨-, noRequests, noMail⟩ |
        ⟨rehearsal, routes, -⟩
      · have emptied : routing.rehearsal.channel.queue.isEmpty := by
          simp [follows.queue, noRequests, noMail, Rehearsal.requests]
        exact ⟨.finish, _, rfl, if_pos ⟨stage, emptied⟩⟩
      · obtain ⟨next, taken, -⟩ := route_of_routes notReturned routes
        exact ⟨.route, next, rfl, taken⟩

/-- Once the waiter has the outcome, the router can return by itself. -/
theorem exists_end
    (follows : Follows peers payload settings delivered waiting mail routing)
    (decided : routing.rehearsal.outcome.isSome) :
    ∃ turns last, (∀ turn ∈ turns, turn.isRouters) ∧
      routing.run? turns = some last ∧ last.stage = .returned := by
  obtain ⟨left, enough⟩ : ∃ left,
      3 * peers.length + 2 ≤ routing.progress + left :=
    ⟨3 * peers.length + 2, Nat.le_add_left _ _⟩
  -- every turn of the router is progress, which has a bound
  induction left generalizing routing delivered waiting mail with
  | zero =>
      have few := follows.length_routed
      refine ⟨[], routing, by simp, rfl, ?_⟩
      cases stage : routing.stage with
      | returned => rfl
      | selecting | draining =>
          simp only [progress, stage] at enough
          omega
  | succ left ih =>
      by_cases returned : routing.stage = .returned
      · exact ⟨[], routing, by simp, rfl, returned⟩
      · obtain ⟨turn, next, isRouters, taken⟩ := follows.goesOn decided returned
        obtain ⟨_, _, _, nextFollows⟩ := follows.step taken
        have further := progress_of_turn taken
        rw [if_pos isRouters] at further
        have stillDecided : next.rehearsal.outcome.isSome := by
          rw [outcome_of_turn taken isRouters]
          exact decided
        obtain ⟨turns, last, allRouters, later, ended⟩ :=
          ih nextFollows stillDecided (by omega)
        exact ⟨turn :: turns, last, List.forall_mem_cons.2 ⟨isRouters, allRouters⟩,
          run?_cons_eq_some.2 ⟨next, taken, later⟩, ended⟩

end Follows

/-- The router has returned: the decision was found, nothing is left, and
everything that was sent was routed; among it were one request to each peer
that was asked and one notice to each peer that the decision had to reach. -/
structure Completes (shape : GroupShape) (routing : Routing) : Prop where
  decided : routing.rehearsal.outcome.isSome
  emptied : routing.rehearsal.channel.queue = []
  routedAll : routing.routed = routing.sent
  requests : routing.routed.filterMap Envelope.asked? = shape.cast.peers
  notices : ∃ decision,
    routing.rehearsal.primary.tally.phase = decision.phase ∧
      ∀ other, routing.routed.filterMap (Envelope.told? other) =
        if other = decision then
          routing.rehearsal.primary.tally.audience decision
        else
          []

/-- What is known of a router after some turns. -/
structure Drains (shape : GroupShape) (turns : List Turn) (routing : Routing) :
    Prop where
  few : routing.routed.length ≤ 3 * (shape.replicas + shape.lateJoiners)
  stops : turns.countP Turn.isRouters ≤
    3 * (shape.replicas + shape.lateJoiners) + 2
  goesOn : routing.rehearsal.outcome.isSome → routing.stage ≠ .returned →
    ∃ turn next, turn.isRouters ∧ routing.turn? turn = some next
  ends : routing.rehearsal.outcome.isSome →
    ∃ more last, (∀ turn ∈ more, turn.isRouters) ∧
      routing.run? more = some last ∧ last.stage = .returned
  inOrder : routing.sent = routing.routed ++ routing.rehearsal.channel.queue
  foundsOnce : ∀ envelope ∈ routing.rehearsal.channel.queue,
    ∀ peer, envelope.asked? = some peer →
      routing.rehearsal.replicas.get? peer = none
  returns : routing.stage = .returned → Completes shape routing

theorem Follows.completes {shape : GroupShape} {settings : TransactionSettings}
    {delivered mail : List Post} {waiting : List PeerId} {routing : Routing}
    (follows : Follows shape.cast.peers shape.payload settings delivered waiting
      mail routing)
    (returned : routing.stage = .returned) : Completes shape routing := by
  have traffic := follows.traffic
  have decided := follows.signalled (by simp [returned])
  have emptied := follows.emptied returned
  obtain ⟨rfl, rfl⟩ : waiting = [] ∧ mail = [] := by
    simpa [follows.queue, Rehearsal.requests] using emptied
  have finalized := traffic.outcome decided
  refine ⟨decided, emptied, ?_, ?_, ?_⟩
  · rw [follows.sent, emptied, List.append_nil]
  · rw [follows.routed, Post.filterMap_asked?, ← traffic.asked, List.append_nil]
  · obtain ⟨decision, phase⟩ : ∃ decision : Decision,
        routing.rehearsal.primary.tally.phase = decision.phase := by
      rcases Tally.isDecided_iff.1 (traffic.tidy.decided finalized) with
        committed | aborted
      · exact ⟨.commit, committed⟩
      · exact ⟨.abort, aborted⟩
    refine ⟨decision, phase, fun other => ?_⟩
    have told := traffic.told other
    rw [List.append_nil] at told
    rw [follows.routed, Post.filterMap_told?, told, Tally.announced]
    by_cases same : other = decision
    · subst same
      rw [if_pos ⟨finalized, phase⟩, if_pos rfl]
    · have differs : decision.phase ≠ other.phase := fun samePhase =>
        same (Decision.phase_injective samePhase).symm
      simp [same, phase, differs]

/-- The router follows the rehearsal of a group. -/
theorem follows_opening {shape : GroupShape} (settings : TransactionSettings)
    (fits : shape.misbehaving ≤ shape.replicas) :
    Follows shape.cast.peers shape.payload settings [] shape.cast.peers []
      (opening shape settings) where
  traffic := .of_opens (Rehearsal.opens_rehearsal shape settings fits)
  routed := rfl
  sent := rfl
  signalled := by simp [opening]
  emptied := by simp [opening]

theorem drains_of_run {shape : GroupShape} {settings : TransactionSettings}
    {turns : List Turn} {routing : Routing}
    (fits : shape.misbehaving ≤ shape.replicas)
    (taken : (opening shape settings).run? turns = some routing) :
    Drains shape turns routing := by
  obtain ⟨delivered, waiting, mail, follows⟩ :=
    (follows_opening settings fits).run taken
  have members : shape.cast.peers.length ≤
      shape.replicas + shape.lateJoiners := by
    rw [Cast.peers, List.length_map, GroupShape.length_members fits,
      GroupShape.admittedLate]
    split <;> omega
  have few := follows.length_routed
  refine ⟨by omega, ?_, follows.goesOn, follows.exists_end, follows.sent,
    fun _ queued _ => follows.unasked queued, follows.completes⟩
  have progress := progress_of_run taken
  have begins : (opening shape settings).progress = 0 := rfl
  have stage : routing.progress ≤ routing.routed.length + 2 := by
    unfold Routing.progress
    split <;> omega
  omega

section Playing

variable {interplay next : Interplay} {routing : Routing}

/-- A turn of the interplay is one of a router that waits for the signal. -/
theorem exists_run_of_turn {turn : Interplay.Turn}
    (same : routing.rehearsal = interplay.rehearsal)
    (selecting : routing.stage = .selecting)
    (taken : interplay.turn? turn = some next) :
    ∃ turns after, routing.run? turns = some after ∧
      after.rehearsal = next.rehearsal ∧ after.stage = .selecting := by
  cases turn with
  | waiter =>
      simp only [Interplay.turn?, Option.ite_none_right_eq_some] at taken
      obtain ⟨looking, isNext⟩ := taken
      obtain rfl := Option.some.inj isNext
      have undecided : routing.rehearsal.outcome.isNone := by
        simp only [Interplay.isLooking, Bool.and_eq_true] at looking
        exact same ▸ looking.1
      refine ⟨[.look], _, run?_cons_eq_some.2 ⟨_, if_pos undecided, rfl⟩, ?_,
        selecting⟩
      exact congrArg Rehearsal.look same
  | router =>
      simp only [Interplay.turn?, Option.map_eq_some_iff] at taken
      obtain ⟨routed, routes, rfl⟩ := taken
      obtain ⟨after, routesOn, sameStage, isRouted⟩ :=
        route_of_routes (by simp [selecting]) (same ▸ routes)
      exact ⟨[.route], after, run?_cons_eq_some.2 ⟨_, routesOn, rfl⟩, isRouted,
        sameStage.trans selecting⟩
  | clock =>
      simp only [Interplay.turn?, Option.ite_none_right_eq_some,
        Bool.and_eq_true, Option.isNone_iff_eq_none] at taken
      obtain ⟨⟨⟨undecided, -⟩, -⟩, isNext⟩ := taken
      obtain rfl := Option.some.inj isNext
      cases limit : interplay.rehearsal.primary.tally.deadline with
      | none =>
          refine ⟨[], routing, rfl, ?_, selecting⟩
          simp only [Rehearsal.passToDeadline, undecided, limit, same]
      | some deadline =>
          refine ⟨[.clock deadline], _,
            run?_cons_eq_some.2 ⟨_, rfl, rfl⟩, ?_, selecting⟩
          simp only [Rehearsal.passToDeadline, undecided, limit, same]

theorem exists_run_of_run {turns : List Interplay.Turn}
    (same : routing.rehearsal = interplay.rehearsal)
    (selecting : routing.stage = .selecting)
    (taken : interplay.run? turns = some next) :
    ∃ turns after, routing.run? turns = some after ∧
      after.rehearsal = next.rehearsal ∧ after.stage = .selecting := by
  induction turns generalizing interplay routing with
  | nil =>
      obtain rfl : interplay = next := Option.some.inj taken
      exact ⟨[], routing, rfl, same, selecting⟩
  | cons turn rest ih =>
      obtain ⟨second, first, later⟩ : ∃ second,
          interplay.turn? turn = some second ∧ second.run? rest = some next := by
        simpa [Interplay.run?, List.foldlM_cons, Option.bind_eq_some_iff] using
          taken
      obtain ⟨earlier, between, reaches, sameThen, stillSelecting⟩ :=
        exists_run_of_turn same selecting first
      obtain ⟨others, after, continues, sameLast, selectingLast⟩ :=
        ih sameThen stillSelecting later
      refine ⟨earlier ++ others, after, ?_, sameLast, selectingLast⟩
      rw [run?_append, reaches, Option.bind_some, continues]

/-- The router returns when the interplay is over. -/
theorem exists_return_of_isOver
    (same : routing.rehearsal = interplay.rehearsal)
    (selecting : routing.stage = .selecting) (ended : interplay.isOver) :
    ∃ turns after, routing.run? turns = some after ∧
      after.rehearsal = interplay.rehearsal ∧ after.stage = .returned := by
  simp only [Interplay.isOver, Bool.and_eq_true, ← same] at ended
  obtain ⟨decided, emptied⟩ := ended
  exact ⟨[.shutDown, .finish], { routing with stage := .returned },
    run?_cons_eq_some.2 ⟨{ routing with stage := .draining },
      if_pos ⟨selecting, decided⟩,
      run?_cons_eq_some.2 ⟨_, if_pos ⟨rfl, emptied⟩, rfl⟩⟩, same, rfl⟩

end Playing

/-- Whichever of the envelopes and the signal the router of a rehearsal selects,
it routes at most three envelopes for each peer.  When the waiter has the
outcome, the router goes on until it returns, and it returns only when nothing
is left and everything that was sent was routed.  No request ever arrives where
a replica already is.  The rehearsal that is played is one of these. -/
theorem router_drains_and_stops (shape : GroupShape)
    (settings : TransactionSettings) (fits : shape.validate = .ok ())
    (valid : settings.validate = .ok ()) :
    (∃ rehearsal turns routing, Rehearsal.run shape settings = .ok rehearsal ∧
        (opening shape settings).run? turns = some routing ∧
        routing.stage = .returned ∧ routing.rehearsal = rehearsal) ∧
      ∀ turns routing, (opening shape settings).run? turns = some routing →
        Drains shape turns routing := by
  have enough : 6 * (shape.replicas + shape.lateJoiners) + 3 ≤
      2 * Rehearsal.envelopeBound shape + 1 := by
    unfold Rehearsal.envelopeBound
    omega
  obtain ⟨final, ⟨schedule, scheduled⟩, ended, isPlay⟩ := Rehearsal.play_ends
    (Rehearsal.within_opening settings (GroupShape.misbehaving_le fits))
    (Rehearsal.positive_of_validate valid) enough
  have sameStart : (opening shape settings).rehearsal =
      (Interplay.opening shape settings).rehearsal := rfl
  obtain ⟨turns, routing, taken, same, selecting⟩ :=
    exists_run_of_run sameStart rfl scheduled
  obtain ⟨others, last, continues, sameLast, returned⟩ :=
    exists_return_of_isOver same selecting ended
  refine ⟨⟨Rehearsal.play shape settings, turns ++ others, last, ?_, ?_,
    returned, sameLast.trans isPlay⟩, fun _ _ =>
      drains_of_run (GroupShape.misbehaving_le fits)⟩
  · simp only [Rehearsal.run, fits, valid]
    rfl
  · rw [run?_append, taken, Option.bind_some, continues]

theorem router_of_mixed_group :
    let shape : GroupShape := ⟨3, 1, 1, 0, 1, []⟩
    let settings : TransactionSettings := ⟨1000, 1, 1000⟩
    shape.validate = .ok () ∧ settings.validate = .ok () ∧
      (∃ rehearsal turns routing, Rehearsal.run shape settings = .ok rehearsal ∧
        (opening shape settings).run? turns = some routing ∧
        routing.stage = .returned ∧ routing.rehearsal = rehearsal) ∧
      ∀ turns routing, (opening shape settings).run? turns = some routing →
        Drains shape turns routing :=
  ⟨rfl, rfl, router_drains_and_stops ⟨3, 1, 1, 0, 1, []⟩ ⟨1000, 1, 1000⟩
    rfl rfl⟩

/-- The bound is reached when the time passes before the peer is asked. -/
example :
    ((opening ⟨1, 0, 0, 0, 0, []⟩ ⟨1, 0, 1⟩).run?
      [.look, .clock 1000000, .look, .shutDown, .route, .route, .route,
        .finish]).map (fun routing => (routing.routed.length, routing.stage)) =
      some (3, .returned) := by
  cbv

end Routing

end CreationCommit
