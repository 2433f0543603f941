import CreationCommit.Proofs.AtomicCommitment

/-!
# A reliable network

A network is reliable if every letter that the transport takes arrives once, if
no call is given up, and if no notice is lost on the way to the transport.  Then
the primary asks each peer once at most, every request that arrives founds a
replica where there was none, and a peer fails only if it departed, refused, or
was never asked successfully.
-/

namespace CreationCommit

/-- Whether a duty is to send a notice. -/
def Duty.isNotice : Duty → Bool
  | .closing (.notify _ _) => true
  | _ => false

namespace Site

/-- The letter whose send an act ends with an error. -/
def lost? (site : Site) : Act → Option Letter
  | .own (.finish index (.error _)) => site.sending? index
  | _ => none

/-- Whether an act gives up a call. -/
def Act.isAbandon : Act → Bool
  | .own (.abandon _) => true
  | _ => false

/-- Whether an act is local, gives up no call and loses no notice. -/
def keeps (site : Site) (act : Act) : Bool :=
  act.isLocal && !act.isAbandon && (site.lost? act).all (!·.duty.isNotice)

/-- A notice that is no longer due was taken by the transport. -/
theorem Turn.notice_not_lost {site : Site} {act : Act} {cause : Option Trigger}
    {gone : Multiset Duty} (turn : Turn site act cause gone none)
    (notAbandoned : act.isAbandon = false)
    (notLost : (site.lost? act).all (!·.duty.isNotice) = true)
    (decision : Decision) (peer : PeerId) :
    .closing (.notify decision peer) ∉ gone := by
  intro isGone
  cases turn with
  | drops index closing letter error duty sends =>
      obtain rfl : Closing.notify decision peer = closing := by
        simpa using isGone
      simp [lost?, sends, duty, Duty.isNotice] at notLost
  | abandons => simp [Act.isAbandon] at notAbandoned
  | launches | examines | learns | fails | reports | rests => simp at isGone

end Site

namespace Network

variable {network next : Network} {peer : PeerId}

/-- The number of letters for a duty that the transport took. -/
def sent (network : Network) (duty : Duty) : Nat :=
  network.posted.countP (·.letter.duty = duty)

/-- The number of letters for a duty that are in transit. -/
def underway (network : Network) (duty : Duty) : Nat :=
  network.transit.countP (·.letter.duty = duty)

/-- The number of times the primary still has to send a letter for a duty. -/
def owed (network : Network) (duty : Duty) : Nat :=
  network.primary.dues.count duty

/-- The discipline of a reliable network. -/
def Reliable (network : Network) : Move → Prop
  | .primary act => network.primary.keeps act
  | .replica peer act => (network.replicas.get? peer).all (·.keeps act)
  | .deliver envelope _ => envelope ∈ network.transit

section Counting

variable {sender : PeerId} {taken : Option Letter} {duty : Duty}
  {envelope : Envelope}

theorem sent_of_posted (posted : next.posted =
      network.posted ++ (taken.map (·.sentBy sender)).toList) :
    next.sent duty =
      network.sent duty + (taken.map Letter.duty).toList.count duty := by
  rw [sent, posted, List.countP_append, sent]
  cases taken with
  | none => rfl
  | some letter => by_cases same : letter.duty = duty <;> simp [same]

theorem underway_of_transit (transit : next.transit =
      network.transit ++ (taken.map (·.sentBy sender)).toList) :
    next.underway duty =
      network.underway duty + (taken.map Letter.duty).toList.count duty := by
  rw [underway, transit, List.countP_append, underway]
  cases taken with
  | none => rfl
  | some letter => by_cases same : letter.duty = duty <;> simp [same]

theorem countP_erase_add (holds : Envelope → Bool) {envelopes : List Envelope}
    (isMember : envelope ∈ envelopes) :
    (envelopes.erase envelope).countP holds +
        (if holds envelope = true then 1 else 0) = envelopes.countP holds := by
  rw [(List.perm_cons_erase isMember).countP_eq, List.countP_cons]

theorem underway_of_erase (isMember : envelope ∈ network.transit)
    (transit : next.transit = network.transit.erase envelope) :
    next.underway duty + (if envelope.letter.duty = duty then 1 else 0) =
      network.underway duty := by
  have counted := countP_erase_add
    (fun other => decide (other.letter.duty = duty)) isMember
  simpa [underway, transit] using counted

end Counting

section Owing

variable {act : Site.Act} {cause : Option Trigger} {gone : Multiset Duty}
  {taken : Option Letter}

/-- A letter that the primary owes and sends is accounted for, unless an act
loses it. -/
theorem AtPrimary.conserved
    (change : AtPrimary network next act cause gone taken) (duty : Duty) :
    next.owed duty + next.sent duty ≤
        network.owed duty + network.sent duty +
          (network.primary.react cause).2.count duty ∧
      ((taken = none → duty ∉ gone) →
        next.owed duty + next.sent duty =
          network.owed duty + network.sent duty +
            (network.primary.react cause).2.count duty) := by
  have counted := congrArg (Multiset.count duty) change.effect.dues
  rw [Multiset.count_add, Multiset.count_add, Multiset.coe_count] at counted
  have posted : next.sent duty = network.sent duty + _ :=
    sent_of_posted change.posted
  unfold owed
  cases taken with
  | none =>
      simp only [Option.map_none, Option.toList_none, List.count_nil] at posted
      refine ⟨by omega, fun kept => ?_⟩
      have notGone := Multiset.count_eq_zero.2 (kept rfl)
      omega
  | some letter =>
      obtain ⟨rfl, -⟩ := change.turn.taken
      have same : ({letter.duty} : Multiset Duty).count duty =
          [letter.duty].count duty := Multiset.coe_count duty [letter.duty]
      simp only [Option.map_some, Option.toList_some] at posted
      exact ⟨by omega, fun _ => by omega⟩

/-- A look of the primary asks a peer once at most, and only a new one. -/
theorem count_request_look {site : Site} (leads : site.Leads)
    (trigger : Trigger) (peer : PeerId) :
    (site.party.look trigger).2.count (.opening (.request peer)) ≤ 1 ∧
      (0 < (site.party.look trigger).2.count (.opening (.request peer)) →
        ¬ site.tally.Involves peer ∧
          (site.party.look trigger).1.tally.Involves peer) := by
  obtain ⟨peers, closings, opens, distinct, isNew⟩ :=
    Party.look_opens leads.role leads.sound trigger
  have noClosing : (closings.map Duty.closing).count
      (.opening (.request peer)) = 0 :=
    List.count_eq_zero.2 (by simp)
  have injective : Function.Injective fun peer =>
      Duty.opening (.request peer) := by
    intro first second same
    simpa using same
  have isCount : (site.party.look trigger).2.count (.opening (.request peer)) =
      peers.count peer := by
    rw [opens, List.count_append, noClosing, List.map_map]
    exact List.count_map_of_injective peers _ injective peer
  rw [isCount]
  exact ⟨List.nodup_iff_count_le_one.1 distinct peer, fun asked =>
    isNew peer (List.count_pos_iff.1 asked)⟩

theorem not_request_of_result {party : Party} (opening : Opening)
    (result : Except DeliveryError Unit) (peer : PeerId) :
    (party.look (.result opening result)).2.count (.opening (.request peer)) =
      0 :=
  List.count_eq_zero.2 (by simp [Party.look, Party.closed])

theorem AtPrimary.involves
    (change : AtPrimary network next act cause gone taken)
    (involved : network.primary.tally.Involves peer) :
    next.primary.tally.Involves peer := by
  rcases change.effect.tally_cases with ⟨-, same, -⟩ | ⟨trigger, -, looked, -⟩
  · exact same ▸ involved
  · exact looked ▸ (Party.advancesOn_look _ trigger).involves involved

/-- The primary asks each peer once at most, and none that takes no part. -/
def AsksOnce (network : Network) : Prop :=
  ∀ peer, network.owed (.opening (.request peer)) +
      network.sent (.opening (.request peer)) ≤ 1 ∧
    (¬ network.primary.tally.Involves peer →
      network.owed (.opening (.request peer)) +
        network.sent (.opening (.request peer)) = 0)

theorem AsksOnce.atPrimary (asksOnce : network.AsksOnce)
    (leads : network.primary.Leads)
    (change : AtPrimary network next act cause gone taken) :
    next.AsksOnce := by
  intro peer
  obtain ⟨atMostOne, strangers⟩ := asksOnce peer
  have conserved := (change.conserved (.opening (.request peer))).1
  rcases change.effect.tally_cases with
    ⟨-, same, nothing⟩ | ⟨trigger, -, looked, duties⟩
  · rw [nothing, List.count_nil] at conserved
    rw [same]
    exact ⟨by omega, fun stranger => by have := strangers stranger; omega⟩
  · obtain ⟨once, isNew⟩ := count_request_look leads trigger peer
    rw [← looked] at isNew
    rw [duties] at conserved
    by_cases asked :
        (network.primary.party.look trigger).2.count
          (.opening (.request peer)) = 0
    · refine ⟨by omega, fun stranger => ?_⟩
      have := strangers fun involved => stranger (change.involves involved)
      omega
    · obtain ⟨stranger, involved⟩ := isNew (Nat.pos_of_ne_zero asked)
      have := strangers stranger
      exact ⟨by omega, fun stranger => absurd involved stranger⟩

/-- Whether the primary has asked a peer, or is about to. -/
def Asks (network : Network) (peer : PeerId) : Prop :=
  0 < network.owed (.opening (.request peer)) +
    network.sent (.opening (.request peer))

theorem Asks.involves (asksOnce : network.AsksOnce)
    (asks : network.Asks peer) : network.primary.tally.Involves peer := by
  by_contra stranger
  have := (asksOnce peer).2 stranger
  unfold Asks at asks
  omega

/-- A peer fails only if it departed, voted against, or could not be asked. -/
def FailsFor (network : Network) : Prop :=
  ∀ peer ∈ network.primary.tally.failures, peer ∈ network.departed ∨
    (∃ cause, network.HasVoted peer (some cause)) ∨ ¬ network.Asks peer

/-- A peer that took part and was not asked is not asked later. -/
theorem AtPrimary.not_asks
    (change : AtPrimary network next act cause gone taken)
    (leads : network.primary.Leads)
    (involved : network.primary.tally.Involves peer)
    (notAsked : ¬ network.Asks peer) : ¬ next.Asks peer := by
  have conserved := (change.conserved (.opening (.request peer))).1
  unfold Asks at notAsked ⊢
  rcases change.effect.tally_cases with
    ⟨-, -, nothing⟩ | ⟨trigger, -, -, duties⟩
  · rw [nothing, List.count_nil] at conserved
    omega
  · have isNew := (count_request_look leads trigger peer).2
    rw [duties] at conserved
    by_contra asks
    have := (isNew (by omega)).1
    exact this involved

/-- A request whose send ended with an error was not posted, nor is it any
more. -/
theorem AtPrimary.not_asks_of_error
    (change : AtPrimary network next act cause gone taken)
    (asksOnce : network.AsksOnce) {error : DeliveryError}
    (failed : cause = some (.result (.request peer) (.error error))) :
    ¬ next.Asks peer := by
  have counted := congrArg (Multiset.count (.opening (.request peer)))
    change.effect.dues
  rw [Multiset.count_add, Multiset.count_add, Multiset.coe_count] at counted
  have posted : next.sent (.opening (.request peer)) =
      network.sent (.opening (.request peer)) + _ :=
    sent_of_posted change.posted
  have atMostOne := (asksOnce peer).1
  have nothing :
      (network.primary.react cause).2.count (.opening (.request peer)) = 0 := by
    rw [failed]
    exact not_request_of_result _ _ peer
  have turn := change.turn
  cases turn with
  | fails index opening letter _ duty sends =>
      obtain rfl : opening = .request peer := by
        simp only [Option.some.injEq, Trigger.result.injEq] at failed
        exact failed.1
      rw [Multiset.count_singleton_self] at counted
      simp only [Option.map_none, Option.toList_none, List.count_nil] at posted
      unfold owed at atMostOne
      unfold Asks owed
      omega
  | launches | examines | delivers | learns => simp at failed
  | hands | tells | drops | reports | rests | abandons => simp at failed

theorem FailsFor.atPrimary (failsFor : network.FailsFor)
    (leads : network.primary.Leads) (asksOnce : network.AsksOnce)
    (change : AtPrimary network next act cause gone taken)
    (heardTruly : network.HeardTruly cause)
    (departs : ∀ peer view,
      cause = some (.command (.handle (.memberDeparted peer) view)) →
      peer ∈ next.departed)
    (stayDeparted : ∀ peer ∈ network.departed, peer ∈ next.departed) :
    next.FailsFor := by
  intro peer failed
  have known (already : peer ∈ network.primary.tally.failures) :
      peer ∈ next.departed ∨
        (∃ cause, next.HasVoted peer (some cause)) ∨ ¬ next.Asks peer := by
    rcases failsFor peer already with departed | ⟨cause, voted⟩ | notAsked
    · exact .inl (stayDeparted peer departed)
    · exact .inr (.inl ⟨cause, hasVoted_of_posted change.posted voted⟩)
    · exact .inr (.inr (change.not_asks leads (.inr (.inr already)) notAsked))
  rcases change.effect.tally_cases with
    ⟨-, same, -⟩ | ⟨trigger, isCause, looked, -⟩
  · exact known (same ▸ failed)
  · rw [looked] at failed
    rcases (Party.advancesOn_look _ trigger).mem_failures failed with
      already | ⟨failure, caused⟩
    · exact known already
    · cases failure with
      | departed =>
          obtain ⟨-, view, rfl⟩ := caused
          exact .inl (departs peer view isCause)
      | refused cause =>
          obtain ⟨-, vote, view, -, rfl, refused, rfl⟩ := caused
          have voted := heardTruly vote view isCause
          exact .inr (.inl ⟨cause,
            hasVoted_of_posted change.posted (refused ▸ voted)⟩)
      | undelivered error =>
          obtain rfl : trigger = .result (.request peer) (.error error) :=
            caused
          exact .inr (.inr (change.not_asks_of_error asksOnce isCause))

end Owing

/-- The part of the account that does not mention what is in transit. -/
structure Balanced (network : Network) : Prop where
  asksOnce : network.AsksOnce
  failsFor : network.FailsFor
  setups : ∀ peer replica, network.replicas.get? peer = some replica →
    replica.setup.role = .replica network.home ∧
      replica.setup.objectId = network.primary.setup.objectId ∧
      replica.tally.activated = true
  voting : ∀ peer replica, network.replicas.get? peer = some replica →
    replica.session.Voting
  truthful : network.primary.session.Truthful

/-- What a reliable network always satisfies. -/
structure Accounted (network : Network) : Prop extends Balanced network where
  agrees : network.Agrees
  transit : network.transit.Sublist network.posted
  founded : ∀ peer, peer ≠ network.home →
    network.underway (.opening (.request peer)) +
        (if peer ∈ network.replicas then 1 else 0) =
      network.sent (.opening (.request peer))

theorem AtReplica.sent_eq {replica after : Site} {act : Site.Act}
    {cause : Option Trigger} {gone : Multiset Duty} {taken : Option Letter}
    (change : AtReplica network next peer replica after act cause gone taken)
    (orderly : network.Orderly) {duty : Duty} (notVote : duty.isVote = false) :
    (taken.map Letter.duty).toList.count duty = 0 ∧
      next.sent duty = network.sent duty := by
  have noneTaken : (taken.map Letter.duty).toList.count duty = 0 := by
    cases taken with
    | none => rfl
    | some letter =>
        have isVote := (orderly.follows peer replica
          change.found).isVote_of_taken change.turn change.effect
        apply List.count_eq_zero.2
        intro isDuty
        obtain rfl : duty = letter.duty := by simpa using isDuty
        simp [notVote] at isVote
  exact ⟨noneTaken, by rw [sent_of_posted change.posted, noneTaken, add_zero]⟩

theorem AtReplica.mem_replicas {replica after : Site} {act : Site.Act}
    {cause : Option Trigger} {gone : Multiset Duty} {taken : Option Letter}
    (change : AtReplica network next peer replica after act cause gone taken)
    (other : PeerId) : other ∈ next.replicas ↔ other ∈ network.replicas := by
  have isMember : peer ∈ network.replicas :=
    PeerMap.mem_of_get? change.found
  rw [change.replicas, PeerMap.mem_insert]
  exact ⟨fun either => either.elim (· ▸ isMember) id, .inr⟩

/-- Who departs by an act is among those departed. -/
theorem departs_of_turn {site : Site} {act : Site.Act} {cause : Option Trigger}
    {gone : Multiset Duty} {taken : Option Letter}
    (turn : site.Turn act cause gone taken)
    (departed : next.departed = act.departure?.toList ++ network.departed)
    (peer : PeerId) (view : GroupView)
    (departs : cause = some (.command (.handle (.memberDeparted peer) view))) :
    peer ∈ next.departed := by
  subst departs
  rw [departed, act_of_command turn]
  simp [Site.Act.departure?]

/-- No message tells of a departure. -/
theorem not_departure_of_heard {message : Message} {event : Event}
    (isEvent : message.event? = some event) (peer : PeerId) (view : GroupView) :
    some (heard event) ≠
      some (.command (.handle (.memberDeparted peer) view)) := by
  intro departs
  rw [event_of_heard departs] at isEvent
  cases message <;> simp [Message.event?] at isEvent

theorem stepped_truthful {site after : Site} {act : Site.Act}
    (stepped : site.Stepped after act) (truthful : site.session.Truthful) :
    after.session.Truthful := by
  rcases stepped with same | ⟨move, -, step⟩
  · exact same ▸ truthful
  · exact step.truthful truthful

theorem stepped_voting {site after : Site} {act : Site.Act}
    (stepped : site.Stepped after act) (follows : site.Follows)
    (notAbandoned : act.isAbandon = false) (voting : site.session.Voting) :
    after.session.Voting := by
  rcases stepped with same | ⟨move, rfl, step⟩
  · exact same ▸ voting
  · refine step.voting follows.role follows.notVoting ?_ voting
    rintro index rfl
    simp [Site.Act.isAbandon] at notAbandoned

namespace Balanced

variable {act : Site.Act} {cause : Option Trigger} {gone : Multiset Duty}
  {taken : Option Letter}

theorem atPrimary (balanced : network.Balanced)
    (leads : network.primary.Leads)
    (change : AtPrimary network next act cause gone taken)
    (heardTruly : network.HeardTruly cause)
    (departs : ∀ peer view,
      cause = some (.command (.handle (.memberDeparted peer) view)) →
      peer ∈ next.departed)
    (stayDeparted : ∀ peer ∈ network.departed, peer ∈ next.departed) :
    next.Balanced where
  asksOnce := balanced.asksOnce.atPrimary leads change
  failsFor := balanced.failsFor.atPrimary leads balanced.asksOnce change
    heardTruly departs stayDeparted
  setups := by
    rw [home, change.effect.setup, change.replicas]
    exact balanced.setups
  voting := change.replicas ▸ balanced.voting
  truthful := stepped_truthful change.stepped balanced.truthful

theorem atReplica (balanced : network.Balanced) (orderly : network.Orderly)
    {replica after : Site}
    (change : AtReplica network next peer replica after act cause gone taken)
    (notAbandoned : act.isAbandon = false)
    (departed : next.departed = network.departed) : next.Balanced where
  asksOnce := by
    intro other
    rw [owed, change.primary, (change.sent_eq orderly rfl).2]
    exact balanced.asksOnce other
  failsFor := by
    intro other failed
    rw [change.primary] at failed
    rw [departed, Asks, owed, change.primary, (change.sent_eq orderly rfl).2]
    rcases balanced.failsFor other failed with
      isDeparted | ⟨cause, voted⟩ | notAsked
    · exact .inl isDeparted
    · exact .inr (.inl ⟨cause, hasVoted_of_posted change.posted voted⟩)
    · exact .inr (.inr notAsked)
  setups := by
    intro other site found
    rw [home, change.primary]
    rcases change.found_cases found with ⟨rfl, rfl⟩ | ⟨-, earlier⟩
    · obtain ⟨role, objectId, activated⟩ :=
        balanced.setups other replica change.found
      rw [change.effect.setup]
      exact ⟨role, objectId, change.effect.activated activated⟩
    · exact balanced.setups other site earlier
  voting := by
    intro other site found
    rcases change.found_cases found with ⟨rfl, rfl⟩ | ⟨-, earlier⟩
    · exact stepped_voting change.stepped
        (orderly.follows other replica change.found) notAbandoned
        (balanced.voting other replica change.found)
    · exact balanced.voting other site earlier
  truthful := change.primary ▸ balanced.truthful

end Balanced

theorem activated_founding (founding : Founding) (request : CreationRequest) :
    (founding.site peer request).tally.activated = true := by
  rw [(Orderly.effect_founding founding request).tally]
  have notPrimary : (Party.start (founding.setup peer request)).isPrimary =
      false :=
    Party.isPrimary_eq_false (by simp [Party.start, Founding.setup,
      Setup.replica])
  simp [Site.react, Party.look, Party.opened, Party.enroll, Site.start,
    Session.start, notPrimary, Tally.activateOnce]

theorem voting_founding (founding : Founding) (request : CreationRequest) :
    (founding.site peer request).session.Voting := by
  have step : (Session.start (founding.setup peer request)).Step
      (.start (.enroll founding.refusal))
      (founding.site peer request).session := .launches _
  refine step.voting ?_ ?_ (by simp) ?_
  · simp [Session.start, Party.start, Founding.setup, Setup.replica]
  · simp [Session.start, Party.start, Tally.start]
  · intro activated
    simp [Session.start, Party.start, Tally.start] at activated

/-- A request that was posted comes from the primary and is about its object. -/
theorem Orderly.request_of_posted (orderly : network.Orderly)
    {envelope : Envelope} (isPosted : envelope ∈ network.posted)
    {request : CreationRequest} (isRequest : envelope.message = .request request) :
    request.sender = network.home ∧
      request.objectId = network.primary.setup.objectId := by
  by_cases isHome : envelope.sender = network.home
  · have writes := (orderly.fromHome envelope isPosted isHome).1
    simpa [Setup.Writes, Envelope.letter, isRequest, home] using writes
  · have isVote := (orderly.fromReplica envelope isPosted isHome).1
    simp [Envelope.duty_of_request isRequest, Duty.isVote] at isVote

theorem Balanced.founds (balanced : network.Balanced)
    (orderly : network.Orderly) {envelope : Envelope} (founding : Founding)
    {request : CreationRequest} (isPosted : envelope ∈ network.posted)
    (isRequest : envelope.message = .request request)
    (primary : next.primary = network.primary)
    (replicas : next.replicas = network.replicas.insert envelope.recipient
      (founding.site envelope.recipient request))
    (posted : next.posted = network.posted)
    (departed : next.departed = network.departed) : next.Balanced where
  asksOnce := by
    simpa only [AsksOnce, owed, sent, primary, posted] using balanced.asksOnce
  failsFor := by
    simpa only [FailsFor, Asks, HasVoted, owed, sent, primary, posted,
      departed] using balanced.failsFor
  setups := by
    intro other site found
    rw [home, primary]
    rcases PeerMap.get?_insert_cases (replicas ▸ found) with
      ⟨rfl, rfl⟩ | ⟨-, earlier⟩
    · obtain ⟨isSender, objectId⟩ :=
        orderly.request_of_posted isPosted isRequest
      rw [(Orderly.effect_founding founding request).setup]
      refine ⟨?_, objectId, activated_founding founding request⟩
      exact congrArg Role.replica isSender
    · exact balanced.setups other site earlier
  voting := by
    intro other site found
    rcases PeerMap.get?_insert_cases (replicas ▸ found) with
      ⟨rfl, rfl⟩ | ⟨-, earlier⟩
    · exact voting_founding founding request
    · exact balanced.voting other site earlier
  truthful := primary ▸ balanced.truthful

theorem Balanced.of_same (balanced : network.Balanced)
    (primary : next.primary = network.primary)
    (replicas : next.replicas = network.replicas)
    (posted : next.posted = network.posted)
    (departed : next.departed = network.departed) : next.Balanced := by
  obtain ⟨nextPrimary, nextReplicas, nextPosted, transit, nextDeparted⟩ := next
  cases primary
  cases replicas
  cases posted
  cases departed
  exact ⟨balanced.asksOnce, balanced.failsFor, balanced.setups,
    balanced.voting, balanced.truthful⟩

namespace Accounted

variable {act : Site.Act} {cause : Option Trigger} {gone : Multiset Duty}
  {taken : Option Letter} {envelope : Envelope}

/-- A request in transit finds no replica. -/
theorem vacant (accounted : network.Accounted)
    (inTransit : envelope ∈ network.transit)
    (isRequest : envelope.letter.duty = .opening (.request peer))
    (notHome : peer ≠ network.home) : peer ∉ network.replicas := by
  intro founded
  have counted := accounted.founded peer notHome
  have atMostOne := (accounted.asksOnce peer).1
  have isUnderway : 0 < network.underway (.opening (.request peer)) :=
    List.countP_pos_iff.2 ⟨envelope, inTransit, by simp [isRequest]⟩
  rw [if_pos founded] at counted
  omega

theorem duty_of_event {event : Event} (isEvent : envelope.message.event? = some event) :
    envelope.letter.duty ≠ .opening (.request peer) := by
  unfold Letter.duty Envelope.letter
  cases message : envelope.message <;> simp_all [Message.event?]

theorem vacant_of_request (accounted : network.Accounted)
    (inTransit : envelope ∈ network.transit)
    (isRequest : envelope.message.kind = .request) :
    envelope.recipient ∉ network.replicas := by
  cases message : envelope.message with
  | request request =>
      by_cases isHome : envelope.recipient = network.home
      · rw [isHome]
        exact accounted.agrees.orderly.away
      · exact accounted.vacant inTransit (Envelope.duty_of_request message) isHome
  | vote | notice => simp [message, Message.kind] at isRequest

/-- The request of a peer that has a replica was posted once and arrived. -/
theorem asked (accounted : network.Accounted) {replica : Site}
    (found : network.replicas.get? peer = some replica) :
    network.sent (.opening (.request peer)) = 1 ∧
      network.underway (.opening (.request peer)) = 0 := by
  have notHome := accounted.agrees.orderly.ne_home found
  have isMember : peer ∈ network.replicas :=
    PeerMap.mem_of_get? found
  have counted := accounted.founded peer notHome.symm
  have atMostOne := (accounted.asksOnce peer).1
  rw [if_pos isMember] at counted
  omega

theorem asks_of_found (accounted : network.Accounted) {replica : Site}
    (found : network.replicas.get? peer = some replica) :
    network.Asks peer := by
  have := (accounted.asked found).1
  unfold Asks
  omega

/-- A replica at rest has voted, and is no longer merely active. -/
theorem not_active_of_idle (accounted : network.Accounted) {replica : Site}
    (idle : network.isIdle = true)
    (found : network.replicas.get? peer = some replica) :
    replica.tally.phase ≠ .active := by
  intro active
  have activated := (accounted.setups peer replica found).2.2
  obtain ⟨call, callMem, refusal, isOwed⟩ :=
    accounted.voting peer replica found activated active
  have rests := isIdle_replica idle found
  simp [Site.agenda_of_isIdle rests callMem] at isOwed

/-- A reliable network forges nothing. -/
theorem unforged (accounted : network.Accounted) {move : Move}
    (possible : (network.move? move).isSome)
    (reliable : network.Reliable move) : network.Unforged move := by
  cases move with
  | primary act =>
      simp only [Reliable, Site.keeps, Bool.and_eq_true] at reliable
      exact reliable.1.1
  | replica peer act =>
      simp only [move?, actAtReplica?] at possible
      split at possible
      · rename_i replica found
        simp only [Reliable, found, Option.all_some, Site.keeps,
          Bool.and_eq_true] at reliable
        exact reliable.1.1
      · simp at possible
  | deliver envelope founding =>
      exact ⟨accounted.transit.mem reliable, accounted.vacant_of_request reliable⟩

theorem fresh (fresh : network.Fresh) (noReplicas : network.replicas = ∅) :
    network.Accounted := by
  obtain ⟨setup, role, primary⟩ := fresh.primary
  refine
    { agrees := .fresh fresh
      transit := by simp [fresh.transit]
      asksOnce := ?_
      failsFor := ?_
      setups := by simp [noReplicas]
      voting := by simp [noReplicas]
      truthful := ?_
      founded := ?_ }
  · intro peer
    simp [owed, sent, fresh.posted, primary]
  · rw [FailsFor, primary]
    simp [Site.start, Session.start, Party.start, Tally.start]
  · rw [primary]
    simp [Site.start, Session.start, Session.Truthful]
  · intro peer notHome
    simp [underway, sent, fresh.transit, fresh.posted, noReplicas]

theorem balanced_change (accounted : network.Accounted) {move : Move}
    (change : Change network next move) (reliable : network.Reliable move)
    (unforged : network.Unforged move) : next.Balanced := by
  have orderly := accounted.agrees.orderly
  have balanced := accounted.toBalanced
  cases change with
  | primaryActs act cause gone taken change transit departed =>
      refine balanced.atPrimary orderly.leads change
        (heardTruly_of_isLocal change.turn unforged)
        (departs_of_turn change.turn departed) ?_
      intro peer isDeparted
      rw [departed]
      exact List.mem_append_right _ isDeparted
  | replicaActs peer replica after act cause gone taken change transit
      departed =>
      simp only [Reliable, change.found, Option.all_some, Site.keeps,
        Bool.and_eq_true, Bool.not_eq_true'] at reliable
      exact balanced.atReplica orderly change reliable.1.2 departed
  | primaryHears envelope founding event isEvent isHome change transit
      departed =>
      exact balanced.atPrimary orderly.leads change
        (heardTruly_of_posted orderly unforged.1 isEvent)
        (fun peer view isCause =>
          absurd isCause (not_departure_of_heard isEvent peer view))
        (fun _ isDeparted => departed ▸ isDeparted)
  | replicaHears envelope founding event replica after isEvent isAway change
      transit departed =>
      exact balanced.atReplica orderly change rfl departed
  | founds envelope founding request isRequest isAway primary replicas posted
      transit departed =>
      exact balanced.founds orderly founding unforged.1 isRequest primary
        replicas posted departed
  | loses envelope founding nobody isRequest isNotRequest primary replicas posted
      transit departed =>
      exact balanced.of_same primary replicas posted departed

theorem transit_change (accounted : network.Accounted) {move : Move}
    (change : Change network next move) :
    next.transit.Sublist next.posted := by
  have arrives {envelope : Envelope}
      (posted : next.posted = network.posted)
      (transit : next.transit = network.transit.erase envelope) :
      next.transit.Sublist next.posted := by
    rw [transit, posted]
    exact List.erase_sublist.trans accounted.transit
  cases change with
  | primaryActs _ _ _ _ change transit =>
      rw [transit, change.posted]
      exact accounted.transit.append (.refl _)
  | replicaActs _ _ _ _ _ _ _ change transit =>
      rw [transit, change.posted]
      exact accounted.transit.append (.refl _)
  | primaryHears _ _ _ _ _ change transit =>
      exact arrives (by simpa using change.posted) transit
  | replicaHears _ _ _ _ _ _ _ change transit =>
      exact arrives (by simpa using change.posted) transit
  | founds _ _ _ _ _ _ _ posted transit => exact arrives posted transit
  | loses _ _ _ _ _ _ _ posted transit => exact arrives posted transit

/-- Another letter than the request of a peer leaves its account as it is. -/
theorem founded_of_erase (accounted : network.Accounted)
    (isMember : envelope ∈ network.transit)
    (posted : next.posted = network.posted)
    (transit : next.transit = network.transit.erase envelope)
    (sameReplicas : peer ∈ next.replicas ↔ peer ∈ network.replicas)
    (notRequest : envelope.letter.duty ≠ .opening (.request peer))
    (notHome : peer ≠ network.home) :
    next.underway (.opening (.request peer)) +
        (if peer ∈ next.replicas then 1 else 0) =
      next.sent (.opening (.request peer)) := by
  have counted := accounted.founded peer notHome
  have erased : next.underway (.opening (.request peer)) + _ = _ :=
    underway_of_erase isMember transit
  rw [if_neg notRequest, add_zero] at erased
  simp only [erased, sameReplicas]
  rw [counted, sent, sent, posted]

theorem founded_change (accounted : network.Accounted) {move : Move}
    (change : Change network next move) (reliable : network.Reliable move)
    (notHome : peer ≠ next.home) :
    next.underway (.opening (.request peer)) +
        (if peer ∈ next.replicas then 1 else 0) =
      next.sent (.opening (.request peer)) := by
  have orderly := accounted.agrees.orderly
  cases change with
  | primaryActs act cause gone taken change transit departed =>
      rw [home, change.effect.setup] at notHome
      have counted := accounted.founded peer notHome
      rw [change.replicas, underway_of_transit transit,
        sent_of_posted change.posted]
      omega
  | replicaActs other replica after act cause gone taken change transit
      departed =>
      rw [home, change.primary] at notHome
      obtain ⟨noneTaken, sameSent⟩ :
          _ ∧ next.sent (.opening (.request peer)) = _ :=
        change.sent_eq orderly rfl
      simp only [change.mem_replicas peer, underway_of_transit transit,
        noneTaken, sameSent, add_zero]
      exact accounted.founded peer notHome
  | primaryHears envelope founding event isEvent isHome change transit
      departed =>
      rw [home, change.effect.setup] at notHome
      exact accounted.founded_of_erase reliable (by simpa using change.posted)
        transit (by rw [change.replicas]) (duty_of_event isEvent) notHome
  | replicaHears envelope founding event replica after isEvent isAway change
      transit departed =>
      rw [home, change.primary] at notHome
      exact accounted.founded_of_erase reliable (by simpa using change.posted)
        transit (change.mem_replicas peer) (duty_of_event isEvent) notHome
  | founds envelope founding request isRequest isAway primary replicas posted
      transit departed =>
      rw [home, primary] at notHome
      by_cases isPeer : peer = envelope.recipient
      · have counted := accounted.founded peer notHome
        have erased : next.underway (.opening (.request peer)) + _ = _ :=
          underway_of_erase reliable transit
        have duty : envelope.letter.duty = .opening (.request peer) :=
          isPeer ▸ Envelope.duty_of_request isRequest
        have vacant := accounted.vacant reliable duty notHome
        have isFounded : peer ∈ next.replicas := by simp [replicas, isPeer]
        rw [if_neg vacant] at counted
        rw [if_pos duty] at erased
        rw [if_pos isFounded, erased, sent, posted, ← sent, ← counted, add_zero]
      · refine accounted.founded_of_erase reliable posted transit ?_ ?_ notHome
        · simp [replicas, isPeer]
        · rw [Envelope.duty_of_request isRequest]
          simpa using Ne.symm isPeer
  | loses envelope founding nobody isRequest isNotRequest primary replicas posted
      transit departed =>
      rw [home, primary] at notHome
      refine accounted.founded_of_erase reliable posted transit
        (by rw [replicas]) (fun duty => ?_) notHome
      have isRecipient : envelope.recipient = peer := recipient_of_request duty
      cases message : envelope.message with
      | request request =>
          exact isNotRequest (isRecipient ▸ notHome) request message
      | vote vote => simp [Envelope.duty_of_vote message] at duty
      | notice decision objectId =>
          simp [Envelope.duty_of_notice message] at duty

/-- Every reliable change keeps the account. -/
theorem change (accounted : network.Accounted) {move : Move}
    (change : Change network next move) (reliable : network.Reliable move)
    (unforged : network.Unforged move) : next.Accounted where
  toBalanced := accounted.balanced_change change reliable unforged
  agrees := accounted.agrees.change change unforged
  transit := accounted.transit_change change
  founded := fun _ notHome =>
    accounted.founded_change change reliable notHome

end Accounted

/-- A primary that has no replicas yet. -/
def lone : Network :=
  .start (.primary ⟨"doc"⟩ ⟨"home"⟩) ∅

theorem fresh_lone : lone.Fresh where
  primary := ⟨_, rfl, rfl⟩
  replicas := by simp [lone, Network.start]
  away := by simp [lone, Network.start]
  posted := rfl
  transit := rfl
  departed := rfl

end Network

end CreationCommit
