import CreationCommit.Proofs.Requests

/-!
# By whom a peer is admitted and asked

Only a command admits a peer, and the call of that command owes the peer's
request from then on.  The request is with that call until it is attempted, or
until the call is given up, so that a call that has returned asked everyone it
admitted.  The local peer is never admitted, whoever names it, and every request
says the same.
-/

namespace CreationCommit

namespace Look

variable {look : Look} {peer : PeerId}

theorem mem_filterMap_askedBy? {duties : List Duty} :
    peer ∈ duties.filterMap askedBy? ↔ .opening (.request peer) ∈ duties := by
  rw [List.mem_filterMap]
  constructor
  · rintro ⟨duty, isDuty, asks⟩
    have isRequest : duty = .opening (.request peer) := by
      unfold askedBy? at asks
      split at asks
      · rw [Option.some.inj asks]
      · simp at asks
    exact isRequest ▸ isDuty
  · exact fun isDuty => ⟨_, isDuty, rfl⟩

/-- Only a command admits peers. -/
theorem command_of_admitted (admitted : peer ∈ look.admitted) :
    ∃ command, look.trigger = .command command := by
  obtain ⟨party, trigger⟩ := look
  cases trigger with
  | command command => exact ⟨command, rfl⟩
  | result opening result =>
      have closes : Look.admitted ⟨party, .result opening result⟩ = [] :=
        Party.admitted_of_closings _
      simp [closes] at admitted
  | clock now =>
      have closes : Look.admitted ⟨party, .clock now⟩ = [] := by
        simp only [Look.admitted, Look.duties, Party.look]
        split
        · rfl
        · exact Party.admitted_of_closings _
      simp [closes] at admitted

end Look

namespace Party

variable {party : Party} {peer : PeerId}

theorem ne_localPeer_of_openVoting {tally : Tally} {peers : List PeerId}
    {localPeer : PeerId} (admitted : peer ∈ (tally.openVoting peers localPeer).2) :
    peer ≠ localPeer := by
  unfold Tally.openVoting at admitted
  split at admitted
  · have selected := (Tally.mem_enlistAll_snd.1 admitted).1
    simpa using (List.mem_filter.1 selected).2
  · simp at admitted

theorem ne_localPeer_of_lead (view : GroupView)
    (opens : .request peer ∈ (party.lead view).2) :
    peer ≠ party.setup.localPeer := by
  unfold lead at opens
  split at opens
  · dsimp only at opens
    split at opens
    · split at opens
      · simp at opens
      · rename_i members
        have admitted : peer ∈ (party.tally.activateOnce.1.openVoting
            (party.setup.selection.choose members) party.setup.localPeer).2 := by
          simpa using opens
        exact ne_localPeer_of_openVoting admitted
    · simp at opens
  · simp at opens

theorem ne_localPeer_of_welcome (newcomer : PeerId)
    (opens : .request peer ∈ (party.welcome newcomer).2) :
    peer ≠ party.setup.localPeer := by
  unfold welcome at opens
  split at opens
  · rename_i concerned
    dsimp only at opens
    split at opens
    · obtain rfl : peer = newcomer := by simpa using opens
      exact concerned.2
    · simp at opens
  · simp at opens

/-- A replica asks nobody. -/
theorem not_request_of_enroll (refusal : Option String) :
    .request peer ∉ (party.enroll refusal).2 := by
  unfold enroll
  split
  · simp
  · dsimp only
    split <;> simp

end Party

/-- The local peer is not admitted, whatever the group view, the selection or a
newcomer's name says. -/
theorem Look.ne_localPeer_of_admitted {look : Look} {peer : PeerId}
    (admitted : peer ∈ look.admitted) : peer ≠ look.party.setup.localPeer := by
  have opens := Look.mem_filterMap_askedBy?.1 admitted
  obtain ⟨command, isCommand⟩ := Look.command_of_admitted admitted
  rw [Look.duties, isCommand] at opens
  cases command with
  | handle event view =>
      cases event with
      | activated =>
          simp only [Party.look, Party.handle] at opens
          split at opens
          · exact Party.ne_localPeer_of_lead view
              (by simpa [Party.opened] using opens)
          · simp [Party.opened, Party.not_request_of_enroll] at opens
      | memberJoined newcomer =>
          exact Party.ne_localPeer_of_welcome newcomer
            (by simpa [Party.look, Party.handle, Party.opened] using opens)
      | voteReceived | memberDeparted | noticeReceived =>
          simp [Party.look, Party.handle, Party.closed] at opens
  | lead view =>
      exact Party.ne_localPeer_of_lead view
        (by simpa [Party.look, Party.opened] using opens)
  | enroll refusal =>
      simp [Party.look, Party.opened, Party.not_request_of_enroll] at opens
  | await => simp [Party.look] at opens

/-- The letter, if it is a request, says what all requests of a party say. -/
def Setup.Requests (setup : Setup) (letter : Letter) : Prop :=
  ∀ request, letter.message = .request request →
    request =
      { sender := setup.localPeer
        objectId := setup.objectId
        payload := setup.payload }

namespace Session

section Steps

variable {session next : Session} {move : Move} {index : Nat} {peer : PeerId}

theorem requests_of_compose {party after : Party} {duty : Duty}
    {letter : Letter} (composed : compose party duty = (after, some letter)) :
    party.setup.Requests letter := by
  intro request isRequest
  cases duty with
  | opening opening =>
      cases opening with
      | request peer =>
          cases composed
          exact (Message.request.inj isRequest).symm
      | vote refusal =>
          simp only [compose, Party.compose, Party.castVote] at composed
          split at composed
          · simp at composed
          · cases composed
            cases isRequest
  | closing closing =>
      cases closing with
      | notify decision peer =>
          cases composed
          cases isRequest
      | report decision => simp [compose] at composed

theorem Step.requests (step : Step session move next)
    (requests : ∀ letter ∈ session.attempts,
      session.party.setup.Requests letter) :
    ∀ letter ∈ next.attempts, next.party.setup.Requests letter := by
  rw [step.setup]
  cases step with
  | begins index duty rest outcome party letter turn composed =>
      intro other attempted
      rcases List.mem_append.1 attempted with earlier | isLetter
      · exact requests other earlier
      · obtain rfl := List.mem_singleton.1 isLetter
        exact requests_of_compose composed
  | launches | hears | closes | reports | watches | waits | learns | wakes
  | answers | abandons => exact requests

/-- Only a launch leaves requests to make. -/
theorem Step.launched_of_leaves (step : Step session move next)
    (isLeft : .opening (.request peer) ∈ session.leaves move) :
    ∃ command, move = .start command ∧ next = session.launch command := by
  obtain ⟨look, isLook⟩ : ∃ look, session.look? move = some look := by
    cases isLook : session.look? move with
    | none => simp [leaves, isLook] at isLeft
    | some look => exact ⟨look, rfl⟩
  rw [leaves_of_look isLook] at isLeft
  obtain ⟨command, isCommand⟩ :=
    Look.command_of_admitted (Look.mem_filterMap_askedBy?.2 isLeft)
  obtain ⟨trigger, triggers, rfl⟩ := Option.map_eq_some_iff.1 isLook
  obtain rfl : trigger = .command command := isCommand
  cases step with
  | launches => exact ⟨_, rfl, rfl⟩
  | begins | abandons => simp [trigger?] at triggers
  | hears _ _ _ _ _ _ turn | closes _ _ _ _ _ _ turn
  | reports _ _ _ _ _ turn | watches _ _ _ _ turn | waits _ _ _ _ _ _ turn
  | learns _ _ _ _ _ _ _ turn | wakes _ _ _ _ _ _ turn
  | answers _ _ _ _ _ turn => simp [trigger?, turn] at triggers

theorem asked_of_sends {letter : Letter}
    (attempts : next.attempts = session.attempts ++ [letter])
    (isRequest : letter.duty = .opening (.request peer)) :
    peer ∈ next.asked := by
  rw [asked, attempts, List.mem_filterMap]
  exact ⟨letter, by simp, by rw [isRequest]; rfl⟩

/-- A request that is carried out is attempted. -/
theorem Does.asks {duties : List Duty} (does : Does session next duties)
    (isDone : .opening (.request peer) ∈ duties) : peer ∈ next.asked := by
  cases does with
  | nothing => simp at isDone
  | sends letter attempts =>
      exact asked_of_sends attempts (List.mem_singleton.1 isDone).symm
  | reports => simp at isDone

/-- Who was asked stays so. -/
theorem Exchange.asked (exchange : Exchange session next move)
    (isAsked : peer ∈ session.asked) : peer ∈ next.asked := by
  obtain ⟨duties, does⟩ := exchange.does
  obtain ⟨more, attempts⟩ := does.attempts_prefix
  rw [Session.asked, ← attempts, List.filterMap_append]
  exact List.mem_append_left _ isAsked

/-- The call at the index was given up, or the peer was asked, or the call still
owes the request. -/
def Entrusted (session : Session) (index : Nat) (peer : PeerId)
    (given : Prop) : Prop :=
  ∃ call, session.calls[index]? = some call ∧
    (given ∨ peer ∈ session.asked ∨ .opening (.request peer) ∈ call.owed)

theorem Exchange.entrusted {given : Prop} (exchange : Exchange session next move)
    (entrusted : session.Entrusted index peer given) :
    next.Entrusted index peer (given ∨ move = .abandon index) := by
  obtain ⟨call, here, stands⟩ := entrusted
  have stillStands : (given ∨ move = .abandon index) ∨ peer ∈ next.asked ∨
      .opening (.request peer) ∈ call.owed :=
    stands.imp .inl (Or.imp_left exchange.asked)
  rcases exchange.call_cases here with
    stays | ⟨new, spent, rest, there, before, after, does⟩ | ⟨drops, new, there⟩
  · exact ⟨call, stays, stillStands⟩
  · refine ⟨new, there, ?_⟩
    rcases stillStands with isGiven | isAsked | isOwed
    · exact .inl isGiven
    · exact .inr (.inl isAsked)
    · rw [before, List.mem_append] at isOwed
      rcases isOwed with isSpent | later
      · exact .inr (.inl (does.asks isSpent))
      · rw [after]
        exact .inr (.inr (List.mem_append_right _ later))
  · exact ⟨new, there, .inl (.inr drops)⟩

end Steps

variable {setup : Setup} {moves : List Move} {last : Session}

theorem admissions_history_concat {origin session : Session}
    (ran : origin.run? moves = some session) (move : Move) :
    admissions (origin.history (moves ++ [move])) =
      admissions (origin.history moves) ++
        (session.leaves move).filterMap Look.askedBy? := by
  rw [history_concat ran]
  cases isLook : session.look? move with
  | none => simp [leaves, isLook]
  | some look => simp [admissions_concat, leaves, isLook, Look.admitted]

theorem localPeer_not_admitted_of_run
    (ran : (start setup).run? moves = some last) :
    setup.localPeer ∉ admissions ((start setup).history moves) :=
  history_induction
    (motive := fun history _ => setup.localPeer ∉ admissions history)
    (by simp [admissions])
    (fun known look sameSetup notYet => by
      rw [admissions_concat, List.mem_append, not_or]
      exact ⟨notYet, fun admitted =>
        Look.ne_localPeer_of_admitted admitted (sameSetup ▸ rfl)⟩) ran

theorem requests_of_run (ran : (start setup).run? moves = some last) :
    ∀ letter ∈ last.attempts, setup.Requests letter := by
  have same : last.party.setup = setup := setup_of_run ran
  rw [← same]
  exact run_induction (motive := fun _ session =>
      ∀ letter ∈ session.attempts, session.party.setup.Requests letter)
    (by simp [start]) (fun _ _ _ _ _ requests step => step.requests requests) ran

/-- Who takes part was admitted by one command, and its request was attempted or
is still with the call of that command, unless that call was given up. -/
theorem entrusted_of_run (role : setup.role = .primary)
    (ran : (start setup).run? moves = some last) {peer : PeerId}
    (involved : last.party.tally.Involves peer) :
    ∃ earlier command later session,
      moves = earlier ++ .start command :: later ∧
      (start setup).run? earlier = some session ∧
      ¬ session.party.tally.Involves peer ∧
      (session.launch command).party.tally.Involves peer ∧
      last.Entrusted session.calls.length peer
        (.abandon session.calls.length ∈ later) := by
  revert involved
  refine run_induction_on_moves (motive := fun moves last =>
    last.party.tally.Involves peer → ∃ earlier command later session,
      moves = earlier ++ .start command :: later ∧
      (start setup).run? earlier = some session ∧
      ¬ session.party.tally.Involves peer ∧
      (session.launch command).party.tally.Involves peer ∧
      last.Entrusted session.calls.length peer
        (.abandon session.calls.length ∈ later)) ?_ ?_ ran
  · intro involved
    simp [start, Party.start, Tally.start, Tally.Involves] at involved
  · intro before session move next ranBefore known moved involved
    have step := step_of_move? moved
    by_cases already : session.party.tally.Involves peer
    · obtain ⟨earlier, command, later, admitting, rfl, ranEarlier, new, admitted,
        entrusted⟩ := known already
      refine ⟨earlier, command, later ++ [move], admitting, by simp, ranEarlier,
        new, admitted, ?_⟩
      obtain ⟨call, here, stands⟩ := step.exchange.entrusted entrusted
      exact ⟨call, here, stands.imp_left (by simp [eq_comm])⟩
    · have ranNext : (start setup).run? (before ++ [move]) = some next := by
        rw [run?_concat, ranBefore]
        exact moved
      have admitted := (tells_of_run role ranNext).involves_iff.1 involved
      rw [admissions_history_concat ranBefore, List.mem_append] at admitted
      have isNew := admitted.resolve_left fun earlier =>
        already ((tells_of_run role ranBefore).involves_iff.2 earlier)
      have isLeft := Look.mem_filterMap_askedBy?.1 isNew
      obtain ⟨command, rfl, rfl⟩ := step.launched_of_leaves isLeft
      obtain ⟨call, calls, takes⟩ := exists_launched session command
      refine ⟨before, command, [], session, rfl, ranBefore, already, involved,
        call, by simp [calls], ?_⟩
      rw [takes]
      exact .inr (.inr isLeft)

/-- Whatever calls overlap on the primary and whoever joins, departs, votes or
cannot be reached: no peer is asked twice, only who takes part is asked, and the
local peer neither takes part nor is asked.  Every request names the local peer,
the object and the payload.  And everyone who takes part was admitted by one
command, whose call does not return before it has asked, unless it is given
up. -/
theorem admitted_peers_asked_once (role : setup.role = .primary)
    (ran : (start setup).run? moves = some last) :
    last.asked.Nodup ∧
    (∀ peer ∈ last.asked, last.party.tally.Involves peer) ∧
    ¬ last.party.tally.Involves setup.localPeer ∧
    (∀ letter ∈ last.attempts, setup.Requests letter) ∧
    ∀ peer, last.party.tally.Involves peer →
      ∃ earlier command later session call,
        moves = earlier ++ .start command :: later ∧
        (start setup).run? earlier = some session ∧
        ¬ session.party.tally.Involves peer ∧
        (session.launch command).party.tally.Involves peer ∧
        last.calls[session.calls.length]? = some call ∧
        (call.hasReturned = true →
          .abandon session.calls.length ∉ later → peer ∈ last.asked) := by
  have tells := tells_of_run role ran
  have among := (asked_of_run ran).1
  refine ⟨?_, ?_, ?_, requests_of_run ran, ?_⟩
  · obtain ⟨admitted, same, sub⟩ := among
    exact same.nodup_iff.1 (tells.admittedOnce.sublist sub)
  · exact fun peer isAsked => tells.involves_iff.2 (among.subset isAsked)
  · exact fun involved =>
      localPeer_not_admitted_of_run ran (tells.involves_iff.1 involved)
  · intro peer involved
    obtain ⟨earlier, command, later, session, split, ranEarlier, new, admitted,
      call, here, stands⟩ := entrusted_of_run role ran involved
    refine ⟨earlier, command, later, session, call, split, ranEarlier, new,
      admitted, here, fun returned notGiven => ?_⟩
    have owesNothing := Call.owed_of_hasReturned returned
    simpa [notGiven, owesNothing] using stands

/-- Peers that were asked join again, one of them after its vote, and so does
the local peer; the creation is begun twice. -/
def rejoiningMoves : List Move :=
  [.start (.lead (.connected [⟨"home"⟩, ⟨"near"⟩, ⟨"far"⟩])),
    .begin 0,
    .start (.handle (.memberJoined ⟨"far"⟩) .disconnected),
    .finish 0 (.ok ()),
    .begin 0,
    .finish 0 (.ok ()),
    .start (.handle (.voteReceived ⟨⟨"near"⟩, ⟨"doc"⟩, 1, none⟩) .disconnected),
    .start (.handle (.memberJoined ⟨"near"⟩) .disconnected),
    .start (.handle (.memberJoined ⟨"home"⟩) .disconnected),
    .start (.handle .activated (.connected [⟨"near"⟩, ⟨"far"⟩]))]

theorem rejoining_peers_asked_once :
    ∃ session, (start (.primary ⟨"doc"⟩ ⟨"home"⟩)).run? rejoiningMoves =
        some session ∧
      (Setup.primary ⟨"doc"⟩ ⟨"home"⟩).role = .primary ∧
      session.asked.Nodup ∧ ⟨"near"⟩ ∈ session.asked ∧
      ⟨"far"⟩ ∈ session.asked ∧ ¬ session.party.tally.Involves ⟨"home"⟩ := by
  have run : ((start (.primary ⟨"doc"⟩ ⟨"home"⟩)).run? rejoiningMoves).map
      (fun session => (session.isIdle, session.party.tally.acknowledged,
        session.party.tally.outstanding.toList)) =
        some (true, [⟨"near"⟩], [⟨"far"⟩]) := by rfl
  obtain ⟨session, ran, observed⟩ := Option.map_eq_some_iff.1 run
  simp only [Prod.mk.injEq] at observed
  obtain ⟨idle, acknowledged, outstanding⟩ := observed
  have role : (Setup.primary ⟨"doc"⟩ ⟨"home"⟩).role = .primary := rfl
  obtain ⟨once, -, noHome, -, admitted⟩ := admitted_peers_asked_once role ran
  have asked (peer : PeerId) (involved : session.party.tally.Involves peer) :
      peer ∈ session.asked := by
    obtain ⟨earlier, command, later, admitting, call, split, -, -, -, here,
      returns⟩ := admitted peer involved
    apply returns (List.all_eq_true.1 idle call (List.mem_of_getElem? here))
    intro given
    have isMove : Move.abandon admitting.calls.length ∈ rejoiningMoves := by
      simp [split, given]
    simp [rejoiningMoves] at isMove
  refine ⟨session, ran, role, once, asked _ (.inr (.inl ?_)),
    asked _ (.inl ?_), noHome⟩
  · simp [acknowledged]
  · rw [← PeerSet.mem_toList, outstanding]
    simp

end Session

end CreationCommit
